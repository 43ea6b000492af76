import CtrlRecovery.Core.Ranking
import Mathlib.Data.List.Pairwise
import Mathlib.Order.OrderDual

/-!
# Hash chains

Rows of a chain name the hash of the row before them: `Linked prev hash start rs` says that the
first row names `start` and every other one its predecessor's hash.

Where the hash of a row determines what the row names, and is never `start`, the rows of a chain
have different hashes (`Linked.nodup`), and the only chains that can be made of them are the
prefixes of the chain (`Linked.prefix_of_subset`): a chain commits to its order and to every row but
the last ones.
-/

namespace Core

variable {ρ η : Type*} {prev hash : ρ → η} {start : η} {rs rs' : List ρ} {r : ρ}

/-- Each row names the hash of the row before it, the first one `start`. -/
def Linked (prev hash : ρ → η) : η → List ρ → Prop
  | _, []          => True
  | start, r :: rs => prev r = start ∧ Linked prev hash (hash r) rs

def lastHash (hash : ρ → η) : η → List ρ → η
  | start, []  => start
  | _, r :: rs => lastHash hash (hash r) rs

@[simp] lemma linked_nil : Linked prev hash start [] := trivial

@[simp] lemma linked_cons :
    Linked prev hash start (r :: rs) ↔ prev r = start ∧ Linked prev hash (hash r) rs := Iff.rfl

instance Linked.instDecidable [DecidableEq η] :
    ∀ (start : η) (rs : List ρ), Decidable (Linked prev hash start rs)
  | _, []          => isTrue trivial
  | start, r :: rs =>
    have : Decidable (Linked prev hash (hash r) rs) := Linked.instDecidable (hash r) rs
    inferInstanceAs (Decidable (prev r = start ∧ Linked prev hash (hash r) rs))

lemma linked_append_singleton :
    Linked prev hash start (rs ++ [r]) ↔
      Linked prev hash start rs ∧ prev r = lastHash hash start rs := by
  induction rs generalizing start with
  | nil => simp [lastHash]
  | cons s rs ih => rw [List.cons_append, linked_cons, linked_cons, ih, lastHash, and_assoc]

lemma Linked.of_prefix (h : Linked prev hash start rs) (hpre : rs' <+: rs) :
    Linked prev hash start rs' := by
  induction rs' generalizing start rs with
  | nil => trivial
  | cons r rs' ih =>
    cases rs with
    | nil => simp at hpre
    | cons s rs =>
      obtain ⟨rfl, hrest⟩ := List.cons_prefix_cons.mp hpre
      exact ⟨h.1, ih h.2 hrest⟩

lemma linked_map {α : Type*} {f : α → ρ} {l : List α} :
    Linked prev hash start (l.map f) ↔ Linked (prev ∘ f) (hash ∘ f) start l := by
  induction l generalizing start with
  | nil => rfl
  | cons a l ih => rw [List.map_cons, linked_cons, linked_cons, ih, Function.comp_apply,
      Function.comp_apply]

lemma linked_iff_links :
    Linked prev hash start rs ↔
      Linked Prod.fst Prod.snd start (rs.map fun r => (prev r, hash r)) := by
  rw [linked_map]
  rfl

/-- A row names `start` or the hash of a row. -/
lemma Linked.prev_mem (h : Linked prev hash start rs) (hr : r ∈ rs) :
    prev r = start ∨ ∃ s ∈ rs, prev r = hash s := by
  induction rs generalizing start with
  | nil => simp at hr
  | cons s rs ih =>
    rcases List.mem_cons.mp hr with rfl | hr
    · exact .inl h.1
    · rcases ih h.2 hr with hs | ⟨t, ht, hs⟩
      · exact .inr ⟨s, List.mem_cons_self, hs⟩
      · exact .inr ⟨t, List.mem_cons_of_mem s ht, hs⟩

/-! ### Chains without collisions -/

/-- The hash of a row determines what the row names, and is never `start`. -/
structure Binding (prev hash : ρ → η) (start : η) (rs : List ρ) : Prop where
  prev_eq : ∀ r ∈ rs, ∀ s ∈ rs, hash r = hash s → prev r = prev s
  ne_start : ∀ r ∈ rs, hash r ≠ start

/-- No row but the first names `start`. -/
lemma Linked.prev_ne_start (h : Linked prev hash start (r :: rs))
    (hb : Binding prev hash start (r :: rs)) {s : ρ} (hs : s ∈ rs) : prev s ≠ start := by
  rcases h.2.prev_mem hs with hprev | ⟨t, ht, hprev⟩
  · rw [hprev]
    exact hb.ne_start r List.mem_cons_self
  · rw [hprev]
    exact hb.ne_start t (List.mem_cons_of_mem r ht)

lemma Binding.tail (hb : Binding prev hash start (r :: rs))
    (h : Linked prev hash start (r :: rs)) : Binding prev hash (hash r) rs := by
  constructor
  · intro s hs t ht
    exact hb.prev_eq s (List.mem_cons_of_mem r hs) t (List.mem_cons_of_mem r ht)
  · intro s hs heq
    have hprev : prev s = prev r :=
      hb.prev_eq s (List.mem_cons_of_mem r hs) r List.mem_cons_self heq
    exact h.prev_ne_start hb hs (hprev.trans h.1)

/-- The hashes of a binding chain are different. -/
theorem Linked.nodup (h : Linked prev hash start rs) (hb : Binding prev hash start rs) :
    (rs.map hash).Nodup := by
  induction rs generalizing start with
  | nil => exact List.nodup_nil
  | cons r rs ih =>
    have htail := hb.tail h
    rw [List.map_cons, List.nodup_cons]
    refine ⟨fun hmem => ?_, ih h.2 htail⟩
    obtain ⟨s, hs, heq⟩ := List.mem_map.mp hmem
    exact htail.ne_start s hs heq

/-- The chains made of rows of a binding chain are its prefixes. -/
theorem Linked.prefix_of_subset (h : Linked prev hash start rs) (hb : Binding prev hash start rs)
    (h' : Linked prev hash start rs') (hsub : rs' ⊆ rs) : rs' <+: rs := by
  induction rs' generalizing start rs with
  | nil => exact List.nil_prefix
  | cons x rs' ih =>
    have hx : x ∈ rs := hsub List.mem_cons_self
    cases rs with
    | nil => simp at hx
    | cons r rs =>
      -- the first row is the only one that names `start`
      obtain rfl : x = r := by
        rcases List.mem_cons.mp hx with rfl | hx
        · rfl
        · exact absurd h'.1 (h.prev_ne_start hb hx)
      have hrest : rs' ⊆ rs := by
        intro s hs
        rcases List.mem_cons.mp (hsub (List.mem_cons_of_mem x hs)) with rfl | hs'
        · have hb' : Binding prev hash start (s :: rs') :=
            ⟨fun a ha b hb' => hb.prev_eq a (hsub ha) b (hsub hb'),
              fun a ha => hb.ne_start a (hsub ha)⟩
          exact absurd h'.1 (h'.prev_ne_start hb' hs)
        · exact hs'
      exact List.cons_prefix_cons.mpr ⟨rfl, ih h.2 (hb.tail h) h'.2 hrest⟩

/-- Two arrangements of the links of a binding chain are both chains only if they are the same. -/
theorem Linked.links_eq (h : Linked prev hash start rs) (hb : Binding prev hash start rs)
    (h' : Linked prev hash start rs')
    (hperm : (rs'.map fun r => (prev r, hash r)).Perm (rs.map fun r => (prev r, hash r))) :
    (rs'.map fun r => (prev r, hash r)) = rs.map fun r => (prev r, hash r) := by
  have hb' : Binding Prod.fst Prod.snd start (rs.map fun r => (prev r, hash r)) := by
    constructor
    · intro p hp q hq heq
      obtain ⟨r, hr, rfl⟩ := List.mem_map.mp hp
      obtain ⟨s, hs, rfl⟩ := List.mem_map.mp hq
      exact hb.prev_eq r hr s hs heq
    · intro p hp
      obtain ⟨r, hr, rfl⟩ := List.mem_map.mp hp
      exact hb.ne_start r hr
  have hpre := (linked_iff_links.mp h).prefix_of_subset hb' (linked_iff_links.mp h') hperm.subset
  exact hpre.eq_of_length hperm.length_eq

/-- Two arrangements of the same rows agree when their images do, and the images tell the rows
apart. -/
lemma eq_of_perm_of_map_eq {α : Type*} {f : ρ → α} (hperm : rs.Perm rs')
    (hmap : rs.map f = rs'.map f) (hnodup : (rs'.map f).Nodup) : rs = rs' := by
  apply List.ext_getElem hperm.length_eq
  intro i hi hi'
  have hf : f rs[i] = f rs'[i] := by
    have hget := List.getElem_of_eq hmap (by rwa [List.length_map])
    simpa using hget
  exact List.inj_on_of_nodup_map hnodup (hperm.mem_iff.mp (List.getElem_mem hi))
    (List.getElem_mem hi') hf

/-- What a filter keeps of a list is a prefix of it when nothing kept comes after something dropped.
-/
lemma filter_prefix_iff {p : ρ → Bool} : rs.filter p <+: rs ↔ rs.Pairwise fun r s => p s → p r := by
  induction rs with
  | nil => simp
  | cons r rs ih =>
    by_cases hr : p r
    · rw [List.filter_cons_of_pos hr, List.cons_prefix_cons, List.pairwise_cons, ih]
      simp [hr]
    · rw [List.filter_cons_of_neg hr, List.pairwise_cons]
      constructor
      · intro hpre
        have hnone : rs.filter p = [] := by
          cases hfilter : rs.filter p with
          | nil => rfl
          | cons s kept =>
            rw [hfilter] at hpre
            obtain ⟨rfl, -⟩ := List.cons_prefix_cons.mp hpre
            exact absurd (List.of_mem_filter (hfilter ▸ List.mem_cons_self)) hr
        have hdropped : ∀ s ∈ rs, ¬ p s := List.filter_eq_nil_iff.mp hnone
        refine ⟨fun s hs hps => absurd hps (hdropped s hs), ih.mp ?_⟩
        rw [hnone]
        exact List.nil_prefix
      · rintro ⟨hdropped, -⟩
        have hnone : rs.filter p = [] :=
          List.filter_eq_nil_iff.mpr fun s hs hps => hr (hdropped s hs hps)
        rw [hnone]
        exact List.nil_prefix

/-! ### Rows in ascending order -/

section Ascending

variable {ι : Type*} [LinearOrder ι] {key : ρ → ι}

def ascending (key : ρ → ι) (rs : List ρ) : List ρ := rank (fun r => OrderDual.toDual (key r)) rs

lemma ascending_perm (key : ρ → ι) (rs : List ρ) : (ascending key rs).Perm rs := rank_perm _ rs

@[simp] lemma mem_ascending : r ∈ ascending key rs ↔ r ∈ rs := mem_rank

lemma ascending_filter (p : ρ → Bool) (rs : List ρ) :
    ascending key (rs.filter p) = (ascending key rs).filter p := rank_filter p rs

/-- The last row has the greatest key. -/
lemma getLast?_ascending (h : (ascending key rs).getLast? = some r) :
    r ∈ rs ∧ ∀ s ∈ rs, key s ≤ key r := by
  obtain ⟨init, hinit⟩ := List.getLast?_eq_some_iff.mp h
  have hsorted := pairwise_rank (fun r => OrderDual.toDual (key r)) rs
  rw [← ascending, hinit, List.pairwise_append] at hsorted
  have hmem : ∀ s, s ∈ rs ↔ s ∈ init ++ [r] := by
    intro s
    rw [← hinit, mem_ascending]
  constructor
  · rw [hmem]
    simp
  · intro s hs
    rw [hmem, List.mem_append, List.mem_singleton] at hs
    rcases hs with hs | rfl
    · exact hsorted.2.2 s hs r (List.mem_singleton.mpr rfl)
    · exact le_rfl

lemma pairwise_ascending (h : (rs.map key).Nodup) :
    (ascending key rs).Pairwise fun r s => key r < key s := by
  have hle := pairwise_rank (fun r => OrderDual.toDual (key r)) rs
  have hne : (ascending key rs).Pairwise fun r s => key r ≠ key s := by
    rw [← List.pairwise_map, ← List.nodup_iff_pairwise_ne]
    exact (((ascending_perm key rs).map key).nodup_iff).mpr h
  refine (hle.and hne).imp ?_
  rintro r s ⟨hrs, hne⟩
  exact lt_of_le_of_ne hrs hne

/-- In strictly ascending rows, what holds of earlier and later rows holds of rows of smaller and
greater key. -/
lemma rel_of_lt {R : ρ → ρ → Prop} (hsorted : rs.Pairwise fun r s => key r < key s)
    (hR : rs.Pairwise R) {s : ρ} (hr : r ∈ rs) (hs : s ∈ rs) (hlt : key r < key s) : R r s := by
  have hboth : rs.Pairwise fun a b => (key a < key b → R a b) ∧ (key b < key a → R b a) := by
    refine (hsorted.and hR).imp ?_
    rintro a b ⟨hab, h⟩
    exact ⟨fun _ => h, fun hba => absurd hab (lt_asymm hba)⟩
  have : Std.Symm fun a b => (key a < key b → R a b) ∧ (key b < key a → R b a) :=
    ⟨fun _ _ h => h.symm⟩
  have hne : r ≠ s := by
    rintro rfl
    exact lt_irrefl _ hlt
  exact (hboth.forall hr hs hne).1 hlt

lemma eq_ascending (h : (rs.map key).Nodup) (hperm : rs'.Perm rs)
    (hsorted : rs'.Pairwise fun r s => key r < key s) : rs' = ascending key rs := by
  apply (hperm.trans (ascending_perm key rs).symm).eq_of_pairwise _ hsorted (pairwise_ascending h)
  intro r s _ _ hrs hsr
  exact absurd hrs (lt_asymm hsr)

/-- A row that comes after all others is put at the end. -/
lemma ascending_append_singleton (h : (rs.map key).Nodup) (hlast : ∀ s ∈ rs, key s < key r) :
    ascending key (rs ++ [r]) = ascending key rs ++ [r] := by
  symm
  apply eq_ascending
  · rw [List.map_append, List.nodup_append]
    refine ⟨h, by simp, fun a ha b hb => ?_⟩
    obtain ⟨s, hs, rfl⟩ := List.mem_map.mp ha
    rw [List.map_singleton, List.mem_singleton] at hb
    rw [hb]
    exact (hlast s hs).ne
  · exact (ascending_perm key rs).append_right [r]
  · rw [List.pairwise_append]
    refine ⟨pairwise_ascending h, by simp, fun s hs t ht => ?_⟩
    rw [List.mem_singleton] at ht
    rw [ht]
    exact hlast s (mem_ascending.mp hs)

end Ascending

end Core
