import Mathlib.Algebra.BigOperators.Group.List.Basic
import Mathlib.Algebra.Order.Group.Defs
import Mathlib.Data.List.Sort

/-!
# Stable ranking

`rank f l` lists the elements of `l` by non-increasing value of `f`; elements of equal value stay in
the order of `l`. It is the result of a stable sort with the comparison `f b - f a`.

Ranking commutes with `filter` and with `map`. It follows that ranking what is left after the best
`c` elements were taken out gives the rest of the ranking (`rank_filter_notMem_take`). For
non-negative values, taking the best `c` maximises the sum (`sum_le_sum_take_rank`).
-/

namespace Core

variable {α β ι : Type*} [LinearOrder ι] {f : α → ι}

/-- The elements of a list by non-increasing value of `f`, stably. -/
def rank (f : α → ι) (l : List α) : List α := l.insertionSort fun a b => f b ≤ f a

lemma rank_perm (f : α → ι) (l : List α) : (rank f l).Perm l := List.perm_insertionSort _ l

@[simp] lemma mem_rank {l : List α} {a : α} : a ∈ rank f l ↔ a ∈ l := List.mem_insertionSort _

@[simp] lemma length_rank (l : List α) : (rank f l).length = l.length :=
  List.length_insertionSort _ l

lemma pairwise_rank (f : α → ι) (l : List α) : (rank f l).Pairwise fun a b => f b ≤ f a := by
  have : Std.Total fun a b : α => f b ≤ f a := ⟨fun a b => le_total (f b) (f a)⟩
  have : IsTrans α fun a b : α => f b ≤ f a := ⟨fun _ _ _ hab hbc => hbc.trans hab⟩
  exact List.pairwise_insertionSort _ l

lemma rank_map (g : β → α) (l : List β) : rank f (l.map g) = (rank (f ∘ g) l).map g :=
  (List.map_insertionSort _ _ g l fun _ _ _ _ => Iff.rfl).symm

lemma rank_congr {g : α → ι} {l : List α} (h : ∀ a ∈ l, f a = g a) : rank f l = rank g l := by
  have := List.map_insertionSort (fun a b : α => f b ≤ f a) (fun a b => g b ≤ g a) id l
    fun a ha b hb => by rw [h a ha, h b hb]; rfl
  simpa [rank] using this

/-! ### Ranking and filtering -/

/-- In a ranked list, a filter commutes with the insertion of an element that it keeps. -/
lemma filter_orderedInsert (p : α → Bool) {a : α} (ha : p a) {l : List α}
    (hl : l.Pairwise fun a b => f b ≤ f a) :
    (l.orderedInsert (fun a b => f b ≤ f a) a).filter p =
      (l.filter p).orderedInsert (fun a b => f b ≤ f a) a := by
  induction l with
  | nil => simp [ha]
  | cons b l ih =>
    obtain ⟨hb, hl'⟩ := List.pairwise_cons.mp hl
    by_cases hab : f b ≤ f a
    · rw [List.orderedInsert_cons_of_le (fun a b => f b ≤ f a) l hab, List.filter_cons_of_pos ha]
      -- `a` goes in front: everything after it, and so everything the filter keeps, is no larger
      cases h : (b :: l).filter p with
      | nil => rfl
      | cons c m =>
        have hc : c ∈ b :: l := List.mem_of_mem_filter (h ▸ List.mem_cons_self)
        have hca : f c ≤ f a := by
          rcases List.mem_cons.mp hc with rfl | hc
          · exact hab
          · exact (hb c hc).trans hab
        rw [List.orderedInsert_cons_of_le (fun a b => f b ≤ f a) m hca]
    · rw [List.orderedInsert_of_not_le (fun a b => f b ≤ f a) l hab]
      by_cases hpb : p b
      · rw [List.filter_cons_of_pos hpb, List.filter_cons_of_pos hpb, ih hl',
          List.orderedInsert_of_not_le (fun a b => f b ≤ f a) _ hab]
      · rw [List.filter_cons_of_neg hpb, List.filter_cons_of_neg hpb, ih hl']

lemma filter_orderedInsert_of_neg (r : α → α → Prop) [DecidableRel r] (p : α → Bool) {a : α}
    (ha : ¬ p a) (l : List α) : (l.orderedInsert r a).filter p = l.filter p := by
  induction l with
  | nil => simp [ha]
  | cons b l ih =>
    rw [List.orderedInsert_cons]
    split_ifs
    · rw [List.filter_cons_of_neg ha]
    · simp only [List.filter_cons, ih]

theorem rank_filter (p : α → Bool) (l : List α) : rank f (l.filter p) = (rank f l).filter p := by
  induction l with
  | nil => rfl
  | cons a l ih =>
    have hcons : rank f (a :: l) = (rank f l).orderedInsert (fun a b => f b ≤ f a) a := rfl
    by_cases ha : p a
    · rw [List.filter_cons_of_pos ha, hcons, filter_orderedInsert p ha (pairwise_rank f l), ← ih]
      rfl
    · rw [List.filter_cons_of_neg ha, hcons, filter_orderedInsert_of_neg _ p ha, ih]

lemma eq_iff_length_eq {α : Type*} {xs ys zs : List α} (hx : xs <+: zs) (hy : ys <+: zs) :
    xs = ys ↔ xs.length = ys.length := by
  constructor
  · rintro rfl
    rfl
  · intro h
    exact (List.prefix_of_prefix_length_le hx hy h.le).eq_of_length h

/-! ### Positions -/

section Positions

variable {r : α → α → Prop} [DecidableRel r] {l : List α} {a : α}

/-- The first `c` elements are those that fewer than `c` elements come before. -/
lemma mem_take_iff_countP_lt (hr : ∀ a b, r a b → ¬ r b a) (hl : l.Pairwise r) {c : ℕ} :
    a ∈ l.take c ↔ a ∈ l ∧ l.countP (r · a) < c := by
  induction l generalizing c with
  | nil => simp
  | cons b l ih =>
    obtain ⟨hb, hl'⟩ := List.pairwise_cons.mp hl
    cases c with
    | zero => simp
    | succ c =>
      rw [List.take_succ_cons, List.mem_cons, ih hl', List.mem_cons, List.countP_cons]
      by_cases ha : a = b
      · subst ha
        have hnone : l.countP (r · a) = 0 := by
          rw [List.countP_eq_zero]
          intro b' hb'
          simpa using hr _ _ (hb b' hb')
        have hself : ¬ r a a := fun h => hr a a h h
        simp [hnone, hself]
      · simp only [ha, false_or]
        refine and_congr_right fun hmem => ?_
        simp [hb a hmem]

/-- In a list where whatever comes before an element with a property has it as well, an element has
the property exactly when its index is below the number of those that have. -/
lemma lt_countP_iff {p : α → Bool} (hl : l.Pairwise fun a b => p b → p a) {i : ℕ}
    (hi : i < l.length) : i < l.countP p ↔ p l[i] := by
  induction l generalizing i with
  | nil => cases hi
  | cons b l ih =>
    obtain ⟨hb, hl'⟩ := List.pairwise_cons.mp hl
    rw [List.countP_cons]
    cases i with
    | zero =>
      by_cases hp : p b
      · simp [hp]
      · have hnone : l.countP p = 0 := List.countP_eq_zero.mpr fun a ha hpa => hp (hb a ha hpa)
        simp [hp, hnone]
    | succ i =>
      have hi' : i < l.length := Nat.lt_of_succ_lt_succ hi
      by_cases hp : p b
      · simp [hp, ih hl' hi']
      · have hnone : l.countP p = 0 := List.countP_eq_zero.mpr fun a ha hpa => hp (hb a ha hpa)
        have hnot : ¬ p l[i] := fun h => hp (hb _ (List.getElem_mem hi') h)
        simp [hp, hnone, hnot]

end Positions

/-- Among the elements that a filter keeps, the value at an index passes an upward closed test exactly
when more elements than the index do. -/
lemma lt_countP_rank_iff {l : List α} {p : α → Bool} {q : ι → Bool}
    (hq : ∀ s t, s ≤ t → q s → q t) {i : ℕ} (hi : i < (rank f (l.filter p)).length) :
    i < l.countP (fun a => p a && q (f a)) ↔ q (f (rank f (l.filter p))[i]) := by
  have hdown : (rank f (l.filter p)).Pairwise fun a b => q (f b) → q (f a) :=
    (pairwise_rank f _).imp fun hab => hq _ _ hab
  rw [← lt_countP_iff (p := fun a => q (f a)) hdown hi, (rank_perm f _).countP_eq, List.countP_filter]
  simp only [Bool.and_comm]

/-- Two filters, one of them stricter, leave the same value at an index exactly when some bound is
reached by more elements than the index under the stricter one, and exceeded by no more under the
other. -/
theorem rank_filter_getElem_eq_iff {l : List α} {p q : α → Bool} (hqp : ∀ a, q a → p a) {i : ℕ}
    (hp : i < (rank f (l.filter p)).length) (hq : i < (rank f (l.filter q)).length) :
    f (rank f (l.filter p))[i] = f (rank f (l.filter q))[i] ↔
      ∃ t, i < l.countP (fun a => q a && t ≤ f a) ∧ l.countP (fun a => p a && t < f a) ≤ i := by
  have hreach (r : α → Bool) (t : ι) (hr : i < (rank f (l.filter r)).length) :
      i < l.countP (fun a => r a && t ≤ f a) ↔ t ≤ f (rank f (l.filter r))[i] := by
    simpa using lt_countP_rank_iff (q := fun s => decide (t ≤ s))
      (fun s s' hs h => by simpa using (of_decide_eq_true h).trans hs) hr
  have hexceed (t : ι) : l.countP (fun a => p a && t < f a) ≤ i ↔ f (rank f (l.filter p))[i] ≤ t := by
    rw [← not_lt, ← not_lt, not_iff_not]
    simpa using lt_countP_rank_iff (q := fun s => decide (t < s))
      (fun s s' hs h => by simpa using (of_decide_eq_true h).trans_le hs) hp
  have hle : f (rank f (l.filter q))[i] ≤ f (rank f (l.filter p))[i] := by
    rw [← hreach p _ hp]
    refine ((hreach q _ hq).mpr le_rfl).trans_le (List.countP_mono_left fun a _ ha => ?_)
    rw [Bool.and_eq_true] at ha ⊢
    exact ⟨hqp a ha.1, ha.2⟩
  simp only [hreach q _ hq, hexceed]
  exact ⟨fun heq => ⟨_, le_rfl, heq.le⟩, fun ⟨t, hge, hle'⟩ => (hle'.trans hge).antisymm hle⟩

section Order

variable [DecidableEq α] {l : List α} {a b : α}

/-- `a` is ranked before `b`: its value is larger, or the same and it is the earlier one. -/
def Before (f : α → ι) (l : List α) (a b : α) : Prop :=
  f b < f a ∨ f a = f b ∧ l.idxOf a < l.idxOf b

instance : DecidableRel (Before f l) := fun _ _ => inferInstanceAs (Decidable (_ ∨ _))

lemma Before.asymm (h : Before f l a b) : ¬ Before f l b a := by
  rintro (h' | ⟨heq', h'⟩) <;> rcases h with h | ⟨heq, h⟩
  · exact lt_asymm h h'
  · exact h'.ne heq
  · exact h.ne heq'
  · exact lt_asymm h h'

/-- In a list without duplicates two elements form a sublist when the indices increase. -/
lemma pair_sublist_iff (hl : l.Nodup) (hb : b ∈ l) : [a, b].Sublist l ↔ l.idxOf a < l.idxOf b := by
  induction l with
  | nil => cases hb
  | cons c l ih =>
    obtain ⟨hc, hl'⟩ := List.nodup_cons.mp hl
    rw [List.idxOf_cons, List.idxOf_cons]
    by_cases hbc : b = c
    · subst hbc
      have hnot : ¬ [a, b].Sublist (b :: l) := by
        intro h
        rcases List.sublist_cons_iff.mp h with h | ⟨r, hr, h⟩
        · exact hc (h.subset (by simp))
        · obtain ⟨-, rfl⟩ := List.cons.inj hr
          exact hc (h.subset (by simp))
      simp [hnot]
    · have hbl : b ∈ l := (List.mem_cons.mp hb).resolve_left hbc
      have hcb : (c == b) = false := beq_false_of_ne (Ne.symm hbc)
      by_cases hac : a = c
      · subst hac
        simp [hcb, hbl]
      · have hca : (c == a) = false := beq_false_of_ne (Ne.symm hac)
        rw [hca, hcb, cond_false, cond_false, Nat.succ_lt_succ_iff, ← ih hl' hbl,
          List.sublist_cons_iff]
        simp [hac]

/-- Equal values keep their order. -/
lemma pairwise_before_rank (hl : l.Nodup) : (rank f l).Pairwise (Before f l) := by
  have hrank : (rank f l).Nodup := (rank_perm f l).nodup_iff.mpr hl
  refine List.pairwise_iff_forall_sublist.mpr fun {a b} hab => ?_
  have hle : f b ≤ f a := List.pairwise_iff_forall_sublist.mp (pairwise_rank f l) hab
  refine hle.lt_or_eq.imp_right fun heq => ⟨heq.symm, ?_⟩
  have ha : a ∈ l := mem_rank.mp (hab.subset (by simp))
  have hb : b ∈ l := mem_rank.mp (hab.subset (by simp))
  have hindex := (pair_sublist_iff hrank (mem_rank.mpr hb)).mp hab
  by_contra hnot
  rcases (not_lt.mp hnot).lt_or_eq with hba | hsame
  · -- otherwise the ranking would keep their order in the list, which is the other one
    have hsub := List.pair_sublist_insertionSort (r := fun a b => f b ≤ f a) heq.ge
      ((pair_sublist_iff hl ha).mpr hba)
    exact lt_asymm hindex ((pair_sublist_iff hrank (mem_rank.mpr ha)).mp hsub)
  · rw [(List.idxOf_inj hb).mp hsame] at hindex
    exact lt_irrefl _ hindex

/-- Of the elements that a filter keeps, the best `c` are those that fewer than `c` others are ranked
before. -/
theorem mem_take_rank_filter_iff (hl : l.Nodup) (p : α → Bool) {c : ℕ} :
    a ∈ (rank f (l.filter p)).take c ↔
      (a ∈ l ∧ p a) ∧ l.countP (fun b => p b && Before f l b a) < c := by
  rw [rank_filter, mem_take_iff_countP_lt (fun _ _ => Before.asymm)
    ((pairwise_before_rank hl).filter p), List.mem_filter, mem_rank, List.countP_filter,
    (rank_perm f l).countP_eq]
  simp only [Bool.and_comm]

/-- How many of the elements with a property are ranked before one. -/
def ahead (f : α → ι) (l : List α) (p : α → Bool) (a : α) : ℕ :=
  l.countP fun b => p b && Before f l b a

/-- In a list without duplicates, the first `c` elements are those of an index below `c`. -/
lemma getElem_mem_take_iff (hl : l.Nodup) {i c : ℕ} (hi : i < l.length) :
    l[i] ∈ l.take c ↔ i < c := by
  rw [List.mem_take_iff_idxOf_lt (List.getElem_mem hi), hl.idxOf_getElem i hi]

lemma ahead_getElem_rank (hl : l.Nodup) {p : α → Bool} {i : ℕ}
    (hi : i < (rank f (l.filter p)).length) : ahead f l p (rank f (l.filter p))[i] = i := by
  have hnodup : (rank f (l.filter p)).Nodup := (rank_perm f _).nodup_iff.mpr (hl.filter p)
  have hmem := List.mem_filter.mp (mem_rank.mp (List.getElem_mem hi))
  refine eq_of_forall_gt_iff fun c => ?_
  have htake := mem_take_rank_filter_iff (f := f) (a := (rank f (l.filter p))[i]) hl p (c := c)
  rw [getElem_mem_take_iff hnodup hi, and_iff_right hmem] at htake
  exact htake.symm

/-- A list is cut off at `c` and then filtered: of what the filter keeps, an element is left when fewer
than `c` elements of the list come before it. -/
lemma lt_countP_take_iff (hl : l.Nodup) {p q : α → Bool} {i c : ℕ}
    (hi : i < (rank f (l.filter fun a => q a && p a)).length) :
    i < ((rank f (l.filter p)).take c).countP q ↔
      ahead f l p (rank f (l.filter fun a => q a && p a))[i] < c := by
  set kept := rank f (l.filter fun a => q a && p a) with hkept
  have hfilter : (rank f (l.filter p)).filter q = kept := by
    rw [← rank_filter, List.filter_filter]
  have hnodup : kept.Nodup := (rank_perm f _).nodup_iff.mpr (hl.filter _)
  have hcut : ((rank f (l.filter p)).take c).filter q =
      kept.take (((rank f (l.filter p)).take c).countP q) := by
    rw [List.countP_eq_length_filter, ← List.prefix_iff_eq_take, ← hfilter]
    exact (List.take_prefix ..).filter q
  obtain ⟨hmem, hqp⟩ := List.mem_filter.mp (mem_rank.mp (List.getElem_mem hi))
  obtain ⟨hq, hp⟩ := Bool.and_eq_true_iff.mp hqp
  rw [← getElem_mem_take_iff hnodup hi, ← hcut, List.mem_filter, and_iff_left hq,
    mem_take_rank_filter_iff hl, and_iff_right ⟨hmem, hp⟩, ahead]

end Order

/-! ### Rounds of taking the best -/

/-- An indexed map whose results are told apart, under `k`, only by whether the index is below
`c`. -/
lemma map_mapIdx_eq_take_append {α β γ : Type*} {l : List α} {c : ℕ} {f : ℕ → α → β} {k : β → γ}
    {g h : α → γ} (hg : ∀ i a, i < c → k (f i a) = g a) (hh : ∀ i a, c ≤ i → k (f i a) = h a) :
    (l.mapIdx f).map k = (l.take c).map g ++ (l.drop c).map h := by
  induction l generalizing c f with
  | nil => simp
  | cons a l ih =>
    rw [List.mapIdx_cons, List.map_cons]
    cases c with
    | zero =>
      rw [ih (c := 0) (fun i a hi => absurd hi i.not_lt_zero)
        fun i a _ => hh (i + 1) a i.succ.zero_le, hh 0 a le_rfl]
      simp
    | succ c =>
      rw [ih (c := c) (fun i a hi => hg (i + 1) a (Nat.succ_lt_succ hi)) fun i a hi =>
        hh (i + 1) a (Nat.succ_le_succ hi), hg 0 a c.succ_pos]
      rfl

lemma countP_or_of_disjoint {α : Type*} {l : List α} {p q : α → Bool}
    (h : ∀ a ∈ l, ¬ (p a ∧ q a)) :
    l.countP (fun a => p a || q a) = l.countP p + l.countP q := by
  induction l with
  | nil => rfl
  | cons a l ih =>
    have ha := h a List.mem_cons_self
    rw [List.countP_cons, List.countP_cons, List.countP_cons,
      ih fun b hb => h b (List.mem_cons_of_mem _ hb)]
    cases hp : p a <;> cases hq : q a <;> simp_all <;> omega

/-- Among the elements of a list without repetition, those of a sublist without repetition are
counted by its length. -/
lemma countP_mem_and {α : Type*} [DecidableEq α] {l w : List α} (hl : l.Nodup) (hw : w.Nodup)
    (hsub : ∀ a ∈ w, a ∈ l) (p : α → Bool) :
    l.countP (fun a => decide (a ∈ w) && p a) = (w.filter p).length := by
  have hperm : (l.filter fun a => decide (a ∈ w) && p a).Perm (w.filter p) := by
    rw [List.perm_ext_iff_of_nodup (hl.filter _) (hw.filter _)]
    intro a
    simp only [List.mem_filter, Bool.and_eq_true, decide_eq_true_eq]
    exact ⟨fun h => h.2, fun h => ⟨hsub a h.1, h⟩⟩
  rw [List.countP_eq_length_filter, hperm.length_eq]

lemma filter_notMem_take [DecidableEq α] {l : List α} (hl : l.Nodup) (c : ℕ) :
    l.filter (fun a => a ∉ l.take c) = l.drop c := by
  have hdisj := List.disjoint_take_drop hl le_rfl (m := c) (n := c)
  conv_lhs => rw [← List.take_append_drop c l]
  rw [List.filter_append, List.take_append_drop]
  have htake : (l.take c).filter (fun a => a ∉ l.take c) = [] := by
    simp [List.filter_eq_nil_iff]
  have hdrop : (l.drop c).filter (fun a => a ∉ l.take c) = l.drop c := by
    rw [List.filter_eq_self]
    intro a ha
    simpa using fun hmem => hdisj hmem ha
  rw [htake, hdrop, List.nil_append]

/-- Ranking the elements that are not among the best `c` gives the ranking after its best `c`. -/
theorem rank_filter_notMem_take [DecidableEq α] {l : List α} (hl : l.Nodup) (c : ℕ) :
    rank f (l.filter fun a => a ∉ (rank f l).take c) = (rank f l).drop c := by
  rw [rank_filter, filter_notMem_take ((rank_perm f l).nodup_iff.mpr hl)]

/-! ### The sum of the best -/

section Sum

variable {G : Type*} [AddCommGroup G] [LinearOrder G] [IsOrderedAddMonoid G] {w : α → G}

/-- In a ranked list of non-negative values, a new best element in front makes up for the last
element that it pushes out. -/
lemma sum_take_le_sum_take_cons {a : α} {l : List α}
    (hl : (a :: l).Pairwise fun a b => w b ≤ w a) (hpos : ∀ b ∈ a :: l, 0 ≤ w b) (c : ℕ) :
    ((l.take c).map w).sum ≤ (((a :: l).take c).map w).sum := by
  cases c with
  | zero => simp
  | succ c =>
    rw [List.take_succ_cons, List.take_add_one, List.map_append, List.sum_append, List.map_cons,
      List.sum_cons, add_comm (w a)]
    apply add_le_add_right
    cases hlast : l[c]? with
    | none => simpa using hpos a List.mem_cons_self
    | some b => simpa using List.rel_of_pairwise_cons hl (List.mem_of_getElem? hlast)

/-- In a ranked list of non-negative values, no `c` elements weigh more than the first `c`. -/
lemma sum_le_sum_take_of_sublist {s l : List α} (h : s.Sublist l)
    (hl : l.Pairwise fun a b => w b ≤ w a) (hpos : ∀ b ∈ l, 0 ≤ w b) {c : ℕ} (hc : s.length ≤ c) :
    (s.map w).sum ≤ ((l.take c).map w).sum := by
  induction h generalizing c with
  | slnil => simp
  | cons a h ih =>
    have hle := ih (List.pairwise_cons.mp hl).2 (fun b hb => hpos b (List.mem_cons_of_mem a hb)) hc
    exact hle.trans (sum_take_le_sum_take_cons hl hpos c)
  | cons_cons a h ih =>
    cases c with
    | zero => simp at hc
    | succ c =>
      have hle := ih (List.pairwise_cons.mp hl).2 (fun b hb => hpos b (List.mem_cons_of_mem a hb))
        (Nat.le_of_succ_le_succ hc)
      simpa using hle

/-- Taking the best `c` maximises the sum over the choices of at most `c` elements. -/
theorem sum_le_sum_take_rank {s l : List α} (hs : s.Nodup) (hsub : s ⊆ l)
    (hpos : ∀ b ∈ l, 0 ≤ w b) {c : ℕ} (hc : s.length ≤ c) :
    (s.map w).sum ≤ (((rank w l).take c).map w).sum := by
  have hsubset : s ⊆ rank w l := fun a ha => mem_rank.mpr (hsub ha)
  obtain ⟨t, hperm, hsublist⟩ := List.subperm_of_subset hs hsubset
  rw [← (hperm.map w).sum_eq]
  apply sum_le_sum_take_of_sublist hsublist (pairwise_rank w l)
  · intro b hb
    exact hpos b (mem_rank.mp hb)
  · exact hperm.length_eq.trans_le hc

end Sum

end Core
