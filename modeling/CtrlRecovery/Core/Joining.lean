import Mathlib.Data.List.Basic

/-!
# Joined lists

Lists joined by a separator can be told from the result where none of them contains the start of the
separator (`intercalate_inj`). Where they may contain the element that the separator starts with, but
never twice in a row or at their end (`Undoubled`), lists with known labels can be told from what they
are joined to by a separator that starts with the element twice (`labelled_inj`).
-/

namespace Core

variable {α : Type*} {c d : α} {sep xs ys r s : List α}

/-! ### Separators that do not occur -/

/-- The end of the first list is where the separator starts. -/
lemma append_inj_of_notMem (hx : c ∉ xs) (hy : c ∉ ys) (hr : r = [] ∨ ∃ r', r = c :: r')
    (hs : s = [] ∨ ∃ s', s = c :: s') (h : xs ++ r = ys ++ s) : xs = ys ∧ r = s := by
  induction xs generalizing ys with
  | nil =>
    cases ys with
    | nil => exact ⟨rfl, h⟩
    | cons y ys =>
      obtain rfl | ⟨r', rfl⟩ := hr
      · simp at h
      · simp only [List.nil_append, List.cons_append, List.cons.injEq] at h
        exact absurd (h.1 ▸ List.mem_cons_self) hy
  | cons x xs ih =>
    cases ys with
    | nil =>
      obtain rfl | ⟨s', rfl⟩ := hs
      · simp at h
      · simp only [List.nil_append, List.cons_append, List.cons.injEq] at h
        exact absurd (h.1 ▸ List.mem_cons_self) hx
    | cons y ys =>
      simp only [List.cons_append, List.cons.injEq] at h
      obtain ⟨rfl, hrest⟩ := ih (fun h => hx (List.mem_cons_of_mem _ h))
        (fun h => hy (List.mem_cons_of_mem _ h)) h.2
      exact ⟨by rw [h.1], hrest⟩

lemma intercalate_cons (xs : List α) (xss : List (List α)) :
    sep.intercalate (xs :: xss) = xs ++ xss.flatMap (sep ++ ·) := by
  induction xss generalizing xs with
  | nil => simp
  | cons ys xss ih =>
    rw [List.intercalate_cons_cons, ih, List.flatMap_cons, List.append_assoc, List.append_assoc]

lemma mem_intercalate {xss : List (List α)} (h : d ∈ sep.intercalate xss) :
    d ∈ sep ∨ ∃ xs ∈ xss, d ∈ xs := by
  cases xss with
  | nil => cases h
  | cons xs xss =>
    rw [intercalate_cons, List.mem_append, List.mem_flatMap] at h
    obtain h | ⟨ys, hys, h⟩ := h
    · exact .inr ⟨xs, List.mem_cons_self, h⟩
    · exact (List.mem_append.mp h).imp_right fun h => ⟨ys, List.mem_cons_of_mem xs hys, h⟩

lemma flatMap_separated (xss : List (List α)) :
    xss.flatMap (c :: sep ++ ·) = [] ∨ ∃ r, xss.flatMap (c :: sep ++ ·) = c :: r := by
  cases xss with
  | nil => exact .inl rfl
  | cons xs xss => exact .inr ⟨_, rfl⟩

lemma flatMap_separated_inj {xss yss : List (List α)} (hx : ∀ xs ∈ xss, c ∉ xs)
    (hy : ∀ ys ∈ yss, c ∉ ys)
    (h : xss.flatMap (c :: sep ++ ·) = yss.flatMap (c :: sep ++ ·)) : xss = yss := by
  induction xss generalizing yss with
  | nil =>
    cases yss with
    | nil => rfl
    | cons ys yss => simp at h
  | cons xs xss ih =>
    cases yss with
    | nil => simp at h
    | cons ys yss =>
      obtain ⟨hxs, hxss⟩ := List.forall_mem_cons.mp hx
      obtain ⟨hys, hyss⟩ := List.forall_mem_cons.mp hy
      rw [List.flatMap_cons, List.flatMap_cons, List.append_assoc, List.append_assoc] at h
      obtain ⟨rfl, hrest⟩ := append_inj_of_notMem hxs hys (flatMap_separated xss)
        (flatMap_separated yss) (List.append_cancel_left h)
      rw [ih hxss hyss hrest]

theorem intercalate_inj {xss yss : List (List α)} (hx : ∀ xs ∈ xss, xs ≠ [] ∧ c ∉ xs)
    (hy : ∀ ys ∈ yss, ys ≠ [] ∧ c ∉ ys)
    (h : (c :: sep).intercalate xss = (c :: sep).intercalate yss) : xss = yss := by
  cases xss with
  | nil =>
    cases yss with
    | nil => rfl
    | cons ys yss =>
      rw [List.intercalate_nil, intercalate_cons, eq_comm, List.append_eq_nil_iff] at h
      exact absurd h.1 (hy ys List.mem_cons_self).1
  | cons xs xss =>
    cases yss with
    | nil =>
      rw [List.intercalate_nil, intercalate_cons, List.append_eq_nil_iff] at h
      exact absurd h.1 (hx xs List.mem_cons_self).1
    | cons ys yss =>
      obtain ⟨hxs, hxss⟩ := List.forall_mem_cons.mp hx
      obtain ⟨hys, hyss⟩ := List.forall_mem_cons.mp hy
      rw [intercalate_cons, intercalate_cons] at h
      obtain ⟨rfl, hrest⟩ := append_inj_of_notMem hxs.2 hys.2 (flatMap_separated xss)
        (flatMap_separated yss) h
      rw [flatMap_separated_inj (fun xs h => (hxss xs h).2) (fun ys h => (hyss ys h).2) hrest]

/-- What a list is split into does not contain the separator. -/
lemma notMem_of_mem_splitOn [DecidableEq α] (h : xs ∈ ys.splitOn c) : c ∉ xs := by
  induction ys generalizing xs with
  | nil =>
    rw [List.splitOn_nil, List.mem_singleton] at h
    simp [h]
  | cons y ys ih =>
    rw [List.splitOn_cons_eq_if_modifyHead] at h
    split_ifs at h with hy
    · obtain rfl | h := List.mem_cons.mp h
      · exact List.not_mem_nil
      · exact ih h
    · cases hsplit : ys.splitOn c with
      | nil => exact absurd hsplit (List.splitOn_ne_nil c ys)
      | cons zs zss =>
        rw [hsplit, List.modifyHead_cons] at h
        rw [hsplit] at ih
        obtain rfl | h := List.mem_cons.mp h
        · rw [List.mem_cons, not_or]
          exact ⟨fun heq => hy (by simp [heq]), ih List.mem_cons_self⟩
        · exact ih (List.mem_cons_of_mem _ h)

/-! ### Doubled separators -/

/-- Every `c` is followed by something else. -/
def Undoubled (c : α) : List α → Prop
  | []           => True
  | [x]          => x ≠ c
  | x :: y :: xs => (x = c → y ≠ c) ∧ Undoubled c (y :: xs)

lemma Undoubled.tail {x : α} (h : Undoubled c (x :: xs)) : Undoubled c xs := by
  cases xs with
  | nil => trivial
  | cons y xs => exact h.2

lemma undoubled_cons_of_ne (hd : d ≠ c) (h : Undoubled c xs) : Undoubled c (d :: xs) := by
  cases xs with
  | nil => exact hd
  | cons y xs => exact ⟨fun hdc => absurd hdc hd, h⟩

lemma undoubled_of_notMem (h : c ∉ xs) : Undoubled c xs := by
  induction xs with
  | nil => trivial
  | cons x xs ih =>
    rw [List.mem_cons, not_or] at h
    exact undoubled_cons_of_ne (Ne.symm h.1) (ih h.2)

lemma Undoubled.append (hx : Undoubled c xs) (hy : Undoubled c ys) : Undoubled c (xs ++ ys) := by
  induction xs with
  | nil => exact hy
  | cons x xs ih =>
    cases xs with
    | nil => exact undoubled_cons_of_ne hx hy
    | cons x' xs => exact ⟨hx.1, ih hx.2⟩

lemma undoubled_intercalate_cons {xss : List (List α)} (hx : Undoubled c xs)
    (hxss : ∀ ys ∈ xss, Undoubled c (sep ++ ys)) : Undoubled c (sep.intercalate (xs :: xss)) := by
  rw [intercalate_cons]
  refine hx.append ?_
  clear hx
  induction xss with
  | nil => trivial
  | cons ys xss ih =>
    obtain ⟨hys, hyss⟩ := List.forall_mem_cons.mp hxss
    rw [List.flatMap_cons]
    exact hys.append (ih hyss)

/-- Lists without `c`, joined by single `c`s. -/
lemma undoubled_intercalate {xss : List (List α)} (hx : ∀ xs ∈ xss, xs ≠ [] ∧ c ∉ xs) :
    Undoubled c ([c].intercalate xss) := by
  cases xss with
  | nil => trivial
  | cons xs xss =>
    obtain ⟨hxs, hxss⟩ := List.forall_mem_cons.mp hx
    refine undoubled_intercalate_cons (undoubled_of_notMem hxs.2) fun ys hys => ?_
    obtain ⟨hne, hnot⟩ := hxss ys hys
    obtain ⟨y, ys, rfl⟩ := List.exists_cons_of_ne_nil hne
    exact ⟨fun _ hy => hnot (hy ▸ List.mem_cons_self), undoubled_of_notMem hnot⟩

lemma undoubled_intercalate_of_ne {xss : List (List α)} (hd : d ≠ c)
    (hx : ∀ xs ∈ xss, Undoubled c xs) : Undoubled c ([d].intercalate xss) := by
  cases xss with
  | nil => trivial
  | cons xs xss =>
    obtain ⟨hxs, hxss⟩ := List.forall_mem_cons.mp hx
    exact undoubled_intercalate_cons hxs fun ys hys => undoubled_cons_of_ne hd (hxss ys hys)

/-- The end of the first list is where the doubled `c` starts. -/
lemma append_inj_of_undoubled (hx : Undoubled c xs) (hy : Undoubled c ys)
    (h : xs ++ c :: c :: r = ys ++ c :: c :: s) : xs = ys ∧ r = s := by
  have hends : ∀ {zs t u : List α}, Undoubled c zs → c :: c :: t = zs ++ c :: c :: u →
      zs = [] := by
    intro zs t u hz hzs
    match zs, hz with
    | [], _ => rfl
    | [z], hz => exact absurd (by simpa using hzs.symm : z = c ∧ _).1 hz
    | z :: z' :: zs, hz =>
      simp only [List.cons_append, List.cons.injEq] at hzs
      exact absurd hzs.2.1.symm (hz.1 hzs.1.symm)
  induction xs generalizing ys with
  | nil =>
    rw [List.nil_append] at h
    have hnil := hends hy h
    subst hnil
    simpa using h
  | cons x xs ih =>
    cases ys with
    | nil =>
      rw [List.nil_append] at h
      exact absurd (hends hx h.symm) (List.cons_ne_nil x xs)
    | cons y ys =>
      simp only [List.cons_append, List.cons.injEq] at h
      obtain ⟨rfl, hrest⟩ := ih hx.tail hy.tail h.2
      exact ⟨by rw [h.1], hrest⟩

/-- Lists after known labels, joined by a separator that starts with a doubled `c`. -/
theorem labelled_inj {xss yss : List (List α × List α)}
    (hlabels : xss.map Prod.fst = yss.map Prod.fst) (hx : ∀ x ∈ xss, Undoubled c x.2)
    (hy : ∀ y ∈ yss, Undoubled c y.2)
    (h : (c :: c :: sep).intercalate (xss.map fun x => x.1 ++ x.2) =
      (c :: c :: sep).intercalate (yss.map fun y => y.1 ++ y.2)) : xss = yss := by
  induction xss generalizing yss with
  | nil =>
    cases yss with
    | nil => rfl
    | cons y yss => simp at hlabels
  | cons x xss ih =>
    cases yss with
    | nil => simp at hlabels
    | cons y yss =>
      rw [List.map_cons, List.map_cons, List.cons.injEq] at hlabels
      obtain ⟨hlabel, hlabels⟩ := hlabels
      obtain ⟨hx₀, hxss⟩ := List.forall_mem_cons.mp hx
      obtain ⟨hy₀, hyss⟩ := List.forall_mem_cons.mp hy
      cases xss with
      | nil =>
        obtain rfl : yss = [] := by simpa using hlabels.symm
        simp only [List.map_cons, List.map_nil, List.intercalate_singleton, hlabel] at h
        rw [Prod.ext hlabel (List.append_cancel_left h)]
      | cons x' xss =>
        obtain ⟨y', yss, rfl⟩ := List.exists_cons_of_ne_nil (l := yss) fun hnil => by
          simp [hnil] at hlabels
        simp only [List.map_cons, List.intercalate_cons_cons, hlabel, List.append_assoc] at h
        obtain ⟨htext, hrest⟩ := append_inj_of_undoubled hx₀ hy₀ (List.append_cancel_left h)
        rw [Prod.ext hlabel htext, ih hlabels hxss hyss (List.append_cancel_left hrest)]

end Core
