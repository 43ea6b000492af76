import CtrlRecovery.Core.Redaction

/-!
# Numbers that stand alone

A run of digits stands alone if no character of a word is next to it. `replaceNumbers` puts a masked text
in the place of all those with a given number of digits, from left to right. What else is made of digits,
with other characters between them, occurs afterwards exactly if it occurred before and no such number
stood alone in it (`occurs_replaceNumbers_iff`).
-/

namespace Core

namespace StandAlone

variable {α : Type*} (digit word : α → Bool)

/-- No character of a word. -/
def outside (neighbour : Option α) : Bool := neighbour.all fun c => !word c

/-- A number of `n` digits between these neighbours. -/
structure Alone (n : ℕ) (left : Option α) (number : List α) (right : Option α) : Prop where
  length : number.length = n
  digits : ∀ c ∈ number, digit c
  left : outside word left
  right : outside word right

/-- Whether such a number begins the text, with what is before the text. -/
def numberAt (n : ℕ) (prev : Option α) (xs : List α) : Bool :=
  (xs.take n).length == n && (xs.take n).all digit && outside word prev &&
    outside word (xs.drop n).head?

/-- Replace every number of `n` digits, with what is before the text. -/
def replaceNumbers (n : ℕ) (new : List α) : Option α → List α → List α
  | _, []         => []
  | prev, x :: xs =>
    if numberAt digit word n prev (x :: xs) then
      new ++ replaceNumbers n new ((x :: xs).take n).getLast? (xs.drop (n - 1))
    else x :: replaceNumbers n new (some x) xs
termination_by _ xs => xs.length
decreasing_by
  · simp only [List.length_drop, List.length_cons]
    omega
  · exact Nat.lt_succ_self _

def Begins (xs body : List α) (right : Option α) : Prop :=
  ∃ back, xs = body ++ back ∧ back.head? = right

/-- The body occurs in the text between these neighbours. -/
def Occurs (prev : Option α) (xs : List α) (left : Option α) (body : List α) (right : Option α) :
    Prop :=
  ∃ front back, xs = front ++ body ++ back ∧ front.getLast?.or prev = left ∧ back.head? = right

/-- A number of `n` digits stands alone in the body. -/
def HasNumber (n : ℕ) (left : Option α) (body : List α) (right : Option α) : Prop :=
  ∃ front number back, body = front ++ number ++ back ∧
    Alone digit word n (front.getLast?.or left) number (back.head?.or right)

variable {digit word} {n : ℕ} {prev left right : Option α} {xs body new tail : List α} {x mask : α}

lemma numberAt_iff : numberAt digit word n prev xs = true ↔
    ∃ number rest, xs = number ++ rest ∧ Alone digit word n prev number rest.head? := by
  simp only [numberAt, Bool.and_eq_true, beq_iff_eq, List.all_eq_true]
  constructor
  · rintro ⟨⟨⟨hlength, hdigits⟩, hleft⟩, hright⟩
    exact ⟨xs.take n, xs.drop n, (List.take_append_drop n xs).symm, hlength, hdigits, hleft, hright⟩
  · rintro ⟨number, rest, rfl, hlength, hdigits, hleft, hright⟩
    subst hlength
    rw [List.take_left, List.drop_left]
    exact ⟨⟨⟨rfl, hdigits⟩, hleft⟩, hright⟩

@[simp] lemma replaceNumbers_nil : replaceNumbers digit word n new prev [] = [] := by
  rw [replaceNumbers]

lemma replaceNumbers_of_number {number rest : List α} (hn : 0 < n)
    (h : Alone digit word n prev number rest.head?) :
    replaceNumbers digit word n new prev (number ++ rest) =
      new ++ replaceNumbers digit word n new number.getLast? rest := by
  have hlength := h.length
  have hat := numberAt_iff.mpr ⟨number, rest, rfl, h⟩
  cases number with
  | nil => exact absurd hlength (by simpa using hn.ne)
  | cons x xs =>
    subst hlength
    have htake : (x :: xs ++ rest).take (x :: xs).length = x :: xs := List.take_left
    have hdrop : (xs ++ rest).drop ((x :: xs).length - 1) = rest := List.drop_left
    rw [List.cons_append] at hat htake ⊢
    rw [replaceNumbers, if_pos hat, htake, hdrop]

lemma replaceNumbers_cons (h : numberAt digit word n prev (x :: xs) = false) :
    replaceNumbers digit word n new prev (x :: xs) =
      x :: replaceNumbers digit word n new (some x) xs := by
  rw [replaceNumbers, if_neg (by simp [h])]

lemma numberAt_of_word (h : outside word prev = false) :
    numberAt digit word n prev xs = false := by
  simp [numberAt, h]

/-! ### Occurrences -/

lemma begins_cons {c : α} : Begins (x :: xs) (c :: body) right ↔ x = c ∧ Begins xs body right := by
  constructor
  · rintro ⟨back, heq, hright⟩
    cases heq
    exact ⟨rfl, back, rfl, hright⟩
  · rintro ⟨rfl, back, rfl, hright⟩
    exact ⟨back, rfl, hright⟩

lemma occurs_cons : Occurs prev (x :: xs) left body right ↔
    (prev = left ∧ Begins (x :: xs) body right) ∨ Occurs (some x) xs left body right := by
  constructor
  · rintro ⟨front, back, heq, hleft, hright⟩
    cases front with
    | nil => exact .inl ⟨hleft, back, heq, hright⟩
    | cons y front =>
      cases heq
      refine .inr ⟨front, back, rfl, ?_, hright⟩
      rw [← hleft, List.getLast?_cons]
      cases front.getLast? <;> rfl
  · rintro (⟨rfl, back, heq, hright⟩ | ⟨front, back, rfl, hleft, hright⟩)
    · exact ⟨[], back, heq, rfl, hright⟩
    · refine ⟨x :: front, back, rfl, ?_, hright⟩
      rw [← hleft, List.getLast?_cons]
      cases front.getLast? <;> rfl

lemma hasNumber_cons {c : α} : HasNumber digit word n left (c :: body) right ↔
    (∃ number back, c :: body = number ++ back ∧
      Alone digit word n left number (back.head?.or right)) ∨
      HasNumber digit word n (some c) body right := by
  constructor
  · rintro ⟨front, number, back, heq, halone⟩
    cases front with
    | nil => exact .inl ⟨number, back, heq, halone⟩
    | cons d front =>
      cases heq
      refine .inr ⟨front, number, back, rfl, ?_⟩
      rw [List.getLast?_cons] at halone
      cases hlast : front.getLast? <;> simpa [hlast] using halone
  · rintro (⟨number, back, heq, halone⟩ | ⟨front, number, back, rfl, halone⟩)
    · exact ⟨[], number, back, heq, halone⟩
    · refine ⟨c :: front, number, back, rfl, ?_⟩
      rw [List.getLast?_cons]
      cases hlast : front.getLast? <;> simpa [hlast] using halone

lemma not_hasNumber_nil (hn : 0 < n) : ¬ HasNumber digit word n left [] right := by
  rintro ⟨front, number, back, heq, halone⟩
  obtain ⟨hfront, -⟩ := List.append_eq_nil_iff.mp heq.symm
  have hlength := halone.length
  rw [(List.append_eq_nil_iff.mp hfront).2] at hlength
  exact hn.ne hlength

lemma digit_eq_false_of_outside (hword : ∀ c, digit c → word c) {neighbour : Option α}
    (h : outside word neighbour = true) : ∀ c ∈ neighbour, digit c = false := by
  intro c hc
  rw [Option.mem_def.mp hc] at h
  by_contra hdigit
  simp [outside, hword c (by simpa using hdigit)] at h

/-! ### What a replacement leaves -/

section Replacement

variable (hn : 0 < n) (hword : ∀ c, digit c → word c) (hmask : mask ∉ body)

lemma numberAt_iff_of_begins (hright : ∀ c ∈ right, digit c = false) (h : Begins xs body right) :
    numberAt digit word n prev xs = true ↔ ∃ number back, body = number ++ back ∧
      Alone digit word n prev number (back.head?.or right) := by
  obtain ⟨behind, rfl, rfl⟩ := h
  rw [numberAt_iff]
  constructor
  · rintro ⟨number, rest, heq, halone⟩
    rcases List.append_eq_append_iff.mp heq with ⟨more, rfl, hbehind⟩ | ⟨back, rfl, rfl⟩
    · -- the number would go on behind the body, where there is no digit
      cases more with
      | nil =>
        refine ⟨body, [], by simp, ?_⟩
        rw [hbehind]
        simpa using halone
      | cons c more =>
        have hdigit := halone.digits c (by simp)
        rw [hbehind] at hright
        rw [hright c (by simp)] at hdigit
        cases hdigit
    · exact ⟨number, back, rfl, by rwa [List.head?_append] at halone⟩
  · rintro ⟨number, back, rfl, halone⟩
    exact ⟨number, back ++ behind, by simp, by rwa [List.head?_append]⟩

include hn hword hmask in
/-- What ends in a digit begins the new text exactly if it began the old one and no number is in it. -/
lemma begins_replaceNumbers_iff (hlast : ∀ c ∈ body.getLast?, digit c)
    (hprev : body = [] → outside word prev = false) (hright : ∀ c ∈ right, digit c = false) :
    Begins (replaceNumbers digit word n (mask :: tail) prev xs) body right ↔
      Begins xs body right ∧ ¬ HasNumber digit word n prev body right := by
  induction body generalizing prev xs with
  | nil =>
    have hsame : (replaceNumbers digit word n (mask :: tail) prev xs).head? = xs.head? := by
      cases xs with
      | nil => rw [replaceNumbers_nil]
      | cons x xs => rw [replaceNumbers_cons (numberAt_of_word (hprev rfl))]; rfl
    simp [Begins, hsame, not_hasNumber_nil hn]
  | cons c body ih =>
    cases xs with
    | nil => simp [Begins]
    | cons x xs =>
      cases hat : numberAt digit word n prev (x :: xs) with
      | true =>
        obtain ⟨number, rest, heq, halone⟩ := numberAt_iff.mp hat
        rw [heq, replaceNumbers_of_number hn halone, List.cons_append, begins_cons, ← heq]
        refine iff_of_false ?_ ?_
        · rintro ⟨rfl, -⟩
          exact hmask List.mem_cons_self
        · rintro ⟨hbegins, hnone⟩
          obtain ⟨number, back, heq, halone⟩ := (numberAt_iff_of_begins hright hbegins).mp hat
          exact hnone (hasNumber_cons.mpr (.inl ⟨number, back, heq, halone⟩))
      | false =>
        rw [replaceNumbers_cons hat, begins_cons, begins_cons, and_assoc]
        refine and_congr_right ?_
        rintro rfl
        have hlast' : ∀ d ∈ body.getLast?, digit d := by
          intro d hd
          refine hlast d ?_
          rw [List.getLast?_cons, Option.mem_def.mp hd]
          rfl
        have hprev' : body = [] → outside word (some x) = false := by
          rintro rfl
          simp [outside, hword x (hlast x rfl)]
        rw [ih (fun h => hmask (List.mem_cons_of_mem x h)) hlast' hprev']
        refine and_congr_right fun hbegins => not_congr ?_
        rw [hasNumber_cons, ← numberAt_iff_of_begins hright (begins_cons.mpr ⟨rfl, hbegins⟩), hat]
        simp

lemma not_begins {xs : List α} (hfirst : ∃ c ∈ body.head?, digit c)
    (hxs : ∀ c ∈ xs.head?, digit c = false) : ¬ Begins xs body right := by
  rintro ⟨back, rfl, -⟩
  obtain ⟨c, hc, hdigit⟩ := hfirst
  have := hxs c (by rw [List.head?_append, Option.mem_def.mp hc]; rfl)
  rw [hdigit] at this
  cases this

lemma not_occurs_nil (hfirst : ∃ c ∈ body.head?, digit c) :
    ¬ Occurs prev ([] : List α) left body right := by
  rintro ⟨front, back, heq, -⟩
  obtain ⟨c, hc, -⟩ := hfirst
  obtain ⟨hfront, -⟩ := List.append_eq_nil_iff.mp heq.symm
  rw [(List.append_eq_nil_iff.mp hfront).2] at hc
  cases hc

lemma occurs_congr_prev (hfirst : ∃ c ∈ body.head?, digit c)
    (hxs : ∀ c ∈ xs.head?, digit c = false) (prev' : Option α) :
    Occurs prev xs left body right ↔ Occurs prev' xs left body right := by
  cases xs with
  | nil => exact iff_of_false (not_occurs_nil hfirst) (not_occurs_nil hfirst)
  | cons x xs =>
    have hnot : ¬ Begins (x :: xs) body right := not_begins hfirst hxs
    simp only [occurs_cons, hnot, and_false, false_or]

lemma occurs_append {front : List α} (hfirst : ∃ c ∈ body.head?, digit c)
    (hfront : ∀ c ∈ front, digit c = false) : Occurs prev (front ++ xs) left body right ↔
      Occurs (front.getLast?.or prev) xs left body right := by
  induction front generalizing prev with
  | nil => rfl
  | cons x front ih =>
    obtain ⟨hx, hfront⟩ := List.forall_mem_cons.mp hfront
    have hnot : ¬ Begins (x :: (front ++ xs)) body right := not_begins hfirst (by simpa using hx)
    rw [List.cons_append, occurs_cons, ih hfront, List.getLast?_cons]
    simp only [hnot, and_false, false_or]
    cases front.getLast? <;> rfl

lemma head?_replaceNumbers (hword : ∀ c, digit c → word c) {number : List α}
    (hdigits : ∀ c ∈ number, digit c) (hne : number ≠ []) (rest : List α) :
    (replaceNumbers digit word n new number.getLast? rest).head? = rest.head? := by
  have hprev : outside word number.getLast? = false := by
    rw [List.getLast?_eq_some_getLast hne]
    simp [outside, hword _ (hdigits _ (List.getLast_mem hne))]
  cases rest with
  | nil => rw [replaceNumbers_nil]
  | cons x rest =>
    rw [replaceNumbers_cons (numberAt_of_word hprev)]
    rfl

/-- A number that stands alone is part of what occurs at it; what occurs behind it occurs in the whole. -/
lemma occurs_number_append_iff {number rest : List α} (hne : number ≠ [])
    (halone : Alone digit word n prev number rest.head?) (hleft : ∀ c ∈ left, digit c = false)
    (hright : ∀ c ∈ right, digit c = false) :
    Occurs number.getLast? rest left body right ∧ ¬ HasNumber digit word n left body right ↔
      Occurs prev (number ++ rest) left body right ∧
        ¬ HasNumber digit word n left body right := by
  have hlast : ∀ front : List α, (number ++ front).getLast?.or prev =
      front.getLast?.or number.getLast? := by
    intro front
    rw [List.getLast?_append]
    cases front.getLast? with
    | some c => rfl
    | none => rw [List.getLast?_eq_some_getLast hne]; rfl
  refine and_congr_left fun hnone => ⟨?_, ?_⟩
  · rintro ⟨front, back, rfl, hfront, hback⟩
    exact ⟨number ++ front, back, by simp, (hlast front).trans hfront, hback⟩
  · rintro ⟨front, back, heq, hfront, hback⟩
    rw [List.append_assoc] at heq
    rcases List.append_eq_append_iff.mp heq with ⟨more, rfl, rfl⟩ | ⟨more, hnumber, hbody⟩
    · exact ⟨more, back, by simp, (hlast more).symm.trans hfront, hback⟩
    · cases front with
      | nil =>
        have hbegins : Begins (number ++ rest) body right := ⟨back, heq, hback⟩
        have hat := numberAt_iff.mpr ⟨number, rest, rfl, halone⟩
        obtain ⟨number', back', heq', halone'⟩ := (numberAt_iff_of_begins hright hbegins).mp hat
        exact absurd ⟨[], number', back', heq', hfront ▸ halone'⟩ hnone
      | cons c front =>
        have hmem := List.getLast_mem (List.cons_ne_nil c front)
        have hdigit := halone.digits _ (hnumber ▸ List.mem_append_left more hmem)
        rw [List.getLast?_eq_some_getLast (List.cons_ne_nil c front), Option.some_or] at hfront
        rw [hleft _ hfront.symm] at hdigit
        cases hdigit

include hn hword hmask in
/-- What begins and ends in a digit occurs in the new text exactly if it occurred in the old one and no
number is in it. -/
theorem occurs_replaceNumbers_iff (htail : ∀ c ∈ tail, digit c = false) (hdigit : digit mask = false)
    (hfirst : ∃ c ∈ body.head?, digit c) (hlast : ∀ c ∈ body.getLast?, digit c)
    (hleft : ∀ c ∈ left, digit c = false) (hright : ∀ c ∈ right, digit c = false) :
    Occurs prev (replaceNumbers digit word n (mask :: tail) prev xs) left body right ↔
      Occurs prev xs left body right ∧ ¬ HasNumber digit word n left body right := by
  induction hlength : xs.length using Nat.strong_induction_on generalizing prev xs with
  | _ m ih =>
    cases xs with
    | nil =>
      rw [replaceNumbers_nil]
      exact iff_of_false (not_occurs_nil hfirst) fun h => not_occurs_nil hfirst h.1
    | cons x xs =>
      cases hat : numberAt digit word n prev (x :: xs) with
      | true =>
        obtain ⟨number, rest, heq, halone⟩ := numberAt_iff.mp hat
        have hne : number ≠ [] := by
          rintro rfl
          exact hn.ne halone.length
        have hshort : rest.length < m := by
          have hpos := List.length_pos_iff.mpr hne
          rw [← hlength, heq, List.length_append]
          omega
        have hhead : (replaceNumbers digit word n (mask :: tail) number.getLast? rest).head? =
            rest.head? := head?_replaceNumbers hword halone.digits hne rest
        have hrest : ∀ c ∈ rest.head?, digit c = false :=
          digit_eq_false_of_outside hword halone.right
        have hmasked : ∀ c ∈ mask :: tail, digit c = false := List.forall_mem_cons.mpr ⟨hdigit, htail⟩
        rw [heq, replaceNumbers_of_number hn halone, occurs_append hfirst hmasked,
          occurs_congr_prev hfirst (hhead ▸ hrest) number.getLast?, ih rest.length hshort rfl]
        exact occurs_number_append_iff hne halone hleft hright
      | false =>
        have hne : body = [] → outside word prev = false := by
          rintro rfl
          obtain ⟨c, hc, -⟩ := hfirst
          cases hc
        rw [replaceNumbers_cons hat, occurs_cons, occurs_cons, ← replaceNumbers_cons hat,
          ih xs.length (by simp [← hlength]) rfl, or_and_right,
          begins_replaceNumbers_iff hn hword hmask hlast hne hright]
        refine or_congr_left ?_
        rw [and_assoc]
        refine and_congr_right ?_
        rintro rfl
        rfl

end Replacement

/-! ### Numbers after a replacement -/

lemma hasNumber_iff_occurs : HasNumber digit word n left xs none ↔
    ∃ l number r, Occurs left xs l number r ∧ Alone digit word n l number r := by
  constructor
  · rintro ⟨front, number, back, rfl, halone⟩
    rw [Option.or_none] at halone
    exact ⟨_, number, _, ⟨front, back, rfl, rfl, rfl⟩, halone⟩
  · rintro ⟨_, number, _, ⟨front, back, rfl, rfl, rfl⟩, halone⟩
    exact ⟨front, number, back, rfl, by rwa [Option.or_none]⟩

/-- The places of a text are finitely many. -/
lemma hasNumber_iff_exists_numberAt : HasNumber digit word n left xs none ↔
    ∃ i < xs.length + 1, numberAt digit word n ((xs.take i).getLast?.or left) (xs.drop i) = true := by
  simp only [numberAt_iff]
  constructor
  · rintro ⟨front, number, back, rfl, halone⟩
    rw [Option.or_none] at halone
    have hlength : front.length < (front ++ number ++ back).length + 1 := by
      rw [List.length_append, List.length_append]
      omega
    refine ⟨front.length, hlength, number, back, by simp, ?_⟩
    rwa [List.append_assoc, List.take_left]
  · rintro ⟨i, -, number, back, hdrop, halone⟩
    refine ⟨xs.take i, number, back, ?_, by rwa [Option.or_none]⟩
    rw [List.append_assoc, ← hdrop, List.take_append_drop]

instance : Decidable (HasNumber digit word n left xs none) :=
  decidable_of_iff _ hasNumber_iff_exists_numberAt.symm

lemma back_eq_nil_of_cut (h : ¬ HasNumber digit word n none xs none)
    {front number back : List α} (hcut : front ++ number ++ back <+: xs)
    (halone : Alone digit word n front.getLast? number back.head?) : back = [] := by
  obtain ⟨rest, rfl⟩ := hcut
  by_contra hne
  have hhead : (back ++ rest).head? = back.head? := List.head?_append_of_ne_nil back hne
  refine h ⟨front, number, back ++ rest, List.append_assoc _ _ _, ?_⟩
  rwa [Option.or_none, Option.or_none, hhead]

lemma replaceNumbers_eq_self (h : ¬ HasNumber digit word n prev xs none) :
    replaceNumbers digit word n new prev xs = xs := by
  induction xs generalizing prev with
  | nil => exact replaceNumbers_nil
  | cons x xs ih =>
    rw [hasNumber_cons, not_or] at h
    cases hat : numberAt digit word n prev (x :: xs) with
    | true =>
      obtain ⟨number, rest, heq, halone⟩ := numberAt_iff.mp hat
      exact absurd ⟨number, rest, heq, by rwa [Option.or_none]⟩ h.1
    | false => rw [replaceNumbers_cons hat, ih h.2]

/-- A number that stands alone in the new text stood alone in the old one, and had another length. -/
lemma hasNumber_replaceNumbers {m : ℕ} (hn : 0 < n) (hm : 0 < m)
    (hword : ∀ c, digit c → word c) (hmasked : ∀ c ∈ mask :: tail, digit c = false)
    (h : HasNumber digit word m none (replaceNumbers digit word n (mask :: tail) none xs) none) :
    HasNumber digit word m none xs none ∧ m ≠ n := by
  obtain ⟨hdigit, htail⟩ := List.forall_mem_cons.mp hmasked
  obtain ⟨l, number, r, hoccurs, halone⟩ := hasNumber_iff_occurs.mp h
  have hne : number ≠ [] := by
    rintro rfl
    exact hm.ne halone.length
  have hmask : mask ∉ number := fun hmem => by
    rw [halone.digits mask hmem] at hdigit
    cases hdigit
  have hfirst : ∃ c ∈ number.head?, digit c :=
    ⟨number.head hne, List.head?_eq_some_head hne, halone.digits _ (List.head_mem hne)⟩
  have hlast : ∀ c ∈ number.getLast?, digit c :=
    fun c hc => halone.digits c (List.mem_of_getLast? hc)
  obtain ⟨hoccurs, hnone⟩ := (occurs_replaceNumbers_iff hn hword hmask htail hdigit hfirst hlast
    (digit_eq_false_of_outside hword halone.left)
    (digit_eq_false_of_outside hword halone.right)).mp hoccurs
  refine ⟨hasNumber_iff_occurs.mpr ⟨l, number, r, hoccurs, halone⟩, ?_⟩
  rintro rfl
  exact hnone ⟨[], number, [], by simp, by simpa using halone⟩

/-! ### Patterns after a replacement -/

lemma agree_replaceNumbers {masks : List α → List α → Prop}
    (hmasks : ∀ ys zs, masks (new ++ ys) zs) :
    Pattern.Agree masks (replaceNumbers digit word n new prev xs) xs := by
  induction xs generalizing prev with
  | nil =>
    rw [replaceNumbers_nil]
    exact Pattern.agree_refl masks []
  | cons x xs ih =>
    rw [replaceNumbers]
    split_ifs
    · exact ⟨[], _, _, rfl, rfl, .inr (hmasks _ _)⟩
    · exact ih.cons x

/-- A pattern that did not match does not begin to. -/
lemma not_test_replaceNumbers {p : Pattern α} {masks : List α → List α → Prop}
    (hinert : p.Inert new) (hguarded : p.Guarded masks) (hmasks : ∀ ys zs, masks (new ++ ys) zs)
    (h : p.test xs = false) : p.test (replaceNumbers digit word n new prev xs) = false := by
  induction hlength : xs.length using Nat.strong_induction_on generalizing prev xs with
  | _ m ih =>
    cases xs with
    | nil => rwa [replaceNumbers_nil]
    | cons x xs =>
      have hrest := Pattern.not_test_of_suffix (List.suffix_cons x xs) h
      rw [replaceNumbers]
      split_ifs
      · have hdrop := List.drop_suffix (n - 1) xs
        refine Pattern.not_test_append hinert ?_
        exact ih (xs.drop (n - 1)).length
          (hlength ▸ Nat.lt_succ_of_le hdrop.length_le)
          (Pattern.not_test_of_suffix hdrop hrest) rfl
      · refine Pattern.not_test_cons ?_ (ih xs.length (by simp [← hlength]) hrest rfl)
        exact hguarded.rest?_of_agree (agree_replaceNumbers hmasks)
          (Pattern.test_eq_false_iff.mp h _ List.suffix_rfl)

end StandAlone

end Core
