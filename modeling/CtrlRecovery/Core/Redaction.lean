import CtrlRecovery.Core.Rewriting

/-!
# Redaction

A pattern is redacted by putting a text in the place of its matches in which it does not match again. The
new text agrees with the old one up to some place from which on it shows a mask; where a pattern cannot
match into a mask (`Guarded`) nor begin in one (`Inert`), the redaction leaves no match of it, neither of
the pattern that is redacted nor of one that did not match before (`not_test_replaceAll`).
-/

namespace Core

namespace Pattern

variable {α : Type*} {p q : Pattern α} {masks : List α → List α → Prop} {new xs ys rest : List α}

/-- The texts agree up to a place from which on the first one masks the second one. -/
def Agree (masks : List α → List α → Prop) (xs ys : List α) : Prop :=
  ∃ common xs' ys', xs = common ++ xs' ∧ ys = common ++ ys' ∧ (xs' = ys' ∨ masks xs' ys')

/-- A match that runs into a mask is a match of what is masked. -/
def Guarded (p : Pattern α) (masks : List α → List α → Prop) : Prop :=
  ∀ common xs ys, common ≠ [] → masks xs ys →
    (p.rest? (common ++ xs)).isSome → (p.rest? (common ++ ys)).isSome

/-- No match begins in the text, whatever follows it. -/
def Inert (p : Pattern α) (new : List α) : Prop :=
  ∀ tail, tail ≠ [] → tail <:+ new → ∀ ys, p.rest? (tail ++ ys) = none

/-- The text in the place of a match shows a mask after what it keeps of the match. -/
def Masking (q : Pattern α) (masks : List α → List α → Prop) (new : List α) : Prop :=
  ∀ xs rest, q.rest? xs = some rest → ∀ ys, Agree masks (new ++ ys) xs

lemma inert_nil : p.Inert [] :=
  fun _ hne htail => absurd (List.suffix_nil.mp htail) hne

lemma Inert.cons {x : α} (h : ∀ ys, p.rest? (x :: new ++ ys) = none) (hnew : p.Inert new) :
    p.Inert (x :: new) := by
  intro tail hne htail ys
  obtain rfl | htail := List.suffix_cons_iff.mp htail
  · exact h ys
  · exact hnew tail hne htail ys

lemma agree_refl (masks : List α → List α → Prop) (xs : List α) : Agree masks xs xs :=
  ⟨xs, [], [], (List.append_nil _).symm, (List.append_nil _).symm, .inl rfl⟩

lemma Agree.cons (h : Agree masks xs ys) (x : α) : Agree masks (x :: xs) (x :: ys) := by
  obtain ⟨common, xs', ys', rfl, rfl, hmasks⟩ := h
  exact ⟨x :: common, xs', ys', rfl, rfl, hmasks⟩

lemma agree_replaceAll (h : q.Masking masks new) (xs : List α) :
    Agree masks (q.replaceAll new xs) xs := by
  induction xs with
  | nil =>
    rw [replaceAll_nil]
    exact agree_refl masks []
  | cons x xs ih =>
    cases hrest : q.rest? (x :: xs) with
    | some rest =>
      rw [replaceAll_of_rest? hrest]
      exact h _ _ hrest _
    | none =>
      rw [replaceAll_cons_of_none hrest]
      exact ih.cons x

/-- A match in a text that agrees with another one up to a mask is a match in the other one. -/
lemma Guarded.rest?_of_agree (hguarded : p.Guarded masks) {x : α} (hagree : Agree masks xs ys)
    (h : p.rest? (x :: ys) = none) : p.rest? (x :: xs) = none := by
  obtain ⟨common, xs', ys', rfl, rfl, rfl | hmasks⟩ := hagree
  · exact h
  · by_contra hsome
    have hmatch := hguarded (x :: common) xs' ys' (List.cons_ne_nil _ _) hmasks
      (Option.isSome_iff_ne_none.mpr hsome)
    rw [List.cons_append, h] at hmatch
    cases hmatch

lemma not_test_append (hinert : p.Inert new) (h : p.test ys = false) :
    p.test (new ++ ys) = false := by
  rw [test_eq_false_iff] at h ⊢
  intro tail htail
  obtain ⟨front, hfront⟩ := htail
  rcases List.append_eq_append_iff.mp hfront with ⟨back, hnew, htail⟩ | ⟨back, -, hys⟩
  · by_cases hnil : back = []
    · rw [htail, hnil]
      exact h ys List.suffix_rfl
    · rw [htail]
      exact hinert back hnil ⟨front, hnew.symm⟩ ys
  · exact h tail ⟨back, hys.symm⟩

lemma not_test_cons {x : α} (hnone : p.rest? (x :: xs) = none) (h : p.test xs = false) :
    p.test (x :: xs) = false := by
  rw [test_eq_false_iff] at h ⊢
  intro tail htail
  obtain rfl | htail := List.suffix_cons_iff.mp htail
  · exact hnone
  · exact h tail htail

/-- A redaction leaves no match of a pattern that matches only where the redacted one does. -/
theorem not_test_replaceAll (hinert : p.Inert new) (hguarded : p.Guarded masks)
    (hmasking : q.Masking masks new)
    (h : ∀ tail, tail <:+ xs → q.rest? tail = none → p.rest? tail = none) :
    p.test (q.replaceAll new xs) = false := by
  induction hlength : xs.length using Nat.strong_induction_on generalizing xs with
  | _ n ih =>
    cases xs with
    | nil =>
      rw [replaceAll_nil, test_eq_false_iff]
      intro tail htail
      rw [List.suffix_nil.mp htail, rest?_nil]
    | cons x xs =>
      cases hrest : q.rest? (x :: xs) with
      | some rest =>
        obtain ⟨hsuffix, hlt⟩ := q.shorter hrest
        rw [replaceAll_of_rest? hrest]
        exact not_test_append hinert
          (ih rest.length (hlength ▸ hlt) (fun tail htail => h tail (htail.trans hsuffix)) rfl)
      | none =>
        rw [replaceAll_cons_of_none hrest]
        refine not_test_cons ?_ (ih xs.length (by simp [← hlength])
          (fun tail htail => h tail (htail.trans (List.suffix_cons x xs))) rfl)
        exact hguarded.rest?_of_agree (agree_replaceAll hmasking xs) (h _ List.suffix_rfl hrest)

lemma not_test_replaceAll_self (hinert : p.Inert new) (hguarded : p.Guarded masks)
    (hmasking : p.Masking masks new) (xs : List α) : p.test (p.replaceAll new xs) = false :=
  not_test_replaceAll hinert hguarded hmasking fun _ _ h => h

lemma not_test_replaceAll_of_not_test (hinert : p.Inert new) (hguarded : p.Guarded masks)
    (hmasking : q.Masking masks new) (h : p.test xs = false) :
    p.test (q.replaceAll new xs) = false :=
  not_test_replaceAll hinert hguarded hmasking fun tail htail _ => test_eq_false_iff.mp h tail htail

end Pattern

/-! ### Keys -/

/-- What is left after some characters of a class, as many as there are. -/
def afterSome (inClass : Char → Bool) : List Char → Option (List Char)
  | []      => none
  | c :: cs => if inClass c then some (cs.dropWhile inClass) else none

def afterWord : List Char → List Char → Option (List Char)
  | [], cs          => some cs
  | _ :: _, []      => none
  | d :: w, c :: cs => if c = d then afterWord w cs else none

section Keys

variable {inClass : Char → Bool} {w cs rest : List Char}

lemma afterSome_shorter (h : afterSome inClass cs = some rest) :
    rest <:+ cs ∧ rest.length < cs.length := by
  cases cs with
  | nil => cases h
  | cons c cs =>
    rw [afterSome] at h
    split_ifs at h
    cases h
    have hsuffix : cs.dropWhile inClass <:+ cs := List.dropWhile_suffix inClass
    exact ⟨hsuffix.trans (List.suffix_cons c cs), Nat.lt_succ_of_le hsuffix.length_le⟩

lemma isSome_afterSome_iff : (afterSome inClass cs).isSome ↔ ∃ c, inClass c ∧ [c] <+: cs := by
  cases cs with
  | nil => simp [afterSome]
  | cons c cs =>
    rw [afterSome]
    split_ifs with hc <;> simp [hc]

lemma afterWord_eq_some_iff : afterWord w cs = some rest ↔ cs = w ++ rest := by
  induction w generalizing cs with
  | nil => simp [afterWord]
  | cons d w ih =>
    cases cs with
    | nil => simp [afterWord]
    | cons c cs =>
      rw [afterWord]
      split_ifs with hc
      · simp [hc, ih]
      · simp [hc]

end Keys

/-- One of some words and characters of a class after it. -/
def keyPattern (words : List (List Char)) (inClass : Char → Bool) : Pattern Char where
  rest? cs := words.findSome? fun w => (afterWord w cs).bind (afterSome inClass)
  shorter := by
    intro cs rest h
    obtain ⟨w, -, hw⟩ := List.exists_of_findSome?_eq_some h
    obtain ⟨after, hafter, hrest⟩ := Option.bind_eq_some_iff.mp hw
    rw [afterWord_eq_some_iff.mp hafter]
    obtain ⟨hsuffix, hlt⟩ := afterSome_shorter hrest
    refine ⟨hsuffix.trans (List.suffix_append w after), ?_⟩
    rw [List.length_append]
    omega

lemma isSome_keyPattern_iff {words : List (List Char)} {inClass : Char → Bool} {cs : List Char} :
    ((keyPattern words inClass).rest? cs).isSome ↔
      ∃ w ∈ words, ∃ c, inClass c ∧ w ++ [c] <+: cs := by
  rw [keyPattern, List.findSome?_isSome_iff]
  refine exists_congr fun w => and_congr_right fun _ => ?_
  constructor
  · intro h
    obtain ⟨rest, hrest⟩ := Option.isSome_iff_exists.mp h
    obtain ⟨after, hafter, hsome⟩ := Option.bind_eq_some_iff.mp hrest
    obtain ⟨c, hc, hprefix⟩ := isSome_afterSome_iff.mp (Option.isSome_iff_exists.mpr ⟨rest, hsome⟩)
    rw [afterWord_eq_some_iff.mp hafter]
    exact ⟨c, hc, (List.prefix_append_right_inj w).mpr hprefix⟩
  · rintro ⟨c, hc, after, rfl⟩
    rw [List.append_assoc, afterWord_eq_some_iff.mpr rfl, Option.bind_some, isSome_afterSome_iff]
    exact ⟨c, hc, List.prefix_append [c] after⟩

lemma test_keyPattern_iff {words : List (List Char)} {inClass : Char → Bool} {cs : List Char} :
    (keyPattern words inClass).test cs = true ↔ ∃ w ∈ words, ∃ c, inClass c ∧ w ++ [c] <:+: cs := by
  simp only [Pattern.test_eq_true_iff, isSome_keyPattern_iff, List.infix_iff_prefix_suffix]
  constructor
  · rintro ⟨tail, htail, w, hw, c, hc, hprefix⟩
    exact ⟨w, hw, c, hc, tail, hprefix, htail⟩
  · rintro ⟨w, hw, c, hc, tail, hprefix, htail⟩
    exact ⟨tail, htail, w, hw, c, hc, hprefix⟩

lemma not_test_keyPattern_of_part {words : List (List Char)} {inClass : Char → Bool}
    {part cs : List Char} (hpart : part <:+: cs) (h : (keyPattern words inClass).test cs = false) :
    (keyPattern words inClass).test part = false := by
  rw [← Bool.not_eq_true, test_keyPattern_iff] at h ⊢
  rintro ⟨w, hw, c, hc, hinfix⟩
  exact h ⟨w, hw, c, hc, hinfix.trans hpart⟩

/-- A word in any case of letters, white space, and characters of a class after it. -/
def spacedPattern (word : List Char) (inClass : Char → Bool) : Pattern Char where
  rest? cs := ((matchWord word cs).bind (afterSome Js.isWhitespace)).bind (afterSome inClass)
  shorter := by
    intro cs rest h
    obtain ⟨after, hafter, hrest⟩ := Option.bind_eq_some_iff.mp h
    obtain ⟨spaces, hword, hspaces⟩ := Option.bind_eq_some_iff.mp hafter
    have hsuffix := (matchWord_shorter hword).1
    obtain ⟨hsuffix', hlt'⟩ := afterSome_shorter hspaces
    obtain ⟨hsuffix'', hlt''⟩ := afterSome_shorter hrest
    exact ⟨(hsuffix''.trans hsuffix').trans hsuffix,
      (hlt''.trans hlt').trans_le hsuffix.length_le⟩

section Spaced

variable {word cs rest : List Char} {inClass : Char → Bool}

lemma matchWord_eq_some_iff : matchWord word cs = some rest ↔
    ∃ given, cs = given ++ rest ∧ given.map Char.toUpper = word := by
  induction word generalizing cs with
  | nil => simp [matchWord, eq_comm]
  | cons d word ih =>
    cases cs with
    | nil => simp [matchWord]
    | cons c cs =>
      rw [matchWord]
      split_ifs with hd
      · rw [ih]
        constructor
        · rintro ⟨given, rfl, rfl⟩
          exact ⟨c :: given, rfl, by rw [List.map_cons, hd]⟩
        · rintro ⟨given, hcs, hgiven⟩
          cases given with
          | nil => cases hgiven
          | cons c' given =>
            cases hcs
            exact ⟨given, rfl, (List.cons.inj hgiven).2⟩
      · simp only [false_iff, not_exists, not_and]
        intro given hcs hgiven
        cases given with
        | nil => cases hgiven
        | cons c' given =>
          cases hcs
          exact hd (List.cons.inj hgiven).1

lemma afterSome_append {spaces : List Char} {P : Char → Bool} (hne : spaces ≠ [])
    (hspaces : ∀ c ∈ spaces, P c) (hrest : ∀ c ∈ rest.head?, P c = false) :
    afterSome P (spaces ++ rest) = some rest := by
  obtain ⟨c, spaces, rfl⟩ := List.exists_cons_of_ne_nil hne
  obtain ⟨hc, hspaces⟩ := List.forall_mem_cons.mp hspaces
  rw [List.cons_append, afterSome, if_pos hc, List.dropWhile_append_of_pos hspaces]
  cases rest with
  | nil => rfl
  | cons d rest => rw [List.dropWhile_cons_of_neg (by simpa using hrest d rfl)]

lemma exists_spaces_of_afterSome {P : Char → Bool} (h : afterSome P cs = some rest) :
    ∃ spaces, spaces ≠ [] ∧ (∀ c ∈ spaces, P c) ∧ cs = spaces ++ rest := by
  cases cs with
  | nil => cases h
  | cons c cs =>
    rw [afterSome] at h
    split_ifs at h with hc
    cases h
    refine ⟨c :: cs.takeWhile P, List.cons_ne_nil _ _, ?_, ?_⟩
    · exact List.forall_mem_cons.mpr ⟨hc, fun d hd => List.all_eq_true.mp List.all_takeWhile d hd⟩
    · rw [List.cons_append, List.takeWhile_append_dropWhile]

lemma isSome_spacedPattern_iff (hclass : ∀ c, inClass c → Js.isWhitespace c = false) :
    ((spacedPattern word inClass).rest? cs).isSome ↔ ∃ given spaces c,
      given.map Char.toUpper = word ∧ spaces ≠ [] ∧ (∀ c ∈ spaces, Js.isWhitespace c) ∧ inClass c ∧
        given ++ spaces ++ [c] <+: cs := by
  rw [spacedPattern]
  constructor
  · intro h
    obtain ⟨rest, hrest⟩ := Option.isSome_iff_exists.mp h
    obtain ⟨after, hafter, hsome⟩ := Option.bind_eq_some_iff.mp hrest
    obtain ⟨spaced, hword, hspaces⟩ := Option.bind_eq_some_iff.mp hafter
    obtain ⟨given, rfl, hgiven⟩ := matchWord_eq_some_iff.mp hword
    obtain ⟨spaces, hne, hall, rfl⟩ := exists_spaces_of_afterSome hspaces
    obtain ⟨c, hc, hprefix⟩ := isSome_afterSome_iff.mp (Option.isSome_iff_exists.mpr ⟨rest, hsome⟩)
    refine ⟨given, spaces, c, hgiven, hne, hall, hc, ?_⟩
    rw [List.append_assoc]
    exact (List.prefix_append_right_inj given).mpr ((List.prefix_append_right_inj spaces).mpr hprefix)
  · rintro ⟨given, spaces, c, hgiven, hne, hall, hc, after, rfl⟩
    have hword : matchWord word (given ++ spaces ++ [c] ++ after) =
        some (spaces ++ ([c] ++ after)) :=
      matchWord_eq_some_iff.mpr ⟨given, by simp, hgiven⟩
    have hspaces : afterSome Js.isWhitespace (spaces ++ ([c] ++ after)) = some ([c] ++ after) :=
      afterSome_append hne hall (by simpa using hclass c hc)
    dsimp only
    rw [hword, Option.bind_some, hspaces, Option.bind_some, isSome_afterSome_iff]
    exact ⟨c, hc, List.prefix_append [c] after⟩

lemma test_spacedPattern_iff (hclass : ∀ c, inClass c → Js.isWhitespace c = false) :
    (spacedPattern word inClass).test cs = true ↔ ∃ given spaces c,
      given.map Char.toUpper = word ∧ spaces ≠ [] ∧ (∀ c ∈ spaces, Js.isWhitespace c) ∧ inClass c ∧
        given ++ spaces ++ [c] <:+: cs := by
  simp only [Pattern.test_eq_true_iff, isSome_spacedPattern_iff hclass, List.infix_iff_prefix_suffix]
  constructor
  · rintro ⟨tail, htail, given, spaces, c, hgiven, hne, hspaces, hc, hprefix⟩
    exact ⟨given, spaces, c, hgiven, hne, hspaces, hc, tail, hprefix, htail⟩
  · rintro ⟨given, spaces, c, hgiven, hne, hspaces, hc, tail, hprefix, htail⟩
    exact ⟨tail, htail, given, spaces, c, hgiven, hne, hspaces, hc, hprefix⟩

lemma not_test_spacedPattern_of_part (hclass : ∀ c, inClass c → Js.isWhitespace c = false)
    {part : List Char} (hpart : part <:+: cs) (h : (spacedPattern word inClass).test cs = false) :
    (spacedPattern word inClass).test part = false := by
  rw [← Bool.not_eq_true, test_spacedPattern_iff hclass] at h ⊢
  rintro ⟨given, spaces, c, hgiven, hne, hspaces, hc, hinfix⟩
  exact h ⟨given, spaces, c, hgiven, hne, hspaces, hc, hinfix.trans hpart⟩

end Spaced

/-! ### Masked characters -/

/-- The first text begins with the mask, or both begin with like characters. -/
def Masks (mask : Char) (like : Char → Char → Prop) (xs ys : List Char) : Prop :=
  xs.head? = some mask ∨ ∃ x y, xs.head? = some x ∧ ys.head? = some y ∧ like x y

section Masked

variable {mask : Char} {like : Char → Char → Prop} {inClass : Char → Bool} {xs ys zs common : List Char}

/-- A match that ends in a class runs into a mask with its last character only, if at all. -/
lemma prefix_of_masks {front : List Char} {c : Char} (h : front ++ [c] <+: common ++ xs)
    (hmasks : Masks mask like xs ys) (hmask : inClass mask = false)
    (hlike : ∀ x y, like x y → inClass x → inClass y) (hc : inClass c)
    (hfront : ∀ back d, common ++ d :: back = front → d ≠ mask ∧ ∀ y, ¬ like d y) :
    ∃ c', inClass c' ∧ front ++ [c'] <+: common ++ ys := by
  by_cases hshort : (front ++ [c]).length ≤ common.length
  · have hprefix := List.prefix_of_prefix_length_le h (List.prefix_append common xs) hshort
    exact ⟨c, hc, hprefix.trans (List.prefix_append common ys)⟩
  · -- the match goes on after the common part, into the mask
    obtain ⟨back, hback⟩ := List.prefix_of_prefix_length_le (List.prefix_append common xs) h
      (Nat.le_of_not_le hshort)
    have hxs : back <+: xs := (List.prefix_append_right_inj common).mp (hback ▸ h)
    cases back with
    | nil => exact absurd (by rw [← hback, List.append_nil]) hshort
    | cons d back =>
      obtain ⟨after, rfl⟩ := hxs
      rcases List.eq_nil_or_concat back with rfl | ⟨back, last, rfl⟩
      · obtain ⟨rfl, hd⟩ := List.append_inj' hback rfl
        cases hd
        rcases hmasks with hhead | ⟨x, y, hx, hy, hlikexy⟩
        · cases hhead
          rw [hmask] at hc
          cases hc
        · cases hx
          obtain ⟨ys, rfl⟩ := List.head?_eq_some_iff.mp hy
          exact ⟨y, hlike _ y hlikexy hc, ys, by simp⟩
      · have hsplit : common ++ d :: back = front :=
          (List.append_inj' ((by simpa using hback) :
            (common ++ d :: back) ++ [last] = front ++ [c]) rfl).1
        obtain ⟨hne, hunlike⟩ := hfront back d hsplit
        rcases hmasks with hhead | ⟨x, y, hx, -, hlikexy⟩
        · cases hhead
          exact absurd rfl hne
        · cases hx
          exact absurd hlikexy (hunlike y)

lemma guarded_keyPattern {words : List (List Char)} (hmask : inClass mask = false)
    (hwords : ∀ w ∈ words, ∀ d ∈ w, d ≠ mask ∧ ∀ y, ¬ like d y)
    (hlike : ∀ x y, like x y → inClass x → inClass y) :
    (keyPattern words inClass).Guarded (Masks mask like) := by
  intro common xs ys _ hmasks h
  obtain ⟨w, hw, c, hc, hprefix⟩ := isSome_keyPattern_iff.mp h
  have hfront : ∀ back d, common ++ d :: back = w → d ≠ mask ∧ ∀ y, ¬ like d y := by
    rintro back d rfl
    exact hwords _ hw d (by simp)
  obtain ⟨c', hc', hprefix'⟩ := prefix_of_masks hprefix hmasks hmask hlike hc hfront
  exact isSome_keyPattern_iff.mpr ⟨w, hw, c', hc', hprefix'⟩

/-- The first character of the word may be like another one; the others may not. -/
lemma guarded_spacedPattern {word : List Char} (hclass : ∀ c, inClass c → Js.isWhitespace c = false)
    (hmask : inClass mask = false ∧ Js.isWhitespace mask = false ∧ mask.toUpper ∉ word)
    (hword : ∀ d, d.toUpper ∈ word.tail ∨ Js.isWhitespace d → ∀ y, ¬ like d y)
    (hlike : ∀ x y, like x y → inClass x → inClass y) :
    (spacedPattern word inClass).Guarded (Masks mask like) := by
  intro common xs ys hcommon hmasks h
  obtain ⟨given, spaces, c, rfl, hne, hspaces, hc, hprefix⟩ := (isSome_spacedPattern_iff hclass).mp h
  have hfront : ∀ back d, common ++ d :: back = given ++ spaces → d ≠ mask ∧ ∀ y, ¬ like d y := by
    intro back d hsplit
    have hd : d.toUpper ∈ (given.map Char.toUpper).tail ∨ d ∈ spaces := by
      obtain ⟨x, common, rfl⟩ := List.exists_cons_of_ne_nil hcommon
      cases given with
      | nil =>
        right
        rw [← List.nil_append spaces, ← hsplit]
        simp
      | cons g given =>
        have htail : common ++ d :: back = given ++ spaces := (List.cons.inj hsplit).2
        have hmem : d ∈ given ++ spaces := by
          rw [← htail]
          simp
        exact (List.mem_append.mp hmem).imp_left List.mem_map_of_mem
    constructor
    · rintro rfl
      rcases hd with hd | hd
      · exact hmask.2.2 (List.mem_of_mem_tail hd)
      · exact absurd (hspaces _ hd) (by simp [hmask.2.1])
    · exact hword d (hd.imp_right (hspaces d))
  obtain ⟨c', hc', hprefix'⟩ := prefix_of_masks hprefix hmasks hmask.1 hlike hc hfront
  exact (isSome_spacedPattern_iff hclass).mpr ⟨given, spaces, c', rfl, hne, hspaces, hc', hprefix'⟩

lemma masking_keyPattern {words : List (List Char)} {kept tail : List Char}
    (hwords : ∀ w ∈ words, kept <+: w) :
    (keyPattern words inClass).Masking (Masks mask like) (kept ++ mask :: tail) := by
  intro xs rest h ys
  obtain ⟨w, hw, c, -, hprefix⟩ :=
    isSome_keyPattern_iff.mp (Option.isSome_iff_exists.mpr ⟨rest, h⟩)
  obtain ⟨back, rfl⟩ := ((hwords w hw).trans (List.prefix_append w [c])).trans hprefix
  exact ⟨kept, mask :: tail ++ ys, back, by simp, rfl, .inr (.inl rfl)⟩

lemma masking_spacedPattern {word tail : List Char} {first : Char}
    (hclass : ∀ c, inClass c → Js.isWhitespace c = false)
    (hfirst : ∀ x, some x.toUpper = word.head? → like first x) (hne : word ≠ []) :
    (spacedPattern word inClass).Masking (Masks mask like) (first :: tail) := by
  intro xs rest h ys
  obtain ⟨given, spaces, c, rfl, -, -, -, hprefix⟩ :=
    (isSome_spacedPattern_iff hclass).mp (Option.isSome_iff_exists.mpr ⟨rest, h⟩)
  cases given with
  | nil => exact absurd rfl hne
  | cons g given =>
    obtain ⟨back, rfl⟩ := hprefix
    exact ⟨[], first :: tail ++ ys, _, rfl, rfl, .inr (.inr ⟨first, g, rfl, rfl, hfirst g rfl⟩)⟩

end Masked

end Core
