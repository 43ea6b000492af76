import CtrlRecovery.Js
import Mathlib

/-!
# Rewriting a text

A pattern tells what it leaves of a list after a match at its start. `replaceAll` puts another list
in the place of every match, from left to right, and `test` looks for one. A list without a match is
left as it is, and a list that is cut where no match crosses is rewritten part by part.

A phrase is a pattern of words with white space between them, in any case of letters.
-/

namespace Core

/-- What is left after a match at the start, which is never empty. -/
structure Pattern (α : Type*) where
  rest? : List α → Option (List α)
  shorter : ∀ {xs rest}, rest? xs = some rest → rest <:+ xs ∧ rest.length < xs.length

namespace Pattern

variable {α : Type*} (p : Pattern α)

/-- Replace every match by `new`, from left to right. -/
def replaceAll (new : List α) : List α → List α
  | []      => []
  | x :: xs =>
    match h : p.rest? (x :: xs) with
    | some rest =>
      have := (p.shorter h).2
      new ++ replaceAll new rest
    | none      => x :: replaceAll new xs
termination_by xs => xs.length
decreasing_by
  · exact this
  · exact Nat.lt_succ_self xs.length

def test (xs : List α) : Bool := xs.tails.any fun tail => (p.rest? tail).isSome

variable {p} {new xs ys rest : List α} {x : α}

lemma rest?_nil : p.rest? [] = none := by
  cases h : p.rest? [] with
  | none => rfl
  | some rest => exact absurd (p.shorter h).2 (by simp)

lemma test_eq_true_iff : p.test xs = true ↔ ∃ tail, tail <:+ xs ∧ (p.rest? tail).isSome := by
  simp [test]

lemma test_eq_false_iff : p.test xs = false ↔ ∀ tail, tail <:+ xs → p.rest? tail = none := by
  simp [test]

lemma not_test_of_suffix (h : xs <:+ ys) (htest : p.test ys = false) : p.test xs = false := by
  rw [test_eq_false_iff] at htest ⊢
  exact fun tail htail => htest tail (htail.trans h)

@[simp] lemma replaceAll_nil : p.replaceAll new [] = [] := by
  rw [replaceAll]

lemma replaceAll_of_rest? (h : p.rest? xs = some rest) :
    p.replaceAll new xs = new ++ p.replaceAll new rest := by
  cases xs with
  | nil => exact absurd (rest?_nil.symm.trans h) (by simp)
  | cons x xs =>
    rw [replaceAll]
    split
    · rename_i rest' h'
      rw [Option.some_inj.mp (h.symm.trans h')]
    · rename_i h'
      cases h.symm.trans h'

lemma replaceAll_cons_of_none (h : p.rest? (x :: xs) = none) :
    p.replaceAll new (x :: xs) = x :: p.replaceAll new xs := by
  rw [replaceAll]
  split
  · rename_i rest' h'
    cases h.symm.trans h'
  · rfl

lemma replaceAll_of_not_test (h : p.test xs = false) : p.replaceAll new xs = xs := by
  induction xs with
  | nil => exact replaceAll_nil
  | cons x xs ih =>
    have hnone := test_eq_false_iff.mp h (x :: xs) List.suffix_rfl
    rw [replaceAll_cons_of_none hnone, ih (not_test_of_suffix (List.suffix_cons x xs) h)]

/-- What is put in the place of a match stands in the result. -/
lemma mem_replaceAll_of_test (h : p.test xs = true) {y : α} (hy : y ∈ new) :
    y ∈ p.replaceAll new xs := by
  induction xs with
  | nil =>
    obtain ⟨tail, htail, hrest⟩ := test_eq_true_iff.mp h
    rw [List.suffix_nil.mp htail, rest?_nil] at hrest
    cases hrest
  | cons x xs ih =>
    cases hrest : p.rest? (x :: xs) with
    | some rest =>
      rw [replaceAll_of_rest? hrest]
      exact List.mem_append_left _ hy
    | none =>
      rw [replaceAll_cons_of_none hrest]
      refine List.mem_cons_of_mem x (ih ?_)
      obtain ⟨tail, htail, hsome⟩ := test_eq_true_iff.mp h
      obtain rfl | htail := List.suffix_cons_iff.mp htail
      · rw [hrest] at hsome
        cases hsome
      · exact test_eq_true_iff.mpr ⟨tail, htail, hsome⟩

/-- A list is rewritten part by part if what follows its first part changes no match there. -/
lemma replaceAll_append
    (h : ∀ tail, tail <:+ xs → tail ≠ [] → p.rest? (tail ++ ys) = (p.rest? tail).map (· ++ ys)) :
    p.replaceAll new (xs ++ ys) = p.replaceAll new xs ++ p.replaceAll new ys := by
  induction hlength : xs.length using Nat.strong_induction_on generalizing xs with
  | _ n ih =>
    cases xs with
    | nil => simp
    | cons x xs =>
      have hlocal := h (x :: xs) List.suffix_rfl (by simp)
      cases hrest : p.rest? (x :: xs) with
      | none =>
        rw [hrest, Option.map_none, List.cons_append] at hlocal
        rw [List.cons_append, replaceAll_cons_of_none hlocal, replaceAll_cons_of_none hrest,
          List.cons_append]
        congr 1
        exact ih xs.length (by simp [← hlength])
          (fun tail htail => h tail (htail.trans (List.suffix_cons x xs))) rfl
      | some rest =>
        rw [hrest, Option.map_some] at hlocal
        obtain ⟨hsuffix, hlt⟩ := p.shorter hrest
        rw [replaceAll_of_rest? hlocal, replaceAll_of_rest? hrest, List.append_assoc]
        congr 1
        exact ih rest.length (hlength ▸ hlt) (fun tail htail => h tail (htail.trans hsuffix)) rfl

lemma replaceAll_append_of_none
    (h : ∀ tail, tail <:+ xs → tail ≠ [] → p.rest? (tail ++ ys) = none) :
    p.replaceAll new (xs ++ ys) = xs ++ p.replaceAll new ys := by
  induction xs with
  | nil => rfl
  | cons x xs ih =>
    have hnone : p.rest? (x :: (xs ++ ys)) = none := h (x :: xs) List.suffix_rfl (by simp)
    rw [List.cons_append, replaceAll_cons_of_none hnone,
      ih fun tail htail => h tail (htail.trans (List.suffix_cons x xs)), List.cons_append]

/-- How many matches `replaceAll` replaces. -/
def count (p : Pattern α) : List α → ℕ
  | []      => 0
  | x :: xs =>
    match h : p.rest? (x :: xs) with
    | some rest =>
      have := (p.shorter h).2
      p.count rest + 1
    | none      => p.count xs
termination_by xs => xs.length
decreasing_by
  · exact this
  · exact Nat.lt_succ_self xs.length

@[simp] lemma count_nil : p.count [] = 0 := by
  rw [count]

lemma count_of_rest? (h : p.rest? xs = some rest) : p.count xs = p.count rest + 1 := by
  cases xs with
  | nil => exact absurd (rest?_nil.symm.trans h) (by simp)
  | cons x xs =>
    rw [count]
    split
    · rename_i rest' h'
      rw [Option.some_inj.mp (h.symm.trans h')]
    · rename_i h'
      cases h.symm.trans h'

lemma count_cons_of_none (h : p.rest? (x :: xs) = none) : p.count (x :: xs) = p.count xs := by
  rw [count]
  split
  · rename_i rest' h'
    cases h.symm.trans h'
  · rfl

lemma count_eq_zero_iff : p.count xs = 0 ↔ p.test xs = false := by
  constructor
  · intro h
    rw [test_eq_false_iff]
    induction xs with
    | nil =>
      intro tail htail
      rw [List.suffix_nil.mp htail, rest?_nil]
    | cons x xs ih =>
      cases hrest : p.rest? (x :: xs) with
      | some rest => simp [count_of_rest? hrest] at h
      | none =>
        rw [count_cons_of_none hrest] at h
        intro tail htail
        obtain rfl | htail := List.suffix_cons_iff.mp htail
        · exact hrest
        · exact ih h tail htail
  · intro h
    induction xs with
    | nil => exact count_nil
    | cons x xs ih =>
      rw [count_cons_of_none (test_eq_false_iff.mp h _ List.suffix_rfl),
        ih (not_test_of_suffix (List.suffix_cons x xs) h)]

/-- No match starts in the list, whatever stands behind it. -/
def Skips (p : Pattern α) (xs : List α) : Prop :=
  ∀ tail, tail <:+ xs → tail ≠ [] → ∀ ys, p.rest? (tail ++ ys) = none

lemma Skips.append (hxs : p.Skips xs) (hys : p.Skips ys) : p.Skips (xs ++ ys) := by
  intro tail htail hne zs
  obtain hsuffix | ⟨before, rfl⟩ := List.suffix_or_suffix_of_suffix htail (List.suffix_append xs ys)
  · exact hys tail hsuffix hne zs
  · rw [List.suffix_append_self_iff] at htail
    by_cases hbefore : before = []
    · exact hys _ (by rw [hbefore, List.nil_append]) hne zs
    · rw [List.append_assoc]
      exact hxs before htail hbefore _

lemma replaceAll_append_of_skips (h : p.Skips xs) :
    p.replaceAll new (xs ++ ys) = xs ++ p.replaceAll new ys :=
  replaceAll_append_of_none fun tail htail hne => h tail htail hne ys

lemma count_append_of_skips (h : p.Skips xs) : p.count (xs ++ ys) = p.count ys := by
  induction xs with
  | nil => rfl
  | cons x xs ih =>
    have hnone : p.rest? (x :: (xs ++ ys)) = none := h (x :: xs) List.suffix_rfl (by simp) ys
    rw [List.cons_append, count_cons_of_none hnone,
      ih fun tail htail => h tail (htail.trans (List.suffix_cons x xs))]

end Pattern

/-! ### Phrases -/

def matchWord : List Char → List Char → Option (List Char)
  | [], cs          => some cs
  | _ :: _, []      => none
  | d :: w, c :: cs => if c.toUpper = d then matchWord w cs else none

/-- What is left after words with white space between them. -/
def matchPhrase : List (List Char) → List Char → Option (List Char)
  | [], cs      => some cs
  | [w], cs     => matchWord w cs
  | w :: ws, cs =>
    match matchWord w cs with
    | some (c :: rest) =>
      if Js.isWhitespace c then matchPhrase ws (rest.dropWhile Js.isWhitespace) else none
    | _                => none

section Phrases

variable {w cs rest : List Char} {ws : List (List Char)}

lemma matchWord_shorter (h : matchWord w cs = some rest) :
    rest <:+ cs ∧ rest.length + w.length = cs.length := by
  induction w generalizing cs with
  | nil =>
    cases h
    simp
  | cons d w ih =>
    cases cs with
    | nil => cases h
    | cons c cs =>
      rw [matchWord] at h
      split_ifs at h with hd
      obtain ⟨hsuffix, hlength⟩ := ih h
      refine ⟨hsuffix.trans (List.suffix_cons c cs), ?_⟩
      rw [List.length_cons, List.length_cons, ← hlength, Nat.add_assoc]

lemma matchPhrase_suffix (h : matchPhrase ws cs = some rest) : rest <:+ cs := by
  induction ws generalizing cs with
  | nil =>
    cases h
    exact List.suffix_rfl
  | cons w ws ih =>
    cases ws with
    | nil => exact (matchWord_shorter h).1
    | cons w' ws =>
      rw [matchPhrase] at h
      split at h
      · rename_i c cs' hword
        split_ifs at h
        exact ((ih h).trans (List.dropWhile_suffix _)).trans
          ((List.suffix_cons c cs').trans (matchWord_shorter hword).1)
      · cases h
      · simp

lemma matchPhrase_shorter (hne : ws.headD [] ≠ []) (h : matchPhrase ws cs = some rest) :
    rest <:+ cs ∧ rest.length < cs.length := by
  refine ⟨matchPhrase_suffix h, ?_⟩
  cases ws with
  | nil => exact absurd rfl hne
  | cons w ws =>
    have hlength : 0 < w.length := List.length_pos_iff.mpr hne
    cases ws with
    | nil =>
      have := (matchWord_shorter h).2
      omega
    | cons w' ws =>
      rw [matchPhrase] at h
      split at h
      · rename_i c cs' hword
        split_ifs at h
        have hword := (matchWord_shorter hword).2
        have hrest := (matchPhrase_suffix h).length_le
        have hdrop := (List.dropWhile_suffix Js.isWhitespace (l := cs')).length_le
        simp only [List.length_cons] at hword
        omega
      · cases h
      · simp

/-- The phrase of the words, in any case of letters. -/
def phrase (words : List String) (h : words.headD "" ≠ "") : Pattern Char where
  rest? := matchPhrase (words.map String.toList)
  shorter := matchPhrase_shorter (by
    cases words with
    | nil => exact absurd rfl h
    | cons w ws => simpa using h)

/-! ### What stands after a phrase -/

lemma matchWord_append {tail : List Char} (h : matchWord w cs = some rest) :
    matchWord w (cs ++ tail) = some (rest ++ tail) := by
  induction w generalizing cs with
  | nil =>
    cases h
    rfl
  | cons d w ih =>
    cases cs with
    | nil => cases h
    | cons c cs =>
      rw [matchWord] at h
      rw [List.cons_append, matchWord]
      split_ifs at h ⊢
      exact ih h

/-- A match stays one when something is written behind the text. -/
lemma matchPhrase_append {tail : List Char} (hws : ∀ w ∈ ws, w ≠ [])
    (h : matchPhrase ws cs = some rest) : matchPhrase ws (cs ++ tail) = some (rest ++ tail) := by
  induction ws generalizing cs with
  | nil =>
    cases h
    rfl
  | cons w ws ih =>
    cases ws with
    | nil => exact matchWord_append h
    | cons w' ws =>
      rw [matchPhrase] at h ⊢
      · split at h
        · rename_i c cs' hword
          split_ifs at h with hspace
          have hne : cs'.dropWhile Js.isWhitespace ≠ [] := by
            intro hnil
            have hw' : 0 < w'.length := List.length_pos_iff.mpr (hws w' (by simp))
            rw [hnil] at h
            have := (@matchPhrase_shorter [] rest (w' :: ws) (hws w' (by simp)) h).2
            simp at this
          rw [matchWord_append hword]
          simp only [List.cons_append, hspace, if_true]
          rw [List.dropWhile_append, if_neg (by simpa using hne)]
          exact ih (fun w hw => hws w (List.mem_cons_of_mem _ hw)) h
        · cases h
      · simp
      · simp

lemma matchWord_append_space {tail : List Char} (hw : ' ' ∉ w) (h : matchWord w cs = none) :
    matchWord w (cs ++ ' ' :: tail) = none := by
  induction w generalizing cs with
  | nil => cases h
  | cons d w ih =>
    cases cs with
    | nil =>
      have hd : ' '.toUpper ≠ d := fun heq => hw (heq ▸ List.mem_cons_self)
      rw [List.nil_append, matchWord, if_neg hd]
    | cons c cs =>
      rw [matchWord] at h
      rw [List.cons_append, matchWord]
      split_ifs at h ⊢
      · exact ih (fun hmem => hw (List.mem_cons_of_mem d hmem)) h
      · rfl

/-- No match crosses a space after which no end of the phrase stands. -/
lemma matchPhrase_append_space {tail : List Char} (hws : ∀ w ∈ ws, ' ' ∉ w)
    (htail : ∀ ws', ws' <:+ ws → ws' ≠ [] →
      matchPhrase ws' (tail.dropWhile Js.isWhitespace) = none)
    (h : matchPhrase ws cs = none) : matchPhrase ws (cs ++ ' ' :: tail) = none := by
  induction ws generalizing cs with
  | nil => cases h
  | cons w ws ih =>
    cases ws with
    | nil => exact matchWord_append_space (hws w (by simp)) h
    | cons w' ws =>
      have hend := htail (w' :: ws) (List.suffix_cons w _) (by simp)
      have hends := fun ws' hws' => htail ws' (List.IsSuffix.trans hws' (List.suffix_cons w _))
      have hspaces := fun w hw => hws w (List.mem_cons_of_mem _ hw)
      cases hword : matchWord w cs with
      | none =>
        rw [matchPhrase, matchWord_append_space (hws w (by simp)) hword]
        simp
      | some rest =>
        rw [matchPhrase, hword] at h
        · rw [matchPhrase, matchWord_append hword]
          · cases rest with
            | nil => simpa using fun _ => hend
            | cons c rest =>
              simp only [List.cons_append] at h ⊢
              split_ifs at h ⊢ with hspace
              · rw [List.dropWhile_append]
                split_ifs with hempty
                · simpa [Js.isWhitespace] using hend
                · exact ih hspaces hends h
              · rfl
          · simp
        · simp

variable {words : List String} {hwords : words.headD "" ≠ ""}

lemma phrase_rest? : (phrase words hwords).rest? cs = matchPhrase (words.map String.toList) cs := rfl

lemma phrase_test_of_append {tail : List Char} (hne : ∀ w ∈ words, w ≠ "")
    (h : (phrase words hwords).test (cs ++ tail) = false) : (phrase words hwords).test cs = false := by
  rw [Pattern.test_eq_false_iff] at h ⊢
  intro xs hxs
  have hws : ∀ w ∈ words.map String.toList, w ≠ [] := by
    rw [List.forall_mem_map]
    exact fun w hw => by simpa using hne w hw
  have hnone := h (xs ++ tail) (by simpa [List.suffix_append_self_iff] using hxs)
  cases hrest : (phrase words hwords).rest? xs with
  | none => rfl
  | some rest => exact absurd ((matchPhrase_append hws hrest).symm.trans hnone) (by simp)

/-- What is written behind a text after a space makes no match with it if no end of the phrase
stands there. -/
lemma phrase_test_append_space {tail : List Char} (hspace : ∀ w ∈ words, ' ' ∉ w.toList)
    (hends : ∀ ws ∈ (words.map String.toList).tails, ws ≠ [] →
      matchPhrase ws (tail.dropWhile Js.isWhitespace) = none)
    (htail : (phrase words hwords).test (' ' :: tail) = false)
    (h : (phrase words hwords).test cs = false) :
    (phrase words hwords).test (cs ++ ' ' :: tail) = false := by
  rw [Pattern.test_eq_false_iff] at h htail ⊢
  intro xs hxs
  obtain ⟨before, hbefore⟩ := hxs
  obtain ⟨xs', rfl, rfl⟩ | ⟨after, rfl, hafter⟩ := List.append_eq_append_iff.mp hbefore
  · refine matchPhrase_append_space ?_ (fun ws hws => hends ws (by simpa using hws)) ?_
    · rw [List.forall_mem_map]
      exact hspace
    · exact h xs' ⟨before, rfl⟩
  · exact htail xs ⟨after, hafter.symm⟩

end Phrases

/-! ### Words that clash -/

/-- The word and the text differ where both have a letter. -/
def clash : List Char → List Char → Bool
  | d :: w, c :: cs => c.toUpper ≠ d || clash w cs
  | _, _            => false

section Clashes

variable {w cs ys rest : List Char} {ws : List (List Char)} {p : Pattern Char}

lemma matchWord_of_clash (h : clash w cs = true) : matchWord w (cs ++ ys) = none := by
  induction w generalizing cs with
  | nil => cases h
  | cons d w ih =>
    cases cs with
    | nil => cases h
    | cons c cs =>
      rw [clash, Bool.or_eq_true, decide_eq_true_eq] at h
      rw [List.cons_append, matchWord]
      split_ifs with hd
      · exact ih (h.resolve_left (not_not_intro hd))
      · rfl

lemma matchPhrase_of_matchWord (h : matchWord w cs = none) : matchPhrase (w :: ws) cs = none := by
  cases ws with
  | nil => exact h
  | cons w' ws =>
    rw [matchPhrase, h]
    simp

lemma clash_map_toUpper : clash w (cs.map Char.toUpper) = clash w cs := by
  induction w generalizing cs with
  | nil => rfl
  | cons d w ih => cases cs <;> simp [clash, ih]

/-- No match starts in a text all ends of which clash with the first word of the pattern. -/
lemma skips_of_clash (hp : ∀ cs, matchWord w cs = none → p.rest? cs = none) {text : List Char}
    (htext : cs.map Char.toUpper = text) (h : ∀ tail ∈ text.tails, tail ≠ [] → clash w tail = true) :
    p.Skips cs := by
  intro tail htail hne ys
  refine hp _ (matchWord_of_clash ?_)
  rw [← clash_map_toUpper]
  refine h _ ((List.mem_tails ..).mpr ?_) (by simpa using hne)
  rw [← htext]
  exact htail.map Char.toUpper

lemma skips_of_forall_ne {d : Char} (hp : ∀ cs, matchWord (d :: w) cs = none → p.rest? cs = none)
    (h : ∀ c ∈ cs, c.toUpper ≠ d) : p.Skips cs := by
  intro tail htail hne ys
  obtain ⟨c, tail, rfl⟩ := List.exists_cons_of_ne_nil hne
  exact hp _ (if_neg (h c (htail.subset List.mem_cons_self)))

end Clashes

/-! ### Counting letters -/

def letters (x : Char) (cs : List Char) : ℕ := cs.countP (·.toUpper = x)

section Letters

variable {x c : Char} {w cs ys rest : List Char} {ws : List (List Char)}

@[simp] lemma letters_nil : letters x [] = 0 := rfl

@[simp] lemma letters_append : letters x (cs ++ ys) = letters x cs + letters x ys :=
  List.countP_append

lemma letters_cons : letters x (c :: cs) = letters x cs + if c.toUpper = x then 1 else 0 := by
  simp [letters, List.countP_cons]

lemma letters_eq_zero (h : ∀ c ∈ cs, c.toUpper ≠ x) : letters x cs = 0 :=
  List.countP_eq_zero.mpr fun c hc => by simpa using h c hc

lemma letters_le_of_suffix (h : ys <:+ cs) : letters x ys ≤ letters x cs := h.sublist.countP_le

lemma letters_of_matchWord (h : matchWord w cs = some rest) :
    letters x cs = w.count x + letters x rest := by
  induction w generalizing cs with
  | nil =>
    cases h
    simp
  | cons d w ih =>
    cases cs with
    | nil => cases h
    | cons c cs =>
      rw [matchWord] at h
      split_ifs at h with hd
      rw [letters_cons, ih h, List.count_cons, hd]
      simp only [beq_iff_eq]
      omega

lemma letters_dropWhile (hx : ∀ c, Js.isWhitespace c = true → c.toUpper ≠ x) :
    letters x (cs.dropWhile Js.isWhitespace) = letters x cs := by
  induction cs with
  | nil => rfl
  | cons c cs ih =>
    cases hc : Js.isWhitespace c with
    | true => rw [List.dropWhile_cons_of_pos hc, ih, letters_cons, if_neg (hx c hc), Nat.add_zero]
    | false => rw [List.dropWhile_cons_of_neg (by simp [hc])]

lemma letters_of_matchPhrase (hx : ∀ c, Js.isWhitespace c = true → c.toUpper ≠ x)
    (h : matchPhrase ws cs = some rest) : letters x cs = ws.flatten.count x + letters x rest := by
  induction ws generalizing cs with
  | nil =>
    cases h
    simp
  | cons w ws ih =>
    cases ws with
    | nil =>
      rw [letters_of_matchWord h]
      simp
    | cons w' ws =>
      rw [matchPhrase] at h
      · split at h
        · rename_i c cs' hword
          split_ifs at h with hspace
          rw [letters_of_matchWord hword, letters_cons, if_neg (hx c hspace), Nat.add_zero,
            ← letters_dropWhile hx, ih h]
          simp only [List.flatten_cons, List.count_append, Nat.add_assoc]
        · cases h
      · simp

/-- The letters of a text after every match of a phrase was replaced. -/
lemma letters_replaceAll_phrase {words : List String} {hwords : words.headD "" ≠ ""}
    {new : List Char} (hx : ∀ c, Js.isWhitespace c = true → c.toUpper ≠ x) :
    letters x ((phrase words hwords).replaceAll new cs) +
        (phrase words hwords).count cs * (words.map String.toList).flatten.count x =
      letters x cs + (phrase words hwords).count cs * letters x new := by
  induction hlength : cs.length using Nat.strong_induction_on generalizing cs with
  | _ n ih =>
    cases cs with
    | nil => simp
    | cons c cs =>
      cases hrest : (phrase words hwords).rest? (c :: cs) with
      | none =>
        rw [Pattern.replaceAll_cons_of_none hrest, Pattern.count_cons_of_none hrest, letters_cons,
          letters_cons]
        have := ih cs.length (by simp [← hlength]) rfl
        omega
      | some rest =>
        have hlt := ((phrase words hwords).shorter hrest).2
        have := ih rest.length (hlength ▸ hlt) rfl
        rw [Pattern.replaceAll_of_rest? hrest, Pattern.count_of_rest? hrest, letters_append,
          letters_of_matchPhrase hx hrest, Nat.succ_mul, Nat.succ_mul]
        omega

end Letters

/-! ### Texts that are rewritten in part -/

/-- Some of the matches are replaced. -/
inductive Pattern.Rewritten {α : Type*} (p : Pattern α) (new : List α) : List α → List α → Prop
  | nil : p.Rewritten new [] []
  | cons (x : α) {xs ys : List α} : p.Rewritten new xs ys → p.Rewritten new (x :: xs) (x :: ys)
  | replace {xs rest ys : List α} : p.rest? xs = some rest → p.Rewritten new rest ys →
      p.Rewritten new xs (new ++ ys)

namespace Pattern.Rewritten

section Lists

variable {α : Type*} {p : Pattern α} {new xs ys : List α}

lemma refl (xs : List α) : p.Rewritten new xs xs := by
  induction xs with
  | nil => exact .nil
  | cons x xs ih => exact .cons x ih

lemma append_left (zs : List α) (h : p.Rewritten new xs ys) :
    p.Rewritten new (zs ++ xs) (zs ++ ys) := by
  induction zs with
  | nil => exact h
  | cons z zs ih => exact .cons z ih

/-- To replace the other matches makes the same of both, if no match is lost or new. -/
theorem replaceAll_eq (hnew : p.Skips new)
    (hrest : ∀ x xs ys, p.Rewritten new xs ys →
      Option.Rel (p.Rewritten new) (p.rest? (x :: xs)) (p.rest? (x :: ys)))
    (h : p.Rewritten new xs ys) : p.replaceAll new xs = p.replaceAll new ys := by
  induction hlength : xs.length using Nat.strong_induction_on generalizing xs ys with
  | _ n ih =>
    cases h with
    | nil => rfl
    | replace hmatch hrewritten =>
      rw [replaceAll_of_rest? hmatch, replaceAll_append_of_skips hnew,
        ih _ (hlength ▸ (p.shorter hmatch).2) hrewritten rfl]
    | @cons x xs ys hrewritten =>
      have hrel := hrest x xs ys hrewritten
      cases hx : p.rest? (x :: xs) with
      | none =>
        rw [hx] at hrel
        cases hy : p.rest? (x :: ys) with
        | none =>
          rw [replaceAll_cons_of_none hx, replaceAll_cons_of_none hy,
            ih xs.length (by simp [← hlength]) hrewritten rfl]
        | some rest' => rw [hy] at hrel; cases hrel
      | some rest =>
        rw [hx] at hrel
        cases hy : p.rest? (x :: ys) with
        | none => rw [hy] at hrel; cases hrel
        | some rest' =>
          rw [hy] at hrel
          cases hrel with
          | some hrewritten' =>
            rw [replaceAll_of_rest? hx, replaceAll_of_rest? hy,
              ih rest.length (hlength ▸ (p.shorter hx).2) hrewritten' rfl]

end Lists

section Phrases

variable {p : Pattern Char} {v w xs ys new : List Char} {vs ws : List (List Char)} {d n : Char}

lemma matchWord_of_clash_word (hclash : clash v w = true) (hv : matchWord v xs ≠ none) :
    matchWord w xs = none := by
  induction v generalizing w xs with
  | nil => cases hclash
  | cons d v ih =>
    cases w with
    | nil => cases hclash
    | cons e w =>
      cases xs with
      | nil => rfl
      | cons c xs =>
        rw [matchWord] at hv ⊢
        split_ifs at hv with hd
        · split_ifs with he
          · rw [clash, Bool.or_eq_true, decide_eq_true_eq] at hclash
            refine ih (hclash.resolve_left (not_not_intro ?_)) hv
            rw [← he, Char.toUpper_toUpper_eq_toUpper, hd]
          · rfl
        · exact absurd rfl hv

/-- A word that neither a match nor its replacement can start within. -/
def Apart (v : List Char) (n : Char) (w : List Char) : Prop :=
  ∀ tail ∈ w.tails, tail ≠ [] → clash v tail = true ∧ tail.head? ≠ some n.toUpper

instance (v : List Char) (n : Char) (w : List Char) : Decidable (Apart v n w) :=
  inferInstanceAs (Decidable (∀ tail ∈ w.tails, _))

lemma Apart.tail {e : Char} (h : Apart v n (e :: w)) : Apart v n w :=
  fun tail htail => h tail (by simp [htail])

variable (hp : ∀ cs, matchWord v cs = none → p.rest? cs = none)
include hp

lemma rel_matchWord (hw : Apart v n w) (h : p.Rewritten (n :: new) xs ys) :
    Option.Rel (p.Rewritten (n :: new)) (matchWord w xs) (matchWord w ys) := by
  induction w generalizing xs ys with
  | nil => exact .some h
  | cons e w ih =>
    obtain ⟨hclash, hhead⟩ := hw (e :: w) (by simp) (by simp)
    cases h with
    | nil => exact .none
    | cons x h =>
      rw [matchWord, matchWord]
      split_ifs
      · exact ih hw.tail h
      · exact .none
    | replace hmatch h =>
      have hv : matchWord v xs ≠ none := fun hnone => by
        rw [hp xs hnone] at hmatch
        cases hmatch
      have hn : n.toUpper ≠ e := fun hn => hhead (by rw [hn]; rfl)
      rw [matchWord_of_clash_word hclash hv, List.cons_append, matchWord, if_neg hn]
      exact .none

lemma rel_dropWhile (hv : ∀ c cs, Js.isWhitespace c = true → matchWord v (c :: cs) = none)
    (hn : Js.isWhitespace n = false) (h : p.Rewritten (n :: new) xs ys) :
    p.Rewritten (n :: new) (xs.dropWhile Js.isWhitespace) (ys.dropWhile Js.isWhitespace) := by
  induction h with
  | nil => exact .nil
  | @cons x xs ys h ih =>
    cases hx : Js.isWhitespace x with
    | true => rwa [List.dropWhile_cons_of_pos hx, List.dropWhile_cons_of_pos hx]
    | false =>
      rw [List.dropWhile_cons_of_neg (by simp [hx]), List.dropWhile_cons_of_neg (by simp [hx])]
      exact .cons x h
  | @replace xs rest ys hmatch h ih =>
    have hxs : xs.dropWhile Js.isWhitespace = xs := by
      cases xs with
      | nil => rfl
      | cons x xs =>
        refine List.dropWhile_cons_of_neg fun hx => ?_
        rw [hp _ (hv x xs hx)] at hmatch
        cases hmatch
    rw [hxs, List.cons_append, List.dropWhile_cons_of_neg (by simp [hn]), ← List.cons_append]
    exact .replace hmatch h

/-- The words after the first are found alike. -/
lemma rel_matchPhrase (hv : ∀ c cs, Js.isWhitespace c = true → matchWord v (c :: cs) = none)
    (hn : Js.isWhitespace n = false) (hws : ∀ w ∈ ws, Apart v n w)
    (h : Option.Rel (p.Rewritten (n :: new)) (matchWord w xs) (matchWord w ys)) :
    Option.Rel (p.Rewritten (n :: new)) (matchPhrase (w :: ws) xs) (matchPhrase (w :: ws) ys) := by
  induction ws generalizing w xs ys with
  | nil => exact h
  | cons w' ws ih =>
    have hnext : ∀ {xs ys}, p.Rewritten (n :: new) xs ys →
        Option.Rel (p.Rewritten (n :: new)) (matchPhrase (w' :: ws) xs)
          (matchPhrase (w' :: ws) ys) := by
      intro xs ys h
      exact ih (fun w hw => hws w (List.mem_cons_of_mem _ hw))
        (rel_matchWord hp (hws w' List.mem_cons_self) h)
    rw [matchPhrase, matchPhrase]
    · cases hx : matchWord w xs with
      | none =>
        rw [hx] at h
        cases hy : matchWord w ys with
        | none => exact .none
        | some ys' => rw [hy] at h; cases h
      | some xs' =>
        rw [hx] at h
        cases hy : matchWord w ys with
        | none => rw [hy] at h; cases h
        | some ys' =>
          rw [hy] at h
          cases h with
          | some h =>
            cases h with
            | nil => exact .none
            | cons x h =>
              dsimp only
              split_ifs
              · exact hnext (rel_dropWhile hp hv hn h)
              · exact .none
            | replace hmatch h =>
              cases xs' with
              | nil => rw [Pattern.rest?_nil] at hmatch; cases hmatch
              | cons c xs' =>
                have hc : Js.isWhitespace c = false := by
                  rw [Bool.eq_false_iff]
                  intro hc
                  rw [hp _ (hv c xs' hc)] at hmatch
                  cases hmatch
                simp only [hc, hn, List.cons_append, Bool.false_eq_true, if_false]
                exact .none
    · simp
    · simp

end Phrases

end Pattern.Rewritten

/-! ### Behind a text -/

section Cut

variable {w cs rest tail : List Char} {ws : List (List Char)}

lemma matchWord_of_append (hne : w ≠ []) (htail : ∀ c ∈ tail, c.toUpper ∉ w)
    (h : matchWord w (cs ++ tail) = some rest) :
    ∃ rest', matchWord w cs = some rest' ∧ rest = rest' ++ tail := by
  induction w generalizing cs with
  | nil => exact absurd rfl hne
  | cons d w ih =>
    cases cs with
    | nil =>
      cases tail with
      | nil => cases h
      | cons c tail =>
        rw [List.nil_append, matchWord, if_neg] at h
        · cases h
        · exact fun hd => htail c List.mem_cons_self (hd ▸ List.mem_cons_self)
    | cons c cs =>
      rw [List.cons_append, matchWord] at h
      rw [matchWord]
      split_ifs at h ⊢ with hd
      by_cases hw : w = []
      · subst hw
        cases h
        exact ⟨cs, rfl, rfl⟩
      · exact ih hw (fun c hc hmem => htail c hc (List.mem_cons_of_mem d hmem)) h

/-- A match does not reach into what has no letter of the phrase. -/
lemma matchPhrase_of_append (hne : ∀ w ∈ ws, w ≠ []) (hws : ws ≠ [])
    (htail : ∀ c ∈ tail, ∀ w ∈ ws, c.toUpper ∉ w) (h : matchPhrase ws (cs ++ tail) = some rest) :
    ∃ rest', matchPhrase ws cs = some rest' ∧ rest = rest' ++ tail := by
  induction ws generalizing cs tail with
  | nil => exact absurd rfl hws
  | cons w ws ih =>
    have hw := hne w List.mem_cons_self
    have hwtail := fun c hc => htail c hc w List.mem_cons_self
    cases ws with
    | nil => exact matchWord_of_append hw hwtail h
    | cons w' ws =>
      have hnext : ∀ {xs ys}, ys <:+ tail → matchPhrase (w' :: ws) (xs ++ ys) = some rest →
          ∃ rest', matchPhrase (w' :: ws) xs = some rest' ∧ rest = rest' ++ ys := by
        intro xs ys hys hmatch
        refine ih (fun w hw => hne w (List.mem_cons_of_mem _ hw)) (by simp) ?_ hmatch
        exact fun c hc w hw => htail c (hys.subset hc) w (List.mem_cons_of_mem _ hw)
      -- no further word starts behind the text
      have hend : ∀ {ys}, ys <:+ tail → matchPhrase (w' :: ws) ys ≠ some rest := by
        intro ys hys hmatch
        obtain ⟨rest', hnil, -⟩ := @hnext [] ys hys hmatch
        have hw' : (w' :: ws).headD [] ≠ [] := hne w' (by simp)
        exact absurd (matchPhrase_shorter hw' hnil).2 (Nat.not_lt_zero _)
      rw [matchPhrase] at h ⊢
      · split at h
        · rename_i c after hword
          split_ifs at h with hspace
          obtain ⟨rest', hword', hafter⟩ := matchWord_of_append hw hwtail hword
          rw [hword']
          cases rest' with
          | nil =>
            rw [List.nil_append] at hafter
            exact absurd h (hend ((List.dropWhile_suffix _).trans
              (hafter ▸ List.suffix_cons c after)))
          | cons c' rest' =>
            rw [List.cons_append, List.cons.injEq] at hafter
            obtain ⟨rfl, rfl⟩ := hafter
            rw [List.dropWhile_append] at h
            split_ifs at h with hempty
            · exact absurd h (hend (List.dropWhile_suffix _))
            · simp only [hspace, if_true]
              exact hnext List.suffix_rfl h
        · cases h
      · simp
      · simp

/-- What is written behind a text without a letter of the phrase makes no match with it. -/
lemma phrase_test_append_other {words : List String} {hwords : words.headD "" ≠ ""}
    (hne : ∀ w ∈ words, w ≠ "") (htail : ∀ c ∈ tail, ∀ w ∈ words, c.toUpper ∉ w.toList)
    (h : (phrase words hwords).test cs = false) :
    (phrase words hwords).test (cs ++ tail) = false := by
  have hnil : words.map String.toList ≠ [] := by
    cases words with
    | nil => exact absurd rfl hwords
    | cons w words => simp
  have hcut : ∀ {xs ys rest}, ys <:+ tail →
      matchPhrase (words.map String.toList) (xs ++ ys) = some rest →
        ∃ rest', matchPhrase (words.map String.toList) xs = some rest' := by
    intro xs ys rest hys hmatch
    obtain ⟨rest', hrest', -⟩ := matchPhrase_of_append (by simpa using hne) hnil
      (by simpa using fun c hc w hw => htail c (hys.subset hc) w hw) hmatch
    exact ⟨rest', hrest'⟩
  rw [Pattern.test_eq_false_iff] at h ⊢
  rintro xs ⟨before, hbefore⟩
  rw [phrase_rest?, Option.eq_none_iff_forall_ne_some]
  intro rest hmatch
  obtain ⟨xs', rfl, rfl⟩ | ⟨after, rfl, hafter⟩ := List.append_eq_append_iff.mp hbefore
  · obtain ⟨rest', hrest'⟩ := hcut List.suffix_rfl hmatch
    have hnone := h xs' ⟨before, rfl⟩
    rw [phrase_rest?, hrest'] at hnone
    cases hnone
  · obtain ⟨rest', hrest'⟩ := @hcut [] xs rest ⟨after, hafter.symm⟩ hmatch
    have hshorter := ((phrase words hwords).shorter (phrase_rest?.trans hrest')).2
    exact absurd hshorter (Nat.not_lt_zero _)

end Cut

/-! ### Runs -/

section Runs

variable {α : Type*} [DecidableEq α]

/-- Put `new` in the place of every run of the elements `old`, from left to right; the first `skip`
elements are dropped. -/
def replaceRun (old new : List α) : ℕ → List α → List α
  | _, []             => []
  | skip + 1, _ :: xs => replaceRun old new skip xs
  | 0, x :: xs        =>
    if old <+: x :: xs then new ++ replaceRun old new (old.length - 1) xs
    else x :: replaceRun old new 0 xs

variable {old new xs ys : List α} {x y n : α}

lemma replaceRun_skip (skip : ℕ) :
    replaceRun old new skip xs = replaceRun old new 0 (xs.drop skip) := by
  induction xs generalizing skip with
  | nil => cases skip <;> rfl
  | cons x xs ih =>
    cases skip with
    | zero => rfl
    | succ skip => exact ih skip

lemma replaceRun_append (hne : old ≠ []) :
    replaceRun old new 0 (old ++ xs) = new ++ replaceRun old new 0 xs := by
  obtain ⟨o, os, rfl⟩ := List.exists_cons_of_ne_nil hne
  have hstarts : o :: os <+: o :: (os ++ xs) := List.prefix_append (o :: os) xs
  rw [List.cons_append, replaceRun, if_pos hstarts, replaceRun_skip]
  simp

lemma replaceRun_cons (h : ¬ old <+: x :: xs) :
    replaceRun old new 0 (x :: xs) = x :: replaceRun old new 0 xs := if_neg h

/-- Every list is made of runs and of elements at which no run starts. -/
theorem run_induction (hne : old ≠ []) {P : List α → Prop} (nil : P [])
    (run : ∀ xs, P xs → P (old ++ xs)) (cons : ∀ x xs, ¬ old <+: x :: xs → P xs → P (x :: xs))
    (xs : List α) : P xs := by
  induction hlength : xs.length using Nat.strong_induction_on generalizing xs with
  | _ n ih =>
    cases xs with
    | nil => exact nil
    | cons x xs =>
      by_cases h : old <+: x :: xs
      · obtain ⟨rest, hrest⟩ := h
        have hlt : rest.length < n := by
          have hpos := List.length_pos_iff.mpr hne
          have := congrArg List.length hrest
          rw [List.length_append] at this
          omega
        rw [← hrest]
        exact run rest (ih _ hlt rest rfl)
      · exact cons x xs h (ih xs.length (by simp [← hlength]) xs rfl)

lemma exists_of_replaceRun_eq_cons (hne : old ≠ [])
    (h : replaceRun old (n :: new) 0 xs = y :: ys) (hy : y ≠ n) :
    ∃ xs', xs = y :: xs' ∧ replaceRun old (n :: new) 0 xs' = ys := by
  induction xs using run_induction hne with
  | nil => cases h
  | run xs _ =>
    rw [replaceRun_append hne] at h
    exact absurd (List.cons.inj h).1.symm hy
  | cons x xs hrun _ =>
    rw [replaceRun_cons hrun] at h
    obtain ⟨rfl, hys⟩ := List.cons.inj h
    exact ⟨xs, rfl, hys⟩

omit [DecidableEq α] in
lemma not_prefix_cons_of_ne {o : α} {os : List α} (h : x ≠ o) : ¬ (o :: os) <+: x :: xs :=
  fun hstarts => h (List.cons_prefix_cons.mp hstarts).1.symm

/-- What has no element of a run stays as it is. -/
lemma replaceRun_append_of_notMem (hne : old ≠ []) (hys : ∀ y ∈ ys, y ∉ old) :
    replaceRun old new 0 (xs ++ ys) = replaceRun old new 0 xs ++ ys := by
  have hhead : ∀ y ∈ ys, ∀ zs, ¬ old <+: y :: zs := by
    intro y hy zs hstarts
    obtain ⟨o, os, rfl⟩ := List.exists_cons_of_ne_nil hne
    exact hys y hy ((List.cons_prefix_cons.mp hstarts).1 ▸ List.mem_cons_self)
  induction xs using run_induction hne with
  | nil =>
    rw [List.nil_append]
    induction ys with
    | nil => rfl
    | cons y ys ih =>
      rw [replaceRun_cons (hhead y List.mem_cons_self ys),
        ih (fun y hy => hys y (List.mem_cons_of_mem _ hy))
          (fun y hy => hhead y (List.mem_cons_of_mem _ hy))]
      rfl
  | run xs ih =>
    rw [List.append_assoc, replaceRun_append hne, replaceRun_append hne, ih, List.append_assoc]
  | cons x xs hrun ih =>
    have hrun' : ¬ old <+: x :: (xs ++ ys) := by
      intro hstarts
      obtain hshort | ⟨zs, hzs⟩ :=
        List.prefix_or_prefix_of_prefix hstarts (List.prefix_append (x :: xs) ys)
      · exact hrun hshort
      · cases zs with
        | nil => exact hrun (by rw [← hzs, List.append_nil])
        | cons z zs =>
          have hmem : z ∈ old := hzs ▸ List.mem_append_right _ List.mem_cons_self
          rw [← hzs, ← List.cons_append, List.prefix_append_right_inj] at hstarts
          exact hys z (hstarts.subset List.mem_cons_self) hmem
    rw [List.cons_append, replaceRun_cons hrun', replaceRun_cons hrun, ih, List.cons_append]

section Maps

variable {f : α → α} (hf : ∀ o ∈ old, ∀ x, f x = o ↔ x = o)
include hf

omit [DecidableEq α] in
lemma prefix_map_iff : old <+: xs.map f ↔ old <+: xs := by
  induction old generalizing xs with
  | nil => simp
  | cons o os ih =>
    cases xs with
    | nil => simp
    | cons x xs =>
      rw [List.map_cons, List.cons_prefix_cons, List.cons_prefix_cons,
        ih (fun o ho => hf o (List.mem_cons_of_mem _ ho)), eq_comm, hf o List.mem_cons_self, eq_comm]

omit [DecidableEq α] in
lemma infix_map_iff : old <:+: xs.map f ↔ old <:+: xs := by
  induction xs with
  | nil => rfl
  | cons x xs ih =>
    rw [List.map_cons, List.infix_cons_iff, List.infix_cons_iff, ih, ← List.map_cons,
      prefix_map_iff hf]

end Maps

/-- A scan that leaves the runs as they are may come before the replacement or after it. -/
lemma scan_replaceRun {F : ℕ → List α → List α} (hne : old ≠ []) (hnil : ∀ k, F k [] = [])
    (hold : ∀ k xs, F k (old ++ xs) = old ++ F k xs) (hnew : ∀ k xs, F k (new ++ xs) = new ++ F k xs)
    (hcons : ∀ k x, ∃ k' y, ∀ xs, F k (x :: xs) = y :: F k' xs)
    (hstarts : ∀ k xs, old <+: F k xs → old <+: xs) (k : ℕ) :
    F k (replaceRun old new 0 xs) = replaceRun old new 0 (F k xs) := by
  induction xs using run_induction hne generalizing k with
  | nil => rw [hnil]; exact hnil k
  | run xs ih => rw [replaceRun_append hne, hold, hnew, replaceRun_append hne, ih]
  | cons x xs hrun ih =>
    obtain ⟨k', y, hscan⟩ := hcons k x
    have hrun' : ¬ old <+: y :: F k' xs := by
      rw [← hscan]
      exact fun h => hrun (hstarts k _ h)
    rw [replaceRun_cons hrun, hscan, hscan, replaceRun_cons hrun', ih]

lemma replaceRun_of_no_run (h : ¬ old <:+: xs) : replaceRun old new 0 xs = xs := by
  induction xs with
  | nil => rfl
  | cons x xs ih =>
    rw [List.infix_cons_iff, not_or] at h
    rw [replaceRun_cons h.1, ih h.2]

lemma replaceRun_self (hne : old ≠ []) : replaceRun old old 0 xs = xs := by
  induction xs using run_induction hne with
  | nil => rfl
  | run xs ih => rw [replaceRun_append hne, ih]
  | cons x xs hrun ih => rw [replaceRun_cons hrun, ih]

lemma replaceRun_append_left {o : α} {os ws : List α} (h : o ∉ ws) :
    replaceRun (o :: os) new 0 (ws ++ xs) = ws ++ replaceRun (o :: os) new 0 xs := by
  induction ws with
  | nil => rfl
  | cons w ws ih =>
    rw [List.mem_cons, not_or] at h
    rw [List.cons_append, replaceRun_cons (not_prefix_cons_of_ne (Ne.symm h.1)), ih h.2,
      List.cons_append]

lemma exists_of_replaceRun_eq_append {ws : List α} (hne : old ≠ []) (hws : n ∉ ws)
    (h : replaceRun old (n :: new) 0 xs = ws ++ ys) :
    ∃ xs', xs = ws ++ xs' ∧ replaceRun old (n :: new) 0 xs' = ys := by
  induction ws generalizing xs with
  | nil => exact ⟨xs, rfl, h⟩
  | cons w ws ih =>
    rw [List.mem_cons, not_or] at hws
    obtain ⟨xs, rfl, hrest⟩ := exists_of_replaceRun_eq_cons hne h (Ne.symm hws.1)
    obtain ⟨xs', rfl, hys⟩ := ih hws.2 hrest
    exact ⟨xs', rfl, hys⟩

omit [DecidableEq α] in
lemma infix_append_iff {ws : List α} (hws : ∀ x ∈ xs, x ∉ ws) (hne : ws ≠ []) :
    ws <:+: xs ++ ys ↔ ws <:+: ys := by
  induction xs with
  | nil => rfl
  | cons x xs ih =>
    rw [List.cons_append, List.infix_cons_iff, ih fun x hx => hws x (List.mem_cons_of_mem _ hx)]
    refine or_iff_right fun hstarts => ?_
    obtain ⟨w, ws, rfl⟩ := List.exists_cons_of_ne_nil hne
    exact hws x List.mem_cons_self ((List.cons_prefix_cons.mp hstarts).1 ▸ List.mem_cons_self)

/-- Other elements stand together as before. -/
lemma infix_replaceRun_iff {o : α} {os ws : List α} (hne : ws ≠ []) (hold : ∀ x ∈ o :: os, x ∉ ws)
    (hnew : ∀ x ∈ n :: new, x ∉ ws) :
    ws <:+: replaceRun (o :: os) (n :: new) 0 xs ↔ ws <:+: xs := by
  induction xs using run_induction (List.cons_ne_nil o os) with
  | nil => rfl
  | run xs ih =>
    rw [replaceRun_append (List.cons_ne_nil o os), infix_append_iff hnew hne,
      infix_append_iff hold hne, ih]
  | cons x xs hrun ih =>
    rw [replaceRun_cons hrun, List.infix_cons_iff, List.infix_cons_iff, ih]
    refine or_congr_left ⟨?_, ?_⟩
    · rintro ⟨zs, hzs⟩
      rw [← replaceRun_cons hrun] at hzs
      obtain ⟨xs', hxs, -⟩ := exists_of_replaceRun_eq_append (List.cons_ne_nil o os)
        (hnew n List.mem_cons_self) hzs.symm
      exact hxs ▸ List.prefix_append ws xs'
    · rintro ⟨zs, hzs⟩
      rw [← replaceRun_cons hrun, ← hzs, replaceRun_append_left (hold o List.mem_cons_self)]
      exact List.prefix_append ws _

lemma count_replaceRun (hne : old ≠ []) (hold : x ∉ old) (hnew : x ∉ new) :
    (replaceRun old new 0 xs).count x = xs.count x := by
  induction xs using run_induction hne with
  | nil => rfl
  | run xs ih =>
    rw [replaceRun_append hne, List.count_append, List.count_append, ih,
      List.count_eq_zero.mpr hold, List.count_eq_zero.mpr hnew]
  | cons y xs hrun ih => rw [replaceRun_cons hrun, List.count_cons, List.count_cons, ih]

lemma count_replaceRun_le (hne : old ≠ []) (hnew : x ∉ new) :
    (replaceRun old new 0 xs).count x ≤ xs.count x := by
  induction xs using run_induction hne with
  | nil => exact le_rfl
  | run xs ih =>
    rw [replaceRun_append hne, List.count_append, List.count_append, List.count_eq_zero.mpr hnew]
    omega
  | cons y xs hrun ih =>
    rw [replaceRun_cons hrun, List.count_cons, List.count_cons]
    omega

/-- A run loses its elements. -/
lemma not_infix_of_count_replaceRun (hne : old ≠ []) (hold : x ∈ old) (hnew : x ∉ new)
    (h : (replaceRun old new 0 xs).count x = xs.count x) : ¬ old <:+: xs := by
  induction xs using run_induction hne with
  | nil => simpa using hne
  | run xs _ =>
    have hpos := List.count_pos_iff.mpr hold
    have hle : (replaceRun old new 0 xs).count x ≤ xs.count x := count_replaceRun_le hne hnew
    rw [replaceRun_append hne, List.count_append, List.count_append,
      List.count_eq_zero.mpr hnew] at h
    omega
  | cons y xs hrun ih =>
    rw [replaceRun_cons hrun, List.count_cons, List.count_cons] at h
    rw [List.infix_cons_iff, not_or]
    exact ⟨hrun, ih (by omega)⟩

/-- Lists that are the same but for what a map forgets are the same if their runs hide nothing. -/
lemma eq_of_replaceRun_eq {β : Type*} {f : α → β} (hne : old ≠ [])
    (hf : ∀ o ∈ old, ∀ x, f x = f o → x = o) (hmap : xs.map f = ys.map f)
    (h : replaceRun old new 0 xs = replaceRun old new 0 ys) : xs = ys := by
  have hstarts : ∀ {xs ys : List α}, xs.map f = ys.map f → old <+: xs → old <+: ys := by
    rintro xs ys hmap ⟨rest, rfl⟩
    rw [List.map_append] at hmap
    obtain ⟨os, ys, rfl, hos, -⟩ := List.map_eq_append_iff.mp hmap.symm
    have hold : os = old := by
      clear hmap h hne
      induction old generalizing os with
      | nil => exact List.map_eq_nil_iff.mp hos
      | cons o old ih =>
        obtain ⟨o', os, rfl, ho, hos⟩ := List.map_eq_cons_iff.mp hos
        rw [hf o List.mem_cons_self o' ho, ih (fun o ho => hf o (List.mem_cons_of_mem _ ho)) os hos]
    rw [hold]
    exact List.prefix_append old ys
  induction xs using run_induction hne generalizing ys with
  | nil => exact (List.map_eq_nil_iff.mp hmap.symm).symm
  | run xs ih =>
    obtain ⟨ys, rfl⟩ := hstarts hmap (List.prefix_append old xs)
    rw [List.map_append, List.map_append, List.append_cancel_left_eq] at hmap
    rw [replaceRun_append hne, replaceRun_append hne, List.append_cancel_left_eq] at h
    rw [ih hmap h]
  | cons x xs hrun ih =>
    obtain ⟨y, ys, rfl, -, hys⟩ := List.map_eq_cons_iff.mp hmap.symm
    have hrun' : ¬ old <+: y :: ys := fun hys => hrun (hstarts hmap.symm hys)
    rw [replaceRun_cons hrun, replaceRun_cons hrun', List.cons.injEq] at h
    rw [h.1, ih hys.symm h.2]

/-- To write runs of the second kind for those of the first and `n` for the second puts `n` in the
place of both. -/
lemma replaceRun_replaceRun {a b : α} {as bs : List α} (ha : a ∉ b :: bs) (hb : b ∉ a :: as)
    (hbs : b ∉ bs) (hn : n ∉ a :: as) :
    replaceRun (b :: bs) [n] 0 (replaceRun (a :: as) (b :: bs) 0 xs) =
      replaceRun (a :: as) [n] 0 (replaceRun (b :: bs) [n] 0 xs) := by
  have hnea := List.cons_ne_nil a as
  have hneb := List.cons_ne_nil b bs
  have hmark : a ∉ [n] := by simpa using fun h : a = n => hn (h ▸ List.mem_cons_self)
  have hshorter : ∀ {k : ℕ} {ws xs : List α}, ws ≠ [] → (ws ++ xs).length = k → xs.length < k := by
    rintro k ws xs hws rfl
    have := List.length_pos_iff.mpr hws
    rw [List.length_append]
    omega
  induction hlength : xs.length using Nat.strong_induction_on generalizing xs with
  | _ k ih =>
    by_cases hrun : a :: as <+: xs
    · obtain ⟨xs, rfl⟩ := hrun
      rw [replaceRun_append hnea, replaceRun_append hneb, replaceRun_append_left hb,
        replaceRun_append hnea, ih xs.length (hshorter hnea hlength) rfl]
    · by_cases hrun' : b :: bs <+: xs
      · obtain ⟨xs, rfl⟩ := hrun'
        rw [replaceRun_append_left ha, replaceRun_append hneb, replaceRun_append hneb,
          replaceRun_append_left hmark, ih xs.length (hshorter hneb hlength) rfl]
      · cases xs with
        | nil => rfl
        | cons x xs =>
          have hafter : ¬ b :: bs <+: x :: replaceRun (a :: as) (b :: bs) 0 xs := by
            intro hstarts
            obtain ⟨rfl, zs, hzs⟩ := List.cons_prefix_cons.mp hstarts
            obtain ⟨xs', rfl, -⟩ := exists_of_replaceRun_eq_append hnea hbs hzs.symm
            exact hrun' (List.prefix_append (b :: bs) xs')
          have hafter' : ¬ a :: as <+: x :: replaceRun (b :: bs) [n] 0 xs := by
            intro hstarts
            obtain ⟨rfl, zs, hzs⟩ := List.cons_prefix_cons.mp hstarts
            have hnas : n ∉ as := fun h => hn (List.mem_cons_of_mem _ h)
            obtain ⟨xs', rfl, -⟩ := exists_of_replaceRun_eq_append hneb hnas hzs.symm
            exact hrun (List.prefix_append (a :: as) xs')
          rw [replaceRun_cons hrun, replaceRun_cons hafter, replaceRun_cons hrun',
            replaceRun_cons hafter', ih xs.length (by simp [← hlength]) rfl]

end Runs

end Core
