import CtrlRecovery.Js

/-!
# Lengths and slices in code units

`s.length` counts UTF-16 code units, of which a character has one or two. `s.slice(0, n)` has at most
`n` of them and is the text itself where that is not longer.
-/

namespace Js

/-- `s.length`. -/
def length (s : String) : ℕ := (codeUnits s).length

/-- The first characters with at most `n` code units. -/
def takeUnits : ℕ → List Char → List Char
  | _, []      => []
  | n, c :: cs =>
    if (charCodes c).length ≤ n then c :: takeUnits (n - (charCodes c).length) cs else []

/-- `s.slice(0, n)`. A character that is cut in half is left out, as half of it is no text. -/
def slice (s : String) (n : ℕ) : String := String.ofList (takeUnits n s.toList)

lemma prefix_takeUnits (n : ℕ) (cs : List Char) : takeUnits n cs <+: cs := by
  induction cs generalizing n with
  | nil => exact List.nil_prefix
  | cons c cs ih =>
    rw [takeUnits]
    split_ifs
    · exact List.prefix_cons_inj c |>.mpr (ih _)
    · exact List.nil_prefix

lemma length_takeUnits_le (n : ℕ) (cs : List Char) :
    ((takeUnits n cs).flatMap charCodes).length ≤ n := by
  induction cs generalizing n with
  | nil => exact Nat.zero_le n
  | cons c cs ih =>
    rw [takeUnits]
    split_ifs with hle
    · have hrest := ih (n - (charCodes c).length)
      rw [List.flatMap_cons, List.length_append]
      omega
    · exact Nat.zero_le n

lemma length_slice_le (s : String) (n : ℕ) : length (slice s n) ≤ n := by
  rw [length, codeUnits, slice, String.toList_ofList]
  exact length_takeUnits_le n s.toList

lemma mem_of_mem_slice {s : String} {n : ℕ} {c : Char} (h : c ∈ (slice s n).toList) :
    c ∈ s.toList := by
  rw [slice, String.toList_ofList] at h
  exact (prefix_takeUnits n s.toList).subset h

end Js
