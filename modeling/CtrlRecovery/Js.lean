import CtrlRecovery.Core.LetterCase
import Mathlib.Data.Rat.Floor
import Mathlib.Data.List.Basic

/-!
# JavaScript primitives

The string and number operations of JavaScript that the program uses. Numbers are exact rationals here.
Where a result depends on how a double is rounded, the program's operations are taken over an
`Arithmetic`, and `Arithmetic.double` is that of the program.
-/

namespace Js

/-! ### Strings -/

/-- Upper case of one character. Besides `a`-`z` the characters listed here have ASCII letters in
their upper case; the others have none, and are left as they are. -/
def upperChars (c : Char) : List Char :=
  if 'a' ≤ c ∧ c ≤ 'z' then [Char.ofNat (c.toNat - 32)]
  else match c.toNat with
    | 0x00DF => ['S', 'S']
    | 0x0131 => ['I']
    | 0x0149 => [Char.ofNat 0x02BC, 'N']
    | 0x017F => ['S']
    | 0x01F0 => ['J', Char.ofNat 0x030C]
    | 0x1E96 => ['H', Char.ofNat 0x0331]
    | 0x1E97 => ['T', Char.ofNat 0x0308]
    | 0x1E98 => ['W', Char.ofNat 0x030A]
    | 0x1E99 => ['Y', Char.ofNat 0x030A]
    | 0x1E9A => ['A', Char.ofNat 0x02BE]
    | 0xFB00 => ['F', 'F']
    | 0xFB01 => ['F', 'I']
    | 0xFB02 => ['F', 'L']
    | 0xFB03 => ['F', 'F', 'I']
    | 0xFB04 => ['F', 'F', 'L']
    | 0xFB05 => ['S', 'T']
    | 0xFB06 => ['S', 'T']
    | _      => [c]

/-- `s.toUpperCase()`. -/
def toUpperCase (s : String) : String := String.ofList (s.toList.flatMap upperChars)

/-- The UTF-16 code units of one character. -/
def charCodes (c : Char) : List ℕ :=
  if c.toNat < 0x10000 then [c.toNat]
  else [0xD800 + (c.toNat - 0x10000) / 0x400, 0xDC00 + (c.toNat - 0x10000) % 0x400]

/-- The values of `s.charCodeAt(i)`, for all `i`. -/
def codeUnits (s : String) : List ℕ := s.toList.flatMap charCodes

/-- `s.includes(t)`. -/
def includes (s t : String) : Bool := s.toList.tails.any fun tail => t.toList.isPrefixOf tail

/-- `s.startsWith(t)`. -/
def startsWith (s t : String) : Bool := t.toList.isPrefixOf s.toList

/-- `s.slice(-n)` for a positive `n`: the last `n` characters. -/
def lastChars (n : ℕ) (s : String) : String :=
  String.ofList (s.toList.drop (s.toList.length - n))

/-- `s.slice(0, n)`: the first `n` characters. -/
def firstChars (n : ℕ) (s : String) : String := String.ofList (s.toList.take n)

/-- White space and line ends, as `trim` removes them. -/
def isWhitespace (c : Char) : Bool :=
  [0x9, 0xA, 0xB, 0xC, 0xD, 0x20, 0xA0, 0x1680, 0x2028, 0x2029, 0x202F, 0x205F, 0x3000,
    0xFEFF].contains c.toNat || (0x2000 ≤ c.toNat && c.toNat ≤ 0x200A)

lemma isWhitespace_of_printable {c : Char} (h : 33 ≤ c.toNat ∧ c.toNat ≤ 126) :
    isWhitespace c = false := by
  simp only [isWhitespace, List.contains_eq_mem, List.mem_cons, List.not_mem_nil, or_false,
    Bool.or_eq_false_iff, decide_eq_false_iff_not, Bool.and_eq_false_imp, decide_eq_true_eq]
  omega

/-- `s.trim()`. -/
def trim (s : String) : String :=
  String.ofList ((s.toList.dropWhile isWhitespace).reverse.dropWhile isWhitespace).reverse

lemma dropWhile_isWhitespace {cs : List Char} (h : ∀ c ∈ cs, isWhitespace c = false) :
    cs.dropWhile isWhitespace = cs := by
  cases cs with
  | nil => rfl
  | cons c cs => simp [h c List.mem_cons_self]

lemma trim_eq_self {s : String} (h : ∀ c ∈ s.toList, isWhitespace c = false) : trim s = s := by
  have hrev : ∀ c ∈ s.toList.reverse, isWhitespace c = false := by simpa using h
  rw [trim, dropWhile_isWhitespace h, dropWhile_isWhitespace hrev, List.reverse_reverse,
    String.ofList_toList]

/-- Membership in `[a-zA-Z0-9]`. -/
def isAsciiAlphanumeric (c : Char) : Bool :=
  ('a' ≤ c && c ≤ 'z') || ('A' ≤ c && c ≤ 'Z') || ('0' ≤ c && c ≤ '9')

/-- `s.replace(/[^a-zA-Z0-9]/g, '')`. -/
def keepAlphanumeric (s : String) : String :=
  String.ofList (s.toList.filter isAsciiAlphanumeric)

/-- `s || d` on strings: the empty and the missing string are falsy. -/
def orElse (s : Option String) (d : String) : String :=
  match s with
  | none   => d
  | some s => if s = "" then d else s

lemma orElse_ne_empty (s : Option String) {d : String} (hd : d ≠ "") : orElse s d ≠ "" := by
  cases s with
  | none => exact hd
  | some s =>
    rw [orElse]
    split_ifs with h
    · exact hd
    · exact h

lemma orElse_of_ne_empty {s d : String} (h : s ≠ "") : orElse (some s) d = s := if_neg h

/-! ### Numbers -/

/-- `x || 0` on numbers, where a missing number counts as 0. -/
def orZero (x : Option ℚ) : ℚ := x.getD 0

/-- `x || d` on numbers: zero is falsy. -/
def orDefault (x d : ℚ) : ℚ := if x = 0 then d else x

/-- `Math.round(x)`: ties go up. -/
def mathRound (x : ℚ) : ℤ := ⌊x + 1 / 2⌋

/-- The multiple of `10 ^ (-d)` nearest to `|x|`, in units of `10 ^ (-d)`; ties go up. -/
def fixedUnits (x : ℚ) (d : ℕ) : ℕ := ⌊|x| * 10 ^ d + 1 / 2⌋₊

/-- `Number(x.toFixed(d))`. -/
def roundFixed (x : ℚ) (d : ℕ) : ℚ :=
  if x < 0 then -(fixedUnits x d / 10 ^ d) else fixedUnits x d / 10 ^ d

/-- `x.toFixed(d)` for a positive number of digits `d` and `|x|` below `10 ^ 21`. -/
def toFixed (x : ℚ) (d : ℕ) : String :=
  let units := fixedUnits x d
  let digits := toString (units % 10 ^ d)
  let sign := if x < 0 then "-" else ""
  sign ++ toString (units / 10 ^ d) ++ "." ++
    String.ofList (List.replicate (d - digits.length) '0') ++ digits

/-- Digits with a comma after every third, least significant first. -/
def groupDigits : List Char → List Char
  | a :: b :: c :: d :: rest => a :: b :: c :: ',' :: groupDigits (d :: rest)
  | digits                   => digits

/-- `x.toLocaleString` in English, with exactly `d` fraction digits for a positive `d`. -/
def toLocaleFixed (x : ℚ) (d : ℕ) : String :=
  let units := fixedUnits x d
  let digits := toString (units % 10 ^ d)
  let whole := String.ofList (groupDigits (toString (units / 10 ^ d)).toList.reverse).reverse
  let sign := if x < 0 then "-" else ""
  sign ++ whole ++ "." ++ String.ofList (List.replicate (d - digits.length) '0') ++ digits

/-- Decimal digits of the fraction `num / den` below 1, at most `fuel` of them. -/
def fractionDigits (den : ℕ) : ℕ → ℕ → String
  | _, 0          => ""
  | 0, _          => ""
  | num, fuel + 1 => toString (num * 10 / den) ++ fractionDigits den (num * 10 % den) fuel

/-- `String(x)` for a number in the range that is printed without an exponent. -/
def numberToString (x : ℚ) : String :=
  let sign := if x < 0 then "-" else ""
  let whole := toString (x.num.natAbs / x.den)
  if x.den = 1 then sign ++ whole
  else sign ++ whole ++ "." ++ fractionDigits x.den (x.num.natAbs % x.den) 17

/-- Rupees with two decimals from an amount in paise: `(paise / 100).toFixed(2)`. -/
def rupees (paise : ℚ) : String := toFixed (paise / 100) 2

/-- The bit pattern of a 32-bit integer read as a signed number. -/
def toInt32 (n : ℤ) : ℤ :=
  let m := n % 2 ^ 32
  if m < 2 ^ 31 then m else m - 2 ^ 32

/-! ### Arrays -/

/-- The length of `xs.slice(0, n)` for an array of a length; a negative `n` counts from the end. -/
def sliceLength (n : ℚ) (length : ℕ) : ℕ :=
  if 0 ≤ n then min ⌊n⌋₊ length else length - ⌊-n⌋₊

/-- `xs.slice(0, n)`. -/
def sliceTo {α : Type*} (n : ℚ) (xs : List α) : List α := xs.take (sliceLength n xs.length)

lemma sliceLength_le (n : ℚ) (length : ℕ) : sliceLength n length ≤ length := by
  rw [sliceLength]
  split_ifs
  · exact min_le_right ..
  · exact Nat.sub_le ..

@[simp] lemma length_sliceTo {α : Type*} (n : ℚ) (xs : List α) :
    (sliceTo n xs).length = sliceLength n xs.length := by
  rw [sliceTo, List.length_take, min_eq_left (sliceLength_le n _)]

lemma prefix_sliceTo {α : Type*} (n : ℚ) (xs : List α) : sliceTo n xs <+: xs := List.take_prefix ..

/-! ### Values -/

/-- A value that JSON or a query string gives, other than `null`. A list holds the texts of its
elements. -/
inductive Value
  | text (s : String)
  | number (n : ℚ)
  | boolean (b : Bool)
  | list (elements : List String)
  | object
  deriving DecidableEq

namespace Value

def truthy : Value → Bool
  | .text s    => s ≠ ""
  | .number n  => n ≠ 0
  | .boolean b => b
  | .list _    => true
  | .object    => true

/-- `String(value)`. -/
def toText : Value → String
  | .text s        => s
  | .number n      => numberToString n
  | .boolean b     => if b then "true" else "false"
  | .list elements => ",".intercalate elements
  | .object        => "[object Object]"

/-- `String(value.slice(0, n))`; only texts and lists have a `slice`. -/
def slice? (n : ℕ) : Value → Option String
  | .text s        => some (firstChars n s)
  | .list elements => some (",".intercalate (elements.take n))
  | _              => none

def text? : Value → Option String
  | .text s => some s
  | _       => none

/-- The first truthy one of the values, as `a || b || c` gives it. -/
def firstTruthy (values : List (Option Value)) : Option Value :=
  values.findSome? fun value => value.filter truthy

end Value

end Js
