import CtrlRecovery.Core.JsonKeys
import CtrlRecovery.Core.Number

/-!
# Conversions of JSON values

What a value that was read from JSON becomes as a text or as a number. `String(v)` of an array joins the
texts of its elements, and of an object it calls its method `toString`; a field of this name hides the
method and cannot be called, so that the conversion throws. It succeeds exactly for the values in whose
nested arrays there is no such object (`isSome_toText?_iff`).
-/

namespace Core

/-! ### Numbers -/

namespace NumberText

def ofDigits (digits : List Char) : ℕ :=
  digits.foldl (fun n digit => 10 * n + (digit.toNat - '0'.toNat)) 0

def exponentOf : List Char → ℤ
  | '-' :: digits => -(ofDigits digits : ℤ)
  | '+' :: digits => ofDigits digits
  | digits        => ofDigits digits

/-- The number that a text stands for, before it is rounded. -/
def value (n : NumberText) : ℚ :=
  let unsigned := n.chars.dropWhile (· = '-')
  let mantissa := unsigned.takeWhile (· ≠ 'e')
  let exponent := (unsigned.dropWhile (· ≠ 'e')).drop 1
  let whole := mantissa.takeWhile (· ≠ '.')
  let fraction := (mantissa.dropWhile (· ≠ '.')).drop 1
  let sign : ℚ := if n.chars.head? = some '-' then -1 else 1
  sign * ofDigits (whole ++ fraction) * 10 ^ (exponentOf exponent - fraction.length)

/-- From here on a double is infinite. -/
def overflow : ℚ := 2 ^ 1024 - 2 ^ 970

def toNumber (n : NumberText) : Js.Number :=
  if n.value ≥ overflow then .posInf
  else if n.value ≤ -overflow then .negInf
  else .finite n.value

lemma toNumber_ne_nan (n : NumberText) : n.toNumber ≠ .nan := by
  rw [toNumber]
  split_ifs <;> nofun

/-- `String(n)`. -/
def toText (n : NumberText) : String :=
  match n.toNumber with
  | .posInf => "Infinity"
  | .negInf => "-Infinity"
  | _       => String.ofList n.chars

end NumberText

namespace Json

/-- The value, if it is a number. -/
def number? : Json → Option Js.Number
  | .number n => some n.toNumber
  | _         => none

/-- The value, if it is a text. -/
def string? : Json → Option String
  | .string s => some s
  | _         => none

def elements : Json → List Json
  | .array elems => elems
  | _            => []

lemma number?_ne_nan {v : Json} : v.number? ≠ some .nan := by
  cases v <;> simp [number?, NumberText.toNumber_ne_nan]

/-! ### Texts -/

/-- The text of a value, and what it contributes to the text of an array. -/
structure Shown where
  text : String
  element : String

def Shown.same (text : String) : Shown := ⟨text, text⟩

/-- A missing text stands for the exception. -/
def toTextAlgebra : Algebra (Option Shown) where
  null := some ⟨"null", ""⟩
  bool b := some (.same (if b then "true" else "false"))
  number n := some (.same n.toText)
  string s := some (.same s)
  array elems := (elems.mapM id).map fun shown => .same (",".intercalate (shown.map Shown.element))
  object fields :=
    if "toString" ∈ fields.map Prod.fst then none else some (.same "[object Object]")

/-- `String(v)`. -/
def toText? (v : Json) : Option String := (v.fold toTextAlgebra).map Shown.text

def textualAlgebra : Algebra Prop where
  null := True
  bool _ := True
  number _ := True
  string _ := True
  array elems := ∀ p ∈ elems, p
  object fields := "toString" ∉ fields.map Prod.fst

/-- No object with a field `toString` is the value, or an element of it at any depth. -/
def Textual (v : Json) : Prop := v.fold textualAlgebra

@[simp] lemma textual_array {elems : List Json} :
    Textual (.array elems) ↔ ∀ v ∈ elems, Textual v := by
  rw [Textual, fold_array]
  exact List.forall_mem_map

@[simp] lemma textual_object {fields : List (String × Json)} :
    Textual (.object fields) ↔ "toString" ∉ fields.map Prod.fst := by
  have hkeys : (fields.map fun f => (f.1, f.2.fold textualAlgebra)).map Prod.fst =
      fields.map Prod.fst := List.map_map
  rw [Textual, fold_object, ← hkeys]
  rfl

lemma isSome_mapM_iff {α β : Type*} {f : α → Option β} {xs : List α} :
    (xs.mapM f).isSome ↔ ∀ x ∈ xs, (f x).isSome := by
  induction xs with
  | nil => simp
  | cons x xs ih =>
    rw [List.mapM_cons, List.forall_mem_cons, ← ih]
    cases f x <;> cases xs.mapM f <;> simp

lemma isSome_bind_iff {α β : Type} {x : Option α} {f : α → Option β} {p : Prop}
    (h : ∀ a, (f a).isSome ↔ p) : (x >>= f).isSome ↔ x.isSome ∧ p := by
  cases x with
  | none => simp
  | some a => simpa using h a

lemma isSome_bind_pure_iff {α β : Type} {x : Option α} {f : α → β} :
    (x >>= fun a => pure (f a)).isSome ↔ x.isSome := by
  cases x <;> simp

lemma isSome_fold_toText (v : Json) : (v.fold toTextAlgebra).isSome ↔ v.Textual := by
  induction v with
  | null => simp [Textual, toTextAlgebra, textualAlgebra]
  | bool b => simp [Textual, toTextAlgebra, textualAlgebra]
  | number n => simp [Textual, toTextAlgebra, textualAlgebra]
  | string s => simp [Textual, toTextAlgebra, textualAlgebra]
  | array elems ih =>
    rw [fold_array, textual_array]
    simp only [toTextAlgebra, Option.isSome_map, isSome_mapM_iff, List.forall_mem_map, id]
    exact forall₂_congr ih
  | object fields ih =>
    rw [fold_object, textual_object]
    simp only [toTextAlgebra, List.map_map]
    split_ifs with h <;> simpa [Function.comp_def] using h

/-- The conversion to a text throws exactly where an object hides its method. -/
theorem isSome_toText?_iff {v : Json} : v.toText?.isSome ↔ v.Textual := by
  rw [toText?, Option.isSome_map, isSome_fold_toText]

end Json

end Core
