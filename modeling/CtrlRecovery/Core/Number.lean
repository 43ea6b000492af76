import CtrlRecovery.Core.Rounding

/-!
# Numbers with infinities

A number of JavaScript is finite, infinite or not a number. The operations are exact on finite
numbers (`add_finite` and so on) and follow the language on the others: an operand that is not a
number makes the result one, and no comparison with it holds.
-/

namespace Js

inductive Number
  | nan
  | negInf
  | finite (x : ℚ)
  | posInf
  deriving DecidableEq, Repr

namespace Number

instance : Coe ℚ Number := ⟨finite⟩

/-- A missing number in arithmetic. -/
def ofOption : Option ℚ → Number
  | some x => finite x
  | none   => nan

/-- `x || d`: zero and `NaN` are falsy. -/
def orElse (x : Number) (d : ℚ) : Number :=
  match x with
  | nan      => d
  | finite x => (orDefault x d : ℚ)
  | x        => x

/-! ### Arithmetic -/

protected def neg : Number → Number
  | nan      => nan
  | negInf   => posInf
  | finite x => finite (-x)
  | posInf   => negInf

protected def add : Number → Number → Number
  | finite x, finite y => finite (x + y)
  | nan, _             => nan
  | _, nan             => nan
  | posInf, negInf     => nan
  | negInf, posInf     => nan
  | posInf, _          => posInf
  | _, posInf          => posInf
  | negInf, _          => negInf
  | _, negInf          => negInf

/-- Infinity with the sign of a number; the product of zero and infinity is not a number. -/
def infinity (x : ℚ) : Number := if 0 < x then posInf else if x < 0 then negInf else nan

protected def mul : Number → Number → Number
  | finite x, finite y => finite (x * y)
  | nan, _             => nan
  | _, nan             => nan
  | posInf, finite y   => infinity y
  | finite x, posInf   => infinity x
  | negInf, finite y   => infinity (-y)
  | finite x, negInf   => infinity (-x)
  | posInf, posInf     => posInf
  | negInf, negInf     => posInf
  | posInf, negInf     => negInf
  | negInf, posInf     => negInf

instance : Neg Number := ⟨Number.neg⟩

instance : Add Number := ⟨Number.add⟩

instance : Mul Number := ⟨Number.mul⟩

instance : Sub Number := ⟨fun x y => x + -y⟩

/-- `Math.min(x, y)`. -/
def mathMin : Number → Number → Number
  | finite x, finite y => finite (min x y)
  | nan, _             => nan
  | _, nan             => nan
  | negInf, _          => negInf
  | _, negInf          => negInf
  | posInf, y          => y
  | x, posInf          => x

/-- `Math.max(x, y)`. -/
def mathMax : Number → Number → Number
  | finite x, finite y => finite (max x y)
  | nan, _             => nan
  | _, nan             => nan
  | posInf, _          => posInf
  | _, posInf          => posInf
  | negInf, y          => y
  | x, negInf          => x

/-- An operation on finite numbers that leaves the others alone. -/
def mapFinite (f : ℚ → ℚ) : Number → Number
  | finite x => finite (f x)
  | x        => x

/-- `Math.round(x)`. -/
def mathRound : Number → Number := mapFinite fun x => Js.mathRound x

/-- `Number(x.toFixed(d))`. -/
def roundFixed (x : Number) (d : ℕ) : Number := mapFinite (fun x => Js.roundFixed x d) x

/-! ### Comparison -/

/-- `x <= y`. -/
def Le : Number → Number → Prop
  | nan, _             => False
  | _, nan             => False
  | negInf, _          => True
  | _, posInf          => True
  | finite x, finite y => x ≤ y
  | posInf, _          => False
  | _, negInf          => False

instance : ∀ x y : Number, Decidable (Le x y)
  | nan, _             => .isFalse id
  | negInf, nan        => .isFalse id
  | finite _, nan      => .isFalse id
  | posInf, nan        => .isFalse id
  | negInf, negInf     => .isTrue trivial
  | negInf, finite _   => .isTrue trivial
  | negInf, posInf     => .isTrue trivial
  | finite _, posInf   => .isTrue trivial
  | posInf, posInf     => .isTrue trivial
  | finite x, finite y => inferInstanceAs (Decidable (x ≤ y))
  | finite _, negInf   => .isFalse id
  | posInf, negInf     => .isFalse id
  | posInf, finite _   => .isFalse id

/-- `x < y`. -/
def Lt (x y : Number) : Prop := Le x y ∧ x ≠ y

instance (x y : Number) : Decidable (Lt x y) := inferInstanceAs (Decidable (_ ∧ _))

/-- `Number.isFinite(x) ? Math.floor(x) : d`. -/
def floorOr (d : ℤ) : Number → ℤ
  | finite x => ⌊x⌋
  | _        => d

variable {x y : ℚ} {a b : Number}

/-! ### Finite numbers -/

@[simp] lemma neg_finite : -finite x = finite (-x) := rfl

@[simp] lemma add_finite : finite x + finite y = finite (x + y) := rfl

@[simp] lemma sub_finite : finite x - finite y = finite (x - y) := by
  rw [sub_eq_add_neg]
  rfl

@[simp] lemma mul_finite : finite x * finite y = finite (x * y) := rfl

@[simp] lemma mathMin_finite : mathMin x y = finite (min x y) := rfl

@[simp] lemma mathMax_finite : mathMax x y = finite (max x y) := rfl

@[simp] lemma mathRound_finite : mathRound x = finite (Js.mathRound x) := rfl

@[simp] lemma roundFixed_finite {d : ℕ} : roundFixed x d = finite (Js.roundFixed x d) := rfl

@[simp] lemma ofOption_some : ofOption (some x) = finite x := rfl

@[simp] lemma orElse_finite {d : ℚ} : orElse x d = finite (orDefault x d) := rfl

@[simp] lemma finite_le_finite : Le x y ↔ x ≤ y := Iff.rfl

@[simp] lemma finite_lt_finite : Lt x y ↔ x < y := by
  rw [Lt, finite_le_finite, lt_iff_le_and_ne, ne_eq, finite.injEq]

lemma add_finite_zero (a : Number) : a + finite 0 = a := by
  cases a with
  | finite x => exact congrArg finite (add_zero x)
  | nan      => rfl
  | negInf   => rfl
  | posInf   => rfl

/-! ### Numbers that are not -/

@[simp] lemma nan_add : nan + a = nan := by cases a <;> rfl

@[simp] lemma nan_sub : nan - a = nan := nan_add

@[simp] lemma mul_nan : a * nan = nan := by cases a <;> rfl

@[simp] lemma mathRound_nan : mathRound nan = nan := rfl

@[simp] lemma not_nan_le : ¬ Le nan a := id

@[simp] lemma not_le_nan : ¬ Le a nan := by cases a <;> exact id

/-- `Math.max(0, Math.min(1, x || d))`, which is a finite number whatever `x` is. -/
def clampUnit (d : ℚ) : Number → ℚ
  | nan      => max 0 (min 1 d)
  | negInf   => 0
  | finite x => max 0 (min 1 (orDefault x d))
  | posInf   => 1

lemma clampUnit_nonneg (d : ℚ) (a : Number) : 0 ≤ clampUnit d a := by
  cases a with
  | nan      => exact le_max_left ..
  | negInf   => exact le_rfl
  | finite x => exact le_max_left ..
  | posInf   => exact zero_le_one

lemma clampUnit_le_one (d : ℚ) (a : Number) : clampUnit d a ≤ 1 := by
  cases a with
  | nan      => exact max_le zero_le_one (min_le_left ..)
  | negInf   => exact zero_le_one
  | finite x => exact max_le zero_le_one (min_le_left ..)
  | posInf   => exact le_rfl

end Number

/-- `String(x)`. -/
def numberText : Number → String
  | .nan      => "NaN"
  | .negInf   => "-Infinity"
  | .finite x => numberToString x
  | .posInf   => "Infinity"

end Js
