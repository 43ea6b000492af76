import CtrlRecovery.Core.Rounding
import Mathlib.Algebra.Order.Field.Power
import Mathlib.Data.Int.Log

/-!
# Double precision

The numbers of JavaScript are doubles. A number is written as a rational here, and a decimal stands for
the double nearest to it, as it does in the source: the operations of an arithmetic round their operands
and their result. `Arithmetic.double` rounds to the nearest double, `Arithmetic.exact` not at all. Numbers
from `2 ^ 1024` on, where the doubles end, have no place in either.

What both have in common is all that the proofs use: rounding is monotone and odd, rounds nothing twice,
and moves a number by no more than a share of `2 ^ (-53)`.
-/

namespace Js

variable {x y : ℚ} {m n : ℤ}

/-! ### Whole numbers -/

/-- The nearest whole number; of two, the even one. -/
def roundEven (x : ℚ) : ℤ :=
  if x < ⌊x⌋ + 1 / 2 then ⌊x⌋
  else if ⌊x⌋ + 1 / 2 < x then ⌊x⌋ + 1
  else if Even ⌊x⌋ then ⌊x⌋ else ⌊x⌋ + 1

def IsNearest (x : ℚ) (n : ℤ) : Prop := |x - n| < 1 / 2 ∨ |x - n| = 1 / 2 ∧ Even n

lemma isNearest_roundEven (x : ℚ) : IsNearest x (roundEven x) := by
  have hle := Int.floor_le x
  have hlt := Int.lt_floor_add_one x
  rw [roundEven]
  split_ifs with hbelow habove heven
  · refine .inl (abs_lt.mpr ⟨by linarith, by linarith⟩)
  · refine .inl (abs_lt.mpr ⟨by push_cast; linarith, by push_cast; linarith⟩)
  · have hmid : x - ⌊x⌋ = 1 / 2 := by linarith
    exact .inr ⟨by rw [hmid]; norm_num, heven⟩
  · have hmid : x - (⌊x⌋ + 1 : ℤ) = -(1 / 2) := by push_cast; linarith
    exact .inr ⟨by rw [hmid]; norm_num, Int.even_add_one.mpr heven⟩

lemma IsNearest.abs_sub_le (h : IsNearest x n) : |x - n| ≤ 1 / 2 := by
  rcases h with h | ⟨h, -⟩
  · exact h.le
  · exact h.le

/-- Between two whole numbers that are nearest there is none other. -/
lemma IsNearest.le_of_le (hm : IsNearest x m) (hn : IsNearest y n) (h : x ≤ y) : m ≤ n := by
  by_contra hlt
  have hle : (n : ℚ) + 1 ≤ m := by exact_mod_cast not_le.mp hlt
  have hx := abs_le.mp hm.abs_sub_le
  have hy := abs_le.mp hn.abs_sub_le
  have hxm : x - m = -(1 / 2) := by linarith
  have hyn : y - n = 1 / 2 := by linarith
  have heq : m = n + 1 := by
    have : (m : ℚ) = n + 1 := by linarith
    exact_mod_cast this
  rcases hm with hm | ⟨-, hm⟩
  · rw [hxm] at hm
    norm_num at hm
  rcases hn with hn | ⟨-, hn⟩
  · rw [hyn] at hn
    norm_num at hn
  rw [heq, Int.even_add_one] at hm
  exact hm hn

lemma IsNearest.unique (hm : IsNearest x m) (hn : IsNearest x n) : m = n :=
  le_antisymm (hm.le_of_le hn le_rfl) (hn.le_of_le hm le_rfl)

lemma IsNearest.neg (h : IsNearest x n) : IsNearest (-x) (-n) := by
  have habs : |-x - (-n : ℤ)| = |x - n| := by
    rw [← abs_neg]
    congr 1
    push_cast
    ring
  rwa [IsNearest, habs, even_neg]

lemma roundEven_mono (h : x ≤ y) : roundEven x ≤ roundEven y :=
  (isNearest_roundEven x).le_of_le (isNearest_roundEven y) h

lemma roundEven_neg (x : ℚ) : roundEven (-x) = -roundEven x :=
  (isNearest_roundEven (-x)).unique (isNearest_roundEven x).neg

@[simp] lemma roundEven_intCast (n : ℤ) : roundEven n = n :=
  (isNearest_roundEven n).unique (.inl (by rw [sub_self]; norm_num))

/-! ### Doubles -/

/-- The exponent of the last digit of the double nearest to a number. -/
def ulpExponent (x : ℚ) : ℤ := max (Int.log 2 |x| - 52) (-1074)

/-- The double nearest to a number; of two, the one with an even last digit. -/
def toDouble (x : ℚ) : ℚ := roundEven (x * 2 ^ (-ulpExponent x)) * 2 ^ ulpExponent x

lemma ulpExponent_neg (x : ℚ) : ulpExponent (-x) = ulpExponent x := by
  rw [ulpExponent, ulpExponent, abs_neg]

lemma toDouble_neg (x : ℚ) : toDouble (-x) = -toDouble x := by
  rw [toDouble, toDouble, ulpExponent_neg, neg_mul, roundEven_neg]
  push_cast
  ring

lemma toDouble_of_le {e : ℤ} (hx : x = n * 2 ^ e) (he : ulpExponent x ≤ e) : toDouble x = x := by
  obtain ⟨k, hk⟩ := Int.eq_ofNat_of_zero_le (sub_nonneg.mpr he)
  have hscaled : x * 2 ^ (-ulpExponent x) = ((n * 2 ^ k : ℤ) : ℚ) := by
    have hadd : e + -ulpExponent x = k := by omega
    calc x * 2 ^ (-ulpExponent x) = n * (2 ^ e * 2 ^ (-ulpExponent x)) := by
          nth_rewrite 1 [hx]
          rw [mul_assoc]
      _ = n * 2 ^ k := by rw [← zpow_add₀ (by norm_num : (2 : ℚ) ≠ 0), hadd, zpow_natCast]
      _ = ((n * 2 ^ k : ℤ) : ℚ) := by push_cast; rfl
  rw [toDouble, hscaled, roundEven_intCast, ← hscaled, mul_assoc,
    ← zpow_add₀ (by norm_num : (2 : ℚ) ≠ 0), neg_add_cancel, zpow_zero, mul_one]

lemma lt_zpow_ulpExponent (x : ℚ) : |x| < 2 ^ (ulpExponent x + 53) := by
  have hlog := Int.lt_zpow_succ_log_self (R := ℚ) (b := 2) (by norm_num) |x|
  refine hlog.trans_le (zpow_le_zpow_right₀ (by norm_num) ?_)
  have hle : Int.log 2 |x| - 52 ≤ ulpExponent x := le_max_left ..
  omega

lemma zpow_ulpExponent_le (hx : x ≠ 0) (h : -1074 < ulpExponent x) :
    2 ^ (ulpExponent x + 52) ≤ |x| := by
  have hlog := Int.zpow_log_le_self (R := ℚ) (b := 2) (by norm_num) (abs_pos.mpr hx)
  have heq : ulpExponent x + 52 = Int.log 2 |x| := by
    rw [ulpExponent] at h ⊢
    omega
  rw [heq]
  exact_mod_cast hlog

lemma ulpExponent_mono (hx : 0 < x) (h : x ≤ y) : ulpExponent x ≤ ulpExponent y := by
  have hlog : Int.log 2 |x| ≤ Int.log 2 |y| := by
    rw [abs_of_pos hx, abs_of_pos (hx.trans_le h)]
    exact Int.log_mono_right hx h
  rw [ulpExponent, ulpExponent]
  omega

lemma toDouble_nonneg (h : 0 ≤ x) : 0 ≤ toDouble x := by
  have hscaled : 0 ≤ x * 2 ^ (-ulpExponent x) := by positivity
  have hround : (0 : ℤ) ≤ roundEven (x * 2 ^ (-ulpExponent x)) :=
    (roundEven_intCast 0).symm.trans_le (roundEven_mono (by exact_mod_cast hscaled))
  have hround' : (0 : ℚ) ≤ roundEven (x * 2 ^ (-ulpExponent x)) := by exact_mod_cast hround
  rw [toDouble]
  positivity

lemma toDouble_le (h : 0 < x) : toDouble x ≤ 2 ^ (ulpExponent x + 53) := by
  have hlt : x * 2 ^ (-ulpExponent x) < ((2 ^ 53 : ℤ) : ℚ) := by
    have hx := lt_zpow_ulpExponent x
    rw [abs_of_pos h, add_comm, zpow_add₀ (by norm_num)] at hx
    rw [zpow_neg, ← div_eq_mul_inv, div_lt_iff₀ (by positivity)]
    exact_mod_cast hx
  have hround := (roundEven_mono hlt.le).trans_eq (roundEven_intCast _)
  rw [toDouble, add_comm, zpow_add₀ (by norm_num)]
  gcongr
  exact_mod_cast hround

lemma le_toDouble (h : 0 < x) (hulp : -1074 < ulpExponent x) :
    2 ^ (ulpExponent x + 52) ≤ toDouble x := by
  have hle : ((2 ^ 52 : ℤ) : ℚ) ≤ x * 2 ^ (-ulpExponent x) := by
    have hx := zpow_ulpExponent_le h.ne' hulp
    rw [abs_of_pos h, add_comm, zpow_add₀ (by norm_num)] at hx
    rw [zpow_neg, ← div_eq_mul_inv, le_div_iff₀ (by positivity)]
    exact_mod_cast hx
  have hround := (roundEven_intCast _).symm.trans_le (roundEven_mono hle)
  rw [toDouble, add_comm, zpow_add₀ (by norm_num)]
  gcongr
  exact_mod_cast hround

/-- On positive numbers the rounding goes up with the number, within the numbers of one exponent and
from one exponent to the next. -/
lemma toDouble_mono_of_pos (hx : 0 < x) (h : x ≤ y) : toDouble x ≤ toDouble y := by
  rcases (ulpExponent_mono hx h).eq_or_lt with heq | hlt
  · rw [toDouble, toDouble, heq]
    gcongr
    exact roundEven_mono (by gcongr)
  · have hulp : -1074 < ulpExponent y := (le_max_right ..).trans_lt hlt
    calc toDouble x ≤ 2 ^ (ulpExponent x + 53) := toDouble_le hx
      _ ≤ 2 ^ (ulpExponent y + 52) := zpow_le_zpow_right₀ (by norm_num) (by omega)
      _ ≤ toDouble y := le_toDouble (hx.trans_le h) hulp

lemma toDouble_zero : toDouble 0 = 0 := by
  have hzero : roundEven 0 = 0 := roundEven_intCast 0
  rw [toDouble, zero_mul, hzero, Int.cast_zero, zero_mul]

lemma toDouble_mono : Monotone toDouble := by
  have hpos : ∀ {x y : ℚ}, 0 ≤ x → x ≤ y → toDouble x ≤ toDouble y := by
    intro x y hx h
    rcases hx.eq_or_lt with rfl | hx
    · rw [toDouble_zero]
      exact toDouble_nonneg h
    · exact toDouble_mono_of_pos hx h
  intro x y h
  rcases le_total 0 x with hx | hx
  · exact hpos hx h
  rcases le_total 0 y with hy | hy
  · have hle := toDouble_nonneg (neg_nonneg.mpr hx)
    rw [toDouble_neg] at hle
    linarith [toDouble_nonneg hy]
  · have hle := hpos (neg_nonneg.mpr hy) (neg_le_neg h)
    rw [toDouble_neg, toDouble_neg] at hle
    linarith

/-- The exponent of a rounded number is that of the number, or the next one after a carry. -/
lemma toDouble_toDouble_of_nonneg (h : 0 ≤ x) : toDouble (toDouble x) = toDouble x := by
  rcases (toDouble_nonneg h).eq_or_lt with hzero | hpos
  · rw [← hzero, toDouble_zero]
  have hne : 0 < x := by
    refine h.lt_of_ne fun hzero => ?_
    rw [← hzero, toDouble_zero] at hpos
    exact hpos.false
  have hbound : -1074 ≤ ulpExponent x := le_max_right ..
  rcases (toDouble_le hne).eq_or_lt with heq | hlt
  · have hx : toDouble x = (2 ^ 52 : ℤ) * 2 ^ (ulpExponent x + 1) := by
      rw [heq, add_comm, zpow_add₀ (by norm_num), add_comm (ulpExponent x), zpow_add₀ (by norm_num)]
      norm_num
      ring
    refine toDouble_of_le hx ?_
    have hlog : Int.log 2 |toDouble x| = ulpExponent x + 53 := by
      rw [heq, abs_of_pos (by positivity)]
      exact_mod_cast Int.log_zpow (R := ℚ) (b := 2) (by norm_num) (ulpExponent x + 53)
    rw [ulpExponent, hlog]
    omega
  · refine toDouble_of_le rfl ?_
    have hlog : Int.log 2 |toDouble x| < ulpExponent x + 53 := by
      rw [abs_of_pos hpos]
      exact (Int.lt_zpow_iff_log_lt (b := 2) (by norm_num) hpos).mp (by exact_mod_cast hlt)
    rw [ulpExponent]
    omega

lemma toDouble_toDouble (x : ℚ) : toDouble (toDouble x) = toDouble x := by
  rcases le_total 0 x with h | h
  · exact toDouble_toDouble_of_nonneg h
  · have hneg := toDouble_toDouble_of_nonneg (neg_nonneg.mpr h)
    rwa [toDouble_neg, toDouble_neg, neg_inj] at hneg

/-- Rounding moves a number by at most half its last digit. -/
lemma abs_toDouble_sub_le (x : ℚ) : |toDouble x - x| ≤ |x| / 2 ^ 53 + 2 ^ (-1075 : ℤ) := by
  rcases eq_or_ne x 0 with rfl | hne
  · rw [toDouble_zero, sub_self, abs_zero]
    positivity
  have hround := (isNearest_roundEven (x * 2 ^ (-ulpExponent x))).abs_sub_le
  have hulp : (0 : ℚ) < 2 ^ ulpExponent x := by positivity
  have hx : x = x * 2 ^ (-ulpExponent x) * 2 ^ ulpExponent x := by
    rw [mul_assoc, ← zpow_add₀ (by norm_num : (2 : ℚ) ≠ 0), neg_add_cancel, zpow_zero, mul_one]
  have hhalf : |toDouble x - x| ≤ 1 / 2 * 2 ^ ulpExponent x := by
    nth_rewrite 2 [hx]
    rw [toDouble, ← sub_mul, abs_mul, abs_of_pos hulp, abs_sub_comm]
    gcongr
  refine hhalf.trans ?_
  have hshare : 0 ≤ |x| / 2 ^ 53 := by positivity
  have htiny : (0 : ℚ) ≤ 2 ^ (-1075 : ℤ) := by positivity
  have hbound : -1074 ≤ ulpExponent x := le_max_right ..
  rcases hbound.eq_or_lt with heq | hlt
  · have hsplit : (2 : ℚ) ^ (-1075 : ℤ) = 1 / 2 * 2 ^ (-1074 : ℤ) := by
      rw [(by norm_num : (-1075 : ℤ) = -1 + -1074), zpow_add₀ (by norm_num)]
      norm_num
    rw [← heq, hsplit]
    linarith
  · have hle := zpow_ulpExponent_le hne hlt
    rw [zpow_add₀ (by norm_num)] at hle
    have hdigit : 1 / 2 * 2 ^ ulpExponent x ≤ |x| / 2 ^ 53 := by
      rw [le_div_iff₀ (by positivity)]
      norm_num at hle ⊢
      linarith
    linarith

/-! ### Arithmetics -/

/-- How the operands and the result of an operation are rounded. -/
structure Arithmetic where
  round : ℚ → ℚ
  round_mono : Monotone round
  round_neg : ∀ x, round (-x) = -round x
  round_one : round 1 = 1
  round_round : ∀ x, round (round x) = round x
  abs_round_sub_le : ∀ x, |round x - x| ≤ |x| / 2 ^ 53 + 2 ^ (-1075 : ℤ)

namespace Arithmetic

def exact : Arithmetic where
  round := id
  round_mono := monotone_id
  round_neg _ := rfl
  round_one := rfl
  round_round _ := rfl
  abs_round_sub_le x := by
    rw [id, sub_self, abs_zero]
    positivity

def double : Arithmetic where
  round := toDouble
  round_mono := toDouble_mono
  round_neg := toDouble_neg
  round_one := by decide +kernel
  round_round := toDouble_toDouble
  abs_round_sub_le := abs_toDouble_sub_le

variable (A : Arithmetic)

/-- `x + y`. -/
def add (x y : ℚ) : ℚ := A.round (A.round x + A.round y)

/-- `x - y`. -/
def sub (x y : ℚ) : ℚ := A.round (A.round x - A.round y)

/-- `x * y`. -/
def mul (x y : ℚ) : ℚ := A.round (A.round x * A.round y)

/-- `x / y`. -/
def div (x y : ℚ) : ℚ := A.round (A.round x / A.round y)

@[simp] lemma exact_add (x y : ℚ) : exact.add x y = x + y := rfl

@[simp] lemma exact_sub (x y : ℚ) : exact.sub x y = x - y := rfl

@[simp] lemma exact_mul (x y : ℚ) : exact.mul x y = x * y := rfl

lemma round_zero : A.round 0 = 0 := by
  have hneg := A.round_neg 0
  rw [neg_zero] at hneg
  linarith

lemma round_nonneg (h : 0 ≤ x) : 0 ≤ A.round x := A.round_zero.symm.trans_le (A.round_mono h)

lemma abs_round (x : ℚ) : |A.round x| = A.round |x| := by
  rcases le_total 0 x with h | h
  · rw [abs_of_nonneg h, abs_of_nonneg (A.round_nonneg h)]
  · have hneg := A.round_nonneg (neg_nonneg.mpr h)
    rw [abs_of_nonpos h, A.round_neg, abs_of_nonpos]
    rw [A.round_neg] at hneg
    linarith

lemma div_add_mem (hx : 0 ≤ x) (hy : 0 ≤ y) :
    0 ≤ A.div x (A.add x y) ∧ A.div x (A.add x y) ≤ 1 := by
  have hx' := A.round_nonneg hx
  have hy' := A.round_nonneg hy
  have hle : A.round x ≤ A.round (A.add x y) :=
    calc A.round x = A.round (A.round x) := (A.round_round x).symm
      _ ≤ A.round (A.round x + A.round y) := A.round_mono (le_add_of_nonneg_right hy')
      _ = A.round (A.add x y) := (A.round_round _).symm
  constructor
  · exact A.round_nonneg (div_nonneg hx' (hx'.trans hle))
  · rw [div, ← A.round_one]
    exact A.round_mono (A.round_one.symm ▸ div_le_one_of_le₀ hle (hx'.trans hle))

lemma mul_swap (x y : ℚ) : A.mul x y = A.mul y x := by rw [mul, mul, mul_comm]

@[simp] lemma mul_zero_left (x : ℚ) : A.mul 0 x = 0 := by
  rw [mul, A.round_zero, zero_mul, A.round_zero]

lemma mul_nonneg (hx : 0 ≤ x) (hy : 0 ≤ y) : 0 ≤ A.mul x y :=
  A.round_nonneg (Left.mul_nonneg (A.round_nonneg hx) (A.round_nonneg hy))

lemma mul_neg_left (x y : ℚ) : A.mul (-x) y = -A.mul x y := by
  rw [mul, mul, A.round_neg, neg_mul, A.round_neg]

lemma abs_round_le_one (h : |x| ≤ 1) : |A.round x| ≤ 1 := by
  rw [abs_round, ← A.round_one]
  exact A.round_mono (A.round_one.symm ▸ h)

lemma abs_round_le (h : |x| ≤ y) (hy : 1 / 100 ≤ y) : |A.round x| ≤ 9 / 8 * y := by
  have herror := A.abs_round_sub_le x
  have htiny : (2 : ℚ) ^ (-1075 : ℤ) ≤ 1 / 1600 := by
    have hle : (2 : ℚ) ^ (-1075 : ℤ) ≤ 2 ^ (-11 : ℤ) :=
      zpow_le_zpow_right₀ (by norm_num) (by norm_num)
    exact hle.trans (by norm_num)
  have hshare : |x| / 2 ^ 53 ≤ y / 16 := by
    rw [div_le_div_iff₀ (by norm_num) (by norm_num)]
    have hpos : 0 ≤ y := (abs_nonneg x).trans h
    nlinarith
  have habs := abs_sub_abs_le_abs_sub (A.round x) x
  linarith

lemma abs_mul_le {m : ℚ} (hx : |x| ≤ m) (hm : 1 / 100 ≤ m) (hy : |y| ≤ 1) :
    |A.mul x y| ≤ 9 / 8 * (9 / 8 * m) := by
  have hx' := A.abs_round_le hx hm
  have hprod : |A.round x * A.round y| ≤ 9 / 8 * m := by
    rw [abs_mul]
    exact (mul_le_of_le_one_right (abs_nonneg _) (A.abs_round_le_one hy)).trans hx'
  exact A.abs_round_le hprod (by linarith)

lemma abs_sub_le_one (hx : 0 ≤ x) (hx' : x ≤ 1) (hy : 0 ≤ y) (hy' : y ≤ 1) : |A.sub x y| ≤ 1 := by
  have hmono : ∀ {x : ℚ}, x ≤ 1 → A.round x ≤ 1 := fun h => A.round_one ▸ A.round_mono h
  apply A.abs_round_le_one
  rw [abs_le]
  constructor
  · linarith [A.round_nonneg hx, hmono hy']
  · linarith [A.round_nonneg hy, hmono hx']

lemma abs_mul_mono (w : ℚ) (hx : 0 ≤ x) (h : x ≤ y) : |A.mul w x| ≤ |A.mul w y| := by
  have hx' := A.round_nonneg hx
  have hle := A.round_mono h
  rw [mul, mul, abs_round, abs_round]
  apply A.round_mono
  rw [abs_mul, abs_mul, abs_of_nonneg hx', abs_of_nonneg (hx'.trans hle)]
  exact mul_le_mul_of_nonneg_left hle (abs_nonneg _)

/-- Numbers of four digits in the unit interval have the sum that they should, once it is rounded to four
digits again. -/
lemma roundFixed_add (hx : IsFixed 4 x) (hy : IsFixed 4 y) (hx' : |x| ≤ 1) (hy' : |y| ≤ 1) :
    roundFixed (A.add x y) 4 = x + y := by
  have hsmall : ∀ {z : ℚ}, |z| ≤ 4 → |A.round z - z| ≤ 1 / 10 ^ 6 := by
    intro z hz
    have htiny : (2 : ℚ) ^ (-1075 : ℤ) ≤ 2 ^ (-53 : ℤ) :=
      zpow_le_zpow_right₀ (by norm_num) (by norm_num)
    have hshare : |z| / 2 ^ 53 ≤ 4 / 2 ^ 53 := by gcongr
    refine (A.abs_round_sub_le z).trans ((add_le_add hshare htiny).trans ?_)
    norm_num
  have hround := A.abs_round_le_one hx'
  have hround' := A.abs_round_le_one hy'
  have herror := abs_le.mp (hsmall (hx'.trans (by norm_num)))
  have herror' := abs_le.mp (hsmall (hy'.trans (by norm_num)))
  have hsum := abs_le.mp (hsmall ((abs_add_le (A.round x) (A.round y)).trans (by linarith)))
  obtain ⟨n, hn⟩ := hx.add hy
  have hscaled : (x + y) * 10 ^ 4 = n := by rw [hn, div_mul_cancel₀ _ (by norm_num)]
  rw [hn]
  apply roundFixed_of_near
  rw [← hscaled, ← sub_mul, abs_mul, add, abs_of_pos (by norm_num : (0 : ℚ) < 10 ^ 4)]
  have htotal : |A.round (A.round x + A.round y) - (x + y)| ≤ 3 / 10 ^ 6 :=
    abs_le.mpr ⟨by linarith, by linarith⟩
  linarith

/-! #### Sums -/

def sum (xs : List ℚ) : ℚ := xs.foldl A.add 0

@[simp] lemma sum_nil : A.sum [] = 0 := rfl

lemma sum_append_singleton (xs : List ℚ) (x : ℚ) : A.sum (xs ++ [x]) = A.add (A.sum xs) x := by
  rw [sum, List.foldl_append]
  rfl

lemma exact_sum (xs : List ℚ) : exact.sum xs = xs.sum := by
  induction xs using List.reverseRecOn with
  | nil => rfl
  | append_singleton xs x ih => rw [sum_append_singleton, ih, exact_add, List.sum_append, List.sum_singleton]

lemma round_sum (xs : List ℚ) : A.round (A.sum xs) = A.sum xs := by
  cases xs using List.reverseRecOn with
  | nil => exact A.round_zero
  | append_singleton xs x => rw [sum_append_singleton, add, A.round_round]

/-- The sum of as many numbers as an array can have, each of them rounded and at most one half, is off
by at most the square of their number. -/
lemma abs_sum_sub_le {xs : List ℚ} (hlength : xs.length < 2 ^ 32)
    (hxs : ∀ x ∈ xs, A.round x = x ∧ |x| ≤ 1 / 2) :
    |A.sum xs - xs.sum| ≤ xs.length ^ 2 / 2 ^ 53 ∧ |xs.sum| ≤ xs.length / 2 := by
  induction xs using List.reverseRecOn with
  | nil => norm_num
  | append_singleton xs x ih =>
    rw [List.length_append, List.length_singleton] at hlength
    obtain ⟨hround, hx⟩ := hxs x (by simp)
    obtain ⟨hsum, hbound⟩ := ih (by omega) fun y hy => hxs y (by simp [hy])
    have hk : (xs.length : ℚ) ≤ 2 ^ 32 := by exact_mod_cast (by omega : xs.length ≤ 2 ^ 32)
    have hk0 : (0 : ℚ) ≤ xs.length := Nat.cast_nonneg _
    have hsquare : (xs.length : ℚ) ^ 2 / 2 ^ 53 ≤ xs.length / 2 := by
      rw [div_le_div_iff₀ (by norm_num) (by norm_num)]
      nlinarith
    rw [sum_append_singleton, List.sum_append, List.sum_singleton, List.length_append, List.length_singleton]
    -- the rounding of this addition, and what the sum was off before
    have hadd : A.add (A.sum xs) x = A.round (A.sum xs + x) := by rw [add, A.round_sum, hround]
    have htotal : |A.sum xs + x| ≤ xs.length + 1 / 2 :=
      calc |A.sum xs + x| = |(A.sum xs - xs.sum) + xs.sum + x| := by rw [sub_add_cancel]
        _ ≤ |A.sum xs - xs.sum| + |xs.sum| + |x| := abs_add_three ..
        _ ≤ xs.length + 1 / 2 := by linarith
    have herror := A.abs_round_sub_le (A.sum xs + x)
    have htiny : (2 : ℚ) ^ (-1075 : ℤ) ≤ 1 / 2 / 2 ^ 53 := by
      have hle : (2 : ℚ) ^ (-1075 : ℤ) ≤ 2 ^ (-54 : ℤ) :=
        zpow_le_zpow_right₀ (by norm_num) (by norm_num)
      refine hle.trans_eq ?_
      norm_num
    have hshare : |A.sum xs + x| / 2 ^ 53 ≤ (xs.length + 1 / 2) / 2 ^ 53 := by gcongr
    constructor
    · calc |A.add (A.sum xs) x - (xs.sum + x)|
          = |(A.round (A.sum xs + x) - (A.sum xs + x)) + (A.sum xs - xs.sum)| := by
            rw [hadd]
            congr 1
            ring
        _ ≤ |A.round (A.sum xs + x) - (A.sum xs + x)| + |A.sum xs - xs.sum| := abs_add_le ..
        _ ≤ (xs.length + 1 / 2) / 2 ^ 53 + 1 / 2 / 2 ^ 53 + xs.length ^ 2 / 2 ^ 53 := by linarith
        _ ≤ ((xs.length + 1 : ℕ) : ℚ) ^ 2 / 2 ^ 53 := by
            push_cast
            rw [← add_div, ← add_div]
            gcongr
            nlinarith
    · calc |xs.sum + x| ≤ |xs.sum| + |x| := abs_add_le ..
        _ ≤ ((xs.length + 1 : ℕ) : ℚ) / 2 := by
            push_cast
            linarith

end Arithmetic

end Js
