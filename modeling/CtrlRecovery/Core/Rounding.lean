import CtrlRecovery.Js
import Mathlib.Algebra.Order.Round
import Mathlib.Tactic.FieldSimp
import Mathlib.Tactic.Linarith
import Mathlib.Tactic.Positivity

/-!
# Rounding

`Js.mathRound` and `Js.roundFixed` are monotone, move a number by at most half a unit of the last
digit, and leave the numbers alone that already have so many digits (`Js.IsFixed`). A number of `d`
digits is therefore passed by no rounding: what is at most such a number is rounded to at most it
(`roundFixed_le`).
-/

namespace Js

variable {x y : ℚ} {d : ℕ}

/-! ### Whole numbers -/

lemma mathRound_mono (h : x ≤ y) : mathRound x ≤ mathRound y :=
  Int.floor_le_floor (by linarith)

@[simp] lemma mathRound_intCast (n : ℤ) : mathRound n = n := by
  rw [mathRound, Int.floor_eq_iff]
  constructor <;> linarith

lemma mathRound_le (n : ℤ) (h : x ≤ n) : mathRound x ≤ n :=
  (mathRound_mono h).trans_eq (mathRound_intCast n)

lemma le_mathRound (n : ℤ) (h : (n : ℚ) ≤ x) : n ≤ mathRound x :=
  (mathRound_intCast n).symm.trans_le (mathRound_mono h)

lemma abs_mathRound_sub_le (x y : ℚ) : |(mathRound x - mathRound y : ℚ)| ≤ |x - y| + 1 := by
  have hx := Int.floor_le (x + 1 / 2)
  have hx' := Int.lt_floor_add_one (x + 1 / 2)
  have hy := Int.floor_le (y + 1 / 2)
  have hy' := Int.lt_floor_add_one (y + 1 / 2)
  rw [mathRound, mathRound, abs_le]
  constructor
  · linarith [neg_abs_le (x - y)]
  · linarith [le_abs_self (x - y)]

/-! ### Numbers of `d` digits -/

/-- A multiple of `10 ^ (-d)`. -/
def IsFixed (d : ℕ) (x : ℚ) : Prop := ∃ n : ℤ, x = n / 10 ^ d

lemma isFixed_intCast (n : ℤ) : IsFixed d n := ⟨n * 10 ^ d, by push_cast; field_simp⟩

lemma isFixed_zero : IsFixed d 0 := ⟨0, by simp⟩

lemma IsFixed.neg (h : IsFixed d x) : IsFixed d (-x) := by
  obtain ⟨n, rfl⟩ := h
  exact ⟨-n, by push_cast; ring⟩

lemma IsFixed.add (hx : IsFixed d x) (hy : IsFixed d y) : IsFixed d (x + y) := by
  obtain ⟨m, rfl⟩ := hx
  obtain ⟨n, rfl⟩ := hy
  exact ⟨m + n, by push_cast; ring⟩

lemma IsFixed.sub (hx : IsFixed d x) (hy : IsFixed d y) : IsFixed d (x - y) := by
  rw [sub_eq_add_neg]
  exact hx.add hy.neg

lemma IsFixed.max (hx : IsFixed d x) (hy : IsFixed d y) : IsFixed d (max x y) := by
  rcases max_choice x y with h | h <;> rwa [h]

lemma IsFixed.min (hx : IsFixed d x) (hy : IsFixed d y) : IsFixed d (min x y) := by
  rcases min_choice x y with h | h <;> rwa [h]

lemma isFixed_roundFixed (x : ℚ) (d : ℕ) : IsFixed d (roundFixed x d) := by
  rw [roundFixed]
  split_ifs
  · exact ⟨-fixedUnits x d, by push_cast; ring⟩
  · exact ⟨fixedUnits x d, by push_cast; ring⟩

lemma roundFixed_of_nonneg (h : 0 ≤ x) : roundFixed x d = fixedUnits x d / 10 ^ d :=
  if_neg (not_lt.mpr h)

lemma roundFixed_neg (x : ℚ) (d : ℕ) : roundFixed (-x) d = -roundFixed x d := by
  rcases lt_trichotomy x 0 with h | rfl | h
  · have hneg : ¬ -x < 0 := by linarith
    rw [roundFixed, roundFixed, if_neg hneg, if_pos h, fixedUnits, fixedUnits, abs_neg, neg_neg]
  · have hunits : fixedUnits 0 d = 0 := by
      rw [fixedUnits, Nat.floor_eq_zero, abs_zero]
      norm_num
    simp [roundFixed, hunits]
  · have hneg : -x < 0 := by linarith
    rw [roundFixed, roundFixed, if_pos hneg, if_neg (not_lt.mpr h.le), fixedUnits, fixedUnits, abs_neg]

lemma fixedUnits_mono (hx : 0 ≤ x) (h : x ≤ y) : fixedUnits x d ≤ fixedUnits y d := by
  rw [fixedUnits, fixedUnits, abs_of_nonneg hx, abs_of_nonneg (hx.trans h)]
  gcongr

lemma roundFixed_nonneg (h : 0 ≤ x) : 0 ≤ roundFixed x d := by
  rw [roundFixed_of_nonneg h]
  positivity

lemma roundFixed_mono (h : x ≤ y) : roundFixed x d ≤ roundFixed y d := by
  have hpos : ∀ {x y : ℚ}, 0 ≤ x → x ≤ y → roundFixed x d ≤ roundFixed y d := by
    intro x y hx h
    rw [roundFixed_of_nonneg hx, roundFixed_of_nonneg (hx.trans h)]
    gcongr
    exact_mod_cast fixedUnits_mono hx h
  rcases le_total 0 x with hx | hx
  · exact hpos hx h
  · have hneg : roundFixed x d = -roundFixed (-x) d := by rw [roundFixed_neg, neg_neg]
    rcases le_total 0 y with hy | hy
    · have hle := roundFixed_nonneg (d := d) (neg_nonneg.mpr hx)
      have hge := roundFixed_nonneg (d := d) hy
      linarith
    · have hle := hpos (neg_nonneg.mpr hy) (neg_le_neg h)
      rw [roundFixed_neg] at hle
      linarith

/-- A number of `d` digits is left as it is. -/
lemma roundFixed_of_isFixed (h : IsFixed d x) : roundFixed x d = x := by
  have hpos : ∀ {x : ℚ}, 0 ≤ x → IsFixed d x → roundFixed x d = x := by
    rintro x hx ⟨n, rfl⟩
    have hpow : (0 : ℚ) < 10 ^ d := by positivity
    have hn : 0 ≤ n := by
      have := mul_nonneg hx hpow.le
      rw [div_mul_cancel₀ _ hpow.ne'] at this
      exact_mod_cast this
    obtain ⟨n, rfl⟩ := Int.eq_ofNat_of_zero_le hn
    have hunits : fixedUnits (((n : ℤ) : ℚ) / 10 ^ d) d = n := by
      rw [fixedUnits, abs_of_nonneg hx, div_mul_cancel₀ _ hpow.ne', Nat.floor_eq_iff (by positivity)]
      push_cast
      constructor <;> linarith
    rw [roundFixed_of_nonneg hx, hunits]
    push_cast
    rfl
  rcases le_total 0 x with hx | hx
  · exact hpos hx h
  · have hneg := hpos (neg_nonneg.mpr hx) h.neg
    rw [roundFixed_neg] at hneg
    linarith

lemma roundFixed_le (hy : IsFixed d y) (h : x ≤ y) : roundFixed x d ≤ y :=
  (roundFixed_mono h).trans_eq (roundFixed_of_isFixed hy)

/-- A number is rounded to the one of `d` digits that it is closest to. -/
lemma roundFixed_of_near {n : ℤ} (h : |x * 10 ^ d - n| < 1 / 2) : roundFixed x d = n / 10 ^ d := by
  have hpos : ∀ {x : ℚ} {n : ℤ}, 0 ≤ x → |x * 10 ^ d - n| < 1 / 2 → roundFixed x d = n / 10 ^ d := by
    intro x n hx h
    obtain ⟨hlow, hhigh⟩ := abs_lt.mp h
    have hscaled : 0 ≤ x * 10 ^ d := by positivity
    have hn : -1 < n := by
      have : (-1 : ℚ) < n := by linarith
      exact_mod_cast this
    obtain ⟨n, rfl⟩ := Int.eq_ofNat_of_zero_le (by omega : 0 ≤ n)
    have hunits : fixedUnits x d = n := by
      rw [fixedUnits, abs_of_nonneg hx, Nat.floor_eq_iff (by positivity)]
      push_cast at hlow hhigh
      constructor <;> linarith
    rw [roundFixed_of_nonneg hx, hunits]
    push_cast
    rfl
  rcases le_total 0 x with hx | hx
  · exact hpos hx h
  · have habs : |-x * 10 ^ d - (-n : ℤ)| < 1 / 2 := by
      rw [← abs_neg] at h
      convert h using 2
      push_cast
      ring
    have hneg := hpos (neg_nonneg.mpr hx) habs
    rw [roundFixed_neg, neg_eq_iff_eq_neg] at hneg
    rw [hneg]
    push_cast
    ring

/-- Midway between two numbers of `d` digits, by at most `ε`. -/
def NearMidway (d : ℕ) (ε x : ℚ) : Prop := ∃ n : ℤ, |x - (n + 1 / 2) / 10 ^ d| ≤ ε

/-- What is close to a number of `d` digits is not near a midway point. -/
lemma not_nearMidway {ε z : ℚ} (n : ℤ) (h : |z * 10 ^ d - n| + ε * 10 ^ d < 1 / 2) :
    ¬ NearMidway d ε z := by
  rintro ⟨k, hk⟩
  have hpow : (0 : ℚ) < 10 ^ d := by positivity
  have hscaled : |z * 10 ^ d - (k + 1 / 2)| ≤ ε * 10 ^ d := by
    calc |z * 10 ^ d - (k + 1 / 2)| = |z - (k + 1 / 2) / 10 ^ d| * 10 ^ d := by
          rw [← abs_of_pos hpow, ← abs_mul, abs_of_pos hpow, sub_mul, div_mul_cancel₀ _ hpow.ne']
      _ ≤ ε * 10 ^ d := by gcongr
  obtain ⟨hlow, hhigh⟩ := abs_le.mp hscaled
  obtain ⟨hlow', hhigh'⟩ := abs_lt.mp (lt_sub_iff_add_lt.mpr h)
  have habove : (n : ℚ) - 1 < k := by linarith
  have hbelow : (k : ℚ) < n := by linarith
  have habove' : n - 1 < k := by exact_mod_cast habove
  have hbelow' : k < n := by exact_mod_cast hbelow
  omega

/-- Around a number that is not near a midway point all numbers are rounded to the same. -/
lemma roundFixed_eq_of_not_nearMidway {ε z : ℚ} (h : ¬ NearMidway d ε z) (hx : |x - z| ≤ ε)
    (hy : |y - z| ≤ ε) : roundFixed x d = roundFixed y d := by
  have hnear : ∀ {x : ℚ}, |x - z| ≤ ε → |x * 10 ^ d - ⌊z * 10 ^ d + 1 / 2⌋| < 1 / 2 := by
    intro x hx
    have hpow : (0 : ℚ) < 10 ^ d := by positivity
    have hfloor := Int.floor_le (z * 10 ^ d + 1 / 2)
    have hfloor' := Int.lt_floor_add_one (z * 10 ^ d + 1 / 2)
    set n := ⌊z * 10 ^ d + 1 / 2⌋
    obtain ⟨hlow, hhigh⟩ := abs_le.mp hx
    -- the midway points on both sides of `z` are out of reach
    have hbelow : ε < z - ((n - 1 : ℤ) + 1 / 2) / 10 ^ d := by
      by_contra hle
      refine h ⟨n - 1, ?_⟩
      rw [abs_of_nonneg]
      · exact not_lt.mp hle
      · rw [sub_nonneg, div_le_iff₀ hpow]
        push_cast
        linarith
    have habove : ε < (n + 1 / 2) / 10 ^ d - z := by
      by_contra hle
      refine h ⟨n, ?_⟩
      rw [abs_sub_comm, abs_of_nonneg]
      · exact not_lt.mp hle
      · rw [sub_nonneg, le_div_iff₀ hpow]
        linarith
    have hleft : ((n - 1 : ℤ) + 1 / 2) / 10 ^ d < x := by linarith
    have hright : x < (n + 1 / 2) / 10 ^ d := by linarith
    rw [div_lt_iff₀ hpow] at hleft
    rw [lt_div_iff₀ hpow] at hright
    push_cast at hleft
    exact abs_lt.mpr ⟨by linarith, by linarith⟩
  rw [roundFixed_of_near (hnear hx), roundFixed_of_near (hnear hy)]

@[simp] lemma roundFixed_zero (d : ℕ) : roundFixed 0 d = 0 := roundFixed_of_isFixed isFixed_zero

end Js
