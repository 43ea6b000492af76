import Mathlib.Algebra.BigOperators.Group.List.Basic
import Mathlib.Algebra.BigOperators.Ring.List
import Mathlib.Algebra.Order.Field.Basic
import Mathlib.Analysis.Real.Sqrt
import Mathlib.Data.List.GetD
import Mathlib.Data.List.Sort
import Mathlib.Tactic.FieldSimp
import Mathlib.Tactic.Linarith
import Mathlib.Tactic.Positivity
import Mathlib.Tactic.Ring

/-!
# Statistics of a sample

Mean, median, variance and standard deviation of a list of numbers in an ordered field with square
roots. Negating the sample negates the mean and the median and keeps the deviations. An interval
`mean ± t · s / √n` gets no wider with a larger sample exactly when `t² / n` gets no larger
(`halfWidth_le_iff`).
-/

namespace Core

/-- Square roots of the nonnegative numbers. -/
structure SquareRoot (K : Type*) [Field K] [LinearOrder K] where
  root : K → K
  nonneg : ∀ x, 0 ≤ root x
  mul_self : ∀ x, 0 ≤ x → root x * root x = x

noncomputable def SquareRoot.real : SquareRoot ℝ :=
  ⟨Real.sqrt, Real.sqrt_nonneg, fun _ => Real.mul_self_sqrt⟩

namespace Statistics

variable {K : Type*} [Field K]

def mean (xs : List K) : K := xs.sum / xs.length

/-- The sum of the squared deviations over one less than the size. -/
def variance (xs : List K) : K := (xs.map fun x => (x - mean xs) ^ 2).sum / (xs.length - 1)

section Neg

variable {xs : List K}

@[simp] lemma mean_neg : mean (xs.map Neg.neg) = -mean xs := by
  have hsum : (xs.map Neg.neg).sum = -xs.sum := (List.sum_neg xs).symm
  rw [mean, mean, List.length_map, hsum, neg_div]

@[simp] lemma variance_neg : variance (xs.map Neg.neg) = variance xs := by
  have hsquare : ∀ x : K, (-x - -mean xs) ^ 2 = (x - mean xs) ^ 2 := fun x => by ring
  simp only [variance, mean_neg, List.map_map, Function.comp_def, List.length_map, hsquare]

end Neg

variable [LinearOrder K]

def sorted (xs : List K) : List K := xs.mergeSort fun a b => a ≤ b

/-- The middle of the sorted sample, or the mean of its two middle elements. -/
def median (xs : List K) : K :=
  let s := sorted xs
  let n := xs.length
  let a := s.getD (n / 2 - 1) 0
  let b := s.getD (n / 2) a
  if n % 2 = 0 then (a + b) / 2 else s.getD (n / 2) 0

/-- The mean of two numbers. -/
def average (a b : K) : K := (a + b) / 2

omit [LinearOrder K] in
@[simp] lemma average_self [CharZero K] (a : K) : average a a = a := add_self_div_two a

def halfWidth (lower upper : K) : K := (upper - lower) / 2

section Deviation

variable (r : SquareRoot K)

def std (xs : List K) : K := r.root (variance xs)

def standardError (xs : List K) : K := std r xs / r.root xs.length

end Deviation

/-! ### Negation -/

section Neg

variable {xs : List K}

@[simp] lemma std_neg (r : SquareRoot K) : std r (xs.map Neg.neg) = std r xs := by
  rw [std, variance_neg, std]

@[simp] lemma standardError_neg (r : SquareRoot K) :
    standardError r (xs.map Neg.neg) = standardError r xs := by
  rw [standardError, std_neg, List.length_map, standardError]

omit [Field K] in
@[simp] lemma length_sorted : (sorted xs).length = xs.length := List.length_mergeSort xs

omit [Field K] in
lemma getD_sorted (xs : List K) {i : ℕ} (h : i < xs.length) (d e : K) :
    (sorted xs).getD i d = (sorted xs).getD i e := by
  have hi : i < (sorted xs).length := by simpa using h
  rw [List.getD_eq_getElem _ _ hi, List.getD_eq_getElem _ _ hi]

variable [IsStrictOrderedRing K]

lemma sorted_neg : sorted (xs.map Neg.neg) = ((sorted xs).map Neg.neg).reverse := by
  have hpairwise : (((sorted xs).map Neg.neg).reverse).Pairwise (· ≤ ·) := by
    rw [List.pairwise_reverse, List.pairwise_map]
    exact (List.pairwise_mergeSort' (· ≤ ·) xs).imp neg_le_neg
  have hperm : (sorted (xs.map Neg.neg)).Perm ((sorted xs).map Neg.neg).reverse :=
    (List.mergeSort_perm _ _).trans
      (((List.mergeSort_perm xs _).map Neg.neg).symm.trans (List.reverse_perm _).symm)
  exact hperm.eq_of_pairwise' (List.pairwise_mergeSort' (· ≤ ·) _) hpairwise

lemma getD_sorted_neg {i : ℕ} (h : i < xs.length) (d : K) :
    (sorted (xs.map Neg.neg)).getD i d = -(sorted xs).getD (xs.length - 1 - i) 0 := by
  have hi : i < ((sorted xs).map Neg.neg).reverse.length := by simpa using h
  have hj : xs.length - 1 - i < (sorted xs).length := by
    rw [length_sorted]
    omega
  rw [sorted_neg, List.getD_eq_getElem _ _ hi, List.getD_eq_getElem _ _ hj]
  simp

lemma median_neg (h : xs ≠ []) : median (xs.map Neg.neg) = -median xs := by
  have hpos : 0 < xs.length := List.length_pos_iff.mpr h
  simp only [median, List.length_map]
  split_ifs with heven
  · -- the two middle elements change places
    rw [getD_sorted_neg (by omega), getD_sorted_neg (by omega),
      getD_sorted xs (show xs.length / 2 < xs.length by omega) _ 0,
      show xs.length - 1 - (xs.length / 2 - 1) = xs.length / 2 by omega,
      show xs.length - 1 - xs.length / 2 = xs.length / 2 - 1 by omega]
    ring
  · rw [getD_sorted_neg (by omega), show xs.length - 1 - xs.length / 2 = xs.length / 2 by omega]

end Neg

/-! ### Widths -/

section Width

variable (r : SquareRoot K)

lemma root_pos {x : K} (h : 0 < x) : 0 < r.root x :=
  (r.nonneg x).lt_of_ne fun heq => h.ne' (by rw [← r.mul_self x h.le, ← heq, mul_zero])

variable [IsStrictOrderedRing K]

lemma standardError_nonneg (xs : List K) : 0 ≤ standardError r xs :=
  div_nonneg (r.nonneg _) (r.nonneg _)

/-- With the same positive deviation, the interval is no wider exactly when `t² / n` is no larger. -/
lemma halfWidth_le_iff {t u s : K} {m n : ℕ} (ht : 0 ≤ t) (hu : 0 ≤ u) (hs : 0 < s) (hm : 0 < m)
    (hn : 0 < n) : u * (s / r.root n) ≤ t * (s / r.root m) ↔ u ^ 2 * m ≤ t ^ 2 * n := by
  have hm' : (0 : K) < m := Nat.cast_pos.mpr hm
  have hn' : (0 : K) < n := Nat.cast_pos.mpr hn
  have hrm := root_pos r hm'
  have hrn := root_pos r hn'
  calc u * (s / r.root n) ≤ t * (s / r.root m)
      ↔ s * (u / r.root n) ≤ s * (t / r.root m) := by
        rw [mul_div_left_comm, mul_div_left_comm t]
    _ ↔ u * r.root m ≤ t * r.root n := by
        rw [mul_le_mul_iff_right₀ hs, div_le_div_iff₀ hrn hrm]
    _ ↔ (u * r.root m) ^ 2 ≤ (t * r.root n) ^ 2 :=
        (pow_le_pow_iff_left₀ (mul_nonneg hu hrm.le) (mul_nonneg ht hrn.le) two_ne_zero).symm
    _ ↔ u ^ 2 * m ≤ t ^ 2 * n := by
        rw [mul_pow, mul_pow, sq (r.root m), sq (r.root n), r.mul_self _ hm'.le, r.mul_self _ hn'.le]

end Width

end Statistics

end Core
