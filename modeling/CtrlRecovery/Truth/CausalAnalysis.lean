import CtrlRecovery.Core.Statistics
import Mathlib.Tactic.NormNum

/-!
# Paired statistics of an experiment

`computePairedStatistics` summarizes paired observations. Numbers are exact here: `toFixed` only cuts
what is shown. The critical value of the interval is looked up by the degrees of freedom in a table up
to ten, and beyond it the value for four is taken, so that the interval gets wider from the tabulated
sizes to some of the next ones (`pairedLaws_iff`).
-/

namespace CtrlRecovery

open Core Statistics

namespace CausalAnalysis

/-! ### The computation -/

inductive CausalClassification
  | positiveEffect
  | negativeEffect
  | noEffect
  | inconclusive
  deriving DecidableEq

inductive CiStatus
  | defined
  | degenerateZeroVariance
  deriving DecidableEq

inductive EffectStatus
  | defined
  | undefinedZeroVariance
  deriving DecidableEq

structure Observation (K : Type*) where
  seedId : ℤ
  controlVal : K
  treatmentVal : K

def Observation.delta {K : Type*} [Field K] (obs : Observation K) : K :=
  obs.treatmentVal - obs.controlVal

structure Params (K : Type*) where
  higherIsBetter : Bool
  observations : List (Observation K)

structure GroupSummary (K : Type*) where
  mean : K
  median : K
  std : K

structure ConfidenceInterval (K : Type*) where
  lower : K
  upper : K
  status : CiStatus
  df : ℕ

structure EffectSize (K : Type*) where
  value : Option K
  status : EffectStatus
  isDefined : Bool
  reason : Option String
  interpretation : String

structure Summary (K : Type*) where
  sampleSize : ℕ
  control : GroupSummary K
  treatment : GroupSummary K
  pairedDifference : GroupSummary K
  standardError : K
  percentChange : Option K
  confidenceInterval : ConfidenceInterval K
  effectSize : EffectSize K
  classification : CausalClassification

/-- Student's t critical values for 95% two-tailed confidence intervals. -/
def T_CRITICAL_95 : ℕ → Option ℚ
  | 1  => some 12.706
  | 2  => some 4.303
  | 3  => some 3.182
  | 4  => some 2.776
  | 5  => some 2.571
  | 6  => some 2.447
  | 7  => some 2.365
  | 8  => some 2.306
  | 9  => some 2.262
  | 10 => some 2.228
  | _  => none

def tCrit (df : ℕ) : ℚ := (T_CRITICAL_95 df).getD 2.776

section Compute

variable {K : Type*} [Field K] [LinearOrder K] (r : SquareRoot K)

def groupSummary (vals : List K) : GroupSummary K := ⟨mean vals, median vals, std r vals⟩

def percentChange (meanControl meanTreatment : K) : Option K :=
  if 1e-6 < |meanControl| then some ((meanTreatment - meanControl) / |meanControl| * 100) else none

def confidenceInterval (meanDiff stdDiff stdError : K) (df : ℕ) : ConfidenceInterval K :=
  if 1e-9 < stdDiff then
    ⟨meanDiff - tCrit df * stdError, meanDiff + tCrit df * stdError, .defined, df⟩
  else ⟨meanDiff, meanDiff, .degenerateZeroVariance, df⟩

def effectInterpretation (absD : K) : String :=
  if 0.8 ≤ absD then "Large observed effect size"
  else if 0.5 ≤ absD then "Medium observed effect size"
  else if 0.2 ≤ absD then "Small observed effect size"
  else "Negligible effect size"

def effectSize (meanDiff stdDiff : K) : EffectSize K :=
  if 1e-9 < stdDiff then
    ⟨some (meanDiff / stdDiff), .defined, true, none, effectInterpretation |meanDiff / stdDiff|⟩
  else
    ⟨none, .undefinedZeroVariance, false, some "Paired differences have zero variance.",
      "Deterministic constant difference; standardized effect size is undefined due to zero sample variance."⟩

def classify (higherIsBetter : Bool) (meanDiff : K) : CausalClassification :=
  let isBeneficial : Prop := if higherIsBetter then 1e-6 < meanDiff else meanDiff < -1e-6
  let isHarmful : Prop := if higherIsBetter then meanDiff < -1e-6 else 1e-6 < meanDiff
  if isBeneficial then .positiveEffect
  else if isHarmful then .negativeEffect
  else .noEffect

def Params.deltas (p : Params K) : List K := p.observations.map Observation.delta

def summary (p : Params K) : Summary K :=
  let n := p.observations.length
  let controlVals := p.observations.map Observation.controlVal
  let treatmentVals := p.observations.map Observation.treatmentVal
  let deltas := p.deltas
  { sampleSize := n
    control := groupSummary r controlVals
    treatment := groupSummary r treatmentVals
    pairedDifference := groupSummary r deltas
    standardError := standardError r deltas
    percentChange := percentChange (mean controlVals) (mean treatmentVals)
    confidenceInterval := confidenceInterval (mean deltas) (std r deltas) (standardError r deltas) (n - 1)
    effectSize := effectSize (mean deltas) (std r deltas)
    classification := classify p.higherIsBetter (mean deltas) }

def computePairedStatistics (p : Params K) : Except String (Summary K) :=
  let n := p.observations.length
  if n < 2 then
    .error s!"Causal analysis requires at least N=2 paired observations (received N={n})"
  else .ok (summary r p)

end Compute

/-! ### Exchange -/

section Exchange

variable {K : Type*} [Field K]

def Observation.exchange (obs : Observation K) : Observation K :=
  { obs with controlVal := obs.treatmentVal, treatmentVal := obs.controlVal }

/-- Control and treatment exchanged. -/
def Params.exchange (p : Params K) : Params K :=
  { p with observations := p.observations.map Observation.exchange }

lemma deltas_exchange (p : Params K) : p.exchange.deltas = p.deltas.map Neg.neg := by
  simp [Params.deltas, Params.exchange, Observation.delta, Observation.exchange, Function.comp_def]

def CausalClassification.exchange : CausalClassification → CausalClassification
  | .positiveEffect => .negativeEffect
  | .negativeEffect => .positiveEffect
  | c               => c

/-- The summaries of an experiment and of the exchanged one. -/
structure Exchanged (s s' : Summary K) : Prop where
  mean : s'.pairedDifference.mean = -s.pairedDifference.mean
  median : s'.pairedDifference.median = -s.pairedDifference.median
  lower : s'.confidenceInterval.lower = -s.confidenceInterval.upper
  upper : s'.confidenceInterval.upper = -s.confidenceInterval.lower
  effectSize : s'.effectSize.value = s.effectSize.value.map Neg.neg
  classification : s'.classification = s.classification.exchange

variable [LinearOrder K] [IsStrictOrderedRing K] {r : SquareRoot K} {p : Params K}

lemma classify_neg (higherIsBetter : Bool) (m : K) :
    classify higherIsBetter (-m) = (classify higherIsBetter m).exchange := by
  have hpos : -m < -1e-6 ↔ 1e-6 < m := neg_lt_neg_iff
  have hneg : 1e-6 < -m ↔ m < -1e-6 := lt_neg
  have hboth : 1e-6 < m → ¬ m < -1e-6 := fun h h' => by linarith
  cases higherIsBetter <;> simp only [classify, hpos, hneg, Bool.false_eq_true, if_true, if_false] <;>
    split_ifs with h h' <;> first | rfl | exact absurd h' (hboth h) | exact absurd h (hboth h')

lemma exchanged_summary (h : p.observations ≠ []) : Exchanged (summary r p) (summary r p.exchange) := by
  have hdeltas : p.deltas ≠ [] := by simpa [Params.deltas] using h
  have hlength : p.exchange.observations.length = p.observations.length := by
    simp [Params.exchange]
  constructor
  · simp [summary, groupSummary, deltas_exchange]
  · simp [summary, groupSummary, deltas_exchange, median_neg hdeltas]
  · simp only [summary, deltas_exchange, mean_neg, std_neg, standardError_neg, confidenceInterval,
      hlength]
    split_ifs
    · ring
    · rfl
  · simp only [summary, deltas_exchange, mean_neg, std_neg, standardError_neg, confidenceInterval,
      hlength]
    split_ifs
    · ring
    · rfl
  · simp only [summary, deltas_exchange, mean_neg, std_neg, effectSize]
    split_ifs
    · simp [neg_div]
    · rfl
  · simp only [summary, deltas_exchange, mean_neg]
    exact classify_neg _ _

end Exchange

/-! ### Widths -/

/-- The sizes between which the interval gets wider. -/
def Widening (m n : ℕ) : Prop :=
  (m = 9 ∧ 12 ≤ n ∧ n ≤ 13) ∨ (m = 10 ∧ 12 ≤ n ∧ n ≤ 15) ∨ (m = 11 ∧ 12 ≤ n ∧ n ≤ 17)

instance (m n : ℕ) : Decidable (Widening m n) :=
  inferInstanceAs (Decidable (_ ∨ _ ∨ _))

lemma tCrit_of_lt {df : ℕ} (h : 10 < df) : tCrit df = 2.776 := by
  rw [tCrit, T_CRITICAL_95]
  · rfl
  all_goals omega

lemma le_tCrit (df : ℕ) : 2.228 ≤ tCrit df := by
  rw [tCrit, T_CRITICAL_95.eq_def]
  split <;> norm_num

lemma tCrit_small : ∀ n < 18, ∀ m ≤ n, 2 ≤ m →
    (tCrit (n - 1) ^ 2 * m ≤ tCrit (m - 1) ^ 2 * n ↔ ¬ Widening m n) := by
  decide +kernel

/-- A larger sample makes the interval wider for a few sizes behind the table. -/
lemma tCrit_le_iff {m n : ℕ} (hm : 2 ≤ m) (hmn : m ≤ n) :
    tCrit (n - 1) ^ 2 * m ≤ tCrit (m - 1) ^ 2 * n ↔ ¬ Widening m n := by
  by_cases hn : n < 18
  · exact tCrit_small n hn m hmn hm
  · have hwide : ¬ Widening m n := by
      unfold Widening
      omega
    have hn' : (18 : ℚ) ≤ n := by exact_mod_cast not_lt.mp hn
    refine iff_of_true ?_ hwide
    rw [tCrit_of_lt (by omega)]
    by_cases hm' : m ≤ 11
    · have hm'' : (m : ℚ) ≤ 11 := by exact_mod_cast hm'
      calc (2.776 : ℚ) ^ 2 * m ≤ 2.776 ^ 2 * 11 := by gcongr
        _ ≤ 2.228 ^ 2 * 18 := by norm_num
        _ ≤ tCrit (m - 1) ^ 2 * n := by
          gcongr
          exact le_tCrit _
    · rw [tCrit_of_lt (by omega)]
      gcongr

section Width

variable {K : Type*} [Field K] [LinearOrder K] [IsStrictOrderedRing K] {r : SquareRoot K}
  {p q : Params K}

def ConfidenceInterval.halfWidth (ci : ConfidenceInterval K) : K :=
  Statistics.halfWidth ci.lower ci.upper

lemma halfWidth_summary (p : Params K) : (summary r p).confidenceInterval.halfWidth =
    if 1e-9 < std r p.deltas then
      tCrit (p.observations.length - 1) * (std r p.deltas / r.root p.observations.length)
    else 0 := by
  have hlength : p.deltas.length = p.observations.length := by simp [Params.deltas]
  rw [ConfidenceInterval.halfWidth, Statistics.halfWidth, summary, confidenceInterval]
  split_ifs
  · rw [standardError, hlength]
    ring
  · rw [sub_self, zero_div]

lemma tCrit_nonneg (df : ℕ) : (0 : K) ≤ tCrit df := by
  exact_mod_cast (by norm_num : (0 : ℚ) ≤ 2.228).trans (le_tCrit df)

/-- With the same deviation of the differences, the half width is no larger for a larger sample. -/
lemma halfWidth_le_iff_widening (hp : 2 ≤ p.observations.length)
    (hle : p.observations.length ≤ q.observations.length) (hstd : std r p.deltas = std r q.deltas) :
    (summary r q).confidenceInterval.halfWidth ≤ (summary r p).confidenceInterval.halfWidth ↔
      (1e-9 < std r p.deltas → ¬ Widening p.observations.length q.observations.length) := by
  rw [halfWidth_summary, halfWidth_summary, ← hstd]
  by_cases hdefined : 1e-9 < std r p.deltas
  · have hpos : 0 < std r p.deltas := lt_trans (by norm_num) hdefined
    rw [if_pos hdefined, if_pos hdefined, halfWidth_le_iff r (tCrit_nonneg _) (tCrit_nonneg _) hpos
      (by omega) (by omega), ← tCrit_le_iff hp hle]
    refine ⟨fun h _ => ?_, fun h => ?_⟩
    · exact_mod_cast h
    · exact_mod_cast h hdefined
  · simp [hdefined]

def Summary.ContainsMean (s : Summary K) : Prop :=
  s.confidenceInterval.lower ≤ s.pairedDifference.mean ∧
    s.pairedDifference.mean ≤ s.confidenceInterval.upper

lemma containsMean_summary (p : Params K) : (summary r p).ContainsMean := by
  have hnonneg : 0 ≤ tCrit (p.observations.length - 1) * standardError r p.deltas :=
    mul_nonneg (tCrit_nonneg _) (standardError_nonneg r _)
  simp only [Summary.ContainsMean, summary, groupSummary, confidenceInterval]
  split_ifs
  · exact ⟨sub_le_self _ hnonneg, le_add_of_nonneg_right hnonneg⟩
  · exact ⟨le_rfl, le_rfl⟩

omit [IsStrictOrderedRing K] in
lemma computePairedStatistics_eq (h : 2 ≤ p.observations.length) :
    computePairedStatistics r p = .ok (summary r p) := if_neg (by omega)

/-- The laws of an experiment, and of another one next to it. -/
def PairedLaws (r : SquareRoot K) (p q : Params K) : Prop :=
  ∃ s s' t, computePairedStatistics r p = .ok s ∧ computePairedStatistics r p.exchange = .ok s' ∧
    computePairedStatistics r q = .ok t ∧ s.ContainsMean ∧ Exchanged s s' ∧
    t.confidenceInterval.halfWidth ≤ s.confidenceInterval.halfWidth

omit [IsStrictOrderedRing K] in
lemma PairedLaws.halfWidth_le (h : PairedLaws r p q) (hp : 2 ≤ p.observations.length)
    (hq : 2 ≤ q.observations.length) :
    (summary r q).confidenceInterval.halfWidth ≤ (summary r p).confidenceInterval.halfWidth := by
  obtain ⟨s, s', t, hs, -, ht, -, -, hwidth⟩ := h
  rw [computePairedStatistics_eq hp, Except.ok.injEq] at hs
  rw [computePairedStatistics_eq hq, Except.ok.injEq] at ht
  rwa [hs, ht]

/-- Of an experiment and one with at least as many observations and the same deviation of the
differences, whatever their means, the laws hold exactly unless the differences vary and the sizes are
some of those around the end of the table. -/
theorem pairedLaws_iff (hp : 2 ≤ p.observations.length)
    (hle : p.observations.length ≤ q.observations.length) (hstd : std r p.deltas = std r q.deltas) :
    PairedLaws r p q ↔
      (1e-9 < std r p.deltas → ¬ Widening p.observations.length q.observations.length) := by
  have hne : p.observations ≠ [] := List.ne_nil_of_length_pos (by omega)
  have hexchange : 2 ≤ p.exchange.observations.length := by simpa [Params.exchange] using hp
  rw [← halfWidth_le_iff_widening hp hle hstd]
  constructor
  · exact fun h => h.halfWidth_le hp (hp.trans hle)
  · intro hwidth
    exact ⟨_, _, _, computePairedStatistics_eq hp, computePairedStatistics_eq hexchange,
      computePairedStatistics_eq (hp.trans hle), containsMean_summary p, exchanged_summary hne, hwidth⟩

end Width

/-! ### Samples -/

/-- An experiment with these differences. -/
def ofDeltas (deltas : List ℝ) : Params ℝ := ⟨true, deltas.map fun d => ⟨0, 0, d⟩⟩

@[simp] lemma deltas_ofDeltas (deltas : List ℝ) : (ofDeltas deltas).deltas = deltas := by
  simp [ofDeltas, Params.deltas, Observation.delta, Function.comp_def]

@[simp] lemma length_ofDeltas (deltas : List ℝ) :
    (ofDeltas deltas).observations.length = deltas.length := by
  simp [ofDeltas]

/-- Two and five differences, with the mean zero and the variance two. -/
theorem pairedLaws_five :
    PairedLaws .real (ofDeltas [1, -1]) (ofDeltas [2, -2, 0, 0, 0]) := by
  refine (pairedLaws_iff (by simp) (by simp) ?_).mpr fun _ => by simp [Widening]
  simp only [deltas_ofDeltas, std]
  exact congrArg _ (by norm_num [variance, mean])

def eleven : List ℝ := [3, -3, 1, -1, 0, 0, 0, 0, 0, 0, 0]

def twelve : List ℝ := [3, -3, 1, -1, 1, -1, 0, 0, 0, 0, 0, 0]

/-- Both samples have the mean zero and the variance two, and the interval of the larger is wider. -/
theorem not_pairedLaws_twelve : ¬ ∀ p q : Params ℝ, 2 ≤ p.observations.length →
    p.observations.length ≤ q.observations.length → mean p.deltas = mean q.deltas →
    std .real p.deltas = std .real q.deltas → PairedLaws .real p q := by
  intro h
  have hmean : mean eleven = mean twelve := by norm_num [mean, eleven, twelve]
  have hvariance : variance eleven = 2 ∧ variance twelve = 2 := by
    norm_num [variance, mean, eleven, twelve]
  have hstd : std SquareRoot.real eleven = std .real twelve := by
    rw [std, std, hvariance.1, hvariance.2]
  have hlaws := h (ofDeltas eleven) (ofDeltas twelve) (by simp [eleven])
    (by simp [eleven, twelve]) (by simpa using hmean) (by simpa using hstd)
  have hvaries : 1e-9 < std SquareRoot.real eleven := by
    rw [std, hvariance.1]
    exact lt_trans (by norm_num) (Real.lt_sqrt_of_sq_lt (by norm_num : (1 : ℝ) ^ 2 < 2))
  have hwiden := (halfWidth_le_iff_widening (by simp [eleven]) (by simp [eleven, twelve])
    (by simpa using hstd)).mp (hlaws.halfWidth_le (by simp [eleven]) (by simp [twelve]))
  refine hwiden (by simpa using hvaries) ?_
  simp [Widening, eleven, twelve]

end CausalAnalysis

end CtrlRecovery
