import CtrlRecovery.Agents.SemanticBridge
import CtrlRecovery.Core.Double
import CtrlRecovery.Core.Number

/-!
# Signals of a language model

A language model reports a value and a confidence with each of its signals, and either may be out of
range or no number at all. The bridge takes them for what `Number` makes of them and clamps them to the
unit interval, after zero and `NaN` were replaced by a default.

The contributions of the signals are added one after the other. In doubles the sum depends on their order,
so that another order can move the probability modifier where the sum comes close to a midway point of
four decimals, and only there. A signal of a lower confidence counts for no more (`weighsSignals`).
-/

namespace CtrlRecovery

open Js

/-- What the language model reports about a payment, with `Number(sig.value)` and
`Number(sig.confidence)`. -/
structure ReportedSignal where
  name : SignalName
  value : Number
  confidence : Number
  deriving DecidableEq, Repr

namespace ReportedSignal

variable (sig : ReportedSignal)

def clampedVal : ℚ := sig.value.clampUnit 0

def clampedConf : ℚ := sig.confidence.clampUnit (1 / 2)

def withConfidence (confidence : Number) : ReportedSignal := { sig with confidence }

end ReportedSignal

namespace SemanticEconomicsBridge.Reported

open ReportedSignal

/-! ### The modifiers -/

/-- The modifiers with the values that they were calculated from, by name. -/
@[ext]
structure ReportedModifiers extends CalibratedEconomicModifiers where
  calibratedSignals : SignalName → Option ℚ

/-- What one signal adds to the probability and to the fatigue cost. -/
def signalModifier (A : Arithmetic) (sig : ReportedSignal) : ℚ × ℤ :=
  match sig.name with
  | .transientFailure   =>
    (A.mul (A.mul (A.sub sig.clampedVal (1 / 2)) (10 / 100)) sig.clampedConf, 0)
  | .gatewayInstability => (-A.mul (A.mul sig.clampedVal (6 / 100)) sig.clampedConf, 0)
  | .customerLiquidity  =>
    (A.mul (A.mul (A.sub sig.clampedVal (1 / 2)) (8 / 100)) sig.clampedConf, 0)
  | .fatigue            => (0, Js.mathRound (A.mul (A.mul sig.clampedVal 500) sig.clampedConf))
  | _                   => (0, 0)

def contributions (A : Arithmetic) (signals : List ReportedSignal) : List ℚ :=
  signals.map fun sig => (signalModifier A sig).1

/-- `signalMap[sig.name] = clampedVal`, for one signal after the other. -/
def signalMap (signals : List ReportedSignal) : SignalName → Option ℚ :=
  signals.foldl (fun map sig => Function.update map sig.name (some sig.clampedVal)) fun _ => none

def calculateModifiers (A : Arithmetic) (signals : List ReportedSignal) : ReportedModifiers :=
  let probModifier := A.sum (contributions A signals)
  let fatigueModifierPaise := (signals.map fun sig => (signalModifier A sig).2).sum
  { incrementalProbModifier := max (-(10 / 100)) (min (10 / 100) (Js.roundFixed probModifier 4))
    fatigueCostModifierPaise := max 0 (min 500 fatigueModifierPaise)
    calibratedSignals := signalMap signals }

/-- The modifiers that are applied: none while the influence of the language model is disabled. -/
def appliedModifiers (A : Arithmetic) (llmInfluenceDisabled : Bool) (signals : List ReportedSignal) :
    CalibratedEconomicModifiers :=
  if llmInfluenceDisabled then ⟨0, 0⟩
  else (calculateModifiers A signals).toCalibratedEconomicModifiers

/-! ### Finite signals -/

/-- A signal whose value and confidence are numbers, as it is reported. -/
def report (sig : SemanticSignal) : ReportedSignal :=
  ⟨sig.name, .finite sig.value, .finite sig.confidence⟩

lemma clampedVal_report (sig : SemanticSignal) :
    (report sig).clampedVal = clampUnit sig.value := by
  change clampUnit (orDefault sig.value 0) = clampUnit sig.value
  rw [orDefault]
  split_ifs with hzero
  · rw [hzero]
  · rfl

lemma clampedConf_report (sig : SemanticSignal) :
    (report sig).clampedConf = clampUnit (orDefault sig.confidence (1 / 2)) := rfl

lemma signalModifier_report (sig : SemanticSignal) :
    signalModifier .exact (report sig) = SemanticEconomicsBridge.signalModifier sig := by
  rw [signalModifier, SemanticEconomicsBridge.signalModifier, clampedVal_report, clampedConf_report]
  rfl

/-- On numbers in range and out of it, the exact modifiers are those of the finite signals. -/
lemma appliedModifiers_report (llmInfluenceDisabled : Bool) (signals : List SemanticSignal) :
    appliedModifiers .exact llmInfluenceDisabled (signals.map report) =
      SemanticEconomicsBridge.appliedModifiers llmInfluenceDisabled signals := by
  rw [appliedModifiers, SemanticEconomicsBridge.appliedModifiers]
  split_ifs
  · rfl
  · simp [calculateModifiers, contributions, Arithmetic.exact_sum,
      SemanticEconomicsBridge.calculateModifiers, List.map_map, Function.comp_def,
      signalModifier_report]

section Bounds

variable (A : Arithmetic) (llmInfluenceDisabled : Bool) (signals : List ReportedSignal)

lemma abs_incrementalProbModifier_le :
    |(appliedModifiers A llmInfluenceDisabled signals).incrementalProbModifier| ≤ 10 / 100 := by
  rw [appliedModifiers]
  have hbound : (0 : ℚ) ≤ 10 / 100 := by norm_num
  split_ifs
  · rwa [abs_zero]
  · exact abs_le.mpr ⟨le_max_left .., max_le (neg_le_self hbound) (min_le_left ..)⟩

lemma fatigueCostModifierPaise_mem :
    0 ≤ (appliedModifiers A llmInfluenceDisabled signals).fatigueCostModifierPaise ∧
      (appliedModifiers A llmInfluenceDisabled signals).fatigueCostModifierPaise ≤ 500 := by
  rw [appliedModifiers]
  split_ifs
  · exact ⟨le_rfl, by norm_num⟩
  · exact ⟨le_max_left .., max_le (by norm_num) (min_le_left ..)⟩

lemma isFixed_incrementalProbModifier :
    IsFixed 4 (appliedModifiers A llmInfluenceDisabled signals).incrementalProbModifier := by
  rw [appliedModifiers]
  have htenth : IsFixed 4 (10 / 100) := ⟨1000, by norm_num⟩
  split_ifs
  · exact isFixed_zero
  · exact htenth.neg.max (htenth.min (isFixed_roundFixed _ 4))

@[simp] lemma appliedModifiers_nil : appliedModifiers A llmInfluenceDisabled [] = ⟨0, 0⟩ := by
  rw [appliedModifiers]
  split_ifs
  · rfl
  · norm_num [calculateModifiers, contributions]

end Bounds

/-! ### The order of the signals -/

section Order

variable {A : Arithmetic} {signals signals' : List ReportedSignal}

lemma fatigueCostModifierPaise_perm (h : signals.Perm signals') :
    (calculateModifiers A signals).fatigueCostModifierPaise =
      (calculateModifiers A signals').fatigueCostModifierPaise := by
  simp only [calculateModifiers]
  rw [(h.map fun sig => (signalModifier A sig).2).sum_eq]

lemma abs_clampUnit_le_one (d : ℚ) (a : Number) : |a.clampUnit d| ≤ 1 := by
  rw [abs_of_nonneg (Number.clampUnit_nonneg ..)]
  exact Number.clampUnit_le_one ..

/-- A contribution is a rounded product of factors of at most one. -/
lemma contribution_mem {x : ℚ} (h : x ∈ contributions A signals) : A.round x = x ∧ |x| ≤ 1 / 2 := by
  obtain ⟨sig, -, rfl⟩ := List.mem_map.mp h
  have hconf : |sig.clampedConf| ≤ 1 := abs_clampUnit_le_one ..
  have hval : |sig.clampedVal| ≤ 1 := abs_clampUnit_le_one ..
  have hcentred : |A.sub sig.clampedVal (1 / 2)| ≤ 1 :=
    A.abs_sub_le_one (Number.clampUnit_nonneg ..) (Number.clampUnit_le_one ..) (by norm_num)
      (by norm_num)
  -- each of the factors is at most a tenth, before it is rounded
  have hweighed : ∀ {v w : ℚ}, |v| ≤ 1 → 1 / 100 ≤ w → w ≤ 10 / 100 →
      |A.mul (A.mul v w) sig.clampedConf| ≤ 1 / 2 := by
    intro v w hv hw hw'
    have habs : |w| ≤ w := (abs_of_nonneg (by linarith)).le
    have hfirst : |A.mul v w| ≤ 9 / 8 * (9 / 8 * w) := A.mul_swap v w ▸ A.abs_mul_le habs hw hv
    have hsecond := A.abs_mul_le hfirst (by linarith) hconf
    linarith
  rw [signalModifier]
  split
  · exact ⟨A.round_round _, hweighed hcentred (by norm_num) (by norm_num)⟩
  · rw [A.round_neg, abs_neg, neg_inj]
    exact ⟨A.round_round _, hweighed hval (by norm_num) (by norm_num)⟩
  · exact ⟨A.round_round _, hweighed hcentred (by norm_num) (by norm_num)⟩
  · exact ⟨A.round_zero, by norm_num⟩
  · exact ⟨A.round_zero, by norm_num⟩

/-- Around a sum that is not near a midway point the order of its terms leaves no trace. -/
lemma incrementalProbModifier_perm (hlength : signals.length < 2 ^ 32) (h : signals.Perm signals')
    (hmidway : ¬ NearMidway 4 (signals.length ^ 2 / 2 ^ 53) (contributions A signals).sum) :
    (calculateModifiers A signals).incrementalProbModifier =
      (calculateModifiers A signals').incrementalProbModifier := by
  have hperm : (contributions A signals).Perm (contributions A signals') := h.map _
  have hnear : ∀ {signals' : List ReportedSignal}, signals.Perm signals' →
      |A.sum (contributions A signals') - (contributions A signals).sum| ≤
        signals.length ^ 2 / 2 ^ 53 := by
    intro signals' h
    have hperm : (contributions A signals).Perm (contributions A signals') := h.map _
    have hlength' : (contributions A signals').length < 2 ^ 32 := by
      rwa [contributions, List.length_map, ← h.length_eq]
    have hsum := (A.abs_sum_sub_le hlength' fun _ hx => contribution_mem hx).1
    rwa [← hperm.sum_eq, contributions, List.length_map, ← contributions, ← h.length_eq] at hsum
  simp only [calculateModifiers]
  rw [roundFixed_eq_of_not_nearMidway hmidway (hnear (.refl _)) (hnear h)]

/-- Signals of one name have one value. -/
def NamesAgree (signals : List ReportedSignal) : Prop :=
  ∀ sig ∈ signals, ∀ sig' ∈ signals, sig.name = sig'.name → sig.clampedVal = sig'.clampedVal

lemma signalMap_append_singleton (signals : List ReportedSignal) (sig : ReportedSignal) :
    signalMap (signals ++ [sig]) sig.name = some sig.clampedVal := by
  rw [signalMap, List.foldl_append, List.foldl_cons, List.foldl_nil, Function.update_self]

lemma signalMap_perm (hnames : NamesAgree signals) (h : signals.Perm signals') :
    signalMap signals = signalMap signals' := by
  refine h.foldl_eq' (fun sig hsig sig' hsig' map => ?_) _
  by_cases hname : sig.name = sig'.name
  · rw [hname, hnames sig hsig sig' hsig' hname]
  · exact Function.update_comm hname ..

/-- The map of the values is free of the order exactly when no name has two values. -/
lemma forall_perm_signalMap_iff :
    (∀ signals', signals.Perm signals' → signalMap signals = signalMap signals') ↔
      NamesAgree signals := by
  constructor
  · intro hperm sig hsig sig' hsig' hname
    have hlast : ∀ sig ∈ signals, signalMap signals sig.name = some sig.clampedVal := by
      intro sig hsig
      obtain ⟨init, tail, rfl⟩ := List.append_of_mem hsig
      have hmove : (init ++ sig :: tail).Perm (init ++ tail ++ [sig]) :=
        List.perm_middle.trans (List.perm_append_singleton ..).symm
      have hmap := hperm _ hmove
      exact (congrFun hmap sig.name).trans (signalMap_append_singleton (init ++ tail) sig)
    have hvalues := (hlast sig hsig).symm.trans (hname ▸ hlast sig' hsig')
    exact Option.some.inj hvalues
  · exact fun hnames signals' h => signalMap_perm hnames h

end Order

/-! ### The confidence of a signal -/

section Confidence

variable {A : Arithmetic} {sig : ReportedSignal} {signals : List ReportedSignal} {a b : Number}

/-- The factor of the confidence in the probability modifier. -/
def probWeight (A : Arithmetic) (sig : ReportedSignal) : ℚ :=
  match sig.name with
  | .transientFailure   => A.mul (A.sub sig.clampedVal (1 / 2)) (10 / 100)
  | .gatewayInstability => -A.mul sig.clampedVal (6 / 100)
  | .customerLiquidity  => A.mul (A.sub sig.clampedVal (1 / 2)) (8 / 100)
  | _                   => 0

/-- The factor of the confidence in the fatigue modifier, before it is rounded. -/
def fatigueWeight (A : Arithmetic) (sig : ReportedSignal) : ℚ :=
  match sig.name with
  | .fatigue => A.mul sig.clampedVal 500
  | _        => 0

lemma signalModifier_eq (sig : ReportedSignal) : signalModifier A sig =
    (A.mul (probWeight A sig) sig.clampedConf,
      Js.mathRound (A.mul (fatigueWeight A sig) sig.clampedConf)) := by
  have hround : Js.mathRound 0 = 0 := by exact_mod_cast Js.mathRound_intCast 0
  obtain ⟨name, value, confidence⟩ := sig
  cases name
  all_goals simp [signalModifier, probWeight, fatigueWeight, hround, A.mul_neg_left]

@[simp] lemma probWeight_withConfidence :
    probWeight A (sig.withConfidence a) = probWeight A sig := rfl

@[simp] lemma fatigueWeight_withConfidence :
    fatigueWeight A (sig.withConfidence a) = fatigueWeight A sig := rfl

lemma fatigueWeight_nonneg (sig : ReportedSignal) : 0 ≤ fatigueWeight A sig := by
  rw [fatigueWeight]
  split
  · exact A.mul_nonneg (Number.clampUnit_nonneg ..) (by norm_num)
  · exact le_rfl

/-- Another confidence does not make the signal count for more. -/
def CountsNoMore (A : Arithmetic) (sig : ReportedSignal) (confidence : Number) : Prop :=
  |(signalModifier A (sig.withConfidence confidence)).1| ≤ |(signalModifier A sig).1| ∧
    |(signalModifier A (sig.withConfidence confidence)).2| ≤ |(signalModifier A sig).2|

/-- The order of the signals does not matter, and a lower confidence makes none count for more. -/
def LowersWithConfidence (A : Arithmetic) (signals : List ReportedSignal) : Prop :=
  (∀ signals', signals.Perm signals' →
    (calculateModifiers A signals).toCalibratedEconomicModifiers =
      (calculateModifiers A signals').toCalibratedEconomicModifiers) ∧
    ∀ sig ∈ signals, ∀ confidence : Number, confidence.Le sig.confidence →
      Number.Le (0 : ℚ) confidence → CountsNoMore A sig confidence

/-- The clamped confidence follows the confidence, but at zero. -/
lemma clampUnit_mono (h : a.Le b) (hzero : a ≠ (0 : ℚ)) :
    a.clampUnit (1 / 2) ≤ b.clampUnit (1 / 2) := by
  cases a with
  | nan    => exact absurd h Number.not_nan_le
  | negInf => exact Number.clampUnit_nonneg ..
  | posInf =>
    cases b with
    | posInf => exact le_rfl
    | nan | negInf | finite => exact h.elim
  | finite x =>
    cases b with
    | nan | negInf => exact h.elim
    | posInf       => exact Number.clampUnit_le_one ..
    | finite y     =>
      have hx : x ≠ 0 := fun hx => hzero (congrArg Number.finite hx)
      have hxy : x ≤ y := h
      rw [Number.clampUnit, Number.clampUnit, orDefault, if_neg hx, orDefault]
      refine max_le_max le_rfl (min_le_min le_rfl ?_)
      split_ifs with hy
      · linarith
      · exact hxy

lemma countsNoMore_of_clampedConf_le (h : (sig.withConfidence a).clampedConf ≤ sig.clampedConf) :
    CountsNoMore A sig a := by
  rw [CountsNoMore, signalModifier_eq, signalModifier_eq, probWeight_withConfidence,
    fatigueWeight_withConfidence]
  have hconf : 0 ≤ (sig.withConfidence a).clampedConf := Number.clampUnit_nonneg ..
  have hweight := fatigueWeight_nonneg (A := A) sig
  have hcost := A.mul_nonneg hweight hconf
  have hcost' := A.mul_nonneg hweight (hconf.trans h)
  have hle := A.abs_mul_mono (fatigueWeight A sig) hconf h
  rw [abs_of_nonneg hcost, abs_of_nonneg hcost'] at hle
  constructor
  · exact A.abs_mul_mono _ hconf h
  · exact abs_le_abs_of_nonneg (Js.le_mathRound 0 (by exact_mod_cast hcost)) (Js.mathRound_mono hle)

/-- In doubles. Another order of the signals leaves the fatigue modifier as it is, and the probability
modifier too unless the sum of what they add is next to a midway point; the map of the values is free of
the order exactly when no name has two of them; and a signal counts for no more with a lower confidence
that is not zero. -/
theorem weighsSignals (signals : List ReportedSignal) (hlength : signals.length < 2 ^ 32) :
    (∀ signals', signals.Perm signals' →
      (calculateModifiers .double signals).fatigueCostModifierPaise =
          (calculateModifiers .double signals').fatigueCostModifierPaise ∧
        (¬ NearMidway 4 (signals.length ^ 2 / 2 ^ 53) (contributions .double signals).sum →
          (calculateModifiers .double signals).incrementalProbModifier =
            (calculateModifiers .double signals').incrementalProbModifier)) ∧
    ((∀ signals', signals.Perm signals' →
      (calculateModifiers .double signals).calibratedSignals =
        (calculateModifiers .double signals').calibratedSignals) ↔ NamesAgree signals) ∧
    ∀ sig ∈ signals, ∀ confidence : Number, confidence.Le sig.confidence →
      Number.Le (0 : ℚ) confidence → confidence ≠ (0 : ℚ) →
        CountsNoMore .double sig confidence := by
  refine ⟨fun signals' h => ⟨fatigueCostModifierPaise_perm h, ?_⟩, forall_perm_signalMap_iff, ?_⟩
  · exact incrementalProbModifier_perm hlength h
  · intro sig _ confidence hle _ hzero
    exact countsNoMore_of_clampedConf_le (clampUnit_mono hle hzero)

/-- A transient failure and a weak liquidity give the same modifiers in both orders. -/
theorem weighsSignals_two :
    (calculateModifiers .double [⟨.transientFailure, (1 : ℚ), (1 : ℚ)⟩,
      ⟨.customerLiquidity, (0 : ℚ), (1 / 2 : ℚ)⟩]).incrementalProbModifier =
    (calculateModifiers .double [⟨.customerLiquidity, (0 : ℚ), (1 / 2 : ℚ)⟩,
      ⟨.transientFailure, (1 : ℚ), (1 : ℚ)⟩]).incrementalProbModifier := by
  refine ((weighsSignals _ (by decide)).1 _ (.swap ..)).2 (not_nearMidway 300 ?_)
  decide +kernel

/-- Three signals that add up to -0.06855, a midway point, give -0.0686 in one order and -0.0685 in
the other. -/
theorem order_moves_modifier : ¬ LowersWithConfidence .double
    [⟨.transientFailure, (0 : ℚ), (75 / 100 : ℚ)⟩, ⟨.gatewayInstability, (5 / 100 : ℚ), (75 / 100 : ℚ)⟩,
      ⟨.customerLiquidity, (10 / 100 : ℚ), (90 / 100 : ℚ)⟩] := by
  intro hlowers
  have hsame := congrArg CalibratedEconomicModifiers.incrementalProbModifier
    (hlowers.1 _ (List.reverse_perm _).symm)
  revert hsame
  decide +kernel

end Confidence

end SemanticEconomicsBridge.Reported

end CtrlRecovery
