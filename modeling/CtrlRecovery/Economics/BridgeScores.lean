import CtrlRecovery.Core.Run
import CtrlRecovery.Economics.CalibrationRange
import CtrlRecovery.Economics.ScoreInputs

/-!
# The bridge next to the scorer

The signals move the incremental probability of the bridge by at most a tenth and its value accordingly
(`boundedInfluence`). The bridge adds the moved probability to the natural one, so that its intervention
probability can exceed one, which that of the scorer cannot (`isPrediction_iff`). Without signals the two
agree on the amounts, attempts and probabilities that the scorer does not sanitize (`agree_iff`).
-/

namespace CtrlRecovery

open Core Js BayesianProbabilityCalibrator

namespace NumericScorer

open SemanticEconomicsBridge.Reported (appliedModifiers)

def engine (math : JsMath) (s : State) : EngineAnswers := fun reasonCode declineType =>
  (getEffectiveProbabilitiesSync math s reasonCode declineType).1

variable {A : Arithmetic} {effectiveProbabilities : EngineAnswers} {llmInfluenceDisabled : Bool}
  {opp : ScoreInput}
  {signals : List ReportedSignal} {pN pI x m : ℚ} {source : ProbabilitySource} {a : Number}

/-! ### The probabilities of the bridge -/

lemma isFixed_hundredths : IsFixed 4 (95 / 100) := ⟨9500, by norm_num⟩

lemma gain_eq (hN : IsProbability pN) (hI : IsProbability pI) : gain pN pI = max 0 (pI - pN) := by
  rw [gain, Js.roundFixed_of_isFixed (hI.isFixed.sub hN.isFixed)]

lemma isProbability_gain (hN : IsProbability pN) (hI : IsProbability pI) :
    IsProbability (gain pN pI) where
  nonneg := gain_nonneg pN pI
  le_one := by
    rw [gain_eq hN hI]
    exact max_le zero_le_one (by linarith [hN.nonneg, hI.le_one])
  isFixed := by
    rw [gain_eq hN hI]
    exact isFixed_zero.max (hI.isFixed.sub hN.isFixed)

/-- The incremental probability that a modifier makes of a gain. -/
def movedGain (opp : ScoreInput) (gain m : ℚ) : ℚ :=
  if opp.declineType = .hard then 0 else max 0 (min (95 / 100) (gain + m))

lemma movedGain_mem (opp : ScoreInput) (gain m : ℚ) :
    0 ≤ movedGain opp gain m ∧ movedGain opp gain m ≤ 95 / 100 := by
  rw [movedGain]
  split_ifs
  · norm_num
  · exact ⟨le_max_left .., max_le (by norm_num) (min_le_left ..)⟩

lemma isProbability_movedGain (hx : IsProbability x) (hm : IsFixed 4 m) :
    IsProbability (movedGain opp x m) where
  nonneg := (movedGain_mem opp x m).1
  le_one := (movedGain_mem opp x m).2.trans (by norm_num)
  isFixed := by
    rw [movedGain]
    split_ifs
    · exact isFixed_zero
    · exact isFixed_zero.max (isFixed_hundredths.min (hx.isFixed.add hm))

lemma finalIncrementalProb_eq (hx : IsProbability x) (hm : IsFixed 4 m) (hm' : |m| ≤ 10 / 100) :
    finalIncrementalProb A opp (.finite x) m = .finite (movedGain opp x m) := by
  have hsum := A.roundFixed_add hx.isFixed hm hx.abs_le_one (hm'.trans (by norm_num))
  rw [finalIncrementalProb_finite, hsum, movedGain]

/-- The gain of a hard decline is not moved, and that of another one by at most the modifier. -/
lemma abs_movedGain_sub_le (hx : 0 ≤ x) (hx' : x ≤ 1) (hhard : opp.declineType = .hard → x = 0)
    (hm : |m| ≤ 10 / 100) : |movedGain opp x m - x| ≤ 10 / 100 := by
  obtain ⟨hlow, hhigh⟩ := abs_le.mp hm
  rw [movedGain]
  split_ifs with hdecline
  · rw [hhard hdecline, sub_zero, abs_zero]
    norm_num
  · rw [abs_le]
    rcases le_total (95 / 100) (x + m) with hmin | hmin
    · rw [min_eq_left hmin, max_eq_right (by norm_num)]
      constructor <;> linarith
    · rw [min_eq_right hmin]
      rcases le_total 0 (x + m) with hmax | hmax
      · rw [max_eq_right hmax]
        constructor <;> linarith
      · rw [max_eq_left hmax]
        constructor <;> linarith

/-! ### The influence of signals -/

/-- How far the signals can move the score of an opportunity over a whole amount, in exact arithmetic. -/
structure BoundedInfluence (effectiveProbabilities : EngineAnswers) (llmInfluenceDisabled : Bool)
    (opp : ScoreInput) (signals : List ReportedSignal) (amount : ℕ) : Prop where
  incremental : ∃ baseline final : ℚ,
    incrementalProb (estimateProbabilities effectiveProbabilities opp) = .finite baseline ∧
      (scoreWithSemanticBridge .exact effectiveProbabilities llmInfluenceDisabled opp
        signals).score.incrementalProb = .finite final ∧
      |final - baseline| ≤ 10 / 100 ∧ 0 ≤ final ∧ final ≤ 95 / 100
  rises : let result :=
      scoreWithSemanticBridge .exact effectiveProbabilities llmInfluenceDisabled opp signals
    result.calibratedIvenPaise.Le
      (result.baselineIvenPaise + .finite (10 / 100 * amount + 500 + 1))
  falls : let result :=
      scoreWithSemanticBridge .exact effectiveProbabilities llmInfluenceDisabled opp signals
    result.baselineIvenPaise.Le
      (result.calibratedIvenPaise + .finite (10 / 100 * amount + 500 + 1))
  hard : opp.declineType = .hard →
    (scoreWithSemanticBridge .exact effectiveProbabilities llmInfluenceDisabled opp
      signals).calibratedIvenPaise.Le (0 : ℚ)

/-- The fatigue cost of the attempts, of which zero and `NaN` count as one, is a number or infinite. -/
lemma fatigueCostPaise_orElse (a : Number) :
    (∃ f, 0 ≤ f ∧ fatigueCostPaise (a.orElse 1) = .finite f) ∨
      fatigueCostPaise (a.orElse 1) = .posInf := by
  cases a with
  | nan      => exact .inl ⟨_, SemanticEconomicsBridge.fatigueCostPaise_nonneg 1, fatigueCostPaise_finite⟩
  | negInf   => exact .inl ⟨0, le_rfl, rfl⟩
  | finite x => exact .inl ⟨_, SemanticEconomicsBridge.fatigueCostPaise_nonneg _, fatigueCostPaise_finite⟩
  | posInf   => exact .inr (by decide +kernel)

lemma abs_value_sub_le {i i' n f fm : ℚ} (hn : 0 ≤ n) (hi : |i' - i| ≤ 10 / 100) (hfm : 0 ≤ fm)
    (hfm' : fm ≤ 500) :
    |(Js.mathRound (i' * n - 400 - (f + fm)) - Js.mathRound (i * n - 400 - f) : ℚ)| ≤
      10 / 100 * n + 500 + 1 := by
  have hgross : |(i' - i) * n| ≤ 10 / 100 * n := by
    rw [abs_mul, abs_of_nonneg hn]
    exact mul_le_mul_of_nonneg_right hi hn
  have hcost : |(i' - i) * n - fm| ≤ 10 / 100 * n + 500 :=
    (abs_sub ..).trans (add_le_add hgross (by rwa [abs_of_nonneg hfm]))
  calc |(Js.mathRound (i' * n - 400 - (f + fm)) - Js.mathRound (i * n - 400 - f) : ℚ)|
      ≤ |i' * n - 400 - (f + fm) - (i * n - 400 - f)| + 1 := Js.abs_mathRound_sub_le ..
    _ = |(i' - i) * n - fm| + 1 := by ring_nf
    _ ≤ 10 / 100 * n + 500 + 1 := add_le_add hcost le_rfl

section Bridge

variable (A llmInfluenceDisabled signals)

/-- What the bridge computes from probabilities. -/
lemma scoreWithSemanticBridge_eq
    (hprobs : estimateProbabilities effectiveProbabilities opp = ⟨some pN, some pI, source⟩)
    (hN : IsProbability pN) (hI : IsProbability pI) :
    let result := scoreWithSemanticBridge A effectiveProbabilities llmInfluenceDisabled opp signals
    let modifiers := appliedModifiers A llmInfluenceDisabled signals
    let final := movedGain opp (gain pN pI) modifiers.incrementalProbModifier
    let fatigue := fatigueCostPaise (opp.attemptCount.orElse 1)
    result.score.naturalRecoveryProb = some (.finite pN) ∧
      result.score.interventionRecoveryProb = some (.finite (pN + final)) ∧
      result.score.incrementalProb = .finite final ∧
      result.baselineIvenPaise =
        roundedValue (.finite (gain pN pI)) opp.amountPaise (.finite 400) fatigue ∧
      result.calibratedIvenPaise = roundedValue (.finite final) opp.amountPaise (.finite 400)
        (fatigue + .finite modifiers.fatigueCostModifierPaise) := by
  have hfixed :=
    SemanticEconomicsBridge.Reported.isFixed_incrementalProbModifier A llmInfluenceDisabled signals
  have hbound :=
    SemanticEconomicsBridge.Reported.abs_incrementalProbModifier_le A llmInfluenceDisabled signals
  have hgain := isProbability_gain hN hI
  have hfinal : IsProbability (movedGain opp _ _) := isProbability_movedGain hgain hfixed
  simp only [scoreWithSemanticBridge, hprobs, incrementalProb_some, Option.map_some,
    finalIncrementalProb_eq hgain hfixed hbound, Number.ofOption_some, sumIn_finite,
    Number.roundFixed_finite,
    A.roundFixed_add hN.isFixed hfinal.isFixed hN.abs_le_one hfinal.abs_le_one,
    operationalCostPaise, and_self]

end Bridge

/-- Whatever is reported moves the incremental probability by at most a tenth and the value by at most a
tenth of the amount, the largest fatigue modifier and what rounding adds, and makes no hard decline worth
an intervention. -/
theorem boundedInfluence (effectiveProbabilities : EngineAnswers) (llmInfluenceDisabled : Bool)
    (opp : ScoreInput) (signals : List ReportedSignal) (amount : ℕ)
    (hamount : opp.amountPaise = .finite amount)
    (hprobs : estimateProbabilities effectiveProbabilities opp = ⟨some pN, some pI, source⟩)
    (hN : IsProbability pN) (hI : IsProbability pI) :
    BoundedInfluence effectiveProbabilities llmInfluenceDisabled opp signals amount := by
  have hgain := isProbability_gain hN hI
  have hmoved := abs_movedGain_sub_le hgain.nonneg hgain.le_one
    (fun hhard => gain_of_hard hhard hprobs)
    (SemanticEconomicsBridge.Reported.abs_incrementalProbModifier_le .exact llmInfluenceDisabled
      signals)
  obtain ⟨hfm, hfm'⟩ :=
    SemanticEconomicsBridge.Reported.fatigueCostModifierPaise_mem .exact llmInfluenceDisabled signals
  obtain ⟨-, -, hfinal, hbaseline, hcalibrated⟩ :=
    scoreWithSemanticBridge_eq .exact llmInfluenceDisabled signals hprobs hN hI
  have hincremental : incrementalProb (estimateProbabilities effectiveProbabilities opp) =
      .finite (gain pN pI) := by rw [hprobs, incrementalProb_some]
  rw [hamount] at hbaseline hcalibrated
  rcases fatigueCostPaise_orElse opp.attemptCount with ⟨f, hf, hfatigue⟩ | hfatigue
  · rw [hfatigue, roundedValue_finite] at hbaseline
    rw [hfatigue, Number.add_finite, roundedValue_finite] at hcalibrated
    have hvalue := abs_le.mp (abs_value_sub_le (f := f) (Nat.cast_nonneg amount) hmoved
      (Int.cast_nonneg hfm) (by exact_mod_cast hfm'))
    refine ⟨⟨_, _, hincremental, hfinal, hmoved, movedGain_mem ..⟩, ?_, ?_, fun hhard => ?_⟩
    · simp only [hbaseline, hcalibrated, Number.add_finite, Number.finite_le_finite]
      linarith [hvalue.2]
    · simp only [hbaseline, hcalibrated, Number.add_finite, Number.finite_le_finite]
      linarith [hvalue.1]
    · rw [hcalibrated, movedGain, if_pos hhard, Number.finite_le_finite]
      have hfm'' : (0 : ℚ) ≤
          (appliedModifiers .exact llmInfluenceDisabled signals).fatigueCostModifierPaise :=
        Int.cast_nonneg hfm
      exact_mod_cast Js.mathRound_le 0 (by push_cast; linarith)
  · -- with infinitely many attempts both values are minus infinity
    rw [hfatigue] at hbaseline hcalibrated
    have hbaseline' : (scoreWithSemanticBridge .exact effectiveProbabilities llmInfluenceDisabled opp
        signals).baselineIvenPaise = .negInf := hbaseline
    have hcalibrated' : (scoreWithSemanticBridge .exact effectiveProbabilities llmInfluenceDisabled opp
        signals).calibratedIvenPaise = .negInf := hcalibrated
    refine ⟨⟨_, _, hincremental, hfinal, hmoved, movedGain_mem ..⟩, ?_, ?_, fun _ => ?_⟩
    · simp only [hbaseline', hcalibrated']
      exact trivial
    · simp only [hbaseline', hcalibrated']
      exact trivial
    · rw [hcalibrated']
      exact trivial

/-- A transient failure of infinite value without a confidence, and a fatigue the other way round. -/
theorem boundedInfluence_network_error :
    BoundedInfluence (fun _ _ => ⟨some (45 / 100), some (75 / 100), .static⟩) false sampleInput
      [⟨.transientFailure, .posInf, .nan⟩, ⟨.fatigue, .nan, .posInf⟩] 100000 :=
  boundedInfluence (fun _ _ => ⟨some (45 / 100), some (75 / 100), .static⟩) false sampleInput
    [⟨.transientFailure, .posInf, .nan⟩, ⟨.fatigue, .nan, .posInf⟩] 100000
    (by decide +kernel) rfl
    (by exact_mod_cast isProbability_percent (n := 45) (by decide))
    (by exact_mod_cast isProbability_percent (n := 75) (by decide))

/-! ### Predictions -/

/-- The probabilities of a score are probabilities, and the gain is not more than the larger one. -/
def IsPrediction (score : NumericScore) : Prop :=
  ∃ natural intervention incremental : ℚ,
    score.naturalRecoveryProb = some (.finite natural) ∧
      score.interventionRecoveryProb = some (.finite intervention) ∧
      score.incrementalProb = .finite incremental ∧
      0 ≤ natural ∧ natural ≤ 1 ∧ 0 ≤ intervention ∧ intervention ≤ 1 ∧ incremental ≤ intervention

/-- Both scores of an opportunity are predictions. -/
def Predicts (effectiveProbabilities : EngineAnswers) (llmInfluenceDisabled : Bool) (opp : ScoreInput)
    (signals : List ReportedSignal) : Prop :=
  IsPrediction (calculateScore effectiveProbabilities opp).toNumericScore ∧
    IsPrediction
      (scoreWithSemanticBridge .double effectiveProbabilities llmInfluenceDisabled opp signals).score

/-- The engine has probabilities for the opportunity, and the natural one leaves room for the largest
gain, or the larger one for the modifier. -/
def LeavesRoom (effectiveProbabilities : EngineAnswers) (opp : ScoreInput) (m : ℚ) : Prop :=
  ∃ pN pI source,
    estimateProbabilities effectiveProbabilities opp = ⟨some pN, some pI, source⟩ ∧
      (pN ≤ 5 / 100 ∨ max pN pI + m ≤ 1)

lemma inRange_estimateProbabilities {math : JsMath} {s : State} (hs : StateInRange s)
    (opp : ScoreInput) : (estimateProbabilities (engine math s) opp).InRange := by
  rw [estimateProbabilities]
  split_ifs
  · have hhard : IsProbability (2 / 100) := by exact_mod_cast isProbability_percent (n := 2) (by decide)
    exact .inr ⟨_, _, rfl, hhard, hhard⟩
  · exact inRange_getEffectiveProbabilitiesSync hs

lemma exists_probs_iff {probs : EffectiveProbabilities} (P : ℚ → ℚ → Prop)
    (h : probs = ⟨some pN, some pI, source⟩) :
    (∃ pN pI source, probs = ⟨some pN, some pI, source⟩ ∧ P pN pI) ↔ P pN pI := by
  constructor
  · rintro ⟨pN', pI', source', h', hP⟩
    obtain ⟨hnatural, hintervention, -⟩ := EffectiveProbabilities.mk.inj (h.symm.trans h')
    cases hnatural
    cases hintervention
    exact hP
  · exact fun hP => ⟨pN, pI, source, h, hP⟩

lemma not_exists_probs {probs : EffectiveProbabilities} {P : ℚ → ℚ → Prop}
    (h : probs = ⟨none, none, source⟩) :
    ¬ ∃ pN pI source, probs = ⟨some pN, some pI, source⟩ ∧ P pN pI := by
  rintro ⟨pN, pI, source, hsome, -⟩
  rw [h] at hsome
  cases hsome

lemma isPrediction_calculateScore
    (hprobs : estimateProbabilities effectiveProbabilities opp = ⟨some pN, some pI, source⟩)
    (hN : IsProbability pN) (hI : IsProbability pI) :
    IsPrediction (calculateScore effectiveProbabilities opp).toNumericScore := by
  refine ⟨pN, pI, gain pN pI, ?_, ?_, ?_, hN.nonneg, hN.le_one, hI.nonneg, hI.le_one, ?_⟩
  · simp [calculateScore, hprobs]
  · simp [calculateScore, hprobs]
  · simp [calculateScore, hprobs]
  · rw [gain_eq hN hI]
    exact max_le hI.nonneg (by linarith [hN.nonneg])

/-- The bridge's probabilities are, exactly when the moved gain leaves room. -/
lemma isPrediction_bridge_iff
    (hprobs : estimateProbabilities effectiveProbabilities opp = ⟨some pN, some pI, source⟩)
    (hN : IsProbability pN) (hI : IsProbability pI) :
    IsPrediction (scoreWithSemanticBridge A effectiveProbabilities llmInfluenceDisabled opp
        signals).score ↔
      pN + movedGain opp (gain pN pI)
        (appliedModifiers A llmInfluenceDisabled signals).incrementalProbModifier ≤ 1 := by
  obtain ⟨hnatural, hintervention, hincremental, -, -⟩ :=
    scoreWithSemanticBridge_eq A llmInfluenceDisabled signals hprobs hN hI
  obtain ⟨hnonneg, -⟩ := movedGain_mem opp (gain pN pI)
    (appliedModifiers A llmInfluenceDisabled signals).incrementalProbModifier
  rw [IsPrediction, hnatural, hintervention, hincremental]
  constructor
  · rintro ⟨natural, intervention, incremental, -, heq, -, -, -, -, hle, -⟩
    cases heq
    exact hle
  · intro hle
    exact ⟨_, _, _, rfl, rfl, rfl, hN.nonneg, hN.le_one, by linarith [hN.nonneg], hle,
      by linarith [hN.nonneg]⟩

lemma add_movedGain_le_one_iff
    (hprobs : estimateProbabilities effectiveProbabilities opp = ⟨some pN, some pI, source⟩)
    (hN : IsProbability pN) (hI : IsProbability pI) :
    pN + movedGain opp (gain pN pI) m ≤ 1 ↔ pN ≤ 5 / 100 ∨ max pN pI + m ≤ 1 := by
  rw [movedGain]
  split_ifs with hhard
  · rw [(probs_of_hard hhard hprobs).1]
    exact iff_of_true (by norm_num) (.inl (by norm_num))
  · have hmax : pN + gain pN pI = max pN pI := by
      rw [gain_eq hN hI, ← max_add_add_left, add_zero, add_sub_cancel]
    rw [← hmax]
    rcases le_total (95 / 100) (gain pN pI + m) with hmin | hmin
    · rw [min_eq_left hmin, max_eq_right (by norm_num)]
      constructor
      · exact fun hle => .inl (by linarith)
      · rintro (hle | hle) <;> linarith
    · rw [min_eq_right hmin, ← max_add_add_left, add_zero, max_le_iff, and_iff_right hN.le_one,
        add_assoc]
      refine ⟨.inr, ?_⟩
      rintro (hle | hle)
      · linarith
      · exact hle

/-- In every state that observations, lookups and restarts lead to, the scorer and the bridge predict with
probabilities exactly when the engine has some and they leave room for the modifier. -/
theorem predicts_iff (math : JsMath) {actions : List ProcessAction} {s : State}
    (hrun : Run (processStep math) State.initial actions s) (llmInfluenceDisabled : Bool)
    (opp : ScoreInput) (signals : List ReportedSignal) :
    Predicts (engine math s) llmInfluenceDisabled opp signals ↔
      LeavesRoom (engine math s) opp
        (appliedModifiers .double llmInfluenceDisabled signals).incrementalProbModifier := by
  have hs : StateInRange s :=
    hrun.invariant (fun _ _ _ => stateInRange_processStep) stateInRange_initial
  have hrange : (estimateProbabilities (engine math s) opp).InRange :=
    inRange_estimateProbabilities hs opp
  rcases hrange with hnone | ⟨pN, pI, hprobs, hN, hI⟩
  · refine iff_of_false ?_ (not_exists_probs hnone)
    rintro ⟨⟨natural, -, -, hnatural, -⟩, -⟩
    rw [calculateScore, hnone] at hnatural
    cases hnatural
  · rw [Predicts, and_iff_right (isPrediction_calculateScore hprobs hN hI),
      isPrediction_bridge_iff hprobs hN hI, add_movedGain_le_one_iff hprobs hN hI]
    exact (exists_probs_iff (fun pN pI => pN ≤ 5 / 100 ∨ max pN pI +
      (appliedModifiers .double llmInfluenceDisabled signals).incrementalProbModifier ≤ 1) hprobs).symm

/-- Before the first observation a network error and no signals give predictions. -/
theorem predicts_iff_initial :
    Predicts (engine ⟨id, id⟩ State.initial) false sampleInput [] :=
  (predicts_iff ⟨id, id⟩ (.nil State.initial) false sampleInput []).mpr
    ⟨45 / 100, 75 / 100, .static, by decide +kernel, .inr (by decide +kernel)⟩

/-- A hundred links after network errors that were all paid, of which the last is written and cached. -/
def paidLinks : List ProcessAction :=
  ((List.range 100).map fun call =>
    .record (.observe call ⟨"tenant_default", "network_error", true, true⟩)) ++
    List.replicate 3 (.record (.resume ("tenant_default", 99) true 0))

/-- After a hundred paid links a certain transient failure makes the probability 1.0273; and a reason that
plain objects inherit has no probability at all. -/
theorem prediction_exceeds_one :
    (∃ s, Run (processStep ⟨id, id⟩) State.initial paidLinks s ∧
      ¬ Predicts (engine ⟨id, id⟩ s) false sampleInput [⟨.transientFailure, (1 : ℚ), (1 : ℚ)⟩]) ∧
    ¬ Predicts (engine ⟨id, id⟩ State.initial) false
        { sampleInput with reasonCode := "constructor" } [] := by
  constructor
  · obtain ⟨s, hrun, hvalue⟩ := exists_run_of_execute (processStep ⟨id, id⟩) State.initial paidLinks
      (fun s => decide ((scoreWithSemanticBridge .double (engine ⟨id, id⟩ s) false sampleInput
        [⟨.transientFailure, (1 : ℚ), (1 : ℚ)⟩]).score.interventionRecoveryProb =
          some (.finite (10273 / 10000)))) (by decide +kernel)
    refine ⟨s, hrun, ?_⟩
    rintro ⟨-, natural, intervention, incremental, -, hintervention, -, -, -, -, hle, -⟩
    rw [of_decide_eq_true hvalue, Option.some.injEq, Number.finite.injEq] at hintervention
    rw [← hintervention] at hle
    norm_num at hle
  · rintro ⟨⟨natural, -, -, hnatural, -⟩, -⟩
    have hnone : (calculateScore (engine ⟨id, id⟩ State.initial)
        { sampleInput with reasonCode := "constructor" }).naturalRecoveryProb = none := by
      decide +kernel
    rw [hnone] at hnatural
    cases hnatural

/-! ### Agreement without signals -/

/-- The scores have the same probabilities, costs, value and confidence. -/
structure Agree (score score' : NumericScore) : Prop where
  natural : score.naturalRecoveryProb = score'.naturalRecoveryProb
  intervention : score.interventionRecoveryProb = score'.interventionRecoveryProb
  incremental : score.incrementalProb = score'.incrementalProb
  operational : score.operationalCostPaise = score'.operationalCostPaise
  fatigue : score.fatigueCostPaise = score'.fatigueCostPaise
  value : score.expectedIncrementalValuePaise = score'.expectedIncrementalValuePaise
  confidence : score.confidence = score'.confidence

/-- The attempts that cost the same before and after they are sanitized. -/
def PlainAttempts : Number → Prop
  | .nan      => True
  | .negInf   => True
  | .finite x => x ≤ 1 ∨ (x ≤ 20 ∧ ∃ n : ℤ, x = n)
  | .posInf   => False

/-- The amounts that a gain makes the same of before and after they are sanitized. -/
def PlainAmount (gain : ℚ) : Number → Prop
  | .finite x => Js.mathRound (gain * x) = Js.mathRound (gain * max 0 ⌊x⌋)
  | _         => False

lemma fatiguePaise_le {k : ℤ} (h : 1 ≤ k) : fatiguePaise k ≤ 500 * k - 500 := by
  rw [fatiguePaise]
  split_ifs <;> omega

/-- Whole attempts are sanitized to at most twenty, from where the cost is no longer the same. -/
lemma fatiguePaise_safe_eq_iff {n : ℤ} (h : 1 < n) :
    fatiguePaise (max 1 (min 20 n)) = fatiguePaise n ↔ n ≤ 20 := by
  rcases le_or_gt n 20 with hle | hlt
  · rw [min_eq_right hle, max_eq_right h.le]
    exact iff_of_true rfl hle
  · rw [min_eq_left hlt.le, max_eq_right (by norm_num)]
    refine iff_of_false ?_ (not_le.mpr hlt)
    rw [fatiguePaise, fatiguePaise]
    split_ifs <;> omega

/-- Attempts that are not whole are sanitized to fewer. -/
lemma fatiguePaise_safe_lt (h : 1 < x) (hwhole : ¬ ∃ n : ℤ, x = n) :
    (fatiguePaise (max 1 (min 20 ⌊x⌋)) : ℚ) < SemanticEconomicsBridge.fatigueCostPaise x := by
  have hcost : SemanticEconomicsBridge.fatigueCostPaise x = 500 * x - 500 := by
    have htwo : x ≠ 2 := fun heq => hwhole ⟨2, by exact_mod_cast heq⟩
    have hthree : x ≠ 3 := fun heq => hwhole ⟨3, by exact_mod_cast heq⟩
    rw [SemanticEconomicsBridge.fatigueCostPaise, if_neg (not_le.mpr h), if_neg htwo, if_neg hthree]
    ring
  have hfloor : 1 ≤ ⌊x⌋ := Int.le_floor.mpr (by exact_mod_cast h.le)
  have hlt : (⌊x⌋ : ℚ) < x := lt_of_le_of_ne (Int.floor_le x) fun heq => hwhole ⟨⌊x⌋, heq.symm⟩
  have hmono : fatiguePaise (max 1 (min 20 ⌊x⌋)) ≤ 500 * ⌊x⌋ - 500 :=
    (fatiguePaise_mono (max_le hfloor (min_le_right ..))).trans (fatiguePaise_le hfloor)
  have hmono' : (fatiguePaise (max 1 (min 20 ⌊x⌋)) : ℚ) ≤ 500 * ⌊x⌋ - 500 := by exact_mod_cast hmono
  rw [hcost]
  linarith

/-- More than one attempt costs the same exactly for whole attempts up to twenty. -/
lemma fatiguePaise_safe_eq_iff_of_one_lt (h : 1 < x) :
    (fatiguePaise (max 1 (min 20 ⌊x⌋)) : ℚ) = SemanticEconomicsBridge.fatigueCostPaise x ↔
      x ≤ 20 ∧ ∃ n : ℤ, x = n := by
  by_cases hwhole : ∃ n : ℤ, x = n
  · rw [and_iff_left hwhole]
    obtain ⟨n, rfl⟩ := hwhole
    have hcost := fatigueCostPaise_intCast (k := n)
    rw [fatigueCostPaise_finite, Number.finite.injEq] at hcost
    rw [hcost, Int.floor_intCast, Int.cast_inj, fatiguePaise_safe_eq_iff (by exact_mod_cast h)]
    norm_cast
  · exact iff_of_false (fatiguePaise_safe_lt h hwhole).ne fun hplain => hwhole hplain.2

lemma fatiguePaise_safe_eq_of_le_one (h : x ≤ 1) :
    (fatiguePaise (max 1 (min 20 ⌊x⌋)) : ℚ) =
      SemanticEconomicsBridge.fatigueCostPaise (orDefault x 1) := by
  have hfloor : min 20 ⌊x⌋ ≤ 1 :=
    (min_le_right ..).trans (Int.floor_le_iff.mpr (by push_cast; linarith))
  have hone : orDefault x 1 ≤ 1 := by
    rw [orDefault]
    split_ifs
    · exact le_rfl
    · exact h
  rw [max_eq_left hfloor, SemanticEconomicsBridge.fatigueCostPaise, if_pos hone]
  norm_num [fatiguePaise]

/-- The fatigue cost is the same exactly for attempts that are not sanitized. -/
lemma fatigue_agree_iff : fatigueCostPaise (safeAttempts a : ℚ) = fatigueCostPaise (a.orElse 1) ↔
    PlainAttempts a := by
  cases a with
  | nan      => exact iff_of_true rfl trivial
  | negInf   => exact iff_of_true (by decide +kernel) trivial
  | posInf   => exact iff_of_false (by decide +kernel) id
  | finite x =>
    have hsafe : safeAttempts (.finite x) = max 1 (min 20 ⌊x⌋) := rfl
    rw [hsafe, fatigueCostPaise_intCast, Number.orElse_finite, fatigueCostPaise_finite,
      Number.finite.injEq, PlainAttempts]
    rcases le_or_gt x 1 with hle | hlt
    · exact iff_of_true (fatiguePaise_safe_eq_of_le_one hle) (.inl hle)
    · have hzero : x ≠ 0 := (zero_lt_one.trans hlt).ne'
      rw [orDefault, if_neg hzero, fatiguePaise_safe_eq_iff_of_one_lt hlt,
        or_iff_right (not_le.mpr hlt)]

lemma roundedValue_ne_of_infinity {n : ℤ} {y : ℚ} (h : a = Number.infinity x) :
    (a - operationalCostPaise - .finite n).mathRound ≠ .finite y := by
  rw [Number.infinity] at h
  split_ifs at h
  all_goals
    rw [h]
    exact nofun

/-- With equal whole costs the values are the same exactly for amounts that are not sanitized. -/
lemma value_agree_iff {gain : ℚ} {n : ℤ} :
    roundedValue (.finite gain) (safeAmount a : ℚ) operationalCostPaise (.finite n) =
        roundedValue (.finite gain) a operationalCostPaise (.finite n) ↔
      PlainAmount gain a := by
  rw [roundedValue_eq, eq_comm]
  cases a with
  | nan      => exact iff_of_false (by simp [roundedValue]) id
  | negInf   => exact iff_of_false (roundedValue_ne_of_infinity (x := -gain) rfl) id
  | posInf   => exact iff_of_false (roundedValue_ne_of_infinity (x := gain) rfl) id
  | finite x =>
    have hsafe : safeAmount (.finite x) = max 0 ⌊x⌋ := rfl
    rw [roundedValue_eq, Number.finite.injEq, Int.cast_inj, sub_left_inj, sub_left_inj, hsafe,
      PlainAmount]

lemma movedGain_zero_eq_iff
    (hprobs : estimateProbabilities effectiveProbabilities opp = ⟨some pN, some pI, source⟩) :
    gain pN pI = movedGain opp (gain pN pI) 0 ↔ gain pN pI ≤ 95 / 100 := by
  constructor
  · exact fun heq => heq.trans_le (movedGain_mem ..).2
  · intro hle
    rw [movedGain]
    split_ifs with hhard
    · exact gain_of_hard hhard hprobs
    · rw [add_zero, min_eq_right hle, max_eq_right (gain_nonneg pN pI)]

/-- The two scores of an opportunity with probabilities. -/
lemma agree_nil_iff
    (hprobs : estimateProbabilities effectiveProbabilities opp = ⟨some pN, some pI, source⟩)
    (hN : IsProbability pN) (hI : IsProbability pI) :
    Agree (calculateScore effectiveProbabilities opp).toNumericScore
        (scoreWithSemanticBridge .exact effectiveProbabilities llmInfluenceDisabled opp []).score ↔
      PlainAttempts opp.attemptCount ∧ pN ≤ pI ∧ pI ≤ pN + 95 / 100 ∧
        PlainAmount (pI - pN) opp.amountPaise := by
  have hbridge := scoreWithSemanticBridge_eq .exact llmInfluenceDisabled [] hprobs hN hI
  simp only [SemanticEconomicsBridge.Reported.appliedModifiers_nil, Int.cast_zero,
    Number.add_finite_zero] at hbridge
  obtain ⟨hnatural, hintervention, hincremental, -, hcalibrated⟩ := hbridge
  have hfatigue : (scoreWithSemanticBridge .exact effectiveProbabilities llmInfluenceDisabled opp
      []).score.fatigueCostPaise = fatigueCostPaise (opp.attemptCount.orElse 1) := by
    simp only [scoreWithSemanticBridge, SemanticEconomicsBridge.Reported.appliedModifiers_nil,
      Int.cast_zero, Number.add_finite_zero]
  have hvalue := expectedIncrementalValuePaise_eq hprobs
  rw [← roundedValue_eq] at hvalue
  have hgain := gain_eq hN hI
  have hscore : (calculateScore effectiveProbabilities opp).naturalRecoveryProb = some (.finite pN) ∧
      (calculateScore effectiveProbabilities opp).interventionRecoveryProb = some (.finite pI) ∧
      (calculateScore effectiveProbabilities opp).incrementalProb = .finite (gain pN pI) := by
    simp [calculateScore, hprobs]
  obtain ⟨hnatural', hintervention', hincremental'⟩ := hscore
  constructor
  · intro h
    have hattempts := fatigue_agree_iff.mp (h.fatigue.trans hfatigue)
    have hsame : gain pN pI = movedGain opp (gain pN pI) 0 :=
      Number.finite.inj (hincremental'.symm.trans (h.incremental.trans hincremental))
    have hle := (movedGain_zero_eq_iff hprobs).mp hsame
    have hsum : pI = pN + gain pN pI := by
      have heq := hintervention'.symm.trans (h.intervention.trans hintervention)
      rw [← hsame, Option.some.injEq, Number.finite.injEq] at heq
      exact heq
    have hdiff : gain pN pI = pI - pN := by linarith
    refine ⟨hattempts, by linarith [gain_nonneg pN pI], by linarith, ?_⟩
    have hvalues := hvalue.symm.trans (h.value.trans hcalibrated)
    rw [← hsame, ← fatigue_agree_iff.mpr hattempts, fatigueCostPaise_intCast] at hvalues
    exact hdiff ▸ value_agree_iff.mp hvalues
  · rintro ⟨hattempts, hle, hle', hamount⟩
    have hdiff : gain pN pI = pI - pN := hgain.trans (max_eq_right (sub_nonneg.mpr hle))
    have hsame := (movedGain_zero_eq_iff hprobs).mpr (by linarith)
    refine ⟨hnatural'.trans hnatural.symm, ?_, ?_, rfl, ?_, ?_, rfl⟩
    · rw [hintervention', hintervention, ← hsame, hdiff, add_sub_cancel]
    · rw [hincremental', hincremental, ← hsame]
    · exact (fatigue_agree_iff.mpr hattempts).trans hfatigue.symm
    · refine hvalue.trans (Eq.trans ?_ hcalibrated.symm)
      rw [← hsame, ← fatigue_agree_iff.mpr hattempts, fatigueCostPaise_intCast]
      exact value_agree_iff.mpr (hdiff ▸ hamount)

/-- Without signals the two scores are the same exactly when the probabilities are there and at most 0.95
apart, the link does not lower them, and neither the amount nor the attempts are sanitized. -/
theorem agree_iff (math : JsMath) {actions : List ProcessAction} {s : State}
    (hrun : Run (processStep math) State.initial actions s) (llmInfluenceDisabled : Bool)
    (opp : ScoreInput) :
    Agree (calculateScore (engine math s) opp).toNumericScore
        (scoreWithSemanticBridge .exact (engine math s) llmInfluenceDisabled opp []).score ↔
      PlainAttempts opp.attemptCount ∧ ∃ pN pI source,
        estimateProbabilities (engine math s) opp = ⟨some pN, some pI, source⟩ ∧
          pN ≤ pI ∧ pI ≤ pN + 95 / 100 ∧ PlainAmount (pI - pN) opp.amountPaise := by
  have hs : StateInRange s :=
    hrun.invariant (fun _ _ _ => stateInRange_processStep) stateInRange_initial
  have hrange : (estimateProbabilities (engine math s) opp).InRange :=
    inRange_estimateProbabilities hs opp
  rcases hrange with hnone | ⟨pN, pI, hprobs, hN, hI⟩
  · refine iff_of_false (fun h => ?_) fun h => not_exists_probs hnone h.2
    have hintervention := h.intervention
    rw [calculateScore, hnone] at hintervention
    cases hintervention
  · rw [agree_nil_iff hprobs hN hI]
    exact and_congr_right fun _ => (exists_probs_iff (fun pN pI => pN ≤ pI ∧ pI ≤ pN + 95 / 100 ∧
      PlainAmount (pI - pN) opp.amountPaise) hprobs).symm

/-- Before the first observation the two scores of a first network error are the same. -/
theorem agree_iff_initial :
    Agree (calculateScore (engine ⟨id, id⟩ State.initial) sampleInput).toNumericScore
      (scoreWithSemanticBridge .exact (engine ⟨id, id⟩ State.initial) false sampleInput []).score :=
  (agree_iff ⟨id, id⟩ (.nil State.initial) false sampleInput).mpr
    ⟨.inl le_rfl, 45 / 100, 75 / 100, .static, by decide +kernel, by norm_num, by norm_num,
      show Js.mathRound _ = Js.mathRound _ by decide +kernel⟩

/-- Before the first observation a network error of the twenty-first attempt costs 9500 paise in fatigue
for the scorer and 10000 for the bridge. -/
theorem attempts_sanitized :
    ¬ Agree (calculateScore (engine ⟨id, id⟩ State.initial)
        { sampleInput with attemptCount := (21 : ℚ) }).toNumericScore
      (scoreWithSemanticBridge .exact (engine ⟨id, id⟩ State.initial) false
        { sampleInput with attemptCount := (21 : ℚ) } []).score := by
  intro h
  have hfatigue := h.fatigue
  revert hfatigue
  decide +kernel

end NumericScorer

end CtrlRecovery
