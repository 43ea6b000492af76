import CtrlRecovery.Agents.SemanticSignals
import CtrlRecovery.Economics.Calibration

/-!
# Scoring any numbers

An opportunity reaches the scorer with whatever `Number` made of its amount and its attempts, and a
probability of the calibration engine may be missing. The scorer sanitizes both numbers and the semantic
bridge neither. On finite numbers both are the calculations of `Scorer` and `SemanticEconomicsBridge`
(`calculateScore_ofOpportunity`, `scoreWithSemanticBridge_ofOpportunity`).
-/

namespace CtrlRecovery

open Js

/-- What a score is computed from. -/
structure ScoreInput where
  id : String
  tenantId : String
  reasonCode : String
  declineType : DeclineType
  amountPaise : Number
  attemptCount : Number
  deriving DecidableEq, Repr

/-- A score as it is returned; `none` is `undefined`. -/
structure NumericScore where
  opportunityId : String
  naturalRecoveryProb : Option Number
  interventionRecoveryProb : Option Number
  incrementalProb : Number
  operationalCostPaise : Number
  fatigueCostPaise : Number
  expectedIncrementalValuePaise : Number
  confidence : ConfidenceLevel
  probabilitySource : ProbabilitySource
  deriving DecidableEq, Repr

/-- The scorer returns the tenant and the band besides. -/
structure CalculatedNumericScore extends NumericScore where
  tenantId : String
  ivenBand : IVENBand
  deriving DecidableEq, Repr

def EffectiveProbabilities.IsNumeric (probs : EffectiveProbabilities) : Prop :=
  probs.pNatural.isSome ∧ probs.pIntervention.isSome

lemma EffectiveProbabilities.IsNumeric.exists_eq {probs : EffectiveProbabilities}
    (h : probs.IsNumeric) : ∃ pN pI source, probs = ⟨some pN, some pI, source⟩ := by
  obtain ⟨pNatural, pIntervention, source⟩ := probs
  obtain ⟨⟨pN, rfl⟩, ⟨pI, rfl⟩⟩ := And.imp Option.isSome_iff_exists.mp Option.isSome_iff_exists.mp h
  exact ⟨pN, pI, source, rfl⟩

/-- The calibration engine's answer by lower-case reason and decline type. -/
abbrev EngineAnswers : Type := String → DeclineType → EffectiveProbabilities

namespace NumericScorer

/-! ### Probabilities and costs -/

def classifyIVENBand (ivenPaise : Number) : IVENBand :=
  if Number.Le (15000 : ℚ) ivenPaise then .strong
  else if Number.Le (5000 : ℚ) ivenPaise then .moderate
  else if Number.Lt (0 : ℚ) ivenPaise then .weak
  else .negative

/-- The calibrated probabilities; a hard decline has none to gain. -/
def estimateProbabilities (effectiveProbabilities : EngineAnswers) (opp : ScoreInput) :
    EffectiveProbabilities :=
  let bayes := effectiveProbabilities (Js.toLowerCase opp.reasonCode) opp.declineType
  if opp.declineType = .hard then
    { bayes with pNatural := some (2 / 100), pIntervention := some (2 / 100) }
  else bayes

/-- `incremental_prob` of an estimate. -/
def incrementalProb (probs : EffectiveProbabilities) : Number :=
  .mathMax (0 : ℚ)
    (((Number.ofOption probs.pIntervention - Number.ofOption probs.pNatural) : Number).roundFixed 4)

def operationalCostPaise : Number := (400 : ℚ)

/-- `calculateCosts(attemptCount).fatigue_cost_paise`. -/
def fatigueCostPaise (attemptCount : Number) : Number :=
  if attemptCount.Le (1 : ℚ) then (0 : ℚ)
  else if attemptCount = (2 : ℚ) then (250 : ℚ)
  else if attemptCount = (3 : ℚ) then (750 : ℚ)
  else .finite 1500 + (attemptCount - .finite 4) * .finite 500

def determineConfidence (opp : ScoreInput) : ConfidenceLevel :=
  let reason := Js.toLowerCase opp.reasonCode
  let isBankTimeout := Js.includes reason "timeout" || Js.includes reason "network" ||
    Js.includes reason "bank_gateway_timeout"
  if opp.declineType = .unknown ∨ Number.Le (3 : ℚ) opp.attemptCount then .low
  else if opp.declineType = .hard ∨ isBankTimeout then .high
  else .medium

/-! ### The scorer -/

def safeAmount (amountPaise : Number) : ℤ := max 0 (amountPaise.floorOr 0)

def safeAttempts (attemptCount : Number) : ℤ := max 1 (min 20 (attemptCount.floorOr 1))

/-- `incremental_prob * amount_paise` less the two costs, rounded. -/
def roundedValue (incremental amountPaise operationalCost fatigueCost : Number) : Number :=
  (incremental * amountPaise - operationalCost - fatigueCost).mathRound

/-- The calculation without bandit sampling. -/
def calculateScore (effectiveProbabilities : EngineAnswers) (opp : ScoreInput) :
    CalculatedNumericScore :=
  let probs := estimateProbabilities effectiveProbabilities opp
  let boundedIncremental := incrementalProb probs
  let fatigueCost := fatigueCostPaise (safeAttempts opp.attemptCount : ℚ)
  let value := roundedValue boundedIncremental (safeAmount opp.amountPaise : ℚ)
    operationalCostPaise fatigueCost
  let value := if opp.declineType = .hard then .mathMin (0 : ℚ) value else value
  { opportunityId := opp.id
    naturalRecoveryProb := probs.pNatural.map .finite
    interventionRecoveryProb := probs.pIntervention.map .finite
    incrementalProb := boundedIncremental
    operationalCostPaise := operationalCostPaise
    fatigueCostPaise := fatigueCost
    expectedIncrementalValuePaise := value
    confidence := determineConfidence opp
    probabilitySource := probs.source
    tenantId := opp.tenantId
    ivenBand := classifyIVENBand value }

/-! ### The bridge -/

structure BoundedNumericScoringResult where
  score : NumericScore
  baselineIvenPaise : Number
  calibratedIvenPaise : Number
  modifiersApplied : SemanticEconomicsBridge.CalibratedEconomicModifiers
  deriving DecidableEq, Repr

/-- A sum in an arithmetic. -/
def sumIn (A : Arithmetic) : Number → Number → Number
  | .finite x, .finite y => .finite (A.add x y)
  | a, b                 => a + b

/-- The incremental probability after the modifier; a hard decline has none. -/
def finalIncrementalProb (A : Arithmetic) (opp : ScoreInput) (baseline : Number) (modifier : ℚ) :
    Number :=
  if opp.declineType = .hard then (0 : ℚ)
  else .mathMax (0 : ℚ) (.mathMin (95 / 100 : ℚ) ((sumIn A baseline (.finite modifier)).roundFixed 4))

/-- The arithmetic is that of the probabilities; amounts and costs are exact. -/
def scoreWithSemanticBridge (A : Arithmetic) (effectiveProbabilities : EngineAnswers)
    (llmInfluenceDisabled : Bool) (opp : ScoreInput) (signals : List ReportedSignal) :
    BoundedNumericScoringResult :=
  let baselineProbs := estimateProbabilities effectiveProbabilities opp
  let baselineFatigue := fatigueCostPaise (opp.attemptCount.orElse 1)
  let modifiers := SemanticEconomicsBridge.Reported.appliedModifiers A llmInfluenceDisabled signals
  let finalIncremental :=
    finalIncrementalProb A opp (incrementalProb baselineProbs) modifiers.incrementalProbModifier
  let finalFatigue := baselineFatigue + .finite modifiers.fatigueCostModifierPaise
  let finalIvenPaise :=
    roundedValue finalIncremental opp.amountPaise operationalCostPaise finalFatigue
  { score :=
      { opportunityId := opp.id
        naturalRecoveryProb := baselineProbs.pNatural.map .finite
        interventionRecoveryProb :=
          some ((sumIn A (Number.ofOption baselineProbs.pNatural) finalIncremental).roundFixed 4)
        incrementalProb := finalIncremental
        operationalCostPaise := operationalCostPaise
        fatigueCostPaise := finalFatigue
        expectedIncrementalValuePaise := finalIvenPaise
        confidence := determineConfidence opp
        probabilitySource := baselineProbs.source }
    baselineIvenPaise := roundedValue (incrementalProb baselineProbs) opp.amountPaise
      operationalCostPaise baselineFatigue
    calibratedIvenPaise := finalIvenPaise
    modifiersApplied := modifiers }

/-! ### Finite numbers -/

section Finite

variable {pN pI x y : ℚ} {source : ProbabilitySource} {opp : ScoreInput} {k n : ℤ}

def gain (pN pI : ℚ) : ℚ := max 0 (Js.roundFixed (pI - pN) 4)

lemma gain_nonneg (pN pI : ℚ) : 0 ≤ gain pN pI := le_max_left ..

@[simp] lemma incrementalProb_some :
    incrementalProb ⟨some pN, some pI, source⟩ = .finite (gain pN pI) := by
  simp [incrementalProb, gain]

@[simp] lemma sumIn_finite {A : Arithmetic} :
    sumIn A (.finite x) (.finite y) = .finite (A.add x y) := rfl

@[simp] lemma fatigueCostPaise_finite :
    fatigueCostPaise x = .finite (SemanticEconomicsBridge.fatigueCostPaise x) := by
  simp only [fatigueCostPaise, SemanticEconomicsBridge.fatigueCostPaise, Number.finite_le_finite,
    Number.finite.injEq]
  split_ifs <;> simp

@[simp] lemma roundedValue_finite {incremental amount operational fatigue : ℚ} :
    roundedValue incremental amount operational fatigue =
      .finite (Js.mathRound (incremental * amount - operational - fatigue)) := by
  simp [roundedValue]

lemma roundedValue_eq {incremental amount : ℚ} :
    roundedValue incremental amount operationalCostPaise (.finite n) =
      .finite ((Js.mathRound (incremental * amount) - 400 - n : ℤ) : ℚ) := by
  rw [operationalCostPaise, roundedValue_finite]
  have hcosts : incremental * amount - 400 - n + 1 / 2 =
      incremental * amount + 1 / 2 - (400 : ℤ) - (n : ℤ) := by
    push_cast
    ring
  rw [Js.mathRound, hcosts, Int.floor_sub_intCast, Int.floor_sub_intCast, Js.mathRound]

lemma mathMin_guard {p : Prop} [Decidable p] :
    (if p then Number.mathMin (0 : ℚ) (.finite (n : ℚ)) else .finite (n : ℚ)) =
      .finite ((if p then min 0 n else n : ℤ) : ℚ) := by
  split_ifs <;> simp

lemma classifyIVENBand_finite :
    classifyIVENBand (.finite (n : ℚ)) = Scorer.classifyIVENBand n := by
  simp only [classifyIVENBand, Scorer.classifyIVENBand, Number.finite_le_finite,
    Number.finite_lt_finite, ge_iff_le, gt_iff_lt]
  norm_cast

end Finite

/-! #### The calculations of finite numbers -/

/-- Probabilities that are all numbers, as the engine gives them. -/
def engineAnswers (effectiveProbabilities : String → DeclineType → ProbabilityEstimate) :
    EngineAnswers := fun reason declineType =>
  let probs := effectiveProbabilities reason declineType
  ⟨some probs.naturalRecoveryProb, some probs.interventionRecoveryProb, probs.source⟩

/-- A stored opportunity as an input of the scorer. -/
def ofOpportunity (opp : RecoveryOpportunity) : ScoreInput where
  id := opp.id
  tenantId := opp.tenantId
  reasonCode := opp.reasonCode
  declineType := opp.declineType
  amountPaise := .finite opp.amountPaise
  attemptCount := .finite opp.attemptCount

def ofScore (score : Score) (source : ProbabilitySource) : NumericScore where
  opportunityId := score.opportunityId
  naturalRecoveryProb := some (.finite score.naturalRecoveryProb)
  interventionRecoveryProb := some (.finite score.interventionRecoveryProb)
  incrementalProb := .finite score.incrementalProb
  operationalCostPaise := .finite score.operationalCostPaise
  fatigueCostPaise := .finite score.fatigueCostPaise
  expectedIncrementalValuePaise := .finite (score.expectedIncrementalValuePaise : ℚ)
  confidence := score.confidence
  probabilitySource := source

section Opportunities

variable (effectiveProbabilities : String → DeclineType → ProbabilityEstimate)
  (opp : RecoveryOpportunity)

lemma estimateProbabilities_ofOpportunity :
    estimateProbabilities (engineAnswers effectiveProbabilities) (ofOpportunity opp) =
      let probs := Scorer.estimateProbabilities effectiveProbabilities opp
      ⟨some probs.naturalRecoveryProb, some probs.interventionRecoveryProb, probs.source⟩ := by
  rw [estimateProbabilities, Scorer.estimateProbabilities, ofOpportunity]
  split_ifs <;> rfl

lemma determineConfidence_ofOpportunity :
    determineConfidence (ofOpportunity opp) = Scorer.determineConfidence opp := rfl

lemma safeAmount_ofOpportunity :
    safeAmount (ofOpportunity opp).amountPaise = max 0 ⌊opp.amountPaise⌋ := rfl

lemma safeAttempts_ofOpportunity :
    safeAttempts (ofOpportunity opp).attemptCount = max 1 (min 20 ⌊opp.attemptCount⌋) := rfl

lemma calculateScore_ofOpportunity :
    calculateScore (engineAnswers effectiveProbabilities) (ofOpportunity opp) =
      let score := Scorer.calculateScore (.bayes effectiveProbabilities) opp
      { ofScore score.toScore score.probabilitySource with
        tenantId := score.tenantId
        ivenBand := score.ivenBand } := by
  have hhard : (ofOpportunity opp).declineType = opp.declineType := rfl
  simp only [calculateScore, estimateProbabilities_ofOpportunity, incrementalProb_some,
    determineConfidence_ofOpportunity, safeAmount_ofOpportunity, safeAttempts_ofOpportunity,
    fatigueCostPaise_finite, SemanticEconomicsBridge.fatigueCostPaise_intCast, operationalCostPaise,
    roundedValue_finite, hhard, Option.map_some, mathMin_guard, classifyIVENBand_finite]
  rfl

lemma finalIncrementalProb_finite {A : Arithmetic} {opp : ScoreInput} {baseline modifier : ℚ} :
    finalIncrementalProb A opp (.finite baseline) modifier = .finite (if opp.declineType = .hard then 0
      else max 0 (min (95 / 100) (Js.roundFixed (A.add baseline modifier) 4))) := by
  rw [finalIncrementalProb]
  split_ifs <;> simp

/-- The bridge of finite numbers. -/
lemma scoreWithSemanticBridge_ofOpportunity (llmInfluenceDisabled : Bool)
    (signals : List SemanticSignal) :
    scoreWithSemanticBridge .exact (engineAnswers effectiveProbabilities) llmInfluenceDisabled
        (ofOpportunity opp) (signals.map SemanticEconomicsBridge.Reported.report) =
      let result := SemanticEconomicsBridge.scoreWithSemanticBridge effectiveProbabilities
        llmInfluenceDisabled opp signals
      { score := ofScore result.score (Scorer.estimateProbabilities effectiveProbabilities opp).source
        baselineIvenPaise := .finite (result.baselineIvenPaise : ℚ)
        calibratedIvenPaise := .finite (result.calibratedIvenPaise : ℚ)
        modifiersApplied := result.modifiersApplied } := by
  have hhard : (ofOpportunity opp).declineType = opp.declineType := rfl
  have hamount : (ofOpportunity opp).amountPaise = .finite opp.amountPaise := rfl
  have hattempts : (ofOpportunity opp).attemptCount = .finite opp.attemptCount := rfl
  simp only [scoreWithSemanticBridge, estimateProbabilities_ofOpportunity, incrementalProb_some,
    determineConfidence_ofOpportunity, hamount, hattempts, Number.orElse_finite,
    fatigueCostPaise_finite, SemanticEconomicsBridge.Reported.appliedModifiers_report,
    finalIncrementalProb_finite, hhard, Arithmetic.exact_add, sumIn_finite, Number.add_finite,
    operationalCostPaise, roundedValue_finite, Option.map_some, Number.ofOption_some,
    Number.roundFixed_finite]
  rfl

end Opportunities

/-! ### The value of an opportunity -/

section Value

variable {effectiveProbabilities : EngineAnswers} {opp : ScoreInput} {pN pI : ℚ}
  {source : ProbabilitySource} {a b : Number} {k n : ℤ}

/-- The fatigue cost of a whole number of attempts. -/
def fatiguePaise (attemptCount : ℤ) : ℤ :=
  if attemptCount ≤ 1 then 0
  else if attemptCount = 2 then 250
  else if attemptCount = 3 then 750
  else 1500 + (attemptCount - 4) * 500

lemma fatigueCostPaise_intCast : fatigueCostPaise (k : ℚ) = .finite (fatiguePaise k : ℚ) := by
  rw [fatigueCostPaise_finite, SemanticEconomicsBridge.fatigueCostPaise_intCast]
  simp only [Scorer.calculateCosts, fatiguePaise]
  push_cast
  rfl

lemma fatiguePaise_mono (h : k ≤ n) : fatiguePaise k ≤ fatiguePaise n := by
  simp only [fatiguePaise]
  split_ifs <;> omega

lemma fatiguePaise_nonneg (k : ℤ) : 0 ≤ fatiguePaise k := by
  rw [fatiguePaise]
  split_ifs <;> omega

/-- A larger amount is sanitized to a larger one, but infinity, which counts as zero. -/
lemma safeAmount_mono (h : a.Le b) (hb : b ≠ .posInf) : safeAmount a ≤ safeAmount b := by
  refine max_le (le_max_left ..) ?_
  cases a with
  | nan | negInf => exact le_max_left ..
  | posInf       => exact le_max_left ..
  | finite x     =>
    cases b with
    | nan | negInf => exact h.elim
    | posInf       => exact absurd rfl hb
    | finite y     => exact (Int.floor_le_floor h).trans (le_max_right ..)

/-- More attempts are sanitized to more, but infinitely many, which count as one. -/
lemma safeAttempts_mono (h : a.Le b) (hb : b ≠ .posInf) : safeAttempts a ≤ safeAttempts b := by
  refine max_le (le_max_left ..) ?_
  cases a with
  | nan    => exact absurd h Number.not_nan_le
  | negInf => exact (min_le_right ..).trans (le_max_left ..)
  | posInf =>
    cases b with
    | posInf              => exact absurd rfl hb
    | nan | negInf | finite => exact h.elim
  | finite x =>
    cases b with
    | nan | negInf => exact h.elim
    | posInf       => exact absurd rfl hb
    | finite y     =>
      exact (min_le_min_left 20 (Int.floor_le_floor h)).trans (le_max_right ..)

lemma probs_of_hard (hhard : opp.declineType = .hard)
    (h : estimateProbabilities effectiveProbabilities opp = ⟨some pN, some pI, source⟩) :
    pN = 2 / 100 ∧ pI = 2 / 100 := by
  rw [estimateProbabilities, if_pos hhard] at h
  obtain ⟨rfl, rfl, -⟩ : pN = 2 / 100 ∧ pI = 2 / 100 ∧ _ := by simpa [eq_comm] using h
  exact ⟨rfl, rfl⟩

lemma gain_of_hard (hhard : opp.declineType = .hard)
    (h : estimateProbabilities effectiveProbabilities opp = ⟨some pN, some pI, source⟩) :
    gain pN pI = 0 := by
  obtain ⟨rfl, rfl⟩ := probs_of_hard hhard h
  norm_num [gain]

/-- The value of an opportunity whose probabilities are numbers. The guard of a hard decline has nothing
to do. -/
lemma expectedIncrementalValuePaise_eq
    (h : estimateProbabilities effectiveProbabilities opp = ⟨some pN, some pI, source⟩) :
    (calculateScore effectiveProbabilities opp).expectedIncrementalValuePaise =
      .finite ((Js.mathRound (gain pN pI * safeAmount opp.amountPaise) - 400
        - fatiguePaise (safeAttempts opp.attemptCount) : ℤ) : ℚ) := by
  simp only [calculateScore, h, incrementalProb_some, fatigueCostPaise_intCast, roundedValue_eq,
    mathMin_guard]
  split_ifs with hhard
  · have hnonneg := fatiguePaise_nonneg (safeAttempts opp.attemptCount)
    have hround : Js.mathRound 0 = 0 := by exact_mod_cast Js.mathRound_intCast 0
    rw [gain_of_hard hhard h, zero_mul, hround, min_eq_right (by omega)]
  · rfl

/-- The value of an opportunity with another amount and other attempts. -/
def valueAt (effectiveProbabilities : EngineAnswers) (opp : ScoreInput)
    (amountPaise attemptCount : Number) : Number :=
  (calculateScore effectiveProbabilities
    { opp with amountPaise, attemptCount }).expectedIncrementalValuePaise

lemma valueAt_eq
    (h : estimateProbabilities effectiveProbabilities opp = ⟨some pN, some pI, source⟩) :
    valueAt effectiveProbabilities opp a b =
      .finite ((Js.mathRound (gain pN pI * safeAmount a) - 400
        - fatiguePaise (safeAttempts b) : ℤ) : ℚ) := by
  have hother : estimateProbabilities effectiveProbabilities
      { opp with amountPaise := a, attemptCount := b } = ⟨some pN, some pI, source⟩ := h
  exact expectedIncrementalValuePaise_eq hother

/-- The value is the gain of the sanitized amount less the costs. It grows with the amount and falls with
the attempts, up to infinity, is not positive for a hard decline, and the band is that of the value. -/
theorem calculateScore_value (effectiveProbabilities : EngineAnswers) (opp : ScoreInput)
    (h : (estimateProbabilities effectiveProbabilities opp).IsNumeric) :
    (∀ a b, a.Le b → b ≠ .posInf →
      (valueAt effectiveProbabilities opp a opp.attemptCount).Le
        (valueAt effectiveProbabilities opp b opp.attemptCount)) ∧
    (∀ a b, a.Le b → b ≠ .posInf →
      (valueAt effectiveProbabilities opp opp.amountPaise b).Le
        (valueAt effectiveProbabilities opp opp.amountPaise a)) ∧
    let score := calculateScore effectiveProbabilities opp
    (opp.declineType = .hard → score.expectedIncrementalValuePaise.Le (0 : ℚ)) ∧
      score.expectedIncrementalValuePaise =
        roundedValue score.incrementalProb (safeAmount opp.amountPaise : ℚ)
          score.operationalCostPaise score.fatigueCostPaise ∧
      score.ivenBand = classifyIVENBand score.expectedIncrementalValuePaise := by
  obtain ⟨pN, pI, source, hprobs⟩ := h.exists_eq
  refine ⟨fun a b hab hb => ?_, fun a b hab hb => ?_, fun hhard => ?_, ?_, rfl⟩
  · have hamount : (safeAmount a : ℚ) ≤ safeAmount b := by exact_mod_cast safeAmount_mono hab hb
    have hround := Js.mathRound_mono (mul_le_mul_of_nonneg_left hamount (gain_nonneg pN pI))
    rw [valueAt_eq hprobs, valueAt_eq hprobs, Number.finite_le_finite, Int.cast_le]
    omega
  · have hcost := fatiguePaise_mono (safeAttempts_mono hab hb)
    rw [valueAt_eq hprobs, valueAt_eq hprobs, Number.finite_le_finite, Int.cast_le]
    omega
  · have hnonneg := fatiguePaise_nonneg (safeAttempts opp.attemptCount)
    have hround : Js.mathRound 0 = 0 := by exact_mod_cast Js.mathRound_intCast 0
    rw [expectedIncrementalValuePaise_eq hprobs, gain_of_hard hhard hprobs, zero_mul, hround,
      Number.finite_le_finite]
    exact_mod_cast (by omega : (0 - 400 - fatiguePaise (safeAttempts opp.attemptCount)) ≤ 0)
  · rw [expectedIncrementalValuePaise_eq hprobs]
    simp only [calculateScore, hprobs, incrementalProb_some, fatigueCostPaise_intCast, roundedValue_eq]

end Value

/-- A soft decline over a thousand rupees. -/
def sampleInput : ScoreInput :=
  ⟨"pay_1", "tenant_default", "network_error", .soft, (100000 : ℚ), (1 : ℚ)⟩

/-- A network error over a thousand rupees is worth no less than one over ten. -/
theorem calculateScore_value_network_error :
    let answers : EngineAnswers := fun _ _ => ⟨some (45 / 100), some (75 / 100), .static⟩
    (valueAt answers sampleInput (1000 : ℚ) (1 : ℚ)).Le
      (valueAt answers sampleInput (100000 : ℚ) (1 : ℚ)) :=
  (calculateScore_value (fun _ _ => ⟨some (45 / 100), some (75 / 100), .static⟩) sampleInput
    ⟨rfl, rfl⟩).1 (1000 : ℚ) (100000 : ℚ) (by decide +kernel) (by decide)

/-- An infinite amount is worth less than a thousand rupees, and infinitely many attempts are worth more
than three; and without probabilities the value of an opportunity is no number. -/
theorem infinity_sanitized :
    let answers : EngineAnswers := fun _ _ => ⟨some (45 / 100), some (75 / 100), .static⟩
    ¬ (valueAt answers sampleInput (100000 : ℚ) (1 : ℚ)).Le
        (valueAt answers sampleInput .posInf (1 : ℚ)) ∧
      ¬ (valueAt answers sampleInput (100000 : ℚ) .posInf).Le
        (valueAt answers sampleInput (100000 : ℚ) (3 : ℚ)) ∧
      ¬ (valueAt (fun _ _ => ⟨none, none, .static⟩) sampleInput (100000 : ℚ) (1 : ℚ)).Le
        (valueAt (fun _ _ => ⟨none, none, .static⟩) sampleInput (100000 : ℚ) (1 : ℚ)) := by
  decide +kernel

end NumericScorer

end CtrlRecovery
