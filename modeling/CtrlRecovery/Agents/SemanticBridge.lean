import CtrlRecovery.Market.Specification

/-!
# The semantic bridge

A mission scores its opportunity with the signals that the language model gave it. The signals move
the incremental probability and the fatigue cost within bounds; the score of a hard decline cannot
be positive whatever they are, so that no mission's score makes one admissible
(`gated_of_isAdmissible`).
-/

namespace CtrlRecovery

open Scorer Market

inductive SignalName
  | transientFailure | customerLiquidity | fatigue | gatewayInstability
  | settlementAmbiguity | alternateMethodRelevance | urgency | relationshipRisk
  deriving DecidableEq, Repr

/-- What the language model reports about a payment. -/
structure SemanticSignal where
  name : SignalName
  value : ℚ
  confidence : ℚ
  deriving DecidableEq, Repr

namespace SemanticEconomicsBridge

/-! ### The modifiers -/

structure CalibratedEconomicModifiers where
  incrementalProbModifier : ℚ
  fatigueCostModifierPaise : ℤ
  deriving DecidableEq, Repr

def clampUnit (x : ℚ) : ℚ := max 0 (min 1 x)

/-- What one signal adds to the probability and to the fatigue cost. -/
def signalModifier (sig : SemanticSignal) : ℚ × ℤ :=
  let clampedVal := clampUnit sig.value
  let clampedConf := clampUnit (Js.orDefault sig.confidence (1 / 2))
  match sig.name with
  | .transientFailure   => ((clampedVal - 1 / 2) * (10 / 100) * clampedConf, 0)
  | .gatewayInstability => (-(clampedVal * (6 / 100) * clampedConf), 0)
  | .customerLiquidity  => ((clampedVal - 1 / 2) * (8 / 100) * clampedConf, 0)
  | .fatigue            => (0, Js.mathRound (clampedVal * 500 * clampedConf))
  | _                   => (0, 0)

def calculateModifiers (signals : List SemanticSignal) : CalibratedEconomicModifiers :=
  let probModifier := (signals.map fun sig => (signalModifier sig).1).sum
  let fatigueModifierPaise := (signals.map fun sig => (signalModifier sig).2).sum
  { incrementalProbModifier := max (-(10 / 100)) (min (10 / 100) (Js.roundFixed probModifier 4))
    fatigueCostModifierPaise := max 0 (min 500 fatigueModifierPaise) }

/-- The modifiers that are applied: none while the influence of the language model is disabled. -/
def appliedModifiers (llmInfluenceDisabled : Bool) (signals : List SemanticSignal) :
    CalibratedEconomicModifiers :=
  if llmInfluenceDisabled then ⟨0, 0⟩ else calculateModifiers signals

lemma fatigueCostModifierPaise_nonneg (llmInfluenceDisabled : Bool)
    (signals : List SemanticSignal) :
    0 ≤ (appliedModifiers llmInfluenceDisabled signals).fatigueCostModifierPaise := by
  rw [appliedModifiers]
  split_ifs
  · simp
  · simp [calculateModifiers]

/-! ### The score -/

/-- `calculateCosts(attemptCount).fatigue_cost_paise` for an attempt count as it is stored, which
need not be a whole number. -/
def fatigueCostPaise (attemptCount : ℚ) : ℚ :=
  if attemptCount ≤ 1 then 0
  else if attemptCount = 2 then 250
  else if attemptCount = 3 then 750
  else 1500 + (attemptCount - 4) * 500

lemma fatigueCostPaise_intCast (n : ℤ) :
    fatigueCostPaise n = (calculateCosts n).fatigueCostPaise := by
  simp only [fatigueCostPaise, calculateCosts]
  norm_cast

lemma fatigueCostPaise_nonneg (attemptCount : ℚ) : 0 ≤ fatigueCostPaise attemptCount := by
  rw [fatigueCostPaise]
  split_ifs with hfirst
  · exact le_rfl
  · norm_num
  · norm_num
  · linarith [not_le.mp hfirst]

/-- `incremental_prob` of an estimate. -/
def incrementalProb (probs : ProbabilityEstimate) : ℚ :=
  max 0 (Js.roundFixed (probs.interventionRecoveryProb - probs.naturalRecoveryProb) 4)

structure BoundedEconomicScoringResult where
  score : Score
  baselineIvenPaise : ℤ
  calibratedIvenPaise : ℤ
  modifiersApplied : CalibratedEconomicModifiers
  deriving DecidableEq, Repr

/-- The score of an opportunity with the signals of its mission. `effectiveProbabilities` is the
answer of the calibration engine, as it is for the scorer. -/
def scoreWithSemanticBridge (effectiveProbabilities : String → DeclineType → ProbabilityEstimate)
    (llmInfluenceDisabled : Bool) (opp : RecoveryOpportunity) (signals : List SemanticSignal) :
    BoundedEconomicScoringResult :=
  let baselineProbs := estimateProbabilities effectiveProbabilities opp
  let baselineFatigue := fatigueCostPaise (Js.orDefault opp.attemptCount 1)
  let modifiers := appliedModifiers llmInfluenceDisabled signals
  let finalIncrementalProb :=
    if opp.declineType = .hard then 0
    else max 0 (min (95 / 100)
      (Js.roundFixed (incrementalProb baselineProbs + modifiers.incrementalProbModifier) 4))
  let finalFatigue := baselineFatigue + modifiers.fatigueCostModifierPaise
  let finalIvenPaise := Js.mathRound (finalIncrementalProb * opp.amountPaise - 400 - finalFatigue)
  { score :=
      { opportunityId := opp.id
        naturalRecoveryProb := baselineProbs.naturalRecoveryProb
        interventionRecoveryProb :=
          Js.roundFixed (baselineProbs.naturalRecoveryProb + finalIncrementalProb) 4
        incrementalProb := finalIncrementalProb
        operationalCostPaise := 400
        fatigueCostPaise := finalFatigue
        expectedIncrementalValuePaise := finalIvenPaise
        confidence := determineConfidence opp }
    baselineIvenPaise :=
      Js.mathRound (incrementalProb baselineProbs * opp.amountPaise - 400 - baselineFatigue)
    calibratedIvenPaise := finalIvenPaise
    modifiersApplied := modifiers }

section Score

variable (effectiveProbabilities : String → DeclineType → ProbabilityEstimate)
  (llmInfluenceDisabled : Bool) (opp : RecoveryOpportunity) (signals : List SemanticSignal)

@[simp] lemma scoreWithSemanticBridge_opportunityId :
    (scoreWithSemanticBridge effectiveProbabilities llmInfluenceDisabled opp
      signals).score.opportunityId = opp.id := rfl

@[simp] lemma scoreWithSemanticBridge_confidence :
    (scoreWithSemanticBridge effectiveProbabilities llmInfluenceDisabled opp
      signals).score.confidence = determineConfidence opp := rfl

@[simp] lemma scoreWithSemanticBridge_withStatus (status : OpportunityStatus) :
    scoreWithSemanticBridge effectiveProbabilities llmInfluenceDisabled (opp.withStatus status)
        signals =
      scoreWithSemanticBridge effectiveProbabilities llmInfluenceDisabled opp signals := rfl

lemma scoreWithSemanticBridge_of_hard (h : opp.declineType = .hard) :
    (scoreWithSemanticBridge effectiveProbabilities llmInfluenceDisabled opp
      signals).score.expectedIncrementalValuePaise ≤ 0 := by
  have hbase : 0 ≤ fatigueCostPaise (Js.orDefault opp.attemptCount 1) := fatigueCostPaise_nonneg _
  have hmodifier : (0 : ℚ) ≤
      (appliedModifiers llmInfluenceDisabled signals).fatigueCostModifierPaise := by
    exact_mod_cast fatigueCostModifierPaise_nonneg llmInfluenceDisabled signals
  simp only [scoreWithSemanticBridge, h, if_true, Js.mathRound]
  apply Int.floor_nonpos
  linarith

end Score

lemma determineConfidence_eq_low_iff {opp : RecoveryOpportunity} :
    determineConfidence opp = .low ↔ opp.declineType = .unknown ∨ 3 ≤ opp.attemptCount := by
  rw [determineConfidence]
  split_ifs with hlow hhigh
  · simpa using hlow
  · simpa using hlow
  · simpa using hlow

lemma gated_of_isAdmissible {effectiveProbabilities : String → DeclineType → ProbabilityEstimate}
    {llmInfluenceDisabled : Bool} {opp : RecoveryOpportunity} {signals : List SemanticSignal}
    (h : IsAdmissible (opp, (scoreWithSemanticBridge effectiveProbabilities llmInfluenceDisabled opp
      signals).score)) :
    opp.declineType ≠ .hard ∧ opp.attemptCount < 3 := by
  obtain ⟨hconfidence, hvalue, -⟩ := h
  constructor
  · intro hhard
    have hle := scoreWithSemanticBridge_of_hard effectiveProbabilities llmInfluenceDisabled opp
      signals hhard
    exact absurd hvalue (not_lt.mpr hle)
  · by_contra hattempts
    exact hconfidence (determineConfidence_eq_low_iff.mpr (.inr (not_lt.mp hattempts)))

end SemanticEconomicsBridge

end CtrlRecovery
