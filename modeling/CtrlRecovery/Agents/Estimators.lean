import CtrlRecovery.Js
import CtrlRecovery.Types
import Mathlib.Tactic.Linarith
import Mathlib.Tactic.NormNum

/-!
# Uncertainty and the value of information

The two estimators that a proposal rests on. `UncertaintyModel.assess` weighs what is known about an
opportunity into a composite confidence and recommends by its size; `InformationValueEstimator.estimate`
compares what an investigation could gain with what it costs. Acting is recommended by the second only
with a value above the borderline and a healthy gateway (`recommendedAction_act`).
-/

namespace CtrlRecovery

inductive ProposedAction
  | act
  | wait
  | investigate
  deriving DecidableEq, Repr

/-! ### Uncertainty -/

namespace UncertaintyModel

inductive Recommendation
  | proceed
  | investigate
  | humanReview
  | abstain
  deriving DecidableEq, Repr

def Recommendation.text : Recommendation → String
  | .proceed     => "PROCEED"
  | .investigate => "INVESTIGATE"
  | .humanReview => "HUMAN_REVIEW"
  | .abstain     => "ABSTAIN"

structure Params where
  opportunity : RecoveryOpportunity
  score : Option Score
  hasPerception : Bool
  hasCustomerHistory : Bool
  hasGatewayState : Bool
  historicalSampleSize : ℚ
  historicalCalibrationError : ℚ

structure UncertaintyAssessment where
  opportunityId : String
  modelConfidence : ℚ
  dataConfidence : ℚ
  economicConfidence : ℚ
  compositeConfidence : ℚ
  recommendation : Recommendation
  missingSignals : List String
  rationale : String
  deriving DecidableEq, Repr

def W_MODEL : ℚ := 0.35

def W_DATA : ℚ := 0.35

def W_ECONOMIC : ℚ := 0.30

def HIGH_THRESHOLD : ℚ := 0.70

def LOW_THRESHOLD : ℚ := 0.40

def clamp (v lo hi : ℚ) : ℚ := max lo (min hi v)

variable (params : Params)

/-- More samples and a lower error give a higher confidence. -/
def modelConf : ℚ :=
  clamp
    (if params.historicalSampleSize ≥ 30 then 1 - min params.historicalCalibrationError 1
    else if params.historicalSampleSize ≥ 10 then 0.60 - params.historicalCalibrationError * 0.3
    else 0.35) 0 1

def dataConf : ℚ :=
  clamp
    (0.20 + (if params.score.isSome then 0.25 else 0) + (if params.hasPerception then 0.25 else 0) +
      (if params.hasCustomerHistory then 0.15 else 0) + (if params.hasGatewayState then 0.15 else 0))
    0 1

/-- The value of an intervention against what it costs. -/
def econConf : ℚ :=
  clamp
    (match params.score with
    | some score =>
      let iven : ℚ := score.expectedIncrementalValuePaise
      let opCost := score.operationalCostPaise + score.fatigueCostPaise
      if iven > opCost * 5 then 0.95
      else if iven > opCost * 2 then 0.75
      else if iven > opCost then 0.55
      else if iven > 0 then 0.35
      else 0.10
    | none => 0.30) 0 1

def missingSignals : List String :=
  (if params.historicalSampleSize ≥ 10 then [] else ["insufficient_historical_samples"]) ++
    (if params.score.isSome then [] else ["missing_economic_score"]) ++
    (if params.hasPerception then [] else ["missing_perception_annotation"]) ++
    (if params.hasCustomerHistory then [] else ["missing_customer_history"]) ++
    (if params.hasGatewayState then [] else ["missing_gateway_state"]) ++
    (if params.score.isSome then [] else ["no_iven_available"])

def composite : ℚ :=
  W_MODEL * modelConf params + W_DATA * dataConf params + W_ECONOMIC * econConf params

def recommendation : Recommendation :=
  if composite params ≥ HIGH_THRESHOLD then .proceed
  else if composite params ≥ LOW_THRESHOLD then .investigate
  else if (missingSignals params).length ≥ 3 then .abstain
  else .humanReview

def rationale : String :=
  let shown := Js.toFixed (composite params) 3
  let missing := ", ".intercalate (missingSignals params)
  let orNone := Js.orElse (some missing) "none"
  if composite params ≥ HIGH_THRESHOLD then
    s!"Composite confidence {shown} ≥ 0.7: sufficient evidence to proceed through normal pipeline."
  else if composite params ≥ LOW_THRESHOLD then
    s!"Composite confidence {shown} in [0.4, 0.7): additional investigation recommended before " ++
      s!"commitment. Missing: {orNone}."
  else
    s!"Composite confidence {shown} < 0.4: insufficient evidence. Missing: {missing}. " ++
      s!"Recommendation: {(recommendation params).text}."

def assess : UncertaintyAssessment where
  opportunityId := params.opportunity.id
  modelConfidence := Js.roundFixed (modelConf params) 4
  dataConfidence := Js.roundFixed (dataConf params) 4
  economicConfidence := Js.roundFixed (econConf params) 4
  compositeConfidence := Js.roundFixed (composite params) 4
  recommendation := recommendation params
  missingSignals := missingSignals params
  rationale := rationale params

lemma le_clamp {v lo hi a : ℚ} (hv : a ≤ v) (hhi : a ≤ hi) : a ≤ clamp v lo hi :=
  le_max_of_le_right (le_min hhi hv)

lemma le_econConf (h : params.score.isSome) : 0.10 ≤ econConf params := by
  obtain ⟨score, hscore⟩ := Option.isSome_iff_exists.mp h
  rw [econConf, hscore]
  refine le_clamp ?_ (by norm_num)
  dsimp only
  split_ifs <;> norm_num

lemma le_dataConf (hscore : params.score.isSome) (hgateway : params.hasGatewayState) :
    0.60 ≤ dataConf params := by
  rw [dataConf, if_pos hscore, if_pos hgateway]
  refine le_clamp ?_ (by norm_num)
  split_ifs <;> norm_num

lemma recommendation_proceed_iff :
    recommendation params = .proceed ↔ HIGH_THRESHOLD ≤ composite params := by
  rw [recommendation]
  split_ifs <;> simp_all

lemma recommendation_of_low (h : LOW_THRESHOLD ≤ composite params) :
    recommendation params = .proceed ∨ recommendation params = .investigate := by
  rw [recommendation]
  split_ifs
  · exact .inl rfl
  · exact .inr rfl

end UncertaintyModel

/-! ### The value of information -/

namespace InformationValueEstimator

structure Params where
  opportunity : RecoveryOpportunity
  score : Option Score
  gatewayHealth : ℚ
  compositeConfidence : ℚ
  hasPerception : Bool

structure InformationValueResult where
  opportunityId : String
  currentIvenPaise : ℤ
  gatewayHealth : ℚ
  investigationCostPaise : ℤ
  expectedValueOfInformationPaise : ℤ
  recommendedAction : ProposedAction
  rationale : String
  deriving DecidableEq, Repr

def MAX_INFO_VALUE_FRACTION : ℚ := 0.20

def INVESTIGATION_COST_PAISE : ℤ := 200

def GATEWAY_UNSTABLE_THRESHOLD : ℚ := 0.75

def IVEN_BORDERLINE_THRESHOLD_PAISE : ℤ := 5000

variable (params : Params)

def iven : ℤ := (params.score.map (·.expectedIncrementalValuePaise)).getD 0

/-- What an investigation could gain. -/
def evoi : ℤ :=
  Js.mathRound (iven params * max 0 (1 - params.compositeConfidence) * MAX_INFO_VALUE_FRACTION)

def recommendedAction : ProposedAction :=
  let gw := params.gatewayHealth
  let conf := params.compositeConfidence
  if gw < GATEWAY_UNSTABLE_THRESHOLD ∧ evoi params > INVESTIGATION_COST_PAISE then .investigate
  else if conf ≥ 0.70 ∧ gw ≥ GATEWAY_UNSTABLE_THRESHOLD ∧
      iven params > IVEN_BORDERLINE_THRESHOLD_PAISE then .act
  else if iven params ≤ IVEN_BORDERLINE_THRESHOLD_PAISE ∨ gw < GATEWAY_UNSTABLE_THRESHOLD then .wait
  else if evoi params > INVESTIGATION_COST_PAISE then .investigate
  else if iven params > 0 then .act
  else .wait

def rationale : String :=
  let gw := params.gatewayHealth
  let conf := params.compositeConfidence
  let health := Js.toFixed gw 2
  let value := Js.rupees (iven params)
  let gain := Js.rupees (evoi params)
  let cost := Js.rupees INVESTIGATION_COST_PAISE
  if gw < GATEWAY_UNSTABLE_THRESHOLD ∧ evoi params > INVESTIGATION_COST_PAISE then
    s!"Gateway degraded ({health} < 0.75) and EVOI (₹{gain}) exceeds investigation cost (₹{cost}). " ++
      "Gathering more information before committing capacity."
  else if conf ≥ 0.70 ∧ gw ≥ GATEWAY_UNSTABLE_THRESHOLD ∧
      iven params > IVEN_BORDERLINE_THRESHOLD_PAISE then
    s!"High confidence ({Js.toFixed conf 3}), healthy gateway ({health}), strong IVEN (₹{value}). " ++
      "Proceeding to act."
  else if iven params ≤ IVEN_BORDERLINE_THRESHOLD_PAISE ∨ gw < GATEWAY_UNSTABLE_THRESHOLD then
    s!"IVEN borderline (₹{value}) or gateway degraded ({health}). Waiting for conditions to improve."
  else if evoi params > INVESTIGATION_COST_PAISE then
    s!"Medium confidence ({Js.toFixed conf 3}), EVOI (₹{gain}) exceeds cost. " ++
      "Investigating to refine estimates."
  else
    s!"EVOI (₹{gain}) does not justify investigation cost. " ++
      (if iven params > 0 then "Proceeding with current information." else "Waiting.")

def estimate : InformationValueResult where
  opportunityId := params.opportunity.id
  currentIvenPaise := iven params
  gatewayHealth := params.gatewayHealth
  investigationCostPaise := INVESTIGATION_COST_PAISE
  expectedValueOfInformationPaise := evoi params
  recommendedAction := recommendedAction params
  rationale := rationale params

lemma recommendedAction_act (h : recommendedAction params = .act) :
    iven params > IVEN_BORDERLINE_THRESHOLD_PAISE ∧
      params.gatewayHealth ≥ GATEWAY_UNSTABLE_THRESHOLD := by
  simp only [recommendedAction] at h
  split_ifs at h with hunstable hact hwait
  · exact ⟨hact.2.2, hact.2.1⟩
  · rw [not_or, not_le, not_lt] at hwait
    exact hwait

end InformationValueEstimator

end CtrlRecovery
