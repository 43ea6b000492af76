import CtrlRecovery.Db.Database
import CtrlRecovery.Js

/-!
# The learning engine

`AgentLearningEngine.evaluateOutcome` stores what has become of a mission. It does not look at the
payment: whether the outcome counts as a recovery, and of what amount, is what its caller says
(`actualRecovered_record`).
-/

namespace CtrlRecovery

open Core

/-- What a caller passes; `none` is a parameter that it leaves out. -/
structure OutcomeParams where
  runId : String
  opportunityId : String
  actualRecovered : Option Bool
  actualRevenuePaise : Option ℚ
  customerResponse : Option String
  amountPaidPaise : Option ℚ
  deriving DecidableEq, Repr

inductive OutcomeStatus
  | confirmedRecovered
  | confirmedNotRecovered
  | pendingProviderConfirmation
  deriving DecidableEq, Repr

def OutcomeStatus.text : OutcomeStatus → String
  | .confirmedRecovered          => "CONFIRMED_RECOVERED"
  | .confirmedNotRecovered       => "CONFIRMED_NOT_RECOVERED"
  | .pendingProviderConfirmation => "PENDING_PROVIDER_CONFIRMATION"

namespace AgentLearningEngine

variable (db : Db) (params : OutcomeParams)

/-- An amount that is not passed counts as positive. -/
def outcomeStatus : OutcomeStatus :=
  if params.actualRecovered = some true ∧ params.amountPaidPaise.all (0 < ·) then
    .confirmedRecovered
  else if params.actualRecovered = some false then .confirmedNotRecovered
  else .pendingProviderConfirmation

/-- The predicted recovery probability: of the stored score, else 0.45. -/
def predictedProb : ℚ :=
  (db.getScoreByOpportunityId params.opportunityId).elim (45 / 100) (·.interventionRecoveryProb)

def operationalCost : ℚ :=
  (db.getScoreByOpportunityId params.opportunityId).elim 400 (·.operationalCostPaise)

def fatigueCost : ℚ :=
  (db.getScoreByOpportunityId params.opportunityId).elim 0 (·.fatigueCostPaise)

def revenuePaise : ℚ := params.actualRevenuePaise.getD (params.amountPaidPaise.getD 0)

def predictionError : ℚ :=
  match outcomeStatus params with
  | .confirmedRecovered          => Js.roundFixed (abs (1 - predictedProb db params)) 4
  | .confirmedNotRecovered       => Js.roundFixed (abs (0 - predictedProb db params)) 4
  | .pendingProviderConfirmation => 0

def netGainPaise : ℚ :=
  match outcomeStatus params with
  | .confirmedRecovered => revenuePaise params - operationalCost db params - fatigueCost db params
  | _                   => -(operationalCost db params + fatigueCost db params)

/-- The row of the outcome. -/
def record (id : String) (evaluatedAt : Timestamp) : AgentOutcome where
  id := id
  runId := params.runId
  opportunityId := params.opportunityId
  predictedRecoveryProb := predictedProb db params
  actualRecovered := outcomeStatus params = .confirmedRecovered
  predictionError := predictionError db params
  actualRevenuePaise := revenuePaise params
  operationalCostPaise := operationalCost db params
  netGainPaise := netGainPaise db params
  customerResponse := Js.orElse params.customerResponse ("Status: " ++ (outcomeStatus params).text)
  evaluatedAt := evaluatedAt

/-- The outcome is inserted under a new id; `none` when the id is taken. -/
def evaluateOutcome (id : String) (evaluatedAt : Timestamp) : Option Db :=
  (db.agentOutcomes.insert? (record db params id evaluatedAt)).map fun outcomes =>
    { db with agentOutcomes := outcomes }

/-! ### What counts as a recovery -/

variable {db params} {id : String} {evaluatedAt : Timestamp}

/-- An outcome counts as a recovery when the caller says so and passes no amount that is not
positive. -/
lemma actualRecovered_record :
    (record db params id evaluatedAt).actualRecovered ↔
      params.actualRecovered = some true ∧ ∀ amount ∈ params.amountPaidPaise, 0 < amount := by
  have hstatus : outcomeStatus params = .confirmedRecovered ↔
      params.actualRecovered = some true ∧ params.amountPaidPaise.all (0 < ·) := by
    rw [outcomeStatus]
    split_ifs with hconfirmed <;> simp [hconfirmed]
  simp [record, hstatus, Option.all_eq_true]

lemma evaluateOutcome_eq_some {db' : Db} (h : evaluateOutcome db params id evaluatedAt = some db') :
    db'.agentOutcomes.rows = db.agentOutcomes.rows ++ [record db params id evaluatedAt] := by
  obtain ⟨outcomes, houtcomes, rfl⟩ := Option.map_eq_some_iff.mp h
  exact Table.rows_of_insert? houtcomes

end AgentLearningEngine

end CtrlRecovery
