import CtrlRecovery.Core.Table
import CtrlRecovery.Economics.ScoreInputs

/-!
# The planner

`AgentPlanner.createPlan` turns an opportunity into a plan with the assumptions that it is valid under,
and stores it as active. The active plan of a run is the one of the highest version. A stored plan is
read back from JSON, which has no `NaN` and no infinities.
-/

namespace CtrlRecovery

open Core Js

/-- A number in JSON; `none` is `null`. -/
def jsonNumber : Number → Option Number
  | .finite x => some (.finite x)
  | _         => none

/-- A current value is a number, or `null` after it was read back. -/
structure PlanValidityAssumption where
  id : String
  parameter : String
  condition : String
  expectedValue : Number
  currentValue : Option Number
  isValid : Bool
  deriving DecidableEq, Repr

inductive PlanStatus | active | invalidated | executed | superseded
  deriving DecidableEq, Repr

structure AgentPlanRecord where
  id : String
  runId : String
  planVersion : ℕ
  goal : String
  steps : List String
  validityAssumptions : List PlanValidityAssumption
  candidateActions : List String
  preferredAction : String
  status : PlanStatus
  invalidationReason : Option String
  createdAt : Timestamp
  deriving DecidableEq, Repr

/-- The rows of `agent_plans`. -/
abbrev Plans : Type := Table AgentPlanRecord.id

/-- What a plan takes from an intent of the language model. -/
structure AgentIntent where
  candidateActions : List String
  preferredAction : Option String
  deriving DecidableEq, Repr

/-- What a plan is created from. -/
structure PlanParams where
  planId : String
  runId : String
  desiredOutcome : Option String
  opportunity : ScoreInput
  intent : Option AgentIntent
  gatewayHealth : Option Number
  capacityAvailable : Option Number
  planVersion : ℕ
  now : Timestamp
  deriving DecidableEq, Repr

structure PlanGenerationResult where
  plan : AgentPlanRecord
  isValid : Bool
  validationErrors : List String
  deriving DecidableEq, Repr

/-! ### Stored plans -/

def PlanValidityAssumption.stored (assumption : PlanValidityAssumption) : PlanValidityAssumption :=
  { assumption with currentValue := assumption.currentValue.bind jsonNumber }

def AgentPlanRecord.stored (plan : AgentPlanRecord) : AgentPlanRecord :=
  { plan with validityAssumptions := plan.validityAssumptions.map PlanValidityAssumption.stored }

def insertAgentPlan (plans : Plans) (plan : AgentPlanRecord) : Option Plans :=
  plans.insert? plan.stored

def setPlanStatus (status : PlanStatus) (reason : Option String) (plan : AgentPlanRecord) :
    AgentPlanRecord :=
  { plan with status, invalidationReason := reason.filter (· ≠ "") }

lemma id_setPlanStatus (status : PlanStatus) (reason : Option String) (plan : AgentPlanRecord) :
    (setPlanStatus status reason plan).id = plan.id := rfl

def updateAgentPlanStatus (plans : Plans) (planId : String) (status : PlanStatus)
    (reason : Option String) : Plans :=
  plans.update planId (setPlanStatus status reason) (id_setPlanStatus status reason)

def activePlans (plans : Plans) (runId : String) : List AgentPlanRecord :=
  plans.rows.filter fun plan => plan.runId = runId && plan.status = .active

/-- `ORDER BY plan_version DESC LIMIT 1`. -/
def getActivePlanByRunId (plans : Plans) (runId : String) : Option AgentPlanRecord :=
  (activePlans plans runId).argmax AgentPlanRecord.planVersion

namespace AgentPlanner

/-! ### Creating a plan -/

def deterministicCandidates (declineType : DeclineType) : List String :=
  if declineType = .hard then ["ABSTAIN"] else ["WAIT", "SEND_PAYMENT_LINK", "ABSTAIN"]

def candidateSet (params : PlanParams) : List String :=
  (deterministicCandidates params.opportunity.declineType ++
    params.intent.elim [] AgentIntent.candidateActions).eraseDups

def preferredAction (params : PlanParams) : String :=
  let preferred := orElse (params.intent.bind AgentIntent.preferredAction) "SEND_PAYMENT_LINK"
  let preferred :=
    if (candidateSet params).contains preferred then preferred
    else orElse (candidateSet params).head? "SEND_PAYMENT_LINK"
  if params.opportunity.declineType = .hard then "ABSTAIN" else preferred

/-- What a plan assumes of the gateway, the attempts and the capacity. -/
def assumptions (params : PlanParams) : List PlanValidityAssumption :=
  let gatewayHealth := params.gatewayHealth.getD (98 / 100 : ℚ)
  let attemptCount := params.opportunity.attemptCount
  let capacityAvailable := params.capacityAvailable.getD (5 : ℚ)
  [{ id := "assump_gateway_health"
     parameter := "gateway_health"
     condition := ">="
     expectedValue := (75 / 100 : ℚ)
     currentValue := some gatewayHealth
     isValid := Number.Le (75 / 100 : ℚ) gatewayHealth },
    { id := "assump_retry_cap"
      parameter := "attempt_count"
      condition := "<"
      expectedValue := (3 : ℚ)
      currentValue := some attemptCount
      isValid := attemptCount.Lt (3 : ℚ) },
    { id := "assump_capacity_available"
      parameter := "capacity_available"
      condition := ">"
      expectedValue := (0 : ℚ)
      currentValue := some capacityAvailable
      isValid := Number.Lt (0 : ℚ) capacityAvailable }]

def steps (preferred : String) : List String :=
  if preferred = "ABSTAIN" then
    ["Log compliance check results in Action Authority audit table",
      "Set opportunity status to abstained/blocked",
      "Terminate mission with zero financial execution"]
  else if preferred = "WAIT" then
    ["Set opportunity status to deferred",
      "Schedule wake condition (gateway check or timer)",
      "Enter persisted WAIT state"]
  else
    ["Request Economic IVEN calculation with semantic modifiers",
      "Submit opportunity to Recovery Market portfolio allocator",
      "Verify Action Authority 5-step compliance check",
      "If AUTHORIZED, dispatch to isolated execution layer",
      "Await provider webhook settlement or poll status",
      "Reconcile truth and evaluate outcome"]

def planRecord (params : PlanParams) : AgentPlanRecord where
  id := params.planId
  runId := params.runId
  planVersion := if params.planVersion = 0 then 1 else params.planVersion
  goal := orElse params.desiredOutcome ("Recover opportunity " ++ params.opportunity.id)
  steps := steps (preferredAction params)
  validityAssumptions := assumptions params
  candidateActions := candidateSet params
  preferredAction := preferredAction params
  status := .active
  invalidationReason := none
  createdAt := params.now

/-- A plan and the table that it is stored in; `none` when its id is taken. -/
def createPlan (plans : Plans) (params : PlanParams) : Option (PlanGenerationResult × Plans) :=
  let invalidAssumptions := (assumptions params).filter fun assumption => !assumption.isValid
  (insertAgentPlan plans (planRecord params)).map fun plans =>
    ({ plan := planRecord params
       isValid := invalidAssumptions.isEmpty
       validationErrors := invalidAssumptions.map fun a =>
        "Assumption '" ++ a.parameter ++ "' failed (" ++ a.currentValue.elim "undefined" numberText ++
          " not " ++ a.condition ++ " " ++ numberText a.expectedValue ++ ")" },
      plans)

end AgentPlanner

end CtrlRecovery
