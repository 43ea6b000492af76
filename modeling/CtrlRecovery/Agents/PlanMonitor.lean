import CtrlRecovery.Agents.Planner

/-!
# The plan monitor

`PlanMonitor.check` evaluates the assumptions of a plan from their texts. For the gateway and the capacity
it takes the current values, for everything else, the attempts among it, the values that the plan
recorded.
-/

namespace CtrlRecovery

open Js

inductive PlanRecommendation | continue | replan | abort
  deriving DecidableEq, Repr

structure PlanMonitorResult where
  planId : String
  runId : String
  isStillValid : Bool
  violatedAssumptions : List String
  elapsedMs : ℤ
  recommendation : PlanRecommendation
  checkedAt : Timestamp
  deriving DecidableEq, Repr

/-- What a plan is checked against. -/
structure MonitorParams where
  plan : AgentPlanRecord
  currentGatewayHealth : Number
  currentCapacityAvailable : Number
  currentOpportunityStatus : Option String
  deriving DecidableEq, Repr

namespace PlanMonitor

def MAX_PLAN_AGE_MS : ℤ := 300000

/-- The recorded value of an assumption; `Number(null)` is zero. -/
def recordedValue (assumption : PlanValidityAssumption) : Number :=
  assumption.currentValue.getD (0 : ℚ)

def getCurrentValue (assumption : PlanValidityAssumption) (params : MonitorParams) : Number :=
  match assumption.parameter with
  | "gateway_health"     => params.currentGatewayHealth
  | "capacity_available" => params.currentCapacityAvailable
  | _                    => recordedValue assumption

def evaluateCondition (current : Number) (condition : String) (expected : Number) : Bool :=
  match condition with
  | ">=" => expected.Le current
  | ">"  => expected.Lt current
  | "<=" => current.Le expected
  | "<"  => current.Lt expected
  | "==" => current = expected && current ≠ .nan
  | "!=" => current ≠ expected || current = .nan
  | _    => true

def holdsNow (params : MonitorParams) (assumption : PlanValidityAssumption) : Bool :=
  evaluateCondition (getCurrentValue assumption params) assumption.condition assumption.expectedValue

/-- The text of a violated assumption. -/
def violation (params : MonitorParams) (assumption : PlanValidityAssumption) : String :=
  assumption.parameter ++ ": expected " ++ assumption.condition ++ " " ++
    numberText assumption.expectedValue ++ ", got " ++ numberText (getCurrentValue assumption params)

def elapsedMs (params : MonitorParams) (now : Timestamp) : ℤ := now - params.plan.createdAt

/-- `(ms / 1000).toFixed(0)` for a positive number of milliseconds. -/
def secondsText (ms : ℤ) : String := toString (mathRound (ms / 1000))

def isTerminal (status : String) : Bool := ["recovered", "blocked", "not_recovered"].contains status

/-- The current status, where it is a terminal one. -/
def terminalStatus (params : MonitorParams) : Option String :=
  params.currentOpportunityStatus.filter isTerminal

def violatedAssumptions (params : MonitorParams) (now : Timestamp) : List String :=
  let failed := params.plan.validityAssumptions.filter fun assumption => !holdsNow params assumption
  let age :=
    if elapsedMs params now > MAX_PLAN_AGE_MS then
      ["plan_age: " ++ secondsText (elapsedMs params now) ++ "s exceeds maximum " ++
        secondsText MAX_PLAN_AGE_MS ++ "s"]
    else []
  let status := (terminalStatus params).toList.map fun status =>
    "opportunity_status: '" ++ status ++ "' is terminal — plan no longer applicable"
  failed.map (violation params) ++ age ++ status

def check (params : MonitorParams) (now : Timestamp) : PlanMonitorResult where
  planId := params.plan.id
  runId := params.plan.runId
  isStillValid := (violatedAssumptions params now).isEmpty
  violatedAssumptions := violatedAssumptions params now
  elapsedMs := elapsedMs params now
  recommendation :=
    if (violatedAssumptions params now).isEmpty then .continue
    else if (terminalStatus params).isSome then .abort
    else .replan
  checkedAt := now

variable {params : MonitorParams} {now : Timestamp}

lemma violatedAssumptions_eq_nil_iff (hage : elapsedMs params now ≤ MAX_PLAN_AGE_MS)
    (hstatus : terminalStatus params = none) :
    (check params now).violatedAssumptions = [] ↔
      ∀ assumption ∈ params.plan.validityAssumptions, holdsNow params assumption := by
  have hyoung : ¬ elapsedMs params now > MAX_PLAN_AGE_MS := not_lt.mpr hage
  rw [check, violatedAssumptions, if_neg hyoung, hstatus]
  simp

end PlanMonitor

end CtrlRecovery
