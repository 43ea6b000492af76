import CtrlRecovery.Agents.Budget
import CtrlRecovery.Agents.PlanMonitor
import CtrlRecovery.Agents.StateMachine

/-!
# The replan engine

`AgentReplanEngine.validateActivePlan` evaluates the assumptions of a run's active plan by their
parameters, on the current values. It agrees with the plan monitor unless the attempts have reached the
cap since the plan recorded them, or have left it (`validateActivePlan_iff_check`).

`executeReplan` moves the machine to `PLAN` in three transitions and replaces the active plan, whether or
not the machine takes them and whether or not other plans are active (`replansSoundly_iff`).
-/

namespace CtrlRecovery

open Core Js

/-- What is expected or found: a number, or whether there is an active plan. -/
inductive AssumptionFact
  | number (x : Number)
  | boolean (b : Bool)
  deriving DecidableEq, Repr

structure FailedAssumption where
  assumptionId : String
  parameter : String
  condition : String
  expected : AssumptionFact
  actual : AssumptionFact
  reason : String
  deriving DecidableEq, Repr

structure PlanValidationCheck where
  isValid : Bool
  activePlan : Option AgentPlanRecord
  failedAssumptions : List FailedAssumption
  deriving DecidableEq, Repr

/-- The current facts, where they are passed. -/
structure ValidationParams where
  runId : String
  currentGatewayHealth : Option Number
  currentAttemptCount : Option Number
  currentCapacityAvailable : Option Number
  deriving DecidableEq, Repr

structure ReplanResult where
  replanned : Bool
  oldPlanId : Option String
  newPlan : Option AgentPlanRecord
  replanCount : ℕ
  invalidationReason : Option String
  error : Option String
  deriving DecidableEq, Repr

namespace AgentReplanEngine

/-! ### Validating the active plan -/

def failure (assumption : PlanValidityAssumption) (actual : Number) (reason : String) :
    FailedAssumption where
  assumptionId := assumption.id
  parameter := assumption.parameter
  condition := assumption.condition
  expected := .number assumption.expectedValue
  actual := .number actual
  reason := reason

/-- The failures of one assumption, at most one for each parameter. -/
def failures (params : ValidationParams) (assumption : PlanValidityAssumption) :
    List FailedAssumption :=
  let expected := assumption.expectedValue
  let gateway :=
    if assumption.parameter = "gateway_health" then
      (params.currentGatewayHealth.filter (·.Lt expected)).toList.map fun actual =>
        failure assumption actual ("Gateway health degraded to " ++ numberText actual ++
          " (expected >= " ++ numberText expected ++ ")")
    else []
  let attempts :=
    if assumption.parameter = "attempt_count" then
      (params.currentAttemptCount.filter (expected.Le ·)).toList.map fun actual =>
        failure assumption actual ("Attempt count hit retry cap (" ++ numberText actual ++ " >= " ++
          numberText expected ++ ")")
    else []
  let capacity :=
    if assumption.parameter = "capacity_available" then
      (params.currentCapacityAvailable.filter (·.Le (0 : ℚ))).toList.map fun actual =>
        failure assumption actual "Portfolio recovery market capacity is fully exhausted"
    else []
  gateway ++ attempts ++ capacity

def noActivePlan : FailedAssumption where
  assumptionId := "none"
  parameter := "active_plan"
  condition := "exists"
  expected := .boolean true
  actual := .boolean false
  reason := "No active plan found"

def validateActivePlan (plans : Plans) (params : ValidationParams) : PlanValidationCheck :=
  match getActivePlanByRunId plans params.runId with
  | none            => ⟨false, none, [noActivePlan]⟩
  | some activePlan =>
    let failedAssumptions := activePlan.validityAssumptions.flatMap (failures params)
    ⟨failedAssumptions.isEmpty, some activePlan, failedAssumptions⟩

/-! ### Replanning -/

/-- The mission as replanning finds and leaves it. -/
structure ReplanState where
  stateMachine : AgentStateMachine
  budgetTracker : MissionBudgetTracker
  plans : Plans

structure ReplanParams where
  runId : String
  opportunity : ScoreInput
  currentGatewayHealth : Option Number
  currentCapacityAvailable : Option Number
  invalidationReason : String
  newPlanId : String
  now : Timestamp
  deriving DecidableEq, Repr

/-- The plan that replaces an active plan of a version, of which zero and none count as one. -/
def newPlanParams (params : ReplanParams) (activePlan : Option AgentPlanRecord) : PlanParams where
  planId := params.newPlanId
  runId := params.runId
  desiredOutcome := some ("Replanned recovery for " ++ params.opportunity.id)
  opportunity := params.opportunity
  intent := none
  gatewayHealth := params.currentGatewayHealth
  capacityAvailable := params.currentCapacityAvailable
  planVersion := (match activePlan with
    | some plan => if plan.planVersion = 0 then 1 else plan.planVersion
    | none      => 1) + 1
  now := params.now

def invalidateActive (plans : Plans) (runId reason : String) : Plans :=
  match getActivePlanByRunId plans runId with
  | some activePlan => updateAgentPlanStatus plans activePlan.id .invalidated (some reason)
  | none            => plans

/-- Replanning with what it returns; `none` when the new plan cannot be stored. -/
def executeReplan (s : ReplanState) (params : ReplanParams) : Option ReplanResult × ReplanState :=
  let budgetTracker := s.budgetTracker.recordReplan
  let budgetCheck := budgetTracker.checkBudgets params.now
  if budgetCheck.exceeded then
    (some
      { replanned := false
        oldPlanId := none
        newPlan := none
        replanCount := budgetTracker.usage.replans
        invalidationReason := none
        error := budgetCheck.message },
      { s with budgetTracker, stateMachine := s.stateMachine.transition .aborted })
  else
    let activePlan := getActivePlanByRunId s.plans params.runId
    let plans := invalidateActive s.plans params.runId params.invalidationReason
    let stateMachine :=
      ((s.stateMachine.transition .planInvalidated).transition .replan).transition .plan
    match AgentPlanner.createPlan plans (newPlanParams params activePlan) with
    | none                     => (none, { stateMachine, budgetTracker, plans })
    | some (planResult, plans) =>
      (some
        { replanned := true
          oldPlanId := activePlan.map AgentPlanRecord.id
          newPlan := some planResult.plan
          replanCount := budgetTracker.usage.replans
          invalidationReason := some params.invalidationReason
          error := none },
        { stateMachine, budgetTracker, plans })

/-! ### The two evaluations of a plan -/

section Agreement

variable {plans : Plans} {created : PlanParams} {readBack : Bool} {g a c r : Number} {x : ℚ}

/-- The created plan as the monitor gets it, from the planner or read back. -/
def monitored (created : PlanParams) (readBack : Bool) : AgentPlanRecord :=
  if readBack then (AgentPlanner.planRecord created).stored else AgentPlanner.planRecord created

def recordedAttempts (created : PlanParams) (readBack : Bool) : Number :=
  if readBack then (jsonNumber created.opportunity.attemptCount).getD (0 : ℚ)
  else created.opportunity.attemptCount

lemma failures_eq_nil_iff {params : ValidationParams} (hg : params.currentGatewayHealth = some g)
    (ha : params.currentAttemptCount = some a) (hc : params.currentCapacityAvailable = some c) :
    (∀ assumption ∈ (AgentPlanner.planRecord created).stored.validityAssumptions,
      failures params assumption = []) ↔
      ¬ g.Lt (75 / 100 : ℚ) ∧ ¬ Number.Le (3 : ℚ) a ∧ ¬ c.Le (0 : ℚ) := by
  simp [AgentPlanRecord.stored, AgentPlanner.planRecord, AgentPlanner.assumptions, failures, hg, ha, hc,
    PlanValidityAssumption.stored, Option.filter_some]

/-- The monitor finds nothing against the current gateway and capacity and the recorded attempts. -/
lemma holdsNow_iff {status : Option String} :
    (∀ assumption ∈ (monitored created readBack).validityAssumptions,
      PlanMonitor.holdsNow ⟨monitored created readBack, g, c, status⟩ assumption) ↔
      Number.Le (75 / 100 : ℚ) g ∧ (recordedAttempts created readBack).Lt (3 : ℚ) ∧
        Number.Lt (0 : ℚ) c := by
  cases readBack with
  | false =>
    simp [monitored, recordedAttempts, AgentPlanner.planRecord, AgentPlanner.assumptions,
      PlanMonitor.holdsNow, PlanMonitor.getCurrentValue, PlanMonitor.evaluateCondition,
      PlanMonitor.recordedValue]
  | true =>
    simp [monitored, recordedAttempts, AgentPlanRecord.stored, PlanValidityAssumption.stored,
      AgentPlanner.planRecord, AgentPlanner.assumptions, PlanMonitor.holdsNow,
      PlanMonitor.getCurrentValue, PlanMonitor.evaluateCondition, PlanMonitor.recordedValue]

lemma not_lt_iff : ¬ a.Lt x ↔ a = .nan ∨ Number.Le x a := by
  cases a with
  | nan      => simp [Number.Lt]
  | negInf   => simp [Number.Lt, Number.Le]
  | posInf   => simp [Number.Lt, Number.Le]
  | finite y => simp

lemma not_le_iff : ¬ a.Le x ↔ a = .nan ∨ Number.Lt x a := by
  cases a with
  | nan      => simp
  | negInf   => simp [Number.Lt, Number.Le]
  | posInf   => simp [Number.Lt, Number.Le]
  | finite y => simp

/-- The gateway or the capacity breaks the plan either way, or else both facts are numbers and the
attempts are at the cap now exactly when they were not below it as recorded. -/
def FactsAgree (created : PlanParams) (readBack : Bool) (g a c : Number) : Prop :=
  g.Lt (75 / 100 : ℚ) ∨ c.Le (0 : ℚ) ∨
    if g = .nan ∨ c = .nan then Number.Le (3 : ℚ) a
    else (Number.Le (3 : ℚ) a ↔ ¬ (recordedAttempts created readBack).Lt (3 : ℚ))

/-- The engine and the monitor agree on a created plan that is active, young and of an opportunity that is
not settled exactly when the facts agree. -/
theorem validateActivePlan_iff_check (plans : Plans) (created : PlanParams) (readBack : Bool)
    (g a c : Number) (status : Option String) (now : Timestamp)
    (hactive : getActivePlanByRunId plans created.runId =
      some (AgentPlanner.planRecord created).stored)
    (hage : (now - created.now : ℤ) ≤ PlanMonitor.MAX_PLAN_AGE_MS)
    (hstatus : status.filter PlanMonitor.isTerminal = none) :
    ((validateActivePlan plans ⟨created.runId, some g, some a, some c⟩).isValid = true ↔
      (PlanMonitor.check ⟨monitored created readBack, g, c, status⟩ now).violatedAssumptions = []) ↔
    FactsAgree created readBack g a c := by
  have hengine := @failures_eq_nil_iff created g a c ⟨created.runId, some g, some a, some c⟩ rfl rfl rfl
  have hcreated : (monitored created readBack).createdAt = created.now := by
    cases readBack <;> rfl
  have hyoung : PlanMonitor.elapsedMs ⟨monitored created readBack, g, c, status⟩ now ≤
      PlanMonitor.MAX_PLAN_AGE_MS := by rwa [PlanMonitor.elapsedMs, hcreated]
  have hmonitor := PlanMonitor.violatedAssumptions_eq_nil_iff hyoung hstatus
  rw [hmonitor, holdsNow_iff, validateActivePlan, hactive]
  simp only [List.isEmpty_iff, List.flatMap_eq_nil_iff, hengine]
  rw [FactsAgree]
  by_cases hg : g.Lt (75 / 100 : ℚ)
  · have hlow : ¬ Number.Le (75 / 100 : ℚ) g := fun hle => not_lt_iff.mpr (.inr hle) hg
    exact iff_of_true (iff_of_false (fun h => h.1 hg) fun h => hlow h.1) (.inl hg)
  by_cases hc : c.Le (0 : ℚ)
  · have hnone : ¬ Number.Lt (0 : ℚ) c := fun hlt => not_le_iff.mpr (.inr hlt) hc
    exact iff_of_true (iff_of_false (fun h => h.2.2 hc) fun h => hnone h.2.2) (.inr (.inl hc))
  -- neither is broken for the engine, but for the monitor they are if they are no numbers
  rw [or_iff_right hg, or_iff_right hc]
  split_ifs with hnan
  · have hbroken : ¬ (Number.Le (75 / 100 : ℚ) g ∧ (recordedAttempts created readBack).Lt (3 : ℚ) ∧
        Number.Lt (0 : ℚ) c) := by
      rintro ⟨hle, -, hlt⟩
      rcases hnan with rfl | rfl
      · exact Number.not_le_nan hle
      · exact Number.not_le_nan hlt.1
    rw [iff_false_right hbroken, and_iff_right hg, and_iff_left hc, not_not]
  · rw [not_or] at hnan
    rw [and_iff_right hg, and_iff_left hc, and_iff_right ((not_lt_iff.mp hg).resolve_left hnan.1),
      and_iff_left ((not_le_iff.mp hc).resolve_left hnan.2), not_iff_comm]
    exact iff_comm

/-- A plan of the second attempt. -/
def samplePlan : PlanParams where
  planId := "plan_1"
  runId := "run_1"
  desiredOutcome := none
  opportunity := { NumericScorer.sampleInput with attemptCount := (2 : ℚ) }
  intent := none
  gatewayHealth := none
  capacityAvailable := none
  planVersion := 1
  now := 0

/-- The table with that plan only. -/
def samplePlans : Plans := ⟨[(AgentPlanner.planRecord samplePlan).stored], List.nodup_singleton _⟩

/-- A minute later and with the same attempts, engine and monitor find the plan valid. -/
theorem validateActivePlan_iff_check_second_attempt :
    (validateActivePlan samplePlans
        ⟨"run_1", some (9 / 10 : ℚ), some (2 : ℚ), some (3 : ℚ)⟩).isValid = true ↔
      (PlanMonitor.check ⟨monitored samplePlan true, (9 / 10 : ℚ), (3 : ℚ), some "executing"⟩
        60000).violatedAssumptions = [] :=
  (validateActivePlan_iff_check samplePlans samplePlan true (9 / 10 : ℚ) (2 : ℚ) (3 : ℚ)
    (some "executing") 60000 (by decide +kernel) (by decide) (by decide)).mpr
    (.inr (.inr (by decide +kernel)))

/-- At the third attempt the engine finds the plan invalid and the monitor still finds it valid. -/
theorem recorded_attempts_checked :
    (validateActivePlan samplePlans
        ⟨"run_1", some (9 / 10 : ℚ), some (3 : ℚ), some (3 : ℚ)⟩).isValid = false ∧
      (PlanMonitor.check ⟨monitored samplePlan true, (9 / 10 : ℚ), (3 : ℚ), some "executing"⟩
        60000).violatedAssumptions = [] := by
  decide +kernel

end Agreement

/-! ### What replanning promises -/

section Replanning

variable {s : ReplanState} {params : ReplanParams} {plans plans' : Plans} {runId reason : String}
  {plan old : AgentPlanRecord} {machine : AgentStateMachine}

/-- The machine has taken the three transitions. -/
def Accepted (before after : AgentStateMachine) : Prop :=
  after = ⟨.plan, .plan :: .replan :: .planInvalidated :: before.persisted⟩

/-- Whoever is told of a replanning finds the machine in `PLAN` by way of the two other states and one
active plan, the next version of the one that it replaced; whoever is told of none finds the plans as they
were. -/
def ReplansSoundly (s : ReplanState) (params : ReplanParams) : Prop :=
  let after := (executeReplan s params).2
  ∀ result ∈ (executeReplan s params).1,
    (result.replanned = true →
      Accepted s.stateMachine after.stateMachine ∧
        ∃ plan, activePlans after.plans params.runId = [plan] ∧
          ∀ old ∈ getActivePlanByRunId s.plans params.runId, plan.planVersion = old.planVersion + 1) ∧
    (result.replanned = false → after.plans = s.plans)

lemma length_persisted_transition (machine : AgentStateMachine) (nextState : AgentState) :
    (machine.transition nextState).persisted.length ≤ machine.persisted.length + 1 := by
  rw [AgentStateMachine.transition]
  split_ifs
  · exact le_rfl
  · exact Nat.le_succ _

/-- The transitions are all taken exactly when the first one is. -/
lemma accepted_iff :
    Accepted machine
        (((machine.transition .planInvalidated).transition .replan).transition .plan) ↔
      machine.canTransitionTo .planInvalidated := by
  cases hfirst : machine.canTransitionTo .planInvalidated with
  | true =>
    rw [AgentStateMachine.transition_of_allowed hfirst]
    exact iff_of_true rfl rfl
  | false =>
    rw [AgentStateMachine.transition_of_refused hfirst]
    refine iff_of_false (fun h => ?_) (by simp)
    -- two transitions do not persist three states
    have hlength := congrArg (fun machine => machine.persisted.length) h
    have hreplan := length_persisted_transition machine .replan
    have hplan := length_persisted_transition (machine.transition .replan) .plan
    simp only [List.length_cons] at hlength
    omega

/-- An invalidated plan is no longer among the active ones. -/
lemma activePlans_updateAgentPlanStatus {planId : String} :
    activePlans (updateAgentPlanStatus plans planId .invalidated (some reason)) runId =
      (activePlans plans runId).filter fun plan => plan.id ≠ planId := by
  rw [activePlans, activePlans, updateAgentPlanStatus, Table.rows_update]
  induction plans.rows with
  | nil => rfl
  | cons plan rows ih =>
    rw [List.map_cons, List.filter_cons, ih, List.filter_cons]
    by_cases hid : plan.id = planId
    · rw [if_pos hid]
      simp only [setPlanStatus, reduceCtorEq, decide_false, Bool.and_false, Bool.false_eq_true, if_false]
      split_ifs
      · rw [List.filter_cons_of_neg (by simpa using hid)]
      · rfl
    · rw [if_neg hid]
      split_ifs
      · rw [List.filter_cons_of_pos (by simpa using hid)]
      · rfl

lemma getActivePlanByRunId_eq_none_iff :
    getActivePlanByRunId plans runId = none ↔ activePlans plans runId = [] :=
  List.argmax_eq_none

lemma mem_activePlans_of_getActivePlanByRunId (h : getActivePlanByRunId plans runId = some plan) :
    plan ∈ activePlans plans runId := List.argmax_mem h

/-- Only the newest active plan is invalidated, so that none is left exactly when there were no others. -/
lemma activePlans_invalidateActive_eq_nil_iff :
    activePlans (invalidateActive plans runId reason) runId = [] ↔
      (activePlans plans runId).length ≤ 1 := by
  rw [invalidateActive]
  cases hactive : getActivePlanByRunId plans runId with
  | none =>
    have hnil := getActivePlanByRunId_eq_none_iff.mp hactive
    simp [hnil]
  | some newest =>
    have hmem := mem_activePlans_of_getActivePlanByRunId hactive
    simp only [activePlans_updateAgentPlanStatus]
    constructor
    · intro hnone
      have hids : ∀ id ∈ (activePlans plans runId).map AgentPlanRecord.id, id = newest.id := by
        intro id hid
        obtain ⟨plan, hplan, rfl⟩ := List.mem_map.mp hid
        by_contra hne
        exact List.filter_eq_nil_iff.mp hnone plan hplan (decide_eq_true hne)
      have hnodup : ((activePlans plans runId).map AgentPlanRecord.id).Nodup :=
        plans.nodup.sublist (List.filter_sublist.map _)
      rw [List.eq_replicate_of_mem hids, List.nodup_replicate, List.length_map] at hnodup
      exact hnodup
    · intro hle
      obtain ⟨plan, hplan⟩ : ∃ plan, activePlans plans runId = [plan] :=
        List.length_eq_one_iff.mp (le_antisymm hle (List.length_pos_of_mem hmem))
      rw [hplan] at hmem ⊢
      rw [List.mem_singleton.mp hmem]
      simp

lemma map_id_invalidateActive :
    (invalidateActive plans runId reason).rows.map AgentPlanRecord.id =
      plans.rows.map AgentPlanRecord.id := by
  rw [invalidateActive]
  cases getActivePlanByRunId plans runId with
  | none        => rfl
  | some newest =>
    simp only [updateAgentPlanStatus, Table.rows_update, List.map_map]
    refine List.map_congr_left fun plan _ => ?_
    simp only [Function.comp_apply]
    split_ifs <;> rfl

lemma createPlan_eq_none_iff {planParams : PlanParams} :
    AgentPlanner.createPlan plans planParams = none ↔
      planParams.planId ∈ plans.rows.map AgentPlanRecord.id := by
  rw [AgentPlanner.createPlan, Option.map_eq_none_iff, insertAgentPlan, Table.insert?]
  split_ifs with htaken
  · exact iff_of_true rfl htaken
  · exact iff_of_false (by simp) htaken

lemma createPlan_invalidateActive_eq_none_iff {planParams : PlanParams} :
    AgentPlanner.createPlan (invalidateActive plans runId reason) planParams = none ↔
      planParams.planId ∈ plans.rows.map AgentPlanRecord.id := by
  rw [createPlan_eq_none_iff, map_id_invalidateActive]

lemma activePlans_createPlan {planParams : PlanParams} {planResult : PlanGenerationResult}
    (h : AgentPlanner.createPlan plans planParams = some (planResult, plans')) :
    activePlans plans' planParams.runId =
      activePlans plans planParams.runId ++ [(AgentPlanner.planRecord planParams).stored] := by
  obtain ⟨stored, hstored, heq⟩ := Option.map_eq_some_iff.mp h
  cases heq
  rw [activePlans, Table.rows_of_insert? hstored, List.filter_append, activePlans]
  congr 1
  exact List.filter_cons_of_pos (by simp [AgentPlanRecord.stored, AgentPlanner.planRecord])

/-- A list that ends in `a` has one element exactly when nothing precedes it. -/
lemma exists_concat_eq_singleton_iff {α : Type*} {l : List α} {a : α} (P : α → Prop) :
    (∃ b, l ++ [a] = [b] ∧ P b) ↔ l = [] ∧ P a := by
  constructor
  · rintro ⟨b, hone, hb⟩
    obtain ⟨hnil, hlast⟩ | ⟨-, habsurd⟩ := List.append_eq_singleton_iff.mp hone
    · cases hlast
      exact ⟨hnil, hb⟩
    · cases habsurd
  · rintro ⟨rfl, ha⟩
    exact ⟨a, rfl, ha⟩

/-- The new plan is the next version of the one that it replaces, unless that has version zero. -/
lemma planVersion_newPlan {activePlan : Option AgentPlanRecord} :
    (∀ old ∈ activePlan, (AgentPlanner.planRecord
      (newPlanParams params activePlan)).stored.planVersion = old.planVersion + 1) ↔
      ∀ old ∈ activePlan, old.planVersion ≠ 0 := by
  cases activePlan with
  | none     => simp
  | some old =>
    simp only [Option.mem_some_iff, forall_eq', AgentPlanRecord.stored, AgentPlanner.planRecord,
      newPlanParams, Nat.add_eq_zero_iff, one_ne_zero, and_false, if_false, Nat.add_right_cancel_iff]
    split_ifs with hzero
    · exact iff_of_false (by omega) (by omega)
    · exact iff_of_true rfl hzero

/-- Replanning keeps its promises exactly when the budget refuses it, when the new plan cannot be stored,
or when the machine takes the first transition and no more than one plan is active, whose version is not
zero. -/
theorem replansSoundly_iff (s : ReplanState) (params : ReplanParams) :
    ReplansSoundly s params ↔
      (s.budgetTracker.recordReplan.checkBudgets params.now).exceeded ∨
      params.newPlanId ∈ s.plans.rows.map AgentPlanRecord.id ∨
      (s.stateMachine.canTransitionTo .planInvalidated ∧
        (activePlans s.plans params.runId).length ≤ 1 ∧
        ∀ old ∈ getActivePlanByRunId s.plans params.runId, old.planVersion ≠ 0) := by
  by_cases hbudget : (s.budgetTracker.recordReplan.checkBudgets params.now).exceeded = true
  · refine iff_of_true ?_ (.inl hbudget)
    rw [ReplansSoundly, executeReplan, if_pos hbudget]
    rintro result ⟨⟩
    exact ⟨fun h => (by cases h), fun _ => rfl⟩
  rw [or_iff_right hbudget, ReplansSoundly, executeReplan, if_neg hbudget]
  generalize hactive : getActivePlanByRunId s.plans params.runId = activePlan
  cases hcreate : AgentPlanner.createPlan
      (invalidateActive s.plans params.runId params.invalidationReason)
      (newPlanParams params activePlan) with
  | none =>
    simp only [hcreate]
    exact iff_of_true (fun result hresult => by cases hresult)
      (.inl (createPlan_invalidateActive_eq_none_iff.mp hcreate))
  | some created =>
    obtain ⟨planResult, plans'⟩ := created
    have hfree : params.newPlanId ∉ s.plans.rows.map AgentPlanRecord.id := by
      intro htaken
      rw [createPlan_invalidateActive_eq_none_iff.mpr htaken] at hcreate
      cases hcreate
    have hplans : activePlans plans' params.runId =
        activePlans (invalidateActive s.plans params.runId params.invalidationReason) params.runId ++
          [(AgentPlanner.planRecord (newPlanParams params activePlan)).stored] :=
      activePlans_createPlan hcreate
    rw [or_iff_right hfree]
    simp only [hcreate, Option.mem_some_iff, forall_eq', true_implies, Bool.true_eq_false,
      false_implies, and_true, accepted_iff, hplans]
    refine and_congr_right fun _ => ?_
    exact (exists_concat_eq_singleton_iff fun plan : AgentPlanRecord =>
      ∀ old ∈ activePlan, plan.planVersion = old.planVersion + 1).trans
        (and_congr activePlans_invalidateActive_eq_nil_iff planVersion_newPlan)

/-- A mission with an active plan and a fresh budget, in a state. -/
def sampleMission (state : AgentState) (plans : Plans) : ReplanState :=
  ⟨⟨state, []⟩, .new DEFAULT_AGENT_BUDGET 0, plans⟩

def sampleReplan : ReplanParams :=
  ⟨"run_1", samplePlan.opportunity, some (4 / 10 : ℚ), none, "gateway degraded", "plan_9", 0⟩

/-- The table with a second active plan. -/
def twoActivePlans : Plans :=
  ⟨[(AgentPlanner.planRecord samplePlan).stored,
      { (AgentPlanner.planRecord samplePlan).stored with id := "plan_2", planVersion := 2 }],
    by decide +kernel⟩

/-- A machine that executes refuses all three transitions, and of two active plans one stays active; the
replanning is reported both times. -/
theorem refused_transitions_reported :
    ¬ ReplansSoundly (sampleMission .execute samplePlans) sampleReplan ∧
      ¬ ReplansSoundly (sampleMission .wake twoActivePlans) sampleReplan := by
  constructor
  · intro h
    have hreplanned : (executeReplan (sampleMission .execute samplePlans) sampleReplan).1.map
        ReplanResult.replanned = some true := by decide +kernel
    obtain ⟨result, hresult, htrue⟩ := Option.map_eq_some_iff.mp hreplanned
    have haccepted := congrArg AgentStateMachine.currentState ((h result hresult).1 htrue).1
    revert haccepted
    decide +kernel
  · intro h
    have hreplanned : (executeReplan (sampleMission .wake twoActivePlans) sampleReplan).1.map
        ReplanResult.replanned = some true := by decide +kernel
    obtain ⟨result, hresult, htrue⟩ := Option.map_eq_some_iff.mp hreplanned
    obtain ⟨-, plan, hone, -⟩ := (h result hresult).1 htrue
    have hlength := congrArg List.length hone
    revert hlength
    rw [List.length_singleton]
    decide +kernel

end Replanning

end AgentReplanEngine

end CtrlRecovery
