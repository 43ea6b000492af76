import CtrlRecovery.Agents.ReplanEngine
import CtrlRecovery.Core.Run

/-!
# The plans of a mission

A mission creates its first plan and replaces it whenever it replans, in the one table that all missions
store their plans in. However the missions take turns, the plans of each of them are its versions one by
one: every replanning has invalidated the version before for its own reason, only the last is active, and
there are no more of them than the budget allows (`lineage_of_run`).
-/

namespace CtrlRecovery

open Core

namespace PlanLineage

/-! ### Missions that share the table of plans -/

/-- A mission, with the reasons of the replannings that its budget allowed and whether it has stopped
because its new plan could not be stored. -/
structure Mission where
  stateMachine : AgentStateMachine
  budgetTracker : MissionBudgetTracker
  reasons : List String
  stopped : Bool

structure State where
  plans : Plans
  missions : String → Option Mission

def State.initial : State := ⟨Table.empty, fun _ => none⟩

/-- What a mission uses between its plans. -/
inductive Use
  | transition (nextState : AgentState)
  | step
  | llmCall (tokensUsed : ℚ)
  | toolCall
  deriving DecidableEq, Repr

inductive Action
  /-- The first plan of a new run, created at a time with a budget. -/
  | start (params : PlanParams) (config : AgentBudgetConfig)
  | use (runId : String) (use : Use)
  | replan (params : AgentReplanEngine.ReplanParams)

def Mission.use (mission : Mission) : Use → Mission
  | .transition nextState => { mission with stateMachine := mission.stateMachine.transition nextState }
  | .step                 => { mission with budgetTracker := mission.budgetTracker.recordStep }
  | .llmCall tokensUsed   =>
    { mission with budgetTracker := mission.budgetTracker.recordLLMCall tokensUsed }
  | .toolCall             => { mission with budgetTracker := mission.budgetTracker.recordToolCall }

/-- The mission after a replanning of it. -/
def Mission.replan (mission : Mission) (reason : String) (result : Option ReplanResult)
    (after : AgentReplanEngine.ReplanState) : Mission where
  stateMachine := after.stateMachine
  budgetTracker := after.budgetTracker
  reasons := if result.any (!·.replanned) then mission.reasons else mission.reasons ++ [reason]
  stopped := result.isNone

def State.setMission (s : State) (runId : String) (mission : Mission) : State :=
  { s with missions := Function.update s.missions runId (some mission) }

/-- A run starts once and without a version of its own choice, and one that has stopped takes no more
steps. -/
def step (s : State) : Action → Option State
  | .start params config =>
    if (s.missions params.runId).isNone ∧ params.planVersion ≤ 1 then
      (AgentPlanner.createPlan s.plans params).map fun (_, plans) =>
        { s with plans }.setMission params.runId
          ⟨.new, .new config params.now, [], false⟩
    else none
  | .use runId use =>
    ((s.missions runId).filter (!·.stopped)).map fun mission => s.setMission runId (mission.use use)
  | .replan params =>
    ((s.missions params.runId).filter (!·.stopped)).map fun mission =>
      let (result, after) := AgentReplanEngine.executeReplan
        ⟨mission.stateMachine, mission.budgetTracker, s.plans⟩ params
      { s with plans := after.plans }.setMission params.runId
        (mission.replan params.invalidationReason result after)

/-! ### The plans of a run -/

def plansOf (plans : Plans) (runId : String) : List AgentPlanRecord :=
  plans.rows.filter fun plan => plan.runId = runId

/-- `ORDER BY plan_version ASC`. -/
def getAgentPlansByRunId (plans : Plans) (runId : String) : List AgentPlanRecord :=
  (plansOf plans runId).mergeSort fun plan plan' => plan.planVersion ≤ plan'.planVersion

def place (plan : AgentPlanRecord) : ℕ × PlanStatus × Option String :=
  (plan.planVersion, plan.status, plan.invalidationReason)

def invalidated (reasons : List String) : List (ℕ × PlanStatus × Option String) :=
  reasons.mapIdx fun i reason => (i + 1, .invalidated, (some reason).filter (· ≠ ""))

/-- The places of the plans that these replannings leave. -/
def lineage (reasons : List String) (stopped : Bool) : List (ℕ × PlanStatus × Option String) :=
  invalidated reasons ++ if stopped then [] else [(reasons.length + 1, .active, none)]

variable {plans plans' : Plans} {runId reason : String} {reasons : List String} {stopped : Bool}

lemma invalidated_concat :
    invalidated (reasons ++ [reason]) =
      invalidated reasons ++
        [(reasons.length + 1, .invalidated, (some reason).filter (· ≠ ""))] := by
  rw [invalidated, List.mapIdx_append]
  simp [invalidated]

lemma status_of_mem_invalidated {p : ℕ × PlanStatus × Option String} (h : p ∈ invalidated reasons) :
    p.2.1 = .invalidated := by
  obtain ⟨i, hi, rfl⟩ := List.mem_mapIdx.mp h
  rfl

/-- The versions of a lineage are in order. -/
lemma pairwise_lineage : (lineage reasons stopped).Pairwise fun p q => p.1 ≤ q.1 := by
  have hinvalidated : (invalidated reasons).Pairwise fun p q => p.1 ≤ q.1 := by
    rw [List.pairwise_iff_getElem]
    intro i j hi hj hij
    simp only [invalidated, List.getElem_mapIdx]
    omega
  refine List.pairwise_append.mpr ⟨hinvalidated, by split_ifs <;> simp, ?_⟩
  intro p hp q hq
  obtain ⟨i, hi, rfl⟩ := List.mem_mapIdx.mp hp
  cases stopped with
  | true  => cases hq
  | false =>
    cases List.mem_singleton.mp hq
    exact Nat.succ_le_succ hi.le

lemma activePlans_eq_filter_plansOf :
    activePlans plans runId = (plansOf plans runId).filter fun plan => plan.status = .active := by
  rw [activePlans, plansOf, List.filter_filter]
  refine List.filter_congr fun plan _ => ?_
  exact Bool.and_comm _ _

lemma getAgentPlansByRunId_of_lineage
    (h : (plansOf plans runId).map place = lineage reasons stopped) :
    getAgentPlansByRunId plans runId = plansOf plans runId := by
  refine List.mergeSort_of_pairwise ?_
  have hpairwise := List.pairwise_map.mp (h ▸ pairwise_lineage)
  exact hpairwise.imp fun hle => decide_eq_true hle

lemma exists_active (h : (plansOf plans runId).map place = lineage reasons false) :
    ∃ before last, plansOf plans runId = before ++ [last] ∧
      before.map place = invalidated reasons ∧ place last = (reasons.length + 1, .active, none) := by
  obtain ⟨before, rest, hplans, hbefore, hrest⟩ := List.map_eq_append_iff.mp h
  obtain ⟨last, hlast, hplace⟩ := List.map_eq_singleton_iff.mp hrest
  exact ⟨before, last, by rw [hplans, hlast], hbefore, hplace⟩

lemma filter_active_of_invalidated {before : List AgentPlanRecord}
    (h : before.map place = invalidated reasons) :
    (before.filter fun plan => plan.status = .active) = [] := by
  refine List.filter_eq_nil_iff.mpr fun plan hplan => ?_
  have hstatus : plan.status = .invalidated :=
    status_of_mem_invalidated (h ▸ List.mem_map_of_mem (f := place) hplan)
  simp [hstatus]

/-- The active plan of a mission is its last, unless it has stopped. -/
lemma getActivePlanByRunId_of_lineage
    (h : (plansOf plans runId).map place = lineage reasons stopped) :
    getActivePlanByRunId plans runId = if stopped then none else (plansOf plans runId).getLast? := by
  rw [getActivePlanByRunId, activePlans_eq_filter_plansOf]
  cases stopped with
  | true =>
    rw [lineage, if_pos rfl, List.append_nil] at h
    rw [filter_active_of_invalidated h, if_pos rfl]
    rfl
  | false =>
    obtain ⟨before, last, hplans, hbefore, hlast⟩ := exists_active h
    have hactive : last.status = .active := congrArg (·.2.1) hlast
    rw [hplans, List.filter_append, filter_active_of_invalidated hbefore, List.nil_append,
      List.filter_cons_of_pos (by simp [hactive]), List.filter_nil, List.argmax_singleton]
    simp

/-! ### What a replanning does to the plans -/

lemma plansOf_createPlan {params : PlanParams} {result : PlanGenerationResult}
    (h : AgentPlanner.createPlan plans params = some (result, plans')) :
    plansOf plans' runId = plansOf plans runId ++
      if params.runId = runId then [(AgentPlanner.planRecord params).stored] else [] := by
  obtain ⟨stored, hstored, heq⟩ := Option.map_eq_some_iff.mp h
  cases heq
  rw [plansOf, Table.rows_of_insert? hstored, List.filter_append, plansOf, List.filter_singleton]
  have hrun : (AgentPlanner.planRecord params).stored.runId = params.runId := rfl
  rw [hrun]
  by_cases hsame : params.runId = runId
  · rw [if_pos hsame, decide_eq_true hsame, cond_true]
  · rw [if_neg hsame, decide_eq_false hsame, cond_false]

/-- Invalidating the active plan of a run leaves the plans of the others as they are. -/
lemma plansOf_invalidateActive_of_ne {other : String} (hne : other ≠ runId) :
    plansOf (AgentReplanEngine.invalidateActive plans runId reason) other = plansOf plans other := by
  rw [AgentReplanEngine.invalidateActive]
  cases hactive : getActivePlanByRunId plans runId with
  | none        => rfl
  | some newest =>
    obtain ⟨hmem, hrun⟩ :=
      List.mem_filter.mp (AgentReplanEngine.mem_activePlans_of_getActivePlanByRunId hactive)
    have hrun : newest.runId = runId := by
      rw [Bool.and_eq_true, decide_eq_true_eq] at hrun
      exact hrun.1
    refine Table.filter_rows_update fun plan hplan hid => ?_
    rw [plans.eq_of_key_eq hplan hmem hid]
    have hother : ¬ newest.runId = other := fun h => hne (h.symm.trans hrun)
    exact ⟨by simpa using hother, by simpa [setPlanStatus] using hother⟩

/-- The last plan of a run is invalidated when it is the active one. -/
lemma plansOf_invalidateActive {before : List AgentPlanRecord} {last : AgentPlanRecord}
    (hplans : plansOf plans runId = before ++ [last])
    (hactive : getActivePlanByRunId plans runId = some last) :
    plansOf (AgentReplanEngine.invalidateActive plans runId reason) runId =
      before ++ [setPlanStatus .invalidated (some reason) last] := by
  have hnodup : ((before ++ [last]).map AgentPlanRecord.id).Nodup := by
    rw [← hplans]
    exact plans.nodup.sublist (List.filter_sublist.map _)
  have hbefore : ∀ plan ∈ before, plan.id ≠ last.id := by
    intro plan hplan
    rw [List.map_append, List.nodup_append] at hnodup
    exact hnodup.2.2 _ (List.mem_map_of_mem hplan) _ (List.mem_singleton_self _)
  rw [AgentReplanEngine.invalidateActive, hactive]
  simp only [updateAgentPlanStatus, plansOf, Table.rows_update, List.filter_map]
  -- the run of a plan is not touched
  have hfilter : plans.rows.filter ((fun plan => decide (plan.runId = runId)) ∘ fun plan =>
      if plan.id = last.id then setPlanStatus .invalidated (some reason) plan else plan) =
      before ++ [last] := by
    rw [← hplans, plansOf]
    refine List.filter_congr fun plan _ => ?_
    simp only [Function.comp_apply]
    split_ifs <;> rfl
  rw [hfilter, List.map_append, List.map_singleton, if_pos rfl]
  congr 1
  conv_rhs => rw [← List.map_id before]
  exact List.map_congr_left fun plan hplan => if_neg (hbefore plan hplan)

section Outcome

open AgentReplanEngine

/-- What a replanning can lead to: the budget refuses it, or the active plan is invalidated and a new one
takes its place, or cannot be stored. -/
inductive Outcome (s : ReplanState) (params : ReplanParams) : Option ReplanResult → ReplanState → Prop
  | refused {result : ReplanResult} {stateMachine : AgentStateMachine} : result.replanned = false →
      Outcome s params (some result) ⟨stateMachine, s.budgetTracker.recordReplan, s.plans⟩
  | replaced {result : ReplanResult} {stateMachine : AgentStateMachine}
      {planResult : PlanGenerationResult} {plans : Plans} :
      (s.budgetTracker.recordReplan.checkBudgets params.now).exceeded = false →
      result.replanned = true →
      AgentPlanner.createPlan (invalidateActive s.plans params.runId params.invalidationReason)
        (newPlanParams params (getActivePlanByRunId s.plans params.runId)) = some (planResult, plans) →
      Outcome s params (some result) ⟨stateMachine, s.budgetTracker.recordReplan, plans⟩
  | stopped {stateMachine : AgentStateMachine} :
      (s.budgetTracker.recordReplan.checkBudgets params.now).exceeded = false →
      Outcome s params none ⟨stateMachine, s.budgetTracker.recordReplan,
        invalidateActive s.plans params.runId params.invalidationReason⟩

lemma outcome_executeReplan (s : ReplanState) (params : ReplanParams) :
    Outcome s params (executeReplan s params).1 (executeReplan s params).2 := by
  rw [executeReplan]
  split_ifs with hbudget
  · exact .refused rfl
  · rw [Bool.not_eq_true] at hbudget
    dsimp only
    split
    · exact .stopped hbudget
    · next planResult plans hcreate => exact .replaced hbudget rfl hcreate

end Outcome

/-! ### Runs -/

/-- The plans of a mission are those that its replannings leave, and these are within its budget. -/
structure Kept (plans : Plans) (runId : String) (mission : Mission) : Prop where
  places : (plansOf plans runId).map place = lineage mission.reasons mission.stopped
  counted : mission.reasons.length ≤ mission.budgetTracker.usage.replans
  allowed : mission.reasons = [] ∨
    (mission.reasons.length : ℚ) ≤ mission.budgetTracker.config.maxReplans

/-- The invariant: it is kept of every mission, and a run without a mission has no plans. -/
structure Consistent (s : State) : Prop where
  kept : ∀ runId mission, s.missions runId = some mission → Kept s.plans runId mission
  unknown : ∀ runId, s.missions runId = none → plansOf s.plans runId = []

variable {s t : State} {mission : Mission} {action : Action}

lemma consistent_initial : Consistent State.initial :=
  ⟨fun _ _ h => (nomatch h), fun _ _ => rfl⟩

lemma missions_setMission {other : String} :
    (s.setMission runId mission).missions other =
      if other = runId then some mission else s.missions other :=
  Function.update_apply ..

/-- What one mission does to its own plans leaves the others consistent. -/
lemma Consistent.setMission (hc : Consistent s) (hkept : Kept plans' runId mission)
    (hothers : ∀ other, other ≠ runId → plansOf plans' other = plansOf s.plans other) :
    Consistent ({ s with plans := plans' }.setMission runId mission) where
  kept other mission' h := by
    rw [missions_setMission] at h
    split_ifs at h with hrun
    · cases h
      exact hrun ▸ hkept
    · obtain ⟨hlineage, hcounted, hallowed⟩ := hc.kept other mission' h
      refine ⟨?_, hcounted, hallowed⟩
      rw [← hlineage]
      exact congrArg _ (hothers other hrun)
  unknown other h := by
    rw [missions_setMission] at h
    split_ifs at h with hrun
    exact (hothers other hrun).trans (hc.unknown other h)

lemma kept_start {params : PlanParams} {config : AgentBudgetConfig} {result : PlanGenerationResult}
    (hnone : plansOf plans params.runId = []) (hversion : params.planVersion ≤ 1)
    (hcreate : AgentPlanner.createPlan plans params = some (result, plans')) :
    Kept plans' params.runId ⟨.new, .new config params.now, [], false⟩ := by
  refine ⟨?_, le_rfl, .inl rfl⟩
  have hone : (AgentPlanner.planRecord params).stored.planVersion = 1 := by
    show (if params.planVersion = 0 then 1 else params.planVersion) = 1
    split_ifs with hzero
    · rfl
    · omega
  rw [plansOf_createPlan hcreate, hnone, if_pos rfl, List.nil_append, List.map_singleton, place, hone]
  rfl

lemma Kept.use (hkept : Kept plans runId mission) (use : Use) :
    Kept plans runId (mission.use use) := by
  cases use <;> exact ⟨hkept.places, hkept.counted, hkept.allowed⟩

lemma replan_of_refused {result : ReplanResult} {after : AgentReplanEngine.ReplanState}
    (h : result.replanned = false) :
    mission.replan reason (some result) after =
      ⟨after.stateMachine, after.budgetTracker, mission.reasons, false⟩ := by
  simp [Mission.replan, h]

lemma replan_of_replaced {result : ReplanResult} {after : AgentReplanEngine.ReplanState}
    (h : result.replanned = true) :
    mission.replan reason (some result) after =
      ⟨after.stateMachine, after.budgetTracker, mission.reasons ++ [reason], false⟩ := by
  simp [Mission.replan, h]

/-- A replanning of a mission that goes on adds a version, or none if the budget refuses it. -/
lemma Kept.replan {params : AgentReplanEngine.ReplanParams} {result : Option ReplanResult}
    {after : AgentReplanEngine.ReplanState} (hkept : Kept plans params.runId mission)
    (hgoes : mission.stopped = false)
    (hout : Outcome ⟨mission.stateMachine, mission.budgetTracker, plans⟩ params result after) :
    Kept after.plans params.runId (mission.replan params.invalidationReason result after) := by
  obtain ⟨hlineage, hcounted, hallowed⟩ := hkept
  rw [hgoes] at hlineage
  obtain ⟨before, last, hplans, hbefore, hlast⟩ := exists_active hlineage
  have hactive : getActivePlanByRunId plans params.runId = some last := by
    rw [getActivePlanByRunId_of_lineage hlineage, hplans, if_neg Bool.false_ne_true,
      List.getLast?_concat]
  have hinvalidated : plansOf (AgentReplanEngine.invalidateActive plans params.runId
      params.invalidationReason) params.runId =
        before ++ [setPlanStatus .invalidated (some params.invalidationReason) last] :=
    plansOf_invalidateActive hplans hactive
  have hplaces : (before ++ [setPlanStatus .invalidated (some params.invalidationReason) last]).map
      place = invalidated (mission.reasons ++ [params.invalidationReason]) := by
    have hversion : last.planVersion = mission.reasons.length + 1 := congrArg Prod.fst hlast
    rw [List.map_append, hbefore, invalidated_concat, List.map_singleton, ← hversion]
    rfl
  have hlength : (mission.reasons ++ [params.invalidationReason]).length =
      mission.reasons.length + 1 := List.length_append
  -- the budget has counted this replanning and all before it
  have hwithin : (mission.budgetTracker.recordReplan.checkBudgets params.now).exceeded = false →
      ((mission.reasons ++ [params.invalidationReason]).length : ℚ) ≤
        mission.budgetTracker.config.maxReplans := by
    intro hbudget
    have hreplans : ((mission.budgetTracker.usage.replans + 1 : ℕ) : ℚ) ≤
        mission.budgetTracker.config.maxReplans :=
      (MissionBudgetTracker.exceeded_checkBudgets.mp hbudget).replans
    refine le_trans ?_ hreplans
    rw [hlength]
    exact_mod_cast Nat.succ_le_succ hcounted
  cases hout with
  | refused hrefused =>
    rw [replan_of_refused hrefused]
    exact ⟨hlineage, Nat.le_succ_of_le hcounted, hallowed⟩
  | @replaced result _ planResult plans' hbudget hreplaced hcreate =>
    rw [replan_of_replaced hreplaced]
    refine ⟨?_, hlength.trans_le (Nat.succ_le_succ hcounted), .inr (hwithin hbudget)⟩
    rw [hactive] at hcreate
    have hversion : last.planVersion = mission.reasons.length + 1 := congrArg Prod.fst hlast
    have hnew : place (AgentPlanner.planRecord
        (AgentReplanEngine.newPlanParams params (some last))).stored =
          (mission.reasons.length + 1 + 1, .active, none) := by
      simp [place, AgentPlanRecord.stored, AgentPlanner.planRecord,
        AgentReplanEngine.newPlanParams, hversion]
    have hrun : (AgentReplanEngine.newPlanParams params (some last)).runId = params.runId := rfl
    rw [plansOf_createPlan hcreate, if_pos hrun, hinvalidated, List.map_append, hplaces,
      List.map_singleton, hnew, lineage, hlength, if_neg Bool.false_ne_true]
  | stopped hbudget =>
    refine ⟨?_, hlength.trans_le (Nat.succ_le_succ hcounted), .inr (hwithin hbudget)⟩
    rw [hinvalidated, hplaces]
    exact (List.append_nil _).symm

lemma plansOf_of_outcome {before after : AgentReplanEngine.ReplanState}
    {params : AgentReplanEngine.ReplanParams} {result : Option ReplanResult} {other : String}
    (hout : Outcome before params result after) (hne : other ≠ params.runId) :
    plansOf after.plans other = plansOf before.plans other := by
  cases hout with
  | refused                  => rfl
  | replaced _ _ hcreate     =>
    rw [plansOf_createPlan hcreate, if_neg fun h => hne h.symm, List.append_nil,
      plansOf_invalidateActive_of_ne hne]
  | stopped                  => exact plansOf_invalidateActive_of_ne hne

lemma consistent_step (hc : Consistent s) (hstep : step s action = some t) : Consistent t := by
  cases action with
  | start params config =>
    rw [step] at hstep
    split_ifs at hstep with hnew
    obtain ⟨hnone, hversion⟩ := hnew
    obtain ⟨⟨result, plans⟩, hcreate, rfl⟩ := Option.map_eq_some_iff.mp hstep
    have hplans := hc.unknown _ (Option.isNone_iff_eq_none.mp hnone)
    refine hc.setMission (kept_start hplans hversion hcreate) fun other hne => ?_
    rw [plansOf_createPlan hcreate, if_neg fun h => hne h.symm, List.append_nil]
  | use runId use =>
    obtain ⟨mission, hmission, rfl⟩ := Option.map_eq_some_iff.mp hstep
    obtain ⟨hmission, -⟩ := Option.filter_eq_some_iff.mp hmission
    exact hc.setMission ((hc.kept _ _ hmission).use use) fun _ _ => rfl
  | replan params =>
    obtain ⟨mission, hmission, rfl⟩ := Option.map_eq_some_iff.mp hstep
    obtain ⟨hmission, hgoes⟩ := Option.filter_eq_some_iff.mp hmission
    have hout := outcome_executeReplan ⟨mission.stateMachine, mission.budgetTracker, s.plans⟩ params
    exact hc.setMission ((hc.kept _ _ hmission).replan (by simpa using hgoes) hout)
      fun other hne => plansOf_of_outcome hout hne

/-- However missions take turns, the plans of each are, in the order of their versions, the ones that its
replannings have invalidated for their reasons and then, unless its new plan could not be stored, the
active one; and it has replanned no more often than its budget allows. -/
theorem lineage_of_run {actions : List Action} (h : Run step State.initial actions s)
    (hmission : s.missions runId = some mission) :
    (getAgentPlansByRunId s.plans runId).map place = lineage mission.reasons mission.stopped ∧
      getActivePlanByRunId s.plans runId =
        (if mission.stopped then none else (getAgentPlansByRunId s.plans runId).getLast?) ∧
      (mission.reasons = [] ∨
        (mission.reasons.length : ℚ) ≤ mission.budgetTracker.config.maxReplans) := by
  have hc : Consistent s := h.invariant (fun s a t => consistent_step) consistent_initial
  obtain ⟨hlineage, -, hallowed⟩ := hc.kept runId mission hmission
  rw [getAgentPlansByRunId_of_lineage hlineage]
  exact ⟨hlineage, getActivePlanByRunId_of_lineage hlineage, hallowed⟩

/-- Two missions, the first of which replans twice while the other one works. -/
def twoMissions : List Action :=
  let first := AgentReplanEngine.samplePlan
  let replan := fun reason newPlanId => Action.replan
    { runId := "run_1", opportunity := first.opportunity, currentGatewayHealth := none,
      currentCapacityAvailable := none, invalidationReason := reason, newPlanId, now := 1000 }
  [.start first DEFAULT_AGENT_BUDGET,
    .start { first with runId := "run_2", planId := "plan_2" } DEFAULT_AGENT_BUDGET,
    replan "gateway" "plan_3", .use "run_2" .toolCall, replan "" "plan_4"]

/-- The first one has two invalidated versions, one without a reason to show, and its third is active. -/
theorem lineage_replanned_twice : ∃ (s : State) (mission : Mission), s.missions "run_1" = some mission ∧
    (getAgentPlansByRunId s.plans "run_1").map place =
      [(1, .invalidated, some "gateway"), (2, .invalidated, none), (3, .active, none)] := by
  obtain ⟨s, hrun, hmission⟩ := exists_run_of_execute step State.initial twoMissions
    (fun s => (s.missions "run_1").any fun mission =>
      mission.reasons = ["gateway", ""] && !mission.stopped) (by decide +kernel)
  obtain ⟨mission, hsome, hplaces⟩ := (Option.any_eq_true _ _).mp hmission
  rw [Bool.and_eq_true, decide_eq_true_eq, Bool.not_eq_true'] at hplaces
  obtain ⟨hplans, -⟩ := lineage_of_run hrun hsome
  rw [hplaces.1, hplaces.2] at hplans
  exact ⟨s, mission, hsome, hplans⟩

end PlanLineage

end CtrlRecovery
