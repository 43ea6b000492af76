import CtrlRecovery.Agents.MemoryStore
import CtrlRecovery.Agents.StateMachine
import CtrlRecovery.Core.Run

/-!
# Stale missions

`MissionLifecycleMonitor.sweepStaleMissions` aborts the running missions that have been inactive for
longer than a threshold and do not wait. It takes the last activity of a run from the step with the
highest number, and it takes a run to wait when a working memory of it contains `wake`. The waiting
engine numbers its own steps 99 and 100, and what it remembers contains `wake` only where the reason
that it is given does.

Both signs can fail in either direction. For which histories every sweep is right is
`sweeps_exactly_iff`.
-/

namespace CtrlRecovery

open Core

namespace LifecycleMonitor

inductive AgentRunStatus
  | running
  | completed
  | aborted
  | humanReview
  deriving DecidableEq, Repr

/-- A row of `agent_runs`, as far as the monitor looks at it. -/
structure AgentRunRecord where
  id : String
  missionId : String
  status : AgentRunStatus
  createdAt : Timestamp
  endTime : Option Timestamp
  terminationReason : Option String
  deriving DecidableEq, Repr

/-- A row of `agent_steps`. -/
structure AgentStepRecord where
  runId : String
  stepNumber : ℤ
  timestamp : Timestamp
  deriving DecidableEq, Repr

/-- A working memory in `agent_memories`. -/
structure WorkingMemory where
  runId : String
  contextSummary : String
  deriving DecidableEq, Repr

inductive WakeConditionType
  | timer
  | gatewayHealth
  | providerWebhook
  | statusChange
  deriving DecidableEq, Repr

def WakeConditionType.text : WakeConditionType → String
  | .timer           => "TIMER"
  | .gatewayHealth   => "GATEWAY_HEALTH"
  | .providerWebhook => "PROVIDER_WEBHOOK"
  | .statusChange    => "STATUS_CHANGE"

/-- The tables and the clock. `waiting` says which runs have entered a wait that no wake has ended
yet. -/
structure LifecycleState where
  runs : Table AgentRunRecord.id
  steps : List AgentStepRecord
  memories : List WorkingMemory
  now : Timestamp
  waiting : String → Bool

/-- What happens to the runs; the machine that an action is given is in some state. -/
inductive LifecycleAction
  | startRun (runId missionId : String)
  | finishRun (runId : String) (status : AgentRunStatus) (reason : String)
  | logStep (runId : String) (stepNumber : ℤ)
  | addWorkingMemory (runId summary : String)
  | enterWait (runId : String) (machine : AgentStateMachine) (condition : WakeConditionType)
      (reason : String)
  | triggerWake (runId : String) (machine : AgentStateMachine) (wakeReason : String)
  | sweepStaleMissions (inactivityThresholdMs : Option ℚ)
  | pass (ms : ℕ)
  deriving DecidableEq

namespace LifecycleState

def empty : LifecycleState where
  runs := .empty
  steps := []
  memories := []
  now := 0
  waiting := fun _ => false

def insertAgentRun (s : LifecycleState) (runId missionId : String) : LifecycleState :=
  { s with runs := s.runs.put ⟨runId, missionId, .running, s.now, none, none⟩ }

/-- A run that a step or a state refers to is added when it is missing. -/
def ensureAgentRun (s : LifecycleState) (runId : String) : LifecycleState :=
  if (s.runs.find? runId).isSome then s else s.insertAgentRun runId ("miss_" ++ runId)

def logStep (s : LifecycleState) (runId : String) (stepNumber : ℤ) : LifecycleState :=
  let t := s.ensureAgentRun runId
  { t with steps := t.steps ++ [⟨runId, stepNumber, t.now⟩] }

def addWorkingMemory (s : LifecycleState) (runId summary : String) : LifecycleState :=
  { s with memories := s.memories ++ [⟨runId, summary⟩] }

/-- A machine that may not wait leaves everything as it is. -/
def enterWait (s : LifecycleState) (runId : String) (machine : AgentStateMachine)
    (condition : WakeConditionType) (reason : String) : LifecycleState :=
  if machine.canTransitionTo .wait then
    let summary := "Entered WAIT state: " ++ reason ++ " (Condition: " ++ condition.text ++ ")"
    { ((s.ensureAgentRun runId).addWorkingMemory runId summary).logStep runId 99 with
      waiting := Function.update s.waiting runId true }
  else s

/-- The wake is recorded whether or not the machine may wake. -/
def triggerWake (s : LifecycleState) (runId : String) (machine : AgentStateMachine)
    (wakeReason : String) : LifecycleState :=
  let t := if machine.canTransitionTo .wake then s.ensureAgentRun runId else s
  { (t.addWorkingMemory runId ("Agent WOKE UP: " ++ wakeReason)).logStep runId 100 with
    waiting := Function.update s.waiting runId false }

def finishRun (s : LifecycleState) (runId : String) (status : AgentRunStatus) (reason : String) :
    LifecycleState :=
  { s with
    runs := s.runs.update runId
      (fun run =>
        { run with status := status, endTime := some s.now, terminationReason := some reason })
      fun _ => rfl }

/-! ### The sweep -/

/-- A working memory of the run `LIKE '%wake%'`. -/
def activeWaitMemory (s : LifecycleState) (runId : String) : Option WorkingMemory :=
  s.memories.find? fun memory => memory.runId = runId &&
    Like.like (ApiKeyService.likeDialect .sqlite) "%wake%".toList memory.contextSummary.toList

def stepsOf (s : LifecycleState) (runId : String) : List AgentStepRecord :=
  s.steps.filter fun step => step.runId = runId

/-- `ORDER BY step_number DESC LIMIT 1`. -/
def latestStep (s : LifecycleState) (runId : String) : Option AgentStepRecord :=
  (rank AgentStepRecord.stepNumber (s.stepsOf runId)).head?

def lastActivityTime (s : LifecycleState) (run : AgentRunRecord) : Timestamp :=
  (s.latestStep run.id).elim run.createdAt AgentStepRecord.timestamp

def inactivityMs (s : LifecycleState) (run : AgentRunRecord) : ℤ := s.now - s.lastActivityTime run

/-- The decision of the sweep about a running mission. -/
def isAborted (s : LifecycleState) (thresholdMs : ℚ) (run : AgentRunRecord) : Bool :=
  (s.activeWaitMemory run.id).isNone && thresholdMs < s.inactivityMs run

end LifecycleState

inductive SweepAction
  | retainedActive
  | abortedStale
  deriving DecidableEq, Repr

structure SweepDetail where
  runId : String
  missionId : String
  actionTaken : SweepAction
  inactivityMs : ℤ
  deriving DecidableEq, Repr

structure MissionLifecycleSweepResult where
  totalInspected : ℕ
  activeRetainedCount : ℕ
  staleAbortedCount : ℕ
  details : List SweepDetail
  deriving DecidableEq, Repr

def AgentRunRecord.abort (run : AgentRunRecord) (now : Timestamp) : AgentRunRecord :=
  { run with
    status := .aborted
    endTime := some now
    terminationReason :=
      some "stale_orphan_cleanup: inactivity exceeded threshold without active wake condition" }

namespace LifecycleState

def runningRuns (s : LifecycleState) : List AgentRunRecord :=
  s.runs.rows.filter fun run => run.status = .running

def sweepResult (s : LifecycleState) (thresholdMs : ℚ) : MissionLifecycleSweepResult where
  totalInspected := s.runningRuns.length
  activeRetainedCount := s.runningRuns.countP fun run => !s.isAborted thresholdMs run
  staleAbortedCount := s.runningRuns.countP (s.isAborted thresholdMs)
  details := s.runningRuns.map fun run =>
    { runId := run.id
      missionId := run.missionId
      actionTaken := if s.isAborted thresholdMs run then .abortedStale else .retainedActive
      inactivityMs := s.inactivityMs run }

/-- What the sweep reads of a run is not changed by what it does to the others. -/
def sweepStaleMissions (s : LifecycleState) (inactivityThresholdMs : Option ℚ) : LifecycleState :=
  let thresholdMs := inactivityThresholdMs.getD (5 * 60 * 1000)
  { s with
    runs := s.runs.updateWhere
      (fun run => run.status = .running && s.isAborted thresholdMs run) (·.abort s.now)
      fun _ => rfl }

lemma sweepResult_counts (s : LifecycleState) (thresholdMs : ℚ) :
    let result := s.sweepResult thresholdMs
    result.activeRetainedCount + result.staleAbortedCount = result.totalInspected := by
  simp only [sweepResult]
  rw [List.length_eq_countP_add_countP (s.isAborted thresholdMs), add_comm]
  simp

end LifecycleState

/-- The id of a run that is written for the first time is not in use, and no id is empty. -/
def lifecycleStep (s : LifecycleState) : LifecycleAction → Option LifecycleState
  | .startRun runId missionId                    =>
    if (s.runs.find? runId).isSome then none else some (s.insertAgentRun runId missionId)
  | .finishRun runId status reason               => some (s.finishRun runId status reason)
  | .logStep runId stepNumber                    =>
    if runId = "" then none else some (s.logStep runId stepNumber)
  | .addWorkingMemory runId summary              => some (s.addWorkingMemory runId summary)
  | .enterWait runId machine condition reason    =>
    if runId = "" then none else some (s.enterWait runId machine condition reason)
  | .triggerWake runId machine wakeReason        =>
    if runId = "" then none else some (s.triggerWake runId machine wakeReason)
  | .sweepStaleMissions inactivityThresholdMs    =>
    some (s.sweepStaleMissions inactivityThresholdMs)
  | .pass ms                                     => some { s with now := s.now + ms }

/-! ### Which missions are stale -/

namespace LifecycleState

/-- The time of the most recent step, or of the creation of a run without steps. -/
def lastLogged (s : LifecycleState) (run : AgentRunRecord) : Timestamp :=
  (s.stepsOf run.id).getLast?.elim run.createdAt AgentStepRecord.timestamp

def isInactive (s : LifecycleState) (thresholdMs : ℚ) (run : AgentRunRecord) : Bool :=
  thresholdMs < ((s.now - s.lastLogged run : ℤ) : ℚ)

/-- A running mission that does not wait and has been inactive for longer than the threshold. -/
def isStale (s : LifecycleState) (thresholdMs : ℚ) (run : AgentRunRecord) : Bool :=
  run.status = .running && !s.waiting run.id && s.isInactive thresholdMs run

/-- A memory of the run contains `wake`, or its step with the highest number is recent. -/
def looksAlive (s : LifecycleState) (thresholdMs : ℚ) (run : AgentRunRecord) : Bool :=
  (s.activeWaitMemory run.id).isSome || s.inactivityMs run ≤ thresholdMs

end LifecycleState

/-- A sweep aborts exactly the stale missions. -/
def SweepsExactly (s : LifecycleState) : LifecycleAction → Prop
  | .sweepStaleMissions inactivityThresholdMs =>
    (s.sweepStaleMissions inactivityThresholdMs).runs.rows =
      s.runs.rows.map fun run =>
        if s.isStale (inactivityThresholdMs.getD (5 * 60 * 1000)) run then run.abort s.now else run
  | _                                         => True

/-- At a sweep, a running mission that waits or is active looks alive, and one that is neither has
no memory that contains `wake`. -/
def SignsAgree (s : LifecycleState) : LifecycleAction → Prop
  | .sweepStaleMissions inactivityThresholdMs =>
    ∀ run ∈ s.runningRuns,
      if s.waiting run.id ∨ ¬ s.isInactive (inactivityThresholdMs.getD (5 * 60 * 1000)) run then
        s.looksAlive (inactivityThresholdMs.getD (5 * 60 * 1000)) run
      else s.activeWaitMemory run.id = none
  | _                                         => True

/-- The steps are in the order of their times, none of which lies ahead. -/
structure Timely (s : LifecycleState) : Prop where
  ordered : s.steps.Pairwise fun a b => a.timestamp ≤ b.timestamp
  past : ∀ step ∈ s.steps, step.timestamp ≤ s.now

section Sweeps

variable {s t : LifecycleState} {run : AgentRunRecord} {thresholdMs : ℚ} {runId : String}
  {action : LifecycleAction}

/-- The step with the highest number is not more recent than the last one. -/
lemma lastActivityTime_le (h : Timely s) : s.lastActivityTime run ≤ s.lastLogged run := by
  rw [LifecycleState.lastActivityTime, LifecycleState.lastLogged, LifecycleState.latestStep]
  cases hlatest : (rank AgentStepRecord.stepNumber (s.stepsOf run.id)).head? with
  | none =>
    have hnil : s.stepsOf run.id = [] := by
      rw [List.head?_eq_none_iff] at hlatest
      have hperm := rank_perm AgentStepRecord.stepNumber (s.stepsOf run.id)
      rw [hlatest] at hperm
      exact hperm.nil_eq.symm
    simp [hnil]
  | some step =>
    have hstep : step ∈ s.stepsOf run.id := mem_rank.mp (List.mem_of_head? hlatest)
    obtain ⟨front, last, hlast⟩ := List.eq_nil_or_concat' (s.stepsOf run.id) |>.resolve_left
      (List.ne_nil_of_mem hstep)
    have hsorted : (s.stepsOf run.id).Pairwise fun a b => a.timestamp ≤ b.timestamp :=
      h.ordered.filter _
    rw [hlast] at hstep hsorted ⊢
    simp only [List.getLast?_append, List.getLast?_singleton, Option.some_or, Option.elim_some]
    obtain hfront | hself := List.mem_append.mp hstep
    · exact (List.pairwise_append.mp hsorted).2.2 step hfront last List.mem_cons_self
    · rw [List.mem_singleton.mp hself]

lemma lt_inactivityMs (h : Timely s) (hinactive : s.isInactive thresholdMs run) :
    thresholdMs < s.inactivityMs run := by
  have hle : (s.lastActivityTime run : ℤ) ≤ s.lastLogged run := by
    exact_mod_cast lastActivityTime_le h
  have hlt : thresholdMs < ((s.now - s.lastLogged run : ℤ) : ℚ) := of_decide_eq_true hinactive
  refine hlt.trans_le ?_
  rw [LifecycleState.inactivityMs, Int.cast_le]
  exact Int.sub_le_sub_left hle _

/-- The decision about a running mission is right exactly when its signs agree with what it is. -/
lemma isAborted_eq_iff (h : Timely s) :
    s.isAborted thresholdMs run = (!s.waiting run.id && s.isInactive thresholdMs run) ↔
      if s.waiting run.id ∨ ¬ s.isInactive thresholdMs run then
        (s.looksAlive thresholdMs run : Prop)
      else s.activeWaitMemory run.id = none := by
  have hnot : s.isAborted thresholdMs run = !s.looksAlive thresholdMs run := by
    simp [LifecycleState.isAborted, LifecycleState.looksAlive, ← not_lt]
  split_ifs with hlive
  · have hfalse : (!s.waiting run.id && s.isInactive thresholdMs run) = false := by
      rw [Bool.and_eq_false_iff, Bool.not_eq_false']
      exact hlive.imp_right Bool.eq_false_iff.mpr
    rw [hfalse, hnot, Bool.not_eq_false']
  · obtain ⟨hwaiting, hinactive⟩ := not_or.mp hlive
    rw [not_not] at hinactive
    simp [LifecycleState.isAborted, hwaiting, hinactive, lt_inactivityMs h hinactive]

lemma abort_ne (hrunning : run.status = .running) (now : Timestamp) : run.abort now ≠ run := by
  intro h
  rw [← h] at hrunning
  cases hrunning

lemma sweepsExactly_iff (h : Timely s) : SweepsExactly s action ↔ SignsAgree s action := by
  cases action with
  | sweepStaleMissions inactivityThresholdMs =>
    simp only [SweepsExactly, SignsAgree, LifecycleState.sweepStaleMissions, Table.updateWhere]
    rw [List.map_inj_left, LifecycleState.runningRuns, List.forall_mem_filter]
    refine forall₂_congr fun run _ => ?_
    by_cases hrunning : run.status = .running
    · rw [← isAborted_eq_iff h]
      simp only [hrunning, decide_true, Bool.true_and, LifecycleState.isStale, forall_const]
      constructor
      · intro heq
        by_contra hne
        split_ifs at heq with haborted hstale hstale
        · exact hne (haborted.trans hstale.symm)
        · exact abort_ne hrunning s.now heq
        · exact abort_ne hrunning s.now heq.symm
        · exact hne ((Bool.eq_false_iff.mpr haborted).trans (Bool.eq_false_iff.mpr hstale).symm)
      · intro heq
        rw [heq]
    · simp [LifecycleState.isStale, hrunning]
  | _ => exact Iff.rfl

/-! ### Time passes -/

@[simp] lemma steps_ensureAgentRun : (s.ensureAgentRun runId).steps = s.steps := by
  rw [LifecycleState.ensureAgentRun]
  split_ifs <;> rfl

@[simp] lemma now_ensureAgentRun : (s.ensureAgentRun runId).now = s.now := by
  rw [LifecycleState.ensureAgentRun]
  split_ifs <;> rfl

lemma Timely.of_steps_eq (h : Timely s) (hsteps : t.steps = s.steps) (hnow : s.now ≤ t.now) :
    Timely t where
  ordered := hsteps ▸ h.ordered
  past := fun step hstep => (h.past step (hsteps ▸ hstep)).trans hnow

lemma Timely.ensureAgentRun (h : Timely s) : Timely (s.ensureAgentRun runId) :=
  h.of_steps_eq steps_ensureAgentRun now_ensureAgentRun.ge

lemma Timely.addWorkingMemory (h : Timely s) {summary : String} :
    Timely (s.addWorkingMemory runId summary) :=
  h.of_steps_eq rfl le_rfl

lemma Timely.logStep (h : Timely s) {stepNumber : ℤ} : Timely (s.logStep runId stepNumber) where
  ordered := by
    simp only [LifecycleState.logStep, steps_ensureAgentRun, now_ensureAgentRun]
    rw [List.pairwise_append]
    refine ⟨h.ordered, List.pairwise_singleton .., fun step hstep last hlast => ?_⟩
    rw [List.mem_singleton.mp hlast]
    exact h.past step hstep
  past := fun step hstep => by
    simp only [LifecycleState.logStep, steps_ensureAgentRun, now_ensureAgentRun, List.mem_append,
      List.mem_singleton] at hstep ⊢
    obtain hstep | rfl := hstep
    · exact h.past step hstep
    · exact le_rfl

lemma timely_of_step (h : Timely s) (hstep : lifecycleStep s action = some t) : Timely t := by
  cases action with
  | startRun runId missionId =>
    obtain ⟨-, ⟨⟩⟩ := Option.ite_none_left_eq_some.mp hstep
    exact h.of_steps_eq rfl le_rfl
  | finishRun runId status reason =>
    obtain rfl : s.finishRun runId status reason = t := Option.some.inj hstep
    exact h.of_steps_eq rfl le_rfl
  | logStep runId stepNumber =>
    obtain ⟨-, ⟨⟩⟩ := Option.ite_none_left_eq_some.mp hstep
    exact h.logStep
  | addWorkingMemory runId summary =>
    obtain rfl : s.addWorkingMemory runId summary = t := Option.some.inj hstep
    exact h.addWorkingMemory
  | enterWait runId machine condition reason =>
    obtain ⟨-, ⟨⟩⟩ := Option.ite_none_left_eq_some.mp hstep
    rw [LifecycleState.enterWait]
    split_ifs
    · exact h.ensureAgentRun.addWorkingMemory.logStep.of_steps_eq rfl le_rfl
    · exact h
  | triggerWake runId machine wakeReason =>
    obtain ⟨-, ⟨⟩⟩ := Option.ite_none_left_eq_some.mp hstep
    have hentered :
        Timely (if machine.canTransitionTo .wake then s.ensureAgentRun runId else s) := by
      split_ifs
      · exact h.ensureAgentRun
      · exact h
    exact hentered.addWorkingMemory.logStep.of_steps_eq rfl le_rfl
  | sweepStaleMissions inactivityThresholdMs =>
    obtain rfl : s.sweepStaleMissions inactivityThresholdMs = t := Option.some.inj hstep
    exact h.of_steps_eq rfl le_rfl
  | pass ms =>
    obtain rfl : { s with now := s.now + ms } = t := Option.some.inj hstep
    exact h.of_steps_eq rfl (Nat.le_add_right ..)

end Sweeps

/-! ### Whole histories -/

/-- Every sweep of a history aborts exactly the stale missions if and only if at each of them the
signs that it goes by agree with what the running missions are. -/
theorem sweeps_exactly_iff (actions : List LifecycleAction) :
    AllSteps lifecycleStep (fun s action _ => SweepsExactly s action) .empty actions ↔
      AllSteps lifecycleStep (fun s action _ => SignsAgree s action) .empty actions :=
  allSteps_iff_of_invariant (fun _ _ _ h hstep => timely_of_step h hstep)
    (fun _ _ _ h _ => sweepsExactly_iff h)
    ⟨List.Pairwise.nil, fun _ hstep => absurd hstep List.not_mem_nil⟩

/-- A mission waits for a timer, and ten minutes pass. -/
def waitingHistory : List LifecycleAction :=
  [.startRun "run_1" "miss_1", .enterWait "run_1" ⟨.execute, []⟩ .timer "gateway cooldown",
    .pass 600000]

/-- The reason of the wait does not contain `wake`: a sweep aborts the mission that waits. -/
theorem sweep_aborts_waiting_mission :
    ¬ ∀ actions,
      AllSteps lifecycleStep (fun s action _ => SweepsExactly s action) .empty actions := by
  intro h
  obtain ⟨s, hrun, hs⟩ := exists_run_of_execute lifecycleStep .empty waitingHistory
    (fun s => (s.sweepStaleMissions none).runs.rows ≠
      s.runs.rows.map fun run => if s.isStale (5 * 60 * 1000) run then run.abort s.now else run)
    (by decide +kernel)
  have hsweep : SweepsExactly s (.sweepStaleMissions none) :=
    (h (waitingHistory ++ [.sweepStaleMissions none])).at_step hrun rfl
  exact of_decide_eq_true hs hsweep

end LifecycleMonitor

end CtrlRecovery
