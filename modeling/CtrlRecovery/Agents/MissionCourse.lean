import CtrlRecovery.Agents.LifecycleMonitor
import CtrlRecovery.Core.StraightLine

/-!
# The course of a mission

`AgentLoop.run` and `AgentOrchestrator.executeRecoveryMission` open a run record and then go through
one step after the other. Given the answers of what they call, the steps of a mission are a list:
requests to the state machine, calls, of which a few stand in a `try`, and the update that closes
the run record. Any step may throw; what is thrown outside a `try` ends the mission.

The record of a mission is closed exactly when nothing is thrown outside a `try`
(`record_closed_iff`). In a completed run of the loop the machine stays in `PLAN` from the request
for the authority on (`completed_loop_stays_in_plan`). The orchestrator follows the graph of states
exactly when it dispatches (`orchestrator_follows_graph_iff`).
-/

namespace CtrlRecovery

open Core LifecycleMonitor AgentState

namespace MissionCourse

/-- The calls of a mission, other than those to the state machine, to the executor and for the
update of its run record. -/
inductive MissionCall
  | isKillSwitchActive | getCustomerById | getScoreByOpportunityId | queryEpisodicMemories
  | analyzeOpportunity | buildContext | generateAgentIntent | reason | executeTool | createPlan
  | scoreWithSemanticBridge | upsertScore | runMarketAllocation | upsertAllocationDecision
  | evaluateOpportunity | draftCustomerCommunication | updateOpportunityStatus | evaluateOutcome
  | recordEpisode
  deriving DecidableEq, Repr

inductive MissionOp
  | transition (nextState : AgentState)
  | call (call : MissionCall)
  /-- A call in a `try` whose `catch` goes on. -/
  | attempt (call : MissionCall)
  | executeOpportunity
  | updateAgentRun (status : AgentRunStatus) (terminationReason : String)
  deriving DecidableEq, Repr

def MissionOp.isCaught : MissionOp → Bool
  | .attempt _ => true
  | _          => false

/-! ### The steps of the agent loop -/

/-- What the loop learns in one iteration: the kill switch, the message of an exceeded budget, and
the reasoning output. -/
structure IterationAnswers where
  killSwitch : Bool
  budgetMessage : Option String
  toolChoice : Option String
  shouldContinue : Bool
  deriving DecidableEq, Repr

/-- What a mission learns from the market, the gate and the executor; `linked` tells whether the
executor has given it a payment link. -/
structure Decisions where
  decision : DecisionType
  verdict : AuthorityVerdict
  linked : Bool
  deriving DecidableEq, Repr

structure LoopAnswers where
  killSwitch : Bool
  iteration : ℕ → IterationAnswers
  decisions : Decisions

def Decisions.dispatches (d : Decisions) : Bool := d.verdict = .authorized && d.decision = .act

def maxIterations : ℕ := 3

/-- `abort` and `budgetExceeded`. -/
def abort (reason : String) : List MissionOp :=
  [.transition aborted, .updateAgentRun .aborted reason]

/-- What is authorized with an `ACT` decision goes to the executor, and a draft to the customer when
there is a payment link. -/
def dispatch (d : Decisions) (draft : MissionOp) : List MissionOp :=
  if d.dispatches then
    .transition execute :: .executeOpportunity :: if d.linked then [draft] else []
  else [.call .updateOpportunityStatus]

/-- The phases after the reasoning loop, until the run record is finalized. -/
def decisionPhases (d : Decisions) : List MissionOp :=
  [.transition hypothesize, .call .scoreWithSemanticBridge, .call .upsertScore,
    .transition plan, .call .runMarketAllocation, .call .upsertAllocationDecision,
    .transition waitAuthority, .call .evaluateOpportunity] ++
  dispatch d (.attempt .draftCustomerCommunication) ++
  [.transition observeOutcome, .call .evaluateOutcome, .transition learn, .call .recordEpisode,
    .transition memoryUpdate, .transition complete]

def finish (d : Decisions) (iterationCount : ℕ) : List MissionOp :=
  decisionPhases d ++
    [.updateAgentRun .completed
      ("Agent loop completed after " ++ toString iterationCount ++ " reasoning iterations")]

/-- A tool is called when one is chosen and the reasoning goes on. -/
def executeInvestigationTool (answers : IterationAnswers) : List MissionOp :=
  if answers.toolChoice.isSome && answers.shouldContinue then
    [.transition observe, .attempt .executeTool]
  else []

def reasoningStep (answers : IterationAnswers) : List MissionOp :=
  .transition diagnose :: .call .reason :: executeInvestigationTool answers

/-- The reasoning loop from iteration `i` on, and what comes after it. -/
def reasonFrom (answers : LoopAnswers) : ℕ → ℕ → List MissionOp
  | 0, i        => finish answers.decisions i
  | fuel + 1, i =>
    .call .isKillSwitchActive ::
      if (answers.iteration i).killSwitch then abort "Kill switch engaged during reasoning loop."
      else match (answers.iteration i).budgetMessage with
        | some message => abort ("Budget exceeded: " ++ message)
        | none         =>
          reasoningStep (answers.iteration i) ++
            if (answers.iteration i).shouldContinue then reasonFrom answers fuel (i + 1)
            else finish answers.decisions (i + 1)

def loopCourse (answers : LoopAnswers) : List MissionOp :=
  [.transition triggered, .call .isKillSwitchActive] ++
    if answers.killSwitch then abort "Global kill switch is active. Agent mission halted."
    else
      [.transition observe, .call .getCustomerById, .call .getScoreByOpportunityId,
        .attempt .analyzeOpportunity, .call .queryEpisodicMemories,
        .transition investigate] ++
      reasonFrom answers maxIterations 0

/-! ### The steps of the orchestrator -/

structure OrchestratorAnswers where
  killSwitch : Bool
  decisions : Decisions
  deriving DecidableEq, Repr

/-- The phases of a mission that the kill switch lets through, until its record is finalized. -/
def orchestratorPhases (d : Decisions) : List MissionOp :=
  [.transition observe, .call .getCustomerById, .call .getScoreByOpportunityId,
    .call .queryEpisodicMemories, .transition investigate, .call .analyzeOpportunity,
    .transition diagnose, .call .buildContext, .call .generateAgentIntent,
    .transition hypothesize, .transition plan, .call .createPlan, .transition validatePlan,
    .transition propose, .call .scoreWithSemanticBridge, .call .upsertScore,
    .transition waitAuthority, .call .runMarketAllocation, .call .upsertAllocationDecision,
    .call .evaluateOpportunity] ++
  dispatch d (.call .draftCustomerCommunication) ++
  [.transition observeOutcome, .call .evaluateOutcome, .transition learn,
    .transition memoryUpdate, .transition complete]

def orchestratorCourse (answers : OrchestratorAnswers) : List MissionOp :=
  [.transition triggered, .call .isKillSwitchActive] ++
    if answers.killSwitch then abort "Kill switch active"
    else
      orchestratorPhases answers.decisions ++
        [.updateAgentRun .completed "Mission completed normally"]

inductive MissionAnswers
  | loop (answers : LoopAnswers)
  | orchestrator (answers : OrchestratorAnswers)

def course : MissionAnswers → List MissionOp
  | .loop answers         => loopCourse answers
  | .orchestrator answers => orchestratorCourse answers

/-! ### Going through a course -/

/-- The run record of a mission, its machine with the requests that it has refused, and the states
in which the opportunity has been handed to the executor. -/
structure MissionState where
  record : AgentRunRecord
  machine : AgentStateMachine
  refused : List AgentState
  dispatchedIn : List AgentState

def MissionState.opened (runId missionId : String) (now : Timestamp) : MissionState where
  record := ⟨runId, missionId, .running, now, none, none⟩
  machine := .new
  refused := []
  dispatchedIn := []

/-- What a step does; `now` is the time at which the record is closed. -/
def effect (now : Timestamp) (s : MissionState) : MissionOp → MissionState
  | .transition nextState                     =>
    { s with
      machine := s.machine.transition nextState
      refused :=
        if s.machine.canTransitionTo nextState then s.refused else nextState :: s.refused }
  | .call _                                   => s
  | .attempt _                                => s
  | .executeOpportunity                       =>
    { s with dispatchedIn := s.machine.currentState :: s.dispatchedIn }
  | .updateAgentRun status terminationReason  =>
    { s with
      record :=
        { s.record with
          status := status
          endTime := some now
          terminationReason := some terminationReason } }

/-- The end of a mission whose record has been opened, where `throws` tells which of its steps
throw: what it leaves, and whether it has returned. -/
def runMission (throws : ℕ → Bool) (answers : MissionAnswers) (runId missionId : String)
    (start now : Timestamp) : MissionState × Bool :=
  perform (effect now) MissionOp.isCaught throws 0 (course answers) (.opened runId missionId start)

/-! ### The run record -/

/-- The record is not running, and says when and why it has ended. -/
def IsClosed (record : AgentRunRecord) : Prop :=
  record.status ≠ .running ∧ record.endTime.isSome ∧ record.terminationReason.isSome

def updatesRecord : MissionOp → Bool
  | .updateAgentRun .. => true
  | _                  => false

@[simp] lemma updatesRecord_transition (nextState : AgentState) :
    updatesRecord (.transition nextState) = false := rfl

@[simp] lemma updatesRecord_call (call : MissionCall) : updatesRecord (.call call) = false := rfl

@[simp] lemma updatesRecord_attempt (call : MissionCall) :
    updatesRecord (.attempt call) = false := rfl

@[simp] lemma updatesRecord_executeOpportunity : updatesRecord .executeOpportunity = false := rfl

/-- A course closes the record with its last step, and only with it. -/
def ClosesLast (ops : List MissionOp) : Prop :=
  ∃ body status reason, ops = body ++ [.updateAgentRun status reason] ∧ status ≠ .running ∧
    ∀ op ∈ body, updatesRecord op = false

section Records

variable {ops : List MissionOp} {status : AgentRunStatus} {reason : String}

lemma ClosesLast.append (h : ClosesLast ops) {before : List MissionOp}
    (hbefore : ∀ op ∈ before, updatesRecord op = false) : ClosesLast (before ++ ops) := by
  obtain ⟨body, status, reason, rfl, hstatus, hbody⟩ := h
  refine ⟨before ++ body, status, reason, (List.append_assoc ..).symm, hstatus, fun op hop => ?_⟩
  exact (List.mem_append.mp hop).elim (hbefore op) (hbody op)

lemma closesLast_singleton (h : status ≠ .running) : ClosesLast [.updateAgentRun status reason] :=
  ⟨[], status, reason, rfl, h, fun _ hop => absurd hop List.not_mem_nil⟩

lemma closesLast_abort : ClosesLast (abort reason) := by
  rw [abort, ← List.singleton_append]
  exact (closesLast_singleton (by simp)).append (by simp)

lemma dispatch_keep (d : Decisions) {draft : MissionOp} (h : updatesRecord draft = false) :
    ∀ op ∈ dispatch d draft, updatesRecord op = false := by
  rw [dispatch]
  split_ifs <;> simp [h]

lemma decisionPhases_keep (d : Decisions) :
    ∀ op ∈ decisionPhases d, updatesRecord op = false := by
  rw [decisionPhases, List.forall_mem_append, List.forall_mem_append]
  exact ⟨⟨by decide, dispatch_keep d rfl⟩, by decide⟩

lemma orchestratorPhases_keep (d : Decisions) :
    ∀ op ∈ orchestratorPhases d, updatesRecord op = false := by
  rw [orchestratorPhases, List.forall_mem_append, List.forall_mem_append]
  exact ⟨⟨by decide, dispatch_keep d rfl⟩, by decide⟩

lemma reasoningStep_keep (answers : IterationAnswers) :
    ∀ op ∈ reasoningStep answers, updatesRecord op = false := by
  rw [reasoningStep, executeInvestigationTool]
  split_ifs <;> simp

lemma closesLast_finish (d : Decisions) (iterationCount : ℕ) :
    ClosesLast (finish d iterationCount) :=
  (closesLast_singleton (by simp)).append (decisionPhases_keep d)

lemma closesLast_reasonFrom (answers : LoopAnswers) (fuel i : ℕ) :
    ClosesLast (reasonFrom answers fuel i) := by
  induction fuel generalizing i with
  | zero => exact closesLast_finish ..
  | succ fuel ih =>
    rw [reasonFrom, ← List.singleton_append]
    apply ClosesLast.append
    · cases (answers.iteration i).killSwitch with
      | true => exact closesLast_abort
      | false =>
        cases (answers.iteration i).budgetMessage with
        | some message => exact closesLast_abort
        | none =>
          refine ClosesLast.append ?_ fun op hop => ?_
          · cases (answers.iteration i).shouldContinue with
            | true => exact ih (i + 1)
            | false => exact closesLast_finish ..
          · exact reasoningStep_keep _ op hop
    · simp

lemma closesLast_course (answers : MissionAnswers) : ClosesLast (course answers) := by
  cases answers with
  | loop answers =>
    refine ClosesLast.append ?_ (by simp)
    split_ifs
    · exact closesLast_abort
    · exact (closesLast_reasonFrom ..).append (by simp)
  | orchestrator answers =>
    refine ClosesLast.append ?_ (by simp)
    split_ifs
    · exact closesLast_abort
    · exact (closesLast_singleton (by simp)).append (orchestratorPhases_keep _)

lemma isOpen_effect {now : Timestamp} {s : MissionState} {op : MissionOp}
    (hop : updatesRecord op = false) (h : ¬ IsClosed s.record) :
    ¬ IsClosed (effect now s op).record := by
  cases op with
  | updateAgentRun status reason => cases hop
  | _ => exact h

lemma isClosed_effect {now : Timestamp} {s : MissionState} (h : status ≠ .running) :
    IsClosed (effect now s (.updateAgentRun status reason)).record :=
  ⟨h, rfl, rfl⟩

end Records

/-- When a mission is over, its record is closed if and only if none of its steps has thrown outside
a `try`. -/
theorem record_closed_iff (throws : ℕ → Bool) (answers : MissionAnswers) (runId missionId : String)
    (start now : Timestamp) :
    IsClosed (runMission throws answers runId missionId start now).1.record ↔
      ∀ k op, (course answers)[k]? = some op → throws k → op.isCaught := by
  obtain ⟨body, status, reason, hcourse, hstatus, hbody⟩ := closesLast_course answers
  have hopen : ¬ IsClosed (runMission throws answers runId missionId start now).1.record ↔
      (runMission throws answers runId missionId start now).2 = false := by
    rw [runMission, hcourse]
    exact persists_iff_not_returned (P := fun s : MissionState => ¬ IsClosed s.record)
      (fun op hop _ => isOpen_effect (hbody op hop))
      (fun _ => not_not_intro (isClosed_effect hstatus)) fun h => h.1 rfl
  rw [not_iff_comm, Bool.not_eq_false] at hopen
  rw [← hopen, runMission, returned_iff, OnlyCaught]
  simp only [Nat.zero_add]

/-- A loop of one iteration that authorizes the opportunity and hands it to the executor. -/
def dispatchingLoop : LoopAnswers where
  killSwitch := false
  iteration := fun _ => ⟨false, none, none, false⟩
  decisions := ⟨.act, .authorized, true⟩

/-- The call of the executor is the 21st step of that loop. When it throws, the run stays open. -/
theorem failed_execution_leaves_run_open :
    (course (.loop dispatchingLoop))[20]? = some .executeOpportunity ∧
      ¬ IsClosed (runMission (fun k => k = 20) (.loop dispatchingLoop) "run_1" "miss_1" 0
        5000).1.record := by
  refine ⟨by decide +kernel, fun h => h.1 ?_⟩
  decide +kernel

/-! ### The state machine -/

/-- Every request was accepted, the opportunity was handed over in `EXECUTE` only, and the last
state that was persisted is `COMPLETE`. -/
structure FollowsGraph (s : MissionState) : Prop where
  accepted : s.refused = []
  dispatched : ∀ state ∈ s.dispatchedIn, state = AgentState.execute
  completed : s.machine.persisted.head? = some complete

/-- The machine was left in `PLAN` when the request for the authority was refused. -/
structure StaysInPlan (s : MissionState) : Prop where
  refused : waitAuthority ∈ s.refused
  dispatched : ∀ state ∈ s.dispatchedIn, state = plan
  last : s.machine.persisted.head? = some plan

section Machine

variable {s : MissionState} {now : Timestamp} {persisted : List AgentState}
  {answers : LoopAnswers}

lemma StaysInPlan.not_followsGraph (h : StaysInPlan s) : ¬ FollowsGraph s := fun hgraph => by
  have hmem := h.refused
  rw [hgraph.accepted] at hmem
  exact List.not_mem_nil hmem

/-- From `DIAGNOSE` the phases after the reasoning reach `PLAN` and are refused what comes next. -/
lemma staysInPlan_finish (hstate : s.machine.currentState = diagnose)
    (hnone : s.dispatchedIn = []) (d : Decisions) (iterationCount : ℕ) :
    StaysInPlan ((finish d iterationCount).foldl (effect now) s) := by
  obtain ⟨record, ⟨current, persisted⟩, refused, dispatchedIn⟩ := s
  obtain rfl : current = diagnose := hstate
  obtain rfl : dispatchedIn = [] := hnone
  rw [finish, decisionPhases, dispatch]
  cases d.dispatches <;> cases d.linked
  all_goals constructor
  all_goals simp [effect, AgentStateMachine.canTransitionTo, VALID_STATE_TRANSITIONS]

lemma status_abort (reason : String) :
    ((abort reason).foldl (effect now) s).record.status = .aborted := rfl

/-- An iteration of the reasoning ends in `DIAGNOSE`, where the request for a tool is refused. -/
lemma iteration_diagnoses (hnone : s.dispatchedIn = [])
    (hstate : s.machine.currentState = diagnose ∨ s.machine.currentState = investigate)
    (iteration : IterationAnswers) :
    let t := (reasoningStep iteration).foldl (effect now) s
    t.machine.currentState = diagnose ∧ t.dispatchedIn = [] := by
  obtain ⟨record, ⟨current, persisted⟩, refused, dispatchedIn⟩ := s
  obtain rfl : dispatchedIn = [] := hnone
  rw [reasoningStep, executeInvestigationTool]
  obtain rfl | rfl : current = diagnose ∨ current = investigate := hstate
  all_goals split_ifs
  all_goals exact ⟨rfl, rfl⟩

lemma reasonFrom_cases (fuel i : ℕ) (hnone : s.dispatchedIn = [])
    (hstate : s.machine.currentState = diagnose ∨
      s.machine.currentState = investigate ∧ 0 < fuel) :
    ((reasonFrom answers fuel i).foldl (effect now) s).record.status = .aborted ∨
      StaysInPlan ((reasonFrom answers fuel i).foldl (effect now) s) := by
  induction fuel generalizing i s with
  | zero => exact .inr (staysInPlan_finish (hstate.resolve_right fun h => h.2.false) hnone ..)
  | succ fuel ih =>
    rw [reasonFrom, List.foldl_cons]
    cases (answers.iteration i).killSwitch with
    | true => exact .inl (status_abort _)
    | false =>
      cases (answers.iteration i).budgetMessage with
      | some message => exact .inl (status_abort _)
      | none =>
        simp only [Bool.false_eq_true, if_false]
        rw [List.foldl_append]
        obtain ⟨hdiagnose, hnone'⟩ := iteration_diagnoses hnone
          (hstate.imp_right And.left) (answers.iteration i)
        cases (answers.iteration i).shouldContinue with
        | true => exact ih (i + 1) hnone' (.inl hdiagnose)
        | false => exact .inr (staysInPlan_finish hdiagnose hnone' ..)

lemma loopCourse_cases (answers : LoopAnswers) (runId missionId : String) (start now : Timestamp) :
    let t := (loopCourse answers).foldl (effect now) (.opened runId missionId start)
    t.record.status = .aborted ∨ StaysInPlan t := by
  rw [loopCourse, List.foldl_append]
  cases answers.killSwitch with
  | true => exact .inl (status_abort _)
  | false =>
    simp only [Bool.false_eq_true, if_false]
    rw [List.foldl_append]
    exact reasonFrom_cases _ _ rfl (.inr ⟨rfl, by decide⟩)

lemma followsGraph_orchestratorCourse {answers : OrchestratorAnswers} {runId missionId : String}
    {start : Timestamp} (hkill : answers.killSwitch = false) :
    FollowsGraph ((orchestratorCourse answers).foldl (effect now) (.opened runId missionId start)) ↔
      answers.decisions.dispatches := by
  rw [orchestratorCourse, hkill, if_neg Bool.false_ne_true, orchestratorPhases, dispatch]
  cases answers.decisions.dispatches with
  | true =>
    refine iff_of_true ?_ rfl
    cases answers.decisions.linked
    all_goals constructor
    all_goals simp [effect, MissionState.opened, AgentStateMachine.new,
      AgentStateMachine.canTransitionTo, VALID_STATE_TRANSITIONS]
  | false =>
    refine iff_of_false (fun hgraph => ?_) (by simp)
    have haccepted := hgraph.accepted
    simp [effect, MissionState.opened, AgentStateMachine.new, AgentStateMachine.canTransitionTo,
      VALID_STATE_TRANSITIONS] at haccepted

/-- The run record of a mission that does not return is still running. -/
lemma returned_of_status {throws : ℕ → Bool} {answers : MissionAnswers} {runId missionId : String}
    {start : Timestamp}
    (h : (runMission throws answers runId missionId start now).1.record.status ≠ .running) :
    (runMission throws answers runId missionId start now).2 = true := by
  obtain ⟨body, status, reason, hcourse, hstatus, hbody⟩ := closesLast_course answers
  have hrunning : ∀ op ∈ body, ∀ s : MissionState, s.record.status = .running →
      (effect now s op).record.status = .running := by
    intro op hop s hs
    have hkeep := hbody op hop
    cases op with
    | updateAgentRun => cases hkeep
    | _ => exact hs
  by_contra hthrow
  rw [Bool.not_eq_true] at hthrow
  rw [runMission, hcourse] at h hthrow
  have hclosed : ∀ s : MissionState,
      (effect now s (.updateAgentRun status reason)).record.status ≠ .running := fun _ => hstatus
  exact h ((persists_iff_not_returned (P := fun s : MissionState => s.record.status = .running)
    hrunning hclosed rfl).mpr hthrow)

end Machine

/-- No completed run of the loop follows the graph: the request for the authority is refused in
`PLAN`, what is dispatched is dispatched there, and `PLAN` is the last state that is persisted. -/
theorem completed_loop_stays_in_plan (throws : ℕ → Bool) (answers : LoopAnswers)
    (runId missionId : String) (start now : Timestamp)
    (h : (runMission throws (.loop answers) runId missionId start now).1.record.status =
      .completed) :
    ¬ FollowsGraph (runMission throws (.loop answers) runId missionId start now).1 ∧
      StaysInPlan (runMission throws (.loop answers) runId missionId start now).1 := by
  have hreturned : (runMission throws (.loop answers) runId missionId start now).2 = true :=
    returned_of_status (by rw [h]; decide)
  have hstate := state_of_returned hreturned
  obtain hstatus | hplan := loopCourse_cases answers runId missionId start now
  · rw [runMission, hstate, course, hstatus] at h
    cases h
  · have hplan' : StaysInPlan (runMission throws (.loop answers) runId missionId start now).1 := by
      rw [runMission, hstate]
      exact hplan
    exact ⟨hplan'.not_followsGraph, hplan'⟩

/-- A loop that dispatches completes, out of step with its machine. -/
theorem dispatching_loop_stays_in_plan :
    ¬ FollowsGraph (runMission (fun _ => false) (.loop dispatchingLoop) "run_1" "miss_1" 0
        5000).1 ∧
      StaysInPlan (runMission (fun _ => false) (.loop dispatchingLoop) "run_1" "miss_1" 0
        5000).1 :=
  completed_loop_stays_in_plan _ _ _ _ _ _ (by decide +kernel)

/-- Its link is created while the machine is in `PLAN`. -/
theorem loop_dispatches_in_plan :
    let t := (runMission (fun _ => false) (.loop dispatchingLoop) "run_1" "miss_1" 0 5000).1
    t.record.status = .completed ∧ t.dispatchedIn = [plan] ∧
      t.refused =
        [complete, memoryUpdate, learn, observeOutcome, AgentState.execute, waitAuthority] ∧
      t.machine.persisted.head? = some plan := by
  decide +kernel

/-- The orchestrator passes the states that the loop leaves out: a completed mission of it follows
the graph exactly when it dispatches. -/
theorem orchestrator_follows_graph_iff (throws : ℕ → Bool) (answers : OrchestratorAnswers)
    (runId missionId : String) (start now : Timestamp)
    (h : (runMission throws (.orchestrator answers) runId missionId start now).1.record.status =
      .completed) :
    FollowsGraph (runMission throws (.orchestrator answers) runId missionId start now).1 ↔
      answers.decisions.dispatches := by
  have hreturned : (runMission throws (.orchestrator answers) runId missionId start now).2 = true :=
    returned_of_status (by rw [h]; decide)
  have hstate := state_of_returned hreturned
  rw [runMission, hstate] at h ⊢
  cases hkill : answers.killSwitch with
  | true =>
    rw [course, orchestratorCourse, if_pos hkill] at h
    cases h
  | false => exact followsGraph_orchestratorCourse hkill

/-- It does so with an authorized `ACT` decision, and not with one to wait. -/
theorem orchestrator_waits_outside_graph :
    FollowsGraph (runMission (fun _ => false) (.orchestrator ⟨false, ⟨.act, .authorized, true⟩⟩)
        "run_1" "miss_1" 0 5000).1 ∧
      ¬ FollowsGraph (runMission (fun _ => false)
        (.orchestrator ⟨false, ⟨.wait, .wait, false⟩⟩) "run_1" "miss_1" 0 5000).1 := by
  constructor
  · exact (orchestrator_follows_graph_iff _ _ _ _ _ _ (by decide +kernel)).mpr (by decide)
  · intro hfollows
    have hdispatches :=
      (orchestrator_follows_graph_iff _ _ _ _ _ _ (by decide +kernel)).mp hfollows
    exact absurd hdispatches (by decide)

end MissionCourse

end CtrlRecovery
