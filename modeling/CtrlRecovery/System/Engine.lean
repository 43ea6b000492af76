import CtrlRecovery.Authority.Pipeline
import CtrlRecovery.Execution.Effects
import CtrlRecovery.Reconciliation.Interleaving

/-!
# The recovery engine

The allocator, the authority pipeline, the executor with its dead-letter queue and the reconciler,
working on one database in any order and on any opportunities. The calls that wait for the provider
or for the database are interleaved; what runs without an await is one step. A sweep of the daemon,
and a batch, are sequences of these steps.
-/

namespace CtrlRecovery

open Core OpportunityStatus Scorer Market Authority AuthorityRuleRegistry

/-- A call of `executeOpportunity`; `replayed` is the opportunity of the job that the dead-letter
queue replays with it. -/
structure Execution where
  call : ExecuteCall
  replayed : Option String

structure EngineState extends ReconcilerState where
  executions : ℕ → Option Execution
  killSwitches : KillSwitches

inductive EngineAction
  | score (est : Estimator) (id : String)
  | allocate (est : Estimator) (options : AllocationOptions)
  | pipeline (est : Estimator) (now : Timestamp) (options : AllocationOptions)
  | execute (call : ℕ) (est : Estimator) (now : Timestamp) (id : String) (replay : Bool)
  | answer (call : ℕ) (answer : ExecuteAnswer) (now : Timestamp) (entryId : String)
  | settle (call : ℕ) (now : Timestamp)
  | reconcile (action : ReconcileAction)
  | setKillSwitches (killSwitches : KillSwitches)

namespace ExecutionDLQ

/-- What a replay does with the result of its call: a success resolves the jobs, and a failure is
recorded, once more when the call has already recorded it. -/
def settleReplay (db : Db) (id : String) (now : Timestamp) :
    Except String SingleExecutionResult → Option Execution × Db
  | .ok result =>
    if result.success then (none, markRetrySuccess db id now)
    else (some ⟨.failing id (Js.orElse result.error "Retry execution failed"), none⟩, db)
  | .error message =>
    (some ⟨.failing id (Js.orElse (some message) "Unexpected retry crash"), none⟩, db)

end ExecutionDLQ

/-- Whether a call can start under this number: a replay needs a job, which was due when the queue
fetched its batch, some calls ago. -/
def EngineState.canStart (s : EngineState) (call : ℕ) (id : String) (replay : Bool) : Bool :=
  (s.executions call).isNone && (!replay || s.db.dlqJobs.any (·.opportunityId == id))

/-- One step of the engine. -/
def engineStep (platform : Platform) (s : EngineState) : EngineAction → Option EngineState
  | .score est id =>
    (s.db.getOpportunityById id).map fun opp => { s with db := (scoreOpportunity est s.db opp).2 }
  | .allocate est options => some { s with db := (runMarketAllocation platform est options s.db).2 }
  | .pipeline est now options =>
    some { s with db := (runAuthorityPipeline platform s.killSwitches est now options s.db).2 }
  | .execute call est now id replay =>
    if s.canStart call id replay then
      let started := Executor.start s.killSwitches est now s.db id
      some
        { s with
          db := started.2
          executions := Function.update s.executions call
            (some ⟨started.1, if replay then some id else none⟩) }
    else none
  | .answer call answer now entryId =>
    match s.executions call with
    | some execution =>
      (Executor.advance answer now entryId s.db execution.call).map fun next =>
        { s with
          db := next.2
          executions := Function.update s.executions call
            (some { execution with call := next.1 }) }
    | none => none
  | .settle call now =>
    match s.executions call with
    | some ⟨.finished result, some id⟩ =>
      let settled := ExecutionDLQ.settleReplay s.db id now result
      some
        { s with db := settled.2, executions := Function.update s.executions call settled.1 }
    | _ => none
  | .reconcile action =>
    (reconcileStep platform s.toReconcilerState action).map fun r =>
      { s with toReconcilerState := r }
  | .setKillSwitches killSwitches => some { s with killSwitches := killSwitches }

/-- The engine without calls. -/
def EngineState.idle (db : Db) : EngineState where
  db := db
  calls := fun _ => none
  executions := fun _ => none
  killSwitches := .off

/-! ### What each action does -/

section Actions

variable {platform : Platform} {s t : EngineState} {est : Estimator} {now : Timestamp} {call : ℕ}

lemma engineStep_score {id : String} (h : engineStep platform s (.score est id) = some t) :
    ∃ opp, s.db.getOpportunityById id = some opp ∧
      t = { s with db := (scoreOpportunity est s.db opp).2 } := by
  obtain ⟨opp, hopp, rfl⟩ := Option.map_eq_some_iff.mp h
  exact ⟨opp, hopp, rfl⟩

lemma engineStep_allocate {options : AllocationOptions}
    (h : engineStep platform s (.allocate est options) = some t) :
    t.db = (runMarketAllocation platform est options s.db).2 ∧ t.calls = s.calls ∧
      t.executions = s.executions := by
  simp only [engineStep, Option.some.injEq] at h
  refine ⟨?_, ?_, ?_⟩ <;> rw [← h]

lemma engineStep_pipeline {options : AllocationOptions}
    (h : engineStep platform s (.pipeline est now options) = some t) :
    t.db = (runAuthorityPipeline platform s.killSwitches est now options s.db).2 ∧
      t.calls = s.calls ∧ t.executions = s.executions := by
  simp only [engineStep, Option.some.injEq] at h
  refine ⟨?_, ?_, ?_⟩ <;> rw [← h]

lemma engineStep_execute {id : String} {replay : Bool}
    (h : engineStep platform s (.execute call est now id replay) = some t) :
    t.db = (Executor.start s.killSwitches est now s.db id).2 ∧ t.calls = s.calls ∧
      t.executions = Function.update s.executions call
        (some ⟨(Executor.start s.killSwitches est now s.db id).1,
          if replay then some id else none⟩) := by
  simp only [engineStep, Option.ite_none_right_eq_some, Option.some.injEq] at h
  refine ⟨?_, ?_, ?_⟩ <;> rw [← h.2]

lemma engineStep_answer {answer : ExecuteAnswer} {entryId : String}
    (h : engineStep platform s (.answer call answer now entryId) = some t) :
    ∃ execution p, s.executions call = some execution ∧
      Executor.advance answer now entryId s.db execution.call = some p ∧
      t =
        { s with
          db := p.2
          executions := Function.update s.executions call
            (some { execution with call := p.1 }) } := by
  simp only [engineStep] at h
  split at h
  next execution hcall =>
    obtain ⟨p, hp, rfl⟩ := Option.map_eq_some_iff.mp h
    exact ⟨execution, p, hcall, hp, rfl⟩
  next => cases h

lemma engineStep_settle (h : engineStep platform s (.settle call now) = some t) :
    ∃ id result, s.executions call = some ⟨.finished result, some id⟩ ∧
      t =
        { s with
          db := (ExecutionDLQ.settleReplay s.db id now result).2
          executions := Function.update s.executions call
            (ExecutionDLQ.settleReplay s.db id now result).1 } := by
  simp only [engineStep] at h
  split at h
  next result id hcall => exact ⟨id, result, hcall, (Option.some.inj h).symm⟩
  next => cases h

lemma engineStep_reconcile {action : ReconcileAction}
    (h : engineStep platform s (.reconcile action) = some t) :
    ∃ r, reconcileStep platform s.toReconcilerState action = some r ∧
      t = { s with toReconcilerState := r } := by
  obtain ⟨r, hr, rfl⟩ := Option.map_eq_some_iff.mp h
  exact ⟨r, hr, rfl⟩

end Actions

/-! ### What a step writes -/

lemma sameRows_settleReplay (db : Db) (id : String) (now : Timestamp)
    (result : Except String SingleExecutionResult) :
    SameRows db (ExecutionDLQ.settleReplay db id now result).2 := by
  cases result with
  | error message => exact .refl db
  | ok result =>
    rw [ExecutionDLQ.settleReplay]
    split_ifs
    · exact ⟨rfl, rfl, rfl, rfl⟩
    · exact .refl db

end CtrlRecovery
