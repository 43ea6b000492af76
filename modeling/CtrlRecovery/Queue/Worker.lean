import CtrlRecovery.Platform
import CtrlRecovery.Queue.JobDelivery

/-!
# The worker process

The loop of `CtrlWorkerProcess` pops a job and processes it inside `withSpan`: the span is started,
the tenant context is set, and then the handler of the job runs. An error of the handler is recorded,
and the job is passed to `retry`; an error anywhere else goes to the loop, which only logs it.

Other code of the process pushes jobs while the worker runs. It does not pass the attempts of a job.
-/

namespace CtrlRecovery

open Core

namespace CtrlWorkerProcess

open DistributedJobQueue

variable {α : Type}

/-- The queues that the worker listens to. -/
def jobTypes : List JobType :=
  [.agentReasoningCycle, .marketAllocationRun, .executionDispatch, .reconciliationSweep,
    .dlqRetrySweep]

/-- The call of the queue that the worker waits for. -/
def ownCall : ℕ := 0

/-- Where the worker is. -/
inductive Phase (α : Type)
  | idle
  /-- The loop waits for a job. -/
  | popping
  /-- `withSpan` starts the span and sets its attributes. -/
  | entering (queued : Queued α)
  | settingTenant (queued : Queued α)
  | handling (queued : Queued α)
  /-- The handler has failed, and the span is told. -/
  | reporting (queued : Queued α)
  /-- `retry` waits for its push. -/
  | requeueing (queued : Queued α)
  /-- `withSpan` sets the status of the span and ends it. -/
  | leaving (queued : Queued α) (failed : Bool)

/-- The queue and the worker. `origin` leads from each push of a job to the first one, and
`executions` and `completed` are about the jobs that are pushed first. -/
structure WorkerState (α : Type) where
  queue : State α
  phase : Phase α
  origin : ℕ → ℕ
  executions : ℕ → ℕ
  completed : Finset ℕ

def WorkerState.initial : WorkerState α := ⟨.initial, .idle, id, fun _ => 0, ∅⟩

/-- `setTenantContext`: whether it succeeds, where `SET LOCAL` succeeds as given. -/
def setTenantContext (engine : DbEngine) (tenantId : String) (setLocal : Bool) : Bool :=
  if engine = .postgreSQL ∧ tenantId ≠ "" then setLocal else true

/-- A step of the queue for other code: a push, or the connection. -/
def isOutside : Action α → Bool
  | .connect | .error          => true
  | .push call request _       => call ≠ ownCall && request.attempts.isNone
  | .reply call | .fail call   => call ≠ ownCall
  | _                          => false

def isAwaited : Action α → Bool
  | .reply call | .timeout call | .fail call | .resume call => call = ownCall
  | _                                                       => false

inductive WorkerAction (α : Type)
  | outside (action : Action α)
  | pop
  | awaited (action : Action α)
  | enters (succeeds : Bool)
  | setsTenant (setLocal : Bool)
  /-- The handler returns and the status of the span is set, or one of them throws. -/
  | handles (succeeds : Bool)
  /-- `recordException` and `setStatus` for an error of the handler, and then `retry`. -/
  | reports (succeeds : Bool) (stamp : JobStamp)
  | leaves (succeeds : Bool)

namespace WorkerState

variable (s : WorkerState α)

/-- The queue has gone on with the pop of the worker. -/
def afterPop (queue : State α) : WorkerState α :=
  if (queue.waiting ownCall).isSome then { s with queue, phase := .popping }
  else
    match queue.answers.head? with
    | some (.job queued) => { s with queue, phase := .entering queued }
    | _                  => { s with queue, phase := .idle }

/-- The queue has gone on with `retry`, whose push leads to the one of the job. -/
def afterRetry (queued : Queued α) (queue : State α) : WorkerState α :=
  if (queue.waiting ownCall).isSome then { s with queue, phase := .requeueing queued }
  else
    { s with
      queue
      phase := .leaving queued true
      origin := Function.update s.origin s.queue.pushed.length (s.origin queued.serial) }

/-- The handler has been executed. -/
def execute (queued : Queued α) : WorkerState α :=
  { s with
    executions := Function.update s.executions (s.origin queued.serial)
      (s.executions (s.origin queued.serial) + 1) }

/-- The job has been processed. -/
def complete (queued : Queued α) : WorkerState α :=
  { s with completed := insert (s.origin queued.serial) s.completed }

end WorkerState

def workerStep (engine : DbEngine) (s : WorkerState α) : WorkerAction α → Option (WorkerState α)
  | .outside action =>
    if isOutside action then (step s.queue action).map fun queue => { s with queue } else none
  | .pop =>
    match s.phase with
    | .idle => (step s.queue (.pop ownCall jobTypes 2)).map s.afterPop
    | _     => none
  | .awaited action =>
    if isAwaited action then
      match s.phase with
      | .popping           => (step s.queue action).map s.afterPop
      | .requeueing queued => (step s.queue action).map (s.afterRetry queued)
      | _                  => none
    else none
  | .enters succeeds =>
    match s.phase with
    | .entering queued =>
      some { s with phase := if succeeds then .settingTenant queued else .idle }
    | _                => none
  | .setsTenant setLocal =>
    match s.phase with
    | .settingTenant queued =>
      some
        { s with
          phase :=
            if setTenantContext engine queued.job.tenantId setLocal then .handling queued
            else .idle }
    | _                     => none
  | .handles succeeds =>
    match s.phase with
    | .handling queued =>
      some
        { s.execute queued with
          phase := if succeeds then .leaving queued false else .reporting queued }
    | _                => none
  | .reports succeeds stamp =>
    match s.phase with
    | .reporting queued =>
      if succeeds then
        match retryRequest queued.job with
        | none   => some { s with phase := .leaving queued true }
        | some _ => (step s.queue (.retry ownCall queued.job stamp)).map (s.afterRetry queued)
      else some { s with phase := .idle }
    | _                 => none
  | .leaves succeeds =>
    match s.phase with
    | .leaving queued failed =>
      some { (if succeeds && !failed then s.complete queued else s) with phase := .idle }
    | _                      => none

end CtrlWorkerProcess

end CtrlRecovery
