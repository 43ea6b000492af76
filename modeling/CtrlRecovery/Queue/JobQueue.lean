import CtrlRecovery.Core.Queues
import CtrlRecovery.Core.Run
import CtrlRecovery.Js
import CtrlRecovery.Types

/-!
# The job queue

A job is pushed to its list in Redis while Redis is connected, and to its list in memory otherwise or
when the command fails; a pop looks into one of the two stores, by the connection when it is called. No
pushed job is returned twice. A pop that is made while Redis is connected misses a job when its answer
comes from one store while the job is in the other one (`answersRight_iff_nothingElsewhere`).

A list operation is performed when its reply arrives, and one that fails is not performed.
-/

namespace CtrlRecovery

open Core

/-- The queues; the list of a type is that of the key `ctrl:queue:` followed by its name. -/
inductive JobType
  | agentReasoningCycle
  | marketAllocationRun
  | executionDispatch
  | reconciliationSweep
  | dlqRetrySweep
  deriving DecidableEq, Repr

instance : Fintype JobType where
  elems := {.agentReasoningCycle, .marketAllocationRun, .executionDispatch, .reconciliationSweep,
    .dlqRetrySweep}
  complete := fun type => by cases type <;> decide

structure QueueJob (α : Type) where
  id : String
  type : JobType
  tenantId : String
  payload : α
  traceId : Option String
  traceParent : Option String
  createdAt : Timestamp
  attempts : ℕ
  maxAttempts : ℕ
  deriving DecidableEq, Repr

/-- What `push` is passed. -/
structure JobRequest (α : Type) where
  id : Option String
  type : JobType
  tenantId : String
  payload : α
  traceId : Option String
  traceParent : Option String
  attempts : Option ℕ
  maxAttempts : Option ℕ
  deriving DecidableEq, Repr

/-- What a push generates. -/
structure JobStamp where
  id : String
  createdAt : Timestamp
  deriving DecidableEq, Repr

namespace DistributedJobQueue

variable {α : Type}

/-- The job of a request, with the defaults of its fields. -/
def fullJob (request : JobRequest α) (stamp : JobStamp) : QueueJob α where
  id := Js.orElse request.id stamp.id
  type := request.type
  tenantId := if request.tenantId = "" then "tenant_system_default" else request.tenantId
  payload := request.payload
  traceId := request.traceId
  traceParent := request.traceParent
  createdAt := stamp.createdAt
  attempts := request.attempts.getD 0
  maxAttempts := (request.maxAttempts.filter (· ≠ 0)).getD 3

/-- What `retry` pushes; `none` when the attempts of the job are exhausted. -/
def retryRequest (job : QueueJob α) : Option (JobRequest α) :=
  if job.maxAttempts ≤ job.attempts + 1 then none
  else
    some
      { id := some job.id
        type := job.type
        tenantId := job.tenantId
        payload := job.payload
        traceId := job.traceId
        traceParent := job.traceParent
        attempts := some (job.attempts + 1)
        maxAttempts := some job.maxAttempts }

/-! ### The state -/

/-- A job in a list, with the number of its push. -/
structure Queued (α : Type) where
  serial : ℕ
  job : QueueJob α
  deriving DecidableEq, Repr

/-- What a suspended call waits for: the reply to `lpush` or to `brpop`, or the second look into the
lists in memory. `connected` is whether the pop was made while Redis was connected. -/
inductive Waiting (α : Type)
  | pushing (job : QueueJob α)
  | popping (types : List JobType) (timeoutSeconds : ℕ)
  | pausing (types : List JobType) (connected : Bool)

/-- What a pop returns. -/
inductive Answer (α : Type)
  | job (queued : Queued α)
  | null (types : List JobType) (connected : Bool)
  deriving DecidableEq, Repr

/-- The lists in Redis, newest job first, and in memory, oldest job first; the jobs whose push is
over, and what the pops have returned. -/
structure State (α : Type) where
  isRedisConnected : Bool
  redis : JobType → List (Queued α)
  memoryQueues : JobType → List (Queued α)
  waiting : ℕ → Option (Waiting α)
  pushed : List (Queued α)
  answers : List (Answer α)

def State.initial : State α := ⟨false, fun _ => [], fun _ => [], fun _ => none, [], []⟩

def Answer.returned : Answer α → Option (Queued α)
  | .job queued => some queued
  | .null _ _   => none

def State.returned (s : State α) : List (Queued α) := s.answers.filterMap Answer.returned

def firstType (queues : JobType → List (Queued α)) (types : List JobType) : Option JobType :=
  types.find? fun type => !(queues type).isEmpty

namespace State

variable (s : State α) (call : ℕ)

def suspend (w : Waiting α) : State α :=
  { s with waiting := Function.update s.waiting call (some w) }

def finish : State α := { s with waiting := Function.update s.waiting call none }

def answer (a : Answer α) : State α := { s with answers := a :: s.answers }

/-- The push of a job is over. -/
def queued (job : QueueJob α) : Queued α := ⟨s.pushed.length, job⟩

def lpush (job : QueueJob α) : State α :=
  { s with
    redis := Function.update s.redis job.type (s.queued job :: s.redis job.type)
    pushed := s.queued job :: s.pushed }

def memoryPush (job : QueueJob α) : State α :=
  { s with
    memoryQueues :=
      Function.update s.memoryQueues job.type (s.memoryQueues job.type ++ [s.queued job])
    pushed := s.queued job :: s.pushed }

/-- The oldest job of the first list in Redis that has one; `none` where all are empty. -/
def brpop (types : List JobType) : Option (State α) :=
  (firstType s.redis types).bind fun type =>
    (s.redis type).getLast?.map fun queued =>
      { s with redis := Function.update s.redis type (s.redis type).dropLast }.answer (.job queued)

/-- The oldest job of the first list in memory that has one; `none` where all are empty. -/
def memoryPop (types : List JobType) : Option (State α) :=
  (firstType s.memoryQueues types).bind fun type =>
    (s.memoryQueues type).head?.map fun queued =>
      { s with
        memoryQueues := Function.update s.memoryQueues type (s.memoryQueues type).tail }.answer
        (.job queued)

/-- A push, up to its first suspension. -/
def push (job : QueueJob α) : State α :=
  if s.isRedisConnected then s.suspend call (.pushing job) else s.memoryPush job

/-- A pop from memory, up to its second look. -/
def popMemory (types : List JobType) (timeoutSeconds : ℕ) (connected : Bool) : State α :=
  match s.memoryPop types with
  | some t => t.finish call
  | none   =>
    if 0 < timeoutSeconds then s.suspend call (.pausing types connected)
    else (s.answer (.null types connected)).finish call

/-- A pop, up to its first suspension. -/
def pop (types : List JobType) (timeoutSeconds : ℕ) : State α :=
  if s.isRedisConnected then s.suspend call (.popping types timeoutSeconds)
  else s.popMemory call types timeoutSeconds false

end State

/-! ### Runs -/

inductive Action (α : Type)
  | connect
  | error
  | push (call : ℕ) (request : JobRequest α) (stamp : JobStamp)
  | retry (call : ℕ) (job : QueueJob α) (stamp : JobStamp)
  | pop (call : ℕ) (types : List JobType) (timeoutSeconds : ℕ)
  /-- Redis performs the operation of a call, and its reply arrives. -/
  | reply (call : ℕ)
  /-- A `brpop` times out on empty lists. -/
  | timeout (call : ℕ)
  /-- The operation of a call fails. -/
  | fail (call : ℕ)
  /-- The second look of a pop. -/
  | resume (call : ℕ)

def step (s : State α) : Action α → Option (State α)
  | .connect => some { s with isRedisConnected := true }
  | .error   => some { s with isRedisConnected := false }
  | .push call request stamp =>
    if (s.waiting call).isNone then some (s.push call (fullJob request stamp)) else none
  | .retry call job stamp    =>
    if (s.waiting call).isNone then
      match retryRequest job with
      | some request => some (s.push call (fullJob request stamp))
      | none         => some s
    else none
  | .pop call types timeoutSeconds =>
    if (s.waiting call).isNone then some (s.pop call types timeoutSeconds) else none
  | .reply call =>
    match s.waiting call with
    | some (.pushing job)     => some ((s.lpush job).finish call)
    | some (.popping types _) => (s.brpop types).map (·.finish call)
    | _                       => none
  | .timeout call =>
    match s.waiting call with
    | some (.popping types timeoutSeconds) =>
      if 0 < timeoutSeconds ∧ types ≠ [] ∧ firstType s.redis types = none then
        some ((s.answer (.null types true)).finish call)
      else none
    | _ => none
  | .fail call =>
    match s.waiting call with
    | some (.pushing job)                  => some ((s.memoryPush job).finish call)
    | some (.popping types timeoutSeconds) => some (s.popMemory call types timeoutSeconds true)
    | _                                    => none
  | .resume call =>
    match s.waiting call with
    | some (.pausing types connected) =>
      match s.memoryPop types with
      | some t => some (t.finish call)
      | none   => some ((s.answer (.null types connected)).finish call)
    | _ => none

end DistributedJobQueue

end CtrlRecovery
