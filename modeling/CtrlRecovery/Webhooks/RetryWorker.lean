import CtrlRecovery.Core.Run
import CtrlRecovery.Core.Table
import CtrlRecovery.Js
import CtrlRecovery.Types

/-!
# The retries of queued webhooks

A queued delivery is processed by the retry worker of a process, which works through a batch of due
rows, or by a replay on demand. Each processing works on its own copy of the row: it marks the row as
being processed, and at its end overwrites it with the outcome. What the processing of a payload does
apart from the row is `WebhookQueueEngine.processDelivery`; here it succeeds or throws. The requeueing
of all dead letters, which counts the attempts from 0 again, is not among the actions here.
-/

namespace CtrlRecovery

open Core

inductive WebhookQueueStatus | pending | processing | delivered | failed | deadLetter
  deriving DecidableEq, Repr

/-- A row of `webhook_delivery_queue`. -/
structure WebhookDeliveryQueueItem where
  id : String
  tenantId : String
  source : String
  eventId : Option String
  eventType : String
  payload : String
  headers : Option String
  status : WebhookQueueStatus
  attempts : ℕ
  maxAttempts : ℕ
  lastError : Option String
  nextRetryAt : Option Timestamp
  deliveredAt : Option Timestamp
  createdAt : Timestamp
  deriving DecidableEq, Repr

/-- What `enqueue` is passed. -/
structure EnqueueParams where
  tenantId : String
  source : Option String
  eventId : Option String
  eventType : String
  payload : String
  headers : Option String
  deriving DecidableEq, Repr

namespace WebhookRetries

/-! ### Rows -/

def enqueued (params : EnqueueParams) (id : String) (now : Timestamp) :
    WebhookDeliveryQueueItem where
  id := id
  tenantId := params.tenantId
  source := Js.orElse params.source "RAZORPAY_WEBHOOK"
  eventId := params.eventId.filter (· ≠ "")
  eventType := params.eventType
  payload := params.payload
  headers := params.headers.filter (· ≠ "")
  status := .pending
  attempts := 0
  maxAttempts := 5
  lastError := none
  nextRetryAt := none
  deliveredAt := none
  createdAt := now

/-- `updateWebhookDeliveryStatus`: an option that is missing is overwritten as well. -/
def withStatus (status : WebhookQueueStatus) (attempts : ℕ) (lastError : Option String)
    (nextRetryAt deliveredAt : Option Timestamp) (row : WebhookDeliveryQueueItem) :
    WebhookDeliveryQueueItem :=
  { row with
    status := status
    attempts := attempts
    lastError := lastError
    nextRetryAt := nextRetryAt
    deliveredAt := deliveredAt }

def isDue (now : Timestamp) (row : WebhookDeliveryQueueItem) : Bool :=
  (row.status == .pending || row.status == .failed) && row.nextRetryAt.all (· ≤ now)

/-- The delay after a number of attempts: exponential, up to 15 minutes. -/
def nextDelayMs (attempts : ℕ) : ℕ := min (15 * 60 * 1000) (2 ^ attempts * 5000)

abbrev Deliveries := Table WebhookDeliveryQueueItem.id

/-- The rows that are due, the oldest first. -/
def getDueWebhookRetries (deliveries : Deliveries) (now : Timestamp) (limit : ℕ) :
    List WebhookDeliveryQueueItem :=
  ((deliveries.rows.filter (isDue now)).mergeSort fun a b => a.createdAt ≤ b.createdAt).take limit

/-- The row at the start of a processing that works on `item`. -/
def begun (item : WebhookDeliveryQueueItem) :
    WebhookDeliveryQueueItem → WebhookDeliveryQueueItem :=
  withStatus .processing (item.attempts + 1) none none none

/-- The row at the end of a processing that works on `item` and has succeeded, or thrown an error. -/
def ended (item : WebhookDeliveryQueueItem) (error : Option String) (now : Timestamp)
    (row : WebhookDeliveryQueueItem) : WebhookDeliveryQueueItem :=
  let attempts := item.attempts + 1
  match error with
  | none         => withStatus .delivered attempts none none (some now) row
  | some message =>
    if item.maxAttempts ≤ attempts then withStatus .deadLetter attempts (some message) none none row
    else
      withStatus .failed attempts (some message) (some (now + nextDelayMs attempts)) none row

@[simp] lemma id_begun (item row : WebhookDeliveryQueueItem) : (begun item row).id = row.id := rfl

@[simp] lemma id_ended (item : WebhookDeliveryQueueItem) (error : Option String) (now : Timestamp)
    (row : WebhookDeliveryQueueItem) : (ended item error now row).id = row.id := by
  cases error with
  | none => rfl
  | some message =>
    rw [ended]
    split_ifs <;> rfl

/-! ### Runs -/

/-- Who processes a delivery: the worker of a process, or a replay in it. -/
inductive Caller
  | worker (process : ℕ)
  | replay (process call : ℕ)
  deriving DecidableEq, Repr

def Caller.process : Caller → ℕ
  | .worker process   => process
  | .replay process _ => process

/-- A processing that has started: of which delivery, by whom, and whether the delivery had reached
`DELIVERED` before. -/
structure Processed where
  deliveryId : String
  caller : Caller
  wasDelivered : Bool
  deriving DecidableEq, Repr

/-- The table, the processings under way with their copies, and for each process in which the worker is
at work what is left of its batch; besides, what has been processed and what has been delivered so far.
-/
structure State where
  now : Timestamp
  deliveries : Deliveries
  processing : Caller → Option WebhookDeliveryQueueItem
  batches : ℕ → Option (List WebhookDeliveryQueueItem)
  processed : List Processed
  deliveredIds : List String

def State.initial (now : Timestamp) : State := ⟨now, .empty, fun _ => none, fun _ => none, [], []⟩

inductive Action
  | tick (ms : ℕ)
  | enqueue (params : EnqueueParams) (id : String)
  /-- The timer of the worker of a process, or a request for an iteration of it. -/
  | processDueRetries (process : ℕ)
  /-- The worker goes on with its batch. -/
  | next (process : ℕ)
  | replayWebhook (process call : ℕ) (deliveryId tenantId : String)
  /-- A processing succeeds, or throws an error. -/
  | finish (caller : Caller) (error : Option String)
  | crash (process : ℕ)

namespace State

variable (s : State)

/-- A processing of `item` starts. -/
def start (caller : Caller) (item : WebhookDeliveryQueueItem) : State :=
  { s with
    deliveries := s.deliveries.update item.id (begun item) (id_begun item)
    processing := Function.update s.processing caller (some item)
    processed := ⟨item.id, caller, item.id ∈ s.deliveredIds⟩ :: s.processed }

/-- The processing of `item` ends. -/
def finish (caller : Caller) (item : WebhookDeliveryQueueItem) (error : Option String) : State :=
  { s with
    deliveries := s.deliveries.update item.id (ended item error s.now) (id_ended item error s.now)
    processing := Function.update s.processing caller none
    deliveredIds := if error.isNone then item.id :: s.deliveredIds else s.deliveredIds }

def setBatch (process : ℕ) (batch : Option (List WebhookDeliveryQueueItem)) : State :=
  { s with batches := Function.update s.batches process batch }

end State

def step (s : State) : Action → Option State
  | .tick ms => some { s with now := s.now + ms }
  | .enqueue params id =>
    (s.deliveries.insert? (enqueued params id s.now)).map fun deliveries =>
      { s with deliveries := deliveries }
  | .processDueRetries process =>
    match s.batches process with
    | some _ => some s
    | none   => some (s.setBatch process (some (getDueWebhookRetries s.deliveries s.now 20)))
  | .next process =>
    match s.batches process, s.processing (.worker process) with
    | some (item :: rest), none => some ((s.setBatch process (some rest)).start (.worker process) item)
    | some [], none             => some (s.setBatch process none)
    | _, _                      => none
  | .replayWebhook process call deliveryId tenantId =>
    match s.processing (.replay process call) with
    | some _ => none
    | none   =>
      match (s.deliveries.find? deliveryId).filter (·.tenantId = tenantId) with
      | some item => some (s.start (.replay process call) item)
      | none      => some s
  | .finish caller error => (s.processing caller).map fun item => s.finish caller item error
  | .crash process =>
    some { s with
      processing := fun caller => if caller.process = process then none else s.processing caller
      batches := Function.update s.batches process none }

end WebhookRetries

end CtrlRecovery
