import CtrlRecovery.Execution.Batch
import CtrlRecovery.Reconciliation.Atomicity
import CtrlRecovery.Webhooks.Queue

/-!
# Canonical payment events

`POST /v1/events` and the webhook queue take the same events. The route looks for an opportunity of
the event and of its payment before anything else, and tries to recover what it ingests; the queue
looks for the event of a failed payment, and for the payment of a paid one. None of these lookups
names a tenant.
-/

namespace CtrlRecovery

open Core

/-- What the handling of an event draws and meets. -/
structure EventWorld where
  priorCount : ℕ
  now : Timestamp
  entryId : String
  settlement : ReconcileInput
  killSwitches : KillSwitches
  est : Estimator
  script : ExecutionScript

/-- A world in which the provider does not answer. -/
def EventWorld.sample : EventWorld where
  priorCount := 0
  now := 3000
  entryId := "led_1"
  settlement :=
    { id := ""
      override := none
      client := .rzpClient
      response := .error "timeout"
      ids := ⟨"dbl_1", "aud_1", "out_1", "mem_1", "div_1"⟩
      fault := none
      message := "timeout"
      now := 3000 }
  killSwitches := .off
  est := .sample
  script :=
    { client := .error "timeout"
      breakerOpen := false
      attempts := fun _ => .error ⟨none, some "timeout", some 503, none⟩
      lookup := none
      now := 3000
      entryId := "led_2" }

inductive EventOutcome | accepted | deduplicated | rejected
  deriving DecidableEq, Repr

/-- The payment has been made. -/
def CanonicalPaymentEvent.isPaid (event : CanonicalPaymentEvent) : Bool :=
  event.status = .paid || event.status = .captured

/-- `reconcileOpportunity` for the opportunity that a paid event matches. -/
def reconcileMatched (platform : Platform) (world : EventWorld) (db : Db) (id : String) : Db :=
  ((AuthoritativeReconciler.reconcileOpportunity platform
    { world.settlement with id, override := none } db db).map Prod.snd).getD db

namespace EventGateway

/-- What the route does about an opportunity that it has ingested: the opportunity is scored, the
pipeline of the tenant runs, and the opportunity is executed where the gate authorizes it. -/
def recoverIngested (platform : Platform) (world : EventWorld) (tenantId : String)
    (opp : RecoveryOpportunity) (db : Db) : Db :=
  let scored := (Scorer.scoreOpportunity world.est db opp).2
  let pipeline := Authority.runAuthorityPipeline platform world.killSwitches world.est world.now
    ⟨some 5, some tenantId, some opp.environment⟩ scored
  match pipeline.1.results.find? fun result => result.opportunityId = opp.id with
  | some result =>
    if result.verdict = .authorized then
      (Executor.executeOpportunity world.killSwitches world.est world.script pipeline.2 opp.id).2
    else pipeline.2
  | none        => pipeline.2

/-- `POST /v1/events`, for an event that the schema accepts for the tenant. -/
def handleEvent (platform : Platform) (tenantId : String) (db : Db) (event : CanonicalPaymentEvent)
    (world : EventWorld) : Db × EventOutcome :=
  match db.getOpportunityByRazorpayEventId event.eventId with
  | some _ => (db, .deduplicated)
  | none   =>
    match (event.paymentId.filter (· ≠ "")).bind db.getOpportunityById with
    | some existing =>
      if event.isPaid then (reconcileMatched platform world db existing.id, .deduplicated)
      else (db, .deduplicated)
    | none          =>
      if event.status = .failed then
        let opp := event.toOpportunity .real tenantId event.environment world.priorCount world.now
        match db.insertOpportunity opp with
        | none    => (db, .rejected)
        | some db =>
          (recoverIngested platform world tenantId opp
            (db.insertLedgerEntry (receivedEntry world.entryId opp)), .accepted)
      else if event.isPaid then
        match WebhookQueueEngine.matchPaid db tenantId event with
        | some id => (reconcileMatched platform world db id, .accepted)
        | none    => (db, .accepted)
      else (db, .accepted)

end EventGateway

namespace WebhookQueueEngine

/-- `processDelivery`, for an event that the schema accepts for the tenant. -/
def processDelivery (platform : Platform) (tenantId : String) (db : Db)
    (event : CanonicalPaymentEvent) (world : EventWorld) : Db × EventOutcome :=
  if event.status = .failed then
    match db.getOpportunityByRazorpayEventId event.eventId with
    | some _ => (db, .deduplicated)
    | none   =>
      (processFailed db tenantId event world.priorCount world.now world.entryId, .accepted)
  else if event.isPaid then
    match matchPaid db tenantId event with
    | some id => (reconcileMatched platform world db id, .accepted)
    | none    => (db, .accepted)
  else (db, .accepted)

end WebhookQueueEngine

/-- The two ways that an event takes. -/
inductive EventPath | gateway | queue
  deriving DecidableEq, Repr

/-- An event on its way in, with what its handling meets. -/
structure IncomingEvent where
  path : EventPath
  event : CanonicalPaymentEvent
  world : EventWorld

/-- The database after an event for the tenant, and what became of the event. -/
def handleIncoming (platform : Platform) (tenantId : String) (db : Db) (incoming : IncomingEvent) :
    Db × EventOutcome :=
  match incoming.path with
  | .gateway =>
    EventGateway.handleEvent platform tenantId db incoming.event incoming.world
  | .queue   =>
    WebhookQueueEngine.processDelivery platform tenantId db incoming.event incoming.world

/-- One event for the tenant after the other. -/
def ingestStep (platform : Platform) (tenantId : String) (db : Db) (incoming : IncomingEvent) :
    Option Db :=
  some (handleIncoming platform tenantId db incoming).1

/-- What became of the events of a sequence. -/
def outcomes (platform : Platform) (tenantId : String) : Db → List IncomingEvent → List EventOutcome
  | _, []                  => []
  | db, incoming :: others =>
    (handleIncoming platform tenantId db incoming).2 ::
      outcomes platform tenantId (handleIncoming platform tenantId db incoming).1 others

end CtrlRecovery
