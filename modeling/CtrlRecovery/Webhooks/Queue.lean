import CtrlRecovery.Db.OpportunityRepository
import CtrlRecovery.Perception.Normalizer

/-!
# The webhook queue

`processDelivery` ingests a queued event after its schema has been validated. A failed payment is
looked up by its event id only, and otherwise upserted under its payment id.
-/

namespace CtrlRecovery

open Core

inductive PaymentEventStatus
  | created | authorized | failed | captured | paid | cancelled | expired
  deriving DecidableEq, Repr

/-- An event that the schema accepts. -/
structure CanonicalPaymentEvent where
  eventId : String
  eventId_ne : eventId ≠ ""
  environment : Environment
  paymentId : Option String
  paymentLinkId : Option String
  amountPaise : ℕ
  amount_pos : 0 < amountPaise
  currency : String
  status : PaymentEventStatus
  failureCode : Option String
  failureDescription : Option String
  attemptNumber : ℕ
  attempt_pos : 0 < attemptNumber
  customerReference : String
  customerEmail : Option String
  customerPhone : Option String

namespace CanonicalPaymentEvent

/-- The raw payload that an event is normalized from. -/
def toPayload (event : CanonicalPaymentEvent) (now : Timestamp) : Normalizer.RawPaymentPayload where
  id := some (Js.orElse event.paymentId ("pay_" ++ toString now))
  amount := some event.amountPaise
  currency := some event.currency
  errorCode := some (Js.orElse event.failureCode "UNKNOWN_ERROR")
  errorReason := none
  errorDescription := some (Js.orElse event.failureDescription "Payment failed")
  customerId := some event.customerReference
  email := event.customerEmail
  contact := event.customerPhone
  attempts := some event.attemptNumber

/-- The opportunity that a failed event becomes. -/
def toOpportunity (event : CanonicalPaymentEvent) (source : OpportunitySource) (tenantId : String)
    (environment : Environment) (priorCount : ℕ) (now : Timestamp) : RecoveryOpportunity :=
  Normalizer.normalizeOpportunity (event.toPayload now) (some event.eventId)
    { source := source, tenantId := tenantId, environment := environment } priorCount now

/-- The id under which a failed event is stored. -/
def opportunityId (event : CanonicalPaymentEvent) (now : Timestamp) : String :=
  Js.orElse (some (Js.orElse event.paymentId ("pay_" ++ toString now))) ("pay_" ++ toString now)

@[simp] lemma toOpportunity_id (event : CanonicalPaymentEvent) (source : OpportunitySource)
    (tenantId : String) (environment : Environment) (priorCount : ℕ) (now : Timestamp) :
    (event.toOpportunity source tenantId environment priorCount now).id =
      event.opportunityId now := rfl

@[simp] lemma toOpportunity_status (event : CanonicalPaymentEvent) (source : OpportunitySource)
    (tenantId : String) (environment : Environment) (priorCount : ℕ) (now : Timestamp) :
    (event.toOpportunity source tenantId environment priorCount now).status = .pending := rfl

@[simp] lemma toOpportunity_razorpayEventId (event : CanonicalPaymentEvent)
    (source : OpportunitySource) (tenantId : String) (environment : Environment) (priorCount : ℕ)
    (now : Timestamp) :
    (event.toOpportunity source tenantId environment priorCount now).razorpayEventId =
      some event.eventId := by
  simp [toOpportunity, Normalizer.normalizeOpportunity, event.eventId_ne]

end CanonicalPaymentEvent

/-- The audit entry of an ingested payment. -/
def receivedEntry (entryId : String) (opp : RecoveryOpportunity) : LedgerEntry where
  id := entryId
  opportunityId := opp.id
  eventType := .webhookReceived
  amountPaise := opp.amountPaise
  timestamp := opp.createdAt

namespace WebhookQueueEngine

/-- The source of a queued event: only live events count as real. -/
def sourceOf (event : CanonicalPaymentEvent) : OpportunitySource :=
  if event.environment = .live then .real else .synthetic

/-- The database after the delivery of a failed payment to a tenant's queue. -/
def processFailed (db : Db) (tenantId : String) (event : CanonicalPaymentEvent) (priorCount : ℕ)
    (now : Timestamp) (entryId : String) : Db :=
  match db.getOpportunityByRazorpayEventId event.eventId with
  | some _ => db
  | none   =>
    let opp := event.toOpportunity (sourceOf event) tenantId event.environment priorCount now
    match db.insertOpportunity opp with
    | some db' => db'.insertLedgerEntry (receivedEntry entryId opp)
    | none     => db

variable {db : Db} {tenantId : String} {event : CanonicalPaymentEvent} {priorCount : ℕ}
  {now : Timestamp} {entryId : String}

lemma processFailed_of_stored (h : (db.getOpportunityByRazorpayEventId event.eventId).isSome) :
    processFailed db tenantId event priorCount now entryId = db := by
  obtain ⟨o, ho⟩ := Option.isSome_iff_exists.mp h
  rw [processFailed, ho]

/-- A delivery of a new event upserts its opportunity, whatever is stored under the payment's id. -/
lemma processFailed_of_new (tenantId : String) (priorCount : ℕ) (now : Timestamp) (entryId : String)
    (h : db.getOpportunityByRazorpayEventId event.eventId = none) :
    ∃ db', db.insertOpportunity (event.toOpportunity (sourceOf event) tenantId event.environment
        priorCount now) = some db' ∧
      processFailed db tenantId event priorCount now entryId =
        db'.insertLedgerEntry (receivedEntry entryId (event.toOpportunity (sourceOf event) tenantId
          event.environment priorCount now)) := by
  obtain ⟨db', hdb'⟩ := Db.exists_insertOpportunity (event.toOpportunity (sourceOf event)
    tenantId event.environment priorCount now) (by simp) h
  refine ⟨db', hdb', ?_⟩
  simp only [processFailed, h, hdb']

/-- The opportunity that a paid or captured delivery reconciles: the one with the payment's id, or
the one whose link id is stored for the tenant. -/
def matchPaid (db : Db) (tenantId : String) (event : CanonicalPaymentEvent) : Option String :=
  match (event.paymentId.filter (· ≠ "")).bind db.getOpportunityById with
  | some opp => some opp.id
  | none     =>
    (event.paymentLinkId.filter (· ≠ "")).bind fun linkId =>
      ((db.getAllExecutionRecords (some tenantId)).find? fun r =>
        r.razorpayPaymentLinkId = linkId).map (·.opportunityId)

end WebhookQueueEngine

end CtrlRecovery
