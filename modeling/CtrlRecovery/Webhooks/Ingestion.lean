import CtrlRecovery.Webhooks.Queue
import CtrlRecovery.Db.StatusWrites

/-!
# Ingestion

A failed payment comes in through the signed webhook, the simulated webhook, the event gateway, the
gateway's test event, the webhook queue or the playground. Each path looks for an earlier delivery
in its own way (`ingested`), and upserts a pending opportunity when it finds none.

The queue alone does not look for the payment's id. The webhooks look for the id that they expect,
the gateway for the payment's id where the event has one.
-/

namespace CtrlRecovery

open Core OpportunityStatus Normalizer

/-! ### The paths -/

/-- A signed `payment.failed` delivery. -/
structure FailedPaymentDelivery where
  eventId : Option String
  payment : RawPaymentPayload
  paymentIsLive : Bool
  deriving DecidableEq, Repr

namespace RazorpayWebhook

/-- The environment of a delivery: live as soon as its tenant or its payment is. -/
def environmentOf (db : Db) (tenantId : String) (delivery : FailedPaymentDelivery) : Environment :=
  if delivery.paymentIsLive || (db.tenants.find? tenantId).any (·.environment == .live) then .live
  else .test

/-- The opportunity of a delivery that is stored neither under its event nor under its payment;
`lookedAt` and `now` are the times of the lookup and of the normalization. -/
def newOpportunity (db : Db) (delivery : FailedPaymentDelivery) (idPrefix : String)
    (options : NormalizeOptions) (priorCount : ℕ) (lookedAt now : Timestamp) :
    Option RecoveryOpportunity :=
  match (delivery.eventId.filter (· ≠ "")).bind db.getOpportunityByRazorpayEventId with
  | some _ => none
  | none   =>
    match db.getOpportunityById
        (Js.orElse delivery.payment.id (idPrefix ++ toString lookedAt)) with
    | some _ => none
    | none   =>
      some (normalizeOpportunity delivery.payment delivery.eventId options priorCount now)

/-- `POST /webhooks/razorpay`. -/
def handleRazorpayWebhook (db : Db) (tenantId : String) (delivery : FailedPaymentDelivery)
    (priorCount : ℕ) (lookedAt now : Timestamp) : Option RecoveryOpportunity :=
  newOpportunity db delivery "pay_"
    { source := .real, tenantId := tenantId, environment := environmentOf db tenantId delivery }
    priorCount lookedAt now

/-- `POST /internal/simulate-webhook`. -/
def handleSimulatedWebhook (db : Db) (tenantId : String) (delivery : FailedPaymentDelivery)
    (priorCount : ℕ) (lookedAt now : Timestamp) : Option RecoveryOpportunity :=
  newOpportunity db delivery "pay_sim_"
    { source := .synthetic, tenantId := tenantId, environment := .test } priorCount lookedAt now

end RazorpayWebhook

namespace EventGateway

/-- `POST /v1/events`: a failed event, looked up by its event and by its payment. -/
def ingestFailed (db : Db) (tenantId : String) (event : CanonicalPaymentEvent) (priorCount : ℕ)
    (now : Timestamp) : Option RecoveryOpportunity :=
  match db.getOpportunityByRazorpayEventId event.eventId with
  | some _ => none
  | none   =>
    match (event.paymentId.filter (· ≠ "")).bind db.getOpportunityById with
    | some _ => none
    | none   => some (event.toOpportunity .real tenantId event.environment priorCount now)

/-- What the integration wizard sends. -/
structure WizardRequest where
  amountPaise : Option ℚ
  failureCode : Option String
  failureDescription : Option String
  customerEmail : Option String
  deriving DecidableEq, Repr

/-- The payload of a test event; `suffix` is the random part of its ids. -/
def wizardPayload (request : WizardRequest) (now : Timestamp) (suffix : String) :
    RawPaymentPayload where
  id := some ("pay_test_wiz_" ++ toString now ++ "_" ++ suffix)
  amount := some ((request.amountPaise.filter (0 < ·)).getD 50000)
  currency := some "INR"
  errorCode := some (Js.orElse request.failureCode "INSUFFICIENT_FUNDS")
  errorReason := none
  errorDescription := some (Js.orElse request.failureDescription
    "Wizard Verification Test: Payment authorization declined by bank")
  customerId := some (Js.orElse request.customerEmail "wizard_test_user@example.com")
  email := some (Js.orElse request.customerEmail "wizard_test_user@example.com")
  contact := none
  attempts := some 1

/-- `POST /v1/events/test`. -/
def ingestTest (tenantId : String) (request : WizardRequest) (priorCount : ℕ) (now : Timestamp)
    (suffix : String) : RecoveryOpportunity :=
  normalizeOpportunity (wizardPayload request now suffix)
    (some ("evt_test_wiz_" ++ toString now ++ "_" ++ suffix))
    { source := .synthetic, tenantId := tenantId, environment := .test } priorCount now

end EventGateway

namespace WebhookQueueEngine

/-- The opportunity of a failed delivery of the queue, looked up by its event only. -/
def newOpportunity (db : Db) (tenantId : String) (event : CanonicalPaymentEvent) (priorCount : ℕ)
    (now : Timestamp) : Option RecoveryOpportunity :=
  match db.getOpportunityByRazorpayEventId event.eventId with
  | some _ => none
  | none   => some (event.toOpportunity (sourceOf event) tenantId event.environment priorCount now)

end WebhookQueueEngine

namespace Playground

/-- The error code and description of a simulated scenario. -/
def scenarioError : String → String × String
  | "soft_expired_card" => ("CARD_EXPIRED", "Customer card expired on file")
  | "soft_timeout" =>
    ("BANK_GATEWAY_TIMEOUT", "Acquiring bank network timed out during 3DS OTP verification")
  | "hard_stolen_card" | "hard_stolen" =>
    ("CARD_STOLEN", "Issuer hard decline: Card reported lost or stolen")
  | "hard_fraud_block" =>
    ("BAD_REQUEST_PAYMENT_CARD_RESTRICTED",
      "Restricted instrument blocked by fraud risk engine")
  | "capacity_saturation" | "capacity_bind" =>
    ("INSUFFICIENT_FUNDS", "Low incremental value opportunity under saturated capacity")
  | _ => ("INSUFFICIENT_FUNDS", "Payment failed: Insufficient funds in customer account")

/-- What a visitor of the playground sends. -/
structure ScenarioRequest where
  scenario : String
  amountPaise : Option ℚ
  customerId : Option String
  customerEmail : Option String
  customerContact : Option String
  deriving DecidableEq, Repr

def scenarioPaymentId (now : Timestamp) (suffix : String) : String :=
  "pay_pg_" ++ toString now ++ "_" ++ suffix

/-- The payload of a simulated scenario; `suffix` is the random part of its id. -/
def scenarioPayload (request : ScenarioRequest) (now : Timestamp) (suffix : String) :
    RawPaymentPayload where
  id := some (scenarioPaymentId now suffix)
  amount := some (Js.orDefault (Js.orZero request.amountPaise) 10000)
  currency := some "INR"
  errorCode := some (scenarioError request.scenario).1
  errorReason := none
  errorDescription := some (scenarioError request.scenario).2
  customerId := some (Js.orElse request.customerId
    ("cust_" ++ Js.lastChars 6 (scenarioPaymentId now suffix)))
  email := some (Js.orElse request.customerEmail "aarav.patel@example.com")
  contact := some (Js.orElse request.customerContact "+919876543210")
  attempts := none

/-- The opportunity of `POST /v1/playground/simulate-scenario`. -/
def ingestScenario (tenantId : String) (request : ScenarioRequest) (priorCount : ℕ)
    (now : Timestamp) (suffix : String) : RecoveryOpportunity :=
  normalizeOpportunity (scenarioPayload request now suffix) (some ("evt_pg_" ++ toString now))
    { source := .synthetic, tenantId := tenantId, environment := .test } priorCount now

end Playground

/-! ### One ingestion -/

/-- A delivery on one of the paths, with the ids and times that its processing generates. -/
inductive Ingestion
  | webhook (tenantId : String) (delivery : FailedPaymentDelivery) (priorCount : ℕ)
      (lookedAt now : Timestamp) (entryId : String)
  | simulatedWebhook (tenantId : String) (delivery : FailedPaymentDelivery) (priorCount : ℕ)
      (lookedAt now : Timestamp) (entryId : String)
  | event (tenantId : String) (event : CanonicalPaymentEvent) (priorCount : ℕ) (now : Timestamp)
      (entryId : String)
  | testEvent (tenantId : String) (request : EventGateway.WizardRequest) (priorCount : ℕ)
      (now : Timestamp) (suffix entryId : String)
  | queued (tenantId : String) (event : CanonicalPaymentEvent) (priorCount : ℕ) (now : Timestamp)
      (entryId : String)
  | scenario (tenantId : String) (request : Playground.ScenarioRequest) (priorCount : ℕ)
      (now : Timestamp) (suffix : String)

/-- The opportunity that an ingestion upserts; none for a duplicate. -/
def ingested (db : Db) : Ingestion → Option RecoveryOpportunity
  | .webhook tenantId delivery priorCount lookedAt now _ =>
    RazorpayWebhook.handleRazorpayWebhook db tenantId delivery priorCount lookedAt now
  | .simulatedWebhook tenantId delivery priorCount lookedAt now _ =>
    RazorpayWebhook.handleSimulatedWebhook db tenantId delivery priorCount lookedAt now
  | .event tenantId event priorCount now _ =>
    EventGateway.ingestFailed db tenantId event priorCount now
  | .testEvent tenantId request priorCount now suffix _ =>
    some (EventGateway.ingestTest tenantId request priorCount now suffix)
  | .queued tenantId event priorCount now _ =>
    WebhookQueueEngine.newOpportunity db tenantId event priorCount now
  | .scenario tenantId request priorCount now suffix =>
    some (Playground.ingestScenario tenantId request priorCount now suffix)

/-- The id of the audit entry of an ingestion; the playground writes none. -/
def Ingestion.auditId : Ingestion → Option String
  | .webhook _ _ _ _ _ entryId | .simulatedWebhook _ _ _ _ _ entryId | .event _ _ _ _ entryId
  | .testEvent _ _ _ _ _ entryId | .queued _ _ _ _ entryId => some entryId
  | .scenario .. => none

/-- The database after an ingestion; an upsert that throws leaves it as it was. -/
def ingest (db : Db) (ingestion : Ingestion) : Db :=
  match ingested db ingestion with
  | none     => db
  | some opp =>
    match db.insertOpportunity opp with
    | none     => db
    | some db' =>
      match ingestion.auditId with
      | some entryId => db'.insertLedgerEntry (receivedEntry entryId opp)
      | none         => db'

/-! ### What an ingestion does -/

variable {db : Db} {ingestion : Ingestion}

lemma ingest_queued (db : Db) (tenantId : String) (event : CanonicalPaymentEvent) (priorCount : ℕ)
    (now : Timestamp) (entryId : String) :
    ingest db (.queued tenantId event priorCount now entryId) =
      WebhookQueueEngine.processFailed db tenantId event priorCount now entryId := by
  rw [ingest, ingested, WebhookQueueEngine.newOpportunity, WebhookQueueEngine.processFailed]
  cases db.getOpportunityByRazorpayEventId event.eventId with
  | some o => rfl
  | none =>
    simp only [WebhookQueueEngine.sourceOf, Ingestion.auditId]
    split <;> simp_all

/-- Every path ingests pending opportunities. -/
lemma status_of_ingested {opp : RecoveryOpportunity} (h : ingested db ingestion = some opp) :
    opp.status = pending := by
  cases ingestion with
  | webhook tenantId delivery priorCount lookedAt now entryId =>
    simp only [ingested, RazorpayWebhook.handleRazorpayWebhook, RazorpayWebhook.newOpportunity] at h
    split at h
    · cases h
    · split at h <;> cases h
      rfl
  | simulatedWebhook tenantId delivery priorCount lookedAt now entryId =>
    simp only [ingested, RazorpayWebhook.handleSimulatedWebhook,
      RazorpayWebhook.newOpportunity] at h
    split at h
    · cases h
    · split at h <;> cases h
      rfl
  | event tenantId event priorCount now entryId =>
    simp only [ingested, EventGateway.ingestFailed] at h
    split at h
    · cases h
    · split at h <;> cases h
      rfl
  | queued tenantId event priorCount now entryId =>
    simp only [ingested, WebhookQueueEngine.newOpportunity] at h
    split at h <;> cases h
    rfl
  | testEvent tenantId request priorCount now suffix entryId =>
    cases h
    rfl
  | scenario tenantId request priorCount now suffix =>
    cases h
    rfl

/-- An ingestion changes nothing, or upserts its opportunity. -/
lemma ingest_spec (db : Db) (ingestion : Ingestion) :
    ingest db ingestion = db ∨
      ∃ opp db', ingested db ingestion = some opp ∧ db.insertOpportunity opp = some db' ∧
        SameRows db' (ingest db ingestion) := by
  rw [ingest]
  cases hopp : ingested db ingestion with
  | none => exact .inl rfl
  | some opp =>
    cases hins : db.insertOpportunity opp with
    | none => exact .inl (by simp [hins])
    | some db' =>
      refine .inr ⟨opp, db', rfl, hins, ?_⟩
      simp only [hins]
      cases ingestion.auditId with
      | none => exact .refl db'
      | some entryId => exact ⟨rfl, rfl, rfl, rfl⟩

/-! ### Deliveries of one payment -/

namespace Ingestion

/-- The payment that a delivery names; the test event and the playground make up their own. -/
def paymentId : Ingestion → Option String
  | .webhook _ delivery _ _ _ _ | .simulatedWebhook _ delivery _ _ _ _ =>
    delivery.payment.id.filter (· ≠ "")
  | .event _ failed _ _ _ | .queued _ failed _ _ _ => failed.paymentId.filter (· ≠ "")
  | .testEvent .. | .scenario .. => none

/-- The event that a delivery names. -/
def eventId : Ingestion → Option String
  | .webhook _ delivery _ _ _ _ | .simulatedWebhook _ delivery _ _ _ _ =>
    delivery.eventId.filter (· ≠ "")
  | .event _ failed _ _ _ | .queued _ failed _ _ _ => some failed.eventId
  | .testEvent .. | .scenario .. => none

/-- Whether a delivery comes through the queue. -/
def isQueued : Ingestion → Bool
  | .queued .. => true
  | _ => false

/-- Whether an opportunity is stored under the event of a delivery. -/
def eventStored (db : Db) (ingestion : Ingestion) : Bool :=
  ingestion.eventId.any fun eventId => (db.getOpportunityByRazorpayEventId eventId).isSome

/-- Whether a delivery of a payment is taken for a duplicate: the queue looks at the event only, the
other paths at the payment too. -/
def isDuplicate (db : Db) (paymentId : String) (ingestion : Ingestion) : Bool :=
  ingestion.eventStored db ||
    (!ingestion.isQueued && (db.getOpportunityById paymentId).isSome)

end Ingestion

lemma newOpportunity_of_paymentId {delivery : FailedPaymentDelivery} {idPrefix paymentId : String}
    {options : NormalizeOptions} {priorCount : ℕ} {lookedAt now : Timestamp}
    (h : delivery.payment.id.filter (· ≠ "") = some paymentId) :
    ∃ opp : RecoveryOpportunity, opp.id = paymentId ∧
      opp.razorpayEventId = delivery.eventId.filter (· ≠ "") ∧
      RazorpayWebhook.newOpportunity db delivery idPrefix options priorCount lookedAt now =
        if (delivery.eventId.filter (· ≠ "")).any (fun eventId =>
            (db.getOpportunityByRazorpayEventId eventId).isSome) ||
          (db.getOpportunityById paymentId).isSome then none
        else some opp := by
  obtain ⟨hid, hne⟩ := Option.filter_eq_some_iff.mp h
  rw [decide_eq_true_eq] at hne
  refine ⟨normalizeOpportunity delivery.payment delivery.eventId options priorCount now, ?_, rfl, ?_⟩
  · rw [normalizeOpportunity_id, hid, Js.orElse_of_ne_empty hne]
  · rw [RazorpayWebhook.newOpportunity, hid, Js.orElse_of_ne_empty hne]
    cases delivery.eventId.filter (· ≠ "") with
    | none => cases db.getOpportunityById paymentId <;> simp
    | some eventId =>
      cases hevent : db.getOpportunityByRazorpayEventId eventId with
      | some o => simp [hevent]
      | none => cases db.getOpportunityById paymentId <;> simp [hevent]

/-- What a delivery of a payment is ingested as, unless it is taken for a duplicate. -/
lemma ingested_of_paymentId (db : Db) {paymentId : String}
    (h : ingestion.paymentId = some paymentId) :
    ∃ opp : RecoveryOpportunity, opp.id = paymentId ∧ opp.razorpayEventId = ingestion.eventId ∧
      ingested db ingestion = if ingestion.isDuplicate db paymentId then none else some opp := by
  cases ingestion with
  | webhook tenantId delivery priorCount lookedAt now entryId => exact newOpportunity_of_paymentId h
  | simulatedWebhook tenantId delivery priorCount lookedAt now entryId =>
    exact newOpportunity_of_paymentId h
  | event tenantId event priorCount now entryId =>
    obtain ⟨hid, hne⟩ := Option.filter_eq_some_iff.mp h
    rw [decide_eq_true_eq] at hne
    refine ⟨event.toOpportunity .real tenantId event.environment priorCount now, ?_, by simp
      [Ingestion.eventId], ?_⟩
    · simp [CanonicalPaymentEvent.opportunityId, hid, Js.orElse_of_ne_empty hne]
    · have hfilter : event.paymentId.filter (· ≠ "") = some paymentId := h
      have hdup : (Ingestion.event tenantId event priorCount now entryId).isDuplicate db paymentId =
          ((db.getOpportunityByRazorpayEventId event.eventId).isSome ||
            (db.getOpportunityById paymentId).isSome) := rfl
      rw [ingested, EventGateway.ingestFailed, hfilter, Option.bind_some, hdup]
      cases db.getOpportunityByRazorpayEventId event.eventId with
      | some o => rfl
      | none => cases db.getOpportunityById paymentId <;> rfl
  | queued tenantId event priorCount now entryId =>
    obtain ⟨hid, hne⟩ := Option.filter_eq_some_iff.mp h
    rw [decide_eq_true_eq] at hne
    refine ⟨event.toOpportunity (WebhookQueueEngine.sourceOf event) tenantId event.environment
      priorCount now, ?_, by simp [Ingestion.eventId], ?_⟩
    · simp [CanonicalPaymentEvent.opportunityId, hid, Js.orElse_of_ne_empty hne]
    · have hdup : (Ingestion.queued tenantId event priorCount now entryId).isDuplicate db paymentId =
          ((db.getOpportunityByRazorpayEventId event.eventId).isSome || false) := rfl
      rw [ingested, WebhookQueueEngine.newOpportunity, hdup]
      cases db.getOpportunityByRazorpayEventId event.eventId <;> rfl
  | testEvent tenantId request priorCount now suffix entryId => cases h
  | scenario tenantId request priorCount now suffix => cases h

lemma ingest_of_isDuplicate {paymentId : String} (h : ingestion.paymentId = some paymentId)
    (hdup : ingestion.isDuplicate db paymentId) : ingest db ingestion = db := by
  obtain ⟨opp, -, -, hopp⟩ := ingested_of_paymentId db h
  rw [ingest, hopp, if_pos hdup]

/-- Another delivery upserts the payment and adds its audit entry. -/
lemma ingest_of_not_isDuplicate {paymentId : String} (h : ingestion.paymentId = some paymentId)
    (hdup : ¬ ingestion.isDuplicate db paymentId) :
    ∃ opp db' entryId, opp.id = paymentId ∧ ingestion.auditId = some entryId ∧
      db.insertOpportunity opp = some db' ∧
      ingest db ingestion = db'.insertLedgerEntry (receivedEntry entryId opp) := by
  obtain ⟨opp, hid, hevent, hopp⟩ := ingested_of_paymentId db h
  obtain ⟨entryId, haudit⟩ : ∃ entryId, ingestion.auditId = some entryId := by
    cases ingestion with
    | scenario tenantId request priorCount now suffix => cases h
    | _ => exact ⟨_, rfl⟩
  obtain ⟨db', hins⟩ : ∃ db', db.insertOpportunity opp = some db' := by
    apply Db.exists_insertOpportunity_of_free
    intro eventId heventId
    rw [hevent] at heventId
    by_contra hstored
    refine hdup ?_
    rw [Ingestion.isDuplicate, Ingestion.eventStored, heventId, Option.any_some,
      Option.isSome_iff_ne_none.mpr hstored, Bool.true_or]
  refine ⟨opp, db', entryId, hid, haudit, hins, ?_⟩
  rw [ingest, hopp, if_neg hdup]
  simp [hins, haudit]

end CtrlRecovery
