import CtrlRecovery.Reconciliation.AuthoritativeReconciler
import CtrlRecovery.Security.WebhookValidator
import CtrlRecovery.Webhooks.Ingestion

/-!
# The webhook handlers

`POST /webhooks/razorpay` and `POST /internal/simulate-webhook` authenticate a delivery for the
tenant that their route names. What the delivery then works on, its body names: the event of a
payment link reconciles the opportunity of its reference id, else the one whose execution record has
its link, of whatever tenant, and a failed payment is ingested for the tenant of the route.
-/

namespace CtrlRecovery

open Normalizer

/-! ### Requests -/

inductive WebhookRoute | razorpay | simulated
  deriving DecidableEq, Repr

/-- The payment link entity of an event. -/
structure LinkEntity where
  referenceId : Option String
  payload : ProviderPayload
  deriving DecidableEq, Repr

/-- The events that the handlers tell apart, with the entity of each. -/
inductive WebhookEvent
  | paymentLinkPaid (link : Option LinkEntity)
  | paymentLinkExpired (link : Option LinkEntity)
  | paymentLinkCancelled (link : Option LinkEntity)
  | paymentFailed (payment : Option RawPaymentPayload)
  | other
  deriving DecidableEq, Repr

/-- A request; `event` is what `rawBody` parses to. -/
structure WebhookRequest where
  tenantParam : Option String
  tenantQuery : Option String
  clientIp : String
  signature : Option String
  timestamp : Option HeaderNumber
  rawBody : String
  bodyEventId : Option String
  bodyId : Option String
  headerEventId : Option String
  paymentIsLive : Bool
  event : WebhookEvent

/-- What the processing of a delivery generates and counts. -/
structure DeliveryStamp where
  priorCount : ℕ
  lookedAt : Timestamp
  now : Timestamp
  entryId : String

namespace WebhookRequest

variable (request : WebhookRequest)

/-- The tenant that a request is for. -/
def tenantId (route : WebhookRoute) : String :=
  match route with
  | .razorpay  =>
    Js.orElse request.tenantParam (Js.orElse request.tenantQuery "tenant_system_default")
  | .simulated => Js.orElse request.tenantParam "tenant_system_default"

/-- The failed payment that a request reports. -/
def failedPayment : Option RawPaymentPayload :=
  match request.event with
  | .paymentFailed payment => payment
  | _                      => none

/-- The first id that a request has for its event. -/
def eventId (route : WebhookRoute) : Option String :=
  let ids :=
    match route with
    | .razorpay  =>
      [request.bodyEventId, request.bodyId, request.headerEventId,
        request.failedPayment.bind (·.id)]
    | .simulated => [request.bodyEventId, request.bodyId]
  ids.reduceOption.find? (· ≠ "")

/-- The payment link of a link event; the simulation knows the paid one only. -/
def link (route : WebhookRoute) : Option LinkEntity :=
  match request.event, route with
  | .paymentLinkPaid link, _              => link
  | .paymentLinkExpired link, .razorpay   => link
  | .paymentLinkCancelled link, .razorpay => link
  | _, _                                  => none

end WebhookRequest

namespace RazorpayWebhook

/-! ### Authentication -/

/-- `verifyWebhookSignature`. -/
def verifyWebhookSignature (platform : Platform) (rawBody signature secret : String) : Bool :=
  signature ≠ "" && secret ≠ "" && platform.hmacSha256 secret rawBody == signature

/-- The environment of the tenant of a request. -/
def secretsEnvironment (db : Db) (tenantId : String) (paymentIsLive : Bool) : Environment :=
  if paymentIsLive || (db.tenants.find? tenantId).any (·.environment == .live) then .live else .test

/-- The secrets that a route tries a signature with. -/
def webhookSecrets (platform : Platform) (credentials : Credentials) (db : Db)
    (route : WebhookRoute) (tenantId : String) (paymentIsLive : Bool) : List String :=
  let secretsOf := RazorpayConnectionService.getWebhookSecrets platform credentials tenantId
  match route with
  | .razorpay  =>
    match secretsEnvironment db tenantId paymentIsLive with
    | .live => (secretsOf .live ++ secretsOf .test).eraseDups
    | .test => (secretsOf .test ++ secretsOf .live).eraseDups
  | .simulated =>
    if secretsOf .test = [] ∧ platform.razorpayWebhookSecret = some "rzp_whsec_ctrl_test" then
      ["rzp_whsec_ctrl_test"]
    else secretsOf .test

variable (platform : Platform) (env : WebhookEnv) (credentials : Credentials) (db : Db)
  (route : WebhookRoute) (request : WebhookRequest)

/-- The secret that a request is signed with, among those of a tenant. -/
def authenticateFor (tenantId : String) (now : Timestamp) :
    Except WebhookValidator.Rejection String :=
  let secrets := webhookSecrets platform credentials db route tenantId request.paymentIsLive
  match route with
  | .razorpay =>
    (WebhookValidator.validateWebhook platform env
      { webhookSecrets := secrets
        clientIp := request.clientIp
        rawBody := request.rawBody
        signatureHeader := request.signature
        timestampHeader := request.timestamp } now).map fun index =>
      (WebhookValidator.candidateSecrets platform env secrets).getD index ""
  | .simulated =>
    match request.signature.filter (· ≠ "") with
    | none           => .error ⟨400, "Missing signature or no webhook secrets configured"⟩
    | some signature =>
      if secrets = [] then .error ⟨400, "Missing signature or no webhook secrets configured"⟩
      else
        match secrets.find? (verifyWebhookSignature platform request.rawBody signature) with
        | none        => .error ⟨400, "Invalid simulated webhook signature"⟩
        | some secret => .ok secret

/-- The secret of the tenant of its route that a request is signed with. -/
def authenticate (now : Timestamp) : Except WebhookValidator.Rejection String :=
  authenticateFor platform env credentials db route request (request.tenantId route) now

/-- Whether a tenant has configured a secret itself. -/
def isConfigured (tenantId secret : String) : Bool :=
  (RazorpayConnectionService.configuredSecrets credentials tenantId .test).contains secret ||
    (RazorpayConnectionService.configuredSecrets credentials tenantId .live).contains secret

/-! ### What a delivery works on -/

/-- The opportunity id that a payment link names: its reference, or that of the newest execution
record with its id. -/
def oppIdOf (link : LinkEntity) : Option String :=
  match link.referenceId.filter (· ≠ "") with
  | some referenceId => some referenceId
  | none             =>
    if link.payload.id = "" then none
    else ((db.getAllExecutionRecords none).find? fun r =>
      r.razorpayPaymentLinkId = link.payload.id).map (·.opportunityId)

/-- The stored opportunity that a payment link names. -/
def resolveLink (link : LinkEntity) : Option String :=
  (oppIdOf db link).filter fun id => id ≠ "" && (db.getOpportunityById id).isSome

/-- The signed delivery of a failed payment. -/
def failedDelivery (payment : RawPaymentPayload) : FailedPaymentDelivery where
  eventId := request.eventId route
  payment := payment
  paymentIsLive := request.paymentIsLive

/-- What a route does with a request. -/
inductive Handling
  | rejected (rejection : WebhookValidator.Rejection)
  | reconciles (source : PayloadSource) (id : String) (payload : ProviderPayload)
  | ingests (ingestion : Ingestion)
  | unprocessed
  | ignored

/-- A link event, authenticated with `secret`. -/
def handleLink (secret : String) : Handling :=
  match request.link route with
  | none      => .unprocessed
  | some link =>
    match resolveLink db link with
    | none    => .unprocessed
    | some id =>
      .reconciles (.delivered (request.tenantId route)
        (isConfigured credentials (request.tenantId route) secret)) id link.payload

/-- The ingestion of a failed payment. -/
def failedIngestion (payment : RawPaymentPayload) (stamp : DeliveryStamp) : Ingestion :=
  match route with
  | .razorpay  =>
    .webhook (request.tenantId route) (failedDelivery route request payment) stamp.priorCount
      stamp.lookedAt stamp.now stamp.entryId
  | .simulated =>
    .simulatedWebhook (request.tenantId route) (failedDelivery route request payment)
      stamp.priorCount stamp.lookedAt stamp.now stamp.entryId

/-- `POST /webhooks/razorpay` and `POST /internal/simulate-webhook`. -/
def handle (stamp : DeliveryStamp) : Handling :=
  match authenticate platform env credentials db route request stamp.now with
  | .error rejection => .rejected rejection
  | .ok secret       =>
    match request.event with
    | .paymentLinkPaid _              => handleLink credentials db route request secret
    | .paymentLinkExpired _           =>
      if route = .razorpay then handleLink credentials db route request secret else .ignored
    | .paymentLinkCancelled _         =>
      if route = .razorpay then handleLink credentials db route request secret else .ignored
    | .paymentFailed none             => .rejected ⟨400, "Missing payment entity in payload"⟩
    | .paymentFailed (some payment)   => .ingests (failedIngestion route request payment stamp)
    | .other                          => .ignored

variable {platform env credentials db route request} {stamp : DeliveryStamp}

/-- A delivery that reconciles is authenticated and names its opportunity by its payment link. -/
lemma of_handle_reconciles {source : PayloadSource} {id : String} {payload : ProviderPayload}
    (h : handle platform env credentials db route request stamp = .reconciles source id payload) :
    ∃ secret link,
      authenticate platform env credentials db route request stamp.now = .ok secret ∧
      request.link route = some link ∧ link.payload = payload ∧ resolveLink db link = some id ∧
      source = .delivered (request.tenantId route)
        (isConfigured credentials (request.tenantId route) secret) := by
  rw [handle] at h
  split at h
  · cases h
  next secret hsecret =>
    have hlink : handleLink credentials db route request secret = .reconciles source id payload := by
      split at h
      · exact h
      · split_ifs at h
        exact h
      · split_ifs at h
        exact h
      all_goals cases h
    rw [handleLink] at hlink
    split at hlink
    · cases hlink
    next link hrequest =>
      split at hlink
      · cases hlink
      next hresolved =>
        cases hlink
        exact ⟨secret, link, hsecret, hrequest, rfl, hresolved, rfl⟩

/-- A delivery that ingests is authenticated and reports a failed payment. -/
lemma of_handle_ingests {ingestion : Ingestion}
    (h : handle platform env credentials db route request stamp = .ingests ingestion) :
    ∃ secret payment,
      authenticate platform env credentials db route request stamp.now = .ok secret ∧
      request.failedPayment = some payment ∧
      ingestion = failedIngestion route request payment stamp := by
  rw [handle] at h
  split at h
  · cases h
  next secret hsecret =>
    have hlink : handleLink credentials db route request secret ≠ .ingests ingestion := by
      rw [handleLink]
      split
      · simp
      · split <;> simp
    split at h
    · exact absurd h hlink
    · split_ifs at h
      exact absurd h hlink
    · split_ifs at h
      exact absurd h hlink
    · cases h
    next payment hevent =>
      cases h
      refine ⟨secret, payment, hsecret, ?_, rfl⟩
      rw [WebhookRequest.failedPayment, hevent]
    · cases h

/-- Whether the failed payment of a request is stored already, under its event or its payment. -/
def isStored (db : Db) (route : WebhookRoute) (request : WebhookRequest)
    (payment : RawPaymentPayload) (lookedAt : Timestamp) : Bool :=
  let idPrefix :=
    match route with
    | .razorpay  => "pay_"
    | .simulated => "pay_sim_"
  (request.eventId route).any (fun id => (db.getOpportunityByRazorpayEventId id).isSome) ||
    (db.getOpportunityById (Js.orElse payment.id (idPrefix ++ toString lookedAt))).isSome

/-- The id that a failed payment is stored under. -/
def storedId (payment : RawPaymentPayload) (now : Timestamp) : String :=
  Js.orElse payment.id ("pay_" ++ toString now)

lemma tenantId_ne_empty : request.tenantId route ≠ "" := by
  cases route with
  | razorpay =>
    apply Js.orElse_ne_empty
    exact Js.orElse_ne_empty _ (by simp)
  | simulated => exact Js.orElse_ne_empty _ (by simp)

/-- What a route ingests is stored neither under its event nor under its payment. -/
lemma of_newOpportunity {delivery : FailedPaymentDelivery} {idPrefix : String}
    {options : NormalizeOptions} {priorCount : ℕ} {lookedAt now : Timestamp}
    {opp : RecoveryOpportunity}
    (h : newOpportunity db delivery idPrefix options priorCount lookedAt now = some opp) :
    (delivery.eventId.filter (· ≠ "")).bind db.getOpportunityByRazorpayEventId = none ∧
      db.getOpportunityById (Js.orElse delivery.payment.id (idPrefix ++ toString lookedAt)) = none ∧
      opp = normalizeOpportunity delivery.payment delivery.eventId options priorCount now := by
  rw [newOpportunity] at h
  split at h
  · cases h
  next hevent =>
    split at h
    · cases h
    next hpayment =>
      cases h
      exact ⟨hevent, hpayment, rfl⟩

/-- A failed payment that is ingested is not stored yet, and is stored for the tenant of the
route. -/
lemma of_ingested_failedIngestion {payment : RawPaymentPayload} {opp : RecoveryOpportunity}
    (h : ingested db (failedIngestion route request payment stamp) = some opp) :
    isStored db route request payment stamp.lookedAt = false ∧
      opp.id = storedId payment stamp.now ∧ opp.tenantId = request.tenantId route := by
  have hevent : (request.eventId route).filter (· ≠ "") = request.eventId route := by
    cases hid : request.eventId route with
    | none => rfl
    | some id =>
      have hne := List.find?_some hid
      rw [Option.filter_some, if_pos hne]
  have htenant : Js.orElse (some (request.tenantId route)) "tenant_default" =
      request.tenantId route := Js.orElse_of_ne_empty tenantId_ne_empty
  cases route with
  | razorpay =>
    obtain ⟨hfree, hpayment, rfl⟩ := of_newOpportunity h
    simp only [failedDelivery, hevent] at hfree hpayment
    refine ⟨?_, rfl, htenant⟩
    cases hid : request.eventId .razorpay <;> simp_all [isStored]
  | simulated =>
    obtain ⟨hfree, hpayment, rfl⟩ := of_newOpportunity h
    simp only [failedDelivery, hevent] at hfree hpayment
    refine ⟨?_, rfl, htenant⟩
    cases hid : request.eventId .simulated <;> simp_all [isStored]

end RazorpayWebhook

end CtrlRecovery
