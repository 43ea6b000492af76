import CtrlRecovery.Authority.Gate
import CtrlRecovery.Execution.Dlq
import CtrlRecovery.Reconciliation.AuthoritativeReconciler

/-!
# The executor

One call of `executeOpportunity` asks the gate, looks for a stored payment link and otherwise
creates one with the provider. It is suspended while it waits for the client, for the link creation,
for the lookup of a link that the provider already has, and for the dead-letter queue; `ExecuteCall`
is a call at such a point and `ExecuteCall.advance` takes it to the next one.

In a test environment a failed creation is answered by a simulated link.
-/

namespace CtrlRecovery

open Core OpportunityStatus

/-! ### The provider's answers -/

/-- A payment link as the provider returns it. -/
structure LinkResponse where
  id : String
  shortUrl : Option String
  status : Option String
  deriving DecidableEq, Repr

/-- An error that a provider call is rejected with. -/
structure ProviderError where
  description : Option String
  message : Option String
  statusCode : Option ℕ
  code : Option String
  deriving DecidableEq, Repr

namespace ProviderError

/-- The text that decides about a conflict. -/
def errorDesc (error : ProviderError) : String :=
  Js.orElse error.description (Js.orElse error.message "")

/-- The provider already holds a link under this reference. -/
def isConflict (error : ProviderError) : Bool :=
  Js.includes error.errorDesc "already exists" || Js.includes error.errorDesc "reference_id"

/-- The text that is shown and recorded. -/
def userFacing (error : ProviderError) : String :=
  let text := Js.orElse error.description (Js.orElse error.message "Razorpay API execution failed")
  if Js.includes text "auth" || Js.includes text "key_id" || Js.includes text "Unauthorized" ||
      error.statusCode == some 401 then
    "Razorpay credentials unauthorized or missing. Please configure valid Test Mode Key ID & " ++
      "Secret in Settings > Integrations."
  else text

/-- An error after which the circuit breaker does not try again. -/
def isFinal (error : ProviderError) : Bool :=
  error.statusCode == some 429 || error.statusCode == some 400 ||
    error.description.any (Js.includes · "Too many requests") ||
    error.code == some "BAD_REQUEST_ERROR"

/-- An error that is only a message. -/
def ofMessage (message : String) : ProviderError where
  description := none
  message := some message
  statusCode := none
  code := none

end ProviderError

/-! ### A call -/

structure SingleExecutionResult where
  opportunityId : String
  success : Bool
  createdNew : Bool
  testModeFallback : Bool
  record : Option ExecutionRecord
  error : Option String
  deriving DecidableEq, Repr

/-- What a call holds on to across its awaits. -/
structure ExecutionRun where
  opp : RecoveryOpportunity
  executionEnv : Environment
  deriving DecidableEq, Repr

inductive ExecuteCall
  | resolvingClient (run : ExecutionRun)
  | creating (run : ExecutionRun) (client : ProviderClient) (attempt : ℕ)
  | lookingUp (run : ExecutionRun) (client : ProviderClient) (error : ProviderError)
  | failing (opportunityId error : String)
  | counted (failure : ExecutionDLQ.Failure)
  | inserting (failure : ExecutionDLQ.Failure)
  | finished (result : Except String SingleExecutionResult)

/-- What a suspended call waits for: the pool's client together with the state of the circuit
breaker, the outcome of one creation attempt, the outcome of a lookup, or the database. -/
inductive ExecuteAnswer
  | client (client : Except String ProviderClient) (breakerOpen : Bool)
  | attempt (response : Except ProviderError LinkResponse)
  | lookup (link : Option LinkResponse)
  | database

namespace Executor

def maxRetries : ℕ := 5

/-- The ceiling for a live link: ₹50,000. -/
def MAX_LIVE_SINGLE_OPPORTUNITY_PAISE : ℚ := 5000000

/-- The record of a link that the provider returned. -/
def providerRecord (opp : RecoveryOpportunity) (link : LinkResponse) (now : Timestamp) :
    ExecutionRecord where
  opportunityId := opp.id
  razorpayPaymentLinkId := link.id
  linkUrl := Js.orElse link.shortUrl ("https://rzp.io/i/" ++ link.id)
  status := Js.orElse link.status "created"
  idempotencyKey := "ref_" ++ opp.id
  createdAt := now

/-- The id of the link that is made up in test mode. -/
def mockPlinkId (opp : RecoveryOpportunity) : String :=
  "plink_test_" ++ Js.lastChars 12 (Js.keepAlphanumeric opp.id)

/-- The record of a simulated link. -/
def simulatedRecord (opp : RecoveryOpportunity) (now : Timestamp) : ExecutionRecord where
  opportunityId := opp.id
  razorpayPaymentLinkId := mockPlinkId opp
  linkUrl := "https://rzp.io/i/" ++ mockPlinkId opp
  status := "simulated"
  idempotencyKey := "ref_" ++ opp.id
  createdAt := now

/-- The audit entry of a created link. -/
def linkEntry (entryId : String) (opp : RecoveryOpportunity) (now : Timestamp) : LedgerEntry where
  id := entryId
  opportunityId := opp.id
  eventType := .reconciled
  amountPaise := opp.amountPaise
  timestamp := now

/-- Store a link and move its opportunity to `executing`. -/
def storeLink (db : Db) (record : ExecutionRecord) : Db :=
  (db.upsertExecutionRecord record).updateStatus record.opportunityId executing

def success (record : ExecutionRecord) (createdNew testModeFallback : Bool) : ExecuteCall :=
  .finished (.ok
    { opportunityId := record.opportunityId
      success := true
      createdNew := createdNew
      testModeFallback := testModeFallback
      record := some record
      error := none })

/-! ### The start of a call -/

/-- The environment that the money moves in: live as soon as the tenant or the opportunity is. -/
def executionEnv (db : Db) (opp : RecoveryOpportunity) : Environment :=
  if (db.tenants.find? opp.tenantId).any (·.environment == .live) || opp.environment == .live then
    .live
  else opp.environment

def notAuthorizedError (result : AuthorityEvaluationResult) : String :=
  "Compliance Violation: Opportunity " ++ result.opportunityId ++ " is not AUTHORIZED (verdict: " ++
    result.verdict.text ++ ", reason: \"" ++ result.summaryReason ++
    "\"). Real payment link creation strictly rejected."

/-- The synchronous first part of a call: the gate and the idempotency check. -/
def start (ks : KillSwitches) (est : Estimator) (now : Timestamp) (db : Db) (id : String) :
    ExecuteCall × Db :=
  match db.getOpportunityById id with
  | none     => (.finished (.error ("Opportunity not found: " ++ id)), db)
  | some opp =>
    let evaluated := Authority.evaluateStored ks est now "Unallocated execution attempt" db opp
    if evaluated.1.verdict ≠ .authorized then
      (.finished (.error (notAuthorizedError evaluated.1)), evaluated.2)
    else
      match evaluated.2.getExecutionRecordByOpportunityId opp.id with
      | some record =>
        (success record false false,
          if opp.status ≠ recovered then evaluated.2.updateStatus opp.id executing else evaluated.2)
      | none => (.resolvingClient ⟨opp, executionEnv evaluated.2 opp⟩, evaluated.2)

/-! ### The awaits of a call -/

/-- The end of a call whose link could not be created: a simulated link in test mode, else the
dead-letter queue. -/
def fail (run : ExecutionRun) (error : ProviderError) (now : Timestamp) (entryId : String)
    (db : Db) : ExecuteCall × Db :=
  match run.executionEnv with
  | .test =>
    let record := simulatedRecord run.opp now
    (success record true true,
      (storeLink db record).insertLedgerEntry (linkEntry entryId run.opp now))
  | .live => (.failing run.opp.id error.userFacing, db)

/-- The creation has failed for good. -/
def creationFailed (run : ExecutionRun) (client : ProviderClient) (error : ProviderError)
    (now : Timestamp) (entryId : String) (db : Db) : ExecuteCall × Db :=
  if error.isConflict then (.lookingUp run client error, db) else fail run error now entryId db

def breakerOpenError (run : ExecutionRun) : ProviderError :=
  .ofMessage ("CircuitBreaker is OPEN for RazorpayPaymentLinkCreate(" ++ run.opp.id ++
    "). Operations are currently suspended.")

/-- The client is chosen: the live ceiling, and the circuit breaker. -/
def launch (run : ExecutionRun) (tenantClient : ProviderClient) (breakerOpen : Bool)
    (now : Timestamp) (entryId : String) (db : Db) : ExecuteCall × Db :=
  if run.executionEnv = .live ∧ run.opp.amountPaise > MAX_LIVE_SINGLE_OPPORTUNITY_PAISE then
    (.finished (.error ("Financial Safety Ceiling Exceeded: Opportunity " ++ run.opp.id ++
      " amount (₹" ++ Js.rupees run.opp.amountPaise ++
      ") exceeds maximum live safety limit of ₹50,000.00. Automatic recovery blocked.")), db)
  else if breakerOpen then
    creationFailed run tenantClient (breakerOpenError run) now entryId db
  else (.creating run tenantClient 1, db)

/-- The client pool has answered; in a test environment the default client stands in for a missing
one. -/
def clientResolved (run : ExecutionRun) (client : Except String ProviderClient)
    (breakerOpen : Bool) (now : Timestamp) (entryId : String) (db : Db) : ExecuteCall × Db :=
  match client with
  | .ok client     => launch run client breakerOpen now entryId db
  | .error message =>
    if run.executionEnv = .live then
      (.finished (.error ("Production Execution Blocked: " ++ message)), db)
    else launch run .rzpClient breakerOpen now entryId db

/-- The outcome of one creation attempt; the circuit breaker tries a failed one again. -/
def attempted (run : ExecutionRun) (client : ProviderClient) (attempt : ℕ)
    (response : Except ProviderError LinkResponse) (now : Timestamp) (entryId : String) (db : Db) :
    ExecuteCall × Db :=
  match response with
  | .ok link =>
    let record := providerRecord run.opp link now
    (success record true false,
      (storeLink db record).insertLedgerEntry (linkEntry entryId run.opp now))
  | .error error =>
    if attempt ≥ maxRetries ∨ error.isFinal then creationFailed run client error now entryId db
    else (.creating run client (attempt + 1), db)

/-- The outcome of the lookup of a conflicting link. -/
def lookedUp (run : ExecutionRun) (error : ProviderError) (link : Option LinkResponse)
    (now : Timestamp) (entryId : String) (db : Db) : ExecuteCall × Db :=
  match link with
  | some link =>
    let record := providerRecord run.opp link now
    (success record false false, storeLink db record)
  | none => fail run error now entryId db

/-- The failed call's result, once the dead-letter queue has its job. -/
def failed (failure : ExecutionDLQ.Failure) : ExecuteCall :=
  .finished (.ok
    { opportunityId := failure.opportunityId
      success := false
      createdNew := false
      testModeFallback := false
      record := none
      error := some failure.error })

/-- Take a suspended call to its next await; `none` when it does not wait for this answer. -/
def advance (answer : ExecuteAnswer) (now : Timestamp) (entryId : String) (db : Db) :
    ExecuteCall → Option (ExecuteCall × Db)
  | .resolvingClient run =>
    match answer with
    | .client client breakerOpen => some (clientResolved run client breakerOpen now entryId db)
    | _ => none
  | .creating run client attempt =>
    match answer with
    | .attempt response => some (attempted run client attempt response now entryId db)
    | _ => none
  | .lookingUp run _ error =>
    match answer with
    | .lookup link => some (lookedUp run error link now entryId db)
    | _ => none
  | .failing opportunityId error =>
    match answer with
    | .database => some (.counted (ExecutionDLQ.countFailure db opportunityId error now), db)
    | _ => none
  | .counted failure =>
    match answer with
    | .database => some (.inserting failure, ExecutionDLQ.deadLetter db failure)
    | _ => none
  | .inserting failure =>
    match answer with
    | .database => some (failed failure, ExecutionDLQ.insertJob db failure)
    | _ => none
  | .finished _ => none

/-- The steps of `advance`, one for each await. -/
inductive Advances (now : Timestamp) (entryId : String) (db : Db) :
    ExecuteAnswer → ExecuteCall → ExecuteCall × Db → Prop
  | resolvingClient (run : ExecutionRun) (client : Except String ProviderClient)
      (breakerOpen : Bool) :
      Advances now entryId db (.client client breakerOpen) (.resolvingClient run)
        (clientResolved run client breakerOpen now entryId db)
  | creating (run : ExecutionRun) (client : ProviderClient) (attempt : ℕ)
      (response : Except ProviderError LinkResponse) :
      Advances now entryId db (.attempt response) (.creating run client attempt)
        (attempted run client attempt response now entryId db)
  | lookingUp (run : ExecutionRun) (client : ProviderClient) (error : ProviderError)
      (link : Option LinkResponse) :
      Advances now entryId db (.lookup link) (.lookingUp run client error)
        (lookedUp run error link now entryId db)
  | failing (opportunityId error : String) :
      Advances now entryId db .database (.failing opportunityId error)
        (.counted (ExecutionDLQ.countFailure db opportunityId error now), db)
  | counted (failure : ExecutionDLQ.Failure) :
      Advances now entryId db .database (.counted failure)
        (.inserting failure, ExecutionDLQ.deadLetter db failure)
  | inserting (failure : ExecutionDLQ.Failure) :
      Advances now entryId db .database (.inserting failure)
        (failed failure, ExecutionDLQ.insertJob db failure)

lemma advances_of_advance {answer : ExecuteAnswer} {now : Timestamp} {entryId : String} {db : Db}
    {c : ExecuteCall} {p : ExecuteCall × Db} (h : advance answer now entryId db c = some p) :
    Advances now entryId db answer c p := by
  cases c <;> cases answer <;> cases h <;> constructor

end Executor

end CtrlRecovery
