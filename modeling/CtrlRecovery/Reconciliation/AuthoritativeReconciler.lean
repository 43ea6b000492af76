import CtrlRecovery.Core.Transaction
import CtrlRecovery.Db.OpportunityRepository
import CtrlRecovery.Platform
import CtrlRecovery.Truth.CanonicalStateMachine
import CtrlRecovery.Truth.DoubleEntryLedger

/-!
# The reconciler

One call of `reconcileOpportunity` runs in phases with an await between them: it reads the
opportunity and its execution record, obtains a provider payload, and commits one database
transaction. Everything it decides is decided from the row it read at the start.

`ReconcileCall` is a call between two phases. `reconcileStart`, `reconcileFetched` and
`reconcileCommit` are the phases.
-/

namespace CtrlRecovery

open Core OpportunityStatus

/-! ### Results -/

inductive ReconciliationOutcome | matched | transition | pending | mismatch | unknown
  deriving DecidableEq, Repr

structure ReconciliationResult where
  opportunityId : String
  paymentLinkId : Option String
  previousOpportunityStatus : String
  newOpportunityStatus : String
  canonicalState : CanonicalPaymentState
  isRecovered : Bool
  amountPaidPaise : ℚ
  paymentId : Option String
  ledgerEntryHash : Option String
  isIdempotentNoOp : Bool
  status : ReconciliationOutcome
  rationale : String
  timestamp : Timestamp
  error : Option String
  deriving DecidableEq, Repr

/-! ### Where a payload comes from -/

/-- The client that fetched a payload: the pool's client with the credentials of a tenant, its
client with the platform's credentials for a tenant that has none, or the process-wide default
client that stands in when the pool has no client at all. -/
inductive ProviderClient
  | pool (tenantId : String) (environment : Environment)
  | system (environment : Environment)
  | rzpClient
  deriving DecidableEq, Repr

/-- A payload is fetched by a client, or delivered on the webhook route of a tenant with a
signature that verifies under `secret`; `configured` says whether the secret is the tenant's own. -/
inductive PayloadSource
  | fetched (client : ProviderClient)
  | delivered (tenantId : String) (configured : Bool)
  deriving DecidableEq, Repr

/-! ### Phases of a call -/

/-- What a call reads when it starts. -/
structure ReconcileRead where
  opp : RecoveryOpportunity
  execRecord : Option ExecutionRecord
  now : Timestamp
  deriving DecidableEq, Repr

/-- What a call has decided when it enters its transaction. -/
structure SettlementPlan where
  read : ReconcileRead
  source : PayloadSource
  truthEval : ProviderTruthEvaluation
  canonicalMapping : RazorpayStateMappingResult
  targetOpportunityStatus : OpportunityStatus
  targetExecStatus : String
  outcome : ReconciliationOutcome
  deriving DecidableEq, Repr

inductive ReconcileCall
  | fetching (read : ReconcileRead)
  | committing (plan : SettlementPlan)
  | finished (result : ReconciliationResult)
  deriving DecidableEq, Repr

/-- The fresh values of a transaction: its generated ids. -/
structure TransactionIds where
  doubleEntryId : String
  ledgerAuditId : String
  outcomeId : String
  memoryId : String
  divergenceId : String
  deriving DecidableEq, Repr

namespace AuthoritativeReconciler

/-! ### Start -/

def notFoundResult (id : String) (now : Timestamp) : ReconciliationResult where
  opportunityId := id
  paymentLinkId := none
  previousOpportunityStatus := "UNKNOWN"
  newOpportunityStatus := "UNKNOWN"
  canonicalState := .unknown
  isRecovered := false
  amountPaidPaise := 0
  paymentId := none
  ledgerEntryHash := none
  isIdempotentNoOp := false
  status := .unknown
  rationale := "Opportunity not found in database: " ++ id
  timestamp := now
  error := some "OPPORTUNITY_NOT_FOUND"

/-- The result of a call that stops before its transaction and leaves the status as it read it. -/
def unchangedResult (read : ReconcileRead) (paymentLinkId : Option String)
    (canonicalState : CanonicalPaymentState) (isIdempotentNoOp : Bool)
    (status : ReconciliationOutcome) (rationale : String) (error : Option String) :
    ReconciliationResult where
  opportunityId := read.opp.id
  paymentLinkId := paymentLinkId
  previousOpportunityStatus := read.opp.status.text
  newOpportunityStatus := read.opp.status.text
  canonicalState := canonicalState
  isRecovered := false
  amountPaidPaise := 0
  paymentId := none
  ledgerEntryHash := none
  isIdempotentNoOp := isIdempotentNoOp
  status := status
  rationale := rationale
  timestamp := read.now
  error := error

def alreadySettledResult (read : ReconcileRead) (truthEval : ProviderTruthEvaluation) :
    ReconciliationResult where
  opportunityId := read.opp.id
  paymentLinkId := some truthEval.paymentLinkId
  previousOpportunityStatus := read.opp.status.text
  newOpportunityStatus := "recovered"
  canonicalState := .recovered
  isRecovered := true
  amountPaidPaise := Js.orDefault truthEval.amountPaidPaise read.opp.amountPaise
  paymentId := truthEval.paymentId
  ledgerEntryHash := none
  isIdempotentNoOp := true
  status := .matched
  rationale :=
    "Opportunity is already settled in terminal RECOVERED state. Out-of-order events ignored."
  timestamp := read.now
  error := none

/-- Step 4: the statuses to write and the outcome, from both readings of the payload. -/
def target (opp : RecoveryOpportunity) (truthEval : ProviderTruthEvaluation)
    (canonicalState : CanonicalPaymentState) :
    OpportunityStatus × String × ReconciliationOutcome :=
  if canonicalState == .paymentConfirmed || truthEval.isRecovered then
    (recovered, "completed", .transition)
  else if canonicalState == .expired || canonicalState == .cancelled ||
      canonicalState == .failed then
    (notRecovered, "failed", .transition)
  else if canonicalState == .mismatch then (executing, "created", .mismatch)
  else
    (if opp.status = pending ∨ opp.status = deferred ∨ opp.status = allocated then executing
      else opp.status, "created", .pending)

/-- Steps 2 to 4, once the payload is there. -/
def decide (read : ReconcileRead) (source : PayloadSource) (payload : ProviderPayload) :
    ReconcileCall :=
  let truthEval := ProviderTruthEvaluator.evaluate payload
  let canonicalMapping := CanonicalStateMachine.mapRazorpayStatusToCanonicalState
    truthEval.providerStatus read.opp.amountPaise truthEval.amountPaidPaise
  if read.opp.status = recovered then .finished (alreadySettledResult read truthEval)
  else
    let t := target read.opp truthEval canonicalMapping.canonicalState
    .committing
      { read := read
        source := source
        truthEval := truthEval
        canonicalMapping := canonicalMapping
        targetOpportunityStatus := t.1
        targetExecStatus := t.2.1
        outcome := t.2.2 }

/-- The first phase. A webhook passes the delivered payload; the other callers pass none, and the
payload is then fetched by the link id of the execution record. -/
def reconcileStart (db : Db) (id : String) (override : Option (PayloadSource × ProviderPayload))
    (now : Timestamp) : ReconcileCall :=
  match db.getOpportunityById id with
  | none     => .finished (notFoundResult id now)
  | some opp =>
    let execRecord := db.getExecutionRecordByOpportunityId opp.id
    let read : ReconcileRead := { opp := opp, execRecord := execRecord, now := now }
    match override with
    | some (source, payload) => decide read source payload
    | none =>
      if execRecord.any fun r => r.razorpayPaymentLinkId ≠ "" then .fetching read
      else .finished (unchangedResult read none .pending true .pending
        "No provider payment link exists for this opportunity; remaining in current state." none)

/-! ### Fetch -/

/-- The clients that the pool can answer with for an opportunity. -/
def isClientFor (opp : RecoveryOpportunity) (client : ProviderClient) : Bool :=
  client == .pool opp.tenantId opp.environment || client == .system opp.environment ||
    client == .rzpClient

/-- The provider's answer to a fetch: the payload, or the message of the error. -/
def reconcileFetched (read : ReconcileRead) (client : ProviderClient)
    (response : Except String ProviderPayload) : ReconcileCall :=
  match response with
  | .ok payload  => decide read (.fetched client) payload
  | .error message =>
    .finished (unchangedResult read (read.execRecord.map (·.razorpayPaymentLinkId)) .unknown true
      .unknown ("Failed to query Razorpay API (" ++ message ++ "). Opportunity quarantined in '" ++
        read.opp.status.text ++ "' state.") (some message))

/-! ### The transaction -/

variable (platform : Platform) (plan : SettlementPlan) (ids : TransactionIds)

/-- 5a. -/
def updateOpportunity (db : Db) : Option Db :=
  some (db.setStatus plan.read.opp.id plan.targetOpportunityStatus)

/-- 5b. -/
def updateExecution (db : Db) : Option Db :=
  some { db with
    executionRecords := db.executionRecords.update plan.read.opp.id
      (fun r => { r with status := plan.targetExecStatus }) fun _ => rfl }

/-- The settlement entry that continues the hash chain. -/
def settlementEntry (db : Db) : DoubleEntryRecord where
  id := ids.doubleEntryId
  opportunityId := plan.read.opp.id
  eventType := DoubleEntryLedger.PAYMENT_RECOVERED
  debitAccount := "bank_settlement"
  creditAccount := "recovered_revenue"
  amountPaise := plan.truthEval.amountPaidPaise
  timestamp := plan.read.now
  prevHash := DoubleEntryLedger.prevHash db.doubleEntryLedger.rows
  entryHash := DoubleEntryLedger.computeHash platform.sha256 platform.isoString
    (DoubleEntryLedger.prevHash db.doubleEntryLedger.rows) ids.doubleEntryId plan.read.opp.id
    DoubleEntryLedger.PAYMENT_RECOVERED "bank_settlement" "recovered_revenue"
    plan.truthEval.amountPaidPaise plan.read.now

/-- 5c. The settlement. -/
def insertSettlement (db : Db) : Option Db :=
  (db.doubleEntryLedger.insert? (settlementEntry platform plan ids db)).map fun t =>
    { db with doubleEntryLedger := t }

/-- 5c. The audit entry; its foreign key needs the opportunity's row. -/
def insertLedgerAudit (db : Db) : Option Db :=
  if (db.getOpportunityById plan.read.opp.id).isNone then none
  else
    (db.ledgerEntries.insert?
      { id := ids.ledgerAuditId
        opportunityId := plan.read.opp.id
        eventType := .recovered
        amountPaise := plan.truthEval.amountPaidPaise
        timestamp := plan.read.now }).map fun t => { db with ledgerEntries := t }

/-- The run that the outcome and the memory belong to. -/
def reconRunId : String := "run_rec_" ++ plan.read.opp.id

/-- 5c. `INSERT OR IGNORE INTO agent_runs`. -/
def insertAgentRun (db : Db) : Option Db :=
  some { db with
    agentRuns := db.agentRuns.insertOrIgnore
      { id := reconRunId plan
        missionId := "miss_" ++ reconRunId plan
        opportunityId := plan.read.opp.id
        goalType := "RECOVER_PAYMENT"
        status := "completed"
        startTime := plan.read.now
        endTime := some plan.read.now
        terminationReason := "Mission completed normally via Authoritative Reconciliation" } }

/-- The predicted recovery probability: of the stored score, else 0.65. -/
def predictedProb (db : Db) : ℚ :=
  match db.getScoreByOpportunityId plan.read.opp.id with
  | some score => score.interventionRecoveryProb
  | none       => 65 / 100

def brierError (db : Db) : ℚ := Js.roundFixed ((1 - predictedProb plan db) ^ 2) 4

def operationalCost (db : Db) : ℚ :=
  Js.orDefault ((db.getScoreByOpportunityId plan.read.opp.id).elim 0 (·.operationalCostPaise)) 400

/-- 5c. `INSERT OR REPLACE INTO agent_outcomes`. -/
def insertOutcome (db : Db) : Option Db :=
  some { db with
    agentOutcomes := db.agentOutcomes.put
      { id := ids.outcomeId
        runId := reconRunId plan
        opportunityId := plan.read.opp.id
        predictedRecoveryProb := predictedProb plan db
        actualRecovered := true
        predictionError := brierError plan db
        actualRevenuePaise := plan.truthEval.amountPaidPaise
        operationalCostPaise := operationalCost plan db
        netGainPaise := plan.truthEval.amountPaidPaise - operationalCost plan db
        customerResponse := "PAYMENT_CONFIRMED"
        evaluatedAt := plan.read.now } }

/-- 5c. The episodic memory. -/
def insertMemory (db : Db) : Option Db :=
  (db.agentMemories.insert?
    { id := ids.memoryId
      memoryType := "episodic"
      runId := reconRunId plan
      opportunityId := plan.read.opp.id
      failureType := plan.read.opp.reasonCode
      contextSummary := "Reconciled confirmed provider payment of ₹" ++
        Js.rupees plan.truthEval.amountPaidPaise ++ " on " ++ plan.truthEval.paymentLinkId ++ "."
      actionTaken := "SEND_PAYMENT_LINK"
      predictedOutcome := "P(int)=" ++ Js.numberToString (predictedProb plan db)
      actualOutcome := "RECOVERED"
      predictionError := brierError plan db
      semanticKey := "opp:" ++ plan.read.opp.id ++ ":recovery"
      confidence := 1
      provenance := "AUTHORITATIVE_RECONCILER"
      createdAt := plan.read.now }).map fun t => { db with agentMemories := t }

/-- The divergence of a mismatch. -/
def insertDivergence (db : Db) : Option Db :=
  (db.divergences.insert?
    { id := ids.divergenceId
      tenantId := plan.read.opp.tenantId
      opportunityId := plan.read.opp.id
      type := "AMOUNT_OR_STATE_MISMATCH"
      severity := "HIGH"
      description := "Reconciliation mismatch: provider status is " ++
        plan.truthEval.providerStatus ++ " with paid amount " ++
        Js.numberToString plan.truthEval.amountPaidPaise
      status := "OPEN"
      createdAt := plan.read.now }).map fun t => { db with divergences := t }

/-- `COMMIT`, which changes nothing more but may fail like the others. -/
def commitStatement (db : Db) : Option Db := some db

/-- The statements of the transaction, in order. -/
def statements : List (Db → Option Db) :=
  [updateOpportunity plan] ++
  (if plan.read.execRecord.isSome then [updateExecution plan] else []) ++
  (if plan.targetOpportunityStatus = recovered then
    [insertSettlement platform plan ids, insertLedgerAudit plan ids, insertAgentRun plan,
      insertOutcome plan ids, insertMemory plan ids]
  else []) ++
  (if plan.outcome = .mismatch then [insertDivergence plan ids] else []) ++
  [commitStatement]

/-- The database after the transaction; `fault` is the statement before which an error strikes. -/
def reconcileCommit (fault : Option ℕ) (db : Db) : Db :=
  Transaction.commitOrRollback (statements platform plan ids) fault db

def commits (fault : Option ℕ) (db : Db) : Bool :=
  (Transaction.attempt (statements platform plan ids) fault db).isSome

/-- The result after the transaction; `message` is the text of the database error, if any. -/
def reconcileResult (fault : Option ℕ) (message : String) (db : Db) : ReconciliationResult :=
  if commits platform plan ids fault db then
    { opportunityId := plan.read.opp.id
      paymentLinkId := some plan.truthEval.paymentLinkId
      previousOpportunityStatus := plan.read.opp.status.text
      newOpportunityStatus := plan.targetOpportunityStatus.text
      canonicalState := plan.canonicalMapping.canonicalState
      isRecovered := plan.targetOpportunityStatus == recovered
      amountPaidPaise := plan.truthEval.amountPaidPaise
      paymentId := plan.truthEval.paymentId
      ledgerEntryHash :=
        if plan.targetOpportunityStatus = recovered then
          some (settlementEntry platform plan ids db).entryHash
        else none
      isIdempotentNoOp := false
      status := plan.outcome
      rationale := plan.canonicalMapping.rationale
      timestamp := plan.read.now
      error := none }
  else
    unchangedResult plan.read (some plan.truthEval.paymentLinkId) .unknown false .unknown
      ("Database transaction rolled back due to error: " ++ message) (some message)

end AuthoritativeReconciler

end CtrlRecovery
