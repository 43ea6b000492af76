import Mathlib.Data.Rat.Defs
import Mathlib.Tactic.Simps.Basic

/-!
# Data model

The records of the recovery engine, with the columns that its logic reads or writes. Raw payload
texts are left out. A timestamp is a number of milliseconds; its ISO form sorts in the same order.
-/

namespace CtrlRecovery

/-! ### Enumerations -/

inductive OpportunitySource | real | synthetic
  deriving DecidableEq, Repr

inductive DeclineType | hard | soft | unknown
  deriving DecidableEq, Repr

inductive OpportunityStatus
  | pending | scored | allocated | authorized | deferred
  | blocked | abstained | executing | recovered | notRecovered
  deriving DecidableEq, Repr

inductive ConfidenceLevel | low | medium | high
  deriving DecidableEq, Repr

inductive DecisionType | act | wait | abstain
  deriving DecidableEq, Repr

inductive AuthorityVerdict | authorized | blocked | abstain | wait
  deriving DecidableEq, Repr

inductive LedgerEventType | webhookReceived | reconciled | recovered | notRecovered
  deriving DecidableEq, Repr

inductive Environment | test | live
  deriving DecidableEq, Repr

inductive ProbabilitySource | static | calibrated
  deriving DecidableEq, Repr

inductive IVENBand | strong | moderate | weak | negative
  deriving DecidableEq, Repr

/-- The text of a decline type, as the columns and messages hold it. -/
def DeclineType.text : DeclineType → String
  | .hard    => "hard"
  | .soft    => "soft"
  | .unknown => "unknown"

/-- The text of an opportunity status. -/
def OpportunityStatus.text : OpportunityStatus → String
  | .pending      => "pending"
  | .scored       => "scored"
  | .allocated    => "allocated"
  | .authorized   => "authorized"
  | .deferred     => "deferred"
  | .blocked      => "blocked"
  | .abstained    => "abstained"
  | .executing    => "executing"
  | .recovered    => "recovered"
  | .notRecovered => "not_recovered"

/-- The text of a confidence level. -/
def ConfidenceLevel.text : ConfidenceLevel → String
  | .low    => "low"
  | .medium => "medium"
  | .high   => "high"

/-- The text of an allocation decision. -/
def DecisionType.text : DecisionType → String
  | .act     => "ACT"
  | .wait    => "WAIT"
  | .abstain => "ABSTAIN"

/-- The text of a verdict. -/
def AuthorityVerdict.text : AuthorityVerdict → String
  | .authorized => "AUTHORIZED"
  | .blocked    => "BLOCKED"
  | .abstain    => "ABSTAIN"
  | .wait       => "WAIT"

/-! ### Records -/

/-- Milliseconds since the epoch. -/
abbrev Timestamp := ℕ

/-- A row of `tenants`. -/
structure Tenant where
  id : String
  environment : Environment
  capacityLimit : ℕ
  deriving DecidableEq, Repr

/-- A row of `recovery_opportunities`. -/
structure RecoveryOpportunity where
  id : String
  source : OpportunitySource
  amountPaise : ℚ
  currency : String
  reasonCode : String
  declineType : DeclineType
  attemptCount : ℚ
  customerId : String
  createdAt : Timestamp
  status : OpportunityStatus
  tenantId : String
  merchantId : String
  environment : Environment
  razorpayEventId : Option String
  deriving DecidableEq, Repr

namespace RecoveryOpportunity

/-- The row with another status. -/
@[simps]
def withStatus (o : RecoveryOpportunity) (status : OpportunityStatus) : RecoveryOpportunity :=
  { o with status := status }

@[simp] lemma withStatus_self (o : RecoveryOpportunity) : o.withStatus o.status = o := rfl

@[simp] lemma withStatus_withStatus (o : RecoveryOpportunity) (s t : OpportunityStatus) :
    (o.withStatus s).withStatus t = o.withStatus t := rfl

end RecoveryOpportunity

/-- A score of an opportunity; `scores` stores it without its tenant, band and source. -/
structure Score where
  opportunityId : String
  naturalRecoveryProb : ℚ
  interventionRecoveryProb : ℚ
  incrementalProb : ℚ
  operationalCostPaise : ℚ
  fatigueCostPaise : ℚ
  expectedIncrementalValuePaise : ℤ
  confidence : ConfidenceLevel
  deriving DecidableEq, Repr

/-- A row of `allocation_decisions`. -/
structure AllocationDecision where
  opportunityId : String
  decision : DecisionType
  rankInBatch : ℕ
  shadowPricePaiseAtDecision : ℤ
  reason : String
  deriving DecidableEq, Repr

/-- A row of `authority_checks`. -/
structure AuthorityCheck where
  opportunityId : String
  checkName : String
  passed : Bool
  reason : String
  deriving DecidableEq, Repr

/-- A row of `execution_records`. -/
structure ExecutionRecord where
  opportunityId : String
  razorpayPaymentLinkId : String
  linkUrl : String
  status : String
  idempotencyKey : String
  createdAt : Timestamp
  deriving DecidableEq, Repr

/-- A row of `ledger_entries`. -/
structure LedgerEntry where
  id : String
  opportunityId : String
  eventType : LedgerEventType
  amountPaise : ℚ
  timestamp : Timestamp
  deriving DecidableEq, Repr

/-- A row of `double_entry_ledger`. -/
structure DoubleEntryRecord where
  id : String
  opportunityId : String
  eventType : String
  debitAccount : String
  creditAccount : String
  amountPaise : ℚ
  timestamp : Timestamp
  prevHash : String
  entryHash : String
  deriving DecidableEq, Repr

inductive DlqStatus | pendingRetry | deadLetter | resolved
  deriving DecidableEq, Repr

/-- The statuses that the check of `dlq_jobs.status` admits. -/
def DlqStatus.ofText? (text : String) : Option DlqStatus :=
  if text = "PENDING_RETRY" then some .pendingRetry
  else if text = "DEAD_LETTER" then some .deadLetter
  else if text = "RESOLVED" then some .resolved
  else none

/-- A row of `dlq_jobs`, in the order of its automatic id. -/
structure DlqJobRecord where
  opportunityId : String
  failureCount : ℕ
  lastError : String
  nextRetryAt : Option Timestamp
  status : DlqStatus
  createdAt : Timestamp
  updatedAt : Timestamp
  deriving DecidableEq, Repr

/-- A row of `agent_runs`. -/
structure AgentRun where
  id : String
  missionId : String
  opportunityId : String
  goalType : String
  status : String
  startTime : Timestamp
  endTime : Option Timestamp
  terminationReason : String
  deriving DecidableEq, Repr

/-- A row of `agent_outcomes`. -/
structure AgentOutcome where
  id : String
  runId : String
  opportunityId : String
  predictedRecoveryProb : ℚ
  actualRecovered : Bool
  predictionError : ℚ
  actualRevenuePaise : ℚ
  operationalCostPaise : ℚ
  netGainPaise : ℚ
  customerResponse : String
  evaluatedAt : Timestamp
  deriving DecidableEq, Repr

/-- A row of `agent_memories`. -/
structure AgentMemory where
  id : String
  memoryType : String
  runId : String
  opportunityId : String
  failureType : String
  contextSummary : String
  actionTaken : String
  predictedOutcome : String
  actualOutcome : String
  predictionError : ℚ
  semanticKey : String
  confidence : ℚ
  provenance : String
  createdAt : Timestamp
  deriving DecidableEq, Repr

/-- A row of `reconciliation_divergences`. -/
structure ReconciliationDivergence where
  id : String
  tenantId : String
  opportunityId : String
  type : String
  severity : String
  description : String
  status : String
  createdAt : Timestamp
  deriving DecidableEq, Repr

end CtrlRecovery
