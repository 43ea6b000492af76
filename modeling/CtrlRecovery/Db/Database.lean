import CtrlRecovery.Core.Table
import CtrlRecovery.Types

/-!
# The database

The tables of the recovery engine. Keyed tables hold one row a key; the others are lists in
insertion order.

`statusChanges` is no table of the program. It is the history of the status column: one entry for
every write that changes the status of an existing row, oldest first. Nothing reads it but the
statements about the lifecycle.
-/

namespace CtrlRecovery

open Core

/-- A change of the status of an existing row. -/
structure StatusChange where
  opportunityId : String
  before : OpportunityStatus
  after : OpportunityStatus
  deriving DecidableEq, Repr

structure Db where
  tenants : Table Tenant.id
  opportunities : Table RecoveryOpportunity.id
  scores : Table Score.opportunityId
  allocationDecisions : Table AllocationDecision.opportunityId
  authorityChecks : List AuthorityCheck
  executionRecords : Table ExecutionRecord.opportunityId
  ledgerEntries : Table LedgerEntry.id
  doubleEntryLedger : Table DoubleEntryRecord.id
  dlqJobs : List DlqJobRecord
  agentRuns : Table AgentRun.id
  agentOutcomes : Table AgentOutcome.id
  agentMemories : Table AgentMemory.id
  divergences : Table ReconciliationDivergence.id
  statusChanges : List StatusChange

namespace Db

/-- A freshly migrated database. -/
def empty : Db where
  tenants := .empty
  opportunities := .empty
  scores := .empty
  allocationDecisions := .empty
  authorityChecks := []
  executionRecords := .empty
  ledgerEntries := .empty
  doubleEntryLedger := .empty
  dlqJobs := []
  agentRuns := .empty
  agentOutcomes := .empty
  agentMemories := .empty
  divergences := .empty
  statusChanges := []

/-- The database of these tenants, before anything is ingested. -/
def ofTenants (tenants : Table Tenant.id) : Db := { empty with tenants := tenants }

def getOpportunityById (db : Db) (id : String) : Option RecoveryOpportunity :=
  db.opportunities.find? id

def statusOf (db : Db) (id : String) : Option OpportunityStatus :=
  (db.getOpportunityById id).map (·.status)

def getScoreByOpportunityId (db : Db) (id : String) : Option Score := db.scores.find? id

def getAllocationDecisionByOpportunityId (db : Db) (id : String) : Option AllocationDecision :=
  db.allocationDecisions.find? id

def getExecutionRecordByOpportunityId (db : Db) (id : String) : Option ExecutionRecord :=
  db.executionRecords.find? id

def Stores (db : Db) (opps : List RecoveryOpportunity) : Prop :=
  ∀ opp ∈ opps, (db.getOpportunityById opp.id).isSome

instance (db : Db) (opps : List RecoveryOpportunity) : Decidable (db.Stores opps) :=
  inferInstanceAs (Decidable (∀ opp ∈ opps, _))

/-! ### Writes outside the opportunity table -/

/-! A score and a decision refer to the row of their opportunity. The foreign keys are enforced, so
that the two statements throw where there is no such row (`Stores`); what they write is meant for
opportunities that are stored. -/

def upsertScore (db : Db) (score : Score) : Db := { db with scores := db.scores.put score }

def upsertAllocationDecision (db : Db) (decision : AllocationDecision) : Db :=
  { db with allocationDecisions := db.allocationDecisions.put decision }

def upsertExecutionRecord (db : Db) (record : ExecutionRecord) : Db :=
  { db with executionRecords := db.executionRecords.put record }

def insertLedgerEntry (db : Db) (entry : LedgerEntry) : Db :=
  { db with ledgerEntries := db.ledgerEntries.put entry }

def clearAuthorityChecksForOpportunity (db : Db) (id : String) : Db :=
  { db with authorityChecks := db.authorityChecks.filter fun check => check.opportunityId ≠ id }

end Db

end CtrlRecovery
