import CtrlRecovery.Reconciliation.AuthoritativeReconciler

/-!
# What a reconciliation writes

The one description of the reconciler's transaction that the rest of the development uses: it rolls
back and leaves the database as it was, or it writes the status it planned over the opportunity's
row and, when that status is `recovered`, appends one settlement entry (`reconcileCommit_spec`).
-/

namespace CtrlRecovery

open Core OpportunityStatus

namespace AuthoritativeReconciler

variable {platform : Platform} {plan : SettlementPlan} {ids : TransactionIds} {db db' : Db}

/-- What a committed transaction has done to the tables that the rest of the system reads. -/
structure Committed (platform : Platform) (plan : SettlementPlan) (ids : TransactionIds)
    (db db' : Db) : Prop where
  opportunities : db'.opportunities =
    (db.setStatus plan.read.opp.id plan.targetOpportunityStatus).opportunities
  statusChanges : db'.statusChanges =
    (db.setStatus plan.read.opp.id plan.targetOpportunityStatus).statusChanges
  ledger : db'.doubleEntryLedger.rows = db.doubleEntryLedger.rows ++
    if plan.targetOpportunityStatus = recovered then [settlementEntry platform plan ids db] else []
  tenants : db'.tenants = db.tenants
  scores : db'.scores = db.scores
  allocationDecisions : db'.allocationDecisions = db.allocationDecisions
  authorityChecks : db'.authorityChecks = db.authorityChecks
  dlqJobs : db'.dlqJobs = db.dlqJobs
  row : plan.targetOpportunityStatus = recovered →
    (db.getOpportunityById plan.read.opp.id).isSome

/-! ### The blocks of the transaction -/

/-- Blocks 5a and 5b write the status and the execution record. -/
lemma exists_of_updates
    (h : Transaction.attempt ([updateOpportunity plan] ++
      if plan.read.execRecord.isSome then [updateExecution plan] else []) none db = some db') :
    ∃ executionRecords, (executionRecords = db.executionRecords ∨ executionRecords =
        db.executionRecords.update plan.read.opp.id
          (fun r => { r with status := plan.targetExecStatus }) fun _ => rfl) ∧
      db' = { db.setStatus plan.read.opp.id plan.targetOpportunityStatus with executionRecords } := by
  split_ifs at h <;>
  simp only [List.cons_append, List.nil_append, List.append_nil, Transaction.attempt_cons_none,
    Transaction.attempt_nil, updateOpportunity, updateExecution, Option.bind_some,
    Option.some.injEq] at h
  · exact ⟨_, .inr rfl, h.symm⟩
  · exact ⟨_, .inl rfl, h.symm⟩

/-- Block 5c. -/
lemma ledger_of_settlement
    (h : Transaction.attempt [insertSettlement platform plan ids, insertLedgerAudit plan ids,
      insertAgentRun plan, insertOutcome plan ids, insertMemory plan ids] none db = some db') :
    db'.doubleEntryLedger.rows =
        db.doubleEntryLedger.rows ++ [settlementEntry platform plan ids db] ∧
    db'.opportunities = db.opportunities ∧ db'.statusChanges = db.statusChanges ∧
    db'.tenants = db.tenants ∧ db'.scores = db.scores ∧
    db'.allocationDecisions = db.allocationDecisions ∧
    db'.authorityChecks = db.authorityChecks ∧ db'.dlqJobs = db.dlqJobs ∧
    db'.executionRecords = db.executionRecords ∧
    (db.getOpportunityById plan.read.opp.id).isSome := by
  simp only [Transaction.attempt_cons_none, Transaction.attempt_nil, insertAgentRun, insertOutcome,
    insertSettlement, insertLedgerAudit, insertMemory, Option.bind_eq_some_iff,
    Option.map_eq_some_iff, Option.bind_some, Option.some.injEq] at h
  obtain ⟨_, ⟨ledger, hledger, rfl⟩, dbAudit, haudit, _, ⟨memories, _, rfl⟩, rfl⟩ := h
  split_ifs at haudit with hrow
  obtain ⟨audit, _, rfl⟩ := Option.map_eq_some_iff.mp haudit
  refine ⟨Table.rows_of_insert? hledger, rfl, rfl, rfl, rfl, rfl, rfl, rfl, rfl, ?_⟩
  rw [Option.isNone_iff_eq_none, ← Option.not_isSome_iff_eq_none, not_not] at hrow
  exact hrow

/-- The last block writes the divergence of a mismatch. -/
lemma exists_of_divergence
    (h : Transaction.attempt (if plan.outcome = .mismatch then [insertDivergence plan ids] else [])
      none db = some db') : ∃ divergences, db' = { db with divergences } := by
  split_ifs at h
  · simp only [Transaction.attempt_cons_none, Transaction.attempt_nil, insertDivergence,
      Option.bind_eq_some_iff, Option.map_eq_some_iff, Option.some.injEq] at h
    obtain ⟨-, ⟨divergences, -, rfl⟩, rfl⟩ := h
    exact ⟨divergences, rfl⟩
  · simp only [Transaction.attempt_nil, Option.some.injEq] at h
    exact ⟨db.divergences, h.symm⟩

/-! ### The transaction -/

/-- A transaction that commits has run its updates, its settlement and its divergence. -/
lemma exists_blocks_of_attempt {fault : Option ℕ}
    (h : Transaction.attempt (statements platform plan ids) fault db = some db') :
    ∃ db₁ db₂,
      Transaction.attempt ([updateOpportunity plan] ++
        if plan.read.execRecord.isSome then [updateExecution plan] else []) none db = some db₁ ∧
      Transaction.attempt (if plan.targetOpportunityStatus = recovered then
        [insertSettlement platform plan ids, insertLedgerAudit plan ids, insertAgentRun plan,
          insertOutcome plan ids, insertMemory plan ids] else []) none db₁ = some db₂ ∧
      Transaction.attempt (if plan.outcome = .mismatch then [insertDivergence plan ids] else [])
        none db₂ = some db' := by
  have hall := Transaction.attempt_eq_some h
  rw [statements, Transaction.attempt_append_none, Option.bind_eq_some_iff] at hall
  obtain ⟨db₃, hall, hcommit⟩ := hall
  rw [Transaction.attempt_append_none, Option.bind_eq_some_iff] at hall
  obtain ⟨db₂, hall, hdiv⟩ := hall
  rw [Transaction.attempt_append_none, Option.bind_eq_some_iff] at hall
  obtain ⟨db₁, hupd, hset⟩ := hall
  cases hcommit
  exact ⟨db₁, db₂, hupd, hset, hdiv⟩

lemma committed_of_attempt {fault : Option ℕ}
    (h : Transaction.attempt (statements platform plan ids) fault db = some db') :
    Committed platform plan ids db db' := by
  obtain ⟨db₁, db₂, hupd, hset, hdiv⟩ := exists_blocks_of_attempt h
  obtain ⟨records, -, rfl⟩ := exists_of_updates hupd
  obtain ⟨divergences, rfl⟩ := exists_of_divergence hdiv
  split_ifs at hset with hrec
  · obtain ⟨hl, ho, hs, ht, hsc, had, hac, hdl, -, hrow⟩ := ledger_of_settlement hset
    exact
      { opportunities := ho
        statusChanges := hs
        ledger := by
          rw [if_pos hrec]
          exact hl
        tenants := ht
        scores := hsc
        allocationDecisions := had
        authorityChecks := hac
        dlqJobs := hdl
        row := fun _ => by
          change (Db.getOpportunityById (db.setStatus _ _) _).isSome at hrow
          simpa [Db.getOpportunityById_setStatus] using hrow }
  · rw [Transaction.attempt_nil, Option.some.injEq] at hset
    subst hset
    exact
      { opportunities := rfl
        statusChanges := rfl
        ledger := by
          rw [if_neg hrec, List.append_nil]
          rfl
        tenants := rfl
        scores := rfl
        allocationDecisions := rfl
        authorityChecks := rfl
        dlqJobs := rfl
        row := fun hrec' => absurd hrec' hrec }

/-- A transaction writes the execution record of its opportunity, if any. -/
lemma executionRecords_of_attempt {fault : Option ℕ}
    (h : Transaction.attempt (statements platform plan ids) fault db = some db') :
    db'.executionRecords = db.executionRecords ∨
      db'.executionRecords = db.executionRecords.update plan.read.opp.id
        (fun r => { r with status := plan.targetExecStatus }) fun _ => rfl := by
  obtain ⟨db₁, db₂, hupd, hset, hdiv⟩ := exists_blocks_of_attempt h
  obtain ⟨records, hrecords, rfl⟩ := exists_of_updates hupd
  obtain ⟨divergences, rfl⟩ := exists_of_divergence hdiv
  have hsettled : db₂.executionRecords = records := by
    split_ifs at hset
    · obtain ⟨-, -, -, -, -, -, -, -, hrecords, -⟩ := ledger_of_settlement hset
      exact hrecords
    · cases hset
      rfl
  rwa [← hsettled] at hrecords

/-- A transaction rolls back and changes nothing, or commits what it planned. -/
theorem reconcileCommit_spec (platform : Platform) (plan : SettlementPlan) (ids : TransactionIds)
    (fault : Option ℕ) (db : Db) :
    (commits platform plan ids fault db = false ∧
        reconcileCommit platform plan ids fault db = db) ∨
      (commits platform plan ids fault db = true ∧
        Committed platform plan ids db (reconcileCommit platform plan ids fault db)) := by
  rw [reconcileCommit, commits]
  cases h : Transaction.attempt (statements platform plan ids) fault db with
  | none => exact .inl ⟨rfl, Transaction.commitOrRollback_of_none h⟩
  | some db' =>
    rw [Transaction.commitOrRollback_of_some h]
    exact .inr ⟨rfl, committed_of_attempt h⟩

/-! ### Consequences -/

namespace Committed

variable (h : Committed platform plan ids db db')
include h

lemma getOpportunityById (j : String) :
    db'.getOpportunityById j =
      if j = plan.read.opp.id then
        (db.getOpportunityById j).map (·.withStatus plan.targetOpportunityStatus)
      else db.getOpportunityById j := by
  have hset : db'.getOpportunityById j =
      (db.setStatus plan.read.opp.id plan.targetOpportunityStatus).getOpportunityById j := by
    rw [Db.getOpportunityById, h.opportunities]
    rfl
  rw [hset, Db.getOpportunityById_setStatus]

/-- The settlements of an opportunity after the commit. -/
lemma settlements (j : String) :
    DoubleEntryLedger.settlements db' j = DoubleEntryLedger.settlements db j ++
      if j = plan.read.opp.id ∧ plan.targetOpportunityStatus = recovered then
        [settlementEntry platform plan ids db]
      else [] := by
  have hfilter : [settlementEntry platform plan ids db].filter (fun e =>
      e.opportunityId = j ∧ e.eventType = DoubleEntryLedger.PAYMENT_RECOVERED) =
      if j = plan.read.opp.id then [settlementEntry platform plan ids db] else [] := by
    simp [settlementEntry, List.filter_cons, eq_comm]
  rw [DoubleEntryLedger.settlements, h.ledger, List.filter_append]
  by_cases hrec : plan.targetOpportunityStatus = recovered
  · simp only [hrec, if_true, and_true, hfilter]
    rfl
  · simp only [hrec, if_false, and_false, List.filter_nil]
    rfl

lemma statusOf_of_recovered (hrec : plan.targetOpportunityStatus = recovered) :
    db'.statusOf plan.read.opp.id = some recovered := by
  obtain ⟨o, ho⟩ := Option.isSome_iff_exists.mp (h.row hrec)
  simp [Db.statusOf, h.getOpportunityById, ho, hrec]

lemma statusOf_of_ne {j : String} (hj : j ≠ plan.read.opp.id) :
    db'.statusOf j = db.statusOf j := by
  rw [Db.statusOf, h.getOpportunityById, if_neg hj, Db.statusOf]

end Committed

lemma isSome_getOpportunityById_reconcileCommit (platform : Platform) (plan : SettlementPlan)
    (ids : TransactionIds) (fault : Option ℕ) (db : Db) (j : String) :
    ((reconcileCommit platform plan ids fault db).getOpportunityById j).isSome =
      (db.getOpportunityById j).isSome := by
  rcases reconcileCommit_spec platform plan ids fault db with ⟨-, hback⟩ | ⟨-, hcommit⟩
  · rw [hback]
  · rw [hcommit.getOpportunityById]
    split_ifs
    · rw [Option.isSome_map]
    · rfl

/-! ### When a transaction commits -/

/-- The generated ids are not in use. -/
structure FreshIds (ids : TransactionIds) (db : Db) : Prop where
  doubleEntryId : ids.doubleEntryId ∉ db.doubleEntryLedger.rows.map (·.id)
  ledgerAuditId : ids.ledgerAuditId ∉ db.ledgerEntries.rows.map (·.id)
  memoryId : ids.memoryId ∉ db.agentMemories.rows.map (·.id)
  divergenceId : ids.divergenceId ∉ db.divergences.rows.map (·.id)

/-- Without a fault, with fresh ids and the opportunity's row in place, every statement succeeds. -/
lemma exists_attempt_of_fresh (platform : Platform) (plan : SettlementPlan)
    (hrow : (db.getOpportunityById plan.read.opp.id).isSome) (hfresh : FreshIds ids db) :
    ∃ db', Transaction.attempt (statements platform plan ids) none db = some db' := by
  have hrow' : db.opportunities.find? plan.read.opp.id ≠ none := by
    rwa [← Option.isSome_iff_ne_none]
  have h₁ := hfresh.doubleEntryId
  have h₂ := hfresh.ledgerAuditId
  have h₃ := hfresh.memoryId
  have h₄ := hfresh.divergenceId
  rw [statements]
  split_ifs <;>
    simp [updateOpportunity, updateExecution, insertSettlement, insertLedgerAudit, commitStatement,
      insertAgentRun, insertOutcome, insertMemory, insertDivergence, Table.insert?,
      settlementEntry, Db.setStatus, Db.getOpportunityById, h₁, h₂, h₃, h₄, hrow']

/-- Then the transaction commits. -/
theorem committed_of_fresh (platform : Platform) (plan : SettlementPlan)
    (hrow : (db.getOpportunityById plan.read.opp.id).isSome) (hfresh : FreshIds ids db) :
    Committed platform plan ids db (reconcileCommit platform plan ids none db) := by
  obtain ⟨db', h⟩ := exists_attempt_of_fresh platform plan hrow hfresh
  rw [reconcileCommit, Transaction.commitOrRollback_of_some h]
  exact committed_of_attempt h

lemma commits_of_fresh (platform : Platform) (plan : SettlementPlan)
    (hrow : (db.getOpportunityById plan.read.opp.id).isSome) (hfresh : FreshIds ids db) :
    commits platform plan ids none db := by
  obtain ⟨db', h⟩ := exists_attempt_of_fresh platform plan hrow hfresh
  rw [commits, h]
  rfl

end AuthoritativeReconciler

end CtrlRecovery
