import CtrlRecovery.Db.Sample
import CtrlRecovery.Reconciliation.Commit

/-!
# A call is all or nothing

`reconcileOpportunity` runs the phases of one call one after the other. The other tasks may write
while the call waits for the provider, but not during its transaction. The learning updates after
the commit catch their own errors and write none of the tables here.

A call that fails, at whatever statement, leaves the database as its transaction found it. A call
that succeeds either changes nothing, because there is nothing to do, or makes the opportunity
`recovered` together with the rows of one settlement, or does neither
(`reconcileOpportunity_atomic`).
-/

namespace CtrlRecovery

open Core OpportunityStatus

/-- The arguments of a call and what it meets: the delivered payload if there is one, the answer of
the provider's API, the generated ids, and the statement at which the database fails with the text
of its error. -/
structure ReconcileInput where
  id : String
  override : Option (PayloadSource × ProviderPayload)
  client : ProviderClient
  response : Except String ProviderPayload
  ids : TransactionIds
  fault : Option ℕ
  message : String
  now : Timestamp

namespace AuthoritativeReconciler

/-- The provider's answer, to a call that asked for it. -/
def answerCall (input : ReconcileInput) : ReconcileCall → ReconcileCall
  | .fetching read   => reconcileFetched read input.client input.response
  | .committing plan => .committing plan
  | .finished result => .finished result

/-- The end of a call that has its payload, on the database that its transaction finds. -/
def finishCall (platform : Platform) (input : ReconcileInput) (db : Db) :
    ReconcileCall → Option (ReconciliationResult × Db)
  | .fetching _      => none
  | .committing plan =>
    some (reconcileResult platform plan input.ids input.fault input.message db,
      reconcileCommit platform plan input.ids input.fault db)
  | .finished result => some (result, db)

/-- A call from its start on `db₀` to its end; `db` is what the other tasks have made of the
database when its transaction begins. -/
def reconcileOpportunity (platform : Platform) (input : ReconcileInput) (db₀ db : Db) :
    Option (ReconciliationResult × Db) :=
  finishCall platform input db
    (answerCall input (reconcileStart db₀ input.id input.override input.now))

/-! ### The books of a settlement -/

/-- One settlement entry and one ledger entry of the opportunity are new, and one outcome is
written. -/
structure SettledOnce (id : String) (db db' : Db) : Prop where
  settlement : ∃ e : DoubleEntryRecord, e.opportunityId = id ∧
    e.eventType = DoubleEntryLedger.PAYMENT_RECOVERED ∧
    db'.doubleEntryLedger.rows = db.doubleEntryLedger.rows ++ [e]
  ledgerEntry : ∃ e : LedgerEntry, e.opportunityId = id ∧ e.eventType = .recovered ∧
    db'.ledgerEntries.rows = db.ledgerEntries.rows ++ [e]
  outcome : ∃ o : AgentOutcome, o.opportunityId = id ∧ o.actualRecovered = true ∧
    db'.agentOutcomes = db.agentOutcomes.put o

/-- The books of a settlement are as they were. -/
structure NotSettled (db db' : Db) : Prop where
  doubleEntryLedger : db'.doubleEntryLedger = db.doubleEntryLedger
  ledgerEntries : db'.ledgerEntries = db.ledgerEntries
  agentOutcomes : db'.agentOutcomes = db.agentOutcomes

/-- The opportunity is `recovered` exactly together with the rows of one settlement. -/
def RecoversExactly (id : String) (db db' : Db) : Prop :=
  (db'.statusOf id = some recovered ∧ SettledOnce id db db') ∨
    (db'.statusOf id ≠ some recovered ∧ NotSettled db db')

variable {platform : Platform} {plan : SettlementPlan} {ids : TransactionIds} {db db' : Db}

lemma NotSettled.trans {db₁ db₂ : Db} (h : NotSettled db db₁) (h' : NotSettled db₁ db₂) :
    NotSettled db db₂ where
  doubleEntryLedger := h'.doubleEntryLedger.trans h.doubleEntryLedger
  ledgerEntries := h'.ledgerEntries.trans h.ledgerEntries
  agentOutcomes := h'.agentOutcomes.trans h.agentOutcomes

/-- What stays out of the books before and after a settlement does not matter to it. -/
lemma SettledOnce.congr {id : String} {db₁ db₂ : Db} (h : SettledOnce id db₁ db₂)
    (hbefore : NotSettled db db₁) (hafter : NotSettled db₂ db') : SettledOnce id db db' where
  settlement := by
    rw [hafter.doubleEntryLedger, ← hbefore.doubleEntryLedger]
    exact h.settlement
  ledgerEntry := by
    rw [hafter.ledgerEntries, ← hbefore.ledgerEntries]
    exact h.ledgerEntry
  outcome := by
    rw [hafter.agentOutcomes, ← hbefore.agentOutcomes]
    exact h.outcome

/-! ### The blocks of the transaction -/

lemma notSettled_of_updates
    (h : Transaction.attempt ([updateOpportunity plan] ++
      if plan.read.execRecord.isSome then [updateExecution plan] else []) none db = some db') :
    NotSettled db db' := by
  obtain ⟨records, -, rfl⟩ := exists_of_updates h
  exact ⟨rfl, rfl, rfl⟩

lemma settledOnce_of_settlement
    (h : Transaction.attempt [insertSettlement platform plan ids, insertLedgerAudit plan ids,
      insertAgentRun plan, insertOutcome plan ids, insertMemory plan ids] none db = some db') :
    SettledOnce plan.read.opp.id db db' := by
  simp only [Transaction.attempt_cons_none, Transaction.attempt_nil, insertAgentRun, insertOutcome,
    insertSettlement, insertLedgerAudit, insertMemory, Option.bind_eq_some_iff,
    Option.map_eq_some_iff, Option.bind_some, Option.some.injEq] at h
  obtain ⟨_, ⟨ledger, hledger, rfl⟩, dbAudit, haudit, _, ⟨memories, _, rfl⟩, rfl⟩ := h
  split_ifs at haudit with hrow
  obtain ⟨audit, hinsert, rfl⟩ := Option.map_eq_some_iff.mp haudit
  exact
    { settlement := ⟨_, rfl, rfl, Table.rows_of_insert? hledger⟩
      ledgerEntry := ⟨_, rfl, rfl, Table.rows_of_insert? hinsert⟩
      outcome := ⟨_, rfl, rfl, rfl⟩ }

lemma notSettled_of_divergence
    (h : Transaction.attempt (if plan.outcome = .mismatch then [insertDivergence plan ids] else [])
      none db = some db') : NotSettled db db' := by
  obtain ⟨divergences, rfl⟩ := exists_of_divergence h
  exact ⟨rfl, rfl, rfl⟩

/-- A committed transaction recovers the opportunity exactly together with its settlement. -/
lemma recoversExactly_of_attempt {fault : Option ℕ}
    (h : Transaction.attempt (statements platform plan ids) fault db = some db') :
    RecoversExactly plan.read.opp.id db db' := by
  have hcommitted := committed_of_attempt h
  obtain ⟨db₁, db₂, hupd, hset, hdiv⟩ := exists_blocks_of_attempt h
  have hbefore := notSettled_of_updates hupd
  have hafter := notSettled_of_divergence hdiv
  by_cases hrec : plan.targetOpportunityStatus = recovered
  · left
    rw [if_pos hrec] at hset
    exact ⟨hcommitted.statusOf_of_recovered hrec,
      (settledOnce_of_settlement hset).congr hbefore hafter⟩
  · right
    rw [if_neg hrec, Transaction.attempt_nil, Option.some.injEq] at hset
    subst hset
    refine ⟨?_, hbefore.trans hafter⟩
    intro hstatus
    rw [Db.statusOf, hcommitted.getOpportunityById, if_pos rfl, Option.map_map,
      Option.map_eq_some_iff] at hstatus
    obtain ⟨o, -, ho⟩ := hstatus
    exact hrec ho

/-! ### The call -/

/-- What the end of a call owes to the status text it read and to the database that its transaction
found. -/
structure Atomic (id : String) (status : String) (db : Db) (result : ReconciliationResult)
    (db' : Db) : Prop where
  previous : result.previousOpportunityStatus = status
  failed : result.error.isSome → db' = db ∧ result.newOpportunityStatus = status
  noOp : result.isIdempotentNoOp → db' = db
  succeeded : result.error = none → result.isIdempotentNoOp = false → RecoversExactly id db db'

lemma finishCall_committing {input : ReconcileInput} :
    ∃ result db', finishCall platform input db (.committing plan) = some (result, db') ∧
      Atomic plan.read.opp.id plan.read.opp.status.text db result db' := by
  refine ⟨_, _, rfl, ?_⟩
  rw [reconcileResult, reconcileCommit, commits]
  cases h : Transaction.attempt (statements platform plan input.ids) input.fault db with
  | none =>
    rw [Transaction.commitOrRollback_of_none h]
    exact ⟨rfl, fun _ => ⟨rfl, rfl⟩, fun _ => rfl, fun herror => (by cases herror)⟩
  | some db' =>
    rw [Transaction.commitOrRollback_of_some h]
    exact ⟨rfl, fun herror => (by cases herror), fun hnoop => (by cases hnoop),
      fun _ _ => recoversExactly_of_attempt h⟩

lemma finishCall_decide {input : ReconcileInput} {read : ReconcileRead} {source : PayloadSource}
    {payload : ProviderPayload} :
    ∃ result db', finishCall platform input db (decide read source payload) = some (result, db') ∧
      Atomic read.opp.id read.opp.status.text db result db' := by
  rw [decide]
  split_ifs with hrec
  · exact ⟨_, _, rfl, rfl, nofun, fun _ => rfl, nofun⟩
  · exact finishCall_committing

lemma answerCall_decide {input : ReconcileInput} {read : ReconcileRead} {source : PayloadSource}
    {payload : ProviderPayload} :
    answerCall input (decide read source payload) = decide read source payload := by
  rw [decide]
  split_ifs <;> rfl

/-- Every call ends. What it reports as the previous status is what it read. When it fails it leaves
the database as it was, and as an idempotent no-op too; otherwise it recovers the opportunity
exactly together with its settlement. -/
theorem reconcileOpportunity_atomic (platform : Platform) (input : ReconcileInput) (db₀ db : Db) :
    ∃ result db', reconcileOpportunity platform input db₀ db = some (result, db') ∧
      Atomic input.id ((db₀.getOpportunityById input.id).elim "UNKNOWN" (·.status.text)) db
        result db' := by
  rw [reconcileOpportunity, reconcileStart]
  cases hopp : db₀.getOpportunityById input.id with
  | none => exact ⟨_, _, rfl, rfl, fun _ => ⟨rfl, rfl⟩, nofun, nofun⟩
  | some opp =>
    have hid : opp.id = input.id := Db.id_of_getOpportunityById hopp
    rw [← hid, Option.elim_some]
    dsimp only
    cases hover : input.override with
    | some override =>
      dsimp only
      rw [answerCall_decide]
      exact finishCall_decide
    | none =>
      dsimp only
      split_ifs with hlink
      · rw [answerCall]
        cases hresponse : input.response with
        | ok payload => exact finishCall_decide
        | error message => exact ⟨_, _, rfl, rfl, fun _ => ⟨rfl, rfl⟩, fun _ => rfl, nofun⟩
      · exact ⟨_, _, rfl, rfl, nofun, fun _ => rfl, nofun⟩

/-- A second delivery of a paid link: the call succeeds, leaves the opportunity `recovered` and
settles nothing. -/
theorem recovered_without_settlement :
    ∃ input db result db', reconcileOpportunity .plain input db db = some (result, db') ∧
      result.error = none ∧ db'.statusOf input.id = some recovered ∧
      ¬ SettledOnce input.id db db' := by
  refine ⟨⟨"opp_1", some (.delivered "tenant_a" true, sampleLink "plink_1" "paid" 100000), .rzpClient,
    .error "", ⟨"del_1", "led_1", "out_1", "mem_1", "div_1"⟩, none, "", 3000⟩,
    .ofRows [sampleOpportunity "opp_1" recovered] [], _, _, rfl, rfl, by decide +kernel, ?_⟩
  intro h
  obtain ⟨e, -, -, hrows⟩ := h.settlement
  have hlength := congrArg List.length hrows
  rw [List.length_append] at hlength
  exact absurd hlength (by simp)

end AuthoritativeReconciler

end CtrlRecovery
