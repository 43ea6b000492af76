import CtrlRecovery.Domain.StatusWriters
import CtrlRecovery.Reconciliation.Atomicity
import CtrlRecovery.System.RecoverySystem

/-!
# Deliveries of one payment

A failed payment may be delivered any number of times, on any path, under any event ids, while the
rest of the system works on its opportunity. It is recorded once when it has a row and one audit
entry of its receipt (`RecordedOnce`).

The deliveries of a payment are idempotent exactly in the runs in which its first delivery carries
an event that no other payment is stored under, and every later delivery through the queue an event
that is stored (`idempotent_iff`): the queue does not look for the payment itself.
-/

namespace CtrlRecovery

open Core OpportunityStatus OpportunityRepository Scorer Market Authority AuthorityRuleRegistry
  AuthoritativeReconciler

/-- The audit entries of the receipt of a payment. -/
def receivedEntries (db : Db) (paymentId : String) : List LedgerEntry :=
  db.ledgerEntries.rows.filter fun e => e.opportunityId = paymentId ∧ e.eventType = .webhookReceived

variable {paymentId : String} {db db' : Db}

/-! ### The receipts -/

/-- An audit entry of another kind or of another opportunity, under an id that is not taken by a
receipt, is no matter. -/
lemma receivedEntries_insertLedgerEntry_of_not {entry : LedgerEntry}
    (hother : ¬ (entry.opportunityId = paymentId ∧ entry.eventType = .webhookReceived))
    (hfresh : entry.id ∉ (receivedEntries db paymentId).map (·.id)) :
    receivedEntries (db.insertLedgerEntry entry) paymentId = receivedEntries db paymentId := by
  apply Table.filter_rows_put_of_neg
  · simpa using hother
  · intro e he hid hreceived
    exact hfresh (List.mem_map.mpr ⟨e, List.mem_filter.mpr ⟨he, hreceived⟩, hid⟩)

lemma receivedEntries_insertLedgerEntry {entryId : String} {opp : RecoveryOpportunity}
    (hid : opp.id = paymentId) (hfresh : entryId ∉ (receivedEntries db paymentId).map (·.id)) :
    (receivedEntries (db.insertLedgerEntry (receivedEntry entryId opp)) paymentId).Perm
      (receivedEntry entryId opp :: receivedEntries db paymentId) := by
  apply Table.filter_rows_put_of_pos
  · simpa [receivedEntry] using hid
  · intro e he heq hreceived
    exact hfresh (List.mem_map.mpr ⟨e, List.mem_filter.mpr ⟨he, hreceived⟩, heq⟩)

lemma receivedEntries_congr (h : db'.ledgerEntries = db.ledgerEntries) :
    receivedEntries db' paymentId = receivedEntries db paymentId := by
  rw [receivedEntries, h, receivedEntries]

lemma receivedEntries_reconcileCommit (platform : Platform) (plan : SettlementPlan)
    (ids : TransactionIds) (fault : Option ℕ) (db : Db) :
    receivedEntries (reconcileCommit platform plan ids fault db) paymentId =
      receivedEntries db paymentId := by
  rw [reconcileCommit]
  cases h : Transaction.attempt (statements platform plan ids) fault db with
  | none => rw [Transaction.commitOrRollback_of_none h]
  | some db' =>
    rw [Transaction.commitOrRollback_of_some h]
    rcases recoversExactly_of_attempt h with ⟨-, hsettled⟩ | ⟨-, hbooks⟩
    · obtain ⟨e, -, hevent, hrows⟩ := hsettled.ledgerEntry
      simp [receivedEntries, hrows, hevent]
    · rw [receivedEntries, hbooks.ledgerEntries, receivedEntries]

/-! ### What the rest of the system leaves alone -/

/-- The payment has a row if it had one, and the same receipts. -/
structure KeepsPayment (paymentId : String) (db db' : Db) : Prop where
  row : (db'.getOpportunityById paymentId).isSome = (db.getOpportunityById paymentId).isSome
  received : receivedEntries db' paymentId = receivedEntries db paymentId

namespace KeepsPayment

variable {db'' : Db}

lemma refl (db : Db) : KeepsPayment paymentId db db := ⟨rfl, rfl⟩

lemma trans (h : KeepsPayment paymentId db db') (h' : KeepsPayment paymentId db' db'') :
    KeepsPayment paymentId db db'' :=
  ⟨h'.row.trans h.row, h'.received.trans h.received⟩

lemma of_writes {ws : List (String × OpportunityStatus)} (h : SameRows (db.writeStatuses ws) db')
    (hbooks : SameBooks db db') : KeepsPayment paymentId db db' where
  row := by rw [h.getOpportunityById, Db.getOpportunityById_writeStatuses, Option.isSome_map]
  received := receivedEntries_congr hbooks.ledgerEntries

lemma updateStatus (db : Db) (id : String) (status : OpportunityStatus) :
    KeepsPayment paymentId db (db.updateStatus id status) where
  row := by
    rw [Db.getOpportunityById_updateStatus]
    split_ifs
    · rw [Option.isSome_map]
    · rfl
  received := receivedEntries_congr (SameBooks.updateStatus db id status).ledgerEntries

lemma getOrScore (est : Estimator) (db : Db) (opp : RecoveryOpportunity) :
    KeepsPayment paymentId db (Scorer.getOrScore est db opp).2 :=
  of_writes (sameRows_getOrScore est db opp) (sameBooks_getOrScore est db opp)

lemma scoreItems (est : Estimator) (db : Db) (opps : List RecoveryOpportunity) :
    KeepsPayment paymentId db (Scorer.scoreItems est db opps).2 := by
  induction opps generalizing db with
  | nil => exact refl db
  | cons opp opps ih => exact (getOrScore est db opp).trans (ih _)

lemma allocateAmong (est : Estimator) (capacity : ℕ) (opps : List RecoveryOpportunity) (db : Db) :
    KeepsPayment paymentId db (Market.allocateAmong est capacity opps db).2 :=
  (scoreItems est db opps).trans (of_writes (sameRows_foldl_place _ _) (sameBooks_foldl_place _ _))

/-- The checks of another opportunity, or of a stored one. -/
lemma persistChecks {id : String} (db : Db) (checks : List AuthorityCheck) (now : Timestamp)
    (hid : ∀ check ∈ checks, check.opportunityId = id)
    (hrow : id = paymentId → (db.getOpportunityById paymentId).isSome) :
    KeepsPayment paymentId db (Authority.persistChecks db id checks now) := by
  refine ⟨?_, receivedEntries_congr (sameBooks_persistChecks checks id).ledgerEntries⟩
  have hclear : (db.clearAuthorityChecksForOpportunity id).getOpportunityById paymentId =
      db.getOpportunityById paymentId := rfl
  rw [Authority.persistChecks]
  generalize db.clearAuthorityChecksForOpportunity id = cleared at hclear
  rw [← hclear] at hrow ⊢
  clear hclear
  induction checks generalizing cleared with
  | nil => rfl
  | cons check checks ih =>
    have hsame : (cleared.insertAuthorityCheck check now).getOpportunityById paymentId =
        cleared.getOpportunityById paymentId := by
      have hcheck := hid check List.mem_cons_self
      have hensure : (cleared.insertAuthorityCheck check now).getOpportunityById paymentId =
          (cleared.ensureOpportunity check.opportunityId now).getOpportunityById paymentId := rfl
      rw [hensure, Db.getOpportunityById_ensureOpportunity, if_neg]
      rintro ⟨heq, -, hnone⟩
      rw [hcheck] at heq hnone
      have hstored := hrow heq.symm
      rw [heq, hnone] at hstored
      cases hstored
    rw [List.foldl_cons, ih (fun c hc => hid c (List.mem_cons_of_mem _ hc)) _ (by rwa [hsame]), hsame]

lemma evaluateOpportunity (ks : KillSwitches) (est : Estimator) (now : Timestamp) (db : Db)
    (opp : RecoveryOpportunity) (decision : Option AllocationDecision) (score : Option Score)
    (hrow : opp.id = paymentId → (db.getOpportunityById paymentId).isSome) :
    KeepsPayment paymentId db (Authority.evaluateOpportunity ks est now db opp decision score).2 := by
  obtain ⟨asked, d, sc, hasked, hdb⟩ := evaluateOpportunity_snd ks est now db opp decision score
  have hkeeps : KeepsPayment paymentId db asked := by
    rcases hasked with rfl | rfl
    · exact refl asked
    · exact getOrScore est db opp
  rw [hdb]
  refine (hkeeps.trans (persistChecks asked _ now (fun _ => opportunityId_of_mem_checks) ?_)).trans
    (updateStatus _ _ _)
  rwa [hkeeps.row]

lemma reconcileCommit (platform : Platform) (plan : SettlementPlan) (ids : TransactionIds)
    (fault : Option ℕ) (db : Db) :
    KeepsPayment paymentId db
      (AuthoritativeReconciler.reconcileCommit platform plan ids fault db) := by
  exact ⟨isSome_getOpportunityById_reconcileCommit platform plan ids fault db paymentId,
    receivedEntries_reconcileCommit platform plan ids fault db⟩

end KeepsPayment

/-! ### One step -/

/-- Whether an action delivers the payment. -/
def delivers (paymentId : String) : SystemAction → Bool
  | .ingest ingestion => ingestion.paymentId == some paymentId
  | _                 => false

/-- The generated id of the audit entry that an action may write. -/
def entryIdOf : SystemAction → Option String
  | .engine (.answer _ _ _ entryId) => some entryId
  | .ingest ingestion               => ingestion.auditId
  | _                               => none

/-- Besides its deliveries, nothing ingests the payment and nothing evaluates it before it is
stored, and no generated id is that of one of its receipts. -/
def WorksAround (paymentId : String) (s : EngineState) (a : SystemAction) (_ : EngineState) : Prop :=
  (∀ entryId ∈ entryIdOf a, entryId ∉ (receivedEntries s.db paymentId).map (·.id)) ∧
    match a with
    | .ingest ingestion =>
      ingestion.paymentId = some paymentId ∨ ∀ opp ∈ ingested s.db ingestion, opp.id ≠ paymentId
    | .evaluate _ _ opp _ _ => opp.id = paymentId → (s.db.getOpportunityById paymentId).isSome
    | _ => True

/-- A first delivery names an event that is not stored, and a later one through the queue an event
that is. -/
def DeliversByEvent (paymentId : String) (s : EngineState) (a : SystemAction) (_ : EngineState) :
    Prop :=
  match a with
  | .ingest ingestion => ingestion.paymentId = some paymentId →
    if (s.db.getOpportunityById paymentId).isSome then
      ingestion.isQueued → ingestion.eventStored s.db
    else ¬ ingestion.eventStored s.db
  | _ => True

instance (s : EngineState) (a : SystemAction) (t : EngineState) :
    Decidable (WorksAround paymentId s a t) := by
  cases a <;> unfold WorksAround <;> infer_instance

/-- The payment was never received. -/
structure Unknown (paymentId : String) (db : Db) : Prop where
  row : db.getOpportunityById paymentId = none
  received : receivedEntries db paymentId = []

/-- The payment has one opportunity and one receipt. -/
structure RecordedOnce (paymentId : String) (db : Db) : Prop where
  row : (db.getOpportunityById paymentId).isSome
  received : (receivedEntries db paymentId).length = 1

variable {platform : Platform} {s t : EngineState} {a : SystemAction} {as : List SystemAction}

lemma KeepsPayment.unknown (h : KeepsPayment paymentId db db') (hdb : Unknown paymentId db) :
    Unknown paymentId db' where
  row := by
    rw [← Option.not_isSome_iff_eq_none, h.row, hdb.row]
    simp
  received := h.received.trans hdb.received

lemma KeepsPayment.recordedOnce (h : KeepsPayment paymentId db db')
    (hdb : RecordedOnce paymentId db) : RecordedOnce paymentId db' :=
  ⟨h.row.trans hdb.row, by rw [h.received, hdb.received]⟩

lemma receivedEntries_engineStep {action : EngineAction}
    (h : engineStep platform s action = some t)
    (hfresh : ∀ entryId ∈ entryIdOf (.engine action),
      entryId ∉ (receivedEntries s.db paymentId).map (·.id)) :
    receivedEntries t.db paymentId = receivedEntries s.db paymentId := by
  cases action with
  | score est id =>
    obtain ⟨opp, -, rfl⟩ := engineStep_score h
    exact receivedEntries_congr (sameBooks_scoreOpportunity est s.db opp).ledgerEntries
  | allocate est options =>
    rw [(engineStep_allocate h).1]
    exact receivedEntries_congr sameBooks_runMarketAllocation.ledgerEntries
  | pipeline est now options =>
    rw [(engineStep_pipeline h).1]
    exact receivedEntries_congr sameBooks_runAuthorityPipeline.ledgerEntries
  | execute call est now id replay =>
    rw [(engineStep_execute h).1]
    exact receivedEntries_congr Executor.sameBooks_start.ledgerEntries
  | answer call answer now entryId =>
    obtain ⟨execution, p, -, hp, rfl⟩ := engineStep_answer h
    rcases Executor.advance_entries hp with hsame | ⟨opp, time, hput⟩
    · exact receivedEntries_congr hsame
    · have hentries : receivedEntries p.2 paymentId = receivedEntries
          (s.db.insertLedgerEntry (Executor.linkEntry entryId opp time)) paymentId :=
        receivedEntries_congr hput
      refine hentries.trans ?_
      apply receivedEntries_insertLedgerEntry_of_not
      · simp [Executor.linkEntry]
      · exact hfresh entryId rfl
  | settle call now =>
    obtain ⟨id, result, -, rfl⟩ := engineStep_settle h
    cases result with
    | error message => rfl
    | ok result =>
      dsimp only
      rw [ExecutionDLQ.settleReplay]
      split_ifs <;> rfl
  | reconcile action =>
    obtain ⟨r, hr, rfl⟩ := engineStep_reconcile h
    rcases reconcileStep_db hr with hdb | ⟨plan, ids, fault, -, hdb⟩
    · exact congrArg (receivedEntries · paymentId) hdb
    · exact (congrArg (receivedEntries · paymentId) hdb).trans
        (receivedEntries_reconcileCommit platform plan ids fault s.db)
  | setKillSwitches killSwitches =>
    cases h
    rfl

lemma keepsPayment_engineStep {action : EngineAction} (h : engineStep platform s action = some t)
    (hfresh : ∀ entryId ∈ entryIdOf (.engine action),
      entryId ∉ (receivedEntries s.db paymentId).map (·.id)) :
    KeepsPayment paymentId s.db t.db := by
  refine ⟨?_, receivedEntries_engineStep h hfresh⟩
  cases hcommit : committing s action with
  | none =>
    obtain ⟨ws, hrows, -, -⟩ := engineStep_rewrites h hcommit
    obtain ⟨n, hn⟩ := hrows.getOpportunityById
    rw [hn, Option.isSome_map, Db.getOpportunityById_writeStatuses, Option.isSome_map]
  | some plan =>
    obtain ⟨-, ids, fault, -, -, -, hdb⟩ := engineStep_commit h hcommit
    rw [hdb]
    exact (KeepsPayment.reconcileCommit platform plan ids fault s.db).row

/-- An ingestion of another payment. -/
lemma keepsPayment_ingest {ingestion : Ingestion}
    (hother : ∀ opp ∈ ingested s.db ingestion, opp.id ≠ paymentId)
    (hfresh : ∀ entryId ∈ ingestion.auditId,
      entryId ∉ (receivedEntries s.db paymentId).map (·.id)) :
    KeepsPayment paymentId s.db (ingest s.db ingestion) := by
  rw [ingest]
  cases hopp : ingested s.db ingestion with
  | none => exact .refl s.db
  | some opp =>
    dsimp only
    cases hins : s.db.insertOpportunity opp with
    | none => exact .refl s.db
    | some db' =>
      have hne : opp.id ≠ paymentId := hother opp hopp
      have hkeeps : KeepsPayment paymentId s.db db' := by
        refine ⟨?_, receivedEntries_congr (SameBooks.insertOpportunity hins).ledgerEntries⟩
        rw [Db.getOpportunityById_insertOpportunity hins, if_neg hne.symm]
      dsimp only
      cases haudit : ingestion.auditId with
      | none => exact hkeeps
      | some entryId =>
        refine hkeeps.trans ⟨rfl, receivedEntries_insertLedgerEntry_of_not ?_ ?_⟩
        · simp [receivedEntry, hne]
        · rw [hkeeps.received]
          exact hfresh entryId haudit

/-- What a step that does not deliver the payment leaves alone. -/
lemma keepsPayment_step (h : systemStep platform s a = some t) (haround : WorksAround paymentId s a t)
    (hno : delivers paymentId a = false) : KeepsPayment paymentId s.db t.db := by
  obtain ⟨hfresh, haround⟩ := haround
  cases a with
  | engine action => exact keepsPayment_engineStep h hfresh
  | ingest ingestion =>
    cases h
    have hother : ingestion.paymentId ≠ some paymentId := by simpa [delivers] using hno
    exact keepsPayment_ingest (haround.resolve_left hother) hfresh
  | allocateOn est options opportunities =>
    rw [systemStep_allocateOn h]
    exact .allocateAmong est _ _ s.db
  | evaluate est now opp decision score =>
    rw [(systemStep_evaluate h).1]
    exact .evaluateOpportunity _ _ _ _ _ _ _ haround
  | decline id verdict =>
    cases h
    exact .updateStatus s.db id _
  | upsertScore score =>
    rw [systemStep_upsertScore h]
    exact ⟨rfl, rfl⟩
  | upsertAllocationDecision decision =>
    rw [systemStep_upsertAllocationDecision h]
    exact ⟨rfl, rfl⟩

/-! ### A delivery -/

section Delivery

variable {ingestion : Ingestion}

/-- A delivery that is no duplicate leaves the payment with a row and one receipt more. -/
lemma length_receivedEntries_ingest (hpayment : ingestion.paymentId = some paymentId)
    (hdup : ¬ ingestion.isDuplicate db paymentId)
    (hfresh : ∀ entryId ∈ ingestion.auditId, entryId ∉ (receivedEntries db paymentId).map (·.id)) :
    ((ingest db ingestion).getOpportunityById paymentId).isSome ∧
      (receivedEntries (ingest db ingestion) paymentId).length =
        (receivedEntries db paymentId).length + 1 := by
  obtain ⟨opp, db', entryId, hid, haudit, hins, hingest⟩ := ingest_of_not_isDuplicate hpayment hdup
  have hbooks : receivedEntries db' paymentId = receivedEntries db paymentId :=
    receivedEntries_congr (SameBooks.insertOpportunity hins).ledgerEntries
  rw [hingest]
  constructor
  · have hrow : (db'.insertLedgerEntry (receivedEntry entryId opp)).getOpportunityById paymentId =
        db'.getOpportunityById paymentId := rfl
    rw [hrow, Db.getOpportunityById_insertOpportunity hins, if_pos hid.symm, Option.isSome_some]
  · have hfree : entryId ∉ (receivedEntries db' paymentId).map (·.id) := by
      rw [hbooks]
      exact hfresh entryId haudit
    rw [(receivedEntries_insertLedgerEntry hid hfree).length_eq, List.length_cons, hbooks]

/-- The first delivery records the payment exactly when its event is not stored. -/
lemma recordedOnce_ingest_of_unknown (hpayment : ingestion.paymentId = some paymentId)
    (h : Unknown paymentId db) :
    RecordedOnce paymentId (ingest db ingestion) ↔ ¬ ingestion.eventStored db := by
  have hdup : ingestion.isDuplicate db paymentId = ingestion.eventStored db := by
    simp [Ingestion.isDuplicate, h.row]
  by_cases hstored : ingestion.eventStored db
  · rw [ingest_of_isDuplicate hpayment (hdup.trans hstored)]
    refine iff_of_false (fun hrecorded => ?_) (not_not_intro hstored)
    have hrow := hrecorded.row
    rw [h.row] at hrow
    cases hrow
  · have hfresh : ∀ entryId ∈ ingestion.auditId,
        entryId ∉ (receivedEntries db paymentId).map (·.id) := by
      simp [h.received]
    obtain ⟨hrow, hlength⟩ := length_receivedEntries_ingest hpayment (by rwa [hdup]) hfresh
    refine iff_of_true ⟨hrow, ?_⟩ hstored
    rw [hlength, h.received, List.length_nil]

lemma isDuplicate_iff_of_recordedOnce (h : RecordedOnce paymentId db) :
    ingestion.isDuplicate db paymentId ↔ (ingestion.isQueued → ingestion.eventStored db) := by
  simp only [Ingestion.isDuplicate, h.row]
  cases ingestion.isQueued <;> simp

lemma recordedOnce_ingest_iff (hpayment : ingestion.paymentId = some paymentId)
    (h : RecordedOnce paymentId db)
    (hfresh : ∀ entryId ∈ ingestion.auditId, entryId ∉ (receivedEntries db paymentId).map (·.id)) :
    RecordedOnce paymentId (ingest db ingestion) ↔
      (ingestion.isQueued → ingestion.eventStored db) := by
  rw [← isDuplicate_iff_of_recordedOnce h]
  by_cases hdup : ingestion.isDuplicate db paymentId
  · rw [ingest_of_isDuplicate hpayment hdup]
    exact iff_of_true h hdup
  · refine iff_of_false (fun hrecorded => ?_) hdup
    have hlength := (length_receivedEntries_ingest hpayment hdup hfresh).2
    rw [hrecorded.received, h.received] at hlength
    cases hlength

end Delivery

/-! ### Runs -/

/-- After its first delivery the payment has one opportunity and one receipt in every state of the
run, and no later delivery changes the status, the amount or the attempt count. -/
structure Idempotent (platform : Platform) (paymentId : String) (s : EngineState)
    (as : List SystemAction) : Prop where
  recorded : ∀ pre rest t, as = pre ++ rest → Run (systemStep platform) s pre t →
    (∃ a ∈ pre, delivers paymentId a) → RecordedOnce paymentId t.db
  unchanged : ∀ pre a rest t u, as = pre ++ a :: rest → Run (systemStep platform) s pre t →
    (∃ b ∈ pre, delivers paymentId b) → delivers paymentId a → systemStep platform t a = some u →
    (u.db.getOpportunityById paymentId).map (fun o => (o.status, o.amountPaise, o.attemptCount)) =
      (t.db.getOpportunityById paymentId).map fun o => (o.status, o.amountPaise, o.attemptCount)

lemma exists_ingestion_of_delivers (hdelivers : delivers paymentId a)
    (h : systemStep platform s a = some t) :
    ∃ ingestion : Ingestion, a = .ingest ingestion ∧ ingestion.paymentId = some paymentId ∧
      t.db = ingest s.db ingestion := by
  cases a with
  | ingest ingestion =>
    cases h
    exact ⟨ingestion, rfl, by simpa [delivers] using hdelivers, rfl⟩
  | _ => cases hdelivers

lemma recordedOnce_first_iff (hunknown : Unknown paymentId s.db) (hdelivers : delivers paymentId a)
    (h : systemStep platform s a = some t) :
    RecordedOnce paymentId t.db ↔ DeliversByEvent paymentId s a t := by
  obtain ⟨ingestion, rfl, hpayment, hdb⟩ := exists_ingestion_of_delivers hdelivers h
  rw [hdb, recordedOnce_ingest_of_unknown hpayment hunknown, DeliversByEvent]
  simp [hpayment, hunknown.row]

lemma recordedOnce_later_iff (hrecorded : RecordedOnce paymentId s.db)
    (hdelivers : delivers paymentId a) (haround : WorksAround paymentId s a t)
    (h : systemStep platform s a = some t) :
    RecordedOnce paymentId t.db ↔ DeliversByEvent paymentId s a t := by
  obtain ⟨ingestion, rfl, hpayment, hdb⟩ := exists_ingestion_of_delivers hdelivers h
  rw [hdb, recordedOnce_ingest_iff hpayment hrecorded haround.1, DeliversByEvent]
  simp [hpayment, hrecorded.row]

lemma db_eq_of_later (hrecorded : RecordedOnce paymentId s.db) (hdelivers : delivers paymentId a)
    (hevent : DeliversByEvent paymentId s a t) (h : systemStep platform s a = some t) :
    t.db = s.db := by
  obtain ⟨ingestion, rfl, hpayment, hdb⟩ := exists_ingestion_of_delivers hdelivers h
  rw [DeliversByEvent] at hevent
  have hdup := hevent hpayment
  rw [if_pos hrecorded.row, ← isDuplicate_iff_of_recordedOnce hrecorded] at hdup
  rw [hdb, ingest_of_isDuplicate hpayment hdup]

lemma unknown_of_run (hrun : Run (systemStep platform) s as t)
    (haround : AllSteps (systemStep platform) (WorksAround paymentId) s as)
    (hno : ∀ a ∈ as, delivers paymentId a = false) (h : Unknown paymentId s.db) :
    Unknown paymentId t.db := by
  induction hrun with
  | nil s => exact h
  | cons hstep _ ih =>
    obtain ⟨hfirst, hrest⟩ := haround _ hstep
    exact ih hrest (fun b hb => hno b (List.mem_cons_of_mem _ hb))
      ((keepsPayment_step hstep hfirst (hno _ List.mem_cons_self)).unknown h)

lemma recordedOnce_step (h : RecordedOnce paymentId s.db) (hstep : systemStep platform s a = some t)
    (haround : WorksAround paymentId s a t) (hevent : DeliversByEvent paymentId s a t) :
    RecordedOnce paymentId t.db := by
  cases hdelivers : delivers paymentId a with
  | true => exact (recordedOnce_later_iff h hdelivers haround hstep).mpr hevent
  | false => exact (keepsPayment_step hstep haround hdelivers).recordedOnce h

lemma recordedOnce_of_run (hrun : Run (systemStep platform) s as t)
    (hall : AllSteps (systemStep platform)
      (fun s a t => WorksAround paymentId s a t ∧ DeliversByEvent paymentId s a t) s as)
    (hsome : ∃ a ∈ as, delivers paymentId a) (h : Unknown paymentId s.db) :
    RecordedOnce paymentId t.db := by
  induction hrun with
  | nil s => simp at hsome
  | @cons s u t a as hstep hrun ih =>
    obtain ⟨⟨haround, hevent⟩, hrest⟩ := hall _ hstep
    cases hdelivers : delivers paymentId a with
    | true =>
      -- from the first delivery on, the payment is recorded
      have hrecorded := (recordedOnce_first_iff h hdelivers hstep).mpr hevent
      exact hrun.invariant_of_allSteps
        (fun _ _ _ hI hstep hP => recordedOnce_step hI hstep hP.1 hP.2) hrest hrecorded
    | false =>
      obtain ⟨b, hb, hdelivered⟩ := hsome
      rcases List.mem_cons.mp hb with rfl | hb
      · rw [hdelivers] at hdelivered
        cases hdelivered
      · exact ih hrest ⟨b, hb, hdelivered⟩ ((keepsPayment_step hstep haround hdelivers).unknown h)

/-- The deliveries of a payment are idempotent exactly in the runs in which the first one names an
event that is not stored, and every later one through the queue an event that is. -/
theorem idempotent_iff (platform : Platform) (hunknown : Unknown paymentId s.db)
    (haround : AllSteps (systemStep platform) (WorksAround paymentId) s as) :
    Idempotent platform paymentId s as ↔
      AllSteps (systemStep platform) (DeliversByEvent paymentId) s as := by
  constructor
  · intro h
    refine allSteps_of_forall fun pre a rest t u has hpre hstep => ?_
    cases hdelivers : delivers paymentId a with
    | false =>
      cases a with
      | ingest ingestion =>
        intro hpayment
        simp [delivers, hpayment] at hdelivers
      | _ => trivial
    | true =>
      have hafter : RecordedOnce paymentId u.db :=
        h.recorded (pre ++ [a]) rest u (by simp [has]) (hpre.append (.cons hstep (.nil u)))
          ⟨a, by simp, hdelivers⟩
      have haround' : AllSteps (systemStep platform) (WorksAround paymentId) s (pre ++ a :: rest) :=
        has ▸ haround
      by_cases hsome : ∃ b ∈ pre, delivers paymentId b
      · have hbefore : RecordedOnce paymentId t.db := h.recorded pre (a :: rest) t has hpre hsome
        exact (recordedOnce_later_iff hbefore hdelivers (haround'.at_step hpre hstep) hstep).mp hafter
      · have hnone : ∀ b ∈ pre, delivers paymentId b = false := by simpa using hsome
        exact (recordedOnce_first_iff (unknown_of_run hpre haround'.left hnone hunknown) hdelivers
          hstep).mp hafter
  · intro hevent
    have hall := haround.and hevent
    constructor
    · rintro pre rest t rfl hpre hsome
      exact recordedOnce_of_run hpre hall.left hsome hunknown
    · rintro pre a rest t u rfl hpre hsome hdelivers hstep
      have hrecorded := recordedOnce_of_run hpre hall.left hsome hunknown
      rw [db_eq_of_later hrecorded hdelivers (hall.at_step hpre hstep).2 hstep]

/-- The payment is ingested from the queue, recovered, and delivered again: to the gateway under
another event, and to the queue under the same one. -/
def redeliveries : List SystemAction :=
  [.ingest (.queued "tenant_a" (failedEvent "evt_1" "pay_1") 0 1000 "led_1"),
    .engine (.reconcile (.start 0 "pay_1" (some (.delivered "tenant_a" true, paidLink)) 5000)),
    .engine (.reconcile (.commit 0 (raceIds 0) none "")),
    .ingest (.event "tenant_a" (failedEvent "evt_2" "pay_1") 0 6000 "led_2"),
    .ingest (.queued "tenant_a" (failedEvent "evt_1" "pay_1") 0 7000 "led_3")]

theorem idempotent_iff_redeliveries :
    AllSteps (systemStep .plain) (WorksAround "pay_1") (.idle .empty) redeliveries ∧
      (Idempotent .plain "pay_1" (.idle .empty) redeliveries ↔
        AllSteps (systemStep .plain) (DeliversByEvent "pay_1") (.idle .empty) redeliveries) :=
  ⟨by decide +kernel, idempotent_iff .plain ⟨rfl, rfl⟩ (by decide +kernel)⟩

/-- A second event of the payment in the queue leaves a second receipt. -/
theorem queue_receives_twice :
    ¬ ∀ platform paymentId s as, Unknown paymentId s.db →
      AllSteps (systemStep platform) (WorksAround paymentId) s as →
      Idempotent platform paymentId s as := by
  intro h
  have hidempotent := h .plain "pay_1" (.idle .empty)
    [.ingest (.queued "tenant_a" (failedEvent "evt_1" "pay_1") 0 1000 "led_1"),
      .ingest (.queued "tenant_a" (failedEvent "evt_2" "pay_1") 0 6000 "led_2")]
    ⟨rfl, rfl⟩ (by decide +kernel)
  have hrecorded := hidempotent.recorded _ [] _ (List.append_nil _).symm
    (.cons rfl (.cons rfl (.nil _))) ⟨_, List.mem_cons_self, rfl⟩
  have hlength := hrecorded.received
  revert hlength
  decide +kernel

end CtrlRecovery
