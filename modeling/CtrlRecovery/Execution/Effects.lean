import CtrlRecovery.Execution.Executor

/-!
# What a call of the executor writes

The start of a call writes the statuses of `startWrites`. After that a call touches the rows only
when it stores a link, which moves its opportunity to `executing`, and when the dead-letter queue
vetoes it. Nothing but the row of its own opportunity is written.
-/

namespace CtrlRecovery

open Core OpportunityStatus OpportunityRepository Scorer Authority AuthorityRuleRegistry

namespace Executor

variable {ks : KillSwitches} {est : Estimator} {now : Timestamp} {entryId : String}
  {db db' : Db} {id : String} {c : ExecuteCall} {answer : ExecuteAnswer}

def unallocatedReason : String := "Unallocated execution attempt"

/-! ### The start -/

/-- The status writes of the start of a call. -/
def startWrites (ks : KillSwitches) (est : Estimator) (db : Db) (id : String) :
    List (String × OpportunityStatus) :=
  match db.getOpportunityById id with
  | none     => []
  | some opp =>
    evaluationWrites ks est unallocatedReason db opp ++
      if (storedAnswer ks est unallocatedReason db opp).verdict = .authorized ∧
          (db.getExecutionRecordByOpportunityId id).isSome ∧ opp.status ≠ recovered then
        [(id, executing)]
      else []

lemma ne_recovered_of_mem_startWrites {w : String × OpportunityStatus}
    (h : w ∈ startWrites ks est db id) : w.2 ≠ recovered := by
  rw [startWrites] at h
  cases hrow : db.getOpportunityById id with
  | none => simp [hrow] at h
  | some opp =>
    rw [hrow] at h
    rcases List.mem_append.mp h with h | h
    · exact ne_recovered_of_mem_evaluationWrites h
    · rw [(List.mem_ite_nil_right.mp h).2 |> List.mem_singleton.mp]
      simp

/-- The start of a call writes only the status of its opportunity. -/
lemma id_of_mem_startWrites {w : String × OpportunityStatus} (h : w ∈ startWrites ks est db id) :
    w.1 = id := by
  rw [startWrites] at h
  cases hrow : db.getOpportunityById id with
  | none => simp [hrow] at h
  | some opp =>
    have hid : opp.id = id := Db.id_of_getOpportunityById hrow
    rw [hrow] at h
    simp only [evaluationWrites, scoringWrites, List.mem_append, List.mem_ite_nil_right,
      List.mem_singleton] at h
    rcases h with (⟨-, rfl⟩ | rfl) | ⟨-, rfl⟩
    · exact hid
    · exact hid
    · rfl

def IsCleared (ks : KillSwitches) (est : Estimator) (db : Db) (opp : RecoveryOpportunity) : Prop :=
  Cleared ks opp (effectiveScore est db opp).confidence (decisionType db opp)

instance (opp : RecoveryOpportunity) : Decidable (IsCleared ks est db opp) := by
  unfold IsCleared
  infer_instance

section Start

variable {opp : RecoveryOpportunity}

lemma start_of_none (h : db.getOpportunityById id = none) :
    start ks est now db id = (.finished (.error ("Opportunity not found: " ++ id)), db) := by
  rw [start, h]

lemma verdict_evaluateStored_iff (now : Timestamp) :
    (evaluateStored ks est now unallocatedReason db opp).1.verdict = .authorized ↔
      IsCleared ks est db opp := by
  rw [evaluateStored_fst]
  exact storedAnswer_verdict_iff

lemma start_of_not_cleared (h : db.getOpportunityById id = some opp)
    (hclear : ¬ IsCleared ks est db opp) :
    start ks est now db id =
      (.finished (.error (notAuthorizedError
        (evaluateStored ks est now unallocatedReason db opp).1)),
        (evaluateStored ks est now unallocatedReason db opp).2) := by
  rw [← verdict_evaluateStored_iff now] at hclear
  rw [start, h]
  exact if_pos hclear

/-- A call that is cleared returns the stored link, if there is one, and otherwise goes on to create
one. -/
lemma start_of_cleared (h : db.getOpportunityById id = some opp) (hclear : IsCleared ks est db opp) :
    start ks est now db id =
      match db.getExecutionRecordByOpportunityId id with
      | some record =>
        (success record false false,
          if opp.status ≠ recovered then
            (evaluateStored ks est now unallocatedReason db opp).2.updateStatus id executing
          else (evaluateStored ks est now unallocatedReason db opp).2)
      | none =>
        (.resolvingClient
          ⟨opp, executionEnv (evaluateStored ks est now unallocatedReason db opp).2 opp⟩,
          (evaluateStored ks est now unallocatedReason db opp).2) := by
  have hid : opp.id = id := Db.id_of_getOpportunityById h
  have hstored : (evaluateStored ks est now unallocatedReason db
      opp).2.getExecutionRecordByOpportunityId id = db.getExecutionRecordByOpportunityId id := by
    rw [Db.getExecutionRecordByOpportunityId, evaluateStored_executionRecords]
    rfl
  rw [← verdict_evaluateStored_iff now] at hclear
  rw [start, h]
  simp only [unallocatedReason] at hclear hstored ⊢
  cases hrecord : db.getExecutionRecordByOpportunityId id <;>
  · rw [hrecord] at hstored
    simp only [hclear, ne_eq, not_true_eq_false, if_false, hid, hstored]

lemma start_of_record (h : db.getOpportunityById id = some opp) (hclear : IsCleared ks est db opp)
    {record : ExecutionRecord} (hrecord : db.getExecutionRecordByOpportunityId id = some record) :
    start ks est now db id =
      (success record false false,
        if opp.status ≠ recovered then
          (evaluateStored ks est now unallocatedReason db opp).2.updateStatus id executing
        else (evaluateStored ks est now unallocatedReason db opp).2) := by
  rw [start_of_cleared h hclear, hrecord]

lemma start_of_no_record (h : db.getOpportunityById id = some opp)
    (hclear : IsCleared ks est db opp) (hrecord : db.getExecutionRecordByOpportunityId id = none) :
    start ks est now db id =
      (.resolvingClient
        ⟨opp, executionEnv (evaluateStored ks est now unallocatedReason db opp).2 opp⟩,
        (evaluateStored ks est now unallocatedReason db opp).2) := by
  rw [start_of_cleared h hclear, hrecord]

/-- A call starts with the evaluation of its row, and with the status of a link that it finds. -/
lemma start_snd_cases (ks : KillSwitches) (est : Estimator) (now : Timestamp)
    (h : db.getOpportunityById id = some opp) :
    (start ks est now db id).2 = (evaluateStored ks est now unallocatedReason db opp).2 ∨
      (start ks est now db id).2 =
        (evaluateStored ks est now unallocatedReason db opp).2.updateStatus id executing := by
  by_cases hclear : IsCleared ks est db opp
  · cases hrecord : db.getExecutionRecordByOpportunityId id with
    | none =>
      rw [start_of_no_record h hclear hrecord]
      exact .inl rfl
    | some record =>
      rw [start_of_record h hclear hrecord]
      dsimp only
      split_ifs
      · exact .inr rfl
      · exact .inl rfl
  · rw [start_of_not_cleared h hclear]
    exact .inl rfl

/-- The environment of a call is read from the tenants and its opportunity, which no evaluation
changes. -/
lemma executionEnv_evaluateStored (h : db.getOpportunityById id = some opp) :
    executionEnv (evaluateStored ks est now unallocatedReason db opp).2 opp =
      executionEnv db opp := by
  have hrow : (db.getOpportunityById opp.id).isSome := by
    rw [Db.id_of_getOpportunityById h, h, Option.isSome_some]
  rw [executionEnv, executionEnv, (sameRows_evaluateStored _ _ _ _ hrow).tenants,
    Db.writeStatuses_tenants]

lemma sameRows_start : SameRows (db.writeStatuses (startWrites ks est db id))
    (start ks est now db id).2 := by
  cases h : db.getOpportunityById id with
  | none =>
    rw [start_of_none h, startWrites, h]
    exact .refl db
  | some opp =>
    have hrow : (db.getOpportunityById opp.id).isSome := by
      rw [Db.id_of_getOpportunityById h, h, Option.isSome_some]
    have heval := sameRows_evaluateStored ks est now unallocatedReason hrow
    simp only [startWrites, h, storedAnswer_verdict_iff]
    by_cases hclear : IsCleared ks est db opp
    · cases hrecord : db.getExecutionRecordByOpportunityId id with
      | none =>
        rw [start_of_no_record h hclear hrecord]
        simpa using heval
      | some record =>
        rw [start_of_record h hclear hrecord]
        by_cases hs : opp.status = recovered
        · simpa [hs] using heval
        · have hclear' : Cleared ks opp (effectiveScore est db opp).confidence
            (decisionType db opp) := hclear
          rw [if_pos ⟨hclear', rfl, hs⟩, if_pos hs, Db.writeStatuses_append]
          exact heval.updateStatus id executing
    · have hclear' : ¬ Cleared ks opp (effectiveScore est db opp).confidence
        (decisionType db opp) := hclear
      rw [start_of_not_cleared h hclear]
      simpa [hclear'] using heval

lemma sameBooks_start : SameBooks db (start ks est now db id).2 := by
  cases h : db.getOpportunityById id with
  | none =>
    rw [start_of_none h]
    exact .refl db
  | some opp =>
    obtain heq | heq := start_snd_cases ks est now h
    · rw [heq]
      exact sameBooks_evaluateStored
    · rw [heq]
      exact sameBooks_evaluateStored.trans (.updateStatus _ _ _)

lemma isSome_getOpportunityById_start (j : String) :
    ((start ks est now db id).2.getOpportunityById j).isSome =
      (db.getOpportunityById j).isSome := by
  rw [sameRows_start.getOpportunityById, Db.getOpportunityById_writeStatuses, Option.isSome_map]

end Start

/-! ### The awaits -/

/-- The opportunity that a suspended call is about. -/
def subject : ExecuteCall → Option String
  | .resolvingClient run | .creating run _ _ | .lookingUp run _ _ => some run.opp.id
  | .failing opportunityId _ => some opportunityId
  | .counted failure | .inserting failure => some failure.opportunityId
  | .finished _ => none

/-- The rows after a step that may store a link of an opportunity. -/
def RowsAfterLink (id : String) (db db' : Db) : Prop :=
  SameRows db db' ∨ SameRows (db.updateStatus id executing) db'

lemma rowsAfterLink_storeLink (db : Db) (record : ExecutionRecord) :
    RowsAfterLink record.opportunityId db (storeLink db record) := by
  have hput : SameRows db (db.upsertExecutionRecord record) := ⟨rfl, rfl, rfl, rfl⟩
  exact .inr (hput.updateStatus record.opportunityId executing)

lemma RowsAfterLink.insertLedgerEntry (h : RowsAfterLink id db db') (entry : LedgerEntry) :
    RowsAfterLink id db (db'.insertLedgerEntry entry) := by
  have hentry : SameRows db' (db'.insertLedgerEntry entry) := ⟨rfl, rfl, rfl, rfl⟩
  rcases h with h | h
  · exact .inl (h.trans hentry)
  · exact .inr (h.trans hentry)

/-- The audit entries after a step that may store a link: as they were, or with the link's entry. -/
def EntriesAfterLink (entryId : String) (db db' : Db) : Prop :=
  db'.ledgerEntries = db.ledgerEntries ∨
    ∃ opp now, db'.ledgerEntries = db.ledgerEntries.put (linkEntry entryId opp now)

lemma storeLink_ledgerEntries (db : Db) (record : ExecutionRecord) :
    (storeLink db record).ledgerEntries = db.ledgerEntries :=
  (SameBooks.updateStatus _ _ _).ledgerEntries

lemma entriesAfterLink_insertLedgerEntry (db : Db) (record : ExecutionRecord)
    (opp : RecoveryOpportunity) :
    EntriesAfterLink entryId db
      ((storeLink db record).insertLedgerEntry (linkEntry entryId opp now)) := by
  refine .inr ⟨opp, now, ?_⟩
  rw [Db.insertLedgerEntry, storeLink_ledgerEntries]

section Advance

variable {run : ExecutionRun} {client : ProviderClient} {error : ProviderError}

/-- Where a step of a call leads: to the end of the call or to another of its awaits, with at most a
link stored. -/
structure LinkStep (entryId : String) (run : ExecutionRun) (db : Db) (p : ExecuteCall × Db) :
    Prop where
  rows : RowsAfterLink run.opp.id db p.2
  subject : subject p.1 = none ∨ subject p.1 = some run.opp.id
  entries : EntriesAfterLink entryId db p.2
  scores : p.2.scores = db.scores

lemma linkStep_fail : LinkStep entryId run db (fail run error now entryId db) := by
  rw [fail]
  cases run.executionEnv with
  | live => exact ⟨.inl (.refl db), .inr rfl, .inl rfl, rfl⟩
  | test =>
    exact ⟨(rowsAfterLink_storeLink db (simulatedRecord run.opp now)).insertLedgerEntry _, .inl rfl,
      entriesAfterLink_insertLedgerEntry db _ _, Db.updateStatus_scores⟩

lemma linkStep_creationFailed :
    LinkStep entryId run db (creationFailed run client error now entryId db) := by
  rw [creationFailed]
  split_ifs
  · exact ⟨.inl (.refl db), .inr rfl, .inl rfl, rfl⟩
  · exact linkStep_fail

lemma linkStep_launch {breakerOpen : Bool} :
    LinkStep entryId run db (launch run client breakerOpen now entryId db) := by
  rw [launch]
  split_ifs
  · exact ⟨.inl (.refl db), .inl rfl, .inl rfl, rfl⟩
  · exact linkStep_creationFailed
  · exact ⟨.inl (.refl db), .inr rfl, .inl rfl, rfl⟩

lemma linkStep_clientResolved {client : Except String ProviderClient} {breakerOpen : Bool} :
    LinkStep entryId run db (clientResolved run client breakerOpen now entryId db) := by
  cases client with
  | ok client => exact linkStep_launch
  | error message =>
    rw [clientResolved]
    split_ifs
    · exact ⟨.inl (.refl db), .inl rfl, .inl rfl, rfl⟩
    · exact linkStep_launch

lemma linkStep_attempted {attempt : ℕ} {response : Except ProviderError LinkResponse} :
    LinkStep entryId run db (attempted run client attempt response now entryId db) := by
  cases response with
  | ok link =>
    exact ⟨(rowsAfterLink_storeLink db (providerRecord run.opp link now)).insertLedgerEntry _,
      .inl rfl, entriesAfterLink_insertLedgerEntry db _ _, Db.updateStatus_scores⟩
  | error error =>
    rw [attempted]
    split_ifs
    · exact linkStep_creationFailed
    · exact ⟨.inl (.refl db), .inr rfl, .inl rfl, rfl⟩

lemma linkStep_lookedUp {link : Option LinkResponse} :
    LinkStep entryId run db (lookedUp run error link now entryId db) := by
  cases link with
  | some link =>
    exact ⟨rowsAfterLink_storeLink db (providerRecord run.opp link now), .inl rfl,
      .inl (storeLink_ledgerEntries db _), Db.updateStatus_scores⟩
  | none => exact linkStep_fail

/-- What an answer to a suspended call writes, by the opportunity that the call is about. -/
theorem advance_rows {p : ExecuteCall × Db} (h : advance answer now entryId db c = some p) :
    ∃ id, subject c = some id ∧ (subject p.1 = none ∨ subject p.1 = some id) ∧
      (RowsAfterLink id db p.2 ∨
        ∃ failure, c = .counted failure ∧ failure.opportunityId = id ∧
          p.2 = ExecutionDLQ.deadLetter db failure) := by
  cases advances_of_advance h with
  | resolvingClient run =>
    exact ⟨_, rfl, linkStep_clientResolved.subject, .inl linkStep_clientResolved.rows⟩
  | creating run => exact ⟨_, rfl, linkStep_attempted.subject, .inl linkStep_attempted.rows⟩
  | lookingUp run => exact ⟨_, rfl, linkStep_lookedUp.subject, .inl linkStep_lookedUp.rows⟩
  | failing opportunityId => exact ⟨opportunityId, rfl, .inr rfl, .inl (.inl (.refl db))⟩
  | counted failure => exact ⟨_, rfl, .inr rfl, .inr ⟨failure, rfl, rfl, rfl⟩⟩
  | inserting failure => exact ⟨_, rfl, .inl rfl, .inl (.inl ⟨rfl, rfl, rfl, rfl⟩)⟩

/-- What an answer to a suspended call does to the audit entries. -/
lemma advance_entries {p : ExecuteCall × Db} (h : advance answer now entryId db c = some p) :
    EntriesAfterLink entryId db p.2 := by
  cases advances_of_advance h with
  | resolvingClient => exact linkStep_clientResolved.entries
  | creating => exact linkStep_attempted.entries
  | lookingUp => exact linkStep_lookedUp.entries
  | counted failure =>
    left
    dsimp only
    rw [ExecutionDLQ.deadLetter]
    split_ifs
    · exact (SameBooks.updateStatus _ _ _).ledgerEntries
    · rfl
  | failing | inserting => exact .inl rfl

end Advance

/-! ### Other rows -/

lemma getOpportunityById_setAttemptCount_of_ne {j : String} {n : ℚ} (h : j ≠ id) :
    (db.setAttemptCount id n).getOpportunityById j = db.getOpportunityById j := by
  rw [Db.getOpportunityById, Db.setAttemptCount, Table.find?_update_of_ne h, Db.getOpportunityById]

lemma getOpportunityById_updateStatus_of_ne {j : String} {status : OpportunityStatus}
    (h : j ≠ id) :
    (db.updateStatus id status).getOpportunityById j = db.getOpportunityById j := by
  rw [Db.getOpportunityById_updateStatus, if_neg h]

lemma getOpportunityById_deadLetter_of_ne {failure : ExecutionDLQ.Failure} {j : String}
    (h : j ≠ failure.opportunityId) :
    (ExecutionDLQ.deadLetter db failure).getOpportunityById j = db.getOpportunityById j := by
  rw [ExecutionDLQ.deadLetter]
  split_ifs
  · rw [getOpportunityById_setAttemptCount_of_ne h, getOpportunityById_updateStatus_of_ne h]
  · rfl

lemma isSome_getOpportunityById_updateStatus (db : Db) (id j : String)
    (status : OpportunityStatus) :
    ((db.updateStatus id status).getOpportunityById j).isSome = (db.getOpportunityById j).isSome := by
  rw [Db.getOpportunityById_updateStatus]
  split_ifs
  · rw [Option.isSome_map]
  · rfl

lemma isSome_getOpportunityById_deadLetter (db : Db) (failure : ExecutionDLQ.Failure) (j : String) :
    ((ExecutionDLQ.deadLetter db failure).getOpportunityById j).isSome =
      (db.getOpportunityById j).isSome := by
  rw [ExecutionDLQ.deadLetter]
  split_ifs
  · rw [Db.getOpportunityById, Db.setAttemptCount, Table.find?_update,
      ← isSome_getOpportunityById_updateStatus db failure.opportunityId j .blocked]
    split_ifs
    · rw [Option.isSome_map]
      rfl
    · rfl
  · rfl

lemma isSome_getOpportunityById_advance {p : ExecuteCall × Db}
    (h : advance answer now entryId db c = some p) (j : String) :
    (p.2.getOpportunityById j).isSome = (db.getOpportunityById j).isSome := by
  obtain ⟨id, -, -, (hsame | hlink) | ⟨failure, -, -, hdead⟩⟩ := advance_rows h
  · rw [hsame.getOpportunityById]
  · rw [hlink.getOpportunityById, isSome_getOpportunityById_updateStatus]
  · rw [hdead, isSome_getOpportunityById_deadLetter]

/-- An answer to a call changes no other row. -/
lemma advance_getOpportunityById_of_ne {p : ExecuteCall × Db}
    (h : advance answer now entryId db c = some p) {j : String} (hj : subject c ≠ some j) :
    p.2.getOpportunityById j = db.getOpportunityById j ∧ subject p.1 ≠ some j := by
  obtain ⟨id, hid, hnext, hrows⟩ := advance_rows h
  have hne : j ≠ id := by
    rintro rfl
    exact hj hid
  constructor
  · rcases hrows with (hsame | hlink) | ⟨failure, -, rfl, hdead⟩
    · exact hsame.getOpportunityById j
    · rw [hlink.getOpportunityById, getOpportunityById_updateStatus_of_ne hne]
    · rw [hdead, getOpportunityById_deadLetter_of_ne hne]
  · rcases hnext with hnone | hsome
    · simp [hnone]
    · rw [hsome]
      simpa using Ne.symm hne

/-- The start of a call changes no other row. -/
lemma start_getOpportunityById_of_ne (ks : KillSwitches) (est : Estimator) (now : Timestamp)
    (db : Db) {j : String} (hj : j ≠ id) :
    (start ks est now db id).2.getOpportunityById j = db.getOpportunityById j ∧
      subject (start ks est now db id).1 ≠ some j := by
  cases h : db.getOpportunityById id with
  | none =>
    rw [start_of_none h]
    simp [subject]
  | some opp =>
    have hid : opp.id = id := Db.id_of_getOpportunityById h
    have hwrites : j ∉ (startWrites ks est db id).map Prod.fst := by
      intro hmem
      obtain ⟨w, hw, rfl⟩ := List.mem_map.mp hmem
      exact hj (id_of_mem_startWrites hw)
    constructor
    · rw [sameRows_start.getOpportunityById, Db.getOpportunityById_writeStatuses]
      simp [statusAfter_of_notMem hwrites]
    · by_cases hclear : IsCleared ks est db opp
      · cases hrecord : db.getExecutionRecordByOpportunityId id with
        | none =>
          rw [start_of_no_record h hclear hrecord]
          simpa [subject, hid] using Ne.symm hj
        | some record =>
          rw [start_of_record h hclear hrecord]
          simp [success, subject]
      · rw [start_of_not_cleared h hclear]
        simp [subject]

/-! ### Scores -/

lemma advance_scores {p : ExecuteCall × Db} (h : advance answer now entryId db c = some p) :
    p.2.scores = db.scores := by
  cases advances_of_advance h with
  | resolvingClient => exact linkStep_clientResolved.scores
  | creating => exact linkStep_attempted.scores
  | lookingUp => exact linkStep_lookedUp.scores
  | counted failure =>
    dsimp only
    rw [ExecutionDLQ.deadLetter]
    split_ifs
    · exact Db.updateStatus_scores
    · rfl
  | failing | inserting => rfl

lemma start_getScoreByOpportunityId_of_ne {j : String} (hj : j ≠ id) :
    (start ks est now db id).2.getScoreByOpportunityId j = db.getScoreByOpportunityId j := by
  cases h : db.getOpportunityById id with
  | none => rw [start_of_none h]
  | some opp =>
    have hne : j ≠ opp.id := by rwa [Db.id_of_getOpportunityById h]
    have hscore : (evaluateStored ks est now unallocatedReason db opp).2.getScoreByOpportunityId j =
        db.getScoreByOpportunityId j := by
      rw [getScoreByOpportunityId_evaluateStored, if_neg hne]
    obtain heq | heq := start_snd_cases ks est now h
    · rw [heq, hscore]
    · rw [heq, Db.getScoreByOpportunityId, Db.updateStatus_scores]
      exact hscore

lemma advance_tenants {p : ExecuteCall × Db} (h : advance answer now entryId db c = some p) :
    p.2.tenants = db.tenants := by
  obtain ⟨id, -, -, (hsame | hlink) | ⟨failure, -, -, hdead⟩⟩ := advance_rows h
  · exact hsame.tenants
  · rw [hlink.tenants, Db.updateStatus_tenants]
  · rw [hdead, ExecutionDLQ.deadLetter]
    split_ifs
    · exact Db.updateStatus_tenants
    · rfl

end Executor

end CtrlRecovery
