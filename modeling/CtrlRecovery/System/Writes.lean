import CtrlRecovery.System.RecoverySystem

/-!
# The writes of the system

Apart from the transactions of the reconciler, every step of the system is a sequence of writes of a
few kinds (`systemStep_writes`). What all of them leave alone, as the tables of the agents
(`Writes.sameAgentRecords`), no such step changes.
-/

namespace CtrlRecovery

open Core OpportunityStatus OpportunityRepository Scorer Market Authority

/-- A write of one statement, or of one function of the repository. -/
inductive Write (db : Db) : Db → Prop
  | status (id : String) (status : OpportunityStatus) : Write db (db.updateStatus id status)
  | opportunity {opp : RecoveryOpportunity} {db' : Db} (h : db.insertOpportunity opp = some db') :
      Write db db'
  | attempts (id : String) (attemptCount : ℚ) : Write db (db.setAttemptCount id attemptCount)
  | score (score : Score) : Write db (db.upsertScore score)
  | decision (decision : AllocationDecision) : Write db (db.upsertAllocationDecision decision)
  | record (record : ExecutionRecord) : Write db (db.upsertExecutionRecord record)
  | ledgerEntry (entry : LedgerEntry) : Write db (db.insertLedgerEntry entry)
  | checks (checks : List AuthorityCheck) : Write db { db with authorityChecks := checks }
  | jobs (jobs : List DlqJobRecord) : Write db { db with dlqJobs := jobs }

/-- Any number of such writes. -/
abbrev Writes : Db → Db → Prop := Relation.ReflTransGen Write

namespace Writes

variable {db db' : Db} {ks : KillSwitches} {est : Estimator} {now : Timestamp}
  {opp : RecoveryOpportunity}

/-! ### Scores and allocations -/

lemma scoreOpportunity (est : Estimator) (db : Db) (opp : RecoveryOpportunity) :
    Writes db (Scorer.scoreOpportunity est db opp).2 := by
  rw [Scorer.scoreOpportunity]
  dsimp only
  split_ifs
  · exact (Relation.ReflTransGen.single (.score _)).tail (.status _ _)
  · exact .single (.score _)

lemma getOrScore (est : Estimator) (db : Db) (opp : RecoveryOpportunity) :
    Writes db (Scorer.getOrScore est db opp).2 := by
  rw [Scorer.getOrScore]
  cases db.getScoreByOpportunityId opp.id with
  | some score => exact .refl
  | none => exact scoreOpportunity est db opp

lemma scoreItems (est : Estimator) (db : Db) (opps : List RecoveryOpportunity) :
    Writes db (Scorer.scoreItems est db opps).2 := by
  induction opps generalizing db with
  | nil => exact .refl
  | cons opp opps ih => exact (getOrScore est db opp).trans (ih _)

lemma place (db : Db) (p : Placement) : Writes db (Market.place db p) :=
  (Relation.ReflTransGen.single (.status p.opportunity.id p.status)).tail (.decision p.decision)

lemma foldl_place (db : Db) (ps : List Placement) : Writes db (ps.foldl Market.place db) := by
  induction ps generalizing db with
  | nil => exact .refl
  | cons p ps ih => exact (place db p).trans (ih _)

lemma allocateAmong (est : Estimator) (capacity : ℕ) (opps : List RecoveryOpportunity) (db : Db) :
    Writes db (Market.allocateAmong est capacity opps db).2 :=
  (scoreItems est db opps).trans (foldl_place _ _)

lemma runMarketAllocation (platform : Platform) (est : Estimator) (options : AllocationOptions)
    (db : Db) : Writes db (Market.runMarketAllocation platform est options db).2 :=
  allocateAmong est _ _ db

/-! ### Evaluations -/

lemma ensureOpportunity (db : Db) (id : String) (now : Timestamp) :
    Writes db (db.ensureOpportunity id now) := by
  obtain heq | ⟨-, hins⟩ := Db.ensureOpportunity_cases db id now
  · rw [heq]
  · exact .single (.opportunity hins)

lemma persistChecks (db : Db) (id : String) (checks : List AuthorityCheck) (now : Timestamp) :
    Writes db (Authority.persistChecks db id checks now) := by
  have hclear : Writes db (db.clearAuthorityChecksForOpportunity id) := .single (.checks _)
  rw [Authority.persistChecks]
  generalize db.clearAuthorityChecksForOpportunity id = cleared at hclear
  induction checks generalizing cleared with
  | nil => exact hclear
  | cons check checks ih =>
    apply ih
    exact (hclear.trans (ensureOpportunity cleared check.opportunityId now)).tail (.checks _)

lemma evaluateOpportunity (ks : KillSwitches) (est : Estimator) (now : Timestamp) (db : Db)
    (opp : RecoveryOpportunity) (decision : Option AllocationDecision) (score : Option Score) :
    Writes db (Authority.evaluateOpportunity ks est now db opp decision score).2 := by
  obtain ⟨asked, d, sc, hasked, hdb⟩ := evaluateOpportunity_snd ks est now db opp decision score
  have hwrites : Writes db asked := by
    rcases hasked with rfl | rfl
    · exact .refl
    · exact getOrScore est db opp
  rw [hdb]
  exact (hwrites.trans (persistChecks asked opp.id _ now)).tail (.status _ _)

lemma evaluateStored (ks : KillSwitches) (est : Estimator) (now : Timestamp) (reason : String)
    (db : Db) (opp : RecoveryOpportunity) :
    Writes db (Authority.evaluateStored ks est now reason db opp).2 := by
  rw [evaluateStored_snd]
  exact ((getOrScore est db opp).trans (persistChecks _ _ _ _)).tail (.status _ _)

lemma evaluateAll (ks : KillSwitches) (est : Estimator) (now : Timestamp) (reason : String)
    (db : Db) (opps : List RecoveryOpportunity) :
    Writes db (Authority.evaluateAll ks est now reason db opps).2 := by
  induction opps generalizing db with
  | nil => exact .refl
  | cons opp opps ih => exact (evaluateStored ks est now reason db opp).trans (ih _)

lemma runAuthorityPipeline (platform : Platform) (ks : KillSwitches) (est : Estimator)
    (now : Timestamp) (options : AllocationOptions) (db : Db) :
    Writes db (Authority.runAuthorityPipeline platform ks est now options db).2 := by
  rw [runAuthorityPipeline_snd]
  exact (runMarketAllocation platform est options db).trans (evaluateAll ks est now _ _ _)

/-! ### Executions -/

section Executions

open Executor

variable {run : ExecutionRun} {client : ProviderClient} {error : ProviderError}
  {id entryId : String} {c : ExecuteCall} {answer : ExecuteAnswer}

lemma start : Writes db (Executor.start ks est now db id).2 := by
  cases h : db.getOpportunityById id with
  | none => rw [start_of_none h]
  | some opp =>
    have hevaluated := evaluateStored ks est now unallocatedReason db opp
    obtain heq | heq := start_snd_cases ks est now h
    · rw [heq]
      exact hevaluated
    · rw [heq]
      exact hevaluated.tail (.status _ _)

lemma storeLink (db : Db) (record : ExecutionRecord) : Writes db (Executor.storeLink db record) :=
  (Relation.ReflTransGen.single (.record record)).tail (.status _ _)

lemma fail : Writes db (Executor.fail run error now entryId db).2 := by
  rw [Executor.fail]
  cases run.executionEnv with
  | test => exact (storeLink db _).tail (.ledgerEntry _)
  | live => exact .refl

lemma creationFailed : Writes db (Executor.creationFailed run client error now entryId db).2 := by
  rw [Executor.creationFailed]
  split_ifs
  · exact .refl
  · exact fail

lemma launch {breakerOpen : Bool} :
    Writes db (Executor.launch run client breakerOpen now entryId db).2 := by
  rw [Executor.launch]
  split_ifs
  · exact .refl
  · exact creationFailed
  · exact .refl

lemma clientResolved {client : Except String ProviderClient} {breakerOpen : Bool} :
    Writes db (Executor.clientResolved run client breakerOpen now entryId db).2 := by
  cases client with
  | ok client => exact launch
  | error message =>
    rw [Executor.clientResolved]
    split_ifs
    · exact .refl
    · exact launch

lemma attempted {attempt : ℕ} {response : Except ProviderError LinkResponse} :
    Writes db (Executor.attempted run client attempt response now entryId db).2 := by
  cases response with
  | ok link => exact (storeLink db _).tail (.ledgerEntry _)
  | error error =>
    rw [Executor.attempted]
    split_ifs
    · exact creationFailed
    · exact .refl

lemma lookedUp {link : Option LinkResponse} :
    Writes db (Executor.lookedUp run error link now entryId db).2 := by
  cases link with
  | some link => exact storeLink db _
  | none => exact fail

lemma deadLetter (db : Db) (failure : ExecutionDLQ.Failure) :
    Writes db (ExecutionDLQ.deadLetter db failure) := by
  rw [ExecutionDLQ.deadLetter]
  split_ifs
  · exact (Relation.ReflTransGen.single (.status _ _)).tail (.attempts _ _)
  · exact .refl

lemma advance {p : ExecuteCall × Db} (h : Executor.advance answer now entryId db c = some p) :
    Writes db p.2 := by
  cases Executor.advances_of_advance h with
  | resolvingClient => exact clientResolved
  | creating => exact attempted
  | lookingUp => exact lookedUp
  | failing => exact .refl
  | counted failure => exact deadLetter db failure
  | inserting => exact .single (.jobs _)

lemma settleReplay (result : Except String SingleExecutionResult) :
    Writes db (ExecutionDLQ.settleReplay db id now result).2 := by
  cases result with
  | error message => exact .refl
  | ok result =>
    rw [ExecutionDLQ.settleReplay]
    split_ifs
    · exact .single (.jobs _)
    · exact .refl

end Executions

/-! ### Ingestions -/

lemma ingest (db : Db) (ingestion : Ingestion) : Writes db (CtrlRecovery.ingest db ingestion) := by
  rw [CtrlRecovery.ingest]
  cases ingested db ingestion with
  | none => exact .refl
  | some opp =>
    cases hins : db.insertOpportunity opp with
    | none =>
      simp only [hins]
      exact .refl
    | some db' =>
      have hrow : Writes db db' := .single (.opportunity hins)
      simp only [hins]
      cases ingestion.auditId with
      | none => exact hrow
      | some entryId => exact hrow.tail (.ledgerEntry _)

end Writes

/-! ### Steps -/

variable {platform : Platform} {s t : EngineState}

/-- What a step of the engine does to the database that commits no reconciliation. -/
lemma engineStep_writes {a : EngineAction} (h : engineStep platform s a = some t)
    (hcommit : committing s a = none) : Writes s.db t.db := by
  cases a with
  | score est id =>
    obtain ⟨opp, -, rfl⟩ := engineStep_score h
    exact .scoreOpportunity est s.db opp
  | allocate est options =>
    rw [(engineStep_allocate h).1]
    exact .runMarketAllocation platform est options s.db
  | pipeline est now options =>
    rw [(engineStep_pipeline h).1]
    exact .runAuthorityPipeline platform _ est now options s.db
  | execute call est now id replay =>
    rw [(engineStep_execute h).1]
    exact .start
  | answer call answer now entryId =>
    obtain ⟨execution, p, -, hp, rfl⟩ := engineStep_answer h
    exact .advance hp
  | settle call now =>
    obtain ⟨id, result, -, rfl⟩ := engineStep_settle h
    exact .settleReplay result
  | reconcile action =>
    obtain ⟨r, hr, rfl⟩ := engineStep_reconcile h
    rcases reconcileStep_db hr with hdb | ⟨plan, ids, fault, hplan, -⟩
    · show Writes s.db r.db
      rw [hdb]
    · rw [committing, hplan] at hcommit
      cases hcommit
  | setKillSwitches ks =>
    cases h
    exact .refl

/-- What a step of the system does to the database that commits no reconciliation. -/
theorem systemStep_writes {a : SystemAction} (h : systemStep platform s a = some t)
    (hcommit : committingPlan s a = none) : Writes s.db t.db := by
  cases a with
  | engine action => exact engineStep_writes h hcommit
  | ingest ingestion =>
    cases h
    exact .ingest s.db ingestion
  | allocateOn est options opportunities =>
    rw [systemStep_allocateOn h]
    exact .allocateAmong est _ _ s.db
  | evaluate est now opp decision score =>
    rw [(systemStep_evaluate h).1]
    exact .evaluateOpportunity _ _ _ _ _ _ _
  | decline id verdict =>
    cases h
    exact .single (.status _ _)
  | upsertScore score =>
    rw [systemStep_upsertScore h]
    exact .single (.score score)
  | upsertAllocationDecision decision =>
    rw [systemStep_upsertAllocationDecision h]
    exact .single (.decision decision)

/-! ### What the writes leave alone -/

/-- The two databases agree on the runs, the outcomes and the memories of the agents. -/
structure SameAgentRecords (db db' : Db) : Prop where
  agentRuns : db'.agentRuns = db.agentRuns
  agentOutcomes : db'.agentOutcomes = db.agentOutcomes
  agentMemories : db'.agentMemories = db.agentMemories

namespace SameAgentRecords

variable {db db' db'' : Db}

lemma refl (db : Db) : SameAgentRecords db db := ⟨rfl, rfl, rfl⟩

lemma trans (h : SameAgentRecords db db') (h' : SameAgentRecords db' db'') :
    SameAgentRecords db db'' :=
  ⟨h'.agentRuns.trans h.agentRuns, h'.agentOutcomes.trans h.agentOutcomes,
    h'.agentMemories.trans h.agentMemories⟩

lemma of_write (h : Write db db') : SameAgentRecords db db' := by
  cases h with
  | status id status =>
    rcases Db.updateStatus_eq_or db id status with h | h <;> rw [h]
    · exact refl db
    · exact ⟨rfl, rfl, rfl⟩
  | opportunity h =>
    simp only [Db.insertOpportunity] at h
    split_ifs at h
    cases h
    exact ⟨rfl, rfl, rfl⟩
  | _ => exact ⟨rfl, rfl, rfl⟩

end SameAgentRecords

lemma Writes.sameAgentRecords {db db' : Db} (h : Writes db db') : SameAgentRecords db db' := by
  induction h with
  | refl => exact .refl db
  | tail _ hwrite ih => exact ih.trans (.of_write hwrite)

end CtrlRecovery
