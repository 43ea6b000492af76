import CtrlRecovery.System.Lifecycle
import CtrlRecovery.Webhooks.Ingestion
import Mathlib.Logic.Relation

/-!
# The whole system

The engine together with ingestion and the other writers of its tables: the playground's allocation
of its own opportunity, the gate as the routes, the agents and the simulator call it, and what the
agents write after a mission.

Apart from the reconciler's transactions, no step makes a recovery or takes one back, unless an
ingestion upserts over a recovered row (`systemStep_keepsRecoveries`).
-/

namespace CtrlRecovery

open Core OpportunityStatus OpportunityRepository Scorer Market Authority AuthorityRuleRegistry
  AuthoritativeReconciler

inductive SystemAction
  | engine (action : EngineAction)
  | ingest (ingestion : Ingestion)
  | allocateOn (est : Estimator) (options : AllocationOptions)
      (opportunities : List RecoveryOpportunity)
  | evaluate (est : Estimator) (now : Timestamp) (opp : RecoveryOpportunity)
      (decision : Option AllocationDecision) (score : Option Score)
  | decline (id : String) (verdict : AuthorityVerdict)
  | upsertScore (score : Score)
  | upsertAllocationDecision (decision : AllocationDecision)

/-- The status that an agent's mission ends with when it is not authorized. -/
def declinedStatus (verdict : AuthorityVerdict) : OpportunityStatus :=
  if verdict = .blocked then blocked else abstained

/-- One step of the system. -/
def systemStep (platform : Platform) (s : EngineState) : SystemAction → Option EngineState
  | .engine action => engineStep platform s action
  | .ingest ingestion => some { s with db := ingest s.db ingestion }
  | .allocateOn est options opportunities =>
    (runMarketAllocationOn platform est options opportunities s.db).map fun run =>
      { s with db := run.2 }
  | .evaluate est now opp decision score =>
    some
      { s with db := (evaluateOpportunity s.killSwitches est now s.db opp decision score).2 }
  | .decline id verdict => some { s with db := s.db.updateStatus id (declinedStatus verdict) }
  | .upsertScore score =>
    -- the foreign keys of the two tables
    if (s.db.getOpportunityById score.opportunityId).isSome then
      some { s with db := s.db.upsertScore score }
    else none
  | .upsertAllocationDecision decision =>
    if (s.db.getOpportunityById decision.opportunityId).isSome then
      some { s with db := s.db.upsertAllocationDecision decision }
    else none

section Actions

variable {platform : Platform} {s t : EngineState} {est : Estimator}

lemma systemStep_allocateOn {options : AllocationOptions} {opportunities : List RecoveryOpportunity}
    (h : systemStep platform s (.allocateOn est options opportunities) = some t) :
    t = { s with db := (allocateAmong est (resolveCapacity platform s.db options)
      (opportunities.filter fun o => isAllocatable o.status) s.db).2 } := by
  obtain ⟨run, hrun, rfl⟩ := Option.map_eq_some_iff.mp h
  simp only [runMarketAllocationOn] at hrun
  split_ifs at hrun
  rw [← Option.some.inj hrun]

lemma systemStep_evaluate {now : Timestamp} {opp : RecoveryOpportunity}
    {decision : Option AllocationDecision} {score : Option Score}
    (h : systemStep platform s (.evaluate est now opp decision score) = some t) :
    t.db = (evaluateOpportunity s.killSwitches est now s.db opp decision score).2 ∧
      t.calls = s.calls ∧ t.executions = s.executions := by
  simp only [systemStep, Option.some.injEq] at h
  refine ⟨?_, ?_, ?_⟩ <;> rw [← h]

lemma systemStep_upsertScore {score : Score}
    (h : systemStep platform s (.upsertScore score) = some t) :
    t = { s with db := s.db.upsertScore score } := by
  simp only [systemStep] at h
  split_ifs at h
  exact (Option.some.inj h).symm

lemma systemStep_upsertAllocationDecision {decision : AllocationDecision}
    (h : systemStep platform s (.upsertAllocationDecision decision) = some t) :
    t = { s with db := s.db.upsertAllocationDecision decision } := by
  simp only [systemStep] at h
  split_ifs at h
  exact (Option.some.inj h).symm

end Actions

/-- The reconciliation that an action commits. -/
def committingPlan (s : EngineState) : SystemAction → Option SettlementPlan
  | .engine action => committing s action
  | _              => none

lemma systemStep_commit {platform : Platform} {s t : EngineState} {a : SystemAction}
    (h : systemStep platform s a = some t) {plan : SettlementPlan}
    (hplan : committingPlan s a = some plan) :
    ∃ ids fault, t.db = reconcileCommit platform plan ids fault s.db := by
  cases a with
  | engine action =>
    obtain ⟨-, ids, fault, -, -, -, hdb⟩ := engineStep_commit h hplan
    exact ⟨ids, fault, hdb⟩
  | _ => cases hplan

/-! ### Writes to the opportunities -/

/-- A write to the table of opportunities that recovers none and brings in no payment. -/
inductive RowWrite (db : Db) : Db → Prop
  | status (id : String) {status : OpportunityStatus} (h : status ≠ recovered) :
      RowWrite db (db.updateStatus id status)
  | attempts {db' : Db} (h : SameButAttempts db db') : RowWrite db db'
  | placeholder {db' : Db} {id : String} {now : Timestamp}
      (hnone : db.getOpportunityById id = none)
      (h : db.insertOpportunity (Db.placeholder id now) = some db') : RowWrite db db'

/-- Any number of such writes. -/
abbrev RowWrites : Db → Db → Prop := Relation.ReflTransGen RowWrite

namespace RowWrites

variable {db db' : Db}

lemma of_sameRows (h : SameRows db db') : RowWrites db db' := .single (.attempts h.sameButAttempts)

lemma updateStatus (db : Db) (id : String) {status : OpportunityStatus} (h : status ≠ recovered) :
    RowWrites db (db.updateStatus id status) :=
  .single (.status id h)

lemma writeStatuses (db : Db) {ws : List (String × OpportunityStatus)}
    (h : ∀ w ∈ ws, w.2 ≠ recovered) : RowWrites db (db.writeStatuses ws) := by
  induction ws generalizing db with
  | nil => exact .refl
  | cons w ws ih =>
    exact (updateStatus db w.1 (h w List.mem_cons_self)).trans
      (ih _ fun v hv => h v (List.mem_cons_of_mem _ hv))

lemma of_writes {ws : List (String × OpportunityStatus)} (hws : ∀ w ∈ ws, w.2 ≠ recovered)
    (h : SameRows (db.writeStatuses ws) db') : RowWrites db db' :=
  (writeStatuses db hws).trans (of_sameRows h)

lemma getOrScore (est : Estimator) (db : Db) (opp : RecoveryOpportunity) :
    RowWrites db (Scorer.getOrScore est db opp).2 := by
  refine of_writes (fun w hw => ?_) (sameRows_getOrScore est db opp)
  rw [(mem_scoringWrites hw).1]
  simp

lemma scoreItems (est : Estimator) (db : Db) (opps : List RecoveryOpportunity) :
    RowWrites db (Scorer.scoreItems est db opps).2 := by
  induction opps generalizing db with
  | nil => exact .refl
  | cons opp opps ih => exact (getOrScore est db opp).trans (ih _)

lemma allocateAmong (est : Estimator) (capacity : ℕ) (opps : List RecoveryOpportunity) (db : Db) :
    RowWrites db (Market.allocateAmong est capacity opps db).2 :=
  (scoreItems est db opps).trans
    (of_writes (fun _ => ne_recovered_of_mem_placementWrites) (sameRows_foldl_place _ _))

lemma ensureOpportunity (db : Db) (id : String) (now : Timestamp) :
    RowWrites db (db.ensureOpportunity id now) := by
  obtain heq | ⟨hrow, hins⟩ := Db.ensureOpportunity_cases db id now
  · rw [heq]
  · exact .single (.placeholder hrow hins)

lemma persistChecks (db : Db) (id : String) (checks : List AuthorityCheck) (now : Timestamp) :
    RowWrites db (Authority.persistChecks db id checks now) := by
  have hclear : RowWrites db (db.clearAuthorityChecksForOpportunity id) :=
    of_sameRows ⟨rfl, rfl, rfl, rfl⟩
  rw [Authority.persistChecks]
  generalize db.clearAuthorityChecksForOpportunity id = cleared at hclear
  induction checks generalizing cleared with
  | nil => exact hclear
  | cons check checks ih =>
    apply ih
    exact (hclear.trans (ensureOpportunity cleared check.opportunityId now)).trans
      (of_sameRows ⟨rfl, rfl, rfl, rfl⟩)

lemma evaluateOpportunity (ks : KillSwitches) (est : Estimator) (now : Timestamp) (db : Db)
    (opp : RecoveryOpportunity) (decision : Option AllocationDecision) (score : Option Score) :
    RowWrites db (Authority.evaluateOpportunity ks est now db opp decision score).2 := by
  obtain ⟨asked, d, sc, hasked, hdb⟩ := evaluateOpportunity_snd ks est now db opp decision score
  have hwrites : RowWrites db asked := by
    rcases hasked with rfl | rfl
    · exact .refl
    · exact getOrScore est db opp
  rw [hdb]
  exact (hwrites.trans (persistChecks asked opp.id _ now)).trans
    (updateStatus _ _ (evaluateRules_suggestedStatus_ne_recovered ks opp sc d))

end RowWrites

/-- What a step does to the opportunities that commits no reconciliation and ingests nothing. -/
theorem systemStep_rowWrites {platform : Platform} {s t : EngineState} {a : SystemAction}
    (h : systemStep platform s a = some t) (hcommit : committingPlan s a = none)
    (hingest : ∀ ingestion, a ≠ .ingest ingestion) : RowWrites s.db t.db := by
  cases a with
  | engine action =>
    obtain ⟨ws, hrows, hws, -⟩ := engineStep_rewrites h hcommit
    exact (RowWrites.writeStatuses s.db hws).trans (.single (.attempts hrows))
  | ingest ingestion => exact absurd rfl (hingest ingestion)
  | allocateOn est options opportunities =>
    rw [systemStep_allocateOn h]
    exact .allocateAmong est _ _ s.db
  | evaluate est now opp decision score =>
    rw [(systemStep_evaluate h).1]
    exact .evaluateOpportunity _ _ _ _ _ _ _
  | decline id verdict =>
    cases h
    apply RowWrites.updateStatus
    rw [declinedStatus]
    split_ifs <;> simp
  | upsertScore score =>
    rw [systemStep_upsertScore h]
    exact .of_sameRows ⟨rfl, rfl, rfl, rfl⟩
  | upsertAllocationDecision decision =>
    rw [systemStep_upsertAllocationDecision h]
    exact .of_sameRows ⟨rfl, rfl, rfl, rfl⟩

/-! ### Recoveries -/

/-- The amount of a recovered opportunity. -/
def recoveredAmount (db : Db) (id : String) : Option ℚ :=
  (db.getOpportunityById id).bind fun o => if o.status = recovered then some o.amountPaise else none

lemma isSome_recoveredAmount {db : Db} {id : String} :
    (recoveredAmount db id).isSome ↔ db.statusOf id = some recovered := by
  rw [recoveredAmount, Db.statusOf]
  cases db.getOpportunityById id with
  | none => simp
  | some o => by_cases h : o.status = recovered <;> simp [h]

/-- The same opportunities are recovered, with the same amounts, and the ledger is the same. -/
structure KeepsRecoveries (db db' : Db) : Prop where
  ledger : db'.doubleEntryLedger = db.doubleEntryLedger
  amounts : ∀ id, recoveredAmount db' id = recoveredAmount db id

namespace KeepsRecoveries

variable {db db' db'' : Db}

lemma refl (db : Db) : KeepsRecoveries db db := ⟨rfl, fun _ => rfl⟩

lemma trans (h : KeepsRecoveries db db') (h' : KeepsRecoveries db' db'') : KeepsRecoveries db db'' :=
  ⟨h'.ledger.trans h.ledger, fun id => (h'.amounts id).trans (h.amounts id)⟩

lemma of_sameButAttempts (h : SameButAttempts db db') : KeepsRecoveries db db' where
  ledger := h.ledger
  amounts id := by
    obtain ⟨n, hn⟩ := h.getOpportunityById
    rw [recoveredAmount, recoveredAmount, hn]
    cases db.getOpportunityById id <;> rfl

/-- A guarded write of another status than `recovered`. -/
lemma updateStatus (db : Db) (id : String) {status : OpportunityStatus} (h : status ≠ recovered) :
    KeepsRecoveries db (db.updateStatus id status) where
  ledger := Db.updateStatus_doubleEntryLedger
  amounts j := by
    rw [recoveredAmount, Db.getOpportunityById_updateStatus, recoveredAmount]
    by_cases hj : j = id
    · rw [if_pos hj]
      cases db.getOpportunityById j with
      | none => rfl
      | some o => simp [nextStatus_eq_recovered_iff h]
    · rw [if_neg hj]

/-- An upsert of an opportunity that is not recovered, over a row that is not. -/
lemma insertOpportunity {opp : RecoveryOpportunity} (h : db.insertOpportunity opp = some db')
    (hnew : opp.status ≠ recovered) (hold : db.statusOf opp.id ≠ some recovered) :
    KeepsRecoveries db db' where
  ledger := by
    simp only [Db.insertOpportunity] at h
    split_ifs at h
    cases h
    rfl
  amounts j := by
    rw [recoveredAmount, Db.getOpportunityById_insertOpportunity h]
    by_cases hj : j = opp.id
    · subst hj
      have hnone : recoveredAmount db opp.id = none := by
        rw [← Option.not_isSome_iff_eq_none, isSome_recoveredAmount]
        exact hold
      rw [if_pos rfl, hnone]
      cases db.getOpportunityById opp.id <;> simp [Db.insertedRow, hnew]
    · rw [if_neg hj, recoveredAmount]

lemma of_rowWrite (h : RowWrite db db') : KeepsRecoveries db db' := by
  cases h with
  | status id h => exact updateStatus db id h
  | attempts h => exact of_sameButAttempts h
  | placeholder hnone h =>
    apply insertOpportunity h
    · simp [Db.placeholder]
    · simp [Db.statusOf, hnone]

lemma of_rowWrites (h : RowWrites db db') : KeepsRecoveries db db' := by
  induction h with
  | refl => exact refl db
  | tail _ hwrite ih => exact ih.trans (of_rowWrite hwrite)

lemma ingest {ingestion : Ingestion}
    (h : ∀ opp ∈ ingested db ingestion, db.statusOf opp.id ≠ some recovered) :
    KeepsRecoveries db (CtrlRecovery.ingest db ingestion) := by
  rcases ingest_spec db ingestion with hsame | ⟨opp, db', hopp, hins, hrows⟩
  · rw [hsame]
    exact refl db
  · have hpending : opp.status ≠ recovered := by simp [status_of_ingested hopp]
    exact (insertOpportunity hins hpending (h opp hopp)).trans (of_rowWrites (.of_sameRows hrows))

end KeepsRecoveries

/-! ### One step -/

/-- The action ingests no opportunity over a recovered row. -/
def IngestsOverNoRecovery (s : EngineState) : SystemAction → Prop
  | .ingest ingestion => ∀ opp ∈ ingested s.db ingestion, s.db.statusOf opp.id ≠ some recovered
  | _                 => True

instance (s : EngineState) (a : SystemAction) : Decidable (IngestsOverNoRecovery s a) :=
  match a with
  | .ingest ingestion           =>
    inferInstanceAs (Decidable (∀ opp ∈ ingested s.db ingestion, _ ≠ _))
  | .engine _                   => isTrue trivial
  | .allocateOn _ _ _           => isTrue trivial
  | .evaluate _ _ _ _ _         => isTrue trivial
  | .decline _ _                => isTrue trivial
  | .upsertScore _              => isTrue trivial
  | .upsertAllocationDecision _ => isTrue trivial

/-- Only the reconciler's transactions make a recovery, and only they and an ingestion over a
recovered row take one back. -/
theorem systemStep_keepsRecoveries {platform : Platform} {s t : EngineState} {a : SystemAction}
    (h : systemStep platform s a = some t) (hcommit : committingPlan s a = none)
    (hingest : IngestsOverNoRecovery s a) : KeepsRecoveries s.db t.db := by
  by_cases hing : ∃ ingestion, a = .ingest ingestion
  · obtain ⟨ingestion, rfl⟩ := hing
    cases h
    exact .ingest hingest
  · exact .of_rowWrites (systemStep_rowWrites h hcommit fun ingestion heq => hing ⟨ingestion, heq⟩)

end CtrlRecovery
