import CtrlRecovery.Db.OpportunityRepository

/-!
# Sequences of status writes

Apart from ingestion and reconciliation, an operation changes the opportunity table only through
`updateStatus`. What such an operation does to the opportunities is therefore said by the list of
its status writes: it leaves the same rows as `writeStatuses` of that list (`SameRows`).
-/

namespace CtrlRecovery

open Core OpportunityStatus OpportunityRepository

/-! ### Databases with the same rows -/

/-- The two databases agree on the opportunities, the history of their statuses, the tenants and
the settlement ledger. -/
structure SameRows (db db' : Db) : Prop where
  opportunities : db'.opportunities = db.opportunities
  statusChanges : db'.statusChanges = db.statusChanges
  tenants : db'.tenants = db.tenants
  ledger : db'.doubleEntryLedger = db.doubleEntryLedger

namespace SameRows

variable {db db' db'' : Db}

@[simp] lemma refl (db : Db) : SameRows db db := ⟨rfl, rfl, rfl, rfl⟩

lemma trans (h : SameRows db db') (h' : SameRows db' db'') : SameRows db db'' :=
  ⟨h'.opportunities.trans h.opportunities, h'.statusChanges.trans h.statusChanges,
    h'.tenants.trans h.tenants, h'.ledger.trans h.ledger⟩

lemma getOpportunityById (h : SameRows db db') (id : String) :
    db'.getOpportunityById id = db.getOpportunityById id := by
  rw [Db.getOpportunityById, Db.getOpportunityById, h.opportunities]

lemma statusOf (h : SameRows db db') (id : String) : db'.statusOf id = db.statusOf id := by
  rw [Db.statusOf, Db.statusOf, h.getOpportunityById]

lemma updateStatus (h : SameRows db db') (id : String) (status : OpportunityStatus) :
    SameRows (db.updateStatus id status) (db'.updateStatus id status) := by
  have hrow := h.getOpportunityById id
  cases hget : db.getOpportunityById id with
  | none =>
    rw [hget] at hrow
    rwa [Db.updateStatus_of_none hget, Db.updateStatus_of_none hrow]
  | some o =>
    rw [hget] at hrow
    by_cases hg : guardAccepts o.status status
    · rw [Db.updateStatus_of_accepts hget hg, Db.updateStatus_of_accepts hrow hg]
      exact ⟨by rw [Db.setStatus_opportunities, Db.setStatus_opportunities, h.opportunities],
        by simp [Db.setStatus, Db.changeTo, hget, hrow, h.statusChanges], h.tenants, h.ledger⟩
    · rwa [Db.updateStatus_of_rejects hget hg, Db.updateStatus_of_rejects hrow hg]

lemma insertAuthorityCheck {check : AuthorityCheck} {now : Timestamp}
    (h : (db.getOpportunityById check.opportunityId).isSome) :
    SameRows db (db.insertAuthorityCheck check now) := by
  obtain ⟨o, ho⟩ := Option.isSome_iff_exists.mp h
  have hensure : db.ensureOpportunity check.opportunityId now = db := by
    simp [Db.ensureOpportunity, ho]
  rw [Db.insertAuthorityCheck, hensure]
  exact ⟨rfl, rfl, rfl, rfl⟩

end SameRows

/-- The two databases agree on all that `SameRows` names but the attempt counts. -/
structure SameButAttempts (db db' : Db) : Prop where
  rows : ∃ n : RecoveryOpportunity → ℚ,
    db'.opportunities.rows = db.opportunities.rows.map fun o => { o with attemptCount := n o }
  statusChanges : db'.statusChanges = db.statusChanges
  tenants : db'.tenants = db.tenants
  ledger : db'.doubleEntryLedger = db.doubleEntryLedger

lemma SameRows.sameButAttempts {db db' : Db} (h : SameRows db db') : SameButAttempts db db' where
  rows := ⟨RecoveryOpportunity.attemptCount, by simp [h.opportunities]⟩
  statusChanges := h.statusChanges
  tenants := h.tenants
  ledger := h.ledger

lemma sameButAttempts_setAttemptCount (db : Db) (id : String) (n : ℚ) :
    SameButAttempts db (db.setAttemptCount id n) where
  rows := by
    refine ⟨fun o => if o.id = id then n else o.attemptCount, ?_⟩
    rw [Db.setAttemptCount, Table.rows_update]
    refine List.map_congr_left fun o _ => ?_
    by_cases h : o.id = id <;> simp [h]
  statusChanges := rfl
  tenants := rfl
  ledger := rfl

lemma SameButAttempts.getOpportunityById {db db' : Db} (h : SameButAttempts db db') :
    ∃ n : RecoveryOpportunity → ℚ, ∀ id, db'.getOpportunityById id =
      (db.getOpportunityById id).map fun o => { o with attemptCount := n o } := by
  obtain ⟨n, hn⟩ := h.rows
  refine ⟨n, fun id => ?_⟩
  rw [Db.getOpportunityById, Table.find?, hn, List.find?_map]
  rfl

lemma SameButAttempts.statusOf {db db' : Db} (h : SameButAttempts db db') (id : String) :
    db'.statusOf id = db.statusOf id := by
  obtain ⟨n, hn⟩ := h.getOpportunityById
  rw [Db.statusOf, Db.statusOf, hn, Option.map_map]
  rfl

/-- The two databases agree on what is stored about executions: their records, the audit entries and
the dead-letter jobs. -/
structure SameBooks (db db' : Db) : Prop where
  executionRecords : db'.executionRecords = db.executionRecords
  ledgerEntries : db'.ledgerEntries = db.ledgerEntries
  dlqJobs : db'.dlqJobs = db.dlqJobs

namespace SameBooks

variable {db db' db'' : Db}

@[simp] lemma refl (db : Db) : SameBooks db db := ⟨rfl, rfl, rfl⟩

lemma trans (h : SameBooks db db') (h' : SameBooks db' db'') : SameBooks db db'' :=
  ⟨h'.executionRecords.trans h.executionRecords, h'.ledgerEntries.trans h.ledgerEntries,
    h'.dlqJobs.trans h.dlqJobs⟩

lemma updateStatus (db : Db) (id : String) (status : OpportunityStatus) :
    SameBooks db (db.updateStatus id status) :=
  ⟨Db.updateStatus_executionRecords, Db.updateStatus_ledgerEntries, Db.updateStatus_dlqJobs⟩

lemma insertOpportunity {opp : RecoveryOpportunity} (h : db.insertOpportunity opp = some db') :
    SameBooks db db' := by
  simp only [Db.insertOpportunity] at h
  split_ifs at h
  cases h
  exact ⟨rfl, rfl, rfl⟩

lemma ensureOpportunity (db : Db) (id : String) (now : Timestamp) :
    SameBooks db (db.ensureOpportunity id now) := by
  obtain heq | ⟨-, hins⟩ := Db.ensureOpportunity_cases db id now
  · rw [heq]
    exact refl db
  · exact insertOpportunity hins

lemma insertAuthorityCheck (db : Db) (check : AuthorityCheck) (now : Timestamp) :
    SameBooks db (db.insertAuthorityCheck check now) :=
  (ensureOpportunity db check.opportunityId now).trans ⟨rfl, rfl, rfl⟩

end SameBooks

/-- The two databases agree on what is stored about opportunities besides their rows. -/
structure SameRecords (db db' : Db) : Prop where
  scores : db'.scores = db.scores
  allocationDecisions : db'.allocationDecisions = db.allocationDecisions
  executionRecords : db'.executionRecords = db.executionRecords

namespace SameRecords

variable {db db' db'' : Db}

@[simp] lemma refl (db : Db) : SameRecords db db := ⟨rfl, rfl, rfl⟩

lemma trans (h : SameRecords db db') (h' : SameRecords db' db'') : SameRecords db db'' :=
  ⟨h'.scores.trans h.scores, h'.allocationDecisions.trans h.allocationDecisions,
    h'.executionRecords.trans h.executionRecords⟩

lemma getScoreByOpportunityId (h : SameRecords db db') (id : String) :
    db'.getScoreByOpportunityId id = db.getScoreByOpportunityId id := by
  rw [Db.getScoreByOpportunityId, Db.getScoreByOpportunityId, h.scores]

lemma updateStatus (db : Db) (id : String) (status : OpportunityStatus) :
    SameRecords db (db.updateStatus id status) :=
  ⟨Db.updateStatus_scores, Db.updateStatus_allocationDecisions, Db.updateStatus_executionRecords⟩

lemma insertOpportunity {opp : RecoveryOpportunity} (h : db.insertOpportunity opp = some db') :
    SameRecords db db' := by
  simp only [Db.insertOpportunity] at h
  split_ifs at h
  cases h
  exact ⟨rfl, rfl, rfl⟩

lemma ensureOpportunity (db : Db) (id : String) (now : Timestamp) :
    SameRecords db (db.ensureOpportunity id now) := by
  obtain heq | ⟨-, hins⟩ := Db.ensureOpportunity_cases db id now
  · rw [heq]
    exact refl db
  · exact insertOpportunity hins

lemma insertAuthorityCheck (db : Db) (check : AuthorityCheck) (now : Timestamp) :
    SameRecords db (db.insertAuthorityCheck check now) :=
  (ensureOpportunity db check.opportunityId now).trans ⟨rfl, rfl, rfl⟩

end SameRecords

/-! ### Writing a list of statuses -/

def Db.writeStatuses (db : Db) (ws : List (String × OpportunityStatus)) : Db :=
  ws.foldl (fun db w => db.updateStatus w.1 w.2) db

def statusAfter (ws : List (String × OpportunityStatus)) (id : String)
    (status : OpportunityStatus) : OpportunityStatus :=
  ws.foldl (fun s w => if w.1 = id then nextStatus s w.2 else s) status

section StatusAfter

variable {ws ws' : List (String × OpportunityStatus)} {id : String} {s : OpportunityStatus}

@[simp] lemma statusAfter_nil : statusAfter [] id s = s := rfl

lemma statusAfter_cons (w : String × OpportunityStatus) :
    statusAfter (w :: ws) id s = statusAfter ws id (if w.1 = id then nextStatus s w.2 else s) := rfl

lemma statusAfter_append :
    statusAfter (ws ++ ws') id s = statusAfter ws' id (statusAfter ws id s) := by
  rw [statusAfter, statusAfter, statusAfter, List.foldl_append]

lemma statusAfter_of_notMem (h : id ∉ ws.map Prod.fst) : statusAfter ws id s = s := by
  induction ws with
  | nil => rfl
  | cons w ws ih =>
    simp only [List.map_cons, List.mem_cons, not_or] at h
    rw [statusAfter_cons, if_neg (Ne.symm h.1), ih h.2]

lemma statusAfter_eq_recovered_iff (h : ∀ w ∈ ws, w.2 ≠ recovered) :
    statusAfter ws id s = recovered ↔ s = recovered := by
  induction ws generalizing s with
  | nil => rfl
  | cons w ws ih =>
    obtain ⟨hw, hws⟩ := List.forall_mem_cons.mp h
    rw [statusAfter_cons, ih hws]
    split_ifs
    · exact nextStatus_eq_recovered_iff hw
    · rfl

lemma statusAfter_of_mem (hnodup : (ws.map Prod.fst).Nodup) {t : OpportunityStatus}
    (h : (id, t) ∈ ws) : statusAfter ws id s = nextStatus s t := by
  induction ws with
  | nil => cases h
  | cons w ws ih =>
    simp only [List.map_cons, List.nodup_cons] at hnodup
    rw [statusAfter_cons]
    rcases List.mem_cons.mp h with rfl | h
    · rw [if_pos rfl, statusAfter_of_notMem hnodup.1]
    · have hne : w.1 ≠ id := by
        rintro rfl
        exact hnodup.1 (List.mem_map.mpr ⟨_, h, rfl⟩)
      rw [if_neg hne, ih hnodup.2 h]

end StatusAfter

namespace Db

variable {db : Db} {ws ws' : List (String × OpportunityStatus)}

@[simp] lemma writeStatuses_nil : db.writeStatuses [] = db := rfl

@[simp] lemma writeStatuses_cons (w : String × OpportunityStatus) :
    db.writeStatuses (w :: ws) = (db.updateStatus w.1 w.2).writeStatuses ws := rfl

lemma writeStatuses_append :
    db.writeStatuses (ws ++ ws') = (db.writeStatuses ws).writeStatuses ws' := by
  rw [writeStatuses, writeStatuses, writeStatuses, List.foldl_append]

lemma rows_writeStatuses :
    (db.writeStatuses ws).opportunities.rows =
      db.opportunities.rows.map fun o => o.withStatus (statusAfter ws o.id o.status) := by
  induction ws generalizing db with
  | nil => simp
  | cons w ws ih =>
    rw [writeStatuses_cons, ih, rows_updateStatus, List.map_map]
    refine List.map_congr_left fun o _ => ?_
    simp only [Function.comp_apply, statusAfter_cons, eq_comm (a := w.1)]
    split_ifs with h <;> simp [h]

lemma getOpportunityById_writeStatuses (id : String) :
    (db.writeStatuses ws).getOpportunityById id =
      (db.getOpportunityById id).map fun o => o.withStatus (statusAfter ws id o.status) := by
  induction ws generalizing db with
  | nil => simp
  | cons w ws ih =>
    rw [writeStatuses_cons, ih, getOpportunityById_updateStatus]
    simp only [statusAfter_cons, eq_comm (a := w.1)]
    split_ifs with h <;> simp [Function.comp_def]

lemma statusOf_writeStatuses (id : String) :
    (db.writeStatuses ws).statusOf id = (db.statusOf id).map (statusAfter ws id) := by
  rw [statusOf, getOpportunityById_writeStatuses, statusOf, Option.map_map, Option.map_map]
  rfl

@[simp] lemma writeStatuses_tenants : (db.writeStatuses ws).tenants = db.tenants := by
  induction ws generalizing db with
  | nil => rfl
  | cons w ws ih => rw [writeStatuses_cons, ih, updateStatus_tenants]

end Db

lemma SameRows.writeStatuses {db db' : Db} (h : SameRows db db')
    (ws : List (String × OpportunityStatus)) :
    SameRows (db.writeStatuses ws) (db'.writeStatuses ws) := by
  induction ws generalizing db db' with
  | nil => exact h
  | cons w ws ih => exact ih (h.updateStatus w.1 w.2)

/-! ### Writes along the declared graph -/

/-- Every recorded change of a status is an edge of the declared graph. -/
def EdgesOnly (db : Db) : Prop :=
  ∀ change ∈ db.statusChanges, OpportunityStateMachine.IsEdge change.before change.after

/-- No write of the list is accepted by the guard without being an edge of the graph. -/
def GapFree : Db → List (String × OpportunityStatus) → Prop
  | _, []       => True
  | db, w :: ws => (∀ s ∈ db.statusOf w.1, (s, w.2) ∉ guardGaps) ∧
      GapFree (db.updateStatus w.1 w.2) ws

lemma edgesOnly_updateStatus_iff {db : Db} {id : String} {status : OpportunityStatus} :
    EdgesOnly (db.updateStatus id status) ↔
      EdgesOnly db ∧ ∀ s ∈ db.statusOf id, (s, status) ∉ guardGaps := by
  cases h : db.getOpportunityById id with
  | none => simp [Db.updateStatus_of_none h, Db.statusOf, h]
  | some o =>
    simp only [EdgesOnly, Db.statusChanges_updateStatus h, Db.statusOf, h, Option.map_some,
      Option.mem_some_iff, forall_eq', mem_guardGaps_iff, not_and, not_not]
    by_cases hg : guardAccepts o.status status
    · simp [hg, or_imp, forall_and]
    · simp [hg]

lemma edgesOnly_setStatus_iff {db : Db} {id : String} {status : OpportunityStatus} :
    EdgesOnly (db.setStatus id status) ↔
      EdgesOnly db ∧ ∀ s ∈ db.statusOf id, OpportunityStateMachine.canTransition s status := by
  cases h : db.getOpportunityById id with
  | none => simp [EdgesOnly, Db.setStatus, Db.changeTo, Db.statusOf, h]
  | some o =>
    simp only [EdgesOnly, Db.setStatus, Db.changeTo, Db.statusOf, h, Option.map_some,
      Option.mem_some_iff, forall_eq', OpportunityStateMachine.canTransition_iff]
    by_cases hs : o.status = status
    · simp [hs]
    · simp [hs, or_imp, forall_and]

/-- A list of writes stays on the graph exactly when none of them falls into a gap. -/
theorem edgesOnly_writeStatuses_iff {db : Db} {ws : List (String × OpportunityStatus)} :
    EdgesOnly (db.writeStatuses ws) ↔ EdgesOnly db ∧ GapFree db ws := by
  induction ws generalizing db with
  | nil => simp [GapFree]
  | cons w ws ih =>
    rw [Db.writeStatuses_cons, ih, edgesOnly_updateStatus_iff, GapFree, and_assoc]

lemma gapFree_append {db : Db} {ws ws' : List (String × OpportunityStatus)} :
    GapFree db (ws ++ ws') ↔ GapFree db ws ∧ GapFree (db.writeStatuses ws) ws' := by
  induction ws generalizing db with
  | nil => simp [GapFree]
  | cons w ws ih => rw [List.cons_append, GapFree, ih, GapFree, and_assoc, Db.writeStatuses_cons]

lemma SameRows.gapFree_iff {db db' : Db} (h : SameRows db db')
    {ws : List (String × OpportunityStatus)} : GapFree db' ws ↔ GapFree db ws := by
  induction ws generalizing db db' with
  | nil => rfl
  | cons w ws ih => rw [GapFree, GapFree, h.statusOf, ih (h.updateStatus w.1 w.2)]

/-- Where every opportunity is written once, each write can be judged on the first database. -/
lemma gapFree_iff_of_nodup {db : Db} {ws : List (String × OpportunityStatus)}
    (h : (ws.map Prod.fst).Nodup) :
    GapFree db ws ↔ ∀ w ∈ ws, ∀ s ∈ db.statusOf w.1, (s, w.2) ∉ guardGaps := by
  induction ws generalizing db with
  | nil => simp [GapFree]
  | cons w ws ih =>
    simp only [List.map_cons, List.nodup_cons] at h
    rw [GapFree, ih h.2, List.forall_mem_cons]
    refine and_congr_right fun _ => forall₂_congr fun v hv => ?_
    have hne : v.1 ≠ w.1 := fun heq => h.1 (heq ▸ List.mem_map_of_mem hv)
    rw [Db.statusOf_updateStatus, if_neg hne]

end CtrlRecovery
