import CtrlRecovery.Core.Ranking
import CtrlRecovery.Js
import CtrlRecovery.Db.Database
import CtrlRecovery.Domain.StateMachine

/-!
# Opportunity persistence

Two statements write the status of a row: the guarded `updateStatus`, and the upsert of
`insertOpportunity`, whose conflict clause replaces every column but `created_at`. The reconciler
has a third of its own (`setStatus`).

The guard of `updateStatus` is a denylist, kept apart from the declared graph. What it accepts is
described by `nextStatus`, the status that a row has after the call.
-/

namespace CtrlRecovery

open Core OpportunityStatus

namespace OpportunityRepository

/-- The transitions that `updateStatus` rejects. -/
def invalidTransitions : OpportunityStatus → List OpportunityStatus
  | pending      => [executing, recovered, notRecovered]
  | scored       => [executing, pending, recovered, notRecovered]
  | allocated    => [pending, scored, recovered]
  | authorized   => [pending, scored, allocated]
  | deferred     => [executing, recovered]
  | blocked      => [pending, scored, allocated, authorized, executing, recovered]
  | abstained    => [pending, allocated, authorized, executing, recovered]
  | executing    => [pending, scored, allocated, authorized]
  | recovered    => [pending, scored, allocated, authorized, deferred, blocked, abstained,
                      executing, notRecovered]
  | notRecovered => [pending, scored, allocated, authorized, executing]

/-- Whether `updateStatus` writes `status` over `current`: a recovered row is left alone, an equal
status is not written, and the denylist is respected. -/
def guardAccepts (current status : OpportunityStatus) : Bool :=
  !(current == recovered && status != recovered) && current != status &&
    !(invalidTransitions current).contains status

/-- The status of a row after `updateStatus`. -/
def nextStatus (current status : OpportunityStatus) : OpportunityStatus :=
  if guardAccepts current status then status else current

@[simp] lemma nextStatus_recovered (status : OpportunityStatus) :
    nextStatus recovered status = recovered := by
  cases status <;> rfl

lemma nextStatus_eq_recovered_iff {current status : OpportunityStatus}
    (h : status ≠ recovered) : nextStatus current status = recovered ↔ current = recovered := by
  cases current <;> cases status <;> simp_all [nextStatus, guardAccepts, invalidTransitions]

lemma nextStatus_recovered_iff (current : OpportunityStatus) :
    nextStatus current recovered = recovered ↔
      current ∈ [recovered, authorized, executing, notRecovered] := by
  cases current <;> simp [nextStatus, guardAccepts, invalidTransitions]

/-- The transitions that the guard accepts although the declared graph has no such edge. -/
def guardGaps : List (OpportunityStatus × OpportunityStatus) :=
  [(pending, authorized), (pending, deferred), (scored, authorized), (allocated, notRecovered),
    (authorized, deferred), (authorized, recovered), (authorized, notRecovered),
    (deferred, pending), (deferred, notRecovered), (blocked, deferred), (blocked, abstained),
    (blocked, notRecovered), (abstained, deferred), (abstained, blocked),
    (abstained, notRecovered), (executing, deferred), (executing, blocked),
    (executing, abstained), (notRecovered, deferred), (notRecovered, blocked),
    (notRecovered, abstained), (notRecovered, recovered)]

/-- The denylist and the declared graph differ on accepted transitions exactly at `guardGaps`. -/
theorem mem_guardGaps_iff (current status : OpportunityStatus) :
    (current, status) ∈ guardGaps ↔
      guardAccepts current status ∧ ¬ OpportunityStateMachine.IsEdge current status := by
  cases current <;> cases status <;> decide

end OpportunityRepository

open OpportunityRepository

namespace Db

variable (db : Db) (id : String) (status : OpportunityStatus)

/-! ### Reads -/

/-- Whether a row is in the scope of a query; an empty or absent tenant selects all of them. -/
def inScope (tenantId : Option String) (environment : Option Environment)
    (o : RecoveryOpportunity) : Bool :=
  (match tenantId with
    | some t => t == "" || o.tenantId == t || o.merchantId == t
    | none   => true) &&
  (match environment with
    | some env => o.environment == env
    | none     => true)

/-- The rows in scope, newest first; rows of one instant stay in insertion order. -/
def getAllOpportunities (tenantId : Option String) (environment : Option Environment) :
    List RecoveryOpportunity :=
  rank RecoveryOpportunity.createdAt (db.opportunities.rows.filter (inScope tenantId environment))

lemma mem_getAllOpportunities {tenantId : Option String} {environment : Option Environment}
    {o : RecoveryOpportunity} :
    o ∈ db.getAllOpportunities tenantId environment ↔
      o ∈ db.opportunities.rows ∧ inScope tenantId environment o := by
  rw [getAllOpportunities, mem_rank, List.mem_filter]

lemma nodup_getAllOpportunities (tenantId : Option String) (environment : Option Environment) :
    ((db.getAllOpportunities tenantId environment).map (·.id)).Nodup := by
  have hperm := (rank_perm RecoveryOpportunity.createdAt
    (db.opportunities.rows.filter (inScope tenantId environment))).map (·.id)
  rw [getAllOpportunities, hperm.nodup_iff]
  exact db.opportunities.nodup.sublist (List.filter_sublist.map _)

lemma getAllOpportunities_of_rows {db db' : Db} {f : RecoveryOpportunity → OpportunityStatus}
    (h : db'.opportunities.rows = db.opportunities.rows.map fun o => o.withStatus (f o))
    (tenantId : Option String) (environment : Option Environment) :
    db'.getAllOpportunities tenantId environment =
      (db.getAllOpportunities tenantId environment).map fun o => o.withStatus (f o) := by
  rw [getAllOpportunities, getAllOpportunities, h, List.filter_map, rank_map]
  rfl

def getOpportunityByRazorpayEventId (eventId : String) : Option RecoveryOpportunity :=
  db.opportunities.rows.find? fun o => o.razorpayEventId == some eventId

/-- The execution records, newest first; of one tenant when a tenant is given. -/
def getAllExecutionRecords (tenantId : Option String) : List ExecutionRecord :=
  rank ExecutionRecord.createdAt <| db.executionRecords.rows.filter fun r =>
    match tenantId with
    | some t => t == "" || (db.getOpportunityById r.opportunityId).any (inScope (some t) none)
    | none   => true

/-! ### Writing the status -/

/-- The history entry of writing `status` over the row of `id`: none when nothing changes. -/
def changeTo : List StatusChange :=
  match db.getOpportunityById id with
  | none   => []
  | some o => if o.status = status then [] else [⟨id, o.status, status⟩]

/-- `UPDATE recovery_opportunities SET status = ? WHERE id = ?`. -/
def setStatus : Db :=
  { db with
    opportunities := db.opportunities.update id (·.withStatus status) fun o => o.withStatus_id status
    statusChanges := db.statusChanges ++ db.changeTo id status }

def updateStatus : Db :=
  match db.getOpportunityById id with
  | none         => db
  | some current => if guardAccepts current.status status then db.setStatus id status else db

/-- `UPDATE recovery_opportunities SET attempt_count = ? WHERE id = ?`. -/
def setAttemptCount (attemptCount : ℚ) : Db :=
  { db with
    opportunities := db.opportunities.update id (fun o => { o with attemptCount := attemptCount })
      fun _ => rfl }

/-! ### Inserting -/

/-- The row that the upsert stores: empty texts fall back to their defaults, and the tenant is
written to both of its columns. -/
def insertedRow (opp : RecoveryOpportunity) : RecoveryOpportunity :=
  let tenantId := Js.orElse opp.tenantId "tenant_system_default"
  { opp with
    currency := Js.orElse opp.currency "INR"
    tenantId := tenantId
    merchantId := tenantId
    razorpayEventId := opp.razorpayEventId.filter (· ≠ "") }

/-- Whether another row holds the unique event id of `row`. -/
def eventIdTaken (row : RecoveryOpportunity) : Bool :=
  row.razorpayEventId.isSome &&
    db.opportunities.rows.any fun o => o.id != row.id && o.razorpayEventId == row.razorpayEventId

/-- `INSERT … ON CONFLICT(id) DO UPDATE`: every column but `created_at` is replaced. It throws when
another row holds the event id. -/
def insertOpportunity (opp : RecoveryOpportunity) : Option Db :=
  let row := insertedRow opp
  if db.eventIdTaken row then none
  else some
    { db with
      opportunities := db.opportunities.put
        (match db.getOpportunityById opp.id with
          | some old => { row with createdAt := old.createdAt }
          | none     => row)
      statusChanges := db.statusChanges ++ db.changeTo opp.id opp.status }

/-- The row that is made up for a check of an unknown opportunity. -/
def placeholder (now : Timestamp) : RecoveryOpportunity where
  id := id
  source := .synthetic
  amountPaise := 100000
  currency := "INR"
  reasonCode := "generic_decline"
  declineType := .soft
  attemptCount := 1
  customerId := "cust_" ++ id
  createdAt := now
  status := .pending
  tenantId := "tenant_system_default"
  merchantId := "tenant_system_default"
  environment := .test
  razorpayEventId := none

@[simp] lemma placeholder_id (id : String) (now : Timestamp) : (placeholder id now).id = id := rfl

def ensureOpportunity (now : Timestamp) : Db :=
  if id = "" then db
  else match db.getOpportunityById id with
    | some _ => db
    | none   => (db.insertOpportunity (placeholder id now)).getD db

def insertAuthorityCheck (check : AuthorityCheck) (now : Timestamp) : Db :=
  let db := db.ensureOpportunity check.opportunityId now
  { db with authorityChecks := db.authorityChecks ++ [check] }

/-! ### What the writes do to the rows -/

variable {db id status}

lemma id_of_getOpportunityById {o : RecoveryOpportunity} (h : db.getOpportunityById id = some o) :
    o.id = id :=
  Table.key_of_find? h

@[simp] lemma setStatus_opportunities :
    (db.setStatus id status).opportunities =
      db.opportunities.update id (·.withStatus status) fun o => o.withStatus_id status := rfl

lemma getOpportunityById_setStatus (j : String) :
    (db.setStatus id status).getOpportunityById j =
      if j = id then (db.getOpportunityById j).map (·.withStatus status)
      else db.getOpportunityById j := by
  rw [getOpportunityById, setStatus_opportunities, Table.find?_update]
  rfl

lemma updateStatus_of_none (h : db.getOpportunityById id = none) :
    db.updateStatus id status = db := by
  simp [updateStatus, h]

lemma updateStatus_of_accepts {o : RecoveryOpportunity} (h : db.getOpportunityById id = some o)
    (hg : guardAccepts o.status status) : db.updateStatus id status = db.setStatus id status := by
  simp [updateStatus, h, hg]

lemma updateStatus_of_rejects {o : RecoveryOpportunity} (h : db.getOpportunityById id = some o)
    (hg : ¬ guardAccepts o.status status) : db.updateStatus id status = db := by
  simp [updateStatus, h, hg]

lemma updateStatus_eq_or (db : Db) (id : String) (status : OpportunityStatus) :
    db.updateStatus id status = db ∨ db.updateStatus id status = db.setStatus id status := by
  cases h : db.getOpportunityById id with
  | none => exact .inl (updateStatus_of_none h)
  | some o =>
    by_cases hg : guardAccepts o.status status
    · exact .inr (updateStatus_of_accepts h hg)
    · exact .inl (updateStatus_of_rejects h hg)

lemma getOpportunityById_updateStatus (j : String) :
    (db.updateStatus id status).getOpportunityById j =
      if j = id then
        (db.getOpportunityById j).map fun o => o.withStatus (nextStatus o.status status)
      else db.getOpportunityById j := by
  cases h : db.getOpportunityById id with
  | none =>
    rw [updateStatus_of_none h]
    split_ifs with hj
    · simp [hj, h]
    · rfl
  | some o =>
    by_cases hg : guardAccepts o.status status
    · rw [updateStatus_of_accepts h hg, getOpportunityById_setStatus]
      split_ifs with hj
      · simp [hj, h, nextStatus, hg]
      · rfl
    · rw [updateStatus_of_rejects h hg]
      split_ifs with hj
      · simp [hj, h, nextStatus, hg]
      · rfl

lemma statusOf_updateStatus (j : String) :
    (db.updateStatus id status).statusOf j =
      if j = id then (db.statusOf j).map fun s => nextStatus s status else db.statusOf j := by
  rw [statusOf, getOpportunityById_updateStatus]
  split_ifs
  · simp [statusOf, Function.comp_def]
  · rfl

/-- The rows after a status update, in place. -/
lemma rows_updateStatus :
    (db.updateStatus id status).opportunities.rows = db.opportunities.rows.map fun o =>
      if o.id = id then o.withStatus (nextStatus o.status status) else o := by
  cases h : db.getOpportunityById id with
  | none =>
    rw [updateStatus_of_none h]
    conv_lhs => rw [← List.map_id db.opportunities.rows]
    refine List.map_congr_left fun o ho => ?_
    rw [if_neg (Table.find?_eq_none_iff.mp h o ho), id_eq]
  | some current =>
    have hrow : ∀ o ∈ db.opportunities.rows, o.id = id → o = current := fun o ho hid =>
      db.opportunities.eq_of_key_eq ho (Table.mem_of_find? h)
        (hid.trans (Table.key_of_find? h).symm)
    by_cases hg : guardAccepts current.status status
    · rw [updateStatus_of_accepts h hg, setStatus_opportunities, Table.rows_update]
      refine List.map_congr_left fun o ho => ?_
      split_ifs with hid
      · simp [hrow o ho hid, nextStatus, hg]
      · rfl
    · rw [updateStatus_of_rejects h hg]
      conv_lhs => rw [← List.map_id db.opportunities.rows]
      refine List.map_congr_left fun o ho => ?_
      split_ifs with hid
      · simp [hrow o ho hid, nextStatus, hg]
      · rfl

lemma statusChanges_updateStatus {o : RecoveryOpportunity} (h : db.getOpportunityById id = some o) :
    (db.updateStatus id status).statusChanges =
      db.statusChanges ++ if guardAccepts o.status status then [⟨id, o.status, status⟩] else [] := by
  by_cases hg : guardAccepts o.status status
  · have hne : o.status ≠ status := by
      intro heq
      simp [guardAccepts, heq] at hg
    simp [updateStatus_of_accepts h hg, hg, setStatus, changeTo, h, hne]
  · simp [updateStatus_of_rejects h hg, hg]

lemma getOpportunityById_insertOpportunity {opp : RecoveryOpportunity} {db' : Db}
    (h : db.insertOpportunity opp = some db') (j : String) :
    db'.getOpportunityById j =
      if j = opp.id then
        some (match db.getOpportunityById opp.id with
          | some old => { insertedRow opp with createdAt := old.createdAt }
          | none     => insertedRow opp)
      else db.getOpportunityById j := by
  simp only [insertOpportunity] at h
  split_ifs at h
  cases h
  cases hold : db.getOpportunityById opp.id <;> exact Table.find?_put

/-- An upsert with an event id that no row holds does not throw. -/
lemma exists_insertOpportunity (opp : RecoveryOpportunity) {eventId : String}
    (hid : opp.razorpayEventId = some eventId)
    (h : db.getOpportunityByRazorpayEventId eventId = none) :
    ∃ db', db.insertOpportunity opp = some db' := by
  have hfree : db.eventIdTaken (insertedRow opp) = false := by
    rw [getOpportunityByRazorpayEventId, List.find?_eq_none] at h
    rw [eventIdTaken, Bool.and_eq_false_iff, List.any_eq_false]
    by_cases hempty : eventId = ""
    · left
      simp [insertedRow, hid, hempty]
    · right
      have hrow : (insertedRow opp).razorpayEventId = some eventId := by
        simp [insertedRow, hid, Option.filter, hempty]
      intro o ho
      have hne : o.razorpayEventId ≠ some eventId := by simpa using h o ho
      simp [hrow, hne]
  exact ⟨_, by rw [insertOpportunity, if_neg (by simp [hfree])]⟩

lemma exists_insertOpportunity_of_free (opp : RecoveryOpportunity)
    (h : ∀ eventId ∈ opp.razorpayEventId, db.getOpportunityByRazorpayEventId eventId = none) :
    ∃ db', db.insertOpportunity opp = some db' := by
  cases hid : opp.razorpayEventId with
  | some eventId => exact exists_insertOpportunity opp hid (h eventId hid)
  | none =>
    have hfree : db.eventIdTaken (insertedRow opp) = false := by
      simp [eventIdTaken, insertedRow, hid]
    exact ⟨_, by rw [insertOpportunity, if_neg (by simp [hfree])]⟩

lemma ensureOpportunity_cases (db : Db) (id : String) (now : Timestamp) :
    db.ensureOpportunity id now = db ∨ (db.getOpportunityById id = none ∧
      db.insertOpportunity (placeholder id now) = some (db.ensureOpportunity id now)) := by
  rw [ensureOpportunity]
  split_ifs
  · exact .inl rfl
  · cases db.getOpportunityById id with
    | some o => exact .inl rfl
    | none =>
      cases hins : db.insertOpportunity (placeholder id now) with
      | none => exact .inl rfl
      | some db' => exact .inr ⟨rfl, rfl⟩

lemma getOpportunityById_ensureOpportunity {now : Timestamp} (j : String) :
    (db.ensureOpportunity id now).getOpportunityById j =
      if j = id ∧ id ≠ "" ∧ db.getOpportunityById id = none then
        some (insertedRow (placeholder id now))
      else db.getOpportunityById j := by
  rw [ensureOpportunity]
  by_cases hid : id = ""
  · simp [hid]
  · cases h : db.getOpportunityById id with
    | some o => simp [hid]
    | none =>
      obtain ⟨db', hins⟩ : ∃ db', db.insertOpportunity (placeholder id now) = some db' := ⟨_, rfl⟩
      simp [hid, hins, getOpportunityById_insertOpportunity hins, h]

/-! ### What the writes leave alone -/

@[simp] lemma updateStatus_scores : (db.updateStatus id status).scores = db.scores := by
  rcases updateStatus_eq_or db id status with h | h <;> rw [h]
  rfl

@[simp] lemma updateStatus_allocationDecisions :
    (db.updateStatus id status).allocationDecisions = db.allocationDecisions := by
  rcases updateStatus_eq_or db id status with h | h <;> rw [h]
  rfl

@[simp] lemma updateStatus_authorityChecks :
    (db.updateStatus id status).authorityChecks = db.authorityChecks := by
  rcases updateStatus_eq_or db id status with h | h <;> rw [h]
  rfl

@[simp] lemma ensureOpportunity_authorityChecks (db : Db) (id : String) (now : Timestamp) :
    (db.ensureOpportunity id now).authorityChecks = db.authorityChecks := by
  obtain heq | ⟨-, hins⟩ := ensureOpportunity_cases db id now
  · rw [heq]
  · simp only [insertOpportunity] at hins
    split_ifs at hins
    rw [← Option.some.inj hins]

@[simp] lemma insertAuthorityCheck_authorityChecks (db : Db) (check : AuthorityCheck)
    (now : Timestamp) : (db.insertAuthorityCheck check now).authorityChecks =
      db.authorityChecks ++ [check] := by
  rw [insertAuthorityCheck]
  simp

@[simp] lemma updateStatus_executionRecords :
    (db.updateStatus id status).executionRecords = db.executionRecords := by
  rcases updateStatus_eq_or db id status with h | h <;> rw [h]
  rfl

@[simp] lemma updateStatus_doubleEntryLedger :
    (db.updateStatus id status).doubleEntryLedger = db.doubleEntryLedger := by
  rcases updateStatus_eq_or db id status with h | h <;> rw [h]
  rfl

@[simp] lemma updateStatus_tenants : (db.updateStatus id status).tenants = db.tenants := by
  rcases updateStatus_eq_or db id status with h | h <;> rw [h]
  rfl

@[simp] lemma updateStatus_dlqJobs : (db.updateStatus id status).dlqJobs = db.dlqJobs := by
  rcases updateStatus_eq_or db id status with h | h <;> rw [h]
  rfl

@[simp] lemma updateStatus_ledgerEntries :
    (db.updateStatus id status).ledgerEntries = db.ledgerEntries := by
  rcases updateStatus_eq_or db id status with h | h <;> rw [h]
  rfl

end Db

end CtrlRecovery
