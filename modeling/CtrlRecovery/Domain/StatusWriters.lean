import CtrlRecovery.Reconciliation.Interleaving
import CtrlRecovery.Webhooks.Queue

/-!
# The writers of the status column

Four operations write the status of an opportunity: the upsert of the repository, its guarded status
update, the transaction of the reconciler and the ingestion of a failed payment by the webhook
queue. This is the system of these operations alone, on any arguments and in any order, with the
reconciler's calls in their phases.

Only the guarded update looks at the status that it writes over. A recovered opportunity therefore
stays recovered exactly in the runs whose other writes leave it so, and that is decided step by
step (`staysRecovered_iff`).
-/

namespace CtrlRecovery

open Core OpportunityStatus AuthoritativeReconciler

inductive StatusWrite
  | insert (opp : RecoveryOpportunity)
  | updateStatus (id : String) (status : OpportunityStatus)
  | reconcile (a : ReconcileAction)
  | processFailed (tenantId : String) (event : CanonicalPaymentEvent) (priorCount : ℕ)
      (now : Timestamp) (entryId : String)

/-- One write. An upsert that throws changes nothing. -/
def statusWriteStep (platform : Platform) (s : ReconcilerState) :
    StatusWrite → Option ReconcilerState
  | .insert opp => some { s with db := (s.db.insertOpportunity opp).getD s.db }
  | .updateStatus id status => some { s with db := s.db.updateStatus id status }
  | .reconcile a => reconcileStep platform s a
  | .processFailed tenantId event priorCount now entryId =>
    some { s with db := WebhookQueueEngine.processFailed s.db tenantId event priorCount now entryId }

/-! ### What each write does to a recovered opportunity -/

/-- The opportunity has status `recovered`. -/
def IsRecovered (id : String) (s : ReconcilerState) : Prop := s.db.statusOf id = some recovered

lemma statusOf_updateStatus_recovered {db : Db} {id j : String} {status : OpportunityStatus}
    (h : db.statusOf j = some recovered) :
    (db.updateStatus id status).statusOf j = some recovered := by
  rw [Db.statusOf_updateStatus, h]
  split_ifs <;> simp

lemma statusOf_insertOpportunity {db db' : Db} {opp : RecoveryOpportunity}
    (h : db.insertOpportunity opp = some db') (j : String) :
    db'.statusOf j = if j = opp.id then some opp.status else db.statusOf j := by
  rw [Db.statusOf, Db.getOpportunityById_insertOpportunity h]
  split_ifs
  · cases db.getOpportunityById opp.id <;> rfl
  · rfl

/-- An upsert keeps every recovery exactly when it throws, or finds no recovery under its id, or
carries the status `recovered` itself. -/
lemma insert_keeps_iff (db : Db) (opp : RecoveryOpportunity) :
    (∀ id, db.statusOf id = some recovered →
        ((db.insertOpportunity opp).getD db).statusOf id = some recovered) ↔
      (db.insertOpportunity opp = none ∨ db.statusOf opp.id ≠ some recovered ∨
        opp.status = recovered) := by
  cases h : db.insertOpportunity opp with
  | none => simp
  | some db' =>
    simp only [Option.getD_some, statusOf_insertOpportunity h]
    constructor
    · intro hkeep
      have hid := hkeep opp.id
      rw [if_pos rfl, Option.some.injEq] at hid
      tauto
    · rintro (h | h | h) id hid
      · cases h
      · have hne : id ≠ opp.id := by
          rintro rfl
          exact h hid
        rwa [if_neg hne]
      · rw [h]
        split_ifs
        · rfl
        · exact hid

/-- A committed transaction stores the status that it planned. -/
lemma commit_keeps_iff {platform : Platform} {plan : SettlementPlan} {ids : TransactionIds}
    {db db' : Db} (h : Committed platform plan ids db db') :
    (∀ id, db.statusOf id = some recovered → db'.statusOf id = some recovered) ↔
      (db.statusOf plan.read.opp.id ≠ some recovered ∨ plan.targetOpportunityStatus = recovered) := by
  have hself : db.statusOf plan.read.opp.id = some recovered →
      db'.statusOf plan.read.opp.id = some plan.targetOpportunityStatus := by
    intro hrec
    obtain ⟨o, ho, _⟩ := Option.map_eq_some_iff.mp hrec
    simp [Db.statusOf, h.getOpportunityById, ho]
  constructor
  · intro hkeep
    by_cases hrec : db.statusOf plan.read.opp.id = some recovered
    · right
      have hsame := hkeep _ hrec
      rw [hself hrec, Option.some.injEq] at hsame
      exact hsame
    · exact .inl hrec
  · intro hcond id hid
    by_cases heq : id = plan.read.opp.id
    · subst heq
      rw [hself hid, hcond.resolve_left (not_not.mpr hid)]
    · rwa [h.statusOf_of_ne heq]

/-- The row whose status an upserted delivery replaces. -/
lemma processFailed_keeps_iff {db : Db} {tenantId : String} {event : CanonicalPaymentEvent}
    {priorCount : ℕ} {now : Timestamp} {entryId : String} :
    (∀ id, db.statusOf id = some recovered →
        (WebhookQueueEngine.processFailed db tenantId event priorCount now entryId).statusOf id =
          some recovered) ↔
      ((db.getOpportunityByRazorpayEventId event.eventId).isSome ∨
        db.statusOf (event.opportunityId now) ≠ some recovered) := by
  cases hevent : db.getOpportunityByRazorpayEventId event.eventId with
  | some o =>
    rw [WebhookQueueEngine.processFailed_of_stored (by simp [hevent])]
    simp
  | none =>
    obtain ⟨db', hins, hdb⟩ := WebhookQueueEngine.processFailed_of_new tenantId priorCount now
      entryId hevent
    have hkeeps := insert_keeps_iff db (event.toOpportunity
      (WebhookQueueEngine.sourceOf event) tenantId event.environment priorCount now)
    rw [hins, Option.getD_some] at hkeeps
    rw [hdb]
    refine Iff.trans ?_ (hkeeps.trans ?_)
    · rfl
    · simp

/-! ### Runs -/

/-- The write leaves the recovered opportunities recovered: an upsert throws, finds no recovery
under its id or carries the status itself; a transaction rolls back, finds its row unsettled or
settles it; and a delivery is a duplicate by its event id, or its payment is no recovery. -/
def SparesRecoveries (platform : Platform) (s : ReconcilerState) (a : StatusWrite)
    (_ : ReconcilerState) : Prop :=
  match a with
  | .insert opp =>
    s.db.insertOpportunity opp = none ∨ s.db.statusOf opp.id ≠ some recovered ∨
      opp.status = recovered
  | .updateStatus _ _ => True
  | .reconcile (.commit call ids fault _) =>
    match s.calls call with
    | some (.committing plan) =>
      ¬ commits platform plan ids fault s.db ∨
        s.db.statusOf plan.read.opp.id ≠ some recovered ∨ plan.targetOpportunityStatus = recovered
    | _ => True
  | .reconcile _ => True
  | .processFailed _ event _ now _ =>
    (s.db.getOpportunityByRazorpayEventId event.eventId).isSome ∨
      s.db.statusOf (event.opportunityId now) ≠ some recovered

/-- Once an opportunity of the run is recovered, it is recovered in every later state. -/
def StaysRecovered (platform : Platform) (s : ReconcilerState) (as : List StatusWrite) : Prop :=
  ∀ pre mid rest t u, as = pre ++ mid ++ rest → Run (statusWriteStep platform) s pre t →
    Run (statusWriteStep platform) t mid u → ∀ id, IsRecovered id t → IsRecovered id u

/-- A write keeps every recovery exactly when it spares the recovered opportunities. -/
lemma sparesRecoveries_iff {platform : Platform} {s t : ReconcilerState} {a : StatusWrite}
    (h : statusWriteStep platform s a = some t) :
    SparesRecoveries platform s a t ↔ ∀ id, IsRecovered id s → IsRecovered id t := by
  cases a with
  | insert opp =>
    cases h
    exact (insert_keeps_iff _ _).symm
  | updateStatus id status =>
    cases h
    simp only [SparesRecoveries, true_iff]
    intro j hj
    exact statusOf_updateStatus_recovered hj
  | processFailed tenantId event priorCount now entryId =>
    cases h
    exact processFailed_keeps_iff.symm
  | reconcile a =>
    have hstep : reconcileStep platform s a = some t := h
    cases a with
    | start call id override now =>
      simp only [reconcileStep] at hstep
      split at hstep <;> cases hstep
      simp [SparesRecoveries, IsRecovered]
    | fetched call client response =>
      have hdb : t.db = s.db := by
        rcases reconcileStep_db hstep with hdb | ⟨plan, ids, fault, hplan, -⟩
        · exact hdb
        · cases hplan
      simp [SparesRecoveries, IsRecovered, hdb]
    | commit call ids fault message =>
      simp only [reconcileStep] at hstep
      split at hstep
      next plan hcall =>
        cases hstep
        simp only [SparesRecoveries, hcall, IsRecovered]
        rcases reconcileCommit_spec platform plan ids fault s.db with
          ⟨hfail, hback⟩ | ⟨hcommits, hcommit⟩
        · simp [hfail, hback]
        · simp only [hcommits, not_true_eq_false, false_or]
          exact (commit_keeps_iff hcommit).symm
      next => cases hstep

/-- A recovered opportunity of a run stays recovered exactly when every write of the run spares the
recovered opportunities. -/
theorem staysRecovered_iff (platform : Platform) (s : ReconcilerState) (as : List StatusWrite) :
    StaysRecovered platform s as ↔
      AllSteps (statusWriteStep platform) (SparesRecoveries platform) s as := by
  rw [StaysRecovered, ← allSteps_keeps_iff]
  exact allSteps_congr fun s a t h => (sparesRecoveries_iff h).symm

/-! ### A recovery that is taken back -/

/-- A failed payment of ₹1000.00, as the queue receives it. -/
def failedEvent (eventId paymentId : String) : CanonicalPaymentEvent where
  eventId := if eventId = "" then "evt" else eventId
  eventId_ne := by
    split_ifs with h
    · decide
    · exact h
  environment := .live
  paymentId := some paymentId
  paymentLinkId := none
  amountPaise := 100000
  amount_pos := by decide
  currency := "INR"
  status := .failed
  failureCode := some "insufficient_funds"
  failureDescription := none
  attemptNumber := 1
  attempt_pos := by decide
  customerReference := "cust_1"
  customerEmail := none
  customerPhone := none

/-- The empty system. -/
def noWrites : ReconcilerState where
  db := .empty
  calls := fun _ => none

/-- A failed payment is ingested and recovered. -/
def recovery : List StatusWrite :=
  [.processFailed "tenant_a" (failedEvent "evt_1" "pay_1") 0 1000 "led_1",
    .reconcile (.start 0 "pay_1" (some (.delivered "tenant_a" true, paidLink)) 5000),
    .reconcile (.commit 0 (raceIds 0) none "")]

/-- A second event about the payment arrives in the queue. -/
def reingestion : List StatusWrite :=
  [.processFailed "tenant_a" (failedEvent "evt_2" "pay_1") 0 6000 "led_2"]

/-- The second event puts the recovered payment back to `pending`. -/
theorem recovery_overwritten :
    ¬ ∀ (platform : Platform) (s : ReconcilerState) (as : List StatusWrite),
      StaysRecovered platform s as := by
  intro h
  obtain ⟨t, hpre, ht⟩ := exists_run_of_execute (statusWriteStep .plain) noWrites recovery
    (fun t => t.db.statusOf "pay_1" = some recovered) (by decide +kernel)
  obtain ⟨u, hall, hu⟩ := exists_run_of_execute (statusWriteStep .plain) noWrites
    (recovery ++ reingestion) (fun t => t.db.statusOf "pay_1" = some pending) (by decide +kernel)
  have hrecovered : t.db.statusOf "pay_1" = some recovered := by simpa using ht
  have hpending : u.db.statusOf "pay_1" = some pending := by simpa using hu
  have hstays := h .plain noWrites (recovery ++ reingestion ++ []) recovery reingestion [] t u rfl
    hpre (hall.of_append hpre) "pay_1" hrecovered
  rw [IsRecovered, hpending] at hstays
  cases hstays

end CtrlRecovery
