import CtrlRecovery.Db.Sample
import CtrlRecovery.Reconciliation.Commit

/-!
# Settlements and the amount due

Two readings of a payload decide a settlement: `ProviderTruthEvaluator`, which asks for a positive
amount paid, and `CanonicalStateMachine`, which also compares it with the amount due and
quarantines what falls short. The reconciler settles when either of them confirms, so the
quarantine of a paid or captured link never takes effect (`target_recovered_iff`).
-/

namespace CtrlRecovery

open Core OpportunityStatus AuthoritativeReconciler DoubleEntryLedger
open ProviderTruthEvaluator (isPaidStatus normalizedStatus)

variable {platform : Platform} {read : ReconcileRead} {source : PayloadSource}
  {payload : ProviderPayload} {plan : SettlementPlan}

/-! ### The two readings of a payload -/

/-- The amount paid that a payload reports. -/
def amountPaid (payload : ProviderPayload) : ℚ := Js.orZero payload.amountPaid

/-- The canonical state of a payload for an opportunity. -/
def canonicalStateOf (opp : RecoveryOpportunity) (payload : ProviderPayload) :
    CanonicalPaymentState :=
  (CanonicalStateMachine.mapRazorpayStatusToCanonicalState (normalizedStatus payload)
    opp.amountPaise (amountPaid payload)).canonicalState

/-- A paid or captured payload with a positive amount paid. -/
def ConfirmsPayment (payload : ProviderPayload) : Prop :=
  isPaidStatus (normalizedStatus payload) ∧ 0 < amountPaid payload

/-- The provider confirms a payment of at least the amount of the opportunity. -/
def Covers (payload : ProviderPayload) (opp : RecoveryOpportunity) : Prop :=
  ConfirmsPayment payload ∧ opp.amountPaise ≤ amountPaid payload

/-- The provider reports a completed payment below the amount of the opportunity. -/
def FallsShort (payload : ProviderPayload) (opp : RecoveryOpportunity) : Prop :=
  ConfirmsPayment payload ∧ amountPaid payload < opp.amountPaise

instance : Decidable (ConfirmsPayment payload) := inferInstanceAs (Decidable (_ ∧ _))

instance (opp : RecoveryOpportunity) : Decidable (FallsShort payload opp) :=
  inferInstanceAs (Decidable (_ ∧ _))

lemma rawStatus_normalizedStatus :
    CanonicalStateMachine.rawStatus (normalizedStatus payload) = normalizedStatus payload := by
  have hne : normalizedStatus payload ≠ "" := by
    rw [normalizedStatus, Ne, Js.toLowerCase_eq_empty_iff]
    exact Js.orElse_ne_empty _ (by decide)
  rw [CanonicalStateMachine.rawStatus, Js.orElse_of_ne_empty hne, normalizedStatus,
    Js.toLowerCase_toLowerCase]

lemma canonicalStateOf_eq_paymentConfirmed_iff (opp : RecoveryOpportunity) :
    canonicalStateOf opp payload = .paymentConfirmed ↔
      ConfirmsPayment payload ∧ ¬ (0 < opp.amountPaise ∧ amountPaid payload < opp.amountPaise) := by
  rw [canonicalStateOf, CanonicalStateMachine.canonicalState_eq_paymentConfirmed_iff,
    rawStatus_normalizedStatus, ConfirmsPayment, and_assoc]

/-- Of the confirmed payments, the quarantine takes those that fall short of a positive amount. -/
lemma canonicalStateOf_eq_mismatch_iff {opp : RecoveryOpportunity} (hpos : 0 < opp.amountPaise)
    (hconfirms : ConfirmsPayment payload) :
    canonicalStateOf opp payload = .mismatch ↔ FallsShort payload opp := by
  have hne : normalizedStatus payload ≠ "partially_paid" := by
    intro heq
    exact absurd (heq ▸ hconfirms.1) (by decide)
  rw [canonicalStateOf, CanonicalStateMachine.canonicalState_eq_mismatch_iff,
    rawStatus_normalizedStatus, FallsShort]
  simp [hne, hpos, hconfirms, hconfirms.1, hconfirms.2]

/-! ### The decision -/

lemma target_eq_recovered_iff {opp : RecoveryOpportunity} (h : opp.status ≠ recovered)
    (truthEval : ProviderTruthEvaluation) (state : CanonicalPaymentState) :
    (target opp truthEval state).1 = recovered ↔
      state = .paymentConfirmed ∨ truthEval.isRecovered = true := by
  simp only [target, Bool.or_eq_true, beq_iff_eq]
  split_ifs with hconfirmed <;> simp [h, hconfirmed]

/-- The reconciler decides for a recovery on every confirmed payment, whatever its amount. -/
theorem target_recovered_iff (payload : ProviderPayload) (opp : RecoveryOpportunity)
    (h : opp.status ≠ recovered) :
    (target opp (ProviderTruthEvaluator.evaluate payload) (canonicalStateOf opp payload)).1 =
      recovered ↔ ConfirmsPayment payload := by
  have hrec : (ProviderTruthEvaluator.evaluate payload).isRecovered = true ↔
      ConfirmsPayment payload := by
    simp [ConfirmsPayment, amountPaid]
  rw [target_eq_recovered_iff h, hrec, canonicalStateOf_eq_paymentConfirmed_iff]
  simp only [or_iff_right_iff_imp, and_imp]
  intro hconfirms _
  exact hconfirms

lemma decide_of_unsettled (read : ReconcileRead) (source : PayloadSource)
    (payload : ProviderPayload) (h : read.opp.status ≠ recovered) :
    ∃ plan, decide read source payload = .committing plan ∧ plan.read = read ∧
      plan.source = source ∧ plan.truthEval = ProviderTruthEvaluator.evaluate payload ∧
      (plan.targetOpportunityStatus = recovered ↔ ConfirmsPayment payload) := by
  refine ⟨_, if_neg h, rfl, rfl, rfl, ?_⟩
  simpa [canonicalStateOf, amountPaid] using
    target_recovered_iff payload read.opp h

lemma decide_eq_committing (h : decide read source payload = .committing plan) :
    read.opp.status ≠ recovered ∧ plan.read = read ∧ plan.source = source ∧
      plan.truthEval = ProviderTruthEvaluator.evaluate payload ∧
      (plan.targetOpportunityStatus = recovered ↔ ConfirmsPayment payload) := by
  by_cases hrec : read.opp.status = recovered
  · rw [AuthoritativeReconciler.decide, if_pos hrec] at h
    cases h
  · obtain ⟨plan', hplan', hspec⟩ := decide_of_unsettled read source payload hrec
    rw [h] at hplan'
    cases hplan'
    exact ⟨hrec, hspec⟩

/-! ### Settlements cover the amount due -/

/-- The transaction of the plan settles the opportunity: it writes a settlement entry, or marks the
row recovered. -/
def Settles (plan : SettlementPlan) (db db' : Db) : Prop :=
  settlements db' plan.read.opp.id ≠ settlements db plan.read.opp.id ∨
    (db'.statusOf plan.read.opp.id = some recovered ∧
      db.statusOf plan.read.opp.id ≠ some recovered)

/-- A call that read `opp` and obtained `payload` settles only what the provider confirms in full,
and never a payload that is mapped to a mismatch: whatever the database is at its transaction, and
whatever the transaction does. -/
def SettlesOnlyCovered (platform : Platform) (opp : RecoveryOpportunity)
    (payload : ProviderPayload) : Prop :=
  ∀ execRecord now source plan ids fault db,
    decide { opp := opp, execRecord := execRecord, now := now } source payload =
        .committing plan →
      Settles plan db (reconcileCommit platform plan ids fault db) →
        Covers payload opp ∧ canonicalStateOf opp payload ≠ .mismatch

/-- A transaction settles only where the plan is to recover. -/
lemma target_recovered_of_settles {ids : TransactionIds} {fault : Option ℕ} {db : Db}
    (h : Settles plan db (reconcileCommit platform plan ids fault db)) :
    plan.targetOpportunityStatus = recovered := by
  by_contra hrec
  rcases reconcileCommit_spec platform plan ids fault db with ⟨-, hback⟩ | ⟨-, hcommit⟩
  · rw [hback] at h
    rcases h with h | ⟨h, h'⟩
    · exact h rfl
    · exact h' h
  · rcases h with h | ⟨h, h'⟩
    · exact h (by simp [hcommit.settlements, hrec])
    · rw [Db.statusOf, hcommit.getOpportunityById, if_pos rfl] at h
      cases hrow : db.getOpportunityById plan.read.opp.id with
      | none => simp [hrow] at h
      | some o => simp [hrow, hrec] at h

/-- A confirmed payment of an unsettled opportunity is settled by an undisturbed transaction,
whatever its amount. -/
lemma exists_settles (platform : Platform) (opp : RecoveryOpportunity)
    (hstatus : opp.status ≠ recovered) (hconfirms : ConfirmsPayment payload) :
    ∃ source plan ids db,
      decide { opp := opp, execRecord := none, now := 0 } source payload = .committing plan ∧
      Settles plan db (reconcileCommit platform plan ids none db) := by
  obtain ⟨plan, hplan, hread, -, -, htarget⟩ := decide_of_unsettled
    { opp := opp, execRecord := none, now := 0 } (.fetched .rzpClient) payload hstatus
  let db : Db := { Db.empty with opportunities := Table.empty.put opp }
  let ids : TransactionIds := ⟨"del", "led", "out", "mem", "div"⟩
  have hrow : (db.getOpportunityById plan.read.opp.id).isSome := by
    simp [hread, db, Db.getOpportunityById]
  have hfresh : FreshIds ids db := by
    constructor <;> simp [db, Db.empty]
  have hcommit := committed_of_fresh platform plan hrow hfresh
  refine ⟨_, plan, ids, db, hplan, .inl ?_⟩
  simp [hcommit.settlements, htarget.mpr hconfirms]

/-- A call settles only what is covered, unless it reads an unsettled opportunity and is given a
paid or captured payload with a positive amount paid below the amount due. -/
theorem settlesOnlyCovered_iff (platform : Platform) (opp : RecoveryOpportunity)
    (payload : ProviderPayload) (hpos : 0 < opp.amountPaise) :
    SettlesOnlyCovered platform opp payload ↔
      opp.status = recovered ∨ ¬ FallsShort payload opp := by
  constructor
  · intro h
    by_contra hcon
    obtain ⟨hstatus, hshort⟩ := not_or.mp hcon
    rw [not_not] at hshort
    obtain ⟨source, plan, ids, db, hplan, hsettles⟩ := exists_settles platform opp hstatus hshort.1
    obtain ⟨⟨-, hcovers⟩, -⟩ := h none 0 source plan ids none db hplan hsettles
    exact absurd hshort.2 (not_lt.mpr hcovers)
  · intro h execRecord now source plan ids fault db hplan hsettles
    obtain ⟨hstatus, -, -, -, htarget⟩ := decide_eq_committing hplan
    have hconfirms := htarget.mp (target_recovered_of_settles hsettles)
    have hshort : ¬ FallsShort payload opp := h.resolve_left hstatus
    refine ⟨⟨hconfirms, ?_⟩, ?_⟩
    · by_contra hlt
      exact hshort ⟨hconfirms, not_le.mp hlt⟩
    · rw [Ne, canonicalStateOf_eq_mismatch_iff hpos hconfirms]
      exact hshort

theorem settlesOnlyCovered_paid_in_full :
    SettlesOnlyCovered .plain (sampleOpportunity "pay_1" .executing)
      (sampleLink "plink_1" "paid" 100000) :=
  (settlesOnlyCovered_iff .plain _ _ (by decide +kernel)).mpr (.inr (by decide +kernel))

/-- A payload of one paisa with status `paid` settles an opportunity of ₹1000.00. -/
theorem quarantine_bypassed :
    ¬ ∀ (platform : Platform) (opp : RecoveryOpportunity) (payload : ProviderPayload),
      0 < opp.amountPaise → SettlesOnlyCovered platform opp payload := by
  intro h
  have hone : ConfirmsPayment (sampleLink "plink_1" "paid" 1) :=
    ⟨by decide, by decide +kernel⟩
  obtain ⟨source, plan, ids, db, hplan, hsettles⟩ := exists_settles .plain
    (sampleOpportunity "pay_1" .executing) (by decide) hone
  obtain ⟨⟨-, hcovers⟩, -⟩ := h .plain (sampleOpportunity "pay_1" .executing)
    (sampleLink "plink_1" "paid" 1) (by decide +kernel) none 0 source plan ids none db hplan hsettles
  exact absurd hcovers (by decide +kernel)

end CtrlRecovery
