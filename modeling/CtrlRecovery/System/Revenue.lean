import CtrlRecovery.Domain.StatusWriters
import CtrlRecovery.System.RecoverySystem

/-!
# Reported revenue and the settlement ledger

The dashboard reports what the rows of the recovered opportunities are worth; the ledger holds what
the provider has paid for them. The two books are kept by different writers, and agree as long as
no ingestion replaces a recovered row, no opportunity is settled a second time and every settlement
covers the amount of its row (`totalRecoveredPaise_eq_settledPaise`).
-/

namespace CtrlRecovery

open Core OpportunityStatus AuthoritativeReconciler DoubleEntryLedger

namespace Dashboard

/-! ### The two totals -/

/-- The opportunities of the summary that count as revenue once they are recovered. -/
def realOpportunities (db : Db) (tenantId : Option String) (environment : Option Environment) :
    List RecoveryOpportunity :=
  (db.getAllOpportunities tenantId environment).filter fun o => o.source == .real

/-- `total_recovered_paise` of `GET /dashboard/summary`. -/
def totalRecoveredPaise (db : Db) (tenantId : Option String) (environment : Option Environment) : ℚ :=
  (((realOpportunities db tenantId environment).filter fun o => o.status = recovered).map
    (·.amountPaise)).sum

/-- What the ledger holds for the opportunities of the summary. -/
def settledPaise (db : Db) (tenantId : Option String) (environment : Option Environment) : ℚ :=
  ((realOpportunities db tenantId environment).map fun o => settledTotal db o.id).sum

/-! ### The books -/

/-- The settlements of every opportunity add up to its recovered amount. -/
def BooksAgree (db : Db) : Prop := ∀ id, settledTotal db id = (recoveredAmount db id).getD 0

namespace BooksAgree

variable {db db' : Db}

/-- Where the books agree for every opportunity, so do the totals of every scope. -/
lemma totalRecoveredPaise_eq (h : BooksAgree db) (tenantId : Option String)
    (environment : Option Environment) :
    totalRecoveredPaise db tenantId environment = settledPaise db tenantId environment := by
  have hsum : totalRecoveredPaise db tenantId environment =
      ((realOpportunities db tenantId environment).map fun o =>
        if o.status = recovered then o.amountPaise else 0).sum := by
    rw [List.sum_map_ite]
    simp [totalRecoveredPaise]
  rw [hsum, settledPaise]
  congr 1
  apply List.map_congr_left
  intro o ho
  have hrow : db.getOpportunityById o.id = some o :=
    Table.find?_key_of_mem (db.mem_getAllOpportunities.mp (List.mem_of_mem_filter ho)).1
  rw [h o.id, recoveredAmount, hrow]
  by_cases hs : o.status = recovered <;> simp [hs]

lemma of_keepsRecoveries (h : BooksAgree db) (hkeeps : KeepsRecoveries db db') : BooksAgree db' := by
  intro id
  have hledger : settledTotal db' id = settledTotal db id := by
    rw [settledTotal, settlements, hkeeps.ledger]
    rfl
  rw [hledger, h id, hkeeps.amounts]

/-- A transaction on a row that is not recovered, which settles the amount of the row if it settles
it. -/
lemma commit {platform : Platform} {plan : SettlementPlan} {ids : TransactionIds}
    (h : BooksAgree db) (hcommit : Committed platform plan ids db db')
    (hunsettled : db.statusOf plan.read.opp.id ≠ some recovered)
    (hamount : plan.targetOpportunityStatus = recovered →
      ∀ opp ∈ db.getOpportunityById plan.read.opp.id,
        plan.truthEval.amountPaidPaise = opp.amountPaise) : BooksAgree db' := by
  intro id
  by_cases hid : id = plan.read.opp.id
  · subst hid
    have hnone : recoveredAmount db plan.read.opp.id = none := by
      rw [← Option.not_isSome_iff_eq_none, isSome_recoveredAmount]
      exact hunsettled
    have hzero : ((settlements db plan.read.opp.id).map (·.amountPaise)).sum = 0 := by
      have hbooks := h plan.read.opp.id
      rwa [hnone, Option.getD_none, settledTotal] at hbooks
    rw [settledTotal, hcommit.settlements, List.map_append, List.sum_append, hzero, zero_add,
      recoveredAmount, hcommit.getOpportunityById, if_pos rfl]
    by_cases hrec : plan.targetOpportunityStatus = recovered
    · obtain ⟨opp, hopp⟩ := Option.isSome_iff_exists.mp (hcommit.row hrec)
      simp [hrec, hopp, settlementEntry, hamount hrec opp hopp]
    · cases db.getOpportunityById plan.read.opp.id <;> simp [hrec]
  · have hsame : settledTotal db' id = settledTotal db id := by
      simp [settledTotal, hcommit.settlements, hid]
    rw [hsame, h id, recoveredAmount, recoveredAmount, hcommit.getOpportunityById, if_neg hid]

end BooksAgree

/-! ### Runs -/

/-- The provider has not reported more paid than the amount of the opportunity. -/
def NeverOverpays (s : EngineState) (a : SystemAction) (_ : EngineState) : Prop :=
  ∀ plan ∈ committingPlan s a, ∀ opp ∈ s.db.getOpportunityById plan.read.opp.id,
    plan.truthEval.amountPaidPaise ≤ opp.amountPaise

/-- The action ingests nothing over a recovered row; and a transaction finds its row not recovered,
and settles it for no less than its amount. -/
def KeepsBooks (s : EngineState) (a : SystemAction) (_ : EngineState) : Prop :=
  IngestsOverNoRecovery s a ∧
    ∀ plan ∈ committingPlan s a, s.db.statusOf plan.read.opp.id ≠ some recovered ∧
      (plan.targetOpportunityStatus = recovered →
        ∀ opp ∈ s.db.getOpportunityById plan.read.opp.id,
          opp.amountPaise ≤ plan.truthEval.amountPaidPaise)

instance (s : EngineState) (a : SystemAction) (t : EngineState) :
    Decidable (NeverOverpays s a t) := by
  unfold NeverOverpays
  infer_instance

instance (s : EngineState) (a : SystemAction) (t : EngineState) : Decidable (KeepsBooks s a t) := by
  unfold KeepsBooks
  infer_instance

variable {platform : Platform} {s t : EngineState} {a : SystemAction}

lemma BooksAgree.step (h : BooksAgree s.db) (hstep : systemStep platform s a = some t)
    (hprovider : NeverOverpays s a t) (hkeeps : KeepsBooks s a t) : BooksAgree t.db := by
  obtain ⟨hingest, hcommits⟩ := hkeeps
  cases hplan : committingPlan s a with
  | none => exact h.of_keepsRecoveries (systemStep_keepsRecoveries hstep hplan hingest)
  | some plan =>
    obtain ⟨hunsettled, hcovered⟩ := hcommits plan hplan
    obtain ⟨ids, fault, hdb⟩ := systemStep_commit hstep hplan
    rw [hdb]
    rcases reconcileCommit_spec platform plan ids fault s.db with ⟨-, hback⟩ | ⟨-, hcommit⟩
    · rwa [hback]
    · apply h.commit hcommit hunsettled
      intro hrec opp hopp
      exact le_antisymm (hprovider plan hplan opp hopp) (hcovered hrec opp hopp)

/-- In every run from a database without opportunities whose steps keep the books, with a provider
that never overpays, the dashboard reports what the ledger holds. -/
theorem totalRecoveredPaise_eq_settledPaise (platform : Platform) (tenants : Table Tenant.id)
    {t : EngineState} {as : List SystemAction}
    (hrun : Run (systemStep platform) (.idle (.ofTenants tenants)) as t)
    (hprovider : AllSteps (systemStep platform) NeverOverpays (.idle (.ofTenants tenants)) as)
    (hkeeps : AllSteps (systemStep platform) KeepsBooks (.idle (.ofTenants tenants)) as)
    (tenantId : Option String) (environment : Option Environment) :
    totalRecoveredPaise t.db tenantId environment = settledPaise t.db tenantId environment := by
  have hempty : BooksAgree (EngineState.idle (.ofTenants tenants)).db := by
    intro id
    rfl
  have hbooks : BooksAgree t.db :=
    hrun.invariant_of_allSteps (I := fun s => BooksAgree s.db)
      (fun _ _ _ h hstep hP => h.step hstep hP.1 hP.2) (hprovider.and hkeeps) hempty
  exact hbooks.totalRecoveredPaise_eq tenantId environment

/-! ### A recovery that the dashboard loses -/

/-- A failed payment is ingested, and recovered by a link that is paid in full. -/
def paidRecovery : List SystemAction :=
  [.ingest (.queued "tenant_a" (failedEvent "evt_1" "pay_1") 0 1000 "led_1"),
    .engine (.reconcile (.start 0 "pay_1" (some (.delivered "tenant_a" true, paidLink)) 5000)),
    .engine (.reconcile (.commit 0 (raceIds 0) none ""))]

theorem totalRecoveredPaise_paidRecovery :
    ∃ t, Run (systemStep .plain) (.idle (.ofTenants .empty)) paidRecovery t ∧
      totalRecoveredPaise t.db none none = settledPaise t.db none none := by
  obtain ⟨t, hrun, -⟩ := exists_run_of_execute (systemStep .plain) (.idle (.ofTenants .empty))
    paidRecovery (fun _ => true) (by decide +kernel)
  exact ⟨t, hrun, totalRecoveredPaise_eq_settledPaise .plain .empty hrun (by decide +kernel)
    (by decide +kernel) none none⟩

/-- The queue ingests a second event about the recovered payment: the dashboard reports nothing any
more, and the ledger holds the settlement. -/
theorem reingestion_loses_revenue :
    ¬ ∀ (platform : Platform) (tenants : Table Tenant.id) (t : EngineState) (as : List SystemAction)
      (tenantId : Option String) (environment : Option Environment),
      Run (systemStep platform) (.idle (.ofTenants tenants)) as t →
        AllSteps (systemStep platform) NeverOverpays (.idle (.ofTenants tenants)) as →
          totalRecoveredPaise t.db tenantId environment = settledPaise t.db tenantId environment := by
  intro h
  obtain ⟨t, hrun, hlost⟩ := exists_run_of_execute (systemStep .plain) (.idle (.ofTenants .empty))
    (paidRecovery ++ [.ingest (.queued "tenant_a" (failedEvent "evt_2" "pay_1") 0 6000 "led_2")])
    (fun t => totalRecoveredPaise t.db none none == 0 && settledPaise t.db none none == 100000)
    (by decide +kernel)
  simp only [Bool.and_eq_true, beq_iff_eq] at hlost
  have hequal := h .plain .empty t _ none none hrun (by decide +kernel)
  rw [hlost.1, hlost.2] at hequal
  norm_num at hequal

end Dashboard

end CtrlRecovery
