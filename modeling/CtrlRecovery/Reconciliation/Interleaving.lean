import CtrlRecovery.Core.Run
import CtrlRecovery.Db.Sample
import CtrlRecovery.Reconciliation.Commit
import Mathlib.Logic.Function.Basic

/-!
# Interleaved reconciliations

Any number of `reconcileOpportunity` calls, from the webhooks, the poller and the sweeps, run at the
same time on one database. The steps of the system are the phases of the calls, in any order; a
transaction is one step.

A call decides on the row that it read at its start, and its transaction does not look at the row
again. So two calls that both read an unsettled row both settle it. Settlements stay unique in the
runs whose transactions all find the row of their opportunity unsettled
(`settledAtMostOnce_of_commitsOnUnsettled`).
-/

namespace CtrlRecovery

open Core OpportunityStatus AuthoritativeReconciler DoubleEntryLedger

/-- The database, and the calls that have started, by a number for each. -/
structure ReconcilerState where
  db : Db
  calls : ℕ → Option ReconcileCall

inductive ReconcileAction
  | start (call : ℕ) (id : String) (override : Option (PayloadSource × ProviderPayload))
      (now : Timestamp)
  | fetched (call : ℕ) (client : ProviderClient) (response : Except String ProviderPayload)
  | commit (call : ℕ) (ids : TransactionIds) (fault : Option ℕ) (message : String)

/-- One phase of one call. -/
def reconcileStep (platform : Platform) (s : ReconcilerState) :
    ReconcileAction → Option ReconcilerState
  | .start call id override now =>
    match s.calls call with
    | none => some
        { s with calls := Function.update s.calls call (some (reconcileStart s.db id override now)) }
    | some _ => none
  | .fetched call client response =>
    match s.calls call with
    | some (.fetching read) =>
      if isClientFor read.opp client then
        some
          { s with
            calls := Function.update s.calls call (some (reconcileFetched read client response)) }
      else none
    | _ => none
  | .commit call ids fault message =>
    match s.calls call with
    | some (.committing plan) => some
        { db := reconcileCommit platform plan ids fault s.db
          calls := Function.update s.calls call
            (some (.finished (reconcileResult platform plan ids fault message s.db))) }
    | _ => none

/-- The plan that an action commits. -/
def committedPlan (s : ReconcilerState) : ReconcileAction → Option SettlementPlan
  | .commit call _ _ _ =>
    match s.calls call with
    | some (.committing plan) => some plan
    | _ => none
  | _ => none

/-- A step leaves the database alone, or runs the transaction of the plan that it commits. -/
lemma reconcileStep_db {platform : Platform} {s t : ReconcilerState} {a : ReconcileAction}
    (h : reconcileStep platform s a = some t) :
    t.db = s.db ∨
      ∃ plan ids fault, committedPlan s a = some plan ∧
        t.db = reconcileCommit platform plan ids fault s.db := by
  cases a with
  | start call id override now =>
    simp only [reconcileStep] at h
    split at h <;> cases h
    exact .inl rfl
  | fetched call client response =>
    simp only [reconcileStep] at h
    split at h
    · split_ifs at h
      cases h
      exact .inl rfl
    · cases h
  | commit call ids fault message =>
    simp only [reconcileStep] at h
    split at h
    next plan hcall =>
      cases h
      exact .inr ⟨plan, ids, fault, by simp [committedPlan, hcall], rfl⟩
    next => cases h

/-- What a step does to the calls: it starts one, answers the fetch of one, finishes one, and leaves
the others as they are. -/
lemma reconcileStep_calls {platform : Platform} {s t : ReconcilerState} {a : ReconcileAction}
    (h : reconcileStep platform s a = some t) (call : ℕ) :
    t.calls call = s.calls call ∨
      (∃ id override now, a = .start call id override now ∧
        t.calls call = some (reconcileStart s.db id override now)) ∨
      (∃ read client response, a = .fetched call client response ∧
        s.calls call = some (.fetching read) ∧ isClientFor read.opp client ∧
        t.calls call = some (reconcileFetched read client response)) ∨
      ∃ result, t.calls call = some (.finished result) := by
  cases a with
  | start number id override now =>
    simp only [reconcileStep] at h
    split at h <;> cases h
    by_cases hcall : call = number
    · subst hcall
      exact .inr (.inl ⟨id, override, now, rfl, Function.update_self ..⟩)
    · exact .inl (Function.update_of_ne hcall ..)
  | fetched number client response =>
    simp only [reconcileStep] at h
    split at h
    next read hfetching =>
      split_ifs at h with hclient
      cases h
      by_cases hcall : call = number
      · subst hcall
        exact .inr (.inr (.inl ⟨read, client, response, rfl, hfetching, hclient,
          Function.update_self ..⟩))
      · exact .inl (Function.update_of_ne hcall ..)
    next => cases h
  | commit number ids fault message =>
    simp only [reconcileStep] at h
    split at h
    next =>
      cases h
      by_cases hcall : call = number
      · subst hcall
        exact .inr (.inr (.inr ⟨_, Function.update_self ..⟩))
      · exact .inl (Function.update_of_ne hcall ..)
    next => cases h

/-! ### Settlements are unique when every transaction finds its row unsettled -/

/-- An opportunity without a settlement, or a recovered one with exactly one. -/
def SettledAtMostOnce (db : Db) (id : String) : Prop :=
  settlements db id = [] ∨ ((settlements db id).length = 1 ∧ db.statusOf id = some recovered)

lemma SettledAtMostOnce.length_le {db : Db} {id : String} (h : SettledAtMostOnce db id) :
    (settlements db id).length ≤ 1 := by
  rcases h with h | h
  · simp [h]
  · exact h.1.le

/-- The transaction of the action finds the row of its opportunity in another status than
`recovered`: no other call has settled it since the row was read. -/
def CommitsOnUnsettled (s : ReconcilerState) (a : ReconcileAction) (_ : ReconcilerState) : Prop :=
  ∀ plan ∈ committedPlan s a, s.db.statusOf plan.read.opp.id ≠ some recovered

instance (s : ReconcilerState) (a : ReconcileAction) (t : ReconcilerState) :
    Decidable (CommitsOnUnsettled s a t) := by
  unfold CommitsOnUnsettled
  infer_instance

/-- A transaction that finds its row unsettled keeps the settlements of every opportunity unique. -/
lemma SettledAtMostOnce.commit {platform : Platform} {plan : SettlementPlan} {ids : TransactionIds}
    {db db' : Db} {id : String} (h : SettledAtMostOnce db id)
    (hcommit : Committed platform plan ids db db')
    (hunsettled : db.statusOf plan.read.opp.id ≠ some recovered) : SettledAtMostOnce db' id := by
  by_cases hid : id = plan.read.opp.id
  · subst hid
    have hnone : settlements db plan.read.opp.id = [] := by
      rcases h with h | ⟨-, h⟩
      · exact h
      · exact absurd h hunsettled
    rw [SettledAtMostOnce, hcommit.settlements, hnone, List.nil_append]
    by_cases hrec : plan.targetOpportunityStatus = recovered
    · right
      exact ⟨by simp [hrec], hcommit.statusOf_of_recovered hrec⟩
    · left
      simp [hrec]
  · have hsame : settlements db' id = settlements db id := by
      simp [hcommit.settlements, hid]
    rwa [SettledAtMostOnce, hsame, hcommit.statusOf_of_ne hid]

lemma SettledAtMostOnce.step {platform : Platform} {s t : ReconcilerState} {a : ReconcileAction}
    {id : String} (h : SettledAtMostOnce s.db id) (hstep : reconcileStep platform s a = some t)
    (hcond : CommitsOnUnsettled s a t) : SettledAtMostOnce t.db id := by
  rcases reconcileStep_db hstep with hdb | ⟨plan, ids, fault, hplan, hdb⟩
  · rwa [hdb]
  · rw [hdb]
    rcases reconcileCommit_spec platform plan ids fault s.db with ⟨-, hback⟩ | ⟨-, hcommit⟩
    · rwa [hback]
    · exact h.commit hcommit (hcond plan hplan)

/-- In every run of reconciliations whose transactions all find the row of their opportunity
unsettled, every opportunity is settled at most once. -/
theorem settledAtMostOnce_of_commitsOnUnsettled (platform : Platform) {s t : ReconcilerState}
    {as : List ReconcileAction} (hrun : Run (reconcileStep platform) s as t)
    (hcond : AllSteps (reconcileStep platform) CommitsOnUnsettled s as) (id : String)
    (h₀ : SettledAtMostOnce s.db id) : (settlements t.db id).length ≤ 1 :=
  (hrun.invariant_of_allSteps (I := fun s => SettledAtMostOnce s.db id)
    (fun _ _ _ hI hstep hcond => hI.step hstep hcond) hcond h₀).length_le

/-! ### The race -/

/-- The payment link of the race, paid in full. -/
def paidLink : ProviderPayload := sampleLink "plink_1" "paid" 100000

/-- An executing opportunity with its payment link, and no call. -/
def raceStart : ReconcilerState where
  db := .ofRows [sampleOpportunity "pay_1" .executing] [sampleRecord "pay_1" "plink_1"]
  calls := fun _ => none

/-- The generated ids of two transactions. -/
def raceIds (n : ℕ) : TransactionIds where
  doubleEntryId := "del_" ++ toString n
  ledgerAuditId := "led_rec_" ++ toString n
  outcomeId := "out_" ++ toString n
  memoryId := "mem_e_" ++ toString n
  divergenceId := "div_" ++ toString n

/-- The webhook of the payment and the poller start before either of them commits. -/
def raceActions : List ReconcileAction :=
  [.start 0 "pay_1" (some (.delivered "tenant_a" true, paidLink)) 5000,
    .start 1 "pay_1" none 5001,
    .fetched 1 (.pool "tenant_a" .test) (.ok paidLink),
    .commit 0 (raceIds 0) none "",
    .commit 1 (raceIds 1) none ""]

/-- The webhook and the poller settle one payment twice. -/
theorem settlement_race :
    ¬ ∀ (platform : Platform) (s t : ReconcilerState) (as : List ReconcileAction) (id : String),
      (∀ call, s.calls call = none) → settlements s.db id = [] →
        Run (reconcileStep platform) s as t → (settlements t.db id).length ≤ 1 := by
  intro h
  obtain ⟨t, hrun, htwice⟩ := exists_run_of_execute (reconcileStep .plain) raceStart raceActions
    (fun t => (settlements t.db "pay_1").length == 2) (by decide +kernel)
  have hle := h .plain raceStart t raceActions "pay_1" (fun _ => rfl) rfl hrun
  rw [beq_iff_eq] at htwice
  omega

/-- The poller starts after the webhook has committed. -/
def sequentialActions : List ReconcileAction :=
  [.start 0 "pay_1" (some (.delivered "tenant_a" true, paidLink)) 5000,
    .commit 0 (raceIds 0) none "",
    .start 1 "pay_1" none 5001,
    .fetched 1 (.pool "tenant_a" .test) (.ok paidLink)]

theorem settledAtMostOnce_sequential :
    ∃ t, Run (reconcileStep .plain) raceStart sequentialActions t ∧
      (settlements t.db "pay_1").length ≤ 1 := by
  obtain ⟨t, hrun, _⟩ := exists_run_of_execute (reconcileStep .plain) raceStart sequentialActions
    (fun _ => true) (by decide +kernel)
  exact ⟨t, hrun, settledAtMostOnce_of_commitsOnUnsettled .plain hrun (by decide +kernel) "pay_1"
    (.inl rfl)⟩

end CtrlRecovery
