import CtrlRecovery.Core.Run
import CtrlRecovery.Db.Sample
import CtrlRecovery.Execution.Effects
import CtrlRecovery.Market.Allocator
import Mathlib.Logic.Function.Basic

/-!
# Concurrent executions

Any number of `executeOpportunity` calls run at the same time on one database. The provider accepts
one link for a reference, rejects the later ones with an error, and may fail any lookup.

The stored record is looked up before the provider is asked, and written after it has answered. A
call in a test environment whose creation is rejected, and whose lookup finds nothing, stores a
simulated link over whatever another call has stored meanwhile. The real link stays in exactly the
runs in which no call falls back over it (`neverReplaced_iff`).
-/

namespace CtrlRecovery

open Core OpportunityStatus Scorer Market Executor

/-! ### What an answer stores -/

namespace Executor

/-- The call that answers a failure with a simulated link: in a test environment, an open circuit
breaker, a last or final error, or a conflict whose lookup finds nothing. -/
def fallback : ExecuteCall → ExecuteAnswer → Option ExecutionRun
  | .resolvingClient run, .client _ breakerOpen =>
    if run.executionEnv = .test ∧ breakerOpen ∧ ¬ (breakerOpenError run).isConflict then some run
    else none
  | .creating run _ attempt, .attempt (.error error) =>
    if run.executionEnv = .test ∧ (attempt ≥ maxRetries ∨ error.isFinal) ∧ ¬ error.isConflict then
      some run
    else none
  | .lookingUp run _ _, .lookup none =>
    if run.executionEnv = .test then some run else none
  | _, _ => none

/-- The link that the provider hands to a call. -/
def suppliedLink : ExecuteCall → ExecuteAnswer → Option (ExecutionRun × LinkResponse)
  | .creating run _ _, .attempt (.ok link)     => some (run, link)
  | .lookingUp run _ _, .lookup (some link)    => some (run, link)
  | _, _                                       => none

/-- The record that an answer makes a call store. -/
def storedRecord (c : ExecuteCall) (answer : ExecuteAnswer) (now : Timestamp) :
    Option ExecutionRecord :=
  match fallback c answer with
  | some run => some (simulatedRecord run.opp now)
  | none     => (suppliedLink c answer).map fun supplied =>
      providerRecord supplied.1.opp supplied.2 now

/-- The execution records after a record has been stored, if one was. -/
def recordsAfter (db : Db) : Option ExecutionRecord → Table ExecutionRecord.opportunityId
  | some record => db.executionRecords.put record
  | none        => db.executionRecords

variable {run : ExecutionRun} {client : ProviderClient} {error : ProviderError} {now : Timestamp}
  {entryId : String} {db : Db} {c : ExecuteCall} {answer : ExecuteAnswer}

@[simp] lemma storeLink_executionRecords (db : Db) (record : ExecutionRecord) :
    (storeLink db record).executionRecords = db.executionRecords.put record := by
  rw [storeLink, Db.updateStatus_executionRecords]
  rfl

@[simp] lemma insertLedgerEntry_executionRecords (db : Db) (entry : LedgerEntry) :
    (db.insertLedgerEntry entry).executionRecords = db.executionRecords := rfl

lemma fail_executionRecords :
    (fail run error now entryId db).2.executionRecords =
      recordsAfter db (if run.executionEnv = .test then some (simulatedRecord run.opp now)
        else none) := by
  rw [fail]
  cases run.executionEnv <;> simp [recordsAfter]

lemma creationFailed_executionRecords :
    (creationFailed run client error now entryId db).2.executionRecords =
      recordsAfter db (if run.executionEnv = .test ∧ ¬ error.isConflict then
        some (simulatedRecord run.opp now) else none) := by
  rw [creationFailed]
  by_cases h : error.isConflict
  · simp [h, recordsAfter]
  · simp [h, fail_executionRecords]

lemma launch_executionRecords (breakerOpen : Bool) :
    (launch run client breakerOpen now entryId db).2.executionRecords =
      recordsAfter db (if run.executionEnv = .test ∧ breakerOpen ∧
        ¬ (breakerOpenError run).isConflict then some (simulatedRecord run.opp now) else none) := by
  rw [launch]
  by_cases hceiling : run.executionEnv = .live ∧
      run.opp.amountPaise > MAX_LIVE_SINGLE_OPPORTUNITY_PAISE
  · simp [hceiling, recordsAfter]
  · rw [if_neg hceiling]
    by_cases hopen : breakerOpen
    · simp [hopen, creationFailed_executionRecords]
    · simp [hopen, recordsAfter]

lemma clientResolved_executionRecords (client : Except String ProviderClient) (breakerOpen : Bool) :
    (clientResolved run client breakerOpen now entryId db).2.executionRecords =
      recordsAfter db (if run.executionEnv = .test ∧ breakerOpen ∧
        ¬ (breakerOpenError run).isConflict then some (simulatedRecord run.opp now) else none) := by
  cases client with
  | ok client => exact launch_executionRecords breakerOpen
  | error message =>
    rw [clientResolved]
    by_cases hlive : run.executionEnv = .live
    · simp [hlive, recordsAfter]
    · rw [if_neg hlive]
      exact launch_executionRecords breakerOpen

lemma attempted_executionRecords (attempt : ℕ) :
    (attempted run client attempt (.error error) now entryId db).2.executionRecords =
      recordsAfter db (if run.executionEnv = .test ∧ (attempt ≥ maxRetries ∨ error.isFinal) ∧
        ¬ error.isConflict then some (simulatedRecord run.opp now) else none) := by
  rw [attempted]
  by_cases hlast : attempt ≥ maxRetries ∨ error.isFinal
  · simp [hlast, creationFailed_executionRecords]
  · simp [hlast, recordsAfter]

lemma deadLetter_executionRecords (failure : ExecutionDLQ.Failure) :
    (ExecutionDLQ.deadLetter db failure).executionRecords = db.executionRecords := by
  rw [ExecutionDLQ.deadLetter]
  split_ifs
  · exact Db.updateStatus_executionRecords
  · rfl

/-- The execution records after an answer. -/
theorem advance_executionRecords {p : ExecuteCall × Db}
    (h : advance answer now entryId db c = some p) :
    p.2.executionRecords = recordsAfter db (storedRecord c answer now) := by
  cases advances_of_advance h with
  | resolvingClient =>
    rw [clientResolved_executionRecords, storedRecord, fallback]
    split_ifs <;> rfl
  | creating run client attempt response =>
    cases response with
    | ok link => simp [attempted, storedRecord, fallback, suppliedLink, recordsAfter]
    | error error =>
      rw [attempted_executionRecords, storedRecord, fallback]
      split_ifs <;> rfl
  | lookingUp run client error link =>
    cases link with
    | some link => simp [lookedUp, storedRecord, fallback, suppliedLink, recordsAfter]
    | none =>
      rw [lookedUp, fail_executionRecords, storedRecord, fallback]
      split_ifs <;> rfl
  | counted failure => exact deadLetter_executionRecords failure
  | failing | inserting => rfl

end Executor

/-! ### Concurrent calls -/

/-- The database, the calls that have started, by a number for each, and the ids of the links that
the provider has accepted, by reference. -/
structure ExecutorState where
  db : Db
  calls : ℕ → Option ExecuteCall
  links : String → Option String

/-- A call starts, or gets an answer. `lost` is the link that the provider has accepted although the
call is told of an error. -/
inductive ExecutorAction
  | start (call : ℕ) (ks : KillSwitches) (est : Estimator) (now : Timestamp) (id : String)
  | answer (call : ℕ) (answer : ExecuteAnswer) (lost : Option String) (now : Timestamp)
      (entryId : String)

/-- Whether a link is not one of the simulated ones, by its status. -/
def IsProviderStatus (link : LinkResponse) : Prop := link.status ≠ some "simulated"

instance (link : LinkResponse) : Decidable (IsProviderStatus link) := by
  unfold IsProviderStatus
  infer_instance

/-- The provider's links after an answer about a reference; `none` where the provider does not
answer so. It accepts a link only for a reference that has none. -/
def providerLinks (links : String → Option String) (reference : String) (lost : Option String) :
    ExecuteAnswer → Option (String → Option String)
  | .attempt (.ok link) =>
    if links reference = none ∧ IsProviderStatus link then
      some (Function.update links reference (some link.id))
    else none
  | .attempt (.error _) =>
    match lost with
    | none      => some links
    | some link =>
      if links reference = none then some (Function.update links reference (some link)) else none
  | .lookup (some link) =>
    if links reference = some link.id ∧ IsProviderStatus link then some links else none
  | .lookup none | .client _ _ | .database => some links

/-- One phase of one call. -/
def executorStep (s : ExecutorState) : ExecutorAction → Option ExecutorState
  | .start call ks est now id =>
    match s.calls call with
    | none =>
      let next := Executor.start ks est now s.db id
      some { s with db := next.2, calls := Function.update s.calls call (some next.1) }
    | some _ => none
  | .answer call answer lost now entryId => do
    let c ← s.calls call
    let reference ← subject c
    let links ← providerLinks s.links reference lost answer
    let next ← advance answer now entryId s.db c
    some { db := next.2, calls := Function.update s.calls call (some next.1), links := links }

/-- The call that an action makes fall back to a simulated link. -/
def fallingBack (s : ExecutorState) : ExecutorAction → Option ExecutionRun
  | .start _ _ _ _ _         => none
  | .answer call answer _ _ _ => (s.calls call).bind (fallback · answer)

/-- The stored record of an opportunity is the link that the provider has accepted. -/
def HoldsRealLink (s : ExecutorState) (id : String) : Prop :=
  ∃ record ∈ s.db.getExecutionRecordByOpportunityId id,
    s.links id = some record.razorpayPaymentLinkId ∧ record.status ≠ "simulated"

def HoldsSimulatedLink (s : ExecutorState) (id : String) : Prop :=
  ∃ record ∈ s.db.getExecutionRecordByOpportunityId id, record.status = "simulated"

instance (s : ExecutorState) (id : String) : Decidable (HoldsRealLink s id) := by
  unfold HoldsRealLink
  infer_instance

/-- Once the real link of an opportunity is stored, no later state of the run holds a simulated link
for it. -/
def NeverReplaced (s : ExecutorState) (as : List ExecutorAction) : Prop :=
  ∀ pre mid rest t u, as = pre ++ mid ++ rest → Run executorStep s pre t → Run executorStep t mid u →
    ∀ id, HoldsRealLink t id → ¬ HoldsSimulatedLink u id

/-- The action does not make a call fall back while the real link of its opportunity is stored. -/
def SparesRealLink (s : ExecutorState) (a : ExecutorAction) (_ : ExecutorState) : Prop :=
  ∀ run ∈ fallingBack s a, ¬ HoldsRealLink s run.opp.id

instance (s : ExecutorState) (a : ExecutorAction) (t : ExecutorState) :
    Decidable (SparesRealLink s a t) := by
  unfold SparesRealLink
  infer_instance

/-! ### One step -/

section Step

variable {s t : ExecutorState} {a : ExecutorAction} {id : String}

/-- The provider keeps the links that it has accepted. -/
lemma providerLinks_of_some {links links' : String → Option String} {reference link : String}
    {lost : Option String} {answer : ExecuteAnswer}
    (h : providerLinks links reference lost answer = some links') (hlink : links id = some link) :
    links' id = some link := by
  have hother : ∀ l, links reference = none →
      Function.update links reference l id = some link := by
    intro l hnone
    have hne : id ≠ reference := by
      rintro rfl
      simp [hnone] at hlink
    rw [Function.update_of_ne hne, hlink]
  cases answer with
  | attempt response =>
    cases response with
    | ok accepted =>
      simp only [providerLinks] at h
      split_ifs at h with hfree
      cases h
      exact hother _ hfree.1
    | error error =>
      cases lost with
      | none =>
        cases h
        exact hlink
      | some accepted =>
        simp only [providerLinks] at h
        split_ifs at h with hfree
        cases h
        exact hother _ hfree
  | lookup found =>
    cases found with
    | none =>
      cases h
      exact hlink
    | some found =>
      simp only [providerLinks] at h
      split_ifs at h
      cases h
      exact hlink
  | client client breakerOpen =>
    cases h
    exact hlink
  | database =>
    cases h
    exact hlink

lemma providerRecord_status_ne {opp : RecoveryOpportunity} {link : LinkResponse} {now : Timestamp}
    (h : IsProviderStatus link) : (providerRecord opp link now).status ≠ "simulated" := by
  intro hsim
  cases hs : link.status with
  | none => simp [providerRecord, hs, Js.orElse] at hsim
  | some status =>
    by_cases hempty : status = ""
    · simp [providerRecord, hs, hempty, Js.orElse] at hsim
    · rw [IsProviderStatus, hs] at h
      simp [providerRecord, hs, hempty, Js.orElse] at hsim
      exact h (congrArg some hsim)

lemma executorStep_answer {call : ℕ} {answer : ExecuteAnswer} {lost : Option String}
    {now : Timestamp} {entryId : String}
    (h : executorStep s (.answer call answer lost now entryId) = some t) :
    ∃ c reference, s.calls call = some c ∧ subject c = some reference ∧
      providerLinks s.links reference lost answer = some t.links ∧
      t.db.executionRecords = recordsAfter s.db (storedRecord c answer now) := by
  simp only [executorStep, Option.bind_eq_bind, Option.bind_eq_some_iff, Option.some.injEq] at h
  obtain ⟨c, hc, reference, hreference, links, hlinks, next, hnext, rfl⟩ := h
  exact ⟨c, reference, hc, hreference, hlinks, advance_executionRecords hnext⟩

/-- A supplied link is one that the provider holds under the reference of the call, and none before
when it has just been created. -/
lemma suppliedLink_spec {c : ExecuteCall} {answer : ExecuteAnswer} {run : ExecutionRun}
    {link : LinkResponse} {links links' : String → Option String} {reference : String}
    {lost : Option String} (h : suppliedLink c answer = some (run, link))
    (hreference : subject c = some reference)
    (hlinks : providerLinks links reference lost answer = some links') :
    reference = run.opp.id ∧ links' reference = some link.id ∧ IsProviderStatus link := by
  cases c with
  | creating run' client attempt =>
    cases answer with
    | attempt response =>
      cases response with
      | ok accepted =>
        cases h
        cases hreference
        simp only [providerLinks] at hlinks
        split_ifs at hlinks with hfree
        cases hlinks
        exact ⟨rfl, Function.update_self .., hfree.2⟩
      | error error => simp [suppliedLink] at h
    | _ => simp [suppliedLink] at h
  | lookingUp run' client error =>
    cases answer with
    | lookup found =>
      cases found with
      | none => simp [suppliedLink] at h
      | some found =>
        cases h
        cases hreference
        simp only [providerLinks] at hlinks
        split_ifs at hlinks with hheld
        cases hlinks
        exact ⟨rfl, hheld.1, hheld.2⟩
    | _ => simp [suppliedLink] at h
  | _ => simp [suppliedLink] at h

/-- An action that spares the real links keeps them. -/
lemma HoldsRealLink.step (h : HoldsRealLink s id) (hstep : executorStep s a = some t)
    (hspares : SparesRealLink s a t) : HoldsRealLink t id := by
  obtain ⟨record, hrecord, hlink, hstatus⟩ := h
  cases a with
  | start call ks est now j =>
    simp only [executorStep] at hstep
    split at hstep <;> cases hstep
    refine ⟨record, ?_, hlink, hstatus⟩
    rw [Db.getExecutionRecordByOpportunityId, sameBooks_start.executionRecords]
    exact hrecord
  | answer call answer lost now entryId =>
    obtain ⟨c, reference, hc, hreference, hlinks, hrecords⟩ := executorStep_answer hstep
    have hlink' : t.links id = some record.razorpayPaymentLinkId :=
      providerLinks_of_some hlinks hlink
    have hkept : ∀ new : ExecutionRecord, new.opportunityId ≠ id →
        (s.db.executionRecords.put new).find? id = some record := by
      intro new hne
      rw [Table.find?_put_of_ne hne.symm]
      exact hrecord
    cases hfallback : fallback c answer with
    | some run =>
      have hne : run.opp.id ≠ id := by
        rintro rfl
        exact hspares run (by simp [fallingBack, hc, hfallback]) ⟨record, hrecord, hlink, hstatus⟩
      refine ⟨record, ?_, hlink', hstatus⟩
      rw [Db.getExecutionRecordByOpportunityId, hrecords, storedRecord, hfallback]
      exact hkept _ hne
    | none =>
      cases hsupplied : suppliedLink c answer with
      | none =>
        refine ⟨record, ?_, hlink', hstatus⟩
        rw [Db.getExecutionRecordByOpportunityId, hrecords, storedRecord, hfallback, hsupplied]
        exact hrecord
      | some supplied =>
        obtain ⟨run, link⟩ := supplied
        obtain ⟨hid, hheld, hreal⟩ := suppliedLink_spec hsupplied hreference hlinks
        have hput : t.db.executionRecords =
            s.db.executionRecords.put (providerRecord run.opp link now) := by
          rw [hrecords, storedRecord, hfallback, hsupplied]
          rfl
        by_cases hne : run.opp.id = id
        · refine ⟨providerRecord run.opp link now, ?_, ?_, providerRecord_status_ne hreal⟩
          · rw [Db.getExecutionRecordByOpportunityId, hput, ← hne]
            exact Table.find?_put_self ..
          · rw [← hne, ← hid]
            exact hheld
        · refine ⟨record, ?_, hlink', hstatus⟩
          rw [Db.getExecutionRecordByOpportunityId, hput]
          exact hkept _ hne

lemma holdsSimulatedLink_of_fallingBack {run : ExecutionRun} (hstep : executorStep s a = some t)
    (hrun : fallingBack s a = some run) : HoldsSimulatedLink t run.opp.id := by
  cases a with
  | start call ks est now j => simp [fallingBack] at hrun
  | answer call answer lost now entryId =>
    obtain ⟨c, reference, hc, -, -, hrecords⟩ := executorStep_answer hstep
    have hfallback : fallback c answer = some run := by
      simpa [fallingBack, hc] using hrun
    refine ⟨simulatedRecord run.opp now, ?_, rfl⟩
    rw [Db.getExecutionRecordByOpportunityId, hrecords, storedRecord, hfallback]
    exact Table.find?_put_self ..

lemma HoldsRealLink.not_simulated (h : HoldsRealLink s id) : ¬ HoldsSimulatedLink s id := by
  rintro ⟨record, hrecord, hsim⟩
  obtain ⟨record', hrecord', -, hstatus⟩ := h
  rw [Option.mem_def, Option.mem_def.mp hrecord, Option.some.injEq] at hrecord'
  exact hstatus (hrecord' ▸ hsim)

end Step

/-! ### Whole runs -/

lemma NeverReplaced.allSteps {s : ExecutorState} {as : List ExecutorAction}
    (h : NeverReplaced s as) : AllSteps executorStep SparesRealLink s as := by
  apply allSteps_of_forall
  intro pre a rest t u has hpre hstep run hrun hreal
  have hlater : ¬ HoldsSimulatedLink u run.opp.id :=
    h pre [a] rest t u (by simp [has]) hpre (.cons hstep (.nil u)) _ hreal
  exact hlater (holdsSimulatedLink_of_fallingBack hstep hrun)

/-- Once the real link of an opportunity is stored, no later step of any call replaces it with a
simulated one, exactly in the runs in which no call falls back while the real link is stored. -/
theorem neverReplaced_iff (s : ExecutorState) (as : List ExecutorAction) :
    NeverReplaced s as ↔ AllSteps executorStep SparesRealLink s as := by
  refine ⟨NeverReplaced.allSteps, fun hall pre mid rest t u has hpre hmid id hreal => ?_⟩
  rw [has, List.append_assoc] at hall
  have hkeep : AllSteps executorStep SparesRealLink t mid := (hall.of_append hpre).left
  have hstill : HoldsRealLink u id := hmid.invariant_of_allSteps (I := fun s => HoldsRealLink s id)
    (fun _ _ _ hI hstep hspares => hI.step hstep hspares) hkeep hreal
  exact hstill.not_simulated

/-! ### The race -/

/-- An allocated opportunity, and no call. -/
def duplicateStart : ExecutorState where
  db := (runMarketAllocation .plain .sample ⟨some 1, none, none⟩
    (Db.ofRows [sampleOpportunity "pay_1" pending] [])).2
  calls := fun _ => none
  links := fun _ => none

/-- What the provider rejects a second link with. -/
def duplicateReference : ProviderError where
  description := some "payment link with given reference_id already exists"
  message := none
  statusCode := some 400
  code := some "BAD_REQUEST_ERROR"

/-- Two calls ask for a link before either has stored one; the lookup of the second fails. -/
def duplicateActions : List ExecutorAction :=
  [.start 0 .off .sample 3000 "pay_1",
    .start 1 .off .sample 3001 "pay_1",
    .answer 0 (.client (.ok (.pool "tenant_a" .test)) false) none 3002 "led_1",
    .answer 1 (.client (.ok (.pool "tenant_a" .test)) false) none 3003 "led_2",
    .answer 0 (.attempt (.ok ⟨"plink_1", some "https://rzp.io/i/plink_1", some "created"⟩)) none 3004
      "led_3",
    .answer 1 (.attempt (.error duplicateReference)) none 3005 "led_4",
    .answer 1 (.lookup none) none 3006 "led_5"]

/-- The second call stores a simulated link over the real one. -/
theorem real_link_replaced :
    ¬ ∀ (s : ExecutorState) (as : List ExecutorAction),
      (∀ call, s.calls call = none) → (∀ reference, s.links reference = none) →
        NeverReplaced s as := by
  intro h
  have hall := (h duplicateStart duplicateActions (fun _ => rfl) (fun _ => rfl)).allSteps
  revert hall
  decide +kernel

end CtrlRecovery
