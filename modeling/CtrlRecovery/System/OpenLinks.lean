import CtrlRecovery.Domain.StatusWriters
import CtrlRecovery.Execution.StoredLinks
import CtrlRecovery.System.LinkTracking

/-!
# Open payment links

The poller knows an open link by the status of its opportunity, and the writers of the statuses do not
look at the links. An allocation never touches an opportunity in flight, but the gate, a mission, the
dead-letter queue and a delivery that comes again can take it out of flight with its link still open, and
a link can be stored for an opportunity that has been taken out of flight meanwhile. Every open link is
polled in exactly the runs in which none of this happens (`linksPolled_iff_keepsTracked`).
-/

namespace CtrlRecovery

open Core OpportunityStatus OpportunityRepository Scorer Market Authority AuthorityRuleRegistry
  AuthoritativeReconciler

variable {platform : Platform} {s t : EngineState} {a : SystemAction} {db db' : Db} {id : String}

/-! ### One step -/

/-- The record that an answer to a call stores. -/
def storing (s : EngineState) (call : ℕ) (answer : ExecuteAnswer) (now : Timestamp) :
    Option ExecutionRecord :=
  (s.executions call).bind fun execution => Executor.storedRecord execution.call answer now

/-- A step that keeps track of the links. -/
def KeepsTracked (platform : Platform) (s : EngineState) (a : SystemAction) (_ : EngineState) :
    Prop :=
  match a with
  | .ingest ingestion =>
    -- an upsert makes its row pending, whatever is stored about it
    ∀ opp ∈ ingested s.db ingestion, (s.db.insertOpportunity opp).isSome → ¬ s.db.HasLink opp.id
  | .engine (.pipeline est _ options) =>
    ∀ opp ∈ scope s.db options, opp.status = allocated → s.db.HasLink opp.id →
      Executor.IsCleared s.killSwitches est s.db opp
  | .engine (.execute _ est _ id _) =>
    ∀ opp ∈ s.db.getOpportunityById id, s.db.HasLink id → opp.status ≠ recovered →
      Executor.IsCleared s.killSwitches est s.db opp
  | .engine (.answer call answer now _) =>
    -- a link that comes late is stored although the guard rejects the status
    (∀ record ∈ storing s call answer now, record.razorpayPaymentLinkId ≠ "" →
      ∃ status ∈ s.db.statusOf record.opportunityId, IsTracked status) ∧
    ∀ failure ∈ deadLettering s call, s.db.HasLink failure.opportunityId →
      s.db.statusOf failure.opportunityId = some recovered
  | .engine (.reconcile (.commit call ids fault _)) =>
    ∀ plan, s.calls call = some (.committing plan) → commits platform plan ids fault s.db →
      s.db.HasLink plan.read.opp.id → IsTracked plan.targetOpportunityStatus
  | .allocateOn est options opportunities =>
    -- who is not eligible is abstained from, and who is ranked beyond the capacity is deferred
    let items := (scoreItems est s.db (opportunities.filter fun o => isAllocatable o.status)).1
    ∀ item ∈ items, s.db.HasLink item.1.id → s.db.statusOf item.1.id ≠ some recovered →
      isEligible item ∧ item ∉ (ranking items).drop (resolveCapacity platform s.db options)
  | .evaluate est _ opp decision score =>
    s.db.HasLink opp.id → s.db.statusOf opp.id ≠ some recovered →
      ClearedWith s.killSwitches est s.db opp decision score
  | .decline id _ => s.db.HasLink id → s.db.statusOf id = some recovered
  | _ => True

/-- An answer to a call keeps track of the links exactly when neither the link that it stores nor the
veto of the dead-letter queue loses one. -/
lemma linksTracked_answer_iff {call : ℕ} {answer : ExecuteAnswer} {now : Timestamp} {entryId : String}
    {execution : Execution} (hcall : s.executions call = some execution) {p : ExecuteCall × Db}
    (hp : Executor.advance answer now entryId s.db execution.call = some p) (h : LinksTracked s.db) :
    LinksTracked p.2 ↔
      (∀ record ∈ storing s call answer now, record.razorpayPaymentLinkId ≠ "" →
        ∃ status ∈ s.db.statusOf record.opportunityId, IsTracked status) ∧
      ∀ failure ∈ deadLettering s call, s.db.HasLink failure.opportunityId →
        s.db.statusOf failure.opportunityId = some recovered := by
  obtain ⟨c, replayed⟩ := execution
  have hstoring : storing s call answer now = Executor.storedRecord c answer now := by
    rw [storing, hcall, Option.bind_some]
  rw [hstoring]
  by_cases hcounted : ∃ failure, c = .counted failure
  · obtain ⟨failure, rfl⟩ := hcounted
    cases answer with
    | database =>
      cases hp
      have hdead : deadLettering s call = if failure.isExhausted then some failure else none := by
        rw [deadLettering, hcall]
      rw [linksTracked_deadLetter_iff h, hdead]
      simp [Executor.storedRecord, Executor.fallback, Executor.suppliedLink]
    | _ => simp [Executor.advance] at hp
  · have hrows := Executor.sameRows_advance hp fun failure heq => hcounted ⟨failure, heq⟩
    have hrecords := Executor.advance_executionRecords hp
    have hdead : deadLettering s call = none := by
      rw [deadLettering, hcall]
      cases c <;> simp_all
    rw [hdead]
    cases hstored : Executor.storedRecord c answer now with
    | none =>
      rw [hstored] at hrows hrecords
      simpa using linksTracked_of_same hrows hrecords h
    | some record =>
      rw [hstored] at hrows hrecords
      simpa using linksTracked_store_iff hrows hrecords h

lemma executionRecords_settleReplay {now : Timestamp} (result : Except String SingleExecutionResult) :
    (ExecutionDLQ.settleReplay db id now result).2.executionRecords = db.executionRecords := by
  cases result with
  | error message => rfl
  | ok result =>
    rw [ExecutionDLQ.settleReplay]
    split_ifs <;> rfl

/-- A step of the engine keeps track of the links exactly when it satisfies its condition. -/
lemma linksTracked_engineStep_iff {action : EngineAction} (h : engineStep platform s action = some t)
    (hI : LinksTracked s.db) : LinksTracked t.db ↔ KeepsTracked platform s (.engine action) t := by
  cases action with
  | score est id =>
    obtain ⟨opp, hopp, rfl⟩ := engineStep_score h
    refine iff_of_true (linksTracked_of_writes (sameRows_scoreOpportunity est s.db opp)
      (sameBooks_scoreOpportunity est s.db opp).executionRecords ?_ hI) trivial
    intro w hw
    rw [List.mem_singleton.mp (List.mem_ite_nil_right.mp hw).2]
    simp [leavesFlight]
  | allocate est options =>
    rw [(engineStep_allocate h).1]
    exact iff_of_true (linksTracked_runMarketAllocation hI) trivial
  | pipeline est now options =>
    rw [(engineStep_pipeline h).1]
    exact linksTracked_pipeline_iff hI
  | execute call est now id replay =>
    rw [(engineStep_execute h).1]
    exact linksTracked_start_iff hI
  | answer call answer now entryId =>
    obtain ⟨execution, p, hcall, hp, rfl⟩ := engineStep_answer h
    exact linksTracked_answer_iff hcall hp hI
  | settle call now =>
    obtain ⟨id, result, -, rfl⟩ := engineStep_settle h
    exact iff_of_true (linksTracked_of_same (sameRows_settleReplay s.db id now result)
      (executionRecords_settleReplay result) hI) trivial
  | reconcile action =>
    obtain ⟨r, hr, rfl⟩ := Option.map_eq_some_iff.mp h
    cases action with
    | start call id override now =>
      simp only [reconcileStep] at hr
      split at hr
      · exact iff_of_true (by rwa [← Option.some.inj hr]) trivial
      · cases hr
    | fetched call client response =>
      simp only [reconcileStep] at hr
      split at hr
      · split_ifs at hr
        exact iff_of_true (by rwa [← Option.some.inj hr]) trivial
      · cases hr
    | commit call ids fault message =>
      simp only [reconcileStep] at hr
      split at hr
      next plan hcall =>
        cases hr
        simp only [KeepsTracked, hcall, Option.some.injEq, ReconcileCall.committing.injEq,
          forall_eq']
        exact linksTracked_reconcileCommit_iff hI
      next => cases hr
  | setKillSwitches killSwitches =>
    cases h
    exact iff_of_true hI trivial

/-- A step keeps track of the links exactly when it satisfies its condition. -/
theorem linksTracked_step_iff (h : systemStep platform s a = some t) (hI : LinksTracked s.db) :
    LinksTracked t.db ↔ KeepsTracked platform s a t := by
  cases a with
  | engine action => exact linksTracked_engineStep_iff h hI
  | ingest ingestion =>
    cases h
    exact linksTracked_ingest_iff hI
  | allocateOn est options opportunities =>
    rw [systemStep_allocateOn h]
    exact linksTracked_allocateAmong_iff hI
  | evaluate est now opp decision score =>
    rw [(systemStep_evaluate h).1]
    exact linksTracked_evaluateOpportunity_iff hI
  | decline id verdict =>
    cases h
    have hleaves : leavesFlight (declinedStatus verdict) := by
      rw [declinedStatus]
      split_ifs <;> rfl
    have hwrite := linksTracked_iff_of_write (SameRows.refl (s.db.updateStatus id
      (declinedStatus verdict))).sameButAttempts Db.updateStatus_executionRecords hI
    exact hwrite.trans ⟨fun hrec => hrec hleaves, fun hrec _ => hrec⟩
  | upsertScore score =>
    rw [systemStep_upsertScore h]
    exact iff_of_true (linksTracked_of_same ⟨rfl, rfl, rfl, rfl⟩ rfl hI) trivial
  | upsertAllocationDecision decision =>
    rw [systemStep_upsertAllocationDecision h]
    exact iff_of_true (linksTracked_of_same ⟨rfl, rfl, rfl, rfl⟩ rfl hI) trivial

/-! ### Stored opportunities -/

/-- The record that a step stores. -/
def recorded (s : EngineState) : SystemAction → Option ExecutionRecord
  | .engine (.answer call answer now _) => storing s call answer now
  | _ => none

lemma executionRecords_ingest {ingestion : Ingestion} :
    (ingest db ingestion).executionRecords = db.executionRecords := by
  rw [ingest]
  cases ingested db ingestion with
  | none => rfl
  | some opp =>
    dsimp only
    cases hins : db.insertOpportunity opp with
    | none => rfl
    | some inserted =>
      have hbooks := (SameBooks.insertOpportunity hins).executionRecords
      cases ingestion.auditId <;> exact hbooks

/-- The execution records after a step that commits no reconciliation. -/
lemma executionRecords_step (h : systemStep platform s a = some t)
    (hcommit : committingPlan s a = none) :
    t.db.executionRecords = Executor.recordsAfter s.db (recorded s a) := by
  cases a with
  | engine action =>
    change engineStep platform s action = some t at h
    cases action with
    | score est id =>
      obtain ⟨opp, -, rfl⟩ := engineStep_score h
      exact (sameBooks_scoreOpportunity est s.db opp).executionRecords
    | allocate est options =>
      rw [(engineStep_allocate h).1]
      exact sameBooks_runMarketAllocation.executionRecords
    | pipeline est now options =>
      rw [(engineStep_pipeline h).1]
      exact sameBooks_runAuthorityPipeline.executionRecords
    | execute call est now id replay =>
      rw [(engineStep_execute h).1]
      exact Executor.sameBooks_start.executionRecords
    | answer call answer now entryId =>
      obtain ⟨execution, p, hcall, hp, rfl⟩ := engineStep_answer h
      rw [recorded, storing, hcall, Option.bind_some]
      exact Executor.advance_executionRecords hp
    | settle call now =>
      obtain ⟨id, result, -, rfl⟩ := engineStep_settle h
      exact executionRecords_settleReplay result
    | reconcile action =>
      obtain ⟨r, hr, rfl⟩ := engineStep_reconcile h
      rcases reconcileStep_db hr with hdb | ⟨plan, ids, fault, hplan, -⟩
      · exact congrArg Db.executionRecords hdb
      · rw [committingPlan, committing, hplan] at hcommit
        cases hcommit
    | setKillSwitches killSwitches =>
      cases h
      rfl
  | ingest ingestion =>
    cases h
    exact executionRecords_ingest
  | allocateOn est options opportunities =>
    rw [systemStep_allocateOn h]
    exact (sameBooks_allocateAmong est _ _ s.db).executionRecords
  | evaluate est now opp decision score =>
    rw [(systemStep_evaluate h).1]
    exact sameBooks_evaluateOpportunity.executionRecords
  | decline id verdict =>
    cases h
    exact Db.updateStatus_executionRecords
  | upsertScore score =>
    rw [systemStep_upsertScore h]
    rfl
  | upsertAllocationDecision decision =>
    rw [systemStep_upsertAllocationDecision h]
    rfl

/-- A step leaves a link where there was one, or a call stores it. -/
lemma hasLink_of_step (h : systemStep platform s a = some t) (hlink : t.db.HasLink id) :
    s.db.HasLink id ∨ ∃ record ∈ recorded s a, record.opportunityId = id := by
  cases hcommit : committingPlan s a with
  | some plan =>
    obtain ⟨ids, fault, hdb⟩ := systemStep_commit h hcommit
    rw [hdb, hasLink_reconcileCommit] at hlink
    exact .inl hlink
  | none =>
    have hrecords := executionRecords_step h hcommit
    cases hrecorded : recorded s a with
    | none =>
      rw [hrecorded] at hrecords
      rw [Db.HasLink, storedLink_congr hrecords] at hlink
      exact .inl hlink
    | some record =>
      by_cases hid : id = record.opportunityId
      · exact .inr ⟨record, rfl, hid.symm⟩
      · rw [hrecorded, Executor.recordsAfter] at hrecords
        rw [Db.HasLink, Db.storedLink, Db.getExecutionRecordByOpportunityId, hrecords,
          Table.find?_put, if_neg hid] at hlink
        exact .inl hlink

lemma isSome_getOpportunityById_insertOpportunity {opp : RecoveryOpportunity}
    (hins : db.insertOpportunity opp = some db') (hrow : (db.getOpportunityById id).isSome) :
    (db'.getOpportunityById id).isSome := by
  rw [Db.getOpportunityById_insertOpportunity hins]
  split_ifs
  · rfl
  · exact hrow

lemma RowWrites.isSome_getOpportunityById (h : RowWrites db db')
    (hrow : (db.getOpportunityById id).isSome) : (db'.getOpportunityById id).isSome := by
  induction h with
  | refl => exact hrow
  | tail _ hwrite ih =>
    cases hwrite with
    | status j hne =>
      rw [Executor.isSome_getOpportunityById_updateStatus]
      exact ih
    | attempts hsame =>
      obtain ⟨n, hn⟩ := hsame.getOpportunityById
      rw [hn, Option.isSome_map]
      exact ih
    | placeholder hnone hins => exact isSome_getOpportunityById_insertOpportunity hins ih

lemma isSome_getOpportunityById_ingest {ingestion : Ingestion}
    (hrow : (db.getOpportunityById id).isSome) :
    ((ingest db ingestion).getOpportunityById id).isSome := by
  rw [ingest]
  cases ingested db ingestion with
  | none => exact hrow
  | some opp =>
    dsimp only
    cases hins : db.insertOpportunity opp with
    | none => exact hrow
    | some inserted =>
      have hrow' := isSome_getOpportunityById_insertOpportunity hins hrow
      cases ingestion.auditId <;> exact hrow'

lemma isSome_getOpportunityById_step (h : systemStep platform s a = some t)
    (hrow : (s.db.getOpportunityById id).isSome) : (t.db.getOpportunityById id).isSome := by
  cases hcommit : committingPlan s a with
  | some plan =>
    obtain ⟨ids, fault, hdb⟩ := systemStep_commit h hcommit
    rwa [hdb, isSome_getOpportunityById_reconcileCommit]
  | none =>
    by_cases hingest : ∃ ingestion, a = .ingest ingestion
    · obtain ⟨ingestion, rfl⟩ := hingest
      cases h
      exact isSome_getOpportunityById_ingest hrow
    · exact (systemStep_rowWrites h hcommit fun ingestion heq =>
        hingest ⟨ingestion, heq⟩).isSome_getOpportunityById hrow

/-- The opportunities that the calls may store links for. -/
def Linking (s : EngineState) (id : String) : Prop :=
  ∃ call, ∃ execution ∈ s.executions call, Executor.linking execution.call = some id

lemma linking_of_recorded {record : ExecutionRecord} (h : recorded s a = some record) :
    Linking s record.opportunityId := by
  cases a with
  | engine action =>
    cases action with
    | answer call answer now entryId =>
      obtain ⟨execution, hcall, hrecord⟩ := Option.bind_eq_some_iff.mp h
      exact ⟨call, execution, hcall, Executor.linking_of_storedRecord hrecord⟩
    | _ => cases h
  | _ => cases h

lemma linking_update {call : ℕ} {next : Option Execution}
    (hexecutions : t.executions = Function.update s.executions call next) (h : Linking t id) :
    Linking s id ∨ (next.bind fun execution => Executor.linking execution.call) = some id := by
  obtain ⟨j, execution, hj, hlink⟩ := h
  rw [hexecutions, Option.mem_def] at hj
  by_cases hcall : j = call
  · rw [hcall, Function.update_self] at hj
    exact .inr (by rw [hj, Option.bind_some, hlink])
  · rw [Function.update_of_ne hcall] at hj
    exact .inl ⟨j, execution, hj, hlink⟩

lemma linking_settleReplay {now : Timestamp} {result : Except String SingleExecutionResult} :
    ((ExecutionDLQ.settleReplay db id now result).1.bind fun execution =>
      Executor.linking execution.call) = none := by
  cases result with
  | error message => rfl
  | ok result =>
    rw [ExecutionDLQ.settleReplay]
    split_ifs <;> rfl

/-- A call that may store a link did so before the step, or is about a row. -/
lemma linking_of_step (h : systemStep platform s a = some t) (hlinking : Linking t id) :
    Linking s id ∨ (s.db.getOpportunityById id).isSome := by
  have hsame : t.executions = s.executions → Linking s id := by
    intro hexecutions
    rwa [Linking, hexecutions] at hlinking
  cases a with
  | engine action =>
    change engineStep platform s action = some t at h
    cases action with
    | execute call est now j replay =>
      rcases linking_update (engineStep_execute h).2.2 hlinking with hbefore | hstarted
      · exact .inl hbefore
      · exact .inr (Executor.linking_start hstarted)
    | answer call answer now entryId =>
      obtain ⟨execution, p, hcall, hp, rfl⟩ := engineStep_answer h
      rcases linking_update rfl hlinking with hbefore | hnext
      · exact .inl hbefore
      · exact .inl ⟨call, execution, hcall, Executor.linking_of_advance hp hnext⟩
    | settle call now =>
      obtain ⟨j, result, hcall, rfl⟩ := engineStep_settle h
      rcases linking_update rfl hlinking with hbefore | hsettled
      · exact .inl hbefore
      · rw [linking_settleReplay] at hsettled
        cases hsettled
    | reconcile action =>
      obtain ⟨r, -, rfl⟩ := engineStep_reconcile h
      exact .inl (hsame rfl)
    | score est j =>
      obtain ⟨opp, -, rfl⟩ := engineStep_score h
      exact .inl (hsame rfl)
    | allocate est options => exact .inl (hsame (engineStep_allocate h).2.2)
    | pipeline est now options => exact .inl (hsame (engineStep_pipeline h).2.2)
    | setKillSwitches killSwitches =>
      cases h
      exact .inl (hsame rfl)
  | ingest ingestion =>
    cases h
    exact .inl (hsame rfl)
  | allocateOn est options opportunities => exact .inl (hsame (by rw [systemStep_allocateOn h]))
  | evaluate est now opp decision score => exact .inl (hsame (systemStep_evaluate h).2.2)
  | upsertScore score => exact .inl (hsame (by rw [systemStep_upsertScore h]))
  | upsertAllocationDecision decision =>
    exact .inl (hsame (by rw [systemStep_upsertAllocationDecision h]))
  | _ =>
    cases h
    exact .inl (hsame rfl)

/-- The opportunities that have a link, or may get one from a call, are stored. -/
structure Rowed (s : EngineState) : Prop where
  links : ∀ id, s.db.HasLink id → (s.db.getOpportunityById id).isSome
  calls : ∀ id, Linking s id → (s.db.getOpportunityById id).isSome

namespace Rowed

lemma idle (tenants : Table Tenant.id) : Rowed (.idle (.ofTenants tenants)) where
  links _ hlink := absurd hlink Bool.false_ne_true
  calls _ hlinking := by
    obtain ⟨call, execution, hnone, -⟩ := hlinking
    cases hnone

lemma step (hI : Rowed s) (h : systemStep platform s a = some t) : Rowed t where
  links id hlink := by
    apply isSome_getOpportunityById_step h
    rcases hasLink_of_step h hlink with hbefore | ⟨record, hrecord, rfl⟩
    · exact hI.links id hbefore
    · exact hI.calls _ (linking_of_recorded hrecord)
  calls id hlinking := by
    apply isSome_getOpportunityById_step h
    exact (linking_of_step h hlinking).elim (hI.calls id) fun hrow => hrow

end Rowed

/-! ### Runs -/

/-- From the start, every open link is polled in every state of a run exactly when every step of it
keeps track of the links. -/
theorem linksPolled_iff_keepsTracked (tenants : Table Tenant.id) (as : List SystemAction) :
    (∀ pre rest t, as = pre ++ rest → Run (systemStep platform) (.idle (.ofTenants tenants)) pre t →
      LinksPolled t.db) ↔
      AllSteps (systemStep platform) (KeepsTracked platform) (.idle (.ofTenants tenants)) as := by
  have h₀ : LinksTracked (EngineState.idle (.ofTenants tenants)).db :=
    fun _ hlink => absurd hlink Bool.false_ne_true
  have hruns : (∀ pre rest t, as = pre ++ rest →
      Run (systemStep platform) (.idle (.ofTenants tenants)) pre t → LinksTracked t.db) ↔
        LinksTracked (EngineState.idle (.ofTenants tenants)).db ∧
          AllSteps (systemStep platform) (KeepsTracked platform) (.idle (.ofTenants tenants)) as :=
    always_iff_allSteps (I := fun s => LinksTracked s.db) fun s a t hI hstep =>
      linksTracked_step_iff hstep hI
  rw [and_iff_right h₀] at hruns
  rw [← hruns]
  refine forall_congr' fun pre => forall_congr' fun rest => forall_congr' fun t => ?_
  refine imp_congr_right fun has => imp_congr_right fun hrun => ?_
  have hrowed : Rowed t := hrun.invariant (fun s a t hI hstep => hI.step hstep) (.idle tenants)
  rw [linksTracked_iff, and_iff_left hrowed.links]

/-! ### A link that is forgotten -/

/-- A payment gets its link and fails once more, with the link still open. -/
def failAgain : List SystemAction :=
  [.ingest (.queued "tenant_a" (failedEvent "evt_1" "pay_1") 0 1000 "led_1"),
    .engine (.allocate .sample ⟨some 1, none, none⟩),
    .engine (.execute 0 .sample 2000 "pay_1" false),
    .engine (.answer 0 (.client (.ok .rzpClient) false) 2000 "led_2"),
    .engine (.answer 0 (.attempt (.ok ⟨"plink_1", none, none⟩)) 2000 "led_3"),
    .ingest (.queued "tenant_a" (failedEvent "evt_2" "pay_1") 1 3000 "led_4")]

/-- The second failure makes the payment pending, and the poller passes over its link. -/
theorem link_forgotten :
    ¬ ∀ (platform : Platform) (tenants : Table Tenant.id) (as : List SystemAction) (t : EngineState),
      Run (systemStep platform) (.idle (.ofTenants tenants)) as t → LinksPolled t.db := by
  intro h
  obtain ⟨t, hrun, hpending⟩ := exists_run_of_execute (systemStep .plain) (.idle (.ofTenants .empty))
    failAgain (fun t => t.db.opportunities.rows.any fun opp =>
      decide (t.db.HasLink opp.id) && opp.status == pending) (by decide +kernel)
  obtain ⟨opp, hopp, hlink⟩ := List.any_eq_true.mp hpending
  simp only [Bool.and_eq_true, decide_eq_true_eq, beq_iff_eq] at hlink
  obtain ⟨record, hpolled⟩ := h .plain .empty failAgain t hrun opp hopp hlink.1
    (by simp [hlink.2]) (by simp [hlink.2])
  obtain ⟨-, -, hflight, -⟩ := mem_polled.mp hpolled
  rw [hlink.2] at hflight
  cases hflight

end CtrlRecovery
