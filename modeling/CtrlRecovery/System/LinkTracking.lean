import CtrlRecovery.Execution.Idempotency
import CtrlRecovery.Reconciliation.Poller
import CtrlRecovery.System.RecoverySystem

/-!
# Writers of statuses and the links

What each writer of statuses does to the links that are kept track of. Scoring and allocations lose
none; for every other writer a condition on the rows with a link says when it loses none.
-/

namespace CtrlRecovery

open Core OpportunityStatus OpportunityRepository Scorer Market Authority AuthorityRuleRegistry
  AuthoritativeReconciler

variable {platform : Platform} {db db' : Db} {id : String}

/-! ### Status writes and the links -/

/-- A step that stores no link keeps track of the links exactly when its status writes do. -/
lemma linksTracked_iff_of_writes {ws : List (String × OpportunityStatus)}
    (hrows : SameButAttempts (db.writeStatuses ws) db')
    (hrecords : db'.executionRecords = db.executionRecords) (h : LinksTracked db) :
    LinksTracked db' ↔
      ∀ id, db.HasLink id → ∀ status ∈ db.statusOf id, IsTracked (statusAfter ws id status) := by
  have hstatus : ∀ id, db'.statusOf id = (db.statusOf id).map (statusAfter ws id) := by
    intro id
    rw [hrows.statusOf, Db.statusOf_writeStatuses]
  constructor
  · intro htracked id hlink status hstat
    have hlink' : db'.HasLink id := by rwa [Db.HasLink, storedLink_congr hrecords]
    obtain ⟨status', hstat', hgood⟩ := htracked id hlink'
    rw [hstatus, hstat, Option.map_some, Option.mem_some_iff] at hstat'
    rwa [hstat']
  · intro hwrites id hlink
    rw [Db.HasLink, storedLink_congr hrecords] at hlink
    obtain ⟨status, hstat, -⟩ := h id hlink
    refine ⟨statusAfter ws id status, ?_, hwrites id hlink status hstat⟩
    rw [hstatus, hstat]
    rfl

lemma linksTracked_of_same (hrows : SameRows db db')
    (hrecords : db'.executionRecords = db.executionRecords) (h : LinksTracked db) :
    LinksTracked db' := by
  have hnone : SameButAttempts (db.writeStatuses []) db' := hrows.sameButAttempts
  refine (linksTracked_iff_of_writes hnone hrecords h).mpr fun id hlink status hstat => ?_
  obtain ⟨status', hstat', htracked⟩ := h id hlink
  rwa [Option.mem_unique hstat hstat']

/-- One status write keeps track of the links exactly when it takes no row with a link out of flight. -/
lemma linksTracked_iff_of_write {status : OpportunityStatus}
    (hrows : SameButAttempts (db.updateStatus id status) db')
    (hrecords : db'.executionRecords = db.executionRecords) (h : LinksTracked db) :
    LinksTracked db' ↔ (leavesFlight status → db.HasLink id → db.statusOf id = some recovered) := by
  have hone : SameButAttempts (db.writeStatuses [(id, status)]) db' := hrows
  rw [linksTracked_iff_of_writes hone hrecords h]
  constructor
  · intro hwrites hleaves hlink
    obtain ⟨current, hcurrent, htracked⟩ := h id hlink
    have hnext := hwrites id hlink current hcurrent
    rw [statusAfter_cons, if_pos rfl, statusAfter_nil, isTracked_nextStatus_iff htracked] at hnext
    rcases hnext with rfl | hnot
    · exact hcurrent
    · exact absurd hleaves hnot
  · intro hrecovered j hlink current hcurrent
    obtain ⟨current', hcurrent', htracked⟩ := h j hlink
    obtain rfl := Option.mem_unique hcurrent hcurrent'
    rw [statusAfter_cons, statusAfter_nil]
    split_ifs with hid
    · have hid : id = j := hid
      subst hid
      rw [isTracked_nextStatus_iff htracked]
      by_cases hleaves : leavesFlight status
      · exact .inl (Option.mem_unique hcurrent (hrecovered hleaves hlink))
      · exact .inr hleaves
    · exact htracked

/-! ### Allocations -/

lemma not_leavesFlight_of_mem_scoringWrites {opp : RecoveryOpportunity}
    {w : String × OpportunityStatus} (h : w ∈ scoringWrites db opp) : ¬ leavesFlight w.2 := by
  rw [(mem_scoringWrites h).1]
  simp [leavesFlight]

lemma not_isAllocatable_of_isTracked {status : OpportunityStatus} (h : IsTracked status) :
    ¬ isAllocatable status := by
  revert h
  cases status <;> decide

lemma statusAfter_allocationWrites_of_isTracked {est : Estimator} {options : AllocationOptions}
    {opp : RecoveryOpportunity} (hopp : db.getOpportunityById id = some opp)
    (h : IsTracked opp.status) :
    statusAfter (allocationWrites platform est options db) id opp.status = opp.status := by
  obtain rfl : opp.id = id := Db.id_of_getOpportunityById hopp
  rw [statusAfter_allocationWrites (Table.mem_of_find? hopp)]
  refine placedStatus_of_notMem fun hmem => ?_
  exact not_isAllocatable_of_isTracked h (isAllocatable_of_mem_candidates hmem)

lemma leavesFlight_verdictStatus_iff {verdict : AuthorityVerdict} :
    leavesFlight (verdictStatus verdict) ↔ verdict ≠ .authorized := by
  cases verdict <;> decide

section Pipeline

variable {ks : KillSwitches} {est : Estimator} {options : AllocationOptions}
  {opp : RecoveryOpportunity}

lemma notMem_candidates_of_isTracked (h : IsTracked opp.status) :
    opp ∉ candidates db options.tenantId options.environment :=
  fun hmem => not_isAllocatable_of_isTracked h (isAllocatable_of_mem_candidates hmem)

lemma withStatus_placedStatus_of_isTracked (h : IsTracked opp.status) :
    opp.withStatus (placedStatus platform est options db opp) = opp := by
  rw [placedStatus_of_notMem (notMem_candidates_of_isTracked h), RecoveryOpportunity.withStatus_self]

/-- Of the tracked rows, a pipeline evaluates those of its scope that were allocated before. -/
lemma mem_evaluatedAfter_iff_of_isTracked (hopp : opp ∈ db.opportunities.rows)
    (h : IsTracked opp.status) :
    opp ∈ evaluatedAfter options (runMarketAllocation platform est options db).2 ↔
      opp ∈ scope db options ∧ opp.status = allocated := by
  have hrestatus := (allocated_runMarketAllocation platform est options db).restatus
  have hevaluated : isEvaluated opp.status ↔ opp.status = allocated := by
    revert h
    cases opp.status <;> decide
  rw [evaluatedAfter, scope, hrestatus.scope_eq, List.mem_filter, hevaluated]
  refine and_congr_left fun _ => ?_
  constructor
  · intro hmem
    obtain ⟨o, ho, heq⟩ := List.mem_map.mp hmem
    have hid : o.id = opp.id := by simpa using congrArg RecoveryOpportunity.id heq
    rwa [← eq_of_mem_rows (db.mem_getAllOpportunities.mp ho).1 hopp hid]
  · intro hmem
    exact List.mem_map.mpr ⟨opp, hmem, withStatus_placedStatus_of_isTracked h⟩

/-- The gate's answer for a tracked row is not changed by the allocation before it. -/
lemma storedAnswer_authorized_iff_of_isTracked {reason : String}
    (hopp : opp ∈ db.opportunities.rows) (h : IsTracked opp.status) :
    (storedAnswer ks est reason (runMarketAllocation platform est options db).2 opp).verdict =
        .authorized ↔ Executor.IsCleared ks est db opp := by
  have hrestatus := (allocated_runMarketAllocation platform est options db).restatus
  have hscore : effectiveScore est (runMarketAllocation platform est options db).2 opp =
      effectiveScore est db opp := by
    have hsame := hrestatus.score opp hopp
    rwa [withStatus_placedStatus_of_isTracked h] at hsame
  have hdecision : decisionType (runMarketAllocation platform est options db).2 opp =
      decisionType db opp :=
    decisionType_congr (decision_of_not_candidate hopp (notMem_candidates_of_isTracked h))
  rw [storedAnswer_verdict_iff, hscore, hdecision, Executor.IsCleared]

/-- A pipeline leaves a tracked row tracked exactly when it is recovered, is not evaluated, or is
cleared. -/
lemma isTracked_statusAfter_pipelineWrites_iff (hopp : db.getOpportunityById id = some opp)
    (h : IsTracked opp.status) :
    IsTracked (statusAfter (pipelineWrites platform ks est options db) id opp.status) ↔
      (opp ∈ scope db options → opp.status = allocated → Executor.IsCleared ks est db opp) := by
  obtain rfl : opp.id = id := Db.id_of_getOpportunityById hopp
  have hrow : opp ∈ db.opportunities.rows := Table.mem_of_find? hopp
  have hevaluated : opp ∈ evaluatedAfter options (runMarketAllocation platform est options db).2 ↔
      opp ∈ scope db options ∧ opp.status = allocated :=
    mem_evaluatedAfter_iff_of_isTracked hrow h
  rw [pipelineWrites, statusAfter_append, statusAfter_allocationWrites_of_isTracked hopp h]
  by_cases hmem : opp ∈ evaluatedAfter options (runMarketAllocation platform est options db).2
  · obtain ⟨hscope, hallocated⟩ := hevaluated.mp hmem
    have hnodup : (((evaluatedAfter options (runMarketAllocation platform est options db).2).map
        fun o => (o.id, (storedAnswer ks est "Unallocated evaluation"
          (runMarketAllocation platform est options db).2 o).suggestedStatus)).map
            Prod.fst).Nodup := by
      rw [List.map_map]
      exact nodup_evaluatedAfter
    rw [statusAfter_of_mem hnodup (List.mem_map.mpr ⟨opp, hmem, rfl⟩), isTracked_nextStatus_iff h,
      storedAnswer_suggestedStatus, leavesFlight_verdictStatus_iff, not_not,
      storedAnswer_authorized_iff_of_isTracked hrow h]
    simp [hallocated, hscope]
  · have hnot : opp.id ∉ ((evaluatedAfter options (runMarketAllocation platform est options db).2).map
        fun o => (o.id, (storedAnswer ks est "Unallocated evaluation"
          (runMarketAllocation platform est options db).2 o).suggestedStatus)).map Prod.fst := by
      rw [List.map_map]
      intro hid
      obtain ⟨o, ho, hid⟩ := List.mem_map.mp hid
      have hopp' : opp ∈ (runMarketAllocation platform est options db).2.opportunities.rows := by
        rw [rows_runMarketAllocation]
        exact List.mem_map.mpr ⟨opp, hrow, withStatus_placedStatus_of_isTracked h⟩
      have ho' := (Db.mem_getAllOpportunities _).mp (List.mem_of_mem_filter ho)
      rw [eq_of_mem_rows ho'.1 hopp' hid] at ho
      exact hmem ho
    rw [statusAfter_of_notMem hnot]
    refine iff_of_true h fun hscope hallocated => ?_
    exact absurd (hevaluated.mpr ⟨hscope, hallocated⟩) hmem

/-! ### Executions -/

/-- The start of a call leaves its row tracked exactly when the row is recovered or cleared. -/
lemma isTracked_statusAfter_startWrites_iff (hopp : db.getOpportunityById id = some opp)
    (h : IsTracked opp.status) :
    IsTracked (statusAfter (Executor.startWrites ks est db id) id opp.status) ↔
      (opp.status ≠ recovered → Executor.IsCleared ks est db opp) := by
  have hid : opp.id = id := Db.id_of_getOpportunityById hopp
  have hscoring : scoringWrites db opp = [] := by
    rw [scoringWrites, if_neg]
    rintro ⟨-, hpending⟩
    rw [hpending] at h
    exact absurd h (by decide)
  rw [Executor.startWrites, hopp]
  simp only [evaluationWrites, hscoring, List.nil_append, storedAnswer_suggestedStatus, hid]
  by_cases hclear : Executor.IsCleared ks est db opp
  · have hverdict : (storedAnswer ks est Executor.unallocatedReason db opp).verdict = .authorized :=
      storedAnswer_verdict_iff.mpr hclear
    refine iff_of_true (isTracked_statusAfter (fun w hw _ => ?_) h) fun _ => hclear
    rcases List.mem_append.mp hw with hw | hw
    · rw [List.mem_singleton.mp hw, hverdict]
      simp [leavesFlight, verdictStatus]
    · rw [List.mem_singleton.mp (List.mem_ite_nil_right.mp hw).2]
      simp [leavesFlight]
  · have hverdict : (storedAnswer ks est Executor.unallocatedReason db opp).verdict ≠ .authorized :=
      fun hverdict => hclear (storedAnswer_verdict_iff.mp hverdict)
    rw [if_neg (fun hstored => hverdict hstored.1), List.append_nil, statusAfter_cons,
      statusAfter_nil, if_pos rfl, isTracked_nextStatus_iff h, leavesFlight_verdictStatus_iff]
    simp [hverdict, hclear]

end Pipeline

lemma statusAfter_startWrites_of_ne {ks : KillSwitches} {est : Estimator} {j : String}
    {status : OpportunityStatus} (hj : j ≠ id) :
    statusAfter (Executor.startWrites ks est db id) j status = status := by
  refine statusAfter_of_notMem fun hmem => ?_
  obtain ⟨w, hw, rfl⟩ := List.mem_map.mp hmem
  exact hj (Executor.id_of_mem_startWrites hw)

/-! ### Writers -/

/-- A pipeline keeps track of the links exactly when the allocated rows of its scope that have one are
cleared. -/
lemma linksTracked_pipeline_iff {ks : KillSwitches} {est : Estimator} {now : Timestamp}
    {options : AllocationOptions} (h : LinksTracked db) :
    LinksTracked (runAuthorityPipeline platform ks est now options db).2 ↔
      ∀ opp ∈ scope db options, opp.status = allocated → db.HasLink opp.id →
        Executor.IsCleared ks est db opp := by
  rw [linksTracked_iff_of_writes sameRows_runAuthorityPipeline.sameButAttempts
    sameBooks_runAuthorityPipeline.executionRecords h]
  constructor
  · intro hwrites opp hscope hallocated hlink
    have hrow : db.getOpportunityById opp.id = some opp :=
      Table.find?_key_of_mem (db.mem_getAllOpportunities.mp hscope).1
    have htracked : IsTracked opp.status := by rw [hallocated]; decide
    have hafter := hwrites opp.id hlink opp.status (by simp [Db.statusOf, hrow])
    exact (isTracked_statusAfter_pipelineWrites_iff hrow htracked).mp hafter hscope hallocated
  · intro hcleared id hlink status hstatus
    obtain ⟨opp, hopp, rfl⟩ := Option.map_eq_some_iff.mp hstatus
    obtain rfl : opp.id = id := Db.id_of_getOpportunityById hopp
    obtain ⟨status, hstatus', htracked⟩ := h opp.id hlink
    obtain rfl := Option.mem_unique hstatus hstatus'
    exact (isTracked_statusAfter_pipelineWrites_iff hopp htracked).mpr fun hscope hallocated =>
      hcleared opp hscope hallocated hlink

lemma linksTracked_runMarketAllocation {est : Estimator} {options : AllocationOptions}
    (h : LinksTracked db) : LinksTracked (runMarketAllocation platform est options db).2 := by
  refine (linksTracked_iff_of_writes sameRows_runMarketAllocation.sameButAttempts
    sameBooks_runMarketAllocation.executionRecords h).mpr ?_
  intro id hlink status hstatus
  obtain ⟨status', hstatus', htracked⟩ := h id hlink
  obtain rfl := Option.mem_unique hstatus hstatus'
  obtain ⟨opp, hopp, rfl⟩ := Option.map_eq_some_iff.mp hstatus
  rwa [statusAfter_allocationWrites_of_isTracked hopp htracked]

lemma linksTracked_of_writes {ws : List (String × OpportunityStatus)}
    (hrows : SameRows (db.writeStatuses ws) db') (hrecords : db'.executionRecords = db.executionRecords)
    (hws : ∀ w ∈ ws, ¬ leavesFlight w.2) (h : LinksTracked db) : LinksTracked db' := by
  refine (linksTracked_iff_of_writes hrows.sameButAttempts hrecords h).mpr ?_
  intro id hlink status hstatus
  obtain ⟨status', hstatus', htracked⟩ := h id hlink
  rw [Option.mem_unique hstatus hstatus']
  exact isTracked_statusAfter (fun w hw _ => hws w hw) htracked

lemma linksTracked_getOrScore (est : Estimator) (opp : RecoveryOpportunity) (h : LinksTracked db) :
    LinksTracked (getOrScore est db opp).2 :=
  linksTracked_of_writes (sameRows_getOrScore est db opp) (getOrScore_executionRecords est db opp)
    (fun _ hw => not_leavesFlight_of_mem_scoringWrites hw) h

/-- The start of a call keeps track of the links exactly when its row has none, is recovered or is
cleared. -/
lemma linksTracked_start_iff {ks : KillSwitches} {est : Estimator} {now : Timestamp}
    (h : LinksTracked db) :
    LinksTracked (Executor.start ks est now db id).2 ↔
      ∀ opp ∈ db.getOpportunityById id, db.HasLink id → opp.status ≠ recovered →
        Executor.IsCleared ks est db opp := by
  rw [linksTracked_iff_of_writes Executor.sameRows_start.sameButAttempts
    Executor.sameBooks_start.executionRecords h]
  constructor
  · intro hwrites opp hopp hlink
    obtain ⟨status, hstatus, htracked⟩ := h id hlink
    have hstatus' : opp.status ∈ db.statusOf id := by simp [Db.statusOf, Option.mem_def.mp hopp]
    obtain rfl := Option.mem_unique hstatus hstatus'
    exact (isTracked_statusAfter_startWrites_iff hopp htracked).mp (hwrites id hlink _ hstatus')
  · intro hcleared j hlink status hstatus
    obtain ⟨status', hstatus', htracked⟩ := h j hlink
    obtain rfl := Option.mem_unique hstatus hstatus'
    by_cases hj : j = id
    · subst hj
      obtain ⟨opp, hopp, rfl⟩ := Option.map_eq_some_iff.mp hstatus
      exact (isTracked_statusAfter_startWrites_iff hopp htracked).mpr (hcleared opp hopp hlink)
    · rwa [statusAfter_startWrites_of_ne hj]

/-- Storing a record keeps track of the links exactly when its opportunity is tracked, if it brings a
link. -/
lemma linksTracked_store_iff {record : ExecutionRecord}
    (hrows : SameRows (db.updateStatus record.opportunityId executing) db')
    (hrecords : db'.executionRecords = db.executionRecords.put record) (h : LinksTracked db) :
    LinksTracked db' ↔ (record.razorpayPaymentLinkId ≠ "" →
      ∃ status ∈ db.statusOf record.opportunityId, IsTracked status) := by
  have hstatus : ∀ j, db'.statusOf j = if j = record.opportunityId then
      (db.statusOf j).map fun s => nextStatus s executing else db.statusOf j := by
    intro j
    rw [hrows.statusOf, Db.statusOf_updateStatus]
  have hlink : ∀ j, db'.HasLink j ↔ if j = record.opportunityId then
      record.razorpayPaymentLinkId ≠ "" else db.HasLink j := by
    intro j
    rw [Db.HasLink, Db.storedLink, Db.getExecutionRecordByOpportunityId, hrecords, Table.find?_put]
    split_ifs with hj
    · simp [Option.filter_some]
    · rfl
  constructor
  · intro htracked hne
    obtain ⟨status, hstat, hgood⟩ := htracked record.opportunityId ((hlink _).mpr (by simpa using hne))
    rw [hstatus, if_pos rfl] at hstat
    obtain ⟨before, hbefore, rfl⟩ := Option.map_eq_some_iff.mp hstat
    exact ⟨before, hbefore, isTracked_nextStatus_executing_iff.mp hgood⟩
  · intro hlate j hj
    rw [hlink] at hj
    rw [hstatus]
    split_ifs at hj ⊢ with heq
    · subst heq
      obtain ⟨status, hstat, hgood⟩ := hlate hj
      exact ⟨_, Option.mem_map_of_mem _ hstat, isTracked_nextStatus_executing_iff.mpr hgood⟩
    · exact h j hj

/-- A veto of the dead-letter queue keeps track of the links exactly when its opportunity has none or is
recovered. -/
lemma linksTracked_deadLetter_iff {failure : ExecutionDLQ.Failure} (h : LinksTracked db) :
    LinksTracked (ExecutionDLQ.deadLetter db failure) ↔
      (failure.isExhausted → db.HasLink failure.opportunityId →
        db.statusOf failure.opportunityId = some recovered) := by
  by_cases hveto : failure.isExhausted ∧ (db.getOpportunityById failure.opportunityId).isSome
  · have hrows : SameButAttempts (db.updateStatus failure.opportunityId blocked)
        (ExecutionDLQ.deadLetter db failure) := by
      rw [ExecutionDLQ.deadLetter, if_pos hveto]
      exact sameButAttempts_setAttemptCount _ _ _
    rw [linksTracked_iff_of_write hrows (Executor.deadLetter_executionRecords failure) h]
    simp [hveto.1, leavesFlight]
  · rw [ExecutionDLQ.deadLetter, if_neg hveto]
    refine iff_of_true h fun hexhausted hlink => ?_
    obtain ⟨status, hstatus, -⟩ := h _ hlink
    obtain ⟨opp, hopp, -⟩ := Option.map_eq_some_iff.mp hstatus
    exact absurd ⟨hexhausted, by rw [hopp, Option.isSome_some]⟩ hveto

/-! ### Commits and ingestions -/

/-- A reconciliation keeps the links. -/
lemma hasLink_reconcileCommit {plan : SettlementPlan} {ids : TransactionIds} {fault : Option ℕ}
    (j : String) : (reconcileCommit platform plan ids fault db).HasLink j ↔ db.HasLink j := by
  rw [reconcileCommit]
  cases hattempt : Transaction.attempt (statements platform plan ids) fault db with
  | none => rw [Transaction.commitOrRollback_of_none hattempt]
  | some db' =>
    rw [Transaction.commitOrRollback_of_some hattempt]
    rcases executionRecords_of_attempt hattempt with hsame | hupdate
    · rw [Db.HasLink, storedLink_congr hsame]
      rfl
    · rw [Db.HasLink, Db.HasLink, Db.storedLink, Db.storedLink,
        Db.getExecutionRecordByOpportunityId, Db.getExecutionRecordByOpportunityId, hupdate,
        Table.find?_update]
      split_ifs
      · cases db.executionRecords.find? j with
        | none        => rfl
        | some record => simp [Option.filter_some]
      · rfl

/-- A commit keeps track of the links exactly when it is rolled back, its opportunity has none, or the
status that it writes is tracked. -/
lemma linksTracked_reconcileCommit_iff {plan : SettlementPlan} {ids : TransactionIds}
    {fault : Option ℕ} (h : LinksTracked db) :
    LinksTracked (reconcileCommit platform plan ids fault db) ↔
      (commits platform plan ids fault db → db.HasLink plan.read.opp.id →
        IsTracked plan.targetOpportunityStatus) := by
  rcases reconcileCommit_spec platform plan ids fault db with ⟨hno, hback⟩ | ⟨hyes, hdone⟩
  · rw [hback]
    simp [hno, h]
  · have hstatus : ∀ j, (reconcileCommit platform plan ids fault db).statusOf j =
        if j = plan.read.opp.id then (db.statusOf j).map fun _ => plan.targetOpportunityStatus
        else db.statusOf j := by
      intro j
      rw [Db.statusOf, Db.getOpportunityById, hdone.opportunities, ← Db.getOpportunityById,
        Db.getOpportunityById_setStatus]
      split_ifs
      · simp [Db.statusOf, Function.comp_def]
      · rfl
    simp only [hyes, true_implies]
    constructor
    · intro htracked hlink
      obtain ⟨status, hstat, hgood⟩ := htracked _ ((hasLink_reconcileCommit _).mpr hlink)
      rw [hstatus, if_pos rfl] at hstat
      obtain ⟨_, -, rfl⟩ := Option.map_eq_some_iff.mp hstat
      exact hgood
    · intro htarget j hlink
      rw [hasLink_reconcileCommit] at hlink
      obtain ⟨status, hstat, hgood⟩ := h j hlink
      rw [hstatus]
      split_ifs with hj
      · subst hj
        exact ⟨_, Option.mem_map_of_mem _ hstat, htarget hlink⟩
      · exact ⟨status, hstat, hgood⟩

/-- An upsert of a pending opportunity keeps track of the links exactly when it has none. -/
lemma linksTracked_insertOpportunity_iff {opp : RecoveryOpportunity} {inserted : Db}
    (hins : db.insertOpportunity opp = some inserted) (hpending : opp.status = pending)
    (hrows : SameRows inserted db') (hrecords : db'.executionRecords = inserted.executionRecords)
    (h : LinksTracked db) : LinksTracked db' ↔ ¬ db.HasLink opp.id := by
  have hlink : ∀ j, db'.HasLink j ↔ db.HasLink j := by
    intro j
    have hbooks := (SameBooks.insertOpportunity hins).executionRecords
    rw [Db.HasLink, storedLink_congr (hrecords.trans hbooks), Db.HasLink]
  have hstatus : ∀ j, db'.statusOf j = if j = opp.id then some pending else db.statusOf j := by
    intro j
    rw [hrows.statusOf, Db.statusOf, Db.getOpportunityById_insertOpportunity hins]
    split_ifs
    · cases db.getOpportunityById opp.id with
      | none     => simp [Db.insertedRow, hpending]
      | some old => simp [Db.insertedRow, hpending]
    · rfl
  constructor
  · intro htracked hopp
    obtain ⟨status, hstat, hgood⟩ := htracked opp.id ((hlink _).mpr hopp)
    rw [hstatus, if_pos rfl, Option.mem_some_iff] at hstat
    subst hstat
    exact absurd hgood (by decide)
  · intro hopp j hj
    rw [hlink] at hj
    have hne : j ≠ opp.id := fun heq => hopp (heq ▸ hj)
    rw [hstatus, if_neg hne]
    exact h j hj

/-- An ingestion keeps track of the links exactly when it upserts over none. -/
lemma linksTracked_ingest_iff {ingestion : Ingestion} (h : LinksTracked db) :
    LinksTracked (ingest db ingestion) ↔
      ∀ opp ∈ ingested db ingestion, (db.insertOpportunity opp).isSome → ¬ db.HasLink opp.id := by
  rw [ingest]
  cases hopp : ingested db ingestion with
  | none => simpa using h
  | some opp =>
    cases hins : db.insertOpportunity opp with
    | none => simpa [hins] using h
    | some inserted =>
      simp only [Option.mem_some_iff, forall_eq', hins, Option.isSome_some, true_implies]
      have hpending : opp.status = pending := status_of_ingested hopp
      cases ingestion.auditId with
      | none         => exact linksTracked_insertOpportunity_iff hins hpending (.refl _) rfl h
      | some entryId =>
        exact linksTracked_insertOpportunity_iff hins hpending ⟨rfl, rfl, rfl, rfl⟩ rfl h

/-! ### Allocations of given opportunities -/

/-- The guard rejects `scored` over a tracked row. -/
lemma nextStatus_scored_of_isTracked {status : OpportunityStatus} (h : IsTracked status) :
    nextStatus status scored = status := by
  revert h
  cases status <;> decide

/-- Asking for a score leaves the rows with a link as they are. -/
lemma statusOf_getOrScore_of_hasLink {est : Estimator} {opp : RecoveryOpportunity}
    (h : LinksTracked db) (hlink : db.HasLink id) :
    (getOrScore est db opp).2.statusOf id = db.statusOf id := by
  obtain ⟨status, hstatus, htracked⟩ := h id hlink
  have hafter : statusAfter (scoringWrites db opp) id status = status := by
    rw [scoringWrites]
    split_ifs
    · rw [statusAfter_cons, statusAfter_nil]
      split_ifs
      · exact nextStatus_scored_of_isTracked htracked
      · rfl
    · rfl
  rw [(sameRows_getOrScore est db opp).statusOf, Db.statusOf_writeStatuses, Option.mem_def.mp hstatus,
    Option.map_some, hafter]

lemma hasLink_getOrScore {est : Estimator} {opp : RecoveryOpportunity} :
    (getOrScore est db opp).2.HasLink id ↔ db.HasLink id := by
  rw [Db.HasLink, storedLink_congr (getOrScore_executionRecords est db opp), Db.HasLink]

/-- A scoring pass keeps track of the links and leaves their rows as they are. -/
lemma linksTracked_scoreItems (est : Estimator) (opps : List RecoveryOpportunity)
    (h : LinksTracked db) :
    LinksTracked (scoreItems est db opps).2 ∧
      ∀ id, db.HasLink id → (scoreItems est db opps).2.statusOf id = db.statusOf id := by
  induction opps generalizing db with
  | nil => exact ⟨h, fun _ _ => rfl⟩
  | cons opp opps ih =>
    obtain ⟨htracked, hstatus⟩ := ih (linksTracked_getOrScore est opp h)
    refine ⟨htracked, fun id hlink => ?_⟩
    exact (hstatus id (hasLink_getOrScore.mpr hlink)).trans (statusOf_getOrScore_of_hasLink h hlink)

/-- The placements of a run keep an opportunity tracked exactly when it is settled or all of them accept
it: the accepting ones are written first. -/
lemma isTracked_statusAfter_placements_iff {capacity : ℕ} {items : List (RecoveryOpportunity × Score)}
    {status : OpportunityStatus} (hstatus : IsTracked status) :
    IsTracked (statusAfter (placementWrites (placements capacity items)) id status) ↔
      status = recovered ∨ ∀ item ∈ items, item.1.id = id →
        isEligible item ∧ item ∉ (ranking items).drop capacity := by
  have hwrites : placementWrites (placements capacity items) =
      ((ranking items).take capacity).map (fun item => (item.1.id, allocated)) ++
        (((ranking items).drop capacity).map (fun item => (item.1.id, deferred)) ++
          (items.filter (!isEligible ·)).map fun item => (item.1.id, abstained)) := by
    have hmap : placementWrites (placements capacity items) =
        ((placements capacity items).map Placement.outcome).map fun w => (w.1, w.2.2) := by
      rw [List.map_map]
      rfl
    rw [hmap, placements_outcome]
    simp only [List.map_append, List.map_map, List.append_assoc, Function.comp_def]
  have haccepted : IsTracked (statusAfter
      (((ranking items).take capacity).map fun item => (item.1.id, allocated)) id status) := by
    refine isTracked_statusAfter (fun w hw _ => ?_) hstatus
    obtain ⟨item, -, rfl⟩ := List.mem_map.mp hw
    simp [leavesFlight]
  have hsettled : statusAfter
      (((ranking items).take capacity).map fun item => (item.1.id, allocated)) id status = recovered ↔
        status = recovered := by
    refine statusAfter_eq_recovered_iff fun w hw => ?_
    obtain ⟨item, -, rfl⟩ := List.mem_map.mp hw
    simp
  rw [hwrites, statusAfter_append, isTracked_statusAfter_iff_of_leaving ?_ haccepted, hsettled]
  · refine or_congr_right ?_
    simp only [List.map_append, List.map_map, List.mem_append, List.mem_map, Function.comp_apply,
      List.mem_filter, not_or, not_exists, not_and, Bool.not_eq_true']
    constructor
    · rintro ⟨hdeferred, habstained⟩ item hitem hid
      refine ⟨?_, fun hdrop => hdeferred item hdrop hid⟩
      by_contra heligible
      exact habstained item ⟨hitem, by simpa using heligible⟩ hid
    · intro h
      refine ⟨fun item hitem hid => ?_, fun item hitem hid => ?_⟩
      · have hmem : item ∈ items :=
          List.mem_of_mem_filter (mem_rank.mp (List.mem_of_mem_drop hitem))
        exact (h item hmem hid).2 hitem
      · have heligible := (h item hitem.1 hid).1
        rw [hitem.2] at heligible
        cases heligible
  · intro w hw
    rcases List.mem_append.mp hw with hw | hw <;> obtain ⟨item, -, rfl⟩ := List.mem_map.mp hw <;> rfl

/-- An allocation of given opportunities keeps track of the links exactly when it accepts those of its
opportunities that have one, unless they are recovered. -/
lemma linksTracked_allocateAmong_iff {est : Estimator} {capacity : ℕ}
    {opps : List RecoveryOpportunity} (h : LinksTracked db) :
    LinksTracked (allocateAmong est capacity opps db).2 ↔
      ∀ item ∈ (scoreItems est db opps).1, db.HasLink item.1.id →
        db.statusOf item.1.id ≠ some recovered →
          isEligible item ∧ item ∉ (ranking (scoreItems est db opps).1).drop capacity := by
  obtain ⟨htracked, hstatus⟩ := linksTracked_scoreItems est opps h
  have hrecords := (sameBooks_scoreItems est db opps).executionRecords
  have hplaced := (sameBooks_foldl_place (scoreItems est db opps).2
    (placements capacity (scoreItems est db opps).1)).executionRecords
  have hlink : ∀ id, (scoreItems est db opps).2.HasLink id ↔ db.HasLink id := by
    intro id
    rw [Db.HasLink, storedLink_congr hrecords, Db.HasLink]
  have hwrites := linksTracked_iff_of_writes (sameRows_foldl_place (scoreItems est db opps).2
    (placements capacity (scoreItems est db opps).1)).sameButAttempts hplaced htracked
  rw [allocateAmong]
  refine hwrites.trans ⟨fun hall item hitem hid hopen => ?_, fun hall id hid status hstored => ?_⟩
  · obtain ⟨status, hstored, hflight⟩ := h item.1.id hid
    have hkept := hall item.1.id ((hlink _).mpr hid) status ((hstatus _ hid).symm ▸ hstored)
    rcases (isTracked_statusAfter_placements_iff hflight).mp hkept with rfl | haccepted
    · exact absurd hstored hopen
    · exact haccepted item hitem rfl
  · have hid' := (hlink id).mp hid
    rw [hstatus id hid'] at hstored
    obtain ⟨status', hstored', hflight⟩ := h id hid'
    obtain rfl : status' = status := Option.some.inj (hstored'.symm.trans hstored)
    rw [isTracked_statusAfter_placements_iff hflight, or_iff_not_imp_left]
    rintro hopen item hitem rfl
    exact hall item hitem hid' fun hrec => hopen (Option.some.inj (hstored'.symm.trans hrec))

/-! ### Evaluations -/

/-- Whether the gate lets an opportunity through with the decision and the score that it is passed. -/
def ClearedWith (ks : KillSwitches) (est : Estimator) (db : Db) (opp : RecoveryOpportunity)
    (decision : Option AllocationDecision) (score : Option Score) : Prop :=
  Cleared ks opp (score.getD (effectiveScore est db opp)).confidence
    (((decision <|> db.getAllocationDecisionByOpportunityId opp.id).map (·.decision)).getD .wait)

section Evaluate

variable {ks : KillSwitches} {est : Estimator} {now : Timestamp} {opp : RecoveryOpportunity}
  {decision : Option AllocationDecision} {score : Option Score}

/-- An evaluation stores the checks of its answer and writes the status of its verdict. -/
lemma evaluateOpportunity_verdict (ks : KillSwitches) (est : Estimator) (now : Timestamp) (db : Db)
    (opp : RecoveryOpportunity) (decision : Option AllocationDecision) (score : Option Score) :
    ∃ asked, (asked = db ∨ asked = (getOrScore est db opp).2) ∧
      (evaluateOpportunity ks est now db opp decision score).2 =
        (persistChecks asked opp.id
          (evaluateOpportunity ks est now db opp decision score).1.checks now).updateStatus opp.id
            (verdictStatus (evaluateOpportunity ks est now db opp decision score).1.verdict) := by
  have hstatus : ∀ sc d, (evaluateRules ks opp sc d).suggestedStatus =
      verdictStatus (evaluateRules ks opp sc d).verdict := fun _ _ => suggestedStatus_coreRules
  simp only [evaluateOpportunity]
  cases score with
  | some score =>
    refine ⟨db, .inl rfl, ?_⟩
    dsimp only
    rw [hstatus]
  | none =>
    refine ⟨(getOrScore est db opp).2, .inr rfl, ?_⟩
    dsimp only
    rw [hstatus]

lemma evaluateOpportunity_verdict_iff (now : Timestamp) :
    (evaluateOpportunity ks est now db opp decision score).1.verdict = .authorized ↔
      ClearedWith ks est db opp decision score := by
  have hdecision : ∀ d : Option AllocationDecision,
      (d.getD (unallocated opp.id "Unallocated opportunity pending market allocation run")).decision =
        (d.map (·.decision)).getD .wait := by
    intro d
    cases d <;> rfl
  simp only [evaluateOpportunity, evaluateRules, verdict_coreRules_iff, ClearedWith]
  cases score with
  | some score => simp only [hdecision, Option.getD_some]
  | none =>
    rw [hdecision, getOrScore_fst, Db.getAllocationDecisionByOpportunityId,
      getOrScore_allocationDecisions]
    rfl

/-- Storing checks leaves the rows that are there. -/
lemma getOpportunityById_persistChecks {checks : List AuthorityCheck} {j : String}
    {o : RecoveryOpportunity} (hrow : db.getOpportunityById j = some o) :
    (persistChecks db id checks now).getOpportunityById j = some o := by
  have hclear : (db.clearAuthorityChecksForOpportunity id).getOpportunityById j = some o := hrow
  rw [persistChecks]
  generalize db.clearAuthorityChecksForOpportunity id = cleared at hclear
  induction checks generalizing cleared with
  | nil => exact hclear
  | cons check checks ih =>
    apply ih
    have hensure : (cleared.ensureOpportunity check.opportunityId now).getOpportunityById j =
        some o := by
      rw [Db.getOpportunityById_ensureOpportunity, if_neg, hclear]
      rintro ⟨rfl, -, hnone⟩
      rw [hclear] at hnone
      cases hnone
    exact hensure

lemma hasLink_persistChecks {checks : List AuthorityCheck} {j : String} :
    (persistChecks db id checks now).HasLink j ↔ db.HasLink j := by
  rw [Db.HasLink, storedLink_congr (sameBooks_persistChecks checks id).executionRecords, Db.HasLink]

lemma statusOf_persistChecks_of_hasLink {checks : List AuthorityCheck} {j : String}
    (h : LinksTracked db) (hlink : db.HasLink j) :
    (persistChecks db id checks now).statusOf j = db.statusOf j := by
  obtain ⟨status, hstatus, -⟩ := h j hlink
  obtain ⟨o, ho, -⟩ := Option.map_eq_some_iff.mp hstatus
  rw [Db.statusOf, Db.statusOf, getOpportunityById_persistChecks ho, ho]

/-- An evaluation keeps track of the links exactly when its opportunity has none, is recovered or gets
authorized. -/
lemma linksTracked_evaluateOpportunity_iff (h : LinksTracked db) :
    LinksTracked (evaluateOpportunity ks est now db opp decision score).2 ↔
      (db.HasLink opp.id → db.statusOf opp.id ≠ some recovered →
        ClearedWith ks est db opp decision score) := by
  rw [← evaluateOpportunity_verdict_iff now]
  obtain ⟨asked, hasked, hdb⟩ := evaluateOpportunity_verdict ks est now db opp decision score
  have hscored : LinksTracked asked ∧ (∀ j, asked.HasLink j ↔ db.HasLink j) ∧
      ∀ j, db.HasLink j → asked.statusOf j = db.statusOf j := by
    rcases hasked with rfl | rfl
    · exact ⟨h, fun _ => .rfl, fun _ _ => rfl⟩
    · exact ⟨linksTracked_getOrScore est opp h, fun _ => hasLink_getOrScore, fun _ hlink =>
        statusOf_getOrScore_of_hasLink h hlink⟩
  obtain ⟨htracked, hlink, hstatus⟩ := hscored
  generalize evaluateOpportunity ks est now db opp decision score = evaluated at hdb ⊢
  have hpersisted : LinksTracked (persistChecks asked opp.id evaluated.1.checks now) := by
    intro j hj
    rw [hasLink_persistChecks] at hj
    rw [statusOf_persistChecks_of_hasLink htracked hj]
    exact htracked j hj
  have hrecords : evaluated.2.executionRecords =
      (persistChecks asked opp.id evaluated.1.checks now).executionRecords := by
    rw [hdb, Db.updateStatus_executionRecords]
  have hrows : SameButAttempts ((persistChecks asked opp.id evaluated.1.checks now).updateStatus opp.id
      (verdictStatus evaluated.1.verdict)) evaluated.2 := by
    rw [hdb]
    exact (SameRows.refl _).sameButAttempts
  rw [linksTracked_iff_of_write hrows hrecords hpersisted, leavesFlight_verdictStatus_iff,
    hasLink_persistChecks, hlink]
  constructor
  · intro hleaves hopp hnot
    by_contra hverdict
    have hrec := hleaves hverdict hopp
    rw [statusOf_persistChecks_of_hasLink htracked ((hlink _).mpr hopp), hstatus _ hopp] at hrec
    exact hnot hrec
  · intro hcleared hverdict hopp
    rw [statusOf_persistChecks_of_hasLink htracked ((hlink _).mpr hopp), hstatus _ hopp]
    by_contra hnot
    exact hverdict (hcleared hopp hnot)

end Evaluate

end CtrlRecovery
