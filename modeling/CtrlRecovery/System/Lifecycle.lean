import CtrlRecovery.System.Engine

/-!
# The engine and the declared lifecycle

The guard of `updateStatus` is not the declared graph, and the reconciler has no guard. A run of the
engine nevertheless stays on the graph as long as none of its steps meets one of four situations
(`onlyEdges_iff`):

* an allocation defers a pending opportunity that already has a score;
* a call of the executor gets an answer of the gate that the graph does not allow from the status of
  the row;
* the dead-letter queue vetoes an abstained, executing or not recovered opportunity;
* a reconciliation commits a status that the graph does not allow from the status of the row.
-/

namespace CtrlRecovery

open Core OpportunityStatus OpportunityRepository Scorer Market Authority AuthorityRuleRegistry
  AuthoritativeReconciler

/-! ### The four situations -/

/-- Every opportunity that an allocation leaves beyond the capacity is scored by then: it is not
pending, or has no score yet and gets one. -/
def DefersScored (platform : Platform) (est : Estimator) (options : AllocationOptions) (db : Db) :
    Prop :=
  ∀ o ∈ (ranked est db options.tenantId options.environment).drop
      (resolveCapacity platform db options),
    o.status = pending → db.getScoreByOpportunityId o.id = none

/-- The status of a row once its score has been asked for. -/
def askedStatus (db : Db) (opp : RecoveryOpportunity) : OpportunityStatus :=
  if (db.getScoreByOpportunityId opp.id).isNone ∧ opp.status = pending then scored else opp.status

/-- The gate's answer to a call of the executor is not one that the guard lets through against the
graph. -/
def GateInOrder (ks : KillSwitches) (est : Estimator) (db : Db) (id : String) : Prop :=
  ∀ opp ∈ db.getOpportunityById id,
    (askedStatus db opp,
      verdictStatus (storedAnswer ks est Executor.unallocatedReason db opp).verdict) ∉ guardGaps

/-- The failure that a suspended call is about to dead-letter. -/
def deadLettering (s : EngineState) (call : ℕ) : Option ExecutionDLQ.Failure :=
  match s.executions call with
  | some ⟨.counted failure, _⟩ => if failure.isExhausted then some failure else none
  | _ => none

/-- A step that keeps the engine on the declared graph. -/
def StaysOnGraph (platform : Platform) (s : EngineState) (a : EngineAction) (_ : EngineState) :
    Prop :=
  match a with
  | .allocate est options | .pipeline est _ options => DefersScored platform est options s.db
  | .execute _ est _ id _ => GateInOrder s.killSwitches est s.db id
  | .answer call _ _ _ =>
    ∀ failure ∈ deadLettering s call, ∀ status ∈ s.db.statusOf failure.opportunityId,
      status ∉ [abstained, executing, notRecovered]
  | .reconcile (.commit call ids fault _) =>
    ∀ plan, s.calls call = some (.committing plan) → commits platform plan ids fault s.db →
      ∀ status ∈ s.db.statusOf plan.read.opp.id,
        OpportunityStateMachine.canTransition status plan.targetOpportunityStatus
  | _ => True

/-! ### The writes of each operation -/

section Writes

variable {platform : Platform} {ks : KillSwitches} {est : Estimator} {now : Timestamp}
  {options : AllocationOptions} {db : Db} {id : String}

lemma gapFree_singleton {w : String × OpportunityStatus} :
    GapFree db [w] ↔ ∀ s ∈ db.statusOf w.1, (s, w.2) ∉ guardGaps := by
  simp [GapFree]

/-- No gap leads to `executing`. -/
lemma executing_notMem_guardGaps (s : OpportunityStatus) : (s, executing) ∉ guardGaps := by
  cases s <;> decide

lemma allocated_notMem_guardGaps (verdict : AuthorityVerdict) :
    (allocated, verdictStatus verdict) ∉ guardGaps := by
  cases verdict <;> decide

lemma blocked_mem_guardGaps_iff (s : OpportunityStatus) :
    (s, blocked) ∈ guardGaps ↔ s ∈ [abstained, executing, notRecovered] := by
  cases s <;> decide

lemma placement_mem_guardGaps_iff {s t : OpportunityStatus} (hs : isAllocatable s)
    (ht : t ∈ [allocated, deferred, abstained]) :
    (s, t) ∈ guardGaps ↔ s = pending ∧ t = deferred := by
  simp only [List.mem_cons, List.not_mem_nil, or_false] at ht
  rcases ht with rfl | rfl | rfl <;> cases s <;> simp_all [isAllocatable, guardGaps]

lemma gapFree_scoringWrites {o : RecoveryOpportunity} (h : db.getOpportunityById o.id = some o) :
    GapFree db (scoringWrites db o) := by
  rw [scoringWrites]
  split_ifs with hc
  · rw [gapFree_singleton]
    simp [Db.statusOf, h, hc.2, guardGaps]
  · trivial

lemma statusAfter_scoringWrites (o : RecoveryOpportunity) :
    statusAfter (scoringWrites db o) o.id o.status = askedStatus db o := by
  rw [scoringWrites, askedStatus]
  split_ifs with hc
  · rw [statusAfter_cons, statusAfter_nil, if_pos rfl, hc.2]
    rfl
  · rfl

/-- The start of a call of the executor. -/
lemma gapFree_startWrites_iff :
    GapFree db (Executor.startWrites ks est db id) ↔ GateInOrder ks est db id := by
  rw [Executor.startWrites, GateInOrder]
  cases h : db.getOpportunityById id with
  | none => simp [GapFree]
  | some opp =>
    have hid : opp.id = id := Db.id_of_getOpportunityById h
    have hrow : db.getOpportunityById opp.id = some opp := by rw [hid, h]
    have hasked : (db.writeStatuses (scoringWrites db opp)).statusOf opp.id =
        some (askedStatus db opp) := by
      rw [Db.statusOf_writeStatuses, Db.statusOf, hrow, Option.map_some, Option.map_some,
        statusAfter_scoringWrites]
    have hlast : ∀ db' : Db, GapFree db' (if
        (storedAnswer ks est Executor.unallocatedReason db opp).verdict = .authorized ∧
          (db.getExecutionRecordByOpportunityId id).isSome ∧ opp.status ≠ recovered
        then [(id, executing)] else []) := by
      intro db'
      split_ifs
      · rw [gapFree_singleton]
        exact fun s _ => executing_notMem_guardGaps s
      · trivial
    simp only [gapFree_append, evaluationWrites, hlast, and_true, gapFree_scoringWrites hrow,
      true_and, gapFree_singleton, hasked, Option.mem_some_iff, forall_eq',
      storedAnswer_suggestedStatus]

/-- A scoring pass writes `scored` over the pending rows without a score. -/
lemma flatMap_scoringWrites (db : Db) (opps : List RecoveryOpportunity) :
    opps.flatMap (scoringWrites db) =
      (opps.filter fun o => (db.getScoreByOpportunityId o.id).isNone ∧ o.status = pending).map
        fun o => (o.id, scored) := by
  induction opps with
  | nil => rfl
  | cons o opps ih =>
    rw [List.flatMap_cons, ih, scoringWrites, List.filter_cons]
    by_cases hc : (db.getScoreByOpportunityId o.id).isNone ∧ o.status = pending
    · rw [if_pos hc, if_pos (decide_eq_true hc)]
      rfl
    · rw [if_neg hc, if_neg (by simpa using hc)]
      rfl

lemma nodup_scoringPass {opps : List RecoveryOpportunity} (hnodup : (opps.map (·.id)).Nodup) :
    ((opps.flatMap (scoringWrites db)).map Prod.fst).Nodup := by
  rw [flatMap_scoringWrites, List.map_map]
  exact hnodup.sublist (List.filter_sublist.map _)

lemma gapFree_scoringPass {opps : List RecoveryOpportunity}
    (hnodup : (opps.map (·.id)).Nodup) (hrows : ∀ o ∈ opps, o ∈ db.opportunities.rows) :
    GapFree db (opps.flatMap (scoringWrites db)) := by
  rw [gapFree_iff_of_nodup (nodup_scoringPass hnodup)]
  intro w hw
  obtain ⟨o, ho, hw⟩ := List.mem_flatMap.mp hw
  have hrow : db.getOpportunityById o.id = some o := Table.find?_key_of_mem (hrows o ho)
  obtain ⟨rfl, hpending⟩ := mem_scoringWrites hw
  simp [Db.statusOf, hrow, hpending, guardGaps]

/-- After a scoring pass an opportunity of the pass is pending only when it was so with a stored
score. -/
lemma scoredStatus_eq_pending_iff {opps : List RecoveryOpportunity}
    (hnodup : (opps.map (·.id)).Nodup) (hrows : ∀ o ∈ opps, o ∈ db.opportunities.rows)
    {o : RecoveryOpportunity} (ho : o ∈ opps) :
    scoredStatus db opps o = pending ↔
      o.status = pending ∧ db.getScoreByOpportunityId o.id ≠ none := by
  by_cases hc : (db.getScoreByOpportunityId o.id).isNone ∧ o.status = pending
  · have hmem : (o.id, scored) ∈ opps.flatMap (scoringWrites db) :=
      List.mem_flatMap.mpr ⟨o, ho, by simp [scoringWrites, hc]⟩
    rw [scoredStatus, statusAfter_of_mem (nodup_scoringPass hnodup) hmem, hc.2]
    simp [Option.isNone_iff_eq_none.mp hc.1, nextStatus, guardAccepts, invalidTransitions]
  · have hsame : scoredStatus db opps o = o.status := by
      refine statusAfter_of_notMem fun hmem => ?_
      rw [flatMap_scoringWrites, List.map_map] at hmem
      obtain ⟨o', ho', hid⟩ := List.mem_map.mp hmem
      obtain ⟨ho', hc'⟩ := List.mem_filter.mp ho'
      rw [eq_of_mem_rows (hrows o' ho') (hrows o ho) hid] at hc'
      exact hc (of_decide_eq_true hc')
    rw [hsame]
    constructor
    · intro hs
      exact ⟨hs, fun hnone => hc ⟨by rw [hnone, Option.isNone_none], hs⟩⟩
    · exact fun h => h.1

/-- An allocation stays on the graph exactly when it defers scored opportunities only. -/
lemma gapFree_allocationWrites_iff :
    GapFree db (allocationWrites platform est options db) ↔ DefersScored platform est options db := by
  have hrows : ∀ o ∈ candidates db options.tenantId options.environment, o ∈ db.opportunities.rows :=
    fun _ => mem_rows_of_mem_candidates
  have hnodup : ((placementWrites (runPlacements platform est options db)).map Prod.fst).Nodup := by
    rw [placementWrites, List.map_map]
    exact nodup_runPlacements
  have hstatus : ∀ o ∈ candidates db options.tenantId options.environment,
      (db.writeStatuses ((candidates db options.tenantId options.environment).flatMap
        (scoringWrites db))).statusOf o.id =
      some (scoredStatus db (candidates db options.tenantId options.environment) o) := by
    intro o ho
    rw [Db.statusOf_writeStatuses, Db.statusOf, Db.getOpportunityById,
      Table.find?_key_of_mem (hrows o ho)]
    rfl
  have hsplit := List.take_append_drop (resolveCapacity platform db options)
    (ranked est db options.tenantId options.environment)
  have hdisjoint : ∀ o ∈ (ranked est db options.tenantId options.environment).drop
      (resolveCapacity platform db options), o ∉ winners platform est options db := by
    intro o hdrop hwin
    have hranked : (ranked est db options.tenantId options.environment).Nodup := nodup_ranked
    rw [← hsplit] at hranked
    exact List.disjoint_of_nodup_append hranked hwin hdrop
  rw [allocationWrites, gapFree_append, and_iff_right (gapFree_scoringPass nodup_candidates hrows),
    gapFree_iff_of_nodup hnodup]
  constructor
  · intro h o hdrop hpending
    have hcand := (mem_ranked.mp (List.mem_of_mem_drop hdrop)).1
    obtain ⟨p, hp, hid, hplaced, -⟩ := exists_placement platform est hcand
    by_contra hscore
    have hdeferred : p.status = deferred := by
      rw [hplaced, placedStatus, if_pos hcand, if_neg (hdisjoint o hdrop),
        if_pos (List.mem_of_mem_drop hdrop)]
    have hgap := h (p.opportunity.id, p.status) (List.mem_map_of_mem hp)
    simp only [hid, hstatus o hcand, Option.mem_some_iff, forall_eq', hdeferred] at hgap
    rw [(scoredStatus_eq_pending_iff nodup_candidates hrows hcand).mpr ⟨hpending, hscore⟩] at hgap
    exact hgap (by decide)
  · rintro h w hw s hs hgap
    obtain ⟨p, hp, rfl⟩ := List.mem_map.mp hw
    have hid : p.opportunity.id ∈
        (candidates db options.tenantId options.environment).map (·.id) :=
      runPlacements_ids_perm.mem_iff.mp (List.mem_map_of_mem hp)
    obtain ⟨o, ho, hoid⟩ := List.mem_map.mp hid
    obtain ⟨p', hp', hid', hplaced, -⟩ := exists_placement platform est ho
    obtain rfl : p = p' := List.inj_on_of_nodup_map nodup_runPlacements hp hp' (by rw [hid', hoid])
    rw [← hoid, hstatus o ho, Option.mem_some_iff] at hs
    subst hs
    rw [hplaced, placement_mem_guardGaps_iff _ (placedStatus_of_mem platform est ho),
      scoredStatus_eq_pending_iff nodup_candidates hrows ho] at hgap
    · obtain ⟨⟨hpending, hscore⟩, hdeferred⟩ := hgap
      rw [placedStatus, if_pos ho] at hdeferred
      split_ifs at hdeferred with hwin hranked
      rw [← hsplit, List.mem_append] at hranked
      exact hscore (h o (hranked.resolve_left hwin) hpending)
    · rcases scoredStatus_spec hrows (hrows o ho) with ⟨-, hs⟩ | ⟨hs, -⟩
      · exact hs
      · exact absurd (isAllocatable_of_mem_candidates ho) hs

/-- The status writes of a pipeline: those of its allocation, and one for each row that it
evaluates. -/
def pipelineWrites (platform : Platform) (ks : KillSwitches) (est : Estimator)
    (options : AllocationOptions) (db : Db) : List (String × OpportunityStatus) :=
  let db' := (runMarketAllocation platform est options db).2
  allocationWrites platform est options db ++ (evaluatedAfter options db').map fun o =>
    (o.id, (storedAnswer ks est "Unallocated evaluation" db' o).suggestedStatus)

lemma ne_recovered_of_mem_pipelineWrites {w : String × OpportunityStatus}
    (h : w ∈ pipelineWrites platform ks est options db) : w.2 ≠ recovered := by
  rcases List.mem_append.mp h with h | h
  · exact ne_recovered_of_mem_allocationWrites h
  · obtain ⟨o, -, rfl⟩ := List.mem_map.mp h
    exact storedAnswer_suggestedStatus_ne_recovered

lemma getOpportunityById_of_mem_evaluatedAfter {o : RecoveryOpportunity}
    (h : o ∈ evaluatedAfter options db) : db.getOpportunityById o.id = some o :=
  Table.find?_key_of_mem (db.mem_getAllOpportunities.mp (List.mem_of_mem_filter h)).1

lemma sameRows_runAuthorityPipeline :
    SameRows (db.writeStatuses (pipelineWrites platform ks est options db))
      (runAuthorityPipeline platform ks est now options db).2 := by
  have halloc := allocated_runMarketAllocation platform est options db
  have hrows : ∀ o ∈ evaluatedAfter options (runMarketAllocation platform est options db).2,
      ((runMarketAllocation platform est options db).2.getOpportunityById o.id).isSome := by
    intro o ho
    rw [getOpportunityById_of_mem_evaluatedAfter ho, Option.isSome_some]
  have heval : SameRows _ (evaluateAll ks est now "Unallocated evaluation" _ _).2 :=
    sameRows_evaluateAll nodup_evaluatedAfter hrows
  rw [halloc.evaluationWrites_eq] at heval
  rw [runAuthorityPipeline_snd, pipelineWrites, Db.writeStatuses_append]
  exact (sameRows_runMarketAllocation.writeStatuses _).trans heval

/-- After its allocation a pipeline stays on the graph: it evaluates allocated rows only. -/
lemma gapFree_pipelineWrites_iff :
    GapFree db (pipelineWrites platform ks est options db) ↔
      DefersScored platform est options db := by
  have halloc := allocated_runMarketAllocation platform est options db
  have hsame : SameRows (db.writeStatuses (allocationWrites platform est options db))
      (runMarketAllocation platform est options db).2 := sameRows_runMarketAllocation
  rw [pipelineWrites, gapFree_append, gapFree_allocationWrites_iff, ← hsame.gapFree_iff,
    and_iff_left_iff_imp]
  intro _
  rw [gapFree_iff_of_nodup (by rw [List.map_map]; exact nodup_evaluatedAfter)]
  intro w hw s hs
  obtain ⟨o, ho, rfl⟩ := List.mem_map.mp hw
  simp only [Db.statusOf, getOpportunityById_of_mem_evaluatedAfter ho, Option.map_some,
    Option.mem_some_iff, halloc.status_of_mem_evaluatedAfter ho] at hs
  rw [← hs, storedAnswer_suggestedStatus]
  exact allocated_notMem_guardGaps _

end Writes

/-! ### One step -/

section Step

variable {platform : Platform} {s t : EngineState} {a : EngineAction}

/-- The reconciliation that an action commits. -/
def committing (s : EngineState) : EngineAction → Option SettlementPlan
  | .reconcile action => committedPlan s.toReconcilerState action
  | _                 => none

/-- What an answer to a call of the executor writes. -/
lemma rewrites_answer (platform : Platform) {call : ℕ} {answer : ExecuteAnswer} {now : Timestamp}
    {entryId : String} {execution : Execution} (hcall : s.executions call = some execution)
    {p : ExecuteCall × Db} (h : Executor.advance answer now entryId s.db execution.call = some p) :
    ∃ ws, SameButAttempts (s.db.writeStatuses ws) p.2 ∧ (∀ w ∈ ws, w.2 ≠ recovered) ∧
      (GapFree s.db ws ↔ StaysOnGraph platform s (.answer call answer now entryId) s) := by
  obtain ⟨c, replayed⟩ := execution
  obtain ⟨id, -, -, hrows⟩ := Executor.advance_rows h
  have hlink : ∀ hnone : deadLettering s call = none, Executor.RowsAfterLink id s.db p.2 →
      ∃ ws, SameButAttempts (s.db.writeStatuses ws) p.2 ∧ (∀ w ∈ ws, w.2 ≠ recovered) ∧
        (GapFree s.db ws ↔ StaysOnGraph platform s (.answer call answer now entryId) s) := by
    rintro hnone (hsame | hexec)
    · refine ⟨[], hsame.sameButAttempts, by simp, ?_⟩
      simp [StaysOnGraph, hnone, GapFree]
    · refine ⟨[(id, executing)], hexec.sameButAttempts, by simp, ?_⟩
      simp [StaysOnGraph, hnone, GapFree, executing_notMem_guardGaps]
  by_cases hcounted : ∃ failure, c = .counted failure
  · obtain ⟨failure, rfl⟩ := hcounted
    cases answer with
    | database =>
      cases h
      by_cases hveto : failure.isExhausted ∧
          (s.db.getOpportunityById failure.opportunityId).isSome
      · have hdead : deadLettering s call = some failure := by
          simp [deadLettering, hcall, hveto.1]
        refine ⟨[(failure.opportunityId, blocked)], ?_, by simp, ?_⟩
        · rw [ExecutionDLQ.deadLetter, if_pos hveto]
          exact sameButAttempts_setAttemptCount _ _ _
        · simp only [gapFree_singleton, StaysOnGraph, hdead, Option.mem_some_iff, forall_eq',
            blocked_mem_guardGaps_iff]
      · refine ⟨[], ?_, by simp, ?_⟩
        · rw [ExecutionDLQ.deadLetter, if_neg hveto]
          exact (SameRows.refl s.db).sameButAttempts
        · simp only [GapFree, true_iff, StaysOnGraph, deadLettering, hcall]
          rintro failure' hfailure status hstatus
          split_ifs at hfailure with hexhausted
          · cases hfailure
            rw [Option.mem_def, Db.statusOf, Option.map_eq_some_iff] at hstatus
            obtain ⟨o, ho, -⟩ := hstatus
            exact absurd ⟨hexhausted, by rw [ho, Option.isSome_some]⟩ hveto
          · cases hfailure
    | _ => simp [Executor.advance] at h
  · have hnone : deadLettering s call = none := by
      rw [deadLettering, hcall]
      cases c <;> simp_all
    rcases hrows with hrows | ⟨failure, rfl, -⟩
    · exact hlink hnone hrows
    · exact absurd ⟨failure, rfl⟩ hcounted

/-- A step that commits no reconciliation rewrites statuses through the guard, none of them to
`recovered`. -/
theorem engineStep_rewrites (h : engineStep platform s a = some t) (hcommit : committing s a = none) :
    ∃ ws, SameButAttempts (s.db.writeStatuses ws) t.db ∧ (∀ w ∈ ws, w.2 ≠ recovered) ∧
      (GapFree s.db ws ↔ StaysOnGraph platform s a t) := by
  cases a with
  | score est id =>
    obtain ⟨opp, hopp, rfl⟩ := engineStep_score h
    refine ⟨_, (sameRows_scoreOpportunity est s.db opp).sameButAttempts, ?_, ?_⟩
    · split_ifs <;> simp
    · simp only [StaysOnGraph, iff_true]
      split_ifs with hp
      · rw [gapFree_singleton]
        simp [Db.statusOf, Db.id_of_getOpportunityById hopp, hopp, hp, guardGaps]
      · trivial
  | allocate est options =>
    rw [(engineStep_allocate h).1]
    exact ⟨allocationWrites platform est options s.db, sameRows_runMarketAllocation.sameButAttempts,
      fun _ => ne_recovered_of_mem_allocationWrites, gapFree_allocationWrites_iff⟩
  | pipeline est now options =>
    rw [(engineStep_pipeline h).1]
    exact ⟨pipelineWrites platform s.killSwitches est options s.db,
      sameRows_runAuthorityPipeline.sameButAttempts, fun _ => ne_recovered_of_mem_pipelineWrites,
      gapFree_pipelineWrites_iff⟩
  | execute call est now id replay =>
    rw [(engineStep_execute h).1]
    exact ⟨_, Executor.sameRows_start.sameButAttempts,
      fun _ => Executor.ne_recovered_of_mem_startWrites, gapFree_startWrites_iff⟩
  | answer call answer now entryId =>
    obtain ⟨execution, p, hcall, hp, rfl⟩ := engineStep_answer h
    exact rewrites_answer platform hcall hp
  | settle call now =>
    obtain ⟨id, result, -, rfl⟩ := engineStep_settle h
    exact ⟨[], (sameRows_settleReplay _ _ _ _).sameButAttempts, by simp,
      by simp [StaysOnGraph, GapFree]⟩
  | reconcile action =>
    obtain ⟨r, hr, rfl⟩ := engineStep_reconcile h
    rcases reconcileStep_db hr with hdb | ⟨plan, ids, fault, hplan, -⟩
    · refine ⟨[], ?_, by simp, ?_⟩
      · rw [Db.writeStatuses_nil, ← hdb]
        exact (SameRows.refl _).sameButAttempts
      · rw [GapFree, true_iff]
        cases action with
        | commit call ids fault message =>
          intro plan hplan
          simp [committing, committedPlan, hplan] at hcommit
        | _ => trivial
    · rw [committing, hplan] at hcommit
      cases hcommit
  | setKillSwitches killSwitches =>
    cases h
    exact ⟨[], (SameRows.refl _).sameButAttempts, by simp, by simp [StaysOnGraph, GapFree]⟩

/-- A step that commits a reconciliation. -/
lemma engineStep_commit (h : engineStep platform s a = some t) {plan : SettlementPlan}
    (hplan : committing s a = some plan) :
    ∃ call ids fault message, a = .reconcile (.commit call ids fault message) ∧
      s.calls call = some (.committing plan) ∧
      t.db = reconcileCommit platform plan ids fault s.db := by
  cases a with
  | reconcile action =>
    obtain ⟨r, hr, rfl⟩ := Option.map_eq_some_iff.mp h
    cases action with
    | commit call ids fault message =>
      simp only [committing, committedPlan] at hplan
      split at hplan
      next plan' hcall =>
        cases hplan
        rw [reconcileStep, hcall, Option.some.injEq] at hr
        exact ⟨call, ids, fault, message, rfl, hcall, by rw [← hr]⟩
      next => cases hplan
    | _ => cases hplan
  | _ => cases hplan

/-- A step keeps the recorded changes on the graph exactly when it meets none of the four
situations. -/
theorem edgesOnly_step_iff (h : engineStep platform s a = some t) :
    EdgesOnly t.db ↔ EdgesOnly s.db ∧ StaysOnGraph platform s a t := by
  cases hcommit : committing s a with
  | none =>
    obtain ⟨ws, hws, -, hfree⟩ := engineStep_rewrites h hcommit
    rw [← hfree, ← edgesOnly_writeStatuses_iff, EdgesOnly, EdgesOnly, hws.statusChanges]
  | some plan =>
    obtain ⟨call, ids, fault, message, rfl, hcall, hdb⟩ := engineStep_commit h hcommit
    have honly : StaysOnGraph platform s (.reconcile (.commit call ids fault message)) t ↔
        (commits platform plan ids fault s.db → ∀ status ∈ s.db.statusOf plan.read.opp.id,
          OpportunityStateMachine.canTransition status plan.targetOpportunityStatus) := by
      simp only [StaysOnGraph, hcall, Option.some.injEq, ReconcileCall.committing.injEq,
        forall_eq']
    rw [honly, hdb]
    rcases reconcileCommit_spec platform plan ids fault s.db with ⟨hno, hback⟩ | ⟨hyes, hdone⟩
    · rw [hback]
      simp [hno]
    · rw [EdgesOnly, hdone.statusChanges, ← EdgesOnly, edgesOnly_setStatus_iff]
      simp [hyes]

end Step

/-! ### Whole runs -/

/-- In every state that the actions lead to, every change of a status so far is an edge of the
declared graph. -/
def OnlyEdges (platform : Platform) (s : EngineState) (as : List EngineAction) : Prop :=
  ∀ pre rest t, as = pre ++ rest → Run (engineStep platform) s pre t → EdgesOnly t.db

/-- Every change of a status is an edge of the declared graph exactly in the runs whose steps meet
none of the four situations. -/
theorem onlyEdges_iff (platform : Platform) (s : EngineState) (as : List EngineAction) :
    OnlyEdges platform s as ↔
      EdgesOnly s.db ∧ AllSteps (engineStep platform) (StaysOnGraph platform) s as := by
  constructor
  · intro h
    refine ⟨h [] as s rfl (.nil s), allSteps_of_forall fun pre a rest t u has hpre hstep => ?_⟩
    have hedges : EdgesOnly u.db :=
      h (pre ++ [a]) rest u (by simp [has]) (hpre.append (.cons hstep (.nil u)))
    exact ((edgesOnly_step_iff hstep).mp hedges).2
  · rintro ⟨h₀, hall⟩ pre rest t rfl hpre
    exact (hpre.iff_allSteps fun _ _ _ => edgesOnly_step_iff).mpr ⟨h₀, hall.left⟩

/-- The payment of a deferred opportunity is delivered and reconciled. -/
def latePayment : List EngineAction :=
  [.reconcile (.start 0 "pay_1" (some (.delivered "tenant_a" true, paidLink)) 5000),
    .reconcile (.commit 0 (raceIds 0) none "")]

/-- A deferred opportunity is recovered without ever being executed. -/
theorem recovery_skips_execution :
    ¬ ∀ (platform : Platform) (s : EngineState) (as : List EngineAction),
      s.db.statusChanges = [] → OnlyEdges platform s as := by
  intro h
  obtain ⟨t, hrun, hoff⟩ := exists_run_of_execute (engineStep .plain)
    (.idle (Db.ofRows [sampleOpportunity "pay_1" deferred] [])) latePayment
    (fun t => t.db.statusChanges == [⟨"pay_1", deferred, recovered⟩]) (by decide +kernel)
  have hedges := h .plain _ latePayment rfl latePayment [] t (by simp) hrun
    ⟨"pay_1", deferred, recovered⟩ (by simp [eq_of_beq hoff])
  revert hedges
  decide

end CtrlRecovery
