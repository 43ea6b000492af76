import CtrlRecovery.Market.Allocation

/-!
# Successive allocation runs

`Restatus est f db db'` says that `db'` has the rows of `db` with the statuses `f`, and the same
scores. A scoring pass and an allocation run are of this kind, and the ranking of a later run can
be read off the earlier database (`Restatus.ranked_eq`): after a run, the next one ranks exactly
what the first one left behind its winners (`ranked_runMarketAllocation`).
-/

namespace CtrlRecovery

open Core OpportunityStatus OpportunityRepository Scorer

namespace Market

variable {platform : Platform} {est : Estimator} {options : AllocationOptions} {db db' db'' : Db}
  {f f' : RecoveryOpportunity → OpportunityStatus}

/-- The rows of `db` with other statuses, and with the same scores. -/
structure Restatus (est : Estimator) (f : RecoveryOpportunity → OpportunityStatus)
    (db db' : Db) : Prop where
  rows : db'.opportunities.rows = db.opportunities.rows.map fun o => o.withStatus (f o)
  score : ∀ o ∈ db.opportunities.rows,
    effectiveScore est db' (o.withStatus (f o)) = effectiveScore est db o
  tenants : db'.tenants = db.tenants

namespace Restatus

lemma trans (h : Restatus est f db db') (h' : Restatus est f' db' db'') :
    Restatus est (fun o => f' (o.withStatus (f o))) db db'' where
  rows := by
    rw [h'.rows, h.rows, List.map_map]
    rfl
  score o ho := by
    have hmem : o.withStatus (f o) ∈ db'.opportunities.rows := by
      rw [h.rows]
      exact List.mem_map_of_mem ho
    rw [← h.score o ho, ← h'.score _ hmem]
    rfl
  tenants := h'.tenants.trans h.tenants

section

variable (h : Restatus est f db db') (tenantId : Option String) (environment : Option Environment)
include h

lemma getAllOpportunities :
    db'.getAllOpportunities tenantId environment =
      (db.getAllOpportunities tenantId environment).map fun o => o.withStatus (f o) :=
  Db.getAllOpportunities_of_rows h.rows tenantId environment

lemma tenantRow_eq : tenantRow db' tenantId = tenantRow db tenantId := by
  rw [tenantRow, tenantRow, h.tenants]

lemma resolveEnvironment_eq :
    resolveEnvironment db' tenantId environment = resolveEnvironment db tenantId environment := by
  rw [resolveEnvironment, resolveEnvironment, h.tenantRow_eq]

lemma scope_eq :
    db'.getAllOpportunities tenantId (resolveEnvironment db' tenantId environment) =
      (db.getAllOpportunities tenantId (resolveEnvironment db tenantId environment)).map
        fun o => o.withStatus (f o) := by
  rw [h.resolveEnvironment_eq, h.getAllOpportunities]

/-- The ranking of a run, on the rows and scores of an earlier database. -/
theorem ranked_eq :
    ranked est db' tenantId environment =
      (rank (fun o => (effectiveScore est db o).expectedIncrementalValuePaise)
        ((db.getAllOpportunities tenantId (resolveEnvironment db tenantId environment)).filter
          fun o => isAllocatable (f o) && isEligible (o, effectiveScore est db o))).map
        fun o => o.withStatus (f o) := by
  have hmem : ∀ o ∈ db.getAllOpportunities tenantId (resolveEnvironment db tenantId environment),
      effectiveScore est db' (o.withStatus (f o)) = effectiveScore est db o :=
    fun o ho => h.score o (db.mem_getAllOpportunities.mp ho).1
  rw [ranked, eligible, candidates, h.scope_eq, List.filter_map, List.filter_map, rank_map,
    List.filter_filter]
  congr 1
  have hfilter : (db.getAllOpportunities tenantId
      (resolveEnvironment db tenantId environment)).filter (fun o =>
        isEligible (o.withStatus (f o), effectiveScore est db' (o.withStatus (f o))) &&
          isAllocatable (f o)) =
      (db.getAllOpportunities tenantId (resolveEnvironment db tenantId environment)).filter
        fun o => isAllocatable (f o) && isEligible (o, effectiveScore est db o) := by
    refine List.filter_congr fun o ho => ?_
    rw [hmem o ho, Bool.and_comm]
    rfl
  have hrank : rank ((fun o => (effectiveScore est db' o).expectedIncrementalValuePaise) ∘
        fun o => o.withStatus (f o))
      ((db.getAllOpportunities tenantId (resolveEnvironment db tenantId environment)).filter
        fun o => isAllocatable (f o) && isEligible (o, effectiveScore est db o)) =
      rank (fun o => (effectiveScore est db o).expectedIncrementalValuePaise)
        ((db.getAllOpportunities tenantId (resolveEnvironment db tenantId environment)).filter
          fun o => isAllocatable (f o) && isEligible (o, effectiveScore est db o)) := by
    refine rank_congr fun o ho => ?_
    rw [Function.comp_apply, hmem o (List.mem_of_mem_filter ho)]
  exact (congrArg (rank _) hfilter).trans hrank

end

end Restatus

/-! ### A scoring pass -/

lemma eq_of_mem_rows {o o' : RecoveryOpportunity} (ho : o ∈ db.opportunities.rows)
    (ho' : o' ∈ db.opportunities.rows) (hid : o.id = o'.id) : o = o' :=
  db.opportunities.eq_of_key_eq ho ho' hid

lemma isAllocatable_statusAfter {ws : List (String × OpportunityStatus)} {id : String}
    {s : OpportunityStatus} (h : ∀ w ∈ ws, w.2 = scored) (hs : isAllocatable s) :
    isAllocatable (statusAfter ws id s) := by
  induction ws generalizing s with
  | nil => exact hs
  | cons w ws ih =>
    rw [statusAfter_cons, h w List.mem_cons_self]
    refine ih (fun v hv => h v (List.mem_cons_of_mem _ hv)) ?_
    split_ifs
    · cases s <;> simp_all [isAllocatable, nextStatus, guardAccepts, invalidTransitions]
    · exact hs

section ScoringPass

variable {opps : List RecoveryOpportunity}

lemma scored_of_mem_flatMap {w : String × OpportunityStatus}
    (h : w ∈ opps.flatMap (scoringWrites db)) : w.2 = scored := by
  obtain ⟨o, -, hw⟩ := List.mem_flatMap.mp h
  rw [(mem_scoringWrites hw).1]

/-- Scoring changes no status but `pending`. -/
lemma statusAfter_scoring_of_ne_pending (hrows : ∀ o ∈ opps, o ∈ db.opportunities.rows)
    {o : RecoveryOpportunity} (ho : o ∈ db.opportunities.rows) (hs : o.status ≠ pending) :
    statusAfter (opps.flatMap (scoringWrites db)) o.id o.status = o.status := by
  refine statusAfter_of_notMem fun hmem => ?_
  obtain ⟨w, hw, hid⟩ := List.mem_map.mp hmem
  obtain ⟨o', ho', hw'⟩ := List.mem_flatMap.mp hw
  obtain ⟨rfl, hpending⟩ := mem_scoringWrites hw'
  rw [eq_of_mem_rows (hrows o' ho') ho hid] at hpending
  exact hs hpending

def scoredStatus (db : Db) (opps : List RecoveryOpportunity) (o : RecoveryOpportunity) :
    OpportunityStatus :=
  statusAfter (opps.flatMap (scoringWrites db)) o.id o.status

/-- After a scoring pass the same opportunities wait for an allocation, and the others have the
status that they had. -/
lemma scoredStatus_spec (hrows : ∀ o ∈ opps, o ∈ db.opportunities.rows) {o : RecoveryOpportunity}
    (ho : o ∈ db.opportunities.rows) :
    (isAllocatable o.status ∧ isAllocatable (scoredStatus db opps o)) ∨
      (¬ isAllocatable o.status ∧ scoredStatus db opps o = o.status) := by
  by_cases hs : isAllocatable o.status
  · exact .inl ⟨hs, isAllocatable_statusAfter (fun w => scored_of_mem_flatMap) hs⟩
  · refine .inr ⟨hs, statusAfter_scoring_of_ne_pending hrows ho ?_⟩
    rintro heq
    simp [heq, isAllocatable] at hs

lemma restatus_scoreItems (hnodup : (opps.map (·.id)).Nodup)
    (hrows : ∀ o ∈ opps, o ∈ db.opportunities.rows) :
    Restatus est (scoredStatus db opps) db (scoreItems est db opps).2 where
  rows := by
    rw [(sameRows_scoreItems hnodup).opportunities, Db.rows_writeStatuses]
    rfl
  score o ho := by
    by_cases hmem : o ∈ opps
    · have hstored := getScoreByOpportunityId_scoreItems est db hnodup hmem
      exact effectiveScore_of_stored _ _ _ hstored
    · have hne : ∀ opp ∈ opps, o.id ≠ opp.id := by
        intro opp hopp hid
        rw [eq_of_mem_rows ho (hrows opp hopp) hid] at hmem
        exact hmem hopp
      have hsame : scoredStatus db opps o = o.status := by
        refine statusAfter_of_notMem fun hid => ?_
        obtain ⟨w, hw, hwid⟩ := List.mem_map.mp hid
        obtain ⟨opp, hopp, hw'⟩ := List.mem_flatMap.mp hw
        rw [(mem_scoringWrites hw').1] at hwid
        exact hne opp hopp hwid.symm
      rw [hsame, RecoveryOpportunity.withStatus_self]
      exact effectiveScore_scoreItems est db opps o fun opp hopp hid => absurd hid (hne opp hopp)
  tenants := by rw [(sameRows_scoreItems hnodup).tenants, Db.writeStatuses_tenants]

end ScoringPass

/-! ### An allocation run -/

lemma nextStatus_of_isAllocatable {s t : OpportunityStatus} (hs : isAllocatable s)
    (ht : t ∈ [allocated, deferred, abstained]) : nextStatus s t = t := by
  simp only [List.mem_cons, List.not_mem_nil, or_false] at ht
  rcases ht with rfl | rfl | rfl <;> cases s <;>
    simp_all [isAllocatable, nextStatus, guardAccepts, invalidTransitions]

lemma placedStatus_of_mem (platform : Platform) (est : Estimator) {o : RecoveryOpportunity}
    (h : o ∈ candidates db options.tenantId options.environment) :
    placedStatus platform est options db o ∈ [allocated, deferred, abstained] := by
  rw [placedStatus, if_pos h]
  split_ifs <;> simp

lemma placedStatus_of_notMem {o : RecoveryOpportunity}
    (h : o ∉ candidates db options.tenantId options.environment) :
    placedStatus platform est options db o = o.status := if_neg h

/-- A run writes its candidates only. -/
lemma mem_candidates_of_written {o : RecoveryOpportunity} (ho : o ∈ db.opportunities.rows)
    (h : o.id ∈ (allocationWrites platform est options db).map Prod.fst) :
    o ∈ candidates db options.tenantId options.environment := by
  have hid : ∃ o' ∈ candidates db options.tenantId options.environment, o'.id = o.id := by
    rw [allocationWrites, List.map_append, List.mem_append] at h
    rcases h with h | h
    · obtain ⟨w, hw, hwid⟩ := List.mem_map.mp h
      obtain ⟨o', ho', hw'⟩ := List.mem_flatMap.mp hw
      rw [(mem_scoringWrites hw').1] at hwid
      exact ⟨o', ho', hwid⟩
    · rw [placementWrites, List.map_map] at h
      exact List.mem_map.mp (runPlacements_ids_perm.mem_iff.mp h)
  obtain ⟨o', ho', hid⟩ := hid
  rwa [eq_of_mem_rows ho (mem_rows_of_mem_candidates ho') hid.symm]

/-- The status of a row after the writes of a run. -/
lemma statusAfter_allocationWrites {o : RecoveryOpportunity} (ho : o ∈ db.opportunities.rows) :
    statusAfter (allocationWrites platform est options db) o.id o.status =
      placedStatus platform est options db o := by
  by_cases h : o ∈ candidates db options.tenantId options.environment
  · obtain ⟨p, hp, hid, hstatus, -⟩ := exists_placement platform est h
    have hmem : (o.id, placedStatus platform est options db o) ∈
        placementWrites (runPlacements platform est options db) := by
      rw [← hid, ← hstatus]
      exact List.mem_map_of_mem hp
    have hnodup : ((placementWrites (runPlacements platform est options db)).map Prod.fst).Nodup := by
      rw [placementWrites, List.map_map]
      exact nodup_runPlacements
    have hscored : isAllocatable (statusAfter ((candidates db options.tenantId
        options.environment).flatMap (scoringWrites db)) o.id o.status) :=
      isAllocatable_statusAfter (fun w => scored_of_mem_flatMap) (isAllocatable_of_mem_candidates h)
    rw [allocationWrites, statusAfter_append, statusAfter_of_mem hnodup hmem,
      nextStatus_of_isAllocatable hscored (placedStatus_of_mem platform est h)]
  · rw [placedStatus_of_notMem h]
    exact statusAfter_of_notMem fun hid => h (mem_candidates_of_written ho hid)

lemma rows_runMarketAllocation :
    (runMarketAllocation platform est options db).2.opportunities.rows =
      db.opportunities.rows.map fun o =>
        o.withStatus (placedStatus platform est options db o) := by
  rw [sameRows_runMarketAllocation.opportunities, Db.rows_writeStatuses]
  refine List.map_congr_left fun o ho => ?_
  rw [statusAfter_allocationWrites ho]

lemma getOpportunityById_runMarketAllocation (id : String) :
    (runMarketAllocation platform est options db).2.getOpportunityById id =
      (db.getOpportunityById id).map fun o =>
        o.withStatus (placedStatus platform est options db o) := by
  rw [Db.getOpportunityById, Table.find?, rows_runMarketAllocation, List.find?_map]
  rfl

lemma getScoreByOpportunityId_runMarketAllocation (id : String) :
    (runMarketAllocation platform est options db).2.getScoreByOpportunityId id =
      (scoreItems est db (candidates db options.tenantId
        options.environment)).2.getScoreByOpportunityId id := by
  rw [runMarketAllocation_snd, Db.getScoreByOpportunityId, foldl_place_scores,
    Db.getScoreByOpportunityId]

lemma restatus_runMarketAllocation :
    Restatus est (placedStatus platform est options db) db
      (runMarketAllocation platform est options db).2 where
  rows := rows_runMarketAllocation
  score o ho := by
    by_cases h : o ∈ candidates db options.tenantId options.environment
    · refine effectiveScore_of_stored _ _ _ ?_
      rw [getScoreByOpportunityId_runMarketAllocation]
      exact getScoreByOpportunityId_scoreItems est db nodup_candidates h
    · have hsame := effectiveScore_scoreItems est db
        (candidates db options.tenantId options.environment) o fun opp hopp hid =>
          eq_of_mem_rows ho (mem_rows_of_mem_candidates hopp) hid
      rw [placedStatus_of_notMem h, RecoveryOpportunity.withStatus_self, ← hsame, effectiveScore,
        getScoreByOpportunityId_runMarketAllocation]
      rfl
  tenants := by rw [sameRows_runMarketAllocation.tenants, Db.writeStatuses_tenants]

/-- A winner's stored decision is `ACT`. -/
lemma decision_of_winner {o : RecoveryOpportunity} (h : o ∈ winners platform est options db) :
    ∃ d, (runMarketAllocation platform est options db).2.getAllocationDecisionByOpportunityId o.id =
      some d ∧ d.decision = .act := by
  have hcand : o ∈ candidates db options.tenantId options.environment :=
    (mem_ranked.mp (List.mem_of_mem_take h)).1
  obtain ⟨p, hp, hid, -, hact⟩ := exists_placement platform est hcand
  have hnodup : ((runPlacements platform est options db).map
      (·.decision.opportunityId)).Nodup := by
    have hids : (runPlacements platform est options db).map (·.decision.opportunityId) =
        (runPlacements platform est options db).map (·.opportunity.id) :=
      List.map_congr_left fun p hp => decision_opportunityId_of_mem hp
    rw [hids]
    exact nodup_runPlacements
  refine ⟨p.decision, ?_, hact h⟩
  rw [runMarketAllocation_snd, ← hid, ← decision_opportunityId_of_mem hp]
  exact getAllocationDecisionByOpportunityId_foldl_place_of_mem hnodup hp

/-- The decisions of the other rows stay. -/
lemma decision_of_not_candidate {o : RecoveryOpportunity} (ho : o ∈ db.opportunities.rows)
    (h : o ∉ candidates db options.tenantId options.environment) :
    (runMarketAllocation platform est options db).2.getAllocationDecisionByOpportunityId o.id =
      db.getAllocationDecisionByOpportunityId o.id := by
  have hnot : o.id ∉ (runPlacements platform est options db).map (·.decision.opportunityId) := by
    intro hmem
    obtain ⟨p, hp, hid⟩ := List.mem_map.mp hmem
    rw [decision_opportunityId_of_mem hp] at hid
    have hcand := runPlacements_ids_perm.mem_iff.mp (List.mem_map.mpr ⟨p, hp, hid⟩)
    obtain ⟨o', ho', hid'⟩ := List.mem_map.mp hcand
    rw [← eq_of_mem_rows (mem_rows_of_mem_candidates ho') ho hid'] at h
    exact h ho'
  rw [runMarketAllocation_snd, getAllocationDecisionByOpportunityId_foldl_place_of_notMem hnot,
    Db.getAllocationDecisionByOpportunityId, scoreItems_allocationDecisions,
    Db.getAllocationDecisionByOpportunityId]

/-- Of a scope, a run leaves waiting the ranked opportunities behind the winners. -/
lemma isAllocatable_placedStatus_iff {o : RecoveryOpportunity}
    (ho : o ∈ db.getAllOpportunities options.tenantId
      (resolveEnvironment db options.tenantId options.environment)) :
    isAllocatable (placedStatus platform est options db o) ↔
      o ∈ ranked est db options.tenantId options.environment ∧
        o ∉ winners platform est options db := by
  by_cases h : o ∈ candidates db options.tenantId options.environment
  · rw [placedStatus, if_pos h]
    split_ifs with hw hr
    · simp [isAllocatable, hw]
    · simp [isAllocatable, hr, hw]
    · simp [isAllocatable, hr]
  · rw [placedStatus_of_notMem h]
    have hnot : ¬ isAllocatable o.status := fun hs => h (List.mem_filter.mpr ⟨ho, hs⟩)
    simp [hnot, mem_ranked, h]

/-- The next run of a scope ranks what is left behind the winners, in the same order. -/
theorem ranked_runMarketAllocation :
    ranked est (runMarketAllocation platform est options db).2 options.tenantId
        options.environment =
      ((ranked est db options.tenantId options.environment).drop
        (resolveCapacity platform db options)).map fun o =>
          o.withStatus (placedStatus platform est options db o) := by
  rw [restatus_runMarketAllocation.ranked_eq]
  have hfilter : (db.getAllOpportunities options.tenantId
      (resolveEnvironment db options.tenantId options.environment)).filter (fun o =>
        isAllocatable (placedStatus platform est options db o) &&
          isEligible (o, effectiveScore est db o)) =
      (eligible est db options.tenantId options.environment).filter fun o =>
        o ∉ winners platform est options db := by
    rw [eligible, candidates, List.filter_filter, List.filter_filter]
    refine List.filter_congr fun o ho => ?_
    rw [Bool.eq_iff_iff]
    have hcand : o ∈ candidates db options.tenantId options.environment ↔ isAllocatable o.status :=
      ⟨isAllocatable_of_mem_candidates, fun hs => List.mem_filter.mpr ⟨ho, hs⟩⟩
    simp only [Bool.and_eq_true, isAllocatable_placedStatus_iff ho, mem_ranked, hcand,
      decide_eq_true_eq]
    tauto
  rw [hfilter]
  congr 1
  exact rank_filter_notMem_take ((List.Nodup.of_map _ nodup_candidates).filter _) _

end Market

end CtrlRecovery
