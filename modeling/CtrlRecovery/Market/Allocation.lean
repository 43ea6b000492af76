import CtrlRecovery.Market.Allocator

/-!
# What an allocation run does

A run writes one status for each of its candidates: `allocated` for the best of them within the
capacity (the winners), `deferred` for the other eligible ones and `abstained` for the rest. All
other rows stay as they are, and so do the scores once they are asked for.

`Restatus` is what a run looks like to the next one: the same rows with other statuses and the same
scores. From it the ranking that the next run works on follows.
-/

namespace CtrlRecovery

open Core OpportunityStatus OpportunityRepository Scorer

namespace Market

/-! ### The winners -/

section Ranking

variable (est : Estimator) (db : Db) (tenantId : Option String) (environment : Option Environment)

def eligible : List RecoveryOpportunity :=
  (candidates db tenantId environment).filter fun o => isEligible (o, effectiveScore est db o)

/-- The eligible opportunities by expected incremental value. -/
def ranked : List RecoveryOpportunity :=
  rank (fun o => (effectiveScore est db o).expectedIncrementalValuePaise)
    (eligible est db tenantId environment)

variable {est db tenantId environment}

lemma nodup_candidates : ((candidates db tenantId environment).map (·.id)).Nodup :=
  (db.nodup_getAllOpportunities _ _).sublist (List.filter_sublist.map _)

lemma mem_rows_of_mem_candidates {o : RecoveryOpportunity}
    (h : o ∈ candidates db tenantId environment) : o ∈ db.opportunities.rows :=
  ((db.mem_getAllOpportunities).mp (List.mem_of_mem_filter h)).1

lemma isAllocatable_of_mem_candidates {o : RecoveryOpportunity}
    (h : o ∈ candidates db tenantId environment) : isAllocatable o.status :=
  (List.mem_filter.mp h).2

lemma mem_ranked {o : RecoveryOpportunity} :
    o ∈ ranked est db tenantId environment ↔
      o ∈ candidates db tenantId environment ∧ isEligible (o, effectiveScore est db o) := by
  rw [ranked, mem_rank, eligible, List.mem_filter]

lemma nodup_ranked : (ranked est db tenantId environment).Nodup := by
  rw [ranked, (rank_perm _ _).nodup_iff]
  exact (List.Nodup.of_map _ nodup_candidates).filter _

lemma ranking_eq :
    ranking ((candidates db tenantId environment).map fun o => (o, effectiveScore est db o)) =
      (ranked est db tenantId environment).map fun o => (o, effectiveScore est db o) := by
  rw [ranking, List.filter_map, rank_map]
  rfl

end Ranking

/-! ### The writes of a run -/

def Placement.outcome (p : Placement) : String × DecisionType × OpportunityStatus :=
  (p.opportunity.id, p.decision.decision, p.status)

lemma decision_opportunityId_of_mem {capacity : ℕ} {items : List (RecoveryOpportunity × Score)}
    {p : Placement} (h : p ∈ placements capacity items) :
    p.decision.opportunityId = p.opportunity.id := by
  simp only [placements, List.mem_append, List.mem_mapIdx, List.mem_filterMap] at h
  rcases h with ⟨i, hi, rfl⟩ | ⟨item, -, hitem⟩
  · rfl
  · obtain ⟨reason, -, rfl⟩ := Option.map_eq_some_iff.mp hitem
    rfl

def Placement.item (p : Placement) : RecoveryOpportunity × Score := (p.opportunity, p.score)

/-- The scored opportunity of a placement, its decision and its status. -/
def Placement.verdict (p : Placement) :
    (RecoveryOpportunity × Score) × DecisionType × OpportunityStatus :=
  (p.item, p.decision.decision, p.status)

/-- `ACT` within the capacity, `WAIT` beyond it, `ABSTAIN` for what is not ranked. -/
lemma placements_verdict (capacity : ℕ) (items : List (RecoveryOpportunity × Score)) :
    (placements capacity items).map Placement.verdict =
      ((ranking items).take capacity).map (·, .act, allocated) ++
      ((ranking items).drop capacity).map (·, .wait, deferred) ++
      (items.filter (!isEligible ·)).map (·, .abstain, abstained) := by
  rw [placements, List.map_append]
  congr 1
  · refine map_mapIdx_eq_take_append (fun i a hi => ?_) fun i a hi => ?_
    · simp [rankedPlacement, Placement.verdict, Placement.item, Nat.succ_le_of_lt hi]
    · simp [rankedPlacement, Placement.verdict, Placement.item,
        Nat.not_le_of_lt (Nat.lt_succ_of_le hi)]
  · generalize shadowPrice capacity (ranking items) = price
    induction items with
    | nil => rfl
    | cons item items ih =>
      cases h : abstainReason item.1 item.2 with
      | none => simp [h, isEligible, ih]
      | some reason => simp [h, isEligible, ih, abstainPlacement, Placement.verdict, Placement.item]

lemma placements_outcome (capacity : ℕ) (items : List (RecoveryOpportunity × Score)) :
    (placements capacity items).map Placement.outcome =
      ((ranking items).take capacity).map (fun item => (item.1.id, .act, allocated)) ++
      ((ranking items).drop capacity).map (fun item => (item.1.id, .wait, deferred)) ++
      (items.filter (!isEligible ·)).map fun item => (item.1.id, .abstain, abstained) := by
  have hmap : (placements capacity items).map Placement.outcome =
      ((placements capacity items).map Placement.verdict).map fun v => (v.1.1.id, v.2) := by
    rw [List.map_map]
    rfl
  rw [hmap, placements_verdict]
  simp only [List.map_append, List.map_map, Function.comp_def]

def placementWrites (ps : List Placement) : List (String × OpportunityStatus) :=
  ps.map fun p => (p.opportunity.id, p.status)

lemma ne_recovered_of_mem_placementWrites {capacity : ℕ} {items : List (RecoveryOpportunity × Score)}
    {w : String × OpportunityStatus} (h : w ∈ placementWrites (placements capacity items)) :
    w.2 ≠ recovered := by
  obtain ⟨p, hp, rfl⟩ := List.mem_map.mp h
  have hout := List.mem_map_of_mem (f := Placement.outcome) hp
  simp only [placements_outcome, List.mem_append, List.mem_map] at hout
  rcases hout with (⟨o, -, ho⟩ | ⟨o, -, ho⟩) | ⟨o, -, ho⟩ <;>
  · have hstatus : _ = p.status := congrArg (fun x => x.2.2) ho
    rw [← hstatus]
    simp

section Place

variable {db : Db} {ps : List Placement}

lemma sameRows_foldl_place (db : Db) (ps : List Placement) :
    SameRows (db.writeStatuses (placementWrites ps)) (ps.foldl place db) := by
  induction ps generalizing db with
  | nil => exact .refl db
  | cons p ps ih =>
    have hplace : SameRows (db.updateStatus p.opportunity.id p.status) (place db p) :=
      ⟨rfl, rfl, rfl, rfl⟩
    exact (hplace.writeStatuses _).trans (ih (place db p))

@[simp] lemma foldl_place_scores : (ps.foldl place db).scores = db.scores := by
  induction ps generalizing db with
  | nil => rfl
  | cons p ps ih =>
    rw [List.foldl_cons, ih]
    exact Db.updateStatus_scores

lemma sameBooks_foldl_place (db : Db) (ps : List Placement) : SameBooks db (ps.foldl place db) := by
  induction ps generalizing db with
  | nil => exact .refl db
  | cons p ps ih =>
    have hplace : SameBooks (db.updateStatus p.opportunity.id p.status) (place db p) :=
      ⟨rfl, rfl, rfl⟩
    exact ((SameBooks.updateStatus db _ _).trans hplace).trans (ih (place db p))

lemma sameBooks_allocateAmong (est : Estimator) (capacity : ℕ) (opps : List RecoveryOpportunity)
    (db : Db) : SameBooks db (allocateAmong est capacity opps db).2 :=
  (sameBooks_scoreItems est db opps).trans (sameBooks_foldl_place _ _)

lemma getAllocationDecisionByOpportunityId_place (p : Placement) (id : String) :
    (place db p).getAllocationDecisionByOpportunityId id =
      if id = p.decision.opportunityId then some p.decision
      else db.getAllocationDecisionByOpportunityId id := by
  have hput : (place db p).getAllocationDecisionByOpportunityId id =
      if id = p.decision.opportunityId then some p.decision
      else (db.updateStatus p.opportunity.id p.status).allocationDecisions.find? id := Table.find?_put
  rw [hput, Db.updateStatus_allocationDecisions, Db.getAllocationDecisionByOpportunityId]

lemma getAllocationDecisionByOpportunityId_foldl_place_of_notMem {id : String}
    (h : id ∉ ps.map (·.decision.opportunityId)) :
    (ps.foldl place db).getAllocationDecisionByOpportunityId id =
      db.getAllocationDecisionByOpportunityId id := by
  induction ps generalizing db with
  | nil => rfl
  | cons p ps ih =>
    simp only [List.map_cons, List.mem_cons, not_or] at h
    rw [List.foldl_cons, ih h.2, getAllocationDecisionByOpportunityId_place, if_neg h.1]

lemma getAllocationDecisionByOpportunityId_foldl_place_of_mem
    (hnodup : (ps.map (·.decision.opportunityId)).Nodup) {p : Placement} (h : p ∈ ps) :
    (ps.foldl place db).getAllocationDecisionByOpportunityId p.decision.opportunityId =
      some p.decision := by
  induction ps generalizing db with
  | nil => cases h
  | cons q ps ih =>
    simp only [List.map_cons, List.nodup_cons] at hnodup
    rw [List.foldl_cons]
    rcases List.mem_cons.mp h with rfl | h
    · rw [getAllocationDecisionByOpportunityId_foldl_place_of_notMem hnodup.1,
        getAllocationDecisionByOpportunityId_place, if_pos rfl]
    · exact ih hnodup.2 h

end Place

/-! ### A run -/

variable {platform : Platform} {est : Estimator} {options : AllocationOptions} {db : Db}

/-- The placements that a run makes. -/
def runPlacements (platform : Platform) (est : Estimator) (options : AllocationOptions) (db : Db) :
    List Placement :=
  placements (resolveCapacity platform db options)
    ((candidates db options.tenantId options.environment).map fun o =>
      (o, effectiveScore est db o))

/-- The opportunities to which a run gives `ACT`. -/
def winners (platform : Platform) (est : Estimator) (options : AllocationOptions) (db : Db) :
    List RecoveryOpportunity :=
  (ranked est db options.tenantId options.environment).take (resolveCapacity platform db options)

/-- The status writes of a run: what asking for the scores writes, then the placements. -/
def allocationWrites (platform : Platform) (est : Estimator) (options : AllocationOptions)
    (db : Db) : List (String × OpportunityStatus) :=
  (candidates db options.tenantId options.environment).flatMap (scoringWrites db) ++
    placementWrites (runPlacements platform est options db)

lemma runMarketAllocation_snd :
    (runMarketAllocation platform est options db).2 =
      (runPlacements platform est options db).foldl place
        (scoreItems est db (candidates db options.tenantId options.environment)).2 := by
  rw [runMarketAllocation, allocateAmong, runPlacements, scoreItems_fst nodup_candidates]

lemma sameBooks_runMarketAllocation : SameBooks db (runMarketAllocation platform est options db).2 := by
  rw [runMarketAllocation]
  exact sameBooks_allocateAmong est _ _ db

lemma sameRows_runMarketAllocation :
    SameRows (db.writeStatuses (allocationWrites platform est options db))
      (runMarketAllocation platform est options db).2 := by
  rw [runMarketAllocation_snd, allocationWrites, Db.writeStatuses_append]
  exact ((sameRows_scoreItems nodup_candidates).writeStatuses _).trans (sameRows_foldl_place _ _)

lemma runPlacements_outcome :
    (runPlacements platform est options db).map Placement.outcome =
      (winners platform est options db).map (fun o => (o.id, .act, allocated)) ++
      ((ranked est db options.tenantId options.environment).drop
        (resolveCapacity platform db options)).map (fun o => (o.id, .wait, deferred)) ++
      ((candidates db options.tenantId options.environment).filter fun o =>
        !isEligible (o, effectiveScore est db o)).map fun o => (o.id, .abstain, abstained) := by
  rw [runPlacements, placements_outcome, ranking_eq, ← List.map_take, ← List.map_drop,
    List.filter_map]
  simp only [List.map_map]
  rfl

lemma ne_recovered_of_mem_allocationWrites {w : String × OpportunityStatus}
    (h : w ∈ allocationWrites platform est options db) : w.2 ≠ recovered := by
  rcases List.mem_append.mp h with h | h
  · obtain ⟨o, -, hw⟩ := List.mem_flatMap.mp h
    rw [(mem_scoringWrites hw).1]
    simp
  · exact ne_recovered_of_mem_placementWrites h

/-- A run places each of its candidates once. -/
lemma runPlacements_ids_perm :
    ((runPlacements platform est options db).map (·.opportunity.id)).Perm
      ((candidates db options.tenantId options.environment).map (·.id)) := by
  have hids : (runPlacements platform est options db).map (·.opportunity.id) =
      ((runPlacements platform est options db).map Placement.outcome).map Prod.fst := by
    rw [List.map_map]
    rfl
  have hranked : ((ranked est db options.tenantId options.environment).map (·.id)).Perm
      ((eligible est db options.tenantId options.environment).map (·.id)) :=
    (rank_perm _ _).map _
  rw [hids, runPlacements_outcome, winners]
  simp only [List.map_append, List.map_map, Function.comp_def]
  rw [← List.map_append, List.take_append_drop]
  refine (hranked.append_right _).trans ?_
  rw [eligible, ← List.map_append]
  exact (List.filter_append_perm _ _).map _

lemma nodup_runPlacements :
    ((runPlacements platform est options db).map (·.opportunity.id)).Nodup :=
  runPlacements_ids_perm.nodup_iff.mpr nodup_candidates

/-- The status that a run leaves a row in. -/
def placedStatus (platform : Platform) (est : Estimator) (options : AllocationOptions) (db : Db)
    (o : RecoveryOpportunity) : OpportunityStatus :=
  if o ∈ candidates db options.tenantId options.environment then
    if o ∈ winners platform est options db then allocated
    else if o ∈ ranked est db options.tenantId options.environment then deferred
    else abstained
  else o.status

/-- Every candidate is placed with its status, and with `ACT` when it is a winner. -/
lemma exists_placement (platform : Platform) (est : Estimator) {o : RecoveryOpportunity}
    (h : o ∈ candidates db options.tenantId options.environment) :
    ∃ p ∈ runPlacements platform est options db, p.opportunity.id = o.id ∧
      p.status = placedStatus platform est options db o ∧
      (o ∈ winners platform est options db → p.decision.decision = .act) := by
  have hmem : ∃ d, (o.id, d, placedStatus platform est options db o) ∈
      (runPlacements platform est options db).map Placement.outcome ∧
      (o ∈ winners platform est options db → d = .act) := by
    rw [runPlacements_outcome, placedStatus, if_pos h]
    by_cases hw : o ∈ winners platform est options db
    · refine ⟨.act, ?_, fun _ => rfl⟩
      rw [if_pos hw, List.append_assoc]
      exact List.mem_append_left _ (List.mem_map_of_mem hw)
    · rw [if_neg hw]
      by_cases hr : o ∈ ranked est db options.tenantId options.environment
      · refine ⟨.wait, ?_, fun h => absurd h hw⟩
        have hdrop : o ∈ (ranked est db options.tenantId options.environment).drop
            (resolveCapacity platform db options) := by
          rw [← List.take_append_drop (resolveCapacity platform db options)
            (ranked est db options.tenantId options.environment)] at hr
          exact (List.mem_append.mp hr).resolve_left hw
        rw [if_pos hr]
        exact List.mem_append_left _ (List.mem_append_right _ (List.mem_map_of_mem hdrop))
      · refine ⟨.abstain, ?_, fun h => absurd h hw⟩
        have hnot : o ∈ (candidates db options.tenantId options.environment).filter fun o =>
            !isEligible (o, effectiveScore est db o) := by
          rw [List.mem_filter]
          refine ⟨h, ?_⟩
          simpa [mem_ranked, h] using hr
        rw [if_neg hr]
        exact List.mem_append_right _ (List.mem_map_of_mem hnot)
  obtain ⟨d, hd, hact⟩ := hmem
  obtain ⟨p, hp, hout⟩ := List.mem_map.mp hd
  simp only [Placement.outcome, Prod.mk.injEq] at hout
  exact ⟨p, hp, hout.1, hout.2.2, fun hw => hout.2.1.trans (hact hw)⟩

end Market

end CtrlRecovery
