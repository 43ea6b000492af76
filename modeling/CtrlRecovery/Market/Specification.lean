import CtrlRecovery.Db.Sample
import CtrlRecovery.Market.Allocation

/-!
# The specification of an allocation run

`AllocatesBest` is what a run with a capacity promises for the opportunities that it is given: one
decision for each, `ACT` for as many admissible ones as the capacity allows, no `WAIT` worth more
than an `ACT`, `ABSTAIN` for the others, ranks without gaps, the value of the last `ACT` as the
shadow price of a capacity that binds, and a total value that no other choice within the capacity
exceeds.
-/

namespace CtrlRecovery

open Core OpportunityStatus OpportunityRepository Scorer AntiBlastEngine

namespace Market

/-! ### Admissible opportunities -/

def IsAdmissible (item : RecoveryOpportunity × Score) : Prop :=
  item.2.confidence ≠ .low ∧ 0 < item.2.expectedIncrementalValuePaise ∧
    ¬ isSyntheticHoldout item.1.id

instance : DecidablePred IsAdmissible := fun _ => inferInstanceAs (Decidable (_ ∧ _ ∧ _))

lemma isEligible_eq (item : RecoveryOpportunity × Score) :
    isEligible item = decide (IsAdmissible item) := by
  rw [isEligible, abstainReason]
  split_ifs with hlow hvalue hholdout
  · simp [IsAdmissible, hlow]
  · simp [IsAdmissible, hvalue]
  · simp [IsAdmissible, hholdout]
  · simp [IsAdmissible, hlow, hholdout, not_le.mp hvalue]

lemma mem_ranking {items : List (RecoveryOpportunity × Score)} {item : RecoveryOpportunity × Score} :
    item ∈ ranking items ↔ item ∈ items ∧ IsAdmissible item := by
  rw [ranking, mem_rank, List.mem_filter, isEligible_eq, decide_eq_true_eq]

lemma length_ranking (items : List (RecoveryOpportunity × Score)) :
    (ranking items).length = items.countP (IsAdmissible ·) := by
  rw [ranking, length_rank, List.countP_eq_length_filter,
    show isEligible = fun item => decide (IsAdmissible item) from funext isEligible_eq]

/-! ### The specification -/

/-- What an allocation run with a capacity and the scores of the opportunities promises. -/
structure AllocatesBest (capacity : ℕ) (score : RecoveryOpportunity → Score)
    (opps : List RecoveryOpportunity) (run : MarketRunResult × Db) : Prop where
  /-- Every opportunity gets one decision. -/
  decided : (run.1.items.map (·.opportunity)).Perm opps
  scored : ∀ p ∈ run.1.items, p.score = score p.opportunity
  stored : ∀ p ∈ run.1.items,
    run.2.getAllocationDecisionByOpportunityId p.opportunity.id = some p.decision
  act_count : run.1.items.countP (·.decision.decision = .act) =
    min capacity (opps.countP fun o => IsAdmissible (o, score o))
  act_ge_wait : ∀ p ∈ run.1.items, ∀ q ∈ run.1.items, p.decision.decision = .act →
    q.decision.decision = .wait →
    q.score.expectedIncrementalValuePaise ≤ p.score.expectedIncrementalValuePaise
  abstain_iff : ∀ p ∈ run.1.items, p.decision.decision = .abstain ↔ ¬ IsAdmissible p.item
  ranks : ((run.1.items.filter (IsAdmissible ·.item)).map (·.decision.rankInBatch)).Perm
    (List.range' 1 (opps.countP fun o => IsAdmissible (o, score o)))
  /-- The price of a capacity that binds is the value of the last `ACT`. -/
  shadow_price : run.1.shadowPricePaise =
    if 0 < capacity ∧ capacity ≤ opps.countP fun o => IsAdmissible (o, score o) then
      ((run.1.items.filter (·.decision.decision = .act)).getLast?).elim 0
        (·.score.expectedIncrementalValuePaise)
    else 0
  /-- No other choice within the capacity is worth more. -/
  optimal : ∀ T : List RecoveryOpportunity, T.Nodup → T ⊆ opps →
    (∀ o ∈ T, IsAdmissible (o, score o)) → T.length ≤ capacity →
    (T.map fun o => (score o).expectedIncrementalValuePaise).sum ≤
      ((run.1.items.filter (·.decision.decision = .act)).map
        (·.score.expectedIncrementalValuePaise)).sum

/-! ### The placements -/

section Placements

variable (capacity : ℕ) (items : List (RecoveryOpportunity × Score))

lemma map_item_filter_placements (d : DecisionType) :
    ((placements capacity items).filter (·.decision.decision = d)).map Placement.item =
      (((placements capacity items).map Placement.verdict).filter (·.2.1 = d)).map Prod.fst := by
  rw [List.filter_map, List.map_map]
  rfl

lemma map_item_filter_act :
    ((placements capacity items).filter (·.decision.decision = .act)).map Placement.item =
      (ranking items).take capacity := by
  rw [map_item_filter_placements, placements_verdict]
  simp [List.filter_append, List.filter_map, Function.comp_def, -List.map_take, -List.map_drop]

lemma map_item_filter_wait :
    ((placements capacity items).filter (·.decision.decision = .wait)).map Placement.item =
      (ranking items).drop capacity := by
  rw [map_item_filter_placements, placements_verdict]
  simp [List.filter_append, List.filter_map, Function.comp_def, -List.map_take, -List.map_drop]

lemma map_item_placements_perm : ((placements capacity items).map Placement.item).Perm items := by
  have hverdict : (placements capacity items).map Placement.item =
      ((placements capacity items).map Placement.verdict).map Prod.fst := by
    rw [List.map_map]
    rfl
  rw [hverdict, placements_verdict]
  simp only [List.map_append, List.map_map, Function.comp_def, List.map_id']
  rw [List.take_append_drop, ranking]
  exact ((rank_perm _ _).append_right _).trans (List.filter_append_perm _ _)

variable {capacity items}

lemma item_mem_of_mem_placements {p : Placement} (h : p ∈ placements capacity items) :
    p.item ∈ items :=
  (map_item_placements_perm capacity items).mem_iff.mp (List.mem_map_of_mem h)

/-- Who is abstained from is not admissible, and the others are. -/
lemma decision_eq_abstain_iff {p : Placement} (h : p ∈ placements capacity items) :
    p.decision.decision = .abstain ↔ ¬ IsAdmissible p.item := by
  have hverdict := List.mem_map_of_mem (f := Placement.verdict) h
  simp only [placements_verdict, List.mem_append, List.mem_map, List.mem_filter] at hverdict
  rcases hverdict with (⟨item, hmem, hitem⟩ | ⟨item, hmem, hitem⟩) | ⟨item, hmem, hitem⟩
  · have hadm := (mem_ranking.mp (List.mem_of_mem_take hmem)).2
    simp only [Placement.verdict, Prod.mk.injEq] at hitem
    rw [← hitem.1, ← hitem.2.1]
    simp [hadm]
  · have hadm := (mem_ranking.mp (List.mem_of_mem_drop hmem)).2
    simp only [Placement.verdict, Prod.mk.injEq] at hitem
    rw [← hitem.1, ← hitem.2.1]
    simp [hadm]
  · simp only [Placement.verdict, Prod.mk.injEq] at hitem
    rw [← hitem.1, ← hitem.2.1]
    simpa [isEligible_eq] using hmem.2

/-- The admissible items are ranked without gaps. -/
lemma map_rankInBatch_filter (capacity : ℕ) (items : List (RecoveryOpportunity × Score)) :
    ((placements capacity items).filter (IsAdmissible ·.item)).map (·.decision.rankInBatch) =
      List.range' 1 (ranking items).length := by
  rw [placements, List.filter_append, List.map_append]
  generalize hprice : shadowPrice capacity (ranking items) = price
  have hranked : ((ranking items).mapIdx fun i item =>
      rankedPlacement capacity price (i + 1) item).filter (IsAdmissible ·.item) =
        (ranking items).mapIdx fun i item => rankedPlacement capacity price (i + 1) item := by
    rw [List.filter_eq_self]
    intro p hp
    obtain ⟨i, hi, rfl⟩ := List.mem_mapIdx.mp hp
    simpa [rankedPlacement, Placement.item] using (mem_ranking.mp (List.getElem_mem hi)).2
  have hrest : (items.filterMap fun item =>
      (abstainReason item.1 item.2).map (abstainPlacement price item)).filter (IsAdmissible ·.item) =
        [] := by
    rw [List.filter_eq_nil_iff]
    intro p hp
    obtain ⟨item, -, hitem⟩ := List.mem_filterMap.mp hp
    obtain ⟨reason, hreason, rfl⟩ := Option.map_eq_some_iff.mp hitem
    have hnot : isEligible item = false := by simp [isEligible, hreason]
    rw [isEligible_eq] at hnot
    simpa [abstainPlacement, Placement.item] using hnot
  rw [hranked, hrest, List.map_nil, List.append_nil]
  apply List.ext_getElem
  · simp
  · intro i hi hi'
    simp [rankedPlacement, Nat.add_comm]

/-- The shadow price of a capacity that binds is the value of the last `ACT`. -/
lemma shadowPrice_eq (capacity : ℕ) (items : List (RecoveryOpportunity × Score)) :
    shadowPrice capacity (ranking items) =
      if 0 < capacity ∧ capacity ≤ (ranking items).length then
        (((placements capacity items).filter (·.decision.decision = .act)).getLast?).elim 0
          (·.score.expectedIncrementalValuePaise)
      else 0 := by
  rw [shadowPrice]
  split_ifs with hbinds hbinds' hbinds'
  · have hlast : (((placements capacity items).filter (·.decision.decision = .act)).getLast?).map
        Placement.item = (ranking items)[capacity - 1]? := by
      rw [← List.getLast?_map, map_item_filter_act, List.getLast?_take, if_neg hbinds'.1.ne',
        List.getElem?_eq_getElem (by omega), Option.some_or]
    rw [← hlast, Option.elim_map]
    rfl
  · exact absurd ⟨hbinds.2, hbinds.1⟩ hbinds'
  · exact absurd ⟨hbinds'.2, hbinds'.1⟩ hbinds
  · rfl

end Placements

/-! ### Every run allocates best -/

section Runs

variable {platform : Platform} {est : Estimator} {capacity : ℕ} {opps : List RecoveryOpportunity}
  {db : Db}

lemma map_fst_scored (score : RecoveryOpportunity → Score) (opps : List RecoveryOpportunity) :
    (opps.map fun o => (o, score o)).map Prod.fst = opps := by
  rw [List.map_map]
  exact List.map_id _

lemma countP_scored (score : RecoveryOpportunity → Score) (opps : List RecoveryOpportunity) :
    (opps.map fun o => (o, score o)).countP (IsAdmissible ·) =
      opps.countP fun o => IsAdmissible (o, score o) := by
  rw [List.countP_map]
  rfl

/-- The `ACT`s of a run are worth at least any choice of admissible opportunities within the
capacity. -/
lemma sum_le_sum_act {score : RecoveryOpportunity → Score} {T : List RecoveryOpportunity}
    (hnodup : T.Nodup) (hsub : T ⊆ opps) (hadm : ∀ o ∈ T, IsAdmissible (o, score o))
    (hlength : T.length ≤ capacity) :
    (T.map fun o => (score o).expectedIncrementalValuePaise).sum ≤
      (((placements capacity (opps.map fun o => (o, score o))).filter
        (·.decision.decision = .act)).map (·.score.expectedIncrementalValuePaise)).sum := by
  set items := opps.map fun o => (o, score o)
  have hact : ((placements capacity items).filter (·.decision.decision = .act)).map
      (·.score.expectedIncrementalValuePaise) =
        ((ranking items).take capacity).map (·.2.expectedIncrementalValuePaise) := by
    rw [← map_item_filter_act, List.map_map]
    rfl
  have hchoice : T.map (fun o => (score o).expectedIncrementalValuePaise) =
      (T.map fun o => (o, score o)).map (·.2.expectedIncrementalValuePaise) := by
    rw [List.map_map]
    rfl
  rw [hact, hchoice, ranking]
  apply sum_le_sum_take_rank
  · exact hnodup.map fun o o' h => congrArg Prod.fst h
  · intro item hitem
    obtain ⟨o, ho, rfl⟩ := List.mem_map.mp hitem
    rw [List.mem_filter, isEligible_eq, decide_eq_true_eq]
    exact ⟨List.mem_map_of_mem (hsub ho), hadm o ho⟩
  · intro item hitem
    rw [List.mem_filter, isEligible_eq, decide_eq_true_eq] at hitem
    exact hitem.2.2.1.le
  · simpa using hlength

lemma allocateAmong_allocatesBest (hnodup : (opps.map (·.id)).Nodup) :
    AllocatesBest capacity (effectiveScore est db) opps (allocateAmong est capacity opps db) := by
  set items := opps.map fun o => (o, effectiveScore est db o) with hitems
  have hrun : (allocateAmong est capacity opps db).1.items = placements capacity items := by
    rw [allocateAmong, scoreItems_fst hnodup]
  have hprice : (allocateAmong est capacity opps db).1.shadowPricePaise =
      shadowPrice capacity (ranking items) := by
    rw [allocateAmong, scoreItems_fst hnodup]
  have hlength : (ranking items).length =
      opps.countP fun o => IsAdmissible (o, effectiveScore est db o) := by
    rw [length_ranking, countP_scored]
  have hdecided : ((placements capacity items).map (·.opportunity)).Perm opps := by
    have hmap : (placements capacity items).map (·.opportunity) =
        ((placements capacity items).map Placement.item).map Prod.fst := by
      rw [List.map_map]
      rfl
    rw [hmap, ← map_fst_scored (effectiveScore est db) opps, ← hitems]
    exact (map_item_placements_perm capacity items).map _
  constructor <;> rw [hrun]
  case decided => exact hdecided
  case scored =>
    intro p hp
    obtain ⟨o, -, ho⟩ := List.mem_map.mp (item_mem_of_mem_placements hp)
    simp only [Placement.item, Prod.mk.injEq] at ho
    rw [← ho.1, ← ho.2]
  case stored =>
    intro p hp
    have haddr := decision_opportunityId_of_mem hp
    have hids : ((placements capacity items).map (·.decision.opportunityId)).Nodup := by
      rw [List.map_congr_left fun q hq => decision_opportunityId_of_mem hq]
      have := (hdecided.map (·.id)).nodup_iff.mpr hnodup
      rwa [List.map_map] at this
    rw [allocateAmong, scoreItems_fst hnodup, ← haddr]
    exact getAllocationDecisionByOpportunityId_foldl_place_of_mem hids hp
  case act_count =>
    rw [List.countP_eq_length_filter, ← List.length_map Placement.item, map_item_filter_act,
      List.length_take, hlength]
  case act_ge_wait =>
    intro p hp q hq hact hwait
    have hpact : p.item ∈ (ranking items).take capacity := by
      rw [← map_item_filter_act]
      exact List.mem_map_of_mem (List.mem_filter.mpr ⟨hp, by simpa using hact⟩)
    have hqwait : q.item ∈ (ranking items).drop capacity := by
      rw [← map_item_filter_wait]
      exact List.mem_map_of_mem (List.mem_filter.mpr ⟨hq, by simpa using hwait⟩)
    have hsorted := pairwise_rank (·.2.expectedIncrementalValuePaise) (items.filter isEligible)
    rw [← List.take_append_drop capacity (rank _ _), List.pairwise_append] at hsorted
    exact hsorted.2.2 _ hpact _ hqwait
  case abstain_iff => exact fun p hp => decision_eq_abstain_iff hp
  case ranks => rw [map_rankInBatch_filter, hlength]
  case shadow_price => rw [hprice, shadowPrice_eq, hlength]
  case optimal => exact fun T hT hsub hadm hle => sum_le_sum_act hT hsub hadm hle

lemma runMarketAllocationOn_of_waiting {tenantId : Option String} {environment : Option Environment}
    (hwaiting : ∀ o ∈ opps, isAllocatable o.status) :
    runMarketAllocationOn platform est ⟨some capacity, tenantId, environment⟩ opps db =
      if db.Stores opps then some (allocateAmong est capacity opps db) else none := by
  have hall : opps.filter (fun o => isAllocatable o.status) = opps :=
    List.filter_eq_self.mpr hwaiting
  rw [runMarketAllocationOn, hall]
  rfl

/-- A run on stored opportunities that all wait decides on each of them, and chooses best. -/
theorem runMarketAllocationOn_allocatesBest {tenantId : Option String}
    {environment : Option Environment} (hstored : db.Stores opps) (hnodup : (opps.map (·.id)).Nodup)
    (hwaiting : ∀ o ∈ opps, isAllocatable o.status) :
    ∃ run ∈ runMarketAllocationOn platform est ⟨some capacity, tenantId, environment⟩ opps db,
      AllocatesBest capacity (effectiveScore est db) opps run := by
  rw [runMarketAllocationOn_of_waiting hwaiting, if_pos hstored]
  exact ⟨_, rfl, allocateAmong_allocatesBest hnodup⟩

/-- A pending, a scored and a deferred opportunity. -/
def waitingSample : List RecoveryOpportunity :=
  [sampleOpportunity "opp_1" pending, sampleOpportunity "opp_2" scored,
    sampleOpportunity "opp_3" deferred]

/-- They compete for one place. -/
theorem runMarketAllocationOn_allocatesBest_waiting :
    ∃ run ∈ runMarketAllocationOn .plain .sample ⟨some 1, none, none⟩ waitingSample
        (.ofRows waitingSample []),
      AllocatesBest 1 (effectiveScore .sample (.ofRows waitingSample [])) waitingSample run :=
  runMarketAllocationOn_allocatesBest (by decide) (by decide) (by decide)

/-- A run on the stored opportunities of its scope chooses best among them. -/
theorem runMarketAllocation_allocatesBest {options : AllocationOptions} :
    AllocatesBest (resolveCapacity platform db options) (effectiveScore est db)
      (candidates db options.tenantId options.environment)
      (runMarketAllocation platform est options db) :=
  allocateAmong_allocatesBest nodup_candidates

end Runs

end Market

end CtrlRecovery
