import CtrlRecovery.Market.Rounds
import CtrlRecovery.Market.Specification

/-!
# Capacity over successive runs

Runs of one scope, one after the other, each with a capacity of its own. Together they do what a single
run with the sum of their capacities does: the same opportunities get `ACT`, in the same order and each
once, and every row is left with the same status (`allocateInTurn_eq_runMarketAllocation`).
-/

namespace CtrlRecovery

open Core OpportunityStatus Scorer

namespace Market

/-- The opportunities to which a run gives `ACT`, as it lists them. -/
def MarketRunResult.actIds (result : MarketRunResult) : List String :=
  (result.items.filter (·.decision.decision = .act)).map (·.decision.opportunityId)

/-- Runs of a scope, one after the other: the `ACT`s of each, and the database after them. -/
def allocateInTurn (platform : Platform) (est : Estimator) (tenantId : Option String)
    (environment : Option Environment) : Db → List (Option ℕ) → List (List String) × Db
  | db, []                => ([], db)
  | db, capacity :: later =>
    let run := runMarketAllocation platform est ⟨capacity, tenantId, environment⟩ db
    let rest := allocateInTurn platform est tenantId environment run.2 later
    (run.1.actIds :: rest.1, rest.2)

/-- What the capacities come to; one that is left out is looked up. -/
def totalCapacity (platform : Platform) (db : Db) (tenantId : Option String)
    (environment : Option Environment) (capacities : List (Option ℕ)) : ℕ :=
  (capacities.map fun capacity => resolveCapacity platform db ⟨capacity, tenantId, environment⟩).sum

section

variable {platform : Platform} {est : Estimator} {options : AllocationOptions} {db : Db}
  {tenantId : Option String} {environment : Option Environment} {o : RecoveryOpportunity}

lemma allocateInTurn_cons (capacity : Option ℕ) (later : List (Option ℕ)) :
    allocateInTurn platform est tenantId environment db (capacity :: later) =
      ((runMarketAllocation platform est ⟨capacity, tenantId, environment⟩ db).1.actIds ::
          (allocateInTurn platform est tenantId environment
            (runMarketAllocation platform est ⟨capacity, tenantId, environment⟩ db).2 later).1,
        (allocateInTurn platform est tenantId environment
          (runMarketAllocation platform est ⟨capacity, tenantId, environment⟩ db).2 later).2) := by
  rfl

@[simp] lemma resolveCapacity_some (capacity : ℕ) :
    resolveCapacity platform db ⟨some capacity, tenantId, environment⟩ = capacity := rfl

lemma items_runMarketAllocation :
    (runMarketAllocation platform est options db).1.items = runPlacements platform est options db := by
  rw [runMarketAllocation, allocateAmong, runPlacements, scoreItems_fst nodup_candidates]

/-- A run gives `ACT` to its winners, by value. -/
lemma actIds_runMarketAllocation :
    (runMarketAllocation platform est options db).1.actIds =
      (winners platform est options db).map (·.id) := by
  have hitems : (runMarketAllocation platform est options db).1.actIds =
      (((runPlacements platform est options db).filter (·.decision.decision = .act)).map
        Placement.item).map (·.1.id) := by
    rw [MarketRunResult.actIds, items_runMarketAllocation, List.map_map]
    refine List.map_congr_left fun p hp => ?_
    exact decision_opportunityId_of_mem (List.mem_of_mem_filter hp)
  rw [hitems, runPlacements, map_item_filter_act, ranking_eq, ← List.map_take, List.map_map]
  rfl

lemma resolveCapacity_runMarketAllocation (options' : AllocationOptions) :
    resolveCapacity platform (runMarketAllocation platform est options db).2 options' =
      resolveCapacity platform db options' := by
  rw [resolveCapacity, resolveCapacity, restatus_runMarketAllocation.tenantRow_eq]

/-! ### Two runs -/

lemma mem_map_withStatus_iff {f : RecoveryOpportunity → OpportunityStatus}
    {opps : List RecoveryOpportunity} (hopps : ∀ o' ∈ opps, o' ∈ db.opportunities.rows)
    (ho : o ∈ db.opportunities.rows) :
    o.withStatus (f o) ∈ opps.map (fun o => o.withStatus (f o)) ↔ o ∈ opps := by
  refine ⟨fun hmem => ?_, fun hmem => List.mem_map.mpr ⟨o, hmem, rfl⟩⟩
  obtain ⟨o', ho', heq⟩ := List.mem_map.mp hmem
  have hid : o'.id = o.id := by simpa using congrArg RecoveryOpportunity.id heq
  rwa [← eq_of_mem_rows (hopps o' ho') ho hid]

/-- The rows of the scope that wait after a run are the candidates of the next one. -/
lemma withStatus_mem_candidates_iff (ho : o ∈ db.opportunities.rows) :
    o.withStatus (placedStatus platform est options db o) ∈
        candidates (runMarketAllocation platform est options db).2 options.tenantId
          options.environment ↔
      o ∈ db.getAllOpportunities options.tenantId
          (resolveEnvironment db options.tenantId options.environment) ∧
        isAllocatable (placedStatus platform est options db o) := by
  rw [candidates, restatus_runMarketAllocation.scope_eq, List.mem_filter]
  exact and_congr_left fun _ =>
    mem_map_withStatus_iff (fun o' ho' => (db.mem_getAllOpportunities.mp ho').1) ho

/-- Of the ranking that a run leaves behind its winners, the next run has as many rows. -/
lemma withStatus_mem_take_ranked_iff (ho : o ∈ db.opportunities.rows) (n : ℕ) :
    o.withStatus (placedStatus platform est options db o) ∈
        (ranked est (runMarketAllocation platform est options db).2 options.tenantId
          options.environment).take n ↔
      o ∈ ((ranked est db options.tenantId options.environment).drop
        (resolveCapacity platform db options)).take n := by
  rw [ranked_runMarketAllocation, ← List.map_take]
  refine mem_map_withStatus_iff (fun o' ho' => ?_) ho
  exact mem_rows_of_mem_candidates
    (mem_ranked.mp (List.mem_of_mem_drop (List.mem_of_mem_take ho'))).1

lemma placedStatus_of_ranked (capacity : Option ℕ) (h : o ∈ ranked est db tenantId environment) :
    placedStatus platform est ⟨capacity, tenantId, environment⟩ db o =
      if o ∈ winners platform est ⟨capacity, tenantId, environment⟩ db then allocated
      else deferred := by
  rw [placedStatus, if_pos (mem_ranked.mp h).1, if_pos h]

lemma placedStatus_of_not_waiting (ho : o ∈ db.opportunities.rows) (later : ℕ)
    (h : o ∈ candidates db options.tenantId options.environment →
      ¬ isAllocatable (placedStatus platform est options db o)) :
    placedStatus platform est ⟨some later, options.tenantId, options.environment⟩
        (runMarketAllocation platform est options db).2
        (o.withStatus (placedStatus platform est options db o)) =
      placedStatus platform est options db o := by
  refine placedStatus_of_notMem fun hnext => ?_
  obtain ⟨hscope, hwaits⟩ := (withStatus_mem_candidates_iff ho).mp hnext
  by_cases hcand : o ∈ candidates db options.tenantId options.environment
  · exact h hcand hwaits
  · rw [placedStatus_of_notMem hcand] at hwaits
    exact hcand (List.mem_filter.mpr ⟨hscope, hwaits⟩)

/-- The next run places a row as one run with both capacities does. -/
lemma placedStatus_runMarketAllocation (ho : o ∈ db.opportunities.rows) (later : ℕ) :
    placedStatus platform est ⟨some later, options.tenantId, options.environment⟩
        (runMarketAllocation platform est options db).2
        (o.withStatus (placedStatus platform est options db o)) =
      placedStatus platform est
        ⟨some (resolveCapacity platform db options + later), options.tenantId, options.environment⟩
        db o := by
  by_cases hcand : o ∈ candidates db options.tenantId options.environment
  · have hboth : o ∈ winners platform est ⟨some (resolveCapacity platform db options + later),
        options.tenantId, options.environment⟩ db ↔
          o ∈ winners platform est options db ∨
            o ∈ ((ranked est db options.tenantId options.environment).drop
              (resolveCapacity platform db options)).take later := by
      rw [winners, winners, resolveCapacity_some, List.take_add, List.mem_append]
    have hplaced : placedStatus platform est options db o =
        if o ∈ winners platform est options db then allocated
        else if o ∈ ranked est db options.tenantId options.environment then deferred
        else abstained := if_pos hcand
    by_cases hwin : o ∈ winners platform est options db
    · rw [if_pos hwin] at hplaced
      rw [placedStatus_of_not_waiting ho later fun _ => by simp [hplaced, isAllocatable], hplaced,
        placedStatus, if_pos hcand, if_pos (hboth.mpr (.inl hwin))]
    · by_cases hrank : o ∈ ranked est db options.tenantId options.environment
      · -- it is deferred, so that the next run ranks it
        have hranked : o.withStatus (placedStatus platform est options db o) ∈
            ranked est (runMarketAllocation platform est options db).2 options.tenantId
              options.environment := by
          have hdrop : o ∈ (ranked est db options.tenantId options.environment).drop
              (resolveCapacity platform db options) := by
            rw [← List.take_append_drop (resolveCapacity platform db options) (ranked _ _ _ _),
              List.mem_append] at hrank
            exact hrank.resolve_left hwin
          rw [ranked_runMarketAllocation]
          exact List.mem_map.mpr ⟨o, hdrop, rfl⟩
        rw [placedStatus_of_ranked (some later) hranked,
          placedStatus_of_ranked (some (resolveCapacity platform db options + later)) hrank]
        refine if_congr ?_ rfl rfl
        rw [hboth, or_iff_right hwin]
        exact withStatus_mem_take_ranked_iff ho later
      · rw [if_neg hwin, if_neg hrank] at hplaced
        have hlater : o ∉ winners platform est ⟨some (resolveCapacity platform db options + later),
            options.tenantId, options.environment⟩ db := fun h => hrank (List.mem_of_mem_take h)
        rw [placedStatus_of_not_waiting ho later fun _ => by simp [hplaced, isAllocatable], hplaced,
          placedStatus, if_pos hcand, if_neg hlater, if_neg hrank]
  · have hplaced : placedStatus platform est options db o = o.status := placedStatus_of_notMem hcand
    rw [placedStatus_of_not_waiting ho later fun h => absurd h hcand, hplaced, placedStatus,
      if_neg hcand]

/-! ### Any number of runs -/

lemma runMarketAllocation_resolveCapacity (options : AllocationOptions) :
    runMarketAllocation platform est
        ⟨some (resolveCapacity platform db options), options.tenantId, options.environment⟩ db =
      runMarketAllocation platform est options db := rfl

lemma totalCapacity_cons (capacity : Option ℕ) (later : List (Option ℕ)) :
    totalCapacity platform db tenantId environment (capacity :: later) =
      resolveCapacity platform db ⟨capacity, tenantId, environment⟩ +
        totalCapacity platform db tenantId environment later := by
  rw [totalCapacity, totalCapacity, List.map_cons, List.sum_cons]

lemma totalCapacity_runMarketAllocation (capacities : List (Option ℕ)) :
    totalCapacity platform (runMarketAllocation platform est options db).2 tenantId environment
        capacities =
      totalCapacity platform db tenantId environment capacities := by
  simp only [totalCapacity, resolveCapacity_runMarketAllocation]

/-- The `ACT`s of a run and of the next one are those of one run with both capacities. -/
lemma actIds_append (options : AllocationOptions) (later : ℕ) :
    (runMarketAllocation platform est options db).1.actIds ++
        (runMarketAllocation platform est ⟨some later, options.tenantId, options.environment⟩
          (runMarketAllocation platform est options db).2).1.actIds =
      (runMarketAllocation platform est
        ⟨some (resolveCapacity platform db options + later), options.tenantId, options.environment⟩
        db).1.actIds := by
  rw [actIds_runMarketAllocation, actIds_runMarketAllocation, actIds_runMarketAllocation, winners,
    winners, winners, resolveCapacity_some, resolveCapacity_some, ranked_runMarketAllocation,
    ← List.map_take, List.map_map, List.take_add, List.map_append]
  rfl

lemma rows_runMarketAllocation_twice (options : AllocationOptions) (later : ℕ) :
    (runMarketAllocation platform est ⟨some later, options.tenantId, options.environment⟩
        (runMarketAllocation platform est options db).2).2.opportunities.rows =
      (runMarketAllocation platform est
        ⟨some (resolveCapacity platform db options + later), options.tenantId, options.environment⟩
        db).2.opportunities.rows := by
  rw [rows_runMarketAllocation, rows_runMarketAllocation, rows_runMarketAllocation, List.map_map]
  refine List.map_congr_left fun o ho => ?_
  rw [Function.comp_apply, placedStatus_runMarketAllocation ho later,
    RecoveryOpportunity.withStatus_withStatus]

/-- Runs of a scope, one after the other, give `ACT` to what one run with the sum of their capacities
gives it to, in the same order and to each once, and leave the opportunities as it does. -/
theorem allocateInTurn_eq_runMarketAllocation (capacity : Option ℕ) (later : List (Option ℕ)) :
    let inTurn := allocateInTurn platform est tenantId environment db (capacity :: later)
    let atOnce := runMarketAllocation platform est
      ⟨some (totalCapacity platform db tenantId environment (capacity :: later)), tenantId,
        environment⟩ db
    inTurn.1.flatten = atOnce.1.actIds ∧ inTurn.1.flatten.Nodup ∧
      inTurn.2.opportunities.rows = atOnce.2.opportunities.rows := by
  intro inTurn atOnce
  have hsame : inTurn.1.flatten = atOnce.1.actIds ∧
      inTurn.2.opportunities.rows = atOnce.2.opportunities.rows := by
    simp only [inTurn, atOnce]
    induction later generalizing db capacity with
    | nil =>
      rw [totalCapacity_cons, totalCapacity, List.map_nil, List.sum_nil, Nat.add_zero,
        runMarketAllocation_resolveCapacity ⟨capacity, tenantId, environment⟩]
      exact ⟨List.append_nil _, rfl⟩
    | cons next later ih =>
      obtain ⟨hacts, hrows⟩ := ih next
      rw [totalCapacity_runMarketAllocation] at hacts hrows
      rw [allocateInTurn_cons, totalCapacity_cons]
      constructor
      · rw [List.flatten_cons, hacts, actIds_append ⟨capacity, tenantId, environment⟩]
      · rw [hrows, rows_runMarketAllocation_twice ⟨capacity, tenantId, environment⟩]
  refine ⟨hsame.1, ?_, hsame.2⟩
  rw [hsame.1, actIds_runMarketAllocation, winners, List.map_take]
  have hids : ((ranked est db tenantId environment).map (·.id)).Nodup := by
    have hperm : ((ranked est db tenantId environment).map (·.id)).Perm
        ((eligible est db tenantId environment).map (·.id)) := (rank_perm _ _).map _
    rw [hperm.nodup_iff]
    exact nodup_candidates.sublist (List.filter_sublist.map _)
  exact hids.sublist (List.take_sublist _ _)

end

end Market

end CtrlRecovery
