import CtrlRecovery.Authority.Gate
import CtrlRecovery.Market.Rounds

/-!
# Who is authorized

The opportunities that a pipeline authorizes, in terms of the database that its allocation runs on:
the rows that were allocated before and are cleared with the decision they have, and the winners of
the runs that are cleared with `ACT`.
-/

namespace CtrlRecovery

open Core OpportunityStatus Scorer Market AuthorityRuleRegistry

namespace Authority

/-- The opportunities with an `AUTHORIZED` verdict. -/
def authorizedIds (results : List AuthorityEvaluationResult) : List String :=
  (results.filter fun r => r.verdict = .authorized).map (·.opportunityId)

variable {platform : Platform} {ks : KillSwitches} {est : Estimator} {now : Timestamp}
  {reason : String} {options : AllocationOptions} {db db' : Db}

lemma authorizedIds_evaluateAll {opps : List RecoveryOpportunity}
    (h : (opps.map (·.id)).Nodup) :
    authorizedIds (evaluateAll ks est now reason db opps).1 =
      (opps.filter fun o =>
        Cleared ks o (effectiveScore est db o).confidence (decisionType db o)).map (·.id) := by
  have hpairs : authorizedIds (evaluateAll ks est now reason db opps).1 =
      (((evaluateAll ks est now reason db opps).1.map fun r =>
        (r.opportunityId, r.verdict)).filter fun p => p.2 = .authorized).map Prod.fst := by
    rw [authorizedIds, List.filter_map, List.map_map]
    rfl
  rw [hpairs, evaluateAll_verdicts h, List.filter_map, List.map_map]
  refine congrArg (List.map _) (List.filter_congr fun o _ => ?_)
  simp [storedAnswer_verdict_iff]

abbrev scope (db : Db) (options : AllocationOptions) : List RecoveryOpportunity :=
  db.getAllOpportunities options.tenantId
    (resolveEnvironment db options.tenantId options.environment)

/-- The allocated rows of a scope that are cleared with the decision they have. -/
def carriedOver (ks : KillSwitches) (est : Estimator) (options : AllocationOptions) (db : Db) :
    List RecoveryOpportunity :=
  (scope db options).filter fun o => o.status = allocated ∧
    Cleared ks o (effectiveScore est db o).confidence (decisionType db o)

/-- Those of a list that are cleared with an `ACT` decision. -/
def clearedToAct (ks : KillSwitches) (est : Estimator) (db : Db)
    (opps : List RecoveryOpportunity) : List RecoveryOpportunity :=
  opps.filter fun o => Cleared ks o (effectiveScore est db o).confidence .act

def evaluatedAfter (options : AllocationOptions) (db : Db) : List RecoveryOpportunity :=
  (scope db options).filter fun o => isEvaluated o.status

lemma nodup_evaluatedAfter : ((evaluatedAfter options db).map (·.id)).Nodup :=
  (db.nodup_getAllOpportunities _ _).sublist (List.filter_sublist.map _)

lemma runAuthorityPipeline_results :
    (runAuthorityPipeline platform ks est now options db).1.results =
      (evaluateAll ks est now "Unallocated evaluation"
        (runMarketAllocation platform est options db).2
        (evaluatedAfter options (runMarketAllocation platform est options db).2)).1 := by
  rw [runAuthorityPipeline, evaluatedAfter, scope]

lemma runAuthorityPipeline_snd :
    (runAuthorityPipeline platform ks est now options db).2 =
      (evaluateAll ks est now "Unallocated evaluation"
        (runMarketAllocation platform est options db).2
        (evaluatedAfter options (runMarketAllocation platform est options db).2)).2 := by
  rw [runAuthorityPipeline, evaluatedAfter, scope]

lemma sameBooks_runAuthorityPipeline :
    SameBooks db (runAuthorityPipeline platform ks est now options db).2 := by
  rw [runAuthorityPipeline_snd]
  exact sameBooks_runMarketAllocation.trans (sameBooks_evaluateAll _ _)

section Count

variable {f : RecoveryOpportunity → OpportunityStatus} {won : List RecoveryOpportunity}

/-- What the allocation runs on the way from `db` to `db'` have done: of the waiting rows of the
scope, `won` are now allocated with an `ACT` decision and none is pending or scored any more; the
rows that were allocated before are so with the decision they had. -/
structure Allocated (est : Estimator) (options : AllocationOptions)
    (f : RecoveryOpportunity → OpportunityStatus) (won : List RecoveryOpportunity)
    (db db' : Db) : Prop where
  restatus : Restatus est f db db'
  nodup : won.Nodup
  waiting : ∀ o ∈ won, o ∈ scope db options ∧ isAllocatable o.status
  decided : ∀ o ∈ scope db options, f o ≠ pending ∧ f o ≠ scored
  allocated_iff : ∀ o ∈ scope db options, f o = allocated ↔ o.status = allocated ∨ o ∈ won
  act : ∀ o ∈ won, decisionType db' o = .act
  kept : ∀ o ∈ scope db options, o.status = allocated → decisionType db' o = decisionType db o

variable (h : Allocated est options f won db db')
include h

lemma Allocated.isEvaluated_iff {o : RecoveryOpportunity} (ho : o ∈ scope db options) :
    isEvaluated (f o) ↔ o.status = allocated ∨ o ∈ won := by
  rw [← h.allocated_iff o ho]
  have hdecided := h.decided o ho
  simp [isEvaluated, hdecided]

lemma Allocated.status_of_mem_evaluatedAfter {o : RecoveryOpportunity}
    (ho : o ∈ evaluatedAfter options db') : o.status = allocated := by
  rw [evaluatedAfter, scope, h.restatus.scope_eq, List.mem_filter, List.mem_map] at ho
  obtain ⟨⟨o', ho', rfl⟩, heval⟩ := ho
  rw [RecoveryOpportunity.withStatus_status] at heval ⊢
  rw [h.allocated_iff o' ho']
  exact (h.isEvaluated_iff ho').mp heval

lemma Allocated.authorizedIds_eq :
    authorizedIds (evaluateAll ks est now reason db' (evaluatedAfter options db')).1 =
      ((scope db options).filter fun o => (o.status = allocated ∨ o ∈ won) ∧
        Cleared ks o (effectiveScore est db o).confidence (decisionType db' o)).map (·.id) := by
  rw [authorizedIds_evaluateAll nodup_evaluatedAfter, evaluatedAfter, scope, h.restatus.scope_eq,
    List.filter_map, List.filter_map, List.map_map, List.filter_filter]
  refine congrArg (List.map _) (List.filter_congr fun o ho => ?_)
  have hscore := h.restatus.score o (db.mem_getAllOpportunities.mp ho).1
  have heval := h.isEvaluated_iff ho
  rw [Bool.eq_iff_iff]
  simp only [Function.comp_apply, Bool.and_eq_true, decide_eq_true_eq, cleared_withStatus, hscore,
    RecoveryOpportunity.withStatus_status, heval, and_comm (b := o.status = allocated ∨ o ∈ won)]
  rfl

/-- The number of authorized opportunities. -/
theorem Allocated.length_authorizedIds :
    (authorizedIds (evaluateAll ks est now reason db' (evaluatedAfter options db')).1).length =
      (carriedOver ks est options db).length + (clearedToAct ks est db won).length := by
  -- the two kinds of rows are told apart by their status before the runs
  have hsplit : ∀ o ∈ scope db options,
      decide ((o.status = allocated ∨ o ∈ won) ∧
        Cleared ks o (effectiveScore est db o).confidence (decisionType db' o)) =
      (decide (o.status = allocated ∧
        Cleared ks o (effectiveScore est db o).confidence (decisionType db o)) ||
        (decide (o ∈ won) && decide (Cleared ks o (effectiveScore est db o).confidence .act))) := by
    intro o ho
    rw [Bool.eq_iff_iff]
    simp only [decide_eq_true_eq, Bool.or_eq_true, Bool.and_eq_true]
    by_cases hw : o ∈ won
    · have hs : o.status ≠ allocated := by
        intro hs
        have hwait := (h.waiting o hw).2
        simp [hs, isAllocatable] at hwait
      simp [hw, hs, h.act o hw]
    · by_cases hs : o.status = allocated
      · simp [hw, hs, h.kept o ho hs]
      · simp [hw, hs]
  have hdisjoint : ∀ o ∈ scope db options,
      ¬ ((o.status = allocated ∧
          Cleared ks o (effectiveScore est db o).confidence (decisionType db o)) ∧
        (o ∈ won ∧ Cleared ks o (effectiveScore est db o).confidence .act)) := by
    rintro o - ⟨⟨hs, -⟩, hw, -⟩
    have hwait := (h.waiting o hw).2
    simp [hs, isAllocatable] at hwait
  have hnodup : (scope db options).Nodup :=
    List.Nodup.of_map _ (db.nodup_getAllOpportunities _ _)
  rw [h.authorizedIds_eq, List.length_map, ← List.countP_eq_length_filter,
    List.countP_congr fun o ho => by rw [hsplit o ho], carriedOver, clearedToAct,
    ← countP_mem_and hnodup h.nodup fun o hw => (h.waiting o hw).1,
    ← List.countP_eq_length_filter]
  exact countP_or_of_disjoint fun o ho => by simpa using hdisjoint o ho

end Count

/-! ### Successive runs -/

lemma not_isAllocatable_of_allocated {o : RecoveryOpportunity} (h : o.status = allocated) :
    ¬ isAllocatable o.status := by
  simp [h, isAllocatable]

lemma decisionType_of_decision {o : RecoveryOpportunity} {d : AllocationDecision}
    (h : db.getAllocationDecisionByOpportunityId o.id = some d) : decisionType db o = d.decision := by
  rw [decisionType, h, Option.map_some, Option.getD_some]

lemma decisionType_congr {o : RecoveryOpportunity}
    (h : db'.getAllocationDecisionByOpportunityId o.id =
      db.getAllocationDecisionByOpportunityId o.id) :
    decisionType db' o = decisionType db o := by
  rw [decisionType, decisionType, h]

/-- One run allocates its winners. -/
lemma allocated_runMarketAllocation (platform : Platform) (est : Estimator)
    (options : AllocationOptions) (db : Db) :
    Allocated est options (placedStatus platform est options db) (winners platform est options db)
      db (runMarketAllocation platform est options db).2 where
  restatus := restatus_runMarketAllocation
  nodup := nodup_ranked.sublist (List.take_sublist _ _)
  waiting o ho := by
    have hcand := (mem_ranked.mp (List.mem_of_mem_take ho)).1
    exact ⟨List.mem_of_mem_filter hcand, isAllocatable_of_mem_candidates hcand⟩
  decided o ho := by
    by_cases h : o ∈ candidates db options.tenantId options.environment
    · have hplaced := placedStatus_of_mem platform est h
      constructor <;> intro heq <;> simp [heq] at hplaced
    · have hs : ¬ isAllocatable o.status := fun hs => h (List.mem_filter.mpr ⟨ho, hs⟩)
      rw [placedStatus_of_notMem h]
      constructor <;> intro heq <;> simp [heq, isAllocatable] at hs
  allocated_iff o ho := by
    by_cases h : o ∈ candidates db options.tenantId options.environment
    · have hs : o.status ≠ allocated := fun hs =>
        not_isAllocatable_of_allocated hs (isAllocatable_of_mem_candidates h)
      rw [placedStatus, if_pos h]
      split_ifs with hw <;> simp [hs, hw]
    · have hw : o ∉ winners platform est options db := fun hw =>
        h (mem_ranked.mp (List.mem_of_mem_take hw)).1
      rw [placedStatus_of_notMem h]
      simp [hw]
  act o ho := by
    obtain ⟨d, hd, hact⟩ := decision_of_winner ho
    rw [decisionType_of_decision hd, hact]
  kept o ho hs := decisionType_congr <| decision_of_not_candidate (db.mem_getAllOpportunities.mp ho).1
    fun hcand => not_isAllocatable_of_allocated hs (isAllocatable_of_mem_candidates hcand)

section Compose

variable {f f' : RecoveryOpportunity → OpportunityStatus} {won : List RecoveryOpportunity}
  {db'' : Db}

private lemma mem_scope_withStatus (options : AllocationOptions) (o : RecoveryOpportunity)
    (h : Restatus est f db db') (ho : o ∈ scope db options) :
    o.withStatus (f o) ∈ scope db' options := by
  rw [scope, h.scope_eq]
  exact List.mem_map_of_mem ho

/-- Rows with other statuses are the same rows. -/
private lemma withStatus_mem_map_iff {o : RecoveryOpportunity}
    (ho : o ∈ scope db options) (hwon : ∀ o ∈ won, o ∈ scope db options) :
    o.withStatus (f o) ∈ won.map (fun o => o.withStatus (f o)) ↔ o ∈ won := by
  constructor
  · intro hmem
    obtain ⟨o', ho', heq⟩ := List.mem_map.mp hmem
    have hid : o'.id = o.id := by simpa using congrArg RecoveryOpportunity.id heq
    have hrow := (db.mem_getAllOpportunities.mp ho).1
    have hrow' := (db.mem_getAllOpportunities.mp (hwon o' ho')).1
    rwa [← eq_of_mem_rows hrow' hrow hid]
  · exact fun hmem => List.mem_map_of_mem hmem

/-- A run after others allocates the next of the ranking as well. -/
lemma Allocated.next (h : Allocated est options f won db db') {rest : List RecoveryOpportunity}
    (hrest : ∀ o ∈ rest, o ∈ scope db options ∧ isAllocatable o.status)
    (hnodup : (won ++ rest).Nodup)
    (hwinners : winners platform est options db' = rest.map fun o => o.withStatus (f o)) :
    Allocated est options
      (fun o => placedStatus platform est options db' (o.withStatus (f o))) (won ++ rest) db
      (runMarketAllocation platform est options db').2 := by
  have hrun := allocated_runMarketAllocation platform est options db'
  have hmem : ∀ o ∈ scope db options, (o.withStatus (f o) ∈ winners platform est options db' ↔
      o ∈ rest) := by
    intro o ho
    rw [hwinners]
    exact withStatus_mem_map_iff ho fun o ho => (hrest o ho).1
  have hscope := fun o => mem_scope_withStatus options o h.restatus
  exact
    { restatus := h.restatus.trans hrun.restatus
      nodup := hnodup
      waiting := fun o ho => (List.mem_append.mp ho).elim (h.waiting o) (hrest o)
      decided := fun o ho => hrun.decided _ (hscope _ ho)
      allocated_iff := fun o ho => by
        rw [hrun.allocated_iff _ (hscope _ ho), RecoveryOpportunity.withStatus_status,
          h.allocated_iff o ho, hmem o ho, List.mem_append, or_assoc]
      act := fun o ho => by
        rcases List.mem_append.mp ho with hw | hr
        · -- an earlier winner is allocated, so that the run does not decide on it
          have hs : f o = allocated := (h.allocated_iff o (h.waiting o hw).1).mpr (.inr hw)
          rw [← h.act o hw]
          exact hrun.kept (o.withStatus (f o)) (hscope _ (h.waiting o hw).1) hs
        · exact hrun.act (o.withStatus (f o)) ((hmem o (hrest o hr).1).mpr hr)
      kept := fun o ho hs => by
        have hf : f o = allocated := (h.allocated_iff o ho).mpr (.inl hs)
        rw [← h.kept o ho hs]
        exact hrun.kept (o.withStatus (f o)) (hscope _ ho) hf }

/-- A pass that changes no decision and moves waiting rows among the waiting statuses only does not
matter to the runs after it. -/
lemma Allocated.after_pass (h : Restatus est f db db')
    (hf : ∀ o ∈ scope db options, (isAllocatable o.status ∧ isAllocatable (f o)) ∨
      (¬ isAllocatable o.status ∧ f o = o.status))
    (hdecisions : db'.allocationDecisions = db.allocationDecisions)
    (hwon : ∀ o ∈ won, o ∈ scope db options)
    (hrun : Allocated est options f' (won.map fun o => o.withStatus (f o)) db' db'') :
    Allocated est options (fun o => f' (o.withStatus (f o))) won db db'' := by
  have hscope := fun o => mem_scope_withStatus options o h
  exact
    { restatus := h.trans hrun.restatus
      nodup := List.Nodup.of_map _ hrun.nodup
      waiting := fun o ho => by
        refine ⟨hwon o ho, ?_⟩
        have hwait := (hrun.waiting _ (List.mem_map_of_mem ho)).2
        rcases hf o (hwon o ho) with ⟨hs, -⟩ | ⟨-, heq⟩
        · exact hs
        · rwa [RecoveryOpportunity.withStatus_status, heq] at hwait
      decided := fun o ho => hrun.decided _ (hscope _ ho)
      allocated_iff := fun o ho => by
        have hsame : f o = allocated ↔ o.status = allocated := by
          rcases hf o ho with ⟨hs, hs'⟩ | ⟨-, heq⟩
          · constructor <;> intro heq
            · simp [heq, isAllocatable] at hs'
            · simp [heq, isAllocatable] at hs
          · rw [heq]
        rw [hrun.allocated_iff _ (hscope _ ho), RecoveryOpportunity.withStatus_status, hsame,
          withStatus_mem_map_iff ho hwon]
      act := fun o ho => hrun.act (o.withStatus (f o)) (List.mem_map.mpr ⟨o, ho, rfl⟩)
      kept := fun o ho hs => by
        have hs' : f o = allocated := by
          rcases hf o ho with ⟨hwait, -⟩ | ⟨-, heq⟩
          · exact absurd hwait (not_isAllocatable_of_allocated hs)
          · rw [heq, hs]
        have hkept := hrun.kept (o.withStatus (f o)) (hscope _ ho) hs'
        have hsame : decisionType db' o = decisionType db o := decisionType_congr <| by
          rw [Db.getAllocationDecisionByOpportunityId, hdecisions]
          rfl
        rw [← hsame]
        exact hkept }

/-- Two runs with one capacity allocate twice as many. -/
lemma allocated_twice {capacity : ℕ} (h : options.capacity = some capacity) :
    ∃ f, Allocated est options f
      ((ranked est db options.tenantId options.environment).take (2 * capacity)) db
      (runMarketAllocation platform est options
        (runMarketAllocation platform est options db).2).2 := by
  have hcapacity : ∀ db, resolveCapacity platform db options = capacity := by
    intro db
    simp [resolveCapacity, h]
  have hfirst := allocated_runMarketAllocation platform est options db
  have hranked : ranked est (runMarketAllocation platform est options db).2 options.tenantId
      options.environment = _ := ranked_runMarketAllocation
  rw [winners, hcapacity] at hfirst
  rw [hcapacity] at hranked
  have htake : (ranked est db options.tenantId options.environment).take (2 * capacity) =
      (ranked est db options.tenantId options.environment).take capacity ++
        ((ranked est db options.tenantId options.environment).drop capacity).take capacity := by
    rw [Nat.two_mul, List.take_add]
  rw [htake]
  refine ⟨_, hfirst.next (fun o ho => ?_) ?_ ?_⟩
  · have hcand := (mem_ranked.mp (List.mem_of_mem_drop (List.mem_of_mem_take ho))).1
    exact ⟨List.mem_of_mem_filter hcand, isAllocatable_of_mem_candidates hcand⟩
  · rw [← htake]
    exact nodup_ranked.sublist (List.take_sublist _ _)
  · rw [winners, hcapacity, hranked, List.map_take]

end Compose

/-- A pipeline whose environment is looked up beforehand is the same pipeline. -/
lemma runAuthorityPipeline_resolved :
    runAuthorityPipeline platform ks est now
        { options with
          environment := resolveEnvironment db options.tenantId options.environment } db =
      runAuthorityPipeline platform ks est now options db := by
  have hidem : ∀ db' : Db, db'.tenants = db.tenants →
      resolveEnvironment db' options.tenantId
        (resolveEnvironment db options.tenantId options.environment) =
      resolveEnvironment db' options.tenantId options.environment := by
    intro db' htenants
    rw [resolveEnvironment, resolveEnvironment, resolveEnvironment, tenantRow, tenantRow, htenants]
    cases options.environment with
    | some env => rfl
    | none => cases ((options.tenantId.filter (· ≠ "")).bind db.tenants.find?) <;> rfl
  have hcandidates : candidates db options.tenantId
      (resolveEnvironment db options.tenantId options.environment) =
      candidates db options.tenantId options.environment := by
    rw [candidates, candidates, hidem db rfl]
  have hrun : runMarketAllocation platform est
      { options with
        environment := resolveEnvironment db options.tenantId options.environment } db =
      runMarketAllocation platform est options db := by
    simp only [runMarketAllocation, hcandidates]
    rfl
  have hrestatus : Restatus est _ db (runMarketAllocation platform est options db).2 :=
    restatus_runMarketAllocation
  simp only [runAuthorityPipeline, hrun]
  rw [hidem _ hrestatus.tenants]

/-! ### The statuses that a pipeline leaves -/

lemma nextStatus_allocated (verdict : AuthorityVerdict) :
    OpportunityRepository.nextStatus allocated (verdictStatus verdict) = verdictStatus verdict := by
  cases verdict <;> rfl

section Statuses

variable {f : RecoveryOpportunity → OpportunityStatus} {won : List RecoveryOpportunity}
  (h : Allocated est options f won db db')
include h

lemma Allocated.evaluationWrites_eq :
    (evaluatedAfter options db').flatMap (evaluationWrites ks est reason db') =
      (evaluatedAfter options db').map fun o =>
        (o.id, (storedAnswer ks est reason db' o).suggestedStatus) := by
  rw [List.map_eq_flatMap]
  refine List.flatMap_congr fun o ho => ?_
  have hs := h.status_of_mem_evaluatedAfter ho
  simp [evaluationWrites, scoringWrites, hs]

/-- Every evaluated row has the status of its verdict. -/
lemma Allocated.statusOf_evaluateAll {o : RecoveryOpportunity}
    (ho : o ∈ evaluatedAfter options db') :
    (evaluateAll ks est now reason db' (evaluatedAfter options db')).2.statusOf o.id =
      some (verdictStatus (storedAnswer ks est reason db' o).verdict) := by
  have hmem : o ∈ db'.opportunities.rows :=
    (db'.mem_getAllOpportunities.mp (List.mem_of_mem_filter ho)).1
  have hrows : ∀ o ∈ evaluatedAfter options db', (db'.getOpportunityById o.id).isSome := by
    intro o ho
    have hmem := (db'.mem_getAllOpportunities.mp (List.mem_of_mem_filter ho)).1
    rw [Db.getOpportunityById, Table.find?_key_of_mem hmem, Option.isSome_some]
  have hnodup : (((evaluatedAfter options db').map fun o =>
      (o.id, (storedAnswer ks est reason db' o).suggestedStatus)).map Prod.fst).Nodup := by
    rw [List.map_map]
    exact nodup_evaluatedAfter
  have hwrite : statusAfter ((evaluatedAfter options db').map fun o =>
      (o.id, (storedAnswer ks est reason db' o).suggestedStatus)) o.id o.status =
      verdictStatus (storedAnswer ks est reason db' o).verdict := by
    rw [statusAfter_of_mem hnodup (List.mem_map.mpr ⟨o, ho, rfl⟩),
      h.status_of_mem_evaluatedAfter ho, storedAnswer_suggestedStatus, nextStatus_allocated]
  rw [(sameRows_evaluateAll nodup_evaluatedAfter hrows).statusOf, h.evaluationWrites_eq,
    Db.statusOf_writeStatuses, Db.statusOf, Db.getOpportunityById, Table.find?_key_of_mem hmem,
    Option.map_some, Option.map_some, hwrite]

/-- An authorized opportunity has the status `authorized`. -/
lemma Allocated.statusOf_of_mem_authorizedIds {id : String}
    (hid : id ∈ authorizedIds (evaluateAll ks est now reason db' (evaluatedAfter options db')).1) :
    (evaluateAll ks est now reason db' (evaluatedAfter options db')).2.statusOf id =
      some authorized := by
  rw [authorizedIds_evaluateAll nodup_evaluatedAfter] at hid
  obtain ⟨o, ho, rfl⟩ := List.mem_map.mp hid
  rw [List.mem_filter, decide_eq_true_eq] at ho
  rw [h.statusOf_evaluateAll ho.1, storedAnswer_verdict_iff.mpr ho.2, verdictStatus]

end Statuses

lemma nodup_authorizedIds :
    (authorizedIds (evaluateAll ks est now reason db (evaluatedAfter options db)).1).Nodup := by
  rw [authorizedIds_evaluateAll nodup_evaluatedAfter]
  exact nodup_evaluatedAfter.sublist (List.filter_sublist.map _)

end Authority

end CtrlRecovery
