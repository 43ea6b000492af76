import CtrlRecovery.Execution.Batch
import Mathlib.Data.List.Dedup

/-!
# The daemon's sweep

A sweep scores what waits for an allocation, runs the market, and then executes a batch whose
authority pipeline runs the market again, with the same capacity. The second run allocates the next
of the ranking while the winners of the first are still allocated, so that up to twice the capacity
is authorized, besides what earlier sweeps have left allocated (`sweepWithinCapacity_iff`).

The poll of the provider that ends a sweep is a series of reconciliations and not repeated here.
-/

namespace CtrlRecovery

open Core OpportunityStatus Scorer Market AuthorityRuleRegistry Authority

namespace PortfolioAgent

/-- The opportunities that a portfolio sweep looks at. -/
def candidateOpps (db : Db) (tenantId : Option String) : List RecoveryOpportunity :=
  (db.getAllOpportunities tenantId none).filter fun o => isAllocatable o.status

/-- What a portfolio sweep leaves in the database: its proposal is not stored, but the scores that
it asks for are. -/
def sweep (est : Estimator) (db : Db) (tenantId : Option String) : Db :=
  (scoreItems est db (candidateOpps db tenantId)).2

end PortfolioAgent

namespace AutonomousRecoveryDaemon

inductive SweepStatus | skipped | aborted | idle | success | partialSuccess
  deriving DecidableEq, Repr

structure SweepLog where
  status : SweepStatus
  oppsScanned : ℕ
  oppsAllocated : ℕ
  oppsExecuted : ℕ
  deriving DecidableEq, Repr

/-- A sweep that ends before its work starts. -/
def noWork (status : SweepStatus) : SweepLog where
  status := status
  oppsScanned := 0
  oppsAllocated := 0
  oppsExecuted := 0

/-- The statuses that give a sweep something to do. -/
def isActionable (status : OpportunityStatus) : Bool :=
  isAllocatable status || status == allocated || status == executing

/-- The number of actionable opportunities, of one tenant when a tenant is named. -/
def activeCount (db : Db) (tenantId : Option String) : ℕ :=
  db.opportunities.rows.countP fun o => isActionable o.status &&
    (match tenantId with
      | some t => t == "" || o.tenantId == t
      | none   => true)

/-- The arguments of the first allocation of a sweep. -/
def allocationOptions (capacity : ℕ) (tenantId : Option String) : AllocationOptions where
  capacity := some capacity
  tenantId := tenantId
  environment := none

/-- The arguments of the batch of a sweep. -/
def batchOptions (capacity : ℕ) (tenantId : Option String) : BatchOptions where
  maxLinks := some capacity
  capacity := none
  tenantId := tenantId
  environment := none

variable (platform : Platform) (ks : KillSwitches) (est : Estimator) (now : Timestamp)
  (scripts : String → ExecutionScript) (capacity : ℕ) (isSweeping : Bool)
  (targetTenantId : Option String) (db : Db)

/-- Whether a sweep gets to its work: no other is running, no kill switch is engaged and something
is actionable. -/
def Sweeps : Prop :=
  ¬ isSweeping ∧
    ¬ ks.isKillSwitchActive (Js.orElse targetTenantId "tenant_system_default") "" ∧
    activeCount db targetTenantId ≠ 0

instance : Decidable (Sweeps ks isSweeping targetTenantId db) := by
  unfold Sweeps
  infer_instance

/-- The database after the scoring and the first allocation of a sweep. -/
def afterMarket : Db :=
  (runMarketAllocation platform est (allocationOptions capacity targetTenantId)
    (PortfolioAgent.sweep est db targetTenantId)).2

/-- One sweep, up to its poll of the provider. -/
def sweepOnce : SweepLog × Db :=
  if isSweeping then (noWork .skipped, db)
  else if ks.isKillSwitchActive (Js.orElse targetTenantId "tenant_system_default") "" then
    (noWork .aborted, db)
  else if activeCount db targetTenantId = 0 then (noWork .idle, db)
  else
    let marketResult := runMarketAllocation platform est (allocationOptions capacity targetTenantId)
      (PortfolioAgent.sweep est db targetTenantId)
    let execResult := Batch.executeAuthorizedBatch platform ks est now scripts
      (batchOptions capacity targetTenantId) marketResult.2
    ({ status := if execResult.1.failedCount > 0 then .partialSuccess else .success
       oppsScanned := (PortfolioAgent.candidateOpps db targetTenantId).length
       oppsAllocated := marketResult.1.acceptedCount
       oppsExecuted := execResult.1.executedCount },
      execResult.2)

/-- The opportunities to which a sweep gives the verdict `AUTHORIZED`. The calls of its batch ask
the gate again, for some of them. -/
def authorizedInSweep : List String :=
  if Sweeps ks isSweeping targetTenantId db then
    Batch.authorizedOpps platform ks est now (batchOptions capacity targetTenantId)
      (afterMarket platform est capacity targetTenantId db)
  else []

/-- A sweep authorizes at most `capacity` distinct opportunities. -/
def SweepWithinCapacity : Prop :=
  (authorizedInSweep platform ks est now capacity isSweeping targetTenantId db).dedup.length ≤
    capacity

/-! ### What a sweep authorizes -/

variable {platform ks est now capacity isSweeping targetTenantId db}

lemma mem_rows_of_mem_candidateOpps {o : RecoveryOpportunity}
    (h : o ∈ PortfolioAgent.candidateOpps db targetTenantId) : o ∈ db.opportunities.rows :=
  (db.mem_getAllOpportunities.mp (List.mem_of_mem_filter h)).1

lemma restatus_portfolioSweep :
    Restatus est (scoredStatus db (PortfolioAgent.candidateOpps db targetTenantId)) db
      (PortfolioAgent.sweep est db targetTenantId) :=
  restatus_scoreItems ((db.nodup_getAllOpportunities _ _).sublist (List.filter_sublist.map _))
    fun _ => mem_rows_of_mem_candidateOpps

/-- The scoring does not change who waits for an allocation, nor the ranking. -/
lemma ranked_portfolioSweep :
    ranked est (PortfolioAgent.sweep est db targetTenantId) targetTenantId none =
      (ranked est db targetTenantId none).map fun o =>
        o.withStatus (scoredStatus db (PortfolioAgent.candidateOpps db targetTenantId) o) := by
  rw [restatus_portfolioSweep.ranked_eq, ranked, eligible, candidates, List.filter_filter]
  refine congrArg (List.map _) (congrArg (rank _) (List.filter_congr fun o ho => ?_))
  have hsame : isAllocatable (scoredStatus db (PortfolioAgent.candidateOpps db targetTenantId) o) =
      isAllocatable o.status := by
    rcases scoredStatus_spec (fun _ => mem_rows_of_mem_candidateOpps)
      (db.mem_getAllOpportunities.mp ho).1 with ⟨hs, hs'⟩ | ⟨-, heq⟩
    · rw [hs, hs']
    · rw [heq]
  rw [hsame, Bool.and_comm]

/-- The two allocation runs of a sweep allocate the best `2 * capacity` of the ranking. -/
lemma allocated_sweep (platform : Platform) (est : Estimator) (capacity : ℕ)
    (targetTenantId : Option String) (db : Db) :
    ∃ f, Allocated est (allocationOptions capacity targetTenantId) f
      ((ranked est db targetTenantId none).take (2 * capacity)) db
      (runMarketAllocation platform est (allocationOptions capacity targetTenantId)
        (afterMarket platform est capacity targetTenantId db)).2 := by
  obtain ⟨f, hf⟩ : ∃ f, Allocated est (allocationOptions capacity targetTenantId) f
      ((ranked est (PortfolioAgent.sweep est db targetTenantId) targetTenantId none).take
        (2 * capacity)) (PortfolioAgent.sweep est db targetTenantId)
      (runMarketAllocation platform est (allocationOptions capacity targetTenantId)
        (afterMarket platform est capacity targetTenantId db)).2 :=
    allocated_twice
      (show (allocationOptions capacity targetTenantId).capacity = some capacity from rfl)
  rw [ranked_portfolioSweep, ← List.map_take] at hf
  refine ⟨_, Allocated.after_pass restatus_portfolioSweep (fun o ho => ?_) ?_ (fun o ho => ?_) hf⟩
  · exact scoredStatus_spec (fun _ => mem_rows_of_mem_candidateOpps)
      (db.mem_getAllOpportunities.mp ho).1
  · exact scoreItems_allocationDecisions
  · exact List.mem_of_mem_filter (mem_ranked.mp (List.mem_of_mem_take ho)).1

/-- The pipeline of a sweep's batch runs with the arguments of the first allocation. -/
lemma authorizedOpps_sweep (hcapacity : 0 < capacity) (db : Db) :
    Batch.authorizedOpps platform ks est now (batchOptions capacity targetTenantId) db =
      authorizedIds (runAuthorityPipeline platform ks est now
        (allocationOptions capacity targetTenantId) db).1.results := by
  have hoptions : Batch.pipelineOptions platform db (batchOptions capacity targetTenantId) =
      { allocationOptions capacity targetTenantId with
        environment := resolveEnvironment db (allocationOptions capacity targetTenantId).tenantId
          (allocationOptions capacity targetTenantId).environment } := by
    simp [Batch.pipelineOptions, Batch.resolveMaxLinks, batchOptions, allocationOptions,
      Option.filter, hcapacity.ne']
  rw [Batch.authorizedOpps, hoptions, runAuthorityPipeline_resolved]

lemma length_authorizedInSweep (hcapacity : 0 < capacity)
    (h : Sweeps ks isSweeping targetTenantId db) :
    (authorizedInSweep platform ks est now capacity isSweeping targetTenantId db).dedup.length =
      (carriedOver ks est (allocationOptions capacity targetTenantId) db).length +
        (clearedToAct ks est db
          ((ranked est db targetTenantId none).take (2 * capacity))).length := by
  obtain ⟨f, hf⟩ := allocated_sweep platform est capacity targetTenantId db
  rw [authorizedInSweep, if_pos h, authorizedOpps_sweep hcapacity, runAuthorityPipeline_results,
    nodup_authorizedIds.dedup, hf.length_authorizedIds]

/-- A sweep stays within its capacity exactly when it does not get to its work, or the rows that
were allocated before and are cleared, together with those of the best `2 * capacity` ranked
opportunities that are cleared, are no more than the capacity. -/
theorem sweepWithinCapacity_iff (platform : Platform) (ks : KillSwitches) (est : Estimator)
    (now : Timestamp) (capacity : ℕ) (isSweeping : Bool) (targetTenantId : Option String) (db : Db)
    (hcapacity : 0 < capacity) :
    SweepWithinCapacity platform ks est now capacity isSweeping targetTenantId db ↔
      ¬ Sweeps ks isSweeping targetTenantId db ∨
      (carriedOver ks est (allocationOptions capacity targetTenantId) db).length +
          (clearedToAct ks est db
            ((ranked est db targetTenantId none).take (2 * capacity))).length ≤ capacity := by
  rw [SweepWithinCapacity]
  by_cases h : Sweeps ks isSweeping targetTenantId db
  · rw [length_authorizedInSweep hcapacity h]
    simp [h]
  · simp [authorizedInSweep, h]

theorem sweepWithinCapacity_one_pending :
    SweepWithinCapacity .plain .off .sample 2000 1 false none
      (Db.ofRows [sampleOpportunity "opp_1" pending] []) :=
  (sweepWithinCapacity_iff _ _ _ _ _ _ _ _ Nat.one_pos).mpr (.inr (by decide +kernel))

/-- Two opportunities wait for one unit of capacity, and a sweep authorizes both. -/
theorem sweep_exceeds_capacity :
    ¬ SweepWithinCapacity .plain .off .sample 2000 1 false none
      (Db.ofRows [sampleOpportunity "opp_1" pending, sampleOpportunity "opp_2" pending] []) := by
  intro h
  have hsweeps : Sweeps .off false none
      (Db.ofRows [sampleOpportunity "opp_1" pending, sampleOpportunity "opp_2" pending] []) := by
    decide +kernel
  rw [SweepWithinCapacity, length_authorizedInSweep Nat.one_pos hsweeps] at h
  revert h
  decide +kernel

end AutonomousRecoveryDaemon

end CtrlRecovery
