import CtrlRecovery.Authority.Pipeline
import CtrlRecovery.Db.Sample
import CtrlRecovery.Execution.Effects

/-!
# Executing a batch

`executeAuthorizedBatch` runs the authority pipeline and executes the first `maxLinks` of the
authorized opportunities. An opportunity that the cap cuts off keeps the status `authorized`, which
neither the allocator nor the pipeline selects, so that no later pass comes back to it. Nothing is
stranded exactly when no more than `maxLinks` opportunities are authorized (`noneStranded_iff`).
-/

namespace CtrlRecovery

open Core OpportunityStatus OpportunityRepository Scorer Market AuthorityRuleRegistry Authority

/-! ### A call from start to end -/

/-- The answers to one call, and what the call generates. -/
structure ExecutionScript where
  client : Except String ProviderClient
  breakerOpen : Bool
  attempts : ℕ → Except ProviderError LinkResponse
  lookup : Option LinkResponse
  now : Timestamp
  entryId : String

/-- The answer that a suspended call waits for. -/
def ExecutionScript.answer (script : ExecutionScript) : ExecuteCall → ExecuteAnswer
  | .resolvingClient _  => .client script.client script.breakerOpen
  | .creating _ _ n     => .attempt (script.attempts n)
  | .lookingUp _ _ _    => .lookup script.lookup
  | _                   => .database

/-- A provider that cannot be reached. -/
def ExecutionScript.unavailable : ExecutionScript where
  client := .error "provider unavailable"
  breakerOpen := false
  attempts := fun _ => .error (.ofMessage "provider unavailable")
  lookup := none
  now := 2000
  entryId := "dlq_1"

namespace Executor

/-- Take a call through at most `fuel` awaits. -/
def proceed (script : ExecutionScript) : ℕ → ExecuteCall × Db → ExecuteCall × Db
  | 0, state        => state
  | fuel + 1, state =>
    match advance (script.answer state.1) script.now script.entryId state.2 state.1 with
    | some next => proceed script fuel next
    | none      => state

/-- The most awaits that a call can still meet. -/
def remaining : ExecuteCall → ℕ
  | .resolvingClient _     => 10
  | .creating _ _ attempt  => 5 + (5 - attempt)
  | .lookingUp _ _ _       => 4
  | .failing _ _           => 3
  | .counted _             => 2
  | .inserting _           => 1
  | .finished _            => 0

/-- One call of `executeOpportunity`, run to its end. -/
def executeOpportunity (ks : KillSwitches) (est : Estimator) (script : ExecutionScript) (db : Db)
    (id : String) : ExecuteCall × Db :=
  proceed script 10 (start ks est script.now db id)

variable {ks : KillSwitches} {est : Estimator} {script : ExecutionScript} {now : Timestamp}
  {entryId : String} {db db' : Db} {c c' : ExecuteCall} {answer : ExecuteAnswer}

/-! ### Every call ends -/

lemma remaining_fail_le (run : ExecutionRun) (error : ProviderError) :
    remaining (fail run error now entryId db).1 ≤ 3 := by
  rw [fail]
  cases run.executionEnv <;> simp [success, remaining]

lemma remaining_creationFailed_le (run : ExecutionRun) (client : ProviderClient)
    (error : ProviderError) : remaining (creationFailed run client error now entryId db).1 ≤ 4 := by
  rw [creationFailed]
  split_ifs
  · simp [remaining]
  · exact (remaining_fail_le run error).trans (by norm_num)

lemma remaining_launch_le (run : ExecutionRun) (client : ProviderClient) (breakerOpen : Bool) :
    remaining (launch run client breakerOpen now entryId db).1 ≤ 9 := by
  rw [launch]
  split_ifs
  · simp [remaining]
  · exact (remaining_creationFailed_le _ _ _).trans (by norm_num)
  · simp [remaining]

/-- Every answer brings a call closer to its end. -/
lemma remaining_advance_lt {p : ExecuteCall × Db} (h : advance answer now entryId db c = some p) :
    remaining p.1 < remaining c := by
  cases advances_of_advance h with
  | failing id error => simp [remaining]
  | counted failure => simp [remaining]
  | inserting failure => simp [failed, remaining]
  | lookingUp run client error link =>
    cases link with
    | some link => simp [lookedUp, success, remaining]
    | none => exact lt_of_le_of_lt (remaining_fail_le run error) (by simp [remaining])
  | creating run client attempt response =>
    cases response with
    | ok link => simp [attempted, success, remaining]
    | error error =>
      rw [attempted]
      split_ifs with hlast
      · refine lt_of_le_of_lt (remaining_creationFailed_le run client error) ?_
        simp only [remaining]
        omega
      · simp only [maxRetries, not_or] at hlast
        simp only [remaining]
        omega
  | resolvingClient run client breakerOpen =>
    cases client with
    | ok client => exact lt_of_le_of_lt (remaining_launch_le run client _) (by simp [remaining])
    | error message =>
      rw [clientResolved]
      split_ifs
      · simp [remaining]
      · exact lt_of_le_of_lt (remaining_launch_le run _ _) (by simp [remaining])

lemma exists_advance_of_unfinished (script : ExecutionScript) (now : Timestamp) (entryId : String)
    (db : Db) (h : remaining c ≠ 0) :
    ∃ p, advance (script.answer c) now entryId db c = some p := by
  cases c <;> simp_all [advance, ExecutionScript.answer, remaining]

lemma finished_of_remaining_eq_zero (h : remaining c = 0) : ∃ result, c = .finished result := by
  cases c <;> simp_all [remaining]

lemma proceed_finished {fuel : ℕ} {state : ExecuteCall × Db} (h : remaining state.1 ≤ fuel) :
    ∃ result, (proceed script fuel state).1 = .finished result := by
  induction fuel generalizing state with
  | zero => exact finished_of_remaining_eq_zero (Nat.le_zero.mp h)
  | succ fuel ih =>
    rw [proceed]
    by_cases hzero : remaining state.1 = 0
    · obtain ⟨result, hresult⟩ := finished_of_remaining_eq_zero hzero
      rw [hresult]
      exact ⟨result, hresult⟩
    · obtain ⟨p, hp⟩ := exists_advance_of_unfinished script script.now script.entryId
        state.2 hzero
      rw [hp]
      have hlt := remaining_advance_lt hp
      exact ih (by omega)

lemma remaining_start_le (id : String) : remaining (start ks est now db id).1 ≤ 10 := by
  rw [start]
  cases db.getOpportunityById id with
  | none => simp [remaining]
  | some opp =>
    by_cases hv : (evaluateStored ks est now "Unallocated execution attempt" db opp).1.verdict ≠
        .authorized
    · simp [hv, remaining]
    · simp only [hv, if_false]
      split <;> simp [success, remaining]

/-- Every call of `executeOpportunity` comes to an end. -/
theorem executeOpportunity_finished (id : String) :
    ∃ result, (executeOpportunity ks est script db id).1 = .finished result :=
  proceed_finished (remaining_start_le id)

/-! ### Other rows -/

lemma proceed_invariant {I : ExecuteCall × Db → Prop} (keep : ∀ state p, I state →
      advance (script.answer state.1) script.now script.entryId state.2 state.1 = some p → I p)
    {fuel : ℕ} {state : ExecuteCall × Db} (h : I state) : I (proceed script fuel state) := by
  induction fuel generalizing state with
  | zero => exact h
  | succ fuel ih =>
    rw [proceed]
    cases hp : advance (script.answer state.1) script.now script.entryId state.2 state.1 with
    | none => exact h
    | some p => exact ih (keep state p h hp)

lemma proceed_getOpportunityById_of_ne {fuel : ℕ} {state : ExecuteCall × Db} {j : String}
    (hj : subject state.1 ≠ some j) :
    (proceed script fuel state).2.getOpportunityById j = state.2.getOpportunityById j := by
  refine (proceed_invariant (I := fun current => current.2.getOpportunityById j =
    state.2.getOpportunityById j ∧ subject current.1 ≠ some j) (fun current p h hp => ?_) ⟨rfl, hj⟩).1
  obtain ⟨hrow, hsubject⟩ := advance_getOpportunityById_of_ne hp h.2
  exact ⟨hrow.trans h.1, hsubject⟩

lemma executeOpportunity_getOpportunityById_of_ne {id j : String} (hj : j ≠ id) :
    (executeOpportunity ks est script db id).2.getOpportunityById j = db.getOpportunityById j := by
  obtain ⟨hrow, hsubject⟩ := start_getOpportunityById_of_ne ks est script.now db hj
  exact (proceed_getOpportunityById_of_ne hsubject).trans hrow

lemma proceed_scores {fuel : ℕ} {state : ExecuteCall × Db} :
    (proceed script fuel state).2.scores = state.2.scores :=
  proceed_invariant (I := fun current => current.2.scores = state.2.scores)
    (fun _ _ h hp => (advance_scores hp).trans h) rfl

lemma executeOpportunity_getScoreByOpportunityId_of_ne {id j : String} (hj : j ≠ id) :
    (executeOpportunity ks est script db id).2.getScoreByOpportunityId j =
      db.getScoreByOpportunityId j := by
  rw [executeOpportunity, Db.getScoreByOpportunityId, proceed_scores]
  exact start_getScoreByOpportunityId_of_ne hj

lemma proceed_tenants {fuel : ℕ} {state : ExecuteCall × Db} :
    (proceed script fuel state).2.tenants = state.2.tenants :=
  proceed_invariant (I := fun current => current.2.tenants = state.2.tenants)
    (fun _ _ h hp => (advance_tenants hp).trans h) rfl

lemma executeOpportunity_tenants {id : String} :
    (executeOpportunity ks est script db id).2.tenants = db.tenants := by
  rw [executeOpportunity, proceed_tenants, sameRows_start.tenants, Db.writeStatuses_tenants]

end Executor

/-! ### A batch -/

/-- The arguments of a batch; what is left out, or zero, is looked up. -/
structure BatchOptions where
  maxLinks : Option ℕ
  capacity : Option ℕ
  tenantId : Option String
  environment : Option Environment
  deriving DecidableEq, Repr

structure BatchExecutionResult where
  maxLinksCap : ℕ
  totalAuthorized : ℕ
  executedCount : ℕ
  skippedCount : ℕ
  failedCount : ℕ
  results : List SingleExecutionResult
  deriving DecidableEq, Repr

namespace Batch

def resolveMaxLinks (platform : Platform) (options : BatchOptions) : ℕ :=
  (options.maxLinks.filter (· ≠ 0)).getD (defaultCapacity platform)

def pipelineOptions (platform : Platform) (db : Db) (options : BatchOptions) : AllocationOptions where
  capacity := some ((options.capacity.filter (· ≠ 0)).getD (resolveMaxLinks platform options))
  tenantId := options.tenantId
  environment := resolveEnvironment db options.tenantId options.environment

/-- The result of a call, in which a thrown error becomes a failure. -/
def resultOf (id : String) : ExecuteCall → SingleExecutionResult
  | .finished (.ok result)     => result
  | .finished (.error message) =>
    { opportunityId := id
      success := false
      createdNew := false
      testModeFallback := false
      record := none
      error := some (Js.orElse (some message) "Execution error") }
  -- no call is left unfinished: `Executor.executeOpportunity_finished`
  | _ =>
    { opportunityId := id
      success := false
      createdNew := false
      testModeFallback := false
      record := none
      error := some "Execution error" }

/-- Execute opportunities one after the other. -/
def executeEach (ks : KillSwitches) (est : Estimator) (scripts : String → ExecutionScript) :
    Db → List String → List SingleExecutionResult × Db
  | db, []        => ([], db)
  | db, id :: ids =>
    let call := Executor.executeOpportunity ks est (scripts id) db id
    let rest := executeEach ks est scripts call.2 ids
    (resultOf id call.1 :: rest.1, rest.2)

variable (platform : Platform) (ks : KillSwitches) (est : Estimator) (now : Timestamp)
  (scripts : String → ExecutionScript) (options : BatchOptions) (db : Db)

def authorizedOpps : List String :=
  authorizedIds
    (runAuthorityPipeline platform ks est now (pipelineOptions platform db options) db).1.results

def targetBatch : List String :=
  (authorizedOpps platform ks est now options db).take (resolveMaxLinks platform options)

/-- Execute what the pipeline authorizes, up to the cap. -/
def executeAuthorizedBatch : BatchExecutionResult × Db :=
  let authorityRun :=
    runAuthorityPipeline platform ks est now (pipelineOptions platform db options) db
  let executed := executeEach ks est scripts authorityRun.2
    (targetBatch platform ks est now options db)
  ({ maxLinksCap := resolveMaxLinks platform options
     totalAuthorized := (authorizedOpps platform ks est now options db).length
     executedCount := executed.1.countP (·.success)
     skippedCount := (authorizedOpps platform ks est now options db).length -
       (targetBatch platform ks est now options db).length
     failedCount := executed.1.countP (!·.success)
     results := executed.1 },
    executed.2)

lemma executeEach_getOpportunityById_of_notMem {ids : List String} {j : String} (hj : j ∉ ids) :
    (executeEach ks est scripts db ids).2.getOpportunityById j = db.getOpportunityById j := by
  induction ids generalizing db with
  | nil => rfl
  | cons id ids ih =>
    simp only [List.mem_cons, not_or] at hj
    rw [executeEach, ih _ hj.2, Executor.executeOpportunity_getOpportunityById_of_ne hj.1]

/-! ### Stranded opportunities -/

/-- Every authorized opportunity was executed or has a status that a later run selects. -/
def NoneStranded : Prop :=
  ∀ id ∈ authorizedOpps platform ks est now options db,
    id ∈ targetBatch platform ks est now options db ∨
      ∃ s, (executeAuthorizedBatch platform ks est now scripts options db).2.statusOf id = some s ∧
        (isAllocatable s ∨ isEvaluated s)

lemma allocated_pipeline :
    Allocated est (pipelineOptions platform db options)
      (placedStatus platform est (pipelineOptions platform db options) db)
      (winners platform est (pipelineOptions platform db options) db) db
      (runMarketAllocation platform est (pipelineOptions platform db options) db).2 :=
  allocated_runMarketAllocation platform est (pipelineOptions platform db options) db

lemma authorizedOpps_eq :
    authorizedOpps platform ks est now options db =
      authorizedIds (evaluateAll ks est now "Unallocated evaluation"
        (runMarketAllocation platform est (pipelineOptions platform db options) db).2
        (evaluatedAfter (pipelineOptions platform db options)
          (runMarketAllocation platform est (pipelineOptions platform db options) db).2)).1 := by
  rw [authorizedOpps, runAuthorityPipeline_results]

lemma nodup_authorizedOpps : (authorizedOpps platform ks est now options db).Nodup := by
  rw [authorizedOpps_eq]
  exact nodup_authorizedIds

/-- The cap cuts off an authorized opportunity: it ends with the status `authorized`. -/
lemma statusOf_of_notMem_targetBatch {id : String}
    (hid : id ∈ authorizedOpps platform ks est now options db)
    (hnot : id ∉ targetBatch platform ks est now options db) :
    (executeAuthorizedBatch platform ks est now scripts options db).2.statusOf id =
      some authorized := by
  rw [authorizedOpps_eq] at hid
  have hstatus := (allocated_pipeline platform est options db).statusOf_of_mem_authorizedIds hid
  rw [executeAuthorizedBatch, Db.statusOf, executeEach_getOpportunityById_of_notMem _ _ _ _ hnot,
    runAuthorityPipeline_snd]
  exact hstatus

/-- No authorized opportunity is stranded exactly when the cap covers all of them. -/
lemma noneStranded_iff_length_le :
    NoneStranded platform ks est now scripts options db ↔
      (authorizedOpps platform ks est now options db).length ≤ resolveMaxLinks platform options := by
  constructor
  · intro h
    by_contra hlt
    rw [not_le] at hlt
    -- the first opportunity behind the cap is stranded
    have hmem := List.getElem_mem hlt
    have hnot : (authorizedOpps platform ks est now options db)[resolveMaxLinks platform options] ∉
        targetBatch platform ks est now options db := by
      intro hin
      obtain ⟨i, hi, heq⟩ := List.mem_take_iff_getElem.mp hin
      have hindex := (nodup_authorizedOpps ..).getElem_inj_iff.mp heq
      omega
    rcases h _ hmem with hin | ⟨s, hs, hsel⟩
    · exact hnot hin
    · rw [statusOf_of_notMem_targetBatch _ _ _ _ _ _ _ hmem hnot, Option.some.injEq] at hs
      subst hs
      simp [isAllocatable, isEvaluated] at hsel
  · intro hle id hid
    left
    rwa [targetBatch, List.take_of_length_le hle]

/-- No authorized opportunity is stranded exactly when the cap covers the rows that were allocated
before and are cleared, and the winners of the batch's own allocation that are cleared. -/
theorem noneStranded_iff :
    NoneStranded platform ks est now scripts options db ↔
      (carriedOver ks est (pipelineOptions platform db options) db).length +
          (clearedToAct ks est db
            (winners platform est (pipelineOptions platform db options) db)).length ≤
        resolveMaxLinks platform options := by
  rw [noneStranded_iff_length_le, authorizedOpps_eq,
    (allocated_pipeline platform est options db).length_authorizedIds]

/-- A batch of one after an allocation of one: the pipeline authorizes both opportunities and the
second is stranded. -/
theorem cap_strands_authorized :
    ¬ NoneStranded .plain .off .sample 2000 (fun _ => .unavailable) ⟨some 1, none, none, none⟩
      (runMarketAllocation .plain .sample ⟨some 1, none, none⟩
        (Db.ofRows [sampleOpportunity "opp_1" pending, sampleOpportunity "opp_2" pending] [])).2 := by
  rw [noneStranded_iff_length_le]
  decide +kernel

end Batch

end CtrlRecovery
