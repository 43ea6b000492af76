import CtrlRecovery.Execution.LiveCall
import CtrlRecovery.Execution.Retries

/-!
# The retry budget

The attempts to execute an opportunity, one after the other: the first by `executeOpportunity`, the
others by the replay of its jobs. An attempt runs the executor from its start to its end, on any
answers of the provider.

Meant is that every failed attempt adds one to the failure count (`CountsByOne`). The executor
records a failure of the provider by itself, and records nothing when it throws; the replay records
every failure. So an attempt counts right when exactly one of the two records it, and when the count
that it continues has not been closed by a successful replay (`countsByOne_iff`).
-/

namespace CtrlRecovery

open Core OpportunityStatus Market ExecutionDLQ Executor

/-! ### Attempts -/

/-- What an attempt is given from outside. -/
structure AttemptInput where
  killSwitches : KillSwitches
  estimator : Estimator
  script : ExecutionScript

namespace AttemptInput

def execute (input : AttemptInput) (db : Db) (id : String) : ExecuteCall × Db :=
  executeOpportunity input.killSwitches input.estimator input.script db id

def Fails (input : AttemptInput) (db : Db) (id : String) : Prop :=
  (result? (input.execute db id).1).any isFailure

instance (input : AttemptInput) (db : Db) (id : String) : Decidable (input.Fails db id) := by
  unfold Fails
  infer_instance

/-- The failure is one of the provider, that the executor records by itself. -/
def failsOverProvider (input : AttemptInput) (db : Db) (id : String) : Bool :=
  Executor.failsOverProvider input.killSwitches input.estimator input.script db id

end AttemptInput

/-- The database, the jobs that are left of the current replay, and the opportunities that a replay
has executed successfully since their last failed attempt. -/
structure AttemptState where
  db : Db
  batch : List DlqJobRecord
  replaySucceeded : String → Bool

/-- A direct attempt, the start of a replay, the attempt for its next job, or whatever the rest of
the system does to other tables. -/
inductive AttemptAction
  | executeOpportunity (input : AttemptInput) (id : String)
  | replayPendingRetries (now : Timestamp) (limit : ℕ)
  | replayJob (input : AttemptInput) (now : Timestamp)
  | elsewhere (db : Db)

def retryError : Except String SingleExecutionResult → String
  | .error message => Js.orElse (some message) "Unexpected retry crash"
  | .ok result     => Js.orElse result.error "Retry execution failed"

def attemptStep (s : AttemptState) : AttemptAction → Option AttemptState
  | .executeOpportunity input id => do
    let executed := input.execute s.db id
    let result ← result? executed.1
    some
      { s with
        db := executed.2
        replaySucceeded :=
          if isFailure result then Function.update s.replaySucceeded id false
          else s.replaySucceeded }
  | .replayPendingRetries now limit =>
    if s.batch = [] then some { s with batch := (getPendingRetries s.db now).take limit } else none
  | .replayJob input now =>
    match s.batch with
    | []          => none
    | job :: rest => do
      let id := job.opportunityId
      let executed := input.execute s.db id
      let result ← result? executed.1
      if isFailure result then
        -- a rejected recording ends the replay
        let recorded := recordExecutionFailure executed.2 id (retryError result) now
        some
          { db := recorded.getD executed.2
            batch := if recorded.isSome then rest else []
            replaySucceeded := Function.update s.replaySucceeded id false }
      else
        some
          { db := markRetrySuccess executed.2 id now
            batch := rest
            replaySucceeded := Function.update s.replaySucceeded id true }
  | .elsewhere db => if db.dlqJobs = s.db.dlqJobs then some { s with db := db } else none

/-! ### The budget -/

def attemptOf (s : AttemptState) : AttemptAction → Option (AttemptInput × String)
  | .executeOpportunity input id => some (input, id)
  | .replayJob input _           => s.batch.head?.map fun job => (input, job.opportunityId)
  | _                            => none

/-- The attempt does not come from a replay. -/
def isDirect : AttemptAction → Bool
  | .executeOpportunity _ _ => true
  | _                       => false

/-- The count that the next failure continues: a successful replay closes it. -/
def continuedCount (s : AttemptState) (id : String) : ℕ :=
  if s.replaySucceeded id then 0 else latestCount s.db.dlqJobs id

/-- The newest job of an opportunity is a new one with this count, and a dead letter exactly when
the backoff intervals are used up. -/
def HasNewJob (jobs jobs' : List DlqJobRecord) (id : String) (count : ℕ) : Prop :=
  (jobs.filter fun job => job.opportunityId = id).length <
      (jobs'.filter fun job => job.opportunityId = id).length ∧
    ∃ job ∈ (jobs'.filter fun job => job.opportunityId = id).getLast?,
      job.failureCount = count ∧ (job.status = .deadLetter ↔ retryIntervalsMin.length < count)

/-- A failed attempt of a live opportunity adds one to its failure count. -/
def CountsByOne (s : AttemptState) (a : AttemptAction) (t : AttemptState) : Prop :=
  ∀ attempt ∈ attemptOf s a, IsLive s.db attempt.2 → attempt.1.Fails s.db attempt.2 →
    HasNewJob s.db.dlqJobs t.db.dlqJobs attempt.2 (continuedCount s attempt.2 + 1)

/-- A failed attempt of a live opportunity is recorded once, by the executor when it is direct and
by the replay otherwise, and its count has not been closed. -/
def RecordsOnce (s : AttemptState) (a : AttemptAction) (_ : AttemptState) : Prop :=
  ∀ attempt ∈ attemptOf s a, IsLive s.db attempt.2 → attempt.1.Fails s.db attempt.2 →
    attempt.1.failsOverProvider s.db attempt.2 = isDirect a ∧
      (s.replaySucceeded attempt.2 → latestCount s.db.dlqJobs attempt.2 = 0)

instance (jobs jobs' : List DlqJobRecord) (id : String) (count : ℕ) :
    Decidable (HasNewJob jobs jobs' id count) := by
  unfold HasNewJob
  infer_instance

instance (s : AttemptState) (a : AttemptAction) (t : AttemptState) :
    Decidable (CountsByOne s a t) := by
  unfold CountsByOne
  infer_instance

section Jobs

variable {jobs extra : List DlqJobRecord} {failure : Failure} {id : String} {count : ℕ} {db : Db}
  {now : Timestamp}

lemma latestCount_append :
    latestCount (jobs ++ [failure.job]) failure.opportunityId = failure.failureCount := by
  have hid : failure.job.opportunityId = failure.opportunityId := rfl
  have hcount : failure.job.failureCount = failure.failureCount := rfl
  simp [latestCount, hid, hcount]

lemma not_hasNewJob_self : ¬ HasNewJob jobs jobs id count := by
  intro h
  exact absurd h.1 (lt_irrefl _)

/-- The job of a failure that is inserted last is the newest one. -/
lemma hasNewJob_append_iff :
    HasNewJob jobs (jobs ++ extra ++ [failure.job]) failure.opportunityId count ↔
      failure.failureCount = count := by
  have hid : failure.job.opportunityId = failure.opportunityId := rfl
  have hcount : failure.job.failureCount = failure.failureCount := rfl
  have hdead : failure.job.status = .deadLetter ↔
      retryIntervalsMin.length < failure.failureCount := by
    rw [Failure.job_status_deadLetter_iff, Failure.isExhausted, decide_eq_true_eq]
  simp only [HasNewJob, List.filter_append, List.filter_singleton, hid, decide_true, cond_true,
    List.length_append, List.length_singleton, List.getLast?_append, List.getLast?_singleton,
    Option.some_or, Option.mem_some, exists_eq_left', hcount, hdead]
  constructor
  · rintro ⟨-, h, -⟩
    exact h
  · rintro rfl
    exact ⟨by omega, rfl, Iff.rfl⟩

lemma hasNewJob_concat_iff :
    HasNewJob jobs (jobs ++ [failure.job]) failure.opportunityId count ↔
      failure.failureCount = count := by
  have hnone : jobs ++ [] ++ [failure.job] = jobs ++ [failure.job] := by rw [List.append_nil]
  rw [← hnone]
  exact hasNewJob_append_iff

lemma recordExecutionFailure_dlqJobs (now : Timestamp) (error : String)
    (h : (db.getOpportunityById id).isSome) :
    ∃ db', recordExecutionFailure db id error now = some db' ∧
      db'.dlqJobs = db.dlqJobs ++ [(countFailure db id error now).job] := by
  have hrow : ((deadLetter db (countFailure db id error now)).getOpportunityById id).isSome := by
    rw [isSome_getOpportunityById_deadLetter]
    exact h
  refine ⟨insertJob (deadLetter db (countFailure db id error now)) (countFailure db id error now),
    ?_, ?_⟩
  · rw [recordExecutionFailure, supersede_eq]
    exact if_pos hrow
  · rw [insertJob, deadLetter_dlqJobs]

end Jobs

/-! ### One step -/

section Step

variable {s t : AttemptState} {input : AttemptInput} {id : String} {now : Timestamp}

lemma latestCount_eq_continuedCount_iff :
    latestCount s.db.dlqJobs id = continuedCount s id ↔
      (s.replaySucceeded id → latestCount s.db.dlqJobs id = 0) := by
  rw [continuedCount]
  split_ifs with h
  · simp [h]
  · simp [h]

/-- A failed attempt is recorded by the executor exactly when it fails over the provider. -/
lemma AttemptInput.execute_dlqJobs {result : Except String SingleExecutionResult} {db : Db}
    (hlive : IsLive db id) (hresult : result? (input.execute db id).1 = some result)
    (hfail : isFailure result) :
    if input.failsOverProvider db id then
      ∃ failure : Failure, failure.opportunityId = id ∧
        failure.failureCount = latestCount db.dlqJobs id + 1 ∧
        (input.execute db id).2.dlqJobs = db.dlqJobs ++ [failure.job]
    else (input.execute db id).2.dlqJobs = db.dlqJobs :=
  (liveCall_executeOpportunity hlive).recorded_of_isFailure hresult hfail

lemma AttemptInput.isSome_getOpportunityById_execute {db : Db} (hlive : IsLive db id) :
    ((input.execute db id).2.getOpportunityById id).isSome := by
  obtain ⟨opp, hrow, -⟩ := hlive
  rw [AttemptInput.execute, executeOpportunity, isSome_getOpportunityById_proceed,
    isSome_getOpportunityById_start, hrow, Option.isSome_some]

/-- A direct attempt counts right when the executor records it. -/
lemma hasNewJob_executeOpportunity_iff
    (hstep : attemptStep s (.executeOpportunity input id) = some t) (hlive : IsLive s.db id)
    (hfails : input.Fails s.db id) :
    HasNewJob s.db.dlqJobs t.db.dlqJobs id (continuedCount s id + 1) ↔
      input.failsOverProvider s.db id ∧
        (s.replaySucceeded id → latestCount s.db.dlqJobs id = 0) := by
  obtain ⟨result, hresult, hfail⟩ := (Option.any_eq_true isFailure _).mp hfails
  have hdb : t.db = (input.execute s.db id).2 := by
    simp only [attemptStep, hresult, Option.bind_eq_bind, Option.bind_some,
      Option.some.injEq] at hstep
    rw [← hstep]
  have hjobs := input.execute_dlqJobs hlive hresult hfail
  rw [hdb]
  split_ifs at hjobs with hprovider
  · obtain ⟨failure, rfl, hcount, hjobs⟩ := hjobs
    rw [hjobs, hasNewJob_concat_iff, hcount, Nat.add_right_cancel_iff,
      latestCount_eq_continuedCount_iff]
    simp [hprovider]
  · rw [hjobs]
    simp [not_hasNewJob_self, hprovider]

/-- A replay counts right when the executor does not record it as well. -/
lemma hasNewJob_replayJob_iff {job : DlqJobRecord} {rest : List DlqJobRecord}
    (hbatch : s.batch = job :: rest) (hstep : attemptStep s (.replayJob input now) = some t)
    (hlive : IsLive s.db job.opportunityId) (hfails : input.Fails s.db job.opportunityId) :
    HasNewJob s.db.dlqJobs t.db.dlqJobs job.opportunityId
        (continuedCount s job.opportunityId + 1) ↔
      ¬ input.failsOverProvider s.db job.opportunityId ∧
        (s.replaySucceeded job.opportunityId →
          latestCount s.db.dlqJobs job.opportunityId = 0) := by
  obtain ⟨result, hresult, hfail⟩ := (Option.any_eq_true isFailure _).mp hfails
  obtain ⟨db, hrecorded, hjobs⟩ := recordExecutionFailure_dlqJobs now (retryError result)
    (input.isSome_getOpportunityById_execute hlive)
  have hdb : t.db = db := by
    simp only [attemptStep, hbatch, hresult, hfail, Option.bind_eq_bind, Option.bind_some, if_true,
      hrecorded, Option.getD_some, Option.some.injEq] at hstep
    rw [← hstep]
  have hexecuted := input.execute_dlqJobs hlive hresult hfail
  rw [hdb, hjobs]
  generalize hfailure : countFailure _ _ _ _ = failure at hjobs ⊢
  have hid : failure.opportunityId = job.opportunityId := by rw [← hfailure]; rfl
  have hcount : failure.failureCount =
      latestCount (input.execute s.db job.opportunityId).2.dlqJobs job.opportunityId + 1 := by
    rw [← hfailure]
    rfl
  split_ifs at hexecuted with hprovider
  · obtain ⟨first, hfirst, hone, hexecuted⟩ := hexecuted
    rw [hexecuted, ← hfirst, latestCount_append, hone] at hcount
    rw [hexecuted, ← hid, hasNewJob_append_iff, hcount, hid, continuedCount]
    simp only [hprovider, not_true_eq_false, false_and, iff_false]
    split_ifs <;> omega
  · rw [hexecuted] at hcount
    rw [hexecuted, ← hid, hasNewJob_concat_iff, hcount, hid, Nat.add_right_cancel_iff,
      latestCount_eq_continuedCount_iff]
    simp [hprovider]

/-- An attempt counts right exactly when it is recorded once. -/
lemma countsByOne_iff_recordsOnce {a : AttemptAction} (hstep : attemptStep s a = some t) :
    CountsByOne s a t ↔ RecordsOnce s a t := by
  apply forall₂_congr
  intro attempt hattempt
  apply forall₂_congr
  intro hlive hfails
  cases a with
  | executeOpportunity input id =>
    cases hattempt
    rw [hasNewJob_executeOpportunity_iff hstep hlive hfails, isDirect]
  | replayJob input now =>
    cases hbatch : s.batch with
    | nil => simp [attemptOf, hbatch] at hattempt
    | cons job rest =>
      simp only [attemptOf, hbatch, List.head?_cons, Option.map_some, Option.mem_some] at hattempt
      cases hattempt
      rw [hasNewJob_replayJob_iff hbatch hstep hlive hfails,
        show isDirect (.replayJob input now) = false from rfl, Bool.not_eq_true]
  | replayPendingRetries now limit => simp [attemptOf] at hattempt
  | elsewhere db => simp [attemptOf] at hattempt

end Step

/-! ### Whole runs -/

/-- Every failed attempt of a run adds one to the failure count exactly when each is recorded once
and none follows a successful replay. -/
theorem countsByOne_iff (s : AttemptState) (as : List AttemptAction) :
    AllSteps attemptStep CountsByOne s as ↔ AllSteps attemptStep RecordsOnce s as := by
  apply allSteps_congr
  intro s a t hstep
  exact countsByOne_iff_recordsOnce hstep

/-! ### The first replay -/

/-- An allocated live opportunity, and no job. -/
def budgetStart : AttemptState where
  db := (runMarketAllocation .plain .sample ⟨some 1, none, none⟩
    (Db.ofRows [{ sampleOpportunity "pay_1" pending with environment := .live }] [])).2
  batch := []
  replaySucceeded := fun _ => false

/-- A provider that rejects the link for good. -/
def rejectedInput (now : Timestamp) : AttemptInput where
  killSwitches := .off
  estimator := .sample
  script :=
    { client := .ok (.pool "tenant_a" .live)
      breakerOpen := false
      attempts := fun _ => .error ⟨some "Account suspended", none, some 400, none⟩
      lookup := none
      now := now
      entryId := "led_1" }

/-- A failed attempt, and its failed replay five minutes later. -/
def budgetActions : List AttemptAction :=
  [.executeOpportunity (rejectedInput 3000) "pay_1",
    .replayPendingRetries 303000 10,
    .replayJob (rejectedInput 303001) 303002]

/-- The first replay raises the failure count from one to three. -/
theorem replay_counts_twice :
    ¬ ∀ (s : AttemptState) (as : List AttemptAction),
      s.db.dlqJobs = [] → s.batch = [] → (∀ id, s.replaySucceeded id = false) →
        AllSteps attemptStep CountsByOne s as := by
  intro h
  have hall := h budgetStart budgetActions (by decide +kernel) rfl fun _ => rfl
  revert hall
  decide +kernel

end CtrlRecovery
