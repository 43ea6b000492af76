import CtrlRecovery.Core.Run
import CtrlRecovery.Db.Sample
import CtrlRecovery.Execution.Dlq
import Mathlib.Logic.Function.Basic

/-!
# Retries

Any number of `recordExecutionFailure` and `replayPendingRetries` calls run at the same time on one
database. A replay fetches the jobs that are due, executes their opportunities one after the other,
and resolves or records each; the outcome of an execution is arbitrary here, and so is what the rest
of the system does to the other tables.

Meant is that an opportunity has at most one pending job, and none once it is dead-lettered
(`RetryLaw`). As the earlier jobs are never retired, this holds in exactly the runs in which every
new job finds them resolved (`retryLaw_iff`).
-/

namespace CtrlRecovery

open Core

namespace ExecutionDLQ

/-! ### Calls -/

/-- A call of `recordExecutionFailure` at one of its awaits. -/
inductive RecordCall
  | counting (opportunityId error : String)
  | counted (failure : Failure)
  | superseding (failure : Failure)
  | inserting (failure : Failure)

/-- Where an await of `recordExecutionFailure` leads. -/
inductive RecordStep
  | next (call : RecordCall) (db : Db)
  | done (db : Db)
  | rejected

namespace RecordCall

def opportunityId : RecordCall → String
  | .counting opportunityId _ => opportunityId
  | .counted failure | .superseding failure | .inserting failure => failure.opportunityId

def advance (now : Timestamp) (db : Db) : RecordCall → RecordStep
  | .counting opportunityId error =>
    .next (.counted (countFailure db opportunityId error now)) db
  | .counted failure     => .next (.superseding failure) (deadLetter db failure)
  | .superseding failure => .next (.inserting failure) (supersede db failure)
  | .inserting failure   =>
    match insertJob? db failure with
    | some db => .done db
    | none    => .rejected

end RecordCall

/-- How the execution of a replayed job ends. -/
inductive RetryOutcome
  | success
  | failed (error : Option String)
  | thrown (message : Option String)

/-- A call at one of its awaits. A replay holds on to the jobs that are left of its batch; `caught`
tells that it records an error that it has caught. -/
inductive DlqCall
  | recording (call : RecordCall)
  | fetching (limit : ℕ)
  | executing (job : DlqJobRecord) (rest : List DlqJobRecord)
  | resolving (job : DlqJobRecord) (rest : List DlqJobRecord)
  | recordingRetry (call : RecordCall) (caught : Bool) (rest : List DlqJobRecord)

namespace DlqCall

def replaying : List DlqJobRecord → Option DlqCall
  | []          => none
  | job :: rest => some (.executing job rest)

/-- Take a call that waits for the database to its next await, or to its end. -/
def advance (now : Timestamp) (db : Db) : DlqCall → Option (Option DlqCall × Db)
  | .recording call =>
    match call.advance now db with
    | .next call db => some (some (.recording call), db)
    | .done db      => some (none, db)
    | .rejected     => some (none, db)
  | .fetching limit      => some (replaying ((getPendingRetries db now).take limit), db)
  | .executing _ _       => none
  | .resolving job rest  => some (replaying rest, markRetrySuccess db job.opportunityId now)
  | .recordingRetry call caught rest =>
    match call.advance now db with
    | .next call db => some (some (.recordingRetry call caught rest), db)
    | .done db      => some (replaying rest, db)
    | .rejected     =>
      -- the loop's own `catch` records the failed insertion once more; a second one ends the replay
      some (if caught then none else
        some (.recordingRetry
          (.counting call.opportunityId "FOREIGN KEY constraint failed") true rest), db)

/-- The execution of a job has ended. -/
def executed (outcome : RetryOutcome) : DlqCall → Option DlqCall
  | .executing job rest =>
    match outcome with
    | .success => some (.resolving job rest)
    | .failed error =>
      some (.recordingRetry
        (.counting job.opportunityId (Js.orElse error "Retry execution failed")) false rest)
    | .thrown message =>
      some (.recordingRetry
        (.counting job.opportunityId (Js.orElse message "Unexpected retry crash")) true rest)
  | _ => none

end DlqCall

/-! ### The system -/

structure DlqState where
  db : Db
  calls : ℕ → Option DlqCall

/-- A call starts, passes an await, or learns how its execution has ended; or the rest of the system
writes other tables. -/
inductive DlqAction
  | recordExecutionFailure (call : ℕ) (opportunityId error : String)
  | replayPendingRetries (call : ℕ) (limit : ℕ)
  | proceed (call : ℕ) (now : Timestamp)
  | executed (call : ℕ) (outcome : RetryOutcome)
  | elsewhere (db : Db)

def DlqState.start (s : DlqState) (call : ℕ) (c : DlqCall) : Option DlqState :=
  match s.calls call with
  | none   => some { s with calls := Function.update s.calls call (some c) }
  | some _ => none

def dlqStep (s : DlqState) : DlqAction → Option DlqState
  | .recordExecutionFailure call opportunityId error =>
    s.start call (.recording (.counting opportunityId error))
  | .replayPendingRetries call limit => s.start call (.fetching limit)
  | .proceed call now => do
    let c ← s.calls call
    let next ← c.advance now s.db
    some { db := next.2, calls := Function.update s.calls call next.1 }
  | .executed call outcome => do
    let c ← s.calls call
    let next ← c.executed outcome
    some { s with calls := Function.update s.calls call (some next) }
  | .elsewhere db => if db.dlqJobs = s.db.dlqJobs then some { s with db := db } else none

/-! ### The law of retries -/

def pendingJobs (jobs : List DlqJobRecord) (id : String) : List DlqJobRecord :=
  jobs.filter fun job => job.opportunityId = id ∧ job.status = .pendingRetry

def IsDeadLettered (jobs : List DlqJobRecord) (id : String) : Prop :=
  ∃ job ∈ jobs, job.opportunityId = id ∧ job.status = .deadLetter

instance (jobs : List DlqJobRecord) (id : String) : Decidable (IsDeadLettered jobs id) := by
  unfold IsDeadLettered
  infer_instance

/-- Each opportunity has at most one pending job, and none once it has been given up. -/
structure RetryLaw (jobs : List DlqJobRecord) : Prop where
  unique : ∀ id, (pendingJobs jobs id).length ≤ 1
  given_up : ∀ id, IsDeadLettered jobs id → pendingJobs jobs id = []

/-- The jobs of an opportunity leave room for the job of a failure: none is pending, and a failure
that is to be retried finds no dead letter. -/
def LeavesRoom (jobs : List DlqJobRecord) (failure : Failure) : Prop :=
  pendingJobs jobs failure.opportunityId = [] ∧
    (failure.isExhausted ∨ ¬ IsDeadLettered jobs failure.opportunityId)

instance (jobs : List DlqJobRecord) (failure : Failure) : Decidable (LeavesRoom jobs failure) := by
  unfold LeavesRoom
  infer_instance

section Jobs

variable {jobs : List DlqJobRecord} {failure : Failure} {id : String}

lemma Failure.job_status_pendingRetry_iff :
    failure.job.status = .pendingRetry ↔ ¬ failure.isExhausted := by
  simp [Failure.job]

lemma Failure.job_status_deadLetter_iff :
    failure.job.status = .deadLetter ↔ failure.isExhausted := by
  simp [Failure.job]

lemma pendingJobs_append_of_exhausted (h : failure.isExhausted) :
    pendingJobs (jobs ++ [failure.job]) id = pendingJobs jobs id := by
  simp [pendingJobs, Failure.job_status_pendingRetry_iff, h]

lemma pendingJobs_append_self (h : ¬ failure.isExhausted) :
    pendingJobs (jobs ++ [failure.job]) failure.opportunityId =
      pendingJobs jobs failure.opportunityId ++ [failure.job] := by
  have hid : failure.job.opportunityId = failure.opportunityId := rfl
  simp [pendingJobs, Failure.job_status_pendingRetry_iff, h, hid]

lemma pendingJobs_append_of_ne (h : id ≠ failure.opportunityId) :
    pendingJobs (jobs ++ [failure.job]) id = pendingJobs jobs id := by
  have hid : failure.job.opportunityId = failure.opportunityId := rfl
  simp [pendingJobs, hid, h.symm]

lemma isDeadLettered_append :
    IsDeadLettered (jobs ++ [failure.job]) id ↔
      IsDeadLettered jobs id ∨ (failure.opportunityId = id ∧ failure.isExhausted) := by
  have hid : failure.job.opportunityId = failure.opportunityId := rfl
  simp only [IsDeadLettered, List.mem_append, List.mem_singleton, or_and_right, exists_or,
    exists_eq_left, hid, Failure.job_status_deadLetter_iff]

/-- A new job keeps the law exactly when the earlier ones leave room for it. -/
theorem RetryLaw.append_iff (h : RetryLaw jobs) :
    RetryLaw (jobs ++ [failure.job]) ↔ LeavesRoom jobs failure := by
  by_cases hex : failure.isExhausted
  · constructor
    · intro h'
      have hdead : IsDeadLettered (jobs ++ [failure.job]) failure.opportunityId :=
        isDeadLettered_append.mpr (.inr ⟨rfl, hex⟩)
      have hnone := h'.given_up _ hdead
      rw [pendingJobs_append_of_exhausted hex] at hnone
      exact ⟨hnone, .inl hex⟩
    · rintro ⟨hnone, -⟩
      constructor
      · intro id
        rw [pendingJobs_append_of_exhausted hex]
        exact h.unique id
      · intro id hdead
        rw [pendingJobs_append_of_exhausted hex]
        rcases isDeadLettered_append.mp hdead with hdead | ⟨rfl, -⟩
        · exact h.given_up id hdead
        · exact hnone
  · constructor
    · intro h'
      have hone := h'.unique failure.opportunityId
      rw [pendingJobs_append_self hex, List.length_append, List.length_singleton] at hone
      have hnone : pendingJobs jobs failure.opportunityId = [] := by
        apply List.length_eq_zero_iff.mp
        omega
      refine ⟨hnone, .inr fun hdead => ?_⟩
      have hempty := h'.given_up _ (isDeadLettered_append.mpr (.inl hdead))
      rw [pendingJobs_append_self hex] at hempty
      simp at hempty
    · rintro ⟨hnone, hroom⟩
      have hnot : ¬ IsDeadLettered jobs failure.opportunityId := hroom.resolve_left hex
      constructor
      · intro id
        by_cases hid : id = failure.opportunityId
        · rw [hid, pendingJobs_append_self hex, hnone]
          simp
        · rw [pendingJobs_append_of_ne hid]
          exact h.unique id
      · intro id hdead
        rcases isDeadLettered_append.mp hdead with hdead | ⟨-, h'⟩
        · have hid : id ≠ failure.opportunityId := by
            rintro rfl
            exact hnot hdead
          rw [pendingJobs_append_of_ne hid]
          exact h.given_up id hdead
        · exact absurd h' hex

/-- The pending jobs after those of an opportunity have been resolved. -/
lemma pendingJobs_markRetrySuccess (db : Db) (resolved id : String) (now : Timestamp) :
    pendingJobs (markRetrySuccess db resolved now).dlqJobs id =
      if id = resolved then [] else pendingJobs db.dlqJobs id := by
  simp only [pendingJobs, markRetrySuccess, List.filter_map]
  split_ifs with hid
  · rw [List.map_eq_nil_iff, List.filter_eq_nil_iff]
    intro job _
    simp only [Function.comp_apply]
    split_ifs with hpending
    · simp
    · simpa [hid] using hpending
  · rw [List.filter_congr (q := fun job => job.opportunityId = id ∧ job.status = .pendingRetry)]
    · conv_rhs => rw [← List.map_id (List.filter _ _)]
      refine List.map_congr_left fun job hjob => if_neg ?_
      rintro ⟨h, -⟩
      simp only [List.mem_filter, decide_eq_true_eq] at hjob
      exact hid (hjob.2.1 ▸ h)
    · intro job _
      simp only [Function.comp_apply]
      split_ifs with hpending
      · simp [hpending.1, Ne.symm hid]
      · rfl

lemma isDeadLettered_markRetrySuccess {db : Db} {resolved : String} {now : Timestamp}
    (h : IsDeadLettered (markRetrySuccess db resolved now).dlqJobs id) :
    IsDeadLettered db.dlqJobs id := by
  obtain ⟨job', hmem, hid, hdead⟩ := h
  obtain ⟨job, hjob, rfl⟩ := List.mem_map.mp hmem
  split_ifs at hid hdead with hpending
  exact ⟨job, hjob, hid, hdead⟩

lemma RetryLaw.markRetrySuccess {db : Db} (h : RetryLaw db.dlqJobs) (resolved : String)
    (now : Timestamp) : RetryLaw (markRetrySuccess db resolved now).dlqJobs := by
  constructor
  · intro id
    rw [pendingJobs_markRetrySuccess]
    split_ifs
    · simp
    · exact h.unique id
  · intro id hdead
    rw [pendingJobs_markRetrySuccess]
    split_ifs
    · rfl
    · exact h.given_up id (isDeadLettered_markRetrySuccess hdead)

end Jobs

/-! ### One step -/

def RecordCall.inserts? (db : Db) : RecordCall → Option Failure
  | .inserting failure =>
    if (db.getOpportunityById failure.opportunityId).isSome then some failure else none
  | _ => none

def DlqCall.inserts? (db : Db) : DlqCall → Option Failure
  | .recording call | .recordingRetry call _ _ => call.inserts? db
  | _ => none

def insertedBy (s : DlqState) : DlqAction → Option Failure
  | .proceed call _ => (s.calls call).bind (·.inserts? s.db)
  | _ => none

/-- The jobs after a step. -/
inductive JobsAfter (db : Db) : Option Failure → List DlqJobRecord → Prop
  | same : JobsAfter db none db.dlqJobs
  | resolved (id : String) (now : Timestamp) : JobsAfter db none (markRetrySuccess db id now).dlqJobs
  | inserted (failure : Failure) : JobsAfter db (some failure) (db.dlqJobs ++ [failure.job])

section Step

variable {s t : DlqState} {a : DlqAction} {db db' : Db} {now : Timestamp}

/-- What an await of `recordExecutionFailure` does to the jobs. -/
lemma RecordCall.advance_jobs (now : Timestamp) (db : Db) (c : RecordCall) :
    match c.advance now db with
    | .next _ db' | .done db' => JobsAfter db (c.inserts? db) db'.dlqJobs
    | .rejected => c.inserts? db = none := by
  cases c with
  | counting opportunityId error => exact .same
  | counted failure =>
    have hjobs : JobsAfter db none (deadLetter db failure).dlqJobs := by
      rw [deadLetter_dlqJobs]
      exact .same
    exact hjobs
  | superseding failure =>
    have hjobs : JobsAfter db none (supersede db failure).dlqJobs := by
      rw [supersede_eq]
      exact .same
    exact hjobs
  | inserting failure =>
    simp only [RecordCall.advance, insertJob?, RecordCall.inserts?]
    split_ifs
    · exact .inserted failure
    · rfl

lemma DlqCall.advance_jobs {c : DlqCall} {next : Option DlqCall × Db}
    (h : c.advance now db = some next) : JobsAfter db (c.inserts? db) next.2.dlqJobs := by
  cases c with
  | recording call =>
    have hjobs := call.advance_jobs now db
    simp only [DlqCall.advance] at h
    split at h <;> rename_i hcall <;> rw [hcall] at hjobs <;> cases h
    · exact hjobs
    · exact hjobs
    · rw [DlqCall.inserts?, hjobs]
      exact .same
  | fetching limit =>
    cases h
    exact .same
  | executing job rest => simp [DlqCall.advance] at h
  | resolving job rest =>
    cases h
    exact .resolved job.opportunityId now
  | recordingRetry call caught rest =>
    have hjobs := call.advance_jobs now db
    simp only [DlqCall.advance] at h
    split at h <;> rename_i hcall <;> rw [hcall] at hjobs <;> cases h
    · exact hjobs
    · exact hjobs
    · rw [DlqCall.inserts?, hjobs]
      exact .same

lemma DlqState.start_db {call : ℕ} {c : DlqCall} (h : s.start call c = some t) : t.db = s.db := by
  rw [DlqState.start] at h
  split at h <;> cases h
  rfl

/-- What a step does to the jobs. -/
lemma dlqStep_jobs (h : dlqStep s a = some t) : JobsAfter s.db (insertedBy s a) t.db.dlqJobs := by
  cases a with
  | recordExecutionFailure call opportunityId error =>
    rw [DlqState.start_db h]
    exact .same
  | replayPendingRetries call limit =>
    rw [DlqState.start_db h]
    exact .same
  | proceed call now =>
    simp only [dlqStep, Option.bind_eq_bind, Option.bind_eq_some_iff, Option.some.injEq] at h
    obtain ⟨c, hc, next, hnext, rfl⟩ := h
    rw [insertedBy, hc]
    exact DlqCall.advance_jobs hnext
  | executed call outcome =>
    simp only [dlqStep, Option.bind_eq_bind, Option.bind_eq_some_iff, Option.some.injEq] at h
    obtain ⟨c, -, next, -, rfl⟩ := h
    exact .same
  | elsewhere db =>
    simp only [dlqStep] at h
    split_ifs at h with hjobs
    cases h
    show JobsAfter s.db none db.dlqJobs
    rw [hjobs]
    exact .same

end Step

/-! ### Whole runs -/

/-- A step that inserts a job finds room for it. -/
def InsertsIntoRoom (s : DlqState) (a : DlqAction) (_ : DlqState) : Prop :=
  ∀ failure ∈ insertedBy s a, LeavesRoom s.db.dlqJobs failure

instance (s : DlqState) (a : DlqAction) (t : DlqState) : Decidable (InsertsIntoRoom s a t) := by
  unfold InsertsIntoRoom
  infer_instance

/-- A step keeps the law exactly when it finds room for the job that it inserts. -/
lemma retryLaw_step_iff {s t : DlqState} {a : DlqAction} (h : RetryLaw s.db.dlqJobs)
    (hstep : dlqStep s a = some t) : RetryLaw t.db.dlqJobs ↔ InsertsIntoRoom s a t := by
  have hjobs := dlqStep_jobs hstep
  rw [InsertsIntoRoom]
  generalize insertedBy s a = inserted at hjobs ⊢
  generalize t.db.dlqJobs = jobs at hjobs ⊢
  cases hjobs with
  | same => simp [h]
  | resolved id now => simp [h.markRetrySuccess id now]
  | inserted failure => simp [h.append_iff]

/-- Every reachable state keeps the law exactly in the runs in which each new job finds no pending
one of its opportunity and, if it is to be retried, no dead letter. -/
theorem retryLaw_iff (s : DlqState) (as : List DlqAction) :
    (∀ pre rest t, as = pre ++ rest → Run dlqStep s pre t → RetryLaw t.db.dlqJobs) ↔
      RetryLaw s.db.dlqJobs ∧ AllSteps dlqStep InsertsIntoRoom s as := by
  apply always_iff_allSteps (I := fun s : DlqState => RetryLaw s.db.dlqJobs)
  intro s a t
  exact retryLaw_step_iff

/-! ### The second failure -/

/-- An executing opportunity, no job and no call. -/
def retryStart : DlqState where
  db := Db.ofRows [sampleOpportunity "pay_1" .executing] []
  calls := fun _ => none

/-- Two failures of one opportunity, one after the other. -/
def retryActions : List DlqAction :=
  [.recordExecutionFailure 0 "pay_1" "Connection reset by peer", .proceed 0 3000, .proceed 0 3001,
    .proceed 0 3002, .proceed 0 3003,
    .recordExecutionFailure 1 "pay_1" "Gateway timeout", .proceed 1 4000, .proceed 1 4001,
    .proceed 1 4002, .proceed 1 4003]

/-- The second failure leaves two pending jobs. -/
theorem second_failure_leaves_two :
    ¬ ∀ (s : DlqState) (as : List DlqAction), s.db.dlqJobs = [] → (∀ call, s.calls call = none) →
      ∀ pre rest t, as = pre ++ rest → Run dlqStep s pre t → RetryLaw t.db.dlqJobs := by
  intro h
  have hlaw := h retryStart retryActions rfl fun _ => rfl
  have hall := ((always_iff_allSteps (I := fun s : DlqState => RetryLaw s.db.dlqJobs)
    fun _ _ _ => retryLaw_step_iff).mp hlaw).2
  revert hall
  decide +kernel

end ExecutionDLQ

end CtrlRecovery
