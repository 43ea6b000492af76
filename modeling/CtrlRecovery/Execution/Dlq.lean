import CtrlRecovery.Db.StatusWrites

/-!
# The dead-letter queue

A failed execution is scheduled for a retry after 5, 15, 60 and 240 minutes; the fifth failure
dead-letters it and vetoes the opportunity. Recording a failure reads the count of the last job,
writes the veto and inserts the new job, with an await between each; the three parts are separate
here.

Between them the program also tries to mark the earlier pending jobs `SUPERSEDED`. The column's
check admits no such status, so that this statement either matches no row or fails, and the failure
is ignored: it never changes anything (`supersede_eq`).
-/

namespace CtrlRecovery

open Core OpportunityStatus

namespace ExecutionDLQ

/-- The backoff intervals in minutes. -/
def retryIntervalsMin : List ℕ := [5, 15, 60, 240]

def prevCount (db : Db) (opportunityId : String) : ℕ :=
  ((db.dlqJobs.filter fun job => job.opportunityId = opportunityId).getLast?).elim 0
    (·.failureCount)

/-- A failure that has been counted. -/
structure Failure where
  opportunityId : String
  failureCount : ℕ
  error : String
  now : Timestamp
  deriving DecidableEq, Repr

/-- The first part of `recordExecutionFailure`. -/
def countFailure (db : Db) (opportunityId error : String) (now : Timestamp) : Failure where
  opportunityId := opportunityId
  failureCount := prevCount db opportunityId + 1
  error := error
  now := now

def Failure.isExhausted (failure : Failure) : Bool :=
  failure.failureCount > retryIntervalsMin.length

/-- The veto of an exhausted opportunity. -/
def deadLetter (db : Db) (failure : Failure) : Db :=
  if failure.isExhausted ∧ (db.getOpportunityById failure.opportunityId).isSome then
    (db.updateStatus failure.opportunityId blocked).setAttemptCount failure.opportunityId
      failure.failureCount
  else db

@[simp] lemma deadLetter_dlqJobs (db : Db) (failure : Failure) :
    (deadLetter db failure).dlqJobs = db.dlqJobs := by
  rw [deadLetter]
  split_ifs
  · exact Db.updateStatus_dlqJobs
  · rfl

/-- The job of a failure. -/
def Failure.job (failure : Failure) : DlqJobRecord where
  opportunityId := failure.opportunityId
  failureCount := failure.failureCount
  lastError := failure.error
  nextRetryAt :=
    (retryIntervalsMin[failure.failureCount - 1]?).map fun minutes =>
      failure.now + minutes * 60 * 1000
  status := if failure.isExhausted then .deadLetter else .pendingRetry
  createdAt := failure.now
  updatedAt := failure.now

/-- The pending jobs of an opportunity are given a status by its text; `none` when there is one and
the check of the column does not admit the text. -/
def updatePendingStatus? (db : Db) (opportunityId status : String) (now : Timestamp) : Option Db :=
  if db.dlqJobs.any fun job => job.opportunityId = opportunityId ∧ job.status = .pendingRetry then
    (DlqStatus.ofText? status).map fun status =>
      { db with
        dlqJobs := db.dlqJobs.map fun job =>
          if job.opportunityId = opportunityId ∧ job.status = .pendingRetry then
            { job with status := status, updatedAt := now }
          else job }
  else some db

/-- The earlier pending jobs are retired, and the failure to do so is ignored. -/
def supersede (db : Db) (failure : Failure) : Db :=
  (updatePendingStatus? db failure.opportunityId "SUPERSEDED" failure.now).getD db

/-- `SUPERSEDED` is no status that the table admits. -/
@[simp] lemma supersede_eq (db : Db) (failure : Failure) : supersede db failure = db := by
  rw [supersede, updatePendingStatus?]
  split_ifs
  · simp [DlqStatus.ofText?]
  · rfl

/-- The last part of `recordExecutionFailure`. -/
def insertJob (db : Db) (failure : Failure) : Db :=
  { db with dlqJobs := db.dlqJobs ++ [failure.job] }

/-- The insertion, by the foreign key of the table: `none` when the opportunity has no row. -/
def insertJob? (db : Db) (failure : Failure) : Option Db :=
  if (db.getOpportunityById failure.opportunityId).isSome then some (insertJob db failure) else none

/-- A call of `recordExecutionFailure` that nothing runs between; `none` when it is rejected. -/
def recordExecutionFailure (db : Db) (opportunityId error : String) (now : Timestamp) : Option Db :=
  let failure := countFailure db opportunityId error now
  insertJob? (supersede (deadLetter db failure) failure) failure

/-- The pending jobs of an opportunity are resolved. -/
def markRetrySuccess (db : Db) (opportunityId : String) (now : Timestamp) : Db :=
  { db with
    dlqJobs := db.dlqJobs.map fun job =>
      if job.opportunityId = opportunityId ∧ job.status = .pendingRetry then
        { job with status := .resolved, updatedAt := now }
      else job }

/-- `RESOLVED` is a status that the table admits. -/
lemma updatePendingStatus?_resolved (db : Db) (opportunityId : String) (now : Timestamp) :
    updatePendingStatus? db opportunityId "RESOLVED" now =
      some (markRetrySuccess db opportunityId now) := by
  rw [updatePendingStatus?]
  split_ifs with h
  · simp [DlqStatus.ofText?, markRetrySuccess]
  · have hjobs : (markRetrySuccess db opportunityId now).dlqJobs = db.dlqJobs := by
      conv_rhs => rw [← List.map_id db.dlqJobs]
      refine List.map_congr_left fun job hjob => if_neg fun hpending => h ?_
      exact List.any_eq_true.mpr ⟨job, hjob, by simpa using hpending⟩
    rw [Option.some.injEq]
    exact congrArg (fun jobs => { db with dlqJobs := jobs }) hjobs.symm

/-- The jobs that are due, the longest due first. -/
def getPendingRetries (db : Db) (now : Timestamp) : List DlqJobRecord :=
  rank (fun job => -(job.nextRetryAt.getD 0 : ℤ)) <| db.dlqJobs.filter fun job =>
    job.status = .pendingRetry ∧ job.nextRetryAt.any (· ≤ now)

end ExecutionDLQ

end CtrlRecovery
