import CtrlRecovery.Execution.Batch

/-!
# Live calls

A live call of the executor ends in one of three ways: it throws, it returns a link, or it records
the provider's failure in the dead-letter queue and returns it. `LiveCall` follows the queue through
a call, and `liveCall_executeOpportunity` says what a call that runs to its end leaves there.
-/

namespace CtrlRecovery

open Core ExecutionDLQ

namespace Executor

def isFailing : ExecuteCall → Bool
  | .failing _ _ => true
  | _            => false

/-- A call comes to the point where it records its failure. -/
def reachesFailing (script : ExecutionScript) : ℕ → ExecuteCall × Db → Bool
  | 0, _            => false
  | fuel + 1, state =>
    match advance (script.answer state.1) script.now script.entryId state.2 state.1 with
    | some next => isFailing next.1 || reachesFailing script fuel next
    | none      => false

/-- The attempt ends with a failure of the provider, not with an error that is thrown before. -/
def failsOverProvider (ks : KillSwitches) (est : Estimator) (script : ExecutionScript) (db : Db)
    (id : String) : Bool :=
  reachesFailing script 10 (start ks est script.now db id)

def result? : ExecuteCall → Option (Except String SingleExecutionResult)
  | .finished result => some result
  | _                => none

def isFailure : Except String SingleExecutionResult → Bool
  | .error _   => true
  | .ok result => !result.success

/-- The opportunity exists, and its money is live. -/
def IsLive (db : Db) (id : String) : Prop :=
  ∃ opp ∈ db.getOpportunityById id, executionEnv db opp = .live

instance (db : Db) (id : String) : Decidable (IsLive db id) := by
  unfold IsLive
  infer_instance

def latestCount (jobs : List DlqJobRecord) (id : String) : ℕ :=
  ((jobs.filter fun job => job.opportunityId = id).getLast?).elim 0 (·.failureCount)

/-- A live call of an opportunity and the jobs, by whether it has recorded a failure or is about to.
`jobs` are the jobs at its start. -/
inductive LiveCall (id : String) (jobs : List DlqJobRecord) :
    Bool → ExecuteCall → List DlqJobRecord → Prop
  | resolvingClient {run : ExecutionRun} (hid : run.opp.id = id) (hlive : run.executionEnv = .live) :
      LiveCall id jobs false (.resolvingClient run) jobs
  | creating {run : ExecutionRun} (client : ProviderClient) (attempt : ℕ) (hid : run.opp.id = id)
      (hlive : run.executionEnv = .live) :
      LiveCall id jobs false (.creating run client attempt) jobs
  | lookingUp {run : ExecutionRun} (client : ProviderClient) (error : ProviderError)
      (hid : run.opp.id = id) (hlive : run.executionEnv = .live) :
      LiveCall id jobs false (.lookingUp run client error) jobs
  | failing (error : String) : LiveCall id jobs true (.failing id error) jobs
  | counted {failure : Failure} (hid : failure.opportunityId = id)
      (hcount : failure.failureCount = latestCount jobs id + 1) :
      LiveCall id jobs true (.counted failure) jobs
  | inserting {failure : Failure} (hid : failure.opportunityId = id)
      (hcount : failure.failureCount = latestCount jobs id + 1) :
      LiveCall id jobs true (.inserting failure) jobs
  | thrown (message : String) : LiveCall id jobs false (.finished (.error message)) jobs
  | succeeded (record : ExecutionRecord) (createdNew testModeFallback : Bool) :
      LiveCall id jobs false (success record createdNew testModeFallback) jobs
  | failed {failure : Failure} (hid : failure.opportunityId = id)
      (hcount : failure.failureCount = latestCount jobs id + 1) :
      LiveCall id jobs true (failed failure) (jobs ++ [failure.job])

section LiveCall

variable {ks : KillSwitches} {est : Estimator} {script : ExecutionScript} {now : Timestamp}
  {entryId : String} {db db' : Db} {c : ExecuteCall} {answer : ExecuteAnswer} {id : String}
  {jobs : List DlqJobRecord} {run : ExecutionRun} {client : ProviderClient} {error : ProviderError}
  {recorded : Bool}

lemma storeLink_dlqJobs (db : Db) (record : ExecutionRecord) :
    (storeLink db record).dlqJobs = db.dlqJobs := by
  rw [storeLink, Db.updateStatus_dlqJobs]
  rfl

lemma liveCall_fail (hid : run.opp.id = id) (hlive : run.executionEnv = .live) :
    LiveCall id db.dlqJobs (isFailing (fail run error now entryId db).1)
      (fail run error now entryId db).1 (fail run error now entryId db).2.dlqJobs := by
  rw [fail, hlive, ← hid]
  exact .failing _

lemma liveCall_creationFailed (hid : run.opp.id = id) (hlive : run.executionEnv = .live) :
    LiveCall id db.dlqJobs (isFailing (creationFailed run client error now entryId db).1)
      (creationFailed run client error now entryId db).1
      (creationFailed run client error now entryId db).2.dlqJobs := by
  rw [creationFailed]
  split_ifs
  · exact .lookingUp client error hid hlive
  · exact liveCall_fail hid hlive

lemma liveCall_launch (client : ProviderClient) (breakerOpen : Bool) (hid : run.opp.id = id)
    (hlive : run.executionEnv = .live) :
    LiveCall id db.dlqJobs (isFailing (launch run client breakerOpen now entryId db).1)
      (launch run client breakerOpen now entryId db).1
      (launch run client breakerOpen now entryId db).2.dlqJobs := by
  rw [launch]
  split_ifs
  · exact .thrown _
  · exact liveCall_creationFailed hid hlive
  · exact .creating client 1 hid hlive

lemma liveCall_clientResolved (client : Except String ProviderClient) (breakerOpen : Bool)
    (hid : run.opp.id = id) (hlive : run.executionEnv = .live) :
    LiveCall id db.dlqJobs (isFailing (clientResolved run client breakerOpen now entryId db).1)
      (clientResolved run client breakerOpen now entryId db).1
      (clientResolved run client breakerOpen now entryId db).2.dlqJobs := by
  cases client with
  | ok client => exact liveCall_launch client breakerOpen hid hlive
  | error message =>
    rw [clientResolved, if_pos hlive]
    exact .thrown _

lemma liveCall_attempted (attempt : ℕ) (response : Except ProviderError LinkResponse)
    (hid : run.opp.id = id) (hlive : run.executionEnv = .live) :
    LiveCall id db.dlqJobs (isFailing (attempted run client attempt response now entryId db).1)
      (attempted run client attempt response now entryId db).1
      (attempted run client attempt response now entryId db).2.dlqJobs := by
  cases response with
  | ok link =>
    have hjobs : ((storeLink db (providerRecord run.opp link now)).insertLedgerEntry
        (linkEntry entryId run.opp now)).dlqJobs = db.dlqJobs := storeLink_dlqJobs db _
    rw [attempted]
    dsimp only
    rw [hjobs]
    exact .succeeded _ true false
  | error error =>
    rw [attempted]
    split_ifs
    · exact liveCall_creationFailed hid hlive
    · exact .creating client (attempt + 1) hid hlive

lemma liveCall_lookedUp (link : Option LinkResponse) (hid : run.opp.id = id)
    (hlive : run.executionEnv = .live) :
    LiveCall id db.dlqJobs (isFailing (lookedUp run error link now entryId db).1)
      (lookedUp run error link now entryId db).1
      (lookedUp run error link now entryId db).2.dlqJobs := by
  cases link with
  | none => exact liveCall_fail hid hlive
  | some link =>
    rw [lookedUp]
    dsimp only
    rw [storeLink_dlqJobs]
    exact .succeeded _ false false

/-- One answer to a live call. -/
lemma LiveCall.advance {p : ExecuteCall × Db} (h : LiveCall id jobs recorded c db.dlqJobs)
    (hp : advance answer now entryId db c = some p) :
    LiveCall id jobs (recorded || isFailing p.1) p.1 p.2.dlqJobs := by
  generalize hjobs : db.dlqJobs = current at h
  cases h with
  | resolvingClient hid hlive =>
    cases answer with
    | client client breakerOpen =>
      cases hp
      rw [← hjobs]
      exact liveCall_clientResolved client breakerOpen hid hlive
    | _ => simp [Executor.advance] at hp
  | creating client attempt hid hlive =>
    cases answer with
    | attempt response =>
      cases hp
      rw [← hjobs]
      exact liveCall_attempted attempt response hid hlive
    | _ => simp [Executor.advance] at hp
  | lookingUp client error hid hlive =>
    cases answer with
    | lookup link =>
      cases hp
      rw [← hjobs]
      exact liveCall_lookedUp link hid hlive
    | _ => simp [Executor.advance] at hp
  | failing error =>
    cases answer with
    | database =>
      cases hp
      rw [← hjobs]
      exact .counted rfl rfl
    | _ => simp [Executor.advance] at hp
  | counted hid hcount =>
    cases answer with
    | database =>
      cases hp
      dsimp only
      rw [deadLetter_dlqJobs, hjobs]
      exact .inserting hid hcount
    | _ => simp [Executor.advance] at hp
  | inserting hid hcount =>
    cases answer with
    | database =>
      cases hp
      dsimp only [insertJob]
      rw [hjobs]
      exact .failed hid hcount
    | _ => simp [Executor.advance] at hp
  | thrown message => simp [Executor.advance] at hp
  | succeeded record createdNew testModeFallback => simp [success, Executor.advance] at hp
  | failed hid hcount => simp [Executor.failed, Executor.advance] at hp

lemma LiveCall.proceed {fuel : ℕ} {state : ExecuteCall × Db}
    (h : LiveCall id jobs recorded state.1 state.2.dlqJobs) :
    LiveCall id jobs (recorded || reachesFailing script fuel state)
      (proceed script fuel state).1 (proceed script fuel state).2.dlqJobs := by
  induction fuel generalizing state recorded with
  | zero => simpa [reachesFailing, Executor.proceed] using h
  | succ fuel ih =>
    rw [reachesFailing, Executor.proceed]
    cases hp : Executor.advance (script.answer state.1) script.now script.entryId state.2
        state.1 with
    | none => simpa using h
    | some p =>
      rw [← Bool.or_assoc]
      exact ih (h.advance hp)

/-- The start of a live call. -/
lemma liveCall_start (hlive : IsLive db id) :
    LiveCall id db.dlqJobs false (start ks est now db id).1 (start ks est now db id).2.dlqJobs := by
  obtain ⟨opp, hrow, henv⟩ := hlive
  rw [sameBooks_start.dlqJobs]
  by_cases hclear : IsCleared ks est db opp
  · cases hrecord : db.getExecutionRecordByOpportunityId id with
    | none =>
      rw [start_of_no_record hrow hclear hrecord]
      apply LiveCall.resolvingClient (Db.id_of_getOpportunityById hrow)
      rw [executionEnv_evaluateStored hrow, henv]
    | some record =>
      rw [start_of_record hrow hclear hrecord]
      exact .succeeded record false false
  · rw [start_of_not_cleared hrow hclear]
    exact .thrown _

/-- How a live attempt ends, and what it leaves in the queue. -/
theorem liveCall_executeOpportunity (hlive : IsLive db id) :
    LiveCall id db.dlqJobs (failsOverProvider ks est script db id)
      (executeOpportunity ks est script db id).1
      (executeOpportunity ks est script db id).2.dlqJobs := by
  have hstart : LiveCall id db.dlqJobs false (start ks est script.now db id).1
      (start ks est script.now db id).2.dlqJobs := liveCall_start hlive
  have hend : LiveCall id db.dlqJobs (false || failsOverProvider ks est script db id)
      (executeOpportunity ks est script db id).1
      (executeOpportunity ks est script db id).2.dlqJobs := hstart.proceed
  rwa [Bool.false_or] at hend

/-- What a failed call has recorded. -/
lemma LiveCall.recorded_of_isFailure {jobs' : List DlqJobRecord}
    {result : Except String SingleExecutionResult} (h : LiveCall id jobs recorded c jobs')
    (hresult : result? c = some result) (hfail : isFailure result) :
    if recorded then
      ∃ failure : Failure, failure.opportunityId = id ∧
        failure.failureCount = latestCount jobs id + 1 ∧ jobs' = jobs ++ [failure.job]
    else jobs' = jobs := by
  cases h with
  | thrown message => rfl
  | succeeded record createdNew testModeFallback =>
    cases hresult
    simp [isFailure] at hfail
  | failed hid hcount => exact ⟨_, hid, hcount, rfl⟩
  | _ => simp [result?] at hresult

end LiveCall

lemma isSome_getOpportunityById_proceed {script : ExecutionScript} {fuel : ℕ}
    {state : ExecuteCall × Db} (j : String) :
    ((proceed script fuel state).2.getOpportunityById j).isSome =
      (state.2.getOpportunityById j).isSome := by
  refine proceed_invariant (I := fun current => (current.2.getOpportunityById j).isSome =
    (state.2.getOpportunityById j).isSome) (fun current p h hp => ?_) rfl
  rw [isSome_getOpportunityById_advance hp, h]

end Executor

end CtrlRecovery
