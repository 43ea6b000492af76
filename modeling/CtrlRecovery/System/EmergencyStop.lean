import CtrlRecovery.System.TerminalStatus

/-!
# The emergency stop

The kill switches are read when a call of `executeOpportunity` asks the gate and not again: neither
when the credentials are there, nor when the circuit breaker tries a failed creation once more.
`StopState` follows the system together with the delays of the circuit breaker and with the creation
attempts that have been started.

In a run that engages switches only for tenants without a call between its gate and its last
attempt, no attempt starts under an engaged switch (`startsReleased_of_allSteps`). From any other
engagement the call can go on to such a start (`starts_after_engagement`).
-/

namespace CtrlRecovery

open Core OpportunityStatus Executor

namespace EmergencyStop

/-! ### The system with its creation attempts -/

/-- The start of a creation attempt; `halted` tells that a switch for its tenant was engaged. -/
structure AttemptStart where
  opportunityId : String
  halted : Bool
  deriving DecidableEq, Repr

/-- The switches halt the payments of this run's tenant, as the gate asks for them. -/
def halts (ks : KillSwitches) (run : ExecutionRun) : Bool :=
  ks.isKillSwitchActive run.opp.tenantId ""

def attemptStart (ks : KillSwitches) (run : ExecutionRun) : AttemptStart where
  opportunityId := run.opp.id
  halted := halts ks run

/-- `backingOff` are the calls whose attempt has failed and whose next one waits for the delay of
the circuit breaker; `starts` are the attempts so far, latest first. -/
structure StopState extends EngineState where
  backingOff : ℕ → Bool
  starts : List AttemptStart

/-- The system takes a step, or the delay of a call is over. -/
inductive StopAction
  | system (action : SystemAction)
  | retry (call : ℕ)

namespace StopState

def idle (db : Db) : StopState where
  toEngineState := .idle db
  backingOff := fun _ => false
  starts := []

/-- A call has got an answer: its first attempt starts at once, and a later one after a delay. -/
def answered (s : StopState) (call : ℕ) (t : EngineState) : StopState :=
  match t.executions call with
  | some ⟨.creating run _ 1, _⟩ =>
    { s with toEngineState := t, starts := attemptStart t.killSwitches run :: s.starts }
  | some ⟨.creating _ _ _, _⟩   =>
    { s with toEngineState := t, backingOff := Function.update s.backingOff call true }
  | _                           => { s with toEngineState := t }

end StopState

/-- The call that a step gives an answer to. -/
def answeredCall : SystemAction → Option ℕ
  | .engine (.answer call ..) => some call
  | _                         => none

/-- A step of the system; a call in its delay gets no answer. -/
def stopStep (platform : Platform) (s : StopState) : StopAction → Option StopState
  | .system action =>
    match answeredCall action with
    | some call =>
      if s.backingOff call then none
      else (systemStep platform s.toEngineState action).map (s.answered call)
    | none      =>
      (systemStep platform s.toEngineState action).map fun t => { s with toEngineState := t }
  | .retry call    =>
    match s.executions call with
    | some ⟨.creating run _ _, _⟩ =>
      if s.backingOff call then
        some
          { s with
            backingOff := Function.update s.backingOff call false
            starts := attemptStart s.killSwitches run :: s.starts }
      else none
    | _                           => none

/-! ### Calls that are not done with the provider -/

/-- What a call may still start a creation attempt for. -/
def pending (backingOff : Bool) : ExecuteCall → Option ExecutionRun
  | .resolvingClient run    => if ExceedsCeiling run then none else some run
  | .creating run _ attempt => if backingOff ∨ attempt < maxRetries then some run else none
  | _                       => none

def StopState.pending (s : StopState) (call : ℕ) : Option ExecutionRun :=
  (s.executions call).bind fun execution => EmergencyStop.pending (s.backingOff call) execution.call

/-- Switches are engaged for no tenant with a call that may still start an attempt. -/
def EngagesInTime (s : StopState) : StopAction → StopState → Prop
  | .system (.engine (.setKillSwitches ks)), _ =>
    ∀ call, ∀ run ∈ s.pending call, ¬ halts ks run
  | _, _                                       => True

/-- The calls that may still start an attempt are not halted. -/
def Released (s : StopState) : Prop :=
  ∀ call, ∀ run ∈ s.pending call, ¬ halts s.killSwitches run

/-- No attempt has started under an engaged switch. -/
def StartsReleased (s : StopState) : Prop := ∀ start ∈ s.starts, start.halted = false

/-! ### What a call may still start -/

section Calls

variable {ks : KillSwitches} {est : Estimator} {now : Timestamp} {entryId id : String} {db : Db}
  {run run' : ExecutionRun} {client : ProviderClient} {error : ProviderError} {b : Bool}

lemma pending_fail : pending b (fail run error now entryId db).1 = none := by
  rw [fail]
  cases run.executionEnv <;> rfl

lemma pending_creationFailed :
    pending b (creationFailed run client error now entryId db).1 = none := by
  rw [creationFailed]
  split_ifs
  · rfl
  · exact pending_fail

lemma pending_launch {breakerOpen : Bool}
    (h : run' ∈ pending b (launch run client breakerOpen now entryId db).1) :
    run' ∈ pending false (.resolvingClient run) := by
  rw [launch] at h
  split_ifs at h with hceiling
  · cases h
  · rw [pending_creationFailed] at h
    cases h
  · have hrun : run = run' := by
      simp only [pending, Option.mem_def, Option.ite_none_right_eq_some, Option.some.injEq] at h
      exact h.2
    rw [← hrun, pending]
    exact if_neg hceiling

lemma pending_clientResolved {client : Except String ProviderClient} {breakerOpen : Bool}
    (h : run' ∈ pending b (clientResolved run client breakerOpen now entryId db).1) :
    run' ∈ pending false (.resolvingClient run) := by
  cases client with
  | ok client => exact pending_launch h
  | error message =>
    rw [clientResolved] at h
    split_ifs at h
    · cases h
    · exact pending_launch h

lemma pending_attempted {attempt : ℕ} {response : Except ProviderError LinkResponse}
    (h : run' ∈ pending b (attempted run client attempt response now entryId db).1) :
    run' ∈ pending false (.creating run client attempt) := by
  cases response with
  | ok link => cases h
  | error error =>
    rw [attempted] at h
    split_ifs at h with hlast
    · rw [pending_creationFailed] at h
      cases h
    · have hrun : run = run' := by
        simp only [pending, Option.mem_def, Option.ite_none_right_eq_some, Option.some.injEq] at h
        exact h.2
      have hattempt : attempt < maxRetries := by
        rw [not_or, not_le] at hlast
        exact hlast.1
      rw [← hrun, pending]
      exact if_pos (.inr hattempt)

lemma pending_of_advance {answer : ExecuteAnswer} {c : ExecuteCall} {p : ExecuteCall × Db}
    (hp : advance answer now entryId db c = some p) (h : run ∈ pending b p.1) :
    run ∈ pending false c := by
  cases advances_of_advance hp with
  | resolvingClient => exact pending_clientResolved h
  | creating => exact pending_attempted h
  | lookingUp run client error link =>
    cases link with
    | some link => cases h
    | none =>
      rw [lookedUp, pending_fail] at h
      cases h
  | failing | counted | inserting => cases h

/-- A call that gets past the gate is not halted at that moment. -/
lemma not_halts_of_start (h : run ∈ pending b (start ks est now db id).1) : ¬ halts ks run := by
  cases hopp : db.getOpportunityById id with
  | none =>
    rw [start_of_none hopp] at h
    cases h
  | some opp =>
    by_cases hclear : IsCleared ks est db opp
    · cases hrecord : db.getExecutionRecordByOpportunityId id with
      | some record =>
        rw [start_of_record hopp hclear hrecord] at h
        cases h
      | none =>
        rw [start_of_no_record hopp hclear hrecord] at h
        simp only [pending, Option.mem_def, Option.ite_none_left_eq_some, Option.some.injEq] at h
        rw [← h.2]
        exact hclear.1
    · rw [start_of_not_cleared hopp hclear] at h
      cases h

lemma pending_settleReplay {result : Except String SingleExecutionResult} :
    ((ExecutionDLQ.settleReplay db id now result).1.bind fun execution =>
      pending b execution.call) = none := by
  cases result with
  | error message => rfl
  | ok result =>
    rw [ExecutionDLQ.settleReplay]
    split_ifs <;> rfl

end Calls

/-! ### Steps of the system -/

section Steps

variable {platform : Platform} {s t : EngineState} {action : SystemAction}

/-- Only a switch that is set changes the switches. -/
lemma killSwitches_step (h : systemStep platform s action = some t)
    (hset : ∀ ks, action ≠ .engine (.setKillSwitches ks)) : t.killSwitches = s.killSwitches := by
  cases action with
  | engine action =>
    change engineStep platform s action = some t at h
    cases action with
    | execute call est now id replay =>
      simp only [engineStep, Option.ite_none_right_eq_some, Option.some.injEq] at h
      rw [← h.2]
    | answer call answer now entryId =>
      obtain ⟨execution, p, -, -, rfl⟩ := engineStep_answer h
      rfl
    | settle call now =>
      obtain ⟨id, result, -, rfl⟩ := engineStep_settle h
      rfl
    | reconcile action =>
      obtain ⟨r, -, rfl⟩ := engineStep_reconcile h
      rfl
    | score est id =>
      obtain ⟨opp, -, rfl⟩ := engineStep_score h
      rfl
    | allocate est options =>
      simp only [engineStep, Option.some.injEq] at h
      rw [← h]
    | pipeline est now options =>
      simp only [engineStep, Option.some.injEq] at h
      rw [← h]
    | setKillSwitches ks => exact absurd rfl (hset ks)
  | allocateOn est options opportunities => rw [systemStep_allocateOn h]
  | evaluate est now opp decision score =>
    simp only [systemStep, Option.some.injEq] at h
    rw [← h]
  | upsertScore score => rw [systemStep_upsertScore h]
  | upsertAllocationDecision decision => rw [systemStep_upsertAllocationDecision h]
  | _ =>
    cases h
    rfl

/-- Apart from answers, a step leaves a call as it is, or starts one that the gate does not halt. -/
lemma pending_step (h : systemStep platform s action = some t) (hanswer : answeredCall action = none)
    (call : ℕ) (b : Bool) {run : ExecutionRun}
    (hrun : run ∈ (t.executions call).bind fun execution => pending b execution.call) :
    (run ∈ (s.executions call).bind fun execution => pending b execution.call) ∨
      ¬ halts s.killSwitches run := by
  have hsame : t.executions = s.executions →
      run ∈ (s.executions call).bind fun execution => pending b execution.call := by
    intro hexecutions
    rwa [hexecutions] at hrun
  cases action with
  | engine action =>
    change engineStep platform s action = some t at h
    cases action with
    | execute call' est now id replay =>
      rw [(engineStep_execute h).2.2] at hrun
      by_cases hcall : call = call'
      · rw [hcall, Function.update_self] at hrun
        exact .inr (not_halts_of_start hrun)
      · rw [Function.update_of_ne hcall] at hrun
        exact .inl hrun
    | answer call' answer now entryId => cases hanswer
    | settle call' now =>
      obtain ⟨id, result, -, rfl⟩ := engineStep_settle h
      simp only [Function.update_apply] at hrun
      split_ifs at hrun
      · rw [pending_settleReplay] at hrun
        cases hrun
      · exact .inl hrun
    | reconcile action =>
      obtain ⟨r, -, rfl⟩ := engineStep_reconcile h
      exact .inl hrun
    | score est id =>
      obtain ⟨opp, -, rfl⟩ := engineStep_score h
      exact .inl hrun
    | allocate est options => exact .inl (hsame (engineStep_allocate h).2.2)
    | pipeline est now options => exact .inl (hsame (engineStep_pipeline h).2.2)
    | setKillSwitches ks =>
      cases h
      exact .inl hrun
  | allocateOn est options opportunities => exact .inl (hsame (by rw [systemStep_allocateOn h]))
  | evaluate est now opp decision score => exact .inl (hsame (systemStep_evaluate h).2.2)
  | upsertScore score => exact .inl (hsame (by rw [systemStep_upsertScore h]))
  | upsertAllocationDecision decision =>
    exact .inl (hsame (by rw [systemStep_upsertAllocationDecision h]))
  | _ =>
    cases h
    exact .inl hrun

/-- An answer. -/
lemma systemStep_answered {call : ℕ} (h : systemStep platform s action = some t)
    (hanswer : answeredCall action = some call) :
    t.killSwitches = s.killSwitches ∧
      ∃ execution next, s.executions call = some execution ∧
        t.executions = Function.update s.executions call (some next) ∧
        ∀ b, ∀ run ∈ pending b next.call, run ∈ pending false execution.call := by
  cases action with
  | engine action =>
    change engineStep platform s action = some t at h
    cases action with
    | answer call' answer now entryId =>
      cases hanswer
      obtain ⟨execution, p, hcall, hp, rfl⟩ := engineStep_answer h
      exact ⟨rfl, execution, _, hcall, rfl, fun b run hrun => pending_of_advance hp hrun⟩
    | _ => cases hanswer
  | _ => cases hanswer

end Steps

/-! ### Steps with their attempts -/

/-- A step that sets no switches: it opens no way to an attempt except through the gate, and starts
attempts of pending calls only. -/
structure Proceeds (s t : StopState) : Prop where
  killSwitches : t.killSwitches = s.killSwitches
  pending : ∀ call, ∀ run ∈ t.pending call, run ∈ s.pending call ∨ ¬ halts s.killSwitches run
  starts : ∀ start ∈ t.starts, start ∈ s.starts ∨
    ∃ call, ∃ run ∈ s.pending call, start = attemptStart s.killSwitches run

section StopSteps

variable {platform : Platform} {s t : StopState}

lemma Proceeds.keeps (h : Proceeds s t) (hreleased : Released s) (hstarts : StartsReleased s) :
    Released t ∧ StartsReleased t := by
  constructor
  · intro call run hrun
    rw [h.killSwitches]
    rcases h.pending call run hrun with hbefore | hgate
    · exact hreleased call run hbefore
    · exact hgate
  · intro start hstart
    rcases h.starts start hstart with hbefore | ⟨call, run, hrun, rfl⟩
    · exact hstarts start hbefore
    · exact Bool.eq_false_iff.mpr (hreleased call run hrun)

lemma stopStep_system {action : SystemAction} (h : stopStep platform s (.system action) = some t) :
    (answeredCall action = none ∧ ∃ u, systemStep platform s.toEngineState action = some u ∧
        t = { s with toEngineState := u }) ∨
      ∃ call, answeredCall action = some call ∧ s.backingOff call = false ∧
        ∃ u, systemStep platform s.toEngineState action = some u ∧ t = s.answered call u := by
  simp only [stopStep] at h
  split at h
  next call hanswer =>
    split_ifs at h with hdelay
    obtain ⟨u, hu, rfl⟩ := Option.map_eq_some_iff.mp h
    exact .inr ⟨call, hanswer, Bool.eq_false_iff.mpr hdelay, u, hu, rfl⟩
  next hanswer =>
    obtain ⟨u, hu, rfl⟩ := Option.map_eq_some_iff.mp h
    exact .inl ⟨hanswer, u, hu, rfl⟩

lemma stopStep_retry {call : ℕ} (h : stopStep platform s (.retry call) = some t) :
    ∃ run client attempt replayed,
      s.executions call = some ⟨.creating run client attempt, replayed⟩ ∧
      s.backingOff call = true ∧
      t =
        { s with
          backingOff := Function.update s.backingOff call false
          starts := attemptStart s.killSwitches run :: s.starts } := by
  simp only [stopStep] at h
  split at h
  next run client attempt replayed hcall =>
    split_ifs at h with hdelay
    exact ⟨run, client, attempt, replayed, hcall, hdelay, (Option.some.inj h).symm⟩
  next => cases h

/-- What an answer does to the delays and to the attempts. -/
lemma answered_eq_or (s : StopState) (call : ℕ) (u : EngineState) :
    (s.answered call u).toEngineState = u ∧
      (∀ j ≠ call, (s.answered call u).backingOff j = s.backingOff j) ∧
      ∀ start ∈ (s.answered call u).starts, start ∈ s.starts ∨
        ∃ run client replayed, u.executions call = some ⟨.creating run client 1, replayed⟩ ∧
          start = attemptStart u.killSwitches run := by
  rw [StopState.answered]
  split
  next run client replayed hcall =>
    refine ⟨rfl, fun _ _ => rfl, fun start hstart => ?_⟩
    rcases List.mem_cons.mp hstart with rfl | hstart
    · exact .inr ⟨run, client, replayed, hcall, rfl⟩
    · exact .inl hstart
  next => exact ⟨rfl, fun j hj => Function.update_of_ne hj _ _, fun start hstart => .inl hstart⟩
  next => exact ⟨rfl, fun _ _ => rfl, fun start hstart => .inl hstart⟩

lemma proceeds_answered {action : SystemAction} {call : ℕ} {u : EngineState}
    (hanswer : answeredCall action = some call) (hdelay : s.backingOff call = false)
    (h : systemStep platform s.toEngineState action = some u) : Proceeds s (s.answered call u) := by
  obtain ⟨hswitches, execution, next, hcall, hexecutions, hpending⟩ := systemStep_answered h hanswer
  obtain ⟨hengine, hdelays, hstarts⟩ := answered_eq_or s call u
  have hbefore : ∀ b, ∀ run ∈ pending b next.call, run ∈ s.pending call := by
    intro b run hrun
    rw [StopState.pending, hcall, hdelay]
    exact hpending b run hrun
  constructor
  · rw [hengine, hswitches]
  · intro j run hrun
    left
    rw [StopState.pending, hengine, hexecutions] at hrun
    by_cases hj : j = call
    · rw [hj, Function.update_self] at hrun
      rw [hj]
      exact hbefore _ run hrun
    · rw [Function.update_of_ne hj, hdelays j hj] at hrun
      exact hrun
  · intro start hstart
    rcases hstarts start hstart with hold | ⟨run, client, replayed, hnext, rfl⟩
    · exact .inl hold
    · right
      rw [hexecutions, Function.update_self, Option.some.injEq] at hnext
      rw [hswitches]
      refine ⟨call, run, hbefore true run ?_, rfl⟩
      rw [hnext]
      rfl

/-- Every step that sets no switches. -/
lemma proceeds_of_step {action : StopAction} (h : stopStep platform s action = some t)
    (hset : ∀ ks, action ≠ .system (.engine (.setKillSwitches ks))) : Proceeds s t := by
  cases action with
  | system action =>
    rcases stopStep_system h with ⟨hanswer, u, hu, rfl⟩ | ⟨call, hanswer, hdelay, u, hu, rfl⟩
    · constructor
      · exact killSwitches_step hu fun ks hks => hset ks (by rw [hks])
      · exact fun call run hrun => pending_step hu hanswer call (s.backingOff call) hrun
      · exact fun start hstart => .inl hstart
    · exact proceeds_answered hanswer hdelay hu
  | retry call =>
    obtain ⟨run, client, attempt, replayed, hcall, hdelay, rfl⟩ := stopStep_retry h
    have hpending : run ∈ s.pending call := by
      rw [StopState.pending, hcall, hdelay]
      rfl
    constructor
    · rfl
    · intro j run' hrun'
      left
      by_cases hj : j = call
      · simp only [StopState.pending, hj, Function.update_self, hcall, Option.bind_some, pending,
          Option.mem_def, Option.ite_none_right_eq_some, Option.some.injEq] at hrun'
        rw [hj, ← hrun'.2]
        exact hpending
      · simp only [StopState.pending, Function.update_of_ne hj] at hrun'
        exact hrun'
    · intro start hstart
      rcases List.mem_cons.mp hstart with rfl | hold
      · exact .inr ⟨call, run, hpending, rfl⟩
      · exact .inl hold

/-- A step that engages switches in time keeps the attempts and what may become one from being
halted. -/
lemma released_of_step {action : StopAction} (h : stopStep platform s action = some t)
    (htime : EngagesInTime s action t) (hI : Released s ∧ StartsReleased s) :
    Released t ∧ StartsReleased t := by
  by_cases hset : ∃ ks, action = .system (.engine (.setKillSwitches ks))
  · obtain ⟨ks, rfl⟩ := hset
    cases h
    exact ⟨htime, hI.2⟩
  · exact (proceeds_of_step h fun ks hks => hset ⟨ks, hks⟩).keeps hI.1 hI.2

/-- Where switches are engaged in time, no attempt ever starts under an engaged switch. -/
theorem startsReleased_of_allSteps {db : Db} {actions : List StopAction}
    (hrun : Run (stopStep platform) (.idle db) actions t)
    (hsteps : AllSteps (stopStep platform) EngagesInTime (.idle db) actions) : StartsReleased t := by
  have hidle : Released (.idle db) ∧ StartsReleased (.idle db) := by
    refine ⟨fun call run hrun => ?_, fun start hstart => ?_⟩
    · cases hrun
    · exact absurd hstart List.not_mem_nil
  exact (hrun.invariant_of_allSteps (I := fun s => Released s ∧ StartsReleased s)
    (fun s action t hI h htime => released_of_step h htime hI) hsteps hidle).2

/-! ### An engagement that comes too late -/

/-- Only a call between two attempts waits for a delay. -/
def DelaysCreating (s : StopState) : Prop :=
  ∀ call, s.backingOff call → ∃ execution ∈ s.executions call, IsCreating execution.call

/-- Apart from answers, a step leaves the calls alone that wait for the provider. -/
lemma executions_step {u u' : EngineState} {action : SystemAction}
    (h : systemStep platform u action = some u') (hanswer : answeredCall action = none) {call : ℕ}
    {execution : Execution} (hcall : u.executions call = some execution)
    (hcreating : IsCreating execution.call) : u'.executions call = some execution := by
  cases action with
  | engine action =>
    change engineStep platform u action = some u' at h
    cases action with
    | execute call' est now id replay =>
      have hfree : (u.executions call').isNone := by
        simp only [engineStep, Option.ite_none_right_eq_some] at h
        exact (Bool.and_eq_true_iff.mp h.1).1
      have hne : call ≠ call' := by
        rintro rfl
        rw [hcall] at hfree
        cases hfree
      rw [(engineStep_execute h).2.2, Function.update_of_ne hne, hcall]
    | answer call' answer now entryId => cases hanswer
    | settle call' now =>
      obtain ⟨id, result, hfinished, rfl⟩ := engineStep_settle h
      have hne : call ≠ call' := by
        rintro rfl
        rw [hcall, Option.some.injEq] at hfinished
        rw [hfinished] at hcreating
        exact hcreating
      exact (Function.update_of_ne hne _ _).trans hcall
    | reconcile action =>
      obtain ⟨r, -, rfl⟩ := engineStep_reconcile h
      exact hcall
    | score est id =>
      obtain ⟨opp, -, rfl⟩ := engineStep_score h
      exact hcall
    | allocate est options => rw [(engineStep_allocate h).2.2, hcall]
    | pipeline est now options => rw [(engineStep_pipeline h).2.2, hcall]
    | setKillSwitches ks =>
      cases h
      exact hcall
  | allocateOn est options opportunities =>
    rw [systemStep_allocateOn h]
    exact hcall
  | evaluate est now opp decision score => rw [(systemStep_evaluate h).2.2, hcall]
  | upsertScore score =>
    rw [systemStep_upsertScore h]
    exact hcall
  | upsertAllocationDecision decision =>
    rw [systemStep_upsertAllocationDecision h]
    exact hcall
  | _ =>
    cases h
    exact hcall

lemma backingOff_answered {call : ℕ} {u : EngineState} (hdelay : s.backingOff call = false)
    (h : (s.answered call u).backingOff call) :
    ∃ execution ∈ u.executions call, IsCreating execution.call := by
  rw [StopState.answered] at h
  split at h
  next run client replayed hcall => exact ⟨_, hcall, trivial⟩
  next run client attempt replayed _ hcall => exact ⟨_, hcall, trivial⟩
  next => exact absurd h (Bool.eq_false_iff.mp hdelay)

lemma delaysCreating_of_step {action : StopAction} (h : stopStep platform s action = some t)
    (hI : DelaysCreating s) : DelaysCreating t := by
  intro j hj
  cases action with
  | system action =>
    rcases stopStep_system h with ⟨hanswer, u, hu, rfl⟩ | ⟨call, hanswer, hdelay, u, hu, rfl⟩
    · obtain ⟨execution, hexecution, hcreating⟩ := hI j hj
      exact ⟨execution, executions_step hu hanswer hexecution hcreating, hcreating⟩
    · obtain ⟨hengine, hdelays, -⟩ := answered_eq_or s call u
      obtain ⟨-, -, next, -, hexecutions, -⟩ := systemStep_answered hu hanswer
      rw [hengine]
      by_cases hcall : j = call
      · rw [hcall] at hj ⊢
        exact backingOff_answered hdelay hj
      · rw [hdelays j hcall] at hj
        rw [hexecutions, Function.update_of_ne hcall]
        exact hI j hj
  | retry call =>
    obtain ⟨run, client, attempt, replayed, hcall, -, rfl⟩ := stopStep_retry h
    by_cases hne : j = call
    · rw [hne]
      exact ⟨_, hcall, trivial⟩
    · simp only [Function.update_of_ne hne] at hj
      exact hI j hj

lemma advance_client {run : ExecutionRun} (h : ¬ ExceedsCeiling run) (db : Db) :
    advance (.client (.ok .rzpClient) false) 0 "" db (.resolvingClient run) =
      some (.creating run .rzpClient 1, db) := by
  rw [advance, clientResolved, launch]
  exact congrArg some ((if_neg h).trans (if_neg Bool.false_ne_true))

lemma advance_timeout {attempt : ℕ} (h : attempt < maxRetries) (run : ExecutionRun)
    (client : ProviderClient) (db : Db) :
    advance (.attempt (.error (.ofMessage "Timeout"))) 0 "" db (.creating run client attempt) =
      some (.creating run client (attempt + 1), db) := by
  have hfinal : (ProviderError.ofMessage "Timeout").isFinal = false := rfl
  rw [advance, attempted, hfinal]
  exact congrArg some (if_neg (by simp [h]))

variable (platform) in
lemma stopStep_answer {call : ℕ} {answer : ExecuteAnswer} {c : ExecuteCall} {replayed : Option String}
    {p : ExecuteCall × Db} (hcall : s.executions call = some ⟨c, replayed⟩)
    (hdelay : s.backingOff call = false) (hp : advance answer 0 "" s.db c = some p) :
    stopStep platform s (.system (.engine (.answer call answer 0 ""))) =
      some (s.answered call
        { s.toEngineState with
          db := p.2
          executions := Function.update s.executions call (some ⟨p.1, replayed⟩) }) := by
  simp [stopStep, answeredCall, hdelay, systemStep, engineStep, hcall, hp]

variable (platform) in
/-- A pending call can go on to an attempt under the switches as they are. -/
lemma exists_start_of_pending (hI : DelaysCreating s) {call : ℕ} {run : ExecutionRun}
    (h : run ∈ s.pending call) :
    ∃ later t, Run (stopStep platform) s later t ∧
      (∀ ks, StopAction.system (.engine (.setKillSwitches ks)) ∉ later) ∧
      t.starts = attemptStart s.killSwitches run :: s.starts := by
  obtain ⟨⟨c, replayed⟩, hcall, hc⟩ := Option.bind_eq_some_iff.mp h
  have hretry : ∀ {u : StopState} {client attempt replayed}, u.backingOff call →
      u.executions call = some ⟨.creating run client attempt, replayed⟩ →
      ∃ t, Run (stopStep platform) u [.retry call] t ∧
        t.starts = attemptStart u.killSwitches run :: u.starts := by
    intro u client attempt replayed hdelay hu
    have hstep : stopStep platform u (.retry call) =
        some
          { u with
            backingOff := Function.update u.backingOff call false
            starts := attemptStart u.killSwitches run :: u.starts } := by
      simp [stopStep, hu, hdelay]
    exact ⟨_, .cons hstep (.nil _), rfl⟩
  cases c with
  | resolvingClient run' =>
    simp only [pending, Option.ite_none_left_eq_some, Option.some.injEq] at hc
    obtain ⟨hceiling, rfl⟩ := hc
    have hdelay : s.backingOff call = false := by
      refine Bool.eq_false_iff.mpr fun hdelay => ?_
      obtain ⟨execution, hexecution, hcreating⟩ := hI call hdelay
      rw [Option.mem_unique hexecution hcall] at hcreating
      exact hcreating
    have hstep := stopStep_answer platform hcall hdelay (advance_client hceiling s.db)
    refine ⟨_, _, .cons hstep (.nil _), by simp, ?_⟩
    simp [StopState.answered]
  | creating run' client attempt =>
    simp only [pending, Option.ite_none_right_eq_some, Option.some.injEq] at hc
    obtain ⟨hopen, rfl⟩ := hc
    by_cases hdelay : s.backingOff call
    · obtain ⟨t, hrun, hstarts⟩ := hretry hdelay hcall
      exact ⟨_, t, hrun, by simp, hstarts⟩
    · have hattempt : attempt < maxRetries := hopen.resolve_left hdelay
      have hstep := stopStep_answer platform hcall (Bool.eq_false_iff.mpr hdelay)
        (advance_timeout hattempt run' client s.db)
      cases attempt with
      | zero =>
        refine ⟨_, _, .cons hstep (.nil _), by simp, ?_⟩
        simp [StopState.answered]
      | succ attempt =>
        have hwaits : ∀ u, u = s.answered call
            { s.toEngineState with
              executions := Function.update s.executions call
                (some ⟨.creating run' client (attempt + 1 + 1), replayed⟩) } →
            u.backingOff call ∧ u.killSwitches = s.killSwitches ∧ u.starts = s.starts ∧
              u.executions call = some ⟨.creating run' client (attempt + 1 + 1), replayed⟩ := by
          rintro u rfl
          simp [StopState.answered]
        obtain ⟨hdelay', hswitches, hstarts', hcall'⟩ := hwaits _ rfl
        obtain ⟨t, hrun, hstarts⟩ := hretry hdelay' hcall'
        refine ⟨_, t, .cons hstep hrun, by simp, ?_⟩
        rw [hstarts, hswitches, hstarts']
  | _ => cases hc

/-- An engagement for a tenant with a pending call can be followed by an attempt of this call,
without any release. -/
theorem starts_after_engagement {db : Db} {actions : List StopAction} {ks : KillSwitches} {call : ℕ}
    {run : ExecutionRun} (hrun : Run (stopStep platform) (.idle db) actions s)
    (hpending : run ∈ s.pending call) (hhalts : halts ks run) :
    ∃ later t,
      Run (stopStep platform) s (.system (.engine (.setKillSwitches ks)) :: later) t ∧
      (∀ ks', StopAction.system (.engine (.setKillSwitches ks')) ∉ later) ∧
      t.starts = ⟨run.opp.id, true⟩ :: s.starts := by
  have hI : DelaysCreating s :=
    hrun.invariant (fun s action t hI h => delaysCreating_of_step h hI) fun call hdelay => by
      cases hdelay
  obtain ⟨later, t, hlater, hkeeps, hstarts⟩ := exists_start_of_pending platform
    (s := { s with killSwitches := ks }) hI hpending
  refine ⟨later, t, .cons rfl hlater, hkeeps, ?_⟩
  rw [hstarts, attemptStart, hhalts]

/-! ### Stopping a payment that is being retried -/

/-- An allocated payment that has passed the gate, and whose first attempt has timed out. -/
def retriedPayment : List StopAction :=
  [.system (.ingest (.queued "tenant_a" (failedEvent "evt_1" "pay_1") 0 1000 "led_1")),
    .system (.engine (.allocate .sample ⟨some 1, none, none⟩)),
    .system (.engine (.execute 0 .sample 2000 "pay_1" false)),
    .system (.engine (.answer 0 (.client (.ok .rzpClient) false) 2000 "led_2")),
    .system (.engine (.answer 0 (.attempt (.error (.ofMessage "Timeout"))) 2000 "led_3"))]

/-- The stop arrives during the delay, and the next attempt starts. -/
theorem retry_after_stop :
    ¬ ∀ (platform : Platform) (db : Db) (actions : List StopAction) (t : StopState),
      Run (stopStep platform) (.idle db) actions t → StartsReleased t := by
  intro h
  obtain ⟨t, hrun, hhalted⟩ := exists_run_of_execute (stopStep .plain) (.idle .empty)
    (retriedPayment ++
      [.system (.engine (.setKillSwitches (KillSwitches.off.setKillSwitch true))), .retry 0])
    (fun t => t.starts.any (·.halted)) (by decide +kernel)
  obtain ⟨start, hstart, hstop⟩ := List.any_eq_true.mp hhalted
  rw [h .plain .empty _ t hrun start hstart] at hstop
  cases hstop

/-- With another tenant stopped, the payment gets its retry. -/
theorem startsReleased_otherTenant :
    ∃ t, Run (stopStep .plain) (.idle .empty)
        (.system (.engine (.setKillSwitches (KillSwitches.off.setTenantKillSwitch "tenant_b" true))) ::
          (retriedPayment ++ [.retry 0])) t ∧
      t.starts.length = 2 ∧ StartsReleased t := by
  obtain ⟨t, hrun, hlength⟩ := exists_run_of_execute (stopStep .plain) (.idle .empty)
    (.system (.engine (.setKillSwitches (KillSwitches.off.setTenantKillSwitch "tenant_b" true))) ::
      (retriedPayment ++ [.retry 0]))
    (fun t => t.starts.length == 2) (by decide +kernel)
  refine ⟨t, hrun, beq_iff_eq.mp hlength, startsReleased_of_allSteps hrun ?_⟩
  -- the switch is engaged before the call starts, and none of the other steps sets a switch
  intro t₁ _
  refine ⟨fun call run hrun => absurd hrun (Option.not_mem_none run), ?_⟩
  exact fun _ _ => ⟨trivial, fun _ _ => ⟨trivial, fun _ _ => ⟨trivial, fun _ _ => ⟨trivial,
    fun _ _ => ⟨trivial, fun _ _ => ⟨trivial, trivial⟩⟩⟩⟩⟩⟩

end StopSteps

end EmergencyStop

end CtrlRecovery
