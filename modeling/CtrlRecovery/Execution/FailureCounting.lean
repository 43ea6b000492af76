import CtrlRecovery.Execution.CircuitBreaker

/-!
# Counting failed calls

The calls of a breaker that starts without a persisted state, with what their history tells beside it:
how many calls have failed since the last one that succeeded, and when a failure was last recorded.
A closed breaker has seen fewer failures than its threshold, it opens at the call that reaches the
threshold, and it stays open for the cooldown, as long as no call ends unrecorded while the breaker is
closed (`counted_of_recorded`). The handler of an attempt's error reads `error.description.includes`,
which throws where the description is no text: the call fails, and `recordFailure` is not reached.
-/

namespace CtrlRecovery

open Core

namespace CircuitBreaker

/-- A breaker with the history of its calls. -/
structure Observed where
  state : State
  /-- The calls that have failed since the last successful one. -/
  failures : ℕ
  /-- When the last failure was recorded. -/
  recordedAt : Option ℕ

def Observed.initial (now : ℕ) : Observed := ⟨.initial now, 0, none⟩

/-- Nothing but the calls and the queries of the state: no persisted state is loaded, and the
breaker is not reset. -/
def Action.isOfCalls : Action → Bool
  | .load _ => false
  | .reset  => false
  | _       => true

/-- Whether the call of a step is over after it, and then whether it has succeeded. A call that finds
the breaker open throws at once. -/
def completion (action : Action) (t : State) : Option Bool :=
  match action with
  | .execute call          => if t.phase call = .idle then some false else none
  | .settle call outcome _ => if t.phase call = .idle then some (outcome = .succeeded) else none
  | _                      => none

/-- A step after which a call is over with an error that was handled. -/
def records (action : Action) (t : State) : Bool :=
  match action with
  | .settle call .timedOut _   => t.phase call = .idle
  | .settle call (.failed _) _ => t.phase call = .idle
  | _                          => false

variable (options : CircuitBreakerOptions)

def observe (o : Observed) (action : Action) (t : State) : Observed where
  state := t
  failures :=
    match completion action t with
    | some true  => 0
    | some false => o.failures + 1
    | none       => o.failures
  recordedAt := if records action t then some o.state.now else o.recordedAt

def observedStep (o : Observed) (action : Action) : Option Observed :=
  if action.isOfCalls then (step options o.state action).map (observe o action) else none

/-! ### What the breaker promises -/

/-- A closed breaker has seen fewer failures than its threshold, it leaves the state at the call that
reaches the threshold, and an open one leaves its state after the cooldown. -/
structure Counted (o : Observed) (action : Action) (p : Observed) : Prop where
  few_failures : p.state.breaker.state = .closed → p.failures < options.failureThreshold
  opens_iff : o.state.breaker.state = .closed → (p.state.breaker.state ≠ .closed ↔
    completion action p.state = some false ∧ p.failures = options.failureThreshold)
  after_cooldown : o.state.breaker.state = .opened → p.state.breaker.state ≠ .opened →
    ∃ recordedAt, o.recordedAt = some recordedAt ∧ recordedAt + options.cooldownMs ≤ o.state.now

/-- No call ends with an error that its handler fails on while the breaker is closed. -/
def RecordedStep (o : Observed) (action : Action) (_ : Observed) : Prop :=
  ∀ call jitterMs, action = .settle call .unreadable jitterMs → o.state.breaker.state ≠ .closed

variable {options} {o p : Observed} {s t : State} {action : Action}

/-! ### What a step does -/

/-- What the step of a call does to the breaker, whether it ends the call with success or failure,
and whether it records a failure. -/
inductive CallEffect (options : CircuitBreakerOptions) (s : State) (action : Action) (t : State) :
    Option Bool → Bool → Prop
  | unchanged (h : t.breaker = s.breaker) : CallEffect options s action t none false
  | checked (h : t.breaker = s.breaker.checkCooldown options s.now) :
      CallEffect options s action t none false
  | refused (h : t.breaker = s.breaker.checkCooldown options s.now)
      (hopened : t.breaker.state = .opened) : CallEffect options s action t (some false) false
  | succeeded (h : t.breaker = s.breaker.recordSuccess) :
      CallEffect options s action t (some true) false
  | recorded (h : t.breaker = s.breaker.recordFailure options s.now) :
      CallEffect options s action t (some false) true
  | unreadable (call jitterMs : ℕ) (haction : action = .settle call .unreadable jitterMs)
      (h : t.breaker = s.breaker) : CallEffect options s action t (some false) false

/-- An attempt that fails is the last one of its call and recorded, or it is followed by a back-off. -/
lemma fail_cases {call attempt jitterMs : ℕ} {isClientError : Bool}
    (h : s.fail options call attempt isClientError jitterMs = some t) :
    (t.phase call = .idle ∧ t.breaker = s.breaker.recordFailure options s.now) ∨
      (t.phase call ≠ .idle ∧ t.breaker = s.breaker) := by
  simp only [State.fail] at h
  split_ifs at h
  · cases h
    exact .inl ⟨Function.update_self .., rfl⟩
  · cases h
    exact .inr ⟨by simp, rfl⟩

lemma callEffect (hcalls : action.isOfCalls) (h : step options s action = some t) :
    CallEffect options s action t (completion action t) (records action t) := by
  cases action with
  | tick ms    => cases h; exact .unchanged rfl
  | load saved => cases hcalls
  | getState   => cases h; exact .checked rfl
  | reset      => cases hcalls
  | execute call =>
    simp only [step] at h
    split at h
    next hidle =>
      split_ifs at h with hopened
      · cases h
        rw [completion, if_pos hidle]
        exact .refused rfl hopened
      · cases h
        rw [completion, if_neg (by simp [State.attempt])]
        exact .checked rfl
    · cases h
  | settle call outcome jitterMs =>
    cases hphase : s.phase call with
    | idle => simp [step, hphase] at h
    | backingOff attempt wakesAt => simp [step, hphase] at h
    | attempting attempt startedAt =>
      cases outcome with
      | succeeded =>
        simp only [step, hphase, Option.some.injEq] at h
        subst h
        rw [completion, if_pos (by simp [State.finish])]
        exact .succeeded rfl
      | timedOut =>
        simp only [step, hphase] at h
        split_ifs at h
        obtain ⟨hidle, hbreaker⟩ | ⟨hidle, hbreaker⟩ := fail_cases h
        · simpa [completion, records, hidle] using CallEffect.recorded hbreaker
        · simpa [completion, records, hidle] using CallEffect.unchanged hbreaker
      | failed error =>
        simp only [step, hphase] at h
        obtain ⟨hidle, hbreaker⟩ | ⟨hidle, hbreaker⟩ := fail_cases h
        · simpa [completion, records, hidle] using CallEffect.recorded hbreaker
        · simpa [completion, records, hidle] using CallEffect.unchanged hbreaker
      | unreadable =>
        simp only [step, hphase, Option.some.injEq] at h
        subst h
        rw [completion, if_pos (by simp [State.finish])]
        exact .unreadable call jitterMs rfl rfl
  | retry call =>
    simp only [step] at h
    split at h
    · split_ifs at h
      cases h
      exact .unchanged rfl
    · cases h

/-- The failures seen after a call that is over, or not. -/
def failuresAfter (failures : ℕ) : Option Bool → ℕ
  | some true  => 0
  | some false => failures + 1
  | none       => failures

lemma of_observedStep (h : observedStep options o action = some p) :
    CallEffect options o.state action p.state (completion action p.state) (records action p.state) ∧
      p.failures = failuresAfter o.failures (completion action p.state) ∧
      p.recordedAt = if records action p.state then some o.state.now else o.recordedAt := by
  rw [observedStep] at h
  split_ifs at h with hcalls
  obtain ⟨t, ht, rfl⟩ := Option.map_eq_some_iff.mp h
  refine ⟨callEffect hcalls ht, ?_, rfl⟩
  simp only [observe]
  cases completion action t with
  | none => rfl
  | some succeeded => cases succeeded <;> rfl

/-! ### The counter, the state and the time of the last failure -/

/-- The counter of a closed breaker is that of its history and below the threshold, and an open
breaker knows when its last failure was recorded. -/
structure Tracks (options : CircuitBreakerOptions) (o : Observed) : Prop where
  closed : o.state.breaker.state = .closed →
    o.failures = o.state.breaker.failureCount ∧ o.failures < options.failureThreshold
  opened : o.state.breaker.state = .opened →
    o.recordedAt = some o.state.breaker.lastFailureTime

lemma tracks_initial (now : ℕ) : Tracks options (.initial now) where
  closed _ := ⟨rfl, options.failureThreshold_pos⟩
  opened h := by cases h

/-- A query of the state leaves a breaker that is not open as it is, and an open one too, until its
cooldown is over. -/
lemma checkCooldown_cases (options : CircuitBreakerOptions) (breaker : CircuitBreaker) (now : ℕ) :
    breaker.checkCooldown options now = breaker ∨
      breaker.state = .opened ∧ (breaker.checkCooldown options now).state = .halfOpen ∧
        breaker.lastFailureTime + options.cooldownMs ≤ now := by
  rw [checkCooldown]
  split_ifs with h
  · exact .inr ⟨h.1, rfl, h.2⟩
  · exact .inl rfl

lemma state_recordFailure_ne_closed_iff {breaker : CircuitBreaker} (now : ℕ)
    (h : breaker.state = .closed) : (breaker.recordFailure options now).state ≠ .closed ↔
      options.failureThreshold ≤ breaker.failureCount + 1 := by
  simp only [recordFailure, h]
  split_ifs with hopens <;> simp_all

/-- A step that leaves the breaker as it is, and ends no call with a failure if it is closed. -/
lemma counted_of_same (ho : Tracks options o) (hbreaker : p.state.breaker = o.state.breaker)
    (hfailures : o.state.breaker.state = .closed →
      p.failures = o.failures ∧ completion action p.state ≠ some false)
    (hrecordedAt : p.recordedAt = o.recordedAt) :
    Tracks options p ∧ Counted options o action p := by
  have hp : Tracks options p := by
    refine ⟨fun hclosed => ?_, fun hopened => ?_⟩
    · rw [hbreaker] at hclosed ⊢
      rw [(hfailures hclosed).1]
      exact ho.closed hclosed
    · rw [hbreaker] at hopened ⊢
      rw [hrecordedAt]
      exact ho.opened hopened
  refine ⟨hp, fun hclosed => (hp.closed hclosed).2, fun hclosed => ?_, fun hopened hnot => ?_⟩
  · rw [hbreaker]
    refine iff_of_false (not_not.mpr hclosed) fun h => (hfailures hclosed).2 h.1
  · exact absurd (hbreaker ▸ hopened) hnot

lemma counted_of_halfOpen (ho : Tracks options o) (hopened : o.state.breaker.state = .opened)
    (hhalf : p.state.breaker.state = .halfOpen)
    (hcooled : o.state.breaker.lastFailureTime + options.cooldownMs ≤ o.state.now) :
    Tracks options p ∧ Counted options o action p := by
  refine ⟨⟨fun h => ?_, fun h => ?_⟩, fun h => ?_, fun h => ?_, fun _ _ => ?_⟩
  · simp [hhalf] at h
  · simp [hhalf] at h
  · simp [hhalf] at h
  · simp [hopened] at h
  · exact ⟨_, ho.opened hopened, hcooled⟩

lemma counted_of_success (ho : Tracks options o)
    (hbreaker : p.state.breaker = o.state.breaker.recordSuccess)
    (hcompletion : completion action p.state = some true) (hfailures : p.failures = 0)
    (hrecordedAt : p.recordedAt = o.recordedAt) :
    Tracks options p ∧ Counted options o action p := by
  have hopened_iff : p.state.breaker.state = .opened ↔ o.state.breaker.state = .opened := by
    rw [hbreaker]
    simp only [recordSuccess]
    split_ifs with hhalf <;> simp [hhalf]
  have hp : Tracks options p := by
    refine ⟨fun _ => ?_, fun hopened => ?_⟩
    · rw [hfailures, hbreaker]
      exact ⟨rfl, options.failureThreshold_pos⟩
    · rw [hrecordedAt, ho.opened (hopened_iff.mp hopened), hbreaker]
      rfl
  refine ⟨hp, fun hclosed => (hp.closed hclosed).2, fun hclosed => ?_, fun hopened hnot => ?_⟩
  · simp [hbreaker, recordSuccess, hclosed, hcompletion]
  · exact absurd (hopened_iff.mpr hopened) hnot

lemma counted_of_failure (ho : Tracks options o)
    (hbreaker : p.state.breaker = o.state.breaker.recordFailure options o.state.now)
    (hcompletion : completion action p.state = some false) (hfailures : p.failures = o.failures + 1)
    (hrecordedAt : p.recordedAt = some o.state.now) :
    Tracks options p ∧ Counted options o action p := by
  have hwas_closed : p.state.breaker.state = .closed → o.state.breaker.state = .closed := by
    rw [hbreaker]
    simp only [recordFailure]
    split_ifs <;> simp
  have hp : Tracks options p := by
    refine ⟨fun hclosed => ?_, fun _ => ?_⟩
    · obtain ⟨hcount, -⟩ := ho.closed (hwas_closed hclosed)
      have hfew : ¬ options.failureThreshold ≤ o.state.breaker.failureCount + 1 := by
        rw [← state_recordFailure_ne_closed_iff o.state.now (hwas_closed hclosed),
          ← hbreaker, not_not]
        exact hclosed
      rw [hfailures, hcount, hbreaker]
      exact ⟨rfl, not_le.mp hfew⟩
    · rw [hrecordedAt, hbreaker]
      rfl
  refine ⟨hp, fun hclosed => (hp.closed hclosed).2, fun hclosed => ?_, fun hopened hnot => ?_⟩
  · obtain ⟨hcount, hfew⟩ := ho.closed hclosed
    rw [hbreaker, state_recordFailure_ne_closed_iff _ hclosed, hfailures, ← hcount]
    simp only [hcompletion, true_and]
    omega
  · refine absurd ?_ hnot
    rw [hbreaker]
    simp only [recordFailure, hopened]
    split_ifs <;> rfl

/-- The step of a call that is recorded keeps what the breaker knows of its history, and what the
breaker promises. -/
lemma counted_step (ho : Tracks options o) (h : observedStep options o action = some p)
    (hrecorded : RecordedStep o action p) : Tracks options p ∧ Counted options o action p := by
  obtain ⟨heffect, hfailures, hrecordedAt⟩ := of_observedStep h
  generalize hcompletion : completion action p.state = completed at heffect hfailures
  generalize records action p.state = recorded at heffect hrecordedAt
  cases heffect with
  | unchanged hbreaker =>
    exact counted_of_same ho hbreaker (fun _ => ⟨hfailures, by simp [hcompletion]⟩) hrecordedAt
  | checked hbreaker =>
    rcases checkCooldown_cases options o.state.breaker o.state.now with
      heq | ⟨hopened, hhalf, hcooled⟩
    · rw [heq] at hbreaker
      exact counted_of_same ho hbreaker (fun _ => ⟨hfailures, by simp [hcompletion]⟩) hrecordedAt
    · exact counted_of_halfOpen ho hopened (hbreaker ▸ hhalf) hcooled
  | refused hbreaker hopened =>
    rcases checkCooldown_cases options o.state.breaker o.state.now with
      heq | ⟨-, hhalf, -⟩
    · rw [heq] at hbreaker
      refine counted_of_same ho hbreaker (fun hclosed => ?_) hrecordedAt
      rw [hbreaker, hclosed] at hopened
      cases hopened
    · rw [hbreaker, hhalf] at hopened
      cases hopened
  | succeeded hbreaker => exact counted_of_success ho hbreaker hcompletion hfailures hrecordedAt
  | recorded hbreaker => exact counted_of_failure ho hbreaker hcompletion hfailures hrecordedAt
  | unreadable call jitterMs haction hbreaker =>
    exact counted_of_same ho hbreaker
      (fun hclosed => absurd hclosed (hrecorded call jitterMs haction)) hrecordedAt

/-! ### Runs -/

def failingCall (call : ℕ) : List Action :=
  [.execute call, .settle call (.failed ⟨some 400, none, none⟩) 0]

/-- A closed breaker that is to stay closed for one more failure counts the failure of a call. -/
lemma run_failingCall {call : ℕ} (hclosed : o.state.breaker.state = .closed)
    (hidle : o.state.phase call = .idle)
    (hfew : o.state.breaker.failureCount + 1 < options.failureThreshold) :
    ∃ q, Run (observedStep options) o (failingCall call) q ∧
      q.state.breaker.state = .closed ∧ q.state.phase call = .idle ∧
      q.state.breaker.failureCount = o.state.breaker.failureCount + 1 ∧
      q.failures = o.failures + 1 := by
  have hcheck : o.state.breaker.checkCooldown options o.state.now = o.state.breaker := by
    simp [checkCooldown, hclosed]
  let attempted : Observed := ⟨o.state.attempt call 1, o.failures, o.recordedAt⟩
  let failed : State :=
    attempted.state.finish call (o.state.breaker.recordFailure options o.state.now)
  have hexecute : observedStep options o (.execute call) = some attempted := by
    simp [observedStep, Action.isOfCalls, step, hidle, hcheck, hclosed, observe, completion, records,
      State.attempt, attempted]
  have hsettle : observedStep options attempted (.settle call (.failed ⟨some 400, none, none⟩) 0) =
      some ⟨failed, o.failures + 1, some o.state.now⟩ := by
    simp [observedStep, Action.isOfCalls, step, State.attempt, State.fail, observe, completion,
      records, OperationError.isRateLimitOrClientError, State.finish, attempted, failed]
  refine ⟨_, .cons hexecute (.cons hsettle (.nil _)), ?_, ?_, rfl, rfl⟩
  · simp [failed, State.finish, recordFailure, hclosed, Nat.not_le.mpr hfew]
  · simp [failed, State.finish]

lemma attempting_of_settle {call jitterMs : ℕ} {outcome : AttemptOutcome}
    (h : observedStep options o (.settle call outcome jitterMs) = some p) :
    ∃ attempt startedAt, o.state.phase call = .attempting attempt startedAt := by
  cases hphase : o.state.phase call with
  | idle => simp [observedStep, step, hphase] at h
  | attempting attempt startedAt => exact ⟨attempt, startedAt, rfl⟩
  | backingOff attempt wakesAt => simp [observedStep, step, hphase] at h

/-- A closed breaker that has missed a failure can be led to stay closed at its threshold. -/
lemma exists_not_counted (call n : ℕ) (hn : options.failureThreshold ≤ o.failures + n)
    (hclosed : o.state.breaker.state = .closed) (hidle : o.state.phase call = .idle)
    (hmissed : o.state.breaker.failureCount < o.failures) :
    ∃ actions, ¬ AllSteps (observedStep options) (Counted options) o actions := by
  induction n generalizing o with
  | zero =>
    have hcheck : o.state.breaker.checkCooldown options o.state.now = o.state.breaker := by
      simp [checkCooldown, hclosed]
    refine ⟨[.getState], fun hall => ?_⟩
    have hstep : observedStep options o .getState = some o := by
      simp [observedStep, Action.isOfCalls, step, hcheck, observe, completion, records]
    exact absurd ((hall o hstep).1.few_failures hclosed) (by omega)
  | succ n ih =>
    by_cases hfew : o.state.breaker.failureCount + 1 < options.failureThreshold
    · obtain ⟨q, hrun, hq, hqidle, hcount, hfailures⟩ := run_failingCall hclosed hidle hfew
      obtain ⟨actions, hactions⟩ := ih (o := q) (by omega) hq hqidle (by omega)
      exact ⟨failingCall call ++ actions, fun hall => hactions (hall.of_append hrun)⟩
    · exact ih (by omega) hclosed hidle hmissed

/-- The breaker keeps its promises along a run in which no call ends unrecorded while it is closed;
and after a step that ends one, it can be led to break them. -/
theorem counted_of_recorded (options : CircuitBreakerOptions) (start : ℕ) (actions : List Action) :
    (AllSteps (observedStep options) RecordedStep (.initial start) actions →
      AllSteps (observedStep options) (Counted options) (.initial start) actions) ∧
    ∀ pre action o p,
      AllSteps (observedStep options) RecordedStep (.initial start) pre →
      Run (observedStep options) (.initial start) pre o → observedStep options o action = some p →
      ¬ RecordedStep o action p →
      ∃ rest, ¬ AllSteps (observedStep options) (Counted options) p rest := by
  constructor
  · exact AllSteps.of_invariant (I := Tracks options)
      (fun _ _ _ ho hstep hrecorded => (counted_step ho hstep hrecorded).1)
      (fun _ _ _ ho hstep hrecorded => (counted_step ho hstep hrecorded).2) (tracks_initial start)
  · intro pre action o p hall hrun hstep hunrecorded
    have ho : Tracks options o := hrun.invariant_of_allSteps
      (fun _ _ _ ho hstep hrecorded => (counted_step ho hstep hrecorded).1) hall
      (tracks_initial start)
    simp only [RecordedStep, not_forall, not_not] at hunrecorded
    obtain ⟨call, jitterMs, rfl, hclosed⟩ := hunrecorded
    obtain ⟨hcount, -⟩ := ho.closed hclosed
    obtain ⟨attempt, startedAt, hphase⟩ := attempting_of_settle hstep
    have hp : p = ⟨o.state.finish call o.state.breaker, o.failures + 1, o.recordedAt⟩ := by
      simpa [observedStep, Action.isOfCalls, step, hphase, observe, completion, records,
        State.finish, eq_comm] using hstep
    refine exists_not_counted call options.failureThreshold (Nat.le_add_left ..) ?_ ?_ ?_
    · rw [hp]
      exact hclosed
    · rw [hp]
      exact Function.update_self ..
    · rw [hp, hcount]
      exact Nat.lt_succ_self _

/-- A breaker that is to open at the first failure is still closed after a call that has failed. -/
theorem unreadable_failure_not_counted :
    ¬ AllSteps (observedStep firstFailure) (Counted firstFailure) (.initial 0)
        [.execute 0, .settle 0 .unreadable 0] := by
  intro hall
  obtain ⟨o, hrun, ho⟩ := exists_run_of_execute (observedStep firstFailure) (.initial 0)
    [.execute 0, .settle 0 .unreadable 0]
    (fun o => o.state.breaker.state = .closed ∧ o.failures = 1) (by decide)
  simp only [decide_eq_true_eq] at ho
  cases hrun with
  | cons hexecute hrest =>
    cases hrest with
    | cons hsettle hnil =>
      cases hnil
      have hcounted := ((hall _ hexecute).2 _ hsettle).1
      exact absurd (hcounted.few_failures ho.1) (by simp [ho.2, firstFailure])

end CircuitBreaker

end CtrlRecovery
