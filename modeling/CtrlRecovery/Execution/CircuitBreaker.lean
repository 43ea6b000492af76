import CtrlRecovery.Core.Run
import CtrlRecovery.Js
import Mathlib.Logic.Function.Basic

/-!
# The circuit breaker

A call consults the state of the breaker once, before its first attempt; between its attempts it backs
off for a while, and then it tries again whatever the state is by then. A call that fails for good
opens the breaker for the others, which may be in their back-offs. No attempt starts in the cooldown of
an open breaker as long as every back-off that meets one lasts until its end
(`suspended_of_outlasts`); a step that leaves a shorter one can be followed by such an attempt.
-/

namespace CtrlRecovery

open Core

/-- The options of a `CircuitBreaker`. -/
structure CircuitBreakerOptions where
  failureThreshold : ℕ
  cooldownMs : ℕ
  requestTimeoutMs : ℕ
  maxRetries : ℕ
  failureThreshold_pos : 1 ≤ failureThreshold
  maxRetries_pos : 1 ≤ maxRetries

inductive CircuitState | closed | opened | halfOpen
  deriving DecidableEq, Repr

/-- What a `CircuitBreaker` keeps and persists. -/
structure CircuitBreaker where
  state : CircuitState
  failureCount : ℕ
  lastFailureTime : ℕ
  deriving DecidableEq, Repr

/-- What is read of the error of an operation. -/
structure OperationError where
  statusCode : Option ℕ
  description : Option String
  code : Option String
  deriving DecidableEq, Repr

/-- How an attempt ends: `unreadable` is an error that its handler fails on. -/
inductive AttemptOutcome
  | succeeded
  | timedOut
  | failed (error : OperationError)
  | unreadable
  deriving DecidableEq, Repr

def OperationError.isRateLimitOrClientError (error : OperationError) : Bool :=
  error.statusCode == some 429 || error.statusCode == some 400 ||
    error.description.any (Js.includes · "Too many requests") ||
    error.code == some "BAD_REQUEST_ERROR"

namespace CircuitBreaker

def initial : CircuitBreaker := ⟨.closed, 0, 0⟩

variable (options : CircuitBreakerOptions) (breaker : CircuitBreaker) (now : ℕ)

/-- The cooldown since the last recorded failure of an open breaker has not elapsed. -/
def IsCoolingDown : Prop :=
  breaker.state = .opened ∧ now < breaker.lastFailureTime + options.cooldownMs

instance : Decidable (breaker.IsCoolingDown options now) := inferInstanceAs (Decidable (_ ∧ _))

def checkCooldown : CircuitBreaker :=
  if breaker.state = .opened ∧ breaker.lastFailureTime + options.cooldownMs ≤ now then
    { breaker with state := .halfOpen }
  else breaker

def recordSuccess : CircuitBreaker :=
  { breaker with
    failureCount := 0
    state := if breaker.state = .halfOpen then .closed else breaker.state }

def recordFailure : CircuitBreaker where
  failureCount := breaker.failureCount + 1
  lastFailureTime := now
  state :=
    if breaker.state = .halfOpen ∨ options.failureThreshold ≤ breaker.failureCount + 1 then .opened
    else breaker.state

/-! ### Calls -/

/-- Where an `executeWithResilience` call is. -/
inductive CallPhase
  | idle
  | attempting (attempt startedAt : ℕ)
  | backingOff (attempt wakesAt : ℕ)
  deriving DecidableEq, Repr

/-- A breaker with the calls in flight on it. -/
structure State where
  breaker : CircuitBreaker
  now : ℕ
  phase : ℕ → CallPhase

def State.initial (now : ℕ) : State := ⟨CircuitBreaker.initial, now, fun _ => .idle⟩

inductive Action
  | tick (ms : ℕ)
  /-- The persisted state is loaded. -/
  | load (saved : CircuitBreaker)
  | getState
  | reset
  | execute (call : ℕ)
  /-- The attempt of a call ends; `jitterMs` is drawn for its back-off. -/
  | settle (call : ℕ) (outcome : AttemptOutcome) (jitterMs : ℕ)
  /-- The back-off of a call ends. -/
  | retry (call : ℕ)

/-- `2^(attempt-1) * 1000`. -/
def baseDelayMs (attempt : ℕ) : ℕ := 2 ^ (attempt - 1) * 1000

def totalDelayMs (attempt jitterMs : ℕ) : ℕ := min (baseDelayMs attempt + jitterMs) 8000

/-- `Math.floor(Math.random() * (baseDelayMs * 0.3))`. -/
def IsJitter (attempt jitterMs : ℕ) : Prop := 10 * jitterMs < 3 * baseDelayMs attempt

instance (attempt jitterMs : ℕ) : Decidable (IsJitter attempt jitterMs) :=
  inferInstanceAs (Decidable (_ < _))

namespace State

variable (s : State)

/-- A call returns or throws, leaving the breaker `breaker`. -/
def finish (call : ℕ) (breaker : CircuitBreaker) : State :=
  { s with breaker, phase := Function.update s.phase call .idle }

def attempt (call attempt : ℕ) : State :=
  { s with phase := Function.update s.phase call (.attempting attempt s.now) }

/-- An attempt has failed: the last one records the failure, and so does a client error. -/
def fail (call attempt : ℕ) (isClientError : Bool) (jitterMs : ℕ) : Option State :=
  if attempt = options.maxRetries ∨ isClientError then
    some (s.finish call (s.breaker.recordFailure options s.now))
  else if IsJitter attempt jitterMs then
    some { s with
      phase := Function.update s.phase call
        (.backingOff attempt (s.now + totalDelayMs attempt jitterMs)) }
  else none

end State

def step (s : State) : Action → Option State
  | .tick ms     => some { s with now := s.now + ms }
  | .load saved  => some { s with breaker := saved }
  | .getState    => some { s with breaker := s.breaker.checkCooldown options s.now }
  | .reset       => some { s with breaker := initial }
  | .execute call =>
    match s.phase call with
    | .idle =>
      let s := { s with breaker := s.breaker.checkCooldown options s.now }
      if s.breaker.state = .opened then some s else some (s.attempt call 1)
    | _     => none
  | .settle call outcome jitterMs =>
    match s.phase call, outcome with
    | .attempting _ _, .succeeded            => some (s.finish call s.breaker.recordSuccess)
    | .attempting attempt startedAt, .timedOut =>
      if startedAt + options.requestTimeoutMs ≤ s.now then s.fail options call attempt false jitterMs
      else none
    | .attempting attempt _, .failed error   =>
      s.fail options call attempt error.isRateLimitOrClientError jitterMs
    | .attempting _ _, .unreadable           => some (s.finish call s.breaker)
    | _, _                                   => none
  | .retry call =>
    match s.phase call with
    | .backingOff attempt wakesAt =>
      if wakesAt ≤ s.now then some (s.attempt call (attempt + 1)) else none
    | _                           => none

/-! ### What the calls promise -/

/-- An attempt that starts does not find the breaker cooling down. -/
def Suspended (s : State) (_ : Action) (t : State) : Prop :=
  ∀ call attempt startedAt, t.phase call = .attempting attempt startedAt →
    (∀ attempt' startedAt', s.phase call ≠ .attempting attempt' startedAt') →
    ¬ t.breaker.IsCoolingDown options t.now

/-- The back-offs of the calls all last until the cooldown of the breaker is over, if it is open. -/
def Outlasts (breaker : CircuitBreaker) (now : ℕ) (phase : ℕ → CallPhase) : Prop :=
  breaker.state = .opened → ∀ call attempt wakesAt, phase call = .backingOff attempt wakesAt →
    breaker.lastFailureTime + options.cooldownMs ≤ max wakesAt now

/-- An attempt fails for good while no other call is in a back-off that ends in the cooldown of this
failure, or the failure leaves the breaker closed; else its own back-off lasts until the cooldown of
an open breaker is over. -/
def FailsSafely (s : State) (call attempt : ℕ) (isClientError : Bool) (jitterMs : ℕ) : Prop :=
  if attempt = options.maxRetries ∨ isClientError then
    (s.breaker.state = .closed → options.failureThreshold ≤ s.breaker.failureCount + 1) →
      ∀ other, other ≠ call → ∀ attempt' wakesAt, s.phase other = .backingOff attempt' wakesAt →
        s.now + options.cooldownMs ≤ max wakesAt s.now
  else
    s.breaker.state = .opened →
      s.breaker.lastFailureTime + options.cooldownMs ≤ s.now + totalDelayMs attempt jitterMs

/-- A step that does not leave a back-off which ends in the cooldown of an open breaker. -/
def OutlastsStep (s : State) (action : Action) (_ : State) : Prop :=
  match action with
  | .load saved                      => Outlasts options saved s.now s.phase
  | .settle call .timedOut jitterMs  =>
    ∀ attempt startedAt, s.phase call = .attempting attempt startedAt →
      FailsSafely options s call attempt false jitterMs
  | .settle call (.failed error) jitterMs =>
    ∀ attempt startedAt, s.phase call = .attempting attempt startedAt →
      FailsSafely options s call attempt error.isRateLimitOrClientError jitterMs
  | _                                => True

variable {options breaker now} {s t : State} {phase : ℕ → CallPhase} {call attempt : ℕ}
  {isClientError : Bool} {jitterMs : ℕ}

/-! ### Back-offs -/

lemma Outlasts.of_state_ne (h : breaker.state ≠ .opened) : Outlasts options breaker now phase :=
  fun hopened => absurd hopened h

lemma Outlasts.mono_now {now' : ℕ} (hle : now ≤ now') (h : Outlasts options breaker now phase) :
    Outlasts options breaker now' phase := by
  intro hopened call attempt wakesAt hphase
  have hlasts := h hopened call attempt wakesAt hphase
  omega

lemma Outlasts.update {next : CallPhase} (h : Outlasts options breaker now phase)
    (hnext : ∀ attempt wakesAt, next ≠ .backingOff attempt wakesAt) :
    Outlasts options breaker now (Function.update phase call next) := by
  intro hopened other attempt wakesAt hphase
  by_cases hother : other = call
  · subst hother
    rw [Function.update_self] at hphase
    exact absurd hphase (hnext attempt wakesAt)
  · rw [Function.update_of_ne hother] at hphase
    exact h hopened other attempt wakesAt hphase

lemma Outlasts.checkCooldown (h : Outlasts options breaker now phase) :
    Outlasts options (breaker.checkCooldown options now) now phase := by
  rw [CircuitBreaker.checkCooldown]
  split_ifs
  · exact .of_state_ne (by simp)
  · exact h

lemma Outlasts.recordSuccess (h : Outlasts options breaker now phase) :
    Outlasts options breaker.recordSuccess now phase := by
  intro hopened
  simp only [CircuitBreaker.recordSuccess] at hopened ⊢
  split_ifs at hopened
  exact h hopened

lemma state_recordFailure :
    (breaker.recordFailure options now).state = .opened ↔
      (breaker.state = .closed → options.failureThreshold ≤ breaker.failureCount + 1) := by
  simp only [recordFailure]
  cases breaker.state with
  | closed   => simp
  | opened   => simp
  | halfOpen => simp

/-- What a failed attempt leaves outlasts the cooldown exactly when the attempt fails safely. -/
lemma outlasts_fail (hs : Outlasts options s.breaker s.now s.phase)
    (h : s.fail options call attempt isClientError jitterMs = some t) :
    Outlasts options t.breaker t.now t.phase ↔
      FailsSafely options s call attempt isClientError jitterMs := by
  simp only [State.fail] at h
  simp only [FailsSafely]
  split_ifs at h ⊢ with hfinal hjitter
  · cases h
    constructor
    · intro houtlasts hopens other hother attempt' wakesAt hphase
      refine houtlasts (state_recordFailure.mpr hopens) other attempt' wakesAt ?_
      simpa [State.finish, hother] using hphase
    · intro hsafe hopened other attempt' wakesAt hphase
      by_cases hother : other = call
      · simp [State.finish, hother] at hphase
      · refine hsafe (state_recordFailure.mp hopened) other hother attempt' wakesAt ?_
        simpa [State.finish, hother] using hphase
  · cases h
    constructor
    · intro houtlasts hopened
      have hlasts := houtlasts hopened call attempt _ (Function.update_self ..)
      simp only at hlasts
      omega
    · intro hsafe hopened other attempt' wakesAt hphase
      by_cases hother : other = call
      · simp only [hother, Function.update_self, CallPhase.backingOff.injEq] at hphase
        have hlong := hsafe hopened
        show s.breaker.lastFailureTime + options.cooldownMs ≤ max wakesAt s.now
        omega
      · simp only [Function.update_of_ne hother] at hphase
        exact hs hopened other attempt' wakesAt hphase

/-! ### What a step does -/

/-- The steps of the calls and of the breaker. -/
inductive Stepped (options : CircuitBreakerOptions) (s : State) : Action → State → Prop
  | ticked (ms : ℕ) : Stepped options s (.tick ms) { s with now := s.now + ms }
  | loaded (saved : CircuitBreaker) : Stepped options s (.load saved) { s with breaker := saved }
  | checked :
      Stepped options s .getState { s with breaker := s.breaker.checkCooldown options s.now }
  | cleared : Stepped options s .reset { s with breaker := initial }
  | refused (call : ℕ) :
      Stepped options s (.execute call)
        { s with breaker := s.breaker.checkCooldown options s.now }
  | executed (call : ℕ) (hstate : (s.breaker.checkCooldown options s.now).state ≠ .opened) :
      Stepped options s (.execute call)
        ({ s with breaker := s.breaker.checkCooldown options s.now }.attempt call 1)
  | succeeded (call jitterMs : ℕ) :
      Stepped options s (.settle call .succeeded jitterMs)
        (s.finish call s.breaker.recordSuccess)
  | unreadable (call jitterMs : ℕ) :
      Stepped options s (.settle call .unreadable jitterMs) (s.finish call s.breaker)
  | timedOut {call attempt startedAt jitterMs : ℕ} {t : State}
      (hphase : s.phase call = .attempting attempt startedAt)
      (hfail : s.fail options call attempt false jitterMs = some t) :
      Stepped options s (.settle call .timedOut jitterMs) t
  | failed {call attempt startedAt jitterMs : ℕ} {error : OperationError} {t : State}
      (hphase : s.phase call = .attempting attempt startedAt)
      (hfail : s.fail options call attempt error.isRateLimitOrClientError jitterMs = some t) :
      Stepped options s (.settle call (.failed error) jitterMs) t
  | retried {call attempt wakesAt : ℕ} (hphase : s.phase call = .backingOff attempt wakesAt)
      (hwakes : wakesAt ≤ s.now) :
      Stepped options s (.retry call) (s.attempt call (attempt + 1))

lemma stepped {action : Action} (h : step options s action = some t) :
    Stepped options s action t := by
  cases action with
  | tick ms    => cases h; exact .ticked ms
  | load saved => cases h; exact .loaded saved
  | getState   => cases h; exact .checked
  | reset      => cases h; exact .cleared
  | execute call =>
    simp only [step] at h
    split at h
    · split_ifs at h with hstate <;> cases h
      · exact .refused call
      · exact .executed call hstate
    · cases h
  | settle call outcome jitterMs =>
    simp only [step] at h
    split at h
    · cases h
      exact .succeeded call jitterMs
    next hphase =>
      split_ifs at h
      exact .timedOut hphase h
    next hphase => exact .failed hphase h
    · cases h
      exact .unreadable call jitterMs
    · cases h
  | retry call =>
    simp only [step] at h
    split at h
    next hphase =>
      split_ifs at h with hwakes
      cases h
      exact .retried hphase hwakes
    · cases h

/-- A step leaves back-offs that all outlast the cooldown exactly when it is such a step. -/
lemma outlasts_step {action : Action} (hs : Outlasts options s.breaker s.now s.phase)
    (h : step options s action = some t) :
    Outlasts options t.breaker t.now t.phase ↔ OutlastsStep options s action t := by
  cases stepped h with
  | ticked ms => exact iff_of_true (hs.mono_now (Nat.le_add_right _ _)) trivial
  | loaded saved => exact Iff.rfl
  | checked => exact iff_of_true hs.checkCooldown trivial
  | cleared => exact iff_of_true (.of_state_ne (by simp [initial])) trivial
  | refused call => exact iff_of_true hs.checkCooldown trivial
  | executed call hstate => exact iff_of_true (.of_state_ne hstate) trivial
  | succeeded call jitterMs =>
    exact iff_of_true (hs.recordSuccess.update (by simp)) trivial
  | unreadable call jitterMs => exact iff_of_true (hs.update (by simp)) trivial
  | timedOut hphase hfail =>
    rw [outlasts_fail hs hfail]
    simp [OutlastsStep, hphase]
  | failed hphase hfail =>
    rw [outlasts_fail hs hfail]
    simp [OutlastsStep, hphase]
  | retried hphase hwakes => exact iff_of_true (hs.update (by simp)) trivial

lemma attempting_of_update {next : CallPhase} {other startedAt : ℕ}
    (h : Function.update phase call next other = .attempting attempt startedAt)
    (hnew : ∀ attempt' startedAt', phase other ≠ .attempting attempt' startedAt') :
    other = call ∧ next = .attempting attempt startedAt := by
  by_cases hother : other = call
  · rw [hother, Function.update_self] at h
    exact ⟨hother, h⟩
  · rw [Function.update_of_ne hother] at h
    exact absurd h (hnew attempt startedAt)

lemma not_attempting_fail (h : s.fail options call attempt isClientError jitterMs = some t)
    {other attempt' startedAt : ℕ}
    (hnew : ∀ attempt startedAt, s.phase other ≠ .attempting attempt startedAt) :
    t.phase other ≠ .attempting attempt' startedAt := by
  intro hphase
  simp only [State.fail] at h
  split_ifs at h
  · cases h
    exact absurd (attempting_of_update hphase hnew).2 (by simp)
  · cases h
    exact absurd (attempting_of_update hphase hnew).2 (by simp)

/-- An attempt that starts finds a breaker that is not open, or one whose cooldown its back-off has
outlasted. -/
lemma suspended_step {action : Action} (hs : Outlasts options s.breaker s.now s.phase)
    (h : step options s action = some t) : Suspended options s action t := by
  intro other attempt startedAt hphase hnew
  cases stepped h with
  | ticked ms => exact absurd hphase (hnew attempt startedAt)
  | loaded saved => exact absurd hphase (hnew attempt startedAt)
  | checked => exact absurd hphase (hnew attempt startedAt)
  | cleared => exact absurd hphase (hnew attempt startedAt)
  | refused call => exact absurd hphase (hnew attempt startedAt)
  | executed call hstate =>
    rintro ⟨hopened, -⟩
    exact hstate hopened
  | succeeded call jitterMs => exact absurd (attempting_of_update hphase hnew).2 (by simp)
  | unreadable call jitterMs => exact absurd (attempting_of_update hphase hnew).2 (by simp)
  | timedOut _ hfail => exact absurd hphase (not_attempting_fail hfail hnew)
  | failed _ hfail => exact absurd hphase (not_attempting_fail hfail hnew)
  | @retried call attempt' wakesAt hbackoff hwakes =>
    rintro ⟨hopened, hcooling⟩
    have hlasts := hs hopened call attempt' wakesAt hbackoff
    rw [max_eq_right hwakes] at hlasts
    exact absurd hcooling (Nat.not_lt.mpr hlasts)

/-- From a state with a back-off that ends in the cooldown, the call of the back-off can attempt in
the cooldown. -/
lemma exists_not_suspended (h : ¬ Outlasts options s.breaker s.now s.phase) :
    ∃ actions, ¬ AllSteps (step options) (Suspended options) s actions := by
  simp only [Outlasts, not_forall, Nat.not_le] at h
  obtain ⟨hopened, call, attempt, wakesAt, hphase, hshort⟩ := h
  refine ⟨[.tick (wakesAt - s.now), .retry call], fun hall => ?_⟩
  have hnow : s.now + (wakesAt - s.now) = max wakesAt s.now := by omega
  let t : State := { s with now := s.now + (wakesAt - s.now) }
  have hphaset : t.phase call = .backingOff attempt wakesAt := hphase
  have hwakes : wakesAt ≤ t.now := by
    show wakesAt ≤ s.now + (wakesAt - s.now)
    omega
  have hretry : step options t (.retry call) = some (t.attempt call (attempt + 1)) := by
    simp [step, hphaset, hwakes]
  have hsuspended := ((hall t rfl).2 _ hretry).1
  refine hsuspended call (attempt + 1) t.now (Function.update_self ..) ?_ ⟨hopened, ?_⟩
  · intro attempt' startedAt' hattempting
    simp [hphaset] at hattempting
  · show s.now + (wakesAt - s.now) < s.breaker.lastFailureTime + options.cooldownMs
    rw [hnow]
    exact hshort

/-! ### Runs -/

/-- No attempt starts in the cooldown of an open breaker along a run whose steps leave no back-off
that ends in one; and a step that leaves one can be followed by such an attempt. -/
theorem suspended_of_outlasts (options : CircuitBreakerOptions) (start : ℕ) (actions : List Action) :
    (AllSteps (step options) (OutlastsStep options) (.initial start) actions →
      AllSteps (step options) (Suspended options) (.initial start) actions) ∧
    ∀ pre action s t,
      AllSteps (step options) (OutlastsStep options) (.initial start) pre →
      Run (step options) (.initial start) pre s → step options s action = some t →
      ¬ OutlastsStep options s action t →
      ∃ rest, ¬ AllSteps (step options) (Suspended options) t rest := by
  have hinitial : Outlasts options (State.initial start).breaker start (State.initial start).phase :=
    .of_state_ne (by simp [State.initial, initial])
  constructor
  · exact AllSteps.of_invariant (I := fun s => Outlasts options s.breaker s.now s.phase)
      (fun s a t hs hstep hguard => (outlasts_step hs hstep).mpr hguard)
      (fun s a t hs hstep _ => suspended_step hs hstep) hinitial
  · intro pre action s t hall hrun hstep hguard
    have hs := hrun.invariant_of_allSteps
      (I := fun s => Outlasts options s.breaker s.now s.phase)
      (fun s a t hs hstep hguard => (outlasts_step hs hstep).mpr hguard) hall hinitial
    exact exists_not_suspended fun ht => hguard ((outlasts_step hs hstep).mp ht)

/-- A breaker that opens at the first failure. -/
def firstFailure : CircuitBreakerOptions where
  failureThreshold := 1
  cooldownMs := 30000
  requestTimeoutMs := 10000
  maxRetries := 5
  failureThreshold_pos := by decide
  maxRetries_pos := by decide

/-- While one call backs off for a second, another one fails for good. -/
def overlappingCalls : List Action :=
  [.execute 0, .execute 1, .settle 0 (.failed ⟨some 503, none, none⟩) 0,
    .settle 1 (.failed ⟨some 400, none, none⟩) 0, .tick 1000]

/-- The second attempt of the first call starts one second into the cooldown of 30 seconds. -/
theorem retries_in_cooldown :
    ¬ AllSteps (step firstFailure) (Suspended firstFailure) (.initial 0)
        (overlappingCalls ++ [.retry 0]) := by
  intro hall
  obtain ⟨s, hrun, hs⟩ := exists_run_of_execute (step firstFailure) (.initial 0) overlappingCalls
    (fun s => s.phase 0 = .backingOff 1 1000 ∧ s.now = 1000 ∧ s.breaker = ⟨.opened, 1, 0⟩)
    (by decide)
  simp only [decide_eq_true_eq] at hs
  obtain ⟨hphase, hnow, hbreaker⟩ := hs
  have hretry : step firstFailure s (.retry 0) = some (s.attempt 0 2) := by
    simp [step, hphase, hnow]
  refine hall.at_step hrun hretry 0 2 s.now (by simp [State.attempt]) (by simp [hphase]) ?_
  simp [IsCoolingDown, State.attempt, hbreaker, hnow, firstFailure]

end CircuitBreaker

end CtrlRecovery
