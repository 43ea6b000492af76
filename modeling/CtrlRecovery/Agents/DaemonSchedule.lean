import CtrlRecovery.Core.Run
import CtrlRecovery.Types
import Mathlib.Data.Rat.Floor

/-!
# The schedule of the daemon

The daemon sleeps until its timer fires, sweeps, and arms the timer again. A sweep remembers the state
in which it has found the daemon and restores it at its end, whatever has happened in between. So a
`stop` is undone when a sweep that has begun while the daemon was sleeping ends after it, or when the
callback of the timer ends during a sweep that has been triggered since. No sweeps overlap, and after a
`stop` no scheduled sweep begins, in a run without such ends (`scheduleKept_of_allSteps`).
-/

namespace CtrlRecovery

open Core

namespace DaemonSchedule

inductive DaemonState | idle | sweeping | sleeping | stopped
  deriving DecidableEq, Repr

structure DaemonConfig where
  intervalSeconds : ℚ
  capacity : ℚ
  deriving DecidableEq, Repr

/-- The fields of a configuration that a caller sets. -/
structure PartialConfig where
  intervalSeconds : Option ℚ
  capacity : Option ℚ
  deriving DecidableEq, Repr

/-- Where a sweep is: at its work, or with its log written before the alerts. -/
inductive SweepPhase | working | alerting
  deriving DecidableEq, Repr

structure Sweep where
  previousState : DaemonState
  phase : SweepPhase
  deriving DecidableEq, Repr

/-- What the callback of a timer waits for: the push of a job, a sweep, or only to end. -/
inductive Callback
  | pushing
  | sweeping (sweep : ℕ)
  | ending
  deriving DecidableEq, Repr

/-- The daemon with its armed timer, its sweeps and the callbacks under way; besides, whether it has
been stopped since the last `start`, and for each scheduled sweep so far whether it was so when the
sweep began. -/
structure State where
  now : Timestamp
  state : DaemonState
  isSweeping : Bool
  config : DaemonConfig
  timer : Option Timestamp
  totalSweeps : ℕ
  lastSweepAt : Option Timestamp
  nextSweepAt : Option Timestamp
  sweeps : ℕ → Option Sweep
  callbacks : ℕ → Option Callback
  isStopped : Bool
  scheduled : List Bool

def State.initial (now : Timestamp) : State where
  now := now
  state := .idle
  isSweeping := false
  config := ⟨20, 5⟩
  timer := none
  totalSweeps := 0
  lastSweepAt := none
  nextSweepAt := none
  sweeps _ := none
  callbacks _ := none
  isStopped := false
  scheduled := []

namespace State

variable (s : State)

/-! ### The daemon -/

def scheduleNext : State :=
  if s.state = .stopped ∨ s.state = .idle then s
  else
    let next := s.now + ⌊s.config.intervalSeconds * 1000⌋₊
    { s with
      timer := some next
      nextSweepAt := some next
      state := .sleeping }

def withConfig (newConfig : PartialConfig) : State :=
  { s with
    config :=
      { intervalSeconds :=
          (newConfig.intervalSeconds.map fun x => max 15 (min 300 x)).getD s.config.intervalSeconds
        capacity := (newConfig.capacity.map fun x => max 1 (min 10 x)).getD s.config.capacity } }

def updateConfig (newConfig : PartialConfig) : State :=
  let s := s.withConfig newConfig
  if s.state = .sleeping then s.scheduleNext else s

def start (config : Option PartialConfig) : State :=
  if s.state = .sweeping ∨ s.state = .sleeping then s
  else
    let s := (config.map s.updateConfig).getD s
    { s with state := .sleeping }.scheduleNext

def stop : State := { s with timer := none, state := .stopped, nextSweepAt := none }

/-! ### Sweeps -/

/-- `sweepOnce`, up to its first suspension, while no sweep is under way. -/
def beginSweep (sweep : ℕ) : State :=
  { s with
    sweeps := Function.update s.sweeps sweep (some ⟨s.state, .working⟩)
    isSweeping := true
    state := .sweeping
    totalSweeps := s.totalSweeps + 1
    lastSweepAt := some s.now }

def setCallback (callback : ℕ) (c : Option Callback) : State :=
  { s with callbacks := Function.update s.callbacks callback c }

/-- A sweep is over, and a callback that waits for it goes on. -/
def resolveSweep (sweep : ℕ) : State :=
  { s with
    sweeps := Function.update s.sweeps sweep none
    callbacks := fun c =>
      if s.callbacks c = some (.sweeping sweep) then some .ending else s.callbacks c }

/-- The state that a sweep restores. -/
def restored (previousState : DaemonState) : DaemonState :=
  match previousState with
  | .sleeping => .sleeping
  | .stopped  => .stopped
  | _         => .idle

/-- The timer fires; with distributed workers its callback pushes a job, else it sweeps. -/
def fire (distributedWorkers : Bool) (callback sweep : ℕ) : State :=
  let s := { s with timer := none }
  if distributedWorkers then
    { s with scheduled := s.isStopped :: s.scheduled }.setCallback callback (some .pushing)
  else if s.isSweeping then s.setCallback callback (some .ending)
  else
    ({ s with scheduled := s.isStopped :: s.scheduled }.beginSweep sweep).setCallback callback
      (some (.sweeping sweep))

end State

/-! ### Runs -/

/-- New sweeps and callbacks are given numbers that are not in use. -/
inductive Action
  | tick (ms : ℕ)
  | start (config : Option PartialConfig)
  | stop
  /-- Stops the daemon; the rest of `waitForDrain` only looks at it. -/
  | waitForDrain
  | updateConfig (newConfig : PartialConfig)
  | triggerInstantSweep (sweep : ℕ)
  | fire (callback sweep : ℕ)
  /-- The work of a sweep ends; the write of its log may throw. -/
  | work (sweep : ℕ) (logThrows : Bool)
  | endSweep (sweep : ℕ)
  /-- The push of a callback ends, or fails. -/
  | pushed (callback : ℕ)
  | endCallback (callback : ℕ)

def step (distributedWorkers : Bool) (s : State) : Action → Option State
  | .tick ms => some { s with now := s.now + ms }
  | .start config => some { s.start config with isStopped := false }
  | .stop => some { s.stop with isStopped := true }
  | .waitForDrain => some { s.stop with isStopped := true }
  | .updateConfig newConfig => some (s.updateConfig newConfig)
  | .triggerInstantSweep sweep =>
    if s.isSweeping then some s
    else if (s.sweeps sweep).isNone then some (s.beginSweep sweep)
    else none
  | .fire callback sweep =>
    if (s.callbacks callback).isNone ∧ (s.sweeps sweep).isNone ∧ s.timer.any (· ≤ s.now) then
      some (s.fire distributedWorkers callback sweep)
    else none
  | .work sweep logThrows =>
    match s.sweeps sweep with
    | some ⟨previousState, .working⟩ =>
      if logThrows then some (s.resolveSweep sweep)
      else
        some { s with
          sweeps := Function.update s.sweeps sweep (some ⟨previousState, .alerting⟩) }
    | _ => none
  | .endSweep sweep =>
    match s.sweeps sweep with
    | some ⟨previousState, .alerting⟩ =>
      some ({ s with
        state := State.restored previousState
        isSweeping := false }.resolveSweep sweep)
    | _ => none
  | .pushed callback =>
    if s.callbacks callback = some .pushing then some (s.setCallback callback (some .ending))
    else none
  | .endCallback callback =>
    if s.callbacks callback = some .ending then
      let s := s.setCallback callback none
      some (if s.state ≠ .stopped then s.scheduleNext else s)
    else none

/-! ### What the schedule promises -/

/-- No two sweeps are under way, and no scheduled sweep has begun between a `stop` and the next
`start`. -/
structure ScheduleKept (s : State) : Prop where
  noOverlap : ∀ i j, (s.sweeps i).isSome → (s.sweeps j).isSome → i = j
  noneAfterStop : ∀ wasStopped ∈ s.scheduled, wasStopped = false

/-- After a `stop`, no sweep ends that has begun while the daemon was sleeping, and no callback ends
during a sweep. -/
def KeepsStop (s : State) (action : Action) (_ : State) : Prop :=
  match action with
  | .endSweep sweep => s.isStopped → ∀ sw ∈ s.sweeps sweep, sw.previousState ≠ .sleeping
  | .endCallback _  => s.isStopped → s.state ≠ .sweeping
  | _               => True

instance (s : State) (action : Action) (t : State) : Decidable (KeepsStop s action t) :=
  match action with
  | .endSweep _            => inferInstanceAs (Decidable (_ → ∀ _ ∈ _, _))
  | .endCallback _         => inferInstanceAs (Decidable (_ → _))
  | .tick _                => inferInstanceAs (Decidable True)
  | .start _               => inferInstanceAs (Decidable True)
  | .stop                  => inferInstanceAs (Decidable True)
  | .waitForDrain          => inferInstanceAs (Decidable True)
  | .updateConfig _        => inferInstanceAs (Decidable True)
  | .triggerInstantSweep _ => inferInstanceAs (Decidable True)
  | .fire ..               => inferInstanceAs (Decidable True)
  | .work ..               => inferInstanceAs (Decidable True)
  | .pushed _              => inferInstanceAs (Decidable True)

/-! ### The invariant -/

/-- A sweep under way is the only one and guarded; a daemon that has been stopped neither sleeps nor
has a timer. -/
structure Consistent (s : State) : Prop where
  unique : ∀ i j, (s.sweeps i).isSome → (s.sweeps j).isSome → i = j
  guarded : ∀ i, (s.sweeps i).isSome → s.isSweeping = true
  sweeping : s.state = .sweeping → s.isSweeping = true
  stopped : s.isStopped = true → s.timer = none ∧ s.state ≠ .sleeping
  scheduled : ∀ wasStopped ∈ s.scheduled, wasStopped = false

variable {s t : State} {distributedWorkers : Bool}

lemma Consistent.scheduleKept (h : Consistent s) : ScheduleKept s := ⟨h.unique, h.scheduled⟩

/-- A daemon that has not been stopped since its last `start` can be scheduled. -/
lemma Consistent.scheduleNext (h : Consistent s)
    (hstopped : s.isStopped = true → s.state = .stopped ∨ s.state = .idle) :
    Consistent s.scheduleNext := by
  rw [State.scheduleNext]
  split_ifs with hstate
  · exact h
  · refine ⟨h.unique, h.guarded, nofun, fun hs => ?_, h.scheduled⟩
    exact absurd (hstopped hs) hstate

lemma Consistent.updateConfig (h : Consistent s) (newConfig : PartialConfig) :
    Consistent (s.updateConfig newConfig) := by
  have hconfig : Consistent (s.withConfig newConfig) :=
    ⟨h.unique, h.guarded, h.sweeping, h.stopped, h.scheduled⟩
  rw [State.updateConfig]
  split_ifs with hsleeping
  · exact hconfig.scheduleNext fun hs => absurd hsleeping (hconfig.stopped hs).2
  · exact hconfig

lemma sweeps_beginSweep (sweep i : ℕ) : (s.beginSweep sweep).sweeps i =
    if i = sweep then some ⟨s.state, .working⟩ else s.sweeps i := Function.update_apply ..

lemma sweeps_resolveSweep (sweep i : ℕ) : (s.resolveSweep sweep).sweeps i =
    if i = sweep then none else s.sweeps i := Function.update_apply ..

/-- A sweep begins while none is under way. -/
lemma Consistent.beginSweep (h : Consistent s) (hfree : s.isSweeping = false) (sweep : ℕ) :
    Consistent (s.beginSweep sweep) := by
  have hnone : ∀ i, ¬ (s.sweeps i).isSome := by
    intro i hi
    rw [h.guarded i hi] at hfree
    cases hfree
  have honly : ∀ i, ((s.beginSweep sweep).sweeps i).isSome → i = sweep := by
    intro i hi
    rw [sweeps_beginSweep] at hi
    split_ifs at hi with hsame
    · exact hsame
    · exact absurd hi (hnone i)
  refine ⟨fun i j hi hj => (honly i hi).trans (honly j hj).symm, fun _ _ => rfl, fun _ => rfl,
    fun hs => ⟨(h.stopped hs).1, nofun⟩, h.scheduled⟩

lemma Consistent.resolveSweep {sweep : ℕ} (h : Consistent s) : Consistent (s.resolveSweep sweep) := by
  have hsome : ∀ i, ((s.resolveSweep sweep).sweeps i).isSome → (s.sweeps i).isSome := by
    intro i hi
    rw [sweeps_resolveSweep] at hi
    split_ifs at hi
    · cases hi
    · exact hi
  exact ⟨fun i j hi hj => h.unique i j (hsome i hi) (hsome j hj), fun i hi => h.guarded i (hsome i hi),
    h.sweeping, h.stopped, h.scheduled⟩

/-- The timer fires only while the daemon has not been stopped. -/
lemma Consistent.fire {callback sweep : ℕ} (h : Consistent s) (hrunning : s.isStopped = false) :
    Consistent (s.fire distributedWorkers callback sweep) := by
  have hfired : Consistent { s with timer := none } :=
    ⟨h.unique, h.guarded, h.sweeping, fun hs => ⟨rfl, (h.stopped hs).2⟩, h.scheduled⟩
  have hlogged : Consistent { s with timer := none, scheduled := s.isStopped :: s.scheduled } := by
    refine ⟨h.unique, h.guarded, h.sweeping, hfired.stopped, fun wasStopped hmem => ?_⟩
    rcases List.mem_cons.mp hmem with rfl | hmem
    · exact hrunning
    · exact h.scheduled wasStopped hmem
  rw [State.fire]
  split_ifs with hdistributed hsweeping
  · exact ⟨h.unique, h.guarded, h.sweeping, hfired.stopped, hlogged.scheduled⟩
  · exact ⟨h.unique, h.guarded, h.sweeping, hfired.stopped, h.scheduled⟩
  · have hbegun := hlogged.beginSweep (by simpa using hsweeping) sweep
    exact ⟨hbegun.unique, hbegun.guarded, hbegun.sweeping, hbegun.stopped, hbegun.scheduled⟩

/-- A sweep writes its log. -/
lemma Consistent.write {sweep : ℕ} {previousState : DaemonState} (h : Consistent s)
    (hsweep : s.sweeps sweep = some ⟨previousState, .working⟩) :
    Consistent { s with
      sweeps := Function.update s.sweeps sweep (some ⟨previousState, .alerting⟩) } := by
  have hsome : ∀ i, (Function.update s.sweeps sweep (some ⟨previousState, .alerting⟩) i).isSome →
      (s.sweeps i).isSome := by
    intro i hi
    rw [Function.update_apply] at hi
    split_ifs at hi with hsame
    · rw [hsame, hsweep]
      rfl
    · exact hi
  exact ⟨fun i j hi hj => h.unique i j (hsome i hi) (hsome j hj),
    fun i hi => h.guarded i (hsome i hi), h.sweeping, h.stopped, h.scheduled⟩

/-- A sweep that has not found a stopped daemon sleeping restores its state. -/
lemma Consistent.endSweep {sweep : ℕ} {previousState : DaemonState} (h : Consistent s)
    (hsweep : s.sweeps sweep = some ⟨previousState, .alerting⟩)
    (hkeeps : s.isStopped = true → previousState ≠ .sleeping) :
    Consistent ({ s with
      state := State.restored previousState
      isSweeping := false }.resolveSweep sweep) := by
  have hnone : ∀ i, ¬ (if i = sweep then none else s.sweeps i).isSome := by
    intro i hi
    split_ifs at hi with hne
    · cases hi
    · exact hne (h.unique i sweep hi (by rw [hsweep]; rfl))
  refine ⟨fun i j hi _ => ?_, fun i hi => ?_, fun hrestored => ?_, fun hs => ⟨(h.stopped hs).1, ?_⟩,
    h.scheduled⟩
  · rw [sweeps_resolveSweep] at hi
    exact absurd hi (hnone i)
  · rw [sweeps_resolveSweep] at hi
    exact absurd hi (hnone i)
  · cases previousState <;> cases hrestored
  · have hprevious := hkeeps hs
    show State.restored previousState ≠ .sleeping
    cases previousState with
    | sleeping => exact absurd rfl hprevious
    | _ => nofun

lemma Consistent.start (h : Consistent s) (config : Option PartialConfig) :
    Consistent { s.start config with isStopped := false } := by
  rw [State.start]
  split_ifs with hstate
  · exact ⟨h.unique, h.guarded, h.sweeping, nofun, h.scheduled⟩
  · have hconfig : ∃ c, (config.map s.updateConfig).getD s = { s with config := c } := by
      cases config with
      | none => exact ⟨s.config, rfl⟩
      | some newConfig => exact ⟨_, if_neg fun hsleeping => hstate (.inr hsleeping)⟩
    obtain ⟨c, hc⟩ := hconfig
    dsimp only
    rw [hc, State.scheduleNext, if_neg (by simp)]
    exact ⟨h.unique, h.guarded, nofun, nofun, h.scheduled⟩

/-- A step that keeps the stop keeps what the schedule promises. -/
lemma Consistent.step {action : Action} (h : Consistent s)
    (hstep : step distributedWorkers s action = some t) (hkeeps : KeepsStop s action t) :
    Consistent t := by
  cases action with
  | tick ms =>
    cases hstep
    exact ⟨h.unique, h.guarded, h.sweeping, h.stopped, h.scheduled⟩
  | start config =>
    cases hstep
    exact h.start config
  | stop =>
    cases hstep
    exact ⟨h.unique, h.guarded, nofun, fun _ => ⟨rfl, nofun⟩, h.scheduled⟩
  | waitForDrain =>
    cases hstep
    exact ⟨h.unique, h.guarded, nofun, fun _ => ⟨rfl, nofun⟩, h.scheduled⟩
  | updateConfig newConfig =>
    cases hstep
    exact h.updateConfig newConfig
  | triggerInstantSweep sweep =>
    rw [DaemonSchedule.step] at hstep
    split_ifs at hstep with hsweeping
    · cases hstep
      exact h
    · cases hstep
      exact h.beginSweep (by simpa using hsweeping) sweep
  | fire callback sweep =>
    rw [DaemonSchedule.step] at hstep
    split_ifs at hstep with hfire
    cases hstep
    have hrunning : s.isStopped = false := by
      by_contra hstopped
      rw [(h.stopped (by simpa using hstopped)).1] at hfire
      exact absurd hfire.2.2 nofun
    exact h.fire hrunning
  | work sweep logThrows =>
    rw [DaemonSchedule.step] at hstep
    split at hstep
    · next previousState hsweep =>
      split_ifs at hstep
      · cases hstep
        exact h.resolveSweep
      · cases hstep
        exact h.write hsweep
    · cases hstep
  | endSweep sweep =>
    rw [DaemonSchedule.step] at hstep
    split at hstep
    · next previousState hsweep =>
      cases hstep
      exact h.endSweep hsweep fun hs => hkeeps hs _ hsweep
    · cases hstep
  | pushed callback =>
    rw [DaemonSchedule.step] at hstep
    split_ifs at hstep
    cases hstep
    exact ⟨h.unique, h.guarded, h.sweeping, h.stopped, h.scheduled⟩
  | endCallback callback =>
    rw [DaemonSchedule.step] at hstep
    split_ifs at hstep with hending
    cases hstep
    have hset : Consistent (s.setCallback callback none) :=
      ⟨h.unique, h.guarded, h.sweeping, h.stopped, h.scheduled⟩
    split_ifs with hstate
    · refine hset.scheduleNext fun hs => ?_
      have hsweeping : s.state ≠ .sweeping := hkeeps hs
      have hsleeping : s.state ≠ .sleeping := (h.stopped hs).2
      show s.state = .stopped ∨ s.state = .idle
      cases hcases : s.state <;> simp_all
    · exact hset

lemma consistent_initial (now : Timestamp) : Consistent (State.initial now) where
  unique _ _ h := by cases h
  guarded _ h := by cases h
  sweeping := nofun
  stopped := nofun
  scheduled _ h := absurd h List.not_mem_nil

/-- A run in which every step keeps the stop keeps what the schedule promises. -/
theorem scheduleKept_of_allSteps (distributedWorkers : Bool) (now : Timestamp) (as : List Action)
    (hall : AllSteps (step distributedWorkers) KeepsStop (State.initial now) as)
    (pre rest : List Action) (t : State) (has : as = pre ++ rest)
    (hrun : Run (step distributedWorkers) (State.initial now) pre t) : ScheduleKept t := by
  rw [has] at hall
  exact (hrun.invariant_of_allSteps (fun s a t h hstep hkeeps => h.step hstep hkeeps) hall.left
    (consistent_initial now)).scheduleKept

/-! ### A stop -/

/-- A scheduled sweep that is over when the daemon is stopped. -/
def stoppedRun : List Action :=
  [.start none, .tick 20000, .fire 0 0, .work 0 false, .endSweep 0, .endCallback 0, .stop,
    .updateConfig ⟨some 60, none⟩, .tick 60000]

/-- The daemon stays stopped. -/
theorem scheduleKept_stopped :
    ∃ t, Run (step false) (State.initial 0) stoppedRun t ∧ ScheduleKept t := by
  obtain ⟨t, hrun, -⟩ := exists_run_of_execute (step false) (State.initial 0) stoppedRun
    (fun _ => true) (by decide +kernel)
  refine ⟨t, hrun, scheduleKept_of_allSteps false 0 stoppedRun ?_ stoppedRun [] t
    (List.append_nil _).symm hrun⟩
  decide +kernel

/-- A scheduled sweep under way when the daemon is stopped. -/
def resumedRun : List Action :=
  [.start none, .tick 20000, .fire 0 0, .stop, .work 0 false, .endSweep 0, .endCallback 0,
    .tick 20000, .fire 1 1]

/-- The sweep's end puts the daemon back to sleep, and another scheduled sweep begins. -/
theorem stop_undone_by_sweep :
    ∃ t, Run (step false) (State.initial 0) resumedRun t ∧ t.isStopped = true ∧
      (t.sweeps 1).isSome ∧ ¬ ScheduleKept t := by
  obtain ⟨t, hrun, ht⟩ := exists_run_of_execute (step false) (State.initial 0) resumedRun
    (fun t => t.isStopped && (t.sweeps 1).isSome && t.scheduled.contains true) (by decide +kernel)
  simp only [Bool.and_eq_true, List.contains_iff_mem] at ht
  refine ⟨t, hrun, ht.1.1, ht.1.2, fun h => ?_⟩
  exact absurd (h.noneAfterStop true ht.2) nofun

end DaemonSchedule

end CtrlRecovery
