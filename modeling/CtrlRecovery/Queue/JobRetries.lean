import CtrlRecovery.Core.Retries
import CtrlRecovery.Queue.Worker

/-!
# The retries of jobs

The jobs that other code pushes are tasks, with `maxAttempts` as their limit. Their live copies are
in the lists of the queue and with the worker, each with its attempts as the number of its
executions. So a step of the worker is a step of `Retries` (`step_retries`), and jobs are lost
exactly where the worker drops a copy too early: an error before the handler runs, or in what tells
the span of the end (`jobsKept_iff`).
-/

namespace CtrlRecovery

open Core

namespace CtrlWorkerProcess

open DistributedJobQueue

variable {α : Type}

/-! ### Jobs as tasks -/

def contents (queue : State α) : Multiset (Queued α) :=
  Queues.contents queue.redis + Queues.contents queue.memoryQueues

/-- A job that is to be executed. -/
def copyOf (origin : ℕ → ℕ) (queued : Queued α) : Retries.Copy ℕ :=
  ⟨origin queued.serial, queued.job.maxAttempts, queued.job.attempts, true⟩

/-- A job that has just been executed. -/
def executedCopy (origin : ℕ → ℕ) (queued : Queued α) : Retries.Copy ℕ :=
  ⟨origin queued.serial, queued.job.maxAttempts, queued.job.attempts + 1, false⟩

/-- The job that the worker is processing. -/
def Phase.copies (origin : ℕ → ℕ) : Phase α → Multiset (Retries.Copy ℕ)
  | .entering queued | .settingTenant queued | .handling queued => {copyOf origin queued}
  | .reporting queued | .leaving queued false => {executedCopy origin queued}
  | .requeueing queued => { { executedCopy origin queued with upcoming := true } }
  | .idle | .popping | .leaving _ true => 0

namespace WorkerState

/-- The live copies: those in the queue and the one of the worker. -/
def live (s : WorkerState α) : Multiset (Retries.Copy ℕ) :=
  (contents s.queue).map (copyOf s.origin) + s.phase.copies s.origin

/-- The jobs that other code has pushed. -/
def submitted (s : WorkerState α) : Set (ℕ × ℕ) :=
  { x | ∃ queued ∈ s.queue.pushed, s.origin queued.serial = queued.serial ∧
    queued.serial = x.1 ∧ queued.job.maxAttempts = x.2 }

/-- The worker as one that executes tasks. -/
def retries (s : WorkerState α) : Retries ℕ := ⟨s.submitted, s.live, s.executions, s.completed⟩

end WorkerState

/-- A job that other code has pushed is executed at most as often as its `maxAttempts`, and it is
complete, or has been executed that often, or is live, with as many attempts as executions. -/
structure Kept (s : WorkerState α) (queued : Queued α) : Prop where
  bounded : s.executions queued.serial ≤ queued.job.maxAttempts
  kept : queued.serial ∈ s.completed ∨
    s.executions queued.serial = queued.job.maxAttempts ∨
    ∃ c ∈ s.live, c.task = queued.serial ∧ c.executions = s.executions queued.serial

/-- Every job that other code has pushed is kept. -/
def JobsKept (s : WorkerState α) : Prop :=
  ∀ queued ∈ s.queue.pushed, s.origin queued.serial = queued.serial → Kept s queued

/-- A job is processed without an error outside its handler, unless it was its last attempt and has
been made. -/
def Spared (engine : DbEngine) (s : WorkerState α) (action : WorkerAction α) : Prop :=
  match action, s.phase with
  | .enters succeeds, _                         => succeeds
  | .setsTenant setLocal, .settingTenant queued =>
    setTenantContext engine queued.job.tenantId setLocal
  | .reports succeeds _, .reporting queued      =>
    succeeds ∨ queued.job.maxAttempts ≤ queued.job.attempts + 1
  | .leaves succeeds, .leaving queued false     =>
    succeeds ∨ queued.job.maxAttempts ≤ queued.job.attempts + 1
  | _, _                                        => True

/-! ### The queue -/

section Queue

variable {queue queue' : State α} {types : List JobType} {call : ℕ} {job : QueueJob α}

lemma contents_lpush : contents (queue.lpush job) = queue.queued job ::ₘ contents queue := by
  rw [contents, State.lpush, Queues.contents_cons, Multiset.cons_add]
  rfl

lemma contents_memoryPush :
    contents (queue.memoryPush job) = queue.queued job ::ₘ contents queue := by
  rw [contents, State.memoryPush, Queues.contents_concat, Multiset.add_cons]
  rfl

/-- The queue has gone on without a push or an answer. -/
structure Unmoved (queue queue' : State α) : Prop where
  contents : contents queue' = contents queue
  pushed : queue'.pushed = queue.pushed

/-- A job has been pushed. -/
structure Pushed (queue queue' : State α) (job : QueueJob α) : Prop where
  contents : CtrlWorkerProcess.contents queue' =
    queue.queued job ::ₘ CtrlWorkerProcess.contents queue
  pushed : queue'.pushed = queue.queued job :: queue.pushed

/-- A job has been returned. -/
structure Popped (queue queue' : State α) (queued : Queued α) : Prop where
  contents : CtrlWorkerProcess.contents queue =
    queued ::ₘ CtrlWorkerProcess.contents queue'
  pushed : queue'.pushed = queue.pushed
  answer : queue'.answers.head? = some (.job queued)

lemma pushed_lpush : Pushed queue (queue.lpush job) job := ⟨contents_lpush, rfl⟩

lemma pushed_memoryPush : Pushed queue (queue.memoryPush job) job := ⟨contents_memoryPush, rfl⟩

lemma Pushed.finish (h : Pushed queue queue' job) (call : ℕ) :
    Pushed queue (queue'.finish call) job :=
  ⟨h.contents, h.pushed⟩

lemma popped_brpop (h : queue.brpop types = some queue') :
    ∃ queued, Popped queue queue' queued ∧ queue'.waiting = queue.waiting := by
  obtain ⟨type, queued, rest, hqueue, rfl⟩ := of_brpop h
  refine ⟨queued, ⟨?_, rfl, rfl⟩, rfl⟩
  rw [contents, Queues.contents_of_concat hqueue, Multiset.cons_add]
  rfl

lemma popped_memoryPop (h : queue.memoryPop types = some queue') :
    ∃ queued, Popped queue queue' queued ∧ queue'.waiting = queue.waiting := by
  obtain ⟨type, queued, rest, hqueue, rfl⟩ := of_memoryPop h
  refine ⟨queued, ⟨?_, rfl, rfl⟩, rfl⟩
  rw [contents, Queues.contents_of_cons hqueue, Multiset.add_cons]
  rfl

@[simp] lemma waiting_suspend_self (queue : State α) (call : ℕ) (w : Waiting α) :
    (queue.suspend call w).waiting call = some w :=
  Function.update_self ..

@[simp] lemma waiting_finish_self (queue : State α) (call : ℕ) :
    (queue.finish call).waiting call = none :=
  Function.update_self ..

def IsPop : Waiting α → Prop
  | .pushing _                  => False
  | .popping _ _ | .pausing _ _ => True

def IsFirstPush (w : Waiting α) : Prop :=
  ∃ job, w = .pushing job ∧ job.attempts = 0 ∧ 0 < job.maxAttempts

/-- Other calls wait for the push of a job that has not been attempted. -/
def OutsideCalls (queue : State α) : Prop :=
  ∀ call ≠ ownCall, ∀ w, queue.waiting call = some w → IsFirstPush w

/-- What a pop of the worker comes to. -/
inductive PopOutcome (queue queue' : State α) : Prop
  | waits (w : Waiting α) (hunmoved : Unmoved queue queue') (hpop : IsPop w)
      (hw : queue'.waiting ownCall = some w)
  | returns (queued : Queued α) (hpopped : Popped queue queue' queued)
      (hw : queue'.waiting ownCall = none)
  | nothing (types : List JobType) (connected : Bool) (hunmoved : Unmoved queue queue')
      (hanswer : queue'.answers.head? = some (.null types connected))
      (hw : queue'.waiting ownCall = none)

lemma OutsideCalls.update (h : OutsideCalls queue) {waiting : Option (Waiting α)}
    (hwaiting : queue'.waiting = Function.update queue.waiting call waiting)
    (hnew : call = ownCall ∨ ∀ w ∈ waiting, IsFirstPush w) : OutsideCalls queue' := by
  intro call' hcall' w hw
  rw [hwaiting] at hw
  by_cases hsame : call' = call
  · subst hsame
    rw [Function.update_self] at hw
    exact hnew.resolve_left hcall' w hw
  · rw [Function.update_of_ne hsame] at hw
    exact h call' hcall' w hw

lemma maxAttempts_fullJob_pos (request : JobRequest α) (stamp : JobStamp) :
    0 < (fullJob request stamp).maxAttempts := by
  show 0 < (request.maxAttempts.filter (· ≠ 0)).getD 3
  cases hmax : request.maxAttempts.filter (· ≠ 0) with
  | none => exact Nat.succ_pos 2
  | some max => exact Nat.pos_of_ne_zero (of_decide_eq_true (Option.filter_eq_some_iff.mp hmax).2)

/-- Other code pushes jobs that have not been attempted, and the call of the worker is its own. -/
lemma outside_step {action : Action α} (h : OutsideCalls queue) (houtside : isOutside action)
    (hstep : step queue action = some queue') :
    OutsideCalls queue' ∧ queue'.waiting ownCall = queue.waiting ownCall ∧
      (Unmoved queue queue' ∨
        ∃ job, job.attempts = 0 ∧ 0 < job.maxAttempts ∧ Pushed queue queue' job) := by
  cases action with
  | connect => cases hstep; exact ⟨h, rfl, .inl ⟨rfl, rfl⟩⟩
  | error => cases hstep; exact ⟨h, rfl, .inl ⟨rfl, rfl⟩⟩
  | push call request stamp =>
    obtain ⟨hcall, hattempts⟩ : call ≠ ownCall ∧ request.attempts = none := by
      simpa [isOutside] using houtside
    obtain ⟨hfree, ⟨⟩⟩ := Option.ite_none_right_eq_some.mp hstep
    have hjob : (fullJob request stamp).attempts = 0 := by simp [fullJob, hattempts]
    have hpos := maxAttempts_fullJob_pos request stamp
    rw [State.push]
    split_ifs with hconnected
    · refine ⟨h.update rfl (.inr fun w hw => ?_), Function.update_of_ne hcall.symm ..,
        .inl ⟨rfl, rfl⟩⟩
      exact ⟨_, (Option.some.inj hw).symm, hjob, hpos⟩
    · exact ⟨h, rfl, .inr ⟨_, hjob, hpos, pushed_memoryPush⟩⟩
  | reply call =>
    have hcall : call ≠ ownCall := by simpa [isOutside] using houtside
    cases hw : queue.waiting call with
    | none => simp [step, hw] at hstep
    | some w =>
      obtain ⟨job, rfl, hjob⟩ := h call hcall w hw
      obtain rfl : (queue.lpush job).finish call = queue' := by simpa [step, hw] using hstep
      exact ⟨h.update rfl (.inr fun w hw => (by cases hw)), Function.update_of_ne hcall.symm ..,
        .inr ⟨job, hjob.1, hjob.2, pushed_lpush.finish call⟩⟩
  | fail call =>
    have hcall : call ≠ ownCall := by simpa [isOutside] using houtside
    cases hw : queue.waiting call with
    | none => simp [step, hw] at hstep
    | some w =>
      obtain ⟨job, rfl, hjob⟩ := h call hcall w hw
      obtain rfl : (queue.memoryPush job).finish call = queue' := by simpa [step, hw] using hstep
      exact ⟨h.update rfl (.inr fun w hw => (by cases hw)), Function.update_of_ne hcall.symm ..,
        .inr ⟨job, hjob.1, hjob.2, pushed_memoryPush.finish call⟩⟩
  | retry call job stamp => cases houtside
  | pop call types timeoutSeconds => cases houtside
  | timeout call => cases houtside
  | resume call => cases houtside

lemma Popped.outcome {queued : Queued α} (h : OutsideCalls queue)
    (hpopped : Popped queue queue' queued) (hwaiting : queue'.waiting = queue.waiting) :
    OutsideCalls (queue'.finish ownCall) ∧ PopOutcome queue (queue'.finish ownCall) := by
  have hfinish : (queue'.finish ownCall).waiting = Function.update queue.waiting ownCall none := by
    rw [← hwaiting]
    rfl
  exact ⟨h.update hfinish (.inl rfl),
    .returns queued ⟨hpopped.contents, hpopped.pushed, hpopped.answer⟩ (waiting_finish_self ..)⟩

lemma nothing_outcome {connected : Bool} (h : OutsideCalls queue) :
    OutsideCalls ((queue.answer (.null types connected)).finish ownCall) ∧
      PopOutcome queue ((queue.answer (.null types connected)).finish ownCall) :=
  ⟨h.update rfl (.inl rfl), .nothing types connected ⟨rfl, rfl⟩ rfl (waiting_finish_self ..)⟩

/-- A pop goes on with the lists in memory. -/
lemma popMemory_outcome {timeoutSeconds : ℕ} {connected : Bool} (h : OutsideCalls queue) :
    OutsideCalls (queue.popMemory ownCall types timeoutSeconds connected) ∧
      PopOutcome queue (queue.popMemory ownCall types timeoutSeconds connected) := by
  rw [State.popMemory]
  cases hpop : queue.memoryPop types with
  | some queue' =>
    obtain ⟨queued, hpopped, hwaiting⟩ := popped_memoryPop hpop
    exact hpopped.outcome h hwaiting
  | none =>
    dsimp only
    split_ifs with htimeout
    · exact ⟨h.update rfl (.inl rfl), .waits (.pausing types connected) ⟨rfl, rfl⟩ trivial
        (waiting_suspend_self ..)⟩
    · exact nothing_outcome h

lemma pop_outcome {timeoutSeconds : ℕ} (h : OutsideCalls queue)
    (hstep : step queue (.pop ownCall types timeoutSeconds) = some queue') :
    OutsideCalls queue' ∧ PopOutcome queue queue' := by
  obtain ⟨-, ⟨⟩⟩ := Option.ite_none_right_eq_some.mp hstep
  rw [State.pop]
  split_ifs with hconnected
  · exact ⟨h.update rfl (.inl rfl), .waits (.popping types timeoutSeconds) ⟨rfl, rfl⟩ trivial
      (waiting_suspend_self ..)⟩
  · exact popMemory_outcome h

/-- The pop that the worker waits for goes on. -/
lemma awaited_pop_outcome {action : Action α} {w : Waiting α} (h : OutsideCalls queue)
    (hawaited : isAwaited action) (hw : queue.waiting ownCall = some w) (hpop : IsPop w)
    (hstep : step queue action = some queue') : OutsideCalls queue' ∧ PopOutcome queue queue' := by
  cases action with
  | reply call =>
    obtain rfl := of_decide_eq_true hawaited
    cases w with
    | pushing job => cases hpop
    | popping types timeoutSeconds =>
      simp only [step, hw] at hstep
      obtain ⟨queue₁, hbrpop, rfl⟩ := Option.map_eq_some_iff.mp hstep
      obtain ⟨queued, hpopped, hwaiting⟩ := popped_brpop hbrpop
      exact hpopped.outcome h hwaiting
    | pausing types connected => simp [step, hw] at hstep
  | timeout call =>
    obtain rfl := of_decide_eq_true hawaited
    cases w with
    | pushing job => cases hpop
    | popping types timeoutSeconds =>
      simp only [step, hw] at hstep
      obtain ⟨-, ⟨⟩⟩ := Option.ite_none_right_eq_some.mp hstep
      exact nothing_outcome h
    | pausing types connected => simp [step, hw] at hstep
  | fail call =>
    obtain rfl := of_decide_eq_true hawaited
    cases w with
    | pushing job => cases hpop
    | popping types timeoutSeconds =>
      simp only [step, hw, Option.some.injEq] at hstep
      subst hstep
      exact popMemory_outcome h
    | pausing types connected => simp [step, hw] at hstep
  | resume call =>
    obtain rfl := of_decide_eq_true hawaited
    cases w with
    | pushing job => cases hpop
    | popping types timeoutSeconds => simp [step, hw] at hstep
    | pausing types connected =>
      simp only [step, hw] at hstep
      cases hmemory : queue.memoryPop types with
      | some queue₁ =>
        simp only [hmemory, Option.some.injEq] at hstep
        subst hstep
        obtain ⟨queued, hpopped, hwaiting⟩ := popped_memoryPop hmemory
        exact hpopped.outcome h hwaiting
      | none =>
        simp only [hmemory, Option.some.injEq] at hstep
        subst hstep
        exact nothing_outcome h
  | connect => cases hawaited
  | error => cases hawaited
  | push call request stamp => cases hawaited
  | retry call job stamp => cases hawaited
  | pop call types timeoutSeconds => cases hawaited

/-- The push that the worker waits for is performed, in one store or the other. -/
lemma awaited_push {action : Action α} (h : OutsideCalls queue) (hawaited : isAwaited action)
    (hw : queue.waiting ownCall = some (.pushing job)) (hstep : step queue action = some queue') :
    OutsideCalls queue' ∧ queue'.waiting ownCall = none ∧ Pushed queue queue' job := by
  cases action with
  | reply call =>
    obtain rfl := of_decide_eq_true hawaited
    simp only [step, hw, Option.some.injEq] at hstep
    subst hstep
    exact ⟨h.update rfl (.inl rfl), waiting_finish_self .., pushed_lpush.finish _⟩
  | fail call =>
    obtain rfl := of_decide_eq_true hawaited
    simp only [step, hw, Option.some.injEq] at hstep
    subst hstep
    exact ⟨h.update rfl (.inl rfl), waiting_finish_self .., pushed_memoryPush.finish _⟩
  | timeout call =>
    obtain rfl := of_decide_eq_true hawaited
    simp [step, hw] at hstep
  | resume call =>
    obtain rfl := of_decide_eq_true hawaited
    simp [step, hw] at hstep
  | connect => cases hawaited
  | error => cases hawaited
  | push call request stamp => cases hawaited
  | retry call job stamp => cases hawaited
  | pop call types timeoutSeconds => cases hawaited

/-- `retry` waits for its push while Redis is connected, and otherwise pushes at once. -/
lemma retry_push {request : JobRequest α} {stamp : JobStamp} (h : OutsideCalls queue)
    (hrequest : retryRequest job = some request)
    (hstep : step queue (.retry ownCall job stamp) = some queue') :
    OutsideCalls queue' ∧
      (Unmoved queue queue' ∧
          queue'.waiting ownCall = some (.pushing (fullJob request stamp)) ∨
        queue'.waiting ownCall = none ∧ Pushed queue queue' (fullJob request stamp)) := by
  simp only [step, hrequest] at hstep
  obtain ⟨hfree, ⟨⟩⟩ := Option.ite_none_right_eq_some.mp hstep
  rw [State.push]
  split_ifs with hconnected
  · exact ⟨h.update rfl (.inl rfl), .inl ⟨⟨rfl, rfl⟩, waiting_suspend_self ..⟩⟩
  · exact ⟨h, .inr ⟨Option.isNone_iff_eq_none.mp hfree, pushed_memoryPush⟩⟩

/-- What `retry` pushes has one attempt more, and the same limit. -/
lemma fullJob_retryRequest {request : JobRequest α} (hrequest : retryRequest job = some request)
    (stamp : JobStamp) :
    (fullJob request stamp).attempts = job.attempts + 1 ∧
      (fullJob request stamp).maxAttempts = job.maxAttempts ∧
        job.attempts + 1 < job.maxAttempts := by
  rw [retryRequest] at hrequest
  obtain ⟨hlimit, ⟨⟩⟩ := Option.ite_none_left_eq_some.mp hrequest
  have hpos : job.maxAttempts ≠ 0 := by omega
  exact ⟨rfl, by simp [fullJob, Option.filter, hpos], by omega⟩

end Queue

/-! ### Steps -/

/-- What the worker waits for in its phase. -/
def Phase.Awaits (queue : State α) : Phase α → Prop
  | .popping           => ∃ w, queue.waiting ownCall = some w ∧ IsPop w
  | .requeueing queued =>
    ∃ job, queue.waiting ownCall = some (.pushing job) ∧
      job.attempts = queued.job.attempts + 1 ∧ job.maxAttempts = queued.job.maxAttempts
  | _                  => queue.waiting ownCall = none

/-- The queue and the worker go together, and the numbers of later pushes are their own origins. -/
structure Consistent (s : WorkerState α) : Prop where
  conserved : Conserved s.queue
  outside : OutsideCalls s.queue
  awaits : s.phase.Awaits s.queue
  origin : ∀ serial, s.queue.pushed.length ≤ serial → s.origin serial = serial

section Steps

variable {s t : WorkerState α} {queue : State α} {phase : Phase α} {queued : Queued α}
  {job : QueueJob α}

lemma serial_lt (h : Conserved s.queue) (hmem : queued ∈ contents s.queue) :
    queued.serial < s.queue.pushed.length := by
  refine h.serial_lt queued (Multiset.mem_coe.mp ?_)
  rw [h.balance]
  exact Multiset.mem_add.mpr (.inl hmem)

lemma retries_congr (hsubmitted : t.submitted = s.submitted) (hlive : t.live = s.live)
    (hexecutions : t.executions = s.executions) (hcompleted : t.completed = s.completed) :
    t.retries = s.retries := by
  rw [WorkerState.retries, hsubmitted, hlive, hexecutions, hcompleted]
  rfl

lemma submitted_congr (hpushed : t.queue.pushed = s.queue.pushed) (horigin : t.origin = s.origin) :
    t.submitted = s.submitted := by
  rw [WorkerState.submitted, hpushed, horigin]
  rfl

lemma retries_unmoved (h : Unmoved s.queue queue)
    (hphase : phase.copies s.origin = s.phase.copies s.origin) :
    WorkerState.retries { s with queue, phase } = s.retries := by
  refine retries_congr (submitted_congr h.pushed rfl) ?_ rfl rfl
  show (contents queue).map _ + phase.copies s.origin = _
  rw [h.contents, hphase]
  rfl

lemma retries_same_phase (hphase : phase.copies s.origin = s.phase.copies s.origin) :
    WorkerState.retries { s with phase } = s.retries :=
  retries_unmoved ⟨rfl, rfl⟩ hphase

lemma retries_popped (h : Popped s.queue queue queued) (hphase : s.phase.copies s.origin = 0) :
    WorkerState.retries { s with queue, phase := .entering queued } = s.retries := by
  refine retries_congr (submitted_congr h.pushed rfl) ?_ rfl rfl
  show (contents queue).map _ + {copyOf s.origin queued} = (contents s.queue).map _ + _
  rw [h.contents, hphase, Multiset.map_cons, add_zero, add_comm, Multiset.singleton_add]

/-- A push of other code submits a task. -/
lemma retries_pushed (h : Consistent s) (hpushed : Pushed s.queue queue job)
    (hjob : job.attempts = 0) :
    WorkerState.retries { s with queue } =
      { s.retries with
        submitted := insert (s.queue.pushed.length, job.maxAttempts) s.retries.submitted
        live := ⟨s.queue.pushed.length, job.maxAttempts, 0, true⟩ ::ₘ s.retries.live } := by
  have horigin := h.origin _ le_rfl
  have hsubmitted : WorkerState.submitted { s with queue } =
      insert (s.queue.pushed.length, job.maxAttempts) s.submitted := by
    ext x
    simp only [WorkerState.submitted, hpushed.pushed, List.mem_cons, exists_eq_or_imp,
      Set.mem_ofPred_eq, Set.mem_insert_iff, Prod.ext_iff]
    refine or_congr_left ?_
    have hserial : (s.queue.queued job).serial = s.queue.pushed.length := rfl
    rw [hserial, and_iff_right horigin]
    exact and_congr eq_comm eq_comm
  have hlive : WorkerState.live { s with queue } =
      ⟨s.queue.pushed.length, job.maxAttempts, 0, true⟩ ::ₘ s.live := by
    show (contents queue).map _ + _ = _
    rw [hpushed.contents, Multiset.map_cons, Multiset.cons_add]
    refine congrArg (· ::ₘ _) ?_
    rw [copyOf]
    exact congrArg₂ (Retries.Copy.mk · job.maxAttempts · true) horigin hjob
  rw [WorkerState.retries, hsubmitted, hlive]
  rfl

/-- A retried job that is pushed is not a new task. -/
lemma retries_repushed (h : Conserved s.queue) (hpushed : Pushed s.queue queue job)
    (hphase : s.phase = .requeueing queued) (hattempts : job.attempts = queued.job.attempts + 1)
    (hmax : job.maxAttempts = queued.job.maxAttempts)
    (horigin : s.origin queued.serial < s.queue.pushed.length) :
    WorkerState.retries
        { s with
          queue
          phase := .leaving queued true
          origin := Function.update s.origin s.queue.pushed.length (s.origin queued.serial) } =
      s.retries := by
  refine retries_congr ?_ ?_ rfl rfl
  · ext x
    simp only [WorkerState.submitted, hpushed.pushed, List.mem_cons, exists_eq_or_imp,
      Set.mem_ofPred_eq]
    have hnew : Function.update s.origin s.queue.pushed.length (s.origin queued.serial)
        (s.queue.queued job).serial ≠ (s.queue.queued job).serial := by
      rw [State.queued, Function.update_self]
      exact horigin.ne
    rw [or_iff_right fun hx => hnew hx.1]
    refine exists_congr fun other => and_congr_right fun hmem => ?_
    rw [Function.update_of_ne (h.serial_lt other hmem).ne]
  · have hold : (contents s.queue).map
        (copyOf (Function.update s.origin s.queue.pushed.length (s.origin queued.serial))) =
          (contents s.queue).map (copyOf s.origin) := by
      refine Multiset.map_congr rfl fun other hmem => ?_
      rw [copyOf, copyOf, Function.update_of_ne (serial_lt h hmem).ne]
    have hnew : copyOf
        (Function.update s.origin s.queue.pushed.length (s.origin queued.serial))
        (s.queue.queued job) =
          { executedCopy s.origin queued with upcoming := true } := by
      rw [copyOf, State.queued, Function.update_self, hattempts, hmax]
      rfl
    show (contents queue).map _ + 0 = (contents s.queue).map _ + _
    rw [hpushed.contents, Multiset.map_cons, add_zero, hphase, hold, hnew, Phase.copies]
    exact (Multiset.singleton_add _ _).symm.trans (add_comm _ _)

def WorkerState.queuedCopies (s : WorkerState α) : Multiset (Retries.Copy ℕ) :=
  (contents s.queue).map (copyOf s.origin)

lemma live_cons {c : Retries.Copy ℕ} (hphase : s.phase.copies s.origin = {c}) :
    s.retries.live = c ::ₘ s.queuedCopies := by
  show (contents s.queue).map _ + s.phase.copies s.origin = _
  rw [hphase, add_comm, Multiset.singleton_add]
  rfl

lemma retries_phase {c : Multiset (Retries.Copy ℕ)} (hphase : phase.copies s.origin = c) :
    WorkerState.retries { s with phase } = { s.retries with live := c + s.queuedCopies } := by
  have hlive : WorkerState.live { s with phase } = c + s.queuedCopies := by
    show (contents s.queue).map _ + phase.copies s.origin = _
    rw [hphase, add_comm]
    rfl
  rw [WorkerState.retries, hlive]
  rfl

lemma retries_execute (hphase : phase.copies s.origin = {executedCopy s.origin queued}) :
    WorkerState.retries { s.execute queued with phase } =
      { s.retries with
        live := executedCopy s.origin queued ::ₘ s.queuedCopies
        executions := (s.execute queued).executions } := by
  have hlive : WorkerState.live { s.execute queued with phase } =
      executedCopy s.origin queued ::ₘ s.queuedCopies := by
    show (contents s.queue).map _ + phase.copies s.origin = _
    rw [hphase, add_comm, Multiset.singleton_add]
    rfl
  rw [WorkerState.retries, hlive]
  rfl

/-- What a pop of the worker comes to leaves the tasks as they are. -/
lemma afterPop_retries (h : Consistent s) (hphase : s.phase.copies s.origin = 0)
    (hconserved : Conserved queue) (houtside : OutsideCalls queue)
    (houtcome : PopOutcome s.queue queue) :
    Consistent (s.afterPop queue) ∧ (s.afterPop queue).retries = s.retries := by
  rw [WorkerState.afterPop]
  cases houtcome with
  | waits w hunmoved hpop hw =>
    rw [hw, Option.isSome_some, if_pos rfl]
    exact ⟨⟨hconserved, houtside, ⟨w, hw, hpop⟩, hunmoved.pushed ▸ h.origin⟩,
      retries_unmoved hunmoved hphase.symm⟩
  | returns queued hpopped hw =>
    rw [hw, Option.isSome_none, if_neg Bool.false_ne_true, hpopped.answer]
    exact ⟨⟨hconserved, houtside, hw, hpopped.pushed ▸ h.origin⟩, retries_popped hpopped hphase⟩
  | nothing types connected hunmoved hanswer hw =>
    rw [hw, Option.isSome_none, if_neg Bool.false_ne_true, hanswer]
    exact ⟨⟨hconserved, houtside, hw, hunmoved.pushed ▸ h.origin⟩,
      retries_unmoved hunmoved hphase.symm⟩

/-- The push of a retried job leaves the tasks as they are. -/
lemma afterRetry_retries (h : Conserved s.queue)
    (horigins : ∀ serial, s.queue.pushed.length ≤ serial → s.origin serial = serial)
    (hphase : s.phase = .requeueing queued) (hconserved : Conserved queue)
    (houtside : OutsideCalls queue)
    (hw : queue.waiting ownCall = none) (hpushed : Pushed s.queue queue job)
    (hattempts : job.attempts = queued.job.attempts + 1)
    (hmax : job.maxAttempts = queued.job.maxAttempts)
    (horigin : s.origin queued.serial < s.queue.pushed.length) :
    Consistent (s.afterRetry queued queue) ∧ (s.afterRetry queued queue).retries = s.retries := by
  rw [WorkerState.afterRetry, hw, Option.isSome_none, if_neg Bool.false_ne_true]
  refine ⟨⟨hconserved, houtside, hw, fun serial hserial => ?_⟩,
    retries_repushed h hpushed hphase hattempts hmax horigin⟩
  have hlength : s.queue.pushed.length < serial := by
    simpa [hpushed.pushed, Nat.succ_le_iff] using hserial
  show Function.update s.origin _ _ serial = serial
  rw [Function.update_of_ne hlength.ne']
  exact horigins serial hlength.le

lemma origin_lt (htracked : s.retries.Tracked) {c : Retries.Copy ℕ} (hc : c ∈ s.retries.live)
    (h : Conserved s.queue) : c.task < s.queue.pushed.length := by
  obtain ⟨queued, hmem, -, hserial, -⟩ := ((htracked.right c hc).limit c.limit).mpr rfl
  exact (h.serial_lt queued hmem).trans_eq' hserial

lemma step_drop {c : Retries.Copy ℕ} (hcopies : s.phase.copies s.origin = {c})
    (hphase : phase.copies s.origin = 0) :
    Retries.Step s.retries (c.executions = c.limit) (WorkerState.retries { s with phase }) := by
  rw [retries_phase hphase, zero_add]
  exact .drop (live_cons hcopies)

lemma room (htracked : s.retries.Tracked) {c : Retries.Copy ℕ}
    (hcopies : s.phase.copies s.origin = {c}) : c.executions + c.upcoming.toNat ≤ c.limit :=
  (htracked.right_head (live_cons hcopies)).room

/-- The step is one of the tasks, and loses none exactly when it spares the job of the worker. -/
abbrev StepTallies (engine : DbEngine) (s : WorkerState α) (action : WorkerAction α)
    (t : WorkerState α) : Prop :=
  Consistent t ∧ ∃ p, Retries.Step s.retries p t.retries ∧ (p ↔ Spared engine s action)

variable {engine : DbEngine}

/-- The worker drops a job that has an attempt left. -/
lemma stepTallies_lose {action : WorkerAction α} (h : Consistent s) (htracked : s.retries.Tracked)
    (hphase : s.phase.copies s.origin = {copyOf s.origin queued})
    (hw : s.queue.waiting ownCall = none) (hspared : ¬ Spared engine s action) :
    StepTallies engine s action { s with phase := .idle } := by
  have hroom : queued.job.attempts + 1 ≤ queued.job.maxAttempts := room htracked hphase
  refine ⟨⟨h.conserved, h.outside, hw, h.origin⟩, _, step_drop hphase rfl,
    iff_of_false (fun heq => ?_) hspared⟩
  have heq : queued.job.attempts = queued.job.maxAttempts := heq
  omega

lemma stepTallies_stay {action : WorkerAction α} (h : Consistent t)
    (hretries : t.retries = s.retries) (hspared : Spared engine s action) :
    StepTallies engine s action t :=
  ⟨h, True, hretries ▸ .stay, (true_iff _).mpr hspared⟩

lemma stepTallies_outside {action : Action α} (h : Consistent s)
    (hstep : workerStep engine s (.outside action) = some t) :
    StepTallies engine s (.outside action) t := by
  obtain ⟨houtside, hmap⟩ := Option.ite_none_right_eq_some.mp hstep
  obtain ⟨queue, hqueue, rfl⟩ := Option.map_eq_some_iff.mp hmap
  have hconserved := conserved_effect h.conserved (effect_step hqueue)
  obtain ⟨hcalls, hown, hmoved⟩ := outside_step h.outside houtside hqueue
  have hawaits : s.phase.Awaits queue := by
    have hawaits := h.awaits
    cases hphase : s.phase <;> simpa [hphase, Phase.Awaits, hown] using hawaits
  obtain hunmoved | ⟨job, hattempts, hmax, hpushed⟩ := hmoved
  · exact stepTallies_stay ⟨hconserved, hcalls, hawaits, hunmoved.pushed ▸ h.origin⟩
      (retries_unmoved hunmoved rfl) trivial
  · refine ⟨⟨hconserved, hcalls, hawaits, fun serial hserial => h.origin serial ?_⟩, True, ?_,
      (true_iff _).mpr trivial⟩
    · exact (Nat.le_succ _).trans (by simpa [hpushed.pushed] using hserial)
    · rw [retries_pushed h hpushed hattempts]
      refine .submit _ _ (fun l hl => ?_) hmax
      obtain ⟨queued, hmem, -, hserial, -⟩ := hl
      exact absurd hserial (h.conserved.serial_lt queued hmem).ne

lemma stepTallies_pop (h : Consistent s)
    (hstep : workerStep engine s .pop = some t) : StepTallies engine s .pop t := by
  simp only [workerStep] at hstep
  split at hstep
  next hphase =>
    obtain ⟨queue, hqueue, rfl⟩ := Option.map_eq_some_iff.mp hstep
    obtain ⟨hcalls, houtcome⟩ := pop_outcome h.outside hqueue
    have hcopies : s.phase.copies s.origin = 0 := by rw [hphase, Phase.copies]
    obtain ⟨hnext, hretries⟩ := afterPop_retries h hcopies
      (conserved_effect h.conserved (effect_step hqueue)) hcalls houtcome
    exact stepTallies_stay hnext hretries trivial
  next => cases hstep

lemma stepTallies_awaited {action : Action α} (h : Consistent s)
    (htracked : s.retries.Tracked) (hstep : workerStep engine s (.awaited action) = some t) :
    StepTallies engine s (.awaited action) t := by
  obtain ⟨hawaited, hmatch⟩ := Option.ite_none_right_eq_some.mp hstep
  have hawaits := h.awaits
  split at hmatch
  next hphase =>
    obtain ⟨queue, hqueue, rfl⟩ := Option.map_eq_some_iff.mp hmatch
    rw [hphase] at hawaits
    obtain ⟨w, hw, hpop⟩ := hawaits
    obtain ⟨hcalls, houtcome⟩ := awaited_pop_outcome h.outside hawaited hw hpop hqueue
    have hcopies : s.phase.copies s.origin = 0 := by rw [hphase, Phase.copies]
    obtain ⟨hnext, hretries⟩ := afterPop_retries h hcopies
      (conserved_effect h.conserved (effect_step hqueue)) hcalls houtcome
    exact stepTallies_stay hnext hretries trivial
  next queued hphase =>
    obtain ⟨queue, hqueue, rfl⟩ := Option.map_eq_some_iff.mp hmatch
    rw [hphase] at hawaits
    obtain ⟨job, hw, hattempts, hmax⟩ := hawaits
    obtain ⟨hcalls, hdone, hpushed⟩ := awaited_push h.outside hawaited hw hqueue
    have hlive := live_cons (s := s) (by rw [hphase, Phase.copies])
    have horigin := origin_lt htracked (hlive ▸ Multiset.mem_cons_self ..) h.conserved
    obtain ⟨hnext, hretries⟩ := afterRetry_retries h.conserved h.origin hphase
      (conserved_effect h.conserved (effect_step hqueue)) hcalls hdone hpushed hattempts hmax
      horigin
    exact stepTallies_stay hnext hretries trivial
  next => cases hmatch

lemma stepTallies_enters {succeeds : Bool} (h : Consistent s)
    (htracked : s.retries.Tracked) (hstep : workerStep engine s (.enters succeeds) = some t) :
    StepTallies engine s (.enters succeeds) t := by
  simp only [workerStep] at hstep
  split at hstep
  next queued hphase =>
    have hw : s.queue.waiting ownCall = none := by
      simpa only [hphase, Phase.Awaits] using h.awaits
    have hcopies : s.phase.copies s.origin = {copyOf s.origin queued} := by
      rw [hphase, Phase.copies]
    cases succeeds with
    | true =>
      cases hstep
      exact stepTallies_stay ⟨h.conserved, h.outside, hw, h.origin⟩
        (retries_same_phase hcopies.symm) rfl
    | false =>
      cases hstep
      exact stepTallies_lose h htracked hcopies hw Bool.false_ne_true
  next => cases hstep

lemma stepTallies_setsTenant {setLocal : Bool} (h : Consistent s)
    (htracked : s.retries.Tracked) (hstep : workerStep engine s (.setsTenant setLocal) = some t) :
    StepTallies engine s (.setsTenant setLocal) t := by
  simp only [workerStep] at hstep
  split at hstep
  next queued hphase =>
    have hw : s.queue.waiting ownCall = none := by
      simpa only [hphase, Phase.Awaits] using h.awaits
    have hcopies : s.phase.copies s.origin = {copyOf s.origin queued} := by
      rw [hphase, Phase.copies]
    have hspared : Spared engine s (.setsTenant setLocal) ↔
        setTenantContext engine queued.job.tenantId setLocal := by
      simp only [Spared, hphase]
    cases hset : setTenantContext engine queued.job.tenantId setLocal with
    | true =>
      rw [hset] at hstep hspared
      cases hstep
      exact stepTallies_stay ⟨h.conserved, h.outside, hw, h.origin⟩
        (retries_same_phase hcopies.symm) (hspared.mpr rfl)
    | false =>
      rw [hset] at hstep hspared
      cases hstep
      exact stepTallies_lose h htracked hcopies hw fun hs => Bool.false_ne_true (hspared.mp hs)
  next => cases hstep

lemma stepTallies_handles {succeeds : Bool} (h : Consistent s)
    (hstep : workerStep engine s (.handles succeeds) = some t) :
    StepTallies engine s (.handles succeeds) t := by
  simp only [workerStep] at hstep
  split at hstep
  next queued hphase =>
    have hw : s.queue.waiting ownCall = none := by
      simpa only [hphase, Phase.Awaits] using h.awaits
    have hcopies : s.phase.copies s.origin = {copyOf s.origin queued} := by
      rw [hphase, Phase.copies]
    cases hstep
    refine ⟨⟨h.conserved, h.outside, ?_, h.origin⟩, True, ?_, (true_iff _).mpr trivial⟩
    · cases succeeds <;> exact hw
    · have hexecuted := Retries.Step.execute (live_cons hcopies) rfl
      cases succeeds with
      | true =>
        show Retries.Step _ _
          (WorkerState.retries { s.execute queued with phase := .leaving queued false })
        rw [retries_execute rfl]
        exact hexecuted
      | false =>
        show Retries.Step _ _
          (WorkerState.retries { s.execute queued with phase := .reporting queued })
        rw [retries_execute rfl]
        exact hexecuted
  next => cases hstep

/-- A job that is pushed once more, at once or after the connection has answered. -/
lemma stepTallies_retry {stamp : JobStamp} {request : JobRequest α} (h : Consistent s)
    (htracked : s.retries.Tracked) (hphase : s.phase = .reporting queued)
    (hrequest : retryRequest queued.job = some request)
    (hqueue : step s.queue (.retry ownCall queued.job stamp) = some queue)
    (hsure : Spared engine s (.reports true stamp)) :
    StepTallies engine s (.reports true stamp) (s.afterRetry queued queue) := by
  have hcopies : s.phase.copies s.origin = {executedCopy s.origin queued} := by
    rw [hphase, Phase.copies]
  have hconserved := conserved_effect h.conserved (effect_step hqueue)
  obtain ⟨hcalls, hpush⟩ := retry_push h.outside hrequest hqueue
  obtain ⟨hattempts, hmax, hmore⟩ := fullJob_retryRequest hrequest stamp
  -- the copy waits for its push first, be it only for a moment
  have hretried := Retries.Step.retry (live_cons hcopies) hmore
  have hrequeueing : Phase.copies s.origin (.requeueing queued) =
      { { executedCopy s.origin queued with upcoming := true } } := rfl
  replace hretried := (retries_phase hrequeueing).symm ▸ hretried
  obtain ⟨hunmoved, hwait⟩ | ⟨hdone, hpushed⟩ := hpush
  · rw [WorkerState.afterRetry, hwait, Option.isSome_some, if_pos rfl]
    refine ⟨⟨hconserved, hcalls, ⟨_, hwait, hattempts, hmax⟩, hunmoved.pushed ▸ h.origin⟩,
      True, ?_, (true_iff _).mpr hsure⟩
    have hretries :=
      retries_unmoved (s := { s with phase := .requeueing queued }) hunmoved rfl
    exact (congrArg (Retries.Step _ _) hretries).mpr hretried
  · have horigin := origin_lt htracked
      (live_cons hcopies ▸ Multiset.mem_cons_self ..) h.conserved
    obtain ⟨hnext, hretries⟩ :=
      afterRetry_retries (s := { s with phase := .requeueing queued }) h.conserved h.origin
        rfl hconserved hcalls hdone hpushed hattempts hmax horigin
    exact ⟨hnext, True, (congrArg (Retries.Step _ _) hretries).mpr hretried,
      (true_iff _).mpr hsure⟩

lemma stepTallies_reports {succeeds : Bool} {stamp : JobStamp} (h : Consistent s)
    (htracked : s.retries.Tracked)
    (hstep : workerStep engine s (.reports succeeds stamp) = some t) :
    StepTallies engine s (.reports succeeds stamp) t := by
  simp only [workerStep] at hstep
  split at hstep
  next queued hphase =>
    have hw : s.queue.waiting ownCall = none := by
      simpa only [hphase, Phase.Awaits] using h.awaits
    have hcopies : s.phase.copies s.origin = {executedCopy s.origin queued} := by
      rw [hphase, Phase.copies]
    have hroom : queued.job.attempts + 1 ≤ queued.job.maxAttempts := room htracked hcopies
    have hspared : Spared engine s (.reports succeeds stamp) ↔
        succeeds ∨ queued.job.maxAttempts ≤ queued.job.attempts + 1 := by
      simp only [Spared, hphase]
    have hlast : queued.job.attempts + 1 = queued.job.maxAttempts ↔
        queued.job.maxAttempts ≤ queued.job.attempts + 1 := ⟨fun heq => heq.ge, hroom.antisymm⟩
    cases succeeds with
    | true =>
      rw [if_pos rfl] at hstep
      have hsure := hspared.mpr (.inl rfl)
      cases hrequest : retryRequest queued.job with
      | none =>
        rw [hrequest] at hstep
        cases hstep
        have hexhausted : queued.job.maxAttempts ≤ queued.job.attempts + 1 := by
          by_contra hmore
          rw [retryRequest, if_neg hmore] at hrequest
          cases hrequest
        exact ⟨⟨h.conserved, h.outside, hw, h.origin⟩, _, step_drop hcopies rfl,
          iff_of_true (hlast.mpr hexhausted) hsure⟩
      | some request =>
        rw [hrequest] at hstep
        obtain ⟨queue, hqueue, rfl⟩ := Option.map_eq_some_iff.mp hstep
        exact stepTallies_retry h htracked hphase hrequest hqueue hsure
    | false =>
      cases hstep
      exact ⟨⟨h.conserved, h.outside, hw, h.origin⟩, _, step_drop hcopies rfl,
        hlast.trans (by simp [hspared])⟩
  next => cases hstep

lemma stepTallies_leaves {succeeds : Bool} (h : Consistent s)
    (htracked : s.retries.Tracked) (hstep : workerStep engine s (.leaves succeeds) = some t) :
    StepTallies engine s (.leaves succeeds) t := by
  simp only [workerStep] at hstep
  split at hstep
  next queued failed hphase =>
    have hw : s.queue.waiting ownCall = none := by
      simpa only [hphase, Phase.Awaits] using h.awaits
    cases failed with
    | true =>
      rw [Bool.not_true, Bool.and_false, if_neg Bool.false_ne_true] at hstep
      cases hstep
      exact stepTallies_stay ⟨h.conserved, h.outside, hw, h.origin⟩
        (retries_same_phase (by rw [hphase]; rfl)) (by simp [Spared, hphase])
    | false =>
      have hcopies : s.phase.copies s.origin = {executedCopy s.origin queued} := by
        rw [hphase, Phase.copies]
      have hroom : queued.job.attempts + 1 ≤ queued.job.maxAttempts := room htracked hcopies
      have hspared : Spared engine s (.leaves succeeds) ↔
          succeeds ∨ queued.job.maxAttempts ≤ queued.job.attempts + 1 := by
        simp only [Spared, hphase]
      cases succeeds with
      | true =>
        cases hstep
        refine ⟨⟨h.conserved, h.outside, hw, h.origin⟩, True, ?_,
          (true_iff _).mpr (hspared.mpr (.inl rfl))⟩
        have hcompleted := Retries.Step.complete (live_cons hcopies)
        have hidle : Phase.copies s.origin (.idle : Phase α) = 0 := rfl
        have hretries := retries_phase (s := s.complete queued) hidle
        rw [zero_add] at hretries
        exact hretries.symm ▸ hcompleted
      | false =>
        cases hstep
        exact ⟨⟨h.conserved, h.outside, hw, h.origin⟩, _, step_drop hcopies rfl,
          ⟨fun heq => hspared.mpr (.inr (Nat.le_of_eq heq.symm)), fun hs =>
            hroom.antisymm ((hspared.mp hs).resolve_left Bool.false_ne_true)⟩⟩
  next => cases hstep

/-- A step of the worker is one of its tasks, which loses none exactly when it spares the job. -/
lemma step_retries {action : WorkerAction α} (h : Consistent s) (htracked : s.retries.Tracked)
    (hstep : workerStep engine s action = some t) : StepTallies engine s action t := by
  cases action with
  | outside action => exact stepTallies_outside h hstep
  | pop => exact stepTallies_pop h hstep
  | awaited action => exact stepTallies_awaited h htracked hstep
  | enters succeeds => exact stepTallies_enters h htracked hstep
  | setsTenant setLocal => exact stepTallies_setsTenant h htracked hstep
  | handles succeeds => exact stepTallies_handles h hstep
  | reports succeeds stamp => exact stepTallies_reports h htracked hstep
  | leaves succeeds => exact stepTallies_leaves h htracked hstep

end Steps

/-! ### Runs -/

lemma consistent_initial : Consistent (WorkerState.initial : WorkerState α) where
  conserved := conserved_initial
  outside := fun _ _ _ hw => nomatch hw
  awaits := rfl
  origin := fun _ _ => rfl

lemma live_eq_zero {s : WorkerState α} (hredis : ∀ type, s.queue.redis type = [])
    (hmemory : ∀ type, s.queue.memoryQueues type = []) (hphase : s.phase = .idle) :
    s.live = 0 := by
  have hcontents : contents s.queue = 0 := by
    rw [contents, funext hredis, funext hmemory, Queues.contents_nil, add_zero]
  rw [WorkerState.live, hcontents, hphase]
  rfl

lemma tracked_initial : (WorkerState.initial : WorkerState α).retries.Tracked := by
  have hlive : (WorkerState.initial : WorkerState α).retries.live = 0 :=
    live_eq_zero (fun _ => rfl) (fun _ => rfl) rfl
  refine ⟨?_, ?_, fun task _ => ⟨rfl, Finset.notMem_empty task⟩, ?_⟩
  · simp [hlive]
  · simp [hlive]
  · rintro task limit ⟨queued, hmem, -⟩
    exact absurd hmem List.not_mem_nil

lemma jobsKept_iff_noneLost {s : WorkerState α} (h : s.retries.Tracked) :
    JobsKept s ↔ s.retries.NoneLost := by
  constructor
  · rintro hkept _ _ ⟨queued, hmem, hfirst, rfl, rfl⟩
    exact (hkept queued hmem hfirst).kept
  · intro hnone queued hmem hfirst
    have hsubmitted : (queued.serial, queued.job.maxAttempts) ∈ s.retries.submitted :=
      ⟨queued, hmem, hfirst, rfl, rfl⟩
    exact ⟨h.bounded _ _ hsubmitted, hnone _ _ hsubmitted⟩

/-- In every state of a run every job is kept if and only if each step spares the job that the
worker is processing. -/
theorem jobsKept_iff (engine : DbEngine) (actions : List (WorkerAction α)) :
    (∀ before rest t, actions = before ++ rest →
        Run (workerStep engine) WorkerState.initial before t → JobsKept t) ↔
      AllSteps (workerStep engine) (fun s action _ => Spared engine s action) WorkerState.initial
        actions := by
  apply always_iff_allSteps_of_invariant
    (J := fun s : WorkerState α => Consistent s ∧ s.retries.Tracked)
  · rintro s action t ⟨h, htracked⟩ hstep
    obtain ⟨hnext, p, hretries, -⟩ := step_retries h htracked hstep
    exact ⟨hnext, hretries.tracked htracked⟩
  · rintro s action t ⟨h, htracked⟩ hkept hstep
    obtain ⟨-, p, hretries, hspared⟩ := step_retries h htracked hstep
    rw [jobsKept_iff_noneLost (hretries.tracked htracked), ← hspared]
    exact hretries.noneLost_iff htracked ((jobsKept_iff_noneLost htracked).mp hkept)
  · exact nofun
  · exact ⟨consistent_initial, tracked_initial⟩

/-- A job is pushed and popped, and PostgreSQL rejects the `SET LOCAL` of its tenant. -/
def Phase.isIdle : Phase α → Bool
  | .idle => true
  | _     => false

def rejectedContext : List (WorkerAction Unit) :=
  [.outside (.push 1 ⟨none, .reconciliationSweep, "tenant_a", (), none, none, none, none⟩
      ⟨"job_1", 0⟩), .pop, .enters true, .setsTenant false]

/-- The job is in no queue any more, and was never executed. -/
theorem rejected_context_loses_job :
    ¬ ∀ actions t, Run (workerStep .postgreSQL) (WorkerState.initial : WorkerState Unit) actions t →
      JobsKept t := by
  intro h
  obtain ⟨t, hrun, ht⟩ := exists_run_of_execute (workerStep .postgreSQL) WorkerState.initial
    rejectedContext
    (fun t => t.phase.isIdle ∧ t.origin 0 = 0 ∧ t.executions 0 = 0 ∧ 0 ∉ t.completed ∧
      (∀ type, t.queue.redis type = [] ∧ t.queue.memoryQueues type = []) ∧
      t.queue.pushed.map (fun queued => (queued.serial, queued.job.maxAttempts)) = [(0, 3)])
    (by decide +kernel)
  obtain ⟨hidle, horigin, hexecutions, hcompleted, hempty, hpushed⟩ := of_decide_eq_true ht
  have hphase : t.phase = .idle := by
    cases hphase : t.phase <;> simp_all [Phase.isIdle]
  obtain ⟨queued, hmem, hjob⟩ := List.mem_map.mp (hpushed ▸ List.mem_singleton_self (0, 3))
  obtain ⟨hserial, hmax⟩ := Prod.mk.inj hjob
  have hkept := (h _ t hrun queued hmem (by rw [hserial, horigin])).kept
  rw [hserial, hmax, hexecutions,
    live_eq_zero (fun type => (hempty type).1) (fun type => (hempty type).2) hphase] at hkept
  simp [hcompleted] at hkept

end CtrlWorkerProcess

end CtrlRecovery
