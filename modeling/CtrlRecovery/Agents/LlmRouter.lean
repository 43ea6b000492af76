import CtrlRecovery.Core.Run
import CtrlRecovery.Types
import Mathlib.Data.List.Nodup
import Mathlib.Data.List.TakeWhile
import Mathlib.Logic.Function.Basic

/-!
# The language-model router

`executeWithFallback` tries the providers of a task in order until one answers. A provider that fails
five times in a row is passed over for a minute: its circuit is open. While a call waits for a
provider, other calls start, fail and succeed, and change the health records that they share.

A call compares the circuits with the time at which it started. So it never asks a provider whose
circuit is open, but it may pass over one whose circuit has closed since, and return null without having
tried it. In a run in which no call does that, every call keeps all promises (`keeps_of_fresh`).
-/

namespace CtrlRecovery

open Core

namespace LlmProviderRouter

inductive LLMTaskType | diagnosis | reasoning | perception | authority | general
  deriving DecidableEq, Repr

structure ProviderExecutionResult where
  text : String
  tokensUsed : ℚ
  model : String
  latencyMs : ℚ
  deriving DecidableEq, Repr

structure RouterExecutionResult extends ProviderExecutionResult where
  providerName : String
  isFallback : Bool
  attemptedProviders : List String
  deriving DecidableEq, Repr

structure ProviderHealth where
  consecutiveFailures : ℕ
  circuitOpenUntil : Timestamp
  deriving DecidableEq, Repr

/-- The priority of the providers for a task; `GENERAL` unless the caller says otherwise. -/
def getProviderOrder (taskType : Option LLMTaskType) : List String :=
  match taskType.getD .general with
  | .diagnosis  => ["claude", "gemini", "openai", "nvidia"]
  | .reasoning  => ["claude", "gemini", "openai", "nvidia"]
  | .perception => ["gemini", "openai", "claude", "nvidia"]
  | .authority  => ["claude", "openai", "gemini", "nvidia"]
  | .general    => ["claude", "gemini", "openai", "nvidia"]

/-! ### The registry -/

/-- The registered providers, by the names of their adapters, and their health. -/
structure Registry where
  providers : String → Option String
  health : String → Option ProviderHealth
  initialized : Bool

namespace Registry

def empty : Registry := ⟨fun _ => none, fun _ => none, false⟩

variable (r : Registry)

def registerProvider (id name : String) : Registry :=
  { r with
    providers := Function.update r.providers id (some name)
    health := Function.update r.health id (some ((r.health id).getD ⟨0, 0⟩)) }

def init : Registry :=
  if r.initialized then r
  else
    let r := r.registerProvider "claude" "Anthropic Claude"
    let r := r.registerProvider "gemini" "Google Gemini"
    let r := r.registerProvider "openai" "OpenAI"
    let r := r.registerProvider "nvidia" "NVIDIA NIM"
    { r with initialized := true }

/-- The end of the circuit of a provider; one without a record has never failed. -/
def circuitOpenUntil (id : String) : Timestamp := (r.health id).elim 0 (·.circuitOpenUntil)

def recordSuccess (id : String) : Registry :=
  { r with health := Function.update r.health id ((r.health id).map fun _ => ⟨0, 0⟩) }

/-- The fifth failure in a row opens the circuit for a minute. -/
def recordFailure (id : String) (now : Timestamp) : Registry :=
  let failed (health : ProviderHealth) : ProviderHealth :=
    { consecutiveFailures := health.consecutiveFailures + 1
      circuitOpenUntil :=
        if health.consecutiveFailures + 1 ≥ 5 then now + 60000 else health.circuitOpenUntil }
  { r with health := Function.update r.health id ((r.health id).map failed) }

end Registry

/-! ### Calls -/

inductive Outcome
  | passedOver
  | waiting
  | failed
  | succeeded (result : ProviderExecutionResult)
  deriving DecidableEq, Repr

/-- How a call has come to a provider: when, whether the provider was available, until when its
circuit was open then, and what became of it. -/
structure Visit where
  providerId : String
  providerName : String
  time : Timestamp
  isAvailable : Bool
  circuitOpenUntil : Timestamp
  outcome : Outcome
  deriving DecidableEq, Repr

/-- A call of `executeWithFallback`, with its visits, latest first. -/
structure Call where
  taskType : Option LLMTaskType
  now : Timestamp
  visits : List Visit
  attempted : List String
  /-- What it has returned, once it has. -/
  returned : Option (Option RouterExecutionResult)
  deriving DecidableEq, Repr

def Call.remaining (call : Call) : List String :=
  (getProviderOrder call.taskType).drop call.visits.length

namespace Registry

variable (r : Registry) (available : String → Bool) (time : Timestamp)

def isAvailable (id : String) : Bool := (r.providers id).isSome && available id

/-- The provider is asked by a call that started at `now`. -/
def usable (now : Timestamp) (id : String) : Bool :=
  r.isAvailable available id && r.circuitOpenUntil id ≤ now

def visit (now : Timestamp) (id : String) : Visit where
  providerId := id
  providerName := (r.providers id).getD ""
  time := time
  isAvailable := r.isAvailable available id
  circuitOpenUntil := r.circuitOpenUntil id
  outcome := if r.usable available now id then .waiting else .passedOver

/-- The loop, up to the next `await` or the end: `call.now` is the clock as the call has read it at its
start, `time` the clock now. -/
def advance (call : Call) : List String → Call
  | []        => { call with returned := some none }
  | id :: ids =>
    let visit := r.visit available time call.now id
    let call := { call with visits := visit :: call.visits }
    if visit.outcome = .waiting then
      { call with attempted := call.attempted ++ [visit.providerName] }
    else advance call ids

end Registry

/-- The answer of a provider, as the call returns it. -/
def Call.resolve (call : Call) (visit : Visit) (earlier : List Visit)
    (result : ProviderExecutionResult) : Call :=
  { call with
    visits := { visit with outcome := .succeeded result } :: earlier
    returned := some <| some
      { result with
        providerName := visit.providerName
        isFallback := 0 < earlier.length
        attemptedProviders := call.attempted } }

def Call.reject (call : Call) (visit : Visit) (earlier : List Visit) : Call :=
  { call with visits := { visit with outcome := .failed } :: earlier }

/-! ### Runs -/

structure State where
  time : Timestamp
  registry : Registry
  calls : List Call

def State.initial : State := ⟨0, .empty, []⟩

/-- What happens to the router. `available` is what the adapters answer to `isAvailable`. -/
inductive Action
  | registerProvider (id name : String)
  | executeWithFallback (taskType : Option LLMTaskType) (time : Timestamp)
      (available : String → Bool)
  | resolve (index : ℕ) (result : ProviderExecutionResult) (time : Timestamp)
  | reject (index : ℕ) (time : Timestamp) (available : String → Bool)

/-- The call that waits for a provider, with the provider's visit and the earlier ones. -/
def State.waiting (s : State) (index : ℕ) : Option (Call × Visit × List Visit) :=
  match s.calls[index]? with
  | none      => none
  | some call =>
    match call.visits with
    | []               => none
    | visit :: earlier => if visit.outcome = .waiting then some (call, visit, earlier) else none

def step (s : State) : Action → Option State
  | .registerProvider id name => some { s with registry := s.registry.registerProvider id name }
  | .executeWithFallback taskType time available =>
    if time < s.time then none
    else
      let registry := s.registry.init
      let call : Call := ⟨taskType, time, [], [], none⟩
      some ⟨time, registry,
        s.calls ++ [registry.advance available time call (getProviderOrder taskType)]⟩
  | .resolve index result time =>
    if time < s.time then none
    else (s.waiting index).map fun (call, visit, earlier) =>
      ⟨time, s.registry.recordSuccess visit.providerId,
        s.calls.set index (call.resolve visit earlier result)⟩
  | .reject index time available =>
    if time < s.time then none
    else (s.waiting index).map fun (call, visit, earlier) =>
      let registry := s.registry.recordFailure visit.providerId time
      ⟨time, registry, s.calls.set index
        (registry.advance available time (call.reject visit earlier) call.remaining)⟩

/-! ### What a call promises -/

structure Call.Keeps (call : Call) : Prop where
  /-- A provider is asked while its circuit is closed. -/
  closed : ∀ visit ∈ call.visits, visit.outcome ≠ .passedOver → visit.circuitOpenUntil ≤ visit.time
  /-- The providers are tried in the order of the task. -/
  ordered : (((call.visits.filter (·.outcome ≠ .passedOver)).map (·.providerId)).reverse).Sublist
    (getProviderOrder call.taskType)
  once : ((call.visits.filter (·.outcome ≠ .passedOver)).map (·.providerId)).Nodup
  /-- What is returned is the answer of the last provider that was tried; the earlier ones failed. -/
  first : ∀ answer, call.returned = some (some answer) → ∃ visit earlier result,
    call.visits = visit :: earlier ∧ visit.outcome = .succeeded result ∧
    answer.toProviderExecutionResult = result ∧ answer.providerName = visit.providerName ∧
    ∀ visit ∈ earlier, visit.outcome = .passedOver ∨ visit.outcome = .failed
  /-- Null is returned after every available provider with a closed circuit was tried and failed. -/
  exhausted : call.returned = some none → ∀ id ∈ getProviderOrder call.taskType,
    ∃ visit ∈ call.visits, visit.providerId = id ∧
      (visit.isAvailable → visit.circuitOpenUntil ≤ visit.time → visit.outcome = .failed)

def Registry.passedOver (r : Registry) (available : String → Bool) (now : Timestamp)
    (ids : List String) : List String :=
  ids.takeWhile fun id => !r.usable available now id

/-- The available ones among the providers that the step passes over have a circuit that is still
open. -/
def Fresh (s : State) : Action → Prop
  | .reject index time available => ∀ waiting ∈ s.waiting index,
    ∀ id ∈ s.registry.passedOver available waiting.1.now waiting.1.remaining,
      s.registry.isAvailable available id → time < s.registry.circuitOpenUntil id
  | _                            => True

instance (s : State) (action : Action) : Decidable (Fresh s action) :=
  match action with
  | .registerProvider ..    => .isTrue trivial
  | .executeWithFallback .. => .isTrue trivial
  | .resolve ..             => .isTrue trivial
  | .reject index time available =>
    inferInstanceAs (Decidable (∀ waiting ∈ s.waiting index,
      ∀ id ∈ s.registry.passedOver available waiting.1.now waiting.1.remaining,
        s.registry.isAvailable available id → time < s.registry.circuitOpenUntil id))

/-! ### The loop -/

section Loop

variable {r : Registry} {available : String → Bool} {now time : Timestamp} {call : Call}
  {id : String} {ids : List String}

lemma nodup_getProviderOrder (taskType : Option LLMTaskType) :
    (getProviderOrder taskType).Nodup := by
  rw [getProviderOrder]
  cases taskType.getD .general <;> decide

/-- A call at the head of its loop, with these providers still to come. -/
structure Call.Looping (call : Call) (time : Timestamp) (ids : List String) : Prop where
  visited : (call.visits.map (·.providerId)).reverse ++ ids = getProviderOrder call.taskType
  closed : ∀ visit ∈ call.visits, visit.outcome ≠ .passedOver → visit.circuitOpenUntil ≤ visit.time
  settled : ∀ visit ∈ call.visits, visit.outcome = .passedOver ∨ visit.outcome = .failed
  running : call.returned = none
  started : call.now ≤ time

/-- What holds of every call: it has come to an initial part of its providers and is waiting for the
last one, or it has returned. -/
structure Call.Sound (call : Call) (time : Timestamp) : Prop where
  visited : (call.visits.map (·.providerId)).reverse <+: getProviderOrder call.taskType
  closed : ∀ visit ∈ call.visits, visit.outcome ≠ .passedOver → visit.circuitOpenUntil ≤ visit.time
  earlier : ∀ visit ∈ call.visits.tail, visit.outcome = .passedOver ∨ visit.outcome = .failed
  started : call.now ≤ time
  returned : ∀ answer, call.returned = some (some answer) → ∃ visit earlier result,
    call.visits = visit :: earlier ∧ visit.outcome = .succeeded result ∧
    answer.toProviderExecutionResult = result ∧ answer.providerName = visit.providerName
  exhausted : call.returned = some none →
    (call.visits.map (·.providerId)).reverse = getProviderOrder call.taskType ∧
      ∀ visit ∈ call.visits, visit.outcome = .passedOver ∨ visit.outcome = .failed

/-- The available providers that the call has passed over had an open circuit. -/
def Call.Fresh (call : Call) : Prop :=
  ∀ visit ∈ call.visits, visit.outcome = .passedOver → visit.isAvailable →
    visit.time < visit.circuitOpenUntil

lemma outcome_visit_of_usable (h : r.usable available now id = true) :
    (r.visit available time now id).outcome = .waiting := if_pos h

lemma outcome_visit_of_not_usable (h : r.usable available now id = false) :
    (r.visit available time now id).outcome = .passedOver := if_neg (by simp [h])

lemma closed_visit (hnow : now ≤ time)
    (h : (r.visit available time now id).outcome ≠ .passedOver) :
    (r.visit available time now id).circuitOpenUntil ≤ (r.visit available time now id).time := by
  cases husable : r.usable available now id with
  | false => exact absurd (outcome_visit_of_not_usable husable) h
  | true =>
    rw [Registry.usable, Bool.and_eq_true, decide_eq_true_eq] at husable
    exact husable.2.trans hnow

lemma advance_cons_of_usable (h : r.usable available call.now id = true) :
    r.advance available time call (id :: ids) =
      { call with
        visits := r.visit available time call.now id :: call.visits
        attempted :=
          call.attempted ++ [(r.visit available time call.now id).providerName] } := by
  rw [Registry.advance, if_pos (outcome_visit_of_usable h)]

lemma advance_cons_of_not_usable (h : r.usable available call.now id = false) :
    r.advance available time call (id :: ids) =
      r.advance available time
        { call with visits := r.visit available time call.now id :: call.visits } ids := by
  rw [Registry.advance, if_neg (by rw [outcome_visit_of_not_usable h]; decide)]

lemma Call.Looping.next (h : call.Looping time (id :: ids))
    (husable : r.usable available call.now id = false) :
    Call.Looping { call with visits := r.visit available time call.now id :: call.visits } time
      ids where
  visited := by
    rw [← h.visited, List.map_cons, List.reverse_cons, List.append_assoc]
    rfl
  closed := List.forall_mem_cons.mpr ⟨closed_visit h.started, h.closed⟩
  settled := List.forall_mem_cons.mpr ⟨.inl (outcome_visit_of_not_usable husable), h.settled⟩
  running := h.running
  started := h.started

lemma Call.Looping.sound_advance (h : call.Looping time ids) :
    (r.advance available time call ids).Sound time := by
  induction ids generalizing call with
  | nil =>
    have hvisited := h.visited
    rw [List.append_nil] at hvisited
    exact
      { visited := hvisited ▸ List.prefix_refl _
        closed := h.closed
        earlier := fun visit hvisit => h.settled visit (List.mem_of_mem_tail hvisit)
        started := h.started
        returned := by
          rintro answer ⟨⟩
        exhausted := fun _ => ⟨hvisited, h.settled⟩ }
  | cons id ids ih =>
    cases husable : r.usable available call.now id with
    | false =>
      rw [advance_cons_of_not_usable husable]
      exact ih (h.next husable)
    | true =>
      rw [advance_cons_of_usable husable]
      exact
        { visited := by
            rw [← h.visited, List.map_cons, List.reverse_cons]
            exact ⟨ids, by rw [List.append_assoc]; rfl⟩
          closed := List.forall_mem_cons.mpr ⟨closed_visit h.started, h.closed⟩
          earlier := h.settled
          started := h.started
          returned := fun answer hanswer => by cases h.running.symm.trans hanswer
          exhausted := fun hnone => by cases h.running.symm.trans hnone }

lemma Call.Fresh.advance (h : call.Fresh)
    (hopen : ∀ id ∈ r.passedOver available call.now ids, r.isAvailable available id →
      time < r.circuitOpenUntil id) : (r.advance available time call ids).Fresh := by
  induction ids generalizing call with
  | nil => exact h
  | cons id ids ih =>
    cases husable : r.usable available call.now id with
    | false =>
      rw [advance_cons_of_not_usable husable]
      rw [Registry.passedOver, List.takeWhile_cons_of_pos (by simp [husable]),
        List.forall_mem_cons] at hopen
      exact ih (List.forall_mem_cons.mpr ⟨fun _ => hopen.1, h⟩) hopen.2
    | true =>
      rw [advance_cons_of_usable husable]
      refine List.forall_mem_cons.mpr ⟨fun hpassed => ?_, h⟩
      cases (outcome_visit_of_usable husable).symm.trans hpassed

@[simp] lemma isAvailable_recordFailure {j : String} :
    (r.recordFailure id time).isAvailable available j = r.isAvailable available j := rfl

lemma circuitOpenUntil_recordFailure {j : String} (h : j ≠ id) :
    (r.recordFailure id time).circuitOpenUntil j = r.circuitOpenUntil j := by
  rw [Registry.circuitOpenUntil, Registry.recordFailure]
  dsimp only
  rw [Function.update_of_ne h, Registry.circuitOpenUntil]

lemma passedOver_recordFailure (h : id ∉ ids) :
    (r.recordFailure id time).passedOver available now ids = r.passedOver available now ids := by
  induction ids with
  | nil => rfl
  | cons j ids ih =>
    rw [List.mem_cons, not_or] at h
    rw [Registry.passedOver, Registry.passedOver, List.takeWhile_cons, List.takeWhile_cons,
      Registry.usable, Registry.usable, circuitOpenUntil_recordFailure (Ne.symm h.1),
      isAvailable_recordFailure]
    exact if_congr Iff.rfl (congrArg (j :: ·) (ih h.2)) rfl

end Loop

/-! ### The steps -/

section Steps

variable {s t : State} {call : Call} {visit : Visit} {earlier : List Visit} {index time : ℕ}
  {action : Action}

def State.Sound (s : State) : Prop := ∀ call ∈ s.calls, call.Sound s.time

lemma Call.Sound.later (h : call.Sound time) {time' : ℕ} (hle : time ≤ time') :
    call.Sound time' := { h with started := h.started.trans hle }

lemma waiting_cases (h : s.waiting index = some (call, visit, earlier)) :
    call ∈ s.calls ∧ call.visits = visit :: earlier ∧ visit.outcome = .waiting := by
  rw [State.waiting] at h
  cases hcall : s.calls[index]? with
  | none => simp [hcall] at h
  | some call' =>
    rw [hcall] at h
    dsimp only at h
    cases hvisits : call'.visits with
    | nil => simp [hvisits] at h
    | cons visit' earlier' =>
      rw [hvisits] at h
      dsimp only at h
      split_ifs at h with hwaiting
      cases h
      exact ⟨List.mem_of_getElem? hcall, hvisits, hwaiting⟩

/-- A call that waits has not returned. -/
lemma Call.Sound.running (h : call.Sound time) (hvisits : call.visits = visit :: earlier)
    (hwaiting : visit.outcome = .waiting) : call.returned = none := by
  cases hreturned : call.returned with
  | none => rfl
  | some answer =>
    cases answer with
    | none =>
      have hvisit := (h.exhausted hreturned).2 visit (hvisits ▸ List.mem_cons_self)
      rw [hwaiting] at hvisit
      rcases hvisit with hvisit | hvisit <;> cases hvisit
    | some answer =>
      obtain ⟨visit', earlier', result, hvisits', hsucceeded, -⟩ := h.returned answer hreturned
      cases hvisits.symm.trans hvisits'
      cases hwaiting.symm.trans hsucceeded

lemma Call.Sound.remaining (h : call.Sound time) :
    (call.visits.map (·.providerId)).reverse ++ call.remaining =
      getProviderOrder call.taskType := by
  obtain ⟨rest, hrest⟩ := h.visited
  rw [Call.remaining, ← hrest, List.drop_left' (by simp)]

lemma Call.Sound.notMem_remaining (h : call.Sound time) (hvisits : call.visits = visit :: earlier) :
    visit.providerId ∉ call.remaining := by
  have hnodup := nodup_getProviderOrder call.taskType
  rw [← h.remaining, List.nodup_append] at hnodup
  intro hmem
  exact hnodup.2.2 visit.providerId (by simp [hvisits]) visit.providerId hmem rfl

lemma Call.Sound.resolve (h : call.Sound time) (hvisits : call.visits = visit :: earlier)
    (hwaiting : visit.outcome = .waiting) (result : ProviderExecutionResult) :
    (call.resolve visit earlier result).Sound time where
  visited := by
    have hvisited := h.visited
    rw [hvisits] at hvisited
    exact hvisited
  closed := by
    have hclosed := h.closed
    rw [hvisits, List.forall_mem_cons] at hclosed
    exact List.forall_mem_cons.mpr ⟨fun _ => hclosed.1 (by simp [hwaiting]), hclosed.2⟩
  earlier := by
    have hearlier := h.earlier
    rw [hvisits] at hearlier
    exact hearlier
  started := h.started
  returned answer hanswer := by
    cases hanswer
    exact ⟨_, _, result, rfl, rfl, rfl, rfl⟩
  exhausted hnone := by cases hnone

lemma Call.Sound.looping_reject (h : call.Sound time) (hvisits : call.visits = visit :: earlier)
    (hwaiting : visit.outcome = .waiting) :
    (call.reject visit earlier).Looping time call.remaining where
  visited := by
    have hremaining := h.remaining
    rw [hvisits] at hremaining
    exact hremaining
  closed := by
    have hclosed := h.closed
    rw [hvisits, List.forall_mem_cons] at hclosed
    exact List.forall_mem_cons.mpr ⟨fun _ => hclosed.1 (by simp [hwaiting]), hclosed.2⟩
  settled := by
    have hearlier := h.earlier
    rw [hvisits] at hearlier
    exact List.forall_mem_cons.mpr ⟨.inr rfl, hearlier⟩
  running := h.running hvisits hwaiting
  started := h.started

/-- What a step does to the calls: it starts one, or it goes on with one that waits. -/
inductive Effect (s : State) : Action → State → Prop
  | register {id name t} (hcalls : t.calls = s.calls) (htime : t.time = s.time) :
      Effect s (.registerProvider id name) t
  | start {taskType time available t} {registry : Registry} (hle : s.time ≤ time)
      (hcalls : t.calls = s.calls ++
        [registry.advance available time ⟨taskType, time, [], [], none⟩ (getProviderOrder taskType)])
      (htime : t.time = time) : Effect s (.executeWithFallback taskType time available) t
  | resolve {index result time call visit earlier t} (hle : s.time ≤ time)
      (hwaiting : s.waiting index = some (call, visit, earlier))
      (hcalls : t.calls = s.calls.set index (call.resolve visit earlier result))
      (htime : t.time = time) : Effect s (.resolve index result time) t
  | reject {index time available call visit earlier t} (hle : s.time ≤ time)
      (hwaiting : s.waiting index = some (call, visit, earlier))
      (hcalls : t.calls = s.calls.set index
        ((s.registry.recordFailure visit.providerId time).advance available time
          (call.reject visit earlier) call.remaining))
      (htime : t.time = time) : Effect s (.reject index time available) t

lemma effect_of_step (h : step s action = some t) : Effect s action t := by
  cases action with
  | registerProvider id name =>
    cases h
    exact .register rfl rfl
  | executeWithFallback taskType time available =>
    rw [step] at h
    split_ifs at h with horder
    cases h
    exact .start (not_lt.mp horder) rfl rfl
  | resolve index result time =>
    rw [step] at h
    split_ifs at h with horder
    obtain ⟨⟨call, visit, earlier⟩, hwaiting, rfl⟩ := Option.map_eq_some_iff.mp h
    exact .resolve (not_lt.mp horder) hwaiting rfl rfl
  | reject index time available =>
    rw [step] at h
    split_ifs at h with horder
    obtain ⟨⟨call, visit, earlier⟩, hwaiting, rfl⟩ := Option.map_eq_some_iff.mp h
    exact .reject (not_lt.mp horder) hwaiting rfl rfl

lemma State.Sound.step (h : s.Sound) (hstep : step s action = some t) : t.Sound := by
  intro call hcall
  cases effect_of_step hstep with
  | register hcalls htime =>
    rw [htime]
    exact h call (hcalls ▸ hcall)
  | start hle hcalls htime =>
    rw [hcalls, List.mem_append, List.mem_singleton] at hcall
    rw [htime]
    obtain hcall | rfl := hcall
    · exact (h call hcall).later hle
    · refine Call.Looping.sound_advance ⟨rfl, ?_, ?_, rfl, le_rfl⟩
      · intro visit hvisit
        cases hvisit
      · intro visit hvisit
        cases hvisit
  | resolve hle hwaiting hcalls htime =>
    rw [hcalls] at hcall
    rw [htime]
    obtain ⟨hmem, hvisits, houtcome⟩ := waiting_cases hwaiting
    obtain hcall | rfl := List.mem_or_eq_of_mem_set hcall
    · exact (h call hcall).later hle
    · exact ((h _ hmem).later hle).resolve hvisits houtcome _
  | reject hle hwaiting hcalls htime =>
    rw [hcalls] at hcall
    rw [htime]
    obtain ⟨hmem, hvisits, houtcome⟩ := waiting_cases hwaiting
    obtain hcall | rfl := List.mem_or_eq_of_mem_set hcall
    · exact (h call hcall).later hle
    · exact (((h _ hmem).later hle).looping_reject hvisits houtcome).sound_advance

lemma Call.Fresh.of_visits {call' : Call} (h : call.Fresh) (hvisits : call.visits = visit :: earlier)
    {visit' : Visit} (houtcome : visit'.outcome ≠ .passedOver)
    (hvisits' : call'.visits = visit' :: earlier) : call'.Fresh := by
  rw [Call.Fresh, hvisits, List.forall_mem_cons] at h
  rw [Call.Fresh, hvisits', List.forall_mem_cons]
  exact ⟨fun hpassed => absurd hpassed houtcome, h.2⟩

lemma open_of_passedOver {r : Registry} {available : String → Bool} {ids : List String} :
    ∀ id ∈ r.passedOver available time ids, r.isAvailable available id →
      time < r.circuitOpenUntil id := by
  intro id hid havailable
  have hunusable := List.mem_takeWhile_imp hid
  simpa [Registry.usable, havailable] using hunusable

lemma fresh_step (h : ∀ call ∈ s.calls, call.Fresh) (hsound : s.Sound)
    (hstep : step s action = some t) (hfresh : Fresh s action) : ∀ call ∈ t.calls, call.Fresh := by
  intro call hcall
  cases effect_of_step hstep with
  | register hcalls htime => exact h call (hcalls ▸ hcall)
  | start hle hcalls htime =>
    rw [hcalls, List.mem_append, List.mem_singleton] at hcall
    obtain hcall | rfl := hcall
    · exact h call hcall
    · refine Call.Fresh.advance (fun visit hvisit => ?_) open_of_passedOver
      cases hvisit
  | resolve hle hwaiting hcalls htime =>
    rw [hcalls] at hcall
    obtain ⟨hmem, hvisits, -⟩ := waiting_cases hwaiting
    obtain hcall | rfl := List.mem_or_eq_of_mem_set hcall
    · exact h call hcall
    · exact (h _ hmem).of_visits hvisits (by simp) rfl
  | @reject index time available waiting visit earlier _ hle hwaiting hcalls htime =>
    rw [hcalls] at hcall
    obtain ⟨hmem, hvisits, -⟩ := waiting_cases hwaiting
    obtain hcall | rfl := List.mem_or_eq_of_mem_set hcall
    · exact h call hcall
    · -- the failure is recorded for a provider that the call does not come to again
      have hnotMem := (hsound _ hmem).notMem_remaining hvisits
      refine ((h _ hmem).of_visits hvisits (by simp) rfl).advance fun id hid havailable => ?_
      have hpassed : id ∈ s.registry.passedOver available waiting.now waiting.remaining := by
        rwa [← passedOver_recordFailure hnotMem]
      have hne : id ≠ visit.providerId := by
        rintro rfl
        exact hnotMem ((List.takeWhile_prefix _).subset hpassed)
      rw [circuitOpenUntil_recordFailure hne]
      exact hfresh _ hwaiting id hpassed havailable

end Steps

/-! ### The result -/

section Result

variable {call : Call} {time : ℕ}

lemma Call.Sound.tried_sublist (h : call.Sound time) :
    (((call.visits.filter (·.outcome ≠ .passedOver)).map (·.providerId)).reverse).Sublist
      (getProviderOrder call.taskType) :=
  (List.filter_sublist.map _).reverse.trans h.visited.sublist

/-- A sound call that has passed over open circuits only keeps its promises. -/
lemma Call.Sound.keeps (h : call.Sound time) (hfresh : call.Fresh) : call.Keeps where
  closed := h.closed
  ordered := h.tried_sublist
  once := List.nodup_reverse.mp (h.tried_sublist.nodup (nodup_getProviderOrder _))
  first answer hanswer := by
    obtain ⟨visit, earlier, result, hvisits, hrest⟩ := h.returned answer hanswer
    have hearlier := h.earlier
    rw [hvisits] at hearlier
    exact ⟨visit, earlier, result, hvisits, hrest.1, hrest.2.1, hrest.2.2, hearlier⟩
  exhausted hnone id hid := by
    obtain ⟨hvisited, hsettled⟩ := h.exhausted hnone
    rw [← hvisited, List.mem_reverse] at hid
    obtain ⟨visit, hvisit, rfl⟩ := List.mem_map.mp hid
    refine ⟨visit, hvisit, rfl, fun havailable hclosed => ?_⟩
    exact (hsettled visit hvisit).resolve_left fun hpassed =>
      (hfresh visit hvisit hpassed havailable).not_ge hclosed

end Result

/-- In a run in which every available provider that a call passes over has a circuit that is still
open then, every call keeps its promises. -/
theorem keeps_of_fresh {actions : List Action} {t : State}
    (hrun : Run step .initial actions t)
    (hfresh : AllSteps step (fun s action _ => Fresh s action) .initial actions) :
    ∀ call ∈ t.calls, call.Keeps := by
  have hinv : t.Sound ∧ ∀ call ∈ t.calls, call.Fresh := by
    refine hrun.invariant_of_allSteps (I := fun s => s.Sound ∧ ∀ call ∈ s.calls, call.Fresh) ?_ hfresh
      ⟨List.forall_mem_nil _, List.forall_mem_nil _⟩
    rintro s action t ⟨hsound, hcalls⟩ hstep hfresh
    exact ⟨hsound.step hstep, fresh_step hcalls hsound hstep hfresh⟩
  exact fun call hcall => (hinv.1 call hcall).keeps (hinv.2 call hcall)

def sampleAnswer : ProviderExecutionResult := ⟨"ok", 12, "gemini-2.0-flash", 240⟩

/-- One call fails at its first provider and is answered by the second. -/
def fallbackRun : List Action :=
  [.executeWithFallback (some .diagnosis) 10 fun _ => true, .reject 0 20 fun _ => true,
    .resolve 0 sampleAnswer 30]

theorem keeps_fallbackRun : ∃ t, Run step .initial fallbackRun t ∧
    (t.calls.map fun call => call.attempted) = [["Anthropic Claude", "Google Gemini"]] ∧
    ∀ call ∈ t.calls, call.Keeps := by
  obtain ⟨t, hrun, hattempted⟩ := exists_run_of_execute step .initial fallbackRun
    (fun t => (t.calls.map fun call => call.attempted) = [["Anthropic Claude", "Google Gemini"]])
    (by decide +kernel)
  refine ⟨t, hrun, of_decide_eq_true hattempted, keeps_of_fresh hrun ?_⟩
  decide +kernel

/-- Five failures of one provider at time 1000, then a call that starts while its circuit is open and
comes to it after the circuit has closed. -/
def staleRun : List Action :=
  let geminiOnly (id : String) : Bool := id = "gemini"
  let geminiAndClaude (id : String) : Bool := id = "gemini" || id = "claude"
  (List.range 5).flatMap (fun index =>
    [.executeWithFallback (some .perception) 1000 geminiOnly, .reject index 1000 geminiOnly]) ++
  [.executeWithFallback (some .diagnosis) 50000 geminiAndClaude, .reject 5 70000 geminiAndClaude]

theorem not_keeps_staleRun : ∃ t, Run step .initial staleRun t ∧ ¬∀ call ∈ t.calls, call.Keeps := by
  obtain ⟨t, hrun, hstale⟩ := exists_run_of_execute step .initial staleRun
    (fun t => t.calls.any fun call => call.returned = some none ∧
      "gemini" ∈ getProviderOrder call.taskType ∧ call.visits.all fun visit =>
        visit.providerId ≠ "gemini" ∨ visit.isAvailable ∧ visit.circuitOpenUntil ≤ visit.time ∧
          visit.outcome ≠ .failed)
    (by decide +kernel)
  refine ⟨t, hrun, fun h => ?_⟩
  obtain ⟨call, hcall, hstale⟩ := List.any_eq_true.mp hstale
  obtain ⟨hnone, hid, hall⟩ := of_decide_eq_true hstale
  obtain ⟨visit, hvisit, hgemini, hfailed⟩ := (h call hcall).exhausted hnone "gemini" hid
  obtain hne | ⟨havailable, hclosed, hnot⟩ := of_decide_eq_true (List.all_eq_true.mp hall visit hvisit)
  · exact hne hgemini
  · exact hnot (hfailed havailable hclosed)

end LlmProviderRouter

end CtrlRecovery
