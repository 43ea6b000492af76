import CtrlRecovery.Core.TtlStore
import CtrlRecovery.Execution.CircuitBreaker

/-!
# The circuit breaker across restarts

A breaker persists its state in the cache whenever it records a failure or moves to another state, and the
breaker of a new process loads it when it is created. The cache is Redis while it is connected, and a map of
the process otherwise; neither the write nor the load is awaited, and the first call of a process can come
before the load has arrived. The entry lives for at least the cooldown. Along runs that keep the state in
Redis, no call that comes after the load is let through in the cooldown of an opening, whichever process saw
it (`suspended_across_restarts`). Without Redis a restart forgets every opening.
-/

namespace CtrlRecovery

open Core

namespace CircuitBreaker

def cacheKey : String := "ctrl:cb:default"

/-- `Math.ceil(this.cooldownMs / 1000) * 2`, in seconds. -/
def ttlSeconds (options : CircuitBreakerOptions) : ℕ := (options.cooldownMs + 999) / 1000 * 2

/-- Where `loadPersistedState` is. -/
inductive Loading
  /-- The process has no breaker yet. -/
  | absent
  /-- The read was sent to Redis. -/
  | reading
  | done
  deriving DecidableEq, Repr

/-- The breaker of the running process with its calls, the two stores of the cache, the writes that were sent
to Redis, and when the breaker of a process was open after a failure. -/
structure Server where
  process : State
  /-- `fallbackStore`, which goes with the process. -/
  memory : TtlStore String CircuitBreaker
  redis : TtlStore String CircuitBreaker
  isRedisConnected : Bool
  loading : Loading
  writes : List CircuitBreaker
  openings : List ℕ

def Server.initial (now : ℕ) : Server :=
  ⟨State.initial now, TtlStore.empty, TtlStore.empty, false, .absent, [], []⟩

inductive ServerAction
  | process (action : Action)
  /-- A new process; the calls of the old one are lost, and of its writes the first ones reach Redis. -/
  | restart (landed : ℕ)
  | connect
  | error
  /-- Other entries push that of the breaker out of the map of the process. -/
  | evict
  /-- The breaker is created and starts to load. -/
  | create
  /-- Redis executes the read of the load, and its reply arrives. -/
  | loadReply
  | loadFails
  /-- Redis executes the oldest write. -/
  | written
  /-- The oldest write fails, though Redis may have executed it. -/
  | writeFails (executed : Bool)

namespace Server

variable (options : CircuitBreakerOptions) (s : Server)

def fallbackPut (breaker : CircuitBreaker) : Server :=
  { s with memory := s.memory.set s.process.now cacheKey breaker (ttlSeconds options * 1000) }

/-- Redis takes no entry that does not live. -/
def redisPut (breaker : CircuitBreaker) : Server :=
  if 0 < ttlSeconds options then
    { s with redis := s.redis.set s.process.now cacheKey breaker (ttlSeconds options * 1000) }
  else s

/-- `persistState`: the write is sent, or done in the process. -/
def persistState (breaker : CircuitBreaker) : Server :=
  if s.isRedisConnected then { s with writes := s.writes ++ [breaker] }
  else s.fallbackPut options breaker

/-- What `loadPersistedState` does with the answer of a store. -/
def loadFrom (store : TtlStore String CircuitBreaker) : Server :=
  { s with
    process := { s.process with
      breaker := (store.get s.process.now cacheKey).getD s.process.breaker }
    loading := .done }

/-- A process without a breaker only waits, and a load is a step of the server. -/
def canRun : Action → Bool
  | .load _ => false
  | .tick _ => true
  | _       => s.loading ≠ .absent

end Server

def Records (before after : CircuitBreaker) : Prop := before.failureCount < after.failureCount

instance (before after : CircuitBreaker) : Decidable (Records before after) :=
  inferInstanceAs (Decidable (_ < _))

/-- Every failure is persisted and every change of the state but by a reset. -/
def persists (before after : CircuitBreaker) : Action → Bool
  | .reset => false
  | _      => before.state ≠ after.state ∨ Records before after

/-- The server after a step of its process. -/
def Server.afterProcess (options : CircuitBreakerOptions) (s : Server) (action : Action)
    (process : State) : Server :=
  let t : Server :=
    { s with
      process
      openings :=
        if process.breaker.state = .opened ∧ Records s.process.breaker process.breaker then
          process.now :: s.openings
        else s.openings }
  if persists s.process.breaker process.breaker action then t.persistState options process.breaker
  else t

def serverStep (options : CircuitBreakerOptions) (s : Server) : ServerAction → Option Server
  | .process action =>
    if s.canRun action then
      (step options s.process action).map (s.afterProcess options action)
    else none
  | .restart landed =>
    some { (s.writes.take landed).foldl (Server.redisPut options) s with
      process := State.initial s.process.now
      memory := TtlStore.empty
      isRedisConnected := false
      loading := .absent
      writes := [] }
  | .connect        => some { s with isRedisConnected := true }
  | .error          => some { s with isRedisConnected := false }
  | .evict          => some { s with memory := s.memory.del cacheKey }
  | .create         =>
    if s.loading = .absent then
      some (if s.isRedisConnected then { s with loading := .reading } else s.loadFrom s.memory)
    else none
  | .loadReply      => if s.loading = .reading then some (s.loadFrom s.redis) else none
  | .loadFails      => if s.loading = .reading then some (s.loadFrom s.memory) else none
  | .written        =>
    match s.writes with
    | []               => none
    | breaker :: later =>
      let t : Server := { s with writes := later }
      -- Redis answers an entry that does not live with an error
      some (if 0 < ttlSeconds options then t.redisPut options breaker
        else t.fallbackPut options breaker)
  | .writeFails executed =>
    match s.writes with
    | []               => none
    | breaker :: later =>
      let t : Server := { s with writes := later }
      some ((if executed then t.redisPut options breaker else t).fallbackPut options breaker)

/-- Redis is there whenever a breaker loads or may persist, and none of its commands fails; no call ends
before the load has arrived, no process before its writes have, and no breaker is reset. -/
def KeepsInRedis (s : Server) (action : ServerAction) (_ : Server) : Prop :=
  match action with
  | .process (.tick _)       => True
  | .process .reset          => False
  | .process (.settle _ _ _) => s.isRedisConnected = true ∧ s.loading = .done
  | .process _               => s.isRedisConnected = true
  | .restart _               => s.writes = []
  | .create                  => s.isRedisConnected = true
  | .loadFails               => False
  | .writeFails _            => False
  | _                        => True

/-- No call that comes after the load starts in the cooldown of an opening. -/
def StartsLate (options : CircuitBreakerOptions) (s : Server) (_ : ServerAction) (t : Server) : Prop :=
  s.loading = .done → ∀ call, s.process.phase call = .idle → t.process.phase call ≠ .idle →
    ∀ opening ∈ s.openings, opening + options.cooldownMs ≤ t.process.now

/-! ### What a process does to its breaker -/

variable {options : CircuitBreakerOptions} {s t : Server} {opening now : ℕ}

lemma serverStep_process {action : Action} (h : serverStep options s (.process action) = some t) :
    (∀ saved, action ≠ .load saved) ∧
      ∃ process, step options s.process action = some process ∧
        t = s.afterProcess options action process := by
  rw [serverStep] at h
  split_ifs at h with hruns
  obtain ⟨process, hstep, rfl⟩ := Option.map_eq_some_iff.mp h
  refine ⟨?_, process, hstep, rfl⟩
  rintro saved rfl
  cases hruns

section Fields

variable {breaker : CircuitBreaker} {action : Action} {process : State}

/-- A step of the process that writes while Redis is connected does nothing to the stores. -/
lemma afterProcess_eq
    (h : persists s.process.breaker process.breaker action = true → s.isRedisConnected = true) :
    s.afterProcess options action process = { s with
      process
      openings := (s.afterProcess options action process).openings
      writes :=
        if persists s.process.breaker process.breaker action then s.writes ++ [process.breaker]
        else s.writes } := by
  by_cases hpersists : persists s.process.breaker process.breaker action = true
  · simp only [Server.afterProcess, if_pos hpersists, Server.persistState, if_pos (h hpersists)]
  · simp only [Server.afterProcess, if_neg hpersists]

@[simp] lemma openings_persistState : (s.persistState options breaker).openings = s.openings := by
  rw [Server.persistState]
  split_ifs <;> rfl

@[simp] lemma process_persistState : (s.persistState options breaker).process = s.process := by
  rw [Server.persistState]
  split_ifs <;> rfl

@[simp] lemma process_redisPut : (s.redisPut options breaker).process = s.process := by
  rw [Server.redisPut]
  split_ifs <;> rfl

@[simp] lemma process_afterProcess : (s.afterProcess options action process).process = process := by
  simp only [Server.afterProcess]
  split_ifs <;> simp

lemma mem_openings_afterProcess (h : opening ∈ (s.afterProcess options action process).openings) :
    opening ∈ s.openings ∨ opening = process.now ∧ process.breaker.state = .opened ∧
      Records s.process.breaker process.breaker := by
  have hmem : opening ∈ if process.breaker.state = .opened ∧
      Records s.process.breaker process.breaker then process.now :: s.openings else s.openings := by
    simp only [Server.afterProcess] at h
    split_ifs at h ⊢ <;> simpa using h
  split_ifs at hmem with hopens
  · rcases List.mem_cons.mp hmem with rfl | hold
    · exact .inr ⟨rfl, hopens⟩
    · exact .inl hold
  · exact .inl hmem

end Fields

/-- What a step of a process does to the breaker, if it is neither a load nor a reset. -/
inductive Moved (options : CircuitBreakerOptions) (before : CircuitBreaker) (now : ℕ) :
    CircuitBreaker → Prop
  | kept : Moved options before now before
  | checked : Moved options before now (before.checkCooldown options now)
  | succeeded : Moved options before now before.recordSuccess
  | failed : Moved options before now (before.recordFailure options now)

lemma moved_fail {p q : State} {call attempt jitterMs : ℕ} {isClientError : Bool}
    (h : p.fail options call attempt isClientError jitterMs = some q) :
    Moved options p.breaker p.now q.breaker ∧ q.now = p.now := by
  rw [State.fail] at h
  split_ifs at h
  · cases h
    exact ⟨.failed, rfl⟩
  · cases h
    exact ⟨.kept, rfl⟩

lemma moved_step {p q : State} {action : Action} (h : step options p action = some q)
    (hload : ∀ saved, action ≠ .load saved) (hreset : action ≠ .reset) :
    Moved options p.breaker p.now q.breaker ∧ p.now ≤ q.now ∧
      (q.breaker ≠ p.breaker → q.now = p.now) := by
  cases stepped h with
  | ticked ms         => exact ⟨.kept, Nat.le_add_right _ _, fun hne => absurd rfl hne⟩
  | loaded saved      => exact absurd rfl (hload saved)
  | cleared           => exact absurd rfl hreset
  | checked           => exact ⟨.checked, le_rfl, fun _ => rfl⟩
  | refused _         => exact ⟨.checked, le_rfl, fun _ => rfl⟩
  | executed _ _      => exact ⟨.checked, le_rfl, fun _ => rfl⟩
  | succeeded _ _     => exact ⟨.succeeded, le_rfl, fun _ => rfl⟩
  | unreadable _ _    => exact ⟨.kept, le_rfl, fun _ => rfl⟩
  | timedOut _ hfail  =>
    obtain ⟨hmoved, hnow⟩ := moved_fail hfail
    exact ⟨hmoved, hnow.ge, fun _ => hnow⟩
  | failed _ hfail    =>
    obtain ⟨hmoved, hnow⟩ := moved_fail hfail
    exact ⟨hmoved, hnow.ge, fun _ => hnow⟩
  | retried _ _       => exact ⟨.kept, le_rfl, fun _ => rfl⟩

/-- Only an execution lets an idle call start, and it does not find the breaker open. -/
lemma started_step {p q : State} {action : Action} {call : ℕ} (h : step options p action = some q)
    (hidle : p.phase call = .idle) (hstarted : q.phase call ≠ .idle) :
    (p.breaker.checkCooldown options p.now).state ≠ .opened ∧ q.now = p.now ∧
      ∃ other, action = .execute other := by
  have hfail : ∀ other attempt startedAt jitterMs isClientError,
      p.phase other = .attempting attempt startedAt →
      p.fail options other attempt isClientError jitterMs = some q → False := by
    intro other attempt startedAt jitterMs isClientError hphase hfail
    have hother : call ≠ other := by
      rintro rfl
      rw [hidle] at hphase
      cases hphase
    rw [State.fail] at hfail
    split_ifs at hfail
    · cases hfail
      exact hstarted ((Function.update_of_ne hother _ _).trans hidle)
    · cases hfail
      exact hstarted ((Function.update_of_ne hother _ _).trans hidle)
  have hfinish : ∀ other breaker, q = p.finish other breaker → False := by
    rintro other breaker rfl
    by_cases hother : call = other
    · exact hstarted (hother ▸ Function.update_self ..)
    · exact hstarted ((Function.update_of_ne hother _ _).trans hidle)
  cases stepped h with
  | ticked ms            => exact absurd hidle hstarted
  | loaded saved         => exact absurd hidle hstarted
  | cleared              => exact absurd hidle hstarted
  | checked              => exact absurd hidle hstarted
  | refused _            => exact absurd hidle hstarted
  | executed other hstate => exact ⟨hstate, rfl, other, rfl⟩
  | succeeded _ _        => exact (hfinish _ _ rfl).elim
  | unreadable _ _       => exact (hfinish _ _ rfl).elim
  | timedOut hphase h    => exact (hfail _ _ _ _ _ hphase h).elim
  | failed hphase h      => exact (hfail _ _ _ _ _ hphase h).elim
  | @retried other attempt wakesAt hphase _ =>
    have hother : call ≠ other := by
      rintro rfl
      rw [hidle] at hphase
      cases hphase
    exact absurd ((Function.update_of_ne hother _ _).trans hidle) hstarted

/-- The breaker of a new process is closed until a call ends or the load arrives. -/
lemma fresh_step {p q : State} {action : Action} (h : step options p action = some q)
    (hload : ∀ saved, action ≠ .load saved)
    (hsettle : ∀ call outcome jitterMs, action ≠ .settle call outcome jitterMs)
    (hbreaker : p.breaker = initial) : q.breaker = initial := by
  have hchecked : p.breaker.checkCooldown options p.now = initial := by
    rw [hbreaker]
    rfl
  cases stepped h with
  | ticked ms       => exact hbreaker
  | loaded saved    => exact absurd rfl (hload saved)
  | cleared         => rfl
  | checked         => exact hchecked
  | refused _       => exact hchecked
  | executed _ _    => exact hchecked
  | succeeded _ _   => exact absurd rfl (hsettle _ _ _)
  | unreadable _ _  => exact absurd rfl (hsettle _ _ _)
  | timedOut _ _    => exact absurd rfl (hsettle _ _ _)
  | failed _ _      => exact absurd rfl (hsettle _ _ _)
  | retried _ _     => exact hbreaker

/-! ### Openings that are still known -/

/-- The breaker has been open since the opening or opened again. -/
def OpenSince (breaker : CircuitBreaker) (opening : ℕ) : Prop :=
  breaker.state = .opened ∧ opening ≤ breaker.lastFailureTime

/-- The invariant: in the cooldown of an opening, the breaker of a process that has loaded is open, and so
is the one that was persisted last, which is on its way to Redis or lives there until the end of it. -/
structure Covered (options : CircuitBreakerOptions) (s : Server) : Prop where
  past : ∀ opening ∈ s.openings, opening ≤ s.process.now
  fresh : s.loading ≠ .done → s.process.breaker = initial ∧ s.writes = []
  process : ∀ opening ∈ s.openings, s.process.now < opening + options.cooldownMs →
    s.loading = .done → OpenSince s.process.breaker opening
  sent : ∀ opening ∈ s.openings, s.process.now < opening + options.cooldownMs →
    ∀ breaker ∈ s.writes.getLast?, OpenSince breaker opening
  cached : ∀ opening ∈ s.openings, s.process.now < opening + options.cooldownMs → s.writes = [] →
    ∃ saved expiry, s.redis.entries cacheKey = some (saved, expiry) ∧ OpenSince saved opening ∧
      opening + options.cooldownMs ≤ expiry

lemma cooldownMs_le_ttl (options : CircuitBreakerOptions) :
    options.cooldownMs ≤ ttlSeconds options * 1000 := by
  rw [ttlSeconds]
  omega

/-- In its cooldown an open breaker stays open, but for the failures. -/
lemma OpenSince.moved {before after : CircuitBreaker} (h : OpenSince before opening)
    (hnow : now < opening + options.cooldownMs) (hle : opening ≤ now)
    (hmoved : Moved options before now after) :
    OpenSince after opening := by
  obtain ⟨hstate, hsince⟩ := h
  cases hmoved with
  | kept      => exact ⟨hstate, hsince⟩
  | checked   =>
    have hcooling : ¬ (before.state = .opened ∧ before.lastFailureTime + options.cooldownMs ≤ now) :=
      fun h => by omega
    rw [checkCooldown, if_neg hcooling]
    exact ⟨hstate, hsince⟩
  | succeeded =>
    refine ⟨?_, hsince⟩
    show (if before.state = .halfOpen then CircuitState.closed else before.state) = .opened
    rw [hstate]
    rfl
  | failed    =>
    refine ⟨state_recordFailure.mpr fun hclosed => ?_, hle⟩
    rw [hstate] at hclosed
    cases hclosed

lemma Moved.lastFailureTime_of_records {before after : CircuitBreaker}
    (hmoved : Moved options before now after) (hrecords : Records before after) :
    after.lastFailureTime = now := by
  cases hmoved with
  | kept      => exact absurd hrecords (lt_irrefl _)
  | checked   =>
    rw [Records, checkCooldown] at hrecords
    split_ifs at hrecords
    · exact absurd hrecords (lt_irrefl _)
    · exact absurd hrecords (lt_irrefl _)
  | succeeded => exact absurd hrecords (Nat.not_lt_zero _)
  | failed    => rfl

/-! ### Runs -/

lemma covered_initial : Covered options (Server.initial now) where
  past _ h := nomatch h
  fresh _ := ⟨rfl, rfl⟩
  process _ h := nomatch h
  sent _ h := nomatch h
  cached _ h := nomatch h

lemma ne_of_persists {before after : CircuitBreaker} {action : Action}
    (h : persists before after action = true) : after ≠ before := by
  rintro rfl
  cases action <;> simp [persists, Records] at h

lemma Covered.step {action : Action} {process : State} (h : Covered options s)
    (hload : ∀ saved, action ≠ .load saved) (hreset : action ≠ .reset)
    (hsettle : ∀ call outcome jitterMs, action = .settle call outcome jitterMs → s.loading = .done)
    (hstep : CircuitBreaker.step options s.process action = some process)
    (hconnected : persists s.process.breaker process.breaker action = true →
      s.isRedisConnected = true) :
    Covered options (s.afterProcess options action process) := by
  obtain ⟨hmoved, hnow, hchanged⟩ := moved_step hstep hload hreset
  -- a process that has not loaded has not moved its breaker
  have hfresh : s.loading ≠ .done → process.breaker = initial := by
    intro hnone
    refine fresh_step hstep hload (fun call outcome jitterMs hcall => ?_) (h.fresh hnone).1
    exact hnone (hsettle call outcome jitterMs hcall)
  have hloaded_of_ne : process.breaker ≠ s.process.breaker → s.loading = .done := by
    intro hne
    by_contra hnone
    exact hne ((hfresh hnone).trans (h.fresh hnone).1.symm)
  have hpast : ∀ opening ∈ (s.afterProcess options action process).openings,
      opening ≤ process.now := by
    intro opening hopening
    rcases mem_openings_afterProcess hopening with hold | ⟨rfl, -⟩
    · exact (h.past opening hold).trans hnow
    · exact le_rfl
  have hprocess : ∀ opening ∈ (s.afterProcess options action process).openings,
      process.now < opening + options.cooldownMs → s.loading = .done →
        OpenSince process.breaker opening := by
    intro opening hopening hcooling hready
    rcases mem_openings_afterProcess hopening with hold | ⟨rfl, hopened, hrecords⟩
    · have hbefore : s.process.now < opening + options.cooldownMs := hnow.trans_lt hcooling
      exact (h.process opening hold hbefore hready).moved hbefore (h.past opening hold) hmoved
    · refine ⟨hopened, ?_⟩
      have hne : process.breaker ≠ s.process.breaker := by
        intro heq
        rw [heq] at hrecords
        exact lt_irrefl _ hrecords
      rw [hmoved.lastFailureTime_of_records hrecords, hchanged hne]
  have hold_of : persists s.process.breaker process.breaker action ≠ true →
      ∀ opening ∈ (s.afterProcess options action process).openings, opening ∈ s.openings := by
    intro hpersists opening hopening
    rcases mem_openings_afterProcess hopening with hold | ⟨-, -, hrecords⟩
    · exact hold
    · refine absurd ?_ hpersists
      cases action with
      | reset => exact absurd rfl hreset
      | tick _ | getState | load _ | execute _ | settle _ _ _ | retry _ =>
        exact decide_eq_true (.inr hrecords)
  rw [afterProcess_eq hconnected]
  refine ⟨hpast, fun hnone => ⟨hfresh hnone, ?_⟩, hprocess, ?_, ?_⟩
  · have hkept : ¬ persists s.process.breaker process.breaker action = true :=
      fun hpersists => hnone (hloaded_of_ne (ne_of_persists hpersists))
    exact (if_neg hkept).trans (h.fresh hnone).2
  · intro opening hopening hcooling breaker hlast
    by_cases hpersists : persists s.process.breaker process.breaker action = true
    · simp only [if_pos hpersists, List.getLast?_concat, Option.mem_some_iff] at hlast
      rw [← hlast]
      exact hprocess opening hopening hcooling (hloaded_of_ne (ne_of_persists hpersists))
    · simp only [if_neg hpersists] at hlast
      exact h.sent opening (hold_of hpersists opening hopening) (hnow.trans_lt hcooling) breaker hlast
  · intro opening hopening hcooling hnone
    by_cases hpersists : persists s.process.breaker process.breaker action = true
    · simp [if_pos hpersists] at hnone
    · simp only [if_neg hpersists] at hnone
      exact h.cached opening (hold_of hpersists opening hopening) (hnow.trans_lt hcooling) hnone

lemma Covered.load (h : Covered options s) (hreading : s.loading = .reading) :
    Covered options (s.loadFrom s.redis) := by
  have hnone := (h.fresh (by rw [hreading]; nofun)).2
  refine ⟨h.past, fun hdone => absurd rfl hdone, fun opening hopening hcooling _ => ?_, h.sent,
    h.cached⟩
  obtain ⟨saved, expiry, hentry, hsince, hlives⟩ := h.cached opening hopening hcooling hnone
  have hget : s.redis.get s.process.now cacheKey = some saved :=
    TtlStore.get_of_entry hentry (hcooling.le.trans hlives)
  simp only [Server.loadFrom, hget]
  exact hsince

/-- The writes reach Redis in the order in which they were sent. -/
lemma Covered.written {breaker : CircuitBreaker} {later : List CircuitBreaker}
    (h : Covered options s) (hwrites : s.writes = breaker :: later) :
    Covered options (if 0 < ttlSeconds options then
      { s with writes := later }.redisPut options breaker
    else { s with writes := later }.fallbackPut options breaker) := by
  have hdone : s.loading = .done := by
    by_contra hnone
    exact List.cons_ne_nil _ _ (hwrites.symm.trans (h.fresh hnone).2)
  have hlast : ∀ other ∈ later.getLast?, other ∈ s.writes.getLast? := by
    intro other hother
    rw [hwrites, List.getLast?_cons, Option.mem_def.mp hother]
    rfl
  split_ifs with hlives
  · rw [Server.redisPut, if_pos hlives]
    refine ⟨h.past, fun hnone => absurd hdone hnone, h.process,
      fun opening hopening hcooling other hother =>
        h.sent opening hopening hcooling other (hlast other hother),
      fun opening hopening hcooling hnone => ?_⟩
    have hsince : OpenSince breaker opening := by
      refine h.sent opening hopening hcooling breaker ?_
      rw [hwrites, show later = [] from hnone]
      rfl
    have hle := cooldownMs_le_ttl options
    have hpast := h.past opening hopening
    rw [TtlStore.entries_set_self]
    exact ⟨breaker, _, rfl, hsince, by simp only; omega⟩
  · -- an opening is in no cooldown
    have hnever : ∀ opening ∈ s.openings, ¬ s.process.now < opening + options.cooldownMs := by
      intro opening hopening hcooling
      have hle := cooldownMs_le_ttl options
      have hpast := h.past opening hopening
      omega
    exact ⟨h.past, fun hnone => absurd hdone hnone, h.process,
      fun opening hopening hcooling => absurd hcooling (hnever opening hopening),
      fun opening hopening hcooling => absurd hcooling (hnever opening hopening)⟩

lemma covered_serverStep {action : ServerAction} (h : Covered options s)
    (ht : serverStep options s action = some t) (hkeeps : KeepsInRedis s action t) :
    Covered options t := by
  cases action with
  | connect => cases ht; exact ⟨h.past, h.fresh, h.process, h.sent, h.cached⟩
  | error => cases ht; exact ⟨h.past, h.fresh, h.process, h.sent, h.cached⟩
  | evict => cases ht; exact ⟨h.past, h.fresh, h.process, h.sent, h.cached⟩
  | restart landed =>
    have hnone : s.writes = [] := hkeeps
    rw [serverStep, hnone, List.take_nil, List.foldl_nil] at ht
    cases ht
    exact ⟨h.past, fun _ => ⟨rfl, rfl⟩, nofun, fun _ _ _ => nofun,
      fun opening hopening hcooling _ => h.cached opening hopening hcooling hnone⟩
  | create =>
    have hconnected : s.isRedisConnected = true := hkeeps
    rw [serverStep] at ht
    split_ifs at ht with habsent
    cases ht
    have hfresh := h.fresh (by rw [habsent]; nofun)
    exact ⟨h.past, fun _ => hfresh, nofun, h.sent, h.cached⟩
  | loadReply =>
    rw [serverStep] at ht
    split_ifs at ht with hreading
    cases ht
    exact h.load hreading
  | loadFails => exact hkeeps.elim
  | written =>
    rw [serverStep] at ht
    split at ht
    · cases ht
    · rename_i breaker later hwrites
      cases ht
      exact h.written hwrites
  | writeFails executed => exact hkeeps.elim
  | process action =>
    obtain ⟨hload, process, hstep, rfl⟩ := serverStep_process ht
    cases action with
    | load saved => exact absurd rfl (hload saved)
    | reset => exact hkeeps.elim
    | tick ms =>
      refine h.step hload nofun nofun hstep fun hpersists => ?_
      cases hstep
      exact absurd rfl (ne_of_persists hpersists)
    | getState => exact h.step hload nofun nofun hstep fun _ => hkeeps
    | execute call => exact h.step hload nofun nofun hstep fun _ => hkeeps
    | retry call => exact h.step hload nofun nofun hstep fun _ => hkeeps
    | settle call outcome jitterMs =>
      exact h.step hload nofun (fun _ _ _ _ => hkeeps.2) hstep fun _ => hkeeps.1

lemma startsLate_of_covered {action : ServerAction} (h : Covered options s)
    (ht : serverStep options s action = some t) (hkeeps : KeepsInRedis s action t) :
    StartsLate options s action t := by
  intro hdone call hidle hstarted opening hopening
  cases action with
  | connect => cases ht; exact absurd hidle hstarted
  | error => cases ht; exact absurd hidle hstarted
  | evict => cases ht; exact absurd hidle hstarted
  | restart landed => cases ht; exact absurd rfl hstarted
  | create => simp [serverStep, hdone] at ht
  | loadReply => simp [serverStep, hdone] at ht
  | loadFails => simp [serverStep, hdone] at ht
  | written =>
    rw [serverStep] at ht
    split at ht
    · cases ht
    · cases ht
      refine absurd hidle ?_
      split_ifs at hstarted with hlives
      · rwa [process_redisPut] at hstarted
      · exact hstarted
  | writeFails executed => exact hkeeps.elim
  | process action =>
    obtain ⟨-, process, hstep, rfl⟩ := serverStep_process ht
    rw [process_afterProcess] at hstarted ⊢
    obtain ⟨hstate, hnow, other, rfl⟩ := started_step hstep hidle hstarted
    rw [hnow]
    by_contra hcooling
    rw [Nat.not_le] at hcooling
    have hsince := h.process opening hopening hcooling hdone
    exact hstate (hsince.moved hcooling (h.past opening hopening) .checked).1

/-- Where the state is kept in Redis, no call that comes after the load of its process starts in the cooldown
of an opening that any process has seen. -/
theorem suspended_across_restarts (options : CircuitBreakerOptions) (now : ℕ)
    (actions : List ServerAction)
    (hall : AllSteps (serverStep options) KeepsInRedis (Server.initial now) actions) :
    AllSteps (serverStep options) (StartsLate options) (Server.initial now) actions :=
  AllSteps.of_invariant (fun _ _ _ h ht hkeeps => covered_serverStep h ht hkeeps)
    (fun _ _ _ h ht hkeeps => startsLate_of_covered h ht hkeeps) covered_initial hall

/-- A call fails for good, and a second later another process executes one. -/
def acrossRestart : List ServerAction :=
  [.connect, .create, .loadReply, .process (.execute 0),
    .process (.settle 0 (.failed ⟨some 400, none, none⟩) 0), .written, .restart 0, .connect, .create,
    .loadReply, .process (.tick 1000), .process (.execute 1)]

instance (s : Server) (action : ServerAction) (t : Server) : Decidable (KeepsInRedis s action t) :=
  match action with
  | .process (.tick _)       => isTrue trivial
  | .process .reset          => isFalse id
  | .process (.settle _ _ _) => inferInstanceAs (Decidable (_ = true ∧ _ = _))
  | .process (.load _)       => inferInstanceAs (Decidable (_ = true))
  | .process .getState       => inferInstanceAs (Decidable (_ = true))
  | .process (.execute _)    => inferInstanceAs (Decidable (_ = true))
  | .process (.retry _)      => inferInstanceAs (Decidable (_ = true))
  | .restart _               => inferInstanceAs (Decidable (_ = _))
  | .create                  => inferInstanceAs (Decidable (_ = true))
  | .loadFails               => isFalse id
  | .writeFails _            => isFalse id
  | .connect                 => isTrue trivial
  | .error                   => isTrue trivial
  | .evict                   => isTrue trivial
  | .loadReply               => isTrue trivial
  | .written                 => isTrue trivial

/-- It does not start. -/
theorem suspended_after_restart : ∃ s t, Run (serverStep firstFailure) (Server.initial 0)
    acrossRestart.dropLast s ∧ serverStep firstFailure s (.process (.execute 1)) = some t ∧
      t.process.phase 1 = .idle := by
  obtain ⟨s, hrun, hs⟩ := exists_run_of_execute (serverStep firstFailure) (Server.initial 0)
    acrossRestart.dropLast (fun s => s.loading = .done ∧ s.process.phase 1 = .idle ∧
      s.openings = [0] ∧ s.process.now = 1000 ∧
      (serverStep firstFailure s (.process (.execute 1))).any (·.process.now = 1000)) (by decide)
  simp only [decide_eq_true_eq] at hs
  obtain ⟨hdone, hidle, hopenings, -, hstep⟩ := hs
  obtain ⟨t, hstep, hnow⟩ := (Option.any_eq_true _ _).mp hstep
  rw [decide_eq_true_eq] at hnow
  have hall : AllSteps (serverStep firstFailure) (StartsLate firstFailure) (Server.initial 0)
      (acrossRestart.dropLast ++ [.process (.execute 1)]) :=
    suspended_across_restarts firstFailure 0 acrossRestart (by decide)
  refine ⟨s, t, hrun, hstep, ?_⟩
  by_contra hstarted
  have hlate := hall.at_step hrun hstep hdone 1 hidle hstarted 0 (by simp [hopenings])
  rw [hnow] at hlate
  exact absurd hlate (by decide)

/-- Without Redis it starts. -/
example : (execute (serverStep firstFailure) (Server.initial 0)
    [.create, .process (.execute 0), .process (.settle 0 (.failed ⟨some 400, none, none⟩) 0),
      .restart 0, .create, .process (.tick 1000), .process (.execute 1)]).any
    (fun s => s.openings = [0] ∧ s.process.phase 1 = .attempting 1 1000) = true := by
  decide

end CircuitBreaker

end CtrlRecovery
