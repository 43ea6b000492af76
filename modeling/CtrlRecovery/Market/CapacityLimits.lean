import CtrlRecovery.Core.SlidingWindow
import CtrlRecovery.Market.CapacityPolicy
import Mathlib.Algebra.BigOperators.Group.List.Basic
import Mathlib.Algebra.Order.Ring.Rat
import Mathlib.Tactic.Linarith

/-!
# Limits on links

The limits of an hour and of a customer's day are kept, and every counter is exact, in each state of a
run in which a write finds its counter as its recording has read it, and either as the evaluation has
found it or still below the limit, and goes to the store in use; in which a counter expires together
with all that it counts; and in which the two stores agree when the other one comes into use
(`respected_of_allSteps`).
-/

namespace CtrlRecovery

open Core

namespace CapacityPolicyManager

/-! ### Limits and counters -/

/-- A consumption that its counter should count. -/
def Consumption.Counts (now : ℕ) (w : Consumption) : Prop :=
  now ≤ w.time + w.counter.ttlSeconds * 1000

instance (now : ℕ) (w : Consumption) : Decidable (w.Counts now) :=
  inferInstanceAs (Decidable (_ ≤ _))

def due (now : ℕ) (key : String) (consumptions : List Consumption) : ℚ :=
  ((consumptions.filter fun w => w.key = key ∧ w.Counts now).map (·.amount)).sum

/-- The times of the consumptions of a merchant in its hourly counter. -/
def State.hourlyTimes (s : State) (merchantId : String) : List ℕ :=
  (s.consumptions.filter fun w => w.counter = .hourly ∧ w.merchantId = merchantId).map (·.time)

/-- The times of the consumptions of a customer in its counter. -/
def State.customerTimes (s : State) (merchantId customerId : String) : List ℕ :=
  (s.consumptions.filter fun w =>
    w.counter = .customer ∧ w.merchantId = merchantId ∧ w.customerId = customerId).map (·.time)

/-- The consumptions in the window of a counter from `start` on, both ends included. -/
def inWindow (counter : CapacityCounter) (start : ℕ) (times : List ℕ) : ℕ :=
  SlidingWindow.within (counter.ttlSeconds * 1000 + 1) start times

/-- The limits are kept, and each counter reads what it should. -/
structure Respected (policy : String → CapacityPolicy) (s : State) : Prop where
  hourly : ∀ merchantId start, inWindow .hourly start (s.hourlyTimes merchantId) ≤
    (policy merchantId).maxLinksPerHour
  customer : ∀ merchantId customerId start,
    inWindow .customer start (s.customerTimes merchantId customerId) ≤
      (policy merchantId).maxLinksPerCustomerPerDay
  exact : ∀ key, s.store.number s.now key = due s.now key s.consumptions

/-! ### The condition on a step -/

def linkLimit (policy : CapacityPolicy) : CapacityCounter → Option ℕ
  | .customer => some policy.maxLinksPerCustomerPerDay
  | .hourly   => some policy.maxLinksPerHour
  | _         => none

/-- A write to the given stores that nothing has come between, as far as its counter and the limit go.
-/
structure SafeWrite (policy : String → CapacityPolicy) (s : State) (agent : Agent)
    (counter : CapacityCounter) (current : ℚ) (counts : Counts) (toFallback toRedis : Bool) :
    Prop where
  current_eq : s.store.number s.now (agent.key counter) = current
  room : ∀ limit ∈ linkLimit (policy agent.merchantId) counter,
    s.store.number s.now (agent.key counter) = counts counter ∨
      s.store.number s.now (agent.key counter) < limit
  inUse : if s.store.isRedisConnected then toRedis else toFallback
  kept : toFallback → s.store.isRedisConnected = false → ∀ evicted ∈ s.store.evictedKey,
    evicted = agent.key counter ∨ s.store.fallbackNumber s.now evicted = 0

/-- What a counter counts leaves its period together with the counter. -/
def Spaced (s : State) (ms : ℕ) : Prop :=
  ∀ w ∈ s.consumptions, w.Counts s.now →
    (w.Counts (s.now + ms) ↔ s.store.isAlive (s.now + ms) w.key)

/-- The two stores agree on the counters. -/
def Agree (s : State) : Prop :=
  ∀ w ∈ s.consumptions, s.store.redisNumber s.now w.key = s.store.fallbackNumber s.now w.key

/-- The write that an agent is at: the counter, the number read by the recording, and the counts of the
evaluation. -/
def Agent.write (agent : Agent) : Option (CapacityCounter × ℚ × Counts) :=
  match agent.stage with
  | .writing counter current counts => some (counter, current, counts)
  | _                               => none

/-- A step that nothing has come between. -/
def Undisturbed (policy : String → CapacityPolicy) (s : State) (action : Action) (_ : State) : Prop :=
  match action with
  | .tick ms          => Spaced s ms
  | .connect          => s.store.isRedisConnected = false → Agree s
  | .error            => s.store.isRedisConnected = true → Agree s
  | .resume id        =>
    s.store.isRedisConnected = false → ∀ agent ∈ s.agents id, ∀ w ∈ agent.write,
      SafeWrite policy s agent w.1 w.2.1 w.2.2 true false
  | .reply id         =>
    ∀ agent ∈ s.agents id, ∀ w ∈ agent.write,
      SafeWrite policy s agent w.1 w.2.1 w.2.2 false true
  | .fail id executed =>
    ∀ agent ∈ s.agents id, ∀ w ∈ agent.write,
      SafeWrite policy s agent w.1 w.2.1 w.2.2 true executed
  | _                 => True

instance (policy : String → CapacityPolicy) (s : State) (agent : Agent)
    (counter : CapacityCounter) (current : ℚ) (counts : Counts) (toFallback toRedis : Bool) :
    Decidable (SafeWrite policy s agent counter current counts toFallback toRedis) :=
  decidable_of_iff (_ ∧ _ ∧ _ ∧ _)
    ⟨fun h => ⟨h.1, h.2.1, h.2.2.1, h.2.2.2⟩, fun h => ⟨h.current_eq, h.room, h.inUse, h.kept⟩⟩

instance (s : State) (ms : ℕ) : Decidable (Spaced s ms) := inferInstanceAs (Decidable (∀ _ ∈ _, _))

instance (s : State) : Decidable (Agree s) := inferInstanceAs (Decidable (∀ _ ∈ _, _))

instance (policy : String → CapacityPolicy) (s : State) (action : Action) (t : State) :
    Decidable (Undisturbed policy s action t) :=
  match action with
  | .tick ms      => inferInstanceAs (Decidable (Spaced s ms))
  | .connect      => inferInstanceAs (Decidable (_ → _))
  | .error        => inferInstanceAs (Decidable (_ → _))
  | .cleanup      => inferInstanceAs (Decidable True)
  | .evaluate ..  => inferInstanceAs (Decidable True)
  | .resume _     => inferInstanceAs (Decidable (_ → ∀ _ ∈ _, ∀ _ ∈ _, _))
  | .reply _      => inferInstanceAs (Decidable (∀ _ ∈ _, ∀ _ ∈ _, _))
  | .fail ..      => inferInstanceAs (Decidable (∀ _ ∈ _, ∀ _ ∈ _, _))

/-! ### What a counter should be -/

lemma counter_eq_of_key_eq {a b : CapacityCounter} {m m' c c' : String}
    (h : a.key m c = b.key m' c') : a = b := by
  have hchars := congrArg String.toList h
  cases a <;> cases b <;>
    simp [CapacityCounter.key_customer, CapacityCounter.key_hourly, CapacityCounter.key_daily,
      CapacityCounter.key_budget, String.toList_append] at hchars ⊢

variable {now : ℕ} {key : String} {w : Consumption} {cs : List Consumption}
  {counter : CapacityCounter}

lemma due_cons : due now key (w :: cs) =
    (if w.key = key ∧ w.Counts now then w.amount else 0) + due now key cs := by
  rw [due, List.filter_cons, due]
  split_ifs with h h' h'
  · rw [List.map_cons, List.sum_cons]
  · simp_all
  · simp_all
  · rw [zero_add]

lemma due_congr {now' : ℕ} (h : ∀ w ∈ cs, w.key = key → (w.Counts now' ↔ w.Counts now)) :
    due now' key cs = due now key cs := by
  rw [due, due]
  congr 2
  apply List.filter_congr
  intro w hw
  rw [decide_eq_decide]
  exact and_congr_right fun hkey => h w hw hkey

lemma due_eq_zero (h : ∀ w ∈ cs, w.key = key → ¬ w.Counts now) : due now key cs = 0 := by
  rw [due, List.filter_eq_nil_iff.mpr]
  · rfl
  · intro w hw
    rw [decide_eq_true_eq]
    rintro ⟨hkey, hcounts⟩
    exact h w hw hkey hcounts

lemma amount_eq_one {counter : CapacityCounter} {m c : String}
    (hlinks : counter = .hourly ∨ counter = .customer) (h : w.key = counter.key m c) :
    w.amount = 1 := by
  have hcounter : w.counter = counter := counter_eq_of_key_eq h
  rw [Consumption.amount, hcounter]
  rcases hlinks with rfl | rfl <;> rfl

/-- A counter of links is not below the number of its recent consumptions. -/
lemma recent_le_due {q : Consumption → Bool} (hq : ∀ w, q w → w.key = key ∧ w.counter = counter)
    (hone : ∀ w : Consumption, w.key = key → w.amount = 1) (now : ℕ) (cs : List Consumption) :
    (SlidingWindow.recent (counter.ttlSeconds * 1000 + 1) now ((cs.filter q).map (·.time)) : ℚ) ≤
      due now key cs := by
  induction cs with
  | nil => simp [SlidingWindow.recent, due]
  | cons w cs ih =>
    have hamount : (0 : ℚ) ≤ if w.key = key ∧ w.Counts now then w.amount else 0 := by
      split_ifs with h
      · rw [hone w h.1]
        exact zero_le_one
      · exact le_rfl
    rw [due_cons]
    by_cases hw : q w = true
    · obtain ⟨hkey, hcounter⟩ := hq w hw
      rw [List.filter_cons_of_pos hw, List.map_cons, SlidingWindow.recent_cons]
      by_cases hcounts : w.Counts now
      · have hrecent : now < w.time + (counter.ttlSeconds * 1000 + 1) := by
          rw [Consumption.Counts, hcounter] at hcounts
          omega
        rw [if_pos hrecent, if_pos ⟨hkey, hcounts⟩, hone w hkey]
        push_cast
        linarith
      · have hold : ¬ now < w.time + (counter.ttlSeconds * 1000 + 1) := by
          rw [Consumption.Counts, hcounter] at hcounts
          omega
        rw [if_neg hold, Nat.add_zero]
        linarith
    · rw [List.filter_cons_of_neg hw]
      linarith

/-! ### What an agent has checked -/

/-- The counts are below the limit of a counter. -/
def Passed (policy : CapacityPolicy) (counts : Counts) (counter : CapacityCounter) : Prop :=
  ∀ limit ∈ linkLimit policy counter, counts counter < limit

/-- The limits that an agent has found its counts below. -/
def Agent.Checked (policy : CapacityPolicy) (agent : Agent) : Prop :=
  match agent.stage with
  | .evaluating .customer _    => True
  | .evaluating .hourly counts => Passed policy counts .customer
  | .evaluated result counts   => result.allowed → ∀ counter, Passed policy counts counter
  | .evaluating _ counts       => ∀ counter, Passed policy counts counter
  | .reading _ counts          => ∀ counter, Passed policy counts counter
  | .writing _ _ counts        => ∀ counter, Passed policy counts counter
  | .recorded                  => True

/-- A counter that does not refuse is below its limit. -/
lemma passed_of_refusal {policy : CapacityPolicy} {cost : ℚ} {counts : Counts}
    {counter : CapacityCounter} (h : refusal policy cost counts counter = none) :
    Passed policy counts counter := by
  intro limit hlimit
  cases counter with
  | customer =>
    cases hlimit
    rw [refusal] at h
    split_ifs at h with hle
    exact not_le.mp hle
  | hourly =>
    cases hlimit
    rw [refusal] at h
    split_ifs at h with hle
    exact not_le.mp hle
  | daily => cases hlimit
  | budget => cases hlimit

lemma passed_update {policy : CapacityPolicy} {counts : Counts} {counter other : CapacityCounter}
    {number : ℚ} (h : Passed policy counts counter) (hne : counter ≠ other) :
    Passed policy (Function.update counts other number) counter := by
  intro limit hlimit
  rw [Function.update_of_ne hne]
  exact h limit hlimit

lemma passed_of_links {policy : CapacityPolicy} {counts : Counts}
    (hcustomer : Passed policy counts .customer) (hhourly : Passed policy counts .hourly) :
    ∀ counter, Passed policy counts counter
  | .customer => hcustomer
  | .hourly   => hhourly
  | .daily    => nofun
  | .budget   => nofun

lemma not_allowed_of_refusal {policy : CapacityPolicy} {cost : ℚ} {counts : Counts}
    {counter : CapacityCounter} {result : CapacityCheckResult}
    (h : refusal policy cost counts counter = some result) : result.allowed = false := by
  cases counter <;>
  · rw [refusal] at h
    split_ifs at h
    cases h
    rfl

/-- An agent goes on only after a counter below its limit. -/
lemma Agent.Checked.nextStage {policy : CapacityPolicy} {agent : Agent} (h : agent.Checked policy)
    (number : ℚ) :
    ({ agent with stage := agent.nextStage policy number, sent := false } : Agent).Checked
      policy := by
  rcases agent with ⟨merchantId, customerId, cost, stage, sent⟩
  cases stage with
  | evaluating counter counts =>
    rw [Agent.nextStage]
    dsimp only
    cases hrefusal : refusal policy cost (Function.update counts counter number) counter with
    | some result =>
      intro hallowed
      rw [not_allowed_of_refusal hrefusal] at hallowed
      cases hallowed
    | none =>
      have hpassed := passed_of_refusal hrefusal
      cases counter with
      | customer => exact hpassed
      | hourly => exact passed_of_links (passed_update h nofun) hpassed
      | daily =>
        exact passed_of_links (passed_update (h .customer) nofun) (passed_update (h .hourly) nofun)
      | budget =>
        intro _
        exact passed_of_links (passed_update (h .customer) nofun) (passed_update (h .hourly) nofun)
  | evaluated result counts => exact h
  | reading counter counts => exact h
  | writing counter current counts =>
    cases counter with
    | budget => trivial
    | _ => exact h
  | recorded => trivial

/-! ### The keys in the stores -/

variable {store : CounterStore} {keys : List String}

/-- The stores have entries of the counters of these keys only. -/
structure Holds (store : CounterStore) (keys : List String) : Prop where
  redis : ∀ key, (store.redis.entries key).isSome → key ∈ keys
  fallback : ∀ key, (store.fallbackStore.find? key).isSome → key ∈ keys

lemma Holds.mono {keys' : List String} (h : Holds store keys) (hkeys : keys ⊆ keys') :
    Holds store keys' :=
  ⟨fun key hkey => hkeys (h.redis key hkey), fun key hkey => hkeys (h.fallback key hkey)⟩

lemma Holds.erase (h : Holds store keys) :
    Holds { store with fallbackStore := store.fallbackStore.erase key } keys := by
  refine ⟨h.redis, fun j hj => h.fallback j ?_⟩
  rw [Table.find?_erase] at hj
  split_ifs at hj
  · cases hj
  · exact hj

lemma Holds.dropExpired (h : Holds store keys) : Holds (store.dropExpired now key) keys := by
  rw [CounterStore.dropExpired]
  split_ifs
  · exact h.erase
  · exact h

lemma Holds.evictOldest (h : Holds store keys) : Holds store.evictOldest keys := by
  rw [CounterStore.evictOldest]
  split
  · exact h.erase
  · exact h

lemma Holds.cleanup (h : Holds store keys) : Holds (store.cleanup now) keys := by
  refine ⟨h.redis, fun j hj => h.fallback j ?_⟩
  obtain ⟨entry, hentry⟩ := Option.isSome_iff_exists.mp hj
  rw [CounterStore.cleanup, Table.find?_eq_some_iff, List.mem_filter] at hentry
  rw [Option.isSome_iff_exists]
  exact ⟨entry, Table.find?_eq_some_iff.mpr ⟨hentry.1.1, hentry.2⟩⟩

lemma Holds.fallbackSet {value : ℚ} {ttlSeconds : ℕ} (h : Holds store keys) (hkey : key ∈ keys) :
    Holds (store.fallbackSet now key value ttlSeconds) keys := by
  refine ⟨h.evictOldest.redis, fun j hj => ?_⟩
  rw [CounterStore.fallbackSet, Table.find?_put] at hj
  split_ifs at hj with hjk
  · rw [hjk]
    exact hkey
  · exact h.evictOldest.fallback j hj

lemma Holds.redisSet {value : ℚ} {ttlSeconds : ℕ} (h : Holds store keys) (hkey : key ∈ keys) :
    Holds (store.redisSet now key value ttlSeconds) keys := by
  refine ⟨fun j hj => ?_, h.fallback⟩
  by_cases hjk : j = key
  · rw [hjk]
    exact hkey
  · rw [CounterStore.redisSet, TtlStore.entries_set_of_ne hjk] at hj
    exact h.redis j hj

lemma Holds.redisNumber_eq_zero (h : Holds store keys) (hkey : key ∉ keys) :
    store.redisNumber now key = 0 := by
  have hnone : store.redis.entries key = none := by
    rw [← Option.not_isSome_iff_eq_none]
    exact fun hsome => hkey (h.redis key hsome)
  rw [CounterStore.redisNumber, TtlStore.get, hnone]
  rfl

lemma Holds.fallbackNumber_eq_zero (h : Holds store keys) (hkey : key ∉ keys) :
    store.fallbackNumber now key = 0 := by
  have hnone : store.fallbackStore.find? key = none := by
    rw [← Option.not_isSome_iff_eq_none]
    exact fun hsome => hkey (h.fallback key hsome)
  rw [CounterStore.fallbackNumber, CounterStore.fallbackEntry, hnone]
  rfl

/-! ### Steps -/

variable {policy : String → CapacityPolicy} {s t : State} {agent : Agent}
  {current : ℚ} {counts : Counts}

/-- What a run keeps. -/
structure Consistent (policy : String → CapacityPolicy) (s : State) : Prop where
  respected : Respected policy s
  checked : ∀ id, ∀ agent ∈ s.agents id, agent.Checked (policy agent.merchantId)
  holds : Holds s.store (s.consumptions.map (·.key))

/-- A write that leaves its counter as it should be, below the limit until now, keeps the limits. -/
lemma Respected.record (h : Respected policy s)
    (hstage : agent.stage = .writing counter current counts)
    (hnumber : ∀ key, store.number s.now key =
      (if agent.key counter = key then agent.increment counter else 0) + s.store.number s.now key)
    (hroom : ∀ limit ∈ linkLimit (policy agent.merchantId) counter,
      s.store.number s.now (agent.key counter) < limit) :
    Respected policy ({ s with store := store }.record agent) := by
  have hrecord : { s with store := store }.record agent =
      { s with
        store := store
        consumptions := ⟨counter, agent.merchantId, agent.customerId, agent.operationalCostPaise,
          s.now⟩ :: s.consumptions } := by
    rw [State.record, hstage]
  -- Before the write, what is recent was below the limit.
  have hrecent : ∀ {limit : ℕ} {q : Consumption → Bool},
      linkLimit (policy agent.merchantId) counter = some limit →
      (∀ w, q w → w.key = agent.key counter ∧ w.counter = counter) →
      SlidingWindow.recent (counter.ttlSeconds * 1000 + 1) s.now
        ((s.consumptions.filter q).map (·.time)) < limit := by
    intro limit q hlimit hq
    have hlinks : counter = .hourly ∨ counter = .customer := by
      cases counter <;> simp [linkLimit] at hlimit ⊢
    have hle := recent_le_due hq (fun w hw => amount_eq_one hlinks hw) s.now s.consumptions
    rw [← h.exact] at hle
    exact_mod_cast hle.trans_lt (hroom limit hlimit)
  rw [hrecord]
  constructor
  · intro merchantId start
    show inWindow .hourly start (List.map _ (List.filter _ (_ :: s.consumptions))) ≤ _
    rw [List.filter_cons]
    dsimp only
    split_ifs with hwritten
    · simp only [decide_eq_true_eq] at hwritten
      obtain ⟨rfl, rfl⟩ := hwritten
      rw [List.map_cons]
      refine SlidingWindow.within_cons_le (h.hourly agent.merchantId) ?_ start
      refine hrecent rfl fun w hw => ?_
      simp only [decide_eq_true_eq] at hw
      exact ⟨by rw [Consumption.key, hw.1, hw.2]; rfl, hw.1⟩
    · exact h.hourly merchantId start
  · intro merchantId customerId start
    show inWindow .customer start (List.map _ (List.filter _ (_ :: s.consumptions))) ≤ _
    rw [List.filter_cons]
    dsimp only
    split_ifs with hwritten
    · simp only [decide_eq_true_eq] at hwritten
      obtain ⟨rfl, rfl, rfl⟩ := hwritten
      rw [List.map_cons]
      refine SlidingWindow.within_cons_le (h.customer agent.merchantId agent.customerId) ?_ start
      refine hrecent rfl fun w hw => ?_
      simp only [decide_eq_true_eq] at hw
      exact ⟨by rw [Consumption.key, hw.1, hw.2.1, hw.2.2]; rfl, hw.1⟩
    · exact h.customer merchantId customerId start
  · intro key
    show store.number s.now key = due s.now key (_ :: s.consumptions)
    rw [hnumber, due_cons, h.exact]
    congr 1
    have hcounts : Consumption.Counts s.now ⟨counter, agent.merchantId, agent.customerId,
      agent.operationalCostPaise, s.now⟩ := Nat.le_add_right ..
    simp only [hcounts, and_true]
    rfl

lemma Respected.of_number (h : Respected policy s)
    (hnumber : ∀ key, store.number s.now key = s.store.number s.now key) :
    Respected policy { s with store := store } :=
  ⟨h.hourly, h.customer, fun key => (hnumber key).trans (h.exact key)⟩

lemma agents_setAgent (s : State) (id id' : ℕ) (agent : Agent) :
    (s.setAgent id agent).agents id' = if id' = id then some agent else s.agents id' :=
  Function.update_apply ..

/-- A command that is done leaves the run consistent when its record and its stores do. -/
lemma Consistent.complete {id : ℕ} {number : ℚ} (h : Consistent policy s)
    (hagent : s.agents id = some agent)
    (hrespected : Respected policy ({ s with store := store }.record agent))
    (hholds : Holds store (({ s with store := store }.record agent).consumptions.map Consumption.key)) :
    Consistent policy (s.complete policy id agent store number) := by
  have hstore : ({ s with store := store }.record agent).store = store := by
    rw [State.record]
    split <;> rfl
  have hagents : ({ s with store := store }.record agent).agents = s.agents := by
    rw [State.record]
    split <;> rfl
  refine ⟨⟨hrespected.hourly, hrespected.customer, hrespected.exact⟩, fun id' agent' hagent' => ?_,
    ?_⟩
  · rw [State.complete, agents_setAgent, hagents] at hagent'
    split_ifs at hagent'
    · cases hagent'
      exact (h.checked id agent hagent).nextStage number
    · exact h.checked id' agent' hagent'
  · show Holds ({ s with store := store }.record agent).store _
    rw [hstore]
    exact hholds

/-- An agent that issues a command, or begins to record, has checked as much as before. -/
lemma Consistent.setAgent {id : ℕ} (h : Consistent policy s)
    (hchecked : agent.Checked (policy agent.merchantId)) :
    Consistent policy (s.setAgent id agent) := by
  refine ⟨⟨h.respected.hourly, h.respected.customer, h.respected.exact⟩,
    fun id' agent' hagent' => ?_, h.holds⟩
  rw [agents_setAgent] at hagent'
  split_ifs at hagent'
  · cases hagent'
    exact hchecked
  · exact h.checked id' agent' hagent'

/-- The time goes on while the counters live as long as what they count. -/
lemma Consistent.tick {ms : ℕ} (h : Consistent policy s) (hspaced : Spaced s ms) :
    Consistent policy { s with now := s.now + ms } := by
  refine ⟨⟨h.respected.hourly, h.respected.customer, fun key => ?_⟩, h.checked, h.holds⟩
  show s.store.number (s.now + ms) key = due (s.now + ms) key s.consumptions
  have hle : s.now ≤ s.now + ms := Nat.le_add_right ..
  have hsame : ∀ w ∈ s.consumptions, w.key = key →
      (w.Counts (s.now + ms) ↔ w.Counts s.now ∧ s.store.isAlive (s.now + ms) key) := by
    rintro w hw rfl
    constructor
    · intro hlater
      have hcounts : w.Counts s.now := hle.trans hlater
      exact ⟨hcounts, (hspaced w hw hcounts).mp hlater⟩
    · rintro ⟨hcounts, halive⟩
      exact (hspaced w hw hcounts).mpr halive
  by_cases halive : s.store.isAlive (s.now + ms) key = true
  · rw [CounterStore.number_of_isAlive hle halive, h.respected.exact]
    symm
    apply due_congr
    intro w hw hkey
    rw [hsame w hw hkey, and_iff_left halive]
  · rw [CounterStore.number_of_not_isAlive (by simpa using halive), due_eq_zero]
    intro w hw hkey hlater
    exact halive ((hsame w hw hkey).mp hlater).2

/-- Stores that agree can be switched. -/
lemma Consistent.switch {connected : Bool} (h : Consistent policy s)
    (hagree : s.store.isRedisConnected ≠ connected → Agree s) :
    Consistent policy { s with store := { s.store with isRedisConnected := connected } } := by
  by_cases hsame : s.store.isRedisConnected = connected
  · subst hsame
    exact h
  · refine ⟨h.respected.of_number fun key => ?_, h.checked, h.holds.redis, h.holds.fallback⟩
    have heq : s.store.redisNumber s.now key = s.store.fallbackNumber s.now key := by
      by_cases hkey : key ∈ s.consumptions.map (·.key)
      · obtain ⟨w, hw, rfl⟩ := List.mem_map.mp hkey
        exact hagree hsame w hw
      · rw [h.holds.redisNumber_eq_zero hkey, h.holds.fallbackNumber_eq_zero hkey]
    cases connected with
    | true =>
      have hold : s.store.number s.now key = s.store.fallbackNumber s.now key :=
        CounterStore.number_of_fallback (by simpa using hsame)
      rw [hold, ← heq]
      rfl
    | false =>
      have hold : s.store.number s.now key = s.store.redisNumber s.now key :=
        CounterStore.number_of_redis (by simpa using hsame)
      rw [hold, heq]
      rfl

/-- A `get` that is done changes no counter. -/
lemma Consistent.get {id : ℕ} {number : ℚ} {key : String} (h : Consistent policy s)
    (hagent : s.agents id = some agent) (hcommand : agent.command = some (.get key))
    (hnumber : ∀ key, store.number s.now key = s.store.number s.now key)
    (hholds : Holds store (s.consumptions.map Consumption.key)) :
    Consistent policy (s.complete policy id agent store number) := by
  have hrecord : { s with store := store }.record agent = { s with store := store } := by
    rw [State.record]
    cases hstage : agent.stage with
    | writing => simp [Agent.command, hstage] at hcommand
    | _ => rfl
  refine h.complete hagent ?_ ?_
  · rw [hrecord]
    exact h.respected.of_number hnumber
  · rw [hrecord]
    exact hholds

/-- A `set` that is done keeps the limits when nothing has come between. -/
lemma Consistent.set {id : ℕ} {number : ℚ} {toFallback toRedis : Bool} (h : Consistent policy s)
    (hagent : s.agents id = some agent) (hstage : agent.stage = .writing counter current counts)
    (hsafe : SafeWrite policy s agent counter current counts toFallback toRedis)
    (hnumber : ∀ key, store.number s.now key = if key = agent.key counter then
      current + agent.increment counter else s.store.number s.now key)
    (hholds : Holds store (agent.key counter :: s.consumptions.map Consumption.key)) :
    Consistent policy (s.complete policy id agent store number) := by
  have hchecked : ∀ counter, Passed (policy agent.merchantId) counts counter := by
    have h := h.checked id agent hagent
    rwa [Agent.Checked, hstage] at h
  refine h.complete hagent (h.respected.record hstage (fun key => ?_) fun limit hlimit => ?_) ?_
  · rw [hnumber]
    split_ifs with hkey hkey' hkey'
    · rw [hkey, hsafe.current_eq, add_comm]
    · exact absurd hkey.symm hkey'
    · exact absurd hkey'.symm hkey
    · rw [zero_add]
  · rcases hsafe.room limit hlimit with hfound | hbelow
    · rw [hfound]
      exact hchecked counter limit hlimit
    · exact hbelow
  · rw [State.record, hstage]
    exact hholds

/-- The command of an agent is a read, or the write of its stage. -/
lemma Agent.command_cases {command : CounterStore.Command} (h : agent.command = some command) :
    (∃ key, command = .get key) ∨ ∃ counter current counts,
      agent.write = some (counter, current, counts) ∧
        agent.stage = .writing counter current counts ∧
        command = .set (agent.key counter) (current + agent.increment counter)
          counter.ttlSeconds := by
  rw [Agent.command] at h
  rw [Agent.write]
  cases hstage : agent.stage with
  | writing counter current counts =>
    rw [hstage] at h
    cases h
    exact .inr ⟨counter, current, counts, rfl, rfl, rfl⟩
  | evaluating counter counts =>
    rw [hstage] at h
    cases h
    exact .inl ⟨_, rfl⟩
  | reading counter counts =>
    rw [hstage] at h
    cases h
    exact .inl ⟨_, rfl⟩
  | evaluated result counts =>
    rw [hstage] at h
    cases h
  | recorded =>
    rw [hstage] at h
    cases h

lemma Consistent.fallback {id : ℕ} {number : ℚ} {command : CounterStore.Command}
    (h : Consistent policy s) (hagent : s.agents id = some agent)
    (hcommand : agent.command = some command) (hconnected : s.store.isRedisConnected = false)
    (hsafe : ∀ w ∈ agent.write, SafeWrite policy s agent w.1 w.2.1 w.2.2 true false) :
    Consistent policy (s.complete policy id agent (s.store.onFallback s.now command) number) := by
  rcases Agent.command_cases hcommand with ⟨key, rfl⟩ | ⟨counter, current, counts, hwriting, hstage, rfl⟩
  · exact h.get hagent hcommand (fun _ => CounterStore.number_dropExpired) h.holds.dropExpired
  · have hwrite := hsafe _ hwriting
    refine h.set hagent hstage hwrite (fun key => ?_) ?_
    · exact CounterStore.number_fallbackSet hconnected (hwrite.kept rfl hconnected) key
    · exact (h.holds.mono (List.subset_cons_self ..)).fallbackSet List.mem_cons_self

lemma Consistent.redis {id : ℕ} {number : ℚ} {command : CounterStore.Command}
    (h : Consistent policy s) (hagent : s.agents id = some agent)
    (hcommand : agent.command = some command)
    (hsafe : ∀ w ∈ agent.write, SafeWrite policy s agent w.1 w.2.1 w.2.2 false true) :
    Consistent policy (s.complete policy id agent (s.store.onRedis s.now command) number) := by
  rcases Agent.command_cases hcommand with ⟨key, rfl⟩ | ⟨counter, current, counts, hwriting, hstage, rfl⟩
  · exact h.get hagent hcommand (fun _ => rfl) h.holds
  · have hwrite := hsafe _ hwriting
    have hconnected : s.store.isRedisConnected = true := by
      simpa using hwrite.inUse
    refine h.set hagent hstage hwrite (fun key => ?_) ?_
    · exact CounterStore.number_redisSet hconnected
    · exact (h.holds.mono (List.subset_cons_self ..)).redisSet List.mem_cons_self

/-- A command that has failed falls back. -/
lemma Consistent.fail {id : ℕ} {number : ℚ} {command : CounterStore.Command} {executed : Bool}
    (h : Consistent policy s) (hagent : s.agents id = some agent)
    (hcommand : agent.command = some command)
    (hsafe : ∀ w ∈ agent.write, SafeWrite policy s agent w.1 w.2.1 w.2.2 true executed) :
    Consistent policy (s.complete policy id agent
      ((if executed then s.store.onRedis s.now command else s.store).onFallback s.now command)
      number) := by
  rcases Agent.command_cases hcommand with ⟨key, rfl⟩ | ⟨counter, current, counts, hwriting, hstage, rfl⟩
  · have hsame : (if executed then s.store.onRedis s.now (.get key) else s.store) = s.store := by
      split_ifs <;> rfl
    rw [hsame]
    exact h.get hagent hcommand (fun _ => CounterStore.number_dropExpired) h.holds.dropExpired
  · have hwrite := hsafe _ hwriting
    have hholds : Holds (if executed then s.store.onRedis s.now (.set (agent.key counter)
        (current + agent.increment counter) counter.ttlSeconds) else s.store)
          (agent.key counter :: s.consumptions.map Consumption.key) := by
      have hmono := h.holds.mono (List.subset_cons_self (agent.key counter) _)
      split_ifs
      · exact hmono.redisSet List.mem_cons_self
      · exact hmono
    refine h.set hagent hstage hwrite (fun key => ?_) (hholds.fallbackSet List.mem_cons_self)
    cases hconnected : s.store.isRedisConnected with
    | true =>
      have hexecuted : executed = true := by
        simpa [hconnected] using hwrite.inUse
      subst hexecuted
      rw [CounterStore.onFallback, CounterStore.number_fallbackSet_of_redis]
      · exact CounterStore.number_redisSet hconnected
      · exact hconnected
    | false =>
      have hkept := hwrite.kept rfl hconnected
      cases executed with
      | false => exact CounterStore.number_fallbackSet hconnected hkept key
      | true =>
        have hfallback : (s.store.redisSet s.now (agent.key counter)
          (current + agent.increment counter) counter.ttlSeconds).isRedisConnected = false :=
          hconnected
        rw [if_pos rfl, CounterStore.onRedis, CounterStore.onFallback,
          CounterStore.number_fallbackSet hfallback hkept,
          CounterStore.number_redisSet_of_fallback hconnected]

/-- A step that nothing has come between keeps the limits and the counters. -/
lemma Consistent.step {action : Action} (h : Consistent policy s)
    (hstep : step policy s action = some t) (hcond : Undisturbed policy s action t) :
    Consistent policy t := by
  cases action with
  | tick ms =>
    cases hstep
    exact h.tick hcond
  | connect =>
    cases hstep
    exact h.switch fun hne => hcond (by simpa using hne)
  | error =>
    cases hstep
    exact h.switch fun hne => hcond (by simpa using hne)
  | cleanup =>
    cases hstep
    exact ⟨h.respected.of_number fun _ => CounterStore.number_cleanup, h.checked, h.holds.cleanup⟩
  | evaluate id merchantId customerId cost =>
    rw [CapacityPolicyManager.step] at hstep
    split_ifs at hstep
    cases hstep
    exact h.setAgent trivial
  | resume id =>
    obtain ⟨agent, hagent, hstep⟩ := Option.bind_eq_some_iff.mp hstep
    by_cases hsent : agent.sent = true
    · rw [if_pos hsent] at hstep
      cases hstep
    rw [if_neg hsent] at hstep
    have hchecked := h.checked id agent hagent
    split at hstep
    · next result counts hstage =>
      split_ifs at hstep with hallowed
      cases hstep
      refine h.setAgent ?_
      rw [Agent.Checked, hstage] at hchecked
      exact hchecked hallowed
    · next command hcommand _ =>
      split_ifs at hstep with hconnected
      · cases hstep
        exact h.setAgent hchecked
      · cases hstep
        have hfallback : s.store.isRedisConnected = false := by simpa using hconnected
        exact h.fallback hagent hcommand hfallback (hcond hfallback agent hagent)
    · cases hstep
  | reply id =>
    obtain ⟨agent, hagent, hstep⟩ := Option.bind_eq_some_iff.mp hstep
    split_ifs at hstep
    obtain ⟨command, hcommand, rfl⟩ := Option.map_eq_some_iff.mp hstep
    exact h.redis hagent hcommand (hcond agent hagent)
  | fail id executed =>
    obtain ⟨agent, hagent, hstep⟩ := Option.bind_eq_some_iff.mp hstep
    dsimp only at hstep
    by_cases hsent : agent.sent = true
    · rw [if_pos hsent] at hstep
      obtain ⟨command, hcommand, rfl⟩ := Option.map_eq_some_iff.mp hstep
      exact h.fail hagent hcommand (hcond agent hagent)
    · rw [if_neg hsent] at hstep
      cases hstep

/-- The limits and the counters hold throughout a run whose steps nothing has come between. -/
theorem respected_of_allSteps (policy : String → CapacityPolicy) (now : ℕ) (as : List Action)
    (hall : AllSteps (step policy) (Undisturbed policy) (State.initial now) as)
    (pre rest : List Action) (t : State) (has : as = pre ++ rest)
    (hrun : Run (step policy) (State.initial now) pre t) : Respected policy t := by
  have hinitial : Consistent policy (State.initial now) := by
    refine ⟨⟨fun _ _ => Nat.zero_le _, fun _ _ _ => Nat.zero_le _, fun _ => rfl⟩, fun _ => nofun,
      ?_, ?_⟩
    · intro key hkey
      cases hkey
    · intro key hkey
      cases hkey
  rw [has] at hall
  exact (hrun.invariant_of_allSteps (fun s a t h hstep hcond => h.step hstep hcond) hall.left
    hinitial).respected

/-! ### Agents side by side -/

/-- An agent that evaluates and records alone; an hour later its hourly counter has expired. -/
def aloneRun : List Action :=
  .evaluate 0 "merchant_1" "cust_1" 500 :: List.replicate 13 (.resume 0) ++ [.tick 3600001]

/-- Its limits are kept. -/
theorem respected_alone :
    ∃ t, Run (step fun _ => defaultPolicy) (State.initial 0) aloneRun t ∧
      Respected (fun _ => defaultPolicy) t := by
  obtain ⟨t, hrun, -⟩ := exists_run_of_execute (step fun _ => defaultPolicy) (State.initial 0)
    aloneRun (fun _ => true) (by decide +kernel)
  refine ⟨t, hrun, respected_of_allSteps _ 0 aloneRun ?_ aloneRun [] t (by simp) hrun⟩
  decide +kernel

/-- Two agents for one customer that both evaluate before either records. -/
def overlappingRun : List Action :=
  [.evaluate 0 "merchant_1" "cust_1" 500, .evaluate 1 "merchant_1" "cust_1" 500,
    .resume 0, .resume 0, .resume 0, .resume 0, .resume 1, .resume 1, .resume 1, .resume 1,
    .resume 0, .resume 1, .resume 0, .resume 1, .resume 0, .resume 1]

/-- With the default policy of one link a day for a customer, two links are recorded for it at once,
and its counter reads 1. -/
theorem overlapping_agents_exceed_limit :
    ∃ t, Run (step fun _ => defaultPolicy) (State.initial 0) overlappingRun t ∧
      inWindow .customer 0 (t.customerTimes "merchant_1" "cust_1") = 2 ∧
      defaultPolicy.maxLinksPerCustomerPerDay = 1 ∧
      t.store.number t.now "fatigue:merchant_1:cust_1" = 1 ∧
      ¬ Respected (fun _ => defaultPolicy) t := by
  obtain ⟨t, hrun, ht⟩ := exists_run_of_execute (step fun _ => defaultPolicy) (State.initial 0)
    overlappingRun
    (fun t => inWindow .customer 0 (t.customerTimes "merchant_1" "cust_1") = 2 ∧
      t.store.number t.now "fatigue:merchant_1:cust_1" = 1) (by decide +kernel)
  simp only [decide_eq_true_eq] at ht
  refine ⟨t, hrun, ht.1, rfl, ht.2, fun h => ?_⟩
  have hlimit := h.customer "merchant_1" "cust_1" 0
  rw [ht.1] at hlimit
  exact absurd hlimit (by decide)

end CapacityPolicyManager

end CtrlRecovery
