import CtrlRecovery.Cache.CounterStore
import CtrlRecovery.Core.Run
import CtrlRecovery.Js

/-!
# Capacity counters

`CapacityPolicyManager` counts the payment links of a customer and of a merchant in four entries of the
cache, each of which expires a fixed time after its last write. `evaluateCapacity` reads the counters
one by one and refuses at the first that has reached its limit; `recordConsumption` reads and writes
them one by one. Agents that do both run side by side.
-/

namespace CtrlRecovery

open Core

/-- The counters, in the order in which they are read and written. -/
inductive CapacityCounter | customer | hourly | daily | budget
  deriving DecidableEq, Repr

structure CapacityPolicy where
  maxLinksPerHour : ℕ
  maxLinksPerDay : ℕ
  maxLinksPerCustomerPerDay : ℕ
  monthlyBudgetPaise : ℚ
  deriving DecidableEq, Repr

/-- The fields of a policy that a caller sets. -/
structure CustomPolicy where
  maxLinksPerHour : Option ℕ
  maxLinksPerDay : Option ℕ
  maxLinksPerCustomerPerDay : Option ℕ
  monthlyBudgetPaise : Option ℚ
  deriving DecidableEq, Repr

structure CapacityCheckResult where
  allowed : Bool
  reason : Option String
  hourlyRemaining : ℚ
  dailyRemaining : ℚ
  budgetRemainingPaise : ℚ
  deriving DecidableEq, Repr

namespace CapacityCounter

/-- The cache key of a counter. -/
def key (merchantId customerId : String) : CapacityCounter → String
  | customer => "fatigue:" ++ merchantId ++ ":" ++ customerId
  | hourly   => "capacity:hourly:" ++ merchantId
  | daily    => "capacity:daily:" ++ merchantId
  | budget   => "budget:monthly:" ++ merchantId

lemma key_customer (m c : String) : key m c customer = "fatigue:" ++ m ++ ":" ++ c := rfl

lemma key_hourly (m c : String) : key m c hourly = "capacity:hourly:" ++ m := rfl

lemma key_daily (m c : String) : key m c daily = "capacity:daily:" ++ m := rfl

lemma key_budget (m c : String) : key m c budget = "budget:monthly:" ++ m := rfl

def ttlSeconds : CapacityCounter → ℕ
  | customer => 86400
  | hourly   => 3600
  | daily    => 86400
  | budget   => 2592000

/-- What a consumption adds to a counter. -/
def increment (operationalCostPaise : ℚ) : CapacityCounter → ℚ
  | customer => 1
  | hourly   => 1
  | daily    => 1
  | budget   => operationalCostPaise

def next : CapacityCounter → Option CapacityCounter
  | customer => some hourly
  | hourly   => some daily
  | daily    => some budget
  | budget   => none

end CapacityCounter

namespace CapacityPolicyManager

def defaultPolicy : CapacityPolicy := ⟨20, 100, 1, 5000000⟩

/-- The default policy with the fields of a custom one. -/
def policyOf (customPolicy : CustomPolicy) : CapacityPolicy where
  maxLinksPerHour := customPolicy.maxLinksPerHour.getD defaultPolicy.maxLinksPerHour
  maxLinksPerDay := customPolicy.maxLinksPerDay.getD defaultPolicy.maxLinksPerDay
  maxLinksPerCustomerPerDay :=
    customPolicy.maxLinksPerCustomerPerDay.getD defaultPolicy.maxLinksPerCustomerPerDay
  monthlyBudgetPaise := customPolicy.monthlyBudgetPaise.getD defaultPolicy.monthlyBudgetPaise

/-! ### The check -/

/-- The numbers read so far. -/
abbrev Counts := CapacityCounter → ℚ

def refused (reason : String) (hourlyRemaining dailyRemaining budgetRemainingPaise : ℚ) :
    CapacityCheckResult :=
  ⟨false, some reason, hourlyRemaining, dailyRemaining, budgetRemainingPaise⟩

/-- The answer of `evaluateCapacity` right after it has read a counter, if the counter refuses. -/
def refusal (policy : CapacityPolicy) (operationalCostPaise : ℚ) (counts : Counts) :
    CapacityCounter → Option CapacityCheckResult
  | .customer =>
    if policy.maxLinksPerCustomerPerDay ≤ counts .customer then
      some (refused s!"Customer fatigue limit reached ({Js.numberToString (counts .customer)}/{
        policy.maxLinksPerCustomerPerDay} in 24h)" 0 0 0)
    else none
  | .hourly   =>
    if policy.maxLinksPerHour ≤ counts .hourly then
      some (refused s!"Merchant hourly capacity limit reached ({
        Js.numberToString (counts .hourly)}/{policy.maxLinksPerHour})"
        0 (max 0 (policy.maxLinksPerDay - counts .hourly)) 0)
    else none
  | .daily    =>
    if policy.maxLinksPerDay ≤ counts .daily then
      some (refused s!"Merchant daily capacity limit reached ({
        Js.numberToString (counts .daily)}/{policy.maxLinksPerDay})"
        (max 0 (policy.maxLinksPerHour - counts .hourly)) 0 0)
    else none
  | .budget   =>
    if policy.monthlyBudgetPaise < counts .budget + operationalCostPaise then
      some (refused s!"Merchant monthly operational budget exceeded (spent: ₹{
        Js.rupees (counts .budget)}, limit: ₹{Js.rupees policy.monthlyBudgetPaise})"
        (policy.maxLinksPerHour - counts .hourly) (policy.maxLinksPerDay - counts .daily)
        (max 0 (policy.monthlyBudgetPaise - counts .budget)))
    else none

/-- The answer after all counters. -/
def allowed (policy : CapacityPolicy) (operationalCostPaise : ℚ) (counts : Counts) :
    CapacityCheckResult where
  allowed := true
  reason := none
  hourlyRemaining := policy.maxLinksPerHour - counts .hourly - 1
  dailyRemaining := policy.maxLinksPerDay - counts .daily - 1
  budgetRemainingPaise :=
    policy.monthlyBudgetPaise - (counts .budget + operationalCostPaise)

/-! ### Agents -/

/-- Where an agent is: before the read of a counter by `evaluateCapacity`, with its answer, before the
read or the write of a counter by `recordConsumption`, or at its end. The counts are those that the
evaluation read. -/
inductive Stage
  | evaluating (counter : CapacityCounter) (counts : Counts)
  | evaluated (result : CapacityCheckResult) (counts : Counts)
  | reading (counter : CapacityCounter) (counts : Counts)
  | writing (counter : CapacityCounter) (current : ℚ) (counts : Counts)
  | recorded

/-- An agent for a customer of a merchant; its command is on the way to Redis, or not. -/
structure Agent where
  merchantId : String
  customerId : String
  operationalCostPaise : ℚ
  stage : Stage
  sent : Bool

namespace Agent

variable (agent : Agent)

def key (counter : CapacityCounter) : String := counter.key agent.merchantId agent.customerId

def increment (counter : CapacityCounter) : ℚ := counter.increment agent.operationalCostPaise

/-- The command that the agent is at. -/
def command : Option CounterStore.Command :=
  match agent.stage with
  | .evaluating counter _      => some (.get (agent.key counter))
  | .reading counter _         => some (.get (agent.key counter))
  | .writing counter current _ =>
    some (.set (agent.key counter) (current + agent.increment counter) counter.ttlSeconds)
  | _                          => none

/-- The stage after the command, which has answered `number`. -/
def nextStage (policy : CapacityPolicy) (number : ℚ) : Stage :=
  match agent.stage with
  | .evaluating counter counts =>
    let counts := Function.update counts counter number
    match refusal policy agent.operationalCostPaise counts counter with
    | some result => .evaluated result counts
    | none        =>
      match counter.next with
      | some counter => .evaluating counter counts
      | none         => .evaluated (allowed policy agent.operationalCostPaise counts) counts
  | .reading counter counts    => .writing counter number counts
  | .writing counter _ counts  =>
    match counter.next with
    | some counter => .reading counter counts
    | none         => .recorded
  | stage                      => stage

end Agent

/-! ### Runs -/

/-- A consumption as it is recorded in one counter. -/
structure Consumption where
  counter : CapacityCounter
  merchantId : String
  customerId : String
  operationalCostPaise : ℚ
  time : ℕ
  deriving DecidableEq, Repr

namespace Consumption

variable (w : Consumption)

def key : String := w.counter.key w.merchantId w.customerId

def amount : ℚ := w.counter.increment w.operationalCostPaise

end Consumption

/-- The stores and the agents, with the consumptions recorded so far. -/
structure State where
  now : ℕ
  store : CounterStore
  agents : ℕ → Option Agent
  consumptions : List Consumption

def State.initial (now : ℕ) : State := ⟨now, .initial, fun _ => none, []⟩

inductive Action
  | tick (ms : ℕ)
  | connect
  | error
  | cleanup
  /-- An agent calls `evaluateCapacity`. -/
  | evaluate (id : ℕ) (merchantId customerId : String) (operationalCostPaise : ℚ)
  /-- An agent goes on, up to its next suspension: it issues its command, or calls
  `recordConsumption` after an answer that allows it. -/
  | resume (id : ℕ)
  /-- Redis executes a command that was sent, and its reply arrives. -/
  | reply (id : ℕ)
  /-- A command that was sent fails, though Redis may have executed it. -/
  | fail (id : ℕ) (executed : Bool)

namespace State

variable (s : State)

def setAgent (id : ℕ) (agent : Agent) : State :=
  { s with agents := Function.update s.agents id (some agent) }

/-- What the agent's write records. -/
def record (agent : Agent) : State :=
  match agent.stage with
  | .writing counter _ _ =>
    { s with
      consumptions := ⟨counter, agent.merchantId, agent.customerId, agent.operationalCostPaise,
        s.now⟩ :: s.consumptions }
  | _                    => s

/-- The agent's command is done, with these stores and this answer. -/
def complete (policy : String → CapacityPolicy) (id : ℕ) (agent : Agent) (store : CounterStore)
    (number : ℚ) : State :=
  ({ s with store := store }.record agent).setAgent id
    { agent with stage := agent.nextStage (policy agent.merchantId) number, sent := false }

/-- The number that a `get` finds in the fallback store, or in Redis. -/
def fallbackAnswer (store : CounterStore) : CounterStore.Command → ℚ
  | .get key => store.fallbackNumber s.now key
  | .set ..  => 0

def redisAnswer : CounterStore.Command → ℚ
  | .get key => s.store.redisNumber s.now key
  | .set ..  => 0

end State

/-- A step, with the policy of each merchant. -/
def step (policy : String → CapacityPolicy) (s : State) : Action → Option State
  | .tick ms => some { s with now := s.now + ms }
  | .connect => some { s with store := { s.store with isRedisConnected := true } }
  | .error   => some { s with store := { s.store with isRedisConnected := false } }
  | .cleanup => some { s with store := s.store.cleanup s.now }
  | .evaluate id merchantId customerId operationalCostPaise =>
    if (s.agents id).isNone then
      some (s.setAgent id
        ⟨merchantId, customerId, operationalCostPaise, .evaluating .customer fun _ => 0, false⟩)
    else none
  | .resume id =>
    (s.agents id).bind fun agent =>
      if agent.sent then none
      else
        match agent.stage, agent.command with
        | .evaluated result counts, _ =>
          if result.allowed then some (s.setAgent id { agent with stage := .reading .customer counts })
          else none
        | _, some command =>
          if s.store.isRedisConnected then some (s.setAgent id { agent with sent := true })
          else some (s.complete policy id agent (s.store.onFallback s.now command)
            (s.fallbackAnswer s.store command))
        | _, none => none
  | .reply id =>
    (s.agents id).bind fun agent =>
      if agent.sent then
        agent.command.map fun command =>
          s.complete policy id agent (s.store.onRedis s.now command) (s.redisAnswer command)
      else none
  | .fail id executed =>
    (s.agents id).bind fun agent =>
      if agent.sent then
        agent.command.map fun command =>
          let store := if executed then s.store.onRedis s.now command else s.store
          s.complete policy id agent (store.onFallback s.now command)
            (s.fallbackAnswer store command)
      else none

end CapacityPolicyManager

end CtrlRecovery
