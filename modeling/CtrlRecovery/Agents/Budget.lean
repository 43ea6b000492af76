import CtrlRecovery.Js

/-!
# The budget of a mission

`MissionBudgetTracker` counts what a mission uses and compares the counts with the limits of its
configuration. A count that has reached its limit does not exceed it; the first count above its limit
is reported.
-/

namespace CtrlRecovery

structure AgentBudgetConfig where
  maxLlmCalls : ℚ := 8
  maxToolCalls : ℚ := 20
  maxReplans : ℚ := 3
  maxSteps : ℚ := 40
  maxWallClockMs : ℚ := 30000
  deriving DecidableEq, Repr

def DEFAULT_AGENT_BUDGET : AgentBudgetConfig := {}

structure BudgetUsage where
  llmCalls : ℕ
  toolCalls : ℕ
  replans : ℕ
  steps : ℕ
  totalTokens : ℚ
  startTimeMs : ℤ
  deriving DecidableEq, Repr

structure BudgetCheckResult where
  exceeded : Bool
  budgetName : Option String := none
  limit : Option ℚ := none
  current : Option ℚ := none
  message : Option String := none
  deriving DecidableEq, Repr

structure MissionBudgetTracker where
  config : AgentBudgetConfig
  usage : BudgetUsage
  deriving DecidableEq, Repr

namespace MissionBudgetTracker

def new (config : AgentBudgetConfig) (now : ℤ) : MissionBudgetTracker where
  config := config
  usage := ⟨0, 0, 0, 0, 0, now⟩

def exceeded (budgetName : String) (current limit : ℚ) (message : String) : BudgetCheckResult where
  exceeded := true
  budgetName := some budgetName
  limit := some limit
  current := some current
  message := some message

def ratio (current limit : ℚ) : String :=
  Js.numberToString current ++ "/" ++ Js.numberToString limit

def checkBudgets (tracker : MissionBudgetTracker) (now : ℤ) : BudgetCheckResult :=
  let config := tracker.config
  let usage := tracker.usage
  let elapsed := now - usage.startTimeMs
  if config.maxLlmCalls < usage.llmCalls then
    exceeded "llm_calls" usage.llmCalls config.maxLlmCalls
      ("Exceeded maximum LLM calls budget (" ++ ratio usage.llmCalls config.maxLlmCalls ++ ")")
  else if config.maxToolCalls < usage.toolCalls then
    exceeded "tool_calls" usage.toolCalls config.maxToolCalls
      ("Exceeded maximum tool calls budget (" ++ ratio usage.toolCalls config.maxToolCalls ++ ")")
  else if config.maxReplans < usage.replans then
    exceeded "replans" usage.replans config.maxReplans
      ("Exceeded maximum replans budget (" ++ ratio usage.replans config.maxReplans ++ ")")
  else if config.maxSteps < usage.steps then
    exceeded "steps" usage.steps config.maxSteps
      ("Exceeded maximum steps budget (" ++ ratio usage.steps config.maxSteps ++ ")")
  else if config.maxWallClockMs < elapsed then
    exceeded "wall_clock_ms" elapsed config.maxWallClockMs
      ("Exceeded maximum wall-clock timeout (" ++ Js.numberToString elapsed ++ "ms / " ++
        Js.numberToString config.maxWallClockMs ++ "ms)")
  else { exceeded := false }

def recordStep (tracker : MissionBudgetTracker) : MissionBudgetTracker :=
  { tracker with usage := { tracker.usage with steps := tracker.usage.steps + 1 } }

def recordLLMCall (tracker : MissionBudgetTracker) (tokensUsed : ℚ) : MissionBudgetTracker :=
  { tracker with
    usage := { tracker.usage with
      llmCalls := tracker.usage.llmCalls + 1
      totalTokens := tracker.usage.totalTokens + tokensUsed } }

def recordToolCall (tracker : MissionBudgetTracker) : MissionBudgetTracker :=
  { tracker with usage := { tracker.usage with toolCalls := tracker.usage.toolCalls + 1 } }

def recordReplan (tracker : MissionBudgetTracker) : MissionBudgetTracker :=
  { tracker with usage := { tracker.usage with replans := tracker.usage.replans + 1 } }

variable {tracker : MissionBudgetTracker} {now : ℤ}

@[simp] lemma config_recordToolCall : tracker.recordToolCall.config = tracker.config := rfl

@[simp] lemma toolCalls_recordToolCall :
    tracker.recordToolCall.usage.toolCalls = tracker.usage.toolCalls + 1 := rfl

/-- No count is above its limit. -/
structure WithinLimits (tracker : MissionBudgetTracker) (now : ℤ) : Prop where
  llmCalls : tracker.usage.llmCalls ≤ tracker.config.maxLlmCalls
  toolCalls : tracker.usage.toolCalls ≤ tracker.config.maxToolCalls
  replans : tracker.usage.replans ≤ tracker.config.maxReplans
  steps : tracker.usage.steps ≤ tracker.config.maxSteps
  elapsed : ((now - tracker.usage.startTimeMs : ℤ) : ℚ) ≤ tracker.config.maxWallClockMs

lemma exceeded_checkBudgets :
    (tracker.checkBudgets now).exceeded = false ↔ tracker.WithinLimits now := by
  constructor
  · intro h
    simp only [checkBudgets] at h
    split_ifs at h with hllm htool hreplans hsteps helapsed
    any_goals simp [exceeded] at h
    exact ⟨not_lt.mp hllm, not_lt.mp htool, not_lt.mp hreplans, not_lt.mp hsteps,
      by exact_mod_cast not_lt.mp helapsed⟩
  · rintro ⟨hllm, htool, hreplans, hsteps, helapsed⟩
    push_cast at helapsed
    simp [checkBudgets, not_lt.mpr, hllm, htool, hreplans, hsteps, helapsed]

end MissionBudgetTracker

end CtrlRecovery
