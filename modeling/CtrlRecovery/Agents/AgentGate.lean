import CtrlRecovery.Agents.Budget
import CtrlRecovery.Agents.LoopGuard
import CtrlRecovery.Authority.RuleRegistry

/-!
# The authority gate of the agents

`AgentAuthorityGate.evaluate` runs nine checks before a tool of an agent is executed and permits the
call when all of them pass. The fifth one counts the calls of a run and an agent in the last minute,
and is the only one that changes anything.
-/

namespace CtrlRecovery

open Core

structure GateEvaluationContext where
  runId : String
  agentName : String
  toolName : String
  inputPayload : InputPayload
  permissionLevel : String
  budgetTracker : Option MissionBudgetTracker
  loopGuard : Option LoopGuard
  environment : Option String

structure GateCheckResult where
  checkName : String
  passed : Bool
  reason : String
  deriving DecidableEq, Repr

structure GateVerdict where
  allowed : Bool
  failedCheck : Option String
  reason : String
  checks : List GateCheckResult
  deriving DecidableEq, Repr

namespace AgentAuthorityGate

/-- The times of the calls of each run and agent. -/
abbrev RateLimitMap := String → List ℤ

def RATE_LIMIT_WINDOW_MS : ℤ := 60000

def MAX_CALLS_PER_WINDOW : ℕ := 60

def recognizedAgents : List String :=
  ["PerceptionAgent", "StrategyAgent", "OutreachAgent", "ComplianceCopilot", "MerchantCopilot",
    "AgentOrchestrator"]

def allowedPermissionsForAgents : List String := ["READ", "ANALYZE", "PROPOSE"]

def forbiddenWriteToolNames : List String :=
  ["execute_payment", "create_payment_link_direct", "authorize_opportunity", "modify_ledger",
    "write_scores_direct"]

def hostileInjectionPatterns : List String :=
  ["ignore previous instructions", "ignore your instructions", "ignore all instructions",
    "system prompt override", "system prompt", "grant financial_write", "execute arbitrary sql",
    "transfer 10,00,000", "transfer ₹", "transfer", "delete from", "drop table", "<script>",
    "bypass authority"]

/-! ### The checks -/

/-- A check that fails with one reason and passes with another. -/
def check (checkName : String) (passed : Bool) (failure success : String) : GateCheckResult :=
  ⟨checkName, passed, if passed then success else failure⟩

@[simp] lemma passed_check (checkName : String) (passed : Bool) (failure success : String) :
    (check checkName passed failure success).passed = passed := rfl

def killSwitchCheck (ks : KillSwitches) : GateCheckResult :=
  check "kill_switch_check" (!ks.isKillSwitchActive "" "")
    "Manual kill switch is actively ENGAGED. All agent operations blocked."
    "Kill switch is disengaged (normal operation)."

def agentIdentityCheck (agentName : String) : GateCheckResult :=
  check "agent_identity_check" (recognizedAgents.contains agentName)
    ("Unrecognized agent identity '" ++ agentName ++ "'.")
    ("Agent identity '" ++ agentName ++ "' is verified and registered.")

def toolScopeCheck (agentName permissionLevel : String) : GateCheckResult :=
  check "tool_scope_check"
    (agentName == "AgentOrchestrator" || allowedPermissionsForAgents.contains permissionLevel)
    ("Agent '" ++ agentName ++ "' requested permission level '" ++ permissionLevel ++
      "', which exceeds allowed scope (READ/ANALYZE/PROPOSE).")
    ("Permission level '" ++ permissionLevel ++ "' is within authorized scope.")

def missionBudgetCheck (budgetTracker : Option MissionBudgetTracker) (now : ℤ) : GateCheckResult :=
  match budgetTracker with
  | some tracker =>
    let budgetCheck := tracker.checkBudgets now
    check "mission_budget_check" (!budgetCheck.exceeded)
      (Js.orElse budgetCheck.message "Mission budget exceeded.")
      "Mission is within all allocated computational and step budgets."
  | none         => check "mission_budget_check" true ""
      "Budget tracker not attached (standard pass)."

def agentKey (runId agentName : String) : String := runId ++ ":" ++ agentName

/-- The calls of a run and agent that are younger than the window. -/
def callTimestamps (rateLimitMap : RateLimitMap) (now : ℤ) (key : String) : List ℤ :=
  (rateLimitMap key).filter fun t => now - t < RATE_LIMIT_WINDOW_MS

def rateLimitCheck (rateLimitMap : RateLimitMap) (now : ℤ) (runId agentName : String) :
    GateCheckResult :=
  let recent := callTimestamps rateLimitMap now (agentKey runId agentName)
  check "rate_limit_check" (recent.length < MAX_CALLS_PER_WINDOW)
    ("Rate limit of " ++ toString MAX_CALLS_PER_WINDOW ++ " calls/min exceeded for agent '" ++
      agentName ++ "'.")
    ("Rate limit verified (" ++ toString (recent.length + 1) ++ "/" ++
      toString MAX_CALLS_PER_WINDOW ++ " calls in current window).")

/-- The map after the check: a call that is within the limit is counted. -/
def countCall (rateLimitMap : RateLimitMap) (now : ℤ) (runId agentName : String) : RateLimitMap :=
  let key := agentKey runId agentName
  let recent := callTimestamps rateLimitMap now key
  if recent.length < MAX_CALLS_PER_WINDOW then
    Function.update rateLimitMap key (recent ++ [now])
  else rateLimitMap

def writeBoundaryCheck (toolName permissionLevel : String) : GateCheckResult :=
  check "write_boundary_check"
    (!(forbiddenWriteToolNames.contains toolName || permissionLevel == "FINANCIAL_WRITE" ||
      permissionLevel == "EXECUTE"))
    ("Tool '" ++ toolName ++ "' attempts direct write to financial/execution boundary. " ++
      "Only deterministic pipelines may execute financial actions.")
    "Tool call strictly adheres to read-only or proposal-only boundary."

def environmentCheck (environment : Option String) (toolName : String) : GateCheckResult :=
  let env := Js.orElse environment "RAZORPAY_TEST"
  check "environment_check" (!(env == "SYNTHETIC" && Js.startsWith toolName "razorpay_live_"))
    "Synthetic environment cannot call live provider endpoints."
    ("Environment '" ++ env ++ "' verified.")

def detectedPattern (inputPayload : InputPayload) : Option String :=
  let payloadStr := Js.toLowerCase inputPayload.json.stringify
  hostileInjectionPatterns.find? fun p => Js.includes payloadStr p

def injectionTaintCheck (inputPayload : InputPayload) : GateCheckResult :=
  let detected := detectedPattern inputPayload
  check "injection_taint_check" detected.isNone
    ("Hostile prompt/SQL injection pattern detected in payload: \"" ++ detected.getD "" ++ "\".")
    "No hostile injection patterns detected in payload."

-- `crypto.createHash('sha256')`, as the loop guard uses it
variable (hash : String → String)

def loopGuardCheck (loopGuard : Option LoopGuard) (toolName : String)
    (inputPayload : InputPayload) : GateCheckResult :=
  match loopGuard with
  | some guard =>
    let loopResult := guard.checkToolCall hash toolName inputPayload
    check "loop_guard_check" loopResult.allowed
      (Js.orElse loopResult.reason "Loop guard triggered.")
      "Tool execution is not in a repetitive or failing loop."
  | none       => check "loop_guard_check" true "" "Loop guard not attached (standard pass)."

/-! ### The verdict -/

def checks (ks : KillSwitches) (rateLimitMap : RateLimitMap) (now : ℤ)
    (ctx : GateEvaluationContext) : List GateCheckResult :=
  [killSwitchCheck ks,
    agentIdentityCheck ctx.agentName,
    toolScopeCheck ctx.agentName ctx.permissionLevel,
    missionBudgetCheck ctx.budgetTracker now,
    rateLimitCheck rateLimitMap now ctx.runId ctx.agentName,
    writeBoundaryCheck ctx.toolName ctx.permissionLevel,
    environmentCheck ctx.environment ctx.toolName,
    injectionTaintCheck ctx.inputPayload,
    loopGuardCheck hash ctx.loopGuard ctx.toolName ctx.inputPayload]

def evaluate (ks : KillSwitches) (rateLimitMap : RateLimitMap) (now : ℤ)
    (ctx : GateEvaluationContext) : GateVerdict × RateLimitMap :=
  let checks := checks hash ks rateLimitMap now ctx
  let verdict := match checks.find? fun c => !c.passed with
    | some failed =>
      { allowed := false, failedCheck := some failed.checkName, reason := failed.reason, checks }
    | none        =>
      { allowed := true, failedCheck := none, checks,
        reason := "All 9 security & authority compliance checks passed successfully." }
  (verdict, countCall rateLimitMap now ctx.runId ctx.agentName)

/-! ### What a permitted call looks like -/

/-- The checks, as conditions on the call and on the state before it. -/
structure Permits (ks : KillSwitches) (rateLimitMap : RateLimitMap) (now : ℤ)
    (ctx : GateEvaluationContext) : Prop where
  killSwitch : ks.isKillSwitchActive "" "" = false
  agent : ctx.agentName ∈ recognizedAgents
  scope : ctx.agentName = "AgentOrchestrator" ∨ ctx.permissionLevel ∈ allowedPermissionsForAgents
  budget : ∀ tracker ∈ ctx.budgetTracker, tracker.WithinLimits now
  rate : (callTimestamps rateLimitMap now (agentKey ctx.runId ctx.agentName)).length <
    MAX_CALLS_PER_WINDOW
  toolName : ctx.toolName ∉ forbiddenWriteToolNames
  permission : ctx.permissionLevel ≠ "FINANCIAL_WRITE" ∧ ctx.permissionLevel ≠ "EXECUTE"
  environment : ¬ (Js.orElse ctx.environment "RAZORPAY_TEST" = "SYNTHETIC" ∧
    Js.startsWith ctx.toolName "razorpay_live_" = true)
  payload : detectedPattern ctx.inputPayload = none
  loop : ∀ guard ∈ ctx.loopGuard, (guard.checkToolCall hash ctx.toolName ctx.inputPayload).allowed

variable {hash} {ks : KillSwitches} {rateLimitMap : RateLimitMap} {now : ℤ}
  {ctx : GateEvaluationContext}

@[simp] lemma passed_killSwitchCheck :
    (killSwitchCheck ks).passed = true ↔ ks.isKillSwitchActive "" "" = false := by
  simp [killSwitchCheck]

@[simp] lemma passed_agentIdentityCheck {agentName : String} :
    (agentIdentityCheck agentName).passed = true ↔ agentName ∈ recognizedAgents := by
  simp [agentIdentityCheck]

@[simp] lemma passed_toolScopeCheck {agentName permissionLevel : String} :
    (toolScopeCheck agentName permissionLevel).passed = true ↔
      agentName = "AgentOrchestrator" ∨ permissionLevel ∈ allowedPermissionsForAgents := by
  simp [toolScopeCheck]

@[simp] lemma passed_missionBudgetCheck {budgetTracker : Option MissionBudgetTracker} :
    (missionBudgetCheck budgetTracker now).passed = true ↔
      ∀ tracker ∈ budgetTracker, tracker.WithinLimits now := by
  cases budgetTracker with
  | none => simp [missionBudgetCheck]
  | some tracker => simp [missionBudgetCheck, MissionBudgetTracker.exceeded_checkBudgets]

@[simp] lemma passed_rateLimitCheck {runId agentName : String} :
    (rateLimitCheck rateLimitMap now runId agentName).passed = true ↔
      (callTimestamps rateLimitMap now (agentKey runId agentName)).length <
        MAX_CALLS_PER_WINDOW := by
  simp [rateLimitCheck]

@[simp] lemma passed_writeBoundaryCheck {toolName permissionLevel : String} :
    (writeBoundaryCheck toolName permissionLevel).passed = true ↔
      toolName ∉ forbiddenWriteToolNames ∧
        permissionLevel ≠ "FINANCIAL_WRITE" ∧ permissionLevel ≠ "EXECUTE" := by
  simp [writeBoundaryCheck, and_assoc]

@[simp] lemma passed_environmentCheck {environment : Option String} {toolName : String} :
    (environmentCheck environment toolName).passed = true ↔
      ¬ (Js.orElse environment "RAZORPAY_TEST" = "SYNTHETIC" ∧
        Js.startsWith toolName "razorpay_live_" = true) := by
  rw [environmentCheck, passed_check, Bool.not_eq_true', Bool.eq_false_iff]
  simp

@[simp] lemma passed_injectionTaintCheck {inputPayload : InputPayload} :
    (injectionTaintCheck inputPayload).passed = true ↔ detectedPattern inputPayload = none := by
  simp [injectionTaintCheck]

@[simp] lemma passed_loopGuardCheck {loopGuard : Option LoopGuard} {toolName : String}
    {inputPayload : InputPayload} :
    (loopGuardCheck hash loopGuard toolName inputPayload).passed = true ↔
      ∀ guard ∈ loopGuard, (guard.checkToolCall hash toolName inputPayload).allowed := by
  cases loopGuard <;> simp [loopGuardCheck]

lemma allowed_iff_forall_passed :
    (evaluate hash ks rateLimitMap now ctx).1.allowed = true ↔
      ∀ c ∈ checks hash ks rateLimitMap now ctx, c.passed := by
  rw [evaluate]
  cases hfailed : (checks hash ks rateLimitMap now ctx).find? fun c => !c.passed with
  | none => simpa using List.find?_eq_none.mp hfailed
  | some failed =>
    have hmem := List.mem_of_find?_eq_some hfailed
    have hfail : failed.passed = false := by simpa using List.find?_some hfailed
    simp only [Bool.false_eq_true, false_iff, not_forall]
    exact ⟨failed, hmem, by simp [hfail]⟩

/-- The gate permits a call exactly when all nine checks pass. -/
theorem allowed_iff_permits :
    (evaluate hash ks rateLimitMap now ctx).1.allowed = true ↔
      Permits hash ks rateLimitMap now ctx := by
  rw [allowed_iff_forall_passed]
  simp only [checks, List.forall_mem_cons, passed_killSwitchCheck, passed_agentIdentityCheck,
    passed_toolScopeCheck, passed_missionBudgetCheck, passed_rateLimitCheck,
    passed_writeBoundaryCheck, passed_environmentCheck, passed_injectionTaintCheck,
    passed_loopGuardCheck]
  constructor
  · rintro ⟨hks, hagent, hscope, hbudget, hrate, ⟨htool, hpermission⟩, henv, hpayload, hloop, -⟩
    exact ⟨hks, hagent, hscope, hbudget, hrate, htool, hpermission, henv, hpayload, hloop⟩
  · rintro ⟨hks, hagent, hscope, hbudget, hrate, htool, hpermission, henv, hpayload, hloop⟩
    exact ⟨hks, hagent, hscope, hbudget, hrate, ⟨htool, hpermission⟩, henv, hpayload, hloop,
      List.forall_mem_nil _⟩

lemma failedCheck_evaluate {name : String}
    (h : (evaluate hash ks rateLimitMap now ctx).1.failedCheck = some name) :
    ∃ c ∈ checks hash ks rateLimitMap now ctx, c.checkName = name ∧ c.passed = false := by
  rw [evaluate] at h
  cases hfailed : (checks hash ks rateLimitMap now ctx).find? fun c => !c.passed with
  | none => simp [hfailed] at h
  | some failed =>
    rw [hfailed] at h
    exact ⟨failed, List.mem_of_find?_eq_some hfailed, Option.some_inj.mp h,
      by simpa using List.find?_some hfailed⟩

end AgentAuthorityGate

end CtrlRecovery
