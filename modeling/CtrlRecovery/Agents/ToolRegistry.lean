import CtrlRecovery.Agents.AgentGate
import CtrlRecovery.Core.Table

/-!
# The registry of the tools of the agents

A tool is registered under its name with the agent that owns it and a permission; the permission of a
tool from an MCP definition is any text. `getToolsForAgent` lists the tools that an agent may use, and
`executeTool` looks a tool up by its name, asks the gate and invokes the handler. The gate sees the
permission of the tool but not its owner, so that a call also reaches handlers of tools that are not
listed for its agent (`handlerGuarded_iff`).
-/

namespace CtrlRecovery

open Core AgentAuthorityGate

structure ToolDefinition where
  toolId : String
  agent : String
  description : String
  permission : String
  readOnly : Bool
  rateLimitPerMin : ℚ
  timeoutMs : ℚ
  auditLevel : String
  deriving DecidableEq, Repr

/-- What an MCP definition says of a tool, and the options of its registration. -/
structure MCPTool where
  name : String
  description : Option String
  deriving DecidableEq, Repr

structure ToolOptions where
  agent : Option String := none
  permission : Option String := none
  readOnly : Option Bool := none
  rateLimitPerMin : Option ℚ := none
  timeoutMs : Option ℚ := none
  auditLevel : Option String := none
  deriving DecidableEq, Repr

structure ExecutionResult where
  success : Bool
  data : Option Json := none
  error : Option Json := none
  denied : Bool := false

/-- How a handler ends, before or at the timeout of its tool. -/
inductive HandlerOutcome
  | returned (result : Json)
  | threw (message : Option String)
  | timedOut

structure ToolCall where
  toolId : String
  runId : String
  agentName : String
  inputPayload : InputPayload
  environment : Option String := none

namespace AgentToolRegistry

abbrev Tools := Table ToolDefinition.toolId

def registerTool (tools : Tools) (tool : ToolDefinition) : Tools := tools.put tool

def getTool (tools : Tools) (toolId : String) : Option ToolDefinition := tools.find? toolId

def getToolsForAgent (tools : Tools) (agentName : String) : List ToolDefinition :=
  tools.rows.filter fun t => t.agent == "ALL" || t.agent == agentName

def registerMCPTool (tools : Tools) (mcpTool : MCPTool) (options : ToolOptions) : Tools :=
  registerTool tools
    { toolId := mcpTool.name
      agent := options.agent.getD "ALL"
      description := mcpTool.description.getD mcpTool.name
      permission := options.permission.getD "READ"
      readOnly := options.readOnly.getD true
      rateLimitPerMin := options.rateLimitPerMin.getD 60
      timeoutMs := options.timeoutMs.getD 3000
      auditLevel := options.auditLevel.getD "STANDARD" }

/-! ### Executing a tool -/

/-- What `executeTool` has done when it returns or waits for the handler. -/
inductive Dispatch
  | returned (result : ExecutionResult)
  | invoked (tool : ToolDefinition)

/-- The state that a call has changed until then. -/
structure Dispatched where
  dispatch : Dispatch
  rateLimitMap : RateLimitMap
  budgetTracker : Option MissionBudgetTracker
  loopGuard : Option LoopGuard

def failure (error : String) (denied : Bool) : ExecutionResult where
  success := false
  error := some (.string error)
  denied := denied

def gateContext (tool : ToolDefinition) (call : ToolCall)
    (budgetTracker : Option MissionBudgetTracker) (loopGuard : Option LoopGuard) :
    GateEvaluationContext where
  runId := call.runId
  agentName := call.agentName
  toolName := tool.toolId
  inputPayload := call.inputPayload
  permissionLevel := tool.permission
  budgetTracker := budgetTracker
  loopGuard := loopGuard
  environment := call.environment

-- `crypto.createHash('sha256')`, as the loop guard uses it
variable (hash : String → String)

/-- `executeTool` up to the handler. -/
def executeTool (tools : Tools) (ks : KillSwitches) (rateLimitMap : RateLimitMap) (now : ℤ)
    (call : ToolCall) (budgetTracker : Option MissionBudgetTracker)
    (loopGuard : Option LoopGuard) : Dispatched :=
  match getTool tools call.toolId with
  | none      =>
    let err := "Tool '" ++ call.toolId ++ "' is not registered in the AgentToolRegistry."
    ⟨.returned (failure err false), rateLimitMap, budgetTracker, loopGuard⟩
  | some tool =>
    let evaluated :=
      evaluate hash ks rateLimitMap now (gateContext tool call budgetTracker loopGuard)
    let gateVerdict := evaluated.1
    if gateVerdict.allowed then
      ⟨.invoked tool, evaluated.2, budgetTracker.map MissionBudgetTracker.recordToolCall, loopGuard⟩
    else
      let denyMsg := "Agent Authority Gate DENIED execution: " ++ gateVerdict.reason ++
        " (failed check: " ++ gateVerdict.failedCheck.getD "undefined" ++ ")"
      ⟨.returned (failure denyMsg true), evaluated.2, budgetTracker,
        loopGuard.map fun guard =>
          guard.recordToolExecution hash tool.toolId call.inputPayload false⟩

def field? (result : Json) (k : String) : Option Json := result.fields.lookup k

def truthy : Json → Bool
  | .null     => false
  | .bool b   => b
  | .number n => n.chars != ['0']
  | .string s => s != ""
  | _         => true

/-- `result?.success !== false`. -/
def succeeded (result : Json) : Bool :=
  match field? result "success" with
  | some (.bool false) => false
  | _                  => true

/-- `executeTool` from the end of the handler on. -/
def finish (tool : ToolDefinition) (call : ToolCall) (loopGuard : Option LoopGuard)
    (outcome : HandlerOutcome) : ExecutionResult × Option LoopGuard :=
  let result := match outcome with
    | .returned result =>
      { success := succeeded result
        data := ((field? result "data").filter truthy).getD result
        error := field? result "error" }
    | .threw message   =>
      failure (Js.orElse message "Tool execution encountered an unexpected error") false
    | .timedOut        =>
      failure ("Tool execution timeout after " ++ Js.numberToString tool.timeoutMs ++ "ms") false
  (result, loopGuard.map fun guard =>
    guard.recordToolExecution hash tool.toolId call.inputPayload result.success)

variable {hash} {tools : Tools} {ks : KillSwitches} {rateLimitMap : RateLimitMap} {now : ℤ}
  {call : ToolCall} {budgetTracker : Option MissionBudgetTracker} {loopGuard : Option LoopGuard}
  {tool : ToolDefinition}

/-- The handler that runs is that of the tool of this name, and the gate permits the call. -/
lemma executeTool_eq_invoked :
    (executeTool hash tools ks rateLimitMap now call budgetTracker loopGuard).dispatch =
        .invoked tool ↔
      tools.find? call.toolId = some tool ∧
        Permits hash ks rateLimitMap now (gateContext tool call budgetTracker loopGuard) := by
  rw [executeTool, getTool]
  cases hfind : tools.find? call.toolId with
  | none => simp
  | some found =>
    simp only [Option.some.injEq, ← allowed_iff_permits]
    split_ifs with hallowed
    · simp only [Dispatch.invoked.injEq]
      constructor
      · rintro rfl
        exact ⟨rfl, hallowed⟩
      · exact fun h => h.1
    · simp only [false_iff, not_and]
      rintro rfl
      exact hallowed

lemma budgetTracker_of_invoked
    (h : (executeTool hash tools ks rateLimitMap now call budgetTracker loopGuard).dispatch =
      .invoked tool) :
    (executeTool hash tools ks rateLimitMap now call budgetTracker loopGuard).budgetTracker =
      budgetTracker.map MissionBudgetTracker.recordToolCall := by
  rw [executeTool] at h ⊢
  cases hfind : getTool tools call.toolId with
  | none => simp [hfind] at h
  | some found =>
    simp only [hfind] at h ⊢
    split_ifs at h ⊢
    rfl

/-- A call that does not reach its handler is not recorded. -/
lemma returned_of_not_invoked
    (h : ∀ tool, (executeTool hash tools ks rateLimitMap now call budgetTracker loopGuard).dispatch ≠
      .invoked tool) :
    (∃ result, (executeTool hash tools ks rateLimitMap now call budgetTracker loopGuard).dispatch =
        .returned result) ∧
      (executeTool hash tools ks rateLimitMap now call budgetTracker loopGuard).budgetTracker =
        budgetTracker := by
  rw [executeTool] at h ⊢
  cases hfind : getTool tools call.toolId with
  | none => exact ⟨⟨_, rfl⟩, rfl⟩
  | some found =>
    simp only [hfind] at h ⊢
    split_ifs at h ⊢
    · exact absurd rfl (h found)
    · exact ⟨⟨_, rfl⟩, rfl⟩

/-! ### Who may run a tool -/

lemma mem_getToolsForAgent {agentName : String} :
    tool ∈ getToolsForAgent tools agentName ↔
      tool ∈ tools.rows ∧ (tool.agent = "ALL" ∨ tool.agent = agentName) := by
  simp [getToolsForAgent]

/-- A handler is invoked only while the kill switch is off, for a tool without a financial
permission that is listed for the agent. -/
def HandlerGuarded (hash : String → String) (tools : Tools) (ks : KillSwitches)
    (rateLimitMap : RateLimitMap) (now : ℤ) (call : ToolCall)
    (budgetTracker : Option MissionBudgetTracker) (loopGuard : Option LoopGuard) : Prop :=
  ∀ tool, (executeTool hash tools ks rateLimitMap now call budgetTracker loopGuard).dispatch =
      .invoked tool →
    ks.isKillSwitchActive "" "" = false ∧
      (tool.permission ≠ "FINANCIAL_WRITE" ∧ tool.permission ≠ "EXECUTE") ∧
      (tool.agent = "ALL" ∨ tool.agent = call.agentName) ∧
      tool ∈ getToolsForAgent tools call.agentName

/-- Some call of the agent for the tool is permitted. -/
structure Reachable (tool : ToolDefinition) (agentName : String) : Prop where
  agent : agentName ∈ recognizedAgents
  scope : agentName = "AgentOrchestrator" ∨ tool.permission ∈ allowedPermissionsForAgents
  toolName : tool.toolId ∉ forbiddenWriteToolNames
  permission : tool.permission ≠ "FINANCIAL_WRITE" ∧ tool.permission ≠ "EXECUTE"

def noInput : InputPayload where
  fields := []
  distinct := by simp

/-- A call that no check refuses for its input, its budget or its past. -/
def plainCall (toolId agentName : String) : ToolCall where
  toolId := toolId
  runId := ""
  agentName := agentName
  inputPayload := noInput

lemma detectedPattern_noInput : detectedPattern noInput = none := by decide

lemma Reachable.permits {agentName : String} (h : Reachable tool agentName) :
    Permits hash KillSwitches.off (fun _ => []) now
      (gateContext tool (plainCall tool.toolId agentName) none none) where
  killSwitch := rfl
  agent := h.agent
  scope := h.scope
  budget := by simp [gateContext]
  rate := by simp [callTimestamps, MAX_CALLS_PER_WINDOW]
  toolName := h.toolName
  permission := h.permission
  environment := by simp [gateContext, plainCall, Js.orElse]
  payload := detectedPattern_noInput
  loop := by simp [gateContext]

/-- A call keeps to the list of the agent exactly when the owner of the tool is the agent or `ALL`
wherever the gate permits the call; and all calls of an agent for a name do exactly when it is so
wherever the gate permits any of them. -/
theorem handlerGuarded_iff (hash : String → String) (tools : Tools) :
    (∀ ks rateLimitMap now call budgetTracker loopGuard,
        HandlerGuarded hash tools ks rateLimitMap now call budgetTracker loopGuard ↔
          ∀ tool, tools.find? call.toolId = some tool →
            Permits hash ks rateLimitMap now (gateContext tool call budgetTracker loopGuard) →
            tool.agent = "ALL" ∨ tool.agent = call.agentName) ∧
      ∀ toolId agentName,
        (∀ ks rateLimitMap now call budgetTracker loopGuard,
            call.toolId = toolId → call.agentName = agentName →
            HandlerGuarded hash tools ks rateLimitMap now call budgetTracker loopGuard) ↔
          ∀ tool, tools.find? toolId = some tool → Reachable tool agentName →
            tool.agent = "ALL" ∨ tool.agent = agentName := by
  have hiff : ∀ ks rateLimitMap now call budgetTracker loopGuard,
      HandlerGuarded hash tools ks rateLimitMap now call budgetTracker loopGuard ↔
        ∀ tool, tools.find? call.toolId = some tool →
          Permits hash ks rateLimitMap now (gateContext tool call budgetTracker loopGuard) →
          tool.agent = "ALL" ∨ tool.agent = call.agentName := by
    intro ks rateLimitMap now call budgetTracker loopGuard
    refine forall_congr' fun tool => ?_
    rw [executeTool_eq_invoked, and_imp, mem_getToolsForAgent]
    refine forall₂_congr fun hfind hpermits => ?_
    exact ⟨fun h => h.2.2.1, fun howner => ⟨hpermits.killSwitch, hpermits.permission, howner,
      Table.mem_of_find? hfind, howner⟩⟩
  refine ⟨hiff, fun toolId agentName => ?_⟩
  simp only [hiff]
  constructor
  · intro h tool hfind hreach
    have hname : tool.toolId = toolId := Table.key_of_find? hfind
    subst hname
    exact h KillSwitches.off (fun _ => []) 0 (plainCall tool.toolId agentName) none none rfl rfl
      tool hfind hreach.permits
  · rintro h ks rateLimitMap now call budgetTracker loopGuard rfl rfl tool hfind hpermits
    exact h tool hfind
      ⟨hpermits.agent, hpermits.scope, hpermits.toolName, hpermits.permission⟩

/-- A tool of the strategy agent, as it is registered. -/
def createStrategyProposal : ToolDefinition where
  toolId := "create_strategy_proposal"
  agent := "StrategyAgent"
  description := "Propose calibrated probability or allocator modifications based on >= 30 real " ++
    "outcomes"
  permission := "PROPOSE"
  readOnly := false
  rateLimitPerMin := 15
  timeoutMs := 3000
  auditLevel := "CRITICAL"

/-- The perception agent runs a tool of the strategy agent. -/
theorem foreign_tool_invoked :
    ¬ HandlerGuarded id (registerTool Table.empty createStrategyProposal) KillSwitches.off
      (fun _ => []) 0 (plainCall "create_strategy_proposal" "PerceptionAgent") none none := by
  intro h
  have hreach : Reachable createStrategyProposal "PerceptionAgent" := by
    constructor <;> decide
  have howner := (h createStrategyProposal
    (executeTool_eq_invoked.mpr ⟨Table.find?_put_self, hreach.permits⟩)).2.2.1
  exact absurd howner (by decide)

/-- A read tool that every agent may use, as it is registered. -/
def getOpportunity : ToolDefinition where
  toolId := "get_opportunity"
  agent := "ALL"
  description := "Retrieve raw details of a single recovery opportunity by ID"
  permission := "READ"
  readOnly := true
  rateLimitPerMin := 60
  timeoutMs := 3000
  auditLevel := "STANDARD"

end AgentToolRegistry

end CtrlRecovery
