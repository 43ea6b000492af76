import CtrlRecovery.Agents.ToolRegistry
import CtrlRecovery.Core.Run

/-!
# Tool calls under one budget

The calls that share a budget tracker, in any order and overlapping: made on the registry directly, or
by the agent loop through `executeInvestigationTool`. Two counts are kept beside the state, of the
handlers invoked and of the calls refused.

The gate compares the calls recorded before with the limit, so that a direct call that finds the limit
reached still runs: the handlers stay within the limit exactly as long as every permitted call starts
below it. The loop records a call before the registry does, so that its permitted calls count twice.
-/

namespace CtrlRecovery

open Core AgentAuthorityGate AgentToolRegistry

namespace InputPayload

/-- `{ ...params, opportunity_id: id }`. -/
def withOpportunity (params : InputPayload) (id : String) : InputPayload where
  fields :=
    if "opportunity_id" ∈ params.json.keys then
      params.fields.map fun f => if f.1 = "opportunity_id" then (f.1, .string id) else f
    else params.fields ++ [("opportunity_id", .string id)]
  distinct := by
    obtain ⟨hnodup, hfields⟩ := Json.distinct_object.mp params.distinct
    have hid : (Json.string id).Distinct := by simp [Json.Distinct]
    rw [Json.distinct_object]
    split_ifs with hmem
    · have hkeys : (params.fields.map fun f =>
          if f.1 = "opportunity_id" then (f.1, .string id) else f).map Prod.fst =
          params.fields.map Prod.fst := by
        rw [List.map_map]
        refine List.map_congr_left fun f _ => ?_
        rw [Function.comp_apply]
        split_ifs <;> rfl
      rw [hkeys, List.forall_mem_map]
      refine ⟨hnodup, fun f hf => ?_⟩
      split_ifs
      · exact hid
      · exact hfields f hf
    · rw [List.map_append, List.forall_mem_append]
      refine ⟨hnodup.append (List.nodup_singleton _) ?_, hfields, by simpa using hid⟩
      exact List.disjoint_singleton.mpr hmem

end InputPayload

namespace ToolBudget

/-- Who calls `executeTool`: the loop by way of `executeInvestigationTool`, or anybody directly. -/
inductive Caller
  | registry | agentLoop
  deriving DecidableEq, Repr

/-- A handler that has not ended. The loop guard of a call is named by a number. -/
structure Running where
  tool : ToolDefinition
  call : ToolCall
  loopGuard : Option ℕ

structure State where
  tools : Tools
  killSwitches : KillSwitches
  rateLimitMap : RateLimitMap
  budgetTracker : MissionBudgetTracker
  guards : ℕ → LoopGuard
  running : List Running
  /-- The handlers invoked, and the calls that were refused. -/
  handlers : ℕ
  refused : ℕ

inductive Action
  | executeTool (now : ℤ) (call : ToolCall) (loopGuard : Option ℕ)
  | executeInvestigationTool (now : ℤ) (toolName runId : String) (params : InputPayload)
      (opportunityId : String) (environment : Option String) (loopGuard : ℕ)
  | finish (i : ℕ) (outcome : HandlerOutcome)
  | recordStep
  | recordLLMCall (tokensUsed : ℚ)
  | recordReplan
  | registerTool (tool : ToolDefinition)
  | setKillSwitches (ks : KillSwitches)

def Action.caller : Action → Option Caller
  | .executeTool ..              => some .registry
  | .executeInvestigationTool .. => some .agentLoop
  | _                            => none

/-- Before any call, with a fresh tracker. -/
structure Fresh (s : State) : Prop where
  toolCalls : s.budgetTracker.usage.toolCalls = 0
  handlers : s.handlers = 0
  refused : s.refused = 0

def setGuard (guards : ℕ → LoopGuard) (ref : Option ℕ) (guard : Option LoopGuard) : ℕ → LoopGuard :=
  match ref, guard with
  | some i, some guard => Function.update guards i guard
  | _, _               => guards

variable (hash : String → String)

/-- A call of `executeTool` with the shared tracker, up to the handler. -/
def State.call (s : State) (now : ℤ) (call : ToolCall) (ref : Option ℕ) : State :=
  let d := executeTool hash s.tools s.killSwitches s.rateLimitMap now call (some s.budgetTracker)
    (ref.map s.guards)
  let s' := { s with
    rateLimitMap := d.rateLimitMap
    budgetTracker := d.budgetTracker.getD s.budgetTracker
    guards := setGuard s.guards ref d.loopGuard }
  match d.dispatch with
  | .returned _   => { s' with refused := s.refused + 1 }
  | .invoked tool =>
    { s' with running := s.running ++ [⟨tool, call, ref⟩], handlers := s.handlers + 1 }

def investigationCall (toolName runId : String) (params : InputPayload) (opportunityId : String)
    (environment : Option String) : ToolCall where
  toolId := toolName
  runId := runId
  agentName := "AgentOrchestrator"
  inputPayload := params.withOpportunity opportunityId
  environment := environment

/-- One step of the system, in which only some callers make calls. -/
def step (callers : Caller → Bool) (s : State) : Action → Option State
  | .executeTool now call ref =>
    if callers .registry then some (s.call hash now call ref) else none
  | .executeInvestigationTool now toolName runId params opportunityId environment ref =>
    if callers .agentLoop then
      some ({ s with budgetTracker := s.budgetTracker.recordToolCall }.call hash now
        (investigationCall toolName runId params opportunityId environment) (some ref))
    else none
  | .finish i outcome =>
    s.running[i]?.map fun r =>
      { s with
        running := s.running.eraseIdx i
        guards := setGuard s.guards r.loopGuard
          (finish hash r.tool r.call (r.loopGuard.map s.guards) outcome).2 }
  | .recordStep => some { s with budgetTracker := s.budgetTracker.recordStep }
  | .recordLLMCall tokensUsed =>
    some { s with budgetTracker := s.budgetTracker.recordLLMCall tokensUsed }
  | .recordReplan => some { s with budgetTracker := s.budgetTracker.recordReplan }
  | .registerTool tool => some { s with tools := AgentToolRegistry.registerTool s.tools tool }
  | .setKillSwitches ks => some { s with killSwitches := ks }

/-! ### What a step does -/

variable {hash} {callers : Caller → Bool} {s t : State} {action : Action}

/-- The registry finds the tool of a call, and the gate permits it. -/
def Permitted (hash : String → String) (s : State) (now : ℤ) (call : ToolCall) (ref : Option ℕ) :
    Prop :=
  ∃ tool, s.tools.find? call.toolId = some tool ∧
    Permits hash s.killSwitches s.rateLimitMap now
      (gateContext tool call (some s.budgetTracker) (ref.map s.guards))

/-- The call of an action is permitted in the state that the gate sees. -/
def Action.Passes (hash : String → String) (s : State) : Action → Prop
  | .executeTool now call ref => Permitted hash s now call ref
  | .executeInvestigationTool now toolName runId params opportunityId environment ref =>
    Permitted hash { s with budgetTracker := s.budgetTracker.recordToolCall } now
      (investigationCall toolName runId params opportunityId environment) (some ref)
  | _ => False

/-- What is recorded of a call before the registry sees it. -/
def Caller.ahead : Caller → ℕ
  | .registry  => 0
  | .agentLoop => 1

/-- What a step adds to the counts. -/
structure Adds (s t : State) (toolCalls handlers refused : ℕ) : Prop where
  config : t.budgetTracker.config = s.budgetTracker.config
  toolCalls : t.budgetTracker.usage.toolCalls = s.budgetTracker.usage.toolCalls + toolCalls
  handlers : t.handlers = s.handlers + handlers
  refused : t.refused = s.refused + refused

lemma call_of_permitted {now : ℤ} {call : ToolCall} {ref : Option ℕ}
    (h : Permitted hash s now call ref) : Adds s (s.call hash now call ref) 1 1 0 := by
  obtain ⟨tool, hfound⟩ := h
  have hinvoked := executeTool_eq_invoked.mpr hfound
  simp only [State.call, hinvoked, budgetTracker_of_invoked hinvoked]
  exact ⟨rfl, rfl, rfl, rfl⟩

lemma call_of_not_permitted {now : ℤ} {call : ToolCall} {ref : Option ℕ}
    (h : ¬ Permitted hash s now call ref) : Adds s (s.call hash now call ref) 0 0 1 := by
  obtain ⟨⟨result, hreturned⟩, htracker⟩ := returned_of_not_invoked
    fun tool hinvoked => h ⟨tool, executeTool_eq_invoked.mp hinvoked⟩
  simp only [State.call, hreturned, htracker]
  exact ⟨rfl, rfl, rfl, rfl⟩

/-- A step makes no call, or one that is permitted, or one that is refused. -/
inductive StepEffect (hash : String → String) (callers : Caller → Bool) (s : State)
    (action : Action) (t : State) : Prop
  | quiet (hpass : ¬ action.Passes hash s) (hadds : Adds s t 0 0 0)
  | permitted (caller : Caller) (hcaller : action.caller = some caller) (hmay : callers caller)
      (hpass : action.Passes hash s) (hadds : Adds s t (caller.ahead + 1) 1 0)
  | refused (caller : Caller) (hcaller : action.caller = some caller) (hmay : callers caller)
      (hpass : ¬ action.Passes hash s) (hadds : Adds s t caller.ahead 0 1)

lemma stepEffect (h : step hash callers s action = some t) :
    StepEffect hash callers s action t := by
  cases action with
  | executeTool now call ref =>
    simp only [step, Option.ite_none_right_eq_some, Option.some.injEq] at h
    obtain ⟨hmay, rfl⟩ := h
    by_cases hpass : Permitted hash s now call ref
    · exact .permitted .registry rfl hmay hpass (call_of_permitted hpass)
    · exact .refused .registry rfl hmay hpass (call_of_not_permitted hpass)
  | executeInvestigationTool now toolName runId params opportunityId environment ref =>
    simp only [step, Option.ite_none_right_eq_some, Option.some.injEq] at h
    obtain ⟨hmay, rfl⟩ := h
    by_cases hpass : Action.Passes hash s
        (.executeInvestigationTool now toolName runId params opportunityId environment ref)
    · obtain ⟨hconfig, hcalls, hhandlers, hrefused⟩ := call_of_permitted hpass
      have hcalls' : (s.budgetTracker.usage.toolCalls + 1) + 1 =
          s.budgetTracker.usage.toolCalls + (Caller.agentLoop.ahead + 1) := add_assoc ..
      exact .permitted .agentLoop rfl hmay hpass
        ⟨hconfig, hcalls.trans hcalls', hhandlers, hrefused⟩
    · obtain ⟨hconfig, hcalls, hhandlers, hrefused⟩ := call_of_not_permitted hpass
      exact .refused .agentLoop rfl hmay hpass ⟨hconfig, hcalls, hhandlers, hrefused⟩
  | finish i outcome =>
    obtain ⟨r, -, rfl⟩ := Option.map_eq_some_iff.mp h
    exact .quiet id ⟨rfl, rfl, rfl, rfl⟩
  | _ =>
    cases h
    exact .quiet id ⟨rfl, rfl, rfl, rfl⟩

/-! ### The limit -/

def HasRoom (hash : String → String) (s : State) (action : Action) (_ : State) : Prop :=
  action.Passes hash s →
    (s.budgetTracker.usage.toolCalls + 1 : ℚ) ≤ s.budgetTracker.config.maxToolCalls

def InLimit (s : State) : Prop := (s.handlers : ℚ) ≤ s.budgetTracker.config.maxToolCalls

lemma hasRoom_of_agentLoop (hcaller : action.caller = some .agentLoop) : HasRoom hash s action t := by
  cases action with
  | executeInvestigationTool =>
    rintro ⟨tool, -, hpermits⟩
    have hwithin := (hpermits.budget _ rfl).toolCalls
    rwa [MissionBudgetTracker.toolCalls_recordToolCall,
      MissionBudgetTracker.config_recordToolCall, Nat.cast_succ] at hwithin
  | _ => cases hcaller

def Recorded (s : State) : Prop := s.handlers ≤ s.budgetTracker.usage.toolCalls

lemma recorded_step (hs : Recorded s) (h : step hash callers s action = some t) : Recorded t := by
  rw [Recorded] at hs ⊢
  cases stepEffect h with
  | quiet _ hadds => rw [hadds.handlers, hadds.toolCalls]; omega
  | permitted caller _ _ _ hadds => rw [hadds.handlers, hadds.toolCalls]; omega
  | refused caller _ _ _ hadds => rw [hadds.handlers, hadds.toolCalls]; omega

lemma inLimit_step (hs : Recorded s) (hlimit : InLimit s)
    (h : step hash callers s action = some t) (hroom : HasRoom hash s action t) : InLimit t := by
  rw [InLimit] at hlimit ⊢
  cases stepEffect h with
  | quiet _ hadds => rwa [hadds.handlers, hadds.config, add_zero]
  | refused caller _ _ _ hadds => rwa [hadds.handlers, hadds.config, add_zero]
  | permitted caller _ _ hpass hadds =>
    have hle : (s.handlers : ℚ) ≤ s.budgetTracker.usage.toolCalls := Nat.cast_le.mpr hs
    rw [hadds.handlers, hadds.config]
    push_cast
    linarith [hroom hpass]

/-- The calls made on the registry only, and those of a loop only. -/
def registryOnly (caller : Caller) : Bool := caller = .registry

def loopOnly (caller : Caller) : Bool := caller = .agentLoop

def RecordedOnce (s : State) : Prop := s.budgetTracker.usage.toolCalls = s.handlers

lemma recordedOnce_step (hs : RecordedOnce s) (h : step hash registryOnly s action = some t) :
    RecordedOnce t := by
  rw [RecordedOnce] at hs ⊢
  cases stepEffect h with
  | quiet _ hadds => rw [hadds.handlers, hadds.toolCalls, hs]
  | permitted caller _ hmay _ hadds =>
    have hcaller : caller = .registry := by simpa [registryOnly] using hmay
    rw [hadds.handlers, hadds.toolCalls, hs, hcaller, Caller.ahead]
  | refused caller _ hmay _ hadds =>
    have hcaller : caller = .registry := by simpa [registryOnly] using hmay
    rw [hadds.handlers, hadds.toolCalls, hs, hcaller, Caller.ahead]

lemma inLimit_step_iff (hs : RecordedOnce s) (hlimit : InLimit s)
    (h : step hash registryOnly s action = some t) : InLimit t ↔ HasRoom hash s action t := by
  refine ⟨fun ht hpass => ?_, inLimit_step hs.ge hlimit h⟩
  rw [InLimit] at ht
  cases stepEffect h with
  | quiet hnot _ => exact absurd hpass hnot
  | refused caller _ _ hnot _ => exact absurd hpass hnot
  | permitted caller _ _ _ hadds =>
    rw [hadds.handlers, hadds.config, ← hs] at ht
    exact_mod_cast ht

/-! ### The count of an agent loop -/

/-- The count is that of the handlers and the refused calls. -/
def Counted (s : State) : Prop := s.budgetTracker.usage.toolCalls = s.handlers + s.refused

lemma counted_step_iff (hs : Counted s) (h : step hash loopOnly s action = some t) :
    Counted t ↔ ¬ action.Passes hash s := by
  rw [Counted] at hs ⊢
  cases stepEffect h with
  | quiet hnot hadds =>
    refine iff_of_true ?_ hnot
    rw [hadds.toolCalls, hadds.handlers, hadds.refused, hs, add_zero, add_zero, add_zero]
  | refused caller _ hmay hnot hadds =>
    have hcaller : caller = .agentLoop := by simpa [loopOnly] using hmay
    refine iff_of_true ?_ hnot
    rw [hadds.toolCalls, hadds.handlers, hadds.refused, hs, hcaller, Caller.ahead, add_zero,
      add_assoc]
  | permitted caller _ hmay hpass hadds =>
    have hcaller : caller = .agentLoop := by simpa [loopOnly] using hmay
    refine iff_of_false ?_ (not_not_intro hpass)
    rw [hadds.toolCalls, hadds.handlers, hadds.refused, hs, hcaller, Caller.ahead]
    omega

/-! ### Runs -/

/-- The handlers stay within the limit as long as every permitted call starts below it; where all
calls are made on the registry, exactly as long. The count of a loop is that of its handlers and
refused calls exactly as long as none of its calls is permitted. -/
theorem toolBudget_iff (hash : String → String) {s₀ : State} (hfresh : Fresh s₀)
    (actions : List Action) :
    (∀ callers, 0 ≤ s₀.budgetTracker.config.maxToolCalls →
        AllSteps (step hash callers) (HasRoom hash) s₀ actions →
        ∀ pre rest t, actions = pre ++ rest → Run (step hash callers) s₀ pre t → InLimit t) ∧
      ((∀ pre rest t, actions = pre ++ rest → Run (step hash registryOnly) s₀ pre t → InLimit t) ↔
        0 ≤ s₀.budgetTracker.config.maxToolCalls ∧
          AllSteps (step hash registryOnly) (HasRoom hash) s₀ actions) ∧
      ((∀ pre rest t, actions = pre ++ rest → Run (step hash loopOnly) s₀ pre t → Counted t) ↔
        AllSteps (step hash loopOnly) (fun s action _ => ¬ action.Passes hash s) s₀ actions) := by
  have hlimit : InLimit s₀ ↔ 0 ≤ s₀.budgetTracker.config.maxToolCalls := by
    rw [InLimit, hfresh.handlers, Nat.cast_zero]
  have honce : RecordedOnce s₀ := by rw [RecordedOnce, hfresh.toolCalls, hfresh.handlers]
  have hcounted : Counted s₀ := by
    rw [Counted, hfresh.toolCalls, hfresh.handlers, hfresh.refused]
  refine ⟨fun callers hpos hall pre rest t hpre hrun => ?_, ?_, ?_⟩
  · rw [hpre] at hall
    have hboth := hrun.invariant_of_allSteps (I := fun s => Recorded s ∧ InLimit s)
      (fun s action t hs hstep hroom =>
        ⟨recorded_step hs.1 hstep, inLimit_step hs.1 hs.2 hstep hroom⟩)
      hall.left ⟨honce.ge, hlimit.mpr hpos⟩
    exact hboth.2
  · have hiff : InLimit s₀ → ((∀ pre rest t, actions = pre ++ rest →
        Run (step hash registryOnly) s₀ pre t → InLimit t) ↔
          AllSteps (step hash registryOnly) (HasRoom hash) s₀ actions) := by
      intro h₀
      refine always_iff_allSteps_of_invariant (J := RecordedOnce) ?_ ?_ h₀ honce
      · exact fun s action t hs hstep => recordedOnce_step hs hstep
      · exact fun s action t hs hin hstep => inLimit_step_iff hs hin hstep
    constructor
    · intro h
      have h₀ : InLimit s₀ := h [] actions s₀ rfl (.nil s₀)
      exact ⟨hlimit.mp h₀, (hiff h₀).mp h⟩
    · rintro ⟨hpos, hall⟩
      exact (hiff (hlimit.mpr hpos)).mpr hall
  · refine Iff.trans (always_iff_allSteps ?_) (and_iff_right hcounted)
    exact fun s action t hs hstep => counted_step_iff hs hstep

/-- A mission with the default budget. -/
def missionStart (tools : Tools) : State where
  tools := tools
  killSwitches := .off
  rateLimitMap := fun _ => []
  budgetTracker := .new DEFAULT_AGENT_BUDGET 0
  guards := fun _ => {}
  running := []
  handlers := 0
  refused := 0

/-- The same read over and over, without a loop guard. -/
def readAgain : Action := .executeTool 0 (plainCall "get_opportunity" "PerceptionAgent") none

def investigate : Action :=
  .executeInvestigationTool 0 "get_opportunity" "run_1" noInput "opp_1" none 0

/-- 21 handlers run under the limit of 20, and one call of the loop counts as two. -/
theorem budget_overrun :
    (∃ t, Run (step id registryOnly) (missionStart (registerTool Table.empty getOpportunity))
        (List.replicate 21 readAgain) t ∧ ¬ InLimit t) ∧
      ∃ t, Run (step id loopOnly) (missionStart (registerTool Table.empty getOpportunity))
        [investigate] t ∧ ¬ Counted t := by
  constructor
  · obtain ⟨t, hrun, ht⟩ := exists_run_of_execute (step id registryOnly)
      (missionStart (registerTool Table.empty getOpportunity)) (List.replicate 21 readAgain)
      (fun t => t.handlers = 21 ∧ t.budgetTracker.config.maxToolCalls = 20) (by decide +kernel)
    obtain ⟨hhandlers, hmax⟩ := of_decide_eq_true ht
    refine ⟨t, hrun, ?_⟩
    rw [InLimit, hhandlers, hmax]
    norm_num
  · obtain ⟨t, hrun, ht⟩ := exists_run_of_execute (step id loopOnly)
      (missionStart (registerTool Table.empty getOpportunity)) [investigate]
      (fun t => t.handlers + t.refused = 1 ∧ t.budgetTracker.usage.toolCalls = 2)
      (by decide +kernel)
    obtain ⟨hhandlers, hcalls⟩ := of_decide_eq_true ht
    refine ⟨t, hrun, ?_⟩
    rw [Counted, hhandlers, hcalls]
    decide

/-- A tool that is not registered: the call is refused and counted once. -/
theorem unregistered_counted :
    Fresh (missionStart Table.empty) ∧
      ∀ pre rest t, [investigate] = pre ++ rest →
        Run (step id loopOnly) (missionStart Table.empty) pre t → Counted t := by
  have hfresh : Fresh (missionStart Table.empty) := ⟨rfl, rfl, rfl⟩
  refine ⟨hfresh, (toolBudget_iff id hfresh [investigate]).2.2.mpr fun t _ => ⟨?_, trivial⟩⟩
  rintro ⟨tool, hfind, -⟩
  cases hfind

end ToolBudget

end CtrlRecovery
