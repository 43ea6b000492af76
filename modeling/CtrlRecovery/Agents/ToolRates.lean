import CtrlRecovery.Agents.ToolRegistry
import CtrlRecovery.Core.KeyedWindow
import CtrlRecovery.Types
import Mathlib.Algebra.Order.Archimedean.Basic
import Mathlib.Data.Set.Card

/-!
# The rate of a tool

A tool declares how often it may be called in a minute. Nothing reads the number: the gate admits 60
calls a minute for every run and agent, whichever tool they are for, and a `tools/call` request of the
MCP server is a run of its own. A tool keeps its declared rate exactly as long as its calls come under
so few keys of the gate that 60 calls for each of them do not exceed it (`rateKept_iff`).
-/

namespace CtrlRecovery

open Core AgentAuthorityGate AgentToolRegistry

/-! ### The MCP server -/

namespace MCPServer

inductive MCPErrorCode
  | invalidParams
  | methodNotFound
  deriving DecidableEq, Repr

structure MCPError where
  code : MCPErrorCode
  message : String
  deriving DecidableEq, Repr

/-- The call of a `tools/call` request; a name that is no text is `none`. -/
def toolsCall (tools : Tools) (now : Timestamp) (name : Option String)
    (arguments : Option InputPayload) : Except MCPError ToolCall :=
  match name.filter (· ≠ "") with
  | none          => .error ⟨.invalidParams, "Missing or invalid \"name\" in tool call params."⟩
  | some toolName =>
    match getTool tools toolName with
    | none      => .error ⟨.methodNotFound, "Tool '" ++ toolName ++ "' not found in registry."⟩
    | some tool => .ok
        { toolId := toolName
          runId := "mcp_" ++ toString now
          agentName := if tool.agent = "ALL" then "PerceptionAgent" else tool.agent
          inputPayload := arguments.getD noInput }

end MCPServer

namespace ToolRates

/-! ### Sequences of calls -/

/-- The agents call with what they carry along, the MCP server on request of a client. -/
inductive Caller
  | agent (call : ToolCall) (budgetTracker : Option MissionBudgetTracker)
      (loopGuard : Option LoopGuard)
  | mcp (name : Option String) (arguments : Option InputPayload)

structure Request where
  now : Timestamp
  ks : KillSwitches
  caller : Caller

namespace Request

/-- The call of `executeTool` that a request leads to. -/
def call (tools : Tools) (request : Request) : Option ToolCall :=
  match request.caller with
  | .agent call _ _     => some call
  | .mcp name arguments => (MCPServer.toolsCall tools request.now name arguments).toOption

def budgetTracker (request : Request) : Option MissionBudgetTracker :=
  match request.caller with
  | .agent _ budgetTracker _ => budgetTracker
  | .mcp _ _                 => none

def loopGuard (request : Request) : Option LoopGuard :=
  match request.caller with
  | .agent _ _ loopGuard => loopGuard
  | .mcp _ _             => none

end Request

def keyOf (call : ToolCall) : String := agentKey call.runId call.agentName

/-- A handler that was invoked. -/
structure Invocation where
  toolId : String
  key : String
  time : Timestamp
  deriving DecidableEq, Repr

/-- The process: the map of the gate, and the invocations so far, the latest first. -/
structure Process where
  rateLimitMap : RateLimitMap
  invocations : List Invocation

def Process.started : Process where
  rateLimitMap := fun _ => []
  invocations := []

-- `crypto.createHash('sha256')`, as the loop guard uses it
variable (hash : String → String) (tools : Tools)

/-- One call. -/
def Process.execute (p : Process) (request : Request) (call : ToolCall) : Process :=
  let dispatched := executeTool hash tools request.ks p.rateLimitMap request.now call
    request.budgetTracker request.loopGuard
  { rateLimitMap := dispatched.rateLimitMap
    invocations := match dispatched.dispatch with
      | .invoked tool => ⟨tool.toolId, keyOf call, request.now⟩ :: p.invocations
      | .returned _   => p.invocations }

def Process.handle (p : Process) (request : Request) : Process :=
  match request.call tools with
  | some call => p.execute hash tools request call
  | none      => p

def Process.run (p : Process) (requests : List Request) : Process :=
  requests.foldl (Process.handle hash tools) p

def Process.invocationsOf (p : Process) (toolId : String) : List (String × ℕ) :=
  (p.invocations.filter fun i => i.toolId = toolId).map fun i => (i.key, i.time)

def Process.rate (p : Process) (toolId : String) (start : Timestamp) : ℕ :=
  SlidingWindow.within 60000 start ((p.invocationsOf toolId).map Prod.snd)

def Process.allInvocations (p : Process) : List (String × ℕ) :=
  p.invocations.map fun i => (i.key, i.time)

/-- The times do not decrease. -/
def InOrder (requests : List Request) : Prop := requests.Pairwise fun r r' => r.now ≤ r'.now

/-! ### The window of a key -/

section Window

variable {rateLimitMap : RateLimitMap} {now now' : ℤ} {runId agentName key : String}

/-- A call that is counted is recent from then on for the length of the window. -/
lemma callTimestamps_countCall (h : now ≤ now') :
    callTimestamps (countCall rateLimitMap now runId agentName) now' key =
      callTimestamps rateLimitMap now' key ++
        if key = agentKey runId agentName ∧
            (callTimestamps rateLimitMap now key).length < MAX_CALLS_PER_WINDOW ∧
            now' - now < RATE_LIMIT_WINDOW_MS then [now]
        else [] := by
  have hrecent : (callTimestamps rateLimitMap now key).filter
      (fun t => now' - t < RATE_LIMIT_WINDOW_MS) = callTimestamps rateLimitMap now' key := by
    rw [callTimestamps, List.filter_filter]
    refine List.filter_congr fun t _ => ?_
    simp only [Bool.and_eq_left_iff_imp, decide_eq_true_eq]
    omega
  by_cases hkey : key = agentKey runId agentName
  · subst hkey
    rw [countCall]
    by_cases hlimit : (callTimestamps rateLimitMap now (agentKey runId agentName)).length <
        MAX_CALLS_PER_WINDOW
    · rw [callTimestamps, if_pos hlimit, Function.update_self, List.filter_append, hrecent]
      simp [hlimit, List.filter_singleton]
    · simp [hlimit]
  · rw [countCall]
    split_ifs with hlimit hthis hthis
    · exact absurd hthis.1 hkey
    · rw [callTimestamps, Function.update_of_ne hkey, List.append_nil, callTimestamps]
    · exact absurd hthis.1 hkey
    · rw [List.append_nil]

end Window

/-! ### What every key keeps -/

section Keys

variable {hash tools} {p : Process} {request : Request} {requests : List Request} {call : ToolCall}
  {tool : ToolDefinition} {now now' : Timestamp}

open SlidingWindow

/-- No key has more invocations in a minute than the gate admits, and the gate counts those that are
recent. -/
structure Kept (p : Process) (now : Timestamp) : Prop where
  limit : ∀ key start, within 60000 start (ofKey key p.allInvocations) ≤ MAX_CALLS_PER_WINDOW
  counted : ∀ key (now' : ℕ), now ≤ now' → recent 60000 now' (ofKey key p.allInvocations) ≤
    (callTimestamps p.rateLimitMap now' key).length

lemma Kept.started (now : Timestamp) : Kept .started now where
  limit _ _ := Nat.zero_le _
  counted _ _ _ := Nat.zero_le _

lemma Kept.later (h : Kept p now) (hle : now ≤ now') : Kept p now' where
  limit := h.limit
  counted key now'' hle' := h.counted key now'' (hle.trans hle')

lemma rateLimitMap_execute : (p.execute hash tools request call).rateLimitMap =
    if (getTool tools call.toolId).isSome then
      countCall p.rateLimitMap request.now call.runId call.agentName
    else p.rateLimitMap := by
  rw [Process.execute, executeTool]
  cases getTool tools call.toolId with
  | none => rfl
  | some tool =>
    simp only [Option.isSome_some, if_true]
    split_ifs <;> rfl

lemma execute_of_permits (hfind : tools.find? call.toolId = some tool)
    (hpermits : Permits hash request.ks p.rateLimitMap request.now
      (gateContext tool call request.budgetTracker request.loopGuard)) :
    p.execute hash tools request call =
      { rateLimitMap := countCall p.rateLimitMap request.now call.runId call.agentName
        invocations := ⟨tool.toolId, keyOf call, request.now⟩ :: p.invocations } := by
  have hmap : (p.execute hash tools request call).rateLimitMap =
      countCall p.rateLimitMap request.now call.runId call.agentName := by
    rw [rateLimitMap_execute, getTool, hfind]
    rfl
  rw [← hmap, Process.execute, executeTool_eq_invoked.mpr ⟨hfind, hpermits⟩]

lemma execute_cases (p : Process) (request : Request) (call : ToolCall) :
    (p.execute hash tools request call).invocations = p.invocations ∨
      ∃ tool, tools.find? call.toolId = some tool ∧
        Permits hash request.ks p.rateLimitMap request.now
          (gateContext tool call request.budgetTracker request.loopGuard) := by
  cases hdispatch : (executeTool hash tools request.ks p.rateLimitMap request.now call
      request.budgetTracker request.loopGuard).dispatch with
  | returned result =>
    left
    rw [Process.execute, hdispatch]
  | invoked tool => exact .inr ⟨tool, executeTool_eq_invoked.mp hdispatch⟩

lemma length_callTimestamps_execute_ge (key : String) (h : request.now ≤ now) :
    (callTimestamps p.rateLimitMap now key).length ≤
      (callTimestamps (p.execute hash tools request call).rateLimitMap now key).length := by
  rw [rateLimitMap_execute]
  split_ifs
  · rw [callTimestamps_countCall (by exact_mod_cast h), List.length_append]
    exact Nat.le_add_right _ _
  · exact le_rfl

/-- One call keeps what every key keeps. -/
lemma Kept.execute (h : Kept p now) (hle : now ≤ request.now) :
    Kept (p.execute hash tools request call) request.now := by
  rcases execute_cases p request call with hsame | ⟨tool, hfind, hpermits⟩
  · constructor
    · intro key start
      rw [Process.allInvocations, hsame]
      exact h.limit key start
    · intro key now' hle'
      rw [Process.allInvocations, hsame]
      exact (h.counted key now' (hle.trans hle')).trans (length_callTimestamps_execute_ge key hle')
  · rw [execute_of_permits hfind hpermits]
    have hrate := hpermits.rate
    constructor
    · intro key start
      rw [Process.allInvocations, List.map_cons, ofKey_cons]
      split_ifs with hkey
      · subst hkey
        exact within_cons_le (h.limit _) ((h.counted _ _ hle).trans_lt hrate) start
      · exact h.limit key start
    · intro key now' hle'
      have hold := h.counted key now' (hle.trans hle')
      rw [Process.allInvocations, List.map_cons, callTimestamps_countCall (by exact_mod_cast hle'),
        ofKey_cons, List.length_append]
      by_cases hkey : keyOf call = key
      · subst hkey
        rw [if_pos rfl, recent_cons]
        have hwindow : (now' : ℤ) - request.now < RATE_LIMIT_WINDOW_MS ↔
            now' < request.now + 60000 := by
          rw [RATE_LIMIT_WINDOW_MS]
          omega
        by_cases hrecent : now' < request.now + 60000
        · rw [if_pos hrecent, if_pos ⟨rfl, hrate, hwindow.mpr hrecent⟩]
          exact Nat.add_le_add_right hold 1
        · rw [if_neg hrecent]
          exact hold.trans (Nat.le_add_right _ _)
      · rw [if_neg hkey]
        exact hold.trans (Nat.le_add_right _ _)

lemma Kept.handle (h : Kept p now) (hle : now ≤ request.now) :
    Kept (p.handle hash tools request) request.now := by
  rw [Process.handle]
  cases request.call tools with
  | none => exact h.later hle
  | some call => exact h.execute hle

lemma Kept.run (h : Kept p now) (hle : ∀ request ∈ requests, now ≤ request.now)
    (hordered : InOrder requests) : ∃ now', Kept (p.run hash tools requests) now' := by
  induction requests generalizing p now with
  | nil => exact ⟨now, h⟩
  | cons request requests ih =>
    obtain ⟨hnext, hrest⟩ := List.pairwise_cons.mp hordered
    exact ih (h.handle (hle request List.mem_cons_self)) hnext hrest

/-- Every invocation is that of a call that reaches the tool. -/
lemma mem_invocations_run {i : Invocation} (h : i ∈ (p.run hash tools requests).invocations) :
    i ∈ p.invocations ∨ ∃ request ∈ requests, ∃ call ∈ request.call tools, ∃ tool,
      tools.find? call.toolId = some tool ∧ tool.toolId = i.toolId ∧ keyOf call = i.key ∧
        Reachable tool call.agentName := by
  induction requests generalizing p with
  | nil => exact .inl h
  | cons request requests ih =>
    rcases ih h with hfirst | ⟨request', hrequest', hcall⟩
    · rw [Process.handle] at hfirst
      cases hcall : request.call tools with
      | none =>
        rw [hcall] at hfirst
        exact .inl hfirst
      | some call =>
        rw [hcall] at hfirst
        dsimp only at hfirst
        rcases execute_cases p request call with hsame | ⟨tool, hfind, hpermits⟩
        · rw [hsame] at hfirst
          exact .inl hfirst
        · rw [execute_of_permits hfind hpermits] at hfirst
          rcases List.mem_cons.mp hfirst with rfl | hold
          · exact .inr ⟨request, List.mem_cons_self, call, hcall, tool, hfind, rfl, rfl,
              hpermits.agent, hpermits.scope, hpermits.toolName, hpermits.permission⟩
          · exact .inl hold
    · exact .inr ⟨request', List.mem_cons_of_mem _ hrequest', hcall⟩

/-- The keys of a set under which the gate lets calls of a tool through. -/
def reachableKeys (tool : ToolDefinition) (keys : Set String) : Set String :=
  {key ∈ keys | ∃ runId agentName, agentKey runId agentName = key ∧ Reachable tool agentName}

/-- Where the calls of a tool come under finitely many keys, its invocations keep their limit. -/
lemma rate_run_le {keys : Set String} (hfind : tools.find? tool.toolId = some tool)
    (hordered : InOrder requests)
    (hkeys : ∀ request ∈ requests, ∀ call ∈ request.call tools,
      call.toolId = tool.toolId → keyOf call ∈ keys)
    (hfinite : (reachableKeys tool keys).Finite) (start : ℕ) :
    (Process.started.run hash tools requests).rate tool.toolId start ≤
      (reachableKeys tool keys).ncard * MAX_CALLS_PER_WINDOW := by
  obtain ⟨now, hkept⟩ : ∃ now, Kept (Process.started.run hash tools requests) now :=
    (Kept.started 0).run (fun _ _ => Nat.zero_le _) hordered
  rw [Set.ncard_eq_toFinset_card _ hfinite]
  refine within_le_card_mul ?_ fun key _ => ?_
  · intro event hevent
    simp only [Process.invocationsOf, List.mem_map, List.mem_filter, decide_eq_true_eq] at hevent
    obtain ⟨i, ⟨hi, htool⟩, rfl⟩ := hevent
    rcases mem_invocations_run hi with hnone | ⟨request, hrequest, call, hcall, found, hfound, hid,
      hkey, hreach⟩
    · cases hnone
    · have hname : call.toolId = tool.toolId := by
        rw [← Table.key_of_find? hfound, hid, htool]
      rw [hname, hfind] at hfound
      cases hfound
      rw [Set.Finite.mem_toFinset]
      exact ⟨hkey ▸ hkeys request hrequest call hcall hname, call.runId, call.agentName, hkey,
        hreach⟩
  · have hsub : ((Process.started.run hash tools requests).invocationsOf tool.toolId).Sublist
        (Process.started.run hash tools requests).allInvocations :=
      List.Sublist.map _ List.filter_sublist
    exact (within_le_of_sublist (ofKey_sublist hsub)).trans (hkept.limit key start)

/-! ### A minute's worth of calls -/

/-- A call that only the limit of its key can refuse. -/
def plainRequest (tool : ToolDefinition) (runId agentName : String) : Request where
  now := 0
  ks := .off
  caller := .agent { plainCall tool.toolId agentName with runId := runId } none none

lemma permits_plainRequest {runId agentName : String} (h : Reachable tool agentName)
    {rateLimitMap : RateLimitMap} (hrate : (callTimestamps rateLimitMap now
      (agentKey runId agentName)).length < MAX_CALLS_PER_WINDOW) :
    Permits hash KillSwitches.off rateLimitMap now
      (gateContext tool { plainCall tool.toolId agentName with runId := runId } none none) where
  killSwitch := rfl
  agent := h.agent
  scope := h.scope
  budget := by simp [gateContext]
  rate := hrate
  toolName := h.toolName
  permission := h.permission
  environment := by simp [gateContext, plainCall, Js.orElse]
  payload := detectedPattern_noInput
  loop := by simp [gateContext]

lemma run_append (p : Process) (requests requests' : List Request) :
    p.run hash tools (requests ++ requests') =
      (p.run hash tools requests).run hash tools requests' := List.foldl_append

/-- As many calls as the limit leaves are all invoked. -/
lemma run_replicate_plainRequest (hash : String → String) (p : Process) (runId : String)
    {agentName : String} (hfind : tools.find? tool.toolId = some tool)
    (hreach : Reachable tool agentName) (n : ℕ)
    (hn : (callTimestamps p.rateLimitMap 0 (agentKey runId agentName)).length + n ≤
      MAX_CALLS_PER_WINDOW) :
    (p.run hash tools (List.replicate n (plainRequest tool runId agentName))).invocations =
        List.replicate n ⟨tool.toolId, agentKey runId agentName, 0⟩ ++ p.invocations ∧
      ∀ key, callTimestamps (p.run hash tools (List.replicate n
          (plainRequest tool runId agentName))).rateLimitMap 0 key =
        callTimestamps p.rateLimitMap 0 key ++
          if key = agentKey runId agentName then List.replicate n 0 else [] := by
  induction n with
  | zero => exact ⟨rfl, fun key => by simp [Process.run]⟩
  | succ n ih =>
    obtain ⟨hinvocations, htimes⟩ := ih (by omega)
    rw [List.replicate_succ', run_append]
    generalize p.run hash tools (List.replicate n (plainRequest tool runId agentName)) = q at *
    have hrate : (callTimestamps q.rateLimitMap 0 (agentKey runId agentName)).length <
        MAX_CALLS_PER_WINDOW := by
      rw [htimes, if_pos rfl, List.length_append, List.length_replicate]
      omega
    have hnext : q.handle hash tools (plainRequest tool runId agentName) =
        { rateLimitMap := countCall q.rateLimitMap 0 runId agentName
          invocations := ⟨tool.toolId, agentKey runId agentName, 0⟩ :: q.invocations } :=
      execute_of_permits hfind (permits_plainRequest hreach hrate)
    rw [Process.run, List.foldl_cons, List.foldl_nil, hnext]
    refine ⟨by rw [hinvocations]; rfl, fun key => ?_⟩
    rw [callTimestamps_countCall le_rfl]
    by_cases hkey : key = agentKey runId agentName
    · subst hkey
      rw [if_pos ⟨rfl, hrate, by decide⟩, htimes, if_pos rfl, if_pos rfl, List.append_assoc,
        List.replicate_succ']
    · rw [if_neg fun h => hkey h.1, htimes, if_neg hkey, if_neg hkey, List.append_nil]

lemma rate_of_invocations {q : Process} {key : String} {n : ℕ}
    (h : q.invocations = List.replicate n ⟨tool.toolId, key, 0⟩ ++ p.invocations) :
    q.rate tool.toolId 0 = n + p.rate tool.toolId 0 := by
  simp [Process.rate, Process.invocationsOf, h, within, List.countP_replicate]

/-- A minute's worth of calls under each of some keys. -/
lemma rate_run_plainRequests {f : String → String × String} {keys : List String}
    (hfind : tools.find? tool.toolId = some tool) (hnodup : keys.Nodup)
    (hf : ∀ key ∈ keys, agentKey (f key).1 (f key).2 = key ∧ Reachable tool (f key).2)
    (hempty : ∀ key ∈ keys, callTimestamps p.rateLimitMap 0 key = []) :
    (p.run hash tools (keys.flatMap fun key => List.replicate MAX_CALLS_PER_WINDOW
        (plainRequest tool (f key).1 (f key).2))).rate tool.toolId 0 =
      keys.length * MAX_CALLS_PER_WINDOW + p.rate tool.toolId 0 := by
  induction keys generalizing p with
  | nil => simp [Process.run]
  | cons key keys ih =>
    obtain ⟨hnotMem, hnodup⟩ := List.nodup_cons.mp hnodup
    obtain ⟨⟨hkey, hreach⟩, hf⟩ := List.forall_mem_cons.mp hf
    obtain ⟨hfirst, hempty⟩ := List.forall_mem_cons.mp hempty
    obtain ⟨hinvocations, htimes⟩ := run_replicate_plainRequest hash p (f key).1 hfind hreach
      MAX_CALLS_PER_WINDOW (by rw [hkey, hfirst]; rfl)
    have hrest : ∀ other ∈ keys, callTimestamps (p.run hash tools (List.replicate
        MAX_CALLS_PER_WINDOW (plainRequest tool (f key).1 (f key).2))).rateLimitMap 0 other = [] := by
      intro other hother
      have hne : other ≠ agentKey (f key).1 (f key).2 := by
        rintro rfl
        exact hnotMem (hkey ▸ hother)
      rw [htimes, hempty other hother, if_neg hne, List.append_nil]
    rw [List.flatMap_cons, run_append, ih hnodup hf hrest, rate_of_invocations hinvocations,
      List.length_cons]
    ring

lemma inOrder_of_now_eq_zero (h : ∀ request ∈ requests, request.now = 0) : InOrder requests := by
  refine List.pairwise_of_forall_mem_list fun request hrequest request' _ => ?_
  rw [h request hrequest]
  exact Nat.zero_le _

/-- Whatever is called in whatever order, a tool keeps its declared rate as long as its calls come under
these keys. -/
def RateKept (hash : String → String) (tools : Tools) (tool : ToolDefinition) (keys : Set String) :
    Prop :=
  ∀ requests, InOrder requests →
    (∀ request ∈ requests, ∀ call ∈ request.call tools,
      call.toolId = tool.toolId → keyOf call ∈ keys) →
    ∀ start, ((Process.started.run hash tools requests).rate tool.toolId start : ℚ) ≤
      tool.rateLimitPerMin

/-- A minute's worth of calls under each of finitely many reachable keys is a run that has to keep the
rate. -/
lemma RateKept.card_le {keys : Set String} (h : RateKept hash tools tool keys)
    (hfind : tools.find? tool.toolId = some tool) {callers : Finset String}
    (hsub : ↑callers ⊆ reachableKeys tool keys) :
    ((callers.card * 60 : ℕ) : ℚ) ≤ tool.rateLimitPerMin := by
  have hcaller : ∀ key ∈ callers, ∃ caller : String × String,
      agentKey caller.1 caller.2 = key ∧ Reachable tool caller.2 := by
    intro key hkey
    obtain ⟨-, runId, agentName, heq, hreach⟩ := hsub hkey
    exact ⟨(runId, agentName), heq, hreach⟩
  choose! f hf using hcaller
  have hrequests : ∀ request ∈ callers.toList.flatMap (fun key => List.replicate
      MAX_CALLS_PER_WINDOW (plainRequest tool (f key).1 (f key).2)), ∃ key ∈ callers,
      request = plainRequest tool (f key).1 (f key).2 := by
    intro request hrequest
    obtain ⟨key, hkey, hmem⟩ := List.mem_flatMap.mp hrequest
    exact ⟨key, Finset.mem_toList.mp hkey, List.eq_of_mem_replicate hmem⟩
  have hrate := h (callers.toList.flatMap fun key => List.replicate MAX_CALLS_PER_WINDOW
    (plainRequest tool (f key).1 (f key).2)) (inOrder_of_now_eq_zero fun request hrequest => by
      obtain ⟨key, -, rfl⟩ := hrequests request hrequest
      rfl) (fun request hrequest call hcall _ => by
      obtain ⟨key, hkey, rfl⟩ := hrequests request hrequest
      cases hcall
      exact Set.mem_of_eq_of_mem (hf key hkey).1 (hsub hkey).1) 0
  rw [rate_run_plainRequests hfind callers.nodup_toList
    (fun key hkey => hf key (Finset.mem_toList.mp hkey)) (fun _ _ => rfl)] at hrate
  simpa [Process.rate, Process.invocationsOf, Process.started, within, MAX_CALLS_PER_WINDOW]
    using hrate

end Keys

/-- A tool keeps its declared rate, however it is called under some keys, exactly when these are so few
that the gate's own limit for each of those under which the tool is reachable does not exceed it. -/
theorem rateKept_iff (hash : String → String) (tools : Tools) (tool : ToolDefinition)
    (keys : Set String) (hfind : tools.find? tool.toolId = some tool) :
    RateKept hash tools tool keys ↔ (reachableKeys tool keys).Finite ∧
      (((reachableKeys tool keys).ncard * 60 : ℕ) : ℚ) ≤ tool.rateLimitPerMin := by
  constructor
  · intro h
    have hfinite : (reachableKeys tool keys).Finite := by
      by_contra hinfinite
      obtain ⟨n, hn⟩ := exists_nat_gt tool.rateLimitPerMin
      obtain ⟨callers, hsub, hcard⟩ := Set.Infinite.exists_subset_card_eq hinfinite n
      have hle := h.card_le hfind hsub
      rw [hcard] at hle
      have hgrow : (n : ℚ) ≤ ((n * 60 : ℕ) : ℚ) := by
        exact_mod_cast Nat.le_mul_of_pos_right n (by decide)
      exact absurd (hgrow.trans hle) (not_le.mpr hn)
    refine ⟨hfinite, ?_⟩
    rw [Set.ncard_eq_toFinset_card _ hfinite]
    exact h.card_le hfind hfinite.coe_toFinset.subset
  · rintro ⟨hfinite, hle⟩ requests hordered hkeys start
    refine le_trans ?_ hle
    exact_mod_cast rate_run_le hfind hordered hkeys hfinite start

/-- A tool of 60 calls a minute keeps its rate for one run and agent. -/
theorem rateKept_one_run : RateKept id (registerTool Table.empty getOpportunity) getOpportunity
    {agentKey "run_1" "StrategyAgent"} := by
  have hsub : reachableKeys getOpportunity {agentKey "run_1" "StrategyAgent"} ⊆
      {agentKey "run_1" "StrategyAgent"} := Set.sep_subset _ _
  refine (rateKept_iff _ _ _ _ Table.find?_put_self).mpr
    ⟨(Set.finite_singleton _).subset hsub, ?_⟩
  have hcard := Set.ncard_le_ncard hsub (Set.finite_singleton _)
  rw [Set.ncard_singleton] at hcard
  have hle : (reachableKeys getOpportunity {agentKey "run_1" "StrategyAgent"}).ncard * 60 ≤ 60 := by
    omega
  calc (((reachableKeys getOpportunity {agentKey "run_1" "StrategyAgent"}).ncard * 60 : ℕ) : ℚ)
      ≤ ((60 : ℕ) : ℚ) := by exact_mod_cast hle
    _ = getOpportunity.rateLimitPerMin := rfl

/-- The strategy agent calls its tool 16 times in a minute, one time more than the tool declares. -/
theorem not_rateKept_strategy : ¬ RateKept id (registerTool Table.empty createStrategyProposal)
    createStrategyProposal Set.univ := by
  intro h
  have hreach : Reachable createStrategyProposal "StrategyAgent" := by
    constructor <;> decide
  have hordered : InOrder (List.replicate 16
      (plainRequest createStrategyProposal "run_1" "StrategyAgent")) :=
    inOrder_of_now_eq_zero fun request hrequest => by rw [List.eq_of_mem_replicate hrequest]; rfl
  have hfind : Table.find? (registerTool Table.empty createStrategyProposal)
      createStrategyProposal.toolId = some createStrategyProposal := Table.find?_put_self
  have hrate := h _ hordered (fun _ _ _ _ _ => Set.mem_univ _) 0
  rw [rate_of_invocations (run_replicate_plainRequest id _ _ hfind hreach 16 (by decide)).1] at hrate
  exact absurd hrate (by decide +kernel)

end ToolRates

end CtrlRecovery
