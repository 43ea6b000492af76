import CtrlRecovery.Agents.ContextBuilder
import CtrlRecovery.Agents.Replay
import CtrlRecovery.Agents.StateMachine
import CtrlRecovery.Core.CodeUnits
import CtrlRecovery.Core.Json
import CtrlRecovery.Core.Run

/-!
# The telemetry of the agents

`AgentTelemetry` logs the steps of a mission, its tool calls and its invocations of the language model,
sanitized, and `getMissionTrace` puts together what has been logged for a run. Whatever has been logged
and in whatever order, a trace shows of its run what was logged for it and nothing of the others, and no
key or token in any text that is sanitized. A preview is cut after it was sanitized, so that the digits at
its end may look like a number that is to be redacted; no other such number is shown
(`trace_of_run`).
-/

namespace CtrlRecovery

open Core StandAlone AgentContextBuilder

namespace AgentTelemetry

/-! ### Records -/

abbrev Payload : Type := List (String × Json)

structure AgentStateRecord where
  runId : String
  state : AgentState
  previousState : Option AgentState
  trigger : String
  metadata : Option String
  timestamp : Timestamp

structure AgentStepRecord where
  runId : String
  stepNumber : ℤ
  state : AgentState
  observation : Option String
  thought : Option String
  actionType : Option String
  actionPayload : Option String
  toolName : Option String
  toolInput : Option String
  toolOutput : Option String
  timestamp : Timestamp

structure AgentToolCallRecord where
  id : String
  runId : String
  toolName : String
  agentName : String
  inputPayload : String
  inputHash : String
  outputPayload : String
  outputHash : String
  status : MissionReplayEngine.ToolCallStatus
  latencyMs : ℚ
  errorMessage : Option String
  permissionLevel : String
  createdAt : Timestamp

structure LLMInvocationRecord where
  id : String
  runId : String
  model : String
  provider : String
  promptHash : String
  promptPreview : String
  completionHash : String
  completionPreview : String
  reasoningPreview : Option String
  latencyMs : ℚ
  promptTokens : ℚ
  completionTokens : ℚ
  totalTokens : ℚ
  error : Option String
  createdAt : Timestamp

/-- The tables; the states and the steps are in the order of their ids. -/
structure Rows where
  states : List AgentStateRecord
  steps : List AgentStepRecord
  toolCalls : Table AgentToolCallRecord.id
  llmInvocations : Table LLMInvocationRecord.id

def Rows.empty : Rows := ⟨[], [], Table.empty, Table.empty⟩

/-! ### What is logged -/

structure StepParams where
  runId : String
  stepNumber : ℤ
  state : AgentState
  observation : Option String
  thought : Option String
  actionType : Option String
  actionPayload : Option Payload
  toolName : Option String
  toolInput : Option Payload
  toolOutput : Option Payload
  now : Timestamp

structure ToolCallParams where
  id : String
  runId : String
  toolName : String
  agentName : String
  inputPayload : Payload
  outputPayload : Payload
  status : MissionReplayEngine.ToolCallStatus
  latencyMs : ℚ
  errorMessage : Option String
  permissionLevel : String
  now : Timestamp

structure InvocationParams where
  id : String
  runId : String
  model : String
  provider : String
  prompt : String
  completion : String
  reasoning : Option String
  latencyMs : ℚ
  promptTokens : Option ℚ
  completionTokens : Option ℚ
  totalTokens : Option ℚ
  error : Option String
  now : Timestamp

/-- The same replacements as those of a prompt's context. -/
def sanitizeTextForLog (text : String) : String := sanitize text

/-- `x || null`. -/
def orNull (text : Option String) : Option String := text.filter (· ≠ "")

def sanitizeGiven (text : Option String) : Option String :=
  orNull ((orNull text).map sanitizeTextForLog)

def sanitizePayload (payload : Payload) : String :=
  sanitizeTextForLog (Json.object payload).stringify

section Records

variable (hash : String → String)

def hashContent : String ⊕ Payload → String
  | .inl content => hash content
  | .inr content => hash (Json.object content).stringify

def stepRecord (params : StepParams) : AgentStepRecord where
  runId := params.runId
  stepNumber := params.stepNumber
  state := params.state
  observation := sanitizeGiven params.observation
  thought := sanitizeGiven params.thought
  actionType := orNull params.actionType
  actionPayload := orNull (params.actionPayload.map sanitizePayload)
  toolName := orNull params.toolName
  toolInput := orNull (params.toolInput.map sanitizePayload)
  toolOutput := orNull (params.toolOutput.map sanitizePayload)
  timestamp := params.now

def toolCallRecord (params : ToolCallParams) : AgentToolCallRecord where
  id := params.id
  runId := params.runId
  toolName := params.toolName
  agentName := params.agentName
  inputPayload := sanitizePayload params.inputPayload
  inputHash := hashContent hash (.inr params.inputPayload)
  outputPayload := sanitizePayload params.outputPayload
  outputHash := hashContent hash (.inr params.outputPayload)
  status := params.status
  latencyMs := params.latencyMs
  errorMessage := orNull params.errorMessage
  permissionLevel := params.permissionLevel
  createdAt := params.now

/-- The total that is given, or else the sum of what is given; zero counts as not given. -/
def totalTokens (params : InvocationParams) : ℚ :=
  (params.totalTokens.filter (· ≠ 0)).getD
    (params.promptTokens.getD 0 + params.completionTokens.getD 0)

def invocationRecord (params : InvocationParams) : LLMInvocationRecord where
  id := params.id
  runId := params.runId
  model := params.model
  provider := params.provider
  promptHash := hashContent hash (.inl params.prompt)
  promptPreview := Js.slice (sanitizeTextForLog params.prompt) 300
  completionHash := hashContent hash (.inl params.completion)
  completionPreview := Js.slice (sanitizeTextForLog params.completion) 500
  reasoningPreview :=
    orNull ((sanitizeGiven params.reasoning).map fun reasoning => Js.slice reasoning 300)
  latencyMs := params.latencyMs
  promptTokens := params.promptTokens.getD 0
  completionTokens := params.completionTokens.getD 0
  totalTokens := totalTokens params
  error := orNull params.error
  createdAt := params.now

inductive Log
  /-- A state that the machine of a run has persisted. -/
  | state (record : AgentStateRecord)
  | step (params : StepParams)
  | toolCall (params : ToolCallParams)
  | llmInvocation (params : InvocationParams)

def Log.runId : Log → String
  | .state record         => record.runId
  | .step params          => params.runId
  | .toolCall params      => params.runId
  | .llmInvocation params => params.runId

/-- Log one of them; `none` when its id is taken. -/
def log (rows : Rows) : Log → Option Rows
  | .state record         => some { rows with states := rows.states ++ [record] }
  | .step params          => some { rows with steps := rows.steps ++ [stepRecord params] }
  | .toolCall params      =>
    (rows.toolCalls.insert? (toolCallRecord hash params)).map fun toolCalls => { rows with toolCalls }
  | .llmInvocation params =>
    (rows.llmInvocations.insert? (invocationRecord hash params)).map fun llmInvocations =>
      { rows with llmInvocations }

end Records

/-! ### The trace of a mission -/

structure Summary where
  totalSteps : ℕ
  totalToolCalls : ℕ
  totalLlmCalls : ℕ
  totalTokens : ℚ
  totalLatencyMs : ℚ

structure AgentMissionTrace where
  runId : String
  states : List AgentStateRecord
  steps : List AgentStepRecord
  toolCalls : List AgentToolCallRecord
  llmInvocations : List LLMInvocationRecord
  summary : Summary

section Queries

variable (rows : Rows) (runId : String)

def getAgentStatesByRunId : List AgentStateRecord := rows.states.filter fun s => s.runId = runId

/-- `ORDER BY step_number ASC`. -/
def getAgentStepsByRunId : List AgentStepRecord :=
  (rows.steps.filter fun s => s.runId = runId).mergeSort fun s t => s.stepNumber ≤ t.stepNumber

/-- `ORDER BY created_at ASC`. -/
def getAgentToolCallsByRunId : List AgentToolCallRecord :=
  (rows.toolCalls.rows.filter fun t => t.runId = runId).mergeSort fun t u => t.createdAt ≤ u.createdAt

/-- `ORDER BY created_at ASC`. -/
def getLLMInvocationsByRunId : List LLMInvocationRecord :=
  (rows.llmInvocations.rows.filter fun l => l.runId = runId).mergeSort
    fun l m => l.createdAt ≤ m.createdAt

def getMissionTrace : AgentMissionTrace :=
  let steps := getAgentStepsByRunId rows runId
  let toolCalls := getAgentToolCallsByRunId rows runId
  let llmInvocations := getLLMInvocationsByRunId rows runId
  { runId
    states := getAgentStatesByRunId rows runId
    steps
    toolCalls
    llmInvocations
    summary :=
      { totalSteps := steps.length
        totalToolCalls := toolCalls.length
        totalLlmCalls := llmInvocations.length
        totalTokens := (llmInvocations.map (·.totalTokens)).sum
        totalLatencyMs := (toolCalls.map (·.latencyMs)).sum + (llmInvocations.map (·.latencyMs)).sum } }

end Queries

/-! ### What the rows hold -/

section Runs

variable {hash : String → String} {rows rows' : Rows} {logs logs' : List Log} {runId : String}

def Log.state? : Log → Option AgentStateRecord
  | .state record => some record
  | _             => none

def Log.step? : Log → Option AgentStepRecord
  | .step params => some (stepRecord params)
  | _            => none

def Log.toolCall? (hash : String → String) : Log → Option AgentToolCallRecord
  | .toolCall params => some (toolCallRecord hash params)
  | _                => none

def Log.llmInvocation? (hash : String → String) : Log → Option LLMInvocationRecord
  | .llmInvocation params => some (invocationRecord hash params)
  | _                     => none

/-- The rows hold the records of these logs, in their order. -/
structure Holds (hash : String → String) (logs : List Log) (rows : Rows) : Prop where
  states : rows.states = logs.filterMap Log.state?
  steps : rows.steps = logs.filterMap Log.step?
  toolCalls : rows.toolCalls.rows = logs.filterMap (Log.toolCall? hash)
  llmInvocations : rows.llmInvocations.rows = logs.filterMap (Log.llmInvocation? hash)

/-- A log adds its record to the rows of its kind, at their end. -/
lemma rows_of_log {entry : Log} (h : log hash rows entry = some rows') :
    rows'.states = rows.states ++ entry.state?.toList ∧
    rows'.steps = rows.steps ++ entry.step?.toList ∧
    rows'.toolCalls.rows = rows.toolCalls.rows ++ (entry.toolCall? hash).toList ∧
    rows'.llmInvocations.rows = rows.llmInvocations.rows ++ (entry.llmInvocation? hash).toList := by
  have hnone : ∀ {ρ : Type} (l : List ρ), l = l ++ [] := fun l => (List.append_nil l).symm
  cases entry with
  | state record =>
    cases h
    exact ⟨rfl, hnone _, hnone _, hnone _⟩
  | step params =>
    cases h
    exact ⟨hnone _, rfl, hnone _, hnone _⟩
  | toolCall params =>
    obtain ⟨toolCalls, hinsert, rfl⟩ := Option.map_eq_some_iff.mp h
    exact ⟨hnone _, hnone _, Table.rows_of_insert? hinsert, hnone _⟩
  | llmInvocation params =>
    obtain ⟨llmInvocations, hinsert, rfl⟩ := Option.map_eq_some_iff.mp h
    exact ⟨hnone _, hnone _, hnone _, Table.rows_of_insert? hinsert⟩

lemma filterMap_concat {α β : Type*} (f : α → Option β) (l : List α) (a : α) :
    (l ++ [a]).filterMap f = l.filterMap f ++ (f a).toList := by
  rw [List.filterMap_append]
  cases hf : f a with
  | none   => rw [List.filterMap_cons_none hf, List.filterMap_nil, Option.toList_none]
  | some b => rw [List.filterMap_cons_some hf, List.filterMap_nil, Option.toList_some]

lemma Holds.log {entry : Log} (h : Holds hash logs rows)
    (hlog : AgentTelemetry.log hash rows entry = some rows') : Holds hash (logs ++ [entry]) rows' := by
  obtain ⟨hstates, hsteps, hcalls, hinvocations⟩ := rows_of_log hlog
  refine ⟨?_, ?_, ?_, ?_⟩
  · rw [hstates, h.states, filterMap_concat]
  · rw [hsteps, h.steps, filterMap_concat]
  · rw [hcalls, h.toolCalls, filterMap_concat]
  · rw [hinvocations, h.llmInvocations, filterMap_concat]

lemma Holds.run {before : List Log} (h : Holds hash before rows)
    (hrun : Run (AgentTelemetry.log hash) rows logs rows') : Holds hash (before ++ logs) rows' := by
  induction hrun generalizing before with
  | nil => rwa [List.append_nil]
  | @cons _ _ _ entry logs hlog _ ih =>
    have hrest := ih (h.log hlog)
    rwa [List.append_assoc, List.singleton_append] at hrest

lemma holds_of_run (hrun : Run (log hash) Rows.empty logs rows) : Holds hash logs rows := by
  have hempty : Holds hash [] Rows.empty := ⟨rfl, rfl, rfl, rfl⟩
  exact hempty.run hrun

end Runs

/-! ### What a trace shows -/

section Trace

variable {α β : Type*} {f : α → Option β} {l : List α}

lemma filter_filterMap_of {p : α → Bool} {q : β → Bool} (h : ∀ a b, f a = some b → q b = p a) :
    (l.filterMap f).filter q = (l.filter p).filterMap f := by
  rw [List.filter_filterMap, List.filterMap_filter]
  refine List.filterMap_congr fun a _ => ?_
  cases hf : f a with
  | none   => split_ifs <;> rfl
  | some b => rw [Option.filter_some, h a b hf]

lemma sum_map_filterMap (g : β → ℚ) :
    ((l.filterMap f).map g).sum = (l.map fun a => (f a).elim 0 g).sum := by
  induction l with
  | nil => rfl
  | cons a l ih =>
    cases hf : f a with
    | none   => rw [List.filterMap_cons_none hf, ih, List.map_cons, List.sum_cons, hf, Option.elim,
        zero_add]
    | some b => rw [List.filterMap_cons_some hf, List.map_cons, List.sum_cons, ih, List.map_cons,
        List.sum_cons, hf, Option.elim]

end Trace

/-! ### Redacted texts -/

/-- No key or token is in the text. -/
def Keyless (text : String) : Prop :=
  ∀ p ∈ [rzpKey, nvapiKey, bearerToken], p.test text.toList = false

/-- No number of 16 or 3 digits stands alone in the text. -/
def Numberless (text : String) : Prop :=
  ∀ n ∈ [16, 3], ¬ HasNumber Char.isDigit isWordCharacter n none text.toList none

/-- None does before the end of the text. -/
def NumberlessUntilEnd (text : String) : Prop :=
  ∀ n ∈ [16, 3], ∀ front number back, text.toList = front ++ number ++ back →
    Alone Char.isDigit isWordCharacter n front.getLast? number back.head? → back = []

lemma numberless_sanitize (text : String) : Numberless (sanitize text) := by
  rw [Numberless, toList_sanitize]
  exact not_hasNumber_redactNumbers _

lemma Keyless.slice {text : String} (h : Keyless text) (n : ℕ) : Keyless (Js.slice text n) := by
  have hinfix : (Js.slice text n).toList <:+: text.toList := by
    rw [Js.slice, String.toList_ofList]
    exact (Js.prefix_takeUnits n text.toList).isInfix
  simp only [Keyless, List.forall_mem_cons] at h ⊢
  obtain ⟨hrzp, hnvapi, hbearer, -⟩ := h
  exact ⟨not_test_keyPattern_of_part hinfix hrzp, not_test_keyPattern_of_part hinfix hnvapi,
    not_test_spacedPattern_of_part isWhitespace_of_isTokenCharacter hinfix hbearer,
    List.forall_mem_nil _⟩

lemma Numberless.slice {text : String} (h : Numberless text) (n : ℕ) :
    NumberlessUntilEnd (Js.slice text n) := by
  intro m hm front number back hsplit halone
  have hprefix : front ++ number ++ back <+: text.toList := by
    rw [← hsplit, Js.slice, String.toList_ofList]
    exact Js.prefix_takeUnits n text.toList
  exact back_eq_nil_of_cut (h m hm) hprefix halone

/-! ### What a trace shows -/

/-- The texts of a trace that are sanitized. -/
def AgentMissionTrace.sanitizedTexts (trace : AgentMissionTrace) : List String :=
  (trace.steps.flatMap fun s =>
    [s.observation, s.thought, s.actionPayload, s.toolInput, s.toolOutput].reduceOption) ++
  trace.toolCalls.flatMap fun t => [t.inputPayload, t.outputPayload]

/-- The texts of a trace that are sanitized and cut. -/
def AgentMissionTrace.previews (trace : AgentMissionTrace) : List String :=
  trace.llmInvocations.flatMap fun l =>
    [some l.promptPreview, some l.completionPreview, l.reasoningPreview].reduceOption

def Log.tokens : Log → ℚ
  | .llmInvocation params => totalTokens params
  | _                     => 0

def Log.latencyMs : Log → ℚ
  | .toolCall params      => params.latencyMs
  | .llmInvocation params => params.latencyMs
  | _                     => 0

def Log.isStep : Log → Bool
  | .step _ => true
  | _       => false

/-- What has been logged for a run. -/
def logsOf (logs : List Log) (runId : String) : List Log := logs.filter fun entry => entry.runId = runId

/-- A trace shows what has been logged for its run, and its sanitized texts are redacted. -/
structure Shows (hash : String → String) (logs : List Log) (runId : String)
    (trace : AgentMissionTrace) : Prop where
  own : ∀ logs' rows', Run (log hash) Rows.empty logs' rows' → logsOf logs' runId = logsOf logs runId →
    getMissionTrace rows' runId = trace
  totalSteps : trace.summary.totalSteps = (logsOf logs runId).countP Log.isStep
  totalTokens : trace.summary.totalTokens = ((logsOf logs runId).map Log.tokens).sum
  totalLatencyMs : trace.summary.totalLatencyMs = ((logsOf logs runId).map Log.latencyMs).sum
  keyless : ∀ text ∈ trace.sanitizedTexts ++ trace.previews, Keyless text
  numberless : ∀ text ∈ trace.sanitizedTexts, Numberless text
  numberlessUntilEnd : ∀ text ∈ trace.previews, NumberlessUntilEnd text

section Runs

variable {hash : String → String} {rows rows' : Rows} {logs logs' : List Log} {runId : String}

/-- The rows of a run are the records of its logs. -/
lemma Holds.ofRun (h : Holds hash logs rows) (runId : String) :
    (rows.states.filter fun s => s.runId = runId) = (logsOf logs runId).filterMap Log.state? ∧
    (rows.steps.filter fun s => s.runId = runId) = (logsOf logs runId).filterMap Log.step? ∧
    (rows.toolCalls.rows.filter fun t => t.runId = runId) =
      (logsOf logs runId).filterMap (Log.toolCall? hash) ∧
    (rows.llmInvocations.rows.filter fun l => l.runId = runId) =
      (logsOf logs runId).filterMap (Log.llmInvocation? hash) := by
  rw [h.states, h.steps, h.toolCalls, h.llmInvocations]
  refine ⟨filter_filterMap_of ?_, filter_filterMap_of ?_, filter_filterMap_of ?_,
    filter_filterMap_of ?_⟩
  all_goals
    intro entry record hrecord
    cases entry <;> cases hrecord
    rfl

lemma getMissionTrace_congr (h : Holds hash logs rows) (h' : Holds hash logs' rows')
    (hlogs : logsOf logs' runId = logsOf logs runId) :
    getMissionTrace rows' runId = getMissionTrace rows runId := by
  obtain ⟨hstates, hsteps, hcalls, hinvocations⟩ := h.ofRun runId
  obtain ⟨hstates', hsteps', hcalls', hinvocations'⟩ := h'.ofRun runId
  simp only [getMissionTrace, getAgentStatesByRunId, getAgentStepsByRunId, getAgentToolCallsByRunId,
    getLLMInvocationsByRunId, hstates, hsteps, hcalls, hinvocations, hstates', hsteps', hcalls',
    hinvocations', hlogs]

/-! ### Totals -/

lemma totalSteps_eq (h : Holds hash logs rows) :
    (getMissionTrace rows runId).summary.totalSteps = (logsOf logs runId).countP Log.isStep := by
  obtain ⟨-, hsteps, -, -⟩ := h.ofRun runId
  have hlength : (getMissionTrace rows runId).summary.totalSteps =
      ((logsOf logs runId).filterMap Log.step?).length := by
    rw [← hsteps]
    exact List.length_mergeSort _
  rw [hlength, List.length_filterMap_eq_countP]
  refine List.countP_congr fun entry _ => ?_
  cases entry <;> simp [Log.step?, Log.isStep]

lemma sum_mergeSort {ρ : Type*} (g : ρ → ℚ) (le : ρ → ρ → Bool) (l : List ρ) :
    ((l.mergeSort le).map g).sum = (l.map g).sum :=
  ((List.mergeSort_perm l le).map g).sum_eq

lemma totalTokens_eq (h : Holds hash logs rows) :
    (getMissionTrace rows runId).summary.totalTokens =
      ((logsOf logs runId).map Log.tokens).sum := by
  obtain ⟨-, -, -, hinvocations⟩ := h.ofRun runId
  refine (sum_mergeSort _ _ _).trans ?_
  rw [hinvocations, sum_map_filterMap]
  congr 1
  refine List.map_congr_left fun entry _ => ?_
  cases entry <;> rfl

lemma totalLatencyMs_eq (h : Holds hash logs rows) :
    (getMissionTrace rows runId).summary.totalLatencyMs =
      ((logsOf logs runId).map Log.latencyMs).sum := by
  obtain ⟨-, -, hcalls, hinvocations⟩ := h.ofRun runId
  refine (congrArg₂ (· + ·) (sum_mergeSort _ _ _) (sum_mergeSort _ _ _)).trans ?_
  rw [hcalls, hinvocations, sum_map_filterMap, sum_map_filterMap, ← List.sum_map_add]
  congr 1
  refine List.map_congr_left fun entry _ => ?_
  cases entry <;> simp [Log.toolCall?, Log.llmInvocation?, Log.latencyMs, toolCallRecord,
    invocationRecord]

/-! ### Texts -/

lemma mem_of_mem_orNull {text : String} {given : Option String} (h : text ∈ orNull given) :
    text ∈ given := (Option.filter_eq_some_iff.mp h).1

lemma exists_of_mem_sanitizeGiven {text : String} {given : Option String}
    (h : text ∈ sanitizeGiven given) : ∃ t, sanitize t = text := by
  obtain ⟨t, -, ht⟩ := Option.map_eq_some_iff.mp (mem_of_mem_orNull h)
  exact ⟨t, ht⟩

lemma exists_of_mem_sanitizePayload {text : String} {payload : Option Payload}
    (h : text ∈ orNull (payload.map sanitizePayload)) : ∃ t, sanitize t = text := by
  obtain ⟨t, -, ht⟩ := Option.map_eq_some_iff.mp (mem_of_mem_orNull h)
  exact ⟨_, ht⟩

/-- Every sanitized text of a trace is what a text is sanitized to. -/
lemma exists_of_mem_sanitizedTexts (h : Holds hash logs rows) {text : String}
    (htext : text ∈ (getMissionTrace rows runId).sanitizedTexts) : ∃ t, sanitize t = text := by
  rcases List.mem_append.mp htext with htext | htext
  · obtain ⟨s, hs, htext⟩ := List.mem_flatMap.mp htext
    have hs : s ∈ rows.steps := List.mem_of_mem_filter (List.mem_mergeSort.mp hs)
    rw [h.steps] at hs
    obtain ⟨entry, -, hentry⟩ := List.mem_filterMap.mp hs
    cases entry with
    | step params =>
      cases hentry
      simp only [List.reduceOption_mem_iff, List.mem_cons, List.not_mem_nil, or_false] at htext
      rcases htext with htext | htext | htext | htext | htext
      · exact exists_of_mem_sanitizeGiven htext.symm
      · exact exists_of_mem_sanitizeGiven htext.symm
      · exact exists_of_mem_sanitizePayload htext.symm
      · exact exists_of_mem_sanitizePayload htext.symm
      · exact exists_of_mem_sanitizePayload htext.symm
    | state _ | toolCall _ | llmInvocation _ => cases hentry
  · obtain ⟨t, ht, htext⟩ := List.mem_flatMap.mp htext
    have ht : t ∈ rows.toolCalls.rows := List.mem_of_mem_filter (List.mem_mergeSort.mp ht)
    rw [h.toolCalls] at ht
    obtain ⟨entry, -, hentry⟩ := List.mem_filterMap.mp ht
    cases entry with
    | toolCall params =>
      cases hentry
      rcases List.mem_pair.mp htext with rfl | rfl <;> exact ⟨_, rfl⟩
    | state _ | step _ | llmInvocation _ => cases hentry

/-- Every preview of a trace is cut from what a text is sanitized to. -/
lemma exists_of_mem_previews (h : Holds hash logs rows) {text : String}
    (htext : text ∈ (getMissionTrace rows runId).previews) :
    ∃ t n, Js.slice (sanitize t) n = text := by
  obtain ⟨l, hl, htext⟩ := List.mem_flatMap.mp htext
  have hl : l ∈ rows.llmInvocations.rows := List.mem_of_mem_filter (List.mem_mergeSort.mp hl)
  rw [h.llmInvocations] at hl
  obtain ⟨entry, -, hentry⟩ := List.mem_filterMap.mp hl
  cases entry with
  | llmInvocation params =>
    cases hentry
    simp only [List.reduceOption_mem_iff, List.mem_cons, List.not_mem_nil, or_false] at htext
    rcases htext with htext | htext | htext
    · exact ⟨params.prompt, 300, (Option.some.inj htext).symm⟩
    · exact ⟨params.completion, 500, (Option.some.inj htext).symm⟩
    · obtain ⟨reasoning, hreasoning, hslice⟩ :=
        Option.map_eq_some_iff.mp (mem_of_mem_orNull htext.symm)
      obtain ⟨t, rfl⟩ := exists_of_mem_sanitizeGiven hreasoning
      exact ⟨t, 300, hslice⟩
  | state _ | step _ | toolCall _ => cases hentry

/-- However the logs of the missions are interleaved, the trace of each run shows what has been logged for
it and nothing of the others, and its sanitized texts are redacted up to the cut of a preview. -/
theorem trace_of_run (hrun : Run (log hash) Rows.empty logs rows) (runId : String) :
    Shows hash logs runId (getMissionTrace rows runId) := by
  have h := holds_of_run hrun
  refine
    { own := fun logs' rows' hrun' => getMissionTrace_congr h (holds_of_run hrun')
      totalSteps := totalSteps_eq h
      totalTokens := totalTokens_eq h
      totalLatencyMs := totalLatencyMs_eq h
      keyless := fun text htext => ?_
      numberless := fun text htext => ?_
      numberlessUntilEnd := fun text htext => ?_ }
  · rcases List.mem_append.mp htext with htext | htext
    · obtain ⟨t, rfl⟩ := exists_of_mem_sanitizedTexts h htext
      exact not_test_sanitize t
    · obtain ⟨t, n, rfl⟩ := exists_of_mem_previews h htext
      exact Keyless.slice (not_test_sanitize t) n
  · obtain ⟨t, rfl⟩ := exists_of_mem_sanitizedTexts h htext
    exact numberless_sanitize t
  · obtain ⟨t, n, rfl⟩ := exists_of_mem_previews h htext
    exact (numberless_sanitize t).slice n

end Runs

/-- Two missions by turns: an observation with a key in it, and two invocations. -/
def twoMissions : List Log :=
  let invocation := fun id runId total =>
    Log.llmInvocation ⟨id, runId, "model", "NVIDIA", "prompt", "completion", none, 40, some 10, some 20,
      total, none, 0⟩
  [invocation "inv_1" "run_1" none,
    .step ⟨"run_2", 1, .observe, some "key rzp_test_1a2b", none, none, none, none, none, none, 0⟩,
    invocation "inv_2" "run_2" (some 25)]

/-- The trace of the second one counts its step and its tokens only, and shows no key. -/
theorem trace_of_second_mission : ∃ rows, (getMissionTrace rows "run_2").summary.totalSteps = 1 ∧
    (getMissionTrace rows "run_2").summary.totalTokens = 25 ∧
    ∀ text ∈ (getMissionTrace rows "run_2").sanitizedTexts, Keyless text := by
  obtain ⟨rows, hrun, -⟩ := exists_run_of_execute (log id) Rows.empty twoMissions (fun _ => true)
    (by decide +kernel)
  obtain ⟨-, htotalSteps, htotalTokens, -, hkeyless, -, -⟩ := trace_of_run hrun "run_2"
  refine ⟨rows, htotalSteps.trans (by decide), htotalTokens.trans (by decide +kernel), ?_⟩
  exact fun text htext => hkeyless text (List.mem_append_left _ htext)

end AgentTelemetry

end CtrlRecovery
