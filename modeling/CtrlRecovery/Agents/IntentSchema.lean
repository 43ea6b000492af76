import CtrlRecovery.Agents.ToolRegistry
import CtrlRecovery.Core.CodeUnits
import CtrlRecovery.Core.JsonCoercion
import CtrlRecovery.Types

/-!
# The schema of an intent

`validateAgentIntent` makes an intent out of whatever a language model has written. Every field is
tested, clamped, cut or replaced by a default, so that an intent that is returned is sound but for the
parameters of its tools, which may be arrays. The conversions to texts throw at objects with a field
`toString`; where there is none, a result is returned (`answers_iff`).
-/

namespace CtrlRecovery

open Core Js AgentToolRegistry

namespace AgentSchemaValidator

inductive Severity | low | medium | high | critical
  deriving DecidableEq, Repr

inductive Recoverability | high | moderate | poor | impossible
  deriving DecidableEq, Repr

inductive Uncertainty | low | medium | high
  deriving DecidableEq, Repr

structure StructuredAgentDiagnosis where
  failureCategory : String
  rootCause : String
  confidence : Number
  severity : Severity
  recoverabilityAssessment : Recoverability

/-- A signal of an intent, as `SemanticEconomicsBridge` weighs it but with the text of its name and with
all that is recorded of it. -/
structure SemanticSignal where
  name : String
  value : Number
  confidence : Number
  evidenceReference : String
  timestamp : Timestamp
  source : String

/-- An assumption that the language model proposes: what it expects is any JSON value, where those that
`AgentPlanner` writes itself expect a number. -/
structure PlanValidityAssumption where
  id : String
  parameter : String
  condition : String
  expectedValue : Json
  isValid : Bool

structure StructuredProposedPlan where
  planVersion : Number
  goal : String
  steps : List String
  validityAssumptions : List PlanValidityAssumption
  candidateActions : List String
  preferredAction : String
  estimatedDurationSec : Number

structure RequestedTool where
  toolName : String
  params : Json

/-- The whole intent; a plan takes its actions only. -/
structure AgentIntent where
  intentId : String
  runId : String
  opportunityId : String
  diagnosis : StructuredAgentDiagnosis
  observations : List String
  hypotheses : List String
  candidateActions : List String
  semanticSignals : List SemanticSignal
  proposedPlan : StructuredProposedPlan
  uncertainty : Uncertainty
  requestedTools : List RequestedTool
  rationaleSummary : String
  createdAt : Timestamp

structure SchemaValidationResult where
  valid : Bool
  data : Option AgentIntent
  errors : List String

/-! ### Fields -/

/-- `typeof v === 'object'`, for a value other than `null`. -/
def isContainer : Json → Bool
  | .array _  => true
  | .object _ => true
  | _         => false

/-- `v.k || {}`. -/
def objectOf (v : Json) (k : String) : Json := ((field? v k).filter truthy).getD (.object [])

/-- `Array.isArray(v.k) ? v.k : []`. -/
def arrayOf (v : Json) (k : String) : List Json := ((field? v k).map Json.elements).getD []

/-- `String(v.k || d).slice(0, n)`; no text stands for the exception. -/
def text (v : Json) (k d : String) (n : ℕ) : Option String :=
  match (field? v k).filter truthy with
  | some given => given.toText?.map fun s => slice s n
  | none       => some (slice d n)

/-- `xs.map(x => String(x).slice(0, n))`. -/
def texts (n : ℕ) (xs : List Json) : Option (List String) :=
  xs.mapM fun x => x.toText?.map fun s => slice s n

/-- The entry of a table for `v.k`, which has to be one of its texts. -/
def oneOf {α : Type} (table : List (String × α)) (d : α) (v : Json) (k : String) : α :=
  (((field? v k).bind Json.string?).bind fun s => table.lookup s).getD d

/-- `typeof v.k === 'number' ? v.k : d`. -/
def numberOf (v : Json) (k : String) (d : ℚ) : Number :=
  ((field? v k).bind Json.number?).getD d

/-- `typeof v.k === 'number' ? Math.max(0, Math.min(1, v.k)) : d`. -/
def unitOf (v : Json) (k : String) (d : ℚ) : Number :=
  match (field? v k).bind Json.number? with
  | some x => Number.mathMax (0 : ℚ) (Number.mathMin (1 : ℚ) x)
  | none   => d

/-! ### The parts of an intent -/

def severities : List (String × Severity) :=
  [("LOW", .low), ("MEDIUM", .medium), ("HIGH", .high), ("CRITICAL", .critical)]

def recoverabilities : List (String × Recoverability) :=
  [("HIGH", .high), ("MODERATE", .moderate), ("POOR", .poor), ("IMPOSSIBLE", .impossible)]

def uncertainties : List (String × Uncertainty) :=
  [("LOW", .low), ("MEDIUM", .medium), ("HIGH", .high)]

def validActions : List String :=
  ["ACT", "WAIT", "ABSTAIN", "SEND_PAYMENT_LINK", "DEFER_RETRY", "MANUAL_REVIEW"]

def validSignalNames : List String :=
  ["transient_failure", "customer_liquidity", "fatigue", "gateway_instability",
    "settlement_ambiguity", "alternate_method_relevance", "urgency", "relationship_risk"]

def diagnosisOf (diag : Json) : Option StructuredAgentDiagnosis := do
  let failureCategory ← text diag "failure_category" "generic_failure" 100
  let rootCause ← text diag "root_cause" "unspecified" 300
  return {
    failureCategory
    rootCause
    confidence := unitOf diag "confidence" (1 / 2)
    severity := oneOf severities .medium diag "severity"
    recoverabilityAssessment := oneOf recoverabilities .moderate diag "recoverability_assessment" }

def namedActions (parsed : Json) : List String :=
  (arrayOf parsed "candidate_actions").filterMap fun act =>
    (act.string?.map toUpperCase).filter (· ∈ validActions)

def candidateActionsOf (parsed : Json) : List String :=
  if namedActions parsed = [] then ["WAIT", "SEND_PAYMENT_LINK"] else namedActions parsed

def knownName (sig : Json) : Option String :=
  ((field? sig "name").bind Json.string?).filter (· ∈ validSignalNames)

def signalOf (now : Timestamp) (sig : String × Json) : Option SemanticSignal := do
  let evidenceReference ← text sig.2 "evidence_reference" "LLM context analysis" 200
  return {
    name := sig.1
    value := (unitOf sig.2 "value" (1 / 2)).roundFixed 4
    confidence := (unitOf sig.2 "confidence" (8 / 10)).roundFixed 4
    evidenceReference
    timestamp := now
    source := "llm_reasoning" }

/-- The signals with a known name. -/
def knownSignals (parsed : Json) : List (String × Json) :=
  (arrayOf parsed "semantic_signals").filterMap fun sig => (knownName sig).map fun name => (name, sig)

def threeQuarters : Json := .number ⟨['0', '.', '7', '5'], by decide, by decide⟩

/-- An assumption and its place in the list. -/
def assumptionOf (a : Json × ℕ) : Option PlanValidityAssumption := do
  let parameter ← text a.1 "parameter" "gateway_health" 50
  let condition ← text a.1 "condition" ">=" 10
  return {
    id := "assump_" ++ toString (a.2 + 1)
    parameter
    condition
    expectedValue := (field? a.1 "expected_value").getD threeQuarters
    isValid := true }

/-- The assumptions that are objects, with their places. -/
def givenAssumptions (planRaw : Json) : List (Json × ℕ) :=
  (arrayOf planRaw "validity_assumptions").zipIdx.filter fun a => isContainer a.1

def defaultAssumption : PlanValidityAssumption where
  id := "assump_1"
  parameter := "gateway_health"
  condition := ">="
  expectedValue := threeQuarters
  isValid := true

def preferredActionOf (planRaw : Json) (candidateActions : List String) : String :=
  (((field? planRaw "preferred_action").bind Json.string?).map toUpperCase
    |>.filter (· ∈ candidateActions)).getD (Js.orElse candidateActions.head? "SEND_PAYMENT_LINK")

def stepsOf (planRaw : Json) : Option (List String) :=
  match field? planRaw "steps" with
  | some (.array elems) => texts 200 elems
  | _                   => some ["Observe outcome"]

def proposedPlanOf (planRaw : Json) (candidateActions : List String) :
    Option StructuredProposedPlan := do
  let steps ← stepsOf planRaw
  let assumptions ← (givenAssumptions planRaw).mapM assumptionOf
  let goal ← text planRaw "goal" "Recover payment with positive IVEN under capacity limits" 200
  return {
    planVersion := numberOf planRaw "plan_version" 1
    goal
    steps
    validityAssumptions := if assumptions.isEmpty then [defaultAssumption] else assumptions
    candidateActions
    preferredAction := preferredActionOf planRaw candidateActions
    estimatedDurationSec := numberOf planRaw "estimated_duration_sec" 60 }

def requestedToolsOf (parsed : Json) : List RequestedTool :=
  (arrayOf parsed "requested_tools").filterMap fun rt =>
    ((field? rt "tool_name").bind Json.string?).map fun toolName =>
      { toolName, params := ((field? rt "params").filter isContainer).getD (.object []) }

def intentOf (runId oppId : String) (now : Timestamp) (parsed : Json) : Option AgentIntent := do
  let candidateActions := candidateActionsOf parsed
  let diagnosis ← diagnosisOf (objectOf parsed "diagnosis")
  let observations ← texts 200 (arrayOf parsed "observations")
  let hypotheses ← texts 200 (arrayOf parsed "hypotheses")
  let semanticSignals ← (knownSignals parsed).mapM (signalOf now)
  let proposedPlan ← proposedPlanOf (objectOf parsed "proposed_plan") candidateActions
  let rationaleSummary ← text parsed "rationale_summary"
    "Autonomous structured recovery intent generated" 500
  return {
    intentId := "intent_" ++ toString now ++ "_" ++ slice oppId 8
    runId
    opportunityId := oppId
    diagnosis
    observations
    hypotheses
    candidateActions
    semanticSignals
    proposedPlan
    uncertainty := oneOf uncertainties .medium parsed "uncertainty"
    requestedTools := requestedToolsOf parsed
    rationaleSummary
    createdAt := now }

/-- `validateAgentIntent`, from what `JSON.parse` makes of the text on; `none` is an exception. -/
def validateAgentIntent (parsed : Except String Json) (runId oppId : String) (now : Timestamp) :
    Option SchemaValidationResult :=
  match parsed with
  | .error message => some
      { valid := false, data := none, errors := ["Malformed JSON in LLM response: " ++ message] }
  | .ok parsed     =>
    if isContainer parsed then do
      let intent ← intentOf runId oppId now parsed
      return { valid := true, data := some intent, errors := [] }
    else some { valid := false, data := none, errors := ["Parsed output is not an object."] }

/-! ### Where the validation throws -/

/-- The value of a field that is converted to a text: a falsy one is replaced before. -/
def given (v : Json) (k : String) : List Json := ((field? v k).filter truthy).toList

/-- The values that are converted to texts. -/
def conversions (parsed : Json) : List Json :=
  let diag := objectOf parsed "diagnosis"
  let planRaw := objectOf parsed "proposed_plan"
  given diag "failure_category" ++ given diag "root_cause" ++
    arrayOf parsed "observations" ++ arrayOf parsed "hypotheses" ++
    (knownSignals parsed).flatMap (fun sig => given sig.2 "evidence_reference") ++
    arrayOf planRaw "steps" ++
    (givenAssumptions planRaw).flatMap (fun a => given a.1 "parameter" ++ given a.1 "condition") ++
    given planRaw "goal" ++ given parsed "rationale_summary"

section Conversions

variable {v parsed : Json} {k d : String} {n : ℕ} {runId oppId : String} {now : Timestamp}

lemma isSome_text_iff : (text v k d n).isSome ↔ ∀ x ∈ given v k, x.Textual := by
  rw [text, given]
  cases (field? v k).filter truthy with
  | none => simp
  | some x => simp [Json.isSome_toText?_iff]

lemma isSome_texts_iff {xs : List Json} : (texts n xs).isSome ↔ ∀ x ∈ xs, x.Textual := by
  rw [texts, Json.isSome_mapM_iff]
  simp only [Option.isSome_map, Json.isSome_toText?_iff]

lemma isSome_diagnosisOf_iff : (diagnosisOf v).isSome ↔
    (∀ x ∈ given v "failure_category", x.Textual) ∧ ∀ x ∈ given v "root_cause", x.Textual := by
  rw [← isSome_text_iff (d := "generic_failure") (n := 100),
    ← isSome_text_iff (d := "unspecified") (n := 300)]
  exact Json.isSome_bind_iff fun _ => Json.isSome_bind_pure_iff

lemma isSome_signalOf_iff {sig : String × Json} : (signalOf now sig).isSome ↔
    ∀ x ∈ given sig.2 "evidence_reference", x.Textual := by
  rw [← isSome_text_iff (d := "LLM context analysis") (n := 200)]
  exact Json.isSome_bind_pure_iff

lemma isSome_assumptionOf_iff {a : Json × ℕ} : (assumptionOf a).isSome ↔
    (∀ x ∈ given a.1 "parameter", x.Textual) ∧ ∀ x ∈ given a.1 "condition", x.Textual := by
  rw [← isSome_text_iff (d := "gateway_health") (n := 50), ← isSome_text_iff (d := ">=") (n := 10)]
  exact Json.isSome_bind_iff fun _ => Json.isSome_bind_pure_iff

lemma isSome_stepsOf_iff : (stepsOf v).isSome ↔ ∀ x ∈ arrayOf v "steps", x.Textual := by
  rw [stepsOf, arrayOf]
  cases field? v "steps" with
  | none => simp
  | some w =>
    cases w with
    | array elems => exact isSome_texts_iff
    | null => simp [Json.elements]
    | bool b => simp [Json.elements]
    | number m => simp [Json.elements]
    | string s => simp [Json.elements]
    | object fields => simp [Json.elements]

lemma isSome_proposedPlanOf_iff {actions : List String} : (proposedPlanOf v actions).isSome ↔
    (∀ x ∈ arrayOf v "steps", x.Textual) ∧
      (∀ a ∈ givenAssumptions v, (∀ x ∈ given a.1 "parameter", x.Textual) ∧
        ∀ x ∈ given a.1 "condition", x.Textual) ∧
      ∀ x ∈ given v "goal", x.Textual := by
  have hassumptions : ((givenAssumptions v).mapM assumptionOf).isSome ↔
      ∀ a ∈ givenAssumptions v, (∀ x ∈ given a.1 "parameter", x.Textual) ∧
        ∀ x ∈ given a.1 "condition", x.Textual := by
    rw [Json.isSome_mapM_iff]
    exact forall₂_congr fun _ _ => isSome_assumptionOf_iff
  rw [← isSome_stepsOf_iff, ← hassumptions, ← isSome_text_iff
    (d := "Recover payment with positive IVEN under capacity limits") (n := 200)]
  exact Json.isSome_bind_iff fun _ => Json.isSome_bind_iff fun _ => Json.isSome_bind_pure_iff

/-- An intent is made unless a conversion throws. -/
lemma isSome_intentOf_iff :
    (intentOf runId oppId now parsed).isSome ↔ ∀ x ∈ conversions parsed, x.Textual := by
  have hsignals : ((knownSignals parsed).mapM (signalOf now)).isSome ↔
      ∀ sig ∈ knownSignals parsed, ∀ x ∈ given sig.2 "evidence_reference", x.Textual := by
    rw [Json.isSome_mapM_iff]
    exact forall₂_congr fun _ _ => isSome_signalOf_iff
  have hparts : (intentOf runId oppId now parsed).isSome ↔
      (diagnosisOf (objectOf parsed "diagnosis")).isSome ∧
        (texts 200 (arrayOf parsed "observations")).isSome ∧
        (texts 200 (arrayOf parsed "hypotheses")).isSome ∧
        ((knownSignals parsed).mapM (signalOf now)).isSome ∧
        (proposedPlanOf (objectOf parsed "proposed_plan") (candidateActionsOf parsed)).isSome ∧
        (text parsed "rationale_summary" "Autonomous structured recovery intent generated"
          500).isSome :=
    Json.isSome_bind_iff fun _ => Json.isSome_bind_iff fun _ => Json.isSome_bind_iff fun _ =>
      Json.isSome_bind_iff fun _ => Json.isSome_bind_iff fun _ => Json.isSome_bind_pure_iff
  rw [hparts, isSome_diagnosisOf_iff, isSome_texts_iff, isSome_texts_iff, hsignals,
    isSome_proposedPlanOf_iff, isSome_text_iff]
  simp only [conversions, List.forall_mem_append, List.forall_mem_flatMap, and_assoc]

end Conversions

/-! ### What an intent keeps -/

/-- A number of the unit interval. -/
def InUnit (x : Number) : Prop := Number.Le (0 : ℚ) x ∧ Number.Le x (1 : ℚ)

/-- What an intent owes to its consumers. -/
structure Sound (intent : AgentIntent) : Prop where
  confidence : InUnit intent.diagnosis.confidence
  signals : ∀ sig ∈ intent.semanticSignals, InUnit sig.value ∧ InUnit sig.confidence ∧
    sig.name ∈ validSignalNames
  actions : intent.candidateActions ≠ [] ∧ ∀ act ∈ intent.candidateActions, act ∈ validActions
  planned : intent.proposedPlan.candidateActions = intent.candidateActions
  preferred : intent.proposedPlan.preferredAction ∈ intent.candidateActions
  tools : ∀ rt ∈ intent.requestedTools, ∃ fields, rt.params = .object fields
  diagnosisTexts : length intent.diagnosis.failureCategory ≤ 100 ∧
    length intent.diagnosis.rootCause ≤ 300
  observationTexts : ∀ s ∈ intent.observations ++ intent.hypotheses, length s ≤ 200
  signalTexts : ∀ sig ∈ intent.semanticSignals, length sig.evidenceReference ≤ 200
  planTexts : length intent.proposedPlan.goal ≤ 200 ∧
    ∀ s ∈ intent.proposedPlan.steps, length s ≤ 200
  assumptionTexts : ∀ a ∈ intent.proposedPlan.validityAssumptions,
    length a.parameter ≤ 50 ∧ length a.condition ≤ 10
  rationaleText : length intent.rationaleSummary ≤ 500

section Soundness

variable {v parsed : Json} {k d s : String} {n : ℕ} {runId oppId : String} {now : Timestamp}

lemma length_text_le (h : text v k d n = some s) : length s ≤ n := by
  rw [text] at h
  cases hgiven : (field? v k).filter truthy with
  | none =>
    rw [hgiven] at h
    cases h
    exact length_slice_le d n
  | some x =>
    rw [hgiven] at h
    obtain ⟨t, -, rfl⟩ := Option.map_eq_some_iff.mp h
    exact length_slice_le t n

lemma mem_of_mapM {α β : Type} {f : α → Option β} {xs : List α} {ys : List β}
    (h : xs.mapM f = some ys) {y : β} (hy : y ∈ ys) : ∃ x ∈ xs, f x = some y := by
  induction xs generalizing ys with
  | nil =>
    cases h
    cases hy
  | cons x xs ih =>
    rw [List.mapM_cons, Option.bind_eq_bind, Option.bind_eq_some_iff] at h
    obtain ⟨z, hz, hrest⟩ := h
    rw [Option.bind_eq_bind, Option.bind_eq_some_iff] at hrest
    obtain ⟨zs, hzs, heq⟩ := hrest
    cases heq
    rcases List.mem_cons.mp hy with rfl | hy
    · exact ⟨x, List.mem_cons_self, hz⟩
    · obtain ⟨w, hw, hfw⟩ := ih hzs hy
      exact ⟨w, List.mem_cons_of_mem _ hw, hfw⟩

lemma length_texts_le {xs : List Json} {ss : List String} (h : texts n xs = some ss)
    (hs : s ∈ ss) : length s ≤ n := by
  obtain ⟨x, -, hx⟩ := mem_of_mapM h hs
  obtain ⟨t, -, rfl⟩ := Option.map_eq_some_iff.mp hx
  exact length_slice_le t n

/-- A number that is no `NaN` is clamped into the unit interval. -/
lemma exists_unit_clamp {x : Number} (h : x ≠ .nan) :
    ∃ y : ℚ, 0 ≤ y ∧ y ≤ 1 ∧ Number.mathMax (0 : ℚ) (Number.mathMin (1 : ℚ) x) = .finite y := by
  cases x with
  | nan => exact absurd rfl h
  | negInf => exact ⟨0, le_rfl, zero_le_one, rfl⟩
  | finite x => exact ⟨max 0 (min 1 x), le_max_left .., max_le zero_le_one (min_le_left ..), rfl⟩
  | posInf => exact ⟨1, zero_le_one, le_rfl, by decide +kernel⟩

lemma exists_unit_unitOf (v : Json) (k : String) {d : ℚ} (hnonneg : 0 ≤ d) (hle : d ≤ 1) :
    ∃ y : ℚ, 0 ≤ y ∧ y ≤ 1 ∧ unitOf v k d = .finite y := by
  rw [unitOf]
  cases hfound : (field? v k).bind Json.number? with
  | none => exact ⟨d, hnonneg, hle, rfl⟩
  | some x =>
    refine exists_unit_clamp ?_
    rintro rfl
    obtain ⟨w, -, hw⟩ := Option.bind_eq_some_iff.mp hfound
    exact Json.number?_ne_nan hw

lemma inUnit_unitOf (v : Json) (k : String) {d : ℚ} (hnonneg : 0 ≤ d) (hle : d ≤ 1) :
    InUnit (unitOf v k d) := by
  obtain ⟨y, hy, hy', heq⟩ := exists_unit_unitOf v k hnonneg hle
  rw [heq]
  exact ⟨hy, hy'⟩

lemma inUnit_roundFixed_unitOf (v : Json) (k : String) {d : ℚ} (hnonneg : 0 ≤ d) (hle : d ≤ 1) :
    InUnit ((unitOf v k d).roundFixed 4) := by
  obtain ⟨y, hy, hy', heq⟩ := exists_unit_unitOf v k hnonneg hle
  rw [heq]
  have hone : IsFixed 4 1 := by exact_mod_cast isFixed_intCast 1
  exact ⟨roundFixed_nonneg hy, roundFixed_le hone hy'⟩

lemma candidateActionsOf_ne_nil (parsed : Json) : candidateActionsOf parsed ≠ [] := by
  rw [candidateActionsOf]
  split_ifs with hnone
  · exact List.cons_ne_nil _ _
  · exact hnone

lemma mem_validActions_of_mem {act : String} (h : act ∈ candidateActionsOf parsed) :
    act ∈ validActions := by
  rw [candidateActionsOf] at h
  split_ifs at h
  · revert act
    decide
  · obtain ⟨given, -, hact⟩ := List.mem_filterMap.mp h
    exact of_decide_eq_true (Option.filter_eq_some_iff.mp hact).2

lemma preferredActionOf_mem (planRaw : Json) {actions : List String} (hne : actions ≠ [])
    (hempty : "" ∉ actions) : preferredActionOf planRaw actions ∈ actions := by
  rw [preferredActionOf]
  cases hgiven : (((field? planRaw "preferred_action").bind Json.string?).map toUpperCase).filter
      fun act => act ∈ actions with
  | some act => exact of_decide_eq_true (Option.filter_eq_some_iff.mp hgiven).2
  | none =>
    obtain ⟨act, rest, rfl⟩ := List.exists_cons_of_ne_nil hne
    have hact : act ≠ "" := fun h => hempty (h ▸ List.mem_cons_self)
    rw [List.head?_cons, Option.getD_none, Js.orElse_of_ne_empty hact]
    exact List.mem_cons_self

lemma sound_diagnosisOf {diagnosis : StructuredAgentDiagnosis} (h : diagnosisOf v = some diagnosis) :
    InUnit diagnosis.confidence ∧ length diagnosis.failureCategory ≤ 100 ∧
      length diagnosis.rootCause ≤ 300 := by
  simp only [diagnosisOf, Option.bind_eq_bind, Option.bind_eq_some_iff] at h
  obtain ⟨failureCategory, hcategory, rootCause, hcause, heq⟩ := h
  cases heq
  exact ⟨inUnit_unitOf v "confidence" (by norm_num) (by norm_num), length_text_le hcategory,
    length_text_le hcause⟩

lemma sound_signalOf {name : String} {sig : SemanticSignal} (h : signalOf now (name, v) = some sig) :
    sig.name = name ∧ InUnit sig.value ∧ InUnit sig.confidence ∧
      length sig.evidenceReference ≤ 200 := by
  simp only [signalOf, Option.bind_eq_bind, Option.bind_eq_some_iff] at h
  obtain ⟨evidenceReference, hevidence, heq⟩ := h
  cases heq
  exact ⟨rfl, inUnit_roundFixed_unitOf v "value" (by norm_num) (by norm_num),
    inUnit_roundFixed_unitOf v "confidence" (by norm_num) (by norm_num), length_text_le hevidence⟩

lemma mem_validSignalNames_of_mem {sig : String × Json} (h : sig ∈ knownSignals parsed) :
    sig.1 ∈ validSignalNames := by
  obtain ⟨w, -, hw⟩ := List.mem_filterMap.mp h
  obtain ⟨name, hname, rfl⟩ := Option.map_eq_some_iff.mp hw
  exact of_decide_eq_true (Option.filter_eq_some_iff.mp hname).2

lemma length_stepsOf_le {steps : List String} (h : stepsOf v = some steps) (hs : s ∈ steps) :
    length s ≤ 200 := by
  rw [stepsOf] at h
  split at h
  · exact length_texts_le h hs
  · cases h
    rw [List.mem_singleton.mp hs]
    decide

lemma sound_assumptionOf {a : Json × ℕ} {assumption : PlanValidityAssumption}
    (h : assumptionOf a = some assumption) :
    length assumption.parameter ≤ 50 ∧ length assumption.condition ≤ 10 := by
  simp only [assumptionOf, Option.bind_eq_bind, Option.bind_eq_some_iff] at h
  obtain ⟨parameter, hparameter, condition, hcondition, heq⟩ := h
  cases heq
  exact ⟨length_text_le hparameter, length_text_le hcondition⟩

lemma sound_proposedPlanOf {actions : List String} {plan : StructuredProposedPlan}
    (h : proposedPlanOf v actions = some plan) :
    plan.candidateActions = actions ∧ plan.preferredAction = preferredActionOf v actions ∧
      (length plan.goal ≤ 200 ∧ ∀ s ∈ plan.steps, length s ≤ 200) ∧
      ∀ a ∈ plan.validityAssumptions, length a.parameter ≤ 50 ∧ length a.condition ≤ 10 := by
  simp only [proposedPlanOf, Option.bind_eq_bind, Option.bind_eq_some_iff] at h
  obtain ⟨steps, hsteps, assumptions, hassumptions, goal, hgoal, heq⟩ := h
  cases heq
  refine ⟨rfl, rfl, ⟨length_text_le hgoal, fun s hs => length_stepsOf_le hsteps hs⟩, fun a ha => ?_⟩
  dsimp only at ha
  split_ifs at ha
  · rw [List.mem_singleton.mp ha]
    decide
  · obtain ⟨given, -, hgiven⟩ := mem_of_mapM hassumptions ha
    exact sound_assumptionOf hgiven

/-- No requested tool has an array for its parameters. -/
def ToolsPlain (parsed : Json) : Prop :=
  ∀ rt ∈ arrayOf parsed "requested_tools", ((field? rt "tool_name").bind Json.string?).isSome →
    ∀ elems, field? rt "params" ≠ some (.array elems)

lemma params_requestedToolsOf_iff :
    (∀ rt ∈ requestedToolsOf parsed, ∃ fields, rt.params = .object fields) ↔ ToolsPlain parsed := by
  have hparams (rt : Json) : (∃ fields, ((field? rt "params").filter isContainer).getD (.object []) =
      Json.object fields) ↔ ∀ elems, field? rt "params" ≠ some (.array elems) := by
    cases field? rt "params" with
    | none => simp
    | some w => cases w <;> simp [isContainer, Option.filter]
  constructor
  · intro h rt hrt hname
    obtain ⟨toolName, htool⟩ := Option.isSome_iff_exists.mp hname
    refine (hparams rt).mp (h ⟨toolName, _⟩ (List.mem_filterMap.mpr ⟨rt, hrt, ?_⟩))
    rw [htool]
    rfl
  · intro h requested hrequested
    obtain ⟨rt, hrt, heq⟩ := List.mem_filterMap.mp hrequested
    obtain ⟨toolName, htool, rfl⟩ := Option.map_eq_some_iff.mp heq
    exact (hparams rt).mpr (h rt hrt (htool ▸ rfl))

/-- An intent is sound exactly when no requested tool has an array for its parameters. -/
lemma sound_intentOf_iff {intent : AgentIntent} (h : intentOf runId oppId now parsed = some intent) :
    Sound intent ↔ ToolsPlain parsed := by
  rw [← params_requestedToolsOf_iff]
  simp only [intentOf, Option.bind_eq_bind, Option.bind_eq_some_iff] at h
  obtain ⟨diagnosis, hdiagnosis, observations, hobservations, hypotheses, hhypotheses, signals,
    hsignals, plan, hplan, rationale, hrationale, heq⟩ := h
  cases heq
  obtain ⟨hconfidence, hdiagnosisTexts⟩ := sound_diagnosisOf hdiagnosis
  obtain ⟨hplanned, hpreferred, hplanTexts, hassumptionTexts⟩ := sound_proposedPlanOf hplan
  have hsound : ∀ sig ∈ signals, (InUnit sig.value ∧ InUnit sig.confidence ∧
      sig.name ∈ validSignalNames) ∧ length sig.evidenceReference ≤ 200 := by
    intro sig hsig
    obtain ⟨⟨name, w⟩, hgiven, hw⟩ := mem_of_mapM hsignals hsig
    obtain ⟨rfl, hvalue, hconfidence, hevidence⟩ := sound_signalOf hw
    exact ⟨⟨hvalue, hconfidence, mem_validSignalNames_of_mem hgiven⟩, hevidence⟩
  refine ⟨Sound.tools, fun htools => ?_⟩
  exact
    { confidence := hconfidence
      signals := fun sig hsig => (hsound sig hsig).1
      actions := ⟨candidateActionsOf_ne_nil parsed, fun act => mem_validActions_of_mem⟩
      planned := hplanned
      preferred := by
        rw [hpreferred]
        refine preferredActionOf_mem _ (candidateActionsOf_ne_nil parsed) fun hempty => ?_
        exact absurd (mem_validActions_of_mem hempty) (by decide)
      tools := htools
      diagnosisTexts := hdiagnosisTexts
      observationTexts := fun s hs => (List.mem_append.mp hs).elim
        (length_texts_le hobservations) (length_texts_le hhypotheses)
      signalTexts := fun sig hsig => (hsound sig hsig).2
      planTexts := hplanTexts
      assumptionTexts := hassumptionTexts
      rationaleText := length_text_le hrationale }

end Soundness

/-- A result is returned, and an intent in it is sound. -/
def Answers (parsed : Except String Json) (runId oppId : String) (now : Timestamp) : Prop :=
  ∃ result, validateAgentIntent parsed runId oppId now = some result ∧
    (result.valid = true → ∃ intent, result.data = some intent ∧ Sound intent)

lemma field?_of_not_container {v : Json} (h : isContainer v = false) (k : String) :
    field? v k = none := by
  cases v <;> first | rfl | cases h

lemma conversions_of_not_container {v : Json} (h : isContainer v = false) :
    conversions v = [] ∧ ToolsPlain v := by
  have hfield := field?_of_not_container h
  have hempty (k : String) : field? (.object []) k = none := rfl
  simp [conversions, ToolsPlain, knownSignals, givenAssumptions, given, arrayOf, objectOf, hfield,
    hempty]

/-- The validation answers exactly when no value that it converts to a text has an object with a field
`toString` in it, and no requested tool has an array for its parameters. -/
theorem answers_iff (parsed : Except String Json) (runId oppId : String) (now : Timestamp) :
    Answers parsed runId oppId now ↔ ∀ v, parsed = .ok v →
      (∀ x ∈ conversions v, x.Textual) ∧ ToolsPlain v := by
  rw [Answers]
  cases parsed with
  | error message =>
    refine iff_of_true ⟨_, rfl, ?_⟩ fun v h => ?_
    · exact fun h => absurd h Bool.false_ne_true
    · cases h
  | ok v =>
    simp only [Except.ok.injEq, forall_eq', validateAgentIntent]
    split_ifs with hcontainer
    · have hmade : (intentOf runId oppId now v).isSome ↔ ∀ x ∈ conversions v, x.Textual :=
        isSome_intentOf_iff
      rw [← hmade]
      cases hintent : intentOf runId oppId now v with
      | none => simp
      | some intent =>
        rw [← sound_intentOf_iff hintent]
        simp
    · obtain ⟨hnone, htools⟩ := conversions_of_not_container (Bool.not_eq_true _ ▸ hcontainer)
      refine iff_of_true ⟨_, rfl, fun h => absurd h Bool.false_ne_true⟩ ⟨?_, htools⟩
      rw [hnone]
      exact fun x hx => absurd hx List.not_mem_nil

/-- The intent of a model that has put an object with a field `toString` for the summary. -/
def hostileIntent : Json :=
  .object [("rationale_summary", .object [("toString", .string "approved")])]

/-- The validation throws. -/
theorem not_answers_hostile : ¬ Answers (.ok hostileIntent) "run_1" "opp_1" 0 := by
  rintro ⟨result, hresult, -⟩
  have hthrows : validateAgentIntent (.ok hostileIntent) "run_1" "opp_1" 0 = none := by rfl
  rw [hthrows] at hresult
  cases hresult

end AgentSchemaValidator

end CtrlRecovery
