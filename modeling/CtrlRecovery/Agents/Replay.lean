import CtrlRecovery.Agents.LifecycleMonitor
import CtrlRecovery.Agents.StateMachine
import CtrlRecovery.Core.Joining
import Mathlib

/-!
# Mission fingerprints and replay verification

`generateFingerprint` writes what the telemetry has of a run into one text, with `:::` between its
parts, `|` between the entries of a part and `:` between the fields of an entry, and hashes it.
`verifyReplay` compares two fingerprints, and where they differ it looks for the first part that does.
The search leaves out the plans and the status, which the fingerprint covers.

The result is right exactly when the courses of the runs are equal, or their texts differ and the
difference is in a part that is searched (`faithful_iff`). For entries without separators these are
the runs that do not differ in their plans or status alone.
-/

namespace CtrlRecovery

open Core LifecycleMonitor

/-! ### Texts of the columns -/

def AgentState.text : AgentState → String
  | .idle            => "IDLE"
  | .triggered       => "TRIGGERED"
  | .observe         => "OBSERVE"
  | .investigate     => "INVESTIGATE"
  | .diagnose        => "DIAGNOSE"
  | .hypothesize     => "HYPOTHESIZE"
  | .plan            => "PLAN"
  | .validatePlan    => "VALIDATE_PLAN"
  | .propose         => "PROPOSE"
  | .waitAuthority   => "WAIT_AUTHORITY"
  | .execute         => "EXECUTE"
  | .wait            => "WAIT"
  | .wake            => "WAKE"
  | .observeOutcome  => "OBSERVE_OUTCOME"
  | .planInvalidated => "PLAN_INVALIDATED"
  | .replan          => "REPLAN"
  | .learn           => "LEARN"
  | .memoryUpdate    => "MEMORY_UPDATE"
  | .complete        => "COMPLETE"
  | .aborted         => "ABORTED"
  | .humanReview     => "HUMAN_REVIEW"

def LifecycleMonitor.AgentRunStatus.text : AgentRunStatus → String
  | .running     => "running"
  | .completed   => "completed"
  | .aborted     => "aborted"
  | .humanReview => "human_review"

namespace MissionReplayEngine

inductive ToolCallStatus
  | success | denied | failed | timeout
  deriving DecidableEq, Repr

def ToolCallStatus.text : ToolCallStatus → String
  | .success => "SUCCESS"
  | .denied  => "DENIED"
  | .failed  => "FAILED"
  | .timeout => "TIMEOUT"

inductive ProposalStatus
  | pending | accepted | rejected | superseded
  deriving DecidableEq, Repr

def ProposalStatus.text : ProposalStatus → String
  | .pending    => "PENDING"
  | .accepted   => "ACCEPTED"
  | .rejected   => "REJECTED"
  | .superseded => "SUPERSEDED"

/-! ### The telemetry of a run -/

/-- What the fingerprint covers of a tool call, a plan, a proposal and an authority check. -/
structure ToolCall where
  toolName : String
  inputHash : String
  outputHash : String
  status : ToolCallStatus
  deriving DecidableEq, Repr

structure Plan where
  planVersion : ℤ
  preferredAction : String
  deriving DecidableEq, Repr

structure Proposal where
  proposalType : String
  status : ProposalStatus
  deriving DecidableEq, Repr

structure Check where
  checkName : String
  passed : Bool
  deriving DecidableEq, Repr

structure AgentRunRow where
  id : String
  opportunityId : Option String
  goalType : String
  status : AgentRunStatus
  deriving DecidableEq, Repr

structure AgentStateRow where
  runId : String
  state : AgentState
  deriving DecidableEq, Repr

structure AgentToolCallRow extends ToolCall where
  runId : String
  createdAt : Timestamp
  deriving DecidableEq, Repr

structure AgentPlanRow extends Plan where
  runId : String
  deriving DecidableEq, Repr

structure AgentProposalRow extends Proposal where
  runId : String
  opportunityId : String
  createdAt : Timestamp
  deriving DecidableEq, Repr

structure AgentAuthorityCheckRow extends Check where
  runId : String
  deriving DecidableEq, Repr

/-- The tables of the telemetry; the rows of the states and of the checks are in the order of their
ids. -/
structure TelemetryStore where
  agentRuns : Table AgentRunRow.id
  agentStates : List AgentStateRow
  agentToolCalls : List AgentToolCallRow
  agentPlans : List AgentPlanRow
  agentProposals : List AgentProposalRow
  agentAuthorityChecks : List AgentAuthorityCheckRow

section Queries

variable (store : TelemetryStore) (runId : String)

def getAgentRunById : Option AgentRunRow := store.agentRuns.find? runId

def getAgentStatesByRunId : List AgentStateRow :=
  store.agentStates.filter fun s => s.runId = runId

/-- `ORDER BY created_at ASC`. -/
def getAgentToolCallsByRunId : List AgentToolCallRow :=
  (store.agentToolCalls.filter fun t => t.runId = runId).mergeSort
    fun t u => t.createdAt ≤ u.createdAt

/-- `ORDER BY plan_version ASC`. -/
def getAgentPlansByRunId : List AgentPlanRow :=
  (store.agentPlans.filter fun p => p.runId = runId).mergeSort
    fun p q => p.planVersion ≤ q.planVersion

/-- `ORDER BY created_at DESC`. -/
def getAgentProposalsByOpportunityId (oppId : String) : List AgentProposalRow :=
  (store.agentProposals.filter fun p => p.opportunityId = oppId).mergeSort
    fun p q => q.createdAt ≤ p.createdAt

def getAgentAuthorityChecksByRunId : List AgentAuthorityCheckRow :=
  store.agentAuthorityChecks.filter fun c => c.runId = runId

end Queries

/-- What the fingerprint of a run covers, besides its opportunity and its goal. -/
structure Course where
  states : List AgentState
  tools : List ToolCall
  plans : List Plan
  proposals : List Proposal
  checks : List Check
  status : AgentRunStatus
  deriving DecidableEq, Repr

def proposalsOf (store : TelemetryStore) (run : AgentRunRow) : List AgentProposalRow :=
  match run.opportunityId with
  | some oppId =>
    if oppId = "" then []
    else (getAgentProposalsByOpportunityId store oppId).filter fun p => p.runId = run.id
  | none       => []

def courseOf (store : TelemetryStore) (run : AgentRunRow) : Course where
  states := (getAgentStatesByRunId store run.id).map fun s => s.state
  tools := (getAgentToolCallsByRunId store run.id).map fun t => t.toToolCall
  plans := (getAgentPlansByRunId store run.id).map fun p => p.toPlan
  proposals := (proposalsOf store run).map fun p => p.toProposal
  checks := (getAgentAuthorityChecksByRunId store run.id).map fun c => c.toCheck
  status := run.status

/-! ### Fingerprints -/

def toolCallHash (t : ToolCall) : String :=
  t.toolName ++ ":" ++ t.inputHash ++ ":" ++ t.outputHash ++ ":" ++ t.status.text

def planText (pl : Plan) : String := toString pl.planVersion ++ ":" ++ pl.preferredAction

def proposalHash (p : Proposal) : String := p.proposalType ++ ":" ++ p.status.text

def authorityVerdict (c : Check) : String := c.checkName ++ ":" ++ if c.passed then "1" else "0"

def stateSequence (course : Course) : List String := course.states.map AgentState.text

def canonicalString (opportunityId : Option String) (goalType : String) (course : Course) :
    String :=
  ":::".intercalate
    ["OPP:" ++ Js.orElse opportunityId "NONE",
      "GOAL:" ++ goalType,
      "STATES:" ++ "->".intercalate (stateSequence course),
      "TOOLS:" ++ "|".intercalate (course.tools.map toolCallHash),
      "PLANS:" ++ "|".intercalate (course.plans.map planText),
      "PROPOSALS:" ++ "|".intercalate (course.proposals.map proposalHash),
      "CHECKS:" ++ "|".intercalate (course.checks.map authorityVerdict),
      "STATUS:" ++ course.status.text]

structure MissionFingerprint where
  runId : String
  opportunityId : String
  fingerprintSha256 : String
  stateSequence : List String
  toolCallHashes : List String
  proposalHashes : List String
  authorityVerdicts : List String
  deriving DecidableEq, Repr

-- `crypto.createHash('sha256').update(text).digest('hex')`
variable (hash : String → String)

def fingerprint (run : AgentRunRow) (course : Course) : MissionFingerprint where
  runId := run.id
  opportunityId := Js.orElse run.opportunityId ""
  fingerprintSha256 := hash (canonicalString run.opportunityId run.goalType course)
  stateSequence := stateSequence course
  toolCallHashes := course.tools.map toolCallHash
  proposalHashes := course.proposals.map proposalHash
  authorityVerdicts := course.checks.map authorityVerdict

def generateFingerprint (store : TelemetryStore) (runId : String) :
    Except String MissionFingerprint :=
  match getAgentRunById store runId with
  | none     => .error ("Agent run '" ++ runId ++ "' not found in telemetry store.")
  | some run => .ok (fingerprint hash run (courseOf store run))

/-! ### Verification -/

structure ReplayVerificationResult where
  originalRunId : String
  replayRunId : String
  isMatch : Bool
  originalFingerprint : String
  replayFingerprint : String
  divergenceDetected : Bool
  divergenceStage : Option String
  divergenceDetails : Option String
  deriving DecidableEq, Repr

def details (name : String) (orig replay : List String) : String :=
  "Original " ++ name ++ " [" ++ ", ".intercalate orig ++ "] !== Replay " ++ name ++ " [" ++
    ", ".intercalate replay ++ "]"

/-- The stage of the divergence and its details. -/
def divergence (origFp replayFp : MissionFingerprint) : String × String :=
  if "->".intercalate origFp.stateSequence ≠ "->".intercalate replayFp.stateSequence then
    ("STATE_TRANSITIONS", details "states" origFp.stateSequence replayFp.stateSequence)
  else if "|".intercalate origFp.toolCallHashes ≠ "|".intercalate replayFp.toolCallHashes then
    ("TOOL_CALLS", details "tools" origFp.toolCallHashes replayFp.toolCallHashes)
  else if "|".intercalate origFp.authorityVerdicts ≠
      "|".intercalate replayFp.authorityVerdicts then
    ("AUTHORITY_CHECKS", details "checks" origFp.authorityVerdicts replayFp.authorityVerdicts)
  else if "|".intercalate origFp.proposalHashes ≠ "|".intercalate replayFp.proposalHashes then
    ("PROPOSALS", details "proposals" origFp.proposalHashes replayFp.proposalHashes)
  else ("UNKNOWN", "Fingerprints differ.")

def compare (originalRunId replayRunId : String) (origFp replayFp : MissionFingerprint) :
    ReplayVerificationResult :=
  let isMatch := decide (origFp.fingerprintSha256 = replayFp.fingerprintSha256)
  { originalRunId := originalRunId
    replayRunId := replayRunId
    isMatch := isMatch
    originalFingerprint := origFp.fingerprintSha256
    replayFingerprint := replayFp.fingerprintSha256
    divergenceDetected := !isMatch
    divergenceStage := if isMatch then none else some (divergence origFp replayFp).1
    divergenceDetails := if isMatch then none else some (divergence origFp replayFp).2 }

def verifyReplay (store : TelemetryStore) (originalRunId replayRunId : String) :
    Except String ReplayVerificationResult := do
  let origFp ← generateFingerprint hash store originalRunId
  let replayFp ← generateFingerprint hash store replayRunId
  return compare originalRunId replayRunId origFp replayFp

/-! ### Texts of entries without separators -/

/-- A text that can be told from what stands next to it in an entry. -/
def Plain (s : String) : Prop := s ≠ "" ∧ ':' ∉ s.toList ∧ '|' ∉ s.toList

/-- The free texts of a course are plain. -/
structure Course.IsPlain (course : Course) : Prop where
  tools : ∀ t ∈ course.tools, Plain t.toolName ∧ Plain t.inputHash ∧ Plain t.outputHash
  plans : ∀ pl ∈ course.plans, Plain pl.preferredAction
  proposals : ∀ p ∈ course.proposals, Plain p.proposalType
  checks : ∀ c ∈ course.checks, Plain c.checkName

/-- The texts of an entry joined by `:`. -/
def entry (texts : List String) : String := ":".intercalate texts

section Entries

variable {texts texts' : List String}

lemma plain_chars (h : ∀ s ∈ texts, Plain s) :
    ∀ cs ∈ texts.map String.toList, cs ≠ [] ∧ ':' ∉ cs := by
  rw [List.forall_mem_map]
  intro s hs
  exact ⟨by simpa using (h s hs).1, (h s hs).2.1⟩

lemma toList_list_map : Function.Injective (List.map String.toList) :=
  List.map_injective_iff.mpr fun _ _ => String.toList_injective

lemma entry_inj (h : ∀ s ∈ texts, Plain s) (h' : ∀ s ∈ texts', Plain s)
    (heq : entry texts = entry texts') : texts = texts' := by
  have hchars := congrArg String.toList heq
  rw [entry, entry, String.toList_intercalate, String.toList_intercalate] at hchars
  exact toList_list_map (intercalate_inj (plain_chars h) (plain_chars h') hchars)

lemma undoubled_entry (h : ∀ s ∈ texts, Plain s) : Undoubled ':' (entry texts).toList := by
  rw [entry, String.toList_intercalate]
  exact undoubled_intercalate (plain_chars h)

lemma entry_chars (hne : texts ≠ []) (h : ∀ s ∈ texts, Plain s) :
    (entry texts).toList ≠ [] ∧ '|' ∉ (entry texts).toList := by
  rw [entry, String.toList_intercalate]
  constructor
  · obtain ⟨s, texts, rfl⟩ := List.exists_cons_of_ne_nil hne
    rw [List.map_cons, intercalate_cons]
    exact fun hnil => (plain_chars h s.toList (by simp)).1 (List.append_eq_nil_iff.mp hnil).1
  · intro hmem
    obtain hsep | ⟨cs, hcs, hmem⟩ := mem_intercalate hmem
    · exact absurd hsep (by decide)
    · obtain ⟨s, hs, rfl⟩ := List.mem_map.mp hcs
      exact (h s hs).2.2 hmem

/-- A kind of entries, with the texts that are joined. -/
structure IsEntry {β : Type*} (f : β → String) (texts : β → List String) : Prop where
  eq_entry : ∀ b, f b = entry (texts b)
  ne_nil : ∀ b, texts b ≠ []
  inj : Function.Injective texts

variable {β : Type*} {f : β → String} {parts : β → List String} {bs bs' : List β}

lemma IsEntry.joined_inj (hf : IsEntry f parts) (h : ∀ b ∈ bs, ∀ s ∈ parts b, Plain s)
    (h' : ∀ b ∈ bs', ∀ s ∈ parts b, Plain s)
    (heq : "|".intercalate (bs.map f) = "|".intercalate (bs'.map f)) : bs = bs' := by
  have hchars : ∀ {bs : List β}, (∀ b ∈ bs, ∀ s ∈ parts b, Plain s) →
      ∀ cs ∈ (bs.map f).map String.toList, cs ≠ [] ∧ '|' ∉ cs := by
    intro bs h
    rw [List.forall_mem_map, List.forall_mem_map]
    intro b hb
    rw [hf.eq_entry]
    exact entry_chars (hf.ne_nil b) (h b hb)
  have hlist := congrArg String.toList heq
  rw [String.toList_intercalate, String.toList_intercalate] at hlist
  have htexts := toList_list_map (intercalate_inj (hchars h) (hchars h') hlist)
  refine List.ext_getElem (by simpa using congrArg List.length htexts) fun i hi hi' => hf.inj ?_
  have hget := List.getElem_of_eq htexts (i := i) (by simpa using hi)
  rw [List.getElem_map, List.getElem_map, hf.eq_entry, hf.eq_entry] at hget
  exact entry_inj (h _ (List.getElem_mem hi)) (h' _ (List.getElem_mem hi')) hget

lemma IsEntry.undoubled_joined (hf : IsEntry f parts) (h : ∀ b ∈ bs, ∀ s ∈ parts b, Plain s) :
    Undoubled ':' ("|".intercalate (bs.map f)).toList := by
  rw [String.toList_intercalate]
  refine undoubled_intercalate_of_ne (by decide) ?_
  rw [List.forall_mem_map, List.forall_mem_map]
  intro b hb
  rw [hf.eq_entry]
  exact undoubled_entry (h b hb)

end Entries

/-! ### The kinds of entries -/

lemma isEntry_toolCallHash :
    IsEntry toolCallHash fun t => [t.toolName, t.inputHash, t.outputHash, t.status.text] where
  eq_entry t := by simp [entry, toolCallHash, String.append_assoc]
  ne_nil _ := List.cons_ne_nil _ _
  inj t t' h := by
    have hstatus : Function.Injective ToolCallStatus.text := by
      intro s s' hs
      cases s <;> cases s' <;> first | rfl | exact absurd hs (by decide)
    cases t
    cases t'
    simpa [hstatus.eq_iff] using h

lemma isEntry_planText : IsEntry planText fun pl => [toString pl.planVersion, pl.preferredAction] where
  eq_entry pl := by simp [entry, planText, String.append_assoc]
  ne_nil _ := List.cons_ne_nil _ _
  inj pl pl' h := by
    cases pl
    cases pl'
    simpa [Int.repr_inj] using h

lemma isEntry_proposalHash : IsEntry proposalHash fun p => [p.proposalType, p.status.text] where
  eq_entry p := by simp [entry, proposalHash, String.append_assoc]
  ne_nil _ := List.cons_ne_nil _ _
  inj p p' h := by
    have hstatus : Function.Injective ProposalStatus.text := by
      intro s s' hs
      cases s <;> cases s' <;> first | rfl | exact absurd hs (by decide)
    cases p
    cases p'
    simpa [hstatus.eq_iff] using h

lemma isEntry_authorityVerdict :
    IsEntry authorityVerdict fun c => [c.checkName, if c.passed then "1" else "0"] where
  eq_entry c := by simp [entry, authorityVerdict, String.append_assoc]
  ne_nil _ := List.cons_ne_nil _ _
  inj c c' h := by
    obtain ⟨name, passed⟩ := c
    obtain ⟨name', passed'⟩ := c'
    cases passed <;> cases passed' <;> simp_all

lemma plain_of_digits {s : String} (hne : s ≠ "") (h : ∀ c ∈ s.toList, c.isDigit ∨ c = '-') :
    Plain s := by
  refine ⟨hne, fun hmem => ?_, fun hmem => ?_⟩
  · exact absurd (h _ hmem) (by decide)
  · exact absurd (h _ hmem) (by decide)

lemma plain_toString (n : ℤ) : Plain (toString n) := by
  have hdigits : ∀ m : ℕ, ∀ c ∈ m.repr.toList, c.isDigit := by
    intro m c hc
    rw [Nat.repr, String.toList_ofList] at hc
    exact Nat.isDigit_of_mem_toDigits (by decide) (by decide) hc
  have hne : ∀ m : ℕ, m.repr ≠ "" := fun m h => by
    simpa [Nat.repr] using congrArg String.toList h
  cases n with
  | ofNat m => exact plain_of_digits (hne m) fun c hc => .inl (hdigits m c hc)
  | negSucc m =>
    have hrepr : toString (Int.negSucc m) = "-" ++ (m + 1).repr := rfl
    rw [hrepr]
    refine plain_of_digits (fun h => hne (m + 1) (String.append_eq_empty_iff.mp h).2) fun c hc => ?_
    rw [String.toList_append, List.mem_append] at hc
    obtain hc | hc := hc
    · exact .inr (by simpa using hc)
    · exact .inl (hdigits _ c hc)

lemma stateSequence_chars {course : Course} :
    ∀ cs ∈ (stateSequence course).map String.toList,
      cs ≠ [] ∧ '-' ∉ cs ∧ ':' ∉ cs := by
  have hname : ∀ s : AgentState, s.text.toList ≠ [] ∧ '-' ∉ s.text.toList ∧ ':' ∉ s.text.toList := by
    intro s
    cases s <;> decide
  rw [stateSequence, List.map_map, List.forall_mem_map]
  exact fun s _ => hname s

def ofText? (text : String) : Option AgentState :=
  [.idle, .triggered, .observe, .investigate, .diagnose, .hypothesize, .plan, .validatePlan,
    .propose, .waitAuthority, .execute, .wait, .wake, .observeOutcome, .planInvalidated, .replan,
    .learn, .memoryUpdate, .complete, .aborted, .humanReview].find? fun s => s.text = text

lemma text_injective : Function.Injective AgentState.text := by
  have hread : ∀ s : AgentState, ofText? s.text = some s := by
    intro s
    cases s <;> decide
  intro s t h
  rw [← Option.some_inj, ← hread s, ← hread t, h]

lemma stateSequence_inj {course course' : Course}
    (h : "->".intercalate (stateSequence course) = "->".intercalate (stateSequence course')) :
    course.states = course'.states := by
  have hchars := congrArg String.toList h
  rw [String.toList_intercalate, String.toList_intercalate] at hchars
  have hdash : ∀ (course : Course), ∀ cs ∈ (stateSequence course).map String.toList,
      cs ≠ [] ∧ '-' ∉ cs := fun _ cs hcs =>
    ⟨(stateSequence_chars cs hcs).1, (stateSequence_chars cs hcs).2.1⟩
  exact text_injective.list_map (toList_list_map (intercalate_inj (hdash _) (hdash _) hchars))

lemma undoubled_stateSequence {course : Course} :
    Undoubled ':' ("->".intercalate (stateSequence course)).toList := by
  rw [String.toList_intercalate]
  refine undoubled_of_notMem fun hmem => ?_
  obtain hsep | ⟨cs, hcs, hmem⟩ := mem_intercalate hmem
  · exact absurd hsep (by decide)
  · exact (stateSequence_chars cs hcs).2.2 hmem

section PlainCourses

variable {course course' : Course}

lemma plain_toolCalls (h : course.IsPlain) : ∀ t ∈ course.tools,
    ∀ s ∈ [t.toolName, t.inputHash, t.outputHash, t.status.text], Plain s := by
  intro t ht
  obtain ⟨hname, hinput, houtput⟩ := h.tools t ht
  have hstatus : Plain t.status.text := by cases t.status <;> simp [Plain, ToolCallStatus.text]
  simp [hname, hinput, houtput, hstatus]

lemma plain_plans (h : course.IsPlain) : ∀ pl ∈ course.plans,
    ∀ s ∈ [toString pl.planVersion, pl.preferredAction], Plain s := by
  intro pl hpl s hs
  rw [List.mem_pair] at hs
  obtain rfl | rfl := hs
  · exact plain_toString _
  · exact h.plans pl hpl

lemma plain_proposals (h : course.IsPlain) : ∀ p ∈ course.proposals,
    ∀ s ∈ [p.proposalType, p.status.text], Plain s := by
  intro p hp
  have hstatus : Plain p.status.text := by cases p.status <;> simp [Plain, ProposalStatus.text]
  simp [h.proposals p hp, hstatus]

lemma plain_checks (h : course.IsPlain) : ∀ c ∈ course.checks,
    ∀ s ∈ [c.checkName, if c.passed then "1" else "0"], Plain s := by
  intro c hc
  have hpassed : Plain (if c.passed then "1" else "0") := by cases c.passed <;> simp [Plain]
  simp [h.checks c hc, hpassed]

/-- The parts of the text, with their labels; the first label has the opportunity and the goal. -/
def parts (opportunityId : Option String) (goalType : String) (course : Course) :
    List (List Char × List Char) :=
  [(("OPP:" ++ Js.orElse opportunityId "NONE" ++ ":::" ++ "GOAL:" ++ goalType ++ ":::" ++
        "STATES:").toList,
      ("->".intercalate (stateSequence course)).toList),
    ("TOOLS:".toList, ("|".intercalate (course.tools.map toolCallHash)).toList),
    ("PLANS:".toList, ("|".intercalate (course.plans.map planText)).toList),
    ("PROPOSALS:".toList, ("|".intercalate (course.proposals.map proposalHash)).toList),
    ("CHECKS:".toList, ("|".intercalate (course.checks.map authorityVerdict)).toList),
    ("STATUS:".toList, course.status.text.toList)]

lemma toList_canonicalString (opportunityId : Option String) (goalType : String) :
    (canonicalString opportunityId goalType course).toList =
      [':', ':', ':'].intercalate
        ((parts opportunityId goalType course).map fun x => x.1 ++ x.2) := by
  simp [canonicalString, parts, String.toList_append]

lemma undoubled_parts (h : course.IsPlain) (opportunityId : Option String) (goalType : String) :
    ∀ x ∈ parts opportunityId goalType course, Undoubled ':' x.2 := by
  have hstatus : Undoubled ':' course.status.text.toList :=
    undoubled_of_notMem (by cases course.status <;> decide)
  simp only [parts, List.forall_mem_cons]
  exact ⟨undoubled_stateSequence, isEntry_toolCallHash.undoubled_joined (plain_toolCalls h),
    isEntry_planText.undoubled_joined (plain_plans h),
    isEntry_proposalHash.undoubled_joined (plain_proposals h),
    isEntry_authorityVerdict.undoubled_joined (plain_checks h), hstatus, List.forall_mem_nil _⟩

/-- Different plain courses have different texts. -/
theorem canonicalString_inj (h : course.IsPlain) (h' : course'.IsPlain)
    (opportunityId : Option String) (goalType : String) :
    canonicalString opportunityId goalType course =
      canonicalString opportunityId goalType course' ↔ course = course' := by
  refine ⟨fun heq => ?_, fun heq => by rw [heq]⟩
  have hchars := congrArg String.toList heq
  rw [toList_canonicalString, toList_canonicalString] at hchars
  have hlabels : (parts opportunityId goalType course).map Prod.fst =
      (parts opportunityId goalType course').map Prod.fst := rfl
  have hparts := labelled_inj hlabels (undoubled_parts h opportunityId goalType)
    (undoubled_parts h' opportunityId goalType) hchars
  simp only [parts, List.cons.injEq, Prod.mk.injEq, true_and, and_true,
    String.toList_inj] at hparts
  obtain ⟨hstates, htools, hplans, hproposals, hchecks, hstatus⟩ := hparts
  have hstatuses : Function.Injective AgentRunStatus.text := by
    intro s s' hs
    cases s <;> cases s' <;> first | rfl | exact absurd hs (by decide)
  rw [Course.mk.injEq]
  exact ⟨stateSequence_inj hstates,
    isEntry_toolCallHash.joined_inj (plain_toolCalls h) (plain_toolCalls h') htools,
    isEntry_planText.joined_inj (plain_plans h) (plain_plans h') hplans,
    isEntry_proposalHash.joined_inj (plain_proposals h) (plain_proposals h') hproposals,
    isEntry_authorityVerdict.joined_inj (plain_checks h) (plain_checks h') hchecks,
    hstatuses hstatus⟩

end PlainCourses

/-! ### What a verification promises -/

/-- The sequences of a stage differ. -/
def DiffersAt (course course' : Course) (stage : String) : Prop :=
  stage = "STATE_TRANSITIONS" ∧ course.states ≠ course'.states ∨
    stage = "TOOL_CALLS" ∧ course.tools ≠ course'.tools ∨
    stage = "PLANS" ∧ course.plans ≠ course'.plans ∨
    stage = "AUTHORITY_CHECKS" ∧ course.checks ≠ course'.checks ∨
    stage = "PROPOSALS" ∧ course.proposals ≠ course'.proposals ∨
    stage = "STATUS" ∧ course.status ≠ course'.status

/-- A match is reported exactly for equal courses, and otherwise a stage at which they differ. -/
structure Faithful (course course' : Course) (result : ReplayVerificationResult) : Prop where
  match_iff : result.isMatch = true ↔ course = course'
  stage : result.isMatch = false → ∃ stage, result.divergenceStage = some stage ∧
    DiffersAt course course' stage

/-- The texts of a part that is searched for the divergence differ. -/
def SearchedTextsDiffer (course course' : Course) : Prop :=
  "->".intercalate (stateSequence course) ≠ "->".intercalate (stateSequence course') ∨
    "|".intercalate (course.tools.map toolCallHash) ≠
      "|".intercalate (course'.tools.map toolCallHash) ∨
    "|".intercalate (course.checks.map authorityVerdict) ≠
      "|".intercalate (course'.checks.map authorityVerdict) ∨
    "|".intercalate (course.proposals.map proposalHash) ≠
      "|".intercalate (course'.proposals.map proposalHash)

section Verify

variable {hash} {store : TelemetryStore} {original replay : AgentRunRow}

/-- The stage that the search gives is one whose texts differ, if there is one. -/
lemma divergence_cases (fp fp' : MissionFingerprint) :
    "->".intercalate fp.stateSequence ≠ "->".intercalate fp'.stateSequence ∧
        (divergence fp fp').1 = "STATE_TRANSITIONS" ∨
      "|".intercalate fp.toolCallHashes ≠ "|".intercalate fp'.toolCallHashes ∧
        (divergence fp fp').1 = "TOOL_CALLS" ∨
      "|".intercalate fp.authorityVerdicts ≠ "|".intercalate fp'.authorityVerdicts ∧
        (divergence fp fp').1 = "AUTHORITY_CHECKS" ∨
      "|".intercalate fp.proposalHashes ≠ "|".intercalate fp'.proposalHashes ∧
        (divergence fp fp').1 = "PROPOSALS" ∨
      ("->".intercalate fp.stateSequence = "->".intercalate fp'.stateSequence ∧
          "|".intercalate fp.toolCallHashes = "|".intercalate fp'.toolCallHashes ∧
          "|".intercalate fp.authorityVerdicts = "|".intercalate fp'.authorityVerdicts ∧
          "|".intercalate fp.proposalHashes = "|".intercalate fp'.proposalHashes) ∧
        (divergence fp fp').1 = "UNKNOWN" := by
  rw [divergence]
  split_ifs with hstates htools hchecks hproposals
  · exact .inl ⟨hstates, rfl⟩
  · exact .inr (.inl ⟨htools, rfl⟩)
  · exact .inr (.inr (.inl ⟨hchecks, rfl⟩))
  · exact .inr (.inr (.inr (.inl ⟨hproposals, rfl⟩)))
  · exact .inr (.inr (.inr (.inr ⟨⟨not_not.mp hstates, not_not.mp htools, not_not.mp hchecks,
      not_not.mp hproposals⟩, rfl⟩)))

/-- The search finds a stage at which the courses differ exactly when the texts of one do. -/
lemma differsAt_divergence_iff {course course' : Course} :
    DiffersAt course course'
        (divergence (fingerprint hash original course) (fingerprint hash replay course')).1 ↔
      SearchedTextsDiffer course course' := by
  have hne : ∀ {β : Type} {f : β → String} {bs bs' : List β},
      "|".intercalate (bs.map f) ≠ "|".intercalate (bs'.map f) → bs ≠ bs' :=
    fun h heq => h (by rw [heq])
  rcases divergence_cases (fingerprint hash original course) (fingerprint hash replay course') with
    ⟨hstates, hstage⟩ | ⟨htools, hstage⟩ | ⟨hchecks, hstage⟩ | ⟨hproposals, hstage⟩ | ⟨hsame, hstage⟩
  · rw [hstage]
    refine iff_of_true (.inl ⟨rfl, fun heq => hstates ?_⟩) (.inl hstates)
    simp [fingerprint, stateSequence, heq]
  · rw [hstage]
    exact iff_of_true (.inr (.inl ⟨rfl, hne htools⟩)) (.inr (.inl htools))
  · rw [hstage]
    exact iff_of_true (.inr (.inr (.inr (.inl ⟨rfl, hne hchecks⟩)))) (.inr (.inr (.inl hchecks)))
  · rw [hstage]
    exact iff_of_true (.inr (.inr (.inr (.inr (.inl ⟨rfl, hne hproposals⟩)))))
      (.inr (.inr (.inr hproposals)))
  · rw [hstage]
    obtain ⟨hstates, htools, hchecks, hproposals⟩ := hsame
    refine iff_of_false (by simp [DiffersAt]) ?_
    rintro (h | h | h | h)
    · exact h hstates
    · exact h htools
    · exact h hchecks
    · exact h hproposals

lemma searchedTextsDiffer_iff {course course' : Course} (h : course.IsPlain)
    (h' : course'.IsPlain) : SearchedTextsDiffer course course' ↔
      course.states ≠ course'.states ∨ course.tools ≠ course'.tools ∨
        course.checks ≠ course'.checks ∨ course.proposals ≠ course'.proposals := by
  refine or_congr (not_congr ⟨stateSequence_inj, fun heq => ?_⟩) (or_congr (not_congr ⟨?_, ?_⟩)
    (or_congr (not_congr ⟨?_, ?_⟩) (not_congr ⟨?_, ?_⟩)))
  · rw [stateSequence, stateSequence, heq]
  · exact isEntry_toolCallHash.joined_inj (plain_toolCalls h) (plain_toolCalls h')
  · exact fun heq => by rw [heq]
  · exact isEntry_authorityVerdict.joined_inj (plain_checks h) (plain_checks h')
  · exact fun heq => by rw [heq]
  · exact isEntry_proposalHash.joined_inj (plain_proposals h) (plain_proposals h')
  · exact fun heq => by rw [heq]

lemma verifyReplay_eq_ok {originalRunId replayRunId : String}
    (ho : store.agentRuns.find? originalRunId = some original)
    (hr : store.agentRuns.find? replayRunId = some replay) :
    verifyReplay hash store originalRunId replayRunId =
      .ok (compare originalRunId replayRunId (fingerprint hash original (courseOf store original))
        (fingerprint hash replay (courseOf store replay))) := by
  rw [verifyReplay, generateFingerprint, generateFingerprint, getAgentRunById, getAgentRunById, ho,
    hr]
  rfl

section Runs

variable (hhash : Function.Injective hash) {originalRunId replayRunId : String}
  (ho : store.agentRuns.find? originalRunId = some original)
  (hr : store.agentRuns.find? replayRunId = some replay)
  (hopportunity : original.opportunityId = replay.opportunityId)
  (hgoal : original.goalType = replay.goalType)

include hhash ho hr hopportunity hgoal

lemma faithful_verifyReplay_iff :
    (∃ result, verifyReplay hash store originalRunId replayRunId = .ok result ∧
        Faithful (courseOf store original) (courseOf store replay) result) ↔
      courseOf store original = courseOf store replay ∨
        canonicalString original.opportunityId original.goalType (courseOf store original) ≠
          canonicalString original.opportunityId original.goalType (courseOf store replay) ∧
        SearchedTextsDiffer (courseOf store original) (courseOf store replay) := by
  rw [verifyReplay_eq_ok ho hr]
  simp only [Except.ok.injEq, exists_eq_left']
  have hmatch : (compare originalRunId replayRunId (fingerprint hash original
        (courseOf store original)) (fingerprint hash replay (courseOf store replay))).isMatch = true ↔
      canonicalString original.opportunityId original.goalType (courseOf store original) =
        canonicalString original.opportunityId original.goalType (courseOf store replay) := by
    simp [compare, fingerprint, hhash.eq_iff, hopportunity, hgoal]
  constructor
  · intro h
    by_cases heq : courseOf store original = courseOf store replay
    · exact .inl heq
    · have hnot := mt h.match_iff.mp heq
      obtain ⟨stage, hstage, hdiffers⟩ := h.stage (by simpa using hnot)
      have hfound := Option.some_inj.mp ((if_neg hnot).symm.trans hstage)
      exact .inr ⟨mt hmatch.mpr hnot, differsAt_divergence_iff.mp (hfound ▸ hdiffers)⟩
  · rintro (heq | ⟨htexts, hsearched⟩)
    · have hyes := hmatch.mpr (by rw [heq])
      exact ⟨iff_of_true hyes heq, fun hno => absurd (hyes.symm.trans hno) (by decide)⟩
    · have hnot := mt hmatch.mp htexts
      refine ⟨iff_of_false hnot fun heq => htexts (by rw [heq]), fun _ => ⟨_, if_neg hnot, ?_⟩⟩
      exact differsAt_divergence_iff.mpr hsearched

/-- The verification of two runs of one opportunity and goal is right exactly when their courses are
equal, or their texts differ and so do those of a part that is searched. For plain courses, it is
wrong exactly when they differ in the plans or the status alone. -/
theorem faithful_iff :
    ((∃ result, verifyReplay hash store originalRunId replayRunId = .ok result ∧
        Faithful (courseOf store original) (courseOf store replay) result) ↔
      courseOf store original = courseOf store replay ∨
        canonicalString original.opportunityId original.goalType (courseOf store original) ≠
          canonicalString original.opportunityId original.goalType (courseOf store replay) ∧
        SearchedTextsDiffer (courseOf store original) (courseOf store replay)) ∧
      ((courseOf store original).IsPlain → (courseOf store replay).IsPlain →
        ((∃ result, verifyReplay hash store originalRunId replayRunId = .ok result ∧
            Faithful (courseOf store original) (courseOf store replay) result) ↔
          courseOf store original = courseOf store replay ∨
            (courseOf store original).states ≠ (courseOf store replay).states ∨
            (courseOf store original).tools ≠ (courseOf store replay).tools ∨
            (courseOf store original).checks ≠ (courseOf store replay).checks ∨
            (courseOf store original).proposals ≠ (courseOf store replay).proposals)) := by
  have hiff := faithful_verifyReplay_iff hhash ho hr hopportunity hgoal
  refine ⟨hiff, fun h h' => hiff.trans ?_⟩
  rw [ne_eq, canonicalString_inj h h', searchedTextsDiffer_iff h h']
  constructor
  · exact Or.imp_right And.right
  · rintro (heq | hdiffers)
    · exact .inl heq
    · refine .inr ⟨fun heq => ?_, hdiffers⟩
      simp [heq] at hdiffers

end Runs

end Verify

/-! ### Runs that are misjudged -/

def run (id : String) : AgentRunRow := ⟨id, some "opp_1", "RECOVER_PAYMENT", .completed⟩

/-- The telemetry of two completed runs of the opportunity. -/
def twoRuns (toolCalls : List AgentToolCallRow) (plans : List AgentPlanRow) : TelemetryStore where
  agentRuns := ⟨[run "run_1", run "run_2"], by decide⟩
  agentStates := []
  agentToolCalls := toolCalls
  agentPlans := plans
  agentProposals := []
  agentAuthorityChecks := []

section TwoRuns

variable (toolCalls : List AgentToolCallRow) (plans : List AgentPlanRow)

lemma courseOf_twoRuns (id : String) :
    courseOf (twoRuns toolCalls plans) (run id) =
      { states := []
        tools := (getAgentToolCallsByRunId (twoRuns toolCalls plans) id).map fun t => t.toToolCall
        plans := (getAgentPlansByRunId (twoRuns toolCalls plans) id).map fun p => p.toPlan
        proposals := []
        checks := []
        status := .completed } := by
  simp [courseOf, run, twoRuns, getAgentStatesByRunId, proposalsOf,
    getAgentProposalsByOpportunityId, getAgentAuthorityChecksByRunId]

variable {toolCalls plans}

lemma getAgentToolCallsByRunId_twoRuns {id : String} {rows : List AgentToolCallRow}
    (h : toolCalls.filter (fun t => t.runId = id) = rows)
    (hrows : rows.Pairwise fun t u => t.createdAt ≤ u.createdAt) :
    getAgentToolCallsByRunId (twoRuns toolCalls plans) id = rows := by
  have hfilter : (twoRuns toolCalls plans).agentToolCalls.filter (fun t => t.runId = id) = rows := h
  rw [getAgentToolCallsByRunId, hfilter]
  exact List.mergeSort_of_pairwise (hrows.imp fun hle => decide_eq_true hle)

lemma getAgentPlansByRunId_twoRuns {id : String} {rows : List AgentPlanRow}
    (h : plans.filter (fun p => p.runId = id) = rows)
    (hrows : rows.Pairwise fun p q => p.planVersion ≤ q.planVersion) :
    getAgentPlansByRunId (twoRuns toolCalls plans) id = rows := by
  have hfilter : (twoRuns toolCalls plans).agentPlans.filter (fun p => p.runId = id) = rows := h
  rw [getAgentPlansByRunId, hfilter]
  exact List.mergeSort_of_pairwise (hrows.imp fun hle => decide_eq_true hle)

end TwoRuns

def otherPlan : TelemetryStore :=
  twoRuns [] [⟨⟨1, "SEND_PAYMENT_LINK"⟩, "run_1"⟩, ⟨⟨1, "WAIT"⟩, "run_2"⟩]

/-- The replay has called one tool, whose name contains the entry of another call. -/
def forgedName : TelemetryStore :=
  twoRuns [⟨⟨"get_opportunity", "a1", "b1", .failed⟩, "run_1", 1⟩,
    ⟨⟨"get_gateway_state", "a2", "b2", .success⟩, "run_1", 2⟩,
    ⟨⟨"get_opportunity:a1:b1:FAILED|get_gateway_state", "a2", "b2", .success⟩, "run_2", 3⟩] []

def otherTool : TelemetryStore :=
  twoRuns [⟨⟨"get_opportunity", "a1", "b1", .success⟩, "run_1", 1⟩,
    ⟨⟨"get_gateway_state", "a1", "b1", .success⟩, "run_2", 2⟩] []

lemma courseOf_otherPlan :
    courseOf otherPlan (run "run_1") =
        ⟨[], [], [⟨1, "SEND_PAYMENT_LINK"⟩], [], [], .completed⟩ ∧
      courseOf otherPlan (run "run_2") = ⟨[], [], [⟨1, "WAIT"⟩], [], [], .completed⟩ := by
  constructor
  · rw [otherPlan, courseOf_twoRuns, getAgentToolCallsByRunId_twoRuns rfl (by decide),
      getAgentPlansByRunId_twoRuns rfl (by decide)]
    rfl
  · rw [otherPlan, courseOf_twoRuns, getAgentToolCallsByRunId_twoRuns rfl (by decide),
      getAgentPlansByRunId_twoRuns rfl (by decide)]
    rfl

lemma courseOf_forgedName :
    courseOf forgedName (run "run_1") =
        ⟨[], [⟨"get_opportunity", "a1", "b1", .failed⟩,
          ⟨"get_gateway_state", "a2", "b2", .success⟩], [], [], [], .completed⟩ ∧
      courseOf forgedName (run "run_2") =
        ⟨[], [⟨"get_opportunity:a1:b1:FAILED|get_gateway_state", "a2", "b2", .success⟩], [], [], [],
          .completed⟩ := by
  constructor
  · rw [forgedName, courseOf_twoRuns, getAgentToolCallsByRunId_twoRuns rfl (by decide),
      getAgentPlansByRunId_twoRuns rfl (by decide)]
    rfl
  · rw [forgedName, courseOf_twoRuns, getAgentToolCallsByRunId_twoRuns rfl (by decide),
      getAgentPlansByRunId_twoRuns rfl (by decide)]
    rfl

/-- Another plan is found at no stage, and a forged name gives the same text. -/
theorem runs_misjudged :
    Function.Injective (id : String → String) ∧
      ¬ (∃ result, verifyReplay id otherPlan "run_1" "run_2" = .ok result ∧
        Faithful (courseOf otherPlan (run "run_1")) (courseOf otherPlan (run "run_2")) result) ∧
      ¬ ∃ result, verifyReplay id forgedName "run_1" "run_2" = .ok result ∧
        Faithful (courseOf forgedName (run "run_1")) (courseOf forgedName (run "run_2")) result := by
  refine ⟨Function.injective_id, fun h => ?_, fun h => ?_⟩
  · have ho : otherPlan.agentRuns.find? "run_1" = some (run "run_1") := rfl
    have hr : otherPlan.agentRuns.find? "run_2" = some (run "run_2") := rfl
    rw [faithful_verifyReplay_iff Function.injective_id ho hr rfl rfl, courseOf_otherPlan.1,
      courseOf_otherPlan.2] at h
    obtain heq | ⟨-, hsearched⟩ := h
    · exact absurd heq (by decide)
    · exact hsearched.elim (fun hne => hne rfl) (by simp)
  · have ho : forgedName.agentRuns.find? "run_1" = some (run "run_1") := rfl
    have hr : forgedName.agentRuns.find? "run_2" = some (run "run_2") := rfl
    rw [faithful_verifyReplay_iff Function.injective_id ho hr rfl rfl, courseOf_forgedName.1,
      courseOf_forgedName.2] at h
    obtain heq | ⟨htexts, -⟩ := h
    · exact absurd heq (by decide)
    · exact htexts (by decide +kernel)

lemma courseOf_otherTool :
    courseOf otherTool (run "run_1") =
        ⟨[], [⟨"get_opportunity", "a1", "b1", .success⟩], [], [], [], .completed⟩ ∧
      courseOf otherTool (run "run_2") =
        ⟨[], [⟨"get_gateway_state", "a1", "b1", .success⟩], [], [], [], .completed⟩ := by
  constructor
  · rw [otherTool, courseOf_twoRuns, getAgentToolCallsByRunId_twoRuns rfl (by decide),
      getAgentPlansByRunId_twoRuns rfl (by decide)]
    rfl
  · rw [otherTool, courseOf_twoRuns, getAgentToolCallsByRunId_twoRuns rfl (by decide),
      getAgentPlansByRunId_twoRuns rfl (by decide)]
    rfl

theorem otherTool_faithful : ∃ result, verifyReplay id otherTool "run_1" "run_2" = .ok result ∧
    Faithful (courseOf otherTool (run "run_1")) (courseOf otherTool (run "run_2")) result := by
  have ho : otherTool.agentRuns.find? "run_1" = some (run "run_1") := rfl
  have hr : otherTool.agentRuns.find? "run_2" = some (run "run_2") := rfl
  refine (faithful_iff Function.injective_id ho hr rfl rfl).1.mpr (.inr ?_)
  rw [courseOf_otherTool.1, courseOf_otherTool.2]
  exact ⟨by decide, .inr (.inl (by decide))⟩

end MissionReplayEngine

end CtrlRecovery
