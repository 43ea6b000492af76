import CtrlRecovery.Agents.SemanticBridge
import CtrlRecovery.Execution.Batch
import CtrlRecovery.System.RecoverySystem

/-!
# Missions

A mission takes one opportunity from the signals of the language model to the executor. The
orchestrator reasons once, the agent loop up to three times; both then store the mission's score,
run the market for five places, take the opportunity's item of that run (or a decision of their own
when there is none), store it, ask the gate and dispatch what it authorizes. What is not dispatched
gets a status from the mission, over the one that the gate has just written.

The rest of the system works on while a mission is suspended (`Surroundings`). The loop is suspended
around its allocation and its evaluation too; the orchestrator is not.
-/

namespace CtrlRecovery

open OpportunityStatus OpportunityRepository Scorer Market Authority SemanticEconomicsBridge

/-! ### Reasoning -/

structure ReasoningOutput where
  semanticSignals : List SemanticSignal
  shouldContinue : Bool
  deriving DecidableEq, Repr

/-- One iteration of the agent loop: the switches and the budget that it finds, and the answer of
the reasoning engine. -/
structure LoopIteration where
  ks : KillSwitches
  budgetExceeded : Bool
  reasoning : Except String ReasoningOutput

/-- Why a mission ends before it has come to a verdict. -/
inductive Halt
  | notFound | aborted | budgetExceeded
  | failed (message : String)
  deriving DecidableEq, Repr

namespace AgentLoop

def maxIterations : ℕ := 3

/-- The reasoning loop from iteration `i` on, with the signals that it has gathered. -/
def reason (iteration : ℕ → LoopIteration) : ℕ → ℕ → List SemanticSignal →
    Except Halt (List SemanticSignal)
  | 0, _, gathered        => .ok gathered
  | fuel + 1, i, gathered =>
    if (iteration i).ks.isKillSwitchActive "" "" then .error .aborted
    else if (iteration i).budgetExceeded then .error .budgetExceeded
    else match (iteration i).reasoning with
      | .error message => .error (.failed message)
      | .ok output =>
        if output.shouldContinue then reason iteration fuel (i + 1) (gathered ++ output.semanticSignals)
        else .ok (gathered ++ output.semanticSignals)

/-- Keep the signal if it is the first of its name, or more confident than the one that is kept. -/
def keepBest (best : List SemanticSignal) (sig : SemanticSignal) : List SemanticSignal :=
  if best.any (·.name = sig.name) then
    best.map fun existing =>
      if existing.name = sig.name ∧ sig.confidence > existing.confidence then sig else existing
  else best ++ [sig]

def deduplicateSignals (signals : List SemanticSignal) : List SemanticSignal :=
  signals.foldl keepBest []

lemma names_keepBest (best : List SemanticSignal) (sig : SemanticSignal) :
    (keepBest best sig).map (·.name) =
      if best.any (·.name = sig.name) then best.map (·.name) else best.map (·.name) ++ [sig.name] := by
  rw [keepBest]
  split_ifs
  · rw [List.map_map]
    refine List.map_congr_left fun existing _ => ?_
    simp only [Function.comp_apply]
    split_ifs with h
    · exact h.1.symm
    · rfl
  · simp

/-- The signals of a mission have different names. -/
lemma nodup_deduplicateSignals (signals : List SemanticSignal) :
    ((deduplicateSignals signals).map (·.name)).Nodup := by
  suffices h : ∀ best : List SemanticSignal, (best.map (·.name)).Nodup →
      ((signals.foldl keepBest best).map (·.name)).Nodup from h [] (by simp)
  induction signals with
  | nil => exact fun best h => h
  | cons sig signals ih =>
    intro best h
    apply ih
    rw [names_keepBest]
    split_ifs with hnew
    · exact h
    · simp only [List.any_eq_true, decide_eq_true_eq, not_exists, not_and] at hnew
      refine List.nodup_append.mpr ⟨h, by simp, ?_⟩
      rintro name hname _ hsig rfl
      obtain ⟨existing, hexisting, rfl⟩ := List.mem_map.mp hname
      exact hnew existing hexisting (List.mem_singleton.mp hsig)

end AgentLoop

/-! ### Missions -/

/-- What does the reasoning of a mission, with its answers. -/
inductive MissionEngine
  | orchestrator (reasoning : Except String (List SemanticSignal))
  | agentLoop (tenantId : Option String) (iteration : ℕ → LoopIteration)

/-- `executeRecoveryMission` or `AgentLoop.run` for one opportunity. -/
structure Mission where
  opportunityId : String
  engine : MissionEngine
  now : Timestamp
  execution : ExecutionScript

/-- What all missions of a process work with. -/
structure MissionSetup where
  platform : Platform
  estimator : Estimator
  effectiveProbabilities : String → DeclineType → ProbabilityEstimate
  llmInfluenceDisabled : Bool

/-- What a mission finds when it is resumed: the switches, and what the others have done to the
database. -/
structure Surroundings where
  ksAtStart : KillSwitches
  afterReasoning : Db → Db
  afterAllocation : Db → Db
  ksAtGate : KillSwitches
  afterEvaluation : Db → Db
  ksAtExecution : KillSwitches

/-- Nothing else happens, and the switches stay. -/
def Surroundings.quiet (ks : KillSwitches) : Surroundings where
  ksAtStart := ks
  afterReasoning := id
  afterAllocation := id
  ksAtGate := ks
  afterEvaluation := id
  ksAtExecution := ks

/-- A mission that has come to its verdict. -/
structure JudgedMission where
  opp : RecoveryOpportunity
  score : Score
  allocation : AllocationDecision
  evaluated : AuthorityEvaluationResult
  db : Db

inductive MissionOutcome
  | halted (halt : Halt)
  | declined (allocation : AllocationDecision) (evaluated : AuthorityEvaluationResult)
  | dispatched (allocation : AllocationDecision) (evaluated : AuthorityEvaluationResult)
      (call : ExecuteCall)

namespace Mission

variable (setup : MissionSetup) (around : Surroundings) (m : Mission) (db : Db)

/-- The opportunity of a mission; a loop may be confined to a tenant. -/
def find : Option RecoveryOpportunity :=
  match m.engine with
  | .orchestrator _       => db.getOpportunityById m.opportunityId
  | .agentLoop tenantId _ => (db.getOpportunityById m.opportunityId).filter (Db.inScope tenantId none)

/-- The signals that a mission scores with. -/
def signals : Except Halt (List SemanticSignal) :=
  match m.engine with
  | .orchestrator (.ok signals)     => .ok signals
  | .orchestrator (.error message)  => .error (.failed message)
  | .agentLoop _ iteration          =>
    (AgentLoop.reason iteration AgentLoop.maxIterations 0 []).map AgentLoop.deduplicateSignals

def score (opp : RecoveryOpportunity) (signals : List SemanticSignal) : Score :=
  (scoreWithSemanticBridge setup.effectiveProbabilities setup.llmInfluenceDisabled opp signals).score

/-- The run of the market in a mission: the loop's is confined to the opportunity's tenant. -/
def allocationOptions (opp : RecoveryOpportunity) : AllocationOptions where
  capacity := some 5
  tenantId :=
    match m.engine with
    | .orchestrator _ => none
    | .agentLoop _ _  => some (Js.orElse (some opp.tenantId) opp.merchantId)
  environment := none

/-- The decision for an opportunity that the run has no item for. -/
def unplaced (opp : RecoveryOpportunity) : AllocationDecision :=
  match m.engine with
  | .orchestrator _ => unallocated opp.id "Outside portfolio capacity limit"
  | .agentLoop _ _  =>
    if opp.declineType = .hard then
      { unallocated opp.id "Hard decline: issuer security stop" with decision := .abstain }
    else unallocated opp.id "Outside portfolio capacity limit"

/-- Score the opportunity and run the market. -/
def allocate (opp : RecoveryOpportunity) (signals : List SemanticSignal) :
    AllocationDecision × Db :=
  let run := runMarketAllocation setup.platform setup.estimator (m.allocationOptions opp)
    (db.upsertScore (score setup opp signals))
  let marketItem := run.1.items.find? fun p => p.decision.opportunityId = opp.id
  ((marketItem.map (·.decision)).getD (m.unplaced opp), run.2)

/-- What happens while the mission is suspended between its later steps; the orchestrator is not. -/
def pause (meanwhile : Db → Db) : Db :=
  match m.engine with
  | .orchestrator _ => db
  | .agentLoop _ _  => meanwhile db

/-- A mission up to its verdict, or to its premature end. -/
def judge : Except (Halt × Db) JudgedMission :=
  match m.find db with
  | none     => .error (.notFound, db)
  | some opp =>
    if around.ksAtStart.isKillSwitchActive "" "" then .error (.aborted, db)
    else match m.signals with
      | .error halt => .error (halt, around.afterReasoning db)
      | .ok signals =>
        let allocated := m.allocate setup (around.afterReasoning db) opp signals
        let db := (m.pause allocated.2 around.afterAllocation).upsertAllocationDecision allocated.1
        let evaluated := evaluateOpportunity around.ksAtGate setup.estimator m.now db opp
          (some allocated.1) (some (score setup opp signals))
        .ok
          { opp := opp
            score := score setup opp signals
            allocation := allocated.1
            evaluated := evaluated.1
            db := m.pause evaluated.2 around.afterEvaluation }

end Mission

namespace JudgedMission

def Dispatches (j : JudgedMission) : Prop :=
  j.evaluated.verdict = .authorized ∧ j.allocation.decision = .act

instance (j : JudgedMission) : Decidable j.Dispatches := by
  unfold Dispatches
  infer_instance

/-- The end of a mission. -/
def conclude (setup : MissionSetup) (around : Surroundings) (script : ExecutionScript)
    (j : JudgedMission) : MissionOutcome × Db :=
  if j.Dispatches then
    let call := Executor.executeOpportunity around.ksAtExecution setup.estimator script j.db j.opp.id
    (.dispatched j.allocation j.evaluated call.1, call.2)
  else
    (.declined j.allocation j.evaluated,
      j.db.updateStatus j.opp.id (declinedStatus j.evaluated.verdict))

end JudgedMission

namespace Mission

variable {setup : MissionSetup} {around : Surroundings} {m : Mission} {db : Db}
  {opp : RecoveryOpportunity} {j : JudgedMission}

def run (setup : MissionSetup) (around : Surroundings) (m : Mission) (db : Db) :
    MissionOutcome × Db :=
  match m.judge setup around db with
  | .error (halt, db) => (.halted halt, db)
  | .ok judged        => judged.conclude setup around m.execution

lemma run_of_judge (h : m.judge setup around db = .ok j) :
    m.run setup around db = j.conclude setup around m.execution := by
  rw [run, h]

/-! ### The verdict -/

lemma verdict_evaluateOpportunity (ks : KillSwitches) (est : Estimator) (now : Timestamp) (db : Db)
    (opp : RecoveryOpportunity) (decision : AllocationDecision) (score : Score) :
    (evaluateOpportunity ks est now db opp (some decision) (some score)).1.verdict =
      (evaluateRules ks opp score decision).verdict := by
  simp [evaluateOpportunity]

lemma id_of_find (h : m.find db = some opp) : opp.id = m.opportunityId := by
  rw [find] at h
  cases hengine : m.engine with
  | orchestrator reasoning =>
    rw [hengine] at h
    exact Db.id_of_getOpportunityById h
  | agentLoop tenantId iteration =>
    rw [hengine] at h
    exact Db.id_of_getOpportunityById (Option.filter_eq_some_iff.mp h).1

/-- A verdict is the rules' answer for the opportunity as the mission found it. -/
lemma of_judge (h : m.judge setup around db = .ok j) :
    m.find db = some j.opp ∧ j.score.confidence = determineConfidence j.opp ∧
      j.evaluated.verdict =
        (evaluateRules around.ksAtGate j.opp j.score j.allocation).verdict := by
  rw [judge] at h
  cases hfind : m.find db with
  | none => simp [hfind] at h
  | some opp =>
    rw [hfind] at h
    dsimp only at h
    split_ifs at h with hkill
    cases hsignals : m.signals with
    | error halt => simp [hsignals] at h
    | ok signals =>
      rw [hsignals] at h
      cases h
      refine ⟨rfl, rfl, ?_⟩
      dsimp only
      rw [verdict_evaluateOpportunity]

/-- A mission has to wait exactly when the gate would clear its opportunity with an `ACT`
decision. -/
lemma verdict_eq_wait_iff (h : m.judge setup around db = .ok j) (hdeclined : ¬ j.Dispatches) :
    j.evaluated.verdict = .wait ↔
      ¬ around.ksAtGate.isKillSwitchActive j.opp.tenantId "" ∧ j.opp.declineType ≠ .hard ∧
        j.opp.declineType ≠ .unknown ∧ j.opp.attemptCount < 3 := by
  obtain ⟨-, hconfidence, hverdict⟩ := of_judge h
  have hnot : ¬ AuthorityRuleRegistry.Cleared around.ksAtGate j.opp j.score.confidence
      j.allocation.decision := by
    intro hcleared
    have hauthorized : j.evaluated.verdict = .authorized :=
      hverdict.trans ((AuthorityRuleRegistry.verdict_coreRules_iff rfl).mpr hcleared)
    exact hdeclined ⟨hauthorized, hcleared.2.2.2.2⟩
  have hlow : j.score.confidence ≠ .low ↔
      j.opp.declineType ≠ .unknown ∧ j.opp.attemptCount < 3 := by
    rw [hconfidence, Ne, determineConfidence_eq_low_iff, not_or, not_le]
  rw [hverdict, evaluateRules, AuthorityRuleRegistry.verdict_eq_wait_iff rfl]
  simp only [AuthorityRuleRegistry.Cleared] at hnot ⊢
  tauto

/-! ### What a mission leaves -/

end Mission

/-- The status that the rule engine suggested for the verdict of a mission. -/
def JudgedMission.suggestedStatus (around : Surroundings) (j : JudgedMission) :
    OpportunityStatus :=
  (evaluateRules around.ksAtGate j.opp j.score j.allocation).suggestedStatus

/-- A mission leaves its opportunity as writing the suggested status would, and one that has to wait
for capacity, unless it is recovered, among those that the market selects. -/
structure LeavesSuggested (setup : MissionSetup) (around : Surroundings) (m : Mission) (db : Db)
    (j : JudgedMission) : Prop where
  suggested : (m.run setup around db).2.statusOf m.opportunityId =
    (j.db.updateStatus m.opportunityId (j.suggestedStatus around)).statusOf m.opportunityId
  selected : j.evaluated.verdict = .wait → ∀ status ∈ j.db.statusOf m.opportunityId,
    status ≠ recovered →
      ∃ left ∈ (m.run setup around db).2.statusOf m.opportunityId, isAllocatable left

namespace Mission

variable {setup : MissionSetup} {around : Surroundings} {m : Mission} {db : Db}
  {opp : RecoveryOpportunity} {j : JudgedMission}

lemma suggestedStatus_eq (h : m.judge setup around db = .ok j) :
    j.suggestedStatus around = AuthorityRuleRegistry.verdictStatus j.evaluated.verdict := by
  rw [(of_judge h).2.2]
  exact AuthorityRuleRegistry.suggestedStatus_coreRules

lemma run_statusOf_of_declined (h : m.judge setup around db = .ok j) (hdeclined : ¬ j.Dispatches) :
    (m.run setup around db).2.statusOf m.opportunityId =
      (j.db.statusOf m.opportunityId).map fun s =>
        nextStatus s (declinedStatus j.evaluated.verdict) := by
  have hid : j.opp.id = m.opportunityId := id_of_find (of_judge h).1
  rw [run_of_judge h, JudgedMission.conclude, if_neg hdeclined, hid]
  show (j.db.updateStatus m.opportunityId _).statusOf m.opportunityId = _
  rw [Db.statusOf_updateStatus, if_pos rfl]

/-- The last status is the suggested one for every verdict but `WAIT`. -/
lemma nextStatus_declinedStatus_iff {verdict : AuthorityVerdict} (h : verdict ≠ .authorized)
    (s : OpportunityStatus) :
    nextStatus s (declinedStatus verdict) =
        nextStatus s (AuthorityRuleRegistry.verdictStatus verdict) ↔
      verdict ≠ .wait ∨ s = recovered := by
  cases verdict with
  | authorized => exact absurd rfl h
  | blocked => simp [declinedStatus, AuthorityRuleRegistry.verdictStatus]
  | abstain => simp [declinedStatus, AuthorityRuleRegistry.verdictStatus]
  | wait => cases s <;> decide

lemma verdict_ne_authorized (h : m.judge setup around db = .ok j) (hdeclined : ¬ j.Dispatches) :
    j.evaluated.verdict ≠ .authorized := by
  intro hauthorized
  rw [(of_judge h).2.2] at hauthorized
  have hcleared := (AuthorityRuleRegistry.verdict_coreRules_iff rfl).mp hauthorized
  exact hdeclined ⟨(of_judge h).2.2.trans hauthorized, hcleared.2.2.2.2⟩

/-- A mission that does not dispatch leaves the suggested status exactly when its verdict is not
`WAIT`, or its opportunity is recovered or gone by then. -/
lemma leavesSuggested_iff_of_verdict (h : m.judge setup around db = .ok j)
    (hdeclined : ¬ j.Dispatches) :
    LeavesSuggested setup around m db j ↔
      j.evaluated.verdict ≠ .wait ∨
        ∀ status ∈ j.db.statusOf m.opportunityId, status = recovered := by
  have hne := verdict_ne_authorized h hdeclined
  constructor
  · rintro ⟨hsuggested, -⟩
    refine or_iff_not_imp_left.mpr fun hwait status hstatus => ?_
    rw [run_statusOf_of_declined h hdeclined, Db.statusOf_updateStatus, if_pos rfl,
      suggestedStatus_eq h, Option.mem_def.mp hstatus, Option.map_some, Option.map_some,
      Option.some.injEq] at hsuggested
    exact ((nextStatus_declinedStatus_iff hne status).mp hsuggested).resolve_left hwait
  · intro hcondition
    constructor
    case suggested =>
      rw [run_statusOf_of_declined h hdeclined, Db.statusOf_updateStatus, if_pos rfl,
        suggestedStatus_eq h]
      refine Option.map_congr fun status hstatus => ?_
      apply (nextStatus_declinedStatus_iff hne status).mpr
      exact hcondition.imp_right fun hrecovered => hrecovered status hstatus
    case selected =>
      intro hwait status hstatus hrecovered
      rcases hcondition with hverdict | hall
      · exact absurd hwait hverdict
      · exact absurd (hall status hstatus) hrecovered

/-- A mission that completes without a dispatch leaves the suggested status exactly when a kill
switch halts the opportunity's tenant, its decline is hard or of unknown kind, it has had three
attempts, or it is recovered or gone when the mission writes. -/
theorem leavesSuggested_iff (hfind : m.find db = some opp) (h : m.judge setup around db = .ok j)
    (hdeclined : ¬ j.Dispatches) :
    LeavesSuggested setup around m db j ↔
      around.ksAtGate.isKillSwitchActive opp.tenantId "" ∨ opp.declineType = .hard ∨
        opp.declineType = .unknown ∨ 3 ≤ opp.attemptCount ∨
        ∀ status ∈ j.db.statusOf m.opportunityId, status = recovered := by
  obtain rfl : opp = j.opp := Option.some.inj (hfind.symm.trans (of_judge h).1)
  rw [leavesSuggested_iff_of_verdict h hdeclined, Ne, verdict_eq_wait_iff h hdeclined]
  have hattempts : 3 ≤ j.opp.attemptCount ↔ ¬ j.opp.attemptCount < 3 := not_lt.symm
  rw [hattempts]
  tauto

end Mission

/-! ### Waiting is turned into abandonment -/

/-- The orchestrator's mission for an opportunity, with no signal. -/
def sampleMission (id : String) : Mission where
  opportunityId := id
  engine := .orchestrator (.ok [])
  now := 1000
  execution := .unavailable

def MissionSetup.sample : MissionSetup where
  platform := .plain
  estimator := .sample
  effectiveProbabilities := fun _ _ => ⟨1 / 10, 6 / 10, .static⟩
  llmInfluenceDisabled := false

namespace Mission

variable {j : JudgedMission}

/-- What a mission comes to when an earlier run has already given its opportunity a place. -/
lemma judge_allocated :
    ∃ j, (sampleMission "opp_1").judge .sample (.quiet .off)
        (Db.ofRows [sampleOpportunity "opp_1" allocated] []) = .ok j ∧
      j.evaluated.verdict = .wait ∧ j.db.statusOf "opp_1" = some deferred := by
  have hjudged : ((sampleMission "opp_1").judge .sample (.quiet .off)
      (Db.ofRows [sampleOpportunity "opp_1" allocated] [])).toOption.any fun j =>
        j.evaluated.verdict = .wait ∧ j.db.statusOf "opp_1" = some deferred := by
    decide +kernel
  cases hj : (sampleMission "opp_1").judge .sample (.quiet .off)
      (Db.ofRows [sampleOpportunity "opp_1" allocated] []) with
  | error failure =>
    rw [hj] at hjudged
    cases hjudged
  | ok j =>
    rw [hj] at hjudged
    exact ⟨j, rfl, of_decide_eq_true hjudged⟩

lemma not_dispatches_of_wait (h : j.evaluated.verdict = .wait) : ¬ j.Dispatches := by
  rintro ⟨hauthorized, -⟩
  rw [h] at hauthorized
  cases hauthorized

/-- The mission of an opportunity that has its place already. -/
theorem leavesSuggested_iff_allocated :
    ∃ j, (sampleMission "opp_1").judge .sample (.quiet .off)
        (Db.ofRows [sampleOpportunity "opp_1" allocated] []) = .ok j ∧
      (LeavesSuggested .sample (.quiet .off) (sampleMission "opp_1")
          (Db.ofRows [sampleOpportunity "opp_1" allocated] []) j ↔
        KillSwitches.off.isKillSwitchActive "tenant_a" "" ∨ DeclineType.soft = .hard ∨
          DeclineType.soft = .unknown ∨ (3 : ℚ) ≤ 1 ∨
          ∀ status ∈ j.db.statusOf "opp_1", status = recovered) := by
  obtain ⟨j, hjudge, hwait, -⟩ := judge_allocated
  have hfind : (sampleMission "opp_1").find
      (Db.ofRows [sampleOpportunity "opp_1" allocated] []) =
        some (sampleOpportunity "opp_1" allocated) := rfl
  exact ⟨j, hjudge, leavesSuggested_iff hfind hjudge (not_dispatches_of_wait hwait)⟩

/-- An opportunity that has its place already is told to wait by the gate, and is abandoned. -/
theorem allocated_waits_and_is_abandoned :
    ¬ ∀ j, (sampleMission "opp_1").judge .sample (.quiet .off)
        (Db.ofRows [sampleOpportunity "opp_1" allocated] []) = .ok j → ¬ j.Dispatches →
      LeavesSuggested .sample (.quiet .off) (sampleMission "opp_1")
        (Db.ofRows [sampleOpportunity "opp_1" allocated] []) j := by
  intro h
  obtain ⟨j, hjudge, hwait, hstatus⟩ := judge_allocated
  have hdeclined := not_dispatches_of_wait hwait
  have hleaves := h j hjudge hdeclined
  rcases (leavesSuggested_iff_of_verdict hjudge hdeclined).mp hleaves with hne | hrecovered
  · exact hne hwait
  · exact absurd (hrecovered deferred hstatus) (by simp)

end Mission

end CtrlRecovery
