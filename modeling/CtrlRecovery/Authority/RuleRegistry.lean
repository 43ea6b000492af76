import CtrlRecovery.Core.Ranking
import CtrlRecovery.Core.Table
import CtrlRecovery.Js
import CtrlRecovery.Types

/-!
# Compliance rules

A rule answers whether it passes for an opportunity, its score and its allocation decision, and
what verdict and status it suggests when it does not. The registry runs all its rules by ascending
priority and keeps the severest suggestion: `BLOCKED` over `ABSTAIN` over `WAIT`.

With the core rules the verdict is `AUTHORIZED` exactly for the opportunities that are cleared
(`verdict_coreRules_iff`). No rule looks at the status of the opportunity.
-/

namespace CtrlRecovery

open Core

/-! ### Kill switches -/

/-- The switches that are engaged: the global one, and those of single tenants and providers. -/
structure KillSwitches where
  isGlobalKillSwitchActive : Bool
  tenantKillSwitches : List String
  providerKillSwitches : List String
  deriving DecidableEq, Repr

namespace KillSwitches

def off : KillSwitches where
  isGlobalKillSwitchActive := false
  tenantKillSwitches := []
  providerKillSwitches := []

/-- Whether an action for this tenant or provider is halted; an empty name selects no switch. -/
def isKillSwitchActive (ks : KillSwitches) (tenantId : String) (provider : String) : Bool :=
  ks.isGlobalKillSwitchActive ||
    (tenantId != "" && ks.tenantKillSwitches.contains tenantId) ||
    (provider != "" && ks.providerKillSwitches.contains provider)

def setKillSwitch (ks : KillSwitches) (enabled : Bool) : KillSwitches :=
  { ks with isGlobalKillSwitchActive := enabled }

/-- Engage or release one name of a list of engaged switches. -/
def setIn (names : List String) (name : String) (enabled : Bool) : List String :=
  if enabled then name :: names.erase name else names.filter (· ≠ name)

def setTenantKillSwitch (ks : KillSwitches) (tenantId : String) (enabled : Bool) : KillSwitches :=
  { ks with tenantKillSwitches := setIn ks.tenantKillSwitches tenantId enabled }

def setProviderKillSwitch (ks : KillSwitches) (provider : String) (enabled : Bool) : KillSwitches :=
  { ks with providerKillSwitches := setIn ks.providerKillSwitches provider enabled }

variable {ks : KillSwitches} {tenantId name : String} {names : List String}

lemma mem_setIn {enabled : Bool} :
    tenantId ∈ setIn names name enabled ↔
      if tenantId = name then enabled = true else tenantId ∈ names := by
  rw [setIn]
  by_cases hname : tenantId = name
  · cases enabled <;> simp [hname]
  · cases enabled
    · simp [hname]
    · simp [hname, List.mem_erase_of_ne hname]

lemma isKillSwitchActive_iff :
    ks.isKillSwitchActive tenantId "" ↔
      ks.isGlobalKillSwitchActive ∨ tenantId ≠ "" ∧ tenantId ∈ ks.tenantKillSwitches := by
  simp [isKillSwitchActive]

@[simp] lemma isKillSwitchActive_off : off.isKillSwitchActive tenantId "" = false := by
  simp [isKillSwitchActive, off]

end KillSwitches

/-! ### Rules -/

structure AuthorityRuleContext where
  opportunity : RecoveryOpportunity
  score : Score
  decision : AllocationDecision
  tenantId : String

structure AuthorityRuleResult where
  passed : Bool
  reason : String
  suggestedVerdictOnFailure : AuthorityVerdict
  suggestedStatusOnFailure : OpportunityStatus

structure AuthorityRule where
  id : String
  name : String
  priority : ℚ
  isBlocking : Bool
  evaluate : AuthorityRuleContext → AuthorityRuleResult

/-- The result of a rule that fails on a condition, with its two reasons and what it suggests. -/
def ruleResult (fails : Bool) (failReason passReason : String) (verdict : AuthorityVerdict)
    (status : OpportunityStatus) : AuthorityRuleResult where
  passed := !fails
  reason := if fails then failReason else passReason
  suggestedVerdictOnFailure := verdict
  suggestedStatusOnFailure := status

def hardDeclineRule : AuthorityRule where
  id := "hard_decline_check"
  name := "Hard Decline Compliance Gate"
  priority := 10
  isBlocking := true
  evaluate c := ruleResult (c.opportunity.declineType == .hard)
    "no auto-contact after a hard/fraud-coded decline"
    ("decline type is recoverable (" ++ c.opportunity.declineType.text ++ ")") .blocked .blocked

/-- The cap on the attempts, 3 unless configured. -/
def retryCapRule (maxAttempts : ℕ) : AuthorityRule where
  id := "retry_cap_check"
  name := "Retry Cap Threshold Gate"
  priority := 20
  isBlocking := true
  evaluate c := ruleResult (decide (c.opportunity.attemptCount ≥ maxAttempts))
    "retry cap reached — route to manual fallback, not further auto-contact"
    ("attempt count (" ++ Js.numberToString c.opportunity.attemptCount ++
      ") within retry cap limit of " ++ toString maxAttempts) .blocked .blocked

/-- The rule reads the switches of the moment. -/
def killSwitchRule (ks : KillSwitches) : AuthorityRule where
  id := "kill_switch_check"
  name := "Emergency Kill Switch Gate"
  priority := 5
  isBlocking := true
  evaluate c :=
    let activeTenantId := Js.orElse (some c.tenantId) c.opportunity.tenantId
    ruleResult (ks.isKillSwitchActive activeTenantId "") "manual kill switch engaged"
      "system operating normally (kill switch disengaged)" .blocked .blocked

def confidenceRecheckRule : AuthorityRule where
  id := "confidence_recheck"
  name := "Bayesian Confidence Level Gate"
  priority := 30
  isBlocking := false
  evaluate c := ruleResult (c.score.confidence == .low)
    "low confidence score — requires human or observational review"
    ("confidence level is sufficient (" ++ c.score.confidence.text ++ ")") .abstain .abstained

def capacityRecheckRule : AuthorityRule where
  id := "capacity_recheck"
  name := "Market Allocation Capacity Gate"
  priority := 40
  isBlocking := false
  evaluate c := ruleResult (c.decision.decision != .act)
    ("not within active market allocation batch (market status: " ++ c.decision.decision.text ++ ")")
    ("allocated in current active batch (rank #" ++ toString c.decision.rankInBatch ++ ")")
    .wait .deferred

def elapsedHours (now : Timestamp) (opp : RecoveryOpportunity) : ℚ :=
  ((now : ℚ) - opp.createdAt) / (1000 * 60 * 60)

/-- The pacing of retries, at a time; the window, 24 hours unless configured, is only written into a
reason. It is not one of the default rules. -/
def coolOffWindowRule (windowHours : ℕ) (now : Timestamp) : AuthorityRule where
  id := "cool_off_window_check"
  name := "Customer Cool-Off Period Gate"
  priority := 25
  isBlocking := false
  evaluate c := ruleResult
    (decide (c.opportunity.attemptCount > 1 ∧ elapsedHours now c.opportunity < 16 / 100 ∧
      c.opportunity.attemptCount ≥ 2))
    ("pacing window violation: retry attempted too quickly (" ++
      Js.toFixed (elapsedHours now c.opportunity) 2 ++ "h elapsed, min pacing required)")
    ("cool-off pacing compliant (window: " ++ toString windowHours ++ "h)") .wait .deferred

/-! ### The registry -/

/-- The registered rules, in the order of their registration; an id is registered once. -/
abbrev AuthorityRuleRegistry := Table AuthorityRule.id

namespace AuthorityRuleRegistry

def registerDefaultRules (ks : KillSwitches) : AuthorityRuleRegistry :=
  [killSwitchRule ks, hardDeclineRule, retryCapRule 3, confidenceRecheckRule,
    capacityRecheckRule].foldl Table.put .empty

/-- The rules by ascending priority. -/
def getActiveRules (registry : AuthorityRuleRegistry) : List AuthorityRule :=
  rank (fun r => -r.priority) registry.rows

structure RuleEngineEvaluationResult where
  verdict : AuthorityVerdict
  checks : List AuthorityCheck
  suggestedStatus : OpportunityStatus
  summaryReason : String
  deriving DecidableEq, Repr

/-- What the rules so far have come to. -/
structure Standing where
  verdict : AuthorityVerdict
  status : OpportunityStatus
  reason : String

/-- One more rule result: a failure replaces a less severe standing. -/
def Standing.escalate (standing : Standing) (result : AuthorityRuleResult) : Standing :=
  let failed : Standing :=
    { verdict := result.suggestedVerdictOnFailure
      status := result.suggestedStatusOnFailure
      reason := result.reason }
  if result.passed then standing
  else match result.suggestedVerdictOnFailure with
    | .blocked    => failed
    | .abstain    => if standing.verdict ≠ .blocked then failed else standing
    | .wait       => if standing.verdict = .authorized then failed else standing
    | .authorized => standing

def allPassed : Standing where
  verdict := .authorized
  status := .authorized
  reason := "all deterministic compliance checks passed"

/-- Run every rule and keep the severest failure. -/
def evaluate (registry : AuthorityRuleRegistry) (c : AuthorityRuleContext) :
    RuleEngineEvaluationResult :=
  let rules := getActiveRules registry
  let standing := (rules.map fun r => r.evaluate c).foldl Standing.escalate allPassed
  { verdict := standing.verdict
    checks := rules.map fun r =>
      { opportunityId := c.opportunity.id
        checkName := r.id
        passed := (r.evaluate c).passed
        reason := (r.evaluate c).reason }
    suggestedStatus := standing.status
    summaryReason := standing.reason }

/-! ### What the verdict depends on -/

lemma Standing.escalate_of_passed {standing : Standing} {result : AuthorityRuleResult}
    (h : result.passed) : standing.escalate result = standing := by
  simp [escalate, h]

/-- A result either leaves the standing or replaces it. -/
lemma Standing.escalate_eq_or (standing : Standing) (result : AuthorityRuleResult) :
    standing.escalate result = standing ∨
      standing.escalate result =
        { verdict := result.suggestedVerdictOnFailure
          status := result.suggestedStatusOnFailure
          reason := result.reason } := by
  by_cases hp : result.passed
  · exact .inl (escalate_of_passed hp)
  · simp only [escalate, hp]
    cases result.suggestedVerdictOnFailure with
    | authorized => exact .inl rfl
    | blocked => exact .inr rfl
    | abstain =>
      by_cases hb : standing.verdict = .blocked
      · left
        simp [hb]
      · right
        simp [hb]
    | wait =>
      by_cases ha : standing.verdict = .authorized
      · right
        simp [ha]
      · left
        simp [ha]

/-- A failure that suggests another verdict than `AUTHORIZED` withholds the authorization. -/
lemma Standing.escalate_verdict_ne (standing : Standing) {result : AuthorityRuleResult}
    (hfail : ¬ result.passed) (hs : result.suggestedVerdictOnFailure ≠ .authorized) :
    (standing.escalate result).verdict ≠ .authorized := by
  rw [escalate, if_neg hfail]
  cases hv : result.suggestedVerdictOnFailure with
  | authorized => exact absurd hv hs
  | blocked => simp
  | abstain =>
    dsimp only
    split_ifs with hb
    · simp
    · rw [not_not] at hb
      simp [hb]
  | wait =>
    dsimp only
    split_ifs with ha
    · simp
    · exact ha

/-- The verdict is `AUTHORIZED` exactly when every rule passes, whatever the rules and their order,
as long as no rule suggests `AUTHORIZED` for its own failure. -/
lemma foldl_escalate_verdict_iff {results : List AuthorityRuleResult}
    (hs : ∀ result ∈ results, result.suggestedVerdictOnFailure ≠ .authorized) (standing : Standing) :
    (results.foldl Standing.escalate standing).verdict = .authorized ↔
      standing.verdict = .authorized ∧ ∀ result ∈ results, result.passed := by
  induction results generalizing standing with
  | nil => simp
  | cons result results ih =>
    rw [List.foldl_cons, ih fun r hr => hs r (List.mem_cons_of_mem _ hr), List.forall_mem_cons]
    by_cases hp : result.passed
    · simp [Standing.escalate_of_passed hp, hp]
    · have hne := standing.escalate_verdict_ne hp
        (hs result List.mem_cons_self)
      simp [hne, hp]

/-- The core rules clear the opportunity: no kill switch for its tenant, no hard decline, fewer than
three attempts, a sufficient confidence and an `ACT` decision. -/
def Cleared (ks : KillSwitches) (o : RecoveryOpportunity) (confidence : ConfidenceLevel)
    (decision : DecisionType) : Prop :=
  ¬ ks.isKillSwitchActive o.tenantId "" ∧ o.declineType ≠ .hard ∧ o.attemptCount < 3 ∧
    confidence ≠ .low ∧ decision = .act

instance (ks : KillSwitches) (o : RecoveryOpportunity) (confidence : ConfidenceLevel)
    (decision : DecisionType) : Decidable (Cleared ks o confidence decision) := by
  unfold Cleared
  infer_instance

@[simp] lemma cleared_withStatus (ks : KillSwitches) (o : RecoveryOpportunity)
    (status : OpportunityStatus) (confidence : ConfidenceLevel) (decision : DecisionType) :
    Cleared ks (o.withStatus status) confidence decision ↔ Cleared ks o confidence decision :=
  Iff.rfl

lemma getActiveRules_default (ks : KillSwitches) :
    getActiveRules (registerDefaultRules ks) = [killSwitchRule ks, hardDeclineRule, retryCapRule 3,
      confidenceRecheckRule, capacityRecheckRule] := rfl

variable {ks : KillSwitches} {c : AuthorityRuleContext}

theorem verdict_coreRules_iff (h : c.tenantId = c.opportunity.tenantId) :
    (evaluate (registerDefaultRules ks) c).verdict = .authorized ↔
      Cleared ks c.opportunity c.score.confidence c.decision.decision := by
  have htenant : Js.orElse (some c.opportunity.tenantId) c.opportunity.tenantId =
      c.opportunity.tenantId := by
    rw [Js.orElse]
    split_ifs <;> rfl
  rw [evaluate, getActiveRules_default]
  dsimp only
  rw [foldl_escalate_verdict_iff]
  · simp [Cleared, allPassed, killSwitchRule, hardDeclineRule, retryCapRule, confidenceRecheckRule,
      capacityRecheckRule, ruleResult, h, htenant]
  · simp [killSwitchRule, hardDeclineRule, retryCapRule, confidenceRecheckRule,
      capacityRecheckRule, ruleResult]

/-- The status that goes with a verdict. -/
def verdictStatus : AuthorityVerdict → OpportunityStatus
  | .authorized => .authorized
  | .blocked    => .blocked
  | .abstain    => .abstained
  | .wait       => .deferred

/-- Rules that suggest the status of their verdict leave the status of the final verdict. -/
lemma foldl_escalate_status {results : List AuthorityRuleResult}
    (hs : ∀ result ∈ results,
      result.suggestedStatusOnFailure = verdictStatus result.suggestedVerdictOnFailure)
    {standing : Standing} (h : standing.status = verdictStatus standing.verdict) :
    (results.foldl Standing.escalate standing).status =
      verdictStatus (results.foldl Standing.escalate standing).verdict := by
  induction results generalizing standing with
  | nil => exact h
  | cons result results ih =>
    refine ih (fun r hr => hs r (List.mem_cons_of_mem _ hr)) ?_
    rcases standing.escalate_eq_or result with heq | heq
    · rwa [heq]
    · rw [heq]
      exact hs result List.mem_cons_self

lemma suggestedStatus_coreRules :
    (evaluate (registerDefaultRules ks) c).suggestedStatus =
      verdictStatus (evaluate (registerDefaultRules ks) c).verdict := by
  rw [evaluate, getActiveRules_default]
  refine foldl_escalate_status ?_ rfl
  simp [killSwitchRule, hardDeclineRule, retryCapRule, confidenceRecheckRule,
    capacityRecheckRule, ruleResult, verdictStatus]

lemma suggestedStatus_coreRules_ne_recovered :
    (evaluate (registerDefaultRules ks) c).suggestedStatus ≠ .recovered := by
  rw [suggestedStatus_coreRules]
  cases (evaluate (registerDefaultRules ks) c).verdict <;> simp [verdictStatus]

lemma foldl_escalate_coreRules (kill hard cap low unplaced : Bool)
    {f₁ p₁ f₂ p₂ f₃ p₃ f₄ p₄ f₅ p₅ : String} :
    ([ruleResult kill f₁ p₁ .blocked .blocked, ruleResult hard f₂ p₂ .blocked .blocked,
      ruleResult cap f₃ p₃ .blocked .blocked, ruleResult low f₄ p₄ .abstain .abstained,
      ruleResult unplaced f₅ p₅ .wait .deferred].foldl Standing.escalate allPassed).verdict =
      if kill || hard || cap then .blocked else if low then .abstain
      else if unplaced then .wait else .authorized := by
  cases kill <;> cases hard <;> cases cap <;> cases low <;> cases unplaced <;> rfl

/-- The verdict by what fails first in severity. -/
lemma verdict_coreRules (h : c.tenantId = c.opportunity.tenantId) :
    (evaluate (registerDefaultRules ks) c).verdict =
      if ks.isKillSwitchActive c.opportunity.tenantId "" || c.opportunity.declineType == .hard ||
          decide (c.opportunity.attemptCount ≥ (3 : ℕ)) then .blocked
      else if c.score.confidence == .low then .abstain
      else if c.decision.decision != .act then .wait else .authorized := by
  have htenant : Js.orElse (some c.tenantId) c.opportunity.tenantId = c.opportunity.tenantId := by
    rw [Js.orElse, h]
    split_ifs <;> rfl
  rw [evaluate, getActiveRules_default]
  refine (foldl_escalate_coreRules
    (ks.isKillSwitchActive (Js.orElse (some c.tenantId) c.opportunity.tenantId) "")
    (c.opportunity.declineType == .hard) (decide (c.opportunity.attemptCount ≥ (3 : ℕ)))
    (c.score.confidence == .low) (c.decision.decision != .act)).trans ?_
  rw [htenant]

/-- The verdict is `WAIT` exactly when nothing but an `ACT` decision is missing. -/
lemma verdict_eq_wait_iff (h : c.tenantId = c.opportunity.tenantId) :
    (evaluate (registerDefaultRules ks) c).verdict = .wait ↔
      Cleared ks c.opportunity c.score.confidence .act ∧ c.decision.decision ≠ .act := by
  rw [verdict_coreRules h]
  split_ifs with hblocked hlow hunplaced
  · have hnot : ¬ Cleared ks c.opportunity c.score.confidence .act := by
      rintro ⟨hkill, hhard, hattempts, -, -⟩
      simp only [hkill, beq_false_of_ne hhard, Bool.false_or, decide_eq_true_eq] at hblocked
      exact absurd hattempts (not_lt.mpr hblocked)
    simp [hnot]
  · simp_all [Cleared]
  · simp_all [Cleared]
  · simp_all [Cleared]

/-- A kill switch, a hard decline or the retry cap makes the verdict `BLOCKED`, and nothing else. -/
lemma verdict_eq_blocked_iff (h : c.tenantId = c.opportunity.tenantId) :
    (evaluate (registerDefaultRules ks) c).verdict = .blocked ↔
      ks.isKillSwitchActive c.opportunity.tenantId "" ∨ c.opportunity.declineType = .hard ∨
        3 ≤ c.opportunity.attemptCount := by
  have hblocked : (ks.isKillSwitchActive c.opportunity.tenantId "" ||
      c.opportunity.declineType == .hard || decide (c.opportunity.attemptCount ≥ (3 : ℕ))) = true ↔
      ks.isKillSwitchActive c.opportunity.tenantId "" ∨ c.opportunity.declineType = .hard ∨
        3 ≤ c.opportunity.attemptCount := by
    simp [or_assoc]
  rw [verdict_coreRules h, ← hblocked]
  split_ifs <;> simp_all

end AuthorityRuleRegistry

end CtrlRecovery
