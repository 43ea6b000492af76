import CtrlRecovery.Authority.Gate
import CtrlRecovery.Authority.VerdictSeverity
import CtrlRecovery.Security.WebhookValidator

/-!
# Views of an authority decision

Three routes show what the rules say about an opportunity. `GET /opportunities/:id/authority` reads the
stored checks and derives a verdict from the names of those that failed; the other two reuse the
evaluation that stores its checks and writes the status. The derived verdict knows the names of the core
rules only (`getAuthority_iff`), and a view is neutral only where nothing is evaluated, or where the
evaluation comes to what is stored (`unchanged_iff`).
-/

namespace CtrlRecovery

open Core OpportunityStatus Scorer Authority WebhookValidator OpportunityRepository

namespace Db

/-- The checks of an opportunity, in the order in which they were stored. -/
def getAuthorityChecksByOpportunityId (db : Db) (id : String) : List AuthorityCheck :=
  db.authorityChecks.filter fun check => check.opportunityId = id

/-- `getOpportunityById(id, tenantId)`. -/
def getOpportunityFor (db : Db) (id : String) (tenantId : Option String) :
    Option RecoveryOpportunity :=
  (db.getOpportunityById id).filter (inScope tenantId none)

end Db

namespace Authority

/-- `evaluateOpportunity` with the rules that are registered. -/
def evaluateOpportunityIn (registry : AuthorityRuleRegistry) (est : Estimator) (now : Timestamp)
    (db : Db) (opp : RecoveryOpportunity) (decision : Option AllocationDecision)
    (score : Option Score) : AuthorityEvaluationResult × Db :=
  let asked := match score with
    | some score => (score, db)
    | none       => getOrScore est db opp
  let effectiveDecision :=
    (decision <|> asked.2.getAllocationDecisionByOpportunityId opp.id).getD
      (unallocated opp.id "Unallocated opportunity pending market allocation run")
  let ruleResult := AuthorityRuleRegistry.evaluate registry
    { opportunity := opp, score := asked.1, decision := effectiveDecision, tenantId := opp.tenantId }
  ({ opportunityId := opp.id
     verdict := ruleResult.verdict
     checks := ruleResult.checks
     summaryReason := ruleResult.summaryReason },
    (persistChecks asked.2 opp.id ruleResult.checks now).updateStatus opp.id
      ruleResult.suggestedStatus)

lemma evaluateOpportunityIn_default (ks : KillSwitches) :
    evaluateOpportunityIn (AuthorityRuleRegistry.registerDefaultRules ks) =
      evaluateOpportunity ks := rfl

end Authority

namespace AuthorityView

/-! ### The routes -/

/-- A failed check of a name. -/
def failed (checks : List AuthorityCheck) (name : String) : Option AuthorityCheck :=
  checks.find? fun c => c.checkName == name && !c.passed

/-- The verdict that is derived from stored checks, and its reason. -/
def derive (checks : List AuthorityCheck) : AuthorityVerdict × String :=
  let hardFail := failed checks "hard_decline_check"
  let retryCapFail := failed checks "retry_cap_check"
  let killSwitchFail := failed checks "kill_switch_check"
  let confidenceFail := failed checks "confidence_recheck"
  let capacityFail := failed checks "capacity_recheck"
  match (hardFail.or retryCapFail).or killSwitchFail with
  | some check => (.blocked, check.reason)
  | none       =>
    match confidenceFail with
    | some check => (.abstain, check.reason)
    | none       =>
      match capacityFail with
      | some check => (.wait, check.reason)
      | none       => (.authorized, "all deterministic authority and compliance checks passed")

structure ChecklistItem where
  checkName : String
  passed : Bool
  symbol : String
  reason : String
  deriving DecidableEq, Repr

structure AuthorityResponse where
  opportunityId : String
  amountPaise : ℚ
  currency : String
  declineType : DeclineType
  reasonCode : String
  attemptCount : ℚ
  verdict : AuthorityVerdict
  status : OpportunityStatus
  summaryReason : String
  allPassed : Bool
  checklist : List ChecklistItem
  deriving DecidableEq, Repr

def authorityResponse (opp : RecoveryOpportunity) (verdict : AuthorityVerdict)
    (summaryReason : String) (checks : List AuthorityCheck) : AuthorityResponse where
  opportunityId := opp.id
  amountPaise := opp.amountPaise
  currency := opp.currency
  declineType := opp.declineType
  reasonCode := opp.reasonCode
  attemptCount := opp.attemptCount
  verdict := verdict
  status := opp.status
  summaryReason := summaryReason
  allPassed := checks.all (·.passed)
  checklist := checks.map fun c => ⟨c.checkName, c.passed, if c.passed then "✓" else "✗", c.reason⟩

/-- What the routes have at hand: the rules, the estimator and the clock. -/
structure Services where
  registry : AuthorityRuleRegistry
  est : Estimator
  now : Timestamp

section Routes

variable (services : Services) (db : Db)

/-- The opportunity that a request names. -/
def requested (tenantId : Option String) (oppId : String) : Except Rejection RecoveryOpportunity :=
  if oppId = "" then .error ⟨400, "Missing opportunity ID"⟩
  else match db.getOpportunityFor oppId tenantId with
    | some opp => .ok opp
    | none     => .error ⟨404, "Opportunity not found"⟩

/-- Evaluate an opportunity with its stored score and decision, or stand-ins for them. -/
def evaluateWithStored (reason : String) (opp : RecoveryOpportunity) :
    AuthorityEvaluationResult × Db :=
  let asked := getOrScore services.est db opp
  let decision := (asked.2.getAllocationDecisionByOpportunityId opp.id).getD
    (unallocated opp.id reason)
  evaluateOpportunityIn services.registry services.est services.now asked.2 opp (some decision)
    (some asked.1)

/-- `GET /opportunities/:id/authority`. -/
def getAuthority (tenantId : Option String) (oppId : String) :
    Except Rejection AuthorityResponse × Db :=
  match requested db tenantId oppId with
  | .error rejection => (.error rejection, db)
  | .ok opp          =>
    let checks := db.getAuthorityChecksByOpportunityId oppId
    if checks = [] then
      let evaluated := evaluateWithStored services db "Initial unallocated evaluation" opp
      (.ok (authorityResponse opp evaluated.1.verdict evaluated.1.summaryReason evaluated.1.checks),
        evaluated.2)
    else (.ok (authorityResponse opp (derive checks).1 (derive checks).2 checks), db)

/-- What the explanation of a decision is asked for with. -/
structure ExplainedFacts where
  opp : RecoveryOpportunity
  score : Score
  decision : Option AllocationDecision
  checks : List AuthorityCheck
  deriving DecidableEq, Repr

/-- `GET /opportunities/:id/explain`, up to the request to the language model. -/
def handleExplainRequest (tenantId : Option String) (oppId : String) :
    Except Rejection ExplainedFacts × Db :=
  match requested db tenantId oppId with
  | .error rejection => (.error rejection, db)
  | .ok opp          =>
    let asked := getOrScore services.est db opp
    let decision := asked.2.getAllocationDecisionByOpportunityId oppId
    let checks := asked.2.getAuthorityChecksByOpportunityId oppId
    if decision = none ∨ checks = [] then
      let evaluated := evaluateOpportunityIn services.registry services.est services.now asked.2 opp
        (some (decision.getD (unallocated oppId "Unallocated evaluation"))) (some asked.1)
      (.ok ⟨opp, asked.1, decision, evaluated.1.checks⟩, evaluated.2)
    else (.ok ⟨opp, asked.1, decision, checks⟩, asked.2)

/-- `GET /authority/evaluate/:id`. -/
def handleEvaluateSingleOpportunity (tenantId : Option String) (oppId : String) :
    Except Rejection AuthorityEvaluationResult × Db :=
  match requested db tenantId oppId with
  | .error rejection => (.error rejection, db)
  | .ok opp          =>
    let score := db.getScoreByOpportunityId oppId
    let decision := db.getAllocationDecisionByOpportunityId oppId
    let evaluated := evaluateOpportunityIn services.registry services.est services.now db opp decision
      score
    (.ok evaluated.1, evaluated.2)

end Routes

/-! ### Stored checks -/

section Stored

variable {db : Db} {id : String} {checks : List AuthorityCheck} {now : Timestamp}

lemma authorityChecks_persistChecks : (persistChecks db id checks now).authorityChecks =
    (db.clearAuthorityChecksForOpportunity id).authorityChecks ++ checks := by
  rw [persistChecks]
  generalize db.clearAuthorityChecksForOpportunity id = cleared
  induction checks generalizing cleared with
  | nil => exact (List.append_nil _).symm
  | cons check checks ih =>
    rw [List.foldl_cons, ih, Db.insertAuthorityCheck_authorityChecks, List.append_assoc,
      List.singleton_append]

lemma getAuthorityChecks_persistChecks (h : ∀ check ∈ checks, check.opportunityId = id) :
    (persistChecks db id checks now).getAuthorityChecksByOpportunityId id = checks := by
  have hcleared : (db.clearAuthorityChecksForOpportunity id).getAuthorityChecksByOpportunityId id =
      [] := by
    simp [Db.getAuthorityChecksByOpportunityId, Db.clearAuthorityChecksForOpportunity,
      List.filter_filter]
  rw [Db.getAuthorityChecksByOpportunityId, authorityChecks_persistChecks, List.filter_append,
    ← Db.getAuthorityChecksByOpportunityId, hcleared, List.nil_append,
    List.filter_eq_self.mpr fun check hcheck => decide_eq_true (h check hcheck)]

end Stored

/-! ### The derived verdict -/

/-- The verdict that the route gives to a failed check of a name. -/
def named (name : String) : AuthorityVerdict :=
  if name = "hard_decline_check" ∨ name = "retry_cap_check" ∨ name = "kill_switch_check" then .blocked
  else if name = "confidence_recheck" then .abstain
  else if name = "capacity_recheck" then .wait
  else .authorized

section Derived

variable {checks : List AuthorityCheck}

/-- A check failed whose name the route gives this verdict to. -/
def Shown (checks : List AuthorityCheck) (verdict : AuthorityVerdict) : Prop :=
  ∃ check ∈ checks, check.passed = false ∧ named check.checkName = verdict

instance (verdict : AuthorityVerdict) : Decidable (Shown checks verdict) :=
  inferInstanceAs (Decidable (∃ check ∈ checks, check.passed = false ∧
    named check.checkName = verdict))

lemma isSome_failed_iff {name : String} : (failed checks name).isSome ↔
    ∃ check ∈ checks, check.passed = false ∧ check.checkName = name := by
  simp [failed, List.find?_isSome, and_comm]

lemma named_eq_blocked_iff {name : String} : named name = .blocked ↔
    name = "hard_decline_check" ∨ name = "retry_cap_check" ∨ name = "kill_switch_check" := by
  rw [named]
  split_ifs with hblocked <;> simp [hblocked]

lemma named_eq_abstain_iff {name : String} : named name = .abstain ↔ name = "confidence_recheck" := by
  rw [named]
  split_ifs with hblocked habstain
  · rcases hblocked with rfl | rfl | rfl <;> decide
  · simp [habstain]
  · simp [habstain]
  · simp [habstain]

lemma named_eq_wait_iff {name : String} : named name = .wait ↔ name = "capacity_recheck" := by
  rw [named]
  split_ifs with hblocked habstain hwait
  · rcases hblocked with rfl | rfl | rfl <;> decide
  · rw [habstain]
    decide
  · simp [hwait]
  · simp [hwait]

lemma derive_fst (checks : List AuthorityCheck) : (derive checks).1 =
    if Shown checks .blocked then .blocked else if Shown checks .abstain then .abstain
    else if Shown checks .wait then .wait else .authorized := by
  have hblocked : (((failed checks "hard_decline_check").or (failed checks "retry_cap_check")).or
      (failed checks "kill_switch_check")).isSome ↔ Shown checks .blocked := by
    simp only [Option.isSome_or, Bool.or_eq_true, isSome_failed_iff, Shown, named_eq_blocked_iff,
      and_or_left, exists_or, or_assoc]
  have habstain : (failed checks "confidence_recheck").isSome ↔ Shown checks .abstain := by
    simp only [isSome_failed_iff, Shown, named_eq_abstain_iff]
  have hwait : (failed checks "capacity_recheck").isSome ↔ Shown checks .wait := by
    simp only [isSome_failed_iff, Shown, named_eq_wait_iff]
  simp only [derive, ← hblocked, ← habstain, ← hwait]
  cases ((failed checks "hard_decline_check").or (failed checks "retry_cap_check")).or
      (failed checks "kill_switch_check") with
  | some check => rfl
  | none =>
    cases failed checks "confidence_recheck" with
    | some check => rfl
    | none => cases failed checks "capacity_recheck" <;> rfl

/-- The derived verdict is as severe as each of the failures is by its name. -/
lemma severity_named_le {check : AuthorityCheck} (hcheck : check ∈ checks)
    (hfail : check.passed = false) :
    (named check.checkName).severity ≤ (derive checks).1.severity := by
  have hshown : Shown checks (named check.checkName) := ⟨check, hcheck, hfail, rfl⟩
  rw [derive_fst]
  cases hnamed : named check.checkName with
  | authorized => exact Nat.zero_le _
  | blocked =>
    rw [hnamed] at hshown
    rw [if_pos hshown]
  | abstain =>
    rw [hnamed] at hshown
    rw [if_pos hshown]
    split_ifs <;> decide
  | wait =>
    rw [hnamed] at hshown
    rw [if_pos hshown]
    split_ifs <;> decide

lemma derive_fst_eq_or (checks : List AuthorityCheck) :
    (derive checks).1 = .authorized ∨ Shown checks (derive checks).1 := by
  rw [derive_fst]
  split_ifs with hblocked habstain hwait
  · exact .inr hblocked
  · exact .inr habstain
  · exact .inr hwait
  · exact .inl rfl

end Derived

/-! ### The view of an evaluation -/

section Evaluation

variable {registry : AuthorityRuleRegistry} {c : AuthorityRuleContext}

open AuthorityRuleRegistry

/-- Of the rules that fail, the names are as severe as the suggestions, and not all of them are unknown
to the route. -/
structure Matched (registry : AuthorityRuleRegistry) (c : AuthorityRuleContext) : Prop where
  suggested : ∀ rule ∈ registry.rows, Fails c rule → ∃ other ∈ registry.rows, Fails c other ∧
    (suggestion c rule).severity ≤ (named other.id).severity
  shown : ∀ rule ∈ registry.rows, Fails c rule → ∃ other ∈ registry.rows, Fails c other ∧
    (named rule.id).severity ≤ (suggestion c other).severity
  known : ∀ rule ∈ registry.rows, Fails c rule → ∃ other ∈ registry.rows, Fails c other ∧
    named other.id ≠ .authorized

lemma exists_rule_of_failed {check : AuthorityCheck} (hcheck : check ∈ (evaluate registry c).checks)
    (hfail : check.passed = false) :
    ∃ rule ∈ registry.rows, Fails c rule ∧ rule.id = check.checkName := by
  obtain ⟨rule, hrule, rfl⟩ := List.mem_map.mp (checks_perm.mem_iff.mp hcheck)
  exact ⟨rule, hrule, by simpa [Fails, checkOf] using hfail, rfl⟩

lemma all_passed_iff : (∀ check ∈ (evaluate registry c).checks, check.passed = true) ↔
    ∀ rule ∈ registry.rows, ¬ Fails c rule := by
  constructor
  · intro hall rule hrule hfail
    exact hfail (hall _ (checks_perm.mem_iff.mpr (List.mem_map_of_mem (f := checkOf c) hrule)))
  · intro hnone check hcheck
    obtain ⟨rule, hrule, rfl⟩ := List.mem_map.mp (checks_perm.mem_iff.mp hcheck)
    exact not_not.mp (hnone rule hrule)

lemma severity_named_rule_le {rule : AuthorityRule} (hrule : rule ∈ registry.rows)
    (hfail : Fails c rule) :
    (named rule.id).severity ≤ (derive (evaluate registry c).checks).1.severity :=
  severity_named_le (checks_perm.mem_iff.mpr (List.mem_map_of_mem (f := checkOf c) hrule))
    (by simpa [Fails, checkOf] using hfail)

lemma derive_cases (registry : AuthorityRuleRegistry) (c : AuthorityRuleContext) :
    (derive (evaluate registry c).checks).1 = .authorized ∨ ∃ rule ∈ registry.rows, Fails c rule ∧
      named rule.id = (derive (evaluate registry c).checks).1 := by
  rcases derive_fst_eq_or (evaluate registry c).checks with h | ⟨check, hcheck, hfail, hnamed⟩
  · exact .inl h
  · obtain ⟨rule, hrule, hfails, hid⟩ := exists_rule_of_failed hcheck hfail
    exact .inr ⟨rule, hrule, hfails, hid ▸ hnamed⟩

/-- The derived verdict is that of the evaluation, and authorized only where every check passed,
exactly when the names of the failing rules match what they suggest. -/
lemma matched_of_derive_eq
    (heq : (derive (evaluate registry c).checks).1 = (evaluate registry c).verdict)
    (hpassed : (derive (evaluate registry c).checks).1 = .authorized →
      ∀ rule ∈ registry.rows, ¬ Fails c rule) : Matched registry c := by
  have hdecided : (∃ rule ∈ registry.rows, Fails c rule) →
      ∃ other ∈ registry.rows, Fails c other ∧
        named other.id = (derive (evaluate registry c).checks).1 := by
    rintro ⟨rule, hrule, hfail⟩
    exact (derive_cases registry c).resolve_left fun h => hpassed h rule hrule hfail
  constructor
  · intro rule hrule hfail
    obtain ⟨other, hother, hfails, hnamed⟩ := hdecided ⟨rule, hrule, hfail⟩
    refine ⟨other, hother, hfails, ?_⟩
    rw [hnamed, heq]
    exact severity_suggestion_le hrule hfail
  · intro rule hrule hfail
    have hne : (evaluate registry c).verdict ≠ .authorized :=
      fun h => hpassed (heq.trans h) rule hrule hfail
    obtain ⟨other, hother, hfails, hsuggested, -⟩ := (evaluate_cases registry c).resolve_left hne
    refine ⟨other, hother, hfails, ?_⟩
    rw [hsuggested, ← heq]
    exact severity_named_rule_le hrule hfail
  · intro rule hrule hfail
    obtain ⟨other, hother, hfails, hnamed⟩ := hdecided ⟨rule, hrule, hfail⟩
    exact ⟨other, hother, hfails, fun h => hpassed (hnamed.symm.trans h) rule hrule hfail⟩

lemma Matched.derive_eq (hmatched : Matched registry c) :
    (derive (evaluate registry c).checks).1 = (evaluate registry c).verdict := by
  refine AuthorityVerdict.severity_injective (le_antisymm ?_ ?_)
  · rcases derive_cases registry c with h | ⟨rule, hrule, hfail, hnamed⟩
    · rw [h]
      exact Nat.zero_le _
    · obtain ⟨other, hother, hfails, hle⟩ := hmatched.shown rule hrule hfail
      exact hnamed ▸ hle.trans (severity_suggestion_le hother hfails)
  · rcases evaluate_cases registry c with h | ⟨rule, hrule, hfail, hsuggested, -⟩
    · rw [h]
      exact Nat.zero_le _
    · obtain ⟨other, hother, hfails, hle⟩ := hmatched.suggested rule hrule hfail
      exact hsuggested ▸ hle.trans (severity_named_rule_le hother hfails)

lemma derive_eq_iff_matched :
    ((derive (evaluate registry c).checks).1 = (evaluate registry c).verdict ∧
      ((derive (evaluate registry c).checks).1 = .authorized →
        ∀ check ∈ (evaluate registry c).checks, check.passed = true)) ↔ Matched registry c := by
  rw [all_passed_iff]
  refine ⟨fun ⟨heq, hpassed⟩ => matched_of_derive_eq heq hpassed, fun hmatched => ?_⟩
  refine ⟨hmatched.derive_eq, ?_⟩
  intro hauthorized rule hrule hfail
  obtain ⟨other, hother, hfails, hne⟩ := hmatched.known rule hrule hfail
  have hpos := AuthorityVerdict.severity_pos_iff.mpr hne
  have hle := severity_named_rule_le hother hfails
  rw [hauthorized] at hle
  exact absurd hle (not_le.mpr hpos)

/-- What an evaluation shows to the rules. -/
def ruleContext (est : Estimator) (db : Db) (opp : RecoveryOpportunity)
    (decision : Option AllocationDecision) (score : Option Score) : AuthorityRuleContext :=
  let asked := match score with
    | some score => (score, db)
    | none       => getOrScore est db opp
  { opportunity := opp
    score := asked.1
    decision := (decision <|> asked.2.getAllocationDecisionByOpportunityId opp.id).getD
      (unallocated opp.id "Unallocated opportunity pending market allocation run")
    tenantId := opp.tenantId }

lemma getAuthorityChecks_evaluateOpportunityIn (est : Estimator) (now : Timestamp) (db : Db)
    (opp : RecoveryOpportunity) (decision : Option AllocationDecision) (score : Option Score) :
    (evaluateOpportunityIn registry est now db opp decision score).2.getAuthorityChecksByOpportunityId
      opp.id = (evaluateOpportunityIn registry est now db opp decision score).1.checks := by
  have hids : ∀ check ∈ (evaluate registry (ruleContext est db opp decision score)).checks,
      check.opportunityId = opp.id := by
    intro check hcheck
    obtain ⟨rule, -, rfl⟩ := List.mem_map.mp (checks_perm.mem_iff.mp hcheck)
    rfl
  simp only [evaluateOpportunityIn, Db.getAuthorityChecksByOpportunityId,
    Db.updateStatus_authorityChecks]
  exact getAuthorityChecks_persistChecks hids

lemma evaluate_of_no_checks (h : (evaluate registry c).checks = []) (c' : AuthorityRuleContext) :
    registry.rows = [] ∧ (evaluate registry c').verdict = .authorized := by
  have hrows : registry.rows = [] := by
    have hperm : (evaluate registry c).checks.Perm (registry.rows.map (checkOf c)) := checks_perm
    rw [h] at hperm
    exact List.map_eq_nil_iff.mp hperm.nil_eq.symm
  refine ⟨hrows, (evaluate_cases registry c').resolve_right ?_⟩
  rintro ⟨rule, hrule, -⟩
  rw [hrows] at hrule
  cases hrule

/-- An evaluation whose checks are stored, seen by a later view: the verdict that is shown is the one
that was returned, and is `AUTHORIZED` only where every check passed, exactly when the names of the
failing rules match what they suggest. -/
theorem getAuthority_iff {est est' : Estimator} {now now' : Timestamp} {db later : Db}
    {opp row : RecoveryOpportunity} {decision : Option AllocationDecision} {score : Option Score}
    {tenantId : Option String} (hid : opp.id ≠ "")
    (hrow : later.getOpportunityFor opp.id tenantId = some row)
    (hchecks : later.getAuthorityChecksByOpportunityId opp.id =
      (evaluateOpportunityIn registry est now db opp decision score).1.checks) :
    (∃ view, (getAuthority ⟨registry, est', now'⟩ later tenantId opp.id).1 = .ok view ∧
      view.verdict = (evaluateOpportunityIn registry est now db opp decision score).1.verdict ∧
      (view.verdict = .authorized →
        ∀ check ∈ later.getAuthorityChecksByOpportunityId opp.id, check.passed = true)) ↔
      Matched registry (ruleContext est db opp decision score) := by
  have hrequested : requested later tenantId opp.id = .ok row := by
    rw [requested, if_neg hid, hrow]
  rw [hchecks]
  simp only [getAuthority, hrequested, hchecks]
  by_cases hnil : (evaluateOpportunityIn registry est now db opp decision score).1.checks = []
  · -- nothing was stored, so that there is no rule, and the view evaluates none
    obtain ⟨hrows, hverdict⟩ := evaluate_of_no_checks hnil (ruleContext est db opp decision score)
    rw [if_pos hnil]
    refine iff_of_true ⟨_, rfl, ?_, ?_⟩ ?_
    · exact (evaluate_of_no_checks hnil _).2.trans hverdict.symm
    · rw [hnil]
      exact fun _ check hcheck => absurd hcheck List.not_mem_nil
    · constructor <;> simp [hrows]
  · rw [if_neg hnil]
    refine Iff.trans ?_ derive_eq_iff_matched
    simp only [Except.ok.injEq, exists_eq_left', authorityResponse]
    rfl

/-- The names of the default rules match what they suggest. -/
lemma matched_registerDefaultRules (ks : KillSwitches) (c : AuthorityRuleContext) :
    Matched (registerDefaultRules ks) c := by
  have hnamed : ∀ rule ∈ (registerDefaultRules ks).rows,
      named rule.id = suggestion c rule ∧ named rule.id ≠ .authorized := by
    intro rule hrule
    have hactive : rule ∈ getActiveRules (registerDefaultRules ks) := mem_rank.mpr hrule
    rw [getActiveRules_default] at hactive
    simp only [List.mem_cons, List.not_mem_nil, or_false] at hactive
    rcases hactive with rfl | rfl | rfl | rfl | rfl <;> exact ⟨rfl, AuthorityVerdict.noConfusion⟩
  constructor
  · intro rule hrule hfail
    exact ⟨rule, hrule, hfail, (hnamed rule hrule).1 ▸ le_rfl⟩
  · intro rule hrule hfail
    exact ⟨rule, hrule, hfail, (hnamed rule hrule).1 ▸ le_rfl⟩
  · intro rule hrule hfail
    exact ⟨rule, hrule, hfail, (hnamed rule hrule).2⟩

/-- An allocated payment that the default rules clear. -/
def clearedPayment : RecoveryOpportunity := sampleOpportunity "pay_1" .allocated

def clearedDecision : AllocationDecision where
  opportunityId := "pay_1"
  decision := .act
  rankInBatch := 1
  shadowPricePaiseAtDecision := 0
  reason := "allocated"

def clearedScore : Score where
  opportunityId := "pay_1"
  naturalRecoveryProb := 1 / 10
  interventionRecoveryProb := 6 / 10
  incrementalProb := 1 / 2
  operationalCostPaise := 400
  fatigueCostPaise := 0
  expectedIncrementalValuePaise := 49600
  confidence := .medium

/-- The payment after its evaluation. -/
def clearedEvaluation : AuthorityEvaluationResult × Db :=
  evaluateOpportunityIn (registerDefaultRules .off) .sample 5000 (.ofRows [clearedPayment] [])
    clearedPayment (some clearedDecision) (some clearedScore)

theorem getAuthority_cleared :
    ∃ view, (getAuthority ⟨registerDefaultRules .off, .sample, 6000⟩ clearedEvaluation.2 none
        clearedPayment.id).1 = .ok view ∧ view.verdict = clearedEvaluation.1.verdict ∧
      (view.verdict = .authorized → ∀ check ∈
        clearedEvaluation.2.getAuthorityChecksByOpportunityId clearedPayment.id,
        check.passed = true) := by
  have hrow : clearedEvaluation.2.getOpportunityFor clearedPayment.id none =
      some (clearedPayment.withStatus .authorized) := by decide
  exact (getAuthority_iff (by decide) hrow (getAuthorityChecks_evaluateOpportunityIn ..)).mpr
    (matched_registerDefaultRules _ _)

/-- The default rules and the rule on the pacing of retries, at the time of a second attempt. -/
def pacedRules : AuthorityRuleRegistry :=
  (registerDefaultRules .off).put (coolOffWindowRule 24 1000)

def pacedPayment : RecoveryOpportunity := { clearedPayment with attemptCount := 2 }

def pacedEvaluation : AuthorityEvaluationResult × Db :=
  evaluateOpportunityIn pacedRules .sample 1000 (.ofRows [pacedPayment] []) pacedPayment
    (some clearedDecision) (some clearedScore)

/-- The evaluation waits for the pacing of retries, and the view of its checks is `AUTHORIZED`. -/
theorem not_getAuthority_paced : pacedEvaluation.1.verdict = .wait ∧
    (getAuthority ⟨pacedRules, .sample, 1000⟩ pacedEvaluation.2 none "pay_1").1.map (·.verdict) =
      .ok .authorized ∧
    ∃ check ∈ pacedEvaluation.2.getAuthorityChecksByOpportunityId "pay_1",
      check.passed = false := by
  refine ⟨by decide +kernel, by decide +kernel, by decide +kernel⟩

end Evaluation

/-! ### What a view leaves unchanged -/

/-- The routes that show a decision. -/
inductive View
  | authority
  | explain
  | evaluate
  deriving DecidableEq, Repr

/-- The database after a request. -/
def View.after (services : Services) (db : Db) (tenantId : Option String) (oppId : String) :
    View → Db
  | .authority => (getAuthority services db tenantId oppId).2
  | .explain   => (handleExplainRequest services db tenantId oppId).2
  | .evaluate  => (handleEvaluateSingleOpportunity services db tenantId oppId).2

/-- What is stored about an opportunity and its decision. -/
structure Unchanged (db db' : Db) (id : String) : Prop where
  status : db'.statusOf id = db.statusOf id
  decision : db'.getAllocationDecisionByOpportunityId id = db.getAllocationDecisionByOpportunityId id
  record : db'.getExecutionRecordByOpportunityId id = db.getExecutionRecordByOpportunityId id
  checks : db'.getAuthorityChecksByOpportunityId id = db.getAuthorityChecksByOpportunityId id

/-- The answer of the rules is what is stored already: no first score moves the opportunity, the guard
refuses the suggested status, and the checks are the stored ones. -/
structure Settled (ks : KillSwitches) (est : Estimator) (reason : String) (db : Db)
    (opp : RecoveryOpportunity) : Prop where
  scored : scoringWrites db opp = []
  refused : guardAccepts opp.status (storedAnswer ks est reason db opp).suggestedStatus = false
  checks : (storedAnswer ks est reason db opp).checks =
    db.getAuthorityChecksByOpportunityId opp.id

/-- The condition under which a view of an opportunity is neutral. -/
def Neutral (ks : KillSwitches) (est : Estimator) (db : Db) (opp : RecoveryOpportunity) :
    View → Prop
  | .authority => db.getAuthorityChecksByOpportunityId opp.id ≠ []
  | .explain   =>
    if db.getAllocationDecisionByOpportunityId opp.id = none ∨
        db.getAuthorityChecksByOpportunityId opp.id = [] then
      Settled ks est "Unallocated evaluation" db opp
    else scoringWrites db opp = []
  | .evaluate  => Settled ks est "Unallocated opportunity pending market allocation run" db opp

section Neutrality

variable {ks : KillSwitches} {est : Estimator} {now : Timestamp} {reason : String} {db : Db}
  {opp : RecoveryOpportunity} {tenantId : Option String} {oppId : String}

lemma nextStatus_eq_self_iff {current status : OpportunityStatus} :
    nextStatus current status = current ↔ guardAccepts current status = false := by
  cases current <;> cases status <;> decide

lemma statusAfter_evaluationWrites_iff :
    statusAfter (evaluationWrites ks est reason db opp) opp.id opp.status = opp.status ↔
      scoringWrites db opp = [] ∧
        guardAccepts opp.status (storedAnswer ks est reason db opp).suggestedStatus = false := by
  rw [evaluationWrites, statusAfter_append, statusAfter_cons, statusAfter_nil, if_pos rfl,
    ← nextStatus_eq_self_iff, scoringWrites]
  split_ifs with hfirst
  · -- the status is now `scored`, from where no verdict leads back
    rw [statusAfter_cons, if_pos rfl, statusAfter_nil, hfirst.2, storedAnswer_suggestedStatus]
    dsimp only
    cases (storedAnswer ks est reason db opp).verdict <;> decide
  · simp

lemma statusOf_getOrScore_iff (hrow : db.getOpportunityById opp.id = some opp) :
    (getOrScore est db opp).2.statusOf opp.id = db.statusOf opp.id ↔ scoringWrites db opp = [] := by
  have hstatus : db.statusOf opp.id = some opp.status := by rw [Db.statusOf, hrow, Option.map_some]
  rw [(sameRows_getOrScore est db opp).statusOf, Db.statusOf_writeStatuses, hstatus,
    Option.map_some, Option.some_inj, scoringWrites]
  split_ifs with hfirst
  · rw [statusAfter_cons, if_pos rfl, statusAfter_nil, hfirst.2]
    dsimp only
    decide
  · simp

lemma unchanged_evaluateStored_iff (hrow : db.getOpportunityById opp.id = some opp) :
    Unchanged db (evaluateStored ks est now reason db opp).2 opp.id ↔
      Settled ks est reason db opp := by
  have hstatus : db.statusOf opp.id = some opp.status := by rw [Db.statusOf, hrow, Option.map_some]
  have hafter : (evaluateStored ks est now reason db opp).2.statusOf opp.id = db.statusOf opp.id ↔
      scoringWrites db opp = [] ∧
        guardAccepts opp.status (storedAnswer ks est reason db opp).suggestedStatus = false := by
    rw [(sameRows_evaluateStored ks est now reason (hrow ▸ rfl)).statusOf,
      Db.statusOf_writeStatuses, hstatus, Option.map_some, Option.some_inj,
      statusAfter_evaluationWrites_iff]
  have hchecks : (evaluateStored ks est now reason db opp).2.getAuthorityChecksByOpportunityId
      opp.id = (storedAnswer ks est reason db opp).checks := by
    rw [evaluateStored_snd, Db.getAuthorityChecksByOpportunityId, Db.updateStatus_authorityChecks,
      ← Db.getAuthorityChecksByOpportunityId]
    refine getAuthorityChecks_persistChecks fun check hcheck => ?_
    rw [storedAnswer] at hcheck
    exact opportunityId_of_mem_checks hcheck
  constructor
  · intro h
    obtain ⟨hscored, hrefused⟩ := hafter.mp h.status
    exact ⟨hscored, hrefused, hchecks.symm.trans h.checks⟩
  · intro h
    exact
      { status := hafter.mpr ⟨h.scored, h.refused⟩
        decision := by
          rw [Db.getAllocationDecisionByOpportunityId, evaluateStored_allocationDecisions]
          rfl
        record := by
          rw [Db.getExecutionRecordByOpportunityId, evaluateStored_executionRecords]
          rfl
        checks := hchecks.trans h.checks }

lemma unchanged_getOrScore_iff (hrow : db.getOpportunityById opp.id = some opp) :
    Unchanged db (getOrScore est db opp).2 opp.id ↔ scoringWrites db opp = [] := by
  refine ⟨fun h => (statusOf_getOrScore_iff hrow).mp h.status, fun h => ?_⟩
  exact
    { status := (statusOf_getOrScore_iff hrow).mpr h
      decision := by
        rw [Db.getAllocationDecisionByOpportunityId, getOrScore_allocationDecisions]
        rfl
      record := by
        rw [Db.getExecutionRecordByOpportunityId, getOrScore_executionRecords]
        rfl
      checks := by
        rw [Db.getAuthorityChecksByOpportunityId, getOrScore_authorityChecks]
        rfl }

/-- An evaluation that is passed what is stored looks up the same. -/
lemma evaluateOpportunity_stored : evaluateOpportunity ks est now db opp
      (db.getAllocationDecisionByOpportunityId opp.id) (db.getScoreByOpportunityId opp.id) =
    evaluateStored ks est now "Unallocated opportunity pending market allocation run" db opp := by
  have hscore (decision : Option AllocationDecision) :
      evaluateOpportunity ks est now db opp decision (db.getScoreByOpportunityId opp.id) =
        evaluateOpportunity ks est now (getOrScore est db opp).2 opp decision
          (some (getOrScore est db opp).1) := by
    cases hstored : db.getScoreByOpportunityId opp.id with
    | some score => rw [getOrScore, hstored]
    | none => rfl
  have hdecision : (getOrScore est db opp).2.getAllocationDecisionByOpportunityId opp.id =
      db.getAllocationDecisionByOpportunityId opp.id := by
    rw [Db.getAllocationDecisionByOpportunityId, getOrScore_allocationDecisions]
    rfl
  rw [hscore, evaluateStored, ← hdecision]
  simp only [evaluateOpportunity]
  cases (getOrScore est db opp).2.getAllocationDecisionByOpportunityId opp.id <;> rfl

lemma evaluateWithStored_default : evaluateWithStored
      ⟨AuthorityRuleRegistry.registerDefaultRules ks, est, now⟩ db reason opp =
    evaluateStored ks est now reason db opp := by
  rw [evaluateStored, evaluateWithStored, evaluateOpportunityIn_default]

lemma storedAnswer_checks_ne_nil : (storedAnswer ks est reason db opp).checks ≠ [] := by
  rw [storedAnswer, evaluateRules, AuthorityRuleRegistry.evaluate,
    AuthorityRuleRegistry.getActiveRules_default]
  exact List.cons_ne_nil _ _

lemma requested_ok (h : requested db tenantId oppId = .ok opp) :
    opp.id = oppId ∧ db.getOpportunityById opp.id = some opp := by
  rw [requested] at h
  split_ifs at h
  cases hfound : db.getOpportunityFor oppId tenantId with
  | none =>
    rw [hfound] at h
    cases h
  | some row =>
    rw [hfound] at h
    cases h
    have hrow := (Option.filter_eq_some_iff.mp hfound).1
    have hid := Db.id_of_getOpportunityById hrow
    exact ⟨hid, hid ▸ hrow⟩

/-- A view of an opportunity that it finds leaves what is stored about it unchanged exactly when it is
neutral. -/
lemma unchanged_of_requested_iff (view : View) (ks : KillSwitches) (est : Estimator)
    (now : Timestamp) (h : requested db tenantId opp.id = .ok opp)
    (hrow : db.getOpportunityById opp.id = some opp) :
    Unchanged db (view.after ⟨AuthorityRuleRegistry.registerDefaultRules ks, est, now⟩ db tenantId
      opp.id) opp.id ↔ Neutral ks est db opp view := by
  cases view with
  | authority =>
    simp only [View.after, getAuthority, h, Neutral]
    split_ifs with hnil
    · -- the evaluation stores its checks where there was none
      rw [evaluateWithStored_default, unchanged_evaluateStored_iff hrow]
      refine iff_of_false (fun hsettled => ?_) (not_not.mpr hnil)
      exact storedAnswer_checks_ne_nil (hsettled.checks.trans hnil)
    · exact iff_of_true ⟨rfl, rfl, rfl, rfl⟩ hnil
  | explain =>
    have hdecision : (getOrScore est db opp).2.getAllocationDecisionByOpportunityId opp.id =
        db.getAllocationDecisionByOpportunityId opp.id := by
      rw [Db.getAllocationDecisionByOpportunityId, getOrScore_allocationDecisions]
      rfl
    have hchecks : (getOrScore est db opp).2.getAuthorityChecksByOpportunityId opp.id =
        db.getAuthorityChecksByOpportunityId opp.id := by
      rw [Db.getAuthorityChecksByOpportunityId, getOrScore_authorityChecks]
      rfl
    simp only [View.after, handleExplainRequest, h, evaluateOpportunityIn_default, Neutral, hchecks,
      hdecision]
    split_ifs with hmissing
    · rw [← unchanged_evaluateStored_iff hrow, evaluateStored, hdecision]
    · exact unchanged_getOrScore_iff hrow
  | evaluate =>
    simp only [View.after, handleEvaluateSingleOpportunity, h, evaluateOpportunityIn_default, Neutral,
      evaluateOpportunity_stored]
    exact unchanged_evaluateStored_iff hrow

end Neutrality

/-- A view leaves the status, the decision, the execution record and the checks of the opportunity
unchanged exactly when it finds none, or is neutral for the one that it finds. -/
theorem unchanged_iff (view : View) (ks : KillSwitches) (est : Estimator) (now : Timestamp) (db : Db)
    (tenantId : Option String) (oppId : String) :
    Unchanged db (view.after ⟨AuthorityRuleRegistry.registerDefaultRules ks, est, now⟩ db tenantId
        oppId) oppId ↔
      ∀ opp, requested db tenantId oppId = .ok opp → Neutral ks est db opp view := by
  cases hrequested : requested db tenantId oppId with
  | error rejection =>
    have hsame : view.after ⟨AuthorityRuleRegistry.registerDefaultRules ks, est, now⟩ db tenantId
        oppId = db := by
      cases view <;> simp [View.after, getAuthority, handleExplainRequest,
        handleEvaluateSingleOpportunity, hrequested]
    rw [hsame]
    refine iff_of_true ⟨rfl, rfl, rfl, rfl⟩ fun opp h => ?_
    cases h
  | ok opp =>
    obtain ⟨rfl, hrow⟩ := requested_ok hrequested
    simp only [Except.ok.injEq, forall_eq']
    exact unchanged_of_requested_iff view ks est now hrequested hrow

/-- The allocated payment with its decision, before the gate has run. -/
def allocatedPayments : Db :=
  { Db.ofRows [clearedPayment] [] with allocationDecisions := .put .empty clearedDecision }

/-- A first look at the authority of the payment authorizes its execution. -/
theorem not_unchanged_first_view :
    ¬ Unchanged allocatedPayments (View.authority.after
      ⟨AuthorityRuleRegistry.registerDefaultRules .off, .sample, 5000⟩ allocatedPayments none "pay_1")
      "pay_1" := by
  intro h
  have hbefore : allocatedPayments.statusOf "pay_1" = some .allocated := by decide
  have hafter : (View.authority.after
      ⟨AuthorityRuleRegistry.registerDefaultRules .off, .sample, 5000⟩ allocatedPayments none
      "pay_1").statusOf "pay_1" = some .authorized := by decide +kernel
  have hstatus := h.status
  rw [hbefore, hafter] at hstatus
  cases hstatus

end AuthorityView

end CtrlRecovery
