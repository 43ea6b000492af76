import CtrlRecovery.Authority.RuleRegistry
import CtrlRecovery.Db.Sample

/-!
# The severest failure

Whatever the rules, their priorities and the order of their registration, an evaluation records one
check for each of them, and its verdict is the severest one that a failing rule suggests. A failing
rule may suggest `AUTHORIZED` as well, for which the evaluation has no branch: where all the failing
rules do, the verdict is `AUTHORIZED`, with the reason that all the checks passed. Nothing else
goes wrong (`accounted_iff`).
-/

namespace CtrlRecovery

open Core

/-- `BLOCKED > ABSTAIN > WAIT`; an authorization is not severe at all. -/
def AuthorityVerdict.severity : AuthorityVerdict → ℕ
  | .authorized => 0
  | .wait       => 1
  | .abstain    => 2
  | .blocked    => 3

lemma AuthorityVerdict.severity_injective : Function.Injective severity := by
  intro verdict verdict' h
  cases verdict <;> cases verdict' <;> first | rfl | cases h

lemma AuthorityVerdict.severity_pos_iff {verdict : AuthorityVerdict} :
    0 < verdict.severity ↔ verdict ≠ .authorized := by
  cases verdict <;> simp [severity]

namespace AuthorityRuleRegistry

/-! ### What is left standing -/

lemma Standing.severity_escalate (standing : Standing) {result : AuthorityRuleResult}
    (hfail : ¬ result.passed) :
    (standing.escalate result).verdict.severity =
      max standing.verdict.severity result.suggestedVerdictOnFailure.severity := by
  rw [escalate, if_neg hfail]
  cases hsuggested : result.suggestedVerdictOnFailure with
  | authorized => exact (max_eq_left (Nat.zero_le _)).symm
  | blocked => cases standing.verdict <;> rfl
  | abstain => cases hverdict : standing.verdict <;> simp [hverdict, AuthorityVerdict.severity]
  | wait => cases hverdict : standing.verdict <;> simp [hverdict, AuthorityVerdict.severity]

/-- The verdict, the status and the reason are what the result suggests for its failure. -/
def Standing.DecidedBy (standing : Standing) (result : AuthorityRuleResult) : Prop :=
  ¬ result.passed ∧ result.suggestedVerdictOnFailure = standing.verdict ∧
    result.suggestedStatusOnFailure = standing.status ∧ result.reason = standing.reason

/-- The results leave a standing as severe as each of their failures, which one of these failures
has decided unless nothing has changed. -/
lemma foldl_escalate (results : List AuthorityRuleResult) (standing : Standing) :
    standing.verdict.severity ≤ (results.foldl Standing.escalate standing).verdict.severity ∧
    (∀ result ∈ results, ¬ result.passed → result.suggestedVerdictOnFailure.severity ≤
      (results.foldl Standing.escalate standing).verdict.severity) ∧
    (results.foldl Standing.escalate standing = standing ∨
      ∃ result ∈ results, (results.foldl Standing.escalate standing).DecidedBy result) := by
  induction results generalizing standing with
  | nil => simp
  | cons result results ih =>
    obtain ⟨hle, hall, hdecided⟩ := ih (standing.escalate result)
    rw [List.foldl_cons]
    by_cases hpassed : result.passed
    · rw [Standing.escalate_of_passed hpassed] at hle hall hdecided ⊢
      refine ⟨hle, ?_, hdecided.imp_right fun ⟨r, hr, h⟩ => ⟨r, List.mem_cons_of_mem _ hr, h⟩⟩
      rw [List.forall_mem_cons]
      exact ⟨fun hfail => absurd hpassed hfail, hall⟩
    · rw [standing.severity_escalate hpassed, max_le_iff] at hle
      refine ⟨hle.1, List.forall_mem_cons.mpr ⟨fun _ => hle.2, hall⟩, ?_⟩
      rcases hdecided with heq | ⟨r, hr, h⟩
      · rw [heq]
        refine (standing.escalate_eq_or result).imp_right fun hnew => ?_
        exact ⟨result, List.mem_cons_self, by simp [Standing.DecidedBy, hpassed, hnew]⟩
      · exact .inr ⟨r, List.mem_cons_of_mem _ hr, h⟩

/-! ### Evaluations -/

variable (registry : AuthorityRuleRegistry) (c : AuthorityRuleContext)

def Fails (rule : AuthorityRule) : Prop := ¬ (rule.evaluate c).passed

instance (rule : AuthorityRule) : Decidable (Fails c rule) := inferInstanceAs (Decidable (¬ _))

def suggestion (rule : AuthorityRule) : AuthorityVerdict :=
  (rule.evaluate c).suggestedVerdictOnFailure

/-- The check that is recorded for a rule. -/
def checkOf (rule : AuthorityRule) : AuthorityCheck where
  opportunityId := c.opportunity.id
  checkName := rule.id
  passed := (rule.evaluate c).passed
  reason := (rule.evaluate c).reason

/-- What an evaluation owes to the rules of the registry. -/
structure Accounted : Prop where
  one_check_per_rule : (evaluate registry c).checks.Perm (registry.rows.map (checkOf c))
  authorized_iff : (evaluate registry c).verdict = .authorized ↔
    ∀ rule ∈ registry.rows, ¬ Fails c rule
  severest : ∀ rule ∈ registry.rows, Fails c rule →
    (suggestion c rule).severity ≤ (evaluate registry c).verdict.severity
  decided : (∃ rule ∈ registry.rows, Fails c rule) →
    ∃ rule ∈ registry.rows, Fails c rule ∧ suggestion c rule = (evaluate registry c).verdict ∧
      (rule.evaluate c).suggestedStatusOnFailure = (evaluate registry c).suggestedStatus
  any_order : ∀ other : AuthorityRuleRegistry, other.rows.Perm registry.rows →
    (evaluate other c).verdict = (evaluate registry c).verdict

variable {registry c}

lemma checks_perm : (evaluate registry c).checks.Perm (registry.rows.map (checkOf c)) :=
  (rank_perm (fun r : AuthorityRule => -r.priority) registry.rows).map (checkOf c)

lemma severity_suggestion_le {rule : AuthorityRule} (hrule : rule ∈ registry.rows)
    (hfail : Fails c rule) :
    (suggestion c rule).severity ≤ (evaluate registry c).verdict.severity := by
  have hresult : rule.evaluate c ∈ (getActiveRules registry).map fun r => r.evaluate c :=
    List.mem_map_of_mem (mem_rank.mpr hrule)
  exact (foldl_escalate _ allPassed).2.1 _ hresult hfail

/-- The verdict is that of all checks passed, unless a failing rule has decided it. -/
lemma evaluate_cases (registry : AuthorityRuleRegistry) (c : AuthorityRuleContext) :
    (evaluate registry c).verdict = .authorized ∨
      ∃ rule ∈ registry.rows, Fails c rule ∧ suggestion c rule = (evaluate registry c).verdict ∧
        (rule.evaluate c).suggestedStatusOnFailure = (evaluate registry c).suggestedStatus := by
  rcases (foldl_escalate ((getActiveRules registry).map fun r => r.evaluate c) allPassed).2.2 with
    heq | ⟨result, hresult, hfail, hverdict, hstatus, -⟩
  · left
    rw [evaluate, heq]
    rfl
  · right
    obtain ⟨rule, hrule, rfl⟩ := List.mem_map.mp hresult
    exact ⟨rule, mem_rank.mp hrule, hfail, hverdict, hstatus⟩

lemma severity_le_of_subset {other : AuthorityRuleRegistry} (h : other.rows ⊆ registry.rows) :
    (evaluate other c).verdict.severity ≤ (evaluate registry c).verdict.severity := by
  rcases evaluate_cases other c with heq | ⟨rule, hrule, hfail, hverdict, -⟩
  · rw [heq]
    exact Nat.zero_le _
  · rw [← hverdict]
    exact severity_suggestion_le (h hrule) hfail

/-- An evaluation accounts for all the rules exactly when nothing fails, or a failing rule suggests
another verdict than `AUTHORIZED`. -/
theorem accounted_iff (registry : AuthorityRuleRegistry) (c : AuthorityRuleContext) :
    Accounted registry c ↔ ((∃ rule ∈ registry.rows, Fails c rule) →
      ∃ rule ∈ registry.rows, Fails c rule ∧ suggestion c rule ≠ .authorized) := by
  constructor
  · rintro haccounted ⟨rule, hrule, hfail⟩
    obtain ⟨decider, hdecider, hfails, hverdict, -⟩ := haccounted.decided ⟨rule, hrule, hfail⟩
    refine ⟨decider, hdecider, hfails, fun hauthorized => ?_⟩
    rw [hverdict, haccounted.authorized_iff] at hauthorized
    exact hauthorized rule hrule hfail
  · intro hsevere
    have hwithheld : (∃ rule ∈ registry.rows, Fails c rule) →
        (evaluate registry c).verdict ≠ .authorized := by
      intro hfails
      obtain ⟨rule, hrule, hfail, hne⟩ := hsevere hfails
      rw [← AuthorityVerdict.severity_pos_iff] at hne ⊢
      exact hne.trans_le (severity_suggestion_le hrule hfail)
    exact
      { one_check_per_rule := checks_perm
        authorized_iff := by
          constructor
          · intro hverdict rule hrule hfail
            exact hwithheld ⟨rule, hrule, hfail⟩ hverdict
          · intro hpassed
            refine (evaluate_cases _ _).resolve_right ?_
            rintro ⟨rule, hrule, hfail, -⟩
            exact hpassed rule hrule hfail
        severest := fun rule hrule hfail => severity_suggestion_le hrule hfail
        decided := fun hfails => (evaluate_cases _ _).resolve_left (hwithheld hfails)
        any_order := fun other hperm => AuthorityVerdict.severity_injective
          (le_antisymm (severity_le_of_subset hperm.subset)
            (severity_le_of_subset hperm.symm.subset)) }

/-- A rule on the amount of a payment that suggests to authorize it all the same. -/
def highAmountAdvisory : AuthorityRule where
  id := "high_amount_advisory"
  name := "High Amount Advisory"
  priority := 50
  isBlocking := false
  evaluate c := ruleResult (decide (c.opportunity.amountPaise ≥ 50000)) "amount above 500 rupees"
    "amount is small" .authorized .authorized

/-- An allocated payment of ₹1000.00 that the default rules clear. -/
def clearedContext : AuthorityRuleContext where
  opportunity := sampleOpportunity "pay_1" .allocated
  score :=
    { opportunityId := "pay_1"
      naturalRecoveryProb := 1 / 10
      interventionRecoveryProb := 6 / 10
      incrementalProb := 1 / 2
      operationalCostPaise := 120
      fatigueCostPaise := 0
      expectedIncrementalValuePaise := 49880
      confidence := .high }
  decision :=
    { opportunityId := "pay_1"
      decision := .act
      rankInBatch := 1
      shadowPricePaiseAtDecision := 0
      reason := "allocated" }
  tenantId := "tenant_a"

/-- The check of the advisory rule fails, and the verdict is that all the checks passed. -/
theorem advisory_failure_authorized :
    ¬ Accounted ((registerDefaultRules .off).put highAmountAdvisory) clearedContext := by
  intro haccounted
  have hfails : Fails clearedContext highAmountAdvisory := by decide
  refine haccounted.authorized_iff.mp ?_ highAmountAdvisory (Table.mem_put.mpr (.inl rfl)) hfails
  decide

end AuthorityRuleRegistry

end CtrlRecovery
