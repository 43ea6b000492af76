import CtrlRecovery.Authority.Gate
import CtrlRecovery.Authority.VerdictSeverity
import CtrlRecovery.Economics.Calibration
import CtrlRecovery.Market.Specification

/-!
# Simulated scenarios

The scenario runner generates a batch of opportunities and puts it through a market of its own before
it asks the gate: it ranks what has a positive value, accepts as many as the capacity allows and
reports the value of the last accepted one as the shadow price. The production market does not rank
what is uncertain or held out, has a shadow price only where the capacity binds, and lets the gate
decide on what it defers as well.

A run reports what production does on the same batch exactly when none of these differences shows
(`agrees_iff`).
-/

namespace CtrlRecovery

open Core OpportunityStatus Scorer Market AuthorityRuleRegistry

/-! ### The gate with a registry -/

namespace Authority

/-- What the rules of a registry say about an opportunity. -/
def evaluateRulesOf (registry : AuthorityRuleRegistry) (opp : RecoveryOpportunity) (score : Score)
    (decision : AllocationDecision) : RuleEngineEvaluationResult :=
  evaluate registry
    { opportunity := opp, score := score, decision := decision, tenantId := opp.tenantId }

/-- Evaluate one opportunity with the rules that are registered. -/
def evaluateOpportunityOf (registry : AuthorityRuleRegistry) (est : Estimator) (now : Timestamp)
    (db : Db) (opp : RecoveryOpportunity) (decision : Option AllocationDecision)
    (score : Option Score) : AuthorityEvaluationResult × Db :=
  let asked := match score with
    | some score => (score, db)
    | none       => getOrScore est db opp
  let effectiveDecision :=
    (decision <|> asked.2.getAllocationDecisionByOpportunityId opp.id).getD
      (unallocated opp.id "Unallocated opportunity pending market allocation run")
  let ruleResult := evaluateRulesOf registry opp asked.1 effectiveDecision
  ({ opportunityId := opp.id
     verdict := ruleResult.verdict
     checks := ruleResult.checks
     summaryReason := ruleResult.summaryReason },
    (persistChecks asked.2 opp.id ruleResult.checks now).updateStatus opp.id
      ruleResult.suggestedStatus)

lemma evaluateOpportunityOf_registerDefaultRules (ks : KillSwitches) :
    evaluateOpportunityOf (registerDefaultRules ks) = evaluateOpportunity ks := rfl

/-- Evaluate a list of opportunities one after the other, with what is stored for them. -/
def evaluateEach (registry : AuthorityRuleRegistry) (est : Estimator) (now : Timestamp) :
    Db → List RecoveryOpportunity → List AuthorityEvaluationResult × Db
  | db, []          => ([], db)
  | db, opp :: opps =>
    let evaluated := evaluateOpportunityOf registry est now db opp none none
    let rest := evaluateEach registry est now evaluated.2 opps
    (evaluated.1 :: rest.1, rest.2)

end Authority

/-! ### The generator -/

namespace SyntheticDataGenerator

structure FailureReason where
  code : String
  declineType : DeclineType
  deriving DecidableEq, Repr

def failureReasons : List FailureReason :=
  [⟨"bad_request_payment_card_expired", .soft⟩, ⟨"payment_failed_insufficient_funds", .soft⟩,
    ⟨"bank_gateway_timeout", .soft⟩, ⟨"generic_decline", .soft⟩,
    ⟨"card_reported_lost_or_stolen", .hard⟩]

/-- What is drawn or read from the clock for one opportunity; the attempt number is drawn for a
batch only. -/
structure Draw where
  reasonIndex : Fin failureReasons.length
  amountPaise : ℕ
  attemptNumber : ℕ
  paymentId : String
  customerReference : String
  timestamp : Timestamp
  deriving DecidableEq, Repr

def Draw.selectedReason (draw : Draw) : FailureReason := failureReasons.get draw.reasonIndex

structure FailureEvent where
  paymentId : String
  amountPaise : ℕ
  failureCode : String
  failureType : DeclineType
  attemptNumber : ℕ
  customerReference : String
  occurredAt : Timestamp
  deriving DecidableEq, Repr

/-- A failure event; what the caller does not fix is drawn. -/
def generateFailureEvent (draw : Draw) (failureType : Option DeclineType)
    (failureCode : Option String) (amountPaise attemptNumber : Option ℕ) : FailureEvent where
  paymentId := draw.paymentId
  amountPaise := (amountPaise.filter (· ≠ 0)).getD draw.amountPaise
  failureCode := Js.orElse failureCode draw.selectedReason.code
  failureType := failureType.getD draw.selectedReason.declineType
  attemptNumber := (attemptNumber.filter (· ≠ 0)).getD 1
  customerReference := draw.customerReference
  occurredAt := draw.timestamp

/-- The opportunity of an event, under the tenant that all the simulated ones share. -/
def opportunityOf (id reasonCode : String) (declineType : DeclineType) (attemptCount : ℕ)
    (evt : FailureEvent) : RecoveryOpportunity where
  id := id
  source := .synthetic
  amountPaise := evt.amountPaise
  currency := "INR"
  reasonCode := reasonCode
  declineType := declineType
  attemptCount := attemptCount
  customerId := evt.customerReference
  createdAt := evt.occurredAt
  status := pending
  tenantId := "tenant_system_default"
  merchantId := ""
  environment := .test
  razorpayEventId := none

/-- One opportunity of a batch. -/
def generateOpportunity (draw : Draw) : RecoveryOpportunity :=
  let evt := generateFailureEvent draw none none (some draw.amountPaise) (some draw.attemptNumber)
  opportunityOf ("opp_" ++ evt.paymentId) (Js.orElse (some evt.failureCode) "generic_decline")
    evt.failureType evt.attemptNumber evt

end SyntheticDataGenerator

/-! ### The runner -/

inductive ScenarioType | balancedBatch | capacityStress | hardDeclineWave | counterfactualAB
  deriving DecidableEq, Repr

structure ScenarioOptions where
  count : Option ℕ
  capacity : Option ℕ
  deriving DecidableEq, Repr

structure CounterfactualLift where
  interventionArmRecoveryRate : ℚ
  controlArmNaturalRate : ℚ
  incrementalLift : ℚ
  isModelEstimated : Bool
  deriving DecidableEq, Repr

structure ScenarioRunResult where
  scenarioType : ScenarioType
  totalOpportunities : ℕ
  capacityLimit : ℕ
  allocatedCount : ℕ
  deferredCount : ℕ
  blockedCount : ℕ
  abstainedCount : ℕ
  shadowPricePaise : ℤ
  totalAtRiskPaise : ℚ
  totalAllocatedExpectedRevenuePaise : ℤ
  counterfactualLift : Option CounterfactualLift
  deriving DecidableEq, Repr

def ScenarioOptions.capacityLimit (options : ScenarioOptions) : ℕ :=
  (options.capacity.filter (· ≠ 0)).getD 5

namespace ScenarioRunner

open SyntheticDataGenerator

def batchSize (type : ScenarioType) (options : ScenarioOptions) : ℕ :=
  (options.count.filter (· ≠ 0)).getD (if type = .capacityStress then 20 else 10)

/-- The opportunity at an index of the batch. -/
def generated (type : ScenarioType) (i : ℕ) (draw : Draw) : RecoveryOpportunity :=
  match type with
  | .hardDeclineWave =>
    let evt := generateFailureEvent draw (some .hard) (some "card_reported_lost_or_stolen") none none
    opportunityOf ("opp_hard_" ++ toString i ++ "_" ++ toString draw.timestamp)
      (Js.orElse (some evt.failureCode) "card_reported_lost_or_stolen") .hard 1 evt
  | .capacityStress =>
    let evt := generateFailureEvent draw (some .soft) (some "bad_request_payment_card_expired")
      (some (200000 + i * 20000)) none
    opportunityOf ("opp_stress_" ++ toString i ++ "_" ++ toString draw.timestamp)
      (Js.orElse (some evt.failureCode) "bad_request_payment_card_expired") .soft 1 evt
  | .balancedBatch | .counterfactualAB => generateOpportunity draw

/-- The batch of a scenario, by what is drawn for each index. -/
def generatedBatch (type : ScenarioType) (options : ScenarioOptions) (draws : ℕ → Draw) :
    List RecoveryOpportunity :=
  (List.range (batchSize type options)).map fun i => generated type i (draws i)

/-- A scored opportunity. -/
abbrev ScoredPair := RecoveryOpportunity × Score

def scoredPair (est : Estimator) (opp : RecoveryOpportunity) : ScoredPair :=
  (opp, (calculateScore est opp).toScore)

def scoredPairs (est : Estimator) (batch : List RecoveryOpportunity) : List ScoredPair :=
  batch.map (scoredPair est)

def isPositive (pair : ScoredPair) : Bool := pair.2.expectedIncrementalValuePaise > 0

/-- The pairs of positive value, by value. -/
def positiveIven (pairs : List ScoredPair) : List ScoredPair :=
  rank (·.2.expectedIncrementalValuePaise) (pairs.filter isPositive)

/-- The value of the last accepted pair, whether or not the capacity binds. -/
def shadowPriceOf (accepted : List ScoredPair) : ℤ :=
  accepted.getLast?.elim 0 (·.2.expectedIncrementalValuePaise)

/-- The counters of the two loops over the gate. -/
structure Counters where
  allocatedCount : ℕ
  blockedCount : ℕ
  abstainedCount : ℕ
  totalAllocatedExpectedRevenuePaise : ℤ
  deriving DecidableEq, Repr

def Counters.zero : Counters := ⟨0, 0, 0, 0⟩

/-- Count the verdict on an accepted pair; `WAIT` is not counted. -/
def Counters.addAccepted (counters : Counters) (score : Score) : AuthorityVerdict → Counters
  | .authorized =>
    { counters with
      allocatedCount := counters.allocatedCount + 1
      totalAllocatedExpectedRevenuePaise :=
        counters.totalAllocatedExpectedRevenuePaise + score.expectedIncrementalValuePaise }
  | .blocked    => { counters with blockedCount := counters.blockedCount + 1 }
  | .abstain    => { counters with abstainedCount := counters.abstainedCount + 1 }
  | .wait       => counters

/-- Count the verdict on a pair without value. -/
def Counters.addNegative (counters : Counters) : AuthorityVerdict → Counters
  | .blocked => { counters with blockedCount := counters.blockedCount + 1 }
  | _        => { counters with abstainedCount := counters.abstainedCount + 1 }

def acceptDecision (shadowPricePaise : ℤ) (i : ℕ) (opp : RecoveryOpportunity) :
    AllocationDecision where
  opportunityId := opp.id
  decision := .act
  rankInBatch := i + 1
  shadowPricePaiseAtDecision := shadowPricePaise
  reason := "Accepted in simulation batch"

def negativeDecision (shadowPricePaise : ℤ) (opp : RecoveryOpportunity) : AllocationDecision where
  opportunityId := opp.id
  decision := .abstain
  rankInBatch := 999
  shadowPricePaiseAtDecision := shadowPricePaise
  reason := "Negative IVEN in simulation"

section Runs

variable (registry : AuthorityRuleRegistry) (est : Estimator) (now : Timestamp)

/-- The loop over the accepted pairs, from an index on. -/
def evaluateAccepted (shadowPricePaise : ℤ) : ℕ → Counters × Db → List ScoredPair → Counters × Db
  | _, state, []            => state
  | i, state, pair :: pairs =>
    let evaluated := Authority.evaluateOpportunityOf registry est now state.2 pair.1
      (some (acceptDecision shadowPricePaise i pair.1)) (some pair.2)
    evaluateAccepted shadowPricePaise (i + 1)
      (state.1.addAccepted pair.2 evaluated.1.verdict, evaluated.2) pairs

/-- The loop over the pairs without value. -/
def evaluateNegative (shadowPricePaise : ℤ) : Counters × Db → List ScoredPair → Counters × Db
  | state, []            => state
  | state, pair :: pairs =>
    let evaluated := Authority.evaluateOpportunityOf registry est now state.2 pair.1
      (some (negativeDecision shadowPricePaise pair.1)) (some pair.2)
    evaluateNegative shadowPricePaise (state.1.addNegative evaluated.1.verdict, evaluated.2) pairs

/-- The rates of the two arms of an A/B scenario. -/
def counterfactualLift (type : ScenarioType) (pairs : List ScoredPair) :
    Option CounterfactualLift :=
  let avgInterventionProb := (pairs.map (·.2.interventionRecoveryProb)).sum / pairs.length
  let avgNaturalProb := (pairs.map (·.2.naturalRecoveryProb)).sum / pairs.length
  if type = .counterfactualAB then
    some
      { interventionArmRecoveryRate := Js.roundFixed avgInterventionProb 4
        controlArmNaturalRate := Js.roundFixed avgNaturalProb 4
        incrementalLift := Js.roundFixed (avgInterventionProb - avgNaturalProb) 4
        isModelEstimated := true }
  else none

/-- A scenario run on the batch that was generated for it. -/
def runScenario (type : ScenarioType) (options : ScenarioOptions)
    (opportunities : List RecoveryOpportunity) (db : Db) : ScenarioRunResult × Db :=
  let capacity := options.capacityLimit
  let pairs := scoredPairs est opportunities
  let accepted := (positiveIven pairs).take capacity
  let deferred := (positiveIven pairs).drop capacity
  let negative := pairs.filter (!isPositive ·)
  let shadowPricePaise := shadowPriceOf accepted
  let state := evaluateNegative registry est now shadowPricePaise
    (evaluateAccepted registry est now shadowPricePaise 0 (.zero, db) accepted) negative
  ({ scenarioType := type
     totalOpportunities := batchSize type options
     capacityLimit := capacity
     allocatedCount := state.1.allocatedCount
     deferredCount := deferred.length
     blockedCount := state.1.blockedCount
     abstainedCount := state.1.abstainedCount
     shadowPricePaise := shadowPricePaise
     totalAtRiskPaise := (opportunities.map (·.amountPaise)).sum
     totalAllocatedExpectedRevenuePaise := state.1.totalAllocatedExpectedRevenuePaise
     counterfactualLift := counterfactualLift type pairs },
    state.2)

end Runs

/-! ### Simulated batches -/

/-- What the opportunities of a simulated batch have in common. -/
structure SimulatedBatch (batch : List RecoveryOpportunity) : Prop where
  nodup : (batch.map (·.id)).Nodup
  isPending : ∀ opp ∈ batch, opp.status = pending
  tenantId : ∀ opp ∈ batch, opp.tenantId = "tenant_system_default"

lemma SimulatedBatch.isAllocatable {batch : List RecoveryOpportunity} (h : SimulatedBatch batch) :
    ∀ opp ∈ batch, isAllocatable opp.status := fun opp hopp => by
  rw [h.isPending opp hopp]
  rfl

lemma simulatedBatch_generatedBatch {type : ScenarioType} {options : ScenarioOptions}
    {draws : ℕ → Draw} (h : ((generatedBatch type options draws).map (·.id)).Nodup) :
    SimulatedBatch (generatedBatch type options draws) := by
  have hcommon : ∀ opp ∈ generatedBatch type options draws,
      opp.status = pending ∧ opp.tenantId = "tenant_system_default" := by
    intro opp hopp
    obtain ⟨i, -, rfl⟩ := List.mem_map.mp hopp
    cases type <;> exact ⟨rfl, rfl⟩
  exact ⟨h, fun opp hopp => (hcommon opp hopp).1, fun opp hopp => (hcommon opp hopp).2⟩

/-- The core rules are registered, and no other rule fails for an opportunity of the batch. -/
structure OnlyCoreRules (ks : KillSwitches) (registry : AuthorityRuleRegistry)
    (batch : List RecoveryOpportunity) : Prop where
  core : (registerDefaultRules ks).rows ⊆ registry.rows
  others : ∀ rule ∈ registry.rows, rule ∈ (registerDefaultRules ks).rows ∨
    ∀ c : AuthorityRuleContext, c.opportunity ∈ batch → ¬ Fails c rule

/-! ### Production -/

/-- What production reports on a batch: the shadow price of the market and, as the authority
pipeline does, how many opportunities come to each of the four verdicts. -/
structure ProductionReport where
  shadowPricePaise : ℤ
  allocatedCount : ℕ
  deferredCount : ℕ
  blockedCount : ℕ
  abstainedCount : ℕ
  deriving DecidableEq, Repr

/-- What the gate makes of a batch after a run of the market. -/
def reportOf (registry : AuthorityRuleRegistry) (est : Estimator) (now : Timestamp)
    (batch : List RecoveryOpportunity) (run : MarketRunResult × Db) : ProductionReport :=
  let results := (Authority.evaluateEach registry est now run.2 batch).1
  { shadowPricePaise := run.1.shadowPricePaise
    allocatedCount := Authority.countVerdict results .authorized
    deferredCount := Authority.countVerdict results .wait
    blockedCount := Authority.countVerdict results .blocked
    abstainedCount := Authority.countVerdict results .abstain }

/-- The market on a batch, and then the gate on each of its opportunities; the market throws for a
batch that is not stored. -/
def production (platform : Platform) (registry : AuthorityRuleRegistry) (est : Estimator)
    (now : Timestamp) (capacity : ℕ) (batch : List RecoveryOpportunity) (db : Db) :
    Option ProductionReport :=
  (runMarketAllocationOn platform est ⟨some capacity, none, none⟩ batch db).map
    (reportOf registry est now batch)

/-- The run reports the same shadow price and the same numbers, and the numbers add up. -/
structure Agrees (run : ScenarioRunResult) (report : ProductionReport) (size : ℕ) : Prop where
  shadowPrice : run.shadowPricePaise = report.shadowPricePaise
  allocated : run.allocatedCount = report.allocatedCount
  deferred : run.deferredCount = report.deferredCount
  blocked : run.blockedCount = report.blockedCount
  abstained : run.abstainedCount = report.abstainedCount
  total : run.allocatedCount + run.deferredCount + run.blockedCount + run.abstainedCount = size

/-! ### The verdicts -/

/-- The rules that block: a kill switch, a hard decline or the retry cap. -/
def isBlocked (ks : KillSwitches) (opp : RecoveryOpportunity) : Bool :=
  ks.isKillSwitchActive opp.tenantId "" || opp.declineType == .hard ||
    decide (opp.attemptCount ≥ (3 : ℕ))

/-- Whether a score of the opportunity has a low confidence. -/
def isUncertain (opp : RecoveryOpportunity) : Bool := determineConfidence opp == .low

/-- What the core rules say about an opportunity with its score, by its decision. -/
def coreVerdict (ks : KillSwitches) (opp : RecoveryOpportunity) (decision : DecisionType) :
    AuthorityVerdict :=
  if isBlocked ks opp then .blocked
  else if isUncertain opp then .abstain
  else if decision != .act then .wait else .authorized

section Verdicts

variable {ks : KillSwitches} {registry : AuthorityRuleRegistry} {est : Estimator}
  {now : Timestamp} {batch : List RecoveryOpportunity} {opp : RecoveryOpportunity} {db : Db}

lemma OnlyCoreRules.verdict_eq (h : OnlyCoreRules ks registry batch) {c : AuthorityRuleContext}
    (hc : c.opportunity ∈ batch) :
    (evaluate registry c).verdict = (evaluate (registerDefaultRules ks) c).verdict := by
  refine AuthorityVerdict.severity_injective (le_antisymm ?_ (severity_le_of_subset h.core))
  rcases evaluate_cases registry c with heq | ⟨rule, hrule, hfail, hverdict, -⟩
  · rw [heq]
    exact Nat.zero_le _
  · rw [← hverdict]
    rcases h.others rule hrule with hcore | hpassed
    · exact severity_suggestion_le hcore hfail
    · exact absurd hfail (hpassed c hc)

lemma verdict_evaluateRulesOf (h : OnlyCoreRules ks registry batch) (hopp : opp ∈ batch)
    (decision : AllocationDecision) :
    (Authority.evaluateRulesOf registry opp (calculateScore est opp).toScore decision).verdict =
      coreVerdict ks opp decision.decision := by
  have hcore := h.verdict_eq (c := ⟨opp, (calculateScore est opp).toScore, decision, opp.tenantId⟩)
    hopp
  rw [Authority.evaluateRulesOf, hcore, verdict_coreRules rfl]
  rfl

end Verdicts

/-! ### What is reported -/

/-- The expected incremental value of an opportunity. -/
def value (est : Estimator) (opp : RecoveryOpportunity) : ℤ :=
  (calculateScore est opp).expectedIncrementalValuePaise

/-- The opportunities that the runner ranks, by value. -/
def worthwhile (est : Estimator) (batch : List RecoveryOpportunity) : List RecoveryOpportunity :=
  rank (value est) (batch.filter (0 < value est ·))

/-- The opportunities that the market ranks, by value. -/
def admissible (est : Estimator) (batch : List RecoveryOpportunity) : List RecoveryOpportunity :=
  rank (value est) (batch.filter (IsAdmissible <| scoredPair est ·))

section Reports

variable {ks : KillSwitches} {registry : AuthorityRuleRegistry} {est : Estimator}
  {now : Timestamp} {batch opps : List RecoveryOpportunity} {db : Db} {capacity : ℕ}

lemma positiveIven_scoredPairs :
    positiveIven (scoredPairs est batch) = (worthwhile est batch).map (scoredPair est) := by
  rw [positiveIven, scoredPairs, List.filter_map, rank_map]
  rfl

lemma ranking_scoredPairs :
    ranking (scoredPairs est batch) = (admissible est batch).map (scoredPair est) := by
  have heligible : isEligible ∘ scoredPair est =
      fun opp => decide (IsAdmissible (scoredPair est opp)) :=
    funext fun opp => isEligible_eq _
  rw [ranking, scoredPairs, List.filter_map, rank_map, heligible]
  rfl

lemma evaluateAccepted_counters (h : OnlyCoreRules ks registry batch) (hopps : opps ⊆ batch)
    (est : Estimator) (now : Timestamp) (price : ℤ) (i : ℕ) (state : Counters × Db) :
    let counters := (evaluateAccepted registry est now price i state (opps.map (scoredPair est))).1
    counters.allocatedCount =
        state.1.allocatedCount + opps.countP (coreVerdict ks · .act = .authorized) ∧
      counters.blockedCount =
        state.1.blockedCount + opps.countP (coreVerdict ks · .act = .blocked) ∧
      counters.abstainedCount =
        state.1.abstainedCount + opps.countP (coreVerdict ks · .act = .abstain) := by
  induction opps generalizing i state with
  | nil => exact ⟨rfl, rfl, rfl⟩
  | cons opp opps ih =>
    obtain ⟨hopp, hopps⟩ := List.cons_subset.mp hopps
    have hverdict : (Authority.evaluateOpportunityOf registry est now state.2 opp
        (some (acceptDecision price i opp)) (some (calculateScore est opp).toScore)).1.verdict =
          coreVerdict ks opp .act :=
      verdict_evaluateRulesOf h hopp (acceptDecision price i opp)
    simp only [List.map_cons, evaluateAccepted, scoredPair, hverdict, List.countP_cons]
    obtain ⟨hallocated, hblocked, habstained⟩ := ih hopps (i + 1) _
    rw [hallocated, hblocked, habstained]
    cases coreVerdict ks opp .act <;> simp [Counters.addAccepted] <;> omega

lemma evaluateNegative_counters (h : OnlyCoreRules ks registry batch) (hopps : opps ⊆ batch)
    (est : Estimator) (now : Timestamp) (price : ℤ) (state : Counters × Db) :
    let counters := (evaluateNegative registry est now price state (opps.map (scoredPair est))).1
    counters.allocatedCount = state.1.allocatedCount ∧
      counters.blockedCount =
        state.1.blockedCount + opps.countP (coreVerdict ks · .abstain = .blocked) ∧
      counters.abstainedCount =
        state.1.abstainedCount + opps.countP (coreVerdict ks · .abstain ≠ .blocked) := by
  induction opps generalizing state with
  | nil => exact ⟨rfl, rfl, rfl⟩
  | cons opp opps ih =>
    obtain ⟨hopp, hopps⟩ := List.cons_subset.mp hopps
    have hverdict : (Authority.evaluateOpportunityOf registry est now state.2 opp
        (some (negativeDecision price opp)) (some (calculateScore est opp).toScore)).1.verdict =
          coreVerdict ks opp .abstain :=
      verdict_evaluateRulesOf h hopp (negativeDecision price opp)
    simp only [List.map_cons, evaluateNegative, scoredPair, hverdict, List.countP_cons]
    obtain ⟨hallocated, hblocked, habstained⟩ := ih hopps _
    rw [hallocated, hblocked, habstained]
    cases coreVerdict ks opp .abstain <;> simp [Counters.addNegative] <;> omega

lemma coreVerdict_eq_blocked_iff {opp : RecoveryOpportunity} {decision : DecisionType} :
    coreVerdict ks opp decision = .blocked ↔ isBlocked ks opp := by
  rw [coreVerdict]
  split_ifs <;> simp_all

lemma coreVerdict_eq_abstain_iff {opp : RecoveryOpportunity} {decision : DecisionType} :
    coreVerdict ks opp decision = .abstain ↔ ¬ isBlocked ks opp ∧ isUncertain opp := by
  rw [coreVerdict]
  split_ifs <;> simp_all

lemma coreVerdict_eq_authorized_iff {opp : RecoveryOpportunity} {decision : DecisionType} :
    coreVerdict ks opp decision = .authorized ↔
      (¬ isBlocked ks opp ∧ ¬ isUncertain opp) ∧ decision = .act := by
  rw [coreVerdict]
  split_ifs <;> simp_all

/-- The opportunities that the runner does not rank. -/
def worthless (est : Estimator) (batch : List RecoveryOpportunity) : List RecoveryOpportunity :=
  batch.filter fun opp => !decide (0 < value est opp)

/-- What a scenario run counts. -/
lemma runScenario_counts (est : Estimator) (now : Timestamp) (type : ScenarioType)
    (options : ScenarioOptions) (db : Db) (h : OnlyCoreRules ks registry batch) :
    let run := (runScenario registry est now type options batch db).1
    let accepted := (worthwhile est batch).take options.capacityLimit
    run.allocatedCount = accepted.countP (fun opp => ¬ isBlocked ks opp ∧ ¬ isUncertain opp) ∧
      run.blockedCount =
        accepted.countP (isBlocked ks ·) + (worthless est batch).countP (isBlocked ks ·) ∧
      run.abstainedCount = accepted.countP (fun opp => ¬ isBlocked ks opp ∧ isUncertain opp) +
        (worthless est batch).countP (¬ isBlocked ks ·) := by
  intro run accepted
  have haccepted : accepted ⊆ batch := by
    intro opp hopp
    exact List.mem_of_mem_filter (mem_rank.mp (List.mem_of_mem_take hopp))
  have hworthless : worthless est batch ⊆ batch := List.filter_subset_self _
  have hpairs : (scoredPairs est batch).filter (!isPositive ·) =
      (worthless est batch).map (scoredPair est) := by
    rw [scoredPairs, List.filter_map]
    rfl
  set price := shadowPriceOf (accepted.map (scoredPair est))
  set state := evaluateAccepted registry est now price 0 (.zero, db) (accepted.map (scoredPair est))
    with hstate
  obtain ⟨hallocated, hblocked, habstained⟩ :=
    evaluateAccepted_counters h haccepted est now price 0 (.zero, db)
  obtain ⟨hallocated', hblocked', habstained'⟩ :=
    evaluateNegative_counters h hworthless est now price state
  rw [← hstate] at hallocated hblocked habstained
  rw [hallocated, Counters.zero, zero_add] at hallocated'
  rw [hblocked, Counters.zero, zero_add] at hblocked'
  rw [habstained, Counters.zero, zero_add] at habstained'
  simp only [coreVerdict_eq_authorized_iff, and_true] at hallocated'
  simp only [coreVerdict_eq_blocked_iff, Bool.decide_eq_true] at hblocked'
  simp only [coreVerdict_eq_abstain_iff, coreVerdict_eq_blocked_iff, ne_eq] at habstained'
  simp only [run, runScenario, positiveIven_scoredPairs, hpairs, ← List.map_take]
  exact ⟨hallocated', hblocked', habstained'⟩

/-- An evaluation with stored values leaves them as they are. -/
lemma evaluateEach_verdicts (h : OnlyCoreRules ks registry batch) (hopps : opps ⊆ batch)
    (hscores : ∀ opp ∈ opps,
      db.getScoreByOpportunityId opp.id = some (calculateScore est opp).toScore) :
    (Authority.evaluateEach registry est now db opps).1.map (·.verdict) =
      opps.map fun opp => coreVerdict ks opp (Authority.decisionType db opp) := by
  induction opps generalizing db with
  | nil => rfl
  | cons opp opps ih =>
    obtain ⟨hopp, hopps⟩ := List.cons_subset.mp hopps
    obtain ⟨hscore, hscores⟩ := List.forall_mem_cons.mp hscores
    have hasked : getOrScore est db opp = ((calculateScore est opp).toScore, db) := by
      rw [getOrScore, hscore]
    set evaluated := Authority.evaluateOpportunityOf registry est now db opp none none with heq
    have hverdict : evaluated.1.verdict = coreVerdict ks opp (Authority.decisionType db opp) := by
      rw [heq, Authority.evaluateOpportunityOf]
      simp only [hasked]
      rw [verdict_evaluateRulesOf h hopp, Authority.decisionType]
      cases db.getAllocationDecisionByOpportunityId opp.id with
      | none => rfl
      | some decision => rfl
    have hrecords : SameRecords db evaluated.2 := by
      rw [heq, Authority.evaluateOpportunityOf]
      simp only [hasked]
      exact (Authority.sameRecords_persistChecks _ _).trans (.updateStatus _ _ _)
    have hdecisions : ∀ o, Authority.decisionType evaluated.2 o = Authority.decisionType db o := by
      intro o
      rw [Authority.decisionType, Db.getAllocationDecisionByOpportunityId,
        hrecords.allocationDecisions]
      rfl
    have hstored : ∀ o ∈ opps,
        evaluated.2.getScoreByOpportunityId o.id = some (calculateScore est o).toScore :=
      fun o ho => by rw [hrecords.getScoreByOpportunityId, hscores o ho]
    have hrest := ih hopps hstored
    simp only [Authority.evaluateEach, List.map_cons, ← heq, hverdict, hrest, hdecisions]

lemma sum_countVerdict (results : List AuthorityEvaluationResult) :
    Authority.countVerdict results .authorized + Authority.countVerdict results .wait +
      Authority.countVerdict results .blocked + Authority.countVerdict results .abstain =
        results.length := by
  induction results with
  | nil => rfl
  | cons result results ih =>
    simp only [Authority.countVerdict, List.countP_cons, List.length_cons] at ih ⊢
    cases result.verdict <;> simp <;> omega

lemma countVerdict_eq (results : List AuthorityEvaluationResult) (verdict : AuthorityVerdict) :
    Authority.countVerdict results verdict = (results.map (·.verdict)).countP (· = verdict) := by
  rw [List.countP_map]
  rfl

section Production

variable {platform : Platform}

lemma effectiveScore_batch (hfresh : ∀ opp ∈ batch, db.getScoreByOpportunityId opp.id = none)
    {opp : RecoveryOpportunity} (hopp : opp ∈ batch) :
    effectiveScore est db opp = (calculateScore est opp).toScore := by
  rw [effectiveScore, hfresh opp hopp, Option.getD_none]

lemma allocateAmong_batch (capacity : ℕ) (hbatch : SimulatedBatch batch)
    (hfresh : ∀ opp ∈ batch, db.getScoreByOpportunityId opp.id = none) :
    let run := allocateAmong est capacity batch db
    run.1.items = placements capacity (scoredPairs est batch) ∧
      run.1.shadowPricePaise = shadowPrice capacity (ranking (scoredPairs est batch)) ∧
      ∀ opp ∈ batch,
        run.2.getScoreByOpportunityId opp.id = some (calculateScore est opp).toScore := by
  have hpairs : batch.map (fun opp => (opp, effectiveScore est db opp)) = scoredPairs est batch :=
    List.map_congr_left fun opp hopp => by rw [effectiveScore_batch hfresh hopp, scoredPair]
  simp only [allocateAmong, scoreItems_fst hbatch.nodup, hpairs]
  refine ⟨trivial, trivial, fun opp hopp => ?_⟩
  rw [← effectiveScore_batch hfresh hopp, Db.getScoreByOpportunityId, foldl_place_scores]
  exact getScoreByOpportunityId_scoreItems est db hbatch.nodup hopp

/-- The accepted opportunities of a run, counted by what is stored for them. -/
lemma countP_act {run : MarketRunResult × Db} (p : RecoveryOpportunity → Bool)
    (hbest : AllocatesBest capacity (effectiveScore est db) batch run)
    (hitems : run.1.items = placements capacity (scoredPairs est batch)) :
    batch.countP (fun opp => p opp ∧ Authority.decisionType run.2 opp = .act) =
      ((admissible est batch).take capacity).countP p := by
  have hstored : ∀ placement ∈ run.1.items,
      Authority.decisionType run.2 placement.opportunity = placement.decision.decision :=
    fun placement hplacement => by
      rw [Authority.decisionType, hbest.stored placement hplacement]
      rfl
  have hact : (run.1.items.filter (·.decision.decision = .act)).map (·.opportunity) =
      (admissible est batch).take capacity := by
    have hmap := congrArg (List.map Prod.fst) (map_item_filter_act capacity (scoredPairs est batch))
    rw [List.map_map, ranking_scoredPairs, ← List.map_take, List.map_map] at hmap
    rw [hitems]
    exact hmap.trans (List.map_id _)
  rw [← hbest.decided.countP_eq, List.countP_map, ← hact, List.countP_map, List.countP_filter]
  refine List.countP_congr fun placement hplacement => ?_
  simp [hstored placement hplacement]

lemma production_batch (platform : Platform) (registry : AuthorityRuleRegistry) (now : Timestamp)
    (capacity : ℕ) (hbatch : SimulatedBatch batch) :
    production platform registry est now capacity batch db =
      if db.Stores batch then
        some (reportOf registry est now batch (allocateAmong est capacity batch db))
      else none := by
  rw [production, runMarketAllocationOn_of_waiting hbatch.isAllocatable]
  split_ifs <;> rfl

/-- What production counts on a batch of which no score is stored. -/
lemma reportOf_counts (now : Timestamp) (capacity : ℕ)
    (hbatch : SimulatedBatch batch) (h : OnlyCoreRules ks registry batch)
    (hfresh : ∀ opp ∈ batch, db.getScoreByOpportunityId opp.id = none) :
    let report := reportOf registry est now batch (allocateAmong est capacity batch db)
    report.allocatedCount = ((admissible est batch).take capacity).countP
        (fun opp => ¬ isBlocked ks opp ∧ ¬ isUncertain opp) ∧
      report.blockedCount = batch.countP (isBlocked ks ·) ∧
      report.abstainedCount = batch.countP (fun opp => ¬ isBlocked ks opp ∧ isUncertain opp) ∧
      report.allocatedCount + report.deferredCount + report.blockedCount +
        report.abstainedCount = batch.length ∧
      report.shadowPricePaise =
        shadowPrice capacity ((admissible est batch).map (scoredPair est)) := by
  intro report
  obtain ⟨hitems, hprice, hscores⟩ := allocateAmong_batch capacity hbatch hfresh
  set run := allocateAmong est capacity batch db with hrun
  set results := (Authority.evaluateEach registry est now run.2 batch).1 with hresults
  have hbest : AllocatesBest capacity (effectiveScore est db) batch run :=
    allocateAmong_allocatesBest hbatch.nodup
  have hverdicts : results.map (·.verdict) =
      batch.map fun opp => coreVerdict ks opp (Authority.decisionType run.2 opp) :=
    evaluateEach_verdicts h (List.Subset.refl batch) hscores
  have hcount : ∀ verdict, Authority.countVerdict results verdict =
      batch.countP fun opp => coreVerdict ks opp (Authority.decisionType run.2 opp) = verdict := by
    intro verdict
    rw [countVerdict_eq, hverdicts, List.countP_map]
    rfl
  refine ⟨?_, ?_, ?_, ?_, ?_⟩
  · rw [← countP_act _ hbest hitems]
    simp only [report, reportOf, ← hrun, ← hresults, hcount, coreVerdict_eq_authorized_iff,
      decide_eq_true_eq]
  · simp only [report, reportOf, ← hrun, ← hresults, hcount, coreVerdict_eq_blocked_iff,
      Bool.decide_eq_true]
  · simp only [report, reportOf, ← hrun, ← hresults, hcount, coreVerdict_eq_abstain_iff]
  · have hlength : results.length = batch.length := by
      simpa using congrArg List.length hverdicts
    rw [← hlength, ← sum_countVerdict results]
    rfl
  · rw [← ranking_scoredPairs, ← hprice]
    rfl

end Production

/-! ### The shadow price -/

/-- The runner's shadow price is the market's: no opportunity has a positive value, or there is a
price that enough admissible opportunities reach to use up the capacity, and that not enough
opportunities exceed to do so. -/
def SamePrice (est : Estimator) (capacity : ℕ) (batch : List RecoveryOpportunity) : Prop :=
  (∀ opp ∈ batch, value est opp ≤ 0) ∨ ∃ price : ℤ,
    capacity ≤ batch.countP (fun opp => IsAdmissible (scoredPair est opp) ∧ price ≤ value est opp) ∧
      batch.countP (fun opp => 0 < value est opp ∧ price < value est opp) < capacity

lemma mem_worthwhile {opp : RecoveryOpportunity} :
    opp ∈ worthwhile est batch ↔ opp ∈ batch ∧ 0 < value est opp := by
  simp [worthwhile]

lemma mem_admissible {opp : RecoveryOpportunity} :
    opp ∈ admissible est batch ↔ opp ∈ batch ∧ IsAdmissible (scoredPair est opp) := by
  simp [admissible]

lemma length_admissible_le : (admissible est batch).length ≤ (worthwhile est batch).length := by
  rw [admissible, worthwhile, length_rank, length_rank, ← List.countP_eq_length_filter,
    ← List.countP_eq_length_filter]
  refine List.countP_mono_left fun opp _ h => ?_
  exact decide_eq_true (of_decide_eq_true h).2.1

lemma countP_reach_le (price : ℤ) :
    batch.countP (fun opp => IsAdmissible (scoredPair est opp) ∧ price ≤ value est opp) ≤
      (admissible est batch).length := by
  rw [admissible, length_rank, ← List.countP_eq_length_filter]
  exact List.countP_mono_left fun opp _ h => decide_eq_true (of_decide_eq_true h).1

lemma shadowPriceOf_take :
    shadowPriceOf (((worthwhile est batch).take capacity).map (scoredPair est)) =
      (((worthwhile est batch).take capacity).getLast?).elim 0 (value est) := by
  rw [shadowPriceOf, List.getLast?_map, Option.elim_map]
  rfl

lemma shadowPrice_admissible (hcapacity : 0 < capacity) :
    shadowPrice capacity ((admissible est batch).map (scoredPair est)) =
      if capacity ≤ (admissible est batch).length then
        ((admissible est batch)[capacity - 1]?).elim 0 (value est) else 0 := by
  rw [shadowPrice, List.length_map, List.getElem?_map, Option.elim_map]
  simp only [ge_iff_le, gt_iff_lt, hcapacity, and_true]
  rfl

/-- Where the capacity binds, both prices are values at the same index of a ranking. -/
lemma getElem_value_eq_iff (hcapacity : 0 < capacity)
    (hbinds : capacity ≤ (admissible est batch).length) :
    (((worthwhile est batch).take capacity).getLast?).elim 0 (value est) =
      ((admissible est batch)[capacity - 1]?).elim 0 (value est) ↔
        SamePrice est capacity batch := by
  have hlength : capacity ≤ (worthwhile est batch).length := hbinds.trans length_admissible_le
  have hp : capacity - 1 < (worthwhile est batch).length :=
    (Nat.sub_one_lt hcapacity.ne').trans_le hlength
  have hq : capacity - 1 < (admissible est batch).length :=
    (Nat.sub_one_lt hcapacity.ne').trans_le hbinds
  have hsome : ¬ ∀ opp ∈ batch, value est opp ≤ 0 := by
    intro hnone
    have hmem := mem_worthwhile.mp (List.getElem_mem hp)
    exact absurd hmem.2 (not_lt.mpr (hnone _ hmem.1))
  have hvalues : value est (worthwhile est batch)[capacity - 1] =
      value est (admissible est batch)[capacity - 1] ↔ _ :=
    rank_filter_getElem_eq_iff (fun opp h => decide_eq_true (of_decide_eq_true h).2.1) hp hq
  rw [List.getLast?_take, if_neg hcapacity.ne', List.getElem?_eq_getElem hp,
    List.getElem?_eq_getElem hq, Option.some_or, Option.elim_some, Option.elim_some, hvalues,
    SamePrice, or_iff_right hsome]
  clear hvalues
  refine exists_congr fun price => ?_
  simp only [Bool.decide_and]
  omega

lemma shadowPrice_eq_iff (hcapacity : 0 < capacity) :
    shadowPriceOf (((worthwhile est batch).take capacity).map (scoredPair est)) =
      shadowPrice capacity ((admissible est batch).map (scoredPair est)) ↔
        SamePrice est capacity batch := by
  rw [shadowPriceOf_take, shadowPrice_admissible hcapacity]
  by_cases hbinds : capacity ≤ (admissible est batch).length
  · rw [if_pos hbinds, getElem_value_eq_iff hcapacity hbinds]
  · have hfew : ¬ ∃ price : ℤ, capacity ≤ batch.countP (fun opp =>
          IsAdmissible (scoredPair est opp) ∧ price ≤ value est opp) ∧
        batch.countP (fun opp => 0 < value est opp ∧ price < value est opp) < capacity := by
      rintro ⟨price, hreach, -⟩
      exact hbinds (hreach.trans (countP_reach_le price))
    rw [if_neg hbinds, SamePrice, or_iff_left hfew]
    -- the market's price is zero: the runner must not have accepted anything
    cases haccepted : ((worthwhile est batch).take capacity).getLast? with
    | none =>
      have hnone : worthwhile est batch = [] := by
        have := List.getLast?_eq_none_iff.mp haccepted
        exact (List.take_eq_nil_iff.mp this).resolve_left hcapacity.ne'
      refine iff_of_true rfl fun opp hopp => ?_
      by_contra hpos
      have hmem := mem_worthwhile.mpr ⟨hopp, not_le.mp hpos⟩
      rw [hnone] at hmem
      cases hmem
    | some opp =>
      have hmem := mem_worthwhile.mp (List.mem_of_mem_take (List.mem_of_getLast? haccepted))
      refine iff_of_false hmem.2.ne' fun hnone => ?_
      exact absurd hmem.2 (not_lt.mpr (hnone opp hmem.1))

/-! ### The counts -/

lemma countP_batch (est : Estimator) (batch : List RecoveryOpportunity) (capacity : ℕ)
    (p : RecoveryOpportunity → Bool) :
    batch.countP p = ((worthwhile est batch).take capacity).countP p +
      ((worthwhile est batch).drop capacity).countP p + (worthless est batch).countP p := by
  rw [← List.countP_append, List.take_append_drop, worthwhile, (rank_perm _ _).countP_eq, worthless,
    ← List.countP_append, (List.filter_append_perm _ batch).countP_eq]

lemma length_eq_countP (ks : KillSwitches) (opps : List RecoveryOpportunity) :
    opps.length = opps.countP (isBlocked ks ·) +
      opps.countP (fun opp => ¬ isBlocked ks opp ∧ isUncertain opp) +
        opps.countP (fun opp => ¬ isBlocked ks opp ∧ ¬ isUncertain opp) := by
  induction opps with
  | nil => rfl
  | cons opp opps ih =>
    simp only [List.length_cons, List.countP_cons, ih]
    cases isBlocked ks opp <;> cases isUncertain opp <;> simp <;> omega

/-- Where the numbers may differ: what the gate blocks among the deferred, what it lets wait instead
of abstaining, and what it clears among the accepted. -/
structure CountsAgree (ks : KillSwitches) (est : Estimator) (capacity : ℕ)
    (batch : List RecoveryOpportunity) : Prop where
  blocked : ((worthwhile est batch).drop capacity).countP (isBlocked ks ·) = 0
  abstained : (worthless est batch).countP (fun opp => ¬ isBlocked ks opp ∧ ¬ isUncertain opp) =
    ((worthwhile est batch).drop capacity).countP
      (fun opp => ¬ isBlocked ks opp ∧ isUncertain opp)
  allocated : ((worthwhile est batch).take capacity).countP
      (fun opp => ¬ isBlocked ks opp ∧ ¬ isUncertain opp) =
    ((admissible est batch).take capacity).countP
      (fun opp => ¬ isBlocked ks opp ∧ ¬ isUncertain opp)

lemma agrees_iff_counts {type : ScenarioType} {options : ScenarioOptions}
    {now' : Timestamp} {db' : Db} (hbatch : SimulatedBatch batch)
    (h : OnlyCoreRules ks registry batch)
    (hfresh : ∀ opp ∈ batch, db.getScoreByOpportunityId opp.id = none)
    (hcapacity : 0 < options.capacityLimit) :
    Agrees (runScenario registry est now type options batch db').1
        (reportOf registry est now' batch (allocateAmong est options.capacityLimit batch db))
        batch.length ↔
      SamePrice est options.capacityLimit batch ∧
        CountsAgree ks est options.capacityLimit batch := by
  obtain ⟨hallocated, hblocked, habstained⟩ := runScenario_counts est now type options db' h
  obtain ⟨hallocated', hblocked', habstained', htotal, hprice⟩ :=
    reportOf_counts now' options.capacityLimit hbatch h hfresh
  set run := (runScenario registry est now type options batch db').1 with hrun
  set report := reportOf registry est now' batch (allocateAmong est options.capacityLimit batch db)
  have hshadow : run.shadowPricePaise = report.shadowPricePaise ↔
      SamePrice est options.capacityLimit batch := by
    rw [hprice, ← shadowPrice_eq_iff hcapacity, hrun]
    simp only [runScenario, positiveIven_scoredPairs, List.map_take]
  have hdeferred : run.deferredCount =
      ((worthwhile est batch).drop options.capacityLimit).length := by
    simp only [hrun, runScenario, positiveIven_scoredPairs, List.length_drop, List.length_map]
  have hlength := countP_batch est batch options.capacityLimit fun _ => true
  have hblocks := countP_batch est batch options.capacityLimit (isBlocked ks ·)
  have habstains := countP_batch est batch options.capacityLimit
    fun opp => ¬ isBlocked ks opp ∧ isUncertain opp
  have haccepted := length_eq_countP ks ((worthwhile est batch).take options.capacityLimit)
  have hdropped := length_eq_countP ks ((worthwhile est batch).drop options.capacityLimit)
  have hworthless := length_eq_countP ks (worthless est batch)
  have hnot := List.length_eq_countP_add_countP (isBlocked ks ·) (l := worthless est batch)
  simp only [List.countP_true] at hlength
  constructor
  · rintro ⟨hs, ha, hd, hb, hu, -⟩
    refine ⟨hshadow.mp hs, ?_, ?_, ?_⟩ <;> omega
  · rintro ⟨hs, ⟨hb, hu, ha⟩⟩
    constructor
    case shadowPrice => exact hshadow.mpr hs
    all_goals omega

/-! ### When they agree -/

/-- What it takes for a scenario run to report what production does: the shadow prices are the same;
with the kill switch on, nothing is deferred; and with the kill switch off, no opportunity of positive
value has used up its attempts, those that are uncertain have enough others ranked before them to be
deferred, and there are as many of them as there are recoverable opportunities without value, which
the gate lets wait. -/
structure MarketsAgree (ks : KillSwitches) (est : Estimator) (capacity : ℕ)
    (batch : List RecoveryOpportunity) : Prop where
  price : SamePrice est capacity batch
  killed : ks.isKillSwitchActive "tenant_system_default" "" →
    batch.countP (0 < value est ·) ≤ capacity
  attempts : ¬ ks.isKillSwitchActive "tenant_system_default" "" →
    ∀ opp ∈ batch, 0 < value est opp → opp.attemptCount < 3
  uncertain : ¬ ks.isKillSwitchActive "tenant_system_default" "" →
    ∀ opp ∈ batch, 0 < value est opp → opp.declineType = .unknown →
      capacity ≤ batch.countP fun other =>
        decide (0 < value est other) && decide (Before (value est) batch other opp)
  waiting : ¬ ks.isKillSwitchActive "tenant_system_default" "" →
    batch.countP (fun opp => value est opp ≤ 0 ∧ opp.declineType = .soft ∧ opp.attemptCount < 3) =
      batch.countP (fun opp => 0 < value est opp ∧ opp.declineType = .unknown)

lemma isBlocked_iff (hbatch : SimulatedBatch batch) {opp : RecoveryOpportunity} (hopp : opp ∈ batch) :
    isBlocked ks opp ↔ ks.isKillSwitchActive "tenant_system_default" "" ∨ opp.declineType = .hard ∨
      3 ≤ opp.attemptCount := by
  simp [isBlocked, hbatch.tenantId opp hopp, or_assoc]

lemma isUncertain_iff {opp : RecoveryOpportunity} :
    isUncertain opp ↔ opp.declineType = .unknown ∨ 3 ≤ opp.attemptCount := by
  rw [isUncertain, determineConfidence]
  split_ifs with hlow <;> simp_all

lemma value_nonpos_of_hard {opp : RecoveryOpportunity} (h : opp.declineType = .hard) :
    value est opp ≤ 0 := by
  simp [value, calculateScore, h]

lemma isAdmissible_scoredPair_iff {opp : RecoveryOpportunity} :
    IsAdmissible (scoredPair est opp) ↔ ¬ isUncertain opp ∧ 0 < value est opp ∧
      ¬ AntiBlastEngine.isSyntheticHoldout opp.id := by
  simp [IsAdmissible, isUncertain, scoredPair, value, calculateScore]

lemma length_worthwhile : (worthwhile est batch).length = batch.countP (0 < value est ·) := by
  rw [worthwhile, length_rank, List.countP_eq_length_filter]

/-- With the kill switch on, everything that is evaluated is blocked. -/
lemma countsAgree_iff_of_killed (hbatch : SimulatedBatch batch)
    (hkill : ks.isKillSwitchActive "tenant_system_default" "") :
    CountsAgree ks est capacity batch ↔ batch.countP (0 < value est ·) ≤ capacity := by
  have hall : ∀ opp ∈ batch, isBlocked ks opp := fun opp hopp =>
    (isBlocked_iff hbatch hopp).mpr (.inl hkill)
  have hnone : ∀ opps : List RecoveryOpportunity, opps ⊆ batch → ∀ p : RecoveryOpportunity → Prop,
      [DecidablePred p] → opps.countP (fun opp => ¬ isBlocked ks opp ∧ p opp) = 0 := by
    intro opps hopps p _
    rw [List.countP_eq_zero]
    intro opp hopp
    simp [hall opp (hopps hopp)]
  have hworthwhile : worthwhile est batch ⊆ batch := fun opp hopp => (mem_worthwhile.mp hopp).1
  have hadmissible : admissible est batch ⊆ batch := fun opp hopp => (mem_admissible.mp hopp).1
  have hworthless : worthless est batch ⊆ batch := List.filter_subset_self _
  have hdropped : ((worthwhile est batch).drop capacity).countP (isBlocked ks ·) =
      ((worthwhile est batch).drop capacity).length :=
    List.countP_eq_length.mpr fun opp hopp => hall opp (hworthwhile (List.mem_of_mem_drop hopp))
  rw [← length_worthwhile]
  constructor
  · intro h
    have hblocked := h.blocked
    rw [hdropped, List.length_drop] at hblocked
    omega
  · intro hle
    refine ⟨?_, ?_, ?_⟩
    · rw [hdropped, List.length_drop]
      omega
    · rw [hnone _ hworthless, hnone _ fun opp hopp => hworthwhile (List.mem_of_mem_drop hopp)]
    · rw [hnone _ fun opp hopp => hworthwhile (List.mem_of_mem_take hopp),
        hnone _ fun opp hopp => hadmissible (List.mem_of_mem_take hopp)]

/-- With the same price, as many opportunities are accepted as the market accepts. -/
lemma SamePrice.length_take (h : SamePrice est capacity batch) :
    ((worthwhile est batch).take capacity).length =
      ((admissible est batch).take capacity).length := by
  have hle : (admissible est batch).length ≤ (worthwhile est batch).length := length_admissible_le
  rw [List.length_take, List.length_take]
  rcases h with hnone | ⟨price, hreach, -⟩
  · have hlength : (worthwhile est batch).length = 0 := by
      rw [length_worthwhile, List.countP_eq_zero]
      intro opp hopp
      simpa using hnone opp hopp
    omega
  · have hbinds := hreach.trans (countP_reach_le price)
    omega

section Live

variable (hbatch : SimulatedBatch batch)
  (hlive : ¬ ks.isKillSwitchActive "tenant_system_default" "")
include hbatch hlive

/-- Of the opportunities of positive value, the rules block those that have used up their attempts. -/
lemma isBlocked_iff_of_worthwhile {opp : RecoveryOpportunity} (h : opp ∈ worthwhile est batch) :
    isBlocked ks opp ↔ 3 ≤ opp.attemptCount := by
  obtain ⟨hopp, hvalue⟩ := mem_worthwhile.mp h
  rw [isBlocked_iff hbatch hopp]
  refine ⟨fun hrules => ?_, fun hattempts => .inr (.inr hattempts)⟩
  rcases hrules with hkill | hhard | hattempts
  · exact absurd hkill hlive
  · exact absurd hvalue (not_lt.mpr (value_nonpos_of_hard hhard))
  · exact hattempts

lemma countP_admissible :
    ((admissible est batch).take capacity).countP
        (fun opp => ¬ isBlocked ks opp ∧ ¬ isUncertain opp) =
      ((admissible est batch).take capacity).length := by
  refine List.countP_eq_length.mpr fun opp hopp => ?_
  obtain ⟨hmem, hadmissible⟩ := mem_admissible.mp (List.mem_of_mem_take hopp)
  obtain ⟨hcertain, hvalue, -⟩ := isAdmissible_scoredPair_iff.mp hadmissible
  have hworthwhile : opp ∈ worthwhile est batch := mem_worthwhile.mpr ⟨hmem, hvalue⟩
  refine decide_eq_true ⟨fun hblocked => hcertain ?_, hcertain⟩
  exact isUncertain_iff.mpr
    (.inr ((isBlocked_iff_of_worthwhile hbatch hlive hworthwhile).mp hblocked))

lemma countP_worthless :
    (worthless est batch).countP (fun opp => ¬ isBlocked ks opp ∧ ¬ isUncertain opp) =
      batch.countP (fun opp => value est opp ≤ 0 ∧ opp.declineType = .soft ∧
        opp.attemptCount < 3) := by
  rw [worthless, List.countP_filter]
  refine List.countP_congr fun opp hopp => ?_
  simp only [isBlocked_iff hbatch hopp, isUncertain_iff, hlive]
  cases opp.declineType <;> simp
  tauto

/-- If the attempts are not used up and nothing uncertain is accepted, it is all deferred. -/
lemma countP_deferred (hattempts : ∀ opp ∈ batch, 0 < value est opp → opp.attemptCount < 3)
    (haccepted : ∀ opp ∈ (worthwhile est batch).take capacity, opp.declineType ≠ .unknown) :
    ((worthwhile est batch).drop capacity).countP
        (fun opp => ¬ isBlocked ks opp ∧ isUncertain opp) =
      batch.countP (fun opp => 0 < value est opp ∧ opp.declineType = .unknown) := by
  have hnone : ((worthwhile est batch).take capacity).countP (·.declineType = .unknown) = 0 := by
    rw [List.countP_eq_zero]
    intro opp hopp
    simpa using haccepted opp hopp
  have hall : batch.countP (fun opp => 0 < value est opp ∧ opp.declineType = .unknown) =
      (worthwhile est batch).countP (·.declineType = .unknown) := by
    rw [worthwhile, (rank_perm _ _).countP_eq, List.countP_filter]
    simp only [Bool.decide_and, Bool.and_comm]
  rw [hall, ← List.take_append_drop capacity (worthwhile est batch), List.countP_append, hnone,
    zero_add, List.take_append_drop]
  refine List.countP_congr fun opp hopp => ?_
  have hmem := List.mem_of_mem_drop hopp
  have hlt := hattempts opp (mem_worthwhile.mp hmem).1 (mem_worthwhile.mp hmem).2
  simp [isBlocked_iff_of_worthwhile hbatch hlive hmem, isUncertain_iff, not_le.mpr hlt]

/-- With the kill switch off, and the same price, it is these opportunities that may make a
difference. -/
lemma countsAgree_iff_of_live (hprice : SamePrice est capacity batch) :
    CountsAgree ks est capacity batch ↔
      (∀ opp ∈ batch, 0 < value est opp → opp.attemptCount < 3) ∧
      (∀ opp ∈ batch, 0 < value est opp → opp.declineType = .unknown →
        capacity ≤ batch.countP fun other =>
          decide (0 < value est other) && decide (Before (value est) batch other opp)) ∧
      batch.countP (fun opp => value est opp ≤ 0 ∧ opp.declineType = .soft ∧
          opp.attemptCount < 3) =
        batch.countP (fun opp => 0 < value est opp ∧ opp.declineType = .unknown) := by
  have hnodup : batch.Nodup := hbatch.nodup.of_map _
  have htake : ∀ opp, opp ∈ (worthwhile est batch).take capacity ↔ _ := fun opp =>
    mem_take_rank_filter_iff (f := value est) hnodup (fun opp => decide (0 < value est opp))
  constructor
  · rintro ⟨hblocked, habstained, hallocated⟩
    rw [countP_admissible hbatch hlive, ← hprice.length_take, List.countP_eq_length] at hallocated
    rw [List.countP_eq_zero] at hblocked
    have hattempts : ∀ opp ∈ batch, 0 < value est opp → opp.attemptCount < 3 := by
      intro opp hopp hvalue
      have hmem : opp ∈ worthwhile est batch := mem_worthwhile.mpr ⟨hopp, hvalue⟩
      rw [← not_le, ← isBlocked_iff_of_worthwhile hbatch hlive hmem]
      rw [← List.take_append_drop capacity (worthwhile est batch), List.mem_append] at hmem
      rcases hmem with haccepted | hdeferred
      · exact (of_decide_eq_true (hallocated opp haccepted)).1
      · exact hblocked opp hdeferred
    have hcertain : ∀ opp ∈ (worthwhile est batch).take capacity, opp.declineType ≠ .unknown :=
      fun opp hopp hunknown =>
        (of_decide_eq_true (hallocated opp hopp)).2 (isUncertain_iff.mpr (.inl hunknown))
    refine ⟨hattempts, fun opp hopp hvalue hunknown => ?_, ?_⟩
    · by_contra hfew
      exact hcertain opp ((htake opp).mpr ⟨⟨hopp, decide_eq_true hvalue⟩, not_le.mp hfew⟩) hunknown
    · rw [← countP_worthless hbatch hlive, habstained,
        countP_deferred hbatch hlive hattempts hcertain]
  · rintro ⟨hattempts, hdeferred, hwaiting⟩
    have hmem : ∀ opp ∈ worthwhile est batch, ¬ isBlocked ks opp := by
      intro opp hopp
      rw [isBlocked_iff_of_worthwhile hbatch hlive hopp, not_le]
      exact hattempts opp (mem_worthwhile.mp hopp).1 (mem_worthwhile.mp hopp).2
    have hcertain : ∀ opp ∈ (worthwhile est batch).take capacity, opp.declineType ≠ .unknown := by
      intro opp hopp hunknown
      obtain ⟨⟨hbatchmem, hvalue⟩, hfew⟩ := (htake opp).mp hopp
      exact absurd hfew (not_lt.mpr (hdeferred opp hbatchmem (of_decide_eq_true hvalue) hunknown))
    refine ⟨?_, ?_, ?_⟩
    · rw [List.countP_eq_zero]
      exact fun opp hopp => hmem opp (List.mem_of_mem_drop hopp)
    · rw [countP_worthless hbatch hlive, hwaiting,
        countP_deferred hbatch hlive hattempts hcertain]
    · rw [countP_admissible hbatch hlive, ← hprice.length_take, List.countP_eq_length]
      intro opp hopp
      have hworthwhile := List.mem_of_mem_take hopp
      refine decide_eq_true ⟨hmem opp hworthwhile, fun huncertain => ?_⟩
      rcases isUncertain_iff.mp huncertain with hunknown | hattempt
      · exact hcertain opp hopp hunknown
      · exact hmem opp hworthwhile
          ((isBlocked_iff_of_worthwhile hbatch hlive hworthwhile).mpr hattempt)

end Live

/-- A scenario run reports what production does on the batch exactly when the batch is stored for
production and the markets agree. -/
theorem agrees_iff {platform : Platform} {type : ScenarioType} {options : ScenarioOptions}
    {now' : Timestamp} {db' : Db} (hbatch : SimulatedBatch batch)
    (hrules : OnlyCoreRules ks registry batch)
    (hfresh : ∀ opp ∈ batch, db.getScoreByOpportunityId opp.id = none)
    (hoptions : options.capacity = some capacity) (hcapacity : 1 ≤ capacity) :
    (∃ report ∈ production platform registry est now' capacity batch db,
      Agrees (runScenario registry est now type options batch db').1 report batch.length) ↔
      db.Stores batch ∧ MarketsAgree ks est capacity batch := by
  have hlimit : options.capacityLimit = capacity := by
    have hne : capacity ≠ 0 := Nat.one_le_iff_ne_zero.mp hcapacity
    rw [ScenarioOptions.capacityLimit, hoptions, Option.filter_some, if_pos (decide_eq_true hne),
      Option.getD_some]
  subst hlimit
  rw [production_batch platform registry now' options.capacityLimit hbatch]
  split_ifs with hstored
  swap
  · simp [hstored]
  simp only [Option.mem_some, exists_eq_left', hstored, true_and]
  rw [agrees_iff_counts hbatch hrules hfresh hcapacity]
  by_cases hkill : ks.isKillSwitchActive "tenant_system_default" ""
  · rw [countsAgree_iff_of_killed hbatch hkill]
    constructor
    · rintro ⟨hprice, hle⟩
      exact ⟨hprice, fun _ => hle, fun h => absurd hkill h, fun h => absurd hkill h,
        fun h => absurd hkill h⟩
    · intro h
      exact ⟨h.price, h.killed hkill⟩
  · constructor
    · rintro ⟨hprice, hagree⟩
      obtain ⟨hattempts, huncertain, hwaiting⟩ :=
        (countsAgree_iff_of_live hbatch hkill hprice).mp hagree
      exact ⟨hprice, fun h => absurd h hkill, fun _ => hattempts, fun _ => huncertain,
        fun _ => hwaiting⟩
    · intro h
      exact ⟨h.price, (countsAgree_iff_of_live hbatch hkill h.price).mpr
        ⟨h.attempts hkill, h.uncertain hkill, h.waiting hkill⟩⟩

end Reports

/-! ### A stressed capacity -/

/-- Draws that differ in nothing but their index. -/
def sampleDraw (i : ℕ) : Draw where
  reasonIndex := ⟨0, by decide⟩
  amountPaise := 100000
  attemptNumber := 1
  paymentId := "pay_synth_" ++ toString i
  customerReference := "cust_synth@example.com"
  timestamp := 1000

/-- The batch of a capacity scenario of a size. -/
def stressBatch (count capacity : ℕ) : List RecoveryOpportunity :=
  generatedBatch .capacityStress ⟨some count, some capacity⟩ sampleDraw

/-- The estimator of a process that has calibrated nothing. No opportunity of a scenario has a reason
that the table inherits. -/
def uncalibrated : Estimator :=
  .bayes fun reasonCode _ =>
    let base := (BayesianProbabilityCalibrator.fallbackBase reasonCode).getD
      BayesianProbabilityCalibrator.defaultProbability
    ⟨base.naturalRecoveryProb, base.interventionRecoveryProb, .static⟩

lemma onlyCoreRules_default (batch : List RecoveryOpportunity) :
    OnlyCoreRules .off (registerDefaultRules .off) batch :=
  ⟨List.Subset.refl _, fun _ hrule => .inl hrule⟩

/-- Two opportunities that compete for one place. -/
theorem agrees_binding :
    ∃ report ∈ production .plain (registerDefaultRules .off) uncalibrated 2000 1 (stressBatch 2 1)
        (.ofRows (stressBatch 2 1) []),
      Agrees (runScenario (registerDefaultRules .off) uncalibrated 2000 .capacityStress
        ⟨some 2, some 1⟩ (stressBatch 2 1) .empty).1 report 2 :=
  (agrees_iff (simulatedBatch_generatedBatch (by decide +kernel)) (onlyCoreRules_default _)
    (fun _ _ => rfl) rfl le_rfl).mpr
      ⟨by decide +kernel,
        { price := .inr ⟨120600, by decide +kernel, by decide +kernel⟩
          killed := fun h => absurd h (by decide)
          attempts := fun _ => by decide +kernel
          uncertain := fun _ => by decide +kernel
          waiting := fun _ => by decide +kernel }⟩

/-- One opportunity does not use up a capacity of five, and has a shadow price all the same. -/
theorem not_agrees_slack :
    (Db.ofRows (stressBatch 1 5) []).Stores (stressBatch 1 5) ∧
      ¬ ∃ report ∈ production .plain (registerDefaultRules .off) uncalibrated 2000 5 (stressBatch 1 5)
          (.ofRows (stressBatch 1 5) []),
        Agrees (runScenario (registerDefaultRules .off) uncalibrated 2000 .capacityStress
          ⟨some 1, some 5⟩ (stressBatch 1 5) .empty).1 report 1 := by
  refine ⟨by decide +kernel, fun ⟨report, hreport, hagrees⟩ => ?_⟩
  have hslack : (production .plain (registerDefaultRules .off) uncalibrated 2000 5 (stressBatch 1 5)
      (.ofRows (stressBatch 1 5) [])).map (·.shadowPricePaise) = some 0 := by decide +kernel
  have hprice : (runScenario (registerDefaultRules .off) uncalibrated 2000 .capacityStress
      ⟨some 1, some 5⟩ (stressBatch 1 5) .empty).1.shadowPricePaise = 109600 := by decide +kernel
  rw [Option.mem_def.mp hreport, Option.map_some, Option.some.injEq, ← hagrees.shadowPrice,
    hprice] at hslack
  exact absurd hslack (by decide)

end ScenarioRunner

end CtrlRecovery
