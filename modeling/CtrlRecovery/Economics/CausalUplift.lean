import CtrlRecovery.Agents.SemanticBridge
import CtrlRecovery.Core.Statistics
import CtrlRecovery.Economics.BanditPolicy

/-!
# Causal uplift profiles

The profile of an opportunity blends the calibrated probabilities with a bandit sample and reports
the two means, the effect between them, and an interval around each. The means and the ends of the
intervals are clamped one after the other: the effect of a soft decline is lifted to at least `0.05`
after the natural mean was clamped to `0.95`, so the intervention mean can exceed `0.99`, where its
interval ends (`lawful_iff`).

Numbers are those of any ordered field with square roots, without the rounding to four digits.
-/

namespace CtrlRecovery

open Core Statistics

namespace CausalUpliftEngine

inductive ProfileSource | bayesianPosterior | thompsonBandit | causalPrior
  deriving DecidableEq, Repr

/-- The answer of the calibration engine. -/
structure EffectiveProbabilities (K : Type*) where
  pNatural : K
  pIntervention : K
  source : ProbabilitySource

/-- A sample of the bandit. -/
structure ThompsonSample (K : Type*) where
  pNatural : K
  pIntervention : K

structure CausalUpliftProfile (K : Type*) where
  opportunityId : String
  pNaturalMean : K
  pNaturalCredibleInterval : K × K
  pInterventionMean : K
  pInterventionCredibleInterval : K × K
  treatmentEffectTau : K
  treatmentEffectCredibleInterval : K × K
  amountPaise : ℚ
  expectedIncrementalGrossPaise : ℤ
  operationalCostPaise : ℚ
  fatigueCostPaise : ℚ
  netIncrementalValuePaise : ℚ
  confidence : ConfidenceLevel
  ivenBand : IVENBand
  contextCluster : String
  source : ProfileSource
  counterfactualDisclaimer : String

/-! ### The evaluation -/

/-- `calculateCosts` of an attempt count as it is stored. -/
def calculateCosts (attemptCount : ℚ) : CostBreakdown where
  operationalCostPaise := 400
  fatigueCostPaise := SemanticEconomicsBridge.fatigueCostPaise attemptCount
  totalCostPaise := 400 + SemanticEconomicsBridge.fatigueCostPaise attemptCount

/-- `classifyIVENBand` of a value that need not be whole. -/
def classifyIVENBand (ivenPaise : ℚ) : IVENBand :=
  if ivenPaise ≥ 15000 then .strong
  else if ivenPaise ≥ 5000 then .moderate
  else if ivenPaise > 0 then .weak
  else .negative

def isClusterChar (c : Char) : Bool := ('a' ≤ c && c ≤ 'z') || ('0' ≤ c && c ≤ '9') || c == '_'

/-- `s.replace(/[^a-z0-9_]/g, '_')`, which replaces each code unit. -/
def clusterText (s : String) : String :=
  String.ofList (s.toList.flatMap fun c =>
    if isClusterChar c then [c] else (Js.charCodes c).map fun _ => '_')

def deriveContextCluster (opp : RecoveryOpportunity) : String :=
  let tier := resolveAmountTier opp.amountPaise
  let reason := clusterText (Js.toLowerCase (Js.orElse (some opp.reasonCode) "generic"))
  let attempt := min (Js.orDefault opp.attemptCount 1) 4
  opp.declineType.text ++ ":" ++ tier.text ++ ":" ++ reason ++ ":att_" ++
    Js.numberToString attempt

variable {K : Type*} [Field K] [LinearOrder K]

/-- The profile of a hard decline, which an intervention does not help. -/
def hardDeclineProfile (opp : RecoveryOpportunity) : CausalUpliftProfile K :=
  let costs := calculateCosts opp.attemptCount
  { opportunityId := opp.id
    pNaturalMean := 0.02
    pNaturalCredibleInterval := (0.01, 0.03)
    pInterventionMean := 0.02
    pInterventionCredibleInterval := (0.01, 0.03)
    treatmentEffectTau := 0
    treatmentEffectCredibleInterval := (0, 0)
    amountPaise := opp.amountPaise
    expectedIncrementalGrossPaise := 0
    operationalCostPaise := costs.operationalCostPaise
    fatigueCostPaise := costs.fatigueCostPaise
    netIncrementalValuePaise := -costs.totalCostPaise
    confidence := .high
    ivenBand := .negative
    contextCluster := deriveContextCluster opp
    source := .causalPrior
    counterfactualDisclaimer :=
      "*Model-estimated counterfactual. Zero treatment effect on hard decline." }

def naturalMean (bayes : EffectiveProbabilities K) (banditSample : ThompsonSample K) : K :=
  max 0.01 (min 0.95 (average bayes.pNatural banditSample.pNatural))

def minSoftLift (declineType : DeclineType) : K := if declineType = .soft then 0.05 else 0

/-- The intervention mean: the average of the two models, clamped, and at least the lift above the
natural mean. -/
def interventionMean (declineType : DeclineType) (bayes : EffectiveProbabilities K)
    (banditSample : ThompsonSample K) : K :=
  max (naturalMean bayes banditSample + minSoftLift declineType)
    (min 0.98 (average bayes.pIntervention banditSample.pIntervention))

def meanStd (p : K) : K := max 0.02 ((1 - p) * p * 0.15)

/-- `1.96` deviations to either side of a mean, cut off at a lower limit and at `0.99`. -/
def credibleInterval (lower mean std : K) : K × K :=
  (max lower (mean - 1.96 * std), min 0.99 (mean + 1.96 * std))

def uplift (declineType : DeclineType) (bayes : EffectiveProbabilities K)
    (banditSample : ThompsonSample K) : K :=
  max (minSoftLift declineType)
    (interventionMean declineType bayes banditSample - naturalMean bayes banditSample)

/-- `Math.round(tau * amount_paise)`. -/
def grossPaise [FloorRing K] (tau : K) (amountPaise : ℚ) : ℤ := ⌊tau * amountPaise + 0.5⌋

def confidence (source : ProbabilitySource) (opp : RecoveryOpportunity)
    (customerTrustScore : Option ℚ) : ConfidenceLevel :=
  if source = .calibrated ∧ customerTrustScore.getD 0.5 > 0.7 then .high
  else if opp.attemptCount ≥ 3 ∨ opp.declineType = .unknown then .low
  else .medium

/-- The profile of an opportunity. The answer of the calibration engine for its lower-case reason,
the bandit's sample for it and the trust in its customer, which is not stored, are arguments. -/
def evaluateOpportunityUplift [FloorRing K] (r : SquareRoot K)
    (effectiveProbabilities : String → DeclineType → EffectiveProbabilities K)
    (sampleProbabilities : RecoveryOpportunity → String → ThompsonSample K)
    (customerTrustScore : Option ℚ) (opp : RecoveryOpportunity) : CausalUpliftProfile K :=
  if opp.declineType = .hard then hardDeclineProfile opp
  else
    let bayes := effectiveProbabilities (Js.toLowerCase opp.reasonCode) opp.declineType
    let banditSample := sampleProbabilities opp opp.tenantId
    let pNat := naturalMean bayes banditSample
    let pInt := interventionMean opp.declineType bayes banditSample
    let tau := uplift opp.declineType bayes banditSample
    let natStd := meanStd pNat
    let intStd := meanStd pInt
    let tauStd := r.root (natStd * natStd + intStd * intStd)
    let costs := calculateCosts opp.attemptCount
    let gross := grossPaise tau opp.amountPaise
    let net : ℚ := gross - costs.totalCostPaise
    { opportunityId := opp.id
      pNaturalMean := pNat
      pNaturalCredibleInterval := credibleInterval 0.01 pNat natStd
      pInterventionMean := pInt
      pInterventionCredibleInterval := credibleInterval 0.01 pInt intStd
      treatmentEffectTau := tau
      treatmentEffectCredibleInterval := credibleInterval 0 tau tauStd
      amountPaise := opp.amountPaise
      expectedIncrementalGrossPaise := gross
      operationalCostPaise := costs.operationalCostPaise
      fatigueCostPaise := costs.fatigueCostPaise
      netIncrementalValuePaise := net
      confidence := confidence bayes.source opp customerTrustScore
      ivenBand := classifyIVENBand net
      contextCluster := deriveContextCluster opp
      source := if bayes.source = .calibrated then .bayesianPosterior else .thompsonBandit
      counterfactualDisclaimer := "*Model-estimated counterfactual via Bayesian Causal Inference." }

/-! ### The laws -/

/-- The interval contains the mean and is one of probabilities. -/
structure Credible (interval : K × K) (mean : K) : Prop where
  nonneg : 0 ≤ interval.1
  lower_le : interval.1 ≤ mean
  le_upper : mean ≤ interval.2
  le_one : interval.2 ≤ 1

structure Lawful (declineType : DeclineType) (profile : CausalUpliftProfile K) : Prop where
  natural : profile.pNaturalMean ∈ Set.Icc 0 1
  intervention : profile.pInterventionMean ∈ Set.Icc 0 1
  effect : profile.treatmentEffectTau = profile.pInterventionMean - profile.pNaturalMean
  naturalInterval : Credible profile.pNaturalCredibleInterval profile.pNaturalMean
  interventionInterval :
    Credible profile.pInterventionCredibleInterval profile.pInterventionMean
  effectInterval : Credible profile.treatmentEffectCredibleInterval profile.treatmentEffectTau
  soft : declineType = .soft → 0.05 ≤ profile.treatmentEffectTau
  hard : declineType = .hard → profile.netIncrementalValuePaise ≤ 0

/-- The two models average to a natural probability above `0.94`, so that the lift of a soft decline
leads past the end of the intervals. -/
def LiftsPastInterval (declineType : DeclineType) (bayes : EffectiveProbabilities K)
    (banditSample : ThompsonSample K) : Prop :=
  declineType = .soft ∧ 0.94 < average bayes.pNatural banditSample.pNatural

/-! ### The costs -/

lemma calculateCosts_intCast (n : ℤ) : calculateCosts n = Scorer.calculateCosts n := by
  rw [calculateCosts, SemanticEconomicsBridge.fatigueCostPaise_intCast]
  rfl

lemma classifyIVENBand_intCast (n : ℤ) : classifyIVENBand n = Scorer.classifyIVENBand n := by
  simp only [classifyIVENBand, Scorer.classifyIVENBand]
  norm_cast

lemma le_totalCostPaise (attemptCount : ℚ) : 400 ≤ (calculateCosts attemptCount).totalCostPaise :=
  le_add_of_nonneg_right (SemanticEconomicsBridge.fatigueCostPaise_nonneg attemptCount)

/-! ### The means -/

section Means

variable {declineType : DeclineType} {bayes : EffectiveProbabilities K}
  {banditSample : ThompsonSample K} {p lower mean std : K}

lemma le_naturalMean : 0.01 ≤ naturalMean bayes banditSample := le_max_left ..

lemma naturalMean_le_iff {x : K} (hx : 0.01 ≤ x) (hx' : x < 0.95) :
    naturalMean bayes banditSample ≤ x ↔ average bayes.pNatural banditSample.pNatural ≤ x := by
  rw [naturalMean, max_le_iff, min_le_iff]
  exact ⟨fun h => h.2.resolve_left hx'.not_ge, fun h => ⟨hx, .inr h⟩⟩

lemma add_minSoftLift_le_interventionMean :
    naturalMean bayes banditSample + minSoftLift declineType ≤
      interventionMean declineType bayes banditSample := le_max_left ..

lemma interventionMean_le_iff {x : K} (hx : 0.98 ≤ x) :
    interventionMean declineType bayes banditSample ≤ x ↔
      naturalMean bayes banditSample + minSoftLift declineType ≤ x := by
  rw [interventionMean, max_le_iff, and_iff_left ((min_le_left ..).trans hx)]

variable [IsStrictOrderedRing K]

lemma naturalMean_le : naturalMean bayes banditSample ≤ 0.95 :=
  max_le (by norm_num) (min_le_left ..)

lemma minSoftLift_nonneg : (0 : K) ≤ minSoftLift declineType := by
  rw [minSoftLift]
  split_ifs
  · norm_num
  · exact le_rfl

lemma interventionMean_le_one : interventionMean declineType bayes banditSample ≤ 1 := by
  have hnat : naturalMean bayes banditSample ≤ 0.95 := naturalMean_le
  rw [interventionMean_le_iff (by norm_num), minSoftLift]
  split_ifs
  · linarith
  · linarith

/-- The intervention mean leaves the range of its interval when the models average too high. -/
lemma interventionMean_le_upper_iff :
    interventionMean declineType bayes banditSample ≤ 0.99 ↔
      ¬LiftsPastInterval declineType bayes banditSample := by
  rw [interventionMean_le_iff (by norm_num), LiftsPastInterval, minSoftLift]
  split_ifs with hsoft
  · rw [not_and, not_lt, forall_prop_of_true hsoft,
      ← naturalMean_le_iff (by norm_num) (by norm_num)]
    constructor
    · intro h
      linarith
    · intro h
      linarith
  · have hnat : naturalMean bayes banditSample ≤ 0.95 := naturalMean_le
    exact iff_of_true (by linarith) fun h => hsoft h.1

lemma uplift_eq : uplift declineType bayes banditSample =
    interventionMean declineType bayes banditSample - naturalMean bayes banditSample := by
  have hlift : naturalMean bayes banditSample + minSoftLift declineType ≤
      interventionMean declineType bayes banditSample := add_minSoftLift_le_interventionMean
  rw [uplift, max_eq_right]
  linarith

lemma uplift_le : uplift declineType bayes banditSample ≤ 0.99 := by
  have hnat : 0.01 ≤ naturalMean bayes banditSample := le_naturalMean
  have hint : interventionMean declineType bayes banditSample ≤ 1 := interventionMean_le_one
  rw [uplift_eq]
  linarith

/-! ### The intervals -/

lemma meanStd_nonneg : 0 ≤ meanStd p := le_max_of_le_left (by norm_num)

/-- An interval around a mean contains it exactly when the mean is not past the upper limit. -/
lemma credible_iff (hlower : 0 ≤ lower) (hmean : lower ≤ mean) (hstd : 0 ≤ std) :
    Credible (credibleInterval lower mean std) mean ↔ mean ≤ 0.99 := by
  have hwidth : 0 ≤ 1.96 * std := mul_nonneg (by norm_num) hstd
  constructor
  · intro h
    exact h.le_upper.trans (min_le_left ..)
  · intro h
    exact
      { nonneg := hlower.trans (le_max_left ..)
        lower_le := max_le hmean (sub_le_self _ hwidth)
        le_upper := le_min h (le_add_of_nonneg_right hwidth)
        le_one := (min_le_left ..).trans (by norm_num) }

lemma credible_hardDecline : Credible ((0.01, 0.03) : K × K) 0.02 where
  nonneg := by norm_num
  lower_le := by norm_num
  le_upper := by norm_num
  le_one := by norm_num

end Means

/-! ### The result -/

section Result

variable [IsStrictOrderedRing K] {opp : RecoveryOpportunity}

lemma lawful_hardDeclineProfile (h : opp.declineType = .hard) :
    Lawful opp.declineType (hardDeclineProfile opp : CausalUpliftProfile K) where
  natural := by constructor <;> norm_num [hardDeclineProfile]
  intervention := by constructor <;> norm_num [hardDeclineProfile]
  effect := (sub_self _).symm
  naturalInterval := credible_hardDecline
  interventionInterval := credible_hardDecline
  effectInterval := ⟨le_rfl, le_rfl, le_rfl, zero_le_one⟩
  soft hsoft := by cases h.symm.trans hsoft
  hard _ := by
    have hcost := le_totalCostPaise opp.attemptCount
    simp only [hardDeclineProfile]
    linarith

variable [FloorRing K] (r : SquareRoot K)
  (effectiveProbabilities : String → DeclineType → EffectiveProbabilities K)
  (sampleProbabilities : RecoveryOpportunity → String → ThompsonSample K)
  (customerTrustScore : Option ℚ) (opp : RecoveryOpportunity)

/-- The means, and the effect between them, obey their laws for any answers of the models. -/
lemma lawful_of_interventionMean_le (hhard : opp.declineType ≠ .hard)
    (h : interventionMean opp.declineType
      (effectiveProbabilities (Js.toLowerCase opp.reasonCode) opp.declineType)
      (sampleProbabilities opp opp.tenantId) ≤ 0.99) :
    Lawful opp.declineType (evaluateOpportunityUplift r effectiveProbabilities sampleProbabilities
      customerTrustScore opp) := by
  rw [evaluateOpportunityUplift, if_neg hhard]
  generalize effectiveProbabilities _ _ = bayes at h ⊢
  generalize sampleProbabilities _ _ = banditSample at h ⊢
  have hnat : 0.01 ≤ naturalMean bayes banditSample := le_naturalMean
  have hnat' : naturalMean bayes banditSample ≤ 0.95 := naturalMean_le
  have hlift : naturalMean bayes banditSample + minSoftLift opp.declineType ≤
    interventionMean opp.declineType bayes banditSample := add_minSoftLift_le_interventionMean
  have hmin : (0 : K) ≤ minSoftLift opp.declineType := minSoftLift_nonneg
  exact
    { natural := ⟨by linarith, by linarith⟩
      intervention := ⟨by linarith, by linarith⟩
      effect := uplift_eq
      naturalInterval := (credible_iff (by norm_num) hnat meanStd_nonneg).mpr (by linarith)
      interventionInterval := (credible_iff (by norm_num) (by linarith) meanStd_nonneg).mpr h
      effectInterval := (credible_iff le_rfl (hmin.trans (le_max_left ..)) (r.nonneg _)).mpr
        uplift_le
      soft := fun hsoft => (if_pos hsoft).ge.trans (le_max_left ..)
      hard := fun hh => absurd hh hhard }

/-- The profile of an opportunity obeys all laws exactly when it is not a soft decline whose natural
probabilities average above `0.94`. -/
theorem lawful_iff :
    Lawful opp.declineType (evaluateOpportunityUplift r effectiveProbabilities sampleProbabilities
        customerTrustScore opp) ↔
      ¬LiftsPastInterval opp.declineType
        (effectiveProbabilities (Js.toLowerCase opp.reasonCode) opp.declineType)
        (sampleProbabilities opp opp.tenantId) := by
  by_cases hhard : opp.declineType = .hard
  · rw [evaluateOpportunityUplift, if_pos hhard]
    exact iff_of_true (lawful_hardDeclineProfile hhard) fun h => by cases hhard.symm.trans h.1
  · rw [← interventionMean_le_upper_iff]
    constructor
    · intro h
      have hupper := h.interventionInterval.le_upper
      rw [evaluateOpportunityUplift, if_neg hhard] at hupper
      exact hupper.trans (min_le_left ..)
    · exact lawful_of_interventionMean_le r effectiveProbabilities sampleProbabilities
        customerTrustScore opp hhard

end Result

/-- A soft decline that both models expect to be recovered half of the time. -/
theorem lawful_even : Lawful .soft (evaluateOpportunityUplift SquareRoot.real
    (fun _ _ => ⟨0.5, 0.6, .static⟩) (fun _ _ => ⟨0.5, 0.6⟩) none
    (sampleOpportunity "opp_1" .pending)) := by
  refine (lawful_iff SquareRoot.real _ _ none (sampleOpportunity "opp_1" .pending)).mpr fun h => ?_
  have hlifts : (0.94 : ℝ) < average 0.5 0.5 := h.2
  rw [average_self] at hlifts
  norm_num at hlifts

/-- Both models give a soft decline a natural probability of `0.95`: the intervention mean is `1`, and
its interval ends at `0.99`. -/
theorem not_lawful_certain :
    (0.95 : ℝ) ∈ Set.Icc 0 1 ∧
      ¬Lawful .soft (evaluateOpportunityUplift SquareRoot.real (fun _ _ => ⟨0.95, 0.95, .static⟩)
        (fun _ _ => ⟨0.95, 0.95⟩) none (sampleOpportunity "opp_1" .pending)) := by
  refine ⟨by constructor <;> norm_num, fun h => ?_⟩
  have hupper : interventionMean (K := ℝ) .soft ⟨0.95, 0.95, .static⟩ ⟨0.95, 0.95⟩ ≤ 0.99 :=
    h.interventionInterval.le_upper.trans (min_le_left ..)
  refine interventionMean_le_upper_iff.mp hupper ⟨rfl, ?_⟩
  rw [average_self]
  norm_num

end CausalUpliftEngine

end CtrlRecovery
