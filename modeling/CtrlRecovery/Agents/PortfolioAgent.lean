import CtrlRecovery.Agents.Daemon
import CtrlRecovery.Agents.Estimators
import CtrlRecovery.Core.Ranking
import CtrlRecovery.Core.Rounding
import CtrlRecovery.Db.OpportunityRepository
import CtrlRecovery.Db.Sample
import CtrlRecovery.Economics.Scorer

/-!
# The portfolio agent

A sweep lists the opportunities of some statuses by their priority and recommends the first of those
that it proposes to act on, as many as there is capacity. It proposes only: its one write is the score
of an opportunity that has none (`sweep_contract`).
-/

namespace CtrlRecovery

open Core

namespace PortfolioSweep

def W_IVEN : ℚ := 0.40

def W_TIME : ℚ := 0.25

def W_GATEWAY : ℚ := 0.15

def W_FATIGUE : ℚ := 0.10

def W_EXPIRY : ℚ := 0.10

def MAX_OPPORTUNITY_AGE_HOURS : ℚ := 72

def DEFAULT_GATEWAY_HEALTH : ℚ := 0.95

structure OpportunityPriority where
  opportunityId : String
  ivenPaise : ℤ
  timeUrgency : ℚ
  fatigueRisk : ℚ
  gatewayConfidence : ℚ
  expiryRisk : ℚ
  priorityScore : ℚ
  proposedAction : ProposedAction
  rationale : String
  deriving DecidableEq, Repr

structure PortfolioProposal where
  id : String
  timestamp : Timestamp
  totalScanned : ℕ
  priorities : List OpportunityPriority
  capacityAvailable : ℚ
  topKRecommendations : List String
  portfolioSummary : String
  deriving DecidableEq, Repr

structure Params where
  capacity : Option ℚ := none
  gatewayHealth : Option ℚ := none
  filterStatuses : Option (List String) := none
  maxCandidates : Option ℚ := none
  tenantId : Option String := none

/-- What a sweep reads besides the tables of the engine: the clock, which opportunities have a
perception annotation, which customers are known, the trust column of an opportunity, and the random
part of its id. -/
structure Surroundings where
  now : Timestamp
  hasPerception : String → Bool
  hasCustomer : String → Bool
  customerTrustScore : String → ℚ
  suffix : String

/-! ### Signals -/

section Signals

variable (env : Surroundings) (opp : RecoveryOpportunity)

def ageHours : ℚ := ((env.now : ℚ) - opp.createdAt) / (3600 * 1000)

def computeTimeUrgency : ℚ := Js.roundFixed (min (ageHours env opp / MAX_OPPORTUNITY_AGE_HOURS) 1) 4

def computeFatigueRisk : ℚ :=
  let attemptFatigue := min (opp.attemptCount / 5) 1
  let trustPenalty := max 0 (1 - env.customerTrustScore opp.id)
  Js.roundFixed (attemptFatigue * 0.6 + trustPenalty * 0.4) 4

def computeExpiryRisk : ℚ :=
  if ageHours env opp ≥ MAX_OPPORTUNITY_AGE_HOURS then 1
  else if ageHours env opp ≥ MAX_OPPORTUNITY_AGE_HOURS * 0.75 then 0.8
  else if ageHours env opp ≥ MAX_OPPORTUNITY_AGE_HOURS * 0.5 then 0.4
  else Js.roundFixed (ageHours env opp / MAX_OPPORTUNITY_AGE_HOURS * 0.3) 4

end Signals

/-! ### Proposals -/

section Proposals

variable (env : Surroundings) (gatewayHealth : ℚ) (opp : RecoveryOpportunity) (score : Score)

def uncertainty : UncertaintyModel.UncertaintyAssessment :=
  UncertaintyModel.assess
    { opportunity := opp
      score := some score
      hasPerception := env.hasPerception opp.id
      hasCustomerHistory := env.hasCustomer opp.customerId
      hasGatewayState := true
      historicalSampleSize := 15
      historicalCalibrationError := 0.25 }

def infoValue : InformationValueEstimator.InformationValueResult :=
  InformationValueEstimator.estimate
    { opportunity := opp
      score := some score
      gatewayHealth := gatewayHealth
      compositeConfidence := (uncertainty env opp score).compositeConfidence
      hasPerception := env.hasPerception opp.id }

def proposedAction : ProposedAction :=
  let uncertainty := uncertainty env opp score
  let infoValue := infoValue env gatewayHealth opp score
  if opp.declineType = .hard then .wait
  else if uncertainty.recommendation = .investigate ∨ infoValue.recommendedAction = .investigate then
    .investigate
  else if infoValue.recommendedAction = .wait ∨ uncertainty.recommendation = .humanReview then .wait
  else .act

/-- The value on a scale up to ten thousand rupees. -/
def normIven : ℚ := min (max (score.expectedIncrementalValuePaise / 1000000) 0) 1

def priorityScore : ℚ :=
  Js.roundFixed (W_IVEN * normIven score + W_TIME * computeTimeUrgency env opp +
    W_GATEWAY * gatewayHealth - W_FATIGUE * computeFatigueRisk env opp -
    W_EXPIRY * computeExpiryRisk env opp) 4

def rationale : String :=
  let gain := (infoValue env gatewayHealth opp score).expectedValueOfInformationPaise
  ", ".intercalate
    [s!"IVEN=₹{Js.rupees score.expectedIncrementalValuePaise} (norm={Js.toFixed (normIven score) 3})",
      s!"time_urgency={Js.toFixed (computeTimeUrgency env opp) 3}",
      s!"gateway={Js.toFixed gatewayHealth 2}",
      s!"fatigue={Js.toFixed (computeFatigueRisk env opp) 3}",
      s!"expiry={Js.toFixed (computeExpiryRisk env opp) 3}",
      s!"uncertainty={Js.toFixed (uncertainty env opp score).compositeConfidence 3}",
      s!"info_value=₹{Js.rupees gain}"]

def priority : OpportunityPriority where
  opportunityId := opp.id
  ivenPaise := score.expectedIncrementalValuePaise
  timeUrgency := computeTimeUrgency env opp
  fatigueRisk := computeFatigueRisk env opp
  gatewayConfidence := gatewayHealth
  expiryRisk := computeExpiryRisk env opp
  priorityScore := priorityScore env gatewayHealth opp score
  proposedAction := proposedAction env gatewayHealth opp score
  rationale := rationale env gatewayHealth opp score

end Proposals

/-! ### The sweep -/

/-- The opportunities of the target statuses, up to a number of them. -/
def candidates (params : Params) (db : Db) : List RecoveryOpportunity :=
  let filterStatuses := params.filterStatuses.getD ["pending", "scored", "deferred"]
  let matching := (db.getAllOpportunities params.tenantId none).filter
    fun o => o.status.text ∈ filterStatuses
  match params.maxCandidates with
  | some maxCandidates => if maxCandidates > 0 then Js.sliceTo maxCandidates matching else matching
  | none               => matching

def countOf (action : ProposedAction) (priorities : List OpportunityPriority) : ℕ :=
  (priorities.filter fun p => p.proposedAction = action).length

def portfolioSummary (totalScanned : ℕ) (priorities : List OpportunityPriority) (topK : List String)
    (capacity : ℚ) : String :=
  let listed := ", ".intercalate topK
  " ".intercalate
    [s!"Portfolio sweep scanned {totalScanned} opportunities.",
      s!"Proposed: {countOf .act priorities} ACT, {countOf .wait priorities} WAIT, " ++
        s!"{countOf .investigate priorities} INVESTIGATE.",
      s!"Top-{Js.numberToString (min capacity topK.length)} recommended for Recovery Market: " ++
        s!"[{listed}].",
      s!"Capacity available: {Js.numberToString capacity}."]

/-- Scan, score, rank and propose. A candidate without a score is scored on the way. -/
def sweep (est : Estimator) (env : Surroundings) (params : Params) (db : Db) :
    PortfolioProposal × Db :=
  let capacity := params.capacity.getD 5
  let gatewayHealth := params.gatewayHealth.getD DEFAULT_GATEWAY_HEALTH
  let scored := Scorer.scoreItems est db (candidates params db)
  let priorities := rank OpportunityPriority.priorityScore
    (scored.1.map fun item => priority env gatewayHealth item.1 item.2)
  let actEligible := priorities.filter fun p => p.proposedAction = .act
  let topK := (Js.sliceTo capacity actEligible).map OpportunityPriority.opportunityId
  let totalScanned := (candidates params db).length
  ({ id := s!"portfolio_{env.now}_{env.suffix}"
     timestamp := env.now
     totalScanned := totalScanned
     priorities := priorities
     capacityAvailable := capacity
     topKRecommendations := topK
     portfolioSummary := portfolioSummary totalScanned priorities topK capacity }, scored.2)

/-! ### What a sweep proposes -/

section Act

variable {env : Surroundings} {gatewayHealth : ℚ} {opp : RecoveryOpportunity} {score : Score}

/-- With the sample size and the error of a sweep, the confidence is never low. -/
lemma low_le_composite (params : UncertaintyModel.Params) (hscore : params.score.isSome)
    (hgateway : params.hasGatewayState) (hsize : params.historicalSampleSize = 15)
    (herror : params.historicalCalibrationError = 0.25) :
    UncertaintyModel.LOW_THRESHOLD ≤ UncertaintyModel.composite params := by
  have hmodel : UncertaintyModel.modelConf params = 0.525 := by
    norm_num [UncertaintyModel.modelConf, UncertaintyModel.clamp, hsize, herror]
  have hdata := UncertaintyModel.le_dataConf params hscore hgateway
  have hecon := UncertaintyModel.le_econConf params hscore
  rw [UncertaintyModel.composite, hmodel]
  norm_num [UncertaintyModel.LOW_THRESHOLD, UncertaintyModel.W_MODEL, UncertaintyModel.W_DATA,
    UncertaintyModel.W_ECONOMIC] at hdata hecon ⊢
  linarith

/-- What is known of an opportunity that is proposed to be acted on. -/
structure Actionable (env : Surroundings) (gatewayHealth : ℚ) (opp : RecoveryOpportunity)
    (score : Score) : Prop where
  declineType : opp.declineType ≠ .hard
  iven : 5000 < score.expectedIncrementalValuePaise
  gateway : 0.75 ≤ gatewayHealth
  confidence : 0.70 ≤ (uncertainty env opp score).compositeConfidence

lemma actionable_of_act (h : proposedAction env gatewayHealth opp score = .act) :
    Actionable env gatewayHealth opp score := by
  simp only [proposedAction] at h
  split_ifs at h with hhard hinvestigate hwait
  rw [not_or] at hinvestigate hwait
  have hact : (infoValue env gatewayHealth opp score).recommendedAction = .act := by
    cases haction : (infoValue env gatewayHealth opp score).recommendedAction with
    | act => rfl
    | wait => exact absurd haction hwait.1
    | investigate => exact absurd haction hinvestigate.2
  obtain ⟨hiven, hgateway⟩ := InformationValueEstimator.recommendedAction_act _ hact
  refine ⟨hhard, hiven, hgateway, ?_⟩
  -- the uncertainty model leaves only to proceed
  have hproceed : (uncertainty env opp score).recommendation = .proceed :=
    (UncertaintyModel.recommendation_of_low _ (low_le_composite _ rfl rfl rfl rfl)).resolve_right
      hinvestigate.1
  have hcomposite := (UncertaintyModel.recommendation_proceed_iff _).mp hproceed
  have hfixed : Js.roundFixed 0.70 4 = 0.70 := Js.roundFixed_of_isFixed ⟨7000, by norm_num⟩
  exact hfixed ▸ Js.roundFixed_mono hcomposite

end Act

/-! ### The contract of a sweep -/

lemma mem_candidates {params : Params} {db : Db} (h : params.maxCandidates = none)
    {o : RecoveryOpportunity} : o ∈ candidates params db ↔
      o ∈ db.opportunities.rows ∧ Db.inScope params.tenantId none o ∧
        o.status.text ∈ params.filterStatuses.getD ["pending", "scored", "deferred"] := by
  simp only [candidates, h, List.mem_filter, Db.mem_getAllOpportunities, decide_eq_true_eq, and_assoc]

lemma nodup_candidates (params : Params) (db : Db) : ((candidates params db).map (·.id)).Nodup := by
  have hmatching : (((db.getAllOpportunities params.tenantId none).filter fun o =>
      o.status.text ∈ params.filterStatuses.getD ["pending", "scored", "deferred"]).map
      (·.id)).Nodup :=
    (db.nodup_getAllOpportunities params.tenantId none).sublist (List.filter_sublist.map _)
  rw [candidates]
  split
  · split_ifs
    · exact hmatching.sublist ((Js.prefix_sliceTo _ _).sublist.map _)
    · exact hmatching
  · exact hmatching

section Contract

variable (est : Estimator) (env : Surroundings) (params : Params) (db : Db)

/-- The contract of a sweep: its list, its recommendations and what it leaves alone. -/
structure SweepContract : Prop where
  candidates : params.maxCandidates = none → ∀ o, o ∈ candidates params db ↔
    o ∈ db.opportunities.rows ∧ Db.inScope params.tenantId none o ∧
      o.status.text ∈ params.filterStatuses.getD ["pending", "scored", "deferred"]
  listed : ((sweep est env params db).1.priorities.map (·.opportunityId)).Perm
    ((PortfolioSweep.candidates params db).map (·.id))
  once : ((sweep est env params db).1.priorities.map (·.opportunityId)).Nodup
  ordered : (sweep est env params db).1.priorities.Pairwise fun p q => q.priorityScore ≤ p.priorityScore
  topK : (sweep est env params db).1.topKRecommendations =
    let acts := (sweep est env params db).1.priorities.filter fun p => p.proposedAction = .act
    (acts.take (min ⌊params.capacity.getD 5⌋₊ acts.length)).map (·.opportunityId)
  acts : ∀ p ∈ (sweep est env params db).1.priorities, p.proposedAction = .act →
    ∃ opp ∈ PortfolioSweep.candidates params db, ∃ score, score = Scorer.effectiveScore est db opp ∧
      p = priority env (params.gatewayHealth.getD DEFAULT_GATEWAY_HEALTH) opp score ∧
      Actionable env (params.gatewayHealth.getD DEFAULT_GATEWAY_HEALTH) opp score
  allocationDecisions : (sweep est env params db).2.allocationDecisions = db.allocationDecisions
  authorityChecks : (sweep est env params db).2.authorityChecks = db.authorityChecks
  executionRecords : (sweep est env params db).2.executionRecords = db.executionRecords

lemma perm_priorities : (sweep est env params db).1.priorities.Perm
    ((candidates params db).map fun o => priority env
      (params.gatewayHealth.getD DEFAULT_GATEWAY_HEALTH) o (Scorer.effectiveScore est db o)) := by
  rw [sweep, Scorer.scoreItems_fst (nodup_candidates params db), List.map_map]
  exact rank_perm _ _

variable {est env params db}

/-- With any capacity that is not negative a sweep keeps its contract. -/
theorem sweep_contract (hcapacity : 0 ≤ params.capacity.getD 5) : SweepContract est env params db := by
  have hids := (perm_priorities est env params db).map (·.opportunityId)
  rw [List.map_map] at hids
  constructor
  · exact fun h o => mem_candidates h
  · exact hids
  · exact hids.nodup_iff.mpr (nodup_candidates params db)
  · exact pairwise_rank _ _
  · simp only [sweep, Js.sliceTo, Js.sliceLength, if_pos hcapacity]
  · intro p hp hact
    obtain ⟨opp, hopp, rfl⟩ := List.mem_map.mp ((perm_priorities est env params db).mem_iff.mp hp)
    exact ⟨opp, hopp, _, rfl, rfl, actionable_of_act hact⟩
  · exact Scorer.scoreItems_allocationDecisions
  · exact Scorer.scoreItems_authorityChecks
  · exact (Scorer.sameBooks_scoreItems est db _).executionRecords

end Contract

/-- The sweep of the daemon, of which its model keeps the effect on the database. -/
lemma sweep_daemon (est : Estimator) (env : Surroundings) (capacity : Option ℚ) (db : Db)
    (tenantId : Option String) :
    (sweep est env { capacity := capacity, tenantId := tenantId } db).2 =
      PortfolioAgent.sweep est db tenantId := by
  have hstatus : ∀ status : OpportunityStatus,
      decide (status.text ∈ ["pending", "scored", "deferred"]) = Market.isAllocatable status := by
    intro status
    cases status <;> decide
  simp only [sweep, candidates, Option.getD_none, hstatus, PortfolioAgent.sweep,
    PortfolioAgent.candidateOpps]

/-- An hour and a half later, with a perception annotation for every opportunity. -/
def sampleSurroundings : Surroundings := ⟨5401000, fun _ => true, fun _ => false, fun _ => 1, "0a1b2c3d"⟩

def sampleDb : Db := .ofRows [sampleOpportunity "opp_1" .pending, sampleOpportunity "opp_2" .scored] []

def sampleParams : Params := { capacity := some 1 }

/-- Of two opportunities to act on, one is recommended. -/
theorem sweep_contract_sample : SweepContract .sample sampleSurroundings sampleParams sampleDb ∧
    (sweep .sample sampleSurroundings sampleParams sampleDb).1.topKRecommendations = ["opp_1"] :=
  ⟨sweep_contract (by norm_num [sampleParams]), by decide +kernel⟩

end PortfolioSweep

end CtrlRecovery
