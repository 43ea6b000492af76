import CtrlRecovery.Db.StatusWrites

/-!
# Scoring

The score of an opportunity is its expected incremental value: the gain in recovery probability
times the amount, less the cost of the intervention. The two probabilities come from a calibrated
cache or from a bandit sample; both are arguments here.

Scores are computed on demand: whoever needs a score reads the stored one, and computes and stores
it only where there is none. Computing it moves a pending opportunity to `scored`.
-/

namespace CtrlRecovery

open Core OpportunityStatus

/-- What a score is computed from. -/
structure ProbabilityEstimate where
  naturalRecoveryProb : ℚ
  interventionRecoveryProb : ℚ
  source : ProbabilitySource
  deriving DecidableEq, Repr

/-- The estimator of a process: the calibration engine's answer by lower-case reason and decline
type, or, with Thompson sampling enabled, the bandit's sample for an opportunity. -/
inductive Estimator
  | bayes (effectiveProbabilities : String → DeclineType → ProbabilityEstimate)
  | bandit (sampleProbabilities : RecoveryOpportunity → ℚ × ℚ)

/-- An estimator to evaluate runs on: a link lifts the probability of a recovery from 10% to 60%. -/
def Estimator.sample : Estimator := .bayes fun _ _ => ⟨1 / 10, 6 / 10, .static⟩

/-- A score as it is returned; only the columns of `Score` are stored. -/
structure CalculatedScore extends Score where
  tenantId : String
  ivenBand : IVENBand
  probabilitySource : ProbabilitySource
  deriving DecidableEq, Repr

structure CostBreakdown where
  operationalCostPaise : ℚ
  fatigueCostPaise : ℚ
  totalCostPaise : ℚ
  deriving DecidableEq, Repr

namespace Scorer

/-! ### The calculation -/

def classifyIVENBand (ivenPaise : ℤ) : IVENBand :=
  if ivenPaise ≥ 15000 then .strong
  else if ivenPaise ≥ 5000 then .moderate
  else if ivenPaise > 0 then .weak
  else .negative

/-- The calibrated probabilities; a hard decline has none to gain. -/
def estimateProbabilities (effectiveProbabilities : String → DeclineType → ProbabilityEstimate)
    (opp : RecoveryOpportunity) : ProbabilityEstimate :=
  let bayes := effectiveProbabilities (Js.toLowerCase opp.reasonCode) opp.declineType
  if opp.declineType = .hard then
    { bayes with naturalRecoveryProb := 2 / 100, interventionRecoveryProb := 2 / 100 }
  else bayes

/-- The probabilities of an opportunity; a bandit sample is clamped to the unit interval. -/
def probabilities (est : Estimator) (opp : RecoveryOpportunity) : ProbabilityEstimate :=
  match est with
  | .bayes effectiveProbabilities => estimateProbabilities effectiveProbabilities opp
  | .bandit sampleProbabilities =>
    let sample := sampleProbabilities opp
    { naturalRecoveryProb := max 0 (min 1 sample.1)
      interventionRecoveryProb := max 0 (min 1 sample.2)
      source := .calibrated }

/-- A fixed fee for each link, and a fatigue penalty that grows with the attempts. -/
def calculateCosts (attemptCount : ℤ) : CostBreakdown :=
  let fatigue : ℚ :=
    if attemptCount ≤ 1 then 0
    else if attemptCount = 2 then 250
    else if attemptCount = 3 then 750
    else 1500 + (attemptCount - 4) * 500
  { operationalCostPaise := 400
    fatigueCostPaise := fatigue
    totalCostPaise := 400 + fatigue }

def determineConfidence (opp : RecoveryOpportunity) : ConfidenceLevel :=
  let reason := Js.toLowerCase opp.reasonCode
  let isBankTimeout := Js.includes reason "timeout" || Js.includes reason "network" ||
    Js.includes reason "bank_gateway_timeout"
  if opp.declineType = .unknown ∨ opp.attemptCount ≥ 3 then .low
  else if opp.declineType = .hard ∨ isBankTimeout then .high
  else .medium

/-- The full calculation. A hard decline cannot have a positive value. -/
def calculateScore (est : Estimator) (opp : RecoveryOpportunity) : CalculatedScore :=
  let safeAmount : ℤ := max 0 ⌊opp.amountPaise⌋
  let safeAttempts : ℤ := max 1 (min 20 ⌊opp.attemptCount⌋)
  let probs := probabilities est opp
  let boundedIncremental :=
    max 0 (Js.roundFixed (probs.interventionRecoveryProb - probs.naturalRecoveryProb) 4)
  let costs := calculateCosts safeAttempts
  let value := Js.mathRound
    (boundedIncremental * safeAmount - costs.operationalCostPaise - costs.fatigueCostPaise)
  let value := if opp.declineType = .hard then min 0 value else value
  { opportunityId := opp.id
    naturalRecoveryProb := probs.naturalRecoveryProb
    interventionRecoveryProb := probs.interventionRecoveryProb
    incrementalProb := boundedIncremental
    operationalCostPaise := costs.operationalCostPaise
    fatigueCostPaise := costs.fatigueCostPaise
    expectedIncrementalValuePaise := value
    confidence := determineConfidence opp
    tenantId := opp.tenantId
    ivenBand := classifyIVENBand value
    probabilitySource := probs.source }

/-! ### Scoring on demand -/

def scoreOpportunity (est : Estimator) (db : Db) (opp : RecoveryOpportunity) : Score × Db :=
  let score := (calculateScore est opp).toScore
  let db := db.upsertScore score
  (score, if opp.status = pending then db.updateStatus opp.id scored else db)

def getOrScore (est : Estimator) (db : Db) (opp : RecoveryOpportunity) : Score × Db :=
  match db.getScoreByOpportunityId opp.id with
  | some score => (score, db)
  | none       => scoreOpportunity est db opp

def effectiveScore (est : Estimator) (db : Db) (opp : RecoveryOpportunity) : Score :=
  (db.getScoreByOpportunityId opp.id).getD (calculateScore est opp).toScore

/-- The status writes of asking for a score. -/
def scoringWrites (db : Db) (opp : RecoveryOpportunity) : List (String × OpportunityStatus) :=
  if (db.getScoreByOpportunityId opp.id).isNone ∧ opp.status = pending then [(opp.id, scored)]
  else []

variable (est : Estimator) (db : Db) (opp : RecoveryOpportunity)

lemma mem_scoringWrites {db : Db} {o : RecoveryOpportunity} {w : String × OpportunityStatus}
    (h : w ∈ scoringWrites db o) : w = (o.id, scored) ∧ o.status = pending := by
  rw [scoringWrites] at h
  split_ifs at h with hc
  · exact ⟨List.mem_singleton.mp h, hc.2⟩
  · cases h

@[simp] lemma getOrScore_fst : (getOrScore est db opp).1 = effectiveScore est db opp := by
  rw [getOrScore, effectiveScore]
  cases db.getScoreByOpportunityId opp.id <;> rfl

lemma getScoreByOpportunityId_getOrScore (j : String) :
    (getOrScore est db opp).2.getScoreByOpportunityId j =
      if j = opp.id then some (effectiveScore est db opp) else db.getScoreByOpportunityId j := by
  rw [getOrScore, effectiveScore]
  cases h : db.getScoreByOpportunityId opp.id with
  | some score =>
    split_ifs with hj
    · simp [hj, h]
    · rfl
  | none =>
    have hput : (db.upsertScore (calculateScore est opp).toScore).getScoreByOpportunityId j =
        if j = opp.id then some (calculateScore est opp).toScore
        else db.getScoreByOpportunityId j := Table.find?_put
    simp only [scoreOpportunity, Option.getD_none]
    rw [← hput]
    split_ifs
    · rw [Db.getScoreByOpportunityId, Db.updateStatus_scores, Db.getScoreByOpportunityId]
    · rfl

/-- Scoring writes `scored` over a pending row. -/
lemma sameRows_scoreOpportunity :
    SameRows (db.writeStatuses (if opp.status = pending then [(opp.id, scored)] else []))
      (scoreOpportunity est db opp).2 := by
  have hput : SameRows db (db.upsertScore (calculateScore est opp).toScore) := ⟨rfl, rfl, rfl, rfl⟩
  by_cases hp : opp.status = pending
  · simpa [scoreOpportunity, hp] using hput.updateStatus opp.id scored
  · simpa [scoreOpportunity, hp] using hput

lemma sameRows_getOrScore :
    SameRows (db.writeStatuses (scoringWrites db opp)) (getOrScore est db opp).2 := by
  rw [getOrScore, scoringWrites]
  cases h : db.getScoreByOpportunityId opp.id with
  | some score => simp
  | none => simpa using sameRows_scoreOpportunity est db opp

@[simp] lemma getOrScore_allocationDecisions :
    (getOrScore est db opp).2.allocationDecisions = db.allocationDecisions := by
  rw [getOrScore]
  cases db.getScoreByOpportunityId opp.id with
  | some score => rfl
  | none =>
    rw [scoreOpportunity]
    split_ifs
    · rw [Db.updateStatus_allocationDecisions]
      rfl
    · rfl

@[simp] lemma scoreOpportunity_authorityChecks :
    (scoreOpportunity est db opp).2.authorityChecks = db.authorityChecks := by
  rw [scoreOpportunity]
  split_ifs
  · rw [Db.updateStatus_authorityChecks]
    rfl
  · rfl

@[simp] lemma getOrScore_authorityChecks :
    (getOrScore est db opp).2.authorityChecks = db.authorityChecks := by
  rw [getOrScore]
  cases db.getScoreByOpportunityId opp.id with
  | some score => rfl
  | none => exact scoreOpportunity_authorityChecks est db opp

lemma sameBooks_scoreOpportunity : SameBooks db (scoreOpportunity est db opp).2 := by
  have hput : SameBooks db (db.upsertScore (calculateScore est opp).toScore) := ⟨rfl, rfl, rfl⟩
  rw [scoreOpportunity]
  split_ifs
  · exact hput.trans (.updateStatus _ _ _)
  · exact hput

lemma sameBooks_getOrScore : SameBooks db (getOrScore est db opp).2 := by
  rw [getOrScore]
  cases db.getScoreByOpportunityId opp.id with
  | some score => exact .refl db
  | none => exact sameBooks_scoreOpportunity est db opp

@[simp] lemma getOrScore_executionRecords :
    (getOrScore est db opp).2.executionRecords = db.executionRecords :=
  (sameBooks_getOrScore est db opp).executionRecords

lemma effectiveScore_of_stored {score : Score} (h : db.getScoreByOpportunityId opp.id = some score) :
    effectiveScore est db opp = score := by
  rw [effectiveScore, h, Option.getD_some]

lemma effectiveScore_getOrScore {o : RecoveryOpportunity} (h : o.id = opp.id → o = opp) :
    effectiveScore est (getOrScore est db opp).2 o = effectiveScore est db o := by
  by_cases ho : o.id = opp.id
  · cases h ho
    rw [effectiveScore, getScoreByOpportunityId_getOrScore, if_pos rfl, Option.getD_some]
  · rw [effectiveScore, getScoreByOpportunityId_getOrScore, if_neg ho, effectiveScore]

/-! ### Scoring a list -/

/-- The opportunities of a list with their scores, asked for one after the other. -/
def scoreItems (est : Estimator) : Db → List RecoveryOpportunity →
    List (RecoveryOpportunity × Score) × Db
  | db, []          => ([], db)
  | db, opp :: opps =>
    let asked := getOrScore est db opp
    let rest := scoreItems est asked.2 opps
    ((opp, asked.1) :: rest.1, rest.2)

lemma scoreItems_cons (opps : List RecoveryOpportunity) :
    scoreItems est db (opp :: opps) =
      ((opp, (getOrScore est db opp).1) :: (scoreItems est (getOrScore est db opp).2 opps).1,
        (scoreItems est (getOrScore est db opp).2 opps).2) := by
  rfl

variable {est db} {opps : List RecoveryOpportunity}

lemma scoreItems_fst (h : (opps.map (·.id)).Nodup) :
    (scoreItems est db opps).1 = opps.map fun o => (o, effectiveScore est db o) := by
  induction opps generalizing db with
  | nil => rfl
  | cons opp opps ih =>
    simp only [List.map_cons, List.nodup_cons] at h
    simp only [scoreItems_cons, ih h.2, List.map_cons, getOrScore_fst, List.cons.injEq, true_and]
    refine List.map_congr_left fun o ho => ?_
    rw [effectiveScore_getOrScore _ _ _ fun heq => absurd (List.mem_map.mpr ⟨o, ho, heq⟩) h.1]

/-- The score of an opportunity is the same after a list that it is in, or whose ids are not its
own, was scored. -/
lemma effectiveScore_scoreItems (est : Estimator) (db : Db) (opps : List RecoveryOpportunity)
    (o : RecoveryOpportunity) (h : ∀ opp ∈ opps, o.id = opp.id → o = opp) :
    effectiveScore est (scoreItems est db opps).2 o = effectiveScore est db o := by
  induction opps generalizing db with
  | nil => rfl
  | cons opp opps ih =>
    rw [scoreItems_cons, ih _ fun opp' hopp' => h opp' (List.mem_cons_of_mem _ hopp'),
      effectiveScore_getOrScore _ _ _ (h opp List.mem_cons_self)]

lemma getScoreByOpportunityId_scoreItems_of_stored {j : String} {score : Score}
    (h : db.getScoreByOpportunityId j = some score) :
    (scoreItems est db opps).2.getScoreByOpportunityId j = some score := by
  induction opps generalizing db with
  | nil => exact h
  | cons opp opps ih =>
    refine ih ?_
    rw [getScoreByOpportunityId_getOrScore]
    split_ifs with hj
    · subst hj
      rw [effectiveScore_of_stored _ _ _ h]
    · exact h

lemma getScoreByOpportunityId_scoreItems_of_notMem {j : String} (h : j ∉ opps.map (·.id)) :
    (scoreItems est db opps).2.getScoreByOpportunityId j = db.getScoreByOpportunityId j := by
  induction opps generalizing db with
  | nil => rfl
  | cons opp opps ih =>
    rw [List.map_cons, List.mem_cons, not_or] at h
    rw [scoreItems_cons, ih h.2, getScoreByOpportunityId_getOrScore, if_neg h.1]

/-- Every opportunity of a scored list has a stored score. -/
lemma getScoreByOpportunityId_scoreItems (est : Estimator) (db : Db)
    (hnodup : (opps.map (·.id)).Nodup) {opp : RecoveryOpportunity} (h : opp ∈ opps) :
    (scoreItems est db opps).2.getScoreByOpportunityId opp.id =
      some (effectiveScore est db opp) := by
  induction opps generalizing db with
  | nil => cases h
  | cons o opps ih =>
    simp only [List.map_cons, List.nodup_cons] at hnodup
    rw [scoreItems_cons]
    rcases List.mem_cons.mp h with rfl | h
    · refine getScoreByOpportunityId_scoreItems_of_stored ?_
      rw [getScoreByOpportunityId_getOrScore, if_pos rfl]
    · rw [ih _ hnodup.2 h, effectiveScore_getOrScore _ _ _ fun heq =>
        absurd (List.mem_map.mpr ⟨opp, h, heq⟩) hnodup.1]

lemma sameRows_scoreItems (h : (opps.map (·.id)).Nodup) :
    SameRows (db.writeStatuses (opps.flatMap (scoringWrites db))) (scoreItems est db opps).2 := by
  induction opps generalizing db with
  | nil => exact .refl db
  | cons opp opps ih =>
    simp only [List.map_cons, List.nodup_cons] at h
    have hwrites : opps.flatMap (scoringWrites db) =
        opps.flatMap (scoringWrites (getOrScore est db opp).2) := by
      refine List.flatMap_congr fun o ho => ?_
      have hne : o.id ≠ opp.id := fun heq => h.1 (List.mem_map.mpr ⟨o, ho, heq⟩)
      rw [scoringWrites, scoringWrites, getScoreByOpportunityId_getOrScore, if_neg hne]
    rw [List.flatMap_cons, Db.writeStatuses_append, hwrites, scoreItems_cons]
    exact ((sameRows_getOrScore est db opp).writeStatuses _).trans (ih h.2)

@[simp] lemma scoreItems_allocationDecisions :
    (scoreItems est db opps).2.allocationDecisions = db.allocationDecisions := by
  induction opps generalizing db with
  | nil => rfl
  | cons opp opps ih => rw [scoreItems_cons, ih, getOrScore_allocationDecisions]

@[simp] lemma scoreItems_authorityChecks :
    (scoreItems est db opps).2.authorityChecks = db.authorityChecks := by
  induction opps generalizing db with
  | nil => rfl
  | cons opp opps ih => rw [scoreItems_cons, ih, getOrScore_authorityChecks]

lemma sameBooks_scoreItems (est : Estimator) (db : Db) (opps : List RecoveryOpportunity) :
    SameBooks db (scoreItems est db opps).2 := by
  induction opps generalizing db with
  | nil => exact .refl db
  | cons opp opps ih => exact (sameBooks_getOrScore est db opp).trans (ih _)

end Scorer

end CtrlRecovery
