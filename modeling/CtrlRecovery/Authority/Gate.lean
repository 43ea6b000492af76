import CtrlRecovery.Authority.RuleRegistry
import CtrlRecovery.Market.Allocator

/-!
# The action authority gate

`evaluateOpportunity` runs the compliance rules on one opportunity, stores their checks and writes
the status that they suggest. `runAuthorityPipeline` runs the market and then evaluates every
opportunity of the scope that is allocated, pending or scored.

The rules are evaluated on the row that the caller holds; the status write goes through the guard of
the repository, so that an authorized verdict need not come with the status `authorized`.
-/

namespace CtrlRecovery

open Core OpportunityStatus Scorer

structure AuthorityEvaluationResult where
  opportunityId : String
  verdict : AuthorityVerdict
  checks : List AuthorityCheck
  summaryReason : String
  deriving DecidableEq, Repr

namespace Authority

/-- The decision that stands in for a missing one. -/
def unallocated (opportunityId reason : String) : AllocationDecision where
  opportunityId := opportunityId
  decision := .wait
  rankInBatch := 999
  shadowPricePaiseAtDecision := 0
  reason := reason

def evaluateRules (ks : KillSwitches) (opp : RecoveryOpportunity) (score : Score)
    (decision : AllocationDecision) : AuthorityRuleRegistry.RuleEngineEvaluationResult :=
  AuthorityRuleRegistry.evaluate (AuthorityRuleRegistry.registerDefaultRules ks)
    { opportunity := opp, score := score, decision := decision, tenantId := opp.tenantId }

/-- Store the checks of an evaluation in place of the earlier ones. -/
def persistChecks (db : Db) (id : String) (checks : List AuthorityCheck) (now : Timestamp) : Db :=
  checks.foldl (fun db check => db.insertAuthorityCheck check now)
    (db.clearAuthorityChecksForOpportunity id)

/-- Evaluate one opportunity; a decision or score that is not passed is looked up. -/
def evaluateOpportunity (ks : KillSwitches) (est : Estimator) (now : Timestamp) (db : Db)
    (opp : RecoveryOpportunity) (decision : Option AllocationDecision) (score : Option Score) :
    AuthorityEvaluationResult × Db :=
  let asked := match score with
    | some score => (score, db)
    | none       => getOrScore est db opp
  let effectiveDecision :=
    (decision <|> asked.2.getAllocationDecisionByOpportunityId opp.id).getD
      (unallocated opp.id "Unallocated opportunity pending market allocation run")
  let ruleResult := evaluateRules ks opp asked.1 effectiveDecision
  ({ opportunityId := opp.id
     verdict := ruleResult.verdict
     checks := ruleResult.checks
     summaryReason := ruleResult.summaryReason },
    (persistChecks asked.2 opp.id ruleResult.checks now).updateStatus opp.id
      ruleResult.suggestedStatus)

/-- Evaluate one opportunity with its stored score and decision. -/
def evaluateStored (ks : KillSwitches) (est : Estimator) (now : Timestamp) (reason : String)
    (db : Db) (opp : RecoveryOpportunity) : AuthorityEvaluationResult × Db :=
  let asked := getOrScore est db opp
  let decision := (asked.2.getAllocationDecisionByOpportunityId opp.id).getD
    (unallocated opp.id reason)
  evaluateOpportunity ks est now asked.2 opp (some decision) (some asked.1)

/-- Evaluate a list of opportunities, one after the other. -/
def evaluateAll (ks : KillSwitches) (est : Estimator) (now : Timestamp) (reason : String) :
    Db → List RecoveryOpportunity → List AuthorityEvaluationResult × Db
  | db, []          => ([], db)
  | db, opp :: opps =>
    let evaluated := evaluateStored ks est now reason db opp
    let rest := evaluateAll ks est now reason evaluated.2 opps
    (evaluated.1 :: rest.1, rest.2)

structure AuthorityPipelineResult where
  killSwitchActive : Bool
  totalEvaluated : ℕ
  authorizedCount : ℕ
  blockedCount : ℕ
  abstainedCount : ℕ
  deferredCount : ℕ
  results : List AuthorityEvaluationResult
  deriving DecidableEq, Repr

/-- The statuses that the pipeline evaluates. -/
def isEvaluated (status : OpportunityStatus) : Bool :=
  status == allocated || status == pending || status == scored

def countVerdict (results : List AuthorityEvaluationResult) (verdict : AuthorityVerdict) : ℕ :=
  results.countP fun r => r.verdict = verdict

/-- Market allocation followed by the gate. -/
def runAuthorityPipeline (platform : Platform) (ks : KillSwitches) (est : Estimator)
    (now : Timestamp) (options : AllocationOptions) (db : Db) : AuthorityPipelineResult × Db :=
  let db := (Market.runMarketAllocation platform est options db).2
  let env := Market.resolveEnvironment db options.tenantId options.environment
  let allOpps := (db.getAllOpportunities options.tenantId env).filter fun o => isEvaluated o.status
  let evaluated := evaluateAll ks est now "Unallocated evaluation" db allOpps
  ({ killSwitchActive := ks.isKillSwitchActive (options.tenantId.getD "") ""
     totalEvaluated := allOpps.length
     authorizedCount := countVerdict evaluated.1 .authorized
     blockedCount := countVerdict evaluated.1 .blocked
     abstainedCount := countVerdict evaluated.1 .abstain
     deferredCount := countVerdict evaluated.1 .wait
     results := evaluated.1 },
    evaluated.2)

/-! ### Evaluating a stored opportunity -/

/-- The decision that an evaluation with stored values works with. -/
def effectiveDecision (reason : String) (db : Db) (opp : RecoveryOpportunity) :
    AllocationDecision :=
  (db.getAllocationDecisionByOpportunityId opp.id).getD (unallocated opp.id reason)

/-- The type of the stored decision; without one the opportunity has to wait. -/
def decisionType (db : Db) (opp : RecoveryOpportunity) : DecisionType :=
  ((db.getAllocationDecisionByOpportunityId opp.id).map (·.decision)).getD .wait

/-- The rules' answer for an opportunity with its stored values. -/
@[irreducible]
def storedAnswer (ks : KillSwitches) (est : Estimator) (reason : String) (db : Db)
    (opp : RecoveryOpportunity) : AuthorityRuleRegistry.RuleEngineEvaluationResult :=
  evaluateRules ks opp (effectiveScore est db opp) (effectiveDecision reason db opp)

variable {ks : KillSwitches} {est : Estimator} {now : Timestamp} {reason : String} {db : Db}
  {opp : RecoveryOpportunity}

@[simp] lemma effectiveDecision_decision :
    (effectiveDecision reason db opp).decision = decisionType db opp := by
  rw [effectiveDecision, decisionType]
  cases db.getAllocationDecisionByOpportunityId opp.id <;> rfl

lemma storedAnswer_def : storedAnswer ks est reason db opp =
    evaluateRules ks opp (effectiveScore est db opp) (effectiveDecision reason db opp) := by
  delta storedAnswer
  rfl

/-- With stored values, the verdict is `AUTHORIZED` exactly for a cleared opportunity. -/
lemma storedAnswer_verdict_iff :
    (storedAnswer ks est reason db opp).verdict = .authorized ↔
      AuthorityRuleRegistry.Cleared ks opp (effectiveScore est db opp).confidence
        (decisionType db opp) := by
  rw [storedAnswer_def, evaluateRules, AuthorityRuleRegistry.verdict_coreRules_iff rfl]
  simp

lemma storedAnswer_suggestedStatus :
    (storedAnswer ks est reason db opp).suggestedStatus =
      AuthorityRuleRegistry.verdictStatus (storedAnswer ks est reason db opp).verdict := by
  rw [storedAnswer_def]
  exact AuthorityRuleRegistry.suggestedStatus_coreRules

lemma evaluateRules_suggestedStatus_ne_recovered (ks : KillSwitches) (opp : RecoveryOpportunity)
    (score : Score) (decision : AllocationDecision) :
    (evaluateRules ks opp score decision).suggestedStatus ≠ recovered :=
  AuthorityRuleRegistry.suggestedStatus_coreRules_ne_recovered

lemma storedAnswer_suggestedStatus_ne_recovered :
    (storedAnswer ks est reason db opp).suggestedStatus ≠ recovered := by
  rw [storedAnswer_def]
  exact evaluateRules_suggestedStatus_ne_recovered _ _ _ _

lemma opportunityId_of_mem_checks {score : Score} {decision : AllocationDecision}
    {check : AuthorityCheck} (h : check ∈ (evaluateRules ks opp score decision).checks) :
    check.opportunityId = opp.id := by
  simp only [evaluateRules, AuthorityRuleRegistry.evaluate, List.mem_map] at h
  obtain ⟨r, -, rfl⟩ := h
  rfl

lemma persistChecks_induction {P : Db → Prop} {checks : List AuthorityCheck} {id : String}
    (clear : P (db.clearAuthorityChecksForOpportunity id))
    (insert : ∀ db, ∀ check ∈ checks, P db → P (db.insertAuthorityCheck check now)) :
    P (persistChecks db id checks now) :=
  List.foldlRecOn checks _ clear fun db hdb check hcheck => insert db check hcheck hdb

lemma sameRows_persistChecks (checks : List AuthorityCheck) (now : Timestamp)
    (hrow : (db.getOpportunityById opp.id).isSome)
    (hid : ∀ check ∈ checks, check.opportunityId = opp.id) :
    SameRows db (persistChecks db opp.id checks now) := by
  refine persistChecks_induction ⟨rfl, rfl, rfl, rfl⟩ fun cleared check hcheck hclear => ?_
  have hrow' : (cleared.getOpportunityById check.opportunityId).isSome := by
    rwa [hid check hcheck, hclear.getOpportunityById]
  exact hclear.trans (SameRows.insertAuthorityCheck hrow')

lemma sameRecords_persistChecks (checks : List AuthorityCheck) (id : String) :
    SameRecords db (persistChecks db id checks now) :=
  persistChecks_induction ⟨rfl, rfl, rfl⟩ fun cleared check _ hclear =>
    hclear.trans (.insertAuthorityCheck cleared check now)

lemma sameBooks_persistChecks (checks : List AuthorityCheck) (id : String) :
    SameBooks db (persistChecks db id checks now) :=
  persistChecks_induction ⟨rfl, rfl, rfl⟩ fun cleared check _ hclear =>
    hclear.trans (.insertAuthorityCheck cleared check now)

/-- An evaluation stores the checks of the rules and writes the status that they suggest, on the
database it is given or on that with the score it asked for. -/
lemma evaluateOpportunity_snd (ks : KillSwitches) (est : Estimator) (now : Timestamp) (db : Db)
    (opp : RecoveryOpportunity) (decision : Option AllocationDecision) (score : Option Score) :
    ∃ asked d sc, (asked = db ∨ asked = (getOrScore est db opp).2) ∧
      (evaluateOpportunity ks est now db opp decision score).2 =
        (persistChecks asked opp.id (evaluateRules ks opp sc d).checks now).updateStatus opp.id
          (evaluateRules ks opp sc d).suggestedStatus := by
  simp only [evaluateOpportunity]
  cases score with
  | some score =>
    dsimp only
    generalize (decision <|> db.getAllocationDecisionByOpportunityId opp.id).getD _ = d
    exact ⟨db, d, score, .inl rfl, rfl⟩
  | none =>
    dsimp only
    generalize (decision <|> (getOrScore est db opp).2.getAllocationDecisionByOpportunityId
      opp.id).getD _ = d
    exact ⟨(getOrScore est db opp).2, d, (getOrScore est db opp).1, .inr rfl, rfl⟩

lemma sameBooks_evaluateOpportunity {decision : Option AllocationDecision} {score : Option Score} :
    SameBooks db (evaluateOpportunity ks est now db opp decision score).2 := by
  obtain ⟨asked, d, sc, hasked, hdb⟩ := evaluateOpportunity_snd ks est now db opp decision score
  have hbooks : SameBooks db asked := by
    rcases hasked with rfl | rfl
    · exact .refl asked
    · exact sameBooks_getOrScore est db opp
  rw [hdb]
  exact (hbooks.trans (sameBooks_persistChecks _ _)).trans (.updateStatus _ _ _)

/-- The status writes of an evaluation with stored values. -/
def evaluationWrites (ks : KillSwitches) (est : Estimator) (reason : String) (db : Db)
    (opp : RecoveryOpportunity) : List (String × OpportunityStatus) :=
  scoringWrites db opp ++ [(opp.id, (storedAnswer ks est reason db opp).suggestedStatus)]

lemma ne_recovered_of_mem_evaluationWrites {w : String × OpportunityStatus}
    (h : w ∈ evaluationWrites ks est reason db opp) : w.2 ≠ recovered := by
  rcases List.mem_append.mp h with h | h
  · rw [(mem_scoringWrites h).1]
    simp
  · rw [List.mem_singleton.mp h]
    exact storedAnswer_suggestedStatus_ne_recovered

private lemma effectiveDecision_getOrScore :
    ((getOrScore est db opp).2.getAllocationDecisionByOpportunityId opp.id).getD
      (unallocated opp.id reason) = effectiveDecision reason db opp := by
  rw [Db.getAllocationDecisionByOpportunityId, getOrScore_allocationDecisions]
  rfl

/-- An evaluation with stored values gives their answer, stores its checks and writes its status. -/
lemma evaluateStored_eq :
    evaluateStored ks est now reason db opp =
      ({ opportunityId := opp.id
         verdict := (storedAnswer ks est reason db opp).verdict
         checks := (storedAnswer ks est reason db opp).checks
         summaryReason := (storedAnswer ks est reason db opp).summaryReason },
        (persistChecks (getOrScore est db opp).2 opp.id (storedAnswer ks est reason db opp).checks
          now).updateStatus opp.id (storedAnswer ks est reason db opp).suggestedStatus) := by
  simp [evaluateStored, evaluateOpportunity, effectiveDecision_getOrScore, storedAnswer_def]

lemma evaluateStored_fst :
    (evaluateStored ks est now reason db opp).1 =
      { opportunityId := opp.id
        verdict := (storedAnswer ks est reason db opp).verdict
        checks := (storedAnswer ks est reason db opp).checks
        summaryReason := (storedAnswer ks est reason db opp).summaryReason } := by
  rw [evaluateStored_eq]

lemma evaluateStored_snd :
    (evaluateStored ks est now reason db opp).2 =
      (persistChecks (getOrScore est db opp).2 opp.id (storedAnswer ks est reason db opp).checks
        now).updateStatus opp.id (storedAnswer ks est reason db opp).suggestedStatus := by
  rw [evaluateStored_eq]

lemma sameRows_evaluateStored (ks : KillSwitches) (est : Estimator) (now : Timestamp)
    (reason : String) (hrow : (db.getOpportunityById opp.id).isSome) :
    SameRows (db.writeStatuses (evaluationWrites ks est reason db opp))
      (evaluateStored ks est now reason db opp).2 := by
  have hasked := sameRows_getOrScore est db opp
  have hrow' : ((getOrScore est db opp).2.getOpportunityById opp.id).isSome := by
    rw [hasked.getOpportunityById, Db.getOpportunityById_writeStatuses, Option.isSome_map]
    exact hrow
  have hchecks : ∀ check ∈ (storedAnswer ks est reason db opp).checks,
      check.opportunityId = opp.id := by
    intro check hcheck
    rw [storedAnswer_def] at hcheck
    exact opportunityId_of_mem_checks hcheck
  have hpersist := sameRows_persistChecks (storedAnswer ks est reason db opp).checks now hrow' hchecks
  rw [evaluateStored_snd, evaluationWrites, Db.writeStatuses_append]
  exact (hasked.trans hpersist).updateStatus opp.id _

lemma sameRecords_evaluateStored :
    SameRecords (getOrScore est db opp).2 (evaluateStored ks est now reason db opp).2 := by
  rw [evaluateStored_snd]
  exact (sameRecords_persistChecks _ _).trans (.updateStatus _ _ _)

@[simp] lemma evaluateStored_allocationDecisions :
    (evaluateStored ks est now reason db opp).2.allocationDecisions = db.allocationDecisions := by
  rw [sameRecords_evaluateStored.allocationDecisions, getOrScore_allocationDecisions]

@[simp] lemma evaluateStored_executionRecords :
    (evaluateStored ks est now reason db opp).2.executionRecords = db.executionRecords := by
  rw [sameRecords_evaluateStored.executionRecords, getOrScore_executionRecords]

lemma sameBooks_evaluateStored : SameBooks db (evaluateStored ks est now reason db opp).2 := by
  rw [evaluateStored]
  exact (sameBooks_getOrScore est db opp).trans sameBooks_evaluateOpportunity

lemma getScoreByOpportunityId_evaluateStored (j : String) :
    (evaluateStored ks est now reason db opp).2.getScoreByOpportunityId j =
      if j = opp.id then some (effectiveScore est db opp) else db.getScoreByOpportunityId j := by
  rw [sameRecords_evaluateStored.getScoreByOpportunityId, getScoreByOpportunityId_getOrScore]

lemma storedAnswer_evaluateStored {o : RecoveryOpportunity} (h : o.id ≠ opp.id) :
    storedAnswer ks est reason (evaluateStored ks est now reason db opp).2 o =
      storedAnswer ks est reason db o := by
  rw [storedAnswer_def, storedAnswer_def, effectiveScore, effectiveScore, effectiveDecision,
    effectiveDecision, getScoreByOpportunityId_evaluateStored, if_neg h,
    Db.getAllocationDecisionByOpportunityId, Db.getAllocationDecisionByOpportunityId,
    evaluateStored_allocationDecisions]

/-! ### Evaluating a list -/

variable {opps : List RecoveryOpportunity}

lemma evaluateAll_cons :
    evaluateAll ks est now reason db (opp :: opps) =
      ((evaluateStored ks est now reason db opp).1 ::
          (evaluateAll ks est now reason (evaluateStored ks est now reason db opp).2 opps).1,
        (evaluateAll ks est now reason (evaluateStored ks est now reason db opp).2 opps).2) := by
  rfl

/-- The verdicts of a list of different opportunities are those of the database it starts from. -/
lemma evaluateAll_verdicts (h : (opps.map (·.id)).Nodup) :
    (evaluateAll ks est now reason db opps).1.map (fun r => (r.opportunityId, r.verdict)) =
      opps.map fun o => (o.id, (storedAnswer ks est reason db o).verdict) := by
  induction opps generalizing db with
  | nil => rfl
  | cons opp opps ih =>
    simp only [List.map_cons, List.nodup_cons] at h
    have hrest : opps.map (fun o => (o.id, (storedAnswer ks est reason
          (evaluateStored ks est now reason db opp).2 o).verdict)) =
        opps.map fun o => (o.id, (storedAnswer ks est reason db o).verdict) := by
      refine List.map_congr_left fun o ho => ?_
      have hne : o.id ≠ opp.id := fun heq => h.1 (List.mem_map.mpr ⟨o, ho, heq⟩)
      rw [storedAnswer_evaluateStored hne]
    rw [evaluateAll_cons, List.map_cons, ih h.2, hrest, evaluateStored_fst, List.map_cons]

lemma sameRows_evaluateAll (h : (opps.map (·.id)).Nodup)
    (hrows : ∀ o ∈ opps, (db.getOpportunityById o.id).isSome) :
    SameRows (db.writeStatuses (opps.flatMap (evaluationWrites ks est reason db)))
      (evaluateAll ks est now reason db opps).2 := by
  induction opps generalizing db with
  | nil => exact .refl db
  | cons opp opps ih =>
    simp only [List.map_cons, List.nodup_cons] at h
    have hfirst := sameRows_evaluateStored ks est now reason (hrows opp List.mem_cons_self)
    have hrest : ∀ o ∈ opps,
        ((evaluateStored ks est now reason db opp).2.getOpportunityById o.id).isSome := by
      intro o ho
      rw [hfirst.getOpportunityById, Db.getOpportunityById_writeStatuses, Option.isSome_map]
      exact hrows o (List.mem_cons_of_mem _ ho)
    have hwrites : opps.flatMap (evaluationWrites ks est reason db) = opps.flatMap
        (evaluationWrites ks est reason (evaluateStored ks est now reason db opp).2) := by
      refine List.flatMap_congr fun o ho => ?_
      have hne : o.id ≠ opp.id := fun heq => h.1 (List.mem_map.mpr ⟨o, ho, heq⟩)
      rw [evaluationWrites, evaluationWrites, storedAnswer_evaluateStored hne, scoringWrites,
        scoringWrites, getScoreByOpportunityId_evaluateStored, if_neg hne]
    rw [List.flatMap_cons, Db.writeStatuses_append, hwrites, evaluateAll_cons]
    exact (hfirst.writeStatuses _).trans (ih h.2 hrest)

-- the evaluation of one opportunity is used through the lemmas above
attribute [irreducible] evaluateStored

lemma sameBooks_evaluateAll (db : Db) (opps : List RecoveryOpportunity) :
    SameBooks db (evaluateAll ks est now reason db opps).2 := by
  induction opps generalizing db with
  | nil => exact .refl db
  | cons opp opps ih => exact sameBooks_evaluateStored.trans (ih _)

end Authority

end CtrlRecovery
