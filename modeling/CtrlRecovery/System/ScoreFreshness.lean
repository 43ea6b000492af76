import CtrlRecovery.Authority.Pipeline
import CtrlRecovery.Core.Run
import CtrlRecovery.Db.Sample
import CtrlRecovery.Market.Specification

/-!
# Stored scores

A score is computed once and then read from its table; no writer of the opportunity takes it back.
Over runs of upserts, scorings, allocations and pipelines with a fixed table of probabilities, the
stored scores of the open opportunities are those that the scorer gives for their rows exactly as
long as no upsert changes what the stored score of its opportunity was computed from
(`freshScores_always_iff`). Then the market ranks what the rows say (`ranksCurrent_of_allSteps`).
-/

namespace CtrlRecovery

open Core OpportunityStatus OpportunityRepository Scorer Market Authority

namespace ScoreFreshness

variable {platform : Platform} {probs : String → DeclineType → ProbabilityEstimate} {db db' : Db}
  {o opp : RecoveryOpportunity}

/-! ### Runs -/

inductive ScoringAction
  | upsert (opp : RecoveryOpportunity)
  | score (id : String)
  | allocate (options : AllocationOptions)
  | pipeline (ks : KillSwitches) (now : Timestamp) (options : AllocationOptions)

/-- One writer of opportunities, scores and allocations; an upsert that throws writes nothing. -/
def scoringStep (platform : Platform) (probs : String → DeclineType → ProbabilityEstimate)
    (db : Db) : ScoringAction → Option Db
  | .upsert opp               => db.insertOpportunity opp
  | .score id                 =>
    (db.getOpportunityById id).map fun opp => (scoreOpportunity (.bayes probs) db opp).2
  | .allocate options         => some (runMarketAllocation platform (.bayes probs) options db).2
  | .pipeline ks now options  =>
    some (runAuthorityPipeline platform ks (.bayes probs) now options db).2

/-! ### Fresh scores -/

/-- The score has the value and the confidence that the scorer gives for the row. -/
def Agrees (probs : String → DeclineType → ProbabilityEstimate) (o : RecoveryOpportunity)
    (score : Score) : Prop :=
  score.expectedIncrementalValuePaise =
      (calculateScore (.bayes probs) o).expectedIncrementalValuePaise ∧
    score.confidence = (calculateScore (.bayes probs) o).confidence

instance (o : RecoveryOpportunity) (score : Score) : Decidable (Agrees probs o score) :=
  inferInstanceAs (Decidable (_ ∧ _))

/-- The statuses that the market or the pipeline selects. -/
def isOpen (status : OpportunityStatus) : Bool := isAllocatable status || isEvaluated status

/-- The stored scores of the open opportunities agree with their rows. -/
def FreshScores (probs : String → DeclineType → ProbabilityEstimate) (db : Db) : Prop :=
  ∀ id, ∀ o ∈ db.getOpportunityById id, isOpen o.status →
    ∀ score ∈ db.getScoreByOpportunityId id, Agrees probs o score

/-- An upsert leaves an open opportunity whose stored score, if there is one, agrees with it. -/
def KeepsScore (probs : String → DeclineType → ProbabilityEstimate) (db : Db) :
    ScoringAction → Prop
  | .upsert opp => isOpen opp.status → ∀ score ∈ db.getScoreByOpportunityId opp.id,
      Agrees probs (Db.insertedRow opp) score
  | _           => True

@[simp] lemma agrees_withStatus {score : Score} (s : OpportunityStatus) :
    Agrees probs (o.withStatus s) score ↔ Agrees probs o score := Iff.rfl

lemma agrees_calculateScore : Agrees probs o (calculateScore (.bayes probs) o).toScore := ⟨rfl, rfl⟩

lemma FreshScores.agrees_effectiveScore (h : FreshScores probs db)
    (ho : db.getOpportunityById o.id = some o) (hopen : isOpen o.status) :
    Agrees probs o (effectiveScore (.bayes probs) db o) := by
  rw [effectiveScore]
  cases hscore : db.getScoreByOpportunityId o.id with
  | none => exact agrees_calculateScore
  | some score => exact h o.id o ho hopen score hscore

/-! ### What scoring and placing do -/

/-- `db'` has rows of `db` with other statuses, opens none of them, and has the scores of `db` or
new ones. -/
def Rescored (probs : String → DeclineType → ProbabilityEstimate) (db db' : Db) : Prop :=
  ∀ id, ∀ o' ∈ db'.getOpportunityById id, ∃ o ∈ db.getOpportunityById id,
    (∃ s, o' = o.withStatus s ∧ (isOpen s → isOpen o.status)) ∧
    (db'.getScoreByOpportunityId id = db.getScoreByOpportunityId id ∨
      db'.getScoreByOpportunityId id = some (calculateScore (.bayes probs) o).toScore)

namespace Rescored

lemma refl (db : Db) : Rescored probs db db :=
  fun _ o ho => ⟨o, ho, ⟨o.status, rfl, fun h => h⟩, .inl rfl⟩

lemma trans {db'' : Db} (h : Rescored probs db db') (h' : Rescored probs db' db'') :
    Rescored probs db db'' := by
  intro id o'' ho''
  obtain ⟨o', ho', ⟨s', rfl, hopen'⟩, hscore'⟩ := h' id o'' ho''
  obtain ⟨o, ho, ⟨s, rfl, hopen⟩, hscore⟩ := h id o' ho'
  refine ⟨o, ho, ⟨s', rfl, fun hs => hopen (hopen' hs)⟩, ?_⟩
  rcases hscore' with hsame | hnew
  · rw [hsame]
    exact hscore
  · exact .inr hnew

lemma freshScores (h : Rescored probs db db') (hfresh : FreshScores probs db) :
    FreshScores probs db' := by
  intro id o' ho' hopen' score hscore
  obtain ⟨o, ho, ⟨s, rfl, hopen⟩, hsame | hnew⟩ := h id o' ho'
  · rw [hsame] at hscore
    exact hfresh id o ho (hopen hopen') score hscore
  · rw [hnew] at hscore
    cases hscore
    exact agrees_calculateScore

end Rescored

lemma rescored_runMarketAllocation {options : AllocationOptions} :
    Rescored probs db (runMarketAllocation platform (.bayes probs) options db).2 := by
  intro id o' ho'
  rw [getOpportunityById_runMarketAllocation, Option.mem_def, Option.map_eq_some_iff] at ho'
  obtain ⟨o, ho, rfl⟩ := ho'
  have hid : o.id = id := Db.id_of_getOpportunityById ho
  have hrow : o ∈ db.opportunities.rows := Table.mem_of_find? ho
  refine ⟨o, ho, ⟨_, rfl, ?_⟩, ?_⟩
  · intro hopen
    by_cases hcand : o ∈ candidates db options.tenantId options.environment
    · simp [isOpen, isAllocatable_of_mem_candidates hcand]
    · rwa [placedStatus_of_notMem hcand] at hopen
  · rw [getScoreByOpportunityId_runMarketAllocation]
    by_cases hcand : o ∈ candidates db options.tenantId options.environment
    · rw [← hid, getScoreByOpportunityId_scoreItems _ _ nodup_candidates hcand, effectiveScore]
      cases db.getScoreByOpportunityId o.id with
      | none => exact .inr rfl
      | some score => exact .inl rfl
    · have hnot : id ∉ (candidates db options.tenantId options.environment).map (·.id) := by
        intro hmem
        obtain ⟨c, hc, hcid⟩ := List.mem_map.mp hmem
        rw [← eq_of_mem_rows (mem_rows_of_mem_candidates hc) hrow (hcid.trans hid.symm)] at hcand
        exact hcand hc
      exact .inl (getScoreByOpportunityId_scoreItems_of_notMem hnot)

lemma getOpportunityById_evaluateStored {ks : KillSwitches} {est : Estimator} {now : Timestamp}
    {reason : String} (hopp : db.getOpportunityById opp.id = some opp) (id : String) :
    ∃ f : RecoveryOpportunity → OpportunityStatus,
      (evaluateStored ks est now reason db opp).2.getOpportunityById id =
        (db.getOpportunityById id).map (fun o => o.withStatus (f o)) ∧
      (id ≠ opp.id → ∀ o, f o = o.status) := by
  have hrow : (db.getOpportunityById opp.id).isSome := by rw [hopp, Option.isSome_some]
  refine ⟨fun o => statusAfter (evaluationWrites ks est reason db opp) id o.status, ?_, ?_⟩
  · rw [(sameRows_evaluateStored ks est now reason hrow).getOpportunityById,
      Db.getOpportunityById_writeStatuses]
  · intro hne o
    refine statusAfter_of_notMem fun hmem => ?_
    obtain ⟨w, hw, rfl⟩ := List.mem_map.mp hmem
    rcases List.mem_append.mp hw with hw | hw
    · rw [(mem_scoringWrites hw).1] at hne
      exact hne rfl
    · rw [List.mem_singleton.mp hw] at hne
      exact hne rfl

/-- Evaluating an open row. -/
lemma rescored_evaluateStored {ks : KillSwitches} {now : Timestamp} {reason : String}
    (hopp : db.getOpportunityById opp.id = some opp) (hopen : isOpen opp.status) :
    Rescored probs db (evaluateStored ks (.bayes probs) now reason db opp).2 := by
  intro id o' ho'
  obtain ⟨f, hget, hsame⟩ := getOpportunityById_evaluateStored hopp id
  rw [hget, Option.mem_def, Option.map_eq_some_iff] at ho'
  obtain ⟨o, ho, rfl⟩ := ho'
  refine ⟨o, ho, ⟨f o, rfl, ?_⟩, ?_⟩
  · intro hs
    by_cases hid : id = opp.id
    · rw [hid, hopp] at ho
      cases ho
      exact hopen
    · rwa [hsame hid] at hs
  · rw [getScoreByOpportunityId_evaluateStored]
    split_ifs with hid
    · rw [hid, hopp] at ho
      cases ho
      rw [hid, effectiveScore]
      cases db.getScoreByOpportunityId opp.id with
      | none => exact .inr rfl
      | some score => exact .inl rfl
    · exact .inl rfl

lemma rescored_evaluateAll {ks : KillSwitches} {now : Timestamp} {reason : String}
    {opps : List RecoveryOpportunity} (hnodup : (opps.map (·.id)).Nodup)
    (hopps : ∀ opp ∈ opps, db.getOpportunityById opp.id = some opp ∧ isOpen opp.status) :
    Rescored probs db (evaluateAll ks (.bayes probs) now reason db opps).2 := by
  induction opps generalizing db with
  | nil => exact .refl db
  | cons opp opps ih =>
    rw [List.map_cons, List.nodup_cons] at hnodup
    rw [List.forall_mem_cons] at hopps
    refine (rescored_evaluateStored hopps.1.1 hopps.1.2).trans (ih hnodup.2 ?_)
    intro o ho
    have hne : o.id ≠ opp.id := fun heq => hnodup.1 (List.mem_map.mpr ⟨o, ho, heq⟩)
    obtain ⟨f, hget, hsame⟩ := getOpportunityById_evaluateStored hopps.1.1 o.id
    rw [hget, (hopps.2 o ho).1, Option.map_some, hsame hne]
    exact ⟨rfl, (hopps.2 o ho).2⟩

lemma rescored_runAuthorityPipeline {ks : KillSwitches} {now : Timestamp}
    {options : AllocationOptions} :
    Rescored probs db (runAuthorityPipeline platform ks (.bayes probs) now options db).2 := by
  rw [runAuthorityPipeline_snd]
  refine rescored_runMarketAllocation.trans (rescored_evaluateAll nodup_evaluatedAfter ?_)
  intro o ho
  obtain ⟨hscope, hevaluated⟩ := List.mem_filter.mp ho
  have hrow := (Db.mem_getAllOpportunities _).mp hscope
  exact ⟨Table.find?_key_of_mem hrow.1, by simp [isOpen, hevaluated]⟩

/-- Scoring a stored row. -/
lemma rescored_scoreOpportunity (hopp : db.getOpportunityById opp.id = some opp) :
    Rescored probs db (scoreOpportunity (.bayes probs) db opp).2 := by
  intro id o' ho'
  rw [(sameRows_scoreOpportunity _ db opp).getOpportunityById, Db.getOpportunityById_writeStatuses,
    Option.mem_def, Option.map_eq_some_iff] at ho'
  obtain ⟨o, ho, rfl⟩ := ho'
  have hscore : (scoreOpportunity (.bayes probs) db opp).2.getScoreByOpportunityId id =
      if id = opp.id then some (calculateScore (.bayes probs) opp).toScore
      else db.getScoreByOpportunityId id := by
    have hput : (db.upsertScore (calculateScore (.bayes probs) opp).toScore).getScoreByOpportunityId
        id = if id = opp.id then some (calculateScore (.bayes probs) opp).toScore
          else db.getScoreByOpportunityId id := Table.find?_put
    rw [← hput, scoreOpportunity]
    dsimp only
    split_ifs
    · rw [Db.getScoreByOpportunityId, Db.updateStatus_scores, Db.getScoreByOpportunityId]
    · rfl
  refine ⟨o, ho, ⟨_, rfl, ?_⟩, ?_⟩
  · intro hopen
    by_cases hpending : opp.status = pending ∧ id = opp.id
    · rw [hpending.2, hopp] at ho
      cases ho
      simp [isOpen, isAllocatable, hpending.1]
    · rw [statusAfter_of_notMem] at hopen
      · exact hopen
      · intro hmem
        split_ifs at hmem with hstatus
        · exact hpending ⟨hstatus, by simpa using hmem⟩
        · simp at hmem
  · rw [hscore]
    split_ifs with hid
    · rw [hid, hopp] at ho
      cases ho
      exact .inr rfl
    · exact .inl rfl

/-! ### What an upsert does -/

lemma freshScores_insertOpportunity_iff (hfresh : FreshScores probs db)
    (h : db.insertOpportunity opp = some db') :
    FreshScores probs db' ↔ KeepsScore probs db (.upsert opp) := by
  have hscores : ∀ id, db'.getScoreByOpportunityId id = db.getScoreByOpportunityId id := fun id =>
    (SameRecords.insertOpportunity h).getScoreByOpportunityId id
  obtain ⟨createdAt, hrow⟩ : ∃ createdAt, db'.getOpportunityById opp.id =
      some { Db.insertedRow opp with createdAt := createdAt } := by
    rw [Db.getOpportunityById_insertOpportunity h, if_pos rfl]
    cases db.getOpportunityById opp.id with
    | none => exact ⟨_, rfl⟩
    | some old => exact ⟨_, rfl⟩
  constructor
  · intro hfresh' hopen score hscore
    rw [← hscores] at hscore
    exact hfresh' opp.id _ hrow hopen score hscore
  · intro hkeeps id o ho hopen score hscore
    rw [hscores] at hscore
    by_cases hid : id = opp.id
    · rw [hid, hrow] at ho
      cases ho
      rw [hid] at hscore
      exact hkeeps hopen score hscore
    · rw [Db.getOpportunityById_insertOpportunity h, if_neg hid] at ho
      exact hfresh id o ho hopen score hscore

/-! ### Runs keep the scores fresh -/

lemma freshScores_step_iff {action : ScoringAction} (hfresh : FreshScores probs db)
    (h : scoringStep platform probs db action = some db') :
    FreshScores probs db' ↔ KeepsScore probs db action := by
  cases action with
  | upsert opp => exact freshScores_insertOpportunity_iff hfresh h
  | score id =>
    obtain ⟨opp, hopp, rfl⟩ := Option.map_eq_some_iff.mp h
    have hid : opp.id = id := Db.id_of_getOpportunityById hopp
    rw [← hid] at hopp
    exact iff_of_true ((rescored_scoreOpportunity hopp).freshScores hfresh) trivial
  | allocate options =>
    rw [← Option.some.inj h]
    exact iff_of_true (rescored_runMarketAllocation.freshScores hfresh) trivial
  | pipeline ks now options =>
    rw [← Option.some.inj h]
    exact iff_of_true (rescored_runAuthorityPipeline.freshScores hfresh) trivial

/-- The stored scores stay fresh through a run exactly when they are at its start and every upsert
leaves an opportunity that its stored score agrees with. -/
theorem freshScores_always_iff {actions : List ScoringAction} :
    (∀ pre rest t, actions = pre ++ rest → Run (scoringStep platform probs) db pre t →
        FreshScores probs t) ↔
      FreshScores probs db ∧
        AllSteps (scoringStep platform probs) (fun db action _ => KeepsScore probs db action) db
          actions := by
  apply always_iff_allSteps
  intro db action db' hfresh hstep
  exact freshScores_step_iff hfresh hstep

/-! ### What the market ranks -/

/-- Every opportunity that a run of the market decides on is its current row, with the value and the
confidence that the scorer gives for it; none with a hard decline or three attempts gets `ACT`. -/
def RanksCurrent (platform : Platform) (probs : String → DeclineType → ProbabilityEstimate)
    (db : Db) : Prop :=
  ∀ options, ∀ p ∈ (runMarketAllocation platform (.bayes probs) options db).1.items,
    db.getOpportunityById p.opportunity.id = some p.opportunity ∧
    Agrees probs p.opportunity p.score ∧
    (p.opportunity.declineType = .hard ∨ 3 ≤ p.opportunity.attemptCount →
      p.decision.decision ≠ .act)

lemma not_isAdmissible_of_agrees {score : Score} (h : Agrees probs o score)
    (hstop : o.declineType = .hard ∨ 3 ≤ o.attemptCount) : ¬ IsAdmissible (o, score) := by
  rintro ⟨hconfidence, hvalue, -⟩
  rcases hstop with hhard | hattempts
  · rw [h.1] at hvalue
    simp [calculateScore, hhard] at hvalue
  · rw [h.2] at hconfidence
    simp [calculateScore, determineConfidence, hattempts] at hconfidence

lemma ranksCurrent_of_freshScores (h : FreshScores probs db) : RanksCurrent platform probs db := by
  intro options p hp
  have hbest : AllocatesBest _ _ _ (runMarketAllocation platform (.bayes probs) options db) :=
    runMarketAllocation_allocatesBest
  have hcand : p.opportunity ∈ candidates db options.tenantId options.environment :=
    hbest.decided.mem_iff.mp (List.mem_map.mpr ⟨p, hp, rfl⟩)
  have hrow := Table.find?_key_of_mem (mem_rows_of_mem_candidates hcand)
  have hopen : isOpen p.opportunity.status := by
    simp [isOpen, isAllocatable_of_mem_candidates hcand]
  have hagrees : Agrees probs p.opportunity p.score := by
    rw [hbest.scored p hp]
    exact h.agrees_effectiveScore hrow hopen
  refine ⟨hrow, hagrees, fun hstop hact => ?_⟩
  have habstain := (hbest.abstain_iff p hp).mpr (not_isAdmissible_of_agrees hagrees hstop)
  rw [hact] at habstain
  cases habstain

/-- From a database with fresh scores, as one without scores is, the market ranks current values in
every state that is reached without an upsert that its opportunity's stored score disagrees
with. -/
theorem ranksCurrent_of_allSteps {t : Db} {actions : List ScoringAction}
    (hstart : FreshScores probs db) (hrun : Run (scoringStep platform probs) db actions t)
    (hsteps : AllSteps (scoringStep platform probs)
      (fun db action _ => KeepsScore probs db action) db actions) :
    RanksCurrent platform probs t := by
  apply ranksCurrent_of_freshScores
  exact freshScores_always_iff.mpr ⟨hstart, hsteps⟩ actions [] t (by simp) hrun

/-! ### A payment that fails again -/

def sampleProbabilities : String → DeclineType → ProbabilityEstimate :=
  fun _ _ => ⟨1 / 10, 6 / 10, .static⟩

/-- A payment comes in with its first attempt and is scored, and comes in again with its third. -/
def thirdAttempt : List ScoringAction :=
  [.upsert (sampleOpportunity "opp_1" pending), .score "opp_1",
    .upsert { sampleOpportunity "opp_1" pending with attemptCount := 3 }]

lemma freshScores_empty : FreshScores probs .empty := by
  intro id o ho
  cases ho

/-- The score of the first attempt gives the third one its `ACT`. -/
theorem thirdAttempt_gets_act :
    ¬ ∀ actions t, Run (scoringStep .plain sampleProbabilities) .empty actions t →
      RanksCurrent .plain sampleProbabilities t := by
  intro h
  obtain ⟨t, hrun, hact⟩ := exists_run_of_execute (scoringStep .plain sampleProbabilities) .empty
    thirdAttempt
    (fun t => (runMarketAllocation .plain (.bayes sampleProbabilities) ⟨some 5, none, none⟩
      t).1.items.any fun p =>
        decide (3 ≤ p.opportunity.attemptCount ∧ p.decision.decision = .act))
    (by decide +kernel)
  obtain ⟨p, hp, hpact⟩ := List.any_eq_true.mp hact
  rw [decide_eq_true_eq] at hpact
  exact (h thirdAttempt t hrun _ p hp).2.2 (.inr hpact.1) hpact.2

/-- The first attempt alone is ranked by its own score. -/
theorem ranksCurrent_firstAttempt :
    ∃ t, Run (scoringStep .plain sampleProbabilities) .empty
        [.upsert (sampleOpportunity "opp_1" pending), .score "opp_1"] t ∧
      RanksCurrent .plain sampleProbabilities t := by
  obtain ⟨t, hrun, -⟩ := exists_run_of_execute (scoringStep .plain sampleProbabilities) .empty
    [.upsert (sampleOpportunity "opp_1" pending), .score "opp_1"] (fun _ => true) (by decide +kernel)
  refine ⟨t, hrun, ranksCurrent_of_allSteps freshScores_empty hrun ?_⟩
  intro t₁ h₁
  refine ⟨?_, fun t₂ _ => ⟨trivial, trivial⟩⟩
  intro _ score hscore
  cases hscore

end ScoreFreshness

end CtrlRecovery
