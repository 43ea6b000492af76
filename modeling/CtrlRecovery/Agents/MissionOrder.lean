import CtrlRecovery.Agents.Mission

/-!
# Missions one after the other

The market run of a mission covers the whole portfolio, or the whole tenant, and gives every waiting
opportunity that it ranks a place at once. The next mission's run does not look at placed
opportunities, so that a mission for one of them finds no item of its own and gives it up. Missions
for at most five admissible opportunities all dispatch exactly when no mission's run covers the
opportunity of a later one (`allDispatched_iff`).
-/

namespace CtrlRecovery

open Core OpportunityStatus OpportunityRepository Scorer Market Authority SemanticEconomicsBridge

/-! ### The rest of the tables -/

/-- The two databases agree on the other opportunities than `id` as the market sees them. -/
structure SameBut (id : String) (db db' : Db) : Prop where
  row : ∀ j ≠ id, db'.getOpportunityById j = db.getOpportunityById j
  score : ∀ j ≠ id, db'.getScoreByOpportunityId j = db.getScoreByOpportunityId j
  tenants : db'.tenants = db.tenants

namespace SameBut

variable {id : String} {db db' db'' : Db}

lemma trans (h : SameBut id db db') (h' : SameBut id db' db'') : SameBut id db db'' where
  row j hj := (h'.row j hj).trans (h.row j hj)
  score j hj := (h'.score j hj).trans (h.score j hj)
  tenants := h'.tenants.trans h.tenants

lemma upsertScore {score : Score} (h : score.opportunityId = id) :
    SameBut id db (db.upsertScore score) where
  row _ _ := rfl
  score j hj := by
    rw [← h] at hj
    exact Table.find?_put_of_ne hj
  tenants := rfl

lemma upsertAllocationDecision (decision : AllocationDecision) :
    SameBut id db (db.upsertAllocationDecision decision) :=
  ⟨fun _ _ => rfl, fun _ _ => rfl, rfl⟩

lemma updateStatus (status : OpportunityStatus) : SameBut id db (db.updateStatus id status) where
  row _ hj := Executor.getOpportunityById_updateStatus_of_ne hj
  score j _ := by rw [Db.getScoreByOpportunityId, Db.updateStatus_scores, Db.getScoreByOpportunityId]
  tenants := Db.updateStatus_tenants

lemma executeOpportunity {ks : KillSwitches} {est : Estimator} {script : ExecutionScript} :
    SameBut id db (Executor.executeOpportunity ks est script db id).2 where
  row _ hj := Executor.executeOpportunity_getOpportunityById_of_ne hj
  score _ hj := Executor.executeOpportunity_getScoreByOpportunityId_of_ne hj
  tenants := Executor.executeOpportunity_tenants

/-- An evaluation that is given its score. -/
lemma evaluateOpportunity {ks : KillSwitches} {est : Estimator} {now : Timestamp}
    {opp : RecoveryOpportunity} {decision : Option AllocationDecision} {score : Score}
    (hrow : (db.getOpportunityById opp.id).isSome) :
    SameBut opp.id db (evaluateOpportunity ks est now db opp decision (some score)).2 := by
  rw [Authority.evaluateOpportunity]
  dsimp only
  generalize (decision <|> db.getAllocationDecisionByOpportunityId opp.id).getD _ = d
  have hrows := sameRows_persistChecks (evaluateRules ks opp score d).checks now hrow
    fun check hcheck => opportunityId_of_mem_checks hcheck
  have hrecords : SameRecords db
      (persistChecks db opp.id (evaluateRules ks opp score d).checks now) :=
    sameRecords_persistChecks _ _
  refine trans ?_ (updateStatus _)
  exact ⟨fun j _ => hrows.getOpportunityById j, fun j _ => hrecords.getScoreByOpportunityId j,
    hrows.tenants⟩

end SameBut

/-! ### An uncrowded run of the market -/

namespace Market

variable {platform : Platform} {est : Estimator} {options : AllocationOptions} {db : Db}
  {o : RecoveryOpportunity} {ids : List String}

/-- Every opportunity that waits and could be ranked is one of `ids`. -/
def OnlyEligible (est : Estimator) (ids : List String) (db : Db) : Prop :=
  ∀ j ∉ ids, ∀ o ∈ db.getOpportunityById j, isAllocatable o.status →
    ¬ isEligible (o, effectiveScore est db o)

lemma length_ranked_le (h : OnlyEligible est ids db) (tenantId : Option String)
    (environment : Option Environment) :
    (ranked est db tenantId environment).length ≤ ids.length := by
  have hnodup : ((ranked est db tenantId environment).map (·.id)).Nodup := by
    have hperm := (rank_perm (fun o => (effectiveScore est db o).expectedIncrementalValuePaise)
      (eligible est db tenantId environment)).map (·.id)
    rw [ranked, hperm.nodup_iff]
    exact nodup_candidates.sublist (List.filter_sublist.map _)
  have hsubset : (ranked est db tenantId environment).map (·.id) ⊆ ids := by
    intro id hid
    obtain ⟨o, ho, rfl⟩ := List.mem_map.mp hid
    obtain ⟨hcand, heligible⟩ := mem_ranked.mp ho
    by_contra hnot
    exact h o.id hnot o (Table.find?_key_of_mem (mem_rows_of_mem_candidates hcand))
      (isAllocatable_of_mem_candidates hcand) heligible
  simpa using (List.subperm_of_subset hnodup hsubset).length_le

lemma mem_winners_iff (h : OnlyEligible est ids db)
    (hroom : ids.length ≤ resolveCapacity platform db options) :
    o ∈ winners platform est options db ↔
      o ∈ candidates db options.tenantId options.environment ∧
        isEligible (o, effectiveScore est db o) := by
  have hlength := length_ranked_le h options.tenantId options.environment
  rw [winners, List.take_of_length_le (hlength.trans hroom), mem_ranked]

/-- With room for everyone a run leaves nothing waiting that it covers. -/
lemma isAllocatable_placedStatus_iff_notMem (h : OnlyEligible est ids db)
    (hroom : ids.length ≤ resolveCapacity platform db options) :
    isAllocatable (placedStatus platform est options db o) ↔
      isAllocatable o.status ∧ o ∉ candidates db options.tenantId options.environment := by
  by_cases hcand : o ∈ candidates db options.tenantId options.environment
  · have hranked : o ∈ ranked est db options.tenantId options.environment ↔
        o ∈ winners platform est options db := by rw [mem_ranked, mem_winners_iff h hroom]
    rw [placedStatus, if_pos hcand]
    split_ifs with hwinner hrank
    · simp [isAllocatable, hcand]
    · exact absurd (hranked.mp hrank) hwinner
    · simp [isAllocatable, hcand]
  · rw [placedStatus_of_notMem hcand]
    simp [hcand]

lemma runMarketAllocation_items :
    (runMarketAllocation platform est options db).1.items = runPlacements platform est options db := by
  rw [runMarketAllocation, allocateAmong, runPlacements, scoreItems_fst nodup_candidates]

/-- The item of a run for an opportunity, if it has one. -/
lemma find?_items_eq_none_iff (hrow : o ∈ db.opportunities.rows) :
    (runMarketAllocation platform est options db).1.items.find?
        (fun p => p.decision.opportunityId = o.id) = none ↔
      o ∉ candidates db options.tenantId options.environment := by
  rw [runMarketAllocation_items, List.find?_eq_none]
  constructor
  · intro hnone hcand
    obtain ⟨p, hp, hid, -, -⟩ := exists_placement platform est hcand
    refine hnone p hp ?_
    rw [decision_opportunityId_of_mem hp, hid]
    simp
  · intro hcand p hp hid
    simp only [decide_eq_true_eq, decision_opportunityId_of_mem hp] at hid
    have hmem := runPlacements_ids_perm.mem_iff.mp (List.mem_map.mpr ⟨p, hp, rfl⟩)
    obtain ⟨o', ho', hid'⟩ := List.mem_map.mp hmem
    rw [← eq_of_mem_rows (mem_rows_of_mem_candidates ho') hrow (hid'.trans hid)] at hcand
    exact hcand ho'

/-- The item of a winner is `ACT`. -/
lemma find?_items_of_winner (h : o ∈ winners platform est options db) :
    ∃ p, (runMarketAllocation platform est options db).1.items.find?
        (fun p => p.decision.opportunityId = o.id) = some p ∧ p.decision.decision = .act := by
  have hcand : o ∈ candidates db options.tenantId options.environment :=
    (mem_ranked.mp (List.mem_of_mem_take h)).1
  obtain ⟨p, hp, hid, -, hact⟩ := exists_placement platform est hcand
  cases hfind : (runMarketAllocation platform est options db).1.items.find?
      (fun p => p.decision.opportunityId = o.id) with
  | none =>
    exact absurd hcand ((find?_items_eq_none_iff (mem_rows_of_mem_candidates hcand)).mp hfind)
  | some q =>
    refine ⟨q, rfl, ?_⟩
    have hq := List.mem_of_find?_eq_some hfind
    have hqid := List.find?_some hfind
    rw [runMarketAllocation_items] at hq
    simp only [decide_eq_true_eq, decision_opportunityId_of_mem hq] at hqid
    have heq : q = p := List.inj_on_of_nodup_map nodup_runPlacements hq hp (hqid.trans hid.symm)
    rw [heq]
    exact hact h

namespace OnlyEligible

lemma of_sameBut {id : String} {db' : Db} (h : OnlyEligible est ids db) (hsame : SameBut id db db')
    (hid : id ∈ ids) : OnlyEligible est ids db' := by
  intro j hj o ho hwaits
  have hne : j ≠ id := by
    rintro rfl
    exact hj hid
  rw [hsame.row j hne] at ho
  have hscore : effectiveScore est db' o = effectiveScore est db o := by
    rw [effectiveScore, effectiveScore, Db.id_of_getOpportunityById ho, hsame.score j hne]
  rw [hscore]
  exact h j hj o ho hwaits

lemma runMarketAllocation (h : OnlyEligible est ids db)
    (hroom : ids.length ≤ resolveCapacity platform db options) :
    OnlyEligible est ids (runMarketAllocation platform est options db).2 := by
  intro j hj o ho hwaits
  rw [getOpportunityById_runMarketAllocation, Option.mem_def, Option.map_eq_some_iff] at ho
  obtain ⟨o', ho', rfl⟩ := ho
  rw [restatus_runMarketAllocation.score o' (Table.mem_of_find? ho')]
  exact h j hj o' ho' ((isAllocatable_placedStatus_iff_notMem h hroom).mp hwaits).1

end OnlyEligible

end Market

/-! ### One mission -/

def MissionOutcome.IsDispatched : MissionOutcome → Prop
  | .dispatched allocation _ _ => allocation.decision = .act
  | _                          => False

namespace Mission

variable {setup : MissionSetup} {ks : KillSwitches} {m : Mission} {db db' : Db}
  {own o opp : RecoveryOpportunity} {signals : List SemanticSignal} {ids : List String}

/-- Whether the market run of a mission for `own` covers an opportunity. -/
def Covers (m : Mission) (db : Db) (own o : RecoveryOpportunity) : Prop :=
  Db.inScope (m.allocationOptions own).tenantId
    (resolveEnvironment db (m.allocationOptions own).tenantId none) o

lemma covers_of_orchestrator {reasoning : Except String (List SemanticSignal)}
    (h : m.engine = .orchestrator reasoning) (own o : RecoveryOpportunity) : m.Covers db own o := by
  rw [Covers, allocationOptions, h]
  rfl

lemma covers_congr (h : db'.tenants = db.tenants) (s t : OpportunityStatus) :
    m.Covers db' (own.withStatus s) (o.withStatus t) ↔ m.Covers db own o := by
  rw [Covers, Covers, resolveEnvironment, tenantRow, h]
  rfl

lemma find_eq_filter (m : Mission) :
    ∃ q : RecoveryOpportunity → Bool, (∀ o s, q (o.withStatus s) = q o) ∧
      ∀ db, m.find db = (db.getOpportunityById m.opportunityId).filter q := by
  cases hengine : m.engine with
  | orchestrator reasoning =>
    refine ⟨fun _ => true, fun _ _ => rfl, fun db => ?_⟩
    rw [find, hengine]
    cases db.getOpportunityById m.opportunityId <;> rfl
  | agentLoop tenantId iteration =>
    exact ⟨Db.inScope tenantId none, fun _ _ => rfl, fun db => by simp [find, hengine]⟩

lemma find_map {f : RecoveryOpportunity → OpportunityStatus}
    (h : db'.getOpportunityById m.opportunityId =
      (db.getOpportunityById m.opportunityId).map fun o => o.withStatus (f o)) :
    m.find db' = (m.find db).map fun o => o.withStatus (f o) := by
  obtain ⟨q, hq, hfind⟩ := m.find_eq_filter
  rw [hfind, hfind, h]
  cases db.getOpportunityById m.opportunityId with
  | none => rfl
  | some o => by_cases ho : q o <;> simp [Option.filter, hq, ho]

lemma getOpportunityById_of_find (h : m.find db = some opp) :
    db.getOpportunityById m.opportunityId = some opp := by
  obtain ⟨q, -, hfind⟩ := m.find_eq_filter
  rw [hfind] at h
  exact (Option.filter_eq_some_iff.mp h).1

lemma mem_candidates_iff (score : Score) (hrow : o ∈ db.opportunities.rows) :
    o ∈ candidates (db.upsertScore score) (m.allocationOptions own).tenantId
        (m.allocationOptions own).environment ↔
      m.Covers db own o ∧ isAllocatable o.status := by
  rw [candidates, List.mem_filter, Db.mem_getAllOpportunities]
  simp only [Covers]
  constructor
  · rintro ⟨⟨-, hscope⟩, hwaits⟩
    exact ⟨hscope, hwaits⟩
  · rintro ⟨hscope, hwaits⟩
    exact ⟨⟨hrow, hscope⟩, hwaits⟩

lemma unplaced_decision_ne_act : (m.unplaced opp).decision ≠ .act := by
  rw [unplaced]
  cases m.engine with
  | orchestrator reasoning => simp [unallocated]
  | agentLoop tenantId iteration =>
    dsimp only
    split_ifs <;> simp [unallocated]

/-- The database on which a mission runs the market. -/
def scoredDb (setup : MissionSetup) (db : Db) (opp : RecoveryOpportunity)
    (signals : List SemanticSignal) : Db :=
  db.upsertScore (score setup opp signals)

lemma sameBut_scoredDb : SameBut opp.id db (scoredDb setup db opp signals) :=
  .upsertScore rfl

lemma allocate_fst :
    (m.allocate setup db opp signals).1 =
      (((runMarketAllocation setup.platform setup.estimator (m.allocationOptions opp)
        (scoredDb setup db opp signals)).1.items.find?
          fun p => p.decision.opportunityId = opp.id).map (·.decision)).getD (m.unplaced opp) := rfl

lemma allocate_snd :
    (m.allocate setup db opp signals).2 =
      (runMarketAllocation setup.platform setup.estimator (m.allocationOptions opp)
        (scoredDb setup db opp signals)).2 := rfl

/-- With room for everyone, a mission's admissible opportunity gets `ACT` exactly when it waits and
the run covers it. -/
lemma allocate_act_iff (hrow : opp ∈ db.opportunities.rows)
    (hadmissible : IsAdmissible (opp, score setup opp signals))
    (honly : OnlyEligible setup.estimator ids (scoredDb setup db opp signals))
    (hroom : ids.length ≤ 5) :
    (m.allocate setup db opp signals).1.decision = .act ↔
      m.Covers db opp opp ∧ isAllocatable opp.status := by
  have hcapacity : ids.length ≤ resolveCapacity setup.platform (scoredDb setup db opp signals)
      (m.allocationOptions opp) := hroom
  have hrow' : opp ∈ (scoredDb setup db opp signals).opportunities.rows := hrow
  have hscore : effectiveScore setup.estimator (scoredDb setup db opp signals) opp =
      score setup opp signals := effectiveScore_of_stored _ _ _ Table.find?_put_self
  rw [← mem_candidates_iff (score setup opp signals) hrow, allocate_fst]
  constructor
  · intro hact
    by_contra hnot
    rw [(find?_items_eq_none_iff hrow').mpr hnot] at hact
    exact unplaced_decision_ne_act hact
  · intro hcand
    have heligible : isEligible (opp, effectiveScore setup.estimator
        (scoredDb setup db opp signals) opp) := by
      rw [hscore, isEligible_eq, decide_eq_true_eq]
      exact hadmissible
    have hwinner := (mem_winners_iff honly hcapacity).mpr ⟨hcand, heligible⟩
    obtain ⟨p, hp, hact⟩ := find?_items_of_winner hwinner
    rw [hp]
    exact hact

-- from here on, the market run of a mission is used through the lemmas above
attribute [local irreducible] allocate

/-- The evaluation of a mission that nothing interrupts. -/
def gate (setup : MissionSetup) (ks : KillSwitches) (m : Mission) (db : Db)
    (opp : RecoveryOpportunity) (signals : List SemanticSignal) : AuthorityEvaluationResult × Db :=
  evaluateOpportunity ks setup.estimator m.now
    ((m.allocate setup db opp signals).2.upsertAllocationDecision
      (m.allocate setup db opp signals).1) opp (some (m.allocate setup db opp signals).1)
    (some (score setup opp signals))

/-- Such a mission when it has come to its verdict. -/
def judged (setup : MissionSetup) (ks : KillSwitches) (m : Mission) (db : Db)
    (opp : RecoveryOpportunity) (signals : List SemanticSignal) : JudgedMission where
  opp := opp
  score := score setup opp signals
  allocation := (m.allocate setup db opp signals).1
  evaluated := (gate setup ks m db opp signals).1
  db := (gate setup ks m db opp signals).2

lemma gate_verdict :
    (gate setup ks m db opp signals).1.verdict =
      (evaluateRules ks opp (score setup opp signals)
        (m.allocate setup db opp signals).1).verdict := by
  rw [gate, verdict_evaluateOpportunity]

lemma sameBut_gate
    (hrow : ((m.allocate setup db opp signals).2.getOpportunityById opp.id).isSome) :
    SameBut opp.id (m.allocate setup db opp signals).2 (gate setup ks m db opp signals).2 := by
  have hallocated : SameBut opp.id (m.allocate setup db opp signals).2
      ((m.allocate setup db opp signals).2.upsertAllocationDecision
        (m.allocate setup db opp signals).1) := .upsertAllocationDecision _
  rw [gate]
  exact hallocated.trans (.evaluateOpportunity hrow)

lemma judge_quiet (hfind : m.find db = some opp) (hsignals : m.signals = .ok signals)
    (hks : ¬ ks.isKillSwitchActive "" "") :
    m.judge setup (.quiet ks) db = .ok (judged setup ks m db opp signals) := by
  have hpause : ∀ db, m.pause db id = db := by
    intro db
    rw [pause]
    cases m.engine <;> rfl
  rw [judge, hfind]
  simp only [Surroundings.quiet, hks, hsignals, hpause]
  rfl

attribute [local irreducible] gate

lemma isKillSwitchActive_of_global (h : ks.isKillSwitchActive "" "") (tenantId : String) :
    ks.isKillSwitchActive tenantId "" := by
  simp only [KillSwitches.isKillSwitchActive, bne_self_eq_false, Bool.false_and,
    Bool.or_false] at h
  simp [KillSwitches.isKillSwitchActive, h]

lemma run_of_global (hfind : m.find db = some opp) (h : ks.isKillSwitchActive "" "") :
    (m.run setup (.quiet ks) db).1 = .halted .aborted := by
  have hjudge : m.judge setup (.quiet ks) db = .error (.aborted, db) := by
    rw [judge, hfind]
    exact if_pos h
  rw [run, hjudge]

/-- A mission for an admissible opportunity dispatches exactly when the opportunity waits, the run
covers it and no kill switch halts it. -/
lemma isDispatched_iff (hfind : m.find db = some opp) (hsignals : m.signals = .ok signals)
    (hadmissible : IsAdmissible (opp, score setup opp signals))
    (honly : OnlyEligible setup.estimator ids db) (hid : m.opportunityId ∈ ids)
    (hroom : ids.length ≤ 5) :
    (m.run setup (.quiet ks) db).1.IsDispatched ↔
      ¬ ks.isKillSwitchActive opp.tenantId "" ∧ m.Covers db opp opp ∧
        isAllocatable opp.status := by
  by_cases hks : ks.isKillSwitchActive "" ""
  · rw [run_of_global hfind hks]
    simp [MissionOutcome.IsDispatched, isKillSwitchActive_of_global hks]
  have hrow : opp ∈ db.opportunities.rows := Table.mem_of_find? (getOpportunityById_of_find hfind)
  have hown : opp.id ∈ ids := by rwa [id_of_find hfind]
  have hact : (m.allocate setup db opp signals).1.decision = .act ↔
      m.Covers db opp opp ∧ isAllocatable opp.status :=
    allocate_act_iff hrow hadmissible (honly.of_sameBut sameBut_scoredDb hown) hroom
  have hjudge : m.judge setup (.quiet ks) db = .ok (judged setup ks m db opp signals) :=
    judge_quiet hfind hsignals hks
  obtain ⟨hhard, hattempts⟩ := gated_of_isAdmissible hadmissible
  have hverdict : (judged setup ks m db opp signals).evaluated.verdict = .authorized ↔
      AuthorityRuleRegistry.Cleared ks opp (score setup opp signals).confidence
        (m.allocate setup db opp signals).1.decision := by
    show (gate setup ks m db opp signals).1.verdict = .authorized ↔ _
    rw [gate_verdict, evaluateRules, AuthorityRuleRegistry.verdict_coreRules_iff rfl]
  have hdispatches : (judged setup ks m db opp signals).Dispatches ↔
      ¬ ks.isKillSwitchActive opp.tenantId "" ∧ m.Covers db opp opp ∧
        isAllocatable opp.status := by
    rw [JudgedMission.Dispatches, hverdict, ← hact]
    constructor
    · rintro ⟨⟨hkill, -⟩, hdecision⟩
      exact ⟨hkill, hdecision⟩
    · rintro ⟨hkill, hdecision⟩
      exact ⟨⟨hkill, hhard, hattempts, hadmissible.1, hdecision⟩, hdecision⟩
  rw [← hdispatches, run_of_judge hjudge, JudgedMission.conclude]
  split_ifs with h
  · simp only [MissionOutcome.IsDispatched, h, iff_true]
    exact h.2
  · simp [MissionOutcome.IsDispatched, h]

/-! ### What a mission does to the others -/

lemma sameBut_conclude {around : Surroundings} {script : ExecutionScript} (j : JudgedMission) :
    SameBut j.opp.id j.db (j.conclude setup around script).2 := by
  rw [JudgedMission.conclude]
  split_ifs
  · exact .executeOpportunity
  · exact .updateStatus _

lemma run_sameBut (hfind : m.find db = some opp) (hsignals : m.signals = .ok signals)
    (hks : ¬ ks.isKillSwitchActive "" "") :
    SameBut opp.id
      (runMarketAllocation setup.platform setup.estimator (m.allocationOptions opp)
        (scoredDb setup db opp signals)).2
      (m.run setup (.quiet ks) db).2 := by
  set marketDb := (runMarketAllocation setup.platform setup.estimator (m.allocationOptions opp)
    (scoredDb setup db opp signals)).2 with hmarket
  have hget : db.getOpportunityById opp.id = some opp := by
    rw [id_of_find hfind]
    exact getOpportunityById_of_find hfind
  have hrow : (marketDb.getOpportunityById opp.id).isSome := by
    rw [hmarket, getOpportunityById_runMarketAllocation, Option.isSome_map]
    show (db.getOpportunityById opp.id).isSome
    rw [hget, Option.isSome_some]
  have hjudged : SameBut opp.id marketDb (judged setup ks m db opp signals).db := by
    rw [hmarket, ← allocate_snd] at hrow ⊢
    exact sameBut_gate hrow
  rw [run_of_judge (judge_quiet hfind hsignals hks)]
  exact hjudged.trans (sameBut_conclude (judged setup ks m db opp signals))

/-- Another mission finds its opportunity still, waiting unless the run covered it. -/
lemma find_run {m' : Mission} (hfind : m.find db = some opp) (hsignals : m.signals = .ok signals)
    (hks : ¬ ks.isKillSwitchActive "" "") (hne : m'.opportunityId ≠ m.opportunityId)
    (honly : OnlyEligible setup.estimator ids db) (hid : m.opportunityId ∈ ids)
    (hroom : ids.length ≤ 5) (hfind' : m'.find db = some o) :
    ∃ s, m'.find (m.run setup (.quiet ks) db).2 = some (o.withStatus s) ∧
      (isAllocatable s ↔ isAllocatable o.status ∧ ¬ m.Covers db opp o) := by
  have hsame : SameBut opp.id _ (m.run setup (.quiet ks) db).2 := run_sameBut hfind hsignals hks
  have hrow : o ∈ db.opportunities.rows := Table.mem_of_find? (getOpportunityById_of_find hfind')
  have hown : opp.id ∈ ids := by rwa [id_of_find hfind]
  have honly' : OnlyEligible setup.estimator ids (scoredDb setup db opp signals) :=
    honly.of_sameBut sameBut_scoredDb hown
  have hcapacity : ids.length ≤ resolveCapacity setup.platform (scoredDb setup db opp signals)
      (m.allocationOptions opp) := hroom
  have hget : (m.run setup (.quiet ks) db).2.getOpportunityById m'.opportunityId =
      (db.getOpportunityById m'.opportunityId).map fun o => o.withStatus
        (placedStatus setup.platform setup.estimator (m.allocationOptions opp)
          (scoredDb setup db opp signals) o) := by
    rw [hsame.row _ (by rwa [id_of_find hfind]), getOpportunityById_runMarketAllocation]
    rfl
  refine ⟨placedStatus setup.platform setup.estimator (m.allocationOptions opp)
    (scoredDb setup db opp signals) o, ?_, ?_⟩
  · rw [find_map hget, hfind', Option.map_some]
  · have hplaced := isAllocatable_placedStatus_iff_notMem (o := o) honly' hcapacity
    rw [hplaced, scoredDb, mem_candidates_iff _ hrow]
    exact and_congr_right fun hwaits => not_congr (and_iff_left hwaits)

lemma onlyEligible_run (hfind : m.find db = some opp) (hsignals : m.signals = .ok signals)
    (hks : ¬ ks.isKillSwitchActive "" "") (honly : OnlyEligible setup.estimator ids db)
    (hid : m.opportunityId ∈ ids) (hroom : ids.length ≤ 5) :
    OnlyEligible setup.estimator ids (m.run setup (.quiet ks) db).2 := by
  have hown : opp.id ∈ ids := by rwa [id_of_find hfind]
  have hscored : OnlyEligible setup.estimator ids (scoredDb setup db opp signals) :=
    honly.of_sameBut sameBut_scoredDb hown
  have hmarket : OnlyEligible setup.estimator ids (runMarketAllocation setup.platform
      setup.estimator (m.allocationOptions opp) (scoredDb setup db opp signals)).2 :=
    hscored.runMarketAllocation hroom
  exact hmarket.of_sameBut (run_sameBut hfind hsignals hks) hown

lemma tenants_run (hfind : m.find db = some opp) (hsignals : m.signals = .ok signals)
    (hks : ¬ ks.isKillSwitchActive "" "") :
    (m.run setup (.quiet ks) db).2.tenants = db.tenants := by
  rw [(run_sameBut hfind hsignals hks).tenants, restatus_runMarketAllocation.tenants]
  rfl

/-! ### Missions in any order -/

/-- Missions run to their ends, one after the other. -/
def runAll (setup : MissionSetup) (ks : KillSwitches) : Db → List Mission → List MissionOutcome × Db
  | db, []            => ([], db)
  | db, m :: missions =>
    let first := m.run setup (.quiet ks) db
    let rest := runAll setup ks first.2 missions
    (first.1 :: rest.1, rest.2)

/-- Every mission gives its opportunity `ACT` and hands it to the executor. -/
def AllDispatched (setup : MissionSetup) (ks : KillSwitches) (db : Db) (missions : List Mission) :
    Prop :=
  ∀ outcome ∈ (runAll setup ks db missions).1, outcome.IsDispatched

/-- The reasoning of a mission comes to an end, and its opportunity is admissible under the score of
the mission. -/
def IsPrepared (setup : MissionSetup) (db : Db) (m : Mission) : Prop :=
  ∃ opp ∈ m.find db, ∃ signals, m.signals = .ok signals ∧
    IsAdmissible (opp, score setup opp signals)

/-- What a mission needs for itself: no kill switch for its opportunity's tenant, and that its run
covers its opportunity, which waits. -/
def IsServed (ks : KillSwitches) (db : Db) (m : Mission) : Prop :=
  ∀ opp ∈ m.find db, ¬ ks.isKillSwitchActive opp.tenantId "" ∧ m.Covers db opp opp ∧
    isAllocatable opp.status

/-- The run of the first mission does not cover the opportunity of the second. -/
def Spares (db : Db) (m m' : Mission) : Prop :=
  ∀ opp ∈ m.find db, ∀ opp' ∈ m'.find db, ¬ m.Covers db opp opp'

section Step

variable {m' m'' : Mission} (hfind : m.find db = some opp) (hsignals : m.signals = .ok signals)
  (hks : ¬ ks.isKillSwitchActive "" "") (honly : OnlyEligible setup.estimator ids db)
  (hid : m.opportunityId ∈ ids) (hroom : ids.length ≤ 5)
include hfind hsignals hks honly hid hroom

lemma isPrepared_run (hne : m'.opportunityId ≠ m.opportunityId) (h : IsPrepared setup db m') :
    IsPrepared setup (m.run setup (.quiet ks) db).2 m' := by
  obtain ⟨o, hfind', signals', hsignals', hadmissible⟩ := h
  obtain ⟨s, hafter, -⟩ := find_run hfind hsignals hks hne honly hid hroom hfind'
  exact ⟨o.withStatus s, hafter, signals', hsignals', hadmissible⟩

lemma isServed_run_iff (hne : m'.opportunityId ≠ m.opportunityId) (h : IsPrepared setup db m') :
    IsServed ks (m.run setup (.quiet ks) db).2 m' ↔ IsServed ks db m' ∧ Spares db m m' := by
  obtain ⟨o, hfind', -⟩ := h
  obtain ⟨s, hafter, hwaits⟩ := find_run hfind hsignals hks hne honly hid hroom hfind'
  have hcovers : m'.Covers (m.run setup (.quiet ks) db).2 (o.withStatus s) (o.withStatus s) ↔
      m'.Covers db o o := covers_congr (tenants_run hfind hsignals hks) s s
  simp only [IsServed, Spares, hafter, hfind, Option.mem_def.mp hfind', Option.mem_def,
    Option.some.injEq, forall_eq', hcovers]
  show _ ∧ _ ∧ isAllocatable s ↔ _
  rw [hwaits]
  simp only [and_assoc]
  rfl

lemma spares_run_iff (hne : m'.opportunityId ≠ m.opportunityId)
    (hne' : m''.opportunityId ≠ m.opportunityId) (h : IsPrepared setup db m')
    (h' : IsPrepared setup db m'') :
    Spares (m.run setup (.quiet ks) db).2 m' m'' ↔ Spares db m' m'' := by
  obtain ⟨o, hfind', -⟩ := h
  obtain ⟨o', hfind'', -⟩ := h'
  obtain ⟨s, hafter, -⟩ := find_run hfind hsignals hks hne honly hid hroom hfind'
  obtain ⟨s', hafter', -⟩ := find_run hfind hsignals hks hne' honly hid hroom hfind''
  simp only [Spares, hafter, hafter', Option.mem_def.mp hfind', Option.mem_def.mp hfind'',
    Option.mem_def, Option.some.injEq, forall_eq']
  rw [covers_congr (tenants_run hfind hsignals hks)]

end Step

/-- Among missions for the only eligible opportunities, at most five, all dispatch exactly when each
has what it needs and no run covers the opportunity of a later mission. -/
lemma allDispatched_iff_spares (hroom : ids.length ≤ 5) {missions : List Mission}
    (hnodup : (missions.map (·.opportunityId)).Nodup) (hids : ∀ m ∈ missions, m.opportunityId ∈ ids)
    (hprepared : ∀ m ∈ missions, IsPrepared setup db m)
    (honly : OnlyEligible setup.estimator ids db) :
    AllDispatched setup ks db missions ↔
      (∀ m ∈ missions, IsServed ks db m) ∧ missions.Pairwise (Spares db) := by
  induction missions generalizing db with
  | nil => simp [AllDispatched, runAll]
  | cons m missions ih =>
    rw [List.map_cons, List.nodup_cons] at hnodup
    rw [List.forall_mem_cons] at hids hprepared ⊢
    obtain ⟨opp, hfind, signals, hsignals, hadmissible⟩ := hprepared.1
    have hfirst : (m.run setup (.quiet ks) db).1.IsDispatched ↔ IsServed ks db m := by
      rw [isDispatched_iff hfind hsignals hadmissible honly hids.1 hroom, IsServed]
      simp [Option.mem_def.mp hfind]
    have hsplit : AllDispatched setup ks db (m :: missions) ↔ IsServed ks db m ∧
        AllDispatched setup ks (m.run setup (.quiet ks) db).2 missions := by
      rw [AllDispatched, runAll, List.forall_mem_cons, hfirst, AllDispatched]
    by_cases hserved : IsServed ks db m
    · -- the first mission runs, and the rest find the tables that it leaves
      have hks : ¬ ks.isKillSwitchActive "" "" := fun hglobal =>
        (hserved opp hfind).1 (isKillSwitchActive_of_global hglobal _)
      have hne : ∀ m' ∈ missions, m'.opportunityId ≠ m.opportunityId := fun m' hm' heq =>
        hnodup.1 (List.mem_map.mpr ⟨m', hm', heq⟩)
      have hrest := ih hnodup.2 hids.2
        (fun m' hm' => isPrepared_run hfind hsignals hks honly hids.1 hroom (hne m' hm')
          (hprepared.2 m' hm'))
        (onlyEligible_run hfind hsignals hks honly hids.1 hroom)
      have hservedRest : (∀ m' ∈ missions, IsServed ks (m.run setup (.quiet ks) db).2 m') ↔
          (∀ m' ∈ missions, IsServed ks db m') ∧ ∀ m' ∈ missions, Spares db m m' := by
        rw [← forall₂_and]
        exact forall₂_congr fun m' hm' => isServed_run_iff hfind hsignals hks honly hids.1 hroom
          (hne m' hm') (hprepared.2 m' hm')
      have hspares : missions.Pairwise (Spares (m.run setup (.quiet ks) db).2) ↔
          missions.Pairwise (Spares db) :=
        List.Pairwise.iff_of_mem fun hm' hm'' => spares_run_iff hfind hsignals hks honly hids.1
          hroom (hne _ hm') (hne _ hm'') (hprepared.2 _ hm') (hprepared.2 _ hm'')
      rw [hsplit, hrest, hservedRest, hspares, List.pairwise_cons]
      simp only [and_assoc]
    · rw [hsplit]
      exact iff_of_false (fun h => hserved h.1) (fun h => hserved h.1.1)

/-- At most five missions for all the opportunities that wait and are eligible, each admissible under
its mission's score: all of them dispatch exactly when no kill switch halts one of their tenants,
each mission's run covers its own opportunity, and none covers that of a later mission. -/
theorem allDispatched_iff {missions : List Mission} (hfew : missions.length ≤ 5)
    (hnodup : (missions.map (·.opportunityId)).Nodup)
    (hprepared : ∀ m ∈ missions, IsPrepared setup db m)
    (hwaits : ∀ m ∈ missions, ∀ opp ∈ m.find db, isAllocatable opp.status)
    (honly : OnlyEligible setup.estimator (missions.map (·.opportunityId)) db) :
    AllDispatched setup ks db missions ↔
      (∀ m ∈ missions, ∀ opp ∈ m.find db,
        ¬ ks.isKillSwitchActive opp.tenantId "" ∧ m.Covers db opp opp) ∧
      missions.Pairwise (Spares db) := by
  have hroom : (missions.map (·.opportunityId)).length ≤ 5 := by rwa [List.length_map]
  rw [allDispatched_iff_spares hroom hnodup (fun m hm => List.mem_map.mpr ⟨m, hm, rfl⟩) hprepared
    honly]
  have hserved : (∀ m ∈ missions, IsServed ks db m) ↔ ∀ m ∈ missions, ∀ opp ∈ m.find db,
      ¬ ks.isKillSwitchActive opp.tenantId "" ∧ m.Covers db opp opp := by
    refine forall₂_congr fun m hm => forall₂_congr fun opp hopp => ?_
    simp [hwaits m hm opp hopp]
  rw [hserved]

/-! ### Two missions of the orchestrator -/

/-- Two opportunities that wait for their first allocation. -/
def twoWaiting : Db :=
  Db.ofRows [sampleOpportunity "opp_1" pending, sampleOpportunity "opp_2" pending] []

def twoMissions : List Mission := [sampleMission "opp_1", sampleMission "opp_2"]

lemma isPrepared_twoMissions : ∀ m ∈ twoMissions, IsPrepared .sample twoWaiting m := by
  intro m hm
  simp only [twoMissions, List.mem_cons, List.not_mem_nil, or_false] at hm
  rcases hm with rfl | rfl
  · exact ⟨sampleOpportunity "opp_1" pending, rfl, [], rfl, by decide +kernel⟩
  · exact ⟨sampleOpportunity "opp_2" pending, rfl, [], rfl, by decide +kernel⟩

lemma onlyEligible_twoMissions :
    OnlyEligible .sample (twoMissions.map (·.opportunityId)) twoWaiting := by
  intro j hj o ho
  have hid : o.id = j := Db.id_of_getOpportunityById ho
  have hmem := Table.mem_of_find? ho
  simp only [twoWaiting, Db.ofRows, List.foldl_cons, List.foldl_nil, Table.mem_put,
    Table.rows_empty, List.not_mem_nil, false_and, or_false] at hmem
  have hname : j ∈ ["opp_1", "opp_2"] := by
    rcases hmem with rfl | ⟨rfl, -⟩
    · simp [← hid, sampleOpportunity]
    · simp [← hid, sampleOpportunity]
  exact absurd hname hj

/-- The first mission's run places both opportunities, so that the second mission gives up. -/
theorem twoMissions_not_allDispatched : ¬ AllDispatched .sample .off twoWaiting twoMissions := by
  rw [allDispatched_iff_spares (by simp [twoMissions]) (by simp [twoMissions, sampleMission])
    (fun m hm => List.mem_map.mpr ⟨m, hm, rfl⟩) isPrepared_twoMissions onlyEligible_twoMissions]
  rintro ⟨-, hspares⟩
  have hfirst := (List.pairwise_cons.mp hspares).1 (sampleMission "opp_2") List.mem_cons_self
  exact hfirst (sampleOpportunity "opp_1" pending) rfl (sampleOpportunity "opp_2" pending) rfl
    (covers_of_orchestrator rfl _ _)

/-- The condition of the two missions. -/
theorem allDispatched_iff_twoMissions :
    AllDispatched .sample .off twoWaiting twoMissions ↔
      (∀ m ∈ twoMissions, ∀ opp ∈ m.find twoWaiting,
        ¬ KillSwitches.off.isKillSwitchActive opp.tenantId "" ∧ m.Covers twoWaiting opp opp) ∧
      twoMissions.Pairwise (Spares twoWaiting) := by
  refine allDispatched_iff (by simp [twoMissions]) (by simp [twoMissions, sampleMission])
    isPrepared_twoMissions ?_ onlyEligible_twoMissions
  intro m hm opp hopp
  simp only [twoMissions, List.mem_cons, List.not_mem_nil, or_false] at hm
  rcases hm with rfl | rfl <;> cases hopp <;> rfl

end Mission

end CtrlRecovery
