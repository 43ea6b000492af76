import CtrlRecovery.Agents.Learning
import CtrlRecovery.Agents.Mission
import CtrlRecovery.Domain.StatusWriters
import CtrlRecovery.Reconciliation.Atomicity
import CtrlRecovery.System.Server
import CtrlRecovery.System.Writes

/-!
# The outcomes of missions

Two kinds of writers fill `agent_outcomes`. The reconciler inserts a recovery with its settlement,
of the amount that the provider has confirmed. The orchestrator and the agent loop evaluate the
outcome of their mission right after its execution, and report a recovery of the whole amount
whenever the gate has authorized the mission.

`MissionsState` follows the missions and the system together with the payments that the provider has
confirmed. Every recovery among the outcomes is a confirmed one as long as an authorized mission
learns only what the provider has confirmed by then (`outcomesConfirmed_iff`). A mission whose link
nobody has paid does not (`link_counts_as_recovery`).
-/

namespace CtrlRecovery

open Core OpportunityStatus Scorer Market Authority AuthoritativeReconciler

namespace MissionOutcomes

/-! ### Missions between two steps -/

/-- Where a mission stands; `executing` waits for its call of the executor, and `drafting` for the
message to the customer. -/
inductive MissionPhase
  | reasoning
  | allocated (score : Score) (allocation : AllocationDecision)
  | judged (allocation : AllocationDecision) (verdict : AuthorityVerdict)
  | executing (verdict : AuthorityVerdict) (call : ℕ)
  | drafting (verdict : AuthorityVerdict)
  | learning (verdict : AuthorityVerdict)
  deriving DecidableEq

/-- A mission with the opportunity that it has read at its start. -/
structure RunningMission where
  mission : Mission
  runId : String
  opp : RecoveryOpportunity
  phase : MissionPhase

namespace RunningMission

variable (r : RunningMission)

/-- Whether other tasks may run before the next step of the mission. The orchestrator does not wait
between its reasoning and the executor. -/
def isSuspended : Bool :=
  match r.phase with
  | .allocated .. | .judged .. =>
    match r.mission.engine with
    | .orchestrator _ => false
    | .agentLoop _ _  => true
  | .learning _                => false
  | _                          => true

def customerResponse (verdict : AuthorityVerdict) : String :=
  match r.mission.engine with
  | .orchestrator _ =>
    if verdict = .authorized then "Payment link dispatched" else "Abstained/Blocked"
  | .agentLoop _ _  =>
    if verdict = .authorized then "Payment link dispatched via agent loop"
    else "Agent decided not to act"

/-- What a mission reports about its outcome. -/
def outcomeParams (verdict : AuthorityVerdict) : OutcomeParams where
  runId := r.runId
  opportunityId := r.opp.id
  actualRecovered := some (verdict = .authorized)
  actualRevenuePaise := some r.opp.amountPaise
  customerResponse := some (r.customerResponse verdict)
  amountPaidPaise := none

end RunningMission

/-- `thread` is the mission that has not come to its next await; `confirmed` are the opportunities
that the provider has confirmed a payment of, with the amounts. -/
structure MissionsState extends EngineState where
  missions : ℕ → Option RunningMission
  thread : Option ℕ
  confirmed : List (String × ℚ)

/-- A mission begins, takes its steps in turn, and ends after learning or by a throw; or the rest of
the system takes a step. -/
inductive MissionAction
  | system (action : SystemAction)
  | begin (k : ℕ) (mission : Mission) (runId : String)
  | allocate (k : ℕ) (est : Estimator)
      (effectiveProbabilities : String → DeclineType → ProbabilityEstimate)
      (llmInfluenceDisabled : Bool)
  | judge (k : ℕ) (est : Estimator) (now : Timestamp)
  | conclude (k call : ℕ) (est : Estimator) (now : Timestamp)
  | executed (k : ℕ)
  | drafted (k : ℕ)
  | learn (k : ℕ) (outcomeId : String) (now : Timestamp)
  | throws (k : ℕ)

def MissionAction.mission : MissionAction → Option ℕ
  | .system _ => none
  | .begin k .. | .allocate k .. | .judge k .. | .conclude k .. | .executed k | .drafted k
  | .learn k .. | .throws k => some k

/-! ### What the provider confirms -/

/-- The payload that an action hands to the reconciler, with the opportunity that it is about. -/
def paymentReport (s : EngineState) : SystemAction → Option (String × ProviderPayload)
  | .engine (.reconcile (.start _ id (some (_, payload)) _))   => some (id, payload)
  | .engine (.reconcile (.fetched call _ (.ok payload)))       =>
    match s.calls call with
    | some (.fetching read) => some (read.opp.id, payload)
    | _                     => none
  | _                                                          => none

def confirmation (s : EngineState) (action : SystemAction) : List (String × ℚ) :=
  match paymentReport s action with
  | some (id, payload) => if ConfirmsPayment payload then [(id, amountPaid payload)] else []
  | none               => []

/-! ### Steps -/

namespace MissionsState

variable (s : MissionsState) (k : ℕ)

def idle (db : Db) : MissionsState where
  toEngineState := .idle db
  missions := fun _ => none
  thread := none
  confirmed := []

/-- The mission leaves this database and goes on to its next phase. -/
def proceed (db : Db) (r : RunningMission) : MissionsState :=
  { s with
    db := db
    missions := Function.update s.missions k (some r)
    thread := if r.isSuspended then none else some k }

def finish (db : Db) : MissionsState :=
  { s with db := db, missions := Function.update s.missions k none, thread := none }

end MissionsState

variable (platform : Platform)

/-- A step, once the thread is free for it. A mission that finds no opportunity, or the kill switch
engaged, ends before it is followed. -/
def advance (s : MissionsState) : MissionAction → Option MissionsState
  | .system action =>
    (systemStep platform s.toEngineState action).map fun t =>
      { s with
        toEngineState := t
        confirmed := s.confirmed ++ confirmation s.toEngineState action }
  | .begin k mission runId =>
    if (s.missions k).isSome || s.killSwitches.isKillSwitchActive "" "" then none
    else (mission.find s.db).map fun opp =>
      s.proceed k s.db ⟨mission, runId, opp, .reasoning⟩
  | .allocate k est effectiveProbabilities llmInfluenceDisabled =>
    match s.missions k with
    | some ⟨mission, runId, opp, .reasoning⟩ =>
      match mission.signals with
      | .error _    => some (s.finish k s.db)
      | .ok signals =>
        let setup : MissionSetup := ⟨platform, est, effectiveProbabilities, llmInfluenceDisabled⟩
        let allocated := mission.allocate setup s.db opp signals
        let score := Mission.score setup opp signals
        some (s.proceed k allocated.2 ⟨mission, runId, opp, .allocated score allocated.1⟩)
    | _ => none
  | .judge k est now =>
    match s.missions k with
    | some ⟨mission, runId, opp, .allocated score allocation⟩ =>
      let evaluated := evaluateOpportunity s.killSwitches est now
        (s.db.upsertAllocationDecision allocation) opp (some allocation) (some score)
      some (s.proceed k evaluated.2
        ⟨mission, runId, opp, .judged allocation evaluated.1.verdict⟩)
    | _ => none
  | .conclude k call est now =>
    match s.missions k with
    | some ⟨mission, runId, opp, .judged allocation verdict⟩ =>
      if verdict = .authorized ∧ allocation.decision = .act then
        (engineStep platform s.toEngineState (.execute call est now opp.id false)).map fun t =>
          MissionsState.proceed { s with toEngineState := t } k t.db
            ⟨mission, runId, opp, .executing verdict call⟩
      else
        some (s.proceed k (s.db.updateStatus opp.id (declinedStatus verdict))
          ⟨mission, runId, opp, .learning verdict⟩)
    | _ => none
  | .executed k =>
    match s.missions k with
    | some ⟨mission, runId, opp, .executing verdict call⟩ =>
      match s.executions call with
      | some ⟨.finished (.ok result), _⟩ =>
        some (s.proceed k s.db ⟨mission, runId, opp,
          if result.success && result.record.isSome then .drafting verdict
          else .learning verdict⟩)
      | some ⟨.finished (.error _), _⟩   => some (s.finish k s.db)
      | _                                => none
    | _ => none
  | .drafted k =>
    match s.missions k with
    | some ⟨mission, runId, opp, .drafting verdict⟩ =>
      some (s.proceed k s.db ⟨mission, runId, opp, .learning verdict⟩)
    | _ => none
  | .learn k outcomeId now =>
    match s.missions k with
    | some ⟨mission, runId, opp, .learning verdict⟩ =>
      (AgentLearningEngine.evaluateOutcome s.db
        (RunningMission.outcomeParams ⟨mission, runId, opp, .learning verdict⟩ verdict) outcomeId
        now).map fun db => s.finish k db
    | _ => none
  | .throws k => if (s.missions k).isSome then some (s.finish k s.db) else none

/-- One step; while a mission has the thread, nobody else takes one. -/
def missionStep (s : MissionsState) (a : MissionAction) : Option MissionsState :=
  if s.thread.all fun k => a.mission = some k then advance platform s a else none

/-! ### The outcomes -/

/-- Every recovery among the outcomes is one that the provider has confirmed for its opportunity,
with the amount that it has confirmed. -/
def OutcomesConfirmed (s : MissionsState) : Prop :=
  ∀ outcome ∈ s.db.agentOutcomes.rows, outcome.actualRecovered →
    (outcome.opportunityId, outcome.actualRevenuePaise) ∈ s.confirmed

/-- A mission that learns with the verdict `AUTHORIZED` is about an opportunity that the provider
has confirmed a payment of, of exactly its amount. -/
def LearnsConfirmed (s : MissionsState) : MissionAction → Prop
  | .learn k _ _ => ∀ r ∈ s.missions k, r.phase = .learning .authorized →
      (r.opp.id, r.opp.amountPaise) ∈ s.confirmed
  | _            => True

instance (s : MissionsState) (a : MissionAction) : Decidable (LearnsConfirmed s a) := by
  unfold LearnsConfirmed
  split <;> infer_instance

/-- The reconciliations that are about to commit a recovery commit a confirmed one. -/
def PlansConfirmed (s : MissionsState) : Prop :=
  ∀ call plan, s.calls call = some (.committing plan) → plan.targetOpportunityStatus = recovered →
    (plan.read.opp.id, plan.truthEval.amountPaidPaise) ∈ s.confirmed

/-! ### What a step does -/

/-- A step of the system; a mission that stores its outcome; or a step of a mission that stores
none. -/
inductive StepEffect (s : MissionsState) : MissionAction → MissionsState → Prop
  | system {action : SystemAction} {u : EngineState}
      (step : systemStep platform s.toEngineState action = some u) :
      StepEffect s (.system action)
        { s with
          toEngineState := u
          confirmed := s.confirmed ++ confirmation s.toEngineState action }
  | learns {k : ℕ} {r : RunningMission} {verdict : AuthorityVerdict} {outcomeId : String}
      {now : Timestamp} {t : MissionsState} (running : s.missions k = some r)
      (phase : r.phase = .learning verdict)
      (rows : t.db.agentOutcomes.rows = s.db.agentOutcomes.rows ++
        [AgentLearningEngine.record s.db (r.outcomeParams verdict) outcomeId now])
      (calls : t.calls = s.calls) (confirmed : t.confirmed = s.confirmed) :
      StepEffect s (.learn k outcomeId now) t
  | works {a : MissionAction} {t : MissionsState}
      (other : ∀ k outcomeId now, a ≠ .learn k outcomeId now)
      (outcomes : t.db.agentOutcomes = s.db.agentOutcomes) (calls : t.calls = s.calls)
      (confirmed : t.confirmed = s.confirmed) : StepEffect s a t

variable {platform} {s t : MissionsState} {a : MissionAction}

lemma writes_allocate (setup : MissionSetup) (m : Mission) (db : Db) (opp : RecoveryOpportunity)
    (signals : List SemanticSignal) : Writes db (m.allocate setup db opp signals).2 :=
  (Relation.ReflTransGen.single (.score (Mission.score setup opp signals))).trans
    (Writes.runMarketAllocation setup.platform setup.estimator (m.allocationOptions opp) _)

/-- A step of a mission other than its last one, which leaves the database `db`. -/
lemma stepEffect_proceed {k : ℕ} {r : RunningMission} {db : Db}
    (hother : ∀ k outcomeId now, a ≠ .learn k outcomeId now) (h : Writes s.db db) :
    StepEffect platform s a (s.proceed k db r) :=
  .works hother (Writes.sameAgentRecords h).agentOutcomes rfl rfl

lemma stepEffect_finish {k : ℕ} (hother : ∀ k outcomeId now, a ≠ .learn k outcomeId now) :
    StepEffect platform s a (s.finish k s.db) :=
  .works hother rfl rfl rfl

lemma stepEffect_allocate {k : ℕ} {est : Estimator}
    {effectiveProbabilities : String → DeclineType → ProbabilityEstimate}
    {llmInfluenceDisabled : Bool}
    (h : advance platform s (.allocate k est effectiveProbabilities llmInfluenceDisabled) = some t) :
    StepEffect platform s (.allocate k est effectiveProbabilities llmInfluenceDisabled) t := by
  simp only [advance] at h
  split at h
  next mission runId opp hrunning =>
    split at h <;> cases h
    · exact stepEffect_finish nofun
    · exact stepEffect_proceed nofun (writes_allocate _ _ _ _ _)
  next => cases h

lemma stepEffect_judge {k : ℕ} {est : Estimator} {now : Timestamp}
    (h : advance platform s (.judge k est now) = some t) :
    StepEffect platform s (.judge k est now) t := by
  simp only [advance] at h
  split at h
  next mission runId opp score allocation hrunning =>
    rw [← Option.some.inj h]
    have hdecided : Writes s.db (s.db.upsertAllocationDecision allocation) :=
      .single (.decision allocation)
    exact stepEffect_proceed nofun (hdecided.trans (Writes.evaluateOpportunity ..))
  next => cases h

lemma stepEffect_conclude {k call : ℕ} {est : Estimator} {now : Timestamp}
    (h : advance platform s (.conclude k call est now) = some t) :
    StepEffect platform s (.conclude k call est now) t := by
  simp only [advance] at h
  split at h
  next mission runId opp allocation verdict hrunning =>
    split_ifs at h
    · obtain ⟨u, hu, rfl⟩ := Option.map_eq_some_iff.mp h
      have hwrites : Writes s.db u.db := engineStep_writes hu rfl
      exact .works nofun hwrites.sameAgentRecords.agentOutcomes (engineStep_execute hu).2.1 rfl
    · cases h
      exact stepEffect_proceed nofun (.single (.status _ _))
  next => cases h

lemma stepEffect_executed {k : ℕ} (h : advance platform s (.executed k) = some t) :
    StepEffect platform s (.executed k) t := by
  simp only [advance] at h
  split at h
  next mission runId opp verdict call hrunning =>
    split at h <;> cases h
    · exact stepEffect_proceed nofun .refl
    · exact stepEffect_finish nofun
  next => cases h

lemma stepEffect_learn {k : ℕ} {outcomeId : String} {now : Timestamp}
    (h : advance platform s (.learn k outcomeId now) = some t) :
    StepEffect platform s (.learn k outcomeId now) t := by
  simp only [advance] at h
  split at h
  next mission runId opp verdict hrunning =>
    obtain ⟨db, hdb, rfl⟩ := Option.map_eq_some_iff.mp h
    exact .learns hrunning rfl (AgentLearningEngine.evaluateOutcome_eq_some hdb) rfl rfl
  next => cases h

lemma stepEffect_of_missionStep (h : missionStep platform s a = some t) :
    StepEffect platform s a t := by
  obtain ⟨-, h⟩ := Option.ite_none_right_eq_some.mp h
  cases a with
  | system action =>
    obtain ⟨u, hu, rfl⟩ := Option.map_eq_some_iff.mp h
    exact .system hu
  | begin k mission runId =>
    simp only [advance] at h
    split_ifs at h
    obtain ⟨opp, -, rfl⟩ := Option.map_eq_some_iff.mp h
    exact stepEffect_proceed nofun .refl
  | allocate k est effectiveProbabilities llmInfluenceDisabled => exact stepEffect_allocate h
  | judge k est now => exact stepEffect_judge h
  | conclude k call est now => exact stepEffect_conclude h
  | executed k => exact stepEffect_executed h
  | drafted k =>
    simp only [advance] at h
    split at h <;> cases h
    exact stepEffect_proceed nofun .refl
  | learn k outcomeId now => exact stepEffect_learn h
  | throws k =>
    simp only [advance] at h
    split_ifs at h
    cases h
    exact stepEffect_finish nofun

/-! ### Confirmed plans -/

lemma mem_confirmation_of_decide {action : SystemAction} {read : ReconcileRead}
    {source : PayloadSource} {payload : ProviderPayload} {plan : SettlementPlan} {e : EngineState}
    (hreport : paymentReport e action = some (read.opp.id, payload))
    (hplan : decide read source payload = .committing plan)
    (hrec : plan.targetOpportunityStatus = recovered) :
    (plan.read.opp.id, plan.truthEval.amountPaidPaise) ∈ confirmation e action := by
  obtain ⟨-, hread, -, htruth, htarget⟩ := decide_eq_committing hplan
  simp [confirmation, hreport, htarget.mp hrec, hread, htruth, amountPaid]

/-- A plan that a step makes is made on a payload of this step. -/
lemma mem_confirmation_of_reconcileStep {e : EngineState} {r : ReconcilerState}
    {action : ReconcileAction} (hstep : reconcileStep platform e.toReconcilerState action = some r)
    {call : ℕ} {plan : SettlementPlan} (hcall : r.calls call = some (.committing plan))
    (hrec : plan.targetOpportunityStatus = recovered) :
    e.calls call = some (.committing plan) ∨
      (plan.read.opp.id, plan.truthEval.amountPaidPaise) ∈
        confirmation e (.engine (.reconcile action)) := by
  rcases reconcileStep_calls hstep call with
    hsame | ⟨id, override, now, rfl, hnew⟩ | ⟨read, client, response, rfl, hfetching, -, hnew⟩ |
      ⟨result, hnew⟩
  · exact .inl (hsame.symm.trans hcall)
  · right
    have hstart := Option.some.inj (hnew.symm.trans hcall)
    cases override with
    | none => exact absurd hstart reconcileStart_none_ne_committing
    | some given =>
      obtain ⟨source, payload⟩ := given
      obtain ⟨opp, execRecord, hopp, hplan⟩ := of_reconcileStart_committing hstart
      have hid : opp.id = id := Db.id_of_getOpportunityById hopp
      exact mem_confirmation_of_decide (by rw [paymentReport, hid]) hplan hrec
  · right
    have hfetched := Option.some.inj (hnew.symm.trans hcall)
    cases response with
    | error message => cases hfetched
    | ok payload =>
      exact mem_confirmation_of_decide (by simp only [paymentReport, hfetching]) hfetched hrec
  · cases hnew.symm.trans hcall

lemma plansConfirmed_step (h : PlansConfirmed s) (hstep : missionStep platform s a = some t) :
    PlansConfirmed t := by
  intro call plan hcall hrec
  cases stepEffect_of_missionStep hstep with
  | @system action u hu =>
    apply List.mem_append.mpr
    by_cases hother : ∀ r, action ≠ .engine (.reconcile r)
    · change u.calls call = some (.committing plan) at hcall
      rw [systemStep_calls hu hother] at hcall
      exact .inl (h call plan hcall hrec)
    · simp only [not_forall, not_not] at hother
      obtain ⟨action, rfl⟩ := hother
      obtain ⟨r, hr, rfl⟩ := engineStep_reconcile hu
      exact (mem_confirmation_of_reconcileStep hr hcall hrec).imp_left fun hbefore =>
        h call plan hbefore hrec
  | learns running phase rows calls confirmed | works other outcomes calls confirmed =>
    rw [calls] at hcall
    rw [confirmed]
    exact h call plan hcall hrec

/-! ### Confirmed outcomes -/

lemma exists_outcome_of_settlement {plan : SettlementPlan} {ids : TransactionIds} {db db' : Db}
    (h : Transaction.attempt [insertSettlement platform plan ids, insertLedgerAudit plan ids,
      insertAgentRun plan, insertOutcome plan ids, insertMemory plan ids] none db = some db') :
    ∃ outcome : AgentOutcome, outcome.opportunityId = plan.read.opp.id ∧
      outcome.actualRevenuePaise = plan.truthEval.amountPaidPaise ∧
      db'.agentOutcomes = db.agentOutcomes.put outcome := by
  simp only [Transaction.attempt_cons_none, Transaction.attempt_nil, insertAgentRun, insertOutcome,
    insertSettlement, insertLedgerAudit, insertMemory, Option.bind_eq_some_iff,
    Option.map_eq_some_iff, Option.bind_some, Option.some.injEq] at h
  obtain ⟨_, ⟨ledger, -, rfl⟩, dbAudit, haudit, _, ⟨memories, -, rfl⟩, rfl⟩ := h
  split_ifs at haudit
  obtain ⟨audit, -, rfl⟩ := Option.map_eq_some_iff.mp haudit
  exact ⟨_, rfl, rfl, rfl⟩

/-- A transaction stores an outcome when its plan is to recover, of the amount that was paid. -/
lemma agentOutcomes_reconcileCommit (plan : SettlementPlan) (ids : TransactionIds)
    (fault : Option ℕ) (db : Db) :
    (reconcileCommit platform plan ids fault db).agentOutcomes = db.agentOutcomes ∨
      plan.targetOpportunityStatus = recovered ∧
        ∃ outcome : AgentOutcome, outcome.opportunityId = plan.read.opp.id ∧
          outcome.actualRevenuePaise = plan.truthEval.amountPaidPaise ∧
          (reconcileCommit platform plan ids fault db).agentOutcomes =
            db.agentOutcomes.put outcome := by
  rw [reconcileCommit]
  cases h : Transaction.attempt (statements platform plan ids) fault db with
  | none =>
    rw [Transaction.commitOrRollback_of_none h]
    exact .inl rfl
  | some db' =>
    rw [Transaction.commitOrRollback_of_some h]
    obtain ⟨db₁, db₂, hupdates, hsettlement, hdivergence⟩ := exists_blocks_of_attempt h
    rw [(notSettled_of_divergence hdivergence).agentOutcomes,
      ← (notSettled_of_updates hupdates).agentOutcomes]
    split_ifs at hsettlement with hrec
    · exact .inr ⟨hrec, exists_outcome_of_settlement hsettlement⟩
    · cases hsettlement
      exact .inl rfl

/-- The system stores confirmed outcomes only. -/
lemma outcomesConfirmed_system (hplans : PlansConfirmed s) (h : OutcomesConfirmed s)
    {action : SystemAction} {u : EngineState}
    (hstep : systemStep platform s.toEngineState action = some u) {outcome : AgentOutcome}
    (hmem : outcome ∈ u.db.agentOutcomes.rows) (hrec : outcome.actualRecovered) :
    (outcome.opportunityId, outcome.actualRevenuePaise) ∈ s.confirmed := by
  cases hplan : committingPlan s.toEngineState action with
  | none =>
    rw [(systemStep_writes hstep hplan).sameAgentRecords.agentOutcomes] at hmem
    exact h outcome hmem hrec
  | some plan =>
    cases action with
    | engine action =>
      obtain ⟨call, ids, fault, message, -, hcall, hdb⟩ := engineStep_commit hstep hplan
      rw [hdb] at hmem
      rcases agentOutcomes_reconcileCommit plan ids fault s.db with
        hsame | ⟨htarget, stored, hid, hamount, hput⟩
      · rw [hsame] at hmem
        exact h outcome hmem hrec
      · rw [hput] at hmem
        rcases Table.mem_put.mp hmem with rfl | ⟨hold, -⟩
        · rw [hid, hamount]
          exact hplans call plan hcall htarget
        · exact h outcome hold hrec
    | _ => cases hplan

lemma actualRecovered_outcomeParams {r : RunningMission} {verdict : AuthorityVerdict} {db : Db}
    {id : String} {now : Timestamp} :
    (AgentLearningEngine.record db (r.outcomeParams verdict) id now).actualRecovered ↔
      verdict = .authorized := by
  rw [AgentLearningEngine.actualRecovered_record]
  simp [RunningMission.outcomeParams]

lemma outcomesConfirmed_step_iff (hplans : PlansConfirmed s) (h : OutcomesConfirmed s)
    (hstep : missionStep platform s a = some t) : OutcomesConfirmed t ↔ LearnsConfirmed s a := by
  cases stepEffect_of_missionStep hstep with
  | system hu =>
    refine iff_of_true (fun outcome hmem hrec => ?_) trivial
    exact List.mem_append_left _ (outcomesConfirmed_system hplans h hu hmem hrec)
  | @learns k r verdict outcomeId now _ running phase rows calls confirmed =>
    have hlearns : LearnsConfirmed s (.learn k outcomeId now) ↔
        (verdict = .authorized → (r.opp.id, r.opp.amountPaise) ∈ s.confirmed) := by
      simp [LearnsConfirmed, running, phase]
    have hold : ∀ outcome ∈ s.db.agentOutcomes.rows, outcome.actualRecovered →
        (outcome.opportunityId, outcome.actualRevenuePaise) ∈ s.confirmed := h
    rw [hlearns, OutcomesConfirmed, rows, confirmed, List.forall_mem_append, and_iff_right hold,
      List.forall_mem_singleton, actualRecovered_outcomeParams]
    rfl
  | works other outcomes calls confirmed =>
    have hkept : OutcomesConfirmed t := by
      rw [OutcomesConfirmed, outcomes, confirmed]
      exact h
    refine iff_of_true hkept ?_
    cases a with
    | learn k outcomeId now => exact absurd rfl (other k outcomeId now)
    | _ => trivial

/-- In every state of a run of missions and the rest of the system, every recovery among the
outcomes is one that the provider has confirmed for its opportunity, with the confirmed amount, if
and only if every mission that learns with the verdict `AUTHORIZED` does so when the provider has
confirmed a payment of exactly the amount of its opportunity. -/
theorem outcomesConfirmed_iff (platform : Platform) (tenants : Table Tenant.id)
    (actions : List MissionAction) :
    (∀ before rest t, actions = before ++ rest →
        Run (missionStep platform) (.idle (.ofTenants tenants)) before t → OutcomesConfirmed t) ↔
      AllSteps (missionStep platform) (fun s a _ => LearnsConfirmed s a)
        (.idle (.ofTenants tenants)) actions := by
  apply always_iff_allSteps_of_invariant (J := PlansConfirmed)
  · exact fun s a t hplans hstep => plansConfirmed_step hplans hstep
  · exact fun s a t hplans h hstep => outcomesConfirmed_step_iff hplans h hstep
  · exact fun outcome hmem _ => absurd hmem (List.not_mem_nil)
  · exact fun call plan hcall _ => nomatch hcall

/-! ### A link that counts as a recovery -/

/-- A failed payment is ingested and a mission for it authorized, and its link created. -/
def linkedMission : List MissionAction :=
  [.system (.ingest (.queued "tenant_a" (failedEvent "evt_1" "pay_1") 0 1000 "led_1")),
    .begin 0 (sampleMission "pay_1") "run_1",
    .allocate 0 .sample MissionSetup.sample.effectiveProbabilities false,
    .judge 0 .sample 2000,
    .conclude 0 0 .sample 2000,
    .system (.engine (.answer 0 (.client (.ok .rzpClient) false) 2000 "led_2")),
    .system (.engine (.answer 0 (.attempt (.ok ⟨"plink_1", none, none⟩)) 2000 "led_3")),
    .executed 0,
    .drafted 0]

/-- The mission learns that its payment is recovered, and nobody has paid. -/
theorem link_counts_as_recovery :
    ¬ ∀ (platform : Platform) (tenants : Table Tenant.id) (actions : List MissionAction)
      (t : MissionsState), Run (missionStep platform) (.idle (.ofTenants tenants)) actions t →
        OutcomesConfirmed t := by
  intro h
  obtain ⟨t, hrun, ht⟩ := exists_run_of_execute (missionStep .plain) (.idle (.ofTenants .empty))
    (linkedMission ++ [.learn 0 "out_1" 3000])
    (fun t => t.confirmed = [] ∧ t.db.agentOutcomes.rows.any (·.actualRecovered))
    (by decide +kernel)
  obtain ⟨hnone, hrecovered⟩ := of_decide_eq_true ht
  obtain ⟨outcome, hmem, hrec⟩ := List.any_eq_true.mp hrecovered
  have hconfirmed := h .plain .empty _ t hrun outcome hmem hrec
  rw [hnone] at hconfirmed
  cases hconfirmed

end MissionOutcomes

end CtrlRecovery
