import CtrlRecovery.Economics.BanditPolicy
import CtrlRecovery.Economics.Calibration
import CtrlRecovery.Reconciliation.Atomicity

/-!
# Reconciling twice

After its commit a call that leaves the opportunity settled, either way, has the calibrator count the
outcome and rewards the bandit's arm. The next call does nothing for a recovered opportunity. For a
lost one it learns again, whatever the payload says short of a payment, and it reports a mismatch
again. A second call with the same payload changes nothing exactly when the payload is not of these
kinds (`reconcile_twice_iff`).
-/

namespace CtrlRecovery

open Core OpportunityStatus

namespace AuthoritativeReconciler

/-- The tables, and what is learned. -/
structure LearningState where
  db : Db
  calibrator : BayesianProbabilityCalibrator.State
  arms : Table BanditArmRecord.key

/-- What the learning of a call generates. -/
structure LearningStamp where
  call : ℕ
  armId : String
  now : Timestamp

/-! ### A call that learns -/

/-- The outcome is that of an intervention. -/
def wasIntervention (plan : SettlementPlan) : Bool :=
  plan.truthEval.paymentLinkId != "" || plan.read.opp.status == executing ||
    plan.read.opp.status == allocated || plan.read.opp.status == authorized

def observation (plan : SettlementPlan) : BayesianProbabilityCalibrator.Observation where
  tenantId := plan.read.opp.tenantId
  reasonCode := plan.read.opp.reasonCode
  isRecovered := plan.targetOpportunityStatus == recovered
  wasIntervention := wasIntervention plan

/-- The learning after a commit; the errors of both learners are caught. -/
def learn (stamp : LearningStamp) (plan : SettlementPlan) (s : LearningState) : LearningState :=
  if plan.targetOpportunityStatus = recovered ∨ plan.targetOpportunityStatus = notRecovered then
    { s with
      calibrator := BayesianProbabilityCalibrator.observe s.calibrator stamp.call (observation plan)
      arms := (ThompsonSamplingBandit.updateReward s.arms stamp.armId plan.read.opp.tenantId
        (ThompsonSamplingBandit.getContextKey plan.read.opp)
        (plan.targetOpportunityStatus == recovered) (wasIntervention plan) stamp.now).getD s.arms }
  else s

/-- A call of `reconcileOpportunity` with its learning, in which nothing else happens. -/
def reconcile (platform : Platform) (input : ReconcileInput) (stamp : LearningStamp)
    (s : LearningState) : LearningState :=
  match answerCall input (reconcileStart s.db input.id input.override input.now) with
  | .committing plan =>
    let committed := { s with db := reconcileCommit platform plan input.ids input.fault s.db }
    if commits platform plan input.ids input.fault s.db then learn stamp plan committed
    else committed
  | _                => s

/-! ### Payloads whose effect repeats -/

/-- The payload that a call works with: the one that it is passed, or that of the link of the
opportunity. -/
def payloadFor (input : ReconcileInput) (db : Db) (opp : RecoveryOpportunity) :
    Option ProviderPayload :=
  match input.override with
  | some (_, payload) => some payload
  | none              =>
    if (db.getExecutionRecordByOpportunityId opp.id).any fun r => r.razorpayPaymentLinkId ≠ "" then
      input.response.toOption
    else none

/-- The state that the provider's status and amount stand for. -/
def canonicalState (opp : RecoveryOpportunity) (payload : ProviderPayload) : CanonicalPaymentState :=
  let truthEval := ProviderTruthEvaluator.evaluate payload
  (CanonicalStateMachine.mapRazorpayStatusToCanonicalState truthEval.providerStatus opp.amountPaise
    truthEval.amountPaidPaise).canonicalState

/-- The payload confirms the payment. -/
def Confirms (opp : RecoveryOpportunity) (payload : ProviderPayload) : Prop :=
  canonicalState opp payload = .paymentConfirmed ∨
    (ProviderTruthEvaluator.evaluate payload).isRecovered

/-- The payload does not confirm the payment, and it reports an end or a mismatch, or the opportunity
is lost already. -/
def Repeats (opp : RecoveryOpportunity) (payload : ProviderPayload) : Prop :=
  ¬ Confirms opp payload ∧
    (canonicalState opp payload ∈ [.expired, .cancelled, .failed, .mismatch] ∨
      opp.status = notRecovered)

instance (opp : RecoveryOpportunity) (payload : ProviderPayload) :
    Decidable (Confirms opp payload) := inferInstanceAs (Decidable (_ ∨ _))

instance (opp : RecoveryOpportunity) (payload : ProviderPayload) :
    Decidable (Repeats opp payload) := inferInstanceAs (Decidable (_ ∧ _))

/-- Two calls for one opportunity with one payload: another time, other generated ids. -/
structure SamePayload (input again : ReconcileInput) : Prop where
  id : again.id = input.id
  override : again.override = input.override
  response : again.response = input.response

/-! ### The plan of a call -/

/-- The statuses and the outcome that a payload stands for. -/
def planTarget (opp : RecoveryOpportunity) (payload : ProviderPayload) :
    OpportunityStatus × String × ReconciliationOutcome :=
  target opp (ProviderTruthEvaluator.evaluate payload) (canonicalState opp payload)

/-- The plan for an opportunity that is not recovered. -/
def planFor (read : ReconcileRead) (source : PayloadSource) (payload : ProviderPayload) :
    SettlementPlan :=
  { read := read
    source := source
    truthEval := ProviderTruthEvaluator.evaluate payload
    canonicalMapping := CanonicalStateMachine.mapRazorpayStatusToCanonicalState
      (ProviderTruthEvaluator.evaluate payload).providerStatus read.opp.amountPaise
      (ProviderTruthEvaluator.evaluate payload).amountPaidPaise
    targetOpportunityStatus := (planTarget read.opp payload).1
    targetExecStatus := (planTarget read.opp payload).2.1
    outcome := (planTarget read.opp payload).2.2 }

attribute [local irreducible] target ProviderTruthEvaluator.evaluate
  CanonicalStateMachine.mapRazorpayStatusToCanonicalState

lemma decide_of_ne_recovered {read : ReconcileRead} (h : read.opp.status ≠ recovered)
    (source : PayloadSource) (payload : ProviderPayload) :
    decide read source payload = .committing (planFor read source payload) := by
  rw [decide, if_neg h]
  rfl

/-- What a call reads. -/
def readOf (db : Db) (opp : RecoveryOpportunity) (now : Timestamp) : ReconcileRead where
  opp := opp
  execRecord := db.getExecutionRecordByOpportunityId opp.id
  now := now

variable {platform : Platform} {input again : ReconcileInput} {stamp stamp' : LearningStamp}
  {s : LearningState} {db : Db} {opp : RecoveryOpportunity} {payload : ProviderPayload}
  {plan : SettlementPlan} {ids : TransactionIds}

/-- A call without an opportunity or without a payload ends before its transaction. -/
lemma reconcile_of_none (h : ∀ opp ∈ s.db.getOpportunityById input.id,
      payloadFor input s.db opp = none) : reconcile platform input stamp s = s := by
  rw [reconcile, reconcileStart]
  cases hopp : s.db.getOpportunityById input.id with
  | none => rfl
  | some opp =>
    have hnone := h opp hopp
    rw [payloadFor] at hnone
    cases hoverride : input.override with
    | some delivered => simp [hoverride] at hnone
    | none =>
      rw [hoverride] at hnone
      dsimp only at hnone ⊢
      split_ifs at hnone ⊢ with hlink
      · cases hresponse : input.response with
        | ok payload =>
          rw [hresponse] at hnone
          cases hnone
        | error message => simp [answerCall, reconcileFetched, hresponse]
      · rfl

/-- A call with a payload decides on it. -/
lemma answerCall_of_payload (hopp : db.getOpportunityById input.id = some opp)
    (hpayload : payloadFor input db opp = some payload) :
    ∃ source, answerCall input (reconcileStart db input.id input.override input.now) =
      decide (readOf db opp input.now) source payload := by
  rw [payloadFor] at hpayload
  rw [reconcileStart, hopp]
  dsimp only
  cases hoverride : input.override with
  | some delivered =>
    obtain ⟨source, delivered⟩ := delivered
    rw [hoverride] at hpayload
    cases hpayload
    exact ⟨source, answerCall_decide⟩
  | none =>
    rw [hoverride] at hpayload
    dsimp only at hpayload ⊢
    split_ifs at hpayload ⊢ with hlink
    cases hresponse : input.response with
    | error message =>
      rw [hresponse] at hpayload
      cases hpayload
    | ok fetched =>
      rw [hresponse] at hpayload
      cases hpayload
      exact ⟨.fetched input.client, by simp [answerCall, reconcileFetched, hresponse, readOf]⟩

lemma reconcile_of_recovered (hopp : s.db.getOpportunityById input.id = some opp)
    (hrecovered : opp.status = recovered) : reconcile platform input stamp s = s := by
  cases hpayload : payloadFor input s.db opp with
  | none =>
    apply reconcile_of_none
    intro opp' hopp'
    rw [hopp] at hopp'
    cases hopp'
    exact hpayload
  | some payload =>
    obtain ⟨source, hanswer⟩ := answerCall_of_payload hopp hpayload
    have hdecide : decide (readOf s.db opp input.now) source payload = .finished _ :=
      if_pos hrecovered
    rw [reconcile, hanswer, hdecide]

/-- A call for an opportunity that is not recovered commits its plan and learns. -/
lemma reconcile_of_payload (platform : Platform) (stamp : LearningStamp)
    (hopp : s.db.getOpportunityById input.id = some opp)
    (hstatus : opp.status ≠ recovered) (hpayload : payloadFor input s.db opp = some payload)
    (hfault : input.fault = none) (hfresh : FreshIds input.ids s.db) :
    ∃ plan, (∃ source, plan = planFor (readOf s.db opp input.now) source payload) ∧
      reconcile platform input stamp s = learn stamp plan
        { s with db := reconcileCommit platform plan input.ids none s.db } := by
  obtain ⟨source, hanswer⟩ := answerCall_of_payload hopp hpayload
  refine ⟨planFor (readOf s.db opp input.now) source payload, ⟨source, rfl⟩, ?_⟩
  have hrow : (s.db.getOpportunityById
      (planFor (readOf s.db opp input.now) source payload).read.opp.id).isSome := by
    show (s.db.getOpportunityById opp.id).isSome
    rw [Db.id_of_getOpportunityById hopp, hopp, Option.isSome_some]
  rw [reconcile, hanswer, decide_of_ne_recovered hstatus]
  dsimp only
  rw [hfault, if_pos (commits_of_fresh platform _ hrow hfresh)]

/-! ### The commit of a plan without a settlement -/

lemma opportunityId_targetExecStatus (plan : SettlementPlan) (r : ExecutionRecord) :
    { r with status := plan.targetExecStatus }.opportunityId = r.opportunityId := rfl

/-- The database after the updates of a plan. -/
def updated (plan : SettlementPlan) (db : Db) : Db :=
  { db.setStatus plan.read.opp.id plan.targetOpportunityStatus with
    executionRecords :=
      if plan.read.execRecord.isSome then
        db.executionRecords.update plan.read.opp.id
          (fun r => { r with status := plan.targetExecStatus }) (opportunityId_targetExecStatus plan)
      else db.executionRecords }

lemma reconcileCommit_of_updates (hstatus : plan.targetOpportunityStatus ≠ recovered)
    (houtcome : plan.outcome ≠ .mismatch) :
    reconcileCommit platform plan ids none db = updated plan db := by
  have hattempt : Transaction.attempt (statements platform plan ids) none db =
      some (updated plan db) := by
    rw [statements, if_neg hstatus, if_neg houtcome]
    split_ifs with hrecord <;>
      simp [updateOpportunity, updateExecution, commitStatement, updated, hrecord, Db.setStatus]
  rw [reconcileCommit, Transaction.commitOrRollback_of_some hattempt]

/-- A mismatch is reported once more. -/
lemma divergences_of_mismatch (platform : Platform) (db : Db)
    (hstatus : plan.targetOpportunityStatus ≠ recovered)
    (houtcome : plan.outcome = .mismatch)
    (hfresh : ids.divergenceId ∉ db.divergences.rows.map (·.id)) :
    (reconcileCommit platform plan ids none db).divergences.rows.length =
      db.divergences.rows.length + 1 := by
  have hattempt : ∃ db', Transaction.attempt (statements platform plan ids) none db = some db' ∧
      db'.divergences.rows.length = db.divergences.rows.length + 1 := by
    rw [statements, if_neg hstatus, if_pos houtcome]
    split_ifs
    all_goals
      simp only [updateOpportunity, updateExecution, commitStatement, insertDivergence,
        Table.insert?, Db.setStatus, List.cons_append, List.nil_append, List.append_nil,
        Transaction.attempt_cons_none, Transaction.attempt_nil, Option.bind_some, hfresh, if_false,
        Option.map_some, Option.some.injEq, exists_eq_left']
      rw [Table.rows_put_of_notMem hfresh, List.length_append]
      rfl
  obtain ⟨db', hdb', hlength⟩ := hattempt
  rw [reconcileCommit, Transaction.commitOrRollback_of_some hdb', hlength]

/-- The updates of a plan change nothing when its statuses are those of the rows. -/
lemma updated_eq_self (hopp : db.getOpportunityById plan.read.opp.id = some opp)
    (hstatus : opp.status = plan.targetOpportunityStatus)
    (hrecord : ∀ r ∈ db.getExecutionRecordByOpportunityId plan.read.opp.id,
      r.status = plan.targetExecStatus) :
    updated plan db = db := by
  have hrows : db.opportunities.update plan.read.opp.id
      (·.withStatus plan.targetOpportunityStatus)
        (fun o => o.withStatus_id plan.targetOpportunityStatus) = db.opportunities := by
    apply Table.update_eq_self
    intro o ho
    rw [Option.mem_def] at ho
    rw [Db.getOpportunityById, ho] at hopp
    cases hopp
    rw [← hstatus, RecoveryOpportunity.withStatus_self]
  have hrecords : db.executionRecords.update plan.read.opp.id
      (fun r => { r with status := plan.targetExecStatus }) (fun _ => rfl) =
        db.executionRecords := by
    apply Table.update_eq_self
    intro r hr
    have hsame := hrecord r hr
    cases r
    simp_all
  have hchanges : db.changeTo plan.read.opp.id plan.targetOpportunityStatus = [] := by
    rw [Db.changeTo, hopp]
    exact if_pos hstatus
  rw [updated, Db.setStatus]
  simp only [hrows, hrecords, hchanges, List.append_nil, ite_self]

/-! ### What a plan does -/

/-- The status that a payload leaves which settles nothing. -/
def waitStatus (status : OpportunityStatus) : OpportunityStatus :=
  if status = pending ∨ status = deferred ∨ status = allocated then executing else status

@[simp] lemma waitStatus_waitStatus (status : OpportunityStatus) :
    waitStatus (waitStatus status) = waitStatus status := by
  cases status <;> rfl

lemma waitStatus_ne {status ended : OpportunityStatus} (h : status ≠ ended)
    (hended : ended = recovered ∨ ended = notRecovered) : waitStatus status ≠ ended := by
  rw [waitStatus]
  split_ifs
  · rcases hended with rfl | rfl <;> decide
  · exact h

/-- The four kinds of payloads for an opportunity. -/
inductive PlanKind (opp : RecoveryOpportunity) (payload : ProviderPayload) (plan : SettlementPlan) :
    Prop
  | paid (h : plan.targetOpportunityStatus = recovered) (hconfirms : Confirms opp payload)
  | lost (h : plan.targetOpportunityStatus = notRecovered) (hrepeats : Repeats opp payload)
  | mismatched (h : plan.targetOpportunityStatus = executing) (houtcome : plan.outcome = .mismatch)
      (hconfirms : ¬ Confirms opp payload) (hstate : canonicalState opp payload = .mismatch)
  | waits (h : plan.targetOpportunityStatus = waitStatus opp.status)
      (hexec : plan.targetExecStatus = "created") (houtcome : plan.outcome ≠ .mismatch)
      (hstatus : opp.status ≠ notRecovered)
      (hconfirms : ¬ Confirms opp payload) (hrepeats : ¬ Repeats opp payload)

lemma confirms_iff : Confirms opp payload ↔ (canonicalState opp payload == .paymentConfirmed ||
    (ProviderTruthEvaluator.evaluate payload).isRecovered) = true := by
  rw [Bool.or_eq_true, beq_iff_eq]
  rfl

lemma planKind (read : ReconcileRead) (source : PayloadSource) (payload : ProviderPayload) :
    PlanKind read.opp payload (planFor read source payload) := by
  have hstatus : (planFor read source payload).targetOpportunityStatus =
    (planTarget read.opp payload).1 := rfl
  have hexec : (planFor read source payload).targetExecStatus =
    (planTarget read.opp payload).2.1 := rfl
  have houtcome : (planFor read source payload).outcome = (planTarget read.opp payload).2.2 := rfl
  generalize planFor read source payload = plan at hstatus hexec houtcome ⊢
  rw [planTarget, target] at hstatus hexec houtcome
  by_cases hconfirms : Confirms read.opp payload
  · rw [if_pos (confirms_iff.mp hconfirms)] at hstatus
    exact .paid hstatus hconfirms
  · rw [if_neg (mt confirms_iff.mpr hconfirms)] at hstatus hexec houtcome
    have hrepeats : Repeats read.opp payload ↔
        canonicalState read.opp payload ∈ [.expired, .cancelled, .failed, .mismatch] ∨
          read.opp.status = notRecovered := and_iff_right hconfirms
    generalize hstate : canonicalState read.opp payload = state at hstatus hexec houtcome hrepeats
    by_cases hended : (state == .expired || state == .cancelled || state == .failed) = true
    · rw [if_pos hended] at hstatus
      simp only [Bool.or_eq_true, beq_iff_eq] at hended
      refine .lost hstatus (hrepeats.mpr (.inl ?_))
      rcases hended with (h | h) | h <;> simp [h]
    · rw [if_neg hended] at hstatus hexec houtcome
      simp only [Bool.or_eq_true, beq_iff_eq, not_or] at hended
      by_cases hmismatch : state = .mismatch
      · rw [if_pos (beq_iff_eq.mpr hmismatch)] at hstatus houtcome
        exact .mismatched hstatus houtcome hconfirms (hstate.trans hmismatch)
      · rw [if_neg (by simpa using hmismatch)] at hstatus hexec houtcome
        by_cases hlost : read.opp.status = notRecovered
        · refine .lost ?_ (hrepeats.mpr (.inr hlost))
          rw [hstatus, hlost]
          rfl
        · refine .waits hstatus hexec (by simp [houtcome]) hlost hconfirms fun h => ?_
          rcases hrepeats.mp h with h | h
          · simp [hended, hmismatch] at h
          · exact hlost h

/-! ### The second call -/

lemma observationsCache_observe (c : BayesianProbabilityCalibrator.State) (call : ℕ)
    (o : BayesianProbabilityCalibrator.Observation) :
    (BayesianProbabilityCalibrator.observe c call o).observationsCache o.cacheKey =
      some (o.counted c) := by
  rw [BayesianProbabilityCalibrator.observe]
  dsimp only
  split_ifs <;> exact Function.update_self ..

lemma observe_ne_self (c : BayesianProbabilityCalibrator.State) (call : ℕ)
    (o : BayesianProbabilityCalibrator.Observation) :
    BayesianProbabilityCalibrator.observe c call o ≠ c := by
  intro h
  have hcounted := observationsCache_observe c call o
  rw [h, BayesianProbabilityCalibrator.Observation.counted] at hcounted
  generalize hobs : (c.observationsCache o.cacheKey).getD ⟨0, 0, 0, 0⟩ = obs at hcounted
  rw [hcounted, Option.getD_some] at hobs
  have htotal := congrArg Observations.total hobs
  rw [BayesianProbabilityCalibrator.Observation.count] at htotal
  split_ifs at htotal <;> simp only [Observations.total] at htotal <;> omega

@[simp] lemma learn_db : (learn stamp plan s).db = s.db := by
  rw [learn]
  split_ifs <;> rfl

/-- A payload whose effect repeats changes what it finds. -/
lemma reconcile_ne_self (hopp : s.db.getOpportunityById input.id = some opp)
    (hstatus : opp.status ≠ recovered) (hpayload : payloadFor input s.db opp = some payload)
    (hrepeats : Repeats opp payload) (hfault : input.fault = none)
    (hfresh : FreshIds input.ids s.db) :
    reconcile platform input stamp s ≠ s := by
  obtain ⟨plan, ⟨source, hplan⟩, hreconcile⟩ :=
    reconcile_of_payload platform stamp hopp hstatus hpayload hfault hfresh
  have hkind : PlanKind opp payload plan := hplan ▸ planKind (readOf s.db opp input.now) source payload
  intro h
  rw [hreconcile] at h
  cases hkind with
  | paid _ hconfirms => exact hrepeats.1 hconfirms
  | waits _ _ _ _ _ hnot => exact hnot hrepeats
  | lost hlost =>
    have hcalibrator := congrArg LearningState.calibrator h
    rw [learn, if_pos (.inr hlost)] at hcalibrator
    exact observe_ne_self _ _ _ hcalibrator
  | mismatched hexecuting houtcome =>
    have hlength := divergences_of_mismatch platform s.db
      (by simp [hexecuting]) houtcome hfresh.divergenceId
    have hdb : reconcileCommit platform plan input.ids none s.db = s.db := by
      simpa using congrArg LearningState.db h
    rw [hdb] at hlength
    omega

/-! ### The first call -/

/-- A commit writes no link. -/
lemma link_reconcileCommit (j : String) :
    ((reconcileCommit platform plan ids none db).getExecutionRecordByOpportunityId j).map
        (·.razorpayPaymentLinkId) =
      (db.getExecutionRecordByOpportunityId j).map (·.razorpayPaymentLinkId) := by
  rw [reconcileCommit]
  cases hattempt : Transaction.attempt (statements platform plan ids) none db with
  | none => rw [Transaction.commitOrRollback_of_none hattempt]
  | some db' =>
    rw [Transaction.commitOrRollback_of_some hattempt, Db.getExecutionRecordByOpportunityId,
      Db.getExecutionRecordByOpportunityId]
    rcases executionRecords_of_attempt hattempt with hsame | hupdate
    · rw [hsame]
    · rw [hupdate, Table.find?_update]
      split_ifs
      · rw [Option.map_map]
        rfl
      · rfl

/-- The payload of a call depends on the opportunity's id and the link alone. -/
lemma payloadFor_congr (hsame : SamePayload input again) {db' : Db} {opp' : RecoveryOpportunity}
    (hid : opp'.id = opp.id)
    (hlink : (db'.getExecutionRecordByOpportunityId opp.id).map (·.razorpayPaymentLinkId) =
      (db.getExecutionRecordByOpportunityId opp.id).map (·.razorpayPaymentLinkId)) :
    payloadFor again db' opp' = payloadFor input db opp := by
  have hany : (db'.getExecutionRecordByOpportunityId opp.id).any
        (fun r => r.razorpayPaymentLinkId ≠ "") =
      (db.getExecutionRecordByOpportunityId opp.id).any
        (fun r => r.razorpayPaymentLinkId ≠ "") := by
    cases hafter : db'.getExecutionRecordByOpportunityId opp.id <;>
    cases hbefore : db.getExecutionRecordByOpportunityId opp.id <;>
    simp_all
  rw [payloadFor, payloadFor, hsame.override, hsame.response, hid, hany]

lemma row_reconcileCommit (hopp : db.getOpportunityById input.id = some opp)
    (hplan : plan.read.opp = opp) (hfresh : FreshIds ids db) :
    (reconcileCommit platform plan ids none db).getOpportunityById input.id =
      some (opp.withStatus plan.targetOpportunityStatus) := by
  have hid : plan.read.opp.id = input.id := by
    rw [hplan, Db.id_of_getOpportunityById hopp]
  have hrow : (db.getOpportunityById plan.read.opp.id).isSome := by
    rw [hid, hopp, Option.isSome_some]
  rw [(committed_of_fresh platform plan hrow hfresh).getOpportunityById, if_pos hid.symm, hopp,
    Option.map_some]

lemma canonicalState_withStatus (status : OpportunityStatus) :
    canonicalState (opp.withStatus status) payload = canonicalState opp payload := rfl

lemma confirms_withStatus (status : OpportunityStatus) :
    Confirms (opp.withStatus status) payload ↔ Confirms opp payload := Iff.rfl

/-- The updates of two plans with the same statuses are those of the first. -/
lemma updated_updated {plan' : SettlementPlan} (hopp : db.getOpportunityById opp.id = some opp)
    (hplan : plan.read.opp = opp)
    (hrecord : plan.read.execRecord = db.getExecutionRecordByOpportunityId opp.id)
    (hplan' : plan'.read.opp = opp.withStatus plan.targetOpportunityStatus)
    (hstatus : plan'.targetOpportunityStatus = plan.targetOpportunityStatus)
    (hexec : plan'.targetExecStatus = plan.targetExecStatus) :
    updated plan' (updated plan db) = updated plan db := by
  have hid : plan'.read.opp.id = opp.id := by
    rw [hplan', RecoveryOpportunity.withStatus_id]
  have hrow : (updated plan db).getOpportunityById plan'.read.opp.id =
      some (opp.withStatus plan.targetOpportunityStatus) := by
    show (db.setStatus plan.read.opp.id _).getOpportunityById _ = _
    rw [hid, hplan, Db.getOpportunityById_setStatus, if_pos rfl, hopp, Option.map_some]
  apply updated_eq_self hrow
  · rw [hstatus, RecoveryOpportunity.withStatus_status]
  · intro r hr
    rw [hid] at hr
    rw [hexec]
    cases hread : plan.read.execRecord with
    | none =>
      have hsame : (updated plan db).getExecutionRecordByOpportunityId opp.id = none := by
        rw [updated, hread, Db.getExecutionRecordByOpportunityId]
        rwa [hrecord] at hread
      rw [hsame] at hr
      cases hr
    | some record =>
      have hafter : (updated plan db).getExecutionRecordByOpportunityId opp.id =
          some { record with status := plan.targetExecStatus } := by
        rw [updated, hread, Option.isSome_some, if_pos rfl, Db.getExecutionRecordByOpportunityId,
          hplan, Table.find?_update, if_pos rfl]
        rw [hrecord, Db.getExecutionRecordByOpportunityId] at hread
        rw [hread]
        rfl
      rw [hafter] at hr
      cases hr
      rfl

/-- What the second call finds. -/
structure Afterwards (platform : Platform) (input again : ReconcileInput) (stamp : LearningStamp)
    (s : LearningState) (opp : RecoveryOpportunity) (payload : ProviderPayload)
    (plan : SettlementPlan) : Prop where
  opp_eq : plan.read.opp = opp
  record_eq : plan.read.execRecord = s.db.getExecutionRecordByOpportunityId opp.id
  kind : PlanKind opp payload plan
  reconcile_eq : reconcile platform input stamp s = learn stamp plan
    { s with db := reconcileCommit platform plan input.ids none s.db }
  row : (reconcile platform input stamp s).db.getOpportunityById again.id =
    some (opp.withStatus plan.targetOpportunityStatus)
  payload_eq : payloadFor again (reconcile platform input stamp s).db
    (opp.withStatus plan.targetOpportunityStatus) = some payload

lemma exists_afterwards (platform : Platform) (stamp : LearningStamp)
    (hsame : SamePayload input again) (hfault : input.fault = none)
    (hfresh : FreshIds input.ids s.db) (hopp : s.db.getOpportunityById input.id = some opp)
    (hstatus : opp.status ≠ recovered) (hpayload : payloadFor input s.db opp = some payload) :
    ∃ plan, Afterwards platform input again stamp s opp payload plan := by
  obtain ⟨plan, ⟨source, hplan⟩, hreconcile⟩ :=
    reconcile_of_payload platform stamp hopp hstatus hpayload hfault hfresh
  have hread : plan.read.opp = opp := by
    rw [hplan]
    rfl
  have hdb : (reconcile platform input stamp s).db =
      reconcileCommit platform plan input.ids none s.db := by
    rw [hreconcile, learn_db]
  refine ⟨plan, hread, ?_, ?_, hreconcile, ?_, ?_⟩
  · rw [hplan]
    rfl
  · rw [hplan]
    exact planKind (readOf s.db opp input.now) source payload
  · rw [hdb, hsame.id]
    exact row_reconcileCommit hopp hread hfresh
  · rw [← hpayload]
    exact payloadFor_congr hsame (RecoveryOpportunity.withStatus_id ..)
      (by rw [hdb, link_reconcileCommit])

/-- The effect of a payload repeats for the second call as well. -/
lemma Afterwards.repeats (h : Afterwards platform input again stamp s opp payload plan)
    (hrepeats : Repeats opp payload) :
    plan.targetOpportunityStatus ≠ recovered ∧
      Repeats (opp.withStatus plan.targetOpportunityStatus) payload := by
  obtain ⟨hconfirms, hends⟩ := hrepeats
  cases h.kind with
  | paid _ hconfirms' => exact absurd hconfirms' hconfirms
  | lost hlost =>
    refine ⟨by simp [hlost], (confirms_withStatus _).not.mpr hconfirms, .inr ?_⟩
    rw [RecoveryOpportunity.withStatus_status, hlost]
  | mismatched hexecuting _ _ hstate =>
    refine ⟨by simp [hexecuting], (confirms_withStatus _).not.mpr hconfirms, .inl ?_⟩
    rw [canonicalState_withStatus, hstate]
    simp
  | waits _ _ _ _ _ hnot => exact absurd ⟨hconfirms, hends⟩ hnot

/-- A payload that settles nothing updates the rows. -/
lemma Afterwards.waits (h : Afterwards platform input again stamp s opp payload plan)
    (hstatus : opp.status ≠ recovered) (hconfirms : ¬ Confirms opp payload)
    (hrepeats : ¬ Repeats opp payload) :
    plan.targetOpportunityStatus = waitStatus opp.status ∧ plan.targetExecStatus = "created" ∧
      reconcile platform input stamp s = { s with db := updated plan s.db } := by
  have hlist : canonicalState opp payload ∉ [.expired, .cancelled, .failed, .mismatch] :=
    fun h => hrepeats ⟨hconfirms, .inl h⟩
  cases h.kind with
  | paid _ hpaid => exact absurd hpaid hconfirms
  | lost _ hlost => exact absurd hlost hrepeats
  | mismatched _ _ _ hstate => simp [hstate] at hlist
  | waits htarget hexec houtcome hlost =>
    have hne := waitStatus_ne hstatus (.inl rfl)
    have hne' := waitStatus_ne hlost (.inr rfl)
    rw [← htarget] at hne hne'
    refine ⟨htarget, hexec, ?_⟩
    rw [h.reconcile_eq, reconcileCommit_of_updates hne houtcome, learn,
      if_neg (by simp [hne, hne'])]

lemma Afterwards.recovered_of_confirms
    (h : Afterwards platform input again stamp s opp payload plan)
    (hconfirms : Confirms opp payload) : plan.targetOpportunityStatus = recovered := by
  cases h.kind with
  | paid hpaid => exact hpaid
  | lost _ hlost => exact absurd hconfirms hlost.1
  | mismatched _ _ hnot => exact absurd hconfirms hnot
  | waits _ _ _ _ hnot => exact absurd hconfirms hnot

/-- A second call with such a payload finds what it would write. -/
lemma Afterwards.reconcile_again (h : Afterwards platform input again stamp s opp payload plan)
    (hopp : s.db.getOpportunityById opp.id = some opp) (hstatus : opp.status ≠ recovered)
    (hconfirms : ¬ Confirms opp payload) (hrepeats : ¬ Repeats opp payload)
    (hfault' : again.fault = none)
    (hfresh' : FreshIds again.ids (reconcile platform input stamp s).db) :
    reconcile platform again stamp' (reconcile platform input stamp s) =
      reconcile platform input stamp s := by
  obtain ⟨htarget, hexec, hfirst⟩ := h.waits hstatus hconfirms hrepeats
  have hstatus' : (opp.withStatus plan.targetOpportunityStatus).status ≠ recovered := by
    rw [RecoveryOpportunity.withStatus_status, htarget]
    exact waitStatus_ne hstatus (.inl rfl)
  have hrepeats' : ¬ Repeats (opp.withStatus plan.targetOpportunityStatus) payload := by
    rintro ⟨-, hlist | hlost⟩
    · exact hrepeats ⟨hconfirms, .inl hlist⟩
    · rw [RecoveryOpportunity.withStatus_status, htarget] at hlost
      exact waitStatus_ne (fun hlost => hrepeats ⟨hconfirms, .inr hlost⟩) (.inr rfl) hlost
  obtain ⟨plan', h'⟩ := exists_afterwards platform stamp'
    (SamePayload.mk rfl rfl rfl) hfault' hfresh' h.row hstatus' h.payload_eq
  obtain ⟨htarget', hexec', hsecond⟩ :=
    h'.waits hstatus' ((confirms_withStatus _).not.mpr hconfirms) hrepeats'
  rw [RecoveryOpportunity.withStatus_status, htarget, waitStatus_waitStatus, ← htarget] at htarget'
  rw [hsecond, hfirst]
  rw [updated_updated hopp h.opp_eq h.record_eq h'.opp_eq htarget' (hexec'.trans hexec.symm)]

/-- A second call with the same payload changes nothing exactly when the payload's effect does not
repeat. -/
theorem reconcile_twice_iff (hsame : SamePayload input again) (hfault : input.fault = none)
    (hfault' : again.fault = none) (hfresh : FreshIds input.ids s.db)
    (hfresh' : FreshIds again.ids (reconcile platform input stamp s).db) :
    reconcile platform again stamp' (reconcile platform input stamp s) =
        reconcile platform input stamp s ↔
      ∀ opp ∈ s.db.getOpportunityById input.id, opp.status ≠ recovered →
        ∀ payload ∈ payloadFor input s.db opp, ¬ Repeats opp payload := by
  cases hopp : s.db.getOpportunityById input.id with
  | none =>
    have hself : ∀ input' : ReconcileInput, ∀ stamp, input'.id = input.id →
        reconcile platform input' stamp s = s := by
      intro input' stamp hid
      apply reconcile_of_none
      rw [hid, hopp]
      rintro _ ⟨⟩
    rw [hself input stamp rfl, hself again stamp' hsame.id]
    simp
  | some opp =>
    by_cases hstatus : opp.status = recovered
    · have hopp' : s.db.getOpportunityById again.id = some opp := hsame.id ▸ hopp
      rw [reconcile_of_recovered hopp hstatus, reconcile_of_recovered hopp' hstatus]
      simp [hstatus]
    · cases hpayload : payloadFor input s.db opp with
      | none =>
        have hself : ∀ input' : ReconcileInput, ∀ stamp, SamePayload input input' →
            reconcile platform input' stamp s = s := by
          intro input' stamp hsame'
          apply reconcile_of_none
          intro opp' hopp'
          rw [hsame'.id, hopp] at hopp'
          cases hopp'
          rw [payloadFor_congr hsame' rfl rfl, hpayload]
        rw [hself input stamp ⟨rfl, rfl, rfl⟩, hself again stamp' hsame]
        simp [hpayload]
      | some payload =>
        obtain ⟨plan, h⟩ := exists_afterwards platform stamp hsame hfault
          hfresh hopp hstatus hpayload
        have hiff : (∀ o ∈ some opp, o.status ≠ recovered →
            ∀ p ∈ payloadFor input s.db o, ¬ Repeats o p) ↔ ¬ Repeats opp payload := by
          simp [hstatus, hpayload]
        rw [hiff]
        by_cases hrepeats : Repeats opp payload
        · obtain ⟨hne, hrepeats'⟩ := h.repeats hrepeats
          simp only [hrepeats, not_true_eq_false, iff_false]
          exact reconcile_ne_self h.row (by rwa [RecoveryOpportunity.withStatus_status]) h.payload_eq
            hrepeats' hfault' hfresh'
        · simp only [hrepeats, not_false_eq_true, iff_true]
          by_cases hconfirms : Confirms opp payload
          · apply reconcile_of_recovered h.row
            rw [RecoveryOpportunity.withStatus_status, h.recovered_of_confirms hconfirms]
          · exact h.reconcile_again (Db.id_of_getOpportunityById hopp ▸ hopp) hstatus hconfirms
              hrepeats hfault' hfresh'

/-! ### Two sweeps over one link -/

/-- A call of a sweep for the first opportunity, at whose link the provider answers. -/
def sweepInput (status : String) (n : ℕ) : ReconcileInput where
  id := "opp_1"
  override := none
  client := .rzpClient
  response := .ok (sampleLink "plink_1" status 0)
  ids := ⟨s!"del_{n}", s!"led_{n}", s!"out_{n}", s!"mem_{n}", s!"div_{n}"⟩
  fault := none
  message := ""
  now := 3000

def sweepStamp (n : ℕ) : LearningStamp := ⟨n, s!"arm_{n}", 3000⟩

/-- An opportunity that waits for the payment of its link; nothing is learned yet. -/
def LearningState.sample : LearningState where
  db := .ofRows [sampleOpportunity "opp_1" executing] [sampleRecord "opp_1" "plink_1"]
  calibrator := .initial
  arms := .empty

/-- A second sweep over an unpaid link changes nothing. -/
theorem reconcile_twice_created :
    reconcile .plain (sweepInput "created" 2) (sweepStamp 2)
        (reconcile .plain (sweepInput "created" 1) (sweepStamp 1) LearningState.sample) =
      reconcile .plain (sweepInput "created" 1) (sweepStamp 1) LearningState.sample := by
  have hsame : SamePayload (sweepInput "created" 1) (sweepInput "created" 2) := ⟨rfl, rfl, rfl⟩
  refine (reconcile_twice_iff hsame rfl rfl ?_ ?_).mpr ?_
  · constructor <;> decide +kernel
  · constructor <;> decide +kernel
  · decide +kernel

/-- A second sweep over an expired link counts the loss again, and the arm is pulled again. -/
theorem expired_link_learned_twice :
    let first := reconcile .plain (sweepInput "expired" 1) (sweepStamp 1) LearningState.sample
    let second := reconcile .plain (sweepInput "expired" 2) (sweepStamp 2) first
    first.calibrator.observationsCache "tenant_a:insufficient_funds" = some ⟨0, 0, 0, 1⟩ ∧
      second.calibrator.observationsCache "tenant_a:insufficient_funds" = some ⟨0, 0, 0, 2⟩ ∧
      first.arms.rows.map (·.pullCount) = [1] ∧ second.arms.rows.map (·.pullCount) = [2] ∧
      second ≠ first := by
  intro first second
  have hfirst : first.calibrator.observationsCache "tenant_a:insufficient_funds" =
      some ⟨0, 0, 0, 1⟩ := by decide +kernel
  have hsecond : second.calibrator.observationsCache "tenant_a:insufficient_funds" =
      some ⟨0, 0, 0, 2⟩ := by decide +kernel
  refine ⟨hfirst, hsecond, by decide +kernel, by decide +kernel, fun h => ?_⟩
  rw [h, hfirst] at hsecond
  cases hsecond

end AuthoritativeReconciler

end CtrlRecovery
