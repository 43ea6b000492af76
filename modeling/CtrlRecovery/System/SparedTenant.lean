import CtrlRecovery.System.Lifecycle
import CtrlRecovery.System.Server
import CtrlRecovery.Webhooks.Events

/-!
# What the work for one tenant spares another

Scoring, pipelines, executions and reconciliations keep the payments of all rows, and where they are
about rows of other tenants they keep the statuses of the owner's rows too (`SparesTenant`).
-/

namespace CtrlRecovery

open Core OpportunityStatus OpportunityRepository Scorer Market Authority

namespace EventIsolation

/-! ### What a tenant is spared -/

/-- The same payment of the same tenant, and for an opportunity of the owner with the same status. -/
structure Spares (owner : String) (o o' : RecoveryOpportunity) : Prop where
  tenantId : o'.tenantId = o.tenantId
  merchantId : o'.merchantId = o.merchantId
  razorpayEventId : o'.razorpayEventId = o.razorpayEventId
  amountPaise : o'.amountPaise = o.amountPaise
  reasonCode : o'.reasonCode = o.reasonCode
  status : o.tenantId = owner → o'.status = o.status

/-- The rows are those of the same payments, and the ones of the owner have the same statuses. -/
def SparesTenant (owner : String) (db db' : Db) : Prop :=
  ∀ id, Option.Rel (Spares owner) (db.getOpportunityById id) (db'.getOpportunityById id)

variable {owner tenantId : String} {db db' db'' : Db} {id : String} {o o' o'' : RecoveryOpportunity}

lemma Spares.refl (owner : String) (o : RecoveryOpportunity) : Spares owner o o :=
  ⟨rfl, rfl, rfl, rfl, rfl, fun _ => rfl⟩

lemma Spares.trans (h : Spares owner o o') (h' : Spares owner o' o'') : Spares owner o o'' where
  tenantId := h'.tenantId.trans h.tenantId
  merchantId := h'.merchantId.trans h.merchantId
  razorpayEventId := h'.razorpayEventId.trans h.razorpayEventId
  amountPaise := h'.amountPaise.trans h.amountPaise
  reasonCode := h'.reasonCode.trans h.reasonCode
  status howner := (h'.status (h.tenantId.trans howner)).trans (h.status howner)

namespace SparesTenant

lemma refl (owner : String) (db : Db) : SparesTenant owner db db := by
  intro id
  cases db.getOpportunityById id with
  | none => exact .none
  | some o => exact .some (.refl owner o)

lemma of_sameRows (h : SameRows db db') : SparesTenant owner db db' := by
  intro id
  rw [h.getOpportunityById]
  exact refl owner db id

lemma exists_row (h : SparesTenant owner db db') (ho : db.getOpportunityById id = some o) :
    ∃ o', db'.getOpportunityById id = some o' ∧ Spares owner o o' := by
  have hrel := h id
  rw [ho] at hrel
  cases hget : db'.getOpportunityById id with
  | none =>
    rw [hget] at hrel
    cases hrel
  | some o' =>
    rw [hget] at hrel
    cases hrel with
    | some hspares => exact ⟨o', rfl, hspares⟩

lemma exists_before (h : SparesTenant owner db db') (ho' : db'.getOpportunityById id = some o') :
    ∃ o, db.getOpportunityById id = some o ∧ Spares owner o o' := by
  have hrel := h id
  rw [ho'] at hrel
  cases hget : db.getOpportunityById id with
  | none =>
    rw [hget] at hrel
    cases hrel
  | some o =>
    rw [hget] at hrel
    cases hrel with
    | some hspares => exact ⟨o, rfl, hspares⟩

lemma trans (h : SparesTenant owner db db') (h' : SparesTenant owner db' db'') :
    SparesTenant owner db db'' := by
  intro id
  cases ho : db.getOpportunityById id with
  | some o =>
    obtain ⟨o', ho', hspares⟩ := h.exists_row ho
    obtain ⟨o'', ho'', hspares'⟩ := h'.exists_row ho'
    rw [ho'']
    exact .some (hspares.trans hspares')
  | none =>
    cases ho'' : db''.getOpportunityById id with
    | none => exact .none
    | some o'' =>
      obtain ⟨o', ho', -⟩ := h'.exists_before ho''
      obtain ⟨o, hmem, -⟩ := h.exists_before ho'
      rw [ho] at hmem
      cases hmem

lemma tenantOf (h : SparesTenant owner db db') (id : String) : db'.tenantOf id = db.tenantOf id := by
  rw [Db.tenantOf, Db.tenantOf]
  cases ho : db.getOpportunityById id with
  | some o =>
    obtain ⟨o', ho', hspares⟩ := h.exists_row ho
    rw [ho', Option.map_some, Option.map_some, hspares.tenantId]
  | none =>
    cases ho' : db'.getOpportunityById id with
    | none => rfl
    | some o' =>
      obtain ⟨o, hmem, -⟩ := h.exists_before ho'
      rw [ho] at hmem
      cases hmem

lemma writeStatuses {ws : List (String × OpportunityStatus)}
    (h : ∀ w ∈ ws, db.tenantOf w.1 ≠ some owner) : SparesTenant owner db (db.writeStatuses ws) := by
  intro id
  rw [Db.getOpportunityById_writeStatuses]
  cases ho : db.getOpportunityById id with
  | none => exact .none
  | some o =>
    refine .some ⟨rfl, rfl, rfl, rfl, rfl, fun howner => ?_⟩
    apply statusAfter_of_notMem
    intro hmem
    obtain ⟨w, hw, rfl⟩ := List.mem_map.mp hmem
    apply h w hw
    rw [Db.tenantOf, ho, Option.map_some, howner]

lemma updateStatus {status : OpportunityStatus} (h : db.tenantOf id ≠ some owner) :
    SparesTenant owner db (db.updateStatus id status) := by
  have hwrites : ∀ w ∈ [(id, status)], db.tenantOf w.1 ≠ some owner := by simpa using h
  exact writeStatuses hwrites

lemma setAttemptCount {n : ℚ} : SparesTenant owner db (db.setAttemptCount id n) := by
  intro j
  rw [Db.getOpportunityById, Db.getOpportunityById, Db.setAttemptCount, Table.find?_update]
  split_ifs
  · cases db.opportunities.find? j with
    | none => exact .none
    | some o => exact .some ⟨rfl, rfl, rfl, rfl, rfl, fun _ => rfl⟩
  · exact refl owner db j

end SparesTenant

/-! ### What the recovery of an opportunity spares -/

/-- No row of the owner names the tenant as its merchant. -/
def Separate (owner tenantId : String) (db : Db) : Prop :=
  ∀ id, ∀ o ∈ db.getOpportunityById id, o.tenantId = owner → o.merchantId ≠ tenantId

lemma Separate.of_spares (h : Separate owner tenantId db) (hspares : SparesTenant owner db db') :
    Separate owner tenantId db' := by
  intro id o' ho' howner
  obtain ⟨o, ho, hrow⟩ := hspares.exists_before ho'
  rw [hrow.merchantId]
  exact h id o ho (hrow.tenantId.symm.trans howner)

lemma Separate.ne_of_inScope (h : Separate owner tenantId db) (hne : owner ≠ tenantId)
    (htenant : tenantId ≠ "") {environment : Option Environment}
    (ho : o ∈ db.opportunities.rows) (hscope : Db.inScope (some tenantId) environment o) :
    o.tenantId ≠ owner := by
  intro howner
  have hmerchant := h o.id o (Table.find?_key_of_mem ho) howner
  simp only [Db.inScope, Bool.and_eq_true, Bool.or_eq_true, beq_iff_eq] at hscope
  rcases hscope.1 with (hempty | hrow) | hrow
  · exact htenant hempty
  · exact hne (howner.symm.trans hrow)
  · exact hmerchant hrow

lemma tenantOf_of_mem (ho : o ∈ db.opportunities.rows) : db.tenantOf o.id = some o.tenantId := by
  rw [Db.tenantOf, Db.getOpportunityById, Table.find?_key_of_mem ho, Option.map_some]

lemma spares_scoreOpportunity (est : Estimator) {opp : RecoveryOpportunity}
    (h : db.tenantOf opp.id ≠ some owner) :
    SparesTenant owner db (scoreOpportunity est db opp).2 := by
  apply SparesTenant.trans _ (.of_sameRows (sameRows_scoreOpportunity est db opp))
  apply SparesTenant.writeStatuses
  intro w hw
  split_ifs at hw
  · cases List.mem_singleton.mp hw
    exact h
  · cases hw

section Pipeline

variable {platform : Platform} {ks : KillSwitches} {est : Estimator} {now : Timestamp}
  {capacity : Option ℕ} {environment : Option Environment}

/-- What a pipeline writes is in its scope. -/
lemma exists_row_of_mem_pipelineWrites {options : AllocationOptions}
    {w : String × OpportunityStatus} (h : w ∈ pipelineWrites platform ks est options db) :
    ∃ o ∈ db.opportunities.rows, o.id = w.1 ∧
      Db.inScope options.tenantId
        (resolveEnvironment db options.tenantId options.environment) o := by
  have hscope : ∀ o ∈ scope db options, o ∈ db.opportunities.rows ∧
      Db.inScope options.tenantId
        (resolveEnvironment db options.tenantId options.environment) o :=
    fun o ho => db.mem_getAllOpportunities.mp ho
  rcases List.mem_append.mp h with h | h
  · have hid : ∃ o ∈ candidates db options.tenantId options.environment, o.id = w.1 := by
      rcases List.mem_append.mp h with h | h
      · obtain ⟨o, ho, hw⟩ := List.mem_flatMap.mp h
        exact ⟨o, ho, (congrArg Prod.fst (mem_scoringWrites hw).1).symm⟩
      · obtain ⟨p, hp, rfl⟩ := List.mem_map.mp h
        have hmem := List.mem_map_of_mem (f := fun p : Placement => p.opportunity.id) hp
        exact List.mem_map.mp (runPlacements_ids_perm.mem_iff.mp hmem)
    obtain ⟨o, ho, hid⟩ := hid
    obtain ⟨hrow, hin⟩ := hscope o (List.mem_of_mem_filter ho)
    exact ⟨o, hrow, hid, hin⟩
  · obtain ⟨o', ho', rfl⟩ := List.mem_map.mp h
    have halloc : Restatus est _ db (runMarketAllocation platform est options db).2 :=
      restatus_runMarketAllocation
    have hmem := List.mem_of_mem_filter ho'
    rw [scope, halloc.scope_eq] at hmem
    obtain ⟨o, ho, rfl⟩ := List.mem_map.mp hmem
    obtain ⟨hrow, hin⟩ := hscope o ho
    exact ⟨o, hrow, rfl, hin⟩

lemma spares_runAuthorityPipeline (h : Separate owner tenantId db) (hne : owner ≠ tenantId)
    (htenant : tenantId ≠ "") :
    SparesTenant owner db
      (runAuthorityPipeline platform ks est now ⟨capacity, some tenantId, environment⟩ db).2 := by
  apply SparesTenant.trans _ (.of_sameRows sameRows_runAuthorityPipeline)
  apply SparesTenant.writeStatuses
  intro w hw
  obtain ⟨o, ho, hid, hscope⟩ := exists_row_of_mem_pipelineWrites hw
  rw [← hid, tenantOf_of_mem ho, Ne, Option.some.injEq]
  exact h.ne_of_inScope hne htenant ho hscope

end Pipeline

section Execution

open Executor

variable {ks : KillSwitches} {est : Estimator} {script : ExecutionScript} {now : Timestamp}

lemma spares_advance {answer : ExecuteAnswer} {entryId : String} {c : ExecuteCall}
    {p : ExecuteCall × Db} (h : advance answer now entryId db c = some p)
    (hid : ∀ id ∈ subject c, db.tenantOf id ≠ some owner) : SparesTenant owner db p.2 := by
  obtain ⟨id, hsubject, -, (hsame | hlink) | ⟨failure, -, rfl, hdead⟩⟩ := advance_rows h
  · exact .of_sameRows hsame
  · exact (SparesTenant.updateStatus (hid id hsubject)).trans (.of_sameRows hlink)
  · rw [hdead, ExecutionDLQ.deadLetter]
    split_ifs
    · exact (SparesTenant.updateStatus (hid _ hsubject)).trans .setAttemptCount
    · exact .refl owner db

lemma spares_proceed {fuel : ℕ} {state : ExecuteCall × Db}
    (hid : ∀ id ∈ subject state.1, state.2.tenantOf id ≠ some owner) :
    SparesTenant owner state.2 (proceed script fuel state).2 := by
  refine (proceed_invariant (I := fun current => SparesTenant owner state.2 current.2 ∧
    ∀ id ∈ subject current.1, current.2.tenantOf id ≠ some owner)
    (fun current p h hp => ?_) ⟨.refl owner state.2, hid⟩).1
  have hspares := spares_advance hp h.2
  refine ⟨h.1.trans hspares, fun id hsubject => ?_⟩
  rw [hspares.tenantOf]
  obtain ⟨id', hid', hnone | hsame, -⟩ := advance_rows hp
  · rw [hnone] at hsubject
    cases hsubject
  · rw [hsame] at hsubject
    cases hsubject
    exact h.2 id hid'

/-- A call of `executeOpportunity` about a row of another tenant. -/
lemma spares_executeOpportunity (h : db.tenantOf id ≠ some owner) :
    SparesTenant owner db (executeOpportunity ks est script db id).2 := by
  have hstart : SparesTenant owner db (start ks est script.now db id).2 := by
    apply SparesTenant.trans _ (.of_sameRows sameRows_start)
    apply SparesTenant.writeStatuses
    intro w hw
    rw [id_of_mem_startWrites hw]
    exact h
  refine hstart.trans (spares_proceed fun j hsubject => ?_)
  rw [hstart.tenantOf]
  by_cases hj : j = id
  · rw [hj]
    exact h
  · exact absurd hsubject (start_getOpportunityById_of_ne ks est script.now db hj).2

end Execution

section Settlement

open AuthoritativeReconciler

variable {platform : Platform} {world : EventWorld}

lemma spares_reconcileCommit {plan : SettlementPlan} {ids : TransactionIds} {fault : Option ℕ}
    (h : db.tenantOf plan.read.opp.id ≠ some owner) :
    SparesTenant owner db (reconcileCommit platform plan ids fault db) := by
  rcases reconcileCommit_spec platform plan ids fault db with ⟨-, hsame⟩ | ⟨-, hcommit⟩
  · rw [hsame]
    exact .refl owner db
  · intro j
    rw [hcommit.getOpportunityById]
    split_ifs with hj
    · cases ho : db.getOpportunityById j with
      | none => exact .none
      | some o =>
        refine .some ⟨rfl, rfl, rfl, rfl, rfl, fun howner => absurd ?_ h⟩
        rw [Db.tenantOf, ← hj, ho, Option.map_some, howner]
    · exact SparesTenant.refl owner db j

/-- A reconciliation of a row of another tenant. -/
lemma spares_reconcileMatched (h : db.tenantOf id ≠ some owner) :
    SparesTenant owner db (reconcileMatched platform world db id) := by
  rw [reconcileMatched, reconcileOpportunity, reconcileStart]
  cases hopp : db.getOpportunityById id with
  | none => exact .refl owner db
  | some opp =>
    dsimp only
    split_ifs
    · rw [answerCall]
      cases world.settlement.response with
      | error message => exact .refl owner db
      | ok payload =>
        rw [reconcileFetched]
        dsimp only
        cases hdecide : decide ⟨opp, db.getExecutionRecordByOpportunityId opp.id,
          world.settlement.now⟩ (.fetched world.settlement.client) payload with
        | fetching read => exact .refl owner db
        | finished result => exact .refl owner db
        | committing plan =>
          obtain ⟨-, hread, -⟩ := decide_eq_committing hdecide
          apply spares_reconcileCommit
          rw [hread, Db.id_of_getOpportunityById hopp]
          exact h
    · exact .refl owner db

end Settlement

section Handling

variable {platform : Platform} {world : EventWorld}

lemma spares_recoverIngested {opp : RecoveryOpportunity} (h : Separate owner tenantId db)
    (hne : owner ≠ tenantId) (htenant : tenantId ≠ "") (hopp : db.tenantOf opp.id ≠ some owner) :
    SparesTenant owner db (EventGateway.recoverIngested platform world tenantId opp db) := by
  have hscored := spares_scoreOpportunity world.est hopp
  have hpipeline : SparesTenant owner db
      (runAuthorityPipeline platform world.killSwitches world.est world.now
        ⟨some 5, some tenantId, some opp.environment⟩
        (scoreOpportunity world.est db opp).2).2 :=
    hscored.trans (spares_runAuthorityPipeline (h.of_spares hscored) hne htenant)
  simp only [EventGateway.recoverIngested]
  split
  · split_ifs
    · apply hpipeline.trans
      apply spares_executeOpportunity
      rw [hpipeline.tenantOf]
      exact hopp
    · exact hpipeline
  · exact hpipeline

end Handling

end EventIsolation

end CtrlRecovery
