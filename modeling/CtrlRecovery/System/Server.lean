import CtrlRecovery.Agents.Daemon
import CtrlRecovery.Reconciliation.Coverage
import CtrlRecovery.Routes.Playground
import CtrlRecovery.System.RecoverySystem
import CtrlRecovery.Webhooks.Handlers

/-!
# The server

The system behind its routes. A payload that the provider has not been asked for enters the
reconciler only through a webhook delivery, and so does a payment that a webhook reports; the
playground's settlement is a route of its own. The rest is work of the system itself.

A failed payment that is new starts a sweep of the daemon over the opportunities of all tenants, in
the background.
-/

namespace CtrlRecovery

open Core OpportunityStatus AuthoritativeReconciler

/-- Whether the daemon is sweeping, and if so, whether a delivery has started the sweep. -/
inductive Sweeping | no | yes (byDelivery : Bool)
  deriving DecidableEq, Repr

structure ServerState extends EngineState where
  credentials : Credentials
  sweeping : Sweeping

inductive ServerAction
  | deliver (route : WebhookRoute) (call : ℕ) (request : WebhookRequest) (stamp : DeliveryStamp)
  | reconcileLink (caller : Playground.Caller) (opportunityId : Option String) (entryId : String)
      (now : Timestamp)
  | connect (credentials : Credentials)
  | beginSweep
  | endSweep
  | system (action : SystemAction)

/-- Whether an action is one that only a webhook delivery has the system do. -/
def isDelivered : SystemAction → Bool
  | .engine (.reconcile (.start _ _ override _)) => override.isSome
  | .ingest (.webhook ..)                        => true
  | .ingest (.simulatedWebhook ..)               => true
  | _                                            => false

/-- Whether a sweep over all tenants gets to its work. -/
def CanSweep (s : ServerState) (db : Db) : Prop :=
  AutonomousRecoveryDaemon.Sweeps s.killSwitches (s.sweeping != .no) none db

instance (s : ServerState) (db : Db) : Decidable (CanSweep s db) := by
  unfold CanSweep
  infer_instance

/-- What the daemon does after the ingestion of a delivery: a stored payment starts a sweep. -/
def sweepingAfter (s : ServerState) (ingestion : Ingestion) : Sweeping :=
  if ((ingested s.db ingestion).bind s.db.insertOpportunity).isSome ∧
    CanSweep s (ingest s.db ingestion) then .yes true
  else s.sweeping

/-- One step of the server. -/
def serverStep (platform : Platform) (env : WebhookEnv) (s : ServerState) :
    ServerAction → Option ServerState
  | .deliver route call request stamp =>
    match RazorpayWebhook.handle platform env s.credentials s.db route request stamp with
    | .reconciles source id payload =>
      (reconcileStep platform s.toReconcilerState
        (.start call id (some (source, payload)) stamp.now)).map fun r =>
          { s with toReconcilerState := r }
    | .ingests ingestion =>
      some { s with db := ingest s.db ingestion, sweeping := sweepingAfter s ingestion }
    | _ => some s
  | .reconcileLink caller opportunityId entryId now =>
    some { s with db := (Playground.reconcileLink s.db caller opportunityId entryId now).2 }
  | .connect credentials => some { s with credentials := credentials }
  | .beginSweep => if s.sweeping = .no then some { s with sweeping := .yes false } else none
  | .endSweep => some { s with sweeping := .no }
  | .system action =>
    if isDelivered action then none
    else (systemStep platform s.toEngineState action).map fun e => { s with toEngineState := e }

/-- The server without calls. -/
def ServerState.idle (db : Db) (credentials : Credentials) : ServerState where
  toEngineState := .idle db
  credentials := credentials
  sweeping := .no

/-! ### The database -/

variable {platform : Platform} {env : WebhookEnv}

/-- The ingestion that an action makes, if any. -/
def ingestionOf (platform : Platform) (env : WebhookEnv) (s : ServerState) :
    ServerAction → Option Ingestion
  | .deliver route _ request stamp =>
    match RazorpayWebhook.handle platform env s.credentials s.db route request stamp with
    | .ingests ingestion => some ingestion
    | _ => none
  | .system (.ingest ingestion) => some ingestion
  | _ => none

lemma of_ingestionOf_deliver {s : ServerState} {route : WebhookRoute} {call : ℕ}
    {request : WebhookRequest} {stamp : DeliveryStamp} {ingestion : Ingestion}
    (h : ingestionOf platform env s (.deliver route call request stamp) = some ingestion) :
    RazorpayWebhook.handle platform env s.credentials s.db route request stamp =
      .ingests ingestion := by
  simp only [ingestionOf] at h
  split at h
  next hhandle =>
    cases h
    exact hhandle
  · cases h

/-- What an action writes: the opportunity that it ingests, the settlement of the playground, the
transaction of a call, or the rows that other work of the system rewrites. -/
inductive DbChange (platform : Platform) (env : WebhookEnv) (s : ServerState) :
    ServerAction → Db → Prop
  | same {a : ServerAction} : DbChange platform env s a s.db
  | ingested {a : ServerAction} {ingestion : Ingestion}
      (ingests : ingestionOf platform env s a = some ingestion) :
      DbChange platform env s a (ingest s.db ingestion)
  | settled {caller : Playground.Caller} {opportunityId : Option String} {entryId : String}
      {now : Timestamp} :
      DbChange platform env s (.reconcileLink caller opportunityId entryId now)
        (Playground.reconcileLink s.db caller opportunityId entryId now).2
  | committed {call : ℕ} {plan : SettlementPlan} {ids : TransactionIds} {fault : Option ℕ}
      {message : String} (planned : s.calls call = some (.committing plan)) :
      DbChange platform env s (.system (.engine (.reconcile (.commit call ids fault message))))
        (reconcileCommit platform plan ids fault s.db)
  | worked {action : SystemAction} {db : Db}
      (commitsNothing : committingPlan s.toEngineState action = none) (writes : RowWrites s.db db) :
      DbChange platform env s (.system action) db

lemma dbChange_of_serverStep {s t : ServerState} {a : ServerAction}
    (h : serverStep platform env s a = some t) : DbChange platform env s a t.db := by
  cases a with
  | deliver route number request stamp =>
    simp only [serverStep] at h
    split at h
    · -- the call starts with its payload, and writes in a later step
      obtain ⟨r, hr, rfl⟩ := Option.map_eq_some_iff.mp h
      simp only [reconcileStep] at hr
      split at hr <;> cases hr
      exact .same
    next ingestion hhandle =>
      cases h
      exact .ingested (by simp only [ingestionOf, hhandle])
    · cases h
      exact .same
  | reconcileLink caller opportunityId entryId now =>
    cases h
    exact .settled
  | connect credentials =>
    cases h
    exact .same
  | beginSweep =>
    simp only [serverStep] at h
    split_ifs at h
    cases h
    exact .same
  | endSweep =>
    cases h
    exact .same
  | system action =>
    simp only [serverStep] at h
    split_ifs at h
    obtain ⟨e, he, rfl⟩ := Option.map_eq_some_iff.mp h
    cases hplan : committingPlan s.toEngineState action with
    | some plan =>
      cases action with
      | engine action =>
        obtain ⟨call, ids, fault, message, rfl, hcall, hdb⟩ := engineStep_commit he hplan
        dsimp only
        rw [hdb]
        exact .committed hcall
      | _ => cases hplan
    | none =>
      by_cases hing : ∃ ingestion, action = .ingest ingestion
      · obtain ⟨ingestion, rfl⟩ := hing
        cases he
        exact .ingested rfl
      · exact .worked hplan
          (systemStep_rowWrites he hplan fun ingestion heq => hing ⟨ingestion, heq⟩)

/-! ### The calls in flight -/

/-- How an action brings a call to where it is: a delivery or the system starts it, it gets the
answer to its fetch, or it finishes. -/
inductive CallChange (platform : Platform) (env : WebhookEnv) (s : ServerState) (call : ℕ) :
    ServerAction → ReconcileCall → Prop
  | delivered {route : WebhookRoute} {request : WebhookRequest} {stamp : DeliveryStamp}
      {source : PayloadSource} {id : String} {payload : ProviderPayload}
      (handled : RazorpayWebhook.handle platform env s.credentials s.db route request stamp =
        .reconciles source id payload) :
      CallChange platform env s call (.deliver route call request stamp)
        (reconcileStart s.db id (some (source, payload)) stamp.now)
  | started {id : String} {now : Timestamp} :
      CallChange platform env s call (.system (.engine (.reconcile (.start call id none now))))
        (reconcileStart s.db id none now)
  | fetched {read : ReconcileRead} {client : ProviderClient}
      {response : Except String ProviderPayload} (fetching : s.calls call = some (.fetching read))
      (own : isClientFor read.opp client) :
      CallChange platform env s call
        (.system (.engine (.reconcile (.fetched call client response))))
        (reconcileFetched read client response)
  | finished {a : ServerAction} {result : ReconciliationResult} :
      CallChange platform env s call a (.finished result)

/-- Only the reconciler's own steps change its calls. -/
lemma engineStep_calls {s t : EngineState} {action : EngineAction}
    (h : engineStep platform s action = some t) (hother : ∀ r, action ≠ .reconcile r) :
    t.calls = s.calls := by
  cases action with
  | score est id =>
    obtain ⟨opp, -, rfl⟩ := engineStep_score h
    rfl
  | allocate est options => exact (engineStep_allocate h).2.1
  | pipeline est now options => exact (engineStep_pipeline h).2.1
  | execute call est now id replay => exact (engineStep_execute h).2.1
  | answer call answer now entryId =>
    obtain ⟨execution, p, -, -, rfl⟩ := engineStep_answer h
    rfl
  | settle call now =>
    obtain ⟨id, result, -, rfl⟩ := engineStep_settle h
    rfl
  | reconcile action => exact absurd rfl (hother action)
  | setKillSwitches killSwitches =>
    cases h
    rfl

lemma systemStep_calls {s t : EngineState} {action : SystemAction}
    (h : systemStep platform s action = some t) (hother : ∀ r, action ≠ .engine (.reconcile r)) :
    t.calls = s.calls := by
  cases action with
  | engine action => exact engineStep_calls h fun r hr => hother r (by rw [hr])
  | allocateOn est options opportunities => rw [systemStep_allocateOn h]
  | evaluate est now opp decision score => exact (systemStep_evaluate h).2.1
  | upsertScore score => rw [systemStep_upsertScore h]
  | upsertAllocationDecision decision => rw [systemStep_upsertAllocationDecision h]
  | _ =>
    cases h
    rfl

/-- A call is where it was before, or where the step brings it. -/
lemma callChange_of_serverStep {s t : ServerState} {a : ServerAction}
    (h : serverStep platform env s a = some t) {call : ℕ} {c : ReconcileCall}
    (hcall : t.calls call = some c) :
    s.calls call = some c ∨ CallChange platform env s call a c := by
  cases a with
  | deliver route number request stamp =>
    simp only [serverStep] at h
    split at h
    next source id payload hhandle =>
      obtain ⟨r, hr, rfl⟩ := Option.map_eq_some_iff.mp h
      rcases reconcileStep_calls hr call with
        hsame | ⟨_, _, _, hstart, hnew⟩ | ⟨_, _, _, hfetched, -⟩ | ⟨result, hnew⟩
      · exact .inl (hsame.symm.trans hcall)
      · cases hstart
        cases hnew.symm.trans hcall
        exact .inr (.delivered hhandle)
      · cases hfetched
      · cases hnew.symm.trans hcall
        exact .inr .finished
    · cases h
      exact .inl hcall
    · cases h
      exact .inl hcall
  | reconcileLink caller opportunityId entryId now =>
    cases h
    exact .inl hcall
  | connect credentials =>
    cases h
    exact .inl hcall
  | beginSweep =>
    simp only [serverStep] at h
    split_ifs at h
    cases h
    exact .inl hcall
  | endSweep =>
    cases h
    exact .inl hcall
  | system action =>
    simp only [serverStep] at h
    split_ifs at h with hdelivered
    obtain ⟨e, he, rfl⟩ := Option.map_eq_some_iff.mp h
    by_cases hreconcile : ∃ r, action = .engine (.reconcile r)
    · obtain ⟨action, rfl⟩ := hreconcile
      obtain ⟨r, hr, rfl⟩ := Option.map_eq_some_iff.mp he
      rcases reconcileStep_calls hr call with
        hsame | ⟨id, override, now, rfl, hnew⟩ |
          ⟨read, client, response, rfl, hfetching, hown, hnew⟩ | ⟨result, hnew⟩
      · exact .inl (hsame.symm.trans hcall)
      · -- the system itself has no payload to start a call with
        have hnone : override = none := by simpa [isDelivered] using hdelivered
        subst hnone
        cases hnew.symm.trans hcall
        exact .inr .started
      · cases hnew.symm.trans hcall
        exact .inr (.fetched hfetching hown)
      · cases hnew.symm.trans hcall
        exact .inr .finished
    · have hcalls : e.calls = s.calls := systemStep_calls he fun r hr => hreconcile ⟨r, hr⟩
      refine .inl ?_
      rw [← hcalls]
      exact hcall

/-- A call that starts with a payload and has its plan decides on the stored opportunity. -/
lemma of_reconcileStart_committing {db : Db} {id : String} {source : PayloadSource}
    {payload : ProviderPayload} {now : Timestamp} {plan : SettlementPlan}
    (h : reconcileStart db id (some (source, payload)) now = .committing plan) :
    ∃ opp execRecord, db.getOpportunityById id = some opp ∧
      decide ⟨opp, execRecord, now⟩ source payload = .committing plan := by
  rw [reconcileStart] at h
  split at h
  · cases h
  next opp hopp => exact ⟨opp, _, hopp, h⟩

/-- A call that starts without a payload has no plan yet, and fetches for the stored opportunity. -/
lemma of_reconcileStart_none {db : Db} {id : String} {now : Timestamp} {read : ReconcileRead}
    (h : reconcileStart db id none now = .fetching read) :
    db.getOpportunityById id = some read.opp := by
  rw [reconcileStart] at h
  split at h
  · cases h
  next opp hopp =>
    dsimp only at h
    split_ifs at h
    cases h
    exact hopp

lemma decide_ne_fetching {read read' : ReconcileRead} {source : PayloadSource}
    {payload : ProviderPayload} : decide read source payload ≠ .fetching read' := by
  rw [AuthoritativeReconciler.decide]
  split_ifs <;> simp

lemma reconcileStart_none_ne_committing {db : Db} {id : String} {now : Timestamp}
    {plan : SettlementPlan} : reconcileStart db id none now ≠ .committing plan := by
  rw [reconcileStart]
  split
  · simp
  · dsimp only
    split_ifs <;> simp

/-! ### The tenants of the opportunities -/

/-- The tenant that owns an opportunity. -/
def Db.tenantOf (db : Db) (id : String) : Option String :=
  (db.getOpportunityById id).map (·.tenantId)

/-- If an opportunity is the tenant's, it stays so. -/
def KeepsTenant (id owner : String) (db db' : Db) : Prop :=
  db.tenantOf id = some owner → db'.tenantOf id = some owner

/-- An ingestion of an opportunity that is the tenant's is for the tenant, too. -/
def IngestsWithin (id owner : String) (db : Db) (ingestion : Ingestion) : Prop :=
  ∀ opp ∈ ingested db ingestion, opp.id = id → db.tenantOf id = some owner →
    (Db.insertedRow opp).tenantId = owner

namespace KeepsTenant

variable {id owner : String} {db db' : Db}

lemma updateStatus (db : Db) (j : String) (status : OpportunityStatus) :
    KeepsTenant id owner db (db.updateStatus j status) := by
  intro hrow
  rw [Db.tenantOf, Db.getOpportunityById_updateStatus]
  split_ifs
  · rw [Option.map_map]
    exact hrow
  · exact hrow

lemma of_rowWrite (h : RowWrite db db') : KeepsTenant id owner db db' := by
  cases h with
  | status j h => exact updateStatus db j _
  | attempts h =>
    obtain ⟨n, hn⟩ := h.getOpportunityById
    intro hrow
    rw [Db.tenantOf, hn, Option.map_map]
    exact hrow
  | placeholder hnone h =>
    intro hrow
    rw [Db.tenantOf, Db.getOpportunityById_insertOpportunity h, if_neg]
    · exact hrow
    · rintro rfl
      rw [Db.tenantOf, hnone] at hrow
      cases hrow

lemma of_rowWrites (h : RowWrites db db') : KeepsTenant id owner db db' := by
  induction h with
  | refl => exact fun hrow => hrow
  | tail _ hwrite ih => exact fun hrow => of_rowWrite hwrite (ih hrow)

lemma reconcileCommit (platform : Platform) (plan : SettlementPlan) (ids : TransactionIds)
    (fault : Option ℕ) (db : Db) :
    KeepsTenant id owner db
      (AuthoritativeReconciler.reconcileCommit platform plan ids fault db) := by
  intro hrow
  rcases reconcileCommit_spec platform plan ids fault db with ⟨-, hback⟩ | ⟨-, hcommit⟩
  · rw [hback]
    exact hrow
  · rw [Db.tenantOf, hcommit.getOpportunityById]
    split_ifs
    · rw [Option.map_map]
      exact hrow
    · exact hrow

lemma ingest {ingestion : Ingestion} (h : IngestsWithin id owner db ingestion) :
    KeepsTenant id owner db (CtrlRecovery.ingest db ingestion) := by
  intro hrow
  rcases ingest_spec db ingestion with hsame | ⟨opp, db', hopp, hins, hrows⟩
  · rw [hsame]
    exact hrow
  · rw [Db.tenantOf, hrows.getOpportunityById, Db.getOpportunityById_insertOpportunity hins]
    split_ifs with hid
    · have howner := h opp hopp hid.symm hrow
      cases db.getOpportunityById opp.id <;> simpa using howner
    · exact hrow

lemma reconcileLink (db : Db) (caller : Playground.Caller) (opportunityId : Option String)
    (entryId : String) (now : Timestamp) :
    KeepsTenant id owner db
      (Playground.reconcileLink db caller opportunityId entryId now).2 := by
  rcases Playground.reconcileLink_snd db caller opportunityId entryId now with
    hsame | ⟨context, j, opp, -, -, -, hdb⟩
  · rw [hsame]
    exact fun hrow => hrow
  · rw [hdb]
    exact updateStatus db j recovered

end KeepsTenant

lemma keepsTenant_serverStep {id owner : String} {s t : ServerState} {a : ServerAction}
    (h : serverStep platform env s a = some t)
    (hingest : ∀ ingestion ∈ ingestionOf platform env s a, IngestsWithin id owner s.db ingestion) :
    KeepsTenant id owner s.db t.db := by
  have hchange := dbChange_of_serverStep h
  generalize t.db = db at hchange
  cases hchange with
  | same => exact fun hrow => hrow
  | ingested ingests => exact .ingest (hingest _ ingests)
  | settled => exact .reconcileLink s.db _ _ _ _
  | committed planned => exact .reconcileCommit platform _ _ _ s.db
  | worked _ writes => exact .of_rowWrites writes

/-- The opportunity that a call in flight is about. -/
def ReconcileCall.about : ReconcileCall → Option String
  | .fetching read   => some read.opp.id
  | .committing plan => some plan.read.opp.id
  | .finished _      => none

/-- An ingestion moves no opportunity that a call in flight is about to another tenant. -/
def MovesNoCall (s : ServerState) (ingestion : Ingestion) : Prop :=
  ∀ call c id, s.calls call = some c → c.about = some id → ∀ opp ∈ ingested s.db ingestion,
    opp.id = id → ∀ o ∈ s.db.getOpportunityById id, (Db.insertedRow opp).tenantId = o.tenantId

lemma ingestionOf_of_callChange {s : ServerState} {a : ServerAction} {call : ℕ} {c : ReconcileCall}
    {id : String} (h : CallChange platform env s call a c) (habout : c.about = some id) :
    ingestionOf platform env s a = none := by
  cases h with
  | delivered handled => simp only [ingestionOf, handled]
  | started => rfl
  | fetched fetching own => rfl
  | finished => cases habout

lemma keepsTenant_of_call {id owner : String} {s t : ServerState} {a : ServerAction}
    (h : serverStep platform env s a = some t)
    (hmoves : ∀ ingestion ∈ ingestionOf platform env s a, MovesNoCall s ingestion)
    {call : ℕ} {c : ReconcileCall} (hcall : t.calls call = some c) (habout : c.about = some id) :
    KeepsTenant id owner s.db t.db := by
  apply keepsTenant_serverStep h
  intro ingestion hing
  rcases callChange_of_serverStep h hcall with hbefore | hchange
  · intro opp hopp hid hrow
    obtain ⟨o, ho, rfl⟩ := Option.map_eq_some_iff.mp hrow
    exact hmoves ingestion hing call c id hbefore habout opp hopp hid o ho
  · rw [ingestionOf_of_callChange hchange habout] at hing
    cases hing

end CtrlRecovery
