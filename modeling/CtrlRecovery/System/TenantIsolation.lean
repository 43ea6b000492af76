import CtrlRecovery.Reconciliation.Interleaving
import CtrlRecovery.System.Server

/-!
# Deliveries and the tenants

A webhook authenticates the tenant of its route, and takes the opportunity from the body that the
tenant signs. What the deliveries of one tenant do leaves the opportunities, the execution records
and the settlements of every other tenant alone in the runs in which every delivery names an
opportunity of its own tenant (`othersUntouched_of_namesOwn`).

The handlers never ask `assertTenantOwnership`.
-/

namespace CtrlRecovery

open Core OpportunityStatus AuthoritativeReconciler RazorpayWebhook TenancyEnforcer

/-! ### What belongs to a tenant -/

/-- The opportunities of a tenant, with their execution records and their settlement entries, are
the same. -/
structure SameAssets (tenantId : String) (db db' : Db) : Prop where
  opportunities : db'.opportunities.rows.filter (·.tenantId = tenantId) =
    db.opportunities.rows.filter (·.tenantId = tenantId)
  executionRecords :
    (db'.executionRecords.rows.filter fun r => db'.tenantOf r.opportunityId = some tenantId) =
      db.executionRecords.rows.filter fun r => db.tenantOf r.opportunityId = some tenantId
  settlements :
    (db'.doubleEntryLedger.rows.filter fun e => db'.tenantOf e.opportunityId = some tenantId) =
      db.doubleEntryLedger.rows.filter fun e => db.tenantOf e.opportunityId = some tenantId

variable {platform : Platform} {env : WebhookEnv} {tenantId owner : String} {db db' : Db}

@[simp] lemma SameAssets.refl (tenantId : String) (db : Db) : SameAssets tenantId db db :=
  ⟨rfl, rfl, rfl⟩

/-- An upsert of an opportunity of another tenant, over no row of this one. -/
lemma SameAssets.insert {opp : RecoveryOpportunity}
    (h : db.insertOpportunity opp = some db') (hnew : (Db.insertedRow opp).tenantId ≠ tenantId)
    (hold : db.tenantOf opp.id ≠ some tenantId) : SameAssets tenantId db db' := by
  have howner : ∀ id, db'.tenantOf id = some tenantId ↔ db.tenantOf id = some tenantId := by
    intro id
    rw [Db.tenantOf, Db.getOpportunityById_insertOpportunity h]
    split_ifs with hid
    · subst hid
      refine iff_of_false ?_ hold
      cases db.getOpportunityById opp.id <;> simpa using hnew
    · rfl
  simp only [Db.insertOpportunity] at h
  split_ifs at h
  cases h
  refine ⟨?_, ?_, ?_⟩
  · apply Table.filter_rows_put_of_neg
    · cases db.getOpportunityById opp.id <;> simpa using hnew
    · intro o ho hid
      have hkey : o.id = opp.id := by
        cases hrow : db.getOpportunityById opp.id <;> simp only [hrow] at hid <;> exact hid
      have hrow : db.getOpportunityById opp.id = some o := by
        rw [← hkey]
        exact Table.find?_key_of_mem ho
      simpa [Db.tenantOf, hrow] using hold
  · simp only [howner]
  · simp only [howner]

/-- A reconciliation of an opportunity of another tenant. -/
lemma SameAssets.commit {plan : SettlementPlan} {ids : TransactionIds} {fault : Option ℕ}
    (h : db.tenantOf plan.read.opp.id = some owner) (hne : tenantId ≠ owner) :
    SameAssets tenantId db (reconcileCommit platform plan ids fault db) := by
  rw [reconcileCommit]
  cases hattempt : Transaction.attempt (statements platform plan ids) fault db with
  | none =>
    rw [Transaction.commitOrRollback_of_none hattempt]
    exact .refl tenantId db
  | some db' =>
    rw [Transaction.commitOrRollback_of_some hattempt]
    have hcommit := committed_of_attempt hattempt
    have howner : ∀ id, db'.tenantOf id = db.tenantOf id := by
      intro id
      rw [Db.tenantOf, hcommit.getOpportunityById, Db.tenantOf]
      split_ifs
      · rw [Option.map_map]
        rfl
      · rfl
    have hother : ¬ db.tenantOf plan.read.opp.id = some tenantId := by
      rw [h, Option.some.injEq]
      exact hne.symm
    refine ⟨?_, ?_, ?_⟩
    · rw [hcommit.opportunities, Db.setStatus_opportunities]
      apply Table.filter_rows_update
      intro o ho hid
      have hrow : db.getOpportunityById plan.read.opp.id = some o := by
        rw [← hid]
        exact Table.find?_key_of_mem ho
      simpa [Db.tenantOf, hrow] using hother
    · simp only [howner]
      rcases executionRecords_of_attempt hattempt with hsame | hupdate
      · rw [hsame]
      · rw [hupdate]
        apply Table.filter_rows_update
        rintro r - hid
        simpa [hid] using hother
    · simp only [howner]
      rw [hcommit.ledger, List.filter_append]
      split_ifs
      · simp [settlementEntry, hother]
      · simp

/-- An ingestion for another tenant, over no row of this one. -/
lemma SameAssets.ingest {ingestion : Ingestion}
    (h : ∀ opp ∈ ingested db ingestion,
      (Db.insertedRow opp).tenantId ≠ tenantId ∧ db.tenantOf opp.id ≠ some tenantId) :
    SameAssets tenantId db (CtrlRecovery.ingest db ingestion) := by
  rw [CtrlRecovery.ingest]
  cases hopp : ingested db ingestion with
  | none => exact .refl tenantId db
  | some opp =>
    obtain ⟨hnew, hold⟩ := h opp hopp
    dsimp only
    cases hins : db.insertOpportunity opp with
    | none => exact .refl tenantId db
    | some db' =>
      have hsame := SameAssets.insert hins hnew hold
      cases ingestion.auditId with
      | none => exact hsame
      | some entryId => exact ⟨hsame.opportunities, hsame.executionRecords, hsame.settlements⟩

/-! ### The deliveries of one tenant -/

def PayloadSource.isDelivered : PayloadSource → Bool
  | .delivered .. => true
  | .fetched _    => false

/-- The signature of a delivery verifies under the secrets of the tenant. -/
def isSignedBy (platform : Platform) (env : WebhookEnv) (owner : String) (s : ServerState) :
    ServerAction → Bool
  | .deliver route _ request stamp =>
    (authenticateFor platform env s.credentials s.db route request owner stamp.now).isOk
  | _ => true

/-- One step of the server when all deliveries are signed with the secrets of one tenant. -/
def signedStep (platform : Platform) (env : WebhookEnv) (owner : String) (s : ServerState)
    (a : ServerAction) : Option ServerState :=
  if isSignedBy platform env owner s a then serverStep platform env s a else none

/-- The work of the deliveries: a delivery, the transaction of a payload that one has brought, and
whatever the engine does while a sweep is running that one has started. -/
def worksOnDelivery (s : ServerState) : ServerAction → Bool
  | .deliver ..              => true
  | .system (.engine action) =>
    s.sweeping = .yes true || (committing s.toEngineState action).any (·.source.isDelivered)
  | _                        => false

/-- What the deliveries do leaves every other tenant alone. -/
def OthersUntouched (owner : String) (s : ServerState) (a : ServerAction) (t : ServerState) : Prop :=
  worksOnDelivery s a → ∀ tenantId, tenantId ≠ owner → SameAssets tenantId s.db t.db

/-- A delivery that passes its authentication names an opportunity of the tenant with its payment
link. A failed payment that it reports for the first time is posted on the route of the tenant,
under an id of no other tenant's opportunity, and while no sweep can be started. -/
def DeliversOwn (platform : Platform) (env : WebhookEnv) (owner : String) (s : ServerState) :
    ServerAction → Prop
  | .deliver route _ request stamp =>
    (authenticate platform env s.credentials s.db route request stamp.now).isOk →
      (∀ link ∈ request.link route, ∀ id ∈ resolveLink s.db link,
        ∀ opp ∈ s.db.getOpportunityById id,
          (assertTenantOwnership owner opp.tenantId opp.id).isOk) ∧
      ∀ payment ∈ request.failedPayment,
        isStored s.db route request payment stamp.lookedAt = false →
          request.tenantId route = owner ∧
          (∀ opp ∈ s.db.getOpportunityById (storedId payment stamp.now), opp.tenantId = owner) ∧
          (s.sweeping ≠ .no ∨ s.killSwitches.isKillSwitchActive "tenant_system_default" "")
  | _ => True

/-- The deliveries name opportunities of the tenant, and no opportunity is moved to another tenant
while a call about it is in flight. -/
def NamesOwn (platform : Platform) (env : WebhookEnv) (owner : String) (s : ServerState)
    (a : ServerAction) (_ : ServerState) : Prop :=
  DeliversOwn platform env owner s a ∧
    ∀ ingestion ∈ ingestionOf platform env s a, MovesNoCall s ingestion

instance (s : ServerState) (a : ServerAction) : Decidable (DeliversOwn platform env owner s a) :=
  match a with
  | .deliver _ _ _ _       =>
    inferInstanceAs (Decidable (_ → (∀ link ∈ _, ∀ id ∈ _, ∀ opp ∈ _, _ = true) ∧
      ∀ payment ∈ _, _ → _ = _ ∧ (∀ opp ∈ _, _ = _) ∧ (_ ≠ _ ∨ _ = true)))
  | .reconcileLink _ _ _ _ => isTrue trivial
  | .connect _             => isTrue trivial
  | .beginSweep            => isTrue trivial
  | .endSweep              => isTrue trivial
  | .system _              => isTrue trivial

variable {s t : ServerState} {a : ServerAction}

/-- A failed payment that meets the condition is stored for the tenant, over no row of another, and
starts no sweep. -/
lemma of_deliversOwn_ingests {route : WebhookRoute} {call : ℕ} {request : WebhookRequest}
    {stamp : DeliveryStamp} {ingestion : Ingestion}
    (hown : DeliversOwn platform env owner s (.deliver route call request stamp))
    (hhandle : handle platform env s.credentials s.db route request stamp = .ingests ingestion)
    {opp : RecoveryOpportunity} (hopp : ingested s.db ingestion = some opp) :
    (Db.insertedRow opp).tenantId = owner ∧
      (∀ o ∈ s.db.getOpportunityById opp.id, o.tenantId = owner) ∧
        ¬ CanSweep s (ingest s.db ingestion) := by
  obtain ⟨secret, payment, hsecret, hpayment, rfl⟩ := of_handle_ingests hhandle
  obtain ⟨hnew, hid, htenant⟩ := of_ingested_failedIngestion hopp
  have haccepted : (authenticate platform env s.credentials s.db route request stamp.now).isOk := by
    rw [hsecret]
    rfl
  obtain ⟨hroute, hfree, hsweep⟩ := (hown haccepted).2 payment hpayment hnew
  refine ⟨?_, ?_, ?_⟩
  · have hne : request.tenantId route ≠ "" := tenantId_ne_empty
    rw [Db.insertedRow, htenant, ← hroute]
    exact Js.orElse_of_ne_empty hne
  · rw [hid]
    exact hfree
  · rintro ⟨hidle, hoff, -⟩
    rcases hsweep with hsweep | hsweep
    · exact hidle (by simpa using hsweep)
    · exact hoff hsweep

/-! ### One step -/

/-- The calls that the deliveries have started are about opportunities of the tenant, and no
delivery has started a sweep that is running. -/
structure Separated (owner : String) (s : ServerState) : Prop where
  calls : ∀ call plan, s.calls call = some (.committing plan) → plan.source.isDelivered →
    s.db.tenantOf plan.read.opp.id = some owner
  sweeping : s.sweeping ≠ .yes true

/-- A delivery that meets the condition plans for an opportunity of the tenant. -/
lemma tenantOf_of_callChange {call : ℕ} {plan : SettlementPlan}
    (hown : DeliversOwn platform env owner s a)
    (hchange : CallChange platform env s call a (.committing plan))
    (hsource : plan.source.isDelivered) : s.db.tenantOf plan.read.opp.id = some owner := by
  generalize hc : ReconcileCall.committing plan = c at hchange
  cases hchange with
  | @delivered route request stamp source id payload handled =>
    obtain ⟨opp, execRecord, hopp, hplan⟩ := of_reconcileStart_committing hc.symm
    obtain ⟨secret, link, hsecret, hlink, -, hresolved, -⟩ := of_handle_reconciles handled
    have haccepted :
        (authenticate platform env s.credentials s.db route request stamp.now).isOk := by
      rw [hsecret]
      rfl
    have hpasses := (hown haccepted).1 link hlink id hresolved opp hopp
    have howner : opp.tenantId = owner := by
      apply eq_of_assertTenantOwnership
      cases h : assertTenantOwnership owner opp.tenantId opp.id with
      | ok u => rfl
      | error message =>
        rw [h] at hpasses
        cases hpasses
    obtain ⟨-, hread, -⟩ := decide_eq_committing hplan
    rw [Db.tenantOf, hread, Db.id_of_getOpportunityById hopp, hopp, Option.map_some, howner]
  | started => exact absurd hc.symm reconcileStart_none_ne_committing
  | @fetched read client response fetching own =>
    cases response with
    | error message => cases hc
    | ok payload =>
      obtain ⟨-, -, hfetched, -⟩ := decide_eq_committing hc.symm
      rw [hfetched] at hsource
      cases hsource
  | finished => cases hc

lemma separated_step (hI : Separated owner s) (h : serverStep platform env s a = some t)
    (hown : NamesOwn platform env owner s a t) : Separated owner t := by
  constructor
  · intro call plan hplan hsource
    apply keepsTenant_of_call h hown.2 hplan rfl
    rcases callChange_of_serverStep h hplan with hbefore | hchange
    · exact hI.calls call plan hbefore hsource
    · exact tenantOf_of_callChange hown.1 hchange hsource
  · cases a with
    | deliver route call request stamp =>
      simp only [serverStep] at h
      split at h
      · obtain ⟨r, -, rfl⟩ := Option.map_eq_some_iff.mp h
        exact hI.sweeping
      next ingestion hhandle =>
        cases h
        dsimp only
        rw [sweepingAfter, if_neg]
        · exact hI.sweeping
        · rintro ⟨hstored, hsweep⟩
          obtain ⟨opp, hopp, -⟩ :=
            Option.bind_eq_some_iff.mp (Option.some_get hstored).symm
          exact (of_deliversOwn_ingests hown.1 hhandle hopp).2.2 hsweep
      · cases h
        exact hI.sweeping
    | beginSweep =>
      simp only [serverStep] at h
      split_ifs at h
      cases h
      simp
    | endSweep =>
      cases h
      simp
    | system action =>
      simp only [serverStep] at h
      split_ifs at h
      obtain ⟨e, -, rfl⟩ := Option.map_eq_some_iff.mp h
      exact hI.sweeping
    | _ =>
      cases h
      exact hI.sweeping

lemma isDelivered_of_worksOnDelivery {call : ℕ} {plan : SettlementPlan} {ids : TransactionIds}
    {fault : Option ℕ} {message : String} (hI : Separated owner s)
    (hplanned : s.calls call = some (.committing plan))
    (hworks : worksOnDelivery s (.system (.engine (.reconcile (.commit call ids fault message))))) :
    plan.source.isDelivered := by
  simpa [worksOnDelivery, hI.sweeping, committing, committedPlan, hplanned] using hworks

lemma othersUntouched_step (hI : Separated owner s) (h : serverStep platform env s a = some t)
    (hown : NamesOwn platform env owner s a t) : OthersUntouched owner s a t := by
  intro hworks tenantId hne
  have hchange := dbChange_of_serverStep h
  generalize t.db = db at hchange
  cases hchange with
  | same => exact .refl tenantId s.db
  | ingested ingests =>
    cases a with
    | deliver route call request stamp =>
      refine .ingest fun opp hopp => ?_
      obtain ⟨hnew, hold, -⟩ := of_deliversOwn_ingests hown.1 (of_ingestionOf_deliver ingests) hopp
      rw [hnew]
      refine ⟨hne.symm, fun hrow => ?_⟩
      obtain ⟨o, ho, htenant⟩ := Option.map_eq_some_iff.mp hrow
      exact hne (htenant.symm.trans (hold o ho))
    | system action =>
      -- what the system itself ingests is no work of a delivery
      cases action with
      | ingest ingestion => cases hworks
      | _ => cases ingests
    | _ => cases ingests
  | settled => cases hworks
  | @committed call plan ids fault message planned =>
    have hsource := isDelivered_of_worksOnDelivery hI planned hworks
    exact .commit (hI.calls call plan planned hsource) hne
  | @worked action _ commitsNothing _ =>
    cases action with
    | engine action =>
      have hnone : committing s.toEngineState action = none := commitsNothing
      simp [worksOnDelivery, hI.sweeping, hnone] at hworks
    | _ => cases hworks

/-! ### Runs -/

/-- In every run from an idle server whose deliveries are signed with the secrets of one tenant and
all name an opportunity of that tenant, what the deliveries do leaves every other tenant alone. -/
theorem othersUntouched_of_namesOwn (platform : Platform) (env : WebhookEnv) (owner : String)
    (db : Db) (credentials : Credentials) (as : List ServerAction)
    (h : AllSteps (signedStep platform env owner) (NamesOwn platform env owner)
      (.idle db credentials) as) :
    AllSteps (signedStep platform env owner) (OthersUntouched owner) (.idle db credentials) as := by
  have hstep : ∀ {s a t}, signedStep platform env owner s a = some t →
      serverStep platform env s a = some t := by
    intro s a t h
    rw [signedStep] at h
    split_ifs at h
    exact h
  refine AllSteps.of_invariant (I := Separated owner) ?_ ?_ ?_ h
  · exact fun s a t hI h hown => separated_step hI (hstep h) hown
  · exact fun s a t hI h hown => othersUntouched_step hI (hstep h) hown
  · constructor
    · intro call plan hcall
      cases hcall
    · simp [ServerState.idle]

/-- The credentials of two tenants, each with a secret of its own. -/
def twoCredentials : Credentials := fun tenantId environment =>
  if environment = .test then
    if tenantId = "tenant_a" then some ⟨some "whsec_a", none⟩
    else if tenantId = "tenant_b" then some ⟨some "whsec_b", none⟩
    else none
  else none

/-- An executing opportunity of each of two tenants, each with its payment link. -/
def twoTenants : Db :=
  .ofRows
    [sampleOpportunity "pay_1" executing,
      { sampleOpportunity "pay_2" executing with tenantId := "tenant_b", merchantId := "tenant_b" }]
    [sampleRecord "pay_1" "plink_1", sampleRecord "pay_2" "plink_2"]

def testEnv : WebhookEnv where
  isTest := true
  disableIpCheck := false
  enableIpCheck := false
  egressIps := none
  webhookSecretOld := none

/-- The body of the event of a paid payment link. -/
def paidBody (linkId referenceId : String) : String :=
  "\x7b\"event\":\"payment_link.paid\",\"payload\":\x7b\"payment_link\":\x7b\"entity\":\x7b\"id\":\"" ++
    linkId ++ "\",\"reference_id\":\"" ++ referenceId ++
    "\",\"status\":\"paid\",\"amount\":100000,\"amount_paid\":100000," ++
    "\"payments\":[\x7b\"id\":\"pay_77\"\x7d]\x7d\x7d\x7d\x7d"

/-- A delivery of that event on the route of a tenant, signed with its secret. -/
def paidDelivery (tenantId secret linkId referenceId : String) : WebhookRequest where
  tenantParam := some tenantId
  tenantQuery := none
  clientIp := "52.66.75.174"
  signature := some (secret ++ paidBody linkId referenceId)
  timestamp := none
  rawBody := paidBody linkId referenceId
  bodyEventId := none
  bodyId := none
  headerEventId := none
  paymentIsLive := false
  event := .paymentLinkPaid (some ⟨some referenceId, sampleLink linkId "paid" 100000⟩)

def sampleStamp : DeliveryStamp where
  priorCount := 0
  lookedAt := 5000
  now := 5000
  entryId := "led_1"

/-- A tenant delivers the payment of its own link. -/
def ownDelivery : List ServerAction :=
  [.deliver .razorpay 0 (paidDelivery "tenant_b" "whsec_b" "plink_2" "pay_2") sampleStamp,
    .system (.engine (.reconcile (.commit 0 (raceIds 0) none "")))]

theorem othersUntouched_ownDelivery :
    AllSteps (signedStep .plain testEnv "tenant_b") (OthersUntouched "tenant_b")
      (.idle twoTenants twoCredentials) ownDelivery := by
  have hown : AllSteps (signedStep .plain testEnv "tenant_b")
      (fun s a _ => DeliversOwn .plain testEnv "tenant_b" s a ∧
        ingestionOf .plain testEnv s a = none)
      (.idle twoTenants twoCredentials) ownDelivery := by
    decide +kernel
  apply othersUntouched_of_namesOwn
  refine hown.mono fun s a t _ hown => ⟨hown.1, ?_⟩
  intro ingestion hingestion
  rw [hown.2] at hingestion
  cases hingestion

/-- A tenant signs the payment of a link with the reference of another tenant's opportunity. -/
def foreignDelivery : List ServerAction :=
  [.deliver .razorpay 0 (paidDelivery "tenant_b" "whsec_b" "plink_2" "pay_1") sampleStamp,
    .system (.engine (.reconcile (.commit 0 (raceIds 0) none "")))]

/-- The opportunity of another tenant is settled. -/
theorem foreign_reference_settles :
    ¬ ∀ platform env owner db credentials as,
      AllSteps (signedStep platform env owner) (OthersUntouched owner) (.idle db credentials) as := by
  intro h
  have hrows : AllSteps (signedStep .plain testEnv "tenant_b")
      (fun s a t => worksOnDelivery s a →
        t.db.opportunities.rows.filter (·.tenantId = "tenant_a") =
          s.db.opportunities.rows.filter (·.tenantId = "tenant_a"))
      (.idle twoTenants twoCredentials) foreignDelivery := by
    refine (h .plain testEnv "tenant_b" twoTenants twoCredentials foreignDelivery).mono ?_
    intro s a t _ huntouched hworks
    exact (huntouched hworks "tenant_a" (by simp)).opportunities
  revert hrows
  decide +kernel

end CtrlRecovery
