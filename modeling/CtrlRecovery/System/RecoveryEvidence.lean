import CtrlRecovery.System.TenantIsolation

/-!
# Who recovers an opportunity

No role has the permission to mark a recovery. Two operations write the status nevertheless: the
transaction of the reconciler, on whatever payload its call was given, and the settlement of the
playground, on whatever opportunity its caller names.

An opportunity becomes recovered on evidence of the provider for its own tenant in the runs in which
no settlement of the playground meets a status that the guard lets through, and every payload that
confirms a payment is delivered or fetched for the tenant of the opportunity
(`recoversOnEvidence_of_onEvidence`).
-/

namespace CtrlRecovery

open Core OpportunityStatus OpportunityRepository AuthoritativeReconciler RazorpayWebhook

/-- The payload comes from the provider of the tenant: it is fetched with the tenant's credentials,
or delivered on its route with a signature under a secret of its own. -/
def PayloadSource.isOwn (tenantId : String) : PayloadSource → Bool
  | .fetched (.pool poolTenant _)       => poolTenant = tenantId
  | .fetched _                          => false
  | .delivered routeTenant configured => routeTenant = tenantId && configured

/-- The reconciliation that an action of the server commits. -/
def serverCommits (s : ServerState) : ServerAction → Option SettlementPlan
  | .system action => committingPlan s.toEngineState action
  | _              => none

/-- The step recovers opportunities by the transaction of a payload that comes from the provider of
their tenant, and in no other way. -/
def RecoversOnEvidence (s : ServerState) (a : ServerAction) (t : ServerState) : Prop :=
  ∀ id, s.db.statusOf id ≠ some recovered → t.db.statusOf id = some recovered →
    ∃ plan tenantId, serverCommits s a = some plan ∧ plan.read.opp.id = id ∧
      s.db.tenantOf id = some tenantId ∧ plan.source.isOwn tenantId

variable {platform : Platform} {env : WebhookEnv} {db db' : Db}

/-! ### What makes no recovery -/

/-- Nothing is recovered that was not. -/
def NoNewRecovery (db db' : Db) : Prop :=
  ∀ id, db'.statusOf id = some recovered → db.statusOf id = some recovered

namespace NoNewRecovery

lemma of_keepsRecoveries (h : KeepsRecoveries db db') : NoNewRecovery db db' := by
  intro id hid
  rw [← isSome_recoveredAmount, ← h.amounts, isSome_recoveredAmount]
  exact hid

lemma ingest (db : Db) (ingestion : Ingestion) :
    NoNewRecovery db (CtrlRecovery.ingest db ingestion) := by
  intro id hid
  rcases ingest_spec db ingestion with hsame | ⟨opp, db', hopp, hins, hrows⟩
  · rwa [hsame] at hid
  · rw [hrows.statusOf, Db.statusOf, Db.getOpportunityById_insertOpportunity hins] at hid
    split_ifs at hid
    · -- the row of the payment is pending
      have hpending : opp.status = pending := status_of_ingested hopp
      cases hrow : db.getOpportunityById opp.id <;> simp [hrow, Db.insertedRow, hpending] at hid
    · exact hid

/-- The playground's settlement of a status that the guard does not let through. -/
lemma reconcileLink {caller : Playground.Caller} {opportunityId : Option String} {entryId : String}
    {now : Timestamp}
    (h : (Playground.authenticatePlaygroundTenant caller).isOk → ∀ id ∈ opportunityId,
      ∀ status ∈ db.statusOf id, status ∉ [authorized, executing, notRecovered]) :
    NoNewRecovery db (Playground.reconcileLink db caller opportunityId entryId now).2 := by
  rcases Playground.reconcileLink_snd db caller opportunityId entryId now with
    hsame | ⟨context, id, opp, hcontext, hnamed, hopp, hdb⟩
  · rw [hsame]
    exact fun _ hid => hid
  · have hstatus : db.statusOf id = some opp.status := by rw [Db.statusOf, hopp, Option.map_some]
    have hout := h (by rw [hcontext]; rfl) id hnamed opp.status hstatus
    rw [hdb]
    intro j hj
    have hafter : (db.updateStatus id recovered).statusOf j = some recovered := hj
    rw [Db.statusOf_updateStatus] at hafter
    split_ifs at hafter with hji
    · subst hji
      rw [hstatus, Option.map_some, Option.some.injEq, nextStatus_recovered_iff] at hafter
      rw [hstatus]
      rcases List.mem_cons.mp hafter with hrec | hguard
      · rw [hrec]
      · exact absurd hguard hout
    · exact hafter

end NoNewRecovery

/-- A transaction recovers the opportunity of its plan, where the plan is to recover. -/
lemma of_recovers_reconcileCommit {plan : SettlementPlan} {ids : TransactionIds} {fault : Option ℕ}
    {id : String} (hbefore : db.statusOf id ≠ some recovered)
    (hafter : (reconcileCommit platform plan ids fault db).statusOf id = some recovered) :
    plan.read.opp.id = id ∧ plan.targetOpportunityStatus = recovered := by
  rcases reconcileCommit_spec platform plan ids fault db with ⟨-, hback⟩ | ⟨-, hcommit⟩
  · rw [hback] at hafter
    exact absurd hafter hbefore
  · rw [Db.statusOf, hcommit.getOpportunityById] at hafter
    split_ifs at hafter with hid
    · refine ⟨hid.symm, ?_⟩
      rw [Option.map_map, Option.map_eq_some_iff] at hafter
      obtain ⟨o, -, ho⟩ := hafter
      exact ho
    · exact absurd hafter hbefore

/-! ### The condition -/

/-- What a call that waits for the provider has read. -/
def ServerState.fetchOf (s : ServerState) (call : ℕ) : Option ReconcileRead :=
  match s.calls call with
  | some (.fetching read) => some read
  | _                     => none

/-- The client has the credentials of a tenant. -/
def ProviderClient.isPool : ProviderClient → Bool
  | .pool .. => true
  | _        => false

/-- A delivery that confirms the payment of an unsettled opportunity is on the route of its tenant,
with a secret of that tenant; a fetch that confirms one is made with the credentials of a tenant; a
settlement of the playground meets no status that the guard lets through. -/
def NamesEvidence (platform : Platform) (env : WebhookEnv) (s : ServerState) :
    ServerAction → Prop
  | .deliver route _ request stamp =>
    ∀ secret ∈ (authenticate platform env s.credentials s.db route request stamp.now).toOption,
      ∀ link ∈ request.link route, ∀ id ∈ resolveLink s.db link,
        ∀ opp ∈ s.db.getOpportunityById id, opp.status ≠ recovered → ConfirmsPayment link.payload →
          opp.tenantId = request.tenantId route ∧
            isConfigured s.credentials (request.tenantId route) secret
  | .reconcileLink caller opportunityId _ _ =>
    (Playground.authenticatePlaygroundTenant caller).isOk → ∀ id ∈ opportunityId,
      ∀ status ∈ s.db.statusOf id, status ∉ [authorized, executing, notRecovered]
  | .system (.engine (.reconcile (.fetched call client (.ok payload)))) =>
    ∀ read ∈ s.fetchOf call, read.opp.status ≠ recovered → ConfirmsPayment payload → client.isPool
  | _ => True

/-- The step names the evidence of the right tenant, and moves no opportunity to another one while a
call about it is in flight. -/
def OnEvidence (platform : Platform) (env : WebhookEnv) (s : ServerState) (a : ServerAction)
    (_ : ServerState) : Prop :=
  NamesEvidence platform env s a ∧
    ∀ ingestion ∈ ingestionOf platform env s a, MovesNoCall s ingestion

instance (s : ServerState) (a : ServerAction) : Decidable (NamesEvidence platform env s a) := by
  unfold NamesEvidence
  split <;> infer_instance

/-! ### One step -/

variable {s t : ServerState} {a : ServerAction}

/-- The calls in flight are about opportunities whose tenant is still the one of their client or of
their delivery, where they plan for a recovery. -/
structure Evidenced (s : ServerState) : Prop where
  fetching : ∀ call read, s.calls call = some (.fetching read) →
    s.db.tenantOf read.opp.id = some read.opp.tenantId
  committing : ∀ call plan, s.calls call = some (.committing plan) →
    plan.targetOpportunityStatus = recovered →
      ∃ tenantId, s.db.tenantOf plan.read.opp.id = some tenantId ∧ plan.source.isOwn tenantId

/-- A plan to recover that is new is made on a payload of the right provider. -/
lemma isOwn_of_callChange {call : ℕ} {plan : SettlementPlan} (hI : Evidenced s)
    (hnames : NamesEvidence platform env s a)
    (hchange : CallChange platform env s call a (.committing plan))
    (hrec : plan.targetOpportunityStatus = recovered) :
    ∃ tenantId, s.db.tenantOf plan.read.opp.id = some tenantId ∧ plan.source.isOwn tenantId := by
  generalize hc : ReconcileCall.committing plan = c at hchange
  cases hchange with
  | @delivered route request stamp source id payload handled =>
    obtain ⟨opp, execRecord, hopp, hplan⟩ := of_reconcileStart_committing hc.symm
    obtain ⟨secret, link, hsecret, hlink, rfl, hresolved, rfl⟩ := of_handle_reconciles handled
    obtain ⟨hunsettled, hread, hsource, -, htarget⟩ := decide_eq_committing hplan
    have haccepted : secret ∈
        (authenticate platform env s.credentials s.db route request stamp.now).toOption := by
      rw [hsecret]
      rfl
    obtain ⟨htenant, hconfigured⟩ := hnames secret haccepted link hlink id hresolved opp hopp
      hunsettled (htarget.mp hrec)
    refine ⟨opp.tenantId, ?_, ?_⟩
    · rw [Db.tenantOf, hread, Db.id_of_getOpportunityById hopp, hopp, Option.map_some]
    · simp [hsource, PayloadSource.isOwn, htenant, hconfigured]
  | started => exact absurd hc.symm reconcileStart_none_ne_committing
  | @fetched read client response fetching own =>
    cases response with
    | error message => cases hc
    | ok payload =>
      obtain ⟨hunsettled, hread, hsource, -, htarget⟩ := decide_eq_committing hc.symm
      have hfetch : s.fetchOf call = some read := by rw [ServerState.fetchOf, fetching]
      have hpool := hnames read hfetch hunsettled (htarget.mp hrec)
      refine ⟨read.opp.tenantId, ?_, ?_⟩
      · rw [hread]
        exact hI.fetching call read fetching
      · rw [hsource]
        simp only [isClientFor, Bool.or_eq_true, beq_iff_eq] at own
        rcases own with (rfl | rfl) | rfl
        · simp [PayloadSource.isOwn]
        · cases hpool
        · cases hpool
  | finished => cases hc

lemma evidenced_step (hI : Evidenced s) (h : serverStep platform env s a = some t)
    (hevidence : OnEvidence platform env s a t) : Evidenced t := by
  obtain ⟨hnames, hmoves⟩ := hevidence
  constructor
  · intro call read hcall
    apply keepsTenant_of_call h hmoves hcall rfl
    rcases callChange_of_serverStep h hcall with hbefore | hchange
    · exact hI.fetching call read hbefore
    · generalize hc : ReconcileCall.fetching read = c at hchange
      cases hchange with
      | @delivered route request stamp source id payload handled =>
        rw [reconcileStart] at hc
        split at hc
        · cases hc
        · exact absurd hc.symm decide_ne_fetching
      | started =>
        have hopp := of_reconcileStart_none hc.symm
        rw [Db.tenantOf, Db.id_of_getOpportunityById hopp, hopp, Option.map_some]
      | @fetched read' client response fetching own =>
        cases response with
        | error message => cases hc
        | ok payload => exact absurd hc.symm decide_ne_fetching
      | finished => cases hc
  · intro call plan hcall hrec
    have hown : ∃ tenantId, s.db.tenantOf plan.read.opp.id = some tenantId ∧
        plan.source.isOwn tenantId := by
      rcases callChange_of_serverStep h hcall with hbefore | hchange
      · exact hI.committing call plan hbefore hrec
      · exact isOwn_of_callChange hI hnames hchange hrec
    obtain ⟨tenantId, htenant, hsource⟩ := hown
    exact ⟨tenantId, keepsTenant_of_call h hmoves hcall rfl htenant, hsource⟩

lemma recoversOnEvidence_step (hI : Evidenced s) (h : serverStep platform env s a = some t)
    (hevidence : OnEvidence platform env s a t) : RecoversOnEvidence s a t := by
  intro id hbefore hafter
  have hchange := dbChange_of_serverStep h
  generalize t.db = db at hchange hafter
  have hnone : NoNewRecovery s.db db → ∃ plan tenantId, serverCommits s a = some plan ∧
      plan.read.opp.id = id ∧ s.db.tenantOf id = some tenantId ∧ plan.source.isOwn tenantId :=
    fun hno => absurd (hno id hafter) hbefore
  cases hchange with
  | same =>
    apply hnone
    exact fun _ hid => hid
  | ingested ingests =>
    apply hnone
    exact .ingest s.db _
  | settled =>
    apply hnone
    exact .reconcileLink hevidence.1
  | @committed call plan ids fault message planned =>
    obtain ⟨hid, hrec⟩ := of_recovers_reconcileCommit hbefore hafter
    obtain ⟨tenantId, htenant, hsource⟩ := hI.committing call plan planned hrec
    have hcommits : serverCommits s
        (.system (.engine (.reconcile (.commit call ids fault message)))) = some plan := by
      simp only [serverCommits, committingPlan, committing, committedPlan, planned]
    exact ⟨plan, tenantId, hcommits, hid, hid ▸ htenant, hsource⟩
  | worked _ writes =>
    apply hnone
    exact .of_keepsRecoveries (.of_rowWrites writes)

/-! ### Runs -/

/-- In every run from an idle server whose steps name the evidence of the right tenant, an
opportunity becomes recovered only by the transaction of a payload that comes from the provider of
its tenant. -/
theorem recoversOnEvidence_of_onEvidence (platform : Platform) (env : WebhookEnv) (db : Db)
    (credentials : Credentials) (as : List ServerAction)
    (h : AllSteps (serverStep platform env) (OnEvidence platform env) (.idle db credentials) as) :
    AllSteps (serverStep platform env) RecoversOnEvidence (.idle db credentials) as := by
  refine AllSteps.of_invariant (I := Evidenced) ?_ ?_ ?_ h
  · exact fun s a t hI h hevidence => evidenced_step hI h hevidence
  · exact fun s a t hI h hevidence => recoversOnEvidence_step hI h hevidence
  · constructor
    · intro call read hcall
      cases hcall
    · intro call plan hcall
      cases hcall

/-- One tenant delivers the payment of its link, the payment of the other is fetched with the
credentials of that tenant, and a visitor of the playground names no opportunity. -/
def ownEvidence : List ServerAction :=
  ownDelivery ++
    [.system (.engine (.reconcile (.start 1 "pay_1" none 6000))),
      .system (.engine (.reconcile (.fetched 1 (.pool "tenant_a" .test) (.ok paidLink)))),
      .system (.engine (.reconcile (.commit 1 (raceIds 1) none ""))),
      .reconcileLink .visitor (some "pay_3") "led_rec_pg_1" 7000]

theorem recoversOnEvidence_ownEvidence :
    AllSteps (serverStep .plain testEnv) RecoversOnEvidence (.idle twoTenants twoCredentials)
      ownEvidence := by
  have hnames : AllSteps (serverStep .plain testEnv)
      (fun s a _ => NamesEvidence .plain testEnv s a ∧ ingestionOf .plain testEnv s a = none)
      (.idle twoTenants twoCredentials) ownEvidence := by
    decide +kernel
  apply recoversOnEvidence_of_onEvidence
  refine hnames.mono fun s a t _ hnames => ⟨hnames.1, ?_⟩
  intro ingestion hingestion
  rw [hnames.2] at hingestion
  cases hingestion

/-- A visitor of the playground, without a role that may do so, recovers an opportunity that is
being executed for some tenant. -/
theorem visitor_recovers :
    ¬ ∀ platform env db credentials as,
      AllSteps (serverStep platform env) RecoversOnEvidence (.idle db credentials) as := by
  intro h
  have hstep := (h .plain testEnv twoTenants twoCredentials
    [.reconcileLink .visitor (some "pay_1") "led_rec_pg_1" 5000] _ rfl).1
  obtain ⟨plan, tenantId, hplan, -⟩ := hstep "pay_1" (by decide +kernel) (by decide +kernel)
  cases hplan

end CtrlRecovery
