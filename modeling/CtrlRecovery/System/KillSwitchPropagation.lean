import CtrlRecovery.System.EmergencyStop

/-!
# Kill switches of several processes

The server and any number of workers work on one database, and each holds the kill switches in its
own memory: a process starts with all of them released, nothing passes them on, and the flag of a
tenant's row is read by no rule.

Seen from the operators there is one set of switches, engaged and released in any process. That the
gate of every process blocks what is stopped holds throughout a run exactly when no process starts
while something is stopped, no engagement finds another process without the switch, and no release
takes from a process the only switch that it holds for a tenant that stays stopped
(`blocksStopped_always_iff`).
-/

namespace CtrlRecovery

open Core OpportunityStatus Authority AuthorityRuleRegistry

namespace KillSwitchPropagation

/-! ### Processes -/

/-- What an operator asks one process for. -/
inductive SwitchOrder
  | setKillSwitch (enabled : Bool)
  | setTenantKillSwitch (tenantId : String) (enabled : Bool)
  | setProviderKillSwitch (provider : String) (enabled : Bool)
  | resetAllKillSwitches

def SwitchOrder.apply (ks : KillSwitches) : SwitchOrder → KillSwitches
  | .setKillSwitch enabled                   => ks.setKillSwitch enabled
  | .setTenantKillSwitch tenantId enabled    => ks.setTenantKillSwitch tenantId enabled
  | .setProviderKillSwitch provider enabled  => ks.setProviderKillSwitch provider enabled
  | .resetAllKillSwitches                    => .off

/-- The processes with the database that they share. `flagged` is the column `kill_switch_active` of
the tenants; `ordered` are the switches that have been engaged, wherever that was, and not been
released since. -/
structure FleetState where
  db : Db
  processes : ℕ → Option EngineState
  flagged : String → Bool
  ordered : KillSwitches

inductive FleetAction
  | start (process : ℕ)
  | stop (process : ℕ)
  | order (process : ℕ) (order : SwitchOrder)
  | flag (tenantId : String) (active : Bool)
  | system (process : ℕ) (action : SystemAction)

/-- The step sets the switches of its process, which here only orders do. -/
def setsSwitches : SystemAction → Bool
  | .engine (.setKillSwitches _) => true
  | _                            => false

/-- A process starts or ends, an order or a flag is given, or a process takes a step of the system
on the shared database. -/
def fleetStep (platform : Platform) (s : FleetState) : FleetAction → Option FleetState
  | .start p             =>
    match s.processes p with
    | none   => some { s with processes := Function.update s.processes p (some (.idle s.db)) }
    | some _ => none
  | .stop p              => some { s with processes := Function.update s.processes p none }
  | .order p order       =>
    (s.processes p).map fun process =>
      { s with
        processes := Function.update s.processes p
          (some { process with killSwitches := order.apply process.killSwitches })
        ordered := order.apply s.ordered }
  | .flag tenantId active =>
    some { s with flagged := Function.update s.flagged tenantId active }
  | .system p action     =>
    if setsSwitches action then none
    else
      (s.processes p).bind fun process =>
        (systemStep platform { process with db := s.db } action).map fun t =>
          { s with db := t.db, processes := Function.update s.processes p (some t) }

/-- No process runs, and nothing is stopped. -/
def FleetState.down (db : Db) : FleetState where
  db := db
  processes := fun _ => none
  flagged := fun _ => false
  ordered := .off

/-! ### What is stopped -/

/-- A switch for the tenant has been engaged and not released, or its row is flagged. -/
def FleetState.Stopped (s : FleetState) (tenantId : String) : Prop :=
  s.ordered.isKillSwitchActive tenantId "" ∨ s.flagged tenantId

/-- The gate of every process blocks every opportunity of a stopped tenant. -/
def BlocksStopped (s : FleetState) : Prop :=
  ∀ p, ∀ process ∈ s.processes p, ∀ est now opp decision score, s.Stopped opp.tenantId →
    (evaluateOpportunity process.killSwitches est now s.db opp decision score).1.verdict = .blocked

/-- Every process holds a switch for every stopped tenant. -/
def Informed (s : FleetState) : Prop :=
  ∀ p, ∀ process ∈ s.processes p, ∀ tenantId, s.Stopped tenantId →
    process.killSwitches.isKillSwitchActive tenantId ""

/-- No process starts while a tenant is stopped; what is engaged in one process, or flagged, every
other one holds already; and a release leaves its process a switch for what stays stopped. -/
def KeepsInformed (s : FleetState) : FleetAction → Prop
  | .start _ => ∀ tenantId, ¬ s.Stopped tenantId
  | .order p (.setKillSwitch true) =>
    ∀ q ≠ p, ∀ process ∈ s.processes q, process.killSwitches.isGlobalKillSwitchActive
  | .order p (.setKillSwitch false) =>
    ∀ process ∈ s.processes p, ∀ tenantId,
      (tenantId ≠ "" ∧ tenantId ∈ s.ordered.tenantKillSwitches) ∨ s.flagged tenantId →
      tenantId ≠ "" ∧ tenantId ∈ process.killSwitches.tenantKillSwitches
  | .order p (.setTenantKillSwitch tenantId true) =>
    tenantId ≠ "" → ∀ q ≠ p, ∀ process ∈ s.processes q,
      process.killSwitches.isKillSwitchActive tenantId ""
  | .order p (.setTenantKillSwitch tenantId false) =>
    s.flagged tenantId → ∀ process ∈ s.processes p, process.killSwitches.isGlobalKillSwitchActive
  | .order _ .resetAllKillSwitches => ∀ tenantId, ¬ s.flagged tenantId
  | .flag tenantId true =>
    ∀ p, ∀ process ∈ s.processes p, process.killSwitches.isKillSwitchActive tenantId ""
  | _ => True

/-! ### The gate of one process -/

section Gate

variable {ks : KillSwitches} {est : Estimator} {now : Timestamp} {db : Db}
  {opp : RecoveryOpportunity} {decision : Option AllocationDecision} {score : Option Score}

lemma evaluateOpportunity_blocked_iff :
    (evaluateOpportunity ks est now db opp decision score).1.verdict = .blocked ↔
      ks.isKillSwitchActive opp.tenantId "" ∨ opp.declineType = .hard ∨ 3 ≤ opp.attemptCount := by
  simp only [evaluateOpportunity, evaluateRules]
  rw [verdict_eq_blocked_iff rfl]

end Gate

variable {platform : Platform} {s t : FleetState}

/-- The gates block what is stopped exactly when the switches in the memories say so. -/
lemma blocksStopped_iff : BlocksStopped s ↔ Informed s := by
  constructor
  · intro h p process hprocess tenantId hstopped
    -- a payment that no other rule blocks
    have hblocked := h p process hprocess .sample 0
      { sampleOpportunity "opp_1" .pending with tenantId := tenantId } none none hstopped
    rw [evaluateOpportunity_blocked_iff] at hblocked
    simpa [sampleOpportunity] using hblocked
  · intro h p process hprocess est now opp decision score hstopped
    rw [evaluateOpportunity_blocked_iff]
    exact .inl (h p process hprocess opp.tenantId hstopped)

/-! ### Orders -/

section Orders

variable {p : ℕ} {process : EngineState} {order : SwitchOrder}

/-- What an order leaves stopped. -/
def StoppedAfter (s : FleetState) (order : SwitchOrder) (tenantId : String) : Prop :=
  (order.apply s.ordered).isKillSwitchActive tenantId "" ∨ s.flagged tenantId

lemma informed_order_iff (hprocess : s.processes p = some process)
    (h : fleetStep platform s (.order p order) = some t) :
    Informed t ↔
      (∀ tenantId, StoppedAfter s order tenantId →
        (order.apply process.killSwitches).isKillSwitchActive tenantId "") ∧
      ∀ q ≠ p, ∀ process ∈ s.processes q, ∀ tenantId, StoppedAfter s order tenantId →
        process.killSwitches.isKillSwitchActive tenantId "" := by
  simp only [fleetStep, hprocess, Option.map_some, Option.some.injEq] at h
  rw [← h]
  constructor
  · intro hI
    refine ⟨hI p _ (Function.update_self ..), fun q hq process' hprocess' => ?_⟩
    exact hI q process' ((Function.update_of_ne hq ..).trans hprocess')
  · rintro ⟨hself, hothers⟩ q process' hprocess'
    by_cases hq : q = p
    · rw [hq] at hprocess'
      obtain rfl := Option.mem_unique hprocess' (Function.update_self ..)
      exact hself
    · exact hothers q hq process' ((Function.update_of_ne hq ..).symm.trans hprocess')

lemma informed_order_iff_of_release (hI : Informed s) (hprocess : s.processes p = some process)
    (h : fleetStep platform s (.order p order) = some t)
    (hless : ∀ tenantId, StoppedAfter s order tenantId → s.Stopped tenantId) :
    Informed t ↔ ∀ tenantId, StoppedAfter s order tenantId →
      (order.apply process.killSwitches).isKillSwitchActive tenantId "" := by
  rw [informed_order_iff hprocess h]
  refine and_iff_left fun q hq process' hprocess' tenantId hstopped => ?_
  exact hI q process' hprocess' tenantId (hless tenantId hstopped)

lemma isKillSwitchActive_empty {ks : KillSwitches} :
    ks.isKillSwitchActive "" "" ↔ ks.isGlobalKillSwitchActive := by
  simp [KillSwitches.isKillSwitchActive_iff]

lemma informed_engage_iff (hprocess : s.processes p = some process)
    (h : fleetStep platform s (.order p (.setKillSwitch true)) = some t) :
    Informed t ↔ KeepsInformed s (.order p (.setKillSwitch true)) := by
  have hall : ∀ ks tenantId, ((SwitchOrder.setKillSwitch true).apply ks).isKillSwitchActive
      tenantId "" := fun _ _ => KillSwitches.isKillSwitchActive_iff.mpr (.inl rfl)
  rw [informed_order_iff hprocess h]
  constructor
  · rintro ⟨-, hothers⟩ q hq process' hprocess'
    exact isKillSwitchActive_empty.mp (hothers q hq process' hprocess' "" (.inl (hall _ _)))
  · intro hothers
    refine ⟨fun tenantId _ => hall _ _, fun q hq process' hprocess' tenantId _ => ?_⟩
    exact KillSwitches.isKillSwitchActive_iff.mpr (.inl (hothers q hq process' hprocess'))

lemma informed_release_iff (hI : Informed s) (hprocess : s.processes p = some process)
    (h : fleetStep platform s (.order p (.setKillSwitch false)) = some t) :
    Informed t ↔ KeepsInformed s (.order p (.setKillSwitch false)) := by
  have hreleased : ∀ ks tenantId, ((SwitchOrder.setKillSwitch false).apply ks).isKillSwitchActive
      tenantId "" ↔ tenantId ≠ "" ∧ tenantId ∈ ks.tenantKillSwitches := by
    intro ks tenantId
    simp [KillSwitches.isKillSwitchActive_iff, SwitchOrder.apply, KillSwitches.setKillSwitch]
  rw [informed_order_iff_of_release hI hprocess h]
  · simp only [StoppedAfter, hreleased, KeepsInformed, hprocess, Option.mem_some_iff, forall_eq']
  · rintro tenantId (hordered | hflagged)
    · exact .inl (KillSwitches.isKillSwitchActive_iff.mpr (.inr ((hreleased _ _).mp hordered)))
    · exact .inr hflagged

lemma isKillSwitchActive_engageTenant {ks : KillSwitches} {name tenantId : String} :
    ((SwitchOrder.setTenantKillSwitch name true).apply ks).isKillSwitchActive tenantId "" ↔
      ks.isKillSwitchActive tenantId "" ∨ tenantId ≠ "" ∧ tenantId = name := by
  simp only [SwitchOrder.apply, KillSwitches.setTenantKillSwitch, KillSwitches.isKillSwitchActive_iff,
    KillSwitches.mem_setIn]
  split_ifs with hname <;> simp [hname]
  tauto

lemma isKillSwitchActive_releaseTenant {ks : KillSwitches} {name tenantId : String} :
    ((SwitchOrder.setTenantKillSwitch name false).apply ks).isKillSwitchActive tenantId "" ↔
      if tenantId = name then ks.isGlobalKillSwitchActive = true
      else ks.isKillSwitchActive tenantId "" := by
  simp only [SwitchOrder.apply, KillSwitches.setTenantKillSwitch, KillSwitches.isKillSwitchActive_iff,
    KillSwitches.mem_setIn]
  split_ifs with hname <;> simp

lemma informed_engageTenant_iff {name : String} (hI : Informed s)
    (hprocess : s.processes p = some process)
    (h : fleetStep platform s (.order p (.setTenantKillSwitch name true)) = some t) :
    Informed t ↔ KeepsInformed s (.order p (.setTenantKillSwitch name true)) := by
  rw [informed_order_iff hprocess h]
  simp only [StoppedAfter, isKillSwitchActive_engageTenant]
  constructor
  · rintro ⟨-, hothers⟩ hname q hq process' hprocess'
    exact hothers q hq process' hprocess' name (.inl (.inr ⟨hname, rfl⟩))
  · intro hothers
    constructor
    · rintro tenantId ((hordered | hname) | hflagged)
      · exact .inl (hI p process hprocess tenantId (.inl hordered))
      · exact .inr hname
      · exact .inl (hI p process hprocess tenantId (.inr hflagged))
    · rintro q hq process' hprocess' tenantId ((hordered | ⟨hne, rfl⟩) | hflagged)
      · exact hI q process' hprocess' tenantId (.inl hordered)
      · exact hothers hne q hq process' hprocess'
      · exact hI q process' hprocess' tenantId (.inr hflagged)

lemma informed_releaseTenant_iff {name : String} (hI : Informed s)
    (hprocess : s.processes p = some process)
    (h : fleetStep platform s (.order p (.setTenantKillSwitch name false)) = some t) :
    Informed t ↔ KeepsInformed s (.order p (.setTenantKillSwitch name false)) := by
  have hless : ∀ tenantId, StoppedAfter s (.setTenantKillSwitch name false) tenantId →
      s.Stopped tenantId := by
    rintro tenantId (hordered | hflagged)
    · rw [isKillSwitchActive_releaseTenant] at hordered
      split_ifs at hordered
      · exact .inl (KillSwitches.isKillSwitchActive_iff.mpr (.inl hordered))
      · exact .inl hordered
    · exact .inr hflagged
  rw [informed_order_iff_of_release hI hprocess h hless]
  simp only [KeepsInformed, hprocess, Option.mem_some_iff, forall_eq']
  constructor
  · intro hself hflagged
    have hname := hself name (.inr hflagged)
    rwa [isKillSwitchActive_releaseTenant, if_pos rfl] at hname
  · intro hflag tenantId hstopped
    rw [isKillSwitchActive_releaseTenant]
    split_ifs with hname
    · rw [hname] at hstopped
      rcases hstopped with hordered | hflagged
      · -- only the global switch can still stop the released tenant, and the process holds it
        rw [isKillSwitchActive_releaseTenant, if_pos rfl] at hordered
        have hglobal : s.Stopped "" := .inl (isKillSwitchActive_empty.mpr hordered)
        exact isKillSwitchActive_empty.mp (hI p process hprocess "" hglobal)
      · exact hflag hflagged
    · exact hI p process hprocess tenantId (hless tenantId hstopped)

lemma informed_setProvider_iff {provider : String} {enabled : Bool} (hI : Informed s)
    (hprocess : s.processes p = some process)
    (h : fleetStep platform s (.order p (.setProviderKillSwitch provider enabled)) = some t) :
    Informed t ↔ KeepsInformed s (.order p (.setProviderKillSwitch provider enabled)) := by
  have hsame : ∀ ks tenantId, ((SwitchOrder.setProviderKillSwitch provider enabled).apply
      ks).isKillSwitchActive tenantId "" = ks.isKillSwitchActive tenantId "" := fun _ _ => rfl
  rw [informed_order_iff_of_release hI hprocess h]
  · simp only [StoppedAfter, hsame, KeepsInformed, iff_true]
    exact hI p process hprocess
  · intro tenantId hstopped
    rwa [StoppedAfter, hsame] at hstopped

lemma informed_reset_iff (hI : Informed s) (hprocess : s.processes p = some process)
    (h : fleetStep platform s (.order p .resetAllKillSwitches) = some t) :
    Informed t ↔ KeepsInformed s (.order p .resetAllKillSwitches) := by
  rw [informed_order_iff_of_release hI hprocess h]
  · simp [StoppedAfter, SwitchOrder.apply, KeepsInformed]
  · rintro tenantId (hordered | hflagged)
    · simp [SwitchOrder.apply] at hordered
    · exact .inr hflagged

end Orders

/-! ### Steps -/

lemma informed_flag_iff {tenantId : String} {active : Bool} (hI : Informed s)
    (h : fleetStep platform s (.flag tenantId active) = some t) :
    Informed t ↔ KeepsInformed s (.flag tenantId active) := by
  cases h
  have hflagged : ∀ j, FleetState.Stopped
      { s with flagged := Function.update s.flagged tenantId active } j ↔
      s.ordered.isKillSwitchActive j "" ∨
        if j = tenantId then active = true else s.flagged j = true := by
    intro j
    rw [FleetState.Stopped]
    dsimp only
    rw [Function.update_apply]
    split_ifs <;> rfl
  cases active with
  | true =>
    constructor
    · intro hI' p process hprocess
      exact hI' p process hprocess tenantId ((hflagged tenantId).mpr (.inr (by simp)))
    · intro hholds p process hprocess j hj
      rw [hflagged] at hj
      split_ifs at hj with hne
      · rw [hne]
        exact hholds p process hprocess
      · exact hI p process hprocess j hj
  | false =>
    refine iff_of_true (fun p process hprocess j hj => ?_) trivial
    rw [hflagged] at hj
    split_ifs at hj with hne
    · exact hI p process hprocess j (.inl (hj.resolve_right id))
    · exact hI p process hprocess j hj

lemma informed_start_iff {p : ℕ} (h : fleetStep platform s (.start p) = some t) :
    Informed t ↔ KeepsInformed s (.start p) := by
  simp only [fleetStep] at h
  split at h
  next =>
    cases h
    constructor
    · intro hI' tenantId hstopped
      have hactive := hI' p _ (Function.update_self ..) tenantId hstopped
      simp [EngineState.idle] at hactive
    · intro hnone q process hprocess tenantId hstopped
      exact absurd hstopped (hnone tenantId)
  next => cases h

lemma informed_system {p : ℕ} {action : SystemAction} (hI : Informed s)
    (h : fleetStep platform s (.system p action) = some t) : Informed t := by
  simp only [fleetStep] at h
  split_ifs at h with hset
  obtain ⟨process, hprocess, h⟩ := Option.bind_eq_some_iff.mp h
  obtain ⟨next, hnext, rfl⟩ := Option.map_eq_some_iff.mp h
  have hswitches : next.killSwitches = process.killSwitches := by
    apply EmergencyStop.killSwitches_step hnext
    intro ks hks
    rw [hks] at hset
    exact hset rfl
  intro q process' hprocess' tenantId hstopped
  by_cases hq : q = p
  · rw [hq] at hprocess'
    obtain rfl := Option.mem_unique hprocess' (Function.update_self ..)
    rw [hswitches]
    exact hI p process hprocess tenantId hstopped
  · exact hI q process' ((Function.update_of_ne hq ..).symm.trans hprocess') tenantId hstopped

/-- One step, for each kind of action. -/
lemma informed_step_iff {action : FleetAction} (hI : Informed s)
    (h : fleetStep platform s action = some t) : Informed t ↔ KeepsInformed s action := by
  cases action with
  | start p => exact informed_start_iff h
  | stop p =>
    cases h
    refine iff_of_true (fun q process hprocess tenantId hstopped => ?_) trivial
    change process ∈ Function.update s.processes p none q at hprocess
    rw [Function.update_apply] at hprocess
    split_ifs at hprocess
    · cases hprocess
    · exact hI q process hprocess tenantId hstopped
  | order p order =>
    obtain ⟨process, hprocess, -⟩ := Option.map_eq_some_iff.mp h
    cases order with
    | setKillSwitch enabled =>
      cases enabled with
      | true => exact informed_engage_iff hprocess h
      | false => exact informed_release_iff hI hprocess h
    | setTenantKillSwitch name enabled =>
      cases enabled with
      | true => exact informed_engageTenant_iff hI hprocess h
      | false => exact informed_releaseTenant_iff hI hprocess h
    | setProviderKillSwitch provider enabled => exact informed_setProvider_iff hI hprocess h
    | resetAllKillSwitches => exact informed_reset_iff hI hprocess h
  | flag tenantId active => exact informed_flag_iff hI h
  | system p action => exact iff_of_true (informed_system hI h) trivial

/-- What is stopped is blocked by the gate of every process, in every state of a run, exactly when it
is at the start and every step keeps the processes informed. -/
theorem blocksStopped_always_iff {actions : List FleetAction} :
    (∀ pre rest t, actions = pre ++ rest → Run (fleetStep platform) s pre t → BlocksStopped t) ↔
      BlocksStopped s ∧
        AllSteps (fleetStep platform) (fun s action _ => KeepsInformed s action) s actions := by
  apply always_iff_allSteps
  intro s action t hI hstep
  rw [blocksStopped_iff] at hI ⊢
  exact informed_step_iff hI hstep

/-! ### A stop that one process keeps to itself -/

/-- The server and a worker start, and an operator engages the global switch of the server. -/
def stopServer : List FleetAction := [.start 0, .start 1, .order 0 (.setKillSwitch true)]

/-- The answer of a process for an allocated payment. -/
def sampleAnswer (s : FleetState) (process : EngineState) : AuthorityEvaluationResult :=
  (evaluateOpportunity process.killSwitches .sample 0 s.db (sampleOpportunity "opp_1" allocated)
    (some { unallocated "opp_1" "" with decision := .act }) none).1

/-- The worker authorizes what the server would block. -/
theorem worker_not_stopped :
    ¬ ∀ (platform : Platform) (db : Db) (actions : List FleetAction) (t : FleetState),
      Run (fleetStep platform) (.down db) actions t → BlocksStopped t := by
  intro h
  obtain ⟨t, hrun, hworker⟩ := exists_run_of_execute (fleetStep .plain) (.down .empty) stopServer
    (fun t => t.ordered.isKillSwitchActive "tenant_a" "" &&
      (t.processes 1).any fun process => (sampleAnswer t process).verdict == .authorized)
    (by decide +kernel)
  obtain ⟨hstopped, hauthorized⟩ := Bool.and_eq_true_iff.mp hworker
  obtain ⟨process, hprocess, hverdict⟩ := (Option.any_eq_true _ _).mp hauthorized
  have hblocked : (sampleAnswer t process).verdict = .blocked :=
    h .plain .empty stopServer t hrun 1 process hprocess .sample 0 _ _ none (.inl hstopped)
  rw [hblocked] at hverdict
  cases hverdict

end KillSwitchPropagation

end CtrlRecovery
