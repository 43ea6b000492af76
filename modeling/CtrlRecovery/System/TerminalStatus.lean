import CtrlRecovery.Domain.StatusWriters
import CtrlRecovery.Execution.Idempotency
import CtrlRecovery.System.RecoverySystem

/-!
# Executions of settled and vetoed opportunities

The executor does not look at the status of an opportunity. Whether a call leaves a recovered or
blocked one alone is decided by what it does look at: the gate, which asks the kill switches, the
decline, the attempts, the score and the stored decision of the moment, the stored link, and the
ceiling for live links (`start_leavesAlone_iff`).
-/

namespace CtrlRecovery

open Core OpportunityStatus Executor

/-! ### What a call can still do -/

namespace Executor

/-- The call is waiting for the provider to create a link. -/
def IsCreating : ExecuteCall → Prop
  | .creating .. => True
  | _            => False

/-- The calls that a call can become, whatever answers it gets and whatever databases it gets them
on. -/
inductive Continues : ExecuteCall → ExecuteCall → Prop
  | refl (c : ExecuteCall) : Continues c c
  | answer {c c' c'' : ExecuteCall} {answer : ExecuteAnswer} {now : Timestamp} {entryId : String}
      {db db' : Db} : Continues c c' → advance answer now entryId db c' = some (c'', db') →
      Continues c c''

/-- The call never asks the provider for a link and never stores an execution record. -/
def LeavesAlone (c : ExecuteCall) : Prop :=
  ∀ c', Continues c c' → ¬ IsCreating c' ∧
    ∀ (answer : ExecuteAnswer) (now : Timestamp) (entryId : String) (db : Db) (p : ExecuteCall × Db),
      advance answer now entryId db c' = some p → p.2.executionRecords = db.executionRecords

variable {ks : KillSwitches} {est : Estimator} {now : Timestamp} {db : Db} {id : String}
  {opp : RecoveryOpportunity} {run : ExecutionRun} {c : ExecuteCall}

lemma leavesAlone_finished (result : Except String SingleExecutionResult) :
    LeavesAlone (.finished result) := by
  intro c' hc'
  have hstays : c' = .finished result := by
    induction hc' with
    | refl => rfl
    | answer _ hadvance ih =>
      rw [ih] at hadvance
      cases hadvance
  rw [hstays]
  exact ⟨id, fun _ _ _ _ _ hadvance => by cases hadvance⟩

/-- A payment above the ceiling for live links. -/
def ExceedsCeiling (run : ExecutionRun) : Prop :=
  run.executionEnv = .live ∧ run.opp.amountPaise > MAX_LIVE_SINGLE_OPPORTUNITY_PAISE

instance : Decidable (ExceedsCeiling run) := inferInstanceAs (Decidable (_ ∧ _))

lemma clientResolved_of_exceedsCeiling (h : ExceedsCeiling run)
    (client : Except String ProviderClient) (breakerOpen : Bool) (entryId : String) :
    ∃ message, clientResolved run client breakerOpen now entryId db =
      (.finished (.error message), db) := by
  cases client with
  | ok client =>
    rw [clientResolved, launch]
    exact ⟨_, if_pos h⟩
  | error message =>
    rw [clientResolved, if_pos h.1]
    exact ⟨_, rfl⟩

lemma leavesAlone_resolvingClient_iff :
    LeavesAlone (.resolvingClient run) ↔ ExceedsCeiling run := by
  constructor
  · intro h
    by_contra hceiling
    -- the pool answers with a client and the breaker is closed
    have hcreating : advance (.client (.ok .rzpClient) false) 0 "" .empty (.resolvingClient run) =
        some (.creating run .rzpClient 1, .empty) := by
      rw [advance, clientResolved, launch]
      exact congrArg some ((if_neg hceiling).trans (if_neg Bool.false_ne_true))
    exact (h _ (.answer (.refl _) hcreating)).1 trivial
  · intro hceiling c' hc'
    have hreached : c' = .resolvingClient run ∨ ∃ result, c' = .finished result := by
      induction hc' with
      | refl => exact .inl rfl
      | @answer _ _ answer _ _ _ _ _ hadvance ih =>
        rcases ih with rfl | ⟨result, rfl⟩
        · cases answer with
          | client client breakerOpen =>
            obtain ⟨message, hend⟩ := clientResolved_of_exceedsCeiling hceiling client breakerOpen _
            rw [advance, hend] at hadvance
            cases hadvance
            exact .inr ⟨_, rfl⟩
          | _ => cases hadvance
        · cases hadvance
    rcases hreached with rfl | ⟨result, rfl⟩
    · refine ⟨id, fun answer now entryId db p hadvance => ?_⟩
      cases answer with
      | client client breakerOpen =>
        obtain ⟨message, hend⟩ := clientResolved_of_exceedsCeiling hceiling client breakerOpen _
        rw [advance, hend] at hadvance
        cases hadvance
        rfl
      | _ => cases hadvance
    · exact leavesAlone_finished result _ (.refl _)

/-- The gate holds the opportunity back, a link of it is stored, or it exceeds the ceiling. -/
def Shielded (ks : KillSwitches) (est : Estimator) (db : Db) (opp : RecoveryOpportunity) : Prop :=
  ¬ IsCleared ks est db opp ∨ (db.getExecutionRecordByOpportunityId opp.id).isSome ∨
    ExceedsCeiling ⟨opp, executionEnv db opp⟩

instance : Decidable (Shielded ks est db opp) := inferInstanceAs (Decidable (_ ∨ _))

/-- A call on an opportunity neither asks the provider for a link nor stores an execution record
exactly when the opportunity is shielded. -/
theorem start_leavesAlone_iff (now : Timestamp) (h : db.getOpportunityById id = some opp) :
    LeavesAlone (start ks est now db id).1 ↔ Shielded ks est db opp := by
  have hid : opp.id = id := Db.id_of_getOpportunityById h
  by_cases hclear : IsCleared ks est db opp
  · cases hrecord : db.getExecutionRecordByOpportunityId id with
    | some record =>
      rw [start_of_record h hclear hrecord, Shielded, hid, hrecord]
      simp [success, leavesAlone_finished]
    | none =>
      rw [start_of_no_record h hclear hrecord, leavesAlone_resolvingClient_iff,
        executionEnv_evaluateStored h, Shielded, hid, hrecord]
      simp [hclear]
  · rw [start_of_not_cleared h hclear, Shielded]
    simp [hclear, leavesAlone_finished]

end Executor

/-! ### Runs -/

/-- A recovered or blocked opportunity. -/
def IsTerminal (opp : RecoveryOpportunity) : Prop := opp.status = recovered ∨ opp.status = blocked

instance (opp : RecoveryOpportunity) : Decidable (IsTerminal opp) :=
  inferInstanceAs (Decidable (_ ∨ _))

/-- Every call of `executeOpportunity` in the run that starts on a terminal opportunity stores no
execution record when it starts, and leaves the opportunity alone from then on. -/
def LeavesTerminalAlone (platform : Platform) (s : EngineState) (as : List SystemAction) : Prop :=
  ∀ pre call est now id replay rest t u,
    as = pre ++ .engine (.execute call est now id replay) :: rest →
    Run (systemStep platform) s pre t →
    systemStep platform t (.engine (.execute call est now id replay)) = some u →
    (∃ opp ∈ t.db.getOpportunityById id, IsTerminal opp) →
      u.db.executionRecords = t.db.executionRecords ∧
        ∃ execution ∈ u.executions call, LeavesAlone execution.call

/-- A call starts on a terminal opportunity only if it is shielded. -/
def ExecutesShielded (s : EngineState) (a : SystemAction) (_ : EngineState) : Prop :=
  match a with
  | .engine (.execute _ est _ id _) =>
    ∀ opp ∈ s.db.getOpportunityById id, IsTerminal opp → Shielded s.killSwitches est s.db opp
  | _ => True

instance (s : EngineState) (a : SystemAction) (t : EngineState) :
    Decidable (ExecutesShielded s a t) := by
  unfold ExecutesShielded
  split <;> infer_instance

variable {platform : Platform} {s t u : EngineState} {as : List SystemAction}

lemma systemStep_execute {call : ℕ} {est : Estimator} {now : Timestamp} {id : String} {replay : Bool}
    (h : systemStep platform t (.engine (.execute call est now id replay)) = some u) :
    u.db.executionRecords = t.db.executionRecords ∧
      ∃ execution ∈ u.executions call,
        execution.call = (start t.killSwitches est now t.db id).1 := by
  change engineStep platform t (.execute call est now id replay) = some u at h
  obtain ⟨hdb, -, hexecutions⟩ := engineStep_execute h
  rw [hdb, hexecutions]
  exact ⟨sameBooks_start.executionRecords, _, Function.update_self .., rfl⟩

lemma LeavesTerminalAlone.allSteps (h : LeavesTerminalAlone platform s as) :
    AllSteps (systemStep platform) ExecutesShielded s as := by
  apply allSteps_of_forall
  intro pre a rest t u has hpre hstep
  unfold ExecutesShielded
  split
  next call est now id replay =>
    intro opp hopp hterminal
    obtain ⟨-, execution, hexecution, halone⟩ :=
      h pre call est now id replay rest t u has hpre hstep ⟨opp, hopp, hterminal⟩
    obtain ⟨-, started, hstarted, hcall⟩ := systemStep_execute hstep
    rw [Option.mem_unique hexecution hstarted, hcall] at halone
    exact (start_leavesAlone_iff now hopp).mp halone
  next => trivial

/-- The calls of a run leave the recovered and blocked opportunities alone exactly when they start
on shielded ones only. -/
theorem leavesTerminalAlone_iff (platform : Platform) (s : EngineState) (as : List SystemAction) :
    LeavesTerminalAlone platform s as ↔
      AllSteps (systemStep platform) ExecutesShielded s as := by
  refine ⟨LeavesTerminalAlone.allSteps, ?_⟩
  rintro hall pre call est now id replay rest t u rfl hpre hstep ⟨opp, hopp, hterminal⟩
  have hshielded : Shielded t.killSwitches est t.db opp :=
    hall.at_step hpre hstep opp hopp hterminal
  obtain ⟨hrecords, execution, hexecution, hcall⟩ := systemStep_execute hstep
  refine ⟨hrecords, execution, hexecution, ?_⟩
  rw [hcall]
  exact (start_leavesAlone_iff now hopp).mpr hshielded

/-! ### A veto that is forgotten -/

/-- An allocated payment is vetoed by the kill switch of its tenant, and executed once the switch is
released. -/
def vetoThenExecute : List SystemAction :=
  [.ingest (.queued "tenant_a" (failedEvent "evt_1" "pay_1") 0 1000 "led_1"),
    .engine (.allocate .sample ⟨some 1, none, none⟩),
    .engine (.setKillSwitches (KillSwitches.off.setTenantKillSwitch "tenant_a" true)),
    .engine (.execute 0 .sample 2000 "pay_1" false),
    .engine (.setKillSwitches .off),
    .engine (.execute 1 .sample 3000 "pay_1" false)]

/-- The second call asks the provider for a link of the blocked payment. -/
theorem veto_forgotten :
    ¬ ∀ (platform : Platform) (tenants : Table Tenant.id) (as : List SystemAction),
      LeavesTerminalAlone platform (.idle (.ofTenants tenants)) as := by
  intro h
  have hall := (h .plain .empty vetoThenExecute).allSteps
  revert hall
  decide +kernel

end CtrlRecovery
