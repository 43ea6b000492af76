import CtrlRecovery.Economics.Calibration

/-!
# Persisted evidence

The prior of a tenant and a reason is written from the static entry of the reason and the counts that
the process has in memory, whatever the row says that is there. So its columns never decrease exactly
when the counts of every write cover those that the row was written from
(`neverDecreases_iff_covers`); a restart, which empties the counts, breaks this with the fifth
observation after it.
-/

namespace CtrlRecovery

open Core

namespace BayesianProbabilityCalibrator

/-! ### Runs with restarts -/

/-- A process with the counts that each prior was last written from. -/
structure Life where
  state : State
  evidence : String × String → Option Observations

def Life.initial : Life := ⟨State.initial, fun _ => none⟩

inductive LifeAction
  | record (action : Action)
  | restart
  | loadPriors (tenantId : String)

/-- The update that an action persists the prior of. -/
def persisted (s : State) : Action → Option Update
  | .observe _ _             => none
  | .resume id succeeds now  =>
    match s.calls id with
    | some (u, .writingPrior _) =>
      ((directBase u.reasonCode).filter fun _ => succeeds).bind fun base =>
        (persistPrior s.priors (priorRecord u.tenantId u.reasonCode base u.observations now)).map
          fun _ => u
    | _                         => none

def lifeStep (math : JsMath) (l : Life) : LifeAction → Option Life
  | .record action       =>
    (step math l.state action).map fun state =>
      { state
        evidence :=
          match persisted l.state action with
          | some u =>
            Function.update l.evidence (u.tenantId, u.reasonCode) (some u.observations)
          | none   => l.evidence }
  | .restart             => some { l with state := restart l.state }
  | .loadPriors tenantId => some { l with state := loadPriorsFromDatabase l.state tenantId }

/-! ### Evidence -/

/-- The counts of `obs` do not exceed those of `obs'`, successes and failures apart. -/
structure Covers (obs obs' : Observations) : Prop where
  natSucc : obs.natSucc ≤ obs'.natSucc
  natFail : (obs.natTot - obs.natSucc : ℤ) ≤ obs'.natTot - obs'.natSucc
  intSucc : obs.intSucc ≤ obs'.intSucc
  intFail : (obs.intTot - obs.intSucc : ℤ) ≤ obs'.intTot - obs'.intSucc

/-- No column of `row` exceeds that of `row'`. -/
def ColumnsLe (row row' : BayesianPriorRecord) : Prop :=
  row.sampleSize ≤ row'.sampleSize ∧
    row.alphaNatural ≤ row'.alphaNatural ∧ row.betaNatural ≤ row'.betaNatural ∧
    row.alphaInterv ≤ row'.alphaInterv ∧ row.betaInterv ≤ row'.betaInterv

instance (row row' : BayesianPriorRecord) : Decidable (ColumnsLe row row') :=
  inferInstanceAs (Decidable (_ ∧ _))

/-- Every prior is still there, and none of its columns has decreased. -/
def NeverDecreases (l : Life) (_ : LifeAction) (l' : Life) : Prop :=
  ∀ row ∈ l.state.priors.rows, ∃ row' ∈ l'.state.priors.rows,
    row'.key = row.key ∧ ColumnsLe row row'

instance (l l' : Life) (action : LifeAction) : Decidable (NeverDecreases l action l') :=
  inferInstanceAs (Decidable (∀ _ ∈ _, ∃ _ ∈ _, _))

/-- The counts that a prior is written from cover those that it was written from before. -/
def PersistsCovering (l : Life) (action : LifeAction) (_ : Life) : Prop :=
  match action with
  | .record action =>
    ∀ u ∈ persisted l.state action, ∀ obs ∈ l.evidence (u.tenantId, u.reasonCode),
      Covers obs u.observations
  | _              => True

/-- The priors are those of their evidence. -/
structure Evidenced (l : Life) : Prop where
  of_row : ∀ row ∈ l.state.priors.rows, ∃ obs base now, l.evidence row.key = some obs ∧
    directBase row.reasonCode = some base ∧
    row = priorRecord row.tenantId row.reasonCode base obs now
  exists_row : ∀ key obs, l.evidence key = some obs → ∃ row ∈ l.state.priors.rows, row.key = key

variable {math : JsMath} {l l' : Life} {s t : State} {row : BayesianPriorRecord}

/-! ### Columns -/

lemma columnsLe_priorRecord {tenantId reasonCode : String} {base : StaticProbability}
    {obs obs' : Observations} {now now' : Timestamp} :
    ColumnsLe (priorRecord tenantId reasonCode base obs now)
      (priorRecord tenantId reasonCode base obs' now') ↔ Covers obs obs' := by
  simp only [ColumnsLe, priorRecord, posteriors, computeBetaPosterior, Observations.total,
    add_le_add_iff_left, Nat.cast_le]
  constructor
  · rintro ⟨-, hnatSucc, hnatFail, hintSucc, hintFail⟩
    exact ⟨hnatSucc, by exact_mod_cast hnatFail, hintSucc, by exact_mod_cast hintFail⟩
  · rintro ⟨hnatSucc, hnatFail, hintSucc, hintFail⟩
    exact ⟨by omega, hnatSucc, by exact_mod_cast hnatFail, hintSucc, by exact_mod_cast hintFail⟩

lemma columnsLe_refl : ColumnsLe row row :=
  ⟨Nat.le_refl _, le_rfl, le_rfl, le_rfl, le_rfl⟩

/-! ### The priors along a step -/

@[simp] lemma priors_observe {call : ℕ} {o : Observation} : (observe s call o).priors = s.priors := by
  simp only [observe]
  split_ifs
  · rfl
  · rfl

/-- An action that persists no prior leaves them all. -/
lemma priors_of_persisted_none {action : Action} (h : step math s action = some t)
    (hnone : persisted s action = none) : t.priors = s.priors := by
  cases action with
  | observe call o =>
    simp only [step] at h
    split_ifs at h
    cases h
    exact priors_observe
  | resume id succeeds now =>
    obtain ⟨⟨u, phase⟩, hcall, rfl⟩ := Option.map_eq_some_iff.mp h
    simp only [persisted, hcall] at hnone
    cases phase with
    | writingModel =>
      simp only [resume]
      cases (directBase u.reasonCode).filter fun _ => succeeds with
      | none      => rfl
      | some base => rfl
    | writingPrior updated =>
      simp only [resume]
      cases hbase : (directBase u.reasonCode).filter fun _ => succeeds with
      | none      => rfl
      | some base =>
        simp only [hbase, Option.bind_some, Option.map_eq_none_iff] at hnone
        simp only [hnone]
        rfl
    | caching updated => rfl

/-- An action that persists a prior puts that of its counts. -/
lemma priors_of_persisted {action : Action} {u : Update} (h : step math s action = some t)
    (hu : persisted s action = some u) :
    ∃ base now, directBase u.reasonCode = some base ∧
      t.priors = s.priors.put (priorRecord u.tenantId u.reasonCode base u.observations now) := by
  cases action with
  | observe call o => cases hu
  | resume id succeeds now =>
    obtain ⟨⟨v, phase⟩, hcall, rfl⟩ := Option.map_eq_some_iff.mp h
    simp only [persisted, hcall] at hu
    cases phase with
    | writingModel         => cases hu
    | caching updated      => cases hu
    | writingPrior updated =>
      obtain ⟨base, hbase, hu⟩ := Option.bind_eq_some_iff.mp hu
      obtain ⟨priors, hpriors, rfl⟩ := Option.map_eq_some_iff.mp hu
      refine ⟨base, now, (Option.filter_eq_some_iff.mp hbase).1, ?_⟩
      simp only [resume, hbase, hpriors]
      rw [persistPrior] at hpriors
      split_ifs at hpriors
      exact (Option.some.inj hpriors).symm

lemma neverDecreases_of_eq {action : LifeAction} (h : l'.state.priors = l.state.priors) :
    NeverDecreases l action l' := by
  intro row hrow
  exact ⟨row, h ▸ hrow, rfl, columnsLe_refl⟩

lemma evidenced_of_eq (hI : Evidenced l) (hpriors : l'.state.priors = l.state.priors)
    (hevidence : l'.evidence = l.evidence) : Evidenced l' where
  of_row row hrow := by
    rw [hevidence]
    exact hI.of_row row (hpriors ▸ hrow)
  exists_row key obs hobs := by
    rw [hpriors]
    exact hI.exists_row key obs (hevidence ▸ hobs)

section

variable {u : Update} {base : StaticProbability} {now : Timestamp}

/-- A prior that is put has the evidence of its counts. -/
lemma evidenced_put (hI : Evidenced l) (hbase : directBase u.reasonCode = some base)
    (hpriors : l'.state.priors =
      l.state.priors.put (priorRecord u.tenantId u.reasonCode base u.observations now))
    (hevidence : l'.evidence =
      Function.update l.evidence (u.tenantId, u.reasonCode) (some u.observations)) :
    Evidenced l' where
  of_row := by
    intro row hrow
    rw [hpriors] at hrow
    rcases Table.mem_put.mp hrow with rfl | ⟨hrow, hkey⟩
    · refine ⟨u.observations, base, now, ?_, hbase, rfl⟩
      rw [hevidence]
      exact Function.update_self ..
    · obtain ⟨obs, base', now', hobs, hrest⟩ := hI.of_row row hrow
      refine ⟨obs, base', now', ?_, hrest⟩
      rw [hevidence]
      exact (Function.update_of_ne hkey _ _).trans hobs
  exists_row := by
    intro key obs hobs
    rw [hpriors]
    by_cases hkey : key = (u.tenantId, u.reasonCode)
    · exact ⟨_, Table.mem_put.mpr (.inl rfl), hkey.symm⟩
    · rw [hevidence, Function.update_of_ne hkey] at hobs
      obtain ⟨row, hrow, rfl⟩ := hI.exists_row key obs hobs
      exact ⟨row, Table.mem_put.mpr (.inr ⟨hrow, hkey⟩), rfl⟩

/-- Putting a prior decreases no column exactly when its counts cover the evidence of the row. -/
lemma neverDecreases_put (hI : Evidenced l) {action : LifeAction}
    (hbase : directBase u.reasonCode = some base)
    (hpriors : l'.state.priors =
      l.state.priors.put (priorRecord u.tenantId u.reasonCode base u.observations now)) :
    NeverDecreases l action l' ↔
      ∀ obs ∈ l.evidence (u.tenantId, u.reasonCode), Covers obs u.observations := by
  constructor
  · intro hnever obs hobs
    obtain ⟨row, hrow, hkey⟩ := hI.exists_row _ obs hobs
    obtain ⟨obs', base', now', hobs', hbase', heq⟩ := hI.of_row row hrow
    obtain ⟨htenant, hreason⟩ := Prod.mk.inj hkey
    obtain rfl : obs' = obs := Option.some.inj (hobs'.symm.trans (hkey ▸ hobs))
    obtain rfl : base' = base := Option.some.inj (hbase'.symm.trans (hreason ▸ hbase))
    obtain ⟨row', hrow', hkey', hle⟩ := hnever row hrow
    rw [hpriors] at hrow'
    rcases Table.mem_put.mp hrow' with rfl | ⟨-, hne⟩
    · rw [heq, htenant, hreason] at hle
      exact columnsLe_priorRecord.mp hle
    · exact absurd (hkey'.trans hkey) hne
  · intro hcovers row hrow
    by_cases hkey : row.key = (u.tenantId, u.reasonCode)
    · obtain ⟨obs, base', now', hobs, hbase', heq⟩ := hI.of_row row hrow
      obtain ⟨htenant, hreason⟩ := Prod.mk.inj hkey
      obtain rfl : base' = base := Option.some.inj (hbase'.symm.trans (hreason ▸ hbase))
      refine ⟨priorRecord u.tenantId u.reasonCode base' u.observations now,
        hpriors ▸ Table.mem_put.mpr (.inl rfl), hkey.symm, ?_⟩
      rw [heq, htenant, hreason]
      exact columnsLe_priorRecord.mpr (hcovers obs (hkey ▸ hobs))
    · exact ⟨row, hpriors ▸ Table.mem_put.mpr (.inr ⟨hrow, hkey⟩), rfl, columnsLe_refl⟩

end

/-! ### Steps -/

lemma evidenced_initial : Evidenced Life.initial where
  of_row row hrow := by simp [Life.initial, State.initial] at hrow
  exists_row key obs hobs := by cases hobs

/-- A step keeps the evidence, and decreases no column exactly when what it persists covers the
evidence. -/
lemma evidenced_lifeStep {action : LifeAction} (hI : Evidenced l)
    (h : lifeStep math l action = some l') :
    Evidenced l' ∧ (NeverDecreases l action l' ↔ PersistsCovering l action l') := by
  cases action with
  | record action =>
    obtain ⟨state, hstep, rfl⟩ := Option.map_eq_some_iff.mp h
    cases hu : persisted l.state action with
    | none =>
      have hpriors := priors_of_persisted_none hstep hu
      refine ⟨evidenced_of_eq hI hpriors rfl, ?_⟩
      simp only [PersistsCovering, hu, Option.mem_def, reduceCtorEq, false_implies, implies_true,
        iff_true]
      exact neverDecreases_of_eq hpriors
    | some u =>
      obtain ⟨base, now, hbase, hpriors⟩ := priors_of_persisted hstep hu
      refine ⟨evidenced_put hI hbase hpriors rfl, ?_⟩
      rw [neverDecreases_put hI hbase hpriors]
      simp [PersistsCovering, hu]
  | restart =>
    cases h
    exact ⟨evidenced_of_eq hI rfl rfl, iff_of_true (neverDecreases_of_eq rfl) trivial⟩
  | loadPriors tenantId =>
    cases h
    exact ⟨evidenced_of_eq hI rfl rfl, iff_of_true (neverDecreases_of_eq rfl) trivial⟩

/-- The columns of the priors never decrease in a run exactly when every prior is written from counts
that cover those that it was written from before. -/
theorem neverDecreases_iff_covers (math : JsMath) (actions : List LifeAction) :
    AllSteps (lifeStep math) NeverDecreases Life.initial actions ↔
      AllSteps (lifeStep math) PersistsCovering Life.initial actions :=
  allSteps_iff_of_invariant (I := Evidenced)
    (fun _ _ _ hI hstep => (evidenced_lifeStep hI hstep).1)
    (fun _ _ _ hI hstep => (evidenced_lifeStep hI hstep).2) evidenced_initial

/-- The actions of a call that counts an observation and whose writes all succeed. -/
def recordActions (call : ℕ) (o : Observation) (now : Timestamp) : List LifeAction :=
  .record (.observe call o) :: List.replicate 3 (.record (.resume (o.tenantId, call) true now))

/-- Six outcomes are persisted; after a restart, the fifth outcome overwrites them. -/
theorem restart_loses_evidence :
    ¬ AllSteps (lifeStep ⟨id, id⟩) NeverDecreases Life.initial
      (let o : Observation := ⟨"tenant_a", "expired_card", true, true⟩
       List.replicate 4 (.record (.observe 0 o)) ++ recordActions 0 o 5 ++ recordActions 0 o 6 ++
        [.restart, .loadPriors "tenant_a"] ++ List.replicate 4 (.record (.observe 0 o)) ++
        recordActions 0 o 7) := by
  decide +kernel

end BayesianProbabilityCalibrator

end CtrlRecovery
