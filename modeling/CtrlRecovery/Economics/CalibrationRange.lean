import CtrlRecovery.Core.Rounding
import CtrlRecovery.Economics.Calibration

/-!
# Calibrated probabilities are probabilities

The means that the calibration engine caches, by its observations, by its lookups in the model table or
from the priors when a process starts, lie in the unit interval and have four decimals, and so do those
of the static table. A missing probability is all that a lookup can give besides
(`inRange_getEffectiveProbabilitiesSync`).
-/

namespace CtrlRecovery

open Core Js.Arithmetic

/-- A probability with four decimals. -/
structure IsProbability (x : ℚ) : Prop where
  nonneg : 0 ≤ x
  le_one : x ≤ 1
  isFixed : Js.IsFixed 4 x

lemma IsProbability.abs_le_one {x : ℚ} (h : IsProbability x) : |x| ≤ 1 := by
  rw [abs_of_nonneg h.nonneg]
  exact h.le_one

lemma isProbability_roundFixed {x : ℚ} (hx : 0 ≤ x) (hx' : x ≤ 1) :
    IsProbability (Js.roundFixed x 4) where
  nonneg := Js.roundFixed_nonneg hx
  le_one := by exact_mod_cast Js.roundFixed_le (Js.isFixed_intCast 1) (by exact_mod_cast hx')
  isFixed := Js.isFixed_roundFixed x 4

lemma isProbability_share {a b : ℚ} (ha : 0 ≤ a) (hb : 0 ≤ b) :
    IsProbability (Js.roundFixed (double.div a (double.add a b)) 4) :=
  have hshare := double.div_add_mem ha hb
  isProbability_roundFixed hshare.1 hshare.2

/-- Not more successes than outcomes. -/
structure Observations.Sound (obs : Observations) : Prop where
  natural : obs.natSucc ≤ obs.natTot
  intervention : obs.intSucc ≤ obs.intTot

/-- The means of a model are probabilities. -/
structure CalibratedModelRecord.InRange (record : CalibratedModelRecord) : Prop where
  natural : IsProbability record.pNaturalMean
  intervention : IsProbability record.pIntervMean

/-- The parameters of a prior are not negative, and neither pair of them is zero. -/
structure BayesianPriorRecord.InRange (row : BayesianPriorRecord) : Prop where
  alphaNatural : 0 ≤ row.alphaNatural
  betaNatural : 0 ≤ row.betaNatural
  natural : 0 < row.alphaNatural + row.betaNatural
  alphaInterv : 0 ≤ row.alphaInterv
  betaInterv : 0 ≤ row.betaInterv
  intervention : 0 < row.alphaInterv + row.betaInterv

/-- The probabilities of a table entry are probabilities. -/
structure StaticProbability.InRange (base : StaticProbability) : Prop where
  natural : IsProbability base.naturalRecoveryProb
  intervention : IsProbability base.interventionRecoveryProb

/-- Both probabilities are missing, or both are there and probabilities. -/
def EffectiveProbabilities.InRange (probs : EffectiveProbabilities) : Prop :=
  probs = ⟨none, none, probs.source⟩ ∨
    ∃ pN pI, probs = ⟨some pN, some pI, probs.source⟩ ∧ IsProbability pN ∧ IsProbability pI

namespace BayesianProbabilityCalibrator

/-! ### Runs of processes -/

/-- What changes the caches and the tables. -/
inductive ProcessAction
  | record (action : Action)
  | getEffectiveProbabilities (reasonCode : String)
  | loadPriors (tenantId : String)
  | restart

def processStep (math : JsMath) (s : State) : ProcessAction → Option State
  | .record action                        => step math s action
  | .getEffectiveProbabilities reasonCode => some (getEffectiveProbabilities s reasonCode).2
  | .loadPriors tenantId                  => some (loadPriorsFromDatabase s tenantId)
  | .restart                              => some (restart s)

/-! ### Records in range -/

variable {math : JsMath} {s t : State} {reasonCode : String} {base : StaticProbability}
  {obs : Observations} {now : Timestamp}

lemma isProbability_percent {n : ℕ} (h : n ≤ 100) : IsProbability (n / 100) where
  nonneg := by positivity
  le_one := by
    rw [div_le_one (by norm_num)]
    exact_mod_cast h
  isFixed := ⟨n * 100, by
    push_cast
    ring⟩

lemma inRange_table (h : STATIC_PROBABILITY_TABLE reasonCode = some (some base)) : base.InRange := by
  have hpercent : ∀ m n : ℕ, m ≤ 100 → n ≤ 100 → StaticProbability.InRange ⟨m / 100, n / 100⟩ :=
    fun m n hm hn => ⟨isProbability_percent hm, isProbability_percent hn⟩
  unfold STATIC_PROBABILITY_TABLE at h
  split at h
  · cases h
    exact_mod_cast hpercent 35 55 (by decide) (by decide)
  · cases h
    exact_mod_cast hpercent 5 60 (by decide) (by decide)
  · cases h
    exact_mod_cast hpercent 25 45 (by decide) (by decide)
  · cases h
    exact_mod_cast hpercent 45 75 (by decide) (by decide)
  · cases h
    exact_mod_cast hpercent 60 70 (by decide) (by decide)
  · cases h
    exact_mod_cast hpercent 2 2 (by decide) (by decide)
  · cases h
    exact_mod_cast hpercent 15 35 (by decide) (by decide)
  all_goals cases h

lemma inRange_directBase (h : directBase reasonCode = some base) : base.InRange := by
  rw [directBase] at h
  cases htable : STATIC_PROBABILITY_TABLE reasonCode with
  | some entry =>
    rw [htable, Option.getD_some] at h
    exact inRange_table (htable.trans (congrArg some h))
  | none =>
    rw [htable, Option.getD_none] at h
    cases h
    exact @inRange_table "default" _ rfl

lemma inRange_fallbackBase (h : fallbackBase reasonCode = some base) : base.InRange := by
  rw [fallbackBase] at h
  split at h
  · next entry htable => exact inRange_table (htable.trans (congrArg some h))
  · exact inRange_directBase h

/-! ### Posteriors in range -/

/-- The posterior of ten imagined outcomes with a probability and of the counted ones. -/
lemma posterior_inRange {p : ℚ} {successes total : ℕ} (hp : IsProbability p)
    (hle : successes ≤ total) :
    let post := computeBetaPosterior (p * 10) (10 - p * 10) successes total
    0 ≤ post.alpha ∧ 0 ≤ post.beta ∧ 0 < post.alpha + post.beta ∧ IsProbability post.expected := by
  have hle' : (successes : ℚ) ≤ total := by exact_mod_cast hle
  have hsuccesses : (0 : ℚ) ≤ successes := Nat.cast_nonneg successes
  have halpha : 0 ≤ p * 10 + successes := by linarith [hp.nonneg]
  have hbeta : 0 ≤ 10 - p * 10 + (total - successes : ℚ) := by linarith [hp.le_one]
  refine ⟨halpha, hbeta, ?_, isProbability_share halpha hbeta⟩
  simp only [computeBetaPosterior]
  linarith

lemma inRange_modelRecord (hbase : base.InRange) (hobs : obs.Sound) :
    (modelRecord math reasonCode base obs now).InRange where
  natural := (posterior_inRange hbase.natural hobs.natural).2.2.2
  intervention := (posterior_inRange hbase.intervention hobs.intervention).2.2.2

lemma inRange_priorRecord {tenantId : String} (hbase : base.InRange) (hobs : obs.Sound) :
    (priorRecord tenantId reasonCode base obs now).InRange :=
  have hnatural := posterior_inRange hbase.natural hobs.natural
  have hintervention := posterior_inRange hbase.intervention hobs.intervention
  ⟨hnatural.1, hnatural.2.1, hnatural.2.2.1, hintervention.1, hintervention.2.1, hintervention.2.2.1⟩

lemma inRange_loadedRecord {row : BayesianPriorRecord} (h : row.InRange) :
    (loadedRecord row).InRange where
  natural := isProbability_share h.alphaNatural h.betaNatural
  intervention := isProbability_share h.alphaInterv h.betaInterv

lemma sound_count {o : Observation} (h : obs.Sound) : (o.count obs).Sound := by
  obtain ⟨hnatural, hintervention⟩ := h
  rw [Observation.count]
  split_ifs
  · exact ⟨hnatural, Nat.succ_le_succ hintervention⟩
  · exact ⟨hnatural, Nat.le_succ_of_le hintervention⟩
  · exact ⟨Nat.succ_le_succ hnatural, hintervention⟩
  · exact ⟨Nat.le_succ_of_le hnatural, hintervention⟩

/-! ### States in range -/

/-- What a suspended update has computed so far is in range. -/
def CarriesInRange : UpdatePhase → Prop
  | .writingModel         => True
  | .writingPrior updated => updated.InRange
  | .caching updated      => updated.InRange

/-- Everything that probabilities are computed from is in range. -/
structure StateInRange (s : State) : Prop where
  observations : ∀ key, ∀ obs ∈ s.observationsCache key, obs.Sound
  cache : ∀ reasonCode, ∀ record ∈ s.cache reasonCode, record.InRange
  models : ∀ reasonCode, ∀ record ∈ s.models reasonCode, record.InRange
  priors : ∀ row ∈ s.priors.rows, row.InRange
  calls : ∀ id u phase, s.calls id = some (u, phase) → u.observations.Sound ∧ CarriesInRange phase

lemma stateInRange_initial : StateInRange State.initial where
  observations _ _ h := by cases h
  cache _ _ h := by cases h
  models _ _ h := by cases h
  priors _ h := by cases h
  calls _ _ _ h := by cases h

lemma forall_update {ι α : Type*} [DecidableEq ι] {P : α → Prop} {f : ι → Option α} {i : ι}
    {entry : Option α} (hf : ∀ j, ∀ a ∈ f j, P a) (hentry : ∀ a ∈ entry, P a) :
    ∀ j, ∀ a ∈ Function.update f i entry j, P a :=
  (Function.forall_update_iff f fun _ entry => ∀ a ∈ entry, P a).mpr ⟨hentry, fun j _ => hf j⟩

lemma calls_inRange_update {calls : String × ℕ → Option (Update × UpdatePhase)} {id : String × ℕ}
    {call : Option (Update × UpdatePhase)}
    (hcalls : ∀ id u phase, calls id = some (u, phase) →
      u.observations.Sound ∧ CarriesInRange phase)
    (hcall : ∀ u phase, call = some (u, phase) → u.observations.Sound ∧ CarriesInRange phase) :
    ∀ id' u phase, Function.update calls id call id' = some (u, phase) →
      u.observations.Sound ∧ CarriesInRange phase :=
  (Function.forall_update_iff calls fun _ call => ∀ u phase, call = some (u, phase) →
    u.observations.Sound ∧ CarriesInRange phase).mpr ⟨hcall, fun id _ => hcalls id⟩

lemma stateInRange_finish {id : String × ℕ} (hs : StateInRange s) : StateInRange (s.finish id) :=
  ⟨hs.observations, hs.cache, hs.models, hs.priors, calls_inRange_update hs.calls (by simp)⟩

lemma stateInRange_observe {call : ℕ} {o : Observation} (hs : StateInRange s) :
    StateInRange (observe s call o) := by
  have hcounted : (o.counted s).Sound := by
    refine sound_count ?_
    cases hkey : s.observationsCache o.cacheKey with
    | none     => exact ⟨le_rfl, le_rfl⟩
    | some obs => exact hs.observations _ obs hkey
  have hobservations : ∀ key,
      ∀ obs ∈ Function.update s.observationsCache o.cacheKey (some (o.counted s)) key, obs.Sound :=
    forall_update hs.observations (by simpa using hcounted)
  rw [observe]
  split_ifs
  · refine ⟨hobservations, hs.cache, hs.models, hs.priors, calls_inRange_update hs.calls ?_⟩
    rintro u phase ⟨⟩
    exact ⟨hcounted, trivial⟩
  · exact ⟨hobservations, hs.cache, hs.models, hs.priors, hs.calls⟩

lemma inRange_persistPrior {priors priors' : Table BayesianPriorRecord.key} {row : BayesianPriorRecord}
    (hpriors : ∀ row ∈ priors.rows, row.InRange) (hrow : row.InRange)
    (h : persistPrior priors row = some priors') : ∀ row ∈ priors'.rows, row.InRange := by
  rw [persistPrior] at h
  split_ifs at h
  cases h
  intro other hother
  obtain rfl | ⟨hmem, -⟩ := Table.mem_put.mp hother
  · exact hrow
  · exact hpriors other hmem

/-- An update that goes on writes what is in range. -/
lemma stateInRange_resume {id : String × ℕ} {succeeds : Bool} {u : Update} {phase : UpdatePhase}
    (hs : StateInRange s) (hcall : s.calls id = some (u, phase)) :
    StateInRange (resume math s id succeeds now u phase) := by
  obtain ⟨hobs, hcarries⟩ := hs.calls id u phase hcall
  cases phase with
  | writingModel =>
    rw [resume]
    cases hbase : (directBase u.reasonCode).filter fun _ => succeeds with
    | none      => exact stateInRange_finish hs
    | some base =>
      have hmodel : (modelRecord math u.reasonCode base u.observations now).InRange :=
        inRange_modelRecord (inRange_directBase (Option.filter_eq_some_iff.mp hbase).1) hobs
      refine ⟨hs.observations, hs.cache, forall_update hs.models (by simpa using hmodel), hs.priors,
        calls_inRange_update hs.calls ?_⟩
      rintro v phase ⟨⟩
      exact ⟨hobs, hmodel⟩
  | writingPrior updated =>
    rw [resume]
    cases hbase : (directBase u.reasonCode).filter fun _ => succeeds with
    | none      => exact stateInRange_finish hs
    | some base =>
      have hprior : (priorRecord u.tenantId u.reasonCode base u.observations now).InRange :=
        inRange_priorRecord (inRange_directBase (Option.filter_eq_some_iff.mp hbase).1) hobs
      cases hpriors : persistPrior s.priors
          (priorRecord u.tenantId u.reasonCode base u.observations now) with
      | none        =>
        simp only [hpriors]
        exact stateInRange_finish hs
      | some priors =>
        simp only [hpriors]
        refine ⟨hs.observations, hs.cache, hs.models, inRange_persistPrior hs.priors hprior hpriors,
          calls_inRange_update hs.calls ?_⟩
        rintro v phase ⟨⟩
        exact ⟨hobs, hcarries.natural, hcarries.intervention⟩
  | caching updated =>
    have hupdated : updated.InRange := hcarries
    exact ⟨hs.observations, forall_update hs.cache (by simpa using hupdated), hs.models, hs.priors,
      calls_inRange_update hs.calls (by simp)⟩

lemma stateInRange_getEffectiveProbabilities (hs : StateInRange s) :
    StateInRange (getEffectiveProbabilities s reasonCode).2 := by
  rw [getEffectiveProbabilities]
  cases hmodel : (activeModel s reasonCode).filter CalibratedModelRecord.isCalibrated with
  | none        => exact hs
  | some record =>
    have hactive := (Option.filter_eq_some_iff.mp hmodel).1
    have hrecord : record.InRange := hs.models reasonCode record (Option.filter_eq_some_iff.mp hactive).1
    exact ⟨hs.observations, forall_update hs.cache (by simpa using hrecord), hs.models, hs.priors,
      hs.calls⟩

lemma stateInRange_loadPriors {tenantId : String} (hs : StateInRange s) :
    StateInRange (loadPriorsFromDatabase s tenantId) := by
  refine ⟨hs.observations, ?_, hs.models, hs.priors, hs.calls⟩
  -- one row after the other, on any cache whose entries are in range
  have hfold : ∀ (rows : List BayesianPriorRecord) (cache : String → Option CalibratedModelRecord),
      (∀ row ∈ rows, row.InRange) → (∀ r, ∀ record ∈ cache r, record.InRange) →
      ∀ r, ∀ record ∈ (rows.foldl (fun (cache : String → Option CalibratedModelRecord) row =>
        Function.update cache row.reasonCode (some (loadedRecord row))) cache) r, record.InRange := by
    intro rows
    induction rows with
    | nil => exact fun cache _ hcache => hcache
    | cons row rows ih =>
      intro cache hrows hcache
      rw [List.forall_mem_cons] at hrows
      have hloaded := inRange_loadedRecord hrows.1
      exact ih _ hrows.2 (forall_update hcache (by simpa using hloaded))
  exact hfold _ _ (fun row hrow => hs.priors row (List.mem_filter.mp hrow).1) hs.cache

/-- Every step keeps what probabilities are computed from in range. -/
lemma stateInRange_processStep {action : ProcessAction} (hs : StateInRange s)
    (hstep : processStep math s action = some t) : StateInRange t := by
  cases action with
  | record action =>
    cases action with
    | observe call o =>
      simp only [processStep, step] at hstep
      split_ifs at hstep
      cases hstep
      exact stateInRange_observe hs
    | resume id succeeds now =>
      obtain ⟨⟨u, phase⟩, hcall, rfl⟩ := Option.map_eq_some_iff.mp hstep
      exact stateInRange_resume hs hcall
  | getEffectiveProbabilities reasonCode =>
    cases hstep
    exact stateInRange_getEffectiveProbabilities hs
  | loadPriors tenantId =>
    cases hstep
    exact stateInRange_loadPriors hs
  | restart =>
    cases hstep
    exact ⟨stateInRange_initial.observations, stateInRange_initial.cache, hs.models, hs.priors,
      stateInRange_initial.calls⟩

/-! ### Answers in range -/

lemma inRange_calibratedProbabilities {record : CalibratedModelRecord} (h : record.InRange) :
    (calibratedProbabilities record).InRange :=
  .inr ⟨_, _, rfl, h.natural, h.intervention⟩

lemma inRange_staticProbabilities {base : Option StaticProbability} (h : ∀ b ∈ base, b.InRange) :
    (staticProbabilities base).InRange := by
  cases base with
  | none      => exact .inl rfl
  | some base => exact .inr ⟨_, _, rfl, (h base rfl).natural, (h base rfl).intervention⟩

lemma inRange_getEffectiveProbabilitiesSync (hs : StateInRange s) {declineType : DeclineType} :
    (getEffectiveProbabilitiesSync math s reasonCode declineType).1.InRange := by
  rw [getEffectiveProbabilitiesSync]
  split_ifs
  · have hhard : IsProbability (2 / 100) := by exact_mod_cast isProbability_percent (n := 2) (by decide)
    exact .inr ⟨_, _, rfl, hhard, hhard⟩
  · cases hcached : (s.cache (Js.toLowerCase reasonCode)).filter CalibratedModelRecord.isCalibrated with
    | none        => exact inRange_staticProbabilities fun _ => inRange_fallbackBase
    | some cached =>
      exact inRange_calibratedProbabilities (hs.cache _ cached (Option.filter_eq_some_iff.mp hcached).1)

end BayesianProbabilityCalibrator

end CtrlRecovery
