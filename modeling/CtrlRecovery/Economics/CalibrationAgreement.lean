import CtrlRecovery.Economics.Calibration

/-!
# The cached path and the database path

The scoring path reads the cache, and takes a model of a hundred observations whatever its status. The
database path reads the model table, and only an active model. Where neither has a model the first looks
for a fragment of a listed reason and the second does not. Whether the two agree on a reason depends on
the counts that its model was last written from, on those that it was last cached from, and on the reason
(`lookups_agree_iff`).
-/

namespace CtrlRecovery

open Core

def Observations.suffice (obs : Observations) : Bool := decide (100 ≤ obs.total)

namespace BayesianProbabilityCalibrator

/-! ### Histories -/

/-- A process with the counts that the model of each reason was last written from, and those that it was
last cached from. -/
structure History where
  state : State
  written : String → Option Observations
  cached : String → Option Observations

def History.initial : History := ⟨State.initial, fun _ => none, fun _ => none⟩

/-- The update that an action writes the model of. -/
def writtenUpdate (s : State) : Action → Option Update
  | .observe _ _            => none
  | .resume id succeeds _   =>
    match s.calls id with
    | some (u, .writingModel) => ((directBase u.reasonCode).filter fun _ => succeeds).map fun _ => u
    | _                       => none

/-- The update that an action caches. -/
def cachedUpdate (s : State) : Action → Option Update
  | .observe _ _   => none
  | .resume id _ _ =>
    match s.calls id with
    | some (u, .caching _) => some u
    | _                    => none

def note (counts : String → Option Observations) : Option Update → String → Option Observations
  | some u => Function.update counts u.reasonCode (some u.observations)
  | none   => counts

def historyStep (math : JsMath) (h : History) (action : Action) : Option History :=
  (step math h.state action).map fun state =>
    { state
      written := note h.written (writtenUpdate h.state action)
      cached := note h.cached (cachedUpdate h.state action) }

/-! ### When the paths agree -/

def promotes (math : JsMath) (reasonCode : String) (obs : Observations) : Bool :=
  (directBase reasonCode).any fun base =>
    (evaluateModelPromotion math base.interventionRecoveryProb (posteriors base obs).2.expected
      obs.intTot).shouldPromote

def means (reasonCode : String) (obs : Observations) : Option (ℚ × ℚ) :=
  (directBase reasonCode).map fun base =>
    ((posteriors base obs).1.expected, (posteriors base obs).2.expected)

/-- A reason is in the table, or without a fragment of a reason that is. -/
def Plain (reasonCode : String) : Prop :=
  (STATIC_PROBABILITY_TABLE reasonCode).isSome ∨ fragmentReason reasonCode = "default"

instance (reasonCode : String) : Decidable (Plain reasonCode) := inferInstanceAs (Decidable (_ ∨ _))

/-- Counts that calibrate both paths have equal means; where neither is calibrated the reason is plain.
-/
def Matching (reasonCode : String) : Option Observations → Option Observations → Prop
  | some obs, some obs' => means reasonCode obs = means reasonCode obs'
  | none, none          => Plain reasonCode
  | some _, none        => False
  | none, some _        => False

instance (reasonCode : String) : ∀ counts counts', Decidable (Matching reasonCode counts counts')
  | some _, some _ => inferInstanceAs (Decidable (_ = _))
  | none, none     => inferInstanceAs (Decidable (Plain reasonCode))
  | some _, none   => .isFalse id
  | none, some _   => .isFalse id

/-- The counts of a reason's model, which calibrate the database path when they are enough and promoted,
match those of its cache entry, which calibrate the cached path when they are enough. -/
def Agree (math : JsMath) (reasonCode : String) (written cached : Option Observations) : Prop :=
  Matching reasonCode (written.filter fun obs => obs.suffice && promotes math reasonCode obs)
    (cached.filter Observations.suffice)

instance (math : JsMath) (reasonCode : String) (written cached : Option Observations) :
    Decidable (Agree math reasonCode written cached) :=
  inferInstanceAs (Decidable (Matching _ _ _))

/-! ### Records and their counts -/

/-- `record` is the model of the counts `obs`. -/
def IsModelOf (math : JsMath) (reasonCode : String) (record : CalibratedModelRecord)
    (obs : Observations) : Prop :=
  ∃ base now, directBase reasonCode = some base ∧ record = modelRecord math reasonCode base obs now

variable {math : JsMath} {h h' : History} {s t : State} {reasonCode : String}
  {record record' : CalibratedModelRecord} {obs obs' : Observations}

lemma IsModelOf.isCalibrated (hmodel : IsModelOf math reasonCode record obs) :
    record.isCalibrated = obs.suffice := by
  obtain ⟨base, now, -, rfl⟩ := hmodel
  by_cases hobs : 100 ≤ obs.total
  · simp [CalibratedModelRecord.isCalibrated, Observations.suffice, modelRecord, hobs]
  · simp [CalibratedModelRecord.isCalibrated, Observations.suffice, modelRecord, hobs]

lemma IsModelOf.isActive (hmodel : IsModelOf math reasonCode record obs) :
    (record.status == .active && record.isCalibrated) =
      (obs.suffice && promotes math reasonCode obs) := by
  rw [hmodel.isCalibrated, Bool.and_comm]
  obtain ⟨base, now, hbase, rfl⟩ := hmodel
  by_cases hobs : 100 ≤ obs.total
  · have hlt : ¬ obs.total < 100 := by omega
    simp only [promotes, hbase, Option.any_some, modelRecord, hlt, or_false]
    congr 1
    split_ifs with hpromote
    · simp [hpromote]
    · simp [hpromote]
  · simp [Observations.suffice, hobs]

lemma IsModelOf.calibratedProbabilities_eq_iff (hmodel : IsModelOf math reasonCode record obs)
    (hmodel' : IsModelOf math reasonCode record' obs') :
    calibratedProbabilities record = calibratedProbabilities record' ↔
      means reasonCode obs = means reasonCode obs' := by
  obtain ⟨base, now, hbase, rfl⟩ := hmodel
  obtain ⟨base', now', hbase', rfl⟩ := hmodel'
  obtain rfl : base' = base := Option.some.inj (hbase'.symm.trans hbase)
  simp [calibratedProbabilities, means, hbase, modelRecord]

/-! ### The static answers -/

lemma staticProbabilities_inj {base base' : Option StaticProbability} :
    staticProbabilities base = staticProbabilities base' ↔ base = base' := by
  constructor
  · intro heq
    cases base with
    | none =>
      cases base' with
      | none   => rfl
      | some b => simp [staticProbabilities] at heq
    | some a =>
      cases base' with
      | none   => simp [staticProbabilities] at heq
      | some b =>
        simp only [staticProbabilities, Option.map_some, EffectiveProbabilities.mk.injEq,
          Option.some.injEq, and_true] at heq
        exact congrArg some (StaticProbability.ext heq.1 heq.2)
  · rintro rfl
    rfl

/-- The listed reasons that fragments are looked for of, with the default. -/
def fragmentReasons : List String :=
  ["insufficient_funds", "expired_card", "bank_gateway_timeout", "network_error", "generic_decline",
    "default"]

lemma fragmentReason_mem : fragmentReason reasonCode ∈ fragmentReasons := by
  simp only [fragmentReason]
  split_ifs
  all_goals simp [fragmentReasons]

lemma directBase_eq_default_iff {r : String} (hr : r ∈ fragmentReasons) :
    directBase r = some defaultProbability ↔ r = "default" := by
  revert r
  decide +kernel

lemma fallbackBase_eq_iff : fallbackBase reasonCode = directBase reasonCode ↔ Plain reasonCode := by
  rw [fallbackBase, Plain]
  cases hlisted : STATIC_PROBABILITY_TABLE reasonCode with
  | none =>
    have hbase : directBase reasonCode = some defaultProbability := by simp [directBase, hlisted]
    rw [hbase, directBase_eq_default_iff fragmentReason_mem]
    simp
  | some base => simp [directBase, hlisted]

/-! ### The counts are kept -/

/-- A suspended update carries the model of its counts. -/
def CarriesModel (math : JsMath) (u : Update) : UpdatePhase → Prop
  | .writingModel         => True
  | .writingPrior updated => IsModelOf math u.reasonCode updated u.observations
  | .caching updated      => IsModelOf math u.reasonCode updated u.observations

/-- The models and the cache entries are those of their counts. -/
structure Kept (math : JsMath) (h : History) : Prop where
  models : ∀ r, Option.Rel (IsModelOf math r) (h.state.models r) (h.written r)
  cache : ∀ r, Option.Rel (IsModelOf math r) (h.state.cache r) (h.cached r)
  calls : ∀ id u phase, h.state.calls id = some (u, phase) → CarriesModel math u phase

lemma kept_initial : Kept math History.initial where
  models r := .none
  cache r := .none
  calls id u phase hcall := by cases hcall

lemma rel_update {records : String → Option CalibratedModelRecord}
    {counts : String → Option Observations} {u : Update}
    (hrel : ∀ r, Option.Rel (IsModelOf math r) (records r) (counts r))
    (hmodel : IsModelOf math u.reasonCode record u.observations) (r : String) :
    Option.Rel (IsModelOf math r) (Function.update records u.reasonCode (some record) r)
      (note counts (some u) r) := by
  rw [note]
  by_cases hr : r = u.reasonCode
  · subst hr
    rw [Function.update_self, Function.update_self]
    exact .some hmodel
  · rw [Function.update_of_ne hr, Function.update_of_ne hr]
    exact hrel r

lemma carries_update {calls : String × ℕ → Option (Update × UpdatePhase)} {id : String × ℕ}
    {call : Option (Update × UpdatePhase)}
    (hcalls : ∀ id u phase, calls id = some (u, phase) → CarriesModel math u phase)
    (hcall : ∀ u phase, call = some (u, phase) → CarriesModel math u phase) :
    ∀ id' u phase, Function.update calls id call id' = some (u, phase) →
      CarriesModel math u phase := by
  exact (Function.forall_update_iff calls fun _ call => ∀ u phase, call = some (u, phase) →
    CarriesModel math u phase).mpr ⟨hcall, fun id _ => hcalls id⟩

/-- An update that goes on keeps the counts. -/
lemma kept_resume {id : String × ℕ} {succeeds : Bool} {now : Timestamp} {u : Update}
    {phase : UpdatePhase} (hI : Kept math h) (hcall : h.state.calls id = some (u, phase)) :
    Kept math
      { state := resume math h.state id succeeds now u phase
        written := note h.written (writtenUpdate h.state (.resume id succeeds now))
        cached := note h.cached (cachedUpdate h.state (.resume id succeeds now)) } := by
  have hcarries : CarriesModel math u phase := hI.calls id u phase hcall
  cases phase with
  | writingModel =>
    simp only [writtenUpdate, cachedUpdate, hcall, resume]
    cases hbase : (directBase u.reasonCode).filter fun _ => succeeds with
    | none =>
      exact ⟨hI.models, hI.cache, carries_update hI.calls (by simp)⟩
    | some base =>
      have hmodel : IsModelOf math u.reasonCode
          (modelRecord math u.reasonCode base u.observations now) u.observations :=
        ⟨base, now, (Option.filter_eq_some_iff.mp hbase).1, rfl⟩
      refine ⟨rel_update hI.models hmodel, hI.cache, carries_update hI.calls ?_⟩
      rintro v phase' ⟨⟩
      exact hmodel
  | writingPrior updated =>
    simp only [writtenUpdate, cachedUpdate, hcall, resume]
    cases hbase : (directBase u.reasonCode).filter fun _ => succeeds with
    | none => exact ⟨hI.models, hI.cache, carries_update hI.calls (by simp)⟩
    | some base =>
      cases hpriors : persistPrior h.state.priors
          (priorRecord u.tenantId u.reasonCode base u.observations now) with
      | none =>
        simp only [hpriors]
        exact ⟨hI.models, hI.cache, carries_update hI.calls (by simp)⟩
      | some priors =>
        simp only [hpriors]
        refine ⟨hI.models, hI.cache, carries_update hI.calls ?_⟩
        rintro v phase' ⟨⟩
        obtain ⟨base', now', hbase', rfl⟩ := hcarries
        exact ⟨base', now, hbase', rfl⟩
  | caching updated =>
    simp only [writtenUpdate, cachedUpdate, hcall, resume]
    exact ⟨hI.models, rel_update hI.cache hcarries, carries_update hI.calls (by simp)⟩

/-- Every step keeps the counts. -/
lemma kept_historyStep {action : Action} (hI : Kept math h)
    (hstep : historyStep math h action = some h') : Kept math h' := by
  obtain ⟨state, hstate, rfl⟩ := Option.map_eq_some_iff.mp hstep
  cases action with
  | observe call o =>
    simp only [step] at hstate
    split_ifs at hstate with hfree
    cases hstate
    simp only [observe]
    split_ifs with hfive
    · refine ⟨hI.models, hI.cache, carries_update hI.calls ?_⟩
      rintro v phase ⟨⟩
      trivial
    · exact ⟨hI.models, hI.cache, hI.calls⟩
  | resume id succeeds now =>
    obtain ⟨⟨u, phase⟩, hcall, rfl⟩ := Option.map_eq_some_iff.mp hstate
    exact kept_resume hI hcall

/-! ### The two lookups -/

lemma rel_filter {ρ τ : Type*} {R : ρ → τ → Prop} {p : ρ → Bool} {q : τ → Bool} {o : Option ρ}
    {o' : Option τ} (hrel : Option.Rel R o o') (hpq : ∀ r c, R r c → p r = q c) :
    Option.Rel R (o.filter p) (o'.filter q) := by
  cases hrel with
  | none => exact .none
  | @some r c hrc =>
    simp only [Option.filter_some, hpq r c hrc]
    split_ifs
    · exact .some hrc
    · exact .none

/-- The answer of a lookup with the calibrated record that it found, if any. -/
def answer (base : Option StaticProbability) (record : Option CalibratedModelRecord) :
    EffectiveProbabilities :=
  (record.map calibratedProbabilities).getD (staticProbabilities base)

lemma getEffectiveProbabilitiesSync_eq {declineType : DeclineType} (hsoft : declineType ≠ .hard) :
    (getEffectiveProbabilitiesSync math s reasonCode declineType).1 =
      answer (fallbackBase (Js.toLowerCase reasonCode))
        ((s.cache (Js.toLowerCase reasonCode)).filter CalibratedModelRecord.isCalibrated) := by
  rw [getEffectiveProbabilitiesSync, if_neg hsoft]
  cases (s.cache (Js.toLowerCase reasonCode)).filter CalibratedModelRecord.isCalibrated with
  | none        => rfl
  | some cached => rfl

lemma getEffectiveProbabilities_eq :
    (getEffectiveProbabilities s reasonCode).1 =
      answer (directBase reasonCode)
        ((activeModel s reasonCode).filter CalibratedModelRecord.isCalibrated) := by
  rw [getEffectiveProbabilities]
  cases (activeModel s reasonCode).filter CalibratedModelRecord.isCalibrated with
  | none             => rfl
  | some firstRecord => rfl

/-- Answers of records of given counts are equal exactly when the counts match. -/
lemma answer_eq_iff {cached model : Option CalibratedModelRecord} {counts counts' : Option Observations}
    (hcached : Option.Rel (IsModelOf math reasonCode) cached counts')
    (hmodel : Option.Rel (IsModelOf math reasonCode) model counts) :
    answer (fallbackBase reasonCode) cached = answer (directBase reasonCode) model ↔
      Matching reasonCode counts counts' := by
  cases hcached with
  | none =>
    cases hmodel with
    | none   => exact staticProbabilities_inj.trans fallbackBase_eq_iff
    | some _ => simp [answer, Matching, staticProbabilities, calibratedProbabilities]
  | some hcached =>
    cases hmodel with
    | none        => simp [answer, Matching, staticProbabilities, calibratedProbabilities]
    | some hmodel => exact (hcached.calibratedProbabilities_eq_iff hmodel).trans eq_comm

/-- After every history of observations, whatever the order of its writes and their failures, the two
lookups give the same probabilities exactly when the counts agree. -/
theorem lookups_agree_iff {actions : List Action}
    (hrun : Run (historyStep math) History.initial actions h) {declineType : DeclineType}
    (hlower : Js.toLowerCase reasonCode = reasonCode) (hsoft : declineType ≠ .hard) :
    (getEffectiveProbabilitiesSync math h.state reasonCode declineType).1 =
        (getEffectiveProbabilities h.state reasonCode).1 ↔
      Agree math reasonCode (h.written reasonCode) (h.cached reasonCode) := by
  have hI : Kept math h := hrun.invariant (fun _ _ _ => kept_historyStep) kept_initial
  have hcached := rel_filter (hI.cache reasonCode) (fun _ _ => IsModelOf.isCalibrated)
  have hmodel := rel_filter (hI.models reasonCode) (fun _ _ => IsModelOf.isActive)
  rw [getEffectiveProbabilitiesSync_eq hsoft, hlower, getEffectiveProbabilities_eq, activeModel,
    Option.filter_filter]
  exact answer_eq_iff hcached hmodel

/-- Calls that each count one more of the same observation, of which the last is written and cached. -/
def observations (n : ℕ) (o : Observation) : List Action :=
  ((List.range (n + 1)).map fun call => .observe call o) ++
    List.replicate 3 (.resume (o.tenantId, n) true 0)

/-- Five expired cards that were paid leave both lookups with the static answer. -/
theorem lookups_agree_iff_expired_card :
    ∃ h, Run (historyStep ⟨id, id⟩) History.initial
        (observations 4 ⟨"tenant_a", "expired_card", true, true⟩) h ∧
      (getEffectiveProbabilitiesSync ⟨id, id⟩ h.state "expired_card" .soft).1 =
        (getEffectiveProbabilities h.state "expired_card").1 := by
  obtain ⟨h, hrun, hagree⟩ := exists_run_of_execute (historyStep ⟨id, id⟩) History.initial
    (observations 4 ⟨"tenant_a", "expired_card", true, true⟩)
    (fun h => decide (Agree ⟨id, id⟩ "expired_card" (h.written "expired_card")
      (h.cached "expired_card"))) (by decide +kernel)
  exact ⟨h, hrun, (lookups_agree_iff hrun (by decide) (by decide)).mpr (of_decide_eq_true hagree)⟩

/-- A model of a hundred declines that were never paid is a candidate, which only the cached path takes;
and before the first observation only the cached path finds the listed reason in `card_expired`. -/
theorem lookups_disagree :
    (∃ h, Run (historyStep ⟨id, id⟩) History.initial
        (observations 99 ⟨"tenant_a", "generic_decline", false, false⟩) h ∧
      (getEffectiveProbabilitiesSync ⟨id, id⟩ h.state "generic_decline" .soft).1 ≠
        (getEffectiveProbabilities h.state "generic_decline").1) ∧
      (getEffectiveProbabilitiesSync ⟨id, id⟩ State.initial "card_expired" .soft).1 ≠
        (getEffectiveProbabilities State.initial "card_expired").1 := by
  constructor
  · obtain ⟨h, hrun, hne⟩ := exists_run_of_execute (historyStep ⟨id, id⟩) History.initial
      (observations 99 ⟨"tenant_a", "generic_decline", false, false⟩)
      (fun h => decide ((getEffectiveProbabilitiesSync ⟨id, id⟩ h.state "generic_decline" .soft).1 ≠
        (getEffectiveProbabilities h.state "generic_decline").1)) (by decide +kernel)
    exact ⟨h, hrun, of_decide_eq_true hne⟩
  · decide +kernel

end BayesianProbabilityCalibrator

end CtrlRecovery
