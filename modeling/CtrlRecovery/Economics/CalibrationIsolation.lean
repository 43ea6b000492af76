import CtrlRecovery.Core.Noninterference
import CtrlRecovery.Economics.CalibrationAgreement
import CtrlRecovery.Economics.CalibrationEvidence

/-!
# Calibration across tenants

Observations and priors are kept by tenant and reason, the cache that scores are computed from by reason
alone. The observations of a tenant are without influence on the scores of the others as long as its
updates leave the answers of the cache as they are, and as long as its keys are not those of another
tenant (`lookups_isolated_of_quiet`). An update that changes the answer of the cache changes it for every
tenant.
-/

namespace CtrlRecovery

open Core

namespace BayesianProbabilityCalibrator

def priorId (key : String × String) : String := "prior_" ++ key.1 ++ "_" ++ key.2

def Observation.priorKey (o : Observation) : String × String := (o.tenantId, o.normReason)

def Update.priorKey (u : Update) : String × String := (u.tenantId, u.reasonCode)

namespace Action

def tenantId : Action → String
  | .observe _ o   => o.tenantId
  | .resume id _ _ => id.1

def observation? : Action → Option Observation
  | .observe _ o  => some o
  | .resume _ _ _ => none

end Action

/-- What an entry of the cache, if there is one, answers a lookup with. -/
def calibratedAnswer (entry : Option CalibratedModelRecord) : Option EffectiveProbabilities :=
  (entry.filter CalibratedModelRecord.isCalibrated).map calibratedProbabilities

/-- The entry that an action writes to the cache. -/
def cacheWrite (s : State) : Action → Option (String × CalibratedModelRecord)
  | .observe _ _   => none
  | .resume id _ _ =>
    match s.calls id with
    | some (u, .caching updated) => some (u.reasonCode, updated)
    | _                          => none

/-- A cache write of the tenant leaves the answer of its entry: neither the entry nor the record is
calibrated, or both are and have equal means. -/
def Quiet (tenantA : String) (s : State) (action : Action) (_ : State) : Prop :=
  ∀ write ∈ cacheWrite s action, action.tenantId = tenantA →
    calibratedAnswer (s.cache write.1) = calibratedAnswer (some write.2)

instance (tenantA : String) (s t : State) (action : Action) : Decidable (Quiet tenantA s action t) :=
  inferInstanceAs (Decidable (∀ _ ∈ _, _))

/-- Two observations are counted under different keys, and the ids of their priors differ. -/
def Apart (o o' : Observation) : Prop :=
  o.cacheKey ≠ o'.cacheKey ∧ priorId o.priorKey ≠ priorId o'.priorKey

instance (o o' : Observation) : Decidable (Apart o o') := inferInstanceAs (Decidable (_ ∧ _))

/-- A process between calls, whatever its caches and tables hold. -/
structure Idle (s : State) : Prop where
  calls : ∀ id, s.calls id = none
  own : ∀ row ∈ s.priors.rows, row.id = priorId row.key

variable {math : JsMath} {s t u : State} {tenantA : String} {keys ids : Set String}

/-! ### Sound states -/

/-- Suspended updates are for the tenant of their call and a normalised reason, and every prior has the id
of its key. -/
structure Sound (s : State) : Prop where
  calls : ∀ id, ∀ call ∈ s.calls id,
    call.1.tenantId = id.1 ∧ Js.toLowerCase call.1.reasonCode = call.1.reasonCode
  own : ∀ row ∈ s.priors.rows, row.id = priorId row.key

/-- The priors that suspended updates write have an id in `ids` when the update is of the tenant. -/
def Marked (tenantA : String) (ids : Set String) (s : State) : Prop :=
  ∀ id, ∀ call ∈ s.calls id, priorId call.1.priorKey ∈ ids ↔ id.1 = tenantA

lemma Idle.sound (hidle : Idle s) : Sound s where
  calls id call hcall := by simp [hidle.calls id] at hcall
  own := hidle.own

lemma Idle.marked (hidle : Idle s) : Marked tenantA ids s := by
  intro id call hcall
  simp [hidle.calls id] at hcall

/-- An update that goes on changes its own call, to a later phase of itself or to nothing. -/
lemma calls_resume {id : String × ℕ} {succeeds : Bool} {now : Timestamp} {u : Update}
    {phase : UpdatePhase} :
    ∃ call, (resume math s id succeeds now u phase).calls = Function.update s.calls id call ∧
      ∀ p ∈ call, p.1 = u := by
  cases phase with
  | writingModel =>
    simp only [resume]
    cases (directBase u.reasonCode).filter fun _ => succeeds with
    | none      => exact ⟨none, rfl, by simp⟩
    | some base => exact ⟨some (u, _), rfl, by simp⟩
  | writingPrior updated =>
    simp only [resume]
    cases (directBase u.reasonCode).filter fun _ => succeeds with
    | none      => exact ⟨none, rfl, by simp⟩
    | some base =>
      cases hpriors : persistPrior s.priors
          (priorRecord u.tenantId u.reasonCode base u.observations now) with
      | none        => exact ⟨none, by simp only [hpriors]; rfl, by simp⟩
      | some priors => exact ⟨some (u, _), by simp only [hpriors]; rfl, by simp⟩
  | caching updated => exact ⟨none, rfl, by simp⟩

/-- A property of the suspended updates is kept when that of an observation has it. -/
lemma forall_calls_of_step {Q : String × ℕ → Update → Prop} {action : Action}
    (hQ : ∀ id, ∀ call ∈ s.calls id, Q id call.1) (hstep : step math s action = some t)
    (hnew : ∀ call o, action = .observe call o →
      Q (o.tenantId, call) ⟨o.tenantId, o.normReason, o.counted s⟩) :
    ∀ id, ∀ call ∈ t.calls id, Q id call.1 := by
  cases action with
  | observe call o =>
    simp only [step] at hstep
    split_ifs at hstep with hfree
    cases hstep
    simp only [observe]
    split_ifs with hfive
    · refine (Function.forall_update_iff s.calls fun id call => ∀ p ∈ call, Q id p.1).mpr
        ⟨?_, fun id _ => hQ id⟩
      rintro p ⟨⟩
      exact hnew call o rfl
    · exact hQ
  | resume id succeeds now =>
    obtain ⟨⟨u, phase⟩, hcall, rfl⟩ := Option.map_eq_some_iff.mp hstep
    obtain ⟨call, hcalls, hupdate⟩ : ∃ call, (resume math s id succeeds now u phase).calls =
      Function.update s.calls id call ∧ ∀ p ∈ call, p.1 = u := calls_resume
    rw [hcalls]
    refine (Function.forall_update_iff s.calls fun id call => ∀ p ∈ call, Q id p.1).mpr
      ⟨fun p hp => ?_, fun id _ => hQ id⟩
    rw [hupdate p hp]
    exact hQ id (u, phase) hcall

/-- Every step keeps the state sound. -/
lemma sound_step {action : Action} (hs : Sound s) (hstep : step math s action = some t) : Sound t where
  calls := by
    refine forall_calls_of_step (Q := fun id u =>
      u.tenantId = id.1 ∧ Js.toLowerCase u.reasonCode = u.reasonCode) hs.calls hstep ?_
    intro call o _
    exact ⟨rfl, Js.toLowerCase_toLowerCase _⟩
  own := by
    cases hu : persisted s action with
    | none =>
      rw [priors_of_persisted_none hstep hu]
      exact hs.own
    | some u =>
      obtain ⟨base, now, -, hpriors⟩ := priors_of_persisted hstep hu
      intro row hrow
      rw [hpriors] at hrow
      rcases Table.mem_put.mp hrow with rfl | ⟨hrow, -⟩
      · rfl
      · exact hs.own row hrow

lemma marked_step {action : Action} (hs : Marked tenantA ids s) (hstep : step math s action = some t)
    (hmarked : ∀ o ∈ action.observation?, priorId o.priorKey ∈ ids ↔ o.tenantId = tenantA) :
    Marked tenantA ids t := by
  refine forall_calls_of_step (Q := fun id u => priorId u.priorKey ∈ ids ↔ id.1 = tenantA) hs hstep ?_
  rintro call o rfl
  exact hmarked o rfl

/-- The ids of a table after a prior is put, in a table of priors with the ids of their keys. -/
lemma exists_id_put {priors : Table BayesianPriorRecord.key} {row : BayesianPriorRecord} {i : String}
    (hown : ∀ row ∈ priors.rows, row.id = priorId row.key) (hrow : row.id = priorId row.key) :
    (∃ other ∈ (priors.put row).rows, other.id = i) ↔
      i = row.id ∨ ∃ other ∈ priors.rows, other.id = i := by
  constructor
  · rintro ⟨other, hother, rfl⟩
    rcases Table.mem_put.mp hother with rfl | ⟨hother, -⟩
    · exact .inl rfl
    · exact .inr ⟨other, hother, rfl⟩
  · rintro (rfl | ⟨other, hother, rfl⟩)
    · exact ⟨row, Table.mem_put.mpr (.inl rfl), rfl⟩
    · by_cases hkey : other.key = row.key
      · exact ⟨row, Table.mem_put.mpr (.inl rfl), by rw [hrow, hown other hother, hkey]⟩
      · exact ⟨other, Table.mem_put.mpr (.inr ⟨hother, hkey⟩), rfl⟩

/-! ### States that are alike to the other tenants -/

/-- Two states are alike apart from the counts under `keys`, the calls and priors of the tenant, the ids of
priors in `ids` and the models. -/
structure Alike (tenantA : String) (keys ids : Set String) (s t : State) : Prop where
  counts : ∀ key ∉ keys, s.observationsCache key = t.observationsCache key
  calls : ∀ id, id.1 ≠ tenantA → s.calls id = t.calls id
  answers : ∀ r, calibratedAnswer (s.cache r) = calibratedAnswer (t.cache r)
  priors : ∀ key, key.1 ≠ tenantA → s.priors.find? key = t.priors.find? key
  ids : ∀ i ∉ ids, (∃ row ∈ s.priors.rows, row.id = i) ↔ ∃ row ∈ t.priors.rows, row.id = i

namespace Alike

lemma refl : Alike tenantA keys ids s s where
  counts _ _ := rfl
  calls _ _ := rfl
  answers _ := rfl
  priors _ _ := rfl
  ids _ _ := Iff.rfl

lemma symm (h : Alike tenantA keys ids s t) : Alike tenantA keys ids t s where
  counts key hkey := (h.counts key hkey).symm
  calls id hid := (h.calls id hid).symm
  answers r := (h.answers r).symm
  priors key hkey := (h.priors key hkey).symm
  ids i hi := (h.ids i hi).symm

lemma trans (h : Alike tenantA keys ids s t) (h' : Alike tenantA keys ids t u) :
    Alike tenantA keys ids s u where
  counts key hkey := (h.counts key hkey).trans (h'.counts key hkey)
  calls id hid := (h.calls id hid).trans (h'.calls id hid)
  answers r := (h.answers r).trans (h'.answers r)
  priors key hkey := (h.priors key hkey).trans (h'.priors key hkey)
  ids i hi := (h.ids i hi).trans (h'.ids i hi)

lemma lookup_eq (h : Alike tenantA keys ids s t) {reasonCode : String} {declineType : DeclineType} :
    (getEffectiveProbabilitiesSync math s reasonCode declineType).1 =
      (getEffectiveProbabilitiesSync math t reasonCode declineType).1 := by
  by_cases hhard : declineType = .hard
  · rw [getEffectiveProbabilitiesSync, getEffectiveProbabilitiesSync, if_pos hhard, if_pos hhard]
  · have hanswers := h.answers (Js.toLowerCase reasonCode)
    rw [calibratedAnswer, calibratedAnswer] at hanswers
    rw [getEffectiveProbabilitiesSync_eq hhard, getEffectiveProbabilitiesSync_eq hhard, answer, answer,
      hanswers]

lemma calls_hidden {id : String × ℕ} {call : Option (Update × UpdatePhase)}
    (h : Alike tenantA keys ids s t) (hid : id.1 = tenantA) :
    Alike tenantA keys ids { s with calls := Function.update s.calls id call } t :=
  ⟨h.counts, update_hidden h.calls (by simpa using hid), h.answers, h.priors, h.ids⟩

lemma calls_both {id : String × ℕ} {call : Option (Update × UpdatePhase)}
    (h : Alike tenantA keys ids s t) :
    Alike tenantA keys ids { s with calls := Function.update s.calls id call }
      { t with calls := Function.update t.calls id call } :=
  ⟨h.counts, update_both h.calls, h.answers, h.priors, h.ids⟩

section

variable {r : String} {updated : CalibratedModelRecord}

/-- A cache entry that answers like the one before is hidden. -/
lemma cache_hidden (h : Alike tenantA keys ids s t)
    (hwrite : calibratedAnswer (s.cache r) = calibratedAnswer (some updated)) :
    Alike tenantA keys ids { s with cache := Function.update s.cache r (some updated) } t where
  counts := h.counts
  calls := h.calls
  answers r' := by
    show calibratedAnswer (Function.update s.cache r (some updated) r') = calibratedAnswer (t.cache r')
    by_cases hr : r' = r
    · rw [hr, Function.update_self, ← hwrite]
      exact h.answers r
    · rw [Function.update_of_ne hr]
      exact h.answers r'
  priors := h.priors
  ids := h.ids

lemma cache_both (h : Alike tenantA keys ids s t) :
    Alike tenantA keys ids { s with cache := Function.update s.cache r (some updated) }
      { t with cache := Function.update t.cache r (some updated) } where
  counts := h.counts
  calls := h.calls
  answers r' := by
    show calibratedAnswer (Function.update s.cache r (some updated) r') =
      calibratedAnswer (Function.update t.cache r (some updated) r')
    by_cases hr : r' = r
    · rw [hr, Function.update_self, Function.update_self]
    · rw [Function.update_of_ne hr, Function.update_of_ne hr]
      exact h.answers r'
  priors := h.priors
  ids := h.ids

end

lemma models (h : Alike tenantA keys ids s t) (m m' : String → Option CalibratedModelRecord) :
    Alike tenantA keys ids { s with models := m } { t with models := m' } :=
  ⟨h.counts, h.calls, h.answers, h.priors, h.ids⟩

section

variable {row : BayesianPriorRecord}

lemma put_hidden (h : Alike tenantA keys ids s t) (hs : Sound s) (hrow : row.id = priorId row.key)
    (htenant : row.key.1 = tenantA) (hid : row.id ∈ ids) :
    Alike tenantA keys ids { s with priors := s.priors.put row } t where
  counts := h.counts
  calls := h.calls
  answers := h.answers
  priors key hkey := by
    have hne : key ≠ row.key := fun heq => hkey (heq ▸ htenant)
    exact (Table.find?_put_of_ne hne).trans (h.priors key hkey)
  ids i hi := by
    have hne : i ≠ row.id := fun heq => hi (heq ▸ hid)
    exact ((exists_id_put hs.own hrow).trans (or_iff_right hne)).trans (h.ids i hi)

/-- One prior that is put into both tables keeps the states alike. -/
lemma put_both (h : Alike tenantA keys ids s t) (hs : Sound s) (ht : Sound t)
    (hrow : row.id = priorId row.key) :
    Alike tenantA keys ids { s with priors := s.priors.put row }
      { t with priors := t.priors.put row } where
  counts := h.counts
  calls := h.calls
  answers := h.answers
  priors key hkey := by
    show (s.priors.put row).find? key = (t.priors.put row).find? key
    rw [Table.find?_put, Table.find?_put, h.priors key hkey]
  ids i hi := by
    show (∃ other ∈ (s.priors.put row).rows, other.id = i) ↔
      ∃ other ∈ (t.priors.put row).rows, other.id = i
    rw [exists_id_put hs.own hrow, exists_id_put ht.own hrow, h.ids i hi]

lemma taken_iff (h : Alike tenantA keys ids s t) (htenant : row.key.1 ≠ tenantA) (hid : row.id ∉ ids) :
    ((s.priors.find? row.key).isNone ∧ s.priors.rows.any fun other => other.id = row.id) ↔
      (t.priors.find? row.key).isNone ∧ t.priors.rows.any fun other => other.id = row.id := by
  have hids := h.ids row.id hid
  simp only [List.any_eq_true, decide_eq_true_eq, h.priors row.key htenant, hids]

end

end Alike

/-! ### Steps -/

/-- What a step of the tenant does stays hidden when its cache writes are quiet. -/
lemma alike_of_hidden {action : Action} (h : Alike tenantA keys ids s u) (hs : Sound s)
    (hmarked : Marked tenantA ids s) (hstep : step math s action = some t)
    (htenant : action.tenantId = tenantA) (hquiet : Quiet tenantA s action t)
    (hkey : ∀ o ∈ action.observation?, o.cacheKey ∈ keys) : Alike tenantA keys ids t u := by
  cases action with
  | observe call o =>
    simp only [step] at hstep
    split_ifs at hstep with hfree
    cases hstep
    have hcounts : ∀ key ∉ keys, Function.update s.observationsCache o.cacheKey
        (some (o.counted s)) key = u.observationsCache key :=
      update_hidden h.counts (not_not_intro (hkey o rfl))
    simp only [observe]
    split_ifs with hfive
    · have hid : (o.tenantId, call).1 = tenantA := htenant
      have halike : Alike tenantA keys ids { s with
          observationsCache := Function.update s.observationsCache o.cacheKey (some (o.counted s)) } u :=
        ⟨hcounts, h.calls, h.answers, h.priors, h.ids⟩
      exact halike.calls_hidden hid
    · exact ⟨hcounts, h.calls, h.answers, h.priors, h.ids⟩
  | resume id succeeds now =>
    obtain ⟨⟨w, phase⟩, hcall, rfl⟩ := Option.map_eq_some_iff.mp hstep
    obtain ⟨hw, -⟩ := hs.calls id (w, phase) hcall
    have hid : priorId w.priorKey ∈ ids := (hmarked id (w, phase) hcall).mpr htenant
    cases phase with
    | writingModel =>
      simp only [resume]
      cases (directBase w.reasonCode).filter fun _ => succeeds with
      | none      => exact h.calls_hidden htenant
      | some base => exact (h.models _ u.models).calls_hidden htenant
    | writingPrior updated =>
      simp only [resume]
      cases (directBase w.reasonCode).filter fun _ => succeeds with
      | none      => exact h.calls_hidden htenant
      | some base =>
        simp only [persistPrior]
        split_ifs with htaken
        · exact h.calls_hidden htenant
        · have hrow : (priorRecord w.tenantId w.reasonCode base w.observations now).key.1 = tenantA :=
            hw.trans htenant
          exact (h.put_hidden hs rfl hrow hid).calls_hidden htenant
    | caching updated =>
      have hwrite : calibratedAnswer (s.cache w.reasonCode) = calibratedAnswer (some updated) :=
        hquiet (w.reasonCode, updated) (by simp [cacheWrite, hcall]) htenant
      exact (h.cache_hidden hwrite).calls_hidden htenant

/-- An update of another tenant that goes on in two alike states leaves them alike. -/
lemma alike_resume {id : String × ℕ} {succeeds : Bool} {now : Timestamp} {w : Update}
    {phase : UpdatePhase} (h : Alike tenantA keys ids s u) (hs : Sound s) (hu : Sound u)
    (htenant : w.tenantId ≠ tenantA) (hid : priorId w.priorKey ∉ ids) :
    Alike tenantA keys ids (resume math s id succeeds now w phase)
      (resume math u id succeeds now w phase) := by
  cases phase with
  | writingModel =>
    simp only [resume]
    cases (directBase w.reasonCode).filter fun _ => succeeds with
    | none      => exact h.calls_both
    | some base => exact (h.models _ _).calls_both
  | writingPrior updated =>
    simp only [resume]
    cases (directBase w.reasonCode).filter fun _ => succeeds with
    | none      => exact h.calls_both
    | some base =>
      have hrow : (priorRecord w.tenantId w.reasonCode base w.observations now).key.1 ≠ tenantA :=
        htenant
      simp only [persistPrior, h.taken_iff hrow hid]
      split_ifs with htaken
      · exact h.calls_both
      · exact (h.put_both hs hu rfl).calls_both
  | caching updated => exact h.cache_both.calls_both

/-- A step of another tenant is matched in every alike state. -/
lemma alike_of_visible {action : Action} (h : Alike tenantA keys ids s u) (hs : Sound s) (hu : Sound u)
    (hmarked : Marked tenantA ids s) (hstep : step math s action = some t)
    (htenant : action.tenantId ≠ tenantA)
    (hkey : ∀ o ∈ action.observation?, o.cacheKey ∉ keys) :
    ∃ v, step math u action = some v ∧ Alike tenantA keys ids t v := by
  cases action with
  | observe call o =>
    have hcall : s.calls (o.tenantId, call) = u.calls (o.tenantId, call) := h.calls _ htenant
    have hobs : s.observationsCache o.cacheKey = u.observationsCache o.cacheKey :=
      h.counts _ (hkey o rfl)
    have hcounted : o.counted s = o.counted u := by rw [Observation.counted, hobs, Observation.counted]
    simp only [step] at hstep ⊢
    split_ifs at hstep with hfree
    cases hstep
    rw [if_pos (hcall ▸ hfree)]
    refine ⟨_, rfl, ?_⟩
    have hcounts : Alike tenantA keys ids
        { s with observationsCache := Function.update s.observationsCache o.cacheKey (o.counted s) }
        { u with observationsCache := Function.update u.observationsCache o.cacheKey (o.counted u) } :=
      ⟨hcounted ▸ update_both h.counts, h.calls, h.answers, h.priors, h.ids⟩
    simp only [observe, ← hcounted]
    rw [← hcounted] at hcounts
    split_ifs with hfive
    · exact hcounts.calls_both
    · exact hcounts
  | resume id succeeds now =>
    obtain ⟨⟨w, phase⟩, hcall, rfl⟩ := Option.map_eq_some_iff.mp hstep
    obtain ⟨hw, -⟩ := hs.calls id (w, phase) hcall
    have hcall' : u.calls id = some (w, phase) := (h.calls id htenant).symm.trans hcall
    have hid : priorId w.priorKey ∉ ids := fun hin => htenant ((hmarked id (w, phase) hcall).mp hin)
    refine ⟨resume math u id succeeds now w phase, by rw [step, hcall', Option.map_some], ?_⟩
    exact alike_resume h hs hu (hw ▸ htenant) hid

/-! ### Runs -/

/-- An action observes under a key in `keys` and for a prior with an id in `ids` when it is the tenant's.
-/
def MarkedBy (tenantA : String) (keys ids : Set String) (action : Action) : Prop :=
  ∀ o ∈ action.observation?,
    (o.cacheKey ∈ keys ↔ o.tenantId = tenantA) ∧ (priorId o.priorKey ∈ ids ↔ o.tenantId = tenantA)

/-- Sound states that are alike, of which the first has its updates marked. -/
structure Related (tenantA : String) (keys ids : Set String) (s t : State) : Prop where
  alike : Alike tenantA keys ids s t
  sound : Sound s
  sound' : Sound t
  marked : Marked tenantA ids s
  marked' : Marked tenantA ids t

lemma tenantId_of_observation {action : Action} {o : Observation} (h : o ∈ action.observation?) :
    action.tenantId = o.tenantId := by
  cases action with
  | observe call o' =>
    cases h
    rfl
  | resume id succeeds now => cases h

/-- Quiet steps of marked actions unwind those of the tenant. -/
lemma unwinding (math : JsMath) (tenantA : String) (keys ids : Set String) :
    Unwinding (step math) (fun action => action.tenantId = tenantA)
      (fun s action t => Quiet tenantA s action t ∧ MarkedBy tenantA keys ids action)
      (Related tenantA keys ids) where
  hide := by
    rintro s action t u hR hstep ⟨hquiet, hmarked⟩ htenant
    have hkey : ∀ o ∈ action.observation?, o.cacheKey ∈ keys := by
      intro o ho
      exact (hmarked o ho).1.mpr ((tenantId_of_observation ho).symm.trans htenant)
    exact ⟨alike_of_hidden hR.alike hR.sound hR.marked hstep htenant hquiet hkey,
      sound_step hR.sound hstep, hR.sound',
      marked_step hR.marked hstep fun o ho => (hmarked o ho).2, hR.marked'⟩
  follow := by
    rintro s action t u hR hstep ⟨-, hmarked⟩ htenant
    have hkey : ∀ o ∈ action.observation?, o.cacheKey ∉ keys := by
      intro o ho hin
      exact htenant ((tenantId_of_observation ho).trans ((hmarked o ho).1.mp hin))
    obtain ⟨v, hv, halike⟩ := alike_of_visible hR.alike hR.sound hR.sound' hR.marked hstep htenant hkey
    exact ⟨v, hv, halike, sound_step hR.sound hstep, sound_step hR.sound' hv,
      marked_step hR.marked hstep fun o ho => (hmarked o ho).2,
      marked_step hR.marked' hv fun o ho => (hmarked o ho).2⟩

def observed (actions : List Action) : List Observation := actions.filterMap Action.observation?

/-- Different answers of an entry are different answers of a lookup. -/
lemma answer_ne {base : Option StaticProbability} {entry entry' : Option CalibratedModelRecord}
    (hne : calibratedAnswer entry ≠ calibratedAnswer entry') :
    answer base (entry.filter CalibratedModelRecord.isCalibrated) ≠
      answer base (entry'.filter CalibratedModelRecord.isCalibrated) := by
  simp only [calibratedAnswer] at hne
  cases hentry : entry.filter CalibratedModelRecord.isCalibrated with
  | none =>
    cases hentry' : entry'.filter CalibratedModelRecord.isCalibrated with
    | none   => exact absurd (by rw [hentry, hentry']) hne
    | some _ => simp [answer, staticProbabilities, calibratedProbabilities]
  | some record =>
    cases hentry' : entry'.filter CalibratedModelRecord.isCalibrated with
    | none   => simp [answer, staticProbabilities, calibratedProbabilities]
    | some _ => simpa [answer, hentry, hentry'] using hne

/-- A step that is not quiet is the tenant's and changes the probabilities of a lookup. -/
lemma lookup_ne_of_not_quiet {action : Action} (hs : Sound s) (hstep : step math s action = some t)
    (hnot : ¬ Quiet tenantA s action t) :
    action.tenantId = tenantA ∧
      ∃ reasonCode, (getEffectiveProbabilitiesSync math s reasonCode .soft).1 ≠
        (getEffectiveProbabilitiesSync math t reasonCode .soft).1 := by
  simp only [Quiet, not_forall] at hnot
  obtain ⟨write, hwrite, htenant, hne⟩ := hnot
  refine ⟨htenant, write.1, ?_⟩
  cases action with
  | observe call o => cases hwrite
  | resume id succeeds now =>
    obtain ⟨⟨w, phase⟩, hcall, rfl⟩ := Option.map_eq_some_iff.mp hstep
    obtain ⟨-, hlower⟩ := hs.calls id (w, phase) hcall
    simp only [cacheWrite, hcall] at hwrite
    cases phase with
    | writingModel         => cases hwrite
    | writingPrior updated => cases hwrite
    | caching updated =>
      obtain rfl : (w.reasonCode, updated) = write := Option.some.inj hwrite
      rw [getEffectiveProbabilitiesSync_eq (by decide), getEffectiveProbabilitiesSync_eq (by decide),
        hlower]
      refine answer_ne ?_
      show _ ≠ calibratedAnswer (Function.update s.cache w.reasonCode (some updated) w.reasonCode)
      rw [Function.update_self]
      exact hne

/-- Actions whose observations are apart from those of the tenant are marked by its keys and ids. -/
lemma markedBy_of_apart {actions : List Action}
    (hapart : ∀ o ∈ observed actions, ∀ o' ∈ observed actions,
      o.tenantId = tenantA → o'.tenantId ≠ tenantA → Apart o o') :
    ∀ action ∈ actions,
      MarkedBy tenantA {key | ∃ o ∈ observed actions, o.tenantId = tenantA ∧ o.cacheKey = key}
        {id | ∃ o ∈ observed actions, o.tenantId = tenantA ∧ priorId o.priorKey = id} action := by
  intro action haction o ho
  have hmem : o ∈ observed actions := List.mem_filterMap.mpr ⟨action, haction, ho⟩
  constructor
  · constructor
    · rintro ⟨o', ho', htenant, hkey⟩
      by_contra hne
      exact (hapart o' ho' o hmem htenant hne).1 hkey
    · intro htenant
      exact ⟨o, hmem, htenant, rfl⟩
  · constructor
    · rintro ⟨o', ho', htenant, hid⟩
      by_contra hne
      exact (hapart o' ho' o hmem htenant hne).2 hid
    · intro htenant
      exact ⟨o, hmem, htenant, rfl⟩

/-- Two histories that differ only in the calls of a tenant give every lookup the same probabilities, when
the cache writes of the tenant are quiet in both and no other tenant shares its keys. And a step that is
not quiet is one of the tenant that changes the probabilities of a lookup. -/
theorem lookups_isolated_of_quiet (math : JsMath) {start : State} (hidle : Idle start)
    (tenantA : String) :
    (∀ as as' t t', Run (step math) start as t → Run (step math) start as' t' →
      (as.filter fun action => ¬ action.tenantId = tenantA) =
        (as'.filter fun action => ¬ action.tenantId = tenantA) →
      AllSteps (step math) (Quiet tenantA) start as →
      AllSteps (step math) (Quiet tenantA) start as' →
      (∀ o ∈ observed (as ++ as'), ∀ o' ∈ observed (as ++ as'),
        o.tenantId = tenantA → o'.tenantId ≠ tenantA → Apart o o') →
      ∀ reasonCode declineType,
        (getEffectiveProbabilitiesSync math t reasonCode declineType).1 =
          (getEffectiveProbabilitiesSync math t' reasonCode declineType).1) ∧
    ∀ as s action t, Run (step math) start as s → step math s action = some t →
      ¬ Quiet tenantA s action t → action.tenantId = tenantA ∧
        ∃ reasonCode, (getEffectiveProbabilitiesSync math s reasonCode .soft).1 ≠
          (getEffectiveProbabilitiesSync math t reasonCode .soft).1 := by
  constructor
  · intro as as' t t' hrun hrun' hothers hquiet hquiet' hapart reasonCode declineType
    have hmarked := markedBy_of_apart hapart
    have hall := hquiet.and (allSteps_of_forall_mem fun action haction =>
      hmarked action (List.mem_append_left _ haction))
    have hall' := hquiet'.and (allSteps_of_forall_mem fun action haction =>
      hmarked action (List.mem_append_right _ haction))
    have hrelated := (unwinding math tenantA _ _).related
      (fun s t h => ⟨h.alike.symm, h.sound', h.sound, h.marked', h.marked⟩)
      (fun s t u h h' => ⟨h.alike.trans h'.alike, h.sound, h'.sound', h.marked, h'.marked'⟩)
      ⟨.refl, hidle.sound, hidle.sound, hidle.marked, hidle.marked⟩ hrun hrun' hall hall' hothers
    exact hrelated.alike.lookup_eq
  · intro as s action t hrun hstep hnot
    have hs : Sound s := hrun.invariant (fun _ _ _ hs => sound_step hs) hidle.sound
    exact lookup_ne_of_not_quiet hs hstep hnot

lemma idle_initial : Idle State.initial where
  calls id := rfl
  own row hrow := by simp [State.initial] at hrow

/-- Five outcomes of a tenant leave the lookups that the outcomes of another one lead to. -/
theorem lookups_isolated_of_quiet_initial :
    ∃ t t', Run (step ⟨id, id⟩) State.initial
        (observations 4 ⟨"tenant_a", "expired_card", true, true⟩ ++
          observations 4 ⟨"tenant_b", "expired_card", false, true⟩) t ∧
      Run (step ⟨id, id⟩) State.initial
        (observations 4 ⟨"tenant_b", "expired_card", false, true⟩) t' ∧
      ∀ reasonCode declineType,
        (getEffectiveProbabilitiesSync ⟨id, id⟩ t reasonCode declineType).1 =
          (getEffectiveProbabilitiesSync ⟨id, id⟩ t' reasonCode declineType).1 := by
  obtain ⟨t, hrun, -⟩ := exists_run_of_execute (step ⟨id, id⟩) State.initial
    (observations 4 ⟨"tenant_a", "expired_card", true, true⟩ ++
      observations 4 ⟨"tenant_b", "expired_card", false, true⟩) (fun _ => true) (by decide +kernel)
  obtain ⟨t', hrun', -⟩ := exists_run_of_execute (step ⟨id, id⟩) State.initial
    (observations 4 ⟨"tenant_b", "expired_card", false, true⟩) (fun _ => true) (by decide +kernel)
  exact ⟨t, t', hrun, hrun',
    (lookups_isolated_of_quiet ⟨id, id⟩ idle_initial "tenant_a").1 _ _ t t' hrun hrun' (by decide)
      (by decide +kernel) (by decide +kernel) (by decide +kernel)⟩

/-- A hundred declines of one tenant calibrate the reason for every other. -/
theorem lookups_depend_on_other_tenant :
    ¬ ∀ as as' t t', Run (step ⟨id, id⟩) State.initial as t →
      Run (step ⟨id, id⟩) State.initial as' t' →
      (as.filter fun action => ¬ action.tenantId = "tenant_a") =
        (as'.filter fun action => ¬ action.tenantId = "tenant_a") →
      ∀ reasonCode declineType,
        (getEffectiveProbabilitiesSync ⟨id, id⟩ t reasonCode declineType).1 =
          (getEffectiveProbabilitiesSync ⟨id, id⟩ t' reasonCode declineType).1 := by
  intro hall
  obtain ⟨t, hrun, hne⟩ := exists_run_of_execute (step ⟨id, id⟩) State.initial
    (observations 99 ⟨"tenant_a", "generic_decline", false, false⟩)
    (fun t => decide ((getEffectiveProbabilitiesSync ⟨id, id⟩ t "generic_decline" .soft).1 ≠
      (getEffectiveProbabilitiesSync ⟨id, id⟩ State.initial "generic_decline" .soft).1))
    (by decide +kernel)
  exact of_decide_eq_true hne (hall _ [] t State.initial hrun (.nil _) (by decide +kernel) _ _)

end BayesianProbabilityCalibrator

end CtrlRecovery
