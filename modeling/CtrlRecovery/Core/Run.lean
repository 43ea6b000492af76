import Mathlib.Data.List.Basic

/-!
# Runs of a transition system

A transition system is a partial step function `step : σ → α → Option σ`: `step s a` is the state
that the action `a` leads to from `s`, and `none` where `a` is not enabled in `s`.

A run is a list of actions performed in order (`Run`), and a property of the steps of a run is a
relation between the state before a step, its action and the state after it (`AllSteps`). The two
rules used throughout are that an invariant kept by every step of a run holds where the run ends
(`Run.invariant`), and that a condition on the steps carries over to any property that it implies
under an invariant (`AllSteps.of_invariant`).
-/

namespace Core

variable {σ α : Type*} {step : σ → α → Option σ}

/-! ### Runs -/

/-- The actions `as`, performed in order from `s`, lead to `t`. -/
inductive Run (step : σ → α → Option σ) : σ → List α → σ → Prop
  | nil (s : σ) : Run step s [] s
  | cons {s t u : σ} {a : α} {as : List α} :
      step s a = some t → Run step t as u → Run step s (a :: as) u

/-- Perform a list of actions; `none` as soon as one of them is not enabled. -/
def execute (step : σ → α → Option σ) : σ → List α → Option σ
  | s, []      => some s
  | s, a :: as => (step s a).bind fun t => execute step t as

@[simp] lemma execute_nil (s : σ) : execute step s [] = some s := rfl

@[simp] lemma execute_cons (s : σ) (a : α) (as : List α) :
    execute step s (a :: as) = (step s a).bind fun t => execute step t as := rfl

lemma run_iff_execute {s t : σ} {as : List α} :
    Run step s as t ↔ execute step s as = some t := by
  induction as generalizing s with
  | nil =>
    simp only [execute_nil, Option.some.injEq]
    constructor
    · rintro ⟨⟩
      rfl
    · rintro rfl
      exact .nil s
  | cons a as ih =>
    simp only [execute_cons, Option.bind_eq_some_iff]
    constructor
    · rintro (_ | ⟨h, hrun⟩)
      exact ⟨_, h, ih.mp hrun⟩
    · rintro ⟨u, h, hrun⟩
      exact .cons h (ih.mpr hrun)

lemma exists_run_of_execute (step : σ → α → Option σ) (s : σ) (as : List α) (p : σ → Bool)
    (h : (execute step s as).any p) : ∃ t, Run step s as t ∧ p t := by
  obtain ⟨t, ht, hp⟩ := (Option.any_eq_true p _).mp h
  exact ⟨t, run_iff_execute.mpr ht, hp⟩

lemma execute_append (s : σ) (as bs : List α) :
    execute step s (as ++ bs) = (execute step s as).bind fun t => execute step t bs := by
  induction as generalizing s with
  | nil => rfl
  | cons a as ih =>
    simp only [List.cons_append, execute_cons, Option.bind_assoc]
    exact Option.bind_congr fun t _ => ih t

lemma Run.of_append {s t u : σ} {as bs : List α} (h : Run step s (as ++ bs) u)
    (h' : Run step s as t) : Run step t bs u := by
  rw [run_iff_execute] at h h' ⊢
  rwa [execute_append, h', Option.bind_some] at h

lemma Run.append {s t u : σ} {as bs : List α} (h : Run step s as t) (h' : Run step t bs u) :
    Run step s (as ++ bs) u := by
  induction h with
  | nil => exact h'
  | cons hstep _ ih => exact .cons hstep (ih h')

/-! ### Properties of the steps of a run -/

/-- Every step taken while performing `as` from `s` satisfies `P`. -/
def AllSteps (step : σ → α → Option σ) (P : σ → α → σ → Prop) : σ → List α → Prop
  | _, []      => True
  | s, a :: as => ∀ t, step s a = some t → P s a t ∧ AllSteps step P t as

variable {P Q : σ → α → σ → Prop} {I : σ → Prop}

@[simp] lemma allSteps_nil (s : σ) : AllSteps step P s [] := trivial

lemma allSteps_cons {s : σ} {a : α} {as : List α} :
    AllSteps step P s (a :: as) ↔ ∀ t, step s a = some t → P s a t ∧ AllSteps step P t as :=
  Iff.rfl

instance AllSteps.instDecidable [∀ s a t, Decidable (P s a t)] :
    ∀ (s : σ) (as : List α), Decidable (AllSteps step P s as)
  | _, []      => isTrue trivial
  | s, a :: as =>
    match h : step s a with
    | none   => isTrue fun t ht => by simp [h] at ht
    | some t =>
      have : Decidable (AllSteps step P t as) := AllSteps.instDecidable t as
      decidable_of_iff (P s a t ∧ AllSteps step P t as)
        ⟨fun hp u hu => by rw [h] at hu; cases hu; exact hp, fun hp => hp t h⟩

lemma AllSteps.of_append {s t : σ} {as bs : List α} (hall : AllSteps step P s (as ++ bs))
    (hrun : Run step s as t) : AllSteps step P t bs := by
  induction hrun with
  | nil => exact hall
  | cons hstep _ ih => exact ih (hall _ hstep).2

lemma AllSteps.left {s : σ} {as bs : List α} (hall : AllSteps step P s (as ++ bs)) :
    AllSteps step P s as := by
  induction as generalizing s with
  | nil => trivial
  | cons a as ih =>
    intro t ht
    exact ⟨(hall t ht).1, ih (hall t ht).2⟩

lemma AllSteps.at_step {s t u : σ} {as bs : List α} {a : α}
    (hall : AllSteps step P s (as ++ a :: bs)) (hrun : Run step s as t)
    (hstep : step t a = some u) : P t a u :=
  (hall.of_append hrun u hstep).1

lemma allSteps_of_forall {s : σ} {as : List α}
    (h : ∀ pre a rest t u, as = pre ++ a :: rest → Run step s pre t → step t a = some u → P t a u) :
    AllSteps step P s as := by
  induction as generalizing s with
  | nil => trivial
  | cons a as ih =>
    intro t ht
    refine ⟨h [] a as s t rfl (.nil s) ht, ih fun pre b rest t' u has hpre hstep => ?_⟩
    exact h (a :: pre) b rest t' u (by rw [has, List.cons_append]) (.cons ht hpre) hstep

lemma allSteps_of_forall_mem {Q : α → Prop} {s : σ} {as : List α} (h : ∀ a ∈ as, Q a) :
    AllSteps step (fun _ a _ => Q a) s as := by
  induction as generalizing s with
  | nil => trivial
  | cons a as ih =>
    intro t _
    exact ⟨h a List.mem_cons_self, ih fun b hb => h b (List.mem_cons_of_mem a hb)⟩

lemma AllSteps.and {s : σ} {as : List α} (hP : AllSteps step P s as)
    (hQ : AllSteps step Q s as) : AllSteps step (fun s a t => P s a t ∧ Q s a t) s as := by
  induction as generalizing s with
  | nil => trivial
  | cons a as ih =>
    intro t ht
    exact ⟨⟨(hP t ht).1, (hQ t ht).1⟩, ih (hP t ht).2 (hQ t ht).2⟩

/-- What a condition on the steps implies under an invariant that it keeps, the steps satisfy. -/
theorem AllSteps.of_invariant
    (keep : ∀ s a t, I s → step s a = some t → P s a t → I t)
    (imp : ∀ s a t, I s → step s a = some t → P s a t → Q s a t)
    {s : σ} {as : List α} (h₀ : I s) (hall : AllSteps step P s as) : AllSteps step Q s as := by
  induction as generalizing s with
  | nil => trivial
  | cons a as ih =>
    intro t ht
    obtain ⟨hP, hrest⟩ := hall t ht
    exact ⟨imp s a t h₀ ht hP, ih (keep s a t h₀ ht hP) hrest⟩

lemma AllSteps.mono (imp : ∀ s a t, step s a = some t → P s a t → Q s a t)
    {s : σ} {as : List α} (hall : AllSteps step P s as) : AllSteps step Q s as :=
  AllSteps.of_invariant (I := fun _ => True) (fun _ _ _ _ _ _ => trivial)
    (fun s a t _ => imp s a t) trivial hall

/-- Where every step keeps an invariant and satisfies `Q` under it, the steps of a run all do. -/
lemma allSteps_of_invariant (keep : ∀ s a t, I s → step s a = some t → I t ∧ Q s a t)
    {s : σ} {as : List α} (h₀ : I s) : AllSteps step Q s as := by
  induction as generalizing s with
  | nil => trivial
  | cons a as ih =>
    intro t ht
    obtain ⟨hI, hQ⟩ := keep s a t h₀ ht
    exact ⟨hQ, ih hI⟩

/-- Two step properties that agree under an invariant of the system hold of the same runs. -/
theorem allSteps_iff_of_invariant (keep : ∀ s a t, I s → step s a = some t → I t)
    (iff : ∀ s a t, I s → step s a = some t → (P s a t ↔ Q s a t))
    {s : σ} {as : List α} (h₀ : I s) : AllSteps step P s as ↔ AllSteps step Q s as :=
  ⟨AllSteps.of_invariant (fun s a t hI h _ => keep s a t hI h)
      (fun s a t hI h hP => (iff s a t hI h).mp hP) h₀,
    AllSteps.of_invariant (fun s a t hI h _ => keep s a t hI h)
      (fun s a t hI h hQ => (iff s a t hI h).mpr hQ) h₀⟩

lemma allSteps_congr (iff : ∀ s a t, step s a = some t → (P s a t ↔ Q s a t)) {s : σ}
    {as : List α} : AllSteps step P s as ↔ AllSteps step Q s as :=
  ⟨AllSteps.mono fun s a t h => (iff s a t h).mp, AllSteps.mono fun s a t h => (iff s a t h).mpr⟩

/-! ### Invariants -/

/-- An invariant kept by every step that satisfies `P` holds at the end of a run of such steps. -/
theorem Run.invariant_of_allSteps (keep : ∀ s a t, I s → step s a = some t → P s a t → I t)
    {s t : σ} {as : List α} (hrun : Run step s as t) (hall : AllSteps step P s as)
    (h₀ : I s) : I t := by
  induction hrun with
  | nil => exact h₀
  | cons hstep _ ih =>
    obtain ⟨hP, hrest⟩ := hall _ hstep
    exact ih hrest (keep _ _ _ h₀ hstep hP)

/-- A property of the state that a step keeps exactly when it satisfies `P` holds at the end of a
run exactly when it holds at the start and every step satisfies `P`. -/
theorem Run.iff_allSteps (iff : ∀ s a t, step s a = some t → (I t ↔ I s ∧ P s a t))
    {s t : σ} {as : List α} (hrun : Run step s as t) : I t ↔ I s ∧ AllSteps step P s as := by
  induction hrun with
  | nil => simp
  | @cons s t u a as hstep _ ih =>
    rw [ih, iff s a t hstep, allSteps_cons, and_assoc]
    refine and_congr_right fun _ => ⟨fun h v hv => ?_, fun h => h t hstep⟩
    rw [hstep, Option.some.injEq] at hv
    exact hv ▸ h

/-- A property of the state that a step from a state with it leads to exactly when the step
satisfies `P` holds in every state of a run exactly when it holds at the start and every step
satisfies `P`. -/
theorem always_iff_allSteps (iff : ∀ s a t, I s → step s a = some t → (I t ↔ P s a t))
    {s : σ} {as : List α} :
    (∀ pre rest t, as = pre ++ rest → Run step s pre t → I t) ↔ I s ∧ AllSteps step P s as := by
  constructor
  · intro h
    have hlater : ∀ pre rest t, as = pre ++ rest → Run step s pre t → I t := h
    refine ⟨h [] as s rfl (.nil s), allSteps_of_forall fun pre a rest t u has hpre hstep => ?_⟩
    have ht : I t := hlater pre (a :: rest) t has hpre
    have hu : I u := hlater (pre ++ [a]) rest u (by simp [has]) (hpre.append (.cons hstep (.nil u)))
    exact (iff t a u ht hstep).mp hu
  · rintro ⟨h₀, hall⟩ pre rest t has hpre
    rw [has] at hall
    exact hpre.invariant_of_allSteps (fun s a t hI hstep hP => (iff s a t hI hstep).mpr hP)
      hall.left h₀

/-- An invariant kept by every step holds at the end of every run. -/
theorem Run.invariant (keep : ∀ s a t, I s → step s a = some t → I t)
    {s t : σ} {as : List α} (hrun : Run step s as t) (h₀ : I s) : I t := by
  induction hrun with
  | nil => exact h₀
  | cons hstep _ ih => exact ih (keep _ _ _ h₀ hstep)

/-- The same rule, where the step rule needs an invariant `J` of all runs. -/
theorem always_iff_allSteps_of_invariant {J : σ → Prop}
    (keep : ∀ s a t, J s → step s a = some t → J t)
    (iff : ∀ s a t, J s → I s → step s a = some t → (I t ↔ P s a t))
    {s : σ} {as : List α} (h₀ : I s) (hJ : J s) :
    (∀ pre rest t, as = pre ++ rest → Run step s pre t → I t) ↔ AllSteps step P s as := by
  have hstep : ∀ s a t, I s ∧ J s → step s a = some t → (I t ∧ J t ↔ P s a t) := by
    rintro s a t ⟨hI, hJ⟩ hstep
    rw [and_iff_left (keep s a t hJ hstep)]
    exact iff s a t hJ hI hstep
  refine Iff.trans ?_ ((always_iff_allSteps hstep).trans (and_iff_right ⟨h₀, hJ⟩))
  refine forall₃_congr fun pre rest t => forall₂_congr fun _ hrun => ?_
  rw [and_iff_left (hrun.invariant keep hJ)]

/-- What no step takes away is never lost: once `I` holds, it holds in every later state. -/
theorem Run.stable {s t : σ} {as : List α} (hrun : Run step s as t)
    (hall : AllSteps step (fun s _ t => I s → I t) s as) (h₀ : I s) : I t :=
  hrun.invariant_of_allSteps (fun _ _ _ hI _ hkeep => hkeep hI) hall h₀

/-- The steps of a run all keep each of a family of properties exactly when none of them, once it
holds in a state of the run, fails in a later one. -/
theorem allSteps_keeps_iff {ι : Type*} {J : ι → σ → Prop} {s : σ} {as : List α} :
    AllSteps step (fun s _ t => ∀ i, J i s → J i t) s as ↔
      ∀ pre mid rest t u, as = pre ++ mid ++ rest → Run step s pre t → Run step t mid u →
        ∀ i, J i t → J i u := by
  constructor
  · intro hall pre mid rest t u has hpre hmid i hi
    rw [has, List.append_assoc] at hall
    exact hmid.stable ((hall.of_append hpre).left.mono fun _ _ _ _ hkeep => hkeep i) hi
  · intro h
    induction as generalizing s with
    | nil => trivial
    | cons a as ih =>
      intro t ht
      refine ⟨fun i hi => ?_, ih fun pre mid rest t' u has hpre hmid => ?_⟩
      · exact h [] [a] as s t rfl (.nil s) (.cons ht (.nil t)) i hi
      · exact h (a :: pre) mid rest t' u (by simp [has]) (.cons ht hpre) hmid

end Core
