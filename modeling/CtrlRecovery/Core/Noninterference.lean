import CtrlRecovery.Core.Run
import Mathlib.Logic.Function.Basic

/-!
# Noninterference

Some actions of a transition system are hidden from an observer. A relation on states unwinds the hidden
actions when a hidden step keeps its state related to every state that it was related to, and a step that
is not hidden is matched by one of the related state (`Unwinding`). Then two runs from one state that
differ only in hidden actions end in related states (`Unwinding.related`).
-/

namespace Core

variable {σ α : Type*} {step : σ → α → Option σ}

lemma Run.unique {s t t' : σ} {as : List α} (hrun : Run step s as t) (hrun' : Run step s as t') :
    t = t' := by
  rw [run_iff_execute] at hrun hrun'
  exact Option.some.inj (hrun.symm.trans hrun')

/-- The steps that satisfy `P` unwind the hidden actions along `R`. -/
structure Unwinding (step : σ → α → Option σ) (hidden : α → Prop) (P : σ → α → σ → Prop)
    (R : σ → σ → Prop) : Prop where
  hide : ∀ s a t u, R s u → step s a = some t → P s a t → hidden a → R t u
  follow : ∀ s a t u, R s u → step s a = some t → P s a t → ¬ hidden a →
    ∃ v, step u a = some v ∧ R t v

namespace Unwinding

variable {hidden : α → Prop} [DecidablePred hidden] {P : σ → α → σ → Prop} {R : σ → σ → Prop}
  {s t t' u : σ} {as as' : List α}

/-- A run is followed by one without its hidden actions. -/
lemma purge (hunwind : Unwinding step hidden P R) (hrun : Run step s as t)
    (hall : AllSteps step P s as) (hR : R s u) :
    ∃ v, Run step u (as.filter fun a => ¬ hidden a) v ∧ R t v := by
  induction hrun generalizing u with
  | nil s => exact ⟨u, .nil u, hR⟩
  | @cons s t _ a as hstep _ ih =>
    obtain ⟨hP, hrest⟩ := hall t hstep
    by_cases ha : hidden a
    · rw [List.filter_cons_of_neg (by simpa using ha)]
      exact ih hrest (hunwind.hide s a t u hR hstep hP ha)
    · rw [List.filter_cons_of_pos (by simpa using ha)]
      obtain ⟨v, hv, hRv⟩ := hunwind.follow s a t u hR hstep hP ha
      obtain ⟨w, hw, hRw⟩ := ih hrest hRv
      exact ⟨w, .cons hv hw, hRw⟩

/-- Runs from one state that differ only in hidden actions end in related states. -/
theorem related (hunwind : Unwinding step hidden P R) (hsymm : ∀ s t, R s t → R t s)
    (htrans : ∀ s t u, R s t → R t u → R s u) (hs : R s s) (hrun : Run step s as t)
    (hrun' : Run step s as' t') (hall : AllSteps step P s as) (hall' : AllSteps step P s as')
    (hfilter : as.filter (fun a => ¬ hidden a) = as'.filter fun a => ¬ hidden a) : R t t' := by
  obtain ⟨v, hv, hR⟩ := hunwind.purge hrun hall hs
  obtain ⟨v', hv', hR'⟩ := hunwind.purge hrun' hall' hs
  rw [hfilter] at hv
  obtain rfl : v = v' := hv.unique hv'
  exact htrans t v t' hR (hsymm t' v hR')

end Unwinding

/-! ### Functions that agree on the visible arguments -/

section

variable {κ τ : Type*} [DecidableEq κ] {f g : κ → τ} {visible : κ → Prop} {k : κ} {v : τ}

lemma update_hidden (h : ∀ j, visible j → f j = g j) (hk : ¬ visible k) :
    ∀ j, visible j → Function.update f k v j = g j := by
  intro j hj
  have hne : j ≠ k := fun heq => hk (heq ▸ hj)
  rw [Function.update_of_ne hne]
  exact h j hj

lemma update_both (h : ∀ j, visible j → f j = g j) :
    ∀ j, visible j → Function.update f k v j = Function.update g k v j := by
  intro j hj
  by_cases heq : j = k
  · subst heq
    rw [Function.update_self, Function.update_self]
  · rw [Function.update_of_ne heq, Function.update_of_ne heq]
    exact h j hj

end

end Core
