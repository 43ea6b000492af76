import Mathlib.Data.List.Basic

/-!
# Straight-line programs that may throw

The operations of a program are performed one after the other, and the first one that throws ends
it, unless the program catches what that operation throws. Which operations throw is given by their
positions; `effect` is what an operation does to the state when it is gone through.

A program returns exactly when only caught operations throw (`returned_iff`), and has then had all of
its effects (`state_of_returned`). Where the last operation is the only one that ends a condition on
the state, the condition outlives the program exactly when that does not return
(`persists_iff_not_returned`).
-/

namespace Core

variable {ω σ : Type*}

/-- The state in which a program ends, and whether it has returned. -/
def perform (effect : σ → ω → σ) (caught : ω → Bool) (throws : ℕ → Bool) :
    ℕ → List ω → σ → σ × Bool
  | _, [], s        => (s, true)
  | i, op :: ops, s =>
    if throws i && !caught op then (s, false)
    else perform effect caught throws (i + 1) ops (effect s op)

variable {effect : σ → ω → σ} {caught : ω → Bool} {throws : ℕ → Bool} {i : ℕ} {op : ω}
  {ops : List ω} {s : σ}

@[simp] lemma perform_nil : perform effect caught throws i [] s = (s, true) := rfl

lemma perform_of_throw (h : throws i ∧ caught op = false) :
    perform effect caught throws i (op :: ops) s = (s, false) := by
  simp [perform, h]

lemma perform_cons (h : throws i → caught op) :
    perform effect caught throws i (op :: ops) s =
      perform effect caught throws (i + 1) ops (effect s op) := by
  rw [perform, if_neg]
  rw [Bool.and_eq_true, Bool.not_eq_true', not_and, Bool.not_eq_false]
  exact h

/-- The operations that throw are caught. -/
def OnlyCaught (caught : ω → Bool) (throws : ℕ → Bool) (i : ℕ) (ops : List ω) : Prop :=
  ∀ k op, ops[k]? = some op → throws (i + k) → caught op

lemma onlyCaught_cons :
    OnlyCaught caught throws i (op :: ops) ↔
      (throws i → caught op) ∧ OnlyCaught caught throws (i + 1) ops := by
  constructor
  · intro h
    refine ⟨fun hthrow => h 0 op rfl hthrow, fun k op' hop hthrow => h (k + 1) op' hop ?_⟩
    rwa [Nat.add_assoc, Nat.add_comm 1] at hthrow
  · rintro ⟨hfirst, hrest⟩ k op' hop hthrow
    cases k with
    | zero =>
      rw [List.getElem?_cons_zero, Option.some.injEq] at hop
      exact hop ▸ hfirst hthrow
    | succ k =>
      refine hrest k op' hop ?_
      rwa [Nat.add_assoc, Nat.add_comm 1]

theorem returned_iff :
    (perform effect caught throws i ops s).2 = true ↔ OnlyCaught caught throws i ops := by
  induction ops generalizing i s with
  | nil => exact iff_of_true rfl fun k op hop => by simp at hop
  | cons op ops ih =>
    rw [onlyCaught_cons]
    by_cases h : throws i → caught op
    · rw [perform_cons h, ih, and_iff_right h]
    · rw [Classical.not_imp, Bool.not_eq_true] at h
      rw [perform_of_throw h]
      simp [h]

theorem state_of_returned (h : (perform effect caught throws i ops s).2 = true) :
    (perform effect caught throws i ops s).1 = ops.foldl effect s := by
  induction ops generalizing i s with
  | nil => rfl
  | cons op ops ih =>
    have hop := (onlyCaught_cons.mp (returned_iff.mp h)).1
    rw [perform_cons hop] at h ⊢
    exact ih h

/-- A condition that is kept by every operation but the last, which ends it. -/
theorem persists_iff_not_returned {P : σ → Prop} {last : ω}
    (hkeep : ∀ op ∈ ops, ∀ s, P s → P (effect s op)) (hend : ∀ s, ¬ P (effect s last)) (h : P s) :
    P (perform effect caught throws i (ops ++ [last]) s).1 ↔
      (perform effect caught throws i (ops ++ [last]) s).2 = false := by
  induction ops generalizing i s with
  | nil =>
    by_cases hthrow : throws i → caught last
    · rw [List.nil_append, perform_cons hthrow]
      simpa using hend s
    · rw [Classical.not_imp, Bool.not_eq_true] at hthrow
      rw [List.nil_append, perform_of_throw hthrow]
      simpa using h
  | cons op ops ih =>
    rw [List.cons_append]
    by_cases hthrow : throws i → caught op
    · rw [perform_cons hthrow]
      exact ih (fun op' hop' => hkeep op' (List.mem_cons_of_mem _ hop'))
        (hkeep op List.mem_cons_self s h)
    · rw [Classical.not_imp, Bool.not_eq_true] at hthrow
      rw [perform_of_throw hthrow]
      simpa using h

end Core
