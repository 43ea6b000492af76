import Mathlib.Data.Nat.Notation
import Mathlib.Data.Option.Basic

/-!
# Transactions

A transaction is a list of statements, each of which changes the state or fails. It runs alone and
from front to back. A fault may strike before any one of the statements; a failed statement or a
fault rolls the transaction back, and the state is then the one before it.
-/

namespace Core.Transaction

variable {σ : Type*}

/-- The state after all statements, and `none` where one of them fails or where the fault strikes
before the statement it points at. -/
def attempt : List (σ → Option σ) → Option ℕ → σ → Option σ
  | [], _, s => some s
  | _ :: _, some 0, _ => none
  | stmt :: stmts, some (k + 1), s => (stmt s).bind (attempt stmts (some k))
  | stmt :: stmts, none, s => (stmt s).bind (attempt stmts none)

/-- The state after the transaction: committed when every statement succeeds, else rolled back. -/
def commitOrRollback (stmts : List (σ → Option σ)) (fault : Option ℕ) (s : σ) : σ :=
  (attempt stmts fault s).getD s

variable {stmts : List (σ → Option σ)} {fault : Option ℕ} {s t : σ}

lemma commitOrRollback_of_some (h : attempt stmts fault s = some t) :
    commitOrRollback stmts fault s = t := by
  rw [commitOrRollback, h, Option.getD_some]

lemma commitOrRollback_of_none (h : attempt stmts fault s = none) :
    commitOrRollback stmts fault s = s := by
  rw [commitOrRollback, h, Option.getD_none]

@[simp] lemma attempt_nil (fault : Option ℕ) (s : σ) : attempt [] fault s = some s := by
  cases fault <;> rfl

@[simp] lemma attempt_cons_none (stmt : σ → Option σ) (stmts : List (σ → Option σ)) (s : σ) :
    attempt (stmt :: stmts) none s = (stmt s).bind (attempt stmts none) := rfl

lemma attempt_append_none (stmts stmts' : List (σ → Option σ)) (s : σ) :
    attempt (stmts ++ stmts') none s = (attempt stmts none s).bind (attempt stmts' none) := by
  induction stmts generalizing s with
  | nil => simp
  | cons stmt stmts ih =>
    rw [List.cons_append, attempt_cons_none, attempt_cons_none, Option.bind_assoc]
    exact Option.bind_congr fun t _ => ih t

lemma attempt_eq_some (h : attempt stmts fault s = some t) :
    attempt stmts none s = some t := by
  induction stmts generalizing s fault with
  | nil => exact h
  | cons stmt stmts ih =>
    match fault with
    | none => exact h
    | some 0 => cases h
    | some (k + 1) =>
      simp only [attempt, Option.bind_eq_some_iff] at h ⊢
      obtain ⟨u, hu, hrest⟩ := h
      exact ⟨u, hu, ih hrest⟩

end Core.Transaction
