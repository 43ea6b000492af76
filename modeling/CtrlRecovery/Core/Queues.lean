import Mathlib.Algebra.BigOperators.Group.Finset.Piecewise
import Mathlib.Algebra.Order.Group.Multiset
import Mathlib.Tactic.Abel

/-!
# Families of queues

A family of queues has a list of elements for each key of a finite type. Its contents are those of all
its lists together. What arrives at either end of one list is added to them, and what leaves a list is
taken from them.
-/

namespace Core

namespace Queues

variable {κ ρ : Type*} [Fintype κ] [DecidableEq κ]

def contents (queues : κ → List ρ) : Multiset ρ := ∑ k, (queues k : Multiset ρ)

variable {queues : κ → List ρ} {k : κ} {x : ρ} {xs : List ρ}

omit [DecidableEq κ] in
lemma mem_contents : x ∈ contents queues ↔ ∃ k, x ∈ queues k := by
  simp [contents, Multiset.mem_sum]

omit [DecidableEq κ] in
@[simp] lemma contents_nil : contents (fun _ : κ => ([] : List ρ)) = 0 := by
  simp [contents]

/-- Replacing one list takes its elements out and puts those of the new one in. -/
lemma contents_update :
    contents (Function.update queues k xs) + (queues k : Multiset ρ) = contents queues + ↑xs := by
  have hcoe : (fun j => (Function.update queues k xs j : Multiset ρ)) =
      Function.update (fun j => (queues j : Multiset ρ)) k (xs : Multiset ρ) := by
    funext j
    by_cases hj : j = k
    · subst hj
      simp
    · simp [hj]
  have hsplit := Finset.add_sum_erase Finset.univ (fun j => (queues j : Multiset ρ))
    (Finset.mem_univ k)
  rw [contents, contents, hcoe, Finset.sum_update_of_mem (Finset.mem_univ k), ← hsplit,
    Finset.sdiff_singleton_eq_erase]
  abel

lemma contents_cons : contents (Function.update queues k (x :: queues k)) = x ::ₘ contents queues := by
  have h : contents (Function.update queues k (x :: queues k)) + (queues k : Multiset ρ) = _ :=
    contents_update
  rw [← Multiset.cons_coe, Multiset.add_cons, ← Multiset.cons_add] at h
  exact add_right_cancel h

lemma contents_concat :
    contents (Function.update queues k (queues k ++ [x])) = x ::ₘ contents queues := by
  have h : contents (Function.update queues k (queues k ++ [x])) + (queues k : Multiset ρ) = _ :=
    contents_update
  rw [← Multiset.coe_add, Multiset.coe_singleton, ← add_assoc, add_right_comm] at h
  rw [add_right_cancel h, add_comm, Multiset.singleton_add]

lemma contents_of_cons (h : queues k = x :: xs) :
    contents queues = x ::ₘ contents (Function.update queues k xs) := by
  have hupdate : contents (Function.update queues k xs) + (queues k : Multiset ρ) = _ :=
    contents_update
  rw [h, ← Multiset.cons_coe, Multiset.add_cons, ← Multiset.cons_add] at hupdate
  exact (add_right_cancel hupdate).symm

lemma contents_of_concat (h : queues k = xs ++ [x]) :
    contents queues = x ::ₘ contents (Function.update queues k xs) := by
  have hupdate : contents (Function.update queues k xs) + (queues k : Multiset ρ) = _ :=
    contents_update
  rw [h, ← Multiset.coe_add, Multiset.coe_singleton, ← add_assoc, add_right_comm] at hupdate
  rw [← add_right_cancel hupdate, add_comm, Multiset.singleton_add]

end Queues

end Core
