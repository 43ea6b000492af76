import CtrlRecovery.Core.SlidingWindow
import Mathlib.Algebra.BigOperators.Group.Finset.Piecewise
import Mathlib.Algebra.Order.BigOperators.Group.Finset

/-!
# Limits per key

Events that carry a key. Where every key has a limit of its own, all the events together keep the limit
that is as many times as high as there are keys (`within_le_card_mul`).
-/

namespace Core

namespace SlidingWindow

open Finset

variable {κ : Type*} [DecidableEq κ] {length start n : ℕ} {events : List (κ × ℕ)} {keys : Finset κ}

def ofKey (key : κ) (events : List (κ × ℕ)) : List ℕ :=
  (events.filter fun event => event.1 = key).map Prod.snd

lemma ofKey_cons (key : κ) (event : κ × ℕ) : ofKey key (event :: events) =
    if event.1 = key then event.2 :: ofKey key events else ofKey key events := by
  rw [ofKey, List.filter_cons]
  split_ifs <;> simp_all [ofKey]

lemma ofKey_sublist {key : κ} {events' : List (κ × ℕ)} (h : events.Sublist events') :
    (ofKey key events).Sublist (ofKey key events') := (h.filter _).map _

lemma within_le_of_sublist {times times' : List ℕ} (h : times.Sublist times') :
    within length start times ≤ within length start times' := h.countP_le

lemma within_cons (time : ℕ) (times : List ℕ) : within length start (time :: times) =
    within length start times + if start ≤ time ∧ time < start + length then 1 else 0 := by
  rw [within, List.countP_cons]
  simp [within]

/-- The events are counted key by key. -/
lemma within_eq_sum (h : ∀ event ∈ events, event.1 ∈ keys) :
    within length start (events.map Prod.snd) =
      ∑ key ∈ keys, within length start (ofKey key events) := by
  induction events with
  | nil => simp [within, ofKey]
  | cons event events ih =>
    rw [List.forall_mem_cons] at h
    have hsplit : ∀ key, within length start (ofKey key (event :: events)) =
        within length start (ofKey key events) +
          if event.1 = key then
            (if start ≤ event.2 ∧ event.2 < start + length then 1 else 0) else 0 := by
      intro key
      rw [ofKey_cons]
      split_ifs <;> simp_all [within_cons]
    simp only [List.map_cons, within_cons, ih h.2, hsplit, sum_add_distrib, sum_ite_eq, h.1, if_true]

/-- Limits per key bound all the events. -/
theorem within_le_card_mul (h : ∀ event ∈ events, event.1 ∈ keys)
    (hlimit : ∀ key ∈ keys, within length start (ofKey key events) ≤ n) :
    within length start (events.map Prod.snd) ≤ keys.card * n := by
  rw [within_eq_sum h]
  exact sum_le_card_nsmul keys _ n hlimit

end SlidingWindow

end Core
