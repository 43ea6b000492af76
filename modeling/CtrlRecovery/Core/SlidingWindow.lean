import Mathlib.Data.List.Count
import Mathlib.Data.Nat.Notation

/-!
# Sliding windows

A limit on the events of every interval of a given length. It is enough to look back whenever an
event happens: if fewer than `n` of the earlier ones are recent then, no interval has more than `n`
(`within_cons_le`).
-/

namespace Core

namespace SlidingWindow

variable {length now now' start n : ℕ} {times : List ℕ}

/-- The number of events in the interval from `start` on. -/
def within (length start : ℕ) (times : List ℕ) : ℕ :=
  times.countP fun time => start ≤ time && time < start + length

/-- The number of events that are less than `length` old. -/
def recent (length now : ℕ) (times : List ℕ) : ℕ := times.countP fun time => now < time + length

lemma recent_mono (h : now ≤ now') : recent length now' times ≤ recent length now times := by
  apply List.countP_mono_left
  intro time _ hrecent
  simp only [decide_eq_true_eq] at hrecent ⊢
  omega

lemma recent_eq_zero_iff : recent length now times = 0 ↔ ∀ time ∈ times, time + length ≤ now := by
  simp [recent, List.countP_eq_zero]

lemma recent_cons : recent length now (now' :: times) =
    recent length now times + if now < now' + length then 1 else 0 := by
  rw [recent, recent, List.countP_cons]
  simp only [decide_eq_true_eq]

lemma recent_cons_le : recent length now (now' :: times) ≤ recent length now times + 1 := by
  rw [recent_cons]
  split_ifs <;> omega

lemma within_le_recent (h : now < start + length) :
    within length start times ≤ recent length now times := by
  apply List.countP_mono_left
  intro time _ hwithin
  simp only [Bool.and_eq_true, decide_eq_true_eq] at hwithin ⊢
  omega

/-- An event at which fewer than `n` earlier ones are recent keeps the limit. -/
theorem within_cons_le (h : ∀ start, within length start times ≤ n)
    (hrecent : recent length now times < n) (start : ℕ) :
    within length start (now :: times) ≤ n := by
  have hcons : within length start (now :: times) = within length start times +
      if start ≤ now && now < start + length then 1 else 0 := List.countP_cons
  rw [hcons]
  split_ifs with hnow
  · simp only [Bool.and_eq_true, decide_eq_true_eq] at hnow
    have hle : within length start times ≤ recent length now times := within_le_recent hnow.2
    omega
  · exact h start

end SlidingWindow

end Core
