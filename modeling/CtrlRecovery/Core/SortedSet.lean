import Mathlib.Data.List.Nodup
import Mathlib.Data.Rat.Defs

/-!
# Sorted sets

The sorted sets of a Redis server: distinct members with scores, and a time until which the key
lives. The members are kept in the order in which they were added, latest first. A key whose last
member is removed is deleted, with its time to live.
-/

namespace Core

structure SortedSet (μ : Type*) where
  entries : List (μ × ℕ)
  expiresAt : Option ℚ
  nodup : (entries.map Prod.fst).Nodup

namespace SortedSet

variable {μ : Type*}

def empty : SortedSet μ := ⟨[], none, List.nodup_nil⟩

variable (s : SortedSet μ)

def live (now : ℚ) : SortedSet μ := if s.expiresAt.any (· < now) then empty else s

def zremrangebyscore (low high : ℚ) : SortedSet μ where
  entries := s.entries.filter fun entry => ¬ (low ≤ entry.2 ∧ entry.2 ≤ high)
  expiresAt :=
    if s.entries.all fun entry => low ≤ entry.2 ∧ entry.2 ≤ high then none else s.expiresAt
  nodup := s.nodup.sublist (List.filter_sublist.map Prod.fst)

/-- A member that is there already gets the new score. -/
def zadd [DecidableEq μ] (score : ℕ) (member : μ) : SortedSet μ where
  entries := (member, score) :: s.entries.filter fun entry => entry.1 ≠ member
  expiresAt := s.expiresAt
  nodup := by
    refine List.nodup_cons.mpr ⟨?_, s.nodup.sublist (List.filter_sublist.map Prod.fst)⟩
    simp only [List.mem_map, List.mem_filter, decide_eq_true_eq]
    rintro ⟨entry, ⟨-, hne⟩, heq⟩
    exact hne heq

def zcard : ℕ := s.entries.length

/-- The seconds are to be an integer; a time to live that is not positive deletes the key. -/
def expire (now seconds : ℚ) : SortedSet μ :=
  if seconds.den = 1 then
    if seconds ≤ 0 then empty else { s with expiresAt := some (now + seconds * 1000) }
  else s

def lowestScore : Option ℕ := (s.entries.map Prod.snd).min?

variable {s} [DecidableEq μ] {score : ℕ} {member : μ}

lemma entries_zadd_of_notMem (h : member ∉ s.entries.map Prod.fst) :
    (s.zadd score member).entries = (member, score) :: s.entries := by
  have hfilter : (s.entries.filter fun entry => entry.1 ≠ member) = s.entries := by
    rw [List.filter_eq_self]
    intro entry hentry
    simp only [decide_eq_true_eq]
    rintro rfl
    exact h (List.mem_map_of_mem hentry)
  exact congrArg ((member, score) :: ·) hfilter

end SortedSet

end Core
