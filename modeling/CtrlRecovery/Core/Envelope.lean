import Mathlib.Algebra.BigOperators.Group.List.Basic
import Mathlib.Algebra.Order.Field.Basic
import Mathlib.Tactic.Linarith

/-!
# Rate envelopes

A level that never exceeds `cap`, grows by at most `rate` for each unit of time and pays for the
amounts that are spent bounds what is spent in any interval: at most `cap + rate * length`
(`Metered.spent_le`). The bookkeeping is a structure with one rule for time that passes
(`Metered.advance`) and one for an amount that is spent (`Metered.spend`).
-/

namespace Core

namespace Envelope

variable {𝕜 : Type*} [Field 𝕜] [LinearOrder 𝕜]

/-- The total of the amounts that were spent in a closed interval; each comes with its time. -/
def spent (amounts : List (𝕜 × 𝕜)) (start stop : 𝕜) : 𝕜 :=
  ((amounts.filter fun a => start ≤ a.1 ∧ a.1 ≤ stop).map Prod.snd).sum

variable {cap rate now now' level level' start stop time amount : 𝕜} {amounts : List (𝕜 × 𝕜)}

@[simp] lemma spent_nil : spent ([] : List (𝕜 × 𝕜)) start stop = 0 := rfl

lemma spent_cons : spent ((time, amount) :: amounts) start stop =
    (if start ≤ time ∧ time ≤ stop then amount else 0) + spent amounts start stop := by
  by_cases h : start ≤ time ∧ time ≤ stop
  · simp [spent, h]
  · rw [if_neg h, zero_add, spent, spent, List.filter_cons_of_neg (by simpa using h)]

lemma spent_eq_zero (h : ∀ a ∈ amounts, ¬ (start ≤ a.1 ∧ a.1 ≤ stop)) :
    spent amounts start stop = 0 := by
  have hfilter : (amounts.filter fun a => start ≤ a.1 ∧ a.1 ≤ stop) = [] := by
    simpa [List.filter_eq_nil_iff] using h
  rw [spent, hfilter, List.map_nil, List.sum_nil]

lemma spent_congr_stop (h : ∀ a ∈ amounts, a.1 ≤ stop) (h' : ∀ a ∈ amounts, a.1 ≤ time) :
    spent amounts start stop = spent amounts start time := by
  rw [spent, spent]
  refine congrArg (fun l : List (𝕜 × 𝕜) => (l.map Prod.snd).sum) (List.filter_congr fun a ha => ?_)
  simp [h a ha, h' a ha]

/-- At the time `now` the level is within `0` and `cap`, the amounts are from the past, and what was
spent since any time, with the level, keeps within the envelope. -/
structure Metered (cap rate now level : 𝕜) (amounts : List (𝕜 × 𝕜)) : Prop where
  level_nonneg : 0 ≤ level
  level_le : level ≤ cap
  past : ∀ a ∈ amounts, a.1 ≤ now
  since : ∀ start ≤ now, spent amounts start now + level ≤ cap + rate * (now - start)
  spent_le : ∀ start stop, start ≤ stop → spent amounts start stop ≤ cap + rate * (stop - start)

namespace Metered

variable [IsStrictOrderedRing 𝕜]

lemma initial (hcap : 0 ≤ cap) (hrate : 0 ≤ rate) : Metered cap rate now cap [] where
  level_nonneg := hcap
  level_le := le_rfl
  past := by simp
  since start hstart := by
    have := mul_nonneg hrate (sub_nonneg.mpr hstart)
    simpa using this
  spent_le start stop hle := by
    have := mul_nonneg hrate (sub_nonneg.mpr hle)
    rw [spent_nil]
    linarith

/-- Time passes, and the level grows by at most the rate. -/
lemma advance (h : Metered cap rate now level amounts) (hrate : 0 ≤ rate) (hnow : now ≤ now')
    (hnonneg : 0 ≤ level') (hcap : level' ≤ cap) (hgrows : level' ≤ level + rate * (now' - now)) :
    Metered cap rate now' level' amounts where
  level_nonneg := hnonneg
  level_le := hcap
  past a ha := (h.past a ha).trans hnow
  since start hstart := by
    rw [spent_congr_stop (fun a ha => (h.past a ha).trans hnow) h.past]
    rcases le_or_gt start now with hle | hgt
    · have hsince := h.since start hle
      linarith
    · have hzero : spent amounts start now = 0 :=
        spent_eq_zero fun a ha hin => absurd (hin.1.trans (h.past a ha)) (not_le.mpr hgt)
      have := mul_nonneg hrate (sub_nonneg.mpr hstart)
      linarith
  spent_le := h.spent_le

/-- An amount that the level can pay for is spent. -/
lemma spend (h : Metered cap rate now level amounts) (hrate : 0 ≤ rate) (hnonneg : 0 ≤ amount)
    (hle : amount ≤ level) : Metered cap rate now (level - amount) ((now, amount) :: amounts) where
  level_nonneg := sub_nonneg.mpr hle
  level_le := (sub_le_self level hnonneg).trans h.level_le
  past := by
    rw [List.forall_mem_cons]
    exact ⟨le_rfl, h.past⟩
  since start hstart := by
    have hsince := h.since start hstart
    rw [spent_cons, if_pos ⟨hstart, le_rfl⟩]
    linarith
  spent_le start stop hstop := by
    rw [spent_cons]
    split_ifs with hin
    · -- the interval reaches up to now, so that what was spent in it was spent since its start
      have hsince := h.since start hin.1
      rw [spent_congr_stop (fun a ha => (h.past a ha).trans hin.2) h.past]
      have := mul_nonneg hrate (sub_nonneg.mpr hin.2)
      have hlevel := h.level_nonneg
      linarith
    · rw [zero_add]
      exact h.spent_le start stop hstop

end Metered

end Envelope

end Core
