import Mathlib.Data.Multiset.ZeroCons
import Mathlib.Data.Multiset.MapFold
import Mathlib.Data.Multiset.UnionInter
import Mathlib.Data.Finset.Insert
import Mathlib.Logic.Function.Basic
import Mathlib.Order.Lattice

/-!
# Tasks with a limited number of executions

A task is submitted with a limit on its executions, and one copy of it goes around. The copy is
executed, and after that it is retried while the limit allows, or the task is complete. A copy can
also be dropped.

A task is lost when its copy is dropped before the limit is reached. A step loses none exactly when
a copy that it drops has been executed up to its limit (`Step.noneLost_iff`).
-/

namespace Core

namespace Retries

/-- A copy of a task with the number of its executions so far; one more is `upcoming` or not. -/
structure Copy (τ : Type*) where
  task : τ
  limit : ℕ
  executions : ℕ
  upcoming : Bool

end Retries

/-- The tasks that were submitted, each with its limit, their live copies, how often each has been
executed, and which are complete. -/
structure Retries (τ : Type*) where
  submitted : Set (τ × ℕ)
  live : Multiset (Retries.Copy τ)
  executions : τ → ℕ
  completed : Finset τ

namespace Retries

variable {τ : Type*} {s t : Retries τ} {p : Prop}

/-- The steps, each with the condition under which it loses no task. -/
inductive Step [DecidableEq τ] (s : Retries τ) : Prop → Retries τ → Prop
  | stay : Step s True s
  | submit (task : τ) (limit : ℕ) (hfresh : ∀ l, (task, l) ∉ s.submitted) (hpos : 0 < limit) :
      Step s True
        { s with
          submitted := insert (task, limit) s.submitted
          live := ⟨task, limit, 0, true⟩ ::ₘ s.live }
  | execute {c : Copy τ} {rest : Multiset (Copy τ)} (hlive : s.live = c ::ₘ rest)
      (hupcoming : c.upcoming) :
      Step s True
        { s with
          live := { c with executions := c.executions + 1, upcoming := false } ::ₘ rest
          executions := Function.update s.executions c.task (s.executions c.task + 1) }
  | retry {c : Copy τ} {rest : Multiset (Copy τ)} (hlive : s.live = c ::ₘ rest)
      (hlimit : c.executions < c.limit) :
      Step s True { s with live := { c with upcoming := true } ::ₘ rest }
  | complete {c : Copy τ} {rest : Multiset (Copy τ)} (hlive : s.live = c ::ₘ rest) :
      Step s True { s with live := rest, completed := insert c.task s.completed }
  | drop {c : Copy τ} {rest : Multiset (Copy τ)} (hlive : s.live = c ::ₘ rest) :
      Step s (c.executions = c.limit) { s with live := rest }

/-- Each submitted task is complete, has been executed up to its limit, or has a live copy. -/
def NoneLost (s : Retries τ) : Prop :=
  ∀ task limit, (task, limit) ∈ s.submitted →
    task ∈ s.completed ∨ s.executions task = limit ∨
      ∃ c ∈ s.live, c.task = task ∧ c.executions = s.executions task

/-- A live copy tells how often its task has been executed. -/
structure Copy.Right (s : Retries τ) (c : Copy τ) : Prop where
  executions : s.executions c.task = c.executions
  pending : c.task ∉ s.completed
  limit : ∀ l, (c.task, l) ∈ s.submitted ↔ l = c.limit
  room : c.executions + c.upcoming.toNat ≤ c.limit

/-- A task has at most one live copy, which is right. -/
structure Tracked (s : Retries τ) : Prop where
  nodup : (s.live.map Copy.task).Nodup
  right : ∀ c ∈ s.live, c.Right s
  fresh : ∀ task, (∀ l, (task, l) ∉ s.submitted) → s.executions task = 0 ∧ task ∉ s.completed
  bounded : ∀ task limit, (task, limit) ∈ s.submitted → s.executions task ≤ limit

section Live

variable {c : Copy τ} {rest : Multiset (Copy τ)}

lemma Tracked.ne_task (h : Tracked s) (hlive : s.live = c ::ₘ rest) {c' : Copy τ}
    (hc' : c' ∈ rest) : c'.task ≠ c.task := by
  have hnodup := h.nodup
  rw [hlive, Multiset.map_cons, Multiset.nodup_cons] at hnodup
  exact fun heq => hnodup.1 (heq ▸ Multiset.mem_map_of_mem _ hc')

lemma Tracked.nodup_rest (h : Tracked s) (hlive : s.live = c ::ₘ rest) :
    (rest.map Copy.task).Nodup := by
  have hnodup := h.nodup
  rw [hlive, Multiset.map_cons, Multiset.nodup_cons] at hnodup
  exact hnodup.2

lemma Tracked.nodup_cons (h : Tracked s) (hlive : s.live = c ::ₘ rest) {c' : Copy τ}
    (htask : c'.task = c.task) : ((c' ::ₘ rest).map Copy.task).Nodup := by
  have hnodup := h.nodup
  rwa [hlive, Multiset.map_cons, ← htask, ← Multiset.map_cons] at hnodup

lemma Tracked.right_head (h : Tracked s) (hlive : s.live = c ::ₘ rest) : c.Right s :=
  h.right c (hlive ▸ Multiset.mem_cons_self ..)

lemma Tracked.right_rest (h : Tracked s) (hlive : s.live = c ::ₘ rest) :
    ∀ c' ∈ rest, c'.Right s :=
  fun c' hc' => h.right c' (hlive ▸ Multiset.mem_cons_of_mem hc')

lemma Copy.Right.congr (h : c.Right s) (hexecutions : t.executions c.task = s.executions c.task)
    (hcompleted : c.task ∈ t.completed ↔ c.task ∈ s.completed)
    (hsubmitted : ∀ l, (c.task, l) ∈ t.submitted ↔ (c.task, l) ∈ s.submitted) : c.Right t :=
  ⟨hexecutions.trans h.executions, fun hc => h.pending (hcompleted.mp hc),
    fun l => (hsubmitted l).trans (h.limit l), h.room⟩

end Live

/-- A task that is not the one of a copy is kept as before when that copy is taken. -/
lemma NoneLost.of_ne (hkept : NoneLost s) {c : Copy τ} {rest : Multiset (Copy τ)}
    (hlive : s.live = c ::ₘ rest) {task : τ} {limit : ℕ} (hl : (task, limit) ∈ s.submitted)
    (hne : task ≠ c.task) : task ∈ s.completed ∨ s.executions task = limit ∨
      ∃ c' ∈ rest, c'.task = task ∧ c'.executions = s.executions task := by
  obtain hdone | hlimit | ⟨c', hc', htask, hexecutions⟩ := hkept task limit hl
  · exact .inl hdone
  · exact .inr (.inl hlimit)
  · obtain rfl | hc' := Multiset.mem_cons.mp (hlive ▸ hc')
    · exact absurd htask.symm hne
    · exact .inr (.inr ⟨c', hc', htask, hexecutions⟩)

variable [DecidableEq τ]

/-- Every step keeps track of the tasks. -/
theorem Step.tracked (hstep : Step s p t) (h : Tracked s) : Tracked t := by
  cases hstep with
  | stay => exact h
  | submit task limit hfresh hpos =>
    have hnot : ∀ c ∈ s.live, c.task ≠ task := by
      rintro c hc rfl
      exact hfresh _ (((h.right c hc).limit _).mpr rfl)
    have hother : ∀ task' l, task' ≠ task →
        ((task', l) ∈ insert (task, limit) s.submitted ↔ (task', l) ∈ s.submitted) := by
      intro task' l hne
      simp [hne]
    refine ⟨?_, ?_, fun task' hnone => ?_, fun task' l hl => ?_⟩
    · rw [Multiset.map_cons, Multiset.nodup_cons]
      refine ⟨fun hmem => ?_, h.nodup⟩
      obtain ⟨c, hc, heq⟩ := Multiset.mem_map.mp hmem
      exact hnot c hc heq
    · intro c hc
      obtain rfl | hc := Multiset.mem_cons.mp hc
      · exact ⟨(h.fresh task hfresh).1, (h.fresh task hfresh).2,
          fun l => by simp [hfresh], hpos⟩
      · exact (h.right c hc).congr rfl Iff.rfl fun l => hother _ l (hnot c hc)
    · exact h.fresh task' fun l hl => hnone l (Set.mem_insert_of_mem _ hl)
    · obtain heq | hl := Set.mem_insert_iff.mp hl
      · cases heq
        exact (h.fresh task hfresh).1.trans_le (Nat.zero_le _)
      · exact h.bounded task' l hl
  | @execute c rest hlive hupcoming =>
    have hc := h.right_head hlive
    have hroom : c.executions + 1 ≤ c.limit := by simpa [hupcoming] using hc.room
    refine ⟨h.nodup_cons hlive rfl, ?_, fun task hnone => ?_, fun task l hl => ?_⟩
    · intro c' hc'
      obtain rfl | hc' := Multiset.mem_cons.mp hc'
      · exact ⟨by simp [hc.executions], hc.pending, hc.limit, hroom⟩
      · refine (h.right_rest hlive c' hc').congr ?_ Iff.rfl fun _ => Iff.rfl
        exact Function.update_of_ne (h.ne_task hlive hc') ..
    · have hne : task ≠ c.task := by
        rintro rfl
        exact hnone _ ((hc.limit _).mpr rfl)
      simp only [Function.update_of_ne hne]
      exact h.fresh task hnone
    · by_cases hne : task = c.task
      · subst hne
        obtain rfl := (hc.limit l).mp hl
        simpa [hc.executions] using hroom
      · simp only [Function.update_of_ne hne]
        exact h.bounded task l hl
  | @retry c rest hlive hlimit =>
    have hc := h.right_head hlive
    refine ⟨h.nodup_cons hlive rfl, ?_, h.fresh, h.bounded⟩
    intro c' hc'
    obtain rfl | hc' := Multiset.mem_cons.mp hc'
    · exact ⟨hc.executions, hc.pending, hc.limit, hlimit⟩
    · exact (h.right_rest hlive c' hc').congr rfl Iff.rfl fun _ => Iff.rfl
  | @complete c rest hlive =>
    have hc := h.right_head hlive
    refine ⟨h.nodup_rest hlive, fun c' hc' => ?_, fun task hnone => ?_, h.bounded⟩
    · refine (h.right_rest hlive c' hc').congr rfl ?_ fun _ => Iff.rfl
      simp [h.ne_task hlive hc']
    · refine ⟨(h.fresh task hnone).1, fun hmem => ?_⟩
      obtain rfl | hmem := Finset.mem_insert.mp hmem
      · exact hnone _ ((hc.limit _).mpr rfl)
      · exact (h.fresh task hnone).2 hmem
  | @drop c rest hlive =>
    refine ⟨h.nodup_rest hlive, fun c' hc' => ?_, h.fresh, h.bounded⟩
    exact (h.right_rest hlive c' hc').congr rfl Iff.rfl fun _ => Iff.rfl

/-- A step loses no task exactly under its condition. -/
theorem Step.noneLost_iff (hstep : Step s p t) (h : Tracked s) (hkept : NoneLost s) :
    NoneLost t ↔ p := by
  cases hstep with
  | stay => exact iff_of_true hkept trivial
  | submit task limit hfresh hpos =>
    refine iff_of_true (fun task' limit' hl => ?_) trivial
    obtain heq | hl := Set.mem_insert_iff.mp hl
    · cases heq
      exact .inr (.inr ⟨_, Multiset.mem_cons_self .., rfl, (h.fresh task hfresh).1.symm⟩)
    · refine (hkept task' limit' hl).imp_right (Or.imp_right ?_)
      rintro ⟨c, hc, hboth⟩
      exact ⟨c, Multiset.mem_cons_of_mem hc, hboth⟩
  | @execute c rest hlive hupcoming =>
    refine iff_of_true (fun task limit hl => ?_) trivial
    by_cases hne : task = c.task
    · subst hne
      exact .inr (.inr ⟨_, Multiset.mem_cons_self .., rfl,
        by simp [(h.right_head hlive).executions]⟩)
    · simp only [Function.update_of_ne hne]
      refine (hkept.of_ne hlive hl hne).imp_right (Or.imp_right ?_)
      rintro ⟨c', hc', hboth⟩
      exact ⟨c', Multiset.mem_cons_of_mem hc', hboth⟩
  | @retry c rest hlive hlimit =>
    refine iff_of_true (fun task limit hl => ?_) trivial
    by_cases hne : task = c.task
    · subst hne
      exact .inr (.inr ⟨_, Multiset.mem_cons_self .., rfl, (h.right_head hlive).executions.symm⟩)
    · refine (hkept.of_ne hlive hl hne).imp_right (Or.imp_right ?_)
      rintro ⟨c', hc', hboth⟩
      exact ⟨c', Multiset.mem_cons_of_mem hc', hboth⟩
  | @complete c rest hlive =>
    refine iff_of_true (fun task limit hl => ?_) trivial
    by_cases hne : task = c.task
    · exact .inl (Finset.mem_insert.mpr (.inl hne))
    · exact (hkept.of_ne hlive hl hne).imp_left (Finset.mem_insert_of_mem ·)
  | @drop c rest hlive =>
    have hc := h.right_head hlive
    constructor
    · intro hkept'
      obtain hdone | hlimit | ⟨c', hc', htask, -⟩ := hkept' c.task c.limit ((hc.limit _).mpr rfl)
      · exact absurd hdone hc.pending
      · exact hc.executions.symm.trans hlimit
      · exact absurd htask (h.ne_task hlive hc')
    · intro hlimit task limit hl
      by_cases hne : task = c.task
      · subst hne
        refine .inr (.inl ?_)
        rw [(hc.limit limit).mp hl]
        exact hc.executions.trans hlimit
      · exact hkept.of_ne hlive hl hne

end Retries

end Core
