import CtrlRecovery.Queue.JobQueue

/-!
# The delivery of jobs

Every job whose push is over is in exactly one place: in a list in Redis, in a list in memory, or with
the pop that has returned it (`Conserved`). So no job is returned twice, and a null answer is right
exactly when neither store has a job of the types.
-/

namespace CtrlRecovery

open Core

namespace DistributedJobQueue

variable {α : Type} {s t : State α} {types : List JobType}

/-! ### What the pops promise -/

/-- No job is returned twice, and a pop that is made while Redis is connected returns null only when
every pushed job of its types has been returned. -/
structure AnswersRight (s : State α) (_ : Action α) (t : State α) : Prop where
  once : t.returned.Nodup
  complete : ∀ types, t.answers = .null types true :: s.answers →
    ∀ queued ∈ s.pushed, queued.job.type ∈ types → queued ∈ s.returned

/-- A null answer to a pop that is made while Redis is connected is not given by one store while the
other one has a job of its types. -/
def NothingElsewhere (s : State α) (action : Action α) (_ : State α) : Prop :=
  match action with
  | .timeout call =>
    ∀ types timeoutSeconds, s.waiting call = some (.popping types timeoutSeconds) →
      firstType s.memoryQueues types = none
  | .fail call    =>
    ∀ types, s.waiting call = some (.popping types 0) → firstType s.memoryQueues types = none →
      firstType s.redis types = none
  | .resume call  =>
    ∀ types, s.waiting call = some (.pausing types true) → firstType s.memoryQueues types = none →
      firstType s.redis types = none
  | _             => True

/-! ### Lists -/

lemma firstType_eq_none {queues : JobType → List (Queued α)} :
    firstType queues types = none ↔ ∀ type ∈ types, queues type = [] := by
  simp [firstType]

lemma ne_nil_of_firstType {queues : JobType → List (Queued α)} {type : JobType}
    (h : firstType queues types = some type) : queues type ≠ [] := by
  simpa using List.find?_some h

/-- A `brpop` that is answered takes the last element of a list. -/
lemma of_brpop (h : s.brpop types = some t) :
    ∃ type queued rest, s.redis type = rest ++ [queued] ∧
      t = { s with redis := Function.update s.redis type rest }.answer (.job queued) := by
  simp only [State.brpop] at h
  obtain ⟨type, htype, h⟩ := Option.bind_eq_some_iff.mp h
  obtain ⟨queued, hlast, rfl⟩ := Option.map_eq_some_iff.mp h
  exact ⟨type, queued, _, (List.dropLast_append_getLast? _ hlast).symm, rfl⟩

lemma of_memoryPop (h : s.memoryPop types = some t) :
    ∃ type queued rest, s.memoryQueues type = queued :: rest ∧
      t = { s with memoryQueues := Function.update s.memoryQueues type rest }.answer
        (.job queued) := by
  simp only [State.memoryPop] at h
  obtain ⟨type, htype, h⟩ := Option.bind_eq_some_iff.mp h
  obtain ⟨queued, hhead, rfl⟩ := Option.map_eq_some_iff.mp h
  exact ⟨type, queued, _, (List.cons_head?_tail hhead).symm, rfl⟩

lemma memoryPop_eq_none : s.memoryPop types = none ↔ firstType s.memoryQueues types = none := by
  rw [State.memoryPop, Option.bind_eq_none_iff]
  constructor
  · intro h
    by_contra hsome
    obtain ⟨type, htype⟩ := Option.ne_none_iff_exists'.mp hsome
    have hhead := h type htype
    rw [Option.map_eq_none_iff, List.head?_eq_none_iff] at hhead
    exact ne_nil_of_firstType htype hhead
  · intro h type htype
    simp [h] at htype

/-! ### What a step does -/

/-- The effect of a step, with `p` standing for its condition. -/
inductive Effect (s : State α) (p : Prop) : State α → Prop
  | quiet (connected : Bool) (waiting : ℕ → Option (Waiting α)) (hp : p) :
      Effect s p { s with isRedisConnected := connected, waiting }
  | pushedToRedis (job : QueueJob α) (waiting : ℕ → Option (Waiting α)) (hp : p) :
      Effect s p { s.lpush job with waiting }
  | pushedToMemory (job : QueueJob α) (waiting : ℕ → Option (Waiting α)) (hp : p) :
      Effect s p { s.memoryPush job with waiting }
  | poppedFromRedis {types : List JobType} {t : State α} (waiting : ℕ → Option (Waiting α))
      (h : s.brpop types = some t) (hp : p) : Effect s p { t with waiting }
  | poppedFromMemory {types : List JobType} {t : State α} (waiting : ℕ → Option (Waiting α))
      (h : s.memoryPop types = some t) (hp : p) : Effect s p { t with waiting }
  | missed (types : List JobType) (connected : Bool) (waiting : ℕ → Option (Waiting α))
      (hp : p ↔ (connected = true →
        firstType s.redis types = none ∧ firstType s.memoryQueues types = none)) :
      Effect s p { s.answer (.null types connected) with waiting }

lemma effect_push {p : Prop} (hp : p) (call : ℕ) (job : QueueJob α) :
    Effect s p (s.push call job) := by
  rw [State.push]
  split_ifs
  · exact .quiet _ _ hp
  · exact .pushedToMemory job _ hp

lemma effect_popMemory {p : Prop} {call timeoutSeconds : ℕ} {connected : Bool}
    (hp : p ↔ (connected = true → timeoutSeconds = 0 → firstType s.memoryQueues types = none →
      firstType s.redis types = none)) :
    Effect s p (s.popMemory call types timeoutSeconds connected) := by
  rw [State.popMemory]
  cases hpop : s.memoryPop types with
  | some t =>
    obtain ⟨type, queued, rest, hqueue, -⟩ := of_memoryPop hpop
    refine .poppedFromMemory _ hpop (hp.mpr fun _ _ hnone => ?_)
    rw [memoryPop_eq_none.mpr hnone] at hpop
    cases hpop
  | none   =>
    simp only
    split_ifs with htimeout
    · exact .quiet _ _ (hp.mpr fun _ hzero => by omega)
    · have hzero : timeoutSeconds = 0 := by omega
      have hnone := memoryPop_eq_none.mp hpop
      refine .missed types connected _ (hp.trans ?_)
      simp [hzero, hnone]

lemma effect_step {action : Action α} (h : step s action = some t) :
    Effect s (NothingElsewhere s action t) t := by
  cases action with
  | connect => cases h; exact .quiet _ _ trivial
  | error   => cases h; exact .quiet _ _ trivial
  | push call request stamp =>
    simp only [step] at h
    split_ifs at h
    cases h
    exact effect_push trivial call _
  | retry call job stamp =>
    simp only [step] at h
    split_ifs at h
    split at h
    · cases h
      exact effect_push trivial call _
    · cases h
      exact .quiet _ _ trivial
  | pop call types timeoutSeconds =>
    simp only [step] at h
    split_ifs at h
    cases h
    rw [State.pop]
    split_ifs
    · exact .quiet _ _ trivial
    · exact effect_popMemory (by simp [NothingElsewhere])
  | reply call =>
    simp only [step] at h
    split at h
    · cases h
      exact .pushedToRedis _ _ trivial
    · obtain ⟨u, hpop, rfl⟩ := Option.map_eq_some_iff.mp h
      exact .poppedFromRedis _ hpop trivial
    · cases h
  | timeout call =>
    simp only [step] at h
    split at h
    next types timeoutSeconds hwaiting =>
      split_ifs at h with hempty
      cases h
      refine .missed types true _ ?_
      simp [NothingElsewhere, hwaiting, hempty.2.2]
    · cases h
  | fail call =>
    simp only [step] at h
    split at h
    next hwaiting =>
      cases h
      exact .pushedToMemory _ _ (by simp [NothingElsewhere, hwaiting])
    next types timeoutSeconds hwaiting =>
      cases h
      refine effect_popMemory ?_
      simp only [NothingElsewhere, hwaiting, Option.some.injEq, Waiting.popping.injEq]
      aesop
    · cases h
  | resume call =>
    simp only [step] at h
    split at h
    next types connected hwaiting =>
      split at h
      next hpop =>
        cases h
        obtain ⟨type, queued, rest, hqueue, -⟩ := of_memoryPop hpop
        refine .poppedFromMemory _ hpop ?_
        simp only [NothingElsewhere, hwaiting, Option.some.injEq, Waiting.pausing.injEq]
        rintro types' ⟨rfl, -⟩ hnone
        rw [memoryPop_eq_none.mpr hnone] at hpop
        cases hpop
      next hpop =>
        cases h
        have hnone := memoryPop_eq_none.mp hpop
        refine .missed types connected _ ?_
        simp only [NothingElsewhere, hwaiting, Option.some.injEq, Waiting.pausing.injEq]
        aesop
    · cases h

/-! ### Conservation -/

/-- Each job whose push is over is in one place. -/
structure Conserved (s : State α) : Prop where
  balance : (s.pushed : Multiset (Queued α)) =
    Queues.contents s.redis + Queues.contents s.memoryQueues + (s.returned : Multiset (Queued α))
  nodup : s.pushed.Nodup
  serial_lt : ∀ queued ∈ s.pushed, queued.serial < s.pushed.length
  redis_type : ∀ type, ∀ queued ∈ s.redis type, queued.job.type = type
  memory_type : ∀ type, ∀ queued ∈ s.memoryQueues type, queued.job.type = type

lemma conserved_initial : Conserved (State.initial : State α) where
  balance := by simp [State.initial, State.returned]
  nodup := List.nodup_nil
  serial_lt := by simp [State.initial]
  redis_type := by simp [State.initial]
  memory_type := by simp [State.initial]

lemma Conserved.nodup_cons (h : Conserved s) (job : QueueJob α) :
    (s.queued job :: s.pushed).Nodup := by
  rw [List.nodup_cons]
  exact ⟨fun hmem => Nat.lt_irrefl _ (h.serial_lt _ hmem), h.nodup⟩

lemma Conserved.serial_lt_cons (h : Conserved s) (job : QueueJob α) :
    ∀ queued ∈ s.queued job :: s.pushed, queued.serial < (s.queued job :: s.pushed).length := by
  intro queued hmem
  rcases List.mem_cons.mp hmem with rfl | hmem
  · simp [State.queued]
  · exact Nat.lt_succ_of_lt (h.serial_lt queued hmem)

lemma typed_update {queues : JobType → List (Queued α)} {type : JobType} {xs : List (Queued α)}
    (h : ∀ type, ∀ queued ∈ queues type, queued.job.type = type)
    (hxs : ∀ queued ∈ xs, queued.job.type = type) (other : JobType) (queued : Queued α)
    (hmem : queued ∈ Function.update queues type xs other) : queued.job.type = other := by
  by_cases hother : other = type
  · subst hother
    rw [Function.update_self] at hmem
    exact hxs queued hmem
  · rw [Function.update_of_ne hother] at hmem
    exact h other queued hmem

lemma conserved_effect {p : Prop} (hs : Conserved s) (h : Effect s p t) : Conserved t := by
  cases h with
  | quiet connected waiting hp =>
    exact ⟨hs.balance, hs.nodup, hs.serial_lt, hs.redis_type, hs.memory_type⟩
  | pushedToRedis job waiting hp =>
    refine ⟨?_, hs.nodup_cons job, hs.serial_lt_cons job, ?_, hs.memory_type⟩
    · show ((s.queued job :: s.pushed : List _) : Multiset (Queued α)) =
        Queues.contents (Function.update s.redis job.type (s.queued job :: s.redis job.type)) +
          Queues.contents s.memoryQueues + (s.returned : Multiset (Queued α))
      rw [Queues.contents_cons, ← Multiset.cons_coe, hs.balance, Multiset.cons_add,
        Multiset.cons_add]
    · refine typed_update hs.redis_type fun queued hmem => ?_
      rcases List.mem_cons.mp hmem with rfl | hmem
      · rfl
      · exact hs.redis_type _ queued hmem
  | pushedToMemory job waiting hp =>
    refine ⟨?_, hs.nodup_cons job, hs.serial_lt_cons job, hs.redis_type, ?_⟩
    · show ((s.queued job :: s.pushed : List _) : Multiset (Queued α)) =
        Queues.contents s.redis + Queues.contents (Function.update s.memoryQueues job.type
          (s.memoryQueues job.type ++ [s.queued job])) + (s.returned : Multiset (Queued α))
      rw [Queues.contents_concat, ← Multiset.cons_coe, hs.balance, Multiset.add_cons,
        Multiset.cons_add]
    · refine typed_update hs.memory_type fun queued hmem => ?_
      rcases List.mem_append.mp hmem with hmem | hmem
      · exact hs.memory_type _ queued hmem
      · rw [List.mem_singleton.mp hmem]
        rfl
  | poppedFromRedis waiting hpop hp =>
    obtain ⟨type, queued, rest, hqueue, rfl⟩ := of_brpop hpop
    refine ⟨?_, hs.nodup, hs.serial_lt, ?_, hs.memory_type⟩
    · show (s.pushed : Multiset (Queued α)) =
        Queues.contents (Function.update s.redis type rest) + Queues.contents s.memoryQueues +
          ((queued :: s.returned : List _) : Multiset (Queued α))
      rw [hs.balance, Queues.contents_of_concat hqueue, ← Multiset.cons_coe, Multiset.cons_add,
        Multiset.cons_add, Multiset.add_cons]
    · refine typed_update hs.redis_type fun other hmem => hs.redis_type _ other ?_
      rw [hqueue]
      exact List.mem_append_left _ hmem
  | poppedFromMemory waiting hpop hp =>
    obtain ⟨type, queued, rest, hqueue, rfl⟩ := of_memoryPop hpop
    refine ⟨?_, hs.nodup, hs.serial_lt, hs.redis_type, ?_⟩
    · show (s.pushed : Multiset (Queued α)) =
        Queues.contents s.redis + Queues.contents (Function.update s.memoryQueues type rest) +
          ((queued :: s.returned : List _) : Multiset (Queued α))
      rw [hs.balance, Queues.contents_of_cons hqueue, ← Multiset.cons_coe, Multiset.add_cons,
        Multiset.cons_add, Multiset.add_cons]
    · refine typed_update hs.memory_type fun other hmem => hs.memory_type _ other ?_
      rw [hqueue]
      exact List.mem_cons_of_mem _ hmem
  | missed types connected waiting hp =>
    exact ⟨hs.balance, hs.nodup, hs.serial_lt, hs.redis_type, hs.memory_type⟩

lemma Conserved.returned_nodup (h : Conserved s) : s.returned.Nodup := by
  have hnodup : (s.pushed : Multiset (Queued α)).Nodup := Multiset.coe_nodup.mpr h.nodup
  rw [h.balance, Multiset.nodup_add] at hnodup
  exact Multiset.coe_nodup.mp hnodup.2.1

/-- Every pushed job of some types has been returned exactly when neither store has one. -/
lemma Conserved.all_returned_iff (h : Conserved s) :
    (∀ queued ∈ s.pushed, queued.job.type ∈ types → queued ∈ s.returned) ↔
      firstType s.redis types = none ∧ firstType s.memoryQueues types = none := by
  have hmem (queued : Queued α) : queued ∈ s.pushed ↔
      ((∃ type, queued ∈ s.redis type) ∨ ∃ type, queued ∈ s.memoryQueues type) ∨
        queued ∈ s.returned := by
    rw [← Multiset.mem_coe, h.balance]
    simp only [Multiset.mem_add, Queues.mem_contents, Multiset.mem_coe]
  have hdisjoint (queued : Queued α) (hreturned : queued ∈ s.returned) :
      (∀ type, queued ∉ s.redis type) ∧ ∀ type, queued ∉ s.memoryQueues type := by
    have hnodup : (s.pushed : Multiset (Queued α)).Nodup := Multiset.coe_nodup.mpr h.nodup
    rw [h.balance, Multiset.nodup_add] at hnodup
    have hnot := Multiset.disjoint_right.mp hnodup.2.2 (Multiset.mem_coe.mpr hreturned)
    rw [Multiset.mem_add, Queues.mem_contents, Queues.mem_contents, not_or, not_exists,
      not_exists] at hnot
    exact hnot
  rw [firstType_eq_none, firstType_eq_none]
  constructor
  · intro hall
    constructor
    · intro type htype
      refine List.eq_nil_iff_forall_not_mem.mpr fun queued hqueued => ?_
      have hpushed := (hmem queued).mpr (.inl (.inl ⟨type, hqueued⟩))
      have hreturned := hall queued hpushed (h.redis_type type queued hqueued ▸ htype)
      exact (hdisjoint queued hreturned).1 type hqueued
    · intro type htype
      refine List.eq_nil_iff_forall_not_mem.mpr fun queued hqueued => ?_
      have hpushed := (hmem queued).mpr (.inl (.inr ⟨type, hqueued⟩))
      have hreturned := hall queued hpushed (h.memory_type type queued hqueued ▸ htype)
      exact (hdisjoint queued hreturned).2 type hqueued
  · rintro ⟨hredis, hmemory⟩ queued hpushed htype
    rcases (hmem queued).mp hpushed with (⟨type, hqueued⟩ | ⟨type, hqueued⟩) | hreturned
    · have hempty := hredis _ htype
      rw [h.redis_type type queued hqueued] at hempty
      simp [hempty] at hqueued
    · have hempty := hmemory _ htype
      rw [h.memory_type type queued hqueued] at hempty
      simp [hempty] at hqueued
    · exact hreturned

/-! ### Runs -/

lemma answers_brpop (h : s.brpop types = some t) : ∃ queued, t.answers = .job queued :: s.answers := by
  obtain ⟨type, queued, rest, -, rfl⟩ := of_brpop h
  exact ⟨queued, rfl⟩

lemma answers_memoryPop (h : s.memoryPop types = some t) :
    ∃ queued, t.answers = .job queued :: s.answers := by
  obtain ⟨type, queued, rest, -, rfl⟩ := of_memoryPop h
  exact ⟨queued, rfl⟩

/-- The answers of a step are right exactly when it meets its condition. -/
lemma answersRight_iff {action : Action α} {p : Prop} (hs : Conserved s) (h : Effect s p t) :
    AnswersRight s action t ↔ p := by
  have honce := (conserved_effect hs h).returned_nodup
  cases h with
  | quiet connected waiting hp =>
    exact iff_of_true ⟨honce, fun types hanswer => by simp at hanswer⟩ hp
  | pushedToRedis job waiting hp =>
    exact iff_of_true ⟨honce, fun types hanswer => by simp [State.lpush] at hanswer⟩ hp
  | pushedToMemory job waiting hp =>
    exact iff_of_true ⟨honce, fun types hanswer => by simp [State.memoryPush] at hanswer⟩ hp
  | poppedFromRedis waiting hpop hp =>
    obtain ⟨queued, hanswers⟩ := answers_brpop hpop
    exact iff_of_true ⟨honce, fun types hanswer => by simp [hanswers] at hanswer⟩ hp
  | poppedFromMemory waiting hpop hp =>
    obtain ⟨queued, hanswers⟩ := answers_memoryPop hpop
    exact iff_of_true ⟨honce, fun types hanswer => by simp [hanswers] at hanswer⟩ hp
  | missed types connected waiting hp =>
    rw [hp]
    constructor
    · rintro hright rfl
      exact hs.all_returned_iff.mp (hright.complete types rfl)
    · intro hempty
      refine ⟨honce, fun types' hanswer => ?_⟩
      simp only [State.answer, List.cons.injEq, Answer.null.injEq, and_true] at hanswer
      obtain ⟨rfl, rfl⟩ := hanswer
      exact hs.all_returned_iff.mpr (hempty rfl)

/-- Along a run no job is returned twice, and no pop made while Redis is connected misses a job,
exactly when no such pop gets its null answer from one store while the other has a job of its types.
-/
theorem answersRight_iff_nothingElsewhere (actions : List (Action α)) :
    AllSteps step AnswersRight State.initial actions ↔
      AllSteps step NothingElsewhere State.initial actions :=
  allSteps_iff_of_invariant (I := Conserved)
    (fun _ _ _ hs h => conserved_effect hs (effect_step h))
    (fun _ _ _ hs h => answersRight_iff hs (effect_step h)) conserved_initial

/-- A job that is pushed before Redis connects, and a pop after it. -/
def strandedJob : List (Action Unit) :=
  [.push 0 ⟨none, .executionDispatch, "tenant_a", (), none, none, none, none⟩ ⟨"job_1", 0⟩,
    .connect, .pop 1 [.executionDispatch] 2, .timeout 1]

/-- The pop returns null while the job stays in memory. -/
theorem pop_misses_stranded_job : ¬ AllSteps step AnswersRight State.initial strandedJob := by
  intro hall
  have hpop := (((hall _ rfl).2 _ rfl).2 _ rfl).2
  have hright := (hpop _ rfl).1
  have hreturned := hright.complete [.executionDispatch] rfl _ (List.mem_singleton.mpr rfl)
    (List.mem_singleton.mpr rfl)
  exact absurd hreturned List.not_mem_nil

end DistributedJobQueue

end CtrlRecovery
