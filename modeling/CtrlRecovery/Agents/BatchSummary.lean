import CtrlRecovery.Agents.ConcurrencyCoordinator

/-!
# What a batch comes to

A call of `executeBatch` is over when none of its workers waits for a mission. Every id of the batch
that is not empty is then in its results once, in its queue, or was started and has timed out into a
result (`Accounted`); where no id is empty the queue has been emptied. An empty id sends the worker
that takes it away without a result, and a mission that has been handed to a human is in the results
but in none of the three counts.

`batches_ok_iff` puts together when each batch returns one result for each id, counts all of them,
and keeps to its number of concurrent missions. Timeouts alone end a batch (`batch_can_end`).
-/

namespace CtrlRecovery

open Core

namespace MissionConcurrencyCoordinator

/-! ### The summary -/

structure BatchMissionSummary where
  totalSubmitted : ℕ
  completedCount : ℕ
  abortedCount : ℕ
  failedCount : ℕ
  results : List BatchResult
  deriving DecidableEq, Repr

namespace Batch

def countResults (b : Batch) (status : ResultStatus) : ℕ :=
  b.results.countP fun r => r.status = status

/-- What `executeBatch` returns. -/
def summary (b : Batch) : BatchMissionSummary where
  totalSubmitted := b.opportunityIds.length
  completedCount := if b.killedAtStart then 0 else b.countResults (.ofMission .completed)
  abortedCount :=
    if b.killedAtStart then b.opportunityIds.length else b.countResults (.ofMission .aborted)
  failedCount := if b.killedAtStart then 0 else b.countResults .failed
  results := b.results

/-- One result for each id, all of them counted. -/
def OneResultEach (b : Batch) : Prop :=
  (b.summary.results.map (·.opportunityId)).Perm b.opportunityIds ∧
    b.summary.completedCount + b.summary.abortedCount + b.summary.failedCount =
      b.summary.totalSubmitted

/-- The switch was engaged at the start, or no id is empty and no mission went to a human. -/
def Countable (b : Batch) : Prop :=
  b.killedAtStart ∨
    "" ∉ b.opportunityIds ∧ ∀ answer ∈ b.answers, ∀ res ∈ answer, res.status ≠ .humanReview

end Batch

namespace CoordinatorState

def inFlight (s : CoordinatorState) (k : ℕ) : ℕ := s.missions.countP fun m => m.batch = k

/-- The opportunities whose missions the workers of a batch wait for. -/
def awaitedIds (s : CoordinatorState) (k : ℕ) : List String :=
  (s.missions.filter fun m => m.batch = k && m.awaited).map (·.opportunityId)

def IsOver (s : CoordinatorState) (k : ℕ) : Prop := s.awaitedIds k = []

end CoordinatorState

/-- The batches keep to their number of missions, and those that are over have one result each. -/
def BatchesOk (s : CoordinatorState) : Prop :=
  ∀ k b, s.batches k = some b →
    s.inFlight k ≤ b.maxConcurrency ∧ (s.IsOver k → b.OneResultEach)

/-- When a mission times out and its worker goes on to another one, fewer missions of the batch are
executing than may be, the one that has timed out included. -/
def LeavesRoom (s : CoordinatorState) : CoordinatorAction → Prop
  | .missionTimesOut id =>
    ∀ m ∈ s.missions, m.id = id → m.awaited → ∀ b ∈ s.batches m.batch,
      (takeTurn s.killSwitch (s.activeLocks.erase m.opportunityId) b.queue).next.isSome →
        s.inFlight m.batch < b.maxConcurrency
  | _                   => True

/-- Every batch that is over after a step is countable. -/
def EndsCountable (t : CoordinatorState) : Prop :=
  ∀ k b, t.batches k = some b → t.IsOver k → b.Countable

/-! ### Accounting for the ids -/

def BatchResult.isReview (r : BatchResult) : Bool := r.status = .ofMission .humanReview

def answeredReview (answer : Option MissionExecutionResult) : Bool :=
  answer.any fun res => res.status = .humanReview

/-- Where the ids of a batch are, and which results come from a human review. -/
structure Balanced (s : CoordinatorState) (k : ℕ) (b : Batch) : Prop where
  ids : (b.results.map (·.opportunityId) ++ s.awaitedIds k ++ b.queue.filter (· ≠ "")).Perm
    (b.opportunityIds.filter (· ≠ ""))
  queue : b.queue ⊆ b.opportunityIds
  reviews : b.results.countP BatchResult.isReview = b.answers.countP answeredReview

/-- A batch that was stopped at its start has the results of that and no missions; in another one
the ids balance, and its workers leave no id behind that is not empty. -/
structure Accounted (s : CoordinatorState) (k : ℕ) (b : Batch) : Prop where
  known : k < s.nextBatch
  killed : b.killedAtStart →
    b.results = b.opportunityIds.map abortedPreExecution ∧ s.inFlight k = 0
  balanced : b.killedAtStart = false → Balanced s k b
  working : b.killedAtStart = false → "" ∉ b.opportunityIds → b.queue = [] ∨ s.awaitedIds k ≠ []

/-- The batches are accounted for, and every mission belongs to one. -/
structure Ledger (s : CoordinatorState) : Prop where
  batches : ∀ k b, s.batches k = some b → Accounted s k b
  missions : ∀ m ∈ s.missions, (s.batches m.batch).isSome

section Results

variable {b : Batch} {killSwitch : Bool} {activeLocks : Finset String} {queue : List String}

lemma countP_status (results : List BatchResult) :
    results.countP (fun r => r.status = .ofMission .completed) +
          results.countP (fun r => r.status = .ofMission .aborted) +
        results.countP (fun r => r.status = .failed) + results.countP BatchResult.isReview =
      results.length := by
  induction results with
  | nil => rfl
  | cons r results ih =>
    have hreview : r.isReview = decide (r.status = .ofMission .humanReview) := rfl
    simp only [List.countP_cons, List.length_cons, hreview]
    cases r.status with
    | failed => simp; omega
    | ofMission status => cases status <;> simp <;> omega

lemma takeTurn_reviews :
    (takeTurn killSwitch activeLocks queue).results.countP BatchResult.isReview = 0 := by
  induction queue with
  | nil => rfl
  | cons id rest ih =>
    rw [takeTurn]
    split_ifs <;> simp [Turn.addResult, BatchResult.isReview, abortedKillSwitch,
      skippedDuplicateLock, noAnswer] at ih ⊢ <;> exact ih

lemma takeTurn_queue_subset : (takeTurn killSwitch activeLocks queue).queue ⊆ queue := by
  induction queue with
  | nil => exact List.Subset.refl _
  | cons id rest ih =>
    rw [takeTurn]
    split_ifs
    · exact List.subset_cons_of_subset _ ih
    · exact List.subset_cons_of_subset _ ih
    · exact List.subset_cons_self ..
    · exact List.subset_cons_of_subset _ ih
    · exact List.subset_cons_self ..

/-- A batch that is over has one result for each id, all counted, exactly when it is countable. -/
lemma oneResultEach_iff {s : CoordinatorState} {k : ℕ} (h : Accounted s k b) (hover : s.IsOver k) :
    b.OneResultEach ↔ b.Countable := by
  cases hkilled : b.killedAtStart with
  | true =>
    have hresults := (h.killed hkilled).1
    have hids : b.results.map (·.opportunityId) = b.opportunityIds := by
      rw [hresults, List.map_map]
      exact List.map_id _
    refine iff_of_true ⟨?_, ?_⟩ (.inl hkilled)
    · rw [Batch.summary, hids]
    · simp [Batch.summary, hkilled]
  | false =>
    obtain ⟨hids, -, hreviews⟩ := h.balanced hkilled
    rw [hover, List.append_nil] at hids
    have hcounts : b.summary.completedCount + b.summary.abortedCount + b.summary.failedCount +
        b.answers.countP answeredReview = b.results.length := by
      rw [← countP_status, hreviews]
      simp [Batch.summary, hkilled, Batch.countResults]
    have hnone : b.answers.countP answeredReview = 0 ↔
        ∀ answer ∈ b.answers, ∀ res ∈ answer, res.status ≠ .humanReview := by
      rw [List.countP_eq_zero]
      refine forall₂_congr fun answer _ => ?_
      cases answer <;> simp [answeredReview]
    have hcountable : b.Countable ↔
        "" ∉ b.opportunityIds ∧ b.answers.countP answeredReview = 0 := by
      simp [Batch.Countable, hkilled, hnone]
    rw [hcountable]
    by_cases hempty : "" ∈ b.opportunityIds
    · refine iff_of_false (fun hone => ?_) fun hc => hc.1 hempty
      -- the results have only ids that are not empty
      have hmem : "" ∈ b.results.map (·.opportunityId) := hone.1.mem_iff.mpr hempty
      have hmem' := hids.subset (List.mem_append_left _ hmem)
      simp at hmem'
    · have hqueue : b.queue = [] := (h.working hkilled hempty).resolve_right fun hw => hw hover
      have hall : b.opportunityIds.filter (· ≠ "") = b.opportunityIds :=
        List.filter_eq_self.mpr fun id hid => decide_eq_true fun heq => hempty (heq ▸ hid)
      rw [hqueue, hall, List.filter_nil, List.append_nil] at hids
      have hlength : b.results.length = b.opportunityIds.length := by
        simpa using hids.length_eq
      have hperm : (b.summary.results.map (·.opportunityId)).Perm b.opportunityIds := hids
      have hsubmitted : b.summary.totalSubmitted = b.opportunityIds.length := rfl
      rw [Batch.OneResultEach, and_iff_right hempty, and_iff_right hperm]
      omega

end Results

/-! ### A turn of a worker -/

def Turn.started (turn : Turn) (id k : ℕ) : List Mission :=
  turn.next.toList.map fun oppId => ⟨id, k, oppId, true⟩

/-- From `s` to `t` a worker of batch `k`, which has come to `b`, has taken its turn. -/
structure TurnTaken (s t : CoordinatorState) (k : ℕ) (b : Batch) (turn : Turn) : Prop where
  batches : t.batches = Function.update s.batches k (some (b.afterTurn turn))
  missions : ∃ id, t.missions = s.missions ++ turn.started id k
  nextBatch : t.nextBatch = s.nextBatch

/-- What holds before a turn: a worker of batch `k` may have left ids in the queue. -/
structure Pending (s : CoordinatorState) (k : ℕ) (b : Batch) : Prop where
  others : ∀ j c, s.batches j = some c → j ≠ k → Accounted s j c
  known : k < s.nextBatch
  running : b.killedAtStart = false
  balanced : Balanced s k b
  missions : ∀ m ∈ s.missions, m.batch = k ∨ (s.batches m.batch).isSome

section TakingTurns

variable {s t : CoordinatorState} {j k : ℕ} {b : Batch} {turn : Turn} {killSwitch : Bool}
  {activeLocks : Finset String}

lemma turnTaken_runWorker (h : s.batches k = some b) :
    TurnTaken s (CoordinatorState.runWorker k s) k b
      (takeTurn s.killSwitch s.activeLocks b.queue) := by
  rw [CoordinatorState.runWorker, h]
  dsimp only
  cases hnext : (takeTurn s.killSwitch s.activeLocks b.queue).next with
  | none => exact ⟨rfl, ⟨0, by simp [Turn.started, hnext, CoordinatorState.setBatch]⟩, rfl⟩
  | some oppId =>
    exact ⟨rfl, ⟨s.nextMission, by simp [Turn.started, hnext, CoordinatorState.startMission,
      CoordinatorState.setBatch]⟩, rfl⟩

lemma TurnTaken.awaitedIds (h : TurnTaken s t k b turn) (j : ℕ) :
    t.awaitedIds j = s.awaitedIds j ++ if j = k then turn.next.toList else [] := by
  obtain ⟨id, hmissions⟩ := h.missions
  rw [CoordinatorState.awaitedIds, hmissions, List.filter_append, List.map_append]
  refine congrArg _ ?_
  cases hnext : turn.next with
  | none => simp [Turn.started, hnext]
  | some oppId =>
    by_cases hj : j = k
    · simp [Turn.started, hnext, hj]
    · simp [Turn.started, hnext, hj, Ne.symm hj]

lemma TurnTaken.inFlight (h : TurnTaken s t k b turn) (j : ℕ) :
    t.inFlight j = s.inFlight j + if j = k then turn.next.toList.length else 0 := by
  obtain ⟨id, hmissions⟩ := h.missions
  rw [CoordinatorState.inFlight, hmissions, List.countP_append]
  refine congrArg _ ?_
  cases hnext : turn.next with
  | none => simp [Turn.started, hnext]
  | some oppId =>
    by_cases hj : j = k
    · simp [Turn.started, hnext, hj]
    · simp [Turn.started, hnext, hj, Ne.symm hj]

lemma Accounted.congr (h : Accounted s k b) (hnext : s.nextBatch ≤ t.nextBatch)
    (hawaited : (t.awaitedIds k).Perm (s.awaitedIds k)) (hflight : t.inFlight k ≤ s.inFlight k) :
    Accounted t k b where
  known := h.known.trans_le hnext
  killed := fun hk => ⟨(h.killed hk).1, Nat.le_zero.mp ((h.killed hk).2 ▸ hflight)⟩
  balanced := fun hk =>
    ⟨((hawaited.append_left _).append_right _).trans (h.balanced hk).ids, (h.balanced hk).queue,
      (h.balanced hk).reviews⟩
  working := fun hk hids =>
    (h.working hk hids).imp_right fun hne heq => hne (List.nil_perm.mp (heq ▸ hawaited))

/-- After its turn the worker waits for a mission, or has left the queue empty. -/
lemma Pending.ledger (h : Pending s k b)
    (ht : TurnTaken s t k b (takeTurn killSwitch activeLocks b.queue)) : Ledger t := by
  have hawaited := ht.awaitedIds
  refine ⟨fun j c hc => ?_, fun m hm => ?_⟩
  · rw [ht.batches] at hc
    by_cases hj : j = k
    · subst hj
      rw [Function.update_self, Option.some.injEq] at hc
      subst hc
      refine ⟨ht.nextBatch ▸ h.known, fun hk => ?_, fun _ => ⟨?_, ?_, ?_⟩, fun _ hids => ?_⟩
      · exact absurd (h.running.symm.trans hk) Bool.false_ne_true
      · have hturn := takeTurn_ids killSwitch activeLocks b.queue
        refine List.Perm.trans ?_ h.balanced.ids
        rw [hawaited, if_pos rfl, ← hturn]
        simp only [Batch.afterTurn, List.map_append]
        rw [List.perm_iff_count]
        intro id
        simp only [List.count_append]
        omega
      · exact fun id hid => h.balanced.queue (takeTurn_queue_subset hid)
      · simp only [Batch.afterTurn, List.countP_append, takeTurn_reviews]
        exact h.balanced.reviews
      · rw [hawaited, if_pos rfl]
        cases hnext : (takeTurn killSwitch activeLocks b.queue).next with
        | none => exact .inl (queue_eq_nil (fun hmem => hids (h.balanced.queue hmem)) hnext)
        | some oppId => exact .inr (by simp)
    · rw [Function.update_of_ne hj] at hc
      refine (h.others j c hc hj).congr ht.nextBatch.ge ?_ ?_
      · rw [hawaited, if_neg hj, List.append_nil]
      · rw [ht.inFlight, if_neg hj]
        exact le_rfl
  · obtain ⟨id, hmissions⟩ := ht.missions
    rw [ht.batches]
    by_cases hj : m.batch = k
    · simp [hj]
    · rw [Function.update_of_ne hj]
      rw [hmissions, List.mem_append] at hm
      obtain hm | hm := hm
      · exact (h.missions m hm).resolve_left hj
      · obtain ⟨oppId, -, rfl⟩ := List.mem_map.mp hm
        exact absurd rfl hj

lemma Ledger.pending (h : Ledger s) (hb : s.batches k = some b)
    (hrunning : b.killedAtStart = false) : Pending s k b where
  others := fun j c hc _ => h.batches j c hc
  known := (h.batches k b hb).known
  running := hrunning
  balanced := (h.batches k b hb).balanced hrunning
  missions := fun m hm => .inr (h.missions m hm)

lemma Pending.iterate (h : Pending s k b) (hb : s.batches k = some b) (n : ℕ) :
    Ledger ((CoordinatorState.runWorker k)^[n + 1] s) := by
  induction n generalizing s b with
  | zero => exact h.ledger (turnTaken_runWorker hb)
  | succ n ih =>
    have ht := turnTaken_runWorker hb
    rw [Function.iterate_succ_apply]
    have hb' : (CoordinatorState.runWorker k s).batches k =
        some (b.afterTurn (takeTurn s.killSwitch s.activeLocks b.queue)) := by
      rw [ht.batches, Function.update_self]
    exact ih ((h.ledger ht).pending hb' h.running) hb'

end TakingTurns

/-! ### The end of a wait -/

/-- From `s` to `u` a mission that was executing has ended, or its worker waits no longer. -/
structure LetGo (s u : CoordinatorState) (mission : Mission) : Prop where
  awaitedIds : ∀ j, (s.awaitedIds j).Perm
    ((if j = mission.batch ∧ mission.awaited then [mission.opportunityId] else []) ++
      u.awaitedIds j)
  inFlight : ∀ j, u.inFlight j ≤ s.inFlight j
  missions : ∀ m ∈ u.missions, ∃ m₀ ∈ s.missions, m₀.batch = m.batch
  batches : u.batches = s.batches
  nextBatch : u.nextBatch = s.nextBatch

section LettingGo

variable {s u : CoordinatorState} {mission : Mission} {missions : List Mission} {j k : ℕ}
  {b : Batch} {result : BatchResult} {answers : List (Option MissionExecutionResult)}

lemma perm_cons_filter (hids : (missions.map Mission.id).Nodup) (hmem : mission ∈ missions) :
    missions.Perm (mission :: missions.filter (·.id ≠ mission.id)) := by
  refine (List.perm_cons_erase hmem).trans (.cons _ ?_)
  rw [(hids.of_map _).erase_eq_filter]
  refine .of_eq (List.filter_congr fun m hm => ?_)
  have hsame : m = mission ↔ m.id = mission.id :=
    ⟨congrArg _, fun heq => List.inj_on_of_nodup_map hids hm hmem heq⟩
  rw [Bool.eq_iff_iff, bne_iff_ne, decide_eq_true_iff]
  exact not_congr hsame

lemma inFlight_filter (h : LocksHeld s) (hmem : mission ∈ s.missions) :
    s.inFlight j = (if mission.batch = j then 1 else 0) +
      { s with
        missions := s.missions.filter (·.id ≠ mission.id) : CoordinatorState }.inFlight j := by
  rw [CoordinatorState.inFlight, (perm_cons_filter h.unique hmem).countP_eq, List.countP_cons]
  simp [CoordinatorState.inFlight, Nat.add_comm]

lemma letGo_filter (h : LocksHeld s) (hmem : mission ∈ s.missions) :
    LetGo s { s with missions := s.missions.filter (·.id ≠ mission.id) } mission where
  awaitedIds := fun j => by
    refine (((perm_cons_filter h.unique hmem).filter _).map _).trans (.of_eq ?_)
    rw [List.filter_cons]
    split_ifs with h₁ h₂ h₂
    · rfl
    · simp_all
    · simp_all
    · rfl
  inFlight := fun j => by
    rw [inFlight_filter h hmem]
    omega
  missions := fun m hm => ⟨m, List.mem_of_mem_filter hm, rfl⟩
  batches := rfl
  nextBatch := rfl

lemma inFlight_giveUp (id : ℕ) :
    { s with missions := s.missions.map (Mission.giveUp id) : CoordinatorState }.inFlight j =
      s.inFlight j := by
  rw [CoordinatorState.inFlight, List.countP_map]
  refine List.countP_congr fun m _ => ?_
  rw [Function.comp_apply, Mission.giveUp]
  split_ifs <;> rfl

/-- A mission that nobody waits for is as good as ended. -/
lemma awaitedIds_giveUp (id : ℕ) :
    { s with missions := s.missions.map (Mission.giveUp id) : CoordinatorState }.awaitedIds j =
      { s with missions := s.missions.filter (·.id ≠ id) : CoordinatorState }.awaitedIds j := by
  simp only [CoordinatorState.awaitedIds]
  induction s.missions with
  | nil => rfl
  | cons m missions ih =>
    by_cases hid : m.id = id
    · simpa [hid, Mission.giveUp] using ih
    · have hsame : m.giveUp id = m := if_neg hid
      have hkept : decide (m.id ≠ id) = true := decide_eq_true hid
      rw [List.map_cons, hsame, List.filter_cons, List.filter_cons, if_pos hkept, List.filter_cons]
      split_ifs
      · exact congrArg (m.opportunityId :: ·) ih
      · exact ih

lemma letGo_giveUp (h : LocksHeld s) (hmem : mission ∈ s.missions) :
    LetGo s { s with missions := s.missions.map (Mission.giveUp mission.id) } mission where
  awaitedIds := fun j => by
    rw [awaitedIds_giveUp]
    exact (letGo_filter h hmem).awaitedIds j
  inFlight := fun j => (inFlight_giveUp _).le
  missions := fun m hm => by
    obtain ⟨m₀, hm₀, rfl⟩ := List.mem_map.mp hm
    refine ⟨m₀, hm₀, ?_⟩
    rw [Mission.giveUp]
    split_ifs <;> rfl
  batches := rfl
  nextBatch := rfl

lemma LetGo.ledger (hgo : LetGo s u mission) (h : Ledger s) (hoverdue : mission.awaited = false) :
    Ledger u where
  batches := fun j c hc => by
    refine (h.batches j c (hgo.batches ▸ hc)).congr hgo.nextBatch.ge ?_ (hgo.inFlight j)
    simpa [hoverdue] using (hgo.awaitedIds j).symm
  missions := fun m hm => by
    obtain ⟨m₀, hm₀, hbatch⟩ := hgo.missions m hm
    rw [hgo.batches, ← hbatch]
    exact h.missions m₀ hm₀

/-- A worker that has waited for a mission has a result for it in its place. -/
lemma LetGo.release (hgo : LetGo s u mission) (h : Ledger s) (hmem : mission ∈ s.missions)
    (hawaited : mission.awaited) (hid : result.opportunityId = mission.opportunityId)
    (hreview : [result].countP BatchResult.isReview = answers.countP answeredReview) :
    Ledger (u.release mission result answers) := by
  obtain ⟨b, hb⟩ := Option.isSome_iff_exists.mp (h.missions mission hmem)
  have haccounted := h.batches _ b hb
  have hrunning : b.killedAtStart = false := by
    rw [← Bool.not_eq_true]
    intro hk
    have hnone := List.countP_eq_zero.mp (haccounted.killed hk).2 mission hmem
    exact hnone (decide_eq_true rfl)
  have hbalanced := haccounted.balanced hrunning
  rw [CoordinatorState.release, hgo.batches, hb]
  refine Pending.ledger ?_ (turnTaken_runWorker (Function.update_self ..))
  refine ⟨fun j c hc hj => ?_, ?_, hrunning, ⟨?_, hbalanced.queue, ?_⟩, fun m hm => ?_⟩
  · rw [CoordinatorState.setBatch] at hc
    simp only [Function.update_of_ne hj, hgo.batches] at hc
    refine (h.batches j c hc).congr hgo.nextBatch.ge ?_ (hgo.inFlight j)
    have hperm := (hgo.awaitedIds j).symm
    rwa [if_neg fun hk => hj hk.1] at hperm
  · exact hgo.nextBatch ▸ haccounted.known
  · refine List.Perm.trans ?_ hbalanced.ids
    have hperm := hgo.awaitedIds mission.batch
    rw [if_pos ⟨rfl, hawaited⟩] at hperm
    show ((b.results ++ [result]).map (·.opportunityId) ++ u.awaitedIds mission.batch ++
      b.queue.filter (· ≠ "")).Perm _
    rw [List.map_append, List.append_assoc _ _ (u.awaitedIds _)]
    refine .append_right _ (.append_left _ ?_)
    rw [List.map_singleton, hid]
    exact hperm.symm
  · rw [Batch.addResult, List.countP_append, List.countP_append, hbalanced.reviews, hreview]
  · obtain ⟨m₀, hm₀, hbatch⟩ := hgo.missions m hm
    refine or_iff_not_imp_left.mpr fun hne => ?_
    have hknown := h.missions m₀ hm₀
    rw [hbatch] at hknown
    show (Function.update u.batches mission.batch (some (b.addResult result answers))
      m.batch).isSome
    rwa [Function.update_of_ne hne, hgo.batches]

end LettingGo

/-! ### Runs -/

/-- No batch has more missions than it may have. -/
def KeepsToLimit (s : CoordinatorState) : Prop :=
  ∀ k b, s.batches k = some b → s.inFlight k ≤ b.maxConcurrency

section Steps

variable {s t u : CoordinatorState} {mission : Mission} {j k : ℕ} {b : Batch}
  {result : BatchResult} {answers : List (Option MissionExecutionResult)}

/-- The next opportunity of the worker that waited for the mission. -/
def nextOf (s : CoordinatorState) (mission : Mission) (b : Batch) : Option String :=
  (takeTurn s.killSwitch (s.activeLocks.erase mission.opportunityId) b.queue).next

lemma length_toList_le_one {α : Type*} (a : Option α) : a.toList.length ≤ 1 := by
  cases a <;> simp

/-- After a release only the batch of the mission may have more missions. -/
lemma LetGo.keepsToLimit_release (hgo : LetGo s u mission) (h : KeepsToLimit s)
    (hb : s.batches mission.batch = some b) :
    KeepsToLimit (u.release mission result answers) ↔
      u.inFlight mission.batch + (nextOf u mission b).toList.length ≤ b.maxConcurrency := by
  rw [CoordinatorState.release, hgo.batches, hb]
  have ht := turnTaken_runWorker (k := mission.batch)
    (s := { u.setBatch mission.batch (b.addResult result answers) with
      activeLocks := u.activeLocks.erase mission.opportunityId }) (Function.update_self ..)
  constructor
  · intro hlimit
    have hown := hlimit mission.batch _ (by rw [ht.batches, Function.update_self])
    rw [ht.inFlight, if_pos rfl] at hown
    exact hown
  · intro hroom j c hc
    rw [ht.batches] at hc
    rw [ht.inFlight]
    by_cases hj : j = mission.batch
    · rw [hj, Function.update_self, Option.some.injEq] at hc
      subst hc
      rw [if_pos hj, hj]
      exact hroom
    · rw [Function.update_of_ne hj] at hc
      simp only [CoordinatorState.setBatch, Function.update_of_ne hj, hgo.batches] at hc
      rw [if_neg hj]
      exact (hgo.inFlight j).trans (h j c hc)

/-- The workers of a new batch start at most one mission each. -/
lemma iterate_inFlight (hb : s.batches k = some b) (n : ℕ) :
    ∃ b', ((CoordinatorState.runWorker k)^[n] s).batches = Function.update s.batches k (some b') ∧
      b'.maxConcurrency = b.maxConcurrency ∧
      ∀ j, ((CoordinatorState.runWorker k)^[n] s).inFlight j ≤
        s.inFlight j + if j = k then n else 0 := by
  induction n generalizing s b with
  | zero => exact ⟨b, (Function.update_eq_self_iff.mpr hb.symm).symm, rfl, by simp⟩
  | succ n ih =>
    have ht := turnTaken_runWorker hb
    have hb' : (CoordinatorState.runWorker k s).batches k =
        some (b.afterTurn (takeTurn s.killSwitch s.activeLocks b.queue)) := by
      rw [ht.batches, Function.update_self]
    obtain ⟨b', hbatches, hmax, hflight⟩ := ih hb'
    refine ⟨b', ?_, hmax, fun j => ?_⟩
    · rw [Function.iterate_succ_apply, hbatches, ht.batches, Function.update_idem]
    · have hle := hflight j
      rw [ht.inFlight] at hle
      have hone := length_toList_le_one (takeTurn s.killSwitch s.activeLocks b.queue).next
      rw [Function.iterate_succ_apply]
      split_ifs at hle ⊢ <;> omega

lemma inFlight_eq_zero (hfree : ∀ m ∈ s.missions, m.batch ≠ k) : s.inFlight k = 0 :=
  List.countP_eq_zero.mpr fun m hm hk => hfree m hm (of_decide_eq_true hk)

lemma awaitedIds_eq_nil (hfree : ∀ m ∈ s.missions, m.batch ≠ k) : s.awaitedIds k = [] := by
  rw [CoordinatorState.awaitedIds, List.map_eq_nil_iff, List.filter_eq_nil_iff]
  intro m hm
  simp [hfree m hm]

/-- A call of `executeBatch` has begun. -/
def begun (s : CoordinatorState) (batch : Batch) : CoordinatorState :=
  ({ s with nextBatch := s.nextBatch + 1 } : CoordinatorState).setBatch s.nextBatch batch

@[simp] lemma batches_begun :
    (begun s b).batches = Function.update s.batches s.nextBatch (some b) :=
  rfl

lemma Ledger.free (h : Ledger s) : ∀ m ∈ s.missions, m.batch ≠ s.nextBatch := by
  intro m hm
  obtain ⟨b, hb⟩ := Option.isSome_iff_exists.mp (h.missions m hm)
  exact (h.batches _ b hb).known.ne

lemma Ledger.others_begun (h : Ledger s) {c : Batch} (hc : (begun s b).batches j = some c)
    (hj : j ≠ s.nextBatch) : Accounted (begun s b) j c := by
  rw [batches_begun, Function.update_of_ne hj] at hc
  exact (h.batches j c hc).congr (Nat.le_succ _) (.refl _) le_rfl

lemma Ledger.missions_begun (h : Ledger s) {m : Mission} (hm : m ∈ s.missions) :
    ((begun s b).batches m.batch).isSome := by
  rw [batches_begun, Function.update_of_ne (h.free m hm)]
  exact h.missions m hm

lemma Ledger.begun (h : Ledger s) (hnew : Accounted (begun s b) s.nextBatch b) :
    Ledger (begun s b) where
  batches := fun j c hc => by
    by_cases hj : j = s.nextBatch
    · rw [hj, batches_begun, Function.update_self, Option.some.injEq] at hc
      rwa [← hc, hj]
    · exact h.others_begun hc hj
  missions := fun _ hm => h.missions_begun hm

lemma Ledger.balanced_begun (h : Ledger s) (hqueue : b.queue = b.opportunityIds)
    (hresults : b.results = []) (hanswers : b.answers = []) :
    Balanced (MissionConcurrencyCoordinator.begun s b) s.nextBatch b where
  ids := by
    rw [hresults, hqueue, awaitedIds_eq_nil (s := MissionConcurrencyCoordinator.begun s b) h.free]
    exact .refl _
  queue := fun id hid => hqueue ▸ hid
  reviews := by rw [hresults, hanswers]; rfl

/-- A new batch is accounted for. -/
lemma Ledger.executeBatch (h : Ledger s) (opportunityIds : List String)
    (maxConcurrentMissions : Option ℕ) :
    Ledger (s.executeBatch opportunityIds maxConcurrentMissions) := by
  rw [CoordinatorState.executeBatch]
  dsimp only
  split_ifs with hkill
  · have hkilled : s.killSwitch ≠ false := fun hoff => absurd (hoff.symm.trans hkill) (by simp)
    exact h.begun ⟨Nat.lt_succ_self _, fun _ => ⟨rfl, inFlight_eq_zero h.free⟩,
      fun hoff => absurd hoff hkilled, fun hoff => absurd hoff hkilled⟩
  · rw [Bool.not_eq_true] at hkill
    cases hworkers : min (max 1 (maxConcurrentMissions.getD 3)) opportunityIds.length with
    | zero =>
      have hids : opportunityIds = [] := by
        rw [← List.length_eq_zero_iff]
        omega
      exact h.begun ⟨Nat.lt_succ_self _, fun hon => absurd (hkill.symm.trans hon) (by simp),
        fun _ => h.balanced_begun rfl rfl rfl, fun _ _ => .inl hids⟩
    | succ n =>
      refine Pending.iterate ⟨fun j c hc hj => h.others_begun hc hj, Nat.lt_succ_self _, hkill,
        h.balanced_begun rfl rfl rfl, fun m hm => .inr (h.missions_begun hm)⟩
        (Function.update_self ..) n

/-- A new batch keeps to its limit. -/
lemma KeepsToLimit.executeBatch (hlimit : KeepsToLimit s) (h : Ledger s)
    (opportunityIds : List String) (maxConcurrentMissions : Option ℕ) :
    KeepsToLimit (s.executeBatch opportunityIds maxConcurrentMissions) := by
  rw [CoordinatorState.executeBatch]
  dsimp only
  split_ifs with hkill
  · intro j c hc
    by_cases hj : j = s.nextBatch
    · subst hj
      exact (inFlight_eq_zero h.free).le.trans (Nat.zero_le _)
    · have hc' : Function.update s.batches s.nextBatch _ j = some c := hc
      rw [Function.update_of_ne hj] at hc'
      exact hlimit j c hc'
  · intro j c hc
    obtain ⟨b', hbatches, hmax, hflight⟩ := iterate_inFlight (k := s.nextBatch)
      (s := begun s ⟨opportunityIds, max 1 (maxConcurrentMissions.getD 3), s.killSwitch,
        opportunityIds, [], []⟩) (Function.update_self ..)
      (min (max 1 (maxConcurrentMissions.getD 3)) opportunityIds.length)
    refine (hflight j).trans ?_
    replace hc := (congrFun hbatches j).symm.trans hc
    by_cases hj : j = s.nextBatch
    · rw [hj, Function.update_self, Option.some.injEq] at hc
      rw [if_pos hj, hj, ← hc, hmax]
      exact (Nat.add_eq_right.mpr (inFlight_eq_zero h.free)).le.trans (min_le_left ..)
    · rw [Function.update_of_ne hj, batches_begun, Function.update_of_ne hj] at hc
      rw [if_neg hj]
      exact hlimit j c hc

lemma resultOf_opportunityId (oppId : String) (answer : Option MissionExecutionResult) :
    (resultOf oppId answer).opportunityId = oppId := by
  cases answer <;> rfl

lemma resultOf_isReview (oppId : String) (answer : Option MissionExecutionResult) :
    [resultOf oppId answer].countP BatchResult.isReview = [answer].countP answeredReview := by
  cases answer with
  | none => rfl
  | some res => cases hstatus : res.status <;>
      simp [resultOf, BatchResult.isReview, answeredReview, hstatus]

/-- A step keeps the accounts, and the batches to their limits where it leaves room for them. -/
lemma step_ledger {action : CoordinatorAction} (hlocks : LocksHeld s) (h : Ledger s)
    (hstep : coordinatorStep s action = some t) :
    Ledger t ∧ (KeepsToLimit s → (KeepsToLimit t ↔ LeavesRoom s action)) := by
  cases action with
  | setKillSwitch active =>
    obtain rfl := Option.some.inj hstep
    exact ⟨⟨fun j c hc => (h.batches j c hc).congr le_rfl (.refl _) le_rfl, h.missions⟩,
      fun hlimit => iff_of_true hlimit trivial⟩
  | executeBatch opportunityIds maxConcurrentMissions =>
    obtain rfl := Option.some.inj hstep
    exact ⟨h.executeBatch .., fun hlimit => iff_of_true (hlimit.executeBatch h _ _) trivial⟩
  | missionEnds id answer =>
    obtain ⟨mission, hfind, rfl⟩ := Option.map_eq_some_iff.mp hstep
    obtain rfl : mission.id = id := by simpa using List.find?_some hfind
    have hmem := List.mem_of_find?_eq_some hfind
    have hgo := letGo_filter hlocks hmem
    obtain ⟨b, hb⟩ := Option.isSome_iff_exists.mp (h.missions mission hmem)
    dsimp only
    split_ifs with hawaited
    · refine ⟨hgo.release h hmem hawaited (resultOf_opportunityId ..) (resultOf_isReview ..),
        fun hlimit => iff_of_true ((hgo.keepsToLimit_release hlimit hb).mpr ?_) trivial⟩
      -- the worker starts at most one mission for the one that has ended
      have hbound := hlimit _ b hb
      rw [inFlight_filter hlocks hmem, if_pos rfl] at hbound
      exact ((Nat.add_le_add_left (length_toList_le_one _) _).trans (Nat.add_comm ..).le).trans
        hbound
    · rw [Bool.not_eq_true] at hawaited
      exact ⟨hgo.ledger h hawaited,
        fun hlimit => iff_of_true (fun j c hc => (hgo.inFlight j).trans (hlimit j c hc)) trivial⟩
  | missionTimesOut id =>
    obtain ⟨mission, hfind, rfl⟩ := Option.map_eq_some_iff.mp hstep
    have hfound := List.find?_some hfind
    simp only [Bool.and_eq_true, decide_eq_true_eq] at hfound
    obtain ⟨rfl, hawaited⟩ := hfound
    have hmem := List.mem_of_find?_eq_some hfind
    have hgo := letGo_giveUp hlocks hmem
    obtain ⟨b, hb⟩ := Option.isSome_iff_exists.mp (h.missions mission hmem)
    refine ⟨hgo.release h hmem hawaited rfl rfl,
      fun hlimit => (hgo.keepsToLimit_release hlimit hb).trans ?_⟩
    have hroom : LeavesRoom s (.missionTimesOut mission.id) ↔
        ((nextOf s mission b).isSome → s.inFlight mission.batch < b.maxConcurrency) := by
      constructor
      · exact fun hleaves => hleaves mission hmem rfl hawaited b hb
      · intro hleaves m hm hid _ c hc
        obtain rfl := List.inj_on_of_nodup_map hlocks.unique hm hmem hid
        obtain rfl := Option.some.inj (hb.symm.trans hc)
        exact hleaves
    have hbound := hlimit _ b hb
    rw [hroom, inFlight_giveUp]
    show s.inFlight mission.batch + (nextOf s mission b).toList.length ≤ _ ↔ _
    cases nextOf s mission b with
    | none => simpa using hbound
    | some oppId =>
      simp only [Option.toList_some, List.length_singleton, Option.isSome_some, true_imp_iff]
      exact Nat.succ_le_iff

end Steps

lemma batchesOk_iff {t : CoordinatorState} (h : Ledger t) :
    BatchesOk t ↔ KeepsToLimit t ∧ EndsCountable t := by
  constructor
  · exact fun hok => ⟨fun k b hb => (hok k b hb).1, fun k b hb hover =>
      (oneResultEach_iff (h.batches k b hb) hover).mp ((hok k b hb).2 hover)⟩
  · exact fun hok k b hb => ⟨hok.1 k b hb, fun hover =>
      (oneResultEach_iff (h.batches k b hb) hover).mpr (hok.2 k b hb hover)⟩

lemma locksHeld_ledger (s : CoordinatorState) (action : CoordinatorAction) (t : CoordinatorState)
    (h : LocksHeld s ∧ Ledger s) (hstep : coordinatorStep s action = some t) :
    LocksHeld t ∧ Ledger t :=
  ⟨(step_shape h.1 hstep).1, (step_ledger h.1 h.2 hstep).1⟩

lemma ledger_idle : Ledger .idle where
  batches := nofun
  missions := fun _ hm => absurd hm List.not_mem_nil

/-- At every time of a run each batch keeps to its number of concurrent missions, and once it is
over has one counted result for each id, if and only if at every timeout there is room for the
worker's next mission, and every batch that is over was stopped at its start or has no empty id and
no mission that went to a human. -/
theorem batches_ok_iff (actions : List CoordinatorAction) :
    (∀ before rest t, actions = before ++ rest → Run coordinatorStep .idle before t →
        BatchesOk t) ↔
      AllSteps coordinatorStep (fun s action t => LeavesRoom s action ∧ EndsCountable t) .idle
        actions := by
  apply always_iff_allSteps_of_invariant locksHeld_ledger
  · rintro s action t ⟨hlocks, h⟩ hok hstep
    obtain ⟨ht, hiff⟩ := step_ledger hlocks h hstep
    rw [batchesOk_iff ht, hiff ((batchesOk_iff h).mp hok).1]
  · exact nofun
  · exact ⟨locksHeld_idle, ledger_idle⟩

/-- The worker that takes the empty id leaves, and it was the only one. -/
theorem empty_id_ends_batch :
    ¬ ∀ actions t, Run coordinatorStep .idle actions t → BatchesOk t := by
  intro h
  obtain ⟨t, hrun, ht⟩ := exists_run_of_execute coordinatorStep .idle
    [.executeBatch ["", "opp_1"] (some 1)]
    (fun t => t.missions = [] ∧ t.batches 0 = some ⟨["", "opp_1"], 1, false, ["opp_1"], [], []⟩)
    (by decide +kernel)
  obtain ⟨hmissions, hbatch⟩ := of_decide_eq_true ht
  have hover : t.IsOver 0 := awaitedIds_eq_nil (by simp [hmissions])
  have hperm := ((h _ t hrun 0 _ hbatch).2 hover).1
  exact absurd hperm.length_eq (by decide)

/-! ### The end of a batch -/

section Ends

variable {s u : CoordinatorState} {b : Batch} {mission : Mission}

lemma takeTurn_length (killSwitch : Bool) (activeLocks : Finset String) (queue : List String) :
    let turn := takeTurn killSwitch activeLocks queue
    turn.queue.length + turn.next.toList.length ≤ queue.length := by
  induction queue with
  | nil => exact le_rfl
  | cons id rest ih =>
    rw [takeTurn]
    split_ifs <;> simp [Turn.addResult] at ih ⊢ <;> omega

/-- A release takes the id of the mission out of what is left of its batch. -/
lemma LetGo.release_decreases (hgo : LetGo s u mission) (result : BatchResult)
    (answers : List (Option MissionExecutionResult)) (hawaited : mission.awaited)
    (hb : s.batches mission.batch = some b) :
    ∃ b', (u.release mission result answers).batches mission.batch = some b' ∧
      b'.queue.length + ((u.release mission result answers).awaitedIds mission.batch).length <
        b.queue.length + (s.awaitedIds mission.batch).length := by
  have hlength := (hgo.awaitedIds mission.batch).length_eq
  rw [if_pos ⟨rfl, hawaited⟩, List.length_append, List.length_singleton] at hlength
  have hturn := takeTurn_length u.killSwitch (u.activeLocks.erase mission.opportunityId) b.queue
  rw [CoordinatorState.release, hgo.batches, hb]
  have ht := turnTaken_runWorker (k := mission.batch)
    (s := { u.setBatch mission.batch (b.addResult result answers) with
      activeLocks := u.activeLocks.erase mission.opportunityId }) (Function.update_self ..)
  refine ⟨_, by rw [ht.batches, Function.update_self], ?_⟩
  rw [ht.awaitedIds, if_pos rfl, List.length_append]
  show (takeTurn u.killSwitch (u.activeLocks.erase mission.opportunityId) b.queue).queue.length +
    ((u.awaitedIds mission.batch).length + (nextOf u mission b).toList.length) < _
  rw [nextOf]
  omega

/-- The timer of a mission that is awaited can fire. -/
lemma step_missionTimesOut (hlocks : LocksHeld s) (hmem : mission ∈ s.missions)
    (hawaited : mission.awaited) :
    coordinatorStep s (.missionTimesOut mission.id) =
      some (CoordinatorState.release
        { s with missions := s.missions.map (Mission.giveUp mission.id) } mission
        (failedExecution mission.opportunityId) []) := by
  have hfind : s.missions.find? (fun m => m.id = mission.id && m.awaited) = some mission := by
    cases hfound : s.missions.find? (fun m => m.id = mission.id && m.awaited) with
    | none => exact absurd hawaited (by simpa using List.find?_eq_none.mp hfound mission hmem)
    | some m =>
      have hid := List.find?_some hfound
      simp only [Bool.and_eq_true, decide_eq_true_eq] at hid
      rw [List.inj_on_of_nodup_map hlocks.unique (List.mem_of_find?_eq_some hfound) hmem hid.1]
  rw [coordinatorStep, hfind, Option.map_some]

lemma exists_awaited {k : ℕ} (h : ¬ s.IsOver k) :
    ∃ mission ∈ s.missions, mission.batch = k ∧ mission.awaited := by
  obtain ⟨oppId, hopp⟩ := List.exists_mem_of_ne_nil _ h
  obtain ⟨mission, hmission, -⟩ := List.mem_map.mp hopp
  obtain ⟨hmem, hboth⟩ := List.mem_filter.mp hmission
  rw [Bool.and_eq_true, decide_eq_true_eq] at hboth
  exact ⟨mission, hmem, hboth⟩

/-- The timers of a batch end it, as each leaves less of it. -/
lemma exists_timeouts {k : ℕ} (n : ℕ) (hlocks : LocksHeld s) (h : Ledger s)
    (hb : s.batches k = some b) (hn : b.queue.length + (s.awaitedIds k).length ≤ n) :
    ∃ (ids : List ℕ) (t : CoordinatorState),
      Run coordinatorStep s (ids.map .missionTimesOut) t ∧ t.IsOver k := by
  induction n generalizing s b with
  | zero => exact ⟨[], s, .nil s, List.length_eq_zero_iff.mp (by omega)⟩
  | succ n ih =>
    by_cases hover : s.IsOver k
    · exact ⟨[], s, .nil s, hover⟩
    obtain ⟨mission, hmem, rfl, hawaited⟩ := exists_awaited hover
    have hstep := step_missionTimesOut hlocks hmem hawaited
    obtain ⟨hlocks', h'⟩ := locksHeld_ledger _ _ _ ⟨hlocks, h⟩ hstep
    obtain ⟨b', hb', hless⟩ := (letGo_giveUp hlocks hmem).release_decreases
      (failedExecution mission.opportunityId) [] hawaited hb
    obtain ⟨ids, t, hrun, hdone⟩ := ih hlocks' h' hb' (by omega)
    exact ⟨mission.id :: ids, t, .cons hstep hrun, hdone⟩

end Ends

/-- In every state of a run the timers alone can end a batch. -/
theorem batch_can_end {actions : List CoordinatorAction} {s : CoordinatorState}
    (hrun : Run coordinatorStep .idle actions s) (k : ℕ) :
    ∃ (ids : List ℕ) (t : CoordinatorState),
      Run coordinatorStep s (ids.map .missionTimesOut) t ∧ t.IsOver k := by
  obtain ⟨hlocks, h⟩ := hrun.invariant locksHeld_ledger ⟨locksHeld_idle, ledger_idle⟩
  cases hb : s.batches k with
  | none =>
    refine ⟨[], s, .nil s, awaitedIds_eq_nil fun m hm hk => ?_⟩
    have hknown := h.missions m hm
    rw [hk, hb] at hknown
    cases hknown
  | some b => exact exists_timeouts _ hlocks h hb le_rfl

/-- A mission that never answers does not keep its batch from ending. -/
theorem unanswered_batch_ends : ∃ s : CoordinatorState,
    Run coordinatorStep .idle [.executeBatch ["opp_1", "opp_2"] (some 1)] s ∧ ¬ s.IsOver 0 ∧
      ∃ (ids : List ℕ) (t : CoordinatorState),
        Run coordinatorStep s (ids.map .missionTimesOut) t ∧ t.IsOver 0 := by
  obtain ⟨s, hrun, hs⟩ := exists_run_of_execute coordinatorStep .idle
    [.executeBatch ["opp_1", "opp_2"] (some 1)] (fun s => s.awaitedIds 0 ≠ []) (by decide +kernel)
  have hawaited : s.awaitedIds 0 ≠ [] := of_decide_eq_true hs
  exact ⟨s, hrun, hawaited, batch_can_end hrun 0⟩

end MissionConcurrencyCoordinator

end CtrlRecovery
