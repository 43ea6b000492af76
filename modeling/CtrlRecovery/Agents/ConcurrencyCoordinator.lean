import CtrlRecovery.Core.Run
import CtrlRecovery.Types
import Mathlib.Data.Finset.Basic

/-!
# Batches of missions

`MissionConcurrencyCoordinator.executeBatch` lets a few workers take the opportunities of a batch
from a queue. A worker runs without interruption until it waits for a mission, or until it leaves;
so it takes its whole turn at once. It waits for its mission in a race with a timer. When the timer
is first, the worker gives up the lock of the opportunity and goes on, and so does the mission.

Of the missions that a worker waits for there is at most one for an opportunity, in all batches
(`LocksHeld`). With those that have timed out, two missions of one opportunity overlap exactly when
one is started while a timed-out one is still executing (`missions_exclusive_iff`).
-/

namespace CtrlRecovery

open Core

namespace MissionConcurrencyCoordinator

/-! ### The coordinator -/

inductive MissionStatus
  | completed
  | aborted
  | humanReview
  deriving DecidableEq, Repr

/-- What `executeRecoveryMission` returns. -/
structure MissionExecutionResult where
  runId : String
  status : MissionStatus
  finalDecision : DecisionType
  authorityVerdict : AuthorityVerdict
  deriving DecidableEq, Repr

inductive ResultStatus
  | ofMission (status : MissionStatus)
  | failed
  deriving DecidableEq, Repr

structure BatchResult where
  opportunityId : String
  runId : String
  status : ResultStatus
  finalDecision : DecisionType
  authorityVerdict : AuthorityVerdict
  deriving DecidableEq, Repr

/-- The result of an opportunity without a mission's answer. -/
def noAnswer (runId : String) (status : ResultStatus) (opportunityId : String) : BatchResult where
  opportunityId := opportunityId
  runId := runId
  status := status
  finalDecision := .abstain
  authorityVerdict := .blocked

def abortedPreExecution : String → BatchResult :=
  noAnswer "aborted_pre_execution" (.ofMission .aborted)

def abortedKillSwitch : String → BatchResult := noAnswer "aborted_kill_switch" (.ofMission .aborted)

def skippedDuplicateLock : String → BatchResult :=
  noAnswer "skipped_duplicate_lock" (.ofMission .aborted)

def failedExecution : String → BatchResult := noAnswer "failed_execution" .failed

/-- The result of a mission that ends before its timeout; an error is `none`. -/
def resultOf (opportunityId : String) : Option MissionExecutionResult → BatchResult
  | some res =>
    ⟨opportunityId, res.runId, .ofMission res.status, res.finalDecision, res.authorityVerdict⟩
  | none     => failedExecution opportunityId

/-- A mission that is executing; `awaited` until its worker has lost patience. -/
structure Mission where
  id : ℕ
  batch : ℕ
  opportunityId : String
  awaited : Bool
  deriving DecidableEq, Repr

/-- The worker of the mission with this id waits no longer. -/
def Mission.giveUp (id : ℕ) (m : Mission) : Mission :=
  if m.id = id then { m with awaited := false } else m

@[simp] lemma Mission.id_giveUp (id : ℕ) (m : Mission) : (m.giveUp id).id = m.id := by
  rw [giveUp]
  split_ifs <;> rfl

@[simp] lemma Mission.opportunityId_giveUp (id : ℕ) (m : Mission) :
    (m.giveUp id).opportunityId = m.opportunityId := by
  rw [giveUp]
  split_ifs <;> rfl

lemma Mission.awaited_giveUp {id : ℕ} {m : Mission} :
    (m.giveUp id).awaited ↔ m.awaited ∧ m.id ≠ id := by
  rw [giveUp]
  split_ifs with h <;> simp [h]

/-- A call of `executeBatch`. `answers` are those that its workers have got in time. -/
structure Batch where
  opportunityIds : List String
  maxConcurrency : ℕ
  killedAtStart : Bool
  queue : List String
  results : List BatchResult
  answers : List (Option MissionExecutionResult)
  deriving DecidableEq, Repr

structure CoordinatorState where
  killSwitch : Bool
  activeLocks : Finset String
  missions : List Mission
  nextMission : ℕ
  batches : ℕ → Option Batch
  nextBatch : ℕ

inductive CoordinatorAction
  | setKillSwitch (active : Bool)
  | executeBatch (opportunityIds : List String) (maxConcurrentMissions : Option ℕ)
  | missionEnds (mission : ℕ) (answer : Option MissionExecutionResult)
  | missionTimesOut (mission : ℕ)
  deriving DecidableEq

/-- What a worker does in its turn: the results that it adds, the queue that it leaves, and the
opportunity that it then runs a mission for; without one it leaves. -/
structure Turn where
  results : List BatchResult
  queue : List String
  next : Option String
  deriving DecidableEq, Repr

def Turn.addResult (result : BatchResult) (turn : Turn) : Turn :=
  { turn with results := result :: turn.results }

/-- The loop of a worker up to its next mission. -/
def takeTurn (killSwitch : Bool) (activeLocks : Finset String) : List String → Turn
  | []            => ⟨[], [], none⟩
  | oppId :: rest =>
    if killSwitch then
      if oppId = "" then takeTurn killSwitch activeLocks rest
      else (takeTurn killSwitch activeLocks rest).addResult (abortedKillSwitch oppId)
    else if oppId = "" then ⟨[], rest, none⟩
    else if oppId ∈ activeLocks then
      (takeTurn killSwitch activeLocks rest).addResult (skippedDuplicateLock oppId)
    else ⟨[], rest, some oppId⟩

def Batch.afterTurn (batch : Batch) (turn : Turn) : Batch :=
  { batch with queue := turn.queue, results := batch.results ++ turn.results }

def Batch.addResult (batch : Batch) (result : BatchResult)
    (answers : List (Option MissionExecutionResult)) : Batch :=
  { batch with results := batch.results ++ [result], answers := batch.answers ++ answers }

namespace CoordinatorState

def idle : CoordinatorState where
  killSwitch := false
  activeLocks := ∅
  missions := []
  nextMission := 0
  batches := fun _ => none
  nextBatch := 0

def startMission (s : CoordinatorState) (batch : ℕ) (oppId : String) : CoordinatorState :=
  { s with
    activeLocks := insert oppId s.activeLocks
    missions := s.missions ++ [⟨s.nextMission, batch, oppId, true⟩]
    nextMission := s.nextMission + 1 }

def setBatch (s : CoordinatorState) (k : ℕ) (batch : Batch) : CoordinatorState :=
  { s with batches := Function.update s.batches k (some batch) }

/-- A worker of the batch takes its turn. -/
def runWorker (k : ℕ) (s : CoordinatorState) : CoordinatorState :=
  match s.batches k with
  | none       => s
  | some batch =>
    let turn := takeTurn s.killSwitch s.activeLocks batch.queue
    let t := s.setBatch k (batch.afterTurn turn)
    match turn.next with
    | none       => t
    | some oppId => t.startMission k oppId

/-- The worker of a mission gets a result for it, releases the lock and takes its next turn. -/
def release (s : CoordinatorState) (mission : Mission) (result : BatchResult)
    (answers : List (Option MissionExecutionResult)) : CoordinatorState :=
  match s.batches mission.batch with
  | none       => s
  | some batch =>
    runWorker mission.batch
      { s.setBatch mission.batch (batch.addResult result answers) with
        activeLocks := s.activeLocks.erase mission.opportunityId }

def executeBatch (s : CoordinatorState) (opportunityIds : List String)
    (maxConcurrentMissions : Option ℕ) : CoordinatorState :=
  let maxConcurrency := max 1 (maxConcurrentMissions.getD 3)
  let batch : Batch :=
    { opportunityIds, maxConcurrency, killedAtStart := s.killSwitch, queue := opportunityIds
      results := [], answers := [] }
  let t := { s with nextBatch := s.nextBatch + 1 }
  if s.killSwitch then
    t.setBatch s.nextBatch { batch with results := opportunityIds.map abortedPreExecution }
  else
    (runWorker s.nextBatch)^[min maxConcurrency opportunityIds.length]
      (t.setBatch s.nextBatch batch)

end CoordinatorState

def coordinatorStep (s : CoordinatorState) : CoordinatorAction → Option CoordinatorState
  | .setKillSwitch active                                => some { s with killSwitch := active }
  | .executeBatch opportunityIds maxConcurrentMissions   =>
    some (s.executeBatch opportunityIds maxConcurrentMissions)
  | .missionEnds id answer                               =>
    (s.missions.find? (·.id = id)).map fun mission =>
      let t := { s with missions := s.missions.filter (·.id ≠ id) }
      if mission.awaited then t.release mission (resultOf mission.opportunityId answer) [answer]
      else t
  | .missionTimesOut id                                  =>
    (s.missions.find? fun mission => mission.id = id && mission.awaited).map fun mission =>
      let t := { s with missions := s.missions.map (Mission.giveUp id) }
      t.release mission (failedExecution mission.opportunityId) []

/-! ### A turn -/

section Turns

variable {killSwitch : Bool} {activeLocks : Finset String} {queue : List String} {oppId : String}

/-- A turn goes through the queue in order and passes over the empty ids. -/
lemma takeTurn_ids (killSwitch : Bool) (activeLocks : Finset String) (queue : List String) :
    let turn := takeTurn killSwitch activeLocks queue
    turn.results.map (·.opportunityId) ++ turn.next.toList ++ turn.queue.filter (· ≠ "") =
      queue.filter (· ≠ "") := by
  induction queue with
  | nil => rfl
  | cons id rest ih =>
    rw [takeTurn]
    split_ifs with hkill hempty hempty hlocked
    · simpa [hempty] using ih
    · simpa [hempty, Turn.addResult, abortedKillSwitch, noAnswer] using ih
    · simp [hempty]
    · simpa [hempty, Turn.addResult, skippedDuplicateLock, noAnswer] using ih
    · simp [hempty]

lemma notMem_of_next (h : (takeTurn killSwitch activeLocks queue).next = some oppId) :
    oppId ∉ activeLocks := by
  induction queue with
  | nil => cases h
  | cons id rest ih =>
    rw [takeTurn] at h
    split_ifs at h with hkill hempty hempty hlocked
    · exact ih h
    · exact ih h
    · exact ih h
    · cases h
      exact hlocked

lemma queue_eq_nil (hids : "" ∉ queue) (h : (takeTurn killSwitch activeLocks queue).next = none) :
    (takeTurn killSwitch activeLocks queue).queue = [] := by
  induction queue with
  | nil => rfl
  | cons id rest ih =>
    obtain ⟨hid, hrest⟩ := not_or.mp (List.mem_cons.not.mp hids)
    rw [takeTurn] at h ⊢
    split_ifs at h ⊢ with hkill hempty hempty hlocked
    · exact absurd hempty.symm hid
    · exact ih hrest h
    · exact absurd hempty.symm hid
    · exact ih hrest h

end Turns

/-! ### The locks -/

/-- The missions that are awaited hold the locks of their opportunities, one for each. -/
structure LocksHeld (s : CoordinatorState) : Prop where
  fresh : ∀ m ∈ s.missions, m.id < s.nextMission
  unique : (s.missions.map Mission.id).Nodup
  locked : ∀ m ∈ s.missions, m.awaited → m.opportunityId ∈ s.activeLocks
  single : ∀ m ∈ s.missions, ∀ m' ∈ s.missions, m.awaited → m'.awaited →
    m.opportunityId = m'.opportunityId → m = m'

/-- Workers have gone on from `s` to `t`: they have started missions. -/
structure Started (s t : CoordinatorState) : Prop where
  missions : ∃ new, t.missions = s.missions ++ new ∧
    ∀ m ∈ new, s.nextMission ≤ m.id ∧ m.awaited
  nextMission : s.nextMission ≤ t.nextMission

lemma locksHeld_idle : LocksHeld .idle where
  fresh := fun _ hm => absurd hm List.not_mem_nil
  unique := List.nodup_nil
  locked := fun _ hm => absurd hm List.not_mem_nil
  single := fun _ hm => absurd hm List.not_mem_nil

section Locks

variable {s t u : CoordinatorState} {k : ℕ} {oppId : String} {mission : Mission}
  {result : BatchResult} {answers : List (Option MissionExecutionResult)}

/-- A worker leaves everything but its batch as it is, or starts a mission for an id that is not
locked. -/
lemma runWorker_cases (k : ℕ) (s : CoordinatorState) :
    (CoordinatorState.runWorker k s).missions = s.missions ∧
        (CoordinatorState.runWorker k s).activeLocks = s.activeLocks ∧
        (CoordinatorState.runWorker k s).nextMission = s.nextMission ∨
      ∃ oppId ∉ s.activeLocks,
        (CoordinatorState.runWorker k s).missions =
            s.missions ++ [⟨s.nextMission, k, oppId, true⟩] ∧
          (CoordinatorState.runWorker k s).activeLocks = insert oppId s.activeLocks ∧
          (CoordinatorState.runWorker k s).nextMission = s.nextMission + 1 := by
  rw [CoordinatorState.runWorker]
  cases s.batches k with
  | none => exact .inl ⟨rfl, rfl, rfl⟩
  | some batch =>
    dsimp only
    cases hnext : (takeTurn s.killSwitch s.activeLocks batch.queue).next with
    | none => exact .inl ⟨rfl, rfl, rfl⟩
    | some oppId => exact .inr ⟨oppId, notMem_of_next hnext, rfl, rfl, rfl⟩

lemma Started.refl (s : CoordinatorState) : Started s s where
  missions := ⟨[], by simp, by simp⟩
  nextMission := le_rfl

lemma Started.trans (hst : Started s t) (htu : Started t u) : Started s u where
  missions := by
    obtain ⟨new, hnew, hmem⟩ := hst.missions
    obtain ⟨new', hnew', hmem'⟩ := htu.missions
    refine ⟨new ++ new', by rw [hnew', hnew, List.append_assoc], fun m hm => ?_⟩
    obtain hm | hm := List.mem_append.mp hm
    · exact hmem m hm
    · exact ⟨hst.nextMission.trans (hmem' m hm).1, (hmem' m hm).2⟩
  nextMission := hst.nextMission.trans htu.nextMission

lemma started_runWorker (k : ℕ) (s : CoordinatorState) :
    Started s (CoordinatorState.runWorker k s) := by
  obtain ⟨hmissions, -, hnext⟩ | ⟨oppId, -, hmissions, -, hnext⟩ := runWorker_cases k s
  · exact ⟨⟨[], by simp [hmissions], by simp⟩, hnext.ge⟩
  · exact ⟨⟨_, hmissions, by simp⟩, by simp [hnext]⟩

lemma started_iterate (k n : ℕ) (s : CoordinatorState) :
    Started s ((CoordinatorState.runWorker k)^[n] s) := by
  induction n generalizing s with
  | zero => exact .refl s
  | succ n ih => exact (started_runWorker k s).trans (ih _)

lemma LocksHeld.runWorker (h : LocksHeld s) : LocksHeld (CoordinatorState.runWorker k s) := by
  obtain ⟨hmissions, hlocks, hnext⟩ | ⟨oppId, hfree, hmissions, hlocks, hnext⟩ :=
    runWorker_cases k s
  · exact ⟨hmissions ▸ hnext ▸ h.fresh, hmissions ▸ h.unique, hmissions ▸ hlocks ▸ h.locked,
      hmissions ▸ h.single⟩
  · constructor
    all_goals simp only [hmissions, hlocks, hnext, List.mem_append, List.mem_singleton]
    · rintro m (hm | rfl)
      · exact (h.fresh m hm).trans (Nat.lt_succ_self _)
      · exact Nat.lt_succ_self _
    · rw [List.map_append, List.nodup_append]
      refine ⟨h.unique, List.nodup_singleton _, fun id hid last hlast heq => ?_⟩
      obtain ⟨m, hm, rfl⟩ := List.mem_map.mp hid
      exact (h.fresh m hm).ne (heq.trans (List.mem_singleton.mp hlast))
    · rintro m (hm | rfl) hawaited
      · exact Finset.mem_insert_of_mem (h.locked m hm hawaited)
      · exact Finset.mem_insert_self ..
    · rintro m (hm | rfl) m' (hm' | rfl) hawaited hawaited' hopp
      · exact h.single m hm m' hm' hawaited hawaited' hopp
      · have hm' : m.opportunityId = oppId := hopp
        exact absurd (hm' ▸ h.locked m hm hawaited) hfree
      · have hm : oppId = m'.opportunityId := hopp
        exact absurd (hm ▸ h.locked m' hm' hawaited') hfree
      · rfl

lemma LocksHeld.iterate (h : LocksHeld s) (n : ℕ) :
    LocksHeld ((CoordinatorState.runWorker k)^[n] s) := by
  induction n generalizing s with
  | zero => exact h
  | succ n ih => exact ih h.runWorker

lemma LocksHeld.release (h : LocksHeld s)
    (hfree : ∀ m ∈ s.missions, m.awaited → m.opportunityId ≠ mission.opportunityId) :
    LocksHeld (s.release mission result answers) := by
  rw [CoordinatorState.release]
  cases s.batches mission.batch with
  | none => exact h
  | some batch =>
    refine LocksHeld.runWorker ⟨h.fresh, h.unique, fun m hm hawaited => ?_, h.single⟩
    exact Finset.mem_erase.mpr ⟨hfree m hm hawaited, h.locked m hm hawaited⟩

lemma started_release : Started s (s.release mission result answers) := by
  rw [CoordinatorState.release]
  cases s.batches mission.batch with
  | none => exact .refl s
  | some batch =>
    obtain ⟨hmissions, hnext⟩ := started_runWorker mission.batch
      { s.setBatch mission.batch (batch.addResult result answers) with
        activeLocks := s.activeLocks.erase mission.opportunityId }
    exact ⟨hmissions, hnext⟩

/-- A step goes from `s` to `u` without starting anything, and its workers then go on. -/
structure Settles (s u : CoordinatorState) : Prop where
  missions : ∀ m ∈ u.missions, ∃ m₀ ∈ s.missions,
    m₀.id = m.id ∧ m₀.opportunityId = m.opportunityId
  nextMission : u.nextMission = s.nextMission

/-- Every step settles something or nothing, and then starts missions or none. -/
lemma step_shape {action : CoordinatorAction} (h : LocksHeld s)
    (hstep : coordinatorStep s action = some t) : LocksHeld t ∧ ∃ u, Settles s u ∧ Started u t := by
  cases action with
  | setKillSwitch active =>
    obtain rfl : { s with killSwitch := active } = t := Option.some.inj hstep
    exact ⟨⟨h.fresh, h.unique, h.locked, h.single⟩, s, ⟨fun m hm => ⟨m, hm, rfl, rfl⟩, rfl⟩,
      ⟨[], by simp, by simp⟩, le_rfl⟩
  | executeBatch opportunityIds maxConcurrentMissions =>
    obtain rfl : s.executeBatch opportunityIds maxConcurrentMissions = t := Option.some.inj hstep
    have hsettles : ∀ batch, Settles s
        (({ s with nextBatch := s.nextBatch + 1 } : CoordinatorState).setBatch s.nextBatch batch) :=
      fun batch => ⟨fun m hm => ⟨m, hm, rfl, rfl⟩, rfl⟩
    have hlocks : ∀ batch, LocksHeld
        (({ s with nextBatch := s.nextBatch + 1 } : CoordinatorState).setBatch s.nextBatch batch) :=
      fun batch => ⟨h.fresh, h.unique, h.locked, h.single⟩
    rw [CoordinatorState.executeBatch]
    dsimp only
    split_ifs with hkill
    · exact ⟨hlocks _, _, hsettles _, .refl _⟩
    · exact ⟨(hlocks _).iterate _, _, hsettles _, started_iterate ..⟩
  | missionEnds id answer =>
    obtain ⟨mission, hfind, rfl⟩ := Option.map_eq_some_iff.mp hstep
    have hid : mission.id = id := by simpa using List.find?_some hfind
    have hmem := List.mem_of_find?_eq_some hfind
    have hu : LocksHeld { s with missions := s.missions.filter (·.id ≠ id) } :=
      ⟨fun m hm => h.fresh m (List.mem_of_mem_filter hm),
        h.unique.sublist (List.filter_sublist.map _),
        fun m hm => h.locked m (List.mem_of_mem_filter hm),
        fun m hm m' hm' => h.single m (List.mem_of_mem_filter hm) m' (List.mem_of_mem_filter hm')⟩
    have hsettles : Settles s { s with missions := s.missions.filter (·.id ≠ id) } :=
      ⟨fun m hm => ⟨m, List.mem_of_mem_filter hm, rfl, rfl⟩, rfl⟩
    dsimp only
    split_ifs with hawaited
    · refine ⟨hu.release fun m hm hm' heq => ?_, _, hsettles, started_release⟩
      obtain ⟨hm, hne⟩ := List.mem_filter.mp hm
      rw [h.single m hm mission hmem hm' hawaited heq] at hne
      exact of_decide_eq_true hne hid
    · exact ⟨hu, _, hsettles, .refl _⟩
  | missionTimesOut id =>
    obtain ⟨mission, hfind, rfl⟩ := Option.map_eq_some_iff.mp hstep
    have hfound := List.find?_some hfind
    simp only [Bool.and_eq_true, decide_eq_true_eq] at hfound
    obtain ⟨hid, hawaited⟩ := hfound
    have hmem := List.mem_of_find?_eq_some hfind
    have hu : LocksHeld { s with missions := s.missions.map (Mission.giveUp id) } := by
      constructor
      all_goals simp only [List.forall_mem_map, Mission.id_giveUp, Mission.opportunityId_giveUp,
        Mission.awaited_giveUp]
      · exact h.fresh
      · rw [List.map_map]
        simpa [Function.comp_def] using h.unique
      · exact fun m hm hm' => h.locked m hm hm'.1
      · exact fun m hm m' hm' ha ha' heq => congrArg _ (h.single m hm m' hm' ha.1 ha'.1 heq)
    have hsettles : Settles s { s with missions := s.missions.map (Mission.giveUp id) } :=
      ⟨by simpa using fun m hm => ⟨m, hm, rfl, rfl⟩, rfl⟩
    refine ⟨hu.release ?_, _, hsettles, started_release⟩
    simp only [List.forall_mem_map, Mission.opportunityId_giveUp, Mission.awaited_giveUp]
    rintro m hm ⟨hm', hne⟩ heq
    exact hne (h.single m hm mission hmem hm' hawaited heq ▸ hid)

end Locks

/-! ### Missions of one opportunity -/

/-- No two missions for one opportunity are executing. -/
def Exclusive (s : CoordinatorState) : Prop :=
  ∀ m ∈ s.missions, ∀ m' ∈ s.missions, m.opportunityId = m'.opportunityId → m = m'

/-- No mission is started for an opportunity of which a mission that has timed out is still
executing. -/
def StartsAfterEnd (s : CoordinatorState) (_ : CoordinatorAction) (t : CoordinatorState) : Prop :=
  ∀ m ∈ t.missions, s.nextMission ≤ m.id →
    ∀ overdue ∈ t.missions, overdue.awaited = false → overdue.opportunityId ≠ m.opportunityId

lemma exclusive_iff_startsAfterEnd {s t : CoordinatorState} {action : CoordinatorAction}
    (h : LocksHeld s) (hexclusive : Exclusive s) (hstep : coordinatorStep s action = some t) :
    Exclusive t ↔ StartsAfterEnd s action t := by
  obtain ⟨ht, u, hsettles, ⟨new, hmissions, hnew⟩, -⟩ := step_shape h hstep
  have hold : ∀ m ∈ t.missions, m ∈ u.missions ∨ s.nextMission ≤ m.id ∧ m.awaited := by
    intro m hm
    rw [hmissions, List.mem_append] at hm
    exact hm.imp_right fun hm => hsettles.nextMission ▸ hnew m hm
  constructor
  · intro hexclusive' m hm hstarted overdue hoverdue htimeout heq
    obtain rfl := hexclusive' overdue hoverdue m hm heq
    obtain hearlier | ⟨-, hawaited⟩ := hold overdue hm
    · obtain ⟨m₀, hm₀, hid, -⟩ := hsettles.missions overdue hearlier
      exact absurd (h.fresh m₀ hm₀) (by omega)
    · simp [htimeout] at hawaited
  · intro hstarts m hm m' hm' heq
    obtain hearlier | ⟨hstarted, hawaited⟩ := hold m hm
    · obtain hearlier' | ⟨hstarted', hawaited'⟩ := hold m' hm'
      · -- both were executing before the step
        obtain ⟨m₀, hm₀, hid, hopp⟩ := hsettles.missions m hearlier
        obtain ⟨m₁, hm₁, hid', hopp'⟩ := hsettles.missions m' hearlier'
        have hsame : m₀ = m₁ := hexclusive m₀ hm₀ m₁ hm₁ (by rw [hopp, hopp', heq])
        exact List.inj_on_of_nodup_map ht.unique hm hm' (by rw [← hid, ← hid', hsame])
      · cases hm₂ : m.awaited with
        | true => exact ht.single m hm m' hm' hm₂ hawaited' heq
        | false => exact absurd heq (hstarts m' hm' hstarted' m hm hm₂)
    · cases hm₂ : m'.awaited with
      | true => exact ht.single m hm m' hm' hawaited hm₂ heq
      | false => exact absurd heq.symm (hstarts m hm hstarted m' hm' hm₂)

/-- At no time of a run are two missions for one opportunity executing if and only if none is
started while an earlier one that has timed out still is. -/
theorem missions_exclusive_iff (actions : List CoordinatorAction) :
    (∀ before rest t, actions = before ++ rest → Run coordinatorStep .idle before t →
        Exclusive t) ↔
      AllSteps coordinatorStep StartsAfterEnd .idle actions := by
  apply always_iff_allSteps_of_invariant (J := LocksHeld)
  · exact fun s action t h hstep => (step_shape h hstep).1
  · exact fun s action t hlocks h hstep => exclusive_iff_startsAfterEnd hlocks h hstep
  · exact fun m hm => absurd hm List.not_mem_nil
  · exact locksHeld_idle

/-- A mission times out, and a second batch takes up its opportunity. -/
def overlappingBatches : List CoordinatorAction :=
  [.executeBatch ["opp_1"] none, .missionTimesOut 0, .executeBatch ["opp_1"] none]

/-- The lock was released at the timeout although the mission goes on: two missions execute. -/
theorem timed_out_mission_overlaps :
    ¬ ∀ actions t, Run coordinatorStep .idle actions t → Exclusive t := by
  intro h
  obtain ⟨t, hrun, ht⟩ := exists_run_of_execute coordinatorStep .idle overlappingBatches
    (fun t => t.missions = [⟨0, 0, "opp_1", false⟩, ⟨1, 1, "opp_1", true⟩]) (by decide +kernel)
  have hmissions := of_decide_eq_true ht
  have heq := h _ t hrun ⟨0, 0, "opp_1", false⟩ (by simp [hmissions]) ⟨1, 1, "opp_1", true⟩
    (by simp [hmissions]) rfl
  cases heq

end MissionConcurrencyCoordinator

end CtrlRecovery
