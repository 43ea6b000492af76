import CtrlRecovery.Core.SortedSet
import Mathlib.Data.List.Range
import Mathlib.Data.Rat.Floor

/-!
# The distributed rate limiter

`DistributedRateLimiter.checkLimit` keeps the times of the requests of a key in a sorted set of Redis,
or in an array of the process. The array gets the requests that are let through, the sorted set all of
them, so that a refused request counts against the ones after it. The two give the same answers
exactly as long as the requests that are refused find enough others in their window that were let
through (`decisions_eq_iff`).
-/

namespace CtrlRecovery

open Core

namespace DistributedRateLimiter

structure RateLimitResult where
  allowed : Bool
  remaining : ℚ
  resetSeconds : ℚ
  deriving DecidableEq, Repr

/-- A call of `checkLimit`, with the random part of the member that it would add. -/
structure Request where
  now : ℕ
  random : String
  deriving DecidableEq, Repr

def Request.member (request : Request) : String := toString request.now ++ "-" ++ request.random

/-- Requests for one key in the order of their times, with members of their own. -/
structure Requests where
  list : List Request
  ordered : list.Pairwise fun r r' => r.now ≤ r'.now
  distinct : (list.map Request.member).Nodup

variable (maxRequests windowSeconds : ℚ)

def cutoff (now : ℕ) : ℚ := now - windowSeconds * 1000

/-- `resetSeconds` of a refusal, by the oldest time in the window. -/
def resetSeconds (now oldest : ℕ) : ℚ :=
  max 1 ⌈((oldest : ℚ) + windowSeconds * 1000 - now) / 1000⌉

def checkLimitRedis (set : SortedSet String) (request : Request) :
    RateLimitResult × SortedSet String :=
  let now := request.now
  let set := (set.live now).zremrangebyscore 0 (cutoff windowSeconds now)
  let set := set.zadd now request.member
  let count := set.zcard
  let set := set.expire now windowSeconds
  if count > maxRequests then
    ({ allowed := false
       remaining := 0
       resetSeconds := resetSeconds windowSeconds now (set.lowestScore.getD now) }, set)
  else
    ({ allowed := true
       remaining := max 0 (maxRequests - count)
       resetSeconds := windowSeconds }, set)

/-- `bucket` holds the times of the key, oldest first. -/
def checkLimitMemory (bucket : List ℕ) (request : Request) : RateLimitResult × List ℕ :=
  let now := request.now
  let timestamps := bucket.filter fun t : ℕ => cutoff windowSeconds now < t
  if timestamps.length ≥ maxRequests then
    ({ allowed := false
       remaining := 0
       resetSeconds := resetSeconds windowSeconds now (timestamps.head?.getD now) }, bucket)
  else
    ({ allowed := true
       remaining := maxRequests - (timestamps ++ [now]).length
       resetSeconds := windowSeconds }, timestamps ++ [now])

/-! ### Decisions -/

def redisDecisions : SortedSet String → List Request → List Bool
  | _, []                   => []
  | set, request :: requests =>
    let (result, set) := checkLimitRedis maxRequests windowSeconds set request
    result.allowed :: redisDecisions set requests

def memoryDecisions : List ℕ → List Request → List Bool
  | _, []                      => []
  | bucket, request :: requests =>
    let (result, bucket) := checkLimitMemory maxRequests windowSeconds bucket request
    result.allowed :: memoryDecisions bucket requests

/-- The times, latest first, that are in the window of a request. -/
def inWindow (now : ℕ) (past : List ℕ) : List ℕ :=
  past.filter fun t : ℕ => cutoff windowSeconds now < t

/-- With the request there are more in its window than are allowed, whether they were let through or
not. -/
def Crowded (now : ℕ) (past : List ℕ) : Prop :=
  maxRequests < (inWindow windowSeconds now past).length + 1

instance (now : ℕ) (past : List ℕ) : Decidable (Crowded maxRequests windowSeconds now past) :=
  inferInstanceAs (Decidable (_ < _))

/-- The times of the requests that were not crowded, latest first. -/
def uncrowded : List ℕ → List ℕ
  | []          => []
  | now :: past =>
    if Crowded maxRequests windowSeconds now past then uncrowded past else now :: uncrowded past

/-- Each of the times `nows`, which follow those of `past`, has `maxRequests` times in its window that
were not crowded, if it is crowded itself. -/
def CrowdedByUncrowded : List ℕ → List ℕ → Prop
  | _, []           => True
  | past, now :: nows =>
    (Crowded maxRequests windowSeconds now past →
      maxRequests ≤ (inWindow windowSeconds now (uncrowded maxRequests windowSeconds past)).length) ∧
    CrowdedByUncrowded (now :: past) nows

variable {maxRequests windowSeconds} {now now' last : ℕ} {past granted bucket : List ℕ}
  {set : SortedSet String} {members : List String} {request : Request}

/-! ### Windows -/

lemma inWindow_cons_of_le (hnow : now ≤ now') : inWindow windowSeconds now'
    (now :: inWindow windowSeconds now past) = inWindow windowSeconds now' (now :: past) := by
  have hcutoff : cutoff windowSeconds now ≤ cutoff windowSeconds now' :=
    sub_le_sub_right (Nat.cast_le.mpr hnow) _
  have hagain : inWindow windowSeconds now' (inWindow windowSeconds now past) =
      inWindow windowSeconds now' past := by
    rw [inWindow, inWindow, List.filter_filter]
    refine List.filter_congr fun t _ => ?_
    rw [← Bool.decide_and, decide_eq_decide]
    exact ⟨And.left, fun h => ⟨h, hcutoff.trans_lt h⟩⟩
  rw [inWindow, List.filter_cons, ← inWindow, hagain, inWindow, inWindow, List.filter_cons]

lemma inWindow_eq_nil (h : ∀ t ∈ past, (t : ℚ) ≤ cutoff windowSeconds now) :
    inWindow windowSeconds now past = [] := by
  rw [inWindow, List.filter_eq_nil_iff]
  intro t ht
  simpa using h t ht

lemma inWindow_reverse :
    inWindow windowSeconds now past.reverse = (inWindow windowSeconds now past).reverse := by
  rw [inWindow, List.filter_reverse, inWindow]

lemma uncrowded_sublist (maxRequests windowSeconds : ℚ) (past : List ℕ) :
    (uncrowded maxRequests windowSeconds past).Sublist past := by
  induction past with
  | nil => exact .slnil
  | cons now past ih =>
    rw [uncrowded]
    split_ifs
    · exact ih.cons now
    · exact ih.cons_cons now

lemma crowded_of_full (h : maxRequests ≤
    (inWindow windowSeconds now (uncrowded maxRequests windowSeconds past)).length) :
    Crowded maxRequests windowSeconds now past := by
  have hle := ((uncrowded_sublist maxRequests windowSeconds past).filter
    fun t : ℕ => cutoff windowSeconds now < t).length_le
  have hcast : ((inWindow windowSeconds now
      (uncrowded maxRequests windowSeconds past)).length : ℚ) ≤
      (inWindow windowSeconds now past).length := Nat.cast_le.mpr hle
  exact (h.trans hcast).trans_lt (lt_add_one _)

/-! ### The sorted set -/

/-- The sorted set holds what is in the window at any time from now on. -/
structure Recorded (windowSeconds : ℚ) (set : SortedSet String) (past : List ℕ)
    (members : List String) (last : ℕ) : Prop where
  past_le : ∀ t ∈ past, t ≤ last
  scores : ∀ now ≥ last, inWindow windowSeconds now ((set.live now).entries.map Prod.snd) =
    inWindow windowSeconds now past
  members : set.entries.map Prod.fst ⊆ members
  lives : windowSeconds.den ≠ 1 → set.expiresAt = none

lemma recorded_empty : Recorded windowSeconds .empty [] [] 0 where
  past_le := by simp
  scores := by simp [SortedSet.live, SortedSet.empty]
  members := by simp [SortedSet.empty]
  lives _ := rfl

lemma live_eq_or (set : SortedSet String) (now : ℚ) :
    set.live now = set ∨ set.live now = .empty := by
  rw [SortedSet.live]
  split_ifs
  · exact .inr rfl
  · exact .inl rfl

/-- The set after the old times were removed and the new one added. -/
def added (windowSeconds : ℚ) (set : SortedSet String) (request : Request) : SortedSet String :=
  ((set.live request.now).zremrangebyscore 0 (cutoff windowSeconds request.now)).zadd request.now
    request.member

lemma scores_zremrangebyscore :
    (set.zremrangebyscore 0 (cutoff windowSeconds now)).entries.map Prod.snd =
      inWindow windowSeconds now (set.entries.map Prod.snd) := by
  rw [inWindow, List.filter_map]
  refine congrArg (List.map Prod.snd) (List.filter_congr fun entry _ => ?_)
  have hnonneg : (0 : ℚ) ≤ entry.2 := Nat.cast_nonneg _
  simp [hnonneg]

lemma members_zremrangebyscore_live (request : Request)
    (hset : Recorded windowSeconds set past members last) :
    ((set.live request.now).zremrangebyscore 0
      (cutoff windowSeconds request.now)).entries.map Prod.fst ⊆ members := by
  refine List.Subset.trans (List.filter_sublist.map Prod.fst).subset ?_
  rcases live_eq_or set request.now with h | h
  · rw [h]
    exact hset.members
  · simp [h, SortedSet.empty]

lemma entries_added (hset : Recorded windowSeconds set past members last)
    (hnow : last ≤ request.now) (hnew : request.member ∉ members) :
    (added windowSeconds set request).entries.map Prod.snd =
        request.now :: inWindow windowSeconds request.now past ∧
      (added windowSeconds set request).entries.map Prod.fst ⊆ request.member :: members := by
  have hmembers := members_zremrangebyscore_live request hset
  rw [added, SortedSet.entries_zadd_of_notMem fun h => hnew (hmembers h)]
  constructor
  · rw [List.map_cons, scores_zremrangebyscore, hset.scores _ hnow]
  · exact List.cons_subset_cons _ hmembers

lemma expiresAt_added (request : Request) (hset : Recorded windowSeconds set past members last)
    (hden : windowSeconds.den ≠ 1) : (added windowSeconds set request).expiresAt = none := by
  have hlive : (set.live request.now).expiresAt = none := by
    rcases live_eq_or set request.now with h | h
    · rw [h, hset.lives hden]
    · rw [h]
      rfl
  simp only [added, SortedSet.zadd, SortedSet.zremrangebyscore, hlive, ite_self]

lemma zcard_added (hset : Recorded windowSeconds set past members last)
    (hnow : last ≤ request.now) (hnew : request.member ∉ members) :
    (added windowSeconds set request).zcard =
      (inWindow windowSeconds request.now past).length + 1 := by
  rw [SortedSet.zcard, ← List.length_map Prod.snd, (entries_added hset hnow hnew).1,
    List.length_cons]

lemma inWindow_eq_nil_of_expired (hpast : ∀ t ∈ past, t ≤ now)
    (h : (now : ℚ) + windowSeconds * 1000 ≤ now') :
    inWindow windowSeconds now' past = [] := by
  refine inWindow_eq_nil fun t ht => ?_
  have hle : (t : ℚ) ≤ now := Nat.cast_le.mpr (hpast t ht)
  rw [cutoff]
  linarith

/-- The sorted set holds the times of the window together with the new one. -/
lemma recorded_expire (hset : Recorded windowSeconds set past members last)
    (hnow : last ≤ request.now) (hnew : request.member ∉ members) :
    Recorded windowSeconds ((added windowSeconds set request).expire request.now windowSeconds)
      (request.now :: past) (request.member :: members) request.now := by
  obtain ⟨hscores, hmembers⟩ := entries_added hset hnow hnew
  have hpast : ∀ t ∈ request.now :: past, t ≤ request.now := by
    rw [List.forall_mem_cons]
    exact ⟨le_rfl, fun t ht => (hset.past_le t ht).trans hnow⟩
  -- while the key lives, what has left the window of this request is not in a later one
  have hlater : ∀ later ≥ request.now,
      inWindow windowSeconds later ((added windowSeconds set request).entries.map Prod.snd) =
        inWindow windowSeconds later (request.now :: past) := by
    intro later hlater
    rw [hscores, inWindow_cons_of_le hlater]
  by_cases hden : windowSeconds.den = 1
  · by_cases hpos : windowSeconds ≤ 0
    · have hexpire : (added windowSeconds set request).expire request.now windowSeconds = .empty := by
        rw [SortedSet.expire, if_pos hden, if_pos hpos]
      rw [hexpire]
      refine ⟨hpast, fun later hle => ?_, by simp [SortedSet.empty], fun h => absurd hden h⟩
      rw [inWindow_eq_nil_of_expired hpast]
      · simp [SortedSet.live, SortedSet.empty, inWindow]
      · have : (request.now : ℚ) ≤ later := Nat.cast_le.mpr hle
        linarith
    · have hexpire : (added windowSeconds set request).expire request.now windowSeconds =
          { added windowSeconds set request with
            expiresAt := some (request.now + windowSeconds * 1000) } := by
        rw [SortedSet.expire, if_pos hden, if_neg hpos]
      rw [hexpire]
      refine ⟨hpast, fun later hle => ?_, hmembers, fun h => absurd hden h⟩
      by_cases hexpired : (request.now : ℚ) + windowSeconds * 1000 < later
      · rw [inWindow_eq_nil_of_expired hpast hexpired.le]
        simp [SortedSet.live, SortedSet.empty, hexpired, inWindow]
      · simp only [SortedSet.live, Option.any_some, hexpired, decide_false, Bool.false_eq_true,
          if_false]
        exact hlater later hle
  · have hexpire : (added windowSeconds set request).expire request.now windowSeconds =
        added windowSeconds set request := by
      rw [SortedSet.expire, if_neg hden]
    have hnone := expiresAt_added request hset hden
    rw [hexpire]
    refine ⟨hpast, fun later hle => ?_, hmembers, fun _ => hnone⟩
    rw [SortedSet.live, hnone]
    exact hlater later hle

lemma allowed_checkLimitRedis (hset : Recorded windowSeconds set past members last)
    (hnow : last ≤ request.now) (hnew : request.member ∉ members) :
    (checkLimitRedis maxRequests windowSeconds set request).1.allowed =
      !decide (Crowded maxRequests windowSeconds request.now past) := by
  have hcard := zcard_added hset hnow hnew
  rw [added] at hcard
  have hcount : (((inWindow windowSeconds request.now past).length + 1 : ℕ) : ℚ) > maxRequests ↔
      Crowded maxRequests windowSeconds request.now past := by
    rw [Crowded, Nat.cast_add, Nat.cast_one, gt_iff_lt]
  simp only [checkLimitRedis, hcard, hcount]
  split_ifs with hcrowded
  · rw [decide_eq_true hcrowded, Bool.not_true]
  · rw [decide_eq_false hcrowded, Bool.not_false]

lemma recorded_checkLimitRedis (hset : Recorded windowSeconds set past members last)
    (hnow : last ≤ request.now) (hnew : request.member ∉ members) :
    Recorded windowSeconds (checkLimitRedis maxRequests windowSeconds set request).2
      (request.now :: past) (request.member :: members) request.now := by
  simp only [checkLimitRedis]
  split_ifs
  · exact recorded_expire hset hnow hnew
  · exact recorded_expire hset hnow hnew

/-! ### The array -/

/-- The array holds what was let through in the window at any time from now on. -/
def Kept (windowSeconds : ℚ) (bucket granted : List ℕ) (last : ℕ) : Prop :=
  ∀ now ≥ last, inWindow windowSeconds now bucket.reverse = inWindow windowSeconds now granted

lemma length_timestamps (hbucket : Kept windowSeconds bucket granted last) (hnow : last ≤ now) :
    (bucket.filter fun t : ℕ => cutoff windowSeconds now < t).length =
      (inWindow windowSeconds now granted).length := by
  rw [← hbucket now hnow, inWindow_reverse, List.length_reverse, inWindow]

lemma allowed_checkLimitMemory (hbucket : Kept windowSeconds bucket granted last)
    (hnow : last ≤ request.now) :
    (checkLimitMemory maxRequests windowSeconds bucket request).1.allowed =
      !decide (maxRequests ≤ (inWindow windowSeconds request.now granted).length) := by
  simp only [checkLimitMemory, length_timestamps hbucket hnow]
  split_ifs with hfull
  · simpa using hfull
  · simpa using hfull

lemma kept_checkLimitMemory (maxRequests : ℚ) (hbucket : Kept windowSeconds bucket granted last)
    (hnow : last ≤ request.now) :
    Kept windowSeconds (checkLimitMemory maxRequests windowSeconds bucket request).2
      (if maxRequests ≤ (inWindow windowSeconds request.now granted).length then granted
        else request.now :: granted) request.now := by
  intro later hlater
  simp only [checkLimitMemory, length_timestamps hbucket hnow]
  split_ifs
  · exact hbucket later (hnow.trans hlater)
  · have hreverse : (bucket.filter fun t : ℕ => cutoff windowSeconds request.now < t).reverse =
        inWindow windowSeconds request.now granted := by
      rw [← hbucket request.now hnow, inWindow_reverse, inWindow]
    rw [List.reverse_append, hreverse]
    exact inWindow_cons_of_le hlater

/-! ### The two paths -/

/-- Redis and the array agree on a request exactly when it is not crowded, or finds a window that is
full of requests that were let through. -/
lemma decisions_iff (hset : Recorded windowSeconds set past members last)
    (hbucket : Kept windowSeconds bucket (uncrowded maxRequests windowSeconds past) last)
    {requests : List Request} (hlast : ∀ r ∈ requests, last ≤ r.now)
    (hordered : requests.Pairwise fun r r' => r.now ≤ r'.now)
    (hdistinct : (requests.map Request.member).Nodup)
    (hnew : ∀ r ∈ requests, r.member ∉ members) :
    redisDecisions maxRequests windowSeconds set requests =
        memoryDecisions maxRequests windowSeconds bucket requests ↔
      CrowdedByUncrowded maxRequests windowSeconds past (requests.map Request.now) := by
  induction requests generalizing set bucket past members last with
  | nil => simp [redisDecisions, memoryDecisions, CrowdedByUncrowded]
  | cons request requests ih =>
    have hnow := hlast request List.mem_cons_self
    have hmember := hnew request List.mem_cons_self
    rw [List.pairwise_cons] at hordered
    rw [List.map_cons, List.nodup_cons] at hdistinct
    simp only [redisDecisions, memoryDecisions, List.cons.injEq, List.map_cons, CrowdedByUncrowded]
    have hagree : (checkLimitRedis maxRequests windowSeconds set request).1.allowed =
        (checkLimitMemory maxRequests windowSeconds bucket request).1.allowed ↔
          (Crowded maxRequests windowSeconds request.now past → maxRequests ≤ (inWindow windowSeconds
            request.now (uncrowded maxRequests windowSeconds past)).length) := by
      rw [allowed_checkLimitRedis hset hnow hmember, allowed_checkLimitMemory hbucket hnow,
        Bool.not_inj_iff, decide_eq_decide]
      exact ⟨Iff.mp, fun h => ⟨h, crowded_of_full⟩⟩
    rw [hagree]
    refine and_congr_right fun hfull => ?_
    -- both have let the request through, or neither has
    have hiff : maxRequests ≤ (inWindow windowSeconds request.now
        (uncrowded maxRequests windowSeconds past)).length ↔
        Crowded maxRequests windowSeconds request.now past := ⟨crowded_of_full, hfull⟩
    have hkept := kept_checkLimitMemory maxRequests hbucket hnow
    simp only [hiff] at hkept
    refine ih (recorded_checkLimitRedis hset hnow hmember) hkept hordered.1 hordered.2 hdistinct.2
      fun r hr => ?_
    rw [List.mem_cons, not_or]
    refine ⟨fun heq => hdistinct.1 ?_, hnew r (List.mem_cons_of_mem _ hr)⟩
    rw [← heq]
    exact List.mem_map_of_mem hr

/-- For a key without requests so far, both paths give the same decision for each request exactly when
every crowded request has `maxRequests` requests in its window that were not crowded. -/
theorem decisions_eq_iff (maxRequests windowSeconds : ℚ) (requests : Requests) :
    redisDecisions maxRequests windowSeconds .empty requests.list =
        memoryDecisions maxRequests windowSeconds [] requests.list ↔
      CrowdedByUncrowded maxRequests windowSeconds [] (requests.list.map Request.now) :=
  decisions_iff recorded_empty (fun _ _ => rfl) (fun _ _ => Nat.zero_le _) requests.ordered
    requests.distinct (by simp)

/-- One request is allowed in a second; a client tries again after 0.6 and after 1.2 seconds. -/
def retriedRequests : Requests where
  list := [⟨0, "a1b2c"⟩, ⟨600, "d3e4f"⟩, ⟨1200, "g5h6i"⟩]
  ordered := by decide
  distinct := by decide

/-- The array lets the third request through. Redis refuses it, because of the second one. -/
theorem refused_request_counts :
    redisDecisions 1 1 .empty retriedRequests.list ≠ memoryDecisions 1 1 [] retriedRequests.list := by
  decide +kernel

end DistributedRateLimiter

end CtrlRecovery
