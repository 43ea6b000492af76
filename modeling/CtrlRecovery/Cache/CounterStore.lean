import CtrlRecovery.Cache.CacheManager
import CtrlRecovery.Core.TtlStore
import Mathlib.Data.Rat.Defs

/-!
# Numbers in the cache

The two stores of `CacheManager` with the numbers that are kept in them under a key. A `get` or a `set`
goes to Redis while it is connected, else to the bounded map of the process, and there as well after a
command that failed.
-/

namespace CtrlRecovery

open Core

/-- An entry of the fallback store with its value. -/
structure CounterEntry where
  key : String
  value : ℚ
  expiresAt : ℕ
  deriving DecidableEq, Repr

/-- The stores of a process. -/
structure CounterStore where
  isRedisConnected : Bool
  redis : TtlStore String ℚ
  fallbackStore : Table CounterEntry.key

namespace CounterStore

def initial : CounterStore := ⟨false, .empty, .empty⟩

variable (c : CounterStore) (now : ℕ) (key : String)

/-! ### The fallback store -/

/-- The entry of a key in the fallback store that has not expired. -/
def fallbackEntry : Option CounterEntry :=
  (c.fallbackStore.find? key).filter fun entry => now ≤ entry.expiresAt

/-- `get` drops an entry that has expired. -/
def dropExpired : CounterStore :=
  if (c.fallbackStore.find? key).any fun entry => entry.expiresAt < now then
    { c with fallbackStore := c.fallbackStore.erase key }
  else c

/-- The key that a `set` on a full store evicts. -/
def evictedKey : Option String :=
  if CacheManager.MAX_FALLBACK_KEYS ≤ c.fallbackStore.rows.length then
    (c.fallbackStore.rows.head?.map (·.key)).filter (· ≠ "")
  else none

def evictOldest : CounterStore :=
  match c.evictedKey with
  | some oldestKey => { c with fallbackStore := c.fallbackStore.erase oldestKey }
  | none           => c

def fallbackSet (value : ℚ) (ttlSeconds : ℕ) : CounterStore :=
  { c.evictOldest with
    fallbackStore := c.evictOldest.fallbackStore.put ⟨key, value, now + ttlSeconds * 1000⟩ }

/-- The active eviction of the expired entries. -/
def cleanup : CounterStore :=
  { c with
    fallbackStore :=
      ⟨c.fallbackStore.rows.filter fun entry => !decide (entry.expiresAt < now),
        c.fallbackStore.nodup.sublist (List.filter_sublist.map CounterEntry.key)⟩ }

/-! ### Redis -/

def redisSet (value : ℚ) (ttlSeconds : ℕ) : CounterStore :=
  { c with redis := c.redis.set now key value (ttlSeconds * 1000) }

/-! ### Commands -/

/-- The commands of the counters. -/
inductive Command
  | get (key : String)
  | set (key : String) (value : ℚ) (ttlSeconds : ℕ)

/-- The effect of a command on the fallback store. -/
def onFallback : Command → CounterStore
  | .get key                  => c.dropExpired now key
  | .set key value ttlSeconds => c.fallbackSet now key value ttlSeconds

/-- The effect of a command on Redis. -/
def onRedis : Command → CounterStore
  | .get _                    => c
  | .set key value ttlSeconds => c.redisSet now key value ttlSeconds

/-- The number of a key in the fallback store, or in Redis: 0 where there is none. -/
def fallbackNumber : ℚ := ((c.fallbackEntry now key).map (·.value)).getD 0

def redisNumber : ℚ := (c.redis.get now key).getD 0

/-- The number that a `get` of the key answers. -/
def number : ℚ := if c.isRedisConnected then c.redisNumber now key else c.fallbackNumber now key

def isAlive : Bool :=
  if c.isRedisConnected then (c.redis.get now key).isSome else (c.fallbackEntry now key).isSome

/-! ### What the commands leave -/

variable {c : CounterStore} {now : ℕ} {key : String} {value : ℚ} {ttlSeconds : ℕ} {j : String}

@[simp] lemma redis_dropExpired : (c.dropExpired now key).redis = c.redis := by
  rw [dropExpired]
  split_ifs <;> rfl

@[simp] lemma isRedisConnected_dropExpired :
    (c.dropExpired now key).isRedisConnected = c.isRedisConnected := by
  rw [dropExpired]
  split_ifs <;> rfl

@[simp] lemma redis_evictOldest : c.evictOldest.redis = c.redis := by
  rw [evictOldest]
  split <;> rfl

@[simp] lemma isRedisConnected_evictOldest :
    c.evictOldest.isRedisConnected = c.isRedisConnected := by
  rw [evictOldest]
  split <;> rfl

/-- Dropping an expired entry changes no entry that is alive. -/
lemma fallbackEntry_dropExpired :
    (c.dropExpired now key).fallbackEntry now j = c.fallbackEntry now j := by
  rw [dropExpired]
  split_ifs with hexpired
  · rw [fallbackEntry, fallbackEntry, Table.find?_erase]
    split_ifs with hj
    · subst hj
      cases hentry : c.fallbackStore.find? j with
      | none => rfl
      | some entry =>
        rw [hentry, Option.any_some, decide_eq_true_eq] at hexpired
        simp [Option.filter_some, Nat.not_le.mpr hexpired]
    · rfl
  · rfl

lemma fallbackEntry_cleanup : (c.cleanup now).fallbackEntry now j = c.fallbackEntry now j := by
  apply Option.ext
  intro entry
  simp only [fallbackEntry, cleanup, Option.filter_eq_some_iff,
    Table.find?_eq_some_iff, List.mem_filter, Bool.not_eq_true', decide_eq_false_iff_not,
    decide_eq_true_eq]
  constructor
  · rintro ⟨⟨⟨hmem, -⟩, hkey⟩, hlive⟩
    exact ⟨⟨hmem, hkey⟩, hlive⟩
  · rintro ⟨⟨hmem, hkey⟩, hlive⟩
    exact ⟨⟨⟨hmem, Nat.not_lt.mpr hlive⟩, hkey⟩, hlive⟩

/-- A `set` leaves the entries of the other keys, but for the evicted one. -/
lemma fallbackEntry_fallbackSet_of_ne (hj : j ≠ key) (hevicted : c.evictedKey ≠ some j) :
    (c.fallbackSet now key value ttlSeconds).fallbackEntry now j = c.fallbackEntry now j := by
  rw [fallbackEntry, fallbackSet, Table.find?_put_of_ne hj, evictOldest, fallbackEntry]
  split
  · next oldestKey holdest =>
    rw [Table.find?_erase, if_neg]
    rintro rfl
    exact hevicted holdest
  · rfl

lemma fallbackEntry_fallbackSet_of_evicted (hj : j ≠ key) (hevicted : c.evictedKey = some j) :
    (c.fallbackSet now key value ttlSeconds).fallbackEntry now j = none := by
  rw [fallbackEntry, fallbackSet, Table.find?_put_of_ne hj, evictOldest, hevicted]
  dsimp only
  rw [Table.find?_erase, if_pos rfl, Option.filter_none]

lemma fallbackEntry_fallbackSet_self :
    (c.fallbackSet now key value ttlSeconds).fallbackEntry now key =
      some ⟨key, value, now + ttlSeconds * 1000⟩ := by
  rw [fallbackEntry, fallbackSet, Table.find?_put, if_pos rfl]
  simp [Option.filter_some]

/-! ### What a `get` answers after a command -/

lemma number_of_redis (h : c.isRedisConnected = true) : c.number now j = c.redisNumber now j :=
  if_pos h

lemma number_of_fallback (h : c.isRedisConnected = false) :
    c.number now j = c.fallbackNumber now j := by
  rw [number, h]
  rfl

lemma number_dropExpired : (c.dropExpired now key).number now j = c.number now j := by
  rw [number, number, isRedisConnected_dropExpired, redisNumber, redisNumber, redis_dropExpired,
    fallbackNumber, fallbackNumber, fallbackEntry_dropExpired]

lemma number_cleanup : (c.cleanup now).number now j = c.number now j := by
  rw [number, number, fallbackNumber, fallbackNumber, fallbackEntry_cleanup]
  rfl

lemma number_redisSet (h : c.isRedisConnected = true) :
    (c.redisSet now key value ttlSeconds).number now j =
      if j = key then value else c.number now j := by
  have hset : (c.redisSet now key value ttlSeconds).isRedisConnected = true := h
  rw [number_of_redis hset, number_of_redis h, redisNumber, redisNumber, redisSet]
  split_ifs with hj
  · subst hj
    rw [TtlStore.get_of_entry TtlStore.entries_set_self (Nat.le_add_right ..), Option.getD_some]
  · rw [TtlStore.get, TtlStore.entries_set_of_ne hj, ← TtlStore.get]

lemma number_redisSet_of_fallback (h : c.isRedisConnected = false) :
    (c.redisSet now key value ttlSeconds).number now j = c.number now j := by
  have hset : (c.redisSet now key value ttlSeconds).isRedisConnected = false := h
  rw [number_of_fallback hset, number_of_fallback h]
  rfl

lemma number_fallbackSet (h : c.isRedisConnected = false)
    (hkept : ∀ evicted ∈ c.evictedKey, evicted = key ∨ c.fallbackNumber now evicted = 0)
    (j : String) :
    (c.fallbackSet now key value ttlSeconds).number now j =
      if j = key then value else c.number now j := by
  have hset : (c.fallbackSet now key value ttlSeconds).isRedisConnected = false := by
    simpa [fallbackSet] using h
  rw [number_of_fallback hset, number_of_fallback h, fallbackNumber]
  split_ifs with hj
  · rw [hj, fallbackEntry_fallbackSet_self]
    rfl
  · by_cases hevicted : c.evictedKey = some j
    · rw [fallbackEntry_fallbackSet_of_evicted hj hevicted]
      exact ((hkept j hevicted).resolve_left hj).symm
    · rw [fallbackEntry_fallbackSet_of_ne hj hevicted, fallbackNumber]

lemma number_fallbackSet_of_redis (h : c.isRedisConnected = true) :
    (c.fallbackSet now key value ttlSeconds).number now j = c.number now j := by
  have hset : (c.fallbackSet now key value ttlSeconds).isRedisConnected = true := by
    simpa [fallbackSet] using h
  rw [number_of_redis hset, number_of_redis h, redisNumber, redisNumber, fallbackSet,
    redis_evictOldest]

/-! ### What a `get` answers later -/

/-- An entry that is alive later answers what it has answered before. -/
lemma number_of_isAlive {now' : ℕ} (hle : now ≤ now') (h : c.isAlive now' key = true) :
    c.number now' key = c.number now key := by
  rw [isAlive] at h
  rw [number, number]
  split_ifs at h ⊢ with hredis
  · rw [redisNumber, redisNumber, TtlStore.get, TtlStore.get]
    rw [TtlStore.get] at h
    cases hentry : c.redis.entries key with
    | none => rfl
    | some entry =>
      rw [hentry, Option.filter_some] at h
      split_ifs at h with hlive
      · rw [decide_eq_true_eq] at hlive
        simp [Option.filter_some, hlive, hle.trans hlive]
      · cases h
  · rw [fallbackNumber, fallbackNumber, fallbackEntry, fallbackEntry]
    rw [fallbackEntry] at h
    cases hentry : c.fallbackStore.find? key with
    | none => rfl
    | some entry =>
      rw [hentry, Option.filter_some] at h
      split_ifs at h with hlive
      · rw [decide_eq_true_eq] at hlive
        simp [Option.filter_some, hlive, hle.trans hlive]
      · cases h

lemma number_of_not_isAlive (h : c.isAlive now key = false) : c.number now key = 0 := by
  rw [isAlive] at h
  rw [number]
  split_ifs at h ⊢ with hredis
  · rw [redisNumber, Option.isSome_eq_false_iff.mp h |> Option.isNone_iff_eq_none.mp]
    rfl
  · rw [fallbackNumber, Option.isSome_eq_false_iff.mp h |> Option.isNone_iff_eq_none.mp]
    rfl

end CounterStore

end CtrlRecovery
