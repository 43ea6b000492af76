import CtrlRecovery.Core.Run
import CtrlRecovery.Core.Table
import Mathlib.Logic.Function.Basic

/-!
# The cache

`CacheManager` keeps its entries in Redis while it is connected, and in a bounded map of the process
otherwise or after a command that failed. A command that was sent to Redis suspends its call until the
reply or the failure. Of the entries only the keys and the expiries are kept here: what an idempotency
lock depends on.
-/

namespace CtrlRecovery

open Core

namespace CacheManager

/-! ### The stores -/

/-- An entry of the fallback store. -/
structure MemoryEntry where
  key : String
  expiresAt : ℕ
  deriving DecidableEq, Repr

/-- The expiry of a key in Redis. -/
inductive RedisEntry
  | persistent
  | expiring (expiresAt : ℕ)
  deriving DecidableEq, Repr

/-- The commands on one key; `incrGet` is the read of an `incr` that has fallen back. -/
inductive Command
  | get (key : String)
  | set (key : String) (ttlSeconds : ℕ)
  | del (key : String)
  | incr (key : String)
  | incrGet (key : String)
  | expire (key : String) (seconds : ℕ)
  | acquireIdempotencyKey (key : String) (ttlSeconds : ℕ)
  deriving DecidableEq, Repr

/-- What a suspended call waits for: the reply to a command, or to go on with the write of an `incr`
that has fallen back. -/
inductive Waiting
  | sent (command : Command)
  | incremented (key : String)
  deriving DecidableEq, Repr

inductive LockStore | redis | memory
  deriving DecidableEq, Repr

/-- An `acquireIdempotencyKey` that has returned true. -/
structure Grant where
  key : String
  expiresAt : ℕ
  store : LockStore
  deriving DecidableEq, Repr

/-- The two stores and the suspended calls, with the grants so far. -/
structure State where
  now : ℕ
  isRedisConnected : Bool
  fallbackStore : Table MemoryEntry.key
  redis : String → Option RedisEntry
  waiting : ℕ → Option Waiting
  grants : List Grant

def State.initial (now : ℕ) : State := ⟨now, false, .empty, fun _ => none, fun _ => none, []⟩

def MAX_FALLBACK_KEYS : ℕ := 10000

def lockKey (key : String) : String := "ctrl:idemp:" ++ key

namespace State

variable (s : State)

/-- The call `call` is suspended. -/
def suspend (call : ℕ) (w : Waiting) : State :=
  { s with waiting := Function.update s.waiting call (some w) }

/-- The call `call` is over. -/
def finish (call : ℕ) : State := { s with waiting := Function.update s.waiting call none }

def grant (key : String) (ttlSeconds : ℕ) (store : LockStore) : State :=
  { s with grants := ⟨key, s.now + ttlSeconds * 1000, store⟩ :: s.grants }

/-! ### The fallback store -/

/-- `get` drops an entry that has expired. -/
def dropExpired (key : String) : State :=
  match s.fallbackStore.find? key with
  | some entry =>
    if entry.expiresAt < s.now then { s with fallbackStore := s.fallbackStore.erase key } else s
  | none       => s

/-- The key that a write to a full store evicts. -/
def evictedKey : Option String :=
  if MAX_FALLBACK_KEYS ≤ s.fallbackStore.rows.length then
    (s.fallbackStore.rows.head?.map (·.key)).filter (· ≠ "")
  else none

/-- `fallbackStore.set`. -/
def fallbackPut (key : String) (ttlSeconds : ℕ) : State :=
  { s with fallbackStore := s.fallbackStore.put ⟨key, s.now + ttlSeconds * 1000⟩ }

/-- The bound on the fallback store, which `set` enforces. -/
def evictOldest : State :=
  match s.evictedKey with
  | some oldestKey => { s with fallbackStore := s.fallbackStore.erase oldestKey }
  | none           => s

def fallbackDel (key : String) : State := { s with fallbackStore := s.fallbackStore.erase key }

def fallbackExpire (key : String) (seconds : ℕ) : State :=
  { s with
    fallbackStore :=
      s.fallbackStore.update key (fun entry => { entry with expiresAt := s.now + seconds * 1000 })
        fun _ => rfl }

/-- The active eviction of the expired entries. -/
def cleanup : State :=
  { s with
    fallbackStore :=
      ⟨s.fallbackStore.rows.filter fun entry => !decide (entry.expiresAt < s.now),
        s.fallbackStore.nodup.sublist (List.filter_sublist.map MemoryEntry.key)⟩ }

def isLockedInMemory (key : String) : Bool :=
  (s.fallbackStore.find? (lockKey key)).any fun entry => s.now ≤ entry.expiresAt

/-- The part of a command on the fallback store. -/
def fallback (call : ℕ) : Command → State
  | .get key         => (s.dropExpired key).finish call
  | .set key ttlSeconds => (s.evictOldest.fallbackPut key ttlSeconds).finish call
  | .del key         => (s.fallbackDel key).finish call
  | .incr key        =>
    if s.isRedisConnected then s.suspend call (.sent (.incrGet key))
    else (s.dropExpired key).suspend call (.incremented key)
  | .incrGet key     => (s.dropExpired key).suspend call (.incremented key)
  | .expire key seconds => (s.fallbackExpire key seconds).finish call
  | .acquireIdempotencyKey key ttlSeconds =>
    if s.isLockedInMemory key then s.finish call
    else ((s.fallbackPut (lockKey key) ttlSeconds).grant key ttlSeconds .memory).finish call

/-! ### Redis -/

/-- A key is present in Redis. -/
def isInRedis (key : String) : Bool :=
  match s.redis key with
  | none                       => false
  | some .persistent           => true
  | some (.expiring expiresAt) => s.now ≤ expiresAt

def redisPut (key : String) (entry : Option RedisEntry) : State :=
  { s with redis := Function.update s.redis key entry }

/-- The effect of a command on Redis; `none` where Redis answers with an error. -/
def execute : Command → Option State
  | .get _           => some s
  | .incrGet _       => some s
  | .set key ttlSeconds =>
    if 0 < ttlSeconds then some (s.redisPut key (some (.expiring (s.now + ttlSeconds * 1000))))
    else none
  | .del key         => some (s.redisPut key none)
  | .incr key        => if s.isInRedis key then some s else some (s.redisPut key (some .persistent))
  | .expire key seconds =>
    if s.isInRedis key then
      some (s.redisPut key
        (if 0 < seconds then some (.expiring (s.now + seconds * 1000)) else none))
    else some s
  | .acquireIdempotencyKey key ttlSeconds =>
    if 0 < ttlSeconds then
      if s.isInRedis (lockKey key) then some s
      else some (s.redisPut (lockKey key) (some (.expiring (s.now + ttlSeconds * 1000))))
    else none

/-- What a call does with the reply to its command, which was executed in `s`. -/
def reply (executed : State) (call : ℕ) : Command → State
  | .del key     => (executed.fallbackDel key).finish call
  | .incrGet key => executed.suspend call (.incremented key)
  | .acquireIdempotencyKey key ttlSeconds =>
    if s.isInRedis (lockKey key) then executed.finish call
    else (executed.grant key ttlSeconds .redis).finish call
  | _            => executed.finish call

def start (call : ℕ) (command : Command) : State :=
  if s.isRedisConnected then s.suspend call (.sent command) else s.fallback call command

end State

/-! ### Runs -/

inductive Action
  | tick (ms : ℕ)
  | connect
  | error
  | cleanup
  /-- A command is called. -/
  | call (call : ℕ) (command : Command)
  /-- Redis executes a command that was sent, and its reply arrives. -/
  | reply (call : ℕ)
  /-- A command that was sent fails, though Redis may have executed it. -/
  | fail (call : ℕ) (executed : Bool)
  /-- An `incr` that has fallen back goes on. -/
  | resume (call : ℕ)

def step (s : State) : Action → Option State
  | .tick ms  => some { s with now := s.now + ms }
  | .connect  => some { s with isRedisConnected := true }
  | .error    => some { s with isRedisConnected := false }
  | .cleanup  => some s.cleanup
  | .call call command => if (s.waiting call).isNone then some (s.start call command) else none
  | .reply call =>
    match s.waiting call with
    | some (.sent command) => (s.execute command).map fun executed => s.reply executed call command
    | _                    => none
  | .fail call executed =>
    match s.waiting call with
    | some (.sent command) =>
      if executed then (s.execute command).map fun t => t.fallback call command
      else some (s.fallback call command)
    | _                    => none
  | .resume call =>
    match s.waiting call with
    | some (.incremented key) => some (s.start call (.set key 60))
    | _                       => none

end CacheManager

end CtrlRecovery
