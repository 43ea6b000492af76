import CtrlRecovery.Core.Run
import CtrlRecovery.Core.Table
import CtrlRecovery.Js
import CtrlRecovery.Types
import Mathlib.Data.List.Sort
import Mathlib.Logic.Function.Basic

/-!
# Provider connections and the client pool

`registerConnection` and `deleteConnection` write the credentials of a connection, and `getClient`
builds a client from them or takes the one that the pool keeps for fifteen minutes. Each is suspended
at its awaits. Every write of a connection's credentials gets a number here, which the stored
credentials and the clients that are built from them carry along, so that a client tells which write
it comes from.
-/

namespace CtrlRecovery

open Core

/-- A tenant and one of its environments. -/
structure ConnectionKey where
  tenantId : String
  environment : Environment
  deriving DecidableEq, Repr

/-- What `registerConnection` stores. -/
structure ConnectionSecret where
  keyId : String
  keySecret : String
  webhookSecret : Option String
  deriving DecidableEq, Repr

/-- The keys of the platform in `process.env`. -/
structure RazorpayEnv where
  liveKeyId : Option String
  liveKeySecret : Option String
  keyId : Option String
  keySecret : Option String
  deriving DecidableEq, Repr

/-- Credentials in a store, with the number of the write that they come from. -/
structure StoredSecret where
  number : ℕ
  secret : ConnectionSecret
  deriving DecidableEq, Repr

namespace RazorpayClientPool

def CACHE_TTL_MS : ℕ := 15 * 60 * 1000

def MAX_POOL_SIZE : ℕ := 100

/-- A client, with the number of the write that its keys come from; those of the platform have none.
-/
structure RazorpayClient where
  keyId : String
  keySecret : String
  number : Option ℕ
  deriving DecidableEq, Repr

structure PoolEntry where
  key : ConnectionKey
  client : RazorpayClient
  expiresAt : ℕ
  deriving DecidableEq, Repr

/-- A `getClient` call on its way: when it started, and the writes that were over then. -/
structure Lookup where
  key : ConnectionKey
  startedAt : ℕ
  since : ℕ
  deriving DecidableEq, Repr

/-- What a suspended call goes on with. -/
inductive CallPhase
  | storing (key : ConnectionKey) (secret : ConnectionSecret)
  | saving (key : ConnectionKey) (stored : StoredSecret)
  | registered (key : ConnectionKey) (number : ℕ)
  | deleting (key : ConnectionKey)
  | deleted (key : ConnectionKey) (number : ℕ)
  | querying (lookup : Lookup)
  | fetching (lookup : Lookup)
  | hydrating (lookup : Lookup) (stored : StoredSecret)
  | building (lookup : Lookup) (stored : Option StoredSecret)
  deriving DecidableEq, Repr

/-- A client that `getClient` has returned. -/
structure Returned where
  lookup : Lookup
  client : RazorpayClient
  deriving DecidableEq, Repr

/-- The two credential stores, the pool and the calls in flight. `written` numbers the last write of
each connection, and `retired` is the number of the last one whose call has returned: the credentials
of the writes before it have been replaced or deleted. -/
structure State where
  now : ℕ
  credentials : ConnectionKey → Option StoredSecret
  remote : ConnectionKey → Option StoredSecret
  pool : Table PoolEntry.key
  calls : ℕ → Option CallPhase
  written : ConnectionKey → ℕ
  retired : ConnectionKey → ℕ
  returned : List Returned

/-- A process that starts with these credentials in the stores. -/
def State.initial (now : ℕ) (credentials remote : ConnectionKey → Option ConnectionSecret) :
    State where
  now := now
  credentials := fun key => (credentials key).map (⟨0, ·⟩)
  remote := fun key => (remote key).map (⟨0, ·⟩)
  pool := .empty
  calls := fun _ => none
  written := fun _ => 0
  retired := fun _ => 0
  returned := []

/-! ### Keys -/

/-- The keys of the platform for an environment, when both are set. -/
def environmentKeys (env : RazorpayEnv) (environment : Environment) : Option (String × String) :=
  let keys :=
    match environment with
    | .live => (Js.orElse env.liveKeyId "", Js.orElse env.liveKeySecret "")
    | .test => (Js.orElse env.keyId "", Js.orElse env.keySecret "")
  if keys.1 = "" ∨ keys.2 = "" then none else some keys

/-- The prefix of a key does not name the other environment. -/
def respectsBoundary (environment : Environment) (keyId : String) : Bool :=
  match environment with
  | .test => !Js.startsWith keyId "rzp_live_"
  | .live => !Js.startsWith keyId "rzp_test_"

namespace State

variable (s : State)

def suspend (call : ℕ) (phase : CallPhase) : State :=
  { s with calls := Function.update s.calls call (some phase) }

/-- The call `call` has returned or thrown. -/
def finish (call : ℕ) : State := { s with calls := Function.update s.calls call none }

def return_ (lookup : Lookup) (client : RazorpayClient) : State :=
  { s with returned := ⟨lookup, client⟩ :: s.returned }

/-- The entry of a full pool that expires first, the older one of equals. -/
def oldest : Option PoolEntry :=
  if MAX_POOL_SIZE ≤ s.pool.rows.length then
    (s.pool.rows.mergeSort fun a b => a.expiresAt ≤ b.expiresAt).head?
  else none

def evictOldest : State :=
  match s.oldest with
  | some entry => { s with pool := s.pool.erase entry.key }
  | none       => s

/-- The last part of `getClient`: the check of the keys, the eviction, and the new entry.
`constructs` says whether the constructor of the client accepts the keys. -/
def buildClient (call : ℕ) (lookup : Lookup) (client : RazorpayClient) (constructs : Bool) : State :=
  if respectsBoundary lookup.key.environment client.keyId then
    let s := s.evictOldest
    if constructs then
      ({ s with pool := s.pool.put ⟨lookup.key, client, lookup.startedAt + CACHE_TTL_MS⟩ }.return_
        lookup client).finish call
    else s.finish call
  else s.finish call

def cached (key : ConnectionKey) : Option RazorpayClient :=
  ((s.pool.find? key).filter fun entry => s.now < entry.expiresAt).map (·.client)

/-- `getClient`, up to its first suspension. -/
def getClient (env : RazorpayEnv) (call : ℕ) (key : ConnectionKey) : State :=
  let lookup : Lookup := ⟨key, s.now, s.retired key⟩
  match s.cached key with
  | some client => s.return_ lookup client
  | none        =>
    if key.tenantId = "tenant_system_default" then
      match environmentKeys env key.environment with
      | some (keyId, keySecret) => s.buildClient call lookup ⟨keyId, keySecret, none⟩ true
      | none                    => s
    else s.suspend call (.querying lookup)

/-- What `getClient` does with the credentials that it has read. -/
def resolveKeys (env : RazorpayEnv) (call : ℕ) (lookup : Lookup) (stored : Option StoredSecret)
    (constructs : Bool) : State :=
  match stored with
  | some c =>
    s.buildClient call lookup ⟨c.secret.keyId, c.secret.keySecret, some c.number⟩ constructs
  | none   =>
    match environmentKeys env lookup.key.environment with
    | some (keyId, keySecret) => s.buildClient call lookup ⟨keyId, keySecret, none⟩ constructs
    | none                    => s.finish call

def write (key : ConnectionKey) (stored : Option StoredSecret) : State :=
  { s with
    credentials := Function.update s.credentials key stored
    written := Function.update s.written key (s.written key + 1) }

/-- The call of a write returns. -/
def retire (key : ConnectionKey) (number : ℕ) : State :=
  { s with retired := Function.update s.retired key (max (s.retired key) number) }

def invalidate (key : ConnectionKey) : State := { s with pool := s.pool.erase key }

end State

/-! ### Runs -/

inductive Action
  | tick (ms : ℕ)
  | registerConnection (call : ℕ) (key : ConnectionKey) (secret : ConnectionSecret)
  | deleteConnection (call : ℕ) (key : ConnectionKey)
  | getClient (call : ℕ) (key : ConnectionKey)
  /-- What a call awaits has succeeded, or not, and the call goes on. -/
  | resume (call : ℕ) (succeeds : Bool)

/-- What a call does when it is resumed. -/
def resume (env : RazorpayEnv) (s : State) (call : ℕ) (succeeds : Bool) : CallPhase → State
  | .storing key secret =>
    if succeeds then
      let stored : StoredSecret := ⟨s.written key + 1, secret⟩
      (s.write key (some stored)).suspend call (.saving key stored)
    else s.finish call
  | .saving key stored =>
    let s := if succeeds then { s with remote := Function.update s.remote key (some stored) } else s
    s.suspend call (.registered key stored.number)
  | .registered key number => ((s.invalidate key).retire key number).finish call
  | .deleting key =>
    if succeeds then (s.write key none).suspend call (.deleted key (s.written key + 1))
    else s.finish call
  | .deleted key number => (s.retire key number).finish call
  | .querying lookup =>
    if succeeds then
      match s.credentials lookup.key with
      | some stored => s.suspend call (.building lookup (some stored))
      | none        => s.suspend call (.fetching lookup)
    else s.finish call
  | .fetching lookup =>
    match (s.remote lookup.key).filter fun _ => succeeds with
    | some stored => s.suspend call (.hydrating lookup stored)
    | none        => s.suspend call (.building lookup none)
  | .hydrating lookup stored =>
    let s :=
      if succeeds then
        { s with credentials := Function.update s.credentials lookup.key (some stored) }
      else s
    s.suspend call (.building lookup (some stored))
  | .building lookup stored => s.resolveKeys env call lookup stored succeeds

def step (env : RazorpayEnv) (s : State) : Action → Option State
  | .tick ms => some { s with now := s.now + ms }
  | .registerConnection call key secret =>
    if (s.calls call).isNone then some (s.suspend call (.storing key secret)) else none
  | .deleteConnection call key =>
    if (s.calls call).isNone then some (s.suspend call (.deleting key)) else none
  | .getClient call key =>
    if (s.calls call).isNone then some (s.getClient env call key) else none
  | .resume call succeeds => (s.calls call).map (resume env s call succeeds)

end RazorpayClientPool

end CtrlRecovery
