import CtrlRecovery.Core.Run
import Mathlib.Data.Finset.Image

/-!
# Live event streams

`RealtimeBroadcaster` keeps a set of connections for each tenant and writes the events of the tenant
to them. A registration leaves a closure over the set that it has joined. The close event and the
error event of the connection both run it, and so may its caller; once the set of the closure is
empty it deletes the entry of the tenant, whichever set the entry holds by then.

`delivers_always_iff` says which steps keep the broadcasts right, and
`broadcast_misses_newer_client` is a run in which the second event of a connection detaches a client
that has come later.
-/

namespace CtrlRecovery

open Core

namespace Broadcaster

/-- A `Set` object, made for a tenant. -/
structure ClientSet where
  tenant : String
  serial : ℕ
  deriving DecidableEq, Repr

/-- The closure that `registerClient` returns and attaches to the events of the connection. -/
structure Cleanup where
  clientSet : ClientSet
  client : ℕ
  deriving DecidableEq, Repr

/-- `tenantClients` and `members` are the maps of the broadcaster and `cleanups` the closures it has
made. `registered` and `gone` say what has happened to the connections: for which tenants they are
registered, and which of them have closed, errored or failed a write. -/
structure BroadcasterState where
  tenantClients : String → Option ℕ
  members : ClientSet → Finset ℕ
  nextSerial : ℕ
  cleanups : List Cleanup
  registered : Finset (String × ℕ)
  gone : Finset ℕ

/-- The events that `cleanup` listens to. -/
inductive ConnectionEvent
  | close
  | error
  deriving DecidableEq, Repr

/-- The failed writes of a broadcast or of the heartbeat are part of the action. -/
inductive BroadcasterAction
  | registerClient (tenant : String) (client : ℕ) (acknowledged : Bool)
  | emit (client : ℕ) (event : ConnectionEvent)
  | cleanup (closure : Cleanup)
  | broadcastToTenant (tenant : String) (failed : Finset ℕ)
  | heartbeat (failed : Finset (String × ℕ))
  deriving DecidableEq

namespace BroadcasterState

def empty : BroadcasterState where
  tenantClients := fun _ => none
  members := fun _ => ∅
  nextSerial := 0
  cleanups := []
  registered := ∅
  gone := ∅

def clients (s : BroadcasterState) (tenant : String) : Finset ℕ :=
  (s.tenantClients tenant).elim ∅ fun serial => s.members ⟨tenant, serial⟩

/-- The set that a registration for the tenant joins; a tenant without a set gets a new one. -/
def clientSet (s : BroadcasterState) (tenant : String) : ClientSet :=
  ⟨tenant, (s.tenantClients tenant).getD s.nextSerial⟩

/-- When the acknowledgment cannot be written, the call throws before the closure is attached. -/
def registerClient (s : BroadcasterState) (tenant : String) (client : ℕ) (acknowledged : Bool) :
    BroadcasterState where
  tenantClients := Function.update s.tenantClients tenant (s.clientSet tenant).serial
  members :=
    Function.update s.members (s.clientSet tenant) (insert client (s.clients tenant))
  nextSerial := if (s.tenantClients tenant).isSome then s.nextSerial else s.nextSerial + 1
  cleanups := if acknowledged then s.cleanups ++ [⟨s.clientSet tenant, client⟩] else s.cleanups
  registered := insert (tenant, client) s.registered
  gone := if acknowledged then s.gone else insert client s.gone

def runCleanup (s : BroadcasterState) (closure : Cleanup) : BroadcasterState :=
  let left := (s.members closure.clientSet).erase closure.client
  { s with
    members := Function.update s.members closure.clientSet left
    tenantClients :=
      if left = ∅ then Function.update s.tenantClients closure.clientSet.tenant none
      else s.tenantClients }

/-- The listeners of a connection are run in the order of its registrations. -/
def emit (s : BroadcasterState) (client : ℕ) : BroadcasterState :=
  let t := (s.cleanups.filter fun closure => closure.client = client).foldl runCleanup s
  { t with gone := insert client s.gone }

def cleanup (s : BroadcasterState) (closure : Cleanup) : BroadcasterState :=
  { s.runCleanup closure with
    registered := s.registered.erase (closure.clientSet.tenant, closure.client) }

/-- A client whose write fails is deleted from the set that is being written to. -/
def writesFailed (s : BroadcasterState) (failed : Finset (String × ℕ)) : BroadcasterState :=
  { s with
    members := fun set =>
      if s.tenantClients set.tenant = some set.serial then
        (s.members set).filter fun client => (set.tenant, client) ∉ failed
      else s.members set
    gone := s.gone ∪ failed.image Prod.snd }

end BroadcasterState

def broadcasterStep (s : BroadcasterState) : BroadcasterAction → Option BroadcasterState
  | .registerClient tenant client acknowledged =>
    some (s.registerClient tenant client acknowledged)
  | .emit client _                             => some (s.emit client)
  | .cleanup closure                           =>
    if closure ∈ s.cleanups then some (s.cleanup closure) else none
  | .broadcastToTenant tenant failed           =>
    if failed ⊆ s.clients tenant then some (s.writesFailed (failed.image (tenant, ·))) else none
  | .heartbeat failed                          =>
    if ∀ write ∈ failed, write.2 ∈ s.clients write.1 then some (s.writesFailed failed) else none

/-! ### What a broadcast reaches -/

/-- A broadcast to any tenant is written to exactly its registered clients that are not gone. -/
def Delivers (s : BroadcasterState) : Prop :=
  ∀ tenant client,
    client ∈ s.clients tenant ↔ (tenant, client) ∈ s.registered ∧ client ∉ s.gone

/-- A closure that empties its set finds no other client under the tenant. -/
def SparesOthers (s : BroadcasterState) (closure : Cleanup) : Prop :=
  (s.members closure.clientSet).erase closure.client = ∅ →
    s.clients closure.clientSet.tenant ⊆ {closure.client}

/-- A closure that is called for a registered client finds it in its own set or empties that set. -/
def FindsClient (s : BroadcasterState) (closure : Cleanup) : Prop :=
  closure.client ∈ s.clients closure.clientSet.tenant →
    s.tenantClients closure.clientSet.tenant = some closure.clientSet.serial ∨
      (s.members closure.clientSet).erase closure.client = ∅

/-- The steps that keep the broadcasts right: a client registers while its connection is there and
is acknowledged, no closure meets another client under its tenant when it empties its set, and a
client that fails a write is registered for no tenant whose write it does not fail. -/
def KeepsDelivery (s : BroadcasterState) : BroadcasterAction → Prop
  | .registerClient _ client acknowledged => client ∉ s.gone ∧ acknowledged
  | .emit client _                        =>
    ∀ closure ∈ s.cleanups, closure.client = client → SparesOthers s closure
  | .cleanup closure                      => SparesOthers s closure ∧ FindsClient s closure
  | .broadcastToTenant tenant failed      =>
    ∀ client ∈ failed, ∀ other, client ∈ s.clients other → other = tenant
  | .heartbeat failed                     =>
    ∀ write ∈ failed, ∀ other, write.2 ∈ s.clients other → (other, write.2) ∈ failed

/-- Every member of a set is gone or has a closure over that set. -/
def Tracked (s : BroadcasterState) : Prop :=
  ∀ set client, client ∈ s.members set → client ∈ s.gone ∨ ⟨set, client⟩ ∈ s.cleanups

/-! ### The operations -/

section Operations

variable {s t : BroadcasterState} {tenant other : String} {client c : ℕ} {acknowledged : Bool}
  {closure : Cleanup} {failed : Finset (String × ℕ)}

lemma mem_clients :
    client ∈ s.clients tenant ↔
      ∃ serial, s.tenantClients tenant = some serial ∧ client ∈ s.members ⟨tenant, serial⟩ := by
  rw [BroadcasterState.clients]
  cases s.tenantClients tenant <;> simp

lemma clients_registerClient_self :
    (s.registerClient tenant client acknowledged).clients tenant =
      insert client (s.clients tenant) := by
  simp [BroadcasterState.registerClient, BroadcasterState.clients, BroadcasterState.clientSet]

lemma clients_registerClient_of_ne (h : other ≠ tenant) :
    (s.registerClient tenant client acknowledged).clients other = s.clients other := by
  simp [BroadcasterState.registerClient, BroadcasterState.clients, BroadcasterState.clientSet, h]

/-- A closure takes away every client of its tenant when it empties its set, and its own client
when its set is the one of the tenant. -/
lemma mem_clients_runCleanup :
    c ∈ (s.runCleanup closure).clients tenant ↔
      c ∈ s.clients tenant ∧
        (closure.clientSet.tenant = tenant →
          (s.members closure.clientSet).erase closure.client ≠ ∅ ∧
            (s.tenantClients tenant = some closure.clientSet.serial → c ≠ closure.client)) := by
  obtain ⟨⟨owner, serial⟩, client⟩ := closure
  by_cases howner : owner = tenant
  · subst howner
    by_cases hleft : (s.members ⟨owner, serial⟩).erase client = ∅
    · simp [mem_clients, BroadcasterState.runCleanup, hleft]
    · cases hset : s.tenantClients owner with
      | none => simp [mem_clients, BroadcasterState.runCleanup, hleft, hset]
      | some current =>
        by_cases hcurrent : current = serial
        · simp [mem_clients, BroadcasterState.runCleanup, hleft, hset, hcurrent, and_comm]
        · simp [mem_clients, BroadcasterState.runCleanup, hleft, hset, hcurrent]
  · have hclients : (s.runCleanup ⟨⟨owner, serial⟩, client⟩).clients tenant = s.clients tenant := by
      simp only [BroadcasterState.clients, BroadcasterState.runCleanup]
      split_ifs <;> simp [Ne.symm howner]
    simp [hclients, howner]

/-- Running the closures of a client one after the other. -/
lemma mem_clients_foldl_runCleanup {closures : List Cleanup}
    (hown : ∀ closure ∈ closures, closure.client = client) :
    c ∈ (closures.foldl BroadcasterState.runCleanup s).clients tenant ↔
      c ∈ s.clients tenant ∧
        ∀ closure ∈ closures, closure.clientSet.tenant = tenant →
          (s.members closure.clientSet).erase client ≠ ∅ ∧
            (s.tenantClients tenant = some closure.clientSet.serial → c ≠ client) := by
  induction closures generalizing s with
  | nil => simp
  | cons closure rest ih =>
    have hclosure : closure.client = client := hown closure List.mem_cons_self
    rw [List.foldl_cons, ih fun k hk => hown k (List.mem_cons_of_mem _ hk),
      mem_clients_runCleanup, hclosure, List.forall_mem_cons, and_assoc]
    refine and_congr_right fun _ => and_congr_right fun hkept => forall₂_congr fun k _ => ?_
    have herase : ∀ set, ((s.runCleanup closure).members set).erase client =
        (s.members set).erase client := by
      intro set
      by_cases hset : set = closure.clientSet <;>
        simp [BroadcasterState.runCleanup, hset, hclosure]
    have htenant : (s.runCleanup closure).tenantClients tenant = s.tenantClients tenant := by
      by_cases howner : closure.clientSet.tenant = tenant
      · simp [BroadcasterState.runCleanup, hclosure, (hkept howner).1]
      · simp only [BroadcasterState.runCleanup]
        split_ifs
        · exact Function.update_of_ne (Ne.symm howner) ..
        · rfl
    rw [herase, htenant]

lemma cleanups_foldl_runCleanup (closures : List Cleanup) :
    (closures.foldl BroadcasterState.runCleanup s).cleanups = s.cleanups ∧
      (closures.foldl BroadcasterState.runCleanup s).registered = s.registered := by
  induction closures generalizing s with
  | nil => exact ⟨rfl, rfl⟩
  | cons closure rest ih => exact ih

lemma members_runCleanup_subset (set : ClientSet) :
    (s.runCleanup closure).members set ⊆ s.members set := by
  by_cases hset : set = closure.clientSet
  · subst hset
    simp [BroadcasterState.runCleanup, Finset.erase_subset]
  · simp [BroadcasterState.runCleanup, hset]

lemma members_foldl_runCleanup_subset (closures : List Cleanup) (set : ClientSet) :
    (closures.foldl BroadcasterState.runCleanup s).members set ⊆ s.members set := by
  induction closures generalizing s with
  | nil => exact Finset.Subset.refl _
  | cons closure rest ih => exact ih.trans (members_runCleanup_subset set)

lemma mem_clients_emit :
    c ∈ (s.emit client).clients tenant ↔
      c ∈ s.clients tenant ∧
        ∀ closure ∈ s.cleanups, closure.client = client → closure.clientSet.tenant = tenant →
          (s.members closure.clientSet).erase client ≠ ∅ ∧
            (s.tenantClients tenant = some closure.clientSet.serial → c ≠ client) := by
  have hown : ∀ closure ∈ s.cleanups.filter fun closure => closure.client = client,
      closure.client = client := fun closure h => by simpa using (List.mem_filter.mp h).2
  have hemit : (s.emit client).clients tenant = ((s.cleanups.filter fun closure =>
      closure.client = client).foldl BroadcasterState.runCleanup s).clients tenant := rfl
  rw [hemit, mem_clients_foldl_runCleanup hown]
  simp

lemma members_writesFailed_subset (set : ClientSet) :
    (s.writesFailed failed).members set ⊆ s.members set := by
  simp only [BroadcasterState.writesFailed]
  split_ifs
  · exact Finset.filter_subset ..
  · exact Finset.Subset.refl _

lemma mem_clients_writesFailed :
    c ∈ (s.writesFailed failed).clients tenant ↔ c ∈ s.clients tenant ∧ (tenant, c) ∉ failed := by
  cases hset : s.tenantClients tenant <;>
    simp [mem_clients, BroadcasterState.writesFailed, hset]

end Operations

/-! ### What each step keeps -/

section Steps

variable {s t : BroadcasterState} {tenant : String} {client : ℕ} {acknowledged : Bool}
  {closure : Cleanup} {failed : Finset (String × ℕ)} {action : BroadcasterAction}

lemma Tracked.mono (h : Tracked s) (hmembers : ∀ set, t.members set ⊆ s.members set)
    (hgone : s.gone ⊆ t.gone) (hcleanups : t.cleanups = s.cleanups) : Tracked t := by
  intro set c hc
  rw [hcleanups]
  exact (h set c (hmembers set hc)).imp_left fun hg => hgone hg

lemma Tracked.registerClient (h : Tracked s) :
    Tracked (s.registerClient tenant client acknowledged) := by
  have hkept : ∀ set c, c ∈ s.members set →
      c ∈ (s.registerClient tenant client acknowledged).gone ∨
        ⟨set, c⟩ ∈ (s.registerClient tenant client acknowledged).cleanups := by
    intro set c hc
    cases acknowledged
    · exact (h set c hc).imp_left (Finset.mem_insert_of_mem ·)
    · exact (h set c hc).imp_right fun hk => List.mem_append_left _ hk
  intro set c hc
  by_cases hset : set = s.clientSet tenant
  · subst hset
    simp only [BroadcasterState.registerClient, Function.update_self, Finset.mem_insert] at hc
    obtain rfl | hc := hc
    · cases acknowledged
      · exact .inl (Finset.mem_insert_self ..)
      · exact .inr (List.mem_append_right _ List.mem_cons_self)
    · obtain ⟨serial, hserial, hc⟩ := mem_clients.mp hc
      refine hkept _ c ?_
      simpa [BroadcasterState.clientSet, hserial] using hc
  · simp only [BroadcasterState.registerClient, Function.update_of_ne hset] at hc
    exact hkept set c hc

lemma tracked_of_step (h : Tracked s) (hstep : broadcasterStep s action = some t) : Tracked t := by
  cases action with
  | registerClient tenant client acknowledged =>
    obtain rfl : s.registerClient tenant client acknowledged = t := Option.some.inj hstep
    exact h.registerClient
  | emit client event =>
    obtain rfl : s.emit client = t := Option.some.inj hstep
    exact h.mono (members_foldl_runCleanup_subset _) (Finset.subset_insert ..)
      (cleanups_foldl_runCleanup _).1
  | cleanup closure =>
    obtain ⟨-, ⟨⟩⟩ := Option.ite_none_right_eq_some.mp hstep
    exact h.mono members_runCleanup_subset (Finset.Subset.refl _) rfl
  | broadcastToTenant tenant failed =>
    obtain ⟨-, ⟨⟩⟩ := Option.ite_none_right_eq_some.mp hstep
    exact h.mono members_writesFailed_subset Finset.subset_union_left rfl
  | heartbeat failed =>
    obtain ⟨-, ⟨⟩⟩ := Option.ite_none_right_eq_some.mp hstep
    exact h.mono members_writesFailed_subset Finset.subset_union_left rfl

lemma delivers_registerClient (h : Delivers s) :
    Delivers (s.registerClient tenant client acknowledged) ↔ client ∉ s.gone ∧ acknowledged := by
  constructor
  · intro h'
    have hnew := (h' tenant client).mp (clients_registerClient_self ▸ Finset.mem_insert_self ..)
    cases acknowledged
    · exact absurd (Finset.mem_insert_self ..) hnew.2
    · exact ⟨hnew.2, rfl⟩
  · rintro ⟨hclient, hack⟩ other c
    rw [show acknowledged = true from hack]
    by_cases hother : other = tenant
    · subst hother
      rw [clients_registerClient_self, Finset.mem_insert, h other c]
      by_cases hc : c = client
      · simp [BroadcasterState.registerClient, hc, hclient]
      · simp [BroadcasterState.registerClient, hc]
    · rw [clients_registerClient_of_ne hother, h other c]
      simp [BroadcasterState.registerClient, hother]

/-- A set that is emptied by a closure spares the other clients exactly when none of them is under
the tenant. -/
lemma SparesOthers.ne_empty (h : SparesOthers s closure) {c : ℕ} (hc : c ≠ closure.client)
    (hmem : c ∈ s.clients closure.clientSet.tenant) :
    (s.members closure.clientSet).erase closure.client ≠ ∅ :=
  fun hempty => hc (Finset.mem_singleton.mp (h hempty hmem))

lemma delivers_emit (h : Delivers s) (htracked : Tracked s) :
    Delivers (s.emit client) ↔
      ∀ closure ∈ s.cleanups, closure.client = client → SparesOthers s closure := by
  have hregistered : (s.emit client).registered = s.registered := (cleanups_foldl_runCleanup _).2
  have hgone : (s.emit client).gone = insert client s.gone := rfl
  constructor
  · rintro h' closure hclosure rfl hempty c hc
    rw [Finset.mem_singleton]
    by_contra hne
    obtain ⟨hreg, halive⟩ := (h closure.clientSet.tenant c).mp hc
    have hc' : c ∈ (s.emit closure.client).clients closure.clientSet.tenant :=
      (h' _ c).mpr ⟨hregistered ▸ hreg, by simp [hgone, hne, halive]⟩
    exact ((mem_clients_emit.mp hc').2 closure hclosure rfl rfl).1 hempty
  · intro hspares tenant c
    rw [mem_clients_emit, hregistered, hgone, Finset.mem_insert, not_or, h tenant c]
    constructor
    · rintro ⟨⟨hreg, halive⟩, hkept⟩
      refine ⟨hreg, ?_, halive⟩
      rintro rfl
      -- a client that is there has a closure over the set of the tenant, which deletes it
      obtain ⟨serial, hserial, hc⟩ := mem_clients.mp ((h tenant c).mpr ⟨hreg, halive⟩)
      have hclosure := (htracked _ _ hc).resolve_left halive
      exact (hkept _ hclosure rfl rfl).2 hserial rfl
    · rintro ⟨hreg, hne, halive⟩
      refine ⟨⟨hreg, halive⟩, fun closure hclosure hclient htenant => ⟨?_, fun _ => hne⟩⟩
      subst hclient
      exact (hspares closure hclosure rfl).ne_empty hne (htenant ▸ (h _ c).mpr ⟨hreg, halive⟩)

lemma delivers_cleanup (h : Delivers s) :
    Delivers (s.cleanup closure) ↔ SparesOthers s closure ∧ FindsClient s closure := by
  have hclients : ∀ tenant, (s.cleanup closure).clients tenant =
      (s.runCleanup closure).clients tenant := fun _ => rfl
  have hregistered : (s.cleanup closure).registered =
      s.registered.erase (closure.clientSet.tenant, closure.client) := rfl
  have hgone : (s.cleanup closure).gone = s.gone := rfl
  constructor
  · intro h'
    constructor
    · intro hempty c hc
      rw [Finset.mem_singleton]
      by_contra hne
      obtain ⟨hreg, halive⟩ := (h closure.clientSet.tenant c).mp hc
      have hc' := (h' closure.clientSet.tenant c).mpr ⟨by simp [hregistered, hne, hreg], halive⟩
      rw [hclients, mem_clients_runCleanup] at hc'
      exact (hc'.2 rfl).1 hempty
    · intro hc
      by_contra hnot
      obtain ⟨hother, hleft⟩ := not_or.mp hnot
      have hc' : closure.client ∈ (s.cleanup closure).clients closure.clientSet.tenant := by
        rw [hclients, mem_clients_runCleanup]
        exact ⟨hc, fun _ => ⟨hleft, fun hcurrent => absurd hcurrent hother⟩⟩
      simpa [hregistered] using ((h' _ _).mp hc').1
  · rintro ⟨hspares, hfinds⟩ tenant c
    rw [hclients, mem_clients_runCleanup, hregistered, hgone, h tenant c, Finset.mem_erase]
    constructor
    · rintro ⟨⟨hreg, halive⟩, hkept⟩
      refine ⟨⟨?_, hreg⟩, halive⟩
      rintro heq
      obtain ⟨rfl, rfl⟩ := Prod.mk.injEq .. ▸ heq
      obtain ⟨hleft, hcurrent⟩ := hkept rfl
      obtain hset | hempty := hfinds ((h _ _).mpr ⟨hreg, halive⟩)
      · exact hcurrent hset rfl
      · exact hleft hempty
    · rintro ⟨⟨hne, hreg⟩, halive⟩
      refine ⟨⟨hreg, halive⟩, ?_⟩
      rintro rfl
      have hc : c ≠ closure.client := fun heq => hne (by rw [heq])
      exact ⟨hspares.ne_empty hc ((h _ c).mpr ⟨hreg, halive⟩), fun _ => hc⟩

lemma delivers_writesFailed (h : Delivers s) :
    Delivers (s.writesFailed failed) ↔
      ∀ write ∈ failed, ∀ other, write.2 ∈ s.clients other → (other, write.2) ∈ failed := by
  have hregistered : (s.writesFailed failed).registered = s.registered := rfl
  have hgone : ∀ c,
      c ∈ (s.writesFailed failed).gone ↔ c ∈ s.gone ∨ ∃ tenant, (tenant, c) ∈ failed := by
    intro c
    simp [BroadcasterState.writesFailed]
  constructor
  · intro h' write hwrite other hc
    by_contra hnot
    have hc' := (h' other write.2).mp (mem_clients_writesFailed.mpr ⟨hc, hnot⟩)
    exact hc'.2 ((hgone _).mpr (.inr ⟨write.1, hwrite⟩))
  · intro hall tenant c
    rw [mem_clients_writesFailed, hregistered, hgone, not_or, h tenant c, and_assoc]
    refine and_congr_right fun hreg => and_congr_right fun halive => ?_
    constructor
    · rintro hnot ⟨other, hother⟩
      exact hnot (hall (other, c) hother tenant ((h tenant c).mpr ⟨hreg, halive⟩))
    · exact fun hnot hmem => hnot ⟨tenant, hmem⟩

/-- Where the broadcasts are right, a step keeps them so exactly when it is one of these. -/
lemma delivers_iff_of_step (h : Delivers s) (htracked : Tracked s)
    (hstep : broadcasterStep s action = some t) : Delivers t ↔ KeepsDelivery s action := by
  cases action with
  | registerClient tenant client acknowledged =>
    obtain rfl : s.registerClient tenant client acknowledged = t := Option.some.inj hstep
    exact delivers_registerClient h
  | emit client event =>
    obtain rfl : s.emit client = t := Option.some.inj hstep
    exact delivers_emit h htracked
  | cleanup closure =>
    obtain ⟨-, ⟨⟩⟩ := Option.ite_none_right_eq_some.mp hstep
    exact delivers_cleanup h
  | broadcastToTenant tenant failed =>
    obtain ⟨-, ⟨⟩⟩ := Option.ite_none_right_eq_some.mp hstep
    rw [delivers_writesFailed h, Finset.forall_mem_image]
    refine forall₂_congr fun c hc => forall₂_congr fun other _ => ?_
    simp [hc, eq_comm]
  | heartbeat failed =>
    obtain ⟨-, ⟨⟩⟩ := Option.ite_none_right_eq_some.mp hstep
    exact delivers_writesFailed h

end Steps

/-! ### Whole runs -/

/-- In every state of a run broadcasts are written to exactly the registered clients that are not
gone if and only if each of its steps keeps them so. -/
theorem delivers_always_iff (actions : List BroadcasterAction) :
    (∀ before rest t, actions = before ++ rest → Run broadcasterStep .empty before t → Delivers t) ↔
      AllSteps broadcasterStep (fun s action _ => KeepsDelivery s action) .empty actions := by
  apply always_iff_allSteps_of_invariant (J := Tracked)
  · exact fun s action t h hstep => tracked_of_step h hstep
  · exact fun s action t htracked h hstep => delivers_iff_of_step h htracked hstep
  · exact fun _ _ => by simp [BroadcasterState.clients, BroadcasterState.empty]
  · exact fun set c hc => absurd hc (Finset.notMem_empty c)

/-- The connections `0` and `1` of one tenant: the first closes, the second registers, and the first
then errors. -/
def lateError : List BroadcasterAction :=
  [.registerClient "merchant" 0 true, .emit 0 .close, .registerClient "merchant" 1 true,
    .emit 0 .error]

/-- The second event of the first connection detaches the second, which has neither closed nor
errored nor failed a write: broadcasts miss it. -/
theorem broadcast_misses_newer_client :
    ¬ ∀ actions t, Run broadcasterStep .empty actions t → Delivers t := by
  intro h
  obtain ⟨t, hrun, ht⟩ := exists_run_of_execute broadcasterStep .empty lateError
    (fun t => ("merchant", 1) ∈ t.registered ∧ 1 ∉ t.gone ∧ 1 ∉ t.clients "merchant")
    (by decide +kernel)
  obtain ⟨hregistered, halive, hmissed⟩ := of_decide_eq_true ht
  exact hmissed ((h lateError t hrun "merchant" 1).mpr ⟨hregistered, halive⟩)

end Broadcaster

end CtrlRecovery
