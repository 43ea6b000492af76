import CtrlRecovery.Providers.ClientPool

/-!
# Fresh clients

A lookup that starts after a write of the credentials has returned gets a client from that write or a
later one as long as what it reads is not older: the remote store gives no credentials that have been
replaced or deleted, no lookup puts such credentials into the local store or the pool after the write,
and a deletion returns only when the pool has no older client (`freshClients_of_guarded`). That no
client is returned for the other environment holds in every run.
-/

namespace CtrlRecovery

open Core

namespace RazorpayClientPool

/-! ### What the lookups promise -/

/-- A client that is returned comes from no write that was replaced when its lookup started. -/
def ReturnsFresh (s : State) (_ : Action) (t : State) : Prop :=
  ∀ r, t.returned = r :: s.returned → ∀ n ∈ r.client.number, r.lookup.since ≤ n

/-- The keys of a client that is returned do not name the other environment. -/
def ReturnsInBoundary (s : State) (_ : Action) (t : State) : Prop :=
  ∀ r, t.returned = r :: s.returned →
    respectsBoundary r.lookup.key.environment r.client.keyId = true

/-- What a resumed call reads and writes is not older than the writes that it comes after. -/
def KeepsFresh (s : State) (action : Action) (_ : State) : Prop :=
  match action with
  | .resume call succeeds =>
    match s.calls call with
    | some (.fetching lookup)                =>
      succeeds = true → ∀ stored ∈ s.remote lookup.key, s.retired lookup.key ≤ stored.number
    | some (.hydrating lookup stored)        =>
      succeeds = true → s.written lookup.key ≤ stored.number
    | some (.building lookup (some stored))  =>
      respectsBoundary lookup.key.environment stored.secret.keyId = true → succeeds = true →
        s.retired lookup.key ≤ stored.number
    | some (.deleted key number)             =>
      ∀ entry ∈ s.pool.find? key, s.now < entry.expiresAt →
        ∀ n ∈ entry.client.number, number ≤ n
    | _                                      => True
  | _ => True

/-! ### The invariant -/

/-- What a suspended call carries is not older than the writes that it comes after. -/
def PhaseFresh (s : State) : CallPhase → Prop
  | .saving key stored              => stored.number ≤ s.written key
  | .registered key number          => number ≤ s.written key
  | .deleted key number             => number ≤ s.written key
  | .querying lookup                => lookup.since ≤ s.retired lookup.key
  | .fetching lookup                => lookup.since ≤ s.retired lookup.key
  | .hydrating lookup stored        =>
    lookup.since ≤ s.retired lookup.key ∧ lookup.since ≤ stored.number
  | .building lookup (some stored)  =>
    lookup.since ≤ s.retired lookup.key ∧ lookup.since ≤ stored.number
  | _                               => True

/-- The clients of the pool that have not expired are not replaced, and the stored credentials are
those of the last write. -/
structure Fresh (s : State) : Prop where
  pool : ∀ entry ∈ s.pool.rows, s.now < entry.expiresAt →
    ∀ n ∈ entry.client.number, s.retired entry.key ≤ n
  credentials : ∀ key, ∀ stored ∈ s.credentials key, s.written key ≤ stored.number
  retired_le : ∀ key, s.retired key ≤ s.written key
  phases : ∀ call phase, s.calls call = some phase → PhaseFresh s phase

/-- The keys of the clients of the pool do not name the other environment. -/
def InBoundary (s : State) : Prop :=
  ∀ entry ∈ s.pool.rows, respectsBoundary entry.key.environment entry.client.keyId = true

variable {env : RazorpayEnv} {s t : State} {call : ℕ} {key : ConnectionKey} {lookup : Lookup}
  {client : RazorpayClient}

/-! ### Calls that go on -/

/-- Later writes leave what a call carries as fresh as it was. -/
lemma PhaseFresh.mono {phase : CallPhase} (hwritten : ∀ key, s.written key ≤ t.written key)
    (hretired : ∀ key, s.retired key ≤ t.retired key) (h : PhaseFresh s phase) :
    PhaseFresh t phase := by
  cases phase with
  | storing key secret        => trivial
  | saving key stored         => exact Nat.le_trans h (hwritten key)
  | registered key number     => exact Nat.le_trans h (hwritten key)
  | deleting key              => trivial
  | deleted key number        => exact Nat.le_trans h (hwritten key)
  | querying lookup           => exact Nat.le_trans h (hretired lookup.key)
  | fetching lookup           => exact Nat.le_trans h (hretired lookup.key)
  | hydrating lookup stored   => exact ⟨Nat.le_trans h.1 (hretired lookup.key), h.2⟩
  | building lookup stored    =>
    cases stored with
    | none        => trivial
    | some stored => exact ⟨Nat.le_trans h.1 (hretired lookup.key), h.2⟩

lemma Fresh.suspend {phase : CallPhase} (h : Fresh s) (hphase : PhaseFresh s phase) :
    Fresh (s.suspend call phase) where
  pool := h.pool
  credentials := h.credentials
  retired_le := h.retired_le
  phases := by
    intro other phase' hother
    by_cases hcall : other = call
    · simp only [State.suspend, hcall, Function.update_self, Option.some.injEq] at hother
      exact hother ▸ hphase
    · simp only [State.suspend, Function.update_of_ne hcall] at hother
      exact h.phases other phase' hother

lemma Fresh.finish (h : Fresh s) : Fresh (s.finish call) where
  pool := h.pool
  credentials := h.credentials
  retired_le := h.retired_le
  phases := by
    intro other phase' hother
    by_cases hcall : other = call
    · simp [State.finish, hcall] at hother
    · simp only [State.finish, Function.update_of_ne hcall] at hother
      exact h.phases other phase' hother

/-! ### Writes -/

lemma le_written_write (stored : Option StoredSecret) (other : ConnectionKey) :
    s.written other ≤ (s.write key stored).written other := by
  by_cases hother : other = key
  · simp [State.write, hother]
  · simp [State.write, hother]

/-- A write is the newest of its connection. -/
lemma Fresh.write (h : Fresh s) {stored : Option StoredSecret}
    (hstored : ∀ c ∈ stored, s.written key + 1 ≤ c.number) : Fresh (s.write key stored) where
  pool := h.pool
  credentials := by
    intro other c hc
    by_cases hother : other = key
    · subst hother
      simp only [State.write, Function.update_self] at hc ⊢
      exact hstored c hc
    · simp only [State.write, Function.update_of_ne hother] at hc ⊢
      exact h.credentials other c hc
  retired_le other := Nat.le_trans (h.retired_le other) (le_written_write stored other)
  phases other phase hphase :=
    (h.phases other phase hphase).mono (le_written_write stored) fun _ => Nat.le_refl _

lemma Fresh.hydrate (h : Fresh s) {stored : StoredSecret} (hstored : s.written key ≤ stored.number) :
    Fresh { s with credentials := Function.update s.credentials key (some stored) } where
  pool := h.pool
  credentials := by
    intro other c hc
    by_cases hother : other = key
    · subst hother
      simp only [Function.update_self, Option.mem_some] at hc
      exact hc ▸ hstored
    · simp only [Function.update_of_ne hother] at hc
      exact h.credentials other c hc
  retired_le := h.retired_le
  phases := h.phases

lemma le_retired_retire {number : ℕ} (other : ConnectionKey) :
    s.retired other ≤ (s.retire key number).retired other := by
  by_cases hother : other = key
  · simp [State.retire, hother]
  · simp [State.retire, hother]

/-- A write returns when the pool has no older client of its connection. -/
lemma Fresh.retire (h : Fresh s) {number : ℕ} (hnumber : number ≤ s.written key)
    (hpool : ∀ entry ∈ s.pool.rows, entry.key = key → s.now < entry.expiresAt →
      ∀ n ∈ entry.client.number, number ≤ n) : Fresh (s.retire key number) where
  pool := by
    intro entry hentry hlive n hn
    have hold := h.pool entry hentry hlive n hn
    by_cases hkey : entry.key = key
    · have hnew := hpool entry hentry hkey hlive n hn
      rw [hkey] at hold
      simpa [State.retire, hkey] using ⟨hold, hnew⟩
    · simpa [State.retire, hkey] using hold
  credentials := h.credentials
  retired_le := by
    intro other
    have hold := h.retired_le other
    by_cases hother : other = key
    · subst hother
      simpa [State.retire] using ⟨hold, hnumber⟩
    · simpa [State.retire, hother] using hold
  phases other phase hphase :=
    PhaseFresh.mono (s := s) (fun key => Nat.le_refl (s.written key)) le_retired_retire
      (h.phases other phase hphase)

/-! ### The pool -/

lemma Fresh.erase (h : Fresh s) (key : ConnectionKey) :
    Fresh { s with pool := s.pool.erase key } where
  pool entry hentry := h.pool entry (Table.mem_erase.mp hentry).1
  credentials := h.credentials
  retired_le := h.retired_le
  phases := h.phases

lemma Fresh.evictOldest (h : Fresh s) : Fresh s.evictOldest := by
  rw [State.evictOldest]
  cases s.oldest with
  | none       => exact h
  | some entry => exact h.erase entry.key

lemma Fresh.put (h : Fresh s) {entry : PoolEntry}
    (hentry : ∀ n ∈ entry.client.number, s.retired entry.key ≤ n) :
    Fresh { s with pool := s.pool.put entry } where
  pool := by
    intro other hother hlive n hn
    rcases Table.mem_put.mp hother with rfl | ⟨hother, -⟩
    · exact hentry n hn
    · exact h.pool other hother hlive n hn
  credentials := h.credentials
  retired_le := h.retired_le
  phases := h.phases

lemma retired_evictOldest : s.evictOldest.retired = s.retired := by
  rw [State.evictOldest]
  cases s.oldest with
  | none       => rfl
  | some entry => rfl

/-- A client is put into the pool when none of the writes that replace it has returned. -/
lemma Fresh.buildClient (h : Fresh s) {constructs : Bool}
    (hclient : respectsBoundary lookup.key.environment client.keyId = true → constructs = true →
      ∀ n ∈ client.number, s.retired lookup.key ≤ n) :
    Fresh (s.buildClient call lookup client constructs) := by
  simp only [State.buildClient]
  split_ifs with hboundary hconstructs
  · refine Fresh.finish ?_
    have hput : Fresh { s.evictOldest with
        pool := s.evictOldest.pool.put ⟨lookup.key, client, lookup.startedAt + CACHE_TTL_MS⟩ } :=
      h.evictOldest.put (by rw [retired_evictOldest]; exact hclient hboundary hconstructs)
    exact ⟨hput.pool, hput.credentials, hput.retired_le, hput.phases⟩
  · exact h.evictOldest.finish
  · exact h.finish

/-! ### What is returned -/

@[simp] lemma returned_evictOldest : s.evictOldest.returned = s.returned := by
  rw [State.evictOldest]
  cases s.oldest with
  | none       => rfl
  | some entry => rfl

lemma returned_buildClient (s : State) (call : ℕ) (lookup : Lookup) (client : RazorpayClient)
    (constructs : Bool) :
    (s.buildClient call lookup client constructs).returned = s.returned ∨
      (s.buildClient call lookup client constructs).returned = ⟨lookup, client⟩ :: s.returned ∧
        respectsBoundary lookup.key.environment client.keyId = true := by
  simp only [State.buildClient]
  split_ifs with hboundary hconstructs
  · exact .inr ⟨congrArg _ returned_evictOldest, hboundary⟩
  · exact .inl returned_evictOldest
  · exact .inl rfl

lemma inBoundary_erase (h : InBoundary s) (key : ConnectionKey) :
    InBoundary { s with pool := s.pool.erase key } :=
  fun entry hentry => h entry (Table.mem_erase.mp hentry).1

lemma inBoundary_evictOldest (h : InBoundary s) : InBoundary s.evictOldest := by
  rw [State.evictOldest]
  cases s.oldest with
  | none       => exact h
  | some entry => exact inBoundary_erase h entry.key

lemma inBoundary_buildClient (h : InBoundary s) (constructs : Bool) :
    InBoundary (s.buildClient call lookup client constructs) := by
  simp only [State.buildClient]
  split_ifs with hboundary hconstructs
  · intro entry hentry
    rcases Table.mem_put.mp hentry with rfl | ⟨hentry, -⟩
    · exact hboundary
    · exact inBoundary_evictOldest h entry hentry
  · exact inBoundary_evictOldest h
  · exact h

lemma returnsFresh_of_eq {action : Action} (h : t.returned = s.returned) :
    ReturnsFresh s action t := by
  intro r hr
  simp [h] at hr

lemma returnsInBoundary_of_eq {action : Action} (h : t.returned = s.returned) :
    ReturnsInBoundary s action t := by
  intro r hr
  simp [h] at hr

lemma returnsFresh_of_cons {action : Action} {r : Returned} (h : t.returned = r :: s.returned)
    (hr : ∀ n ∈ r.client.number, r.lookup.since ≤ n) : ReturnsFresh s action t := by
  intro r' hr'
  rw [h, List.cons.injEq] at hr'
  exact hr'.1 ▸ hr

lemma returnsInBoundary_of_cons {action : Action} {r : Returned}
    (h : t.returned = r :: s.returned)
    (hr : respectsBoundary r.lookup.key.environment r.client.keyId = true) :
    ReturnsInBoundary s action t := by
  intro r' hr'
  rw [h, List.cons.injEq] at hr'
  exact hr'.1 ▸ hr

/-! ### Steps -/

/-- The keys that a lookup resolves to: those that it has read, else those of the platform. -/
def resolvedClient (env : RazorpayEnv) (environment : Environment) :
    Option StoredSecret → Option RazorpayClient
  | some c => some ⟨c.secret.keyId, c.secret.keySecret, some c.number⟩
  | none   => (environmentKeys env environment).map fun keys => ⟨keys.1, keys.2, none⟩

lemma resolveKeys_eq (stored : Option StoredSecret) (constructs : Bool) :
    s.resolveKeys env call lookup stored constructs =
      match resolvedClient env lookup.key.environment stored with
      | some client => s.buildClient call lookup client constructs
      | none        => s.finish call := by
  cases stored with
  | some c => rfl
  | none   =>
    simp only [State.resolveKeys, resolvedClient]
    cases environmentKeys env lookup.key.environment with
    | none      => rfl
    | some keys => rfl

lemma mem_of_cached (h : s.cached key = some client) :
    ∃ entry ∈ s.pool.rows, entry.key = key ∧ s.now < entry.expiresAt ∧ entry.client = client := by
  simp only [State.cached, Option.map_eq_some_iff, Option.filter_eq_some_iff, decide_eq_true_eq] at h
  obtain ⟨entry, ⟨hfind, hlive⟩, hclient⟩ := h
  obtain ⟨hmem, hkey⟩ := Table.find?_eq_some_iff.mp hfind
  exact ⟨entry, hmem, hkey, hlive, hclient⟩

/-- What `getClient` does at once. -/
inductive Looked (env : RazorpayEnv) (s : State) (call : ℕ) (key : ConnectionKey) : State → Prop
  | cached {client : RazorpayClient} (h : s.cached key = some client) :
      Looked env s call key (s.return_ ⟨key, s.now, s.retired key⟩ client)
  | built (keyId keySecret : String) :
      Looked env s call key
        (s.buildClient call ⟨key, s.now, s.retired key⟩ ⟨keyId, keySecret, none⟩ true)
  | refused : Looked env s call key s
  | suspended : Looked env s call key (s.suspend call (.querying ⟨key, s.now, s.retired key⟩))

lemma looked_getClient : Looked env s call key (s.getClient env call key) := by
  simp only [State.getClient]
  cases hcached : s.cached key with
  | some client => exact .cached hcached
  | none        =>
    simp only
    split_ifs
    · cases environmentKeys env key.environment with
      | some keys => exact .built keys.1 keys.2
      | none      => exact .refused
    · exact .suspended

lemma fresh_getClient (h : Fresh s) : Fresh (s.getClient env call key) := by
  generalize ht : s.getClient env call key = t
  have hlooked : Looked env s call key t := ht ▸ looked_getClient
  cases hlooked with
  | cached _              => exact ⟨h.pool, h.credentials, h.retired_le, h.phases⟩
  | built keyId keySecret => exact h.buildClient (by simp)
  | refused               => exact h
  | suspended             => exact h.suspend (Nat.le_refl _)

lemma returnsFresh_getClient (h : Fresh s) :
    ReturnsFresh s (.getClient call key) (s.getClient env call key) := by
  generalize ht : s.getClient env call key = t
  have hlooked : Looked env s call key t := ht ▸ looked_getClient
  cases hlooked with
  | cached hcached        =>
    obtain ⟨entry, hmem, hkey, hlive, hclient⟩ := mem_of_cached hcached
    refine returnsFresh_of_cons rfl fun n hn => ?_
    exact hkey ▸ h.pool entry hmem hlive n (hclient ▸ hn)
  | built keyId keySecret =>
    rcases returned_buildClient s call ⟨key, s.now, s.retired key⟩ ⟨keyId, keySecret, none⟩ true with
      hreturned | ⟨hreturned, -⟩
    · exact returnsFresh_of_eq hreturned
    · exact returnsFresh_of_cons hreturned (by simp)
  | refused               => exact returnsFresh_of_eq rfl
  | suspended             => exact returnsFresh_of_eq rfl

lemma inBoundary_getClient (h : InBoundary s) : InBoundary (s.getClient env call key) := by
  generalize ht : s.getClient env call key = t
  have hlooked : Looked env s call key t := ht ▸ looked_getClient
  cases hlooked with
  | cached _              => exact h
  | built keyId keySecret => exact inBoundary_buildClient h true
  | refused               => exact h
  | suspended             => exact h

lemma returnsInBoundary_getClient (h : InBoundary s) :
    ReturnsInBoundary s (.getClient call key) (s.getClient env call key) := by
  generalize ht : s.getClient env call key = t
  have hlooked : Looked env s call key t := ht ▸ looked_getClient
  cases hlooked with
  | cached hcached        =>
    obtain ⟨entry, hmem, hkey, -, hclient⟩ := mem_of_cached hcached
    refine returnsInBoundary_of_cons rfl ?_
    exact hkey ▸ hclient ▸ h entry hmem
  | built keyId keySecret =>
    rcases returned_buildClient s call ⟨key, s.now, s.retired key⟩ ⟨keyId, keySecret, none⟩ true with
      hreturned | ⟨hreturned, hboundary⟩
    · exact returnsInBoundary_of_eq hreturned
    · exact returnsInBoundary_of_cons hreturned hboundary
  | refused               => exact returnsInBoundary_of_eq rfl
  | suspended             => exact returnsInBoundary_of_eq rfl

/-- A lookup that has read its credentials keeps the pool fresh and returns a fresh client. -/
lemma fresh_resolveKeys (h : Fresh s) {stored : Option StoredSecret} {constructs : Bool}
    (hstored : ∀ c ∈ stored, respectsBoundary lookup.key.environment c.secret.keyId = true →
      constructs = true → s.retired lookup.key ≤ c.number) :
    Fresh (s.resolveKeys env call lookup stored constructs) := by
  rw [resolveKeys_eq]
  cases stored with
  | some c =>
    refine h.buildClient fun hboundary hconstructs n hn => ?_
    cases hn
    exact hstored c rfl hboundary hconstructs
  | none   =>
    cases hkeys : resolvedClient env lookup.key.environment none with
    | none        => exact h.finish
    | some client =>
      refine h.buildClient fun _ _ n hn => ?_
      obtain ⟨keys, -, rfl⟩ := Option.map_eq_some_iff.mp hkeys
      cases hn

lemma returnsFresh_resolveKeys {stored : Option StoredSecret} (constructs : Bool) (action : Action)
    (hstored : ∀ c ∈ stored, lookup.since ≤ c.number) :
    ReturnsFresh s action (s.resolveKeys env call lookup stored constructs) := by
  rw [resolveKeys_eq]
  cases hclient : resolvedClient env lookup.key.environment stored with
  | none        => exact returnsFresh_of_eq rfl
  | some client =>
    rcases returned_buildClient s call lookup client constructs with hreturned | ⟨hreturned, -⟩
    · exact returnsFresh_of_eq hreturned
    · refine returnsFresh_of_cons hreturned fun n hn => ?_
      cases stored with
      | some c =>
        cases hclient
        cases hn
        exact hstored c rfl
      | none   =>
        obtain ⟨keys, -, rfl⟩ := Option.map_eq_some_iff.mp hclient
        cases hn

lemma returnsInBoundary_resolveKeys (stored : Option StoredSecret) (constructs : Bool)
    (action : Action) :
    ReturnsInBoundary s action (s.resolveKeys env call lookup stored constructs) := by
  rw [resolveKeys_eq]
  cases resolvedClient env lookup.key.environment stored with
  | none        => exact returnsInBoundary_of_eq rfl
  | some client =>
    rcases returned_buildClient s call lookup client constructs with
      hreturned | ⟨hreturned, hboundary⟩
    · exact returnsInBoundary_of_eq hreturned
    · exact returnsInBoundary_of_cons hreturned hboundary

lemma inBoundary_resolveKeys (h : InBoundary s) (stored : Option StoredSecret) (constructs : Bool) :
    InBoundary (s.resolveKeys env call lookup stored constructs) := by
  rw [resolveKeys_eq]
  cases resolvedClient env lookup.key.environment stored with
  | none        => exact h
  | some client => exact inBoundary_buildClient h constructs

/-- A resumed call keeps the freshness when what it reads and writes is not older than the writes
that it comes after. -/
lemma fresh_resume (h : Fresh s) {phase : CallPhase} (hcall : s.calls call = some phase)
    {succeeds : Bool} (hkeeps : KeepsFresh s (.resume call succeeds) t) :
    Fresh (resume env s call succeeds phase) ∧
      ReturnsFresh s (.resume call succeeds) (resume env s call succeeds phase) := by
  have hphase := h.phases call phase hcall
  simp only [KeepsFresh, hcall] at hkeeps
  cases phase with
  | storing key secret        =>
    simp only [resume]
    split_ifs
    · refine ⟨Fresh.suspend (h.write ?_) ?_, returnsFresh_of_eq rfl⟩
      · rintro c ⟨⟩
        exact Nat.le_refl _
      · simp [PhaseFresh, State.write]
    · exact ⟨h.finish, returnsFresh_of_eq rfl⟩
  | saving key stored         =>
    simp only [resume]
    split_ifs
    · have hsaved : Fresh { s with remote := Function.update s.remote key (some stored) } :=
        ⟨h.pool, h.credentials, h.retired_le, h.phases⟩
      exact ⟨hsaved.suspend hphase, returnsFresh_of_eq rfl⟩
    · exact ⟨h.suspend hphase, returnsFresh_of_eq rfl⟩
  | registered key number     =>
    have hinvalidated : Fresh (s.invalidate key) := h.erase key
    refine ⟨(hinvalidated.retire hphase fun entry hentry hkey => ?_).finish, returnsFresh_of_eq rfl⟩
    exact absurd hkey (Table.mem_erase.mp hentry).2
  | deleting key              =>
    simp only [resume]
    split_ifs
    · exact ⟨Fresh.suspend (h.write (by simp)) (by simp [PhaseFresh, State.write]),
        returnsFresh_of_eq rfl⟩
    · exact ⟨h.finish, returnsFresh_of_eq rfl⟩
  | deleted key number        =>
    refine ⟨(h.retire hphase fun entry hentry hkey => ?_).finish, returnsFresh_of_eq rfl⟩
    exact hkeeps entry (Table.find?_eq_some_iff.mpr ⟨hentry, hkey⟩)
  | querying lookup           =>
    simp only [resume]
    split_ifs
    · cases hread : s.credentials lookup.key with
      | none        => exact ⟨h.suspend hphase, returnsFresh_of_eq rfl⟩
      | some stored =>
        -- the row is that of the last write, and so of one that was over when the lookup started
        have hwritten := h.credentials lookup.key stored hread
        have hretired := h.retired_le lookup.key
        have hsince : lookup.since ≤ s.retired lookup.key := hphase
        exact ⟨h.suspend ⟨hsince, by omega⟩, returnsFresh_of_eq rfl⟩
    · exact ⟨h.finish, returnsFresh_of_eq rfl⟩
  | fetching lookup           =>
    simp only [resume]
    cases hfetched : (s.remote lookup.key).filter fun _ => succeeds with
    | none        => exact ⟨h.suspend trivial, returnsFresh_of_eq rfl⟩
    | some stored =>
      obtain ⟨hremote, hsucceeds⟩ := Option.filter_eq_some_iff.mp hfetched
      have hretired := hkeeps hsucceeds stored hremote
      exact ⟨h.suspend ⟨hphase, Nat.le_trans hphase hretired⟩, returnsFresh_of_eq rfl⟩
  | hydrating lookup stored   =>
    simp only [resume]
    split_ifs with hsucceeds
    · exact ⟨(h.hydrate (hkeeps hsucceeds)).suspend hphase, returnsFresh_of_eq rfl⟩
    · exact ⟨h.suspend hphase, returnsFresh_of_eq rfl⟩
  | building lookup stored    =>
    simp only [resume]
    cases stored with
    | none        =>
      exact ⟨fresh_resolveKeys h (by simp), returnsFresh_resolveKeys succeeds _ (by simp)⟩
    | some stored =>
      refine ⟨fresh_resolveKeys h ?_, returnsFresh_resolveKeys succeeds _ ?_⟩
      · rintro c ⟨⟩
        exact hkeeps
      · rintro c ⟨⟩
        exact hphase.2

lemma fresh_step {action : Action} (h : Fresh s) (hstep : step env s action = some t)
    (hkeeps : KeepsFresh s action t) : Fresh t ∧ ReturnsFresh s action t := by
  cases action with
  | tick ms =>
    cases hstep
    refine ⟨⟨fun entry hentry hlive => ?_, h.credentials, h.retired_le, h.phases⟩,
      returnsFresh_of_eq rfl⟩
    exact h.pool entry hentry (Nat.lt_of_le_of_lt (Nat.le_add_right s.now ms) hlive)
  | registerConnection call key secret =>
    simp only [step] at hstep
    split_ifs at hstep
    cases hstep
    exact ⟨h.suspend trivial, returnsFresh_of_eq rfl⟩
  | deleteConnection call key =>
    simp only [step] at hstep
    split_ifs at hstep
    cases hstep
    exact ⟨h.suspend trivial, returnsFresh_of_eq rfl⟩
  | getClient call key =>
    simp only [step] at hstep
    split_ifs at hstep
    cases hstep
    exact ⟨fresh_getClient h, returnsFresh_getClient h⟩
  | resume call succeeds =>
    obtain ⟨phase, hcall, rfl⟩ := Option.map_eq_some_iff.mp hstep
    exact fresh_resume h hcall hkeeps

/-- No step puts or returns a client whose keys name the other environment. -/
lemma inBoundary_step {action : Action} (h : InBoundary s) (hstep : step env s action = some t) :
    InBoundary t ∧ ReturnsInBoundary s action t := by
  cases action with
  | tick ms =>
    cases hstep
    exact ⟨h, returnsInBoundary_of_eq rfl⟩
  | registerConnection call key secret =>
    simp only [step] at hstep
    split_ifs at hstep
    cases hstep
    exact ⟨h, returnsInBoundary_of_eq rfl⟩
  | deleteConnection call key =>
    simp only [step] at hstep
    split_ifs at hstep
    cases hstep
    exact ⟨h, returnsInBoundary_of_eq rfl⟩
  | getClient call key =>
    simp only [step] at hstep
    split_ifs at hstep
    cases hstep
    exact ⟨inBoundary_getClient h, returnsInBoundary_getClient h⟩
  | resume call succeeds =>
    obtain ⟨phase, hcall, rfl⟩ := Option.map_eq_some_iff.mp hstep
    cases phase with
    | storing key secret        =>
      simp only [resume]
      split_ifs
      · exact ⟨h, returnsInBoundary_of_eq rfl⟩
      · exact ⟨h, returnsInBoundary_of_eq rfl⟩
    | saving key stored         =>
      simp only [resume]
      split_ifs
      · exact ⟨h, returnsInBoundary_of_eq rfl⟩
      · exact ⟨h, returnsInBoundary_of_eq rfl⟩
    | registered key number     => exact ⟨inBoundary_erase h key, returnsInBoundary_of_eq rfl⟩
    | deleting key              =>
      simp only [resume]
      split_ifs
      · exact ⟨h, returnsInBoundary_of_eq rfl⟩
      · exact ⟨h, returnsInBoundary_of_eq rfl⟩
    | deleted key number        => exact ⟨h, returnsInBoundary_of_eq rfl⟩
    | querying lookup           =>
      simp only [resume]
      split_ifs
      · cases s.credentials lookup.key with
        | none        => exact ⟨h, returnsInBoundary_of_eq rfl⟩
        | some stored => exact ⟨h, returnsInBoundary_of_eq rfl⟩
      · exact ⟨h, returnsInBoundary_of_eq rfl⟩
    | fetching lookup           =>
      simp only [resume]
      cases (s.remote lookup.key).filter fun _ => succeeds with
      | none        => exact ⟨h, returnsInBoundary_of_eq rfl⟩
      | some stored => exact ⟨h, returnsInBoundary_of_eq rfl⟩
    | hydrating lookup stored   =>
      simp only [resume]
      split_ifs
      · exact ⟨h, returnsInBoundary_of_eq rfl⟩
      · exact ⟨h, returnsInBoundary_of_eq rfl⟩
    | building lookup stored    =>
      simp only [resume]
      exact ⟨inBoundary_resolveKeys h stored succeeds,
        returnsInBoundary_resolveKeys stored succeeds _⟩

/-! ### Runs -/

/-- Along every run the clients keep to their environment; and along a run in which nothing older than
the writes that have returned is read from the remote store, hydrated, put into the pool or left there
by a deletion, no client comes from credentials that were replaced or deleted when its lookup started.
-/
theorem freshClients_of_guarded (env : RazorpayEnv) (start : ℕ)
    (credentials remote : ConnectionKey → Option ConnectionSecret) (actions : List Action) :
    AllSteps (step env) ReturnsInBoundary (.initial start credentials remote) actions ∧
      (AllSteps (step env) KeepsFresh (.initial start credentials remote) actions →
        AllSteps (step env) ReturnsFresh (.initial start credentials remote) actions) := by
  constructor
  · refine allSteps_of_invariant (I := InBoundary) ?_ ?_
    · exact fun s a t hI hstep => inBoundary_step hI hstep
    · exact fun entry hentry => absurd hentry List.not_mem_nil
  · refine AllSteps.of_invariant (I := Fresh) ?_ ?_ ?_
    · exact fun s a t hI hstep hkeeps => (fresh_step hI hstep hkeeps).1
    · exact fun s a t hI hstep hkeeps => (fresh_step hI hstep hkeeps).2
    · exact ⟨fun entry hentry => absurd hentry List.not_mem_nil, fun key stored _ => Nat.zero_le _,
        fun key => Nat.le_refl _, fun call phase hphase => by simp [State.initial] at hphase⟩

/-! ### A deletion that leaves its client -/

def testEnv : RazorpayEnv := ⟨none, none, none, none⟩

def testKey : ConnectionKey := ⟨"tenant_a", .test⟩

/-- A connection is registered, used, and deleted. -/
def deletedConnection : List Action :=
  [.registerConnection 0 testKey ⟨"rzp_test_1", "secret_1", none⟩, .resume 0 true, .resume 0 true,
    .resume 0 true, .getClient 1 testKey, .resume 1 true, .resume 1 true,
    .deleteConnection 2 testKey, .resume 2 true, .resume 2 true]

/-- The next lookup gets the client of the deleted credentials from the pool. -/
theorem returns_deleted_client :
    ¬ AllSteps (step testEnv) ReturnsFresh (.initial 0 (fun _ => none) fun _ => none)
        (deletedConnection ++ [.getClient 3 testKey]) := by
  intro hall
  obtain ⟨s, hrun, hs⟩ := exists_run_of_execute (step testEnv)
    (.initial 0 (fun _ => none) fun _ => none) deletedConnection
    (fun s => s.cached testKey = some ⟨"rzp_test_1", "secret_1", some 1⟩ ∧ s.retired testKey = 2 ∧
      s.calls 3 = none) (by decide)
  simp only [decide_eq_true_eq] at hs
  obtain ⟨hcached, hretired, hcall⟩ := hs
  have hget : step testEnv s (.getClient 3 testKey) =
      some (s.return_ ⟨testKey, s.now, s.retired testKey⟩ ⟨"rzp_test_1", "secret_1", some 1⟩) := by
    simp [step, hcall, State.getClient, hcached]
  have hfresh := hall.at_step hrun hget _ rfl 1 rfl
  simp [hretired] at hfresh

end RazorpayClientPool

end CtrlRecovery
