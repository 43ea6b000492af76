import CtrlRecovery.Cache.CacheManager

/-!
# Idempotency locks

`acquireIdempotencyKey` is granted once in the life of a lock as long as the lock stays where the next
acquisition looks: no acquisition is made in one store while the lock is held in the other, and no
`set` on a full fallback store evicts a lock that is held (`grantsOnce_of_keepsLock`).
-/

namespace CtrlRecovery

open Core

namespace CacheManager

/-! ### What a lock promises -/

namespace State

variable (s : State) (key : String)

/-- A lock on `key` was granted in `store` and has not expired. -/
def HoldsIn (store : LockStore) : Prop :=
  ∃ g ∈ s.grants, g.key = key ∧ g.store = store ∧ s.now < g.expiresAt

/-- A lock on `key` was granted and has not expired. -/
def Holds : Prop := ∃ g ∈ s.grants, g.key = key ∧ s.now < g.expiresAt

instance (store : LockStore) : Decidable (s.HoldsIn key store) :=
  inferInstanceAs (Decidable (∃ _ ∈ _, _))

instance : Decidable (s.Holds key) := inferInstanceAs (Decidable (∃ _ ∈ _, _))

end State

/-- A lock is granted only when none on its key is held. -/
def GrantsOnce (key : String) (s : State) (_ : Action) (t : State) : Prop :=
  ∀ g, t.grants = g :: s.grants → g.key = key → ¬ s.Holds key

/-- A command that writes to other keys than that of the lock on `key`, or acquires a lock. -/
def Command.SparesLock (key : String) : Command → Prop
  | .get _                     => True
  | .set k _                   => k ≠ lockKey key
  | .del k                     => k ≠ lockKey key
  | .incr k                    => k ≠ lockKey key
  | .incrGet k                 => k ≠ lockKey key
  | .expire k _                => k ≠ lockKey key
  | .acquireIdempotencyKey _ _ => True

def Action.SparesLock (key : String) : Action → Prop
  | .call _ command => command.SparesLock key
  | _               => True

/-- The part of a command on the fallback store neither acquires a lock that is held in Redis nor
evicts one that is held in the fallback store. -/
def FallbackKeepsLock (key : String) (s : State) : Command → Prop
  | .set _ _                   =>
    s.evictedKey = some (lockKey key) → ¬ s.HoldsIn key .memory
  | .acquireIdempotencyKey k _ =>
    k = key → s.isLockedInMemory key = false → ¬ s.HoldsIn key .redis
  | _                          => True

/-- The reply to a command does not acquire a lock that is held in the fallback store. -/
def ReplyKeepsLock (key : String) (s : State) : Command → Prop
  | .acquireIdempotencyKey k _ =>
    k = key → s.isInRedis (lockKey key) = false → ¬ s.HoldsIn key .memory
  | _                          => True

/-- A step after which the lock is still found where it is looked for. -/
def KeepsLock (key : String) (s : State) (action : Action) (_ : State) : Prop :=
  match action with
  | .call _ command => s.isRedisConnected = false → FallbackKeepsLock key s command
  | .reply call     =>
    ∀ command, s.waiting call = some (.sent command) → ReplyKeepsLock key s command
  | .fail call _    =>
    ∀ command, s.waiting call = some (.sent command) → FallbackKeepsLock key s command
  | .resume call    =>
    ∀ k, s.waiting call = some (.incremented k) → s.isRedisConnected = false →
      FallbackKeepsLock key s (.set k 60)
  | _               => True

/-! ### Where the locks are -/

/-- A granted lock that has not expired is in the store in which it was granted. -/
def Recorded (key : String) (s : State) : Prop :=
  ∀ g ∈ s.grants, g.key = key → s.now < g.expiresAt →
    match g.store with
    | .memory => ∃ entry, s.fallbackStore.find? (lockKey key) = some entry ∧
        g.expiresAt ≤ entry.expiresAt
    | .redis  => ∃ expiresAt, s.redis (lockKey key) = some (.expiring expiresAt) ∧
        g.expiresAt ≤ expiresAt

lemma lockKey_injective : Function.Injective lockKey := by
  intro key key' h
  exact (String.append_right_inj "ctrl:idemp:").mp h

variable {key : String} {s t : State}

/-- What a step leaves in the stores that hold the lock, it leaves recorded. -/
lemma Recorded.mono (h : Recorded key s) (hnow : s.now ≤ t.now)
    (hgrants : ∀ g ∈ t.grants, g.key = key → g ∈ s.grants)
    (hmemory : s.HoldsIn key .memory →
      t.fallbackStore.find? (lockKey key) = s.fallbackStore.find? (lockKey key))
    (hredis : s.HoldsIn key .redis → t.redis (lockKey key) = s.redis (lockKey key)) :
    Recorded key t := by
  intro g hg hkey hlive
  have hg' := hgrants g hg hkey
  have hlive' : s.now < g.expiresAt := Nat.lt_of_le_of_lt hnow hlive
  have hrecord := h g hg' hkey hlive'
  cases hstore : g.store with
  | memory =>
    simp only [hstore] at hrecord ⊢
    rwa [hmemory ⟨g, hg', hkey, hstore, hlive'⟩]
  | redis  =>
    simp only [hstore] at hrecord ⊢
    rwa [hredis ⟨g, hg', hkey, hstore, hlive'⟩]

lemma Recorded.isLockedInMemory (h : Recorded key s) (hholds : s.HoldsIn key .memory) :
    s.isLockedInMemory key = true := by
  obtain ⟨g, hg, hkey, hstore, hlive⟩ := hholds
  have hrecord := h g hg hkey hlive
  simp only [hstore] at hrecord
  obtain ⟨entry, hentry, hexpires⟩ := hrecord
  simp only [State.isLockedInMemory, hentry, Option.any_some, decide_eq_true_eq]
  omega

lemma Recorded.isInRedis (h : Recorded key s) (hholds : s.HoldsIn key .redis) :
    s.isInRedis (lockKey key) = true := by
  obtain ⟨g, hg, hkey, hstore, hlive⟩ := hholds
  have hrecord := h g hg hkey hlive
  simp only [hstore] at hrecord
  obtain ⟨expiresAt, hentry, hexpires⟩ := hrecord
  simp only [State.isInRedis, hentry, decide_eq_true_eq]
  omega

/-- The entry of a lock that is held is not dropped. -/
lemma Recorded.dropExpired (h : Recorded key s) (k : String) : Recorded key (s.dropExpired k) := by
  rw [State.dropExpired]
  cases hfind : s.fallbackStore.find? k with
  | none       => exact h
  | some entry =>
    simp only
    split_ifs with hexpired
    · refine h.mono (t := { s with fallbackStore := s.fallbackStore.erase k }) (Nat.le_refl _)
        (fun g hg _ => hg) (fun hholds => ?_) fun _ => rfl
      have hlocked := h.isLockedInMemory hholds
      by_cases hk : lockKey key = k
      · subst hk
        simp only [State.isLockedInMemory, hfind, Option.any_some, decide_eq_true_eq] at hlocked
        omega
      · simp only [Table.find?_erase, if_neg hk]
    · exact h

lemma Recorded.cleanup (h : Recorded key s) : Recorded key s.cleanup := by
  refine h.mono (t := s.cleanup) (Nat.le_refl _) (fun g hg _ => hg) (fun hholds => ?_) fun _ => rfl
  have hlocked := h.isLockedInMemory hholds
  simp only [State.isLockedInMemory] at hlocked
  obtain ⟨entry, hentry, hlive⟩ := (Option.any_eq_true _ _).mp hlocked
  obtain ⟨hmem, hkey⟩ := Table.find?_eq_some_iff.mp hentry
  rw [hentry, Table.find?_eq_some_iff]
  refine ⟨List.mem_filter.mpr ⟨hmem, ?_⟩, hkey⟩
  simp only [decide_eq_true_eq] at hlive
  simp [hlive]

/-- The bound on the store evicts no lock that is held, when the guard says so. -/
lemma Recorded.evictOldest (h : Recorded key s)
    (hkeeps : s.evictedKey = some (lockKey key) → ¬ s.HoldsIn key .memory) :
    Recorded key s.evictOldest := by
  rw [State.evictOldest]
  cases hevicted : s.evictedKey with
  | none           => exact h
  | some oldestKey =>
    refine h.mono (t := { s with fallbackStore := s.fallbackStore.erase oldestKey }) (Nat.le_refl _)
      (fun g hg _ => hg) (fun hholds => ?_) fun _ => rfl
    by_cases hk : lockKey key = oldestKey
    · exact absurd hholds (hkeeps (hk ▸ hevicted))
    · simp only [Table.find?_erase, if_neg hk]

lemma Recorded.fallbackPut {k : String} (h : Recorded key s)
    (hkeeps : k = lockKey key → ¬ s.HoldsIn key .memory) (ttlSeconds : ℕ) :
    Recorded key (s.fallbackPut k ttlSeconds) := by
  refine h.mono (t := s.fallbackPut k ttlSeconds) (Nat.le_refl _) (fun g hg _ => hg) (fun hholds => ?_)
    fun _ => rfl
  have hk : lockKey key ≠ k := fun hk => hkeeps hk.symm hholds
  exact Table.find?_put_of_ne hk

lemma Recorded.fallbackDel {k : String} (h : Recorded key s) (hk : k ≠ lockKey key) :
    Recorded key (s.fallbackDel k) := by
  refine h.mono (t := s.fallbackDel k) (Nat.le_refl _) (fun g hg _ => hg) (fun _ => ?_) fun _ => rfl
  simp only [State.fallbackDel, Table.find?_erase, if_neg hk.symm]

lemma Recorded.fallbackExpire {k : String} (h : Recorded key s) (hk : k ≠ lockKey key)
    (seconds : ℕ) : Recorded key (s.fallbackExpire k seconds) := by
  refine h.mono (t := s.fallbackExpire k seconds) (Nat.le_refl _) (fun g hg _ => hg) (fun _ => ?_)
    fun _ => rfl
  simp only [State.fallbackExpire, Table.find?_update_of_ne hk.symm]

lemma Recorded.redisPut {k : String} (h : Recorded key s)
    (hkeeps : k = lockKey key → ¬ s.HoldsIn key .redis) (entry : Option RedisEntry) :
    Recorded key (s.redisPut k entry) := by
  refine h.mono (t := s.redisPut k entry) (Nat.le_refl _) (fun g hg _ => hg) (fun _ => rfl)
    fun hholds => ?_
  have hk : lockKey key ≠ k := fun hk => hkeeps hk.symm hholds
  exact Function.update_of_ne hk _ _

lemma Recorded.grant_memory (h : Recorded key s) {k : String} {ttlSeconds : ℕ}
    (hentry : k = key → s.fallbackStore.find? (lockKey k) =
      some ⟨lockKey k, s.now + ttlSeconds * 1000⟩) :
    Recorded key (s.grant k ttlSeconds .memory) := by
  intro g hg hkey hlive
  rcases List.mem_cons.mp hg with rfl | hg
  · simp only at hkey
    subst hkey
    exact ⟨_, hentry rfl, Nat.le_refl _⟩
  · exact h g hg hkey hlive

lemma Recorded.grant_redis (h : Recorded key s) {k : String} {ttlSeconds : ℕ}
    (hentry : k = key → s.redis (lockKey k) = some (.expiring (s.now + ttlSeconds * 1000))) :
    Recorded key (s.grant k ttlSeconds .redis) := by
  intro g hg hkey hlive
  rcases List.mem_cons.mp hg with rfl | hg
  · simp only at hkey
    subst hkey
    exact ⟨_, hentry rfl, Nat.le_refl _⟩
  · exact h g hg hkey hlive

/-! ### What the commands do to the locks -/

/-- The effect of a command on Redis overwrites no lock that is held. -/
lemma Recorded.execute (h : Recorded key s) {command : Command} (hspares : command.SparesLock key)
    (hexecute : s.execute command = some t) : Recorded key t := by
  cases command with
  | get k         => cases hexecute; exact h
  | incrGet k     => cases hexecute; exact h
  | set k ttlSeconds =>
    simp only [State.execute] at hexecute
    split_ifs at hexecute
    cases hexecute
    exact h.redisPut (fun hk => absurd hk hspares) _
  | del k         =>
    cases hexecute
    exact h.redisPut (fun hk => absurd hk hspares) _
  | incr k        =>
    simp only [State.execute] at hexecute
    split_ifs at hexecute <;> cases hexecute
    · exact h
    · exact h.redisPut (fun hk => absurd hk hspares) _
  | expire k seconds =>
    simp only [State.execute] at hexecute
    split_ifs at hexecute <;> cases hexecute
    · exact h.redisPut (fun hk => absurd hk hspares) _
    · exact h.redisPut (fun hk => absurd hk hspares) _
    · exact h
  | acquireIdempotencyKey k ttlSeconds =>
    simp only [State.execute] at hexecute
    split_ifs at hexecute with _ hpresent <;> cases hexecute
    · exact h
    · refine h.redisPut (fun hk hholds => ?_) _
      rw [lockKey_injective hk] at hpresent
      exact hpresent (h.isInRedis hholds)

lemma Recorded.fallback (h : Recorded key s) {command : Command} (hspares : command.SparesLock key)
    (hkeeps : FallbackKeepsLock key s command) (call : ℕ) :
    Recorded key (s.fallback call command) := by
  cases command with
  | get k         => exact h.dropExpired k
  | set k ttlSeconds => exact (h.evictOldest hkeeps).fallbackPut (fun hk => absurd hk hspares) _
  | del k         => exact h.fallbackDel hspares
  | incr k        =>
    simp only [State.fallback]
    split_ifs
    · exact h
    · exact h.dropExpired k
  | incrGet k     => exact h.dropExpired k
  | expire k seconds => exact h.fallbackExpire hspares seconds
  | acquireIdempotencyKey k ttlSeconds =>
    simp only [State.fallback]
    split_ifs with hlocked
    · exact h
    · have hput : Recorded key (s.fallbackPut (lockKey k) ttlSeconds) := by
        refine h.fallbackPut (fun hk hholds => ?_) ttlSeconds
        rw [lockKey_injective hk] at hlocked
        exact hlocked (h.isLockedInMemory hholds)
      exact hput.grant_memory fun _ => Table.find?_put_self

lemma Recorded.reply (h : Recorded key s) {command : Command} (hspares : command.SparesLock key)
    (hexecute : s.execute command = some t) (call : ℕ) : Recorded key (s.reply t call command) := by
  have ht := h.execute hspares hexecute
  cases command with
  | get k         => exact ht
  | incrGet k     => exact ht
  | set k ttlSeconds => exact ht
  | del k         => exact ht.fallbackDel hspares
  | incr k        => exact ht
  | expire k seconds => exact ht
  | acquireIdempotencyKey k ttlSeconds =>
    simp only [State.reply]
    split_ifs with hpresent
    · exact ht
    · refine ht.grant_redis fun _ => ?_
      simp only [State.execute] at hexecute
      split_ifs at hexecute
      cases hexecute
      exact Function.update_self ..

/-- A command changes nothing but Redis where Redis executes it. -/
lemma eq_of_execute {command : Command} (h : s.execute command = some t) :
    ∃ redis, t = { s with redis } := by
  cases command with
  | get k         => cases h; exact ⟨_, rfl⟩
  | incrGet k     => cases h; exact ⟨_, rfl⟩
  | set k ttlSeconds =>
    simp only [State.execute] at h
    split_ifs at h
    cases h
    exact ⟨_, rfl⟩
  | del k         => cases h; exact ⟨_, rfl⟩
  | incr k        =>
    simp only [State.execute] at h
    split_ifs at h <;> cases h <;> exact ⟨_, rfl⟩
  | expire k seconds =>
    simp only [State.execute] at h
    split_ifs at h <;> cases h <;> exact ⟨_, rfl⟩
  | acquireIdempotencyKey k ttlSeconds =>
    simp only [State.execute] at h
    split_ifs at h <;> cases h <;> exact ⟨_, rfl⟩

/-! ### Grants -/

lemma holds_iff : s.Holds key ↔ s.HoldsIn key .memory ∨ s.HoldsIn key .redis := by
  constructor
  · rintro ⟨g, hg, hkey, hlive⟩
    cases hstore : g.store with
    | memory => exact .inl ⟨g, hg, hkey, hstore, hlive⟩
    | redis  => exact .inr ⟨g, hg, hkey, hstore, hlive⟩
  · rintro (⟨g, hg, hkey, -, hlive⟩ | ⟨g, hg, hkey, -, hlive⟩)
    · exact ⟨g, hg, hkey, hlive⟩
    · exact ⟨g, hg, hkey, hlive⟩

lemma dropExpired_eq (k : String) : ∃ fallbackStore, s.dropExpired k = { s with fallbackStore } := by
  rw [State.dropExpired]
  cases s.fallbackStore.find? k with
  | none       => exact ⟨_, rfl⟩
  | some entry =>
    simp only
    split_ifs
    · exact ⟨_, rfl⟩
    · exact ⟨_, rfl⟩

lemma evictOldest_eq (s : State) : ∃ fallbackStore, s.evictOldest = { s with fallbackStore } := by
  rw [State.evictOldest]
  cases s.evictedKey with
  | none   => exact ⟨_, rfl⟩
  | some k => exact ⟨_, rfl⟩

@[simp] lemma grants_dropExpired (k : String) : (s.dropExpired k).grants = s.grants := by
  obtain ⟨fallbackStore, h⟩ := dropExpired_eq (s := s) k
  rw [h]

@[simp] lemma grants_evictOldest : s.evictOldest.grants = s.grants := by
  obtain ⟨fallbackStore, h⟩ := evictOldest_eq s
  rw [h]

/-- A lock that the fallback store grants is not held. -/
lemma Recorded.not_holds_of_fallback (h : Recorded key s) {command : Command} {call : ℕ}
    (hkeeps : FallbackKeepsLock key s command) {g : Grant}
    (hgrants : (s.fallback call command).grants = g :: s.grants) (hkey : g.key = key) :
    ¬ s.Holds key := by
  cases command with
  | get k         => simp [State.fallback, State.finish] at hgrants
  | set k ttlSeconds => simp [State.fallback, State.finish, State.fallbackPut] at hgrants
  | del k         => simp [State.fallback, State.finish, State.fallbackDel] at hgrants
  | incr k        =>
    simp only [State.fallback] at hgrants
    split_ifs at hgrants <;> simp [State.suspend] at hgrants
  | incrGet k     => simp [State.fallback, State.suspend] at hgrants
  | expire k seconds => simp [State.fallback, State.finish, State.fallbackExpire] at hgrants
  | acquireIdempotencyKey k ttlSeconds =>
    simp only [State.fallback] at hgrants
    split_ifs at hgrants with hlocked
    · simp [State.finish] at hgrants
    · obtain rfl : k = key := by
        rw [← hkey, ← (List.cons.inj hgrants).1]
      rw [holds_iff, not_or]
      exact ⟨fun hholds => hlocked (h.isLockedInMemory hholds),
        hkeeps rfl (Bool.eq_false_iff.mpr hlocked)⟩

/-- A lock that Redis grants is not held. -/
lemma Recorded.not_holds_of_reply (h : Recorded key s) {command : Command} {call : ℕ}
    (hkeeps : ReplyKeepsLock key s command) (hexecute : s.execute command = some t) {g : Grant}
    (hgrants : (s.reply t call command).grants = g :: s.grants) (hkey : g.key = key) :
    ¬ s.Holds key := by
  obtain ⟨redis, rfl⟩ := eq_of_execute hexecute
  cases command with
  | get k         => simp [State.reply, State.finish] at hgrants
  | set k ttlSeconds => simp [State.reply, State.finish] at hgrants
  | del k         => simp [State.reply, State.finish, State.fallbackDel] at hgrants
  | incr k        => simp [State.reply, State.finish] at hgrants
  | incrGet k     => simp [State.reply, State.suspend] at hgrants
  | expire k seconds => simp [State.reply, State.finish] at hgrants
  | acquireIdempotencyKey k ttlSeconds =>
    simp only [State.reply] at hgrants
    split_ifs at hgrants with hpresent
    · simp [State.finish] at hgrants
    · obtain rfl : k = key := by
        rw [← hkey, ← (List.cons.inj hgrants).1]
      rw [holds_iff, not_or]
      exact ⟨hkeeps rfl (Bool.eq_false_iff.mpr hpresent),
        fun hholds => hpresent (h.isInRedis hholds)⟩

/-! ### Runs -/

/-- What a suspended call goes on to do spares the lock. -/
def Waiting.SparesLock (key : String) : Waiting → Prop
  | .sent command  => command.SparesLock key
  | .incremented k => k ≠ lockKey key

/-- The locks are recorded, and no suspended call is about to write over one. -/
structure LockInvariant (key : String) (s : State) : Prop where
  recorded : Recorded key s
  spares : ∀ call w, s.waiting call = some w → w.SparesLock key

lemma spares_update {waiting : ℕ → Option Waiting} {call : ℕ} {next : Option Waiting}
    (h : ∀ call w, waiting call = some w → w.SparesLock key)
    (hnext : ∀ w, next = some w → w.SparesLock key) (other : ℕ) (w : Waiting)
    (hw : Function.update waiting call next other = some w) : w.SparesLock key := by
  by_cases hother : other = call
  · rw [hother, Function.update_self] at hw
    exact hnext w hw
  · rw [Function.update_of_ne hother] at hw
    exact h other w hw

@[simp] lemma waiting_dropExpired (k : String) : (s.dropExpired k).waiting = s.waiting := by
  obtain ⟨fallbackStore, h⟩ := dropExpired_eq (s := s) k
  rw [h]

@[simp] lemma waiting_evictOldest : s.evictOldest.waiting = s.waiting := by
  obtain ⟨fallbackStore, h⟩ := evictOldest_eq s
  rw [h]

lemma waiting_fallback {command : Command} (hspares : command.SparesLock key) (call : ℕ) :
    ∃ next, (s.fallback call command).waiting = Function.update s.waiting call next ∧
      ∀ w, next = some w → w.SparesLock key := by
  cases command with
  | get k         => exact ⟨none, by simp [State.fallback, State.finish], by simp⟩
  | set k ttlSeconds =>
    exact ⟨none, by simp [State.fallback, State.finish, State.fallbackPut], by simp⟩
  | del k         => exact ⟨none, rfl, by simp⟩
  | incr k        =>
    simp only [State.fallback]
    split_ifs
    · exact ⟨some (.sent (.incrGet k)), rfl, by rintro w ⟨⟩; exact hspares⟩
    · exact ⟨some (.incremented k), by simp [State.suspend], by rintro w ⟨⟩; exact hspares⟩
  | incrGet k     =>
    exact ⟨some (.incremented k), by simp [State.fallback, State.suspend],
      by rintro w ⟨⟩; exact hspares⟩
  | expire k seconds => exact ⟨none, rfl, by simp⟩
  | acquireIdempotencyKey k ttlSeconds =>
    refine ⟨none, ?_, by simp⟩
    simp only [State.fallback]
    split_ifs
    · rfl
    · rfl

lemma waiting_reply {command : Command} (hspares : command.SparesLock key) (call : ℕ) :
    ∃ next, (s.reply t call command).waiting = Function.update t.waiting call next ∧
      ∀ w, next = some w → w.SparesLock key := by
  cases command with
  | incrGet k     => exact ⟨some (.incremented k), rfl, by rintro w ⟨⟩; exact hspares⟩
  | acquireIdempotencyKey k ttlSeconds =>
    refine ⟨none, ?_, by simp⟩
    simp only [State.reply]
    split_ifs
    · rfl
    · rfl
  | get k         => exact ⟨none, rfl, by simp⟩
  | set k ttlSeconds => exact ⟨none, rfl, by simp⟩
  | del k         => exact ⟨none, rfl, by simp⟩
  | incr k        => exact ⟨none, rfl, by simp⟩
  | expire k seconds => exact ⟨none, rfl, by simp⟩

/-- A command that fails keeps the invariant, whether Redis has executed it or not. -/
lemma LockInvariant.fallback (h : LockInvariant key s) {command : Command}
    (hspares : command.SparesLock key) (hkeeps : FallbackKeepsLock key s command) (call : ℕ) :
    LockInvariant key (s.fallback call command) ∧
      ∀ g, (s.fallback call command).grants = g :: s.grants → g.key = key → ¬ s.Holds key := by
  obtain ⟨next, hwaiting, hnext⟩ := waiting_fallback (s := s) hspares call
  refine ⟨⟨h.recorded.fallback hspares hkeeps call, ?_⟩, fun g hgrants hkey => ?_⟩
  · rw [hwaiting]
    exact spares_update h.spares hnext
  · exact h.recorded.not_holds_of_fallback hkeeps hgrants hkey

/-- A call that starts keeps the invariant, and a lock that it is granted is not held. -/
lemma LockInvariant.start (h : LockInvariant key s) {command : Command}
    (hspares : command.SparesLock key)
    (hkeeps : s.isRedisConnected = false → FallbackKeepsLock key s command) (call : ℕ) :
    LockInvariant key (s.start call command) ∧
      ∀ g, (s.start call command).grants = g :: s.grants → g.key = key → ¬ s.Holds key := by
  rw [State.start]
  split_ifs with hconnected
  · refine ⟨⟨h.recorded, spares_update h.spares ?_⟩, ?_⟩
    · rintro w ⟨⟩
      exact hspares
    · intro g hgrants
      simp [State.suspend] at hgrants
  · exact h.fallback hspares (hkeeps (Bool.eq_false_iff.mpr hconnected)) call

lemma lockInvariant_step {action : Action} (h : LockInvariant key s)
    (hspares : action.SparesLock key) (hstep : step s action = some t)
    (hkeeps : KeepsLock key s action t) : LockInvariant key t ∧ GrantsOnce key s action t := by
  cases action with
  | tick ms =>
    cases hstep
    refine ⟨⟨?_, h.spares⟩, fun g hgrants => by simp at hgrants⟩
    exact h.recorded.mono (Nat.le_add_right _ _) (fun g hg _ => hg) (fun _ => rfl) fun _ => rfl
  | connect =>
    cases hstep
    exact ⟨⟨h.recorded, h.spares⟩, fun g hgrants => by simp at hgrants⟩
  | error =>
    cases hstep
    exact ⟨⟨h.recorded, h.spares⟩, fun g hgrants => by simp at hgrants⟩
  | cleanup =>
    cases hstep
    exact ⟨⟨h.recorded.cleanup, h.spares⟩, fun g hgrants => by simp [State.cleanup] at hgrants⟩
  | call call command =>
    simp only [step] at hstep
    split_ifs at hstep
    cases hstep
    exact h.start hspares hkeeps call
  | reply call =>
    simp only [step] at hstep
    split at hstep
    next command hsent =>
      obtain ⟨executed, hexecute, rfl⟩ := Option.map_eq_some_iff.mp hstep
      have hcommand : command.SparesLock key := h.spares call _ hsent
      obtain ⟨next, hwaiting, hnext⟩ := waiting_reply (s := s) (t := executed) hcommand call
      refine ⟨⟨h.recorded.reply hcommand hexecute call, ?_⟩, fun g hgrants hkey => ?_⟩
      · rw [hwaiting]
        obtain ⟨redis, rfl⟩ := eq_of_execute hexecute
        exact spares_update h.spares hnext
      · exact h.recorded.not_holds_of_reply (hkeeps command hsent) hexecute hgrants hkey
    · cases hstep
  | fail call executed =>
    simp only [step] at hstep
    split at hstep
    next command hsent =>
      have hcommand : command.SparesLock key := h.spares call _ hsent
      have hfallback := hkeeps command hsent
      split_ifs at hstep
      · obtain ⟨executed, hexecute, rfl⟩ := Option.map_eq_some_iff.mp hstep
        have hrecorded := h.recorded.execute hcommand hexecute
        obtain ⟨redis, rfl⟩ := eq_of_execute hexecute
        have hexecuted : LockInvariant key { s with redis } := ⟨hrecorded, h.spares⟩
        have hfallback' : FallbackKeepsLock key { s with redis } command := by
          cases command <;> exact hfallback
        exact hexecuted.fallback hcommand hfallback' call
      · cases hstep
        exact h.fallback hcommand hfallback call
    · cases hstep
  | resume call =>
    simp only [step] at hstep
    split at hstep
    next k hincremented =>
      cases hstep
      have hset : (Command.set k 60).SparesLock key := h.spares call _ hincremented
      exact h.start hset (hkeeps k hincremented) call
    · cases hstep

/-! ### Locks that are lost -/

/-- A lock that is evicted while it is held can be granted again. -/
lemma not_grantsOnce_of_evicted {call ttlSeconds : ℕ} {k : String} (hk : k ≠ lockKey key)
    (hevicted : s.evictedKey = some (lockKey key)) (hholds : s.HoldsIn key .memory) :
    ¬ AllSteps step (GrantsOnce key) (s.fallback call (.set k ttlSeconds))
        [.error, .call call (.acquireIdempotencyKey key 1)] := by
  intro hall
  have hoverwrite : s.evictOldest = { s with fallbackStore := s.fallbackStore.erase (lockKey key) } := by
    simp only [State.evictOldest, hevicted]
  let t := s.fallback call (.set k ttlSeconds)
  have hgone : t.fallbackStore.find? (lockKey key) = none := by
    show (s.evictOldest.fallbackPut k ttlSeconds).fallbackStore.find? (lockKey key) = none
    rw [hoverwrite]
    exact (Table.find?_put_of_ne hk.symm).trans (by simp [Table.find?_erase])
  have hholds' : State.Holds { t with isRedisConnected := false } key := by
    show State.Holds (s.evictOldest.fallbackPut k ttlSeconds) key
    rw [hoverwrite]
    exact holds_iff.mpr (.inl hholds)
  have hacquire : step { t with isRedisConnected := false }
      (.call call (.acquireIdempotencyKey key 1)) =
      some (State.start { t with isRedisConnected := false } call (.acquireIdempotencyKey key 1)) := by
    simp [step, t, State.fallback, State.finish]
  have hunlocked : State.isLockedInMemory { t with isRedisConnected := false } key = false := by
    simp only [State.isLockedInMemory, hgone, Option.any_none]
  have hgrants := ((hall { t with isRedisConnected := false } rfl).2 _ hacquire).1
  refine hgrants ⟨key, t.now + 1 * 1000, .memory⟩ ?_ rfl hholds'
  simp only [State.start, State.fallback, hunlocked, Bool.false_eq_true, if_false]
  rfl

/-- After a fallback that does not keep the lock, it can be granted again. -/
lemma exists_not_grantsOnce_of_fallback {command : Command} (hspares : command.SparesLock key)
    (hkeeps : ¬ FallbackKeepsLock key s command) (call : ℕ) (action : Action) :
    ∃ rest, (∀ a ∈ rest, Action.SparesLock key a) ∧
      ¬ (GrantsOnce key s action (s.fallback call command) ∧
        AllSteps step (GrantsOnce key) (s.fallback call command) rest) := by
  cases command with
  | set k ttlSeconds =>
    simp only [FallbackKeepsLock, Classical.not_imp, not_not] at hkeeps
    refine ⟨[.error, .call call (.acquireIdempotencyKey key 1)], ?_, fun h => ?_⟩
    · simp [Action.SparesLock, Command.SparesLock]
    · exact not_grantsOnce_of_evicted hspares hkeeps.1 hkeeps.2 h.2
  | acquireIdempotencyKey k ttlSeconds =>
    simp only [FallbackKeepsLock, Classical.not_imp, not_not] at hkeeps
    obtain ⟨rfl, hlocked, hholds⟩ := hkeeps
    refine ⟨[], by simp, fun h => ?_⟩
    refine h.1 ⟨k, s.now + ttlSeconds * 1000, .memory⟩ ?_ rfl (holds_iff.mpr (.inr hholds))
    simp [State.fallback, hlocked, State.finish, State.grant, State.fallbackPut]
  | get k => exact absurd trivial hkeeps
  | del k => exact absurd trivial hkeeps
  | incr k => exact absurd trivial hkeeps
  | incrGet k => exact absurd trivial hkeeps
  | expire k seconds => exact absurd trivial hkeeps

/-- After a step that does not keep the lock, it can be granted again. -/
lemma exists_not_grantsOnce {action : Action} (h : LockInvariant key s)
    (hspares : action.SparesLock key) (hstep : step s action = some t)
    (hkeeps : ¬ KeepsLock key s action t) :
    ∃ rest, (∀ a ∈ rest, Action.SparesLock key a) ∧
      ¬ AllSteps step (GrantsOnce key) s (action :: rest) := by
  have hnext {rest : List Action} (hrest : ∀ a ∈ rest, Action.SparesLock key a)
      (hnot : ¬ (GrantsOnce key s action t ∧ AllSteps step (GrantsOnce key) t rest)) :
      ∃ rest, (∀ a ∈ rest, Action.SparesLock key a) ∧
        ¬ AllSteps step (GrantsOnce key) s (action :: rest) :=
    ⟨rest, hrest, fun hall => hnot (hall t hstep)⟩
  cases action with
  | tick ms => exact absurd trivial hkeeps
  | connect => exact absurd trivial hkeeps
  | error => exact absurd trivial hkeeps
  | cleanup => exact absurd trivial hkeeps
  | call call command =>
    simp only [KeepsLock, Classical.not_imp] at hkeeps
    simp only [step] at hstep
    split_ifs at hstep
    cases hstep
    simp only [State.start, hkeeps.1, Bool.false_eq_true, if_false] at hnext
    obtain ⟨rest, hrest, hnot⟩ :=
      exists_not_grantsOnce_of_fallback hspares hkeeps.2 call (.call call command)
    exact hnext hrest hnot
  | reply call =>
    simp only [KeepsLock, not_forall] at hkeeps
    obtain ⟨command, hsent, hreply⟩ := hkeeps
    simp only [step, hsent] at hstep
    obtain ⟨executed, hexecute, rfl⟩ := Option.map_eq_some_iff.mp hstep
    obtain ⟨redis, rfl⟩ := eq_of_execute hexecute
    cases command with
    | acquireIdempotencyKey k ttlSeconds =>
      simp only [ReplyKeepsLock, Classical.not_imp, not_not] at hreply
      obtain ⟨rfl, habsent, hholds⟩ := hreply
      have hnil : ∀ a ∈ ([] : List Action), Action.SparesLock k a := by simp
      refine hnext hnil fun hnot => ?_
      refine hnot.1 ⟨k, s.now + ttlSeconds * 1000, .redis⟩ ?_ rfl (holds_iff.mpr (.inl hholds))
      simp [State.reply, habsent, State.finish, State.grant]
    | get k => exact absurd trivial hreply
    | set k ttlSeconds => exact absurd trivial hreply
    | del k => exact absurd trivial hreply
    | incr k => exact absurd trivial hreply
    | incrGet k => exact absurd trivial hreply
    | expire k seconds => exact absurd trivial hreply
  | fail call executed =>
    simp only [KeepsLock, not_forall] at hkeeps
    obtain ⟨command, hsent, hfallback⟩ := hkeeps
    have hcommand : command.SparesLock key := h.spares call _ hsent
    simp only [step, hsent] at hstep
    split_ifs at hstep
    · obtain ⟨executed, hexecute, rfl⟩ := Option.map_eq_some_iff.mp hstep
      obtain ⟨redis, rfl⟩ := eq_of_execute hexecute
      have hfallback' : ¬ FallbackKeepsLock key { s with redis } command := by
        cases command <;> exact hfallback
      obtain ⟨rest, hrest, hnot⟩ :=
        exists_not_grantsOnce_of_fallback hcommand hfallback' call (.fail call true)
      exact hnext hrest hnot
    · cases hstep
      obtain ⟨rest, hrest, hnot⟩ :=
        exists_not_grantsOnce_of_fallback hcommand hfallback call (.fail call false)
      exact hnext hrest hnot
  | resume call =>
    simp only [KeepsLock, Classical.not_imp, not_forall] at hkeeps
    obtain ⟨k, hincremented, hconnected, hfallback⟩ := hkeeps
    have hset : (Command.set k 60).SparesLock key := h.spares call _ hincremented
    simp only [step, hincremented] at hstep
    cases hstep
    simp only [State.start, hconnected, Bool.false_eq_true, if_false] at hnext
    obtain ⟨rest, hrest, hnot⟩ :=
      exists_not_grantsOnce_of_fallback hset (by simpa using hfallback) call (.resume call)
    exact hnext hrest hnot

/-- A lock is granted only while none on its key is held, along a run that writes to other keys and
whose steps keep the lock where it is looked for; and after a step that does not keep it there, it can
be granted again while it is held. -/
theorem grantsOnce_of_keepsLock (key : String) (start : ℕ) (actions : List Action)
    (hspares : ∀ action ∈ actions, action.SparesLock key) :
    (AllSteps step (KeepsLock key) (.initial start) actions →
      AllSteps step (GrantsOnce key) (.initial start) actions) ∧
    ∀ pre action post s t, actions = pre ++ action :: post →
      AllSteps step (KeepsLock key) (.initial start) pre → Run step (.initial start) pre s →
      step s action = some t → ¬ KeepsLock key s action t →
      ∃ rest, (∀ a ∈ rest, Action.SparesLock key a) ∧
        ¬ AllSteps step (GrantsOnce key) s (action :: rest) := by
  have hinitial : LockInvariant key (.initial start) :=
    ⟨fun g hg => absurd hg List.not_mem_nil, fun call w hw => by simp [State.initial] at hw⟩
  constructor
  · intro hkeeps
    refine AllSteps.of_invariant (I := LockInvariant key)
      (P := fun s a t => KeepsLock key s a t ∧ Action.SparesLock key a) ?_ ?_ hinitial
      (hkeeps.and (allSteps_of_forall_mem hspares))
    · rintro s a t hI hstep ⟨hkeep, hspare⟩
      exact (lockInvariant_step hI hspare hstep hkeep).1
    · rintro s a t hI hstep ⟨hkeep, hspare⟩
      exact (lockInvariant_step hI hspare hstep hkeep).2
  · rintro pre action post s t rfl hkeeps hrun hstep hnot
    have hs : LockInvariant key s := by
      refine hrun.invariant_of_allSteps (I := LockInvariant key) ?_
        (hkeeps.and (allSteps_of_forall_mem fun a ha => hspares a (List.mem_append_left _ ha)))
        hinitial
      rintro s a t hI hstep ⟨hkeep, hspare⟩
      exact (lockInvariant_step hI hspare hstep hkeep).1
    exact exists_not_grantsOnce hs (hspares action (by simp)) hstep hnot

/-- Redis goes away between two acquisitions. -/
def outage : List Action :=
  [.connect, .call 0 (.acquireIdempotencyKey "pay_1" 86400), .reply 0, .error,
    .call 1 (.acquireIdempotencyKey "pay_1" 86400)]

lemma outage_sparesLock : ∀ action ∈ outage, action.SparesLock "pay_1" := by
  simp [outage, Action.SparesLock, Command.SparesLock]

theorem grantsOnce_of_keepsLock_outage :
    (AllSteps step (KeepsLock "pay_1") (.initial 0) outage →
      AllSteps step (GrantsOnce "pay_1") (.initial 0) outage) ∧
    ∀ pre action post s t, outage = pre ++ action :: post →
      AllSteps step (KeepsLock "pay_1") (.initial 0) pre → Run step (.initial 0) pre s →
      step s action = some t → ¬ KeepsLock "pay_1" s action t →
      ∃ rest, (∀ a ∈ rest, Action.SparesLock "pay_1" a) ∧
        ¬ AllSteps step (GrantsOnce "pay_1") s (action :: rest) :=
  grantsOnce_of_keepsLock "pay_1" 0 outage outage_sparesLock

/-- The second acquisition is granted in the fallback store while the lock is held in Redis. -/
theorem grants_twice_over_outage : ¬ AllSteps step (GrantsOnce "pay_1") (.initial 0) outage := by
  intro hall
  obtain ⟨s, hrun, hs⟩ := exists_run_of_execute step (.initial 0) (outage.take 4)
    (fun s => s.Holds "pay_1" ∧ s.isLockedInMemory "pay_1" = false ∧ s.isRedisConnected = false ∧
      s.waiting 1 = none) (by decide)
  simp only [decide_eq_true_eq] at hs
  obtain ⟨hholds, hunlocked, hconnected, hwaiting⟩ := hs
  have hcall : step s (.call 1 (.acquireIdempotencyKey "pay_1" 86400)) =
      some (s.start 1 (.acquireIdempotencyKey "pay_1" 86400)) := by
    simp [step, hwaiting]
  refine hall.at_step hrun hcall ⟨"pay_1", s.now + 86400 * 1000, .memory⟩ ?_ rfl hholds
  simp only [State.start, hconnected, State.fallback, hunlocked, Bool.false_eq_true, if_false]
  rfl

end CacheManager

end CtrlRecovery
