import CtrlRecovery.Core.Run
import CtrlRecovery.Security.KeyIssuance

/-!
# Revoking API keys

A key lives in the local table and in the remote store. `revokeApiKey` marks the local row by its key
id or its id, and the remote record by its id only, while `authenticateKey` and `listApiKeys` write
rows without a revocation whenever they miss a local one. A key that was revoked by its key id is
therefore accepted again once the local table is lost. When every revocation names the record id of
its key and reaches the remote store, revoked keys stay refused (`staysRevoked_of_revokesById`).
-/

namespace CtrlRecovery

open Core

namespace ApiKeyService

/-! ### The operations on the two stores -/

/-- `INSERT OR REPLACE INTO api_keys`. The normalized text has no conflict clause on PostgreSQL, where
a conflict makes it fail. -/
def insertOrReplace (engine : DbEngine) (apiKeys : ApiKeyTable) (row : ApiKeyRecord) :
    ApiKeyTable :=
  match engine with
  | .sqlite     => apiKeys.replace row fun record => record.keyId = row.keyId
  | .postgreSQL =>
    if apiKeys.rows.any fun record => record.keyId = row.keyId || record.id = row.id then apiKeys
    else apiKeys.replace row fun _ => false

/-- The table after `authenticateKey` on a key with a secret. `inserts` says whether the insert of a
hydrated row satisfies the foreign key. -/
def hydrateKey (platform : Platform) (engine : DbEngine) (apiKeys : ApiKeyTable)
    (store : SupabaseStore.KeyTable) (reachable inserts : Bool) (keyId rawSecret : String) :
    ApiKeyTable :=
  if apiKeys.rows.any fun record => record.keyId = keyId then apiKeys
  else
    match SupabaseStore.fetchApiKeyByHash store reachable (platform.sha256 rawSecret) with
    | none        => apiKeys
    | some record => if inserts then insertOrReplace engine apiKeys (insertedRow record keyId) else apiKeys

/-- The table after `authenticateKey`. -/
def tableAfterAuthenticate (platform : Platform) (engine : DbEngine) (apiKeys : ApiKeyTable)
    (store : SupabaseStore.KeyTable) (reachable inserts : Bool) (rawKey : String) : ApiKeyTable :=
  match (rawSecret? rawKey).filter fun _ =>
    KEY_PREFIXES.any fun start => Js.startsWith rawKey start with
  | none           => apiKeys
  | some rawSecret =>
    hydrateKey platform engine apiKeys store reachable inserts (keyIdOf rawKey) rawSecret

/-- The table after `listApiKeys`: a tenant without a row gets one for each of its remote keys. -/
def tableAfterList (engine : DbEngine) (apiKeys : ApiKeyTable) (store : SupabaseStore.KeyTable)
    (reachable inserts : Bool) (tenantId : String) : ApiKeyTable :=
  if (apiKeys.rows.any fun record => record.tenantId = tenantId) || !inserts then apiKeys
  else
    (SupabaseStore.listApiKeys store reachable tenantId).foldl
      (fun table record => insertOrReplace engine table (insertedRow record (Js.firstChars 12 record.id)))
      apiKeys

/-- The rows that `revokeApiKey` marks. -/
def isRevocable (tenantId keyIdentifier : String) (record : ApiKeyRecord) : Bool :=
  record.tenantId = tenantId && (record.keyId = keyIdentifier || record.id = keyIdentifier) &&
    record.revokedAt.isNone

def markRevoked (apiKeys : ApiKeyTable) (tenantId keyIdentifier : String) (now : Timestamp) :
    ApiKeyTable :=
  apiKeys.updateWhere (isRevocable tenantId keyIdentifier)
    (fun record => { record with revokedAt := some now }) fun _ => rfl

/-- What `revokeApiKey` returns. -/
def revokes (apiKeys : ApiKeyTable) (tenantId keyIdentifier : String) : Bool :=
  apiKeys.rows.any (isRevocable tenantId keyIdentifier)

/-! ### Runs -/

/-- A key that `createApiKey` has returned. -/
structure IssuedKey where
  tenantId : String
  environment : Environment
  material : KeyMaterial
  createdAt : Timestamp

namespace IssuedKey

def id (key : IssuedKey) : String := apiKeyId key.material key.createdAt

def keyId (key : IssuedKey) : String := key.material.keyId.text

def rawKey (key : IssuedKey) : String := rawKeyOf key.environment key.material

def secretHash (platform : Platform) (key : IssuedKey) : String :=
  platform.sha256 key.material.rawSecret.text

/-- The identifiers that `revokeApiKey` takes for the key. -/
def isNamed (key : IssuedKey) (tenantId keyIdentifier : String) : Bool :=
  key.tenantId = tenantId && (key.keyId = keyIdentifier || key.id = keyIdentifier)

end IssuedKey

/-- The two stores, with the keys that were issued and those for which `revokeApiKey` has returned
true. -/
structure KeyState where
  apiKeys : ApiKeyTable
  store : SupabaseStore.KeyTable
  issued : List IssuedKey
  revoked : List IssuedKey

def KeyState.initial : KeyState := ⟨.empty, .empty, [], []⟩

/-- A call of the service, with whether it reaches the remote store; or the loss of the table. -/
inductive KeyCall
  | create (reachable : Bool) (params : CreateKeyParams) (material : KeyMaterial) (now : Timestamp)
  | revoke (reachable : Bool) (tenantId keyIdentifier : String) (now : Timestamp)
  | authenticate (reachable inserts : Bool) (rawKey : String) (requiredScope : Option ApiKeyScope)
      (now : Timestamp)
  | list (reachable inserts : Bool) (tenantId : String)
  | loseTable

/-- Random bytes are not drawn twice: no secret has the hash of an earlier one. -/
def KeyState.Fresh (platform : Platform) (s : KeyState) (material : KeyMaterial) : Prop :=
  ∀ key ∈ s.issued, key.secretHash platform ≠ platform.sha256 material.rawSecret.text

instance (platform : Platform) (s : KeyState) (material : KeyMaterial) :
    Decidable (s.Fresh platform material) :=
  inferInstanceAs (Decidable (∀ _ ∈ _, _))

def keyStep (platform : Platform) (engine : DbEngine) (s : KeyState) : KeyCall → Option KeyState
  | .create reachable params material now =>
    if s.Fresh platform material then
      match createApiKey platform s.apiKeys s.store reachable params material now with
      | .error _                  => some s
      | .ok (_, apiKeys, store) =>
        some { s with
          apiKeys, store
          issued := ⟨params.tenantId, params.environment, material, now⟩ :: s.issued }
    else none
  | .revoke reachable tenantId keyIdentifier now =>
    some
      { apiKeys := markRevoked s.apiKeys tenantId keyIdentifier now
        store := SupabaseStore.revokeApiKey s.store reachable tenantId keyIdentifier
        issued := s.issued
        revoked :=
          if revokes s.apiKeys tenantId keyIdentifier then
            (s.issued.filter fun key => key.isNamed tenantId keyIdentifier) ++ s.revoked
          else s.revoked }
  | .authenticate reachable inserts rawKey _ _ =>
    some { s with
      apiKeys :=
        tableAfterAuthenticate platform engine s.apiKeys s.store reachable inserts rawKey }
  | .list reachable inserts tenantId =>
    some { s with apiKeys := tableAfterList engine s.apiKeys s.store reachable inserts tenantId }
  | .loseTable => some { s with apiKeys := .empty }

/-- A revoked key is not valid. -/
def StaysRevoked (platform : Platform) (engine : DbEngine) (env : ProcessEnv) (s : KeyState)
    (call : KeyCall) (_ : KeyState) : Prop :=
  match call with
  | .authenticate reachable _ rawKey requiredScope now =>
    ∀ key ∈ s.revoked, key.rawKey = rawKey →
      ∀ auth ∈ authenticateKey platform engine env s.apiKeys s.store reachable rawKey requiredScope
        now, auth.valid = false
  | _ => True

/-- A revocation that returns true names the records of its keys, and reaches the remote store. -/
def RevokesById (s : KeyState) (call : KeyCall) (_ : KeyState) : Prop :=
  match call with
  | .revoke reachable tenantId keyIdentifier _ =>
    revokes s.apiKeys tenantId keyIdentifier = true →
      ∀ key ∈ s.issued, key.isNamed tenantId keyIdentifier = true →
        key.id = keyIdentifier ∧ reachable = true
  | _ => True

instance (s t : KeyState) (call : KeyCall) : Decidable (RevokesById s call t) :=
  match call with
  | .revoke _ _ _ _           => inferInstanceAs (Decidable (_ → ∀ _ ∈ _, _ → _))
  | .create _ _ _ _           => isTrue trivial
  | .authenticate _ _ _ _ _   => isTrue trivial
  | .list _ _ _               => isTrue trivial
  | .loseTable                => isTrue trivial

/-! ### The rows that the operations write -/

variable {platform : Platform} {engine : DbEngine} {env : ProcessEnv} {apiKeys : ApiKeyTable}
  {store : SupabaseStore.KeyTable} {reachable inserts : Bool} {row : ApiKeyRecord}
  {tenantId keyIdentifier : String} {now : Timestamp}

lemma mem_insertOrReplace {new : ApiKeyRecord}
    (h : row ∈ (insertOrReplace engine apiKeys new).rows) : row = new ∨ row ∈ apiKeys.rows := by
  cases engine with
  | sqlite => exact (Table.mem_replace.mp h).imp_right And.left
  | postgreSQL =>
    rw [insertOrReplace] at h
    split_ifs at h
    · exact .inr h
    · exact (Table.mem_replace.mp h).imp_right And.left

lemma mem_of_fetch {keyHash : String} {record : SupabaseApiKeyRecord}
    (h : SupabaseStore.fetchApiKeyByHash store reachable keyHash = some record) :
    record ∈ store.rows ∧ record.status = .active := by
  rw [SupabaseStore.fetchApiKeyByHash] at h
  split_ifs at h
  have hfound := List.find?_some h
  simp only [Bool.and_eq_true, decide_eq_true_eq] at hfound
  exact ⟨List.mem_of_find?_eq_some h, hfound.2⟩

/-- `authenticateKey` writes a row for an active remote key. -/
lemma mem_tableAfterAuthenticate {rawKey : String}
    (h : row ∈ (tableAfterAuthenticate platform engine apiKeys store reachable inserts rawKey).rows) :
    row ∈ apiKeys.rows ∨
      ∃ record ∈ store.rows, record.status = .active ∧ ∃ keyId, row = insertedRow record keyId := by
  rw [tableAfterAuthenticate] at h
  split at h
  · exact .inl h
  next rawSecret _ =>
    rw [hydrateKey] at h
    cases hfetch : SupabaseStore.fetchApiKeyByHash store reachable (platform.sha256 rawSecret) with
    | none =>
      rw [hfetch, ite_self] at h
      exact .inl h
    | some record =>
      rw [hfetch] at h
      split_ifs at h
      · exact .inl h
      · rcases mem_insertOrReplace h with rfl | h
        · obtain ⟨hmem, hactive⟩ := mem_of_fetch hfetch
          exact .inr ⟨record, hmem, hactive, _, rfl⟩
        · exact .inl h
      · exact .inl h

/-- `listApiKeys` writes rows for remote keys, active or not, under the beginning of their ids. -/
lemma mem_tableAfterList
    (h : row ∈ (tableAfterList engine apiKeys store reachable inserts tenantId).rows) :
    row ∈ apiKeys.rows ∨
      ∃ record ∈ store.rows, row = insertedRow record (Js.firstChars 12 record.id) := by
  have hfold : ∀ (records : List SupabaseApiKeyRecord) (table : ApiKeyTable),
      row ∈ (records.foldl (fun table record =>
        insertOrReplace engine table (insertedRow record (Js.firstChars 12 record.id))) table).rows →
      row ∈ table.rows ∨
        ∃ record ∈ records, row = insertedRow record (Js.firstChars 12 record.id) := by
    intro records
    induction records with
    | nil => exact fun table h => .inl h
    | cons record records ih =>
      intro table h
      rcases ih _ h with h | ⟨record', hmem, hrow⟩
      · rcases mem_insertOrReplace h with hrow | h
        · exact .inr ⟨record, List.mem_cons_self, hrow⟩
        · exact .inl h
      · exact .inr ⟨record', List.mem_cons_of_mem _ hmem, hrow⟩
  rw [tableAfterList] at h
  split_ifs at h
  · exact .inl h
  · rcases hfold _ _ h with h | ⟨record, hmem, hrow⟩
    · exact .inl h
    · rw [SupabaseStore.listApiKeys] at hmem
      split_ifs at hmem
      · exact .inr ⟨record, List.mem_of_mem_filter hmem, hrow⟩
      · cases hmem

/-- `createApiKey` writes the rows of the new key. -/
lemma mem_createApiKey {params : CreateKeyParams} {material : KeyMaterial} {key : CreatedKey}
    {apiKeys' : ApiKeyTable} {store' : SupabaseStore.KeyTable}
    (h : createApiKey platform apiKeys store reachable params material now =
      .ok (key, apiKeys', store')) :
    (∀ row ∈ apiKeys'.rows,
      row ∈ apiKeys.rows ∨ row = apiKeyRow platform params material now) ∧
    ∀ record ∈ store'.rows,
      record ∈ store.rows ∨ record = remoteRow platform params material now := by
  rw [createApiKey] at h
  split at h
  · cases h
  · split at h
    · cases h
    next inserted hinsert =>
      cases h
      refine ⟨?_, ?_⟩
      · intro row hrow
        rw [insertKey] at hinsert
        split_ifs at hinsert
        split at hinsert
        · cases hinsert
        next hinserted =>
          cases hinsert
          rw [Table.rows_of_insert? hinserted, List.mem_append, List.mem_singleton] at hrow
          exact hrow
      · intro record hrecord
        rw [SupabaseStore.saveApiKey] at hrecord
        split_ifs at hrecord
        · rcases Table.mem_put.mp hrecord with rfl | ⟨hmem, -⟩
          · exact .inr rfl
          · exact .inl hmem
        · exact .inl hrecord

lemma mem_markRevoked (h : row ∈ (markRevoked apiKeys tenantId keyIdentifier now).rows) :
    ∃ old ∈ apiKeys.rows, row.id = old.id ∧ row.tenantId = old.tenantId ∧
      row.keyId = old.keyId ∧ row.secretHash = old.secretHash ∧
      (row.revokedAt = none → old.revokedAt = none ∧
        isRevocable tenantId keyIdentifier old = false) := by
  obtain ⟨old, hmem, rfl⟩ := Table.mem_updateWhere.mp h
  refine ⟨old, hmem, ?_⟩
  split_ifs with hrevocable
  · simp
  · rw [Bool.not_eq_true] at hrevocable
    exact ⟨rfl, rfl, rfl, rfl, fun hnone => ⟨hnone, hrevocable⟩⟩

/-- A remote record that is still active after a revocation was not the one of its id. -/
lemma mem_revokeApiKey {record : SupabaseApiKeyRecord}
    (h : record ∈ (SupabaseStore.revokeApiKey store reachable tenantId keyIdentifier).rows) :
    ∃ old ∈ store.rows, record.id = old.id ∧ record.tenantId = old.tenantId ∧
      record.keyHash = old.keyHash ∧
      (record.status = .active → old.status = .active ∧
        ¬ (reachable = true ∧ old.tenantId = tenantId ∧ old.id = keyIdentifier)) := by
  rw [SupabaseStore.revokeApiKey] at h
  split_ifs at h with hreachable
  · obtain ⟨old, hmem, rfl⟩ := Table.mem_updateWhere.mp h
    refine ⟨old, hmem, ?_⟩
    split_ifs with hnamed
    · simp
    · simp_all
  · exact ⟨record, h, rfl, rfl, rfl, fun hactive => ⟨hactive, fun hcall => hreachable hcall.1⟩⟩

/-! ### Revoked keys stay refused -/

/-- Every row is of an issued key, keys are told apart by the hashes of their secrets, and no row
under the key id of a revoked key, local or remote, lets it in. -/
structure KeyInvariant (platform : Platform) (s : KeyState) : Prop where
  localIssued : ∀ row ∈ s.apiKeys.rows, ∃ key ∈ s.issued,
    row.id = key.id ∧ row.tenantId = key.tenantId ∧ row.secretHash = key.secretHash platform
  remoteIssued : ∀ record ∈ s.store.rows, ∃ key ∈ s.issued,
    record.id = key.id ∧ record.tenantId = key.tenantId ∧
      record.keyHash = key.secretHash platform
  hashes : ∀ key ∈ s.issued, ∀ key' ∈ s.issued,
    key.secretHash platform = key'.secretHash platform →
      key.id = key'.id ∧ key.tenantId = key'.tenantId
  revokedIssued : s.revoked ⊆ s.issued
  localRevoked : ∀ key ∈ s.revoked, ∀ row ∈ s.apiKeys.rows, row.keyId = key.keyId →
    row.secretHash = key.secretHash platform → row.revokedAt ≠ none
  remoteRevoked : ∀ key ∈ s.revoked, ∀ record ∈ s.store.rows,
    record.keyHash = key.secretHash platform → record.status ≠ .active

variable {s t : KeyState}

lemma KeyInvariant.initial : KeyInvariant platform .initial where
  localIssued := nofun
  remoteIssued := nofun
  hashes := nofun
  revokedIssued := nofun
  localRevoked := nofun
  remoteRevoked := nofun

/-- Rows may be lost, and made again of remote records: of active ones, or under a key id that no key
has. -/
lemma KeyInvariant.rehydrate (h : KeyInvariant platform s) {apiKeys : ApiKeyTable}
    (hrows : ∀ row ∈ apiKeys.rows, row ∈ s.apiKeys.rows ∨
      ∃ record ∈ s.store.rows, ∃ keyId, row = insertedRow record keyId ∧
        (record.status = .active ∨ keyId = Js.firstChars 12 record.id)) :
    KeyInvariant platform { s with apiKeys } where
  localIssued row hrow := by
    rcases hrows row hrow with hrow | ⟨record, hrecord, keyId, rfl, -⟩
    · exact h.localIssued row hrow
    · exact h.remoteIssued record hrecord
  remoteIssued := h.remoteIssued
  hashes := h.hashes
  revokedIssued := h.revokedIssued
  localRevoked key hkey row hrow hkeyId hhash := by
    rcases hrows row hrow with hrow | ⟨record, hrecord, keyId, rfl, hactive | rfl⟩
    · exact h.localRevoked key hkey row hrow hkeyId hhash
    · exact absurd hactive (h.remoteRevoked key hkey record hrecord hhash)
    · -- the beginning of an id is not hexadecimal
      obtain ⟨owner, -, hid, -⟩ := h.remoteIssued record hrecord
      refine absurd hkeyId.symm ?_
      simp only [insertedRow, hydrate, hid]
      exact keyId_ne_idPrefix _ _ _
  remoteRevoked := h.remoteRevoked

lemma KeyInvariant.create (h : KeyInvariant platform s) {params : CreateKeyParams}
    {material : KeyMaterial} (hfresh : s.Fresh platform material) {apiKeys : ApiKeyTable}
    {store : SupabaseStore.KeyTable}
    (hlocal : ∀ row ∈ apiKeys.rows,
      row ∈ s.apiKeys.rows ∨ row = apiKeyRow platform params material now)
    (hremote : ∀ record ∈ store.rows,
      record ∈ s.store.rows ∨ record = remoteRow platform params material now) :
    KeyInvariant platform { s with
      apiKeys, store
      issued := ⟨params.tenantId, params.environment, material, now⟩ :: s.issued } where
  localIssued row hrow := by
    rcases hlocal row hrow with hrow | rfl
    · obtain ⟨key, hkey, hrow⟩ := h.localIssued row hrow
      exact ⟨key, List.mem_cons_of_mem _ hkey, hrow⟩
    · exact ⟨_, List.mem_cons_self, rfl, rfl, rfl⟩
  remoteIssued record hrecord := by
    rcases hremote record hrecord with hrecord | rfl
    · obtain ⟨key, hkey, hrecord⟩ := h.remoteIssued record hrecord
      exact ⟨key, List.mem_cons_of_mem _ hkey, hrecord⟩
    · exact ⟨_, List.mem_cons_self, rfl, rfl, rfl⟩
  hashes key hkey key' hkey' heq := by
    rcases List.mem_cons.mp hkey with rfl | hkey
    · rcases List.mem_cons.mp hkey' with rfl | hkey'
      · exact ⟨rfl, rfl⟩
      · exact absurd heq.symm (hfresh key' hkey')
    · rcases List.mem_cons.mp hkey' with rfl | hkey'
      · exact absurd heq (hfresh key hkey)
      · exact h.hashes key hkey key' hkey' heq
  revokedIssued := List.subset_cons_of_subset _ h.revokedIssued
  localRevoked key hkey row hrow hkeyId hhash := by
    rcases hlocal row hrow with hrow | rfl
    · exact h.localRevoked key hkey row hrow hkeyId hhash
    · exact absurd hhash.symm (hfresh key (h.revokedIssued hkey))
  remoteRevoked key hkey record hrecord hhash := by
    rcases hremote record hrecord with hrecord | rfl
    · exact h.remoteRevoked key hkey record hrecord hhash
    · exact absurd hhash.symm (hfresh key (h.revokedIssued hkey))

/-- A revocation marks the rows of the keys that it revokes, wherever they are. -/
lemma KeyInvariant.revoke (h : KeyInvariant platform s) {revoked : List IssuedKey}
    (hrevoked : ∀ key ∈ revoked, key ∈ s.revoked ∨
      (key ∈ s.issued ∧ key.tenantId = tenantId ∧ key.id = keyIdentifier ∧ reachable = true)) :
    KeyInvariant platform
      { apiKeys := markRevoked s.apiKeys tenantId keyIdentifier now
        store := SupabaseStore.revokeApiKey s.store reachable tenantId keyIdentifier
        issued := s.issued
        revoked } where
  localIssued row hrow := by
    obtain ⟨old, hold, hid, htenant, -, hhash, -⟩ := mem_markRevoked hrow
    rw [hid, htenant, hhash]
    exact h.localIssued old hold
  remoteIssued record hrecord := by
    obtain ⟨old, hold, hid, htenant, hhash, -⟩ := mem_revokeApiKey hrecord
    rw [hid, htenant, hhash]
    exact h.remoteIssued old hold
  hashes := h.hashes
  revokedIssued key hkey := by
    rcases hrevoked key hkey with hkey | ⟨hissued, -⟩
    · exact h.revokedIssued hkey
    · exact hissued
  localRevoked key hkey row hrow hkeyId hhash := by
    obtain ⟨old, hold, -, -, hkeyId', hhash', hunrevoked⟩ := mem_markRevoked hrow
    rw [hkeyId'] at hkeyId
    rw [hhash'] at hhash
    intro hnone
    obtain ⟨hnone, hnot⟩ := hunrevoked hnone
    rcases hrevoked key hkey with hkey | ⟨hissued, htenant, hid, -⟩
    · exact h.localRevoked key hkey old hold hkeyId hhash hnone
    · obtain ⟨owner, howner, hownerId, hownerTenant, hownerHash⟩ := h.localIssued old hold
      obtain ⟨hsameId, hsameTenant⟩ := h.hashes owner howner key hissued (hownerHash ▸ hhash)
      have hmarked : isRevocable tenantId keyIdentifier old = true := by
        simp [isRevocable, hnone, hownerId, hsameId, hid, hownerTenant, hsameTenant, htenant]
      rw [hmarked] at hnot
      cases hnot
  remoteRevoked key hkey record hrecord hhash := by
    obtain ⟨old, hold, -, -, hhash', hstill⟩ := mem_revokeApiKey hrecord
    rw [hhash'] at hhash
    intro hactive
    obtain ⟨hactive, hnot⟩ := hstill hactive
    rcases hrevoked key hkey with hkey | ⟨hissued, htenant, hid, hreachable⟩
    · exact h.remoteRevoked key hkey old hold hhash hactive
    · obtain ⟨owner, howner, hownerId, hownerTenant, hownerHash⟩ := h.remoteIssued old hold
      obtain ⟨hsameId, hsameTenant⟩ := h.hashes owner howner key hissued (hownerHash ▸ hhash)
      apply hnot
      refine ⟨hreachable, ?_, ?_⟩
      · rw [hownerTenant, hsameTenant, htenant]
      · rw [hownerId, hsameId, hid]

lemma keyInvariant_step {call : KeyCall} (h : KeyInvariant platform s)
    (hstep : keyStep platform engine s call = some t) (hcall : RevokesById s call t) :
    KeyInvariant platform t := by
  cases call with
  | create reachable params material now =>
    simp only [keyStep] at hstep
    split_ifs at hstep with hfresh
    split at hstep
    · cases hstep
      exact h
    next hcreate =>
      cases hstep
      obtain ⟨hlocal, hremote⟩ := mem_createApiKey hcreate
      exact h.create hfresh hlocal hremote
  | revoke reachable tenantId keyIdentifier now =>
    cases hstep
    apply h.revoke
    intro key hkey
    split_ifs at hkey with hreturns
    · rcases List.mem_append.mp hkey with hkey | hkey
      · obtain ⟨hissued, hnamed⟩ := List.mem_filter.mp hkey
        obtain ⟨hid, hreachable⟩ := hcall hreturns key hissued hnamed
        simp only [IssuedKey.isNamed, Bool.and_eq_true, decide_eq_true_eq] at hnamed
        exact .inr ⟨hissued, hnamed.1, hid, hreachable⟩
      · exact .inl hkey
    · exact .inl hkey
  | authenticate reachable inserts rawKey requiredScope now =>
    cases hstep
    apply h.rehydrate
    intro row hrow
    rcases mem_tableAfterAuthenticate hrow with hrow | ⟨record, hrecord, hactive, keyId, hhydrate⟩
    · exact .inl hrow
    · exact .inr ⟨record, hrecord, keyId, hhydrate, .inl hactive⟩
  | list reachable inserts tenantId =>
    cases hstep
    apply h.rehydrate
    intro row hrow
    rcases mem_tableAfterList hrow with hrow | ⟨record, hrecord, hhydrate⟩
    · exact .inl hrow
    · exact .inr ⟨record, hrecord, _, hhydrate, .inr rfl⟩
  | loseTable =>
    cases hstep
    exact h.rehydrate nofun

/-- Under the invariant, no row that a revoked key finds lets it in. -/
lemma staysRevoked_step {call : KeyCall} (h : KeyInvariant platform s) :
    StaysRevoked platform engine env s call t := by
  cases call with
  | authenticate reachable inserts rawKey requiredScope now =>
    rintro key hkey rfl auth hauth
    rw [← Bool.not_eq_true]
    intro hvalid
    have hsecret : rawSecret? key.rawKey = some key.material.rawSecret.text := rawSecret?_rawKey
    have hkeyId : keyIdOf key.rawKey = key.keyId := keyIdOf_rawKey
    have htext : (KEY_PREFIXES.any fun start => Js.startsWith key.rawKey start) = true :=
      isKeyText_rawKey
    have hdemo : keyIdOf key.rawKey ∉ ALLOWED_DEMO_KEY_IDS := hkeyId ▸ keyId_notMem_demo _
    rw [authenticateKey, htext, hsecret] at hauth
    obtain ⟨tenantId, haccepts⟩ := exists_acceptsFor_of_valid hauth hvalid
    obtain ⟨row, hlookup, hlive, hhash, -⟩ :=
      (acceptsFor_authenticateSecret_iff hdemo).mp ⟨auth, hauth, haccepts⟩
    rw [hkeyId] at hlookup
    rcases lookupSecret_eq_some hlookup with hfind | ⟨-, record, hfetch, -⟩
    · have hrow : row.keyId = key.keyId := by simpa using List.find?_some hfind
      exact h.localRevoked key hkey row (List.mem_of_find?_eq_some hfind) hrow hhash hlive.1
    · obtain ⟨hrecord, hactive⟩ := mem_of_fetch hfetch
      exact h.remoteRevoked key hkey record hrecord (keyHash_of_fetch hfetch) hactive
  | create => trivial
  | revoke => trivial
  | list => trivial
  | loseTable => trivial

/-- In every run in which the revocations name the records of their keys and reach the remote store,
a revoked key is never valid again. -/
theorem staysRevoked_of_revokesById {calls : List KeyCall}
    (h : AllSteps (keyStep platform engine) RevokesById .initial calls) :
    AllSteps (keyStep platform engine) (StaysRevoked platform engine env) .initial calls := by
  apply AllSteps.of_invariant (I := KeyInvariant platform) (P := RevokesById)
  · exact fun s call t hinv hstep hcall => keyInvariant_step hinv hstep hcall
  · exact fun s call t hinv _ _ => staysRevoked_step hinv
  · exact .initial
  · exact h

/-- A key is created, revoked by the identifier, and presented after the table was lost. -/
def lossAfterRevocation (keyIdentifier : String) : List KeyCall :=
  [.create true .sample .sample 0, .revoke true "tenant_a" keyIdentifier 1, .loseTable,
    .authenticate true true (rawKeyOf .live .sample) none 2]

theorem staysRevoked_lossAfterRevocation :
    AllSteps (keyStep .plain .sqlite) (StaysRevoked .plain .sqlite .production) .initial
      (lossAfterRevocation (apiKeyId .sample 0)) :=
  staysRevoked_of_revokesById (by decide +kernel)

/-- The key was revoked by its key id, so that its remote record is still active. -/
theorem revoked_revives :
    ¬ ∀ platform engine env calls,
      AllSteps (keyStep platform engine) (StaysRevoked platform engine env) .initial calls := by
  intro h
  have hrun : Run (keyStep .plain .sqlite) .initial
      [.create true .sample .sample 0, .revoke true "tenant_a" KeyMaterial.sample.keyId.text 1,
        .loseTable] _ :=
    run_iff_execute.mpr rfl
  have hrefused := (h .plain .sqlite .production
    (lossAfterRevocation KeyMaterial.sample.keyId.text)).at_step hrun rfl
  cases hrefused _ List.mem_cons_self rfl _ rfl

end ApiKeyService

end CtrlRecovery
