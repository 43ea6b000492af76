import CtrlRecovery.Core.Like
import CtrlRecovery.Core.Table
import CtrlRecovery.Js
import CtrlRecovery.Platform

/-!
# API keys

`createApiKey` stores the hash of a secret under a key id. `authenticateKey` takes two kinds of
texts. A publishable key is a key id without a secret; it is looked up by `LIKE`, so that the start of
a key id is enough. A key with a secret is looked up by its key id, and failing that in the remote
store by the hash of the secret alone, whatever key id is presented. When the key that is accepted is
the one that the text names is `authenticateKey_names_iff`.
-/

namespace CtrlRecovery

open Core

inductive ApiKeyScope
  | eventsWrite | eventsRead | paymentsRead | recoveriesRead
  | analyticsRead | agentRead | integrationsRead | integrationsWrite
  deriving DecidableEq, Repr

/-- The text of a scope, as keys hold it. -/
def ApiKeyScope.text : ApiKeyScope → String
  | .eventsWrite       => "events:write"
  | .eventsRead        => "events:read"
  | .paymentsRead      => "payments:read"
  | .recoveriesRead    => "recoveries:read"
  | .analyticsRead     => "analytics:read"
  | .agentRead         => "agent:read"
  | .integrationsRead  => "integrations:read"
  | .integrationsWrite => "integrations:write"

def VALID_API_KEY_SCOPES : List ApiKeyScope :=
  [.eventsWrite, .eventsRead, .paymentsRead, .recoveriesRead, .analyticsRead, .agentRead,
    .integrationsRead, .integrationsWrite]

def ALLOWED_DEMO_KEY_IDS : List String := ["live_key_demo", "test_live_key_demo", "demo_merchant"]

/-! ### Scopes -/

/-- An element of a list of scopes: a text, or another value, by the text that `join` gives for it. -/
inductive ScopeElement
  | text (s : String)
  | other (joined : String)
  deriving DecidableEq, Repr

def ScopeElement.joined : ScopeElement → String
  | .text s       => s
  | .other joined => joined

/-- What the text of a `scopes` column parses to: a list, a text, `null` or another value. -/
inductive KeyScopes
  | list (elements : List ScopeElement)
  | text (s : String)
  | null
  | other
  deriving DecidableEq, Repr

namespace KeyScopes

def ofTexts (scopes : List String) : KeyScopes := .list (scopes.map .text)

/-- `scopes.includes(scope)`: the elements of a list, the fragments of a text. Other values have no
`includes`, so that the call throws. -/
def includes? (scopes : KeyScopes) (scope : String) : Option Bool :=
  match scopes with
  | .list elements => some (.text scope ∈ elements)
  | .text s        => some (Js.includes s scope)
  | .null | .other => none

/-- `${scopes?.join(', ')}`; a text has no `join`. -/
def join? : KeyScopes → Option String
  | .list elements  => some (", ".intercalate (elements.map ScopeElement.joined))
  | .null           => some "undefined"
  | .text _ | .other => none

/-- The value is asked for the scope and has it. -/
def Has (scopes : KeyScopes) (scope : String) : Prop := scopes.includes? scope = some true

instance (scopes : KeyScopes) (scope : String) : Decidable (scopes.Has scope) :=
  inferInstanceAs (Decidable (_ = _))

@[simp] lemma has_ofTexts {scopes : List String} {scope : String} :
    (ofTexts scopes).Has scope ↔ scope ∈ scopes := by
  simp [ofTexts, Has, includes?]

end KeyScopes

/-- The scopes of a remote record: a list, or from a column of texts a text, with what it parses to. -/
inductive RemoteScopes
  | list (elements : List ScopeElement)
  | text (s : String) (parsed : Option KeyScopes)
  deriving DecidableEq, Repr

/-- What `authenticateKey` makes of them. -/
def RemoteScopes.read? : RemoteScopes → Option KeyScopes
  | .list elements => some (.list elements)
  | .text _ parsed => parsed

/-- What a local row parses to that `JSON.stringify` of them is written to. -/
def RemoteScopes.written : RemoteScopes → KeyScopes
  | .list elements => .list elements
  | .text s _      => .text s

/-! ### Records -/

/-- A row of `api_keys`. The scopes are `none` where their text does not parse. -/
structure ApiKeyRecord where
  id : String
  tenantId : String
  name : String
  keyPrefix : String
  keyId : String
  secretHash : String
  environment : Environment
  scopes : Option KeyScopes
  createdAt : Timestamp
  expiresAt : Option Timestamp
  revokedAt : Option Timestamp
  deriving DecidableEq, Repr

/-- Neither revoked nor expired. -/
def ApiKeyRecord.IsLive (record : ApiKeyRecord) (now : Timestamp) : Prop :=
  record.revokedAt = none ∧ ∀ expiresAt ∈ record.expiresAt, now ≤ expiresAt

instance (record : ApiKeyRecord) (now : Timestamp) : Decidable (record.IsLive now) :=
  inferInstanceAs (Decidable (_ ∧ _))

/-- The table `api_keys`. -/
abbrev ApiKeyTable := Table ApiKeyRecord.id

/-! ### The remote store -/

inductive SupabaseKeyStatus | active | revoked
  deriving DecidableEq, Repr

/-- A key in the remote store, which holds no key id. -/
structure SupabaseApiKeyRecord where
  id : String
  tenantId : String
  name : String
  keyPrefix : String
  keyHash : String
  scopes : RemoteScopes
  status : SupabaseKeyStatus
  createdAt : Timestamp
  expiresAt : Option Timestamp
  deriving DecidableEq, Repr

namespace SupabaseStore

abbrev KeyTable := Table SupabaseApiKeyRecord.id

def fetchApiKeyByHash (store : KeyTable) (reachable : Bool) (keyHash : String) :
    Option SupabaseApiKeyRecord :=
  if reachable then
    store.rows.find? fun record => record.keyHash = keyHash && record.status = .active
  else none

def listApiKeys (store : KeyTable) (reachable : Bool) (tenantId : String) :
    List SupabaseApiKeyRecord :=
  if reachable then store.rows.filter fun record => record.tenantId = tenantId else []

def saveApiKey (store : KeyTable) (reachable : Bool) (record : SupabaseApiKeyRecord) : KeyTable :=
  if reachable then store.put record else store

/-- Only the id of a record is compared with the key. -/
def revokeApiKey (store : KeyTable) (reachable : Bool) (tenantId keyId : String) : KeyTable :=
  if reachable then
    store.updateWhere (fun record => record.tenantId = tenantId && record.id = keyId)
      (fun record => { record with status := .revoked }) fun _ => rfl
  else store

end SupabaseStore

namespace ApiKeyService

/-! ### Texts of keys -/

/-- The prefixes that keys are accepted with: those of the program, and of its former name. -/
def KEY_PREFIXES : List String := ["ctrl_live_", "ctrl_test_", "ul_live_", "ul_test_"]

/-- `text.replace(/^(ctrl|ul)_(live|test)_/, '')`. -/
def stripPrefix (text : String) : String :=
  match KEY_PREFIXES.find? fun start => Js.startsWith text start with
  | some start => String.ofList (text.toList.drop start.length)
  | none       => text

/-- The text before the first dot. -/
def prefixAndId (rawKey : String) : String :=
  String.ofList (rawKey.toList.takeWhile (· ≠ '.'))

/-- The text after the first dot, if there is one. -/
def rawSecret? (rawKey : String) : Option String :=
  match rawKey.toList.dropWhile (· ≠ '.') with
  | []          => none
  | _ :: secret => some (String.ofList secret)

/-- The key id that a text presents. -/
def keyIdOf (rawKey : String) : String := stripPrefix (prefixAndId rawKey)

/-! ### Authentication -/

/-- What `authenticateKey` returns. -/
structure KeyAuth where
  valid : Bool
  tenantId : Option String
  environment : Option Environment
  scopes : Option KeyScopes
  errorReason : Option String
  deriving DecidableEq, Repr

namespace KeyAuth

def refused (errorReason : String) : KeyAuth := ⟨false, none, none, none, some errorReason⟩

/-- The last check: the scope that the caller requires; `none` where it throws. -/
def checkScope (requiredScope : Option ApiKeyScope) (tenantId : String)
    (environment : Environment) (scopes : KeyScopes) : Option KeyAuth :=
  match requiredScope with
  | none       => some ⟨true, some tenantId, some environment, some scopes, none⟩
  | some scope => do
    let included ← scopes.includes? scope.text
    let all ← scopes.includes? "*"
    if !included && !all then
      return ⟨false, some tenantId, some environment, some scopes,
        some ("Forbidden: API key lacks required scope '" ++ scope.text ++ "'")⟩
    else return ⟨true, some tenantId, some environment, some scopes, none⟩

end KeyAuth

/-- The scopes of a key include the one that the caller requires. -/
def Grants (requiredScope : Option ApiKeyScope) (scopes : KeyScopes) : Prop :=
  ∀ scope ∈ requiredScope, scopes.Has scope.text ∨ scopes.Has "*"

/-- The demo key, which has every scope. -/
def demoKey (requiredScope : Option ApiKeyScope) (rawKey : String) : Option KeyAuth :=
  KeyAuth.checkScope requiredScope "tenant_system_default"
    (if Js.includes rawKey "_live_" then .live else .test)
    (.ofTexts (VALID_API_KEY_SCOPES.map ApiKeyScope.text))

def isProduction (env : ProcessEnv) : Bool := env.nodeEnv = some "production"

/-- How `LIKE` compares on an engine. -/
def likeDialect : DbEngine → Like.Dialect
  | .sqlite     =>
    { fold := fun c => if 'A' ≤ c ∧ c ≤ 'Z' then Char.ofNat (c.toNat + 32) else c
      escape := none }
  | .postgreSQL => { fold := id, escape := some '\\' }

/-- `key_id = ? OR id = ? OR id LIKE ? OR key_id LIKE ?` for the id and its start. -/
def matchesPublishable (engine : DbEngine) (cleanKeyId : String) (record : ApiKeyRecord) : Bool :=
  record.keyId = cleanKeyId || record.id = cleanKeyId ||
    Like.like (likeDialect engine) (cleanKeyId.toList ++ ['%']) record.id.toList ||
    Like.like (likeDialect engine) (cleanKeyId.toList ++ ['%']) record.keyId.toList

lemma matchesPublishable_of_prefix {engine : DbEngine} {cleanKeyId : String}
    {record : ApiKeyRecord}
    (hplain : ∀ c ∈ cleanKeyId.toList, c ≠ '%' ∧ c ≠ '_' ∧ (likeDialect engine).escape ≠ some c)
    (hstart : cleanKeyId.toList <+: record.keyId.toList) :
    matchesPublishable engine cleanKeyId record = true := by
  have hlike : Like.like (likeDialect engine) (cleanKeyId.toList ++ ['%']) record.keyId.toList :=
    (Like.like_prefix_iff hplain).mpr (hstart.map _)
  simp [matchesPublishable, hlike]

/-- A key without a secret; `none` when the check of its scopes throws. -/
def authenticatePublishable (engine : DbEngine) (env : ProcessEnv) (apiKeys : ApiKeyTable)
    (rawKey : String) (requiredScope : Option ApiKeyScope) (now : Timestamp) : Option KeyAuth :=
  if !isProduction env ∧ keyIdOf rawKey ∈ ALLOWED_DEMO_KEY_IDS then demoKey requiredScope rawKey
  else if isProduction env ∧ keyIdOf rawKey ∈ ALLOWED_DEMO_KEY_IDS then
    some (.refused "Demo keys are disabled in production environment")
  else
    match apiKeys.rows.find? (matchesPublishable engine (keyIdOf rawKey)) with
    | none        => some (.refused "Missing API key secret component")
    | some record =>
      if record.revokedAt.isSome then some (.refused "API key has been revoked")
      else if record.expiresAt.any fun expiresAt => expiresAt < now then
        some (.refused "API key has expired")
      else
        KeyAuth.checkScope requiredScope record.tenantId record.environment
          (record.scopes.getD (.ofTexts ["events:write", "events:read"]))

/-- The local row of a remote record, under the key id that was presented. -/
def hydrate (record : SupabaseApiKeyRecord) (keyId : String) : ApiKeyRecord where
  id := record.id
  tenantId := record.tenantId
  name := record.name
  keyPrefix := record.keyPrefix
  keyId := keyId
  secretHash := record.keyHash
  environment := .test
  scopes := record.scopes.read?
  createdAt := record.createdAt
  expiresAt := record.expiresAt
  revokedAt := none

/-- The row that is inserted for a remote record. -/
def insertedRow (record : SupabaseApiKeyRecord) (keyId : String) : ApiKeyRecord :=
  { hydrate record keyId with scopes := some record.scopes.written }

/-- The row of a key: the local one of its key id, else the remote one of the hash of its secret. -/
def lookupSecret (platform : Platform) (apiKeys : ApiKeyTable) (store : SupabaseStore.KeyTable)
    (reachable : Bool) (keyId rawSecret : String) : Option ApiKeyRecord :=
  match apiKeys.rows.find? fun record => record.keyId = keyId with
  | some record => some record
  | none        =>
    (SupabaseStore.fetchApiKeyByHash store reachable (platform.sha256 rawSecret)).map
      fun record => hydrate record keyId

/-- A key with a secret; `none` when its scopes text cannot be read or their check throws. -/
def authenticateSecret (platform : Platform) (env : ProcessEnv) (apiKeys : ApiKeyTable)
    (store : SupabaseStore.KeyTable) (reachable : Bool) (rawKey rawSecret : String)
    (requiredScope : Option ApiKeyScope) (now : Timestamp) : Option KeyAuth :=
  match lookupSecret platform apiKeys store reachable (keyIdOf rawKey) rawSecret with
  | none        =>
    if keyIdOf rawKey ∈ ALLOWED_DEMO_KEY_IDS then
      if isProduction env then some (.refused "Demo keys are disabled in production environment")
      else demoKey none rawKey
    else some (.refused "API key not found")
  | some record =>
    if record.revokedAt.isSome then some (.refused "API key has been revoked")
    else if record.expiresAt.any fun expiresAt => expiresAt < now then
      some (.refused "API key has expired")
    else if platform.sha256 rawSecret ≠ record.secretHash then
      some (.refused "Invalid API key secret")
    else
      record.scopes.bind fun scopes =>
        KeyAuth.checkScope requiredScope record.tenantId record.environment scopes

/-- What `authenticateKey` returns; `none` when it throws. `reachable` says whether the remote store
answers. -/
def authenticateKey (platform : Platform) (engine : DbEngine) (env : ProcessEnv)
    (apiKeys : ApiKeyTable) (store : SupabaseStore.KeyTable) (reachable : Bool) (rawKey : String)
    (requiredScope : Option ApiKeyScope) (now : Timestamp) : Option KeyAuth :=
  if !KEY_PREFIXES.any fun start => Js.startsWith rawKey start then
    some (.refused "Malformed API key format")
  else
    match rawSecret? rawKey with
    | none           => authenticatePublishable engine env apiKeys rawKey requiredScope now
    | some rawSecret =>
      authenticateSecret platform env apiKeys store reachable rawKey rawSecret requiredScope now

/-! ### Which keys are accepted -/

variable {platform : Platform} {engine : DbEngine} {env : ProcessEnv} {apiKeys : ApiKeyTable}
  {store : SupabaseStore.KeyTable} {reachable : Bool} {rawKey rawSecret tenantId : String}
  {requiredScope : Option ApiKeyScope} {now : Timestamp}

/-- The answer lets the caller in for the tenant. -/
def KeyAuth.AcceptsFor (auth : KeyAuth) (tenantId : String) : Prop :=
  auth.valid = true ∧ auth.tenantId = some tenantId

lemma not_acceptsFor_refused (errorReason : String) :
    ¬ (KeyAuth.refused errorReason).AcceptsFor tenantId := by
  rintro ⟨hvalid, -⟩
  cases hvalid

section CheckScope

variable {owner : String} {environment : Environment} {scopes : KeyScopes} {auth : KeyAuth}

lemma acceptsFor_checkScope_iff :
    (∃ auth ∈ KeyAuth.checkScope requiredScope owner environment scopes, auth.AcceptsFor tenantId) ↔
      Grants requiredScope scopes ∧ owner = tenantId := by
  cases requiredScope with
  | none => simp [KeyAuth.checkScope, KeyAuth.AcceptsFor, Grants]
  | some scope =>
    simp only [KeyAuth.checkScope, KeyAuth.AcceptsFor, Grants, KeyScopes.Has, Option.mem_def,
      Option.some.injEq, forall_eq']
    cases hincluded : scopes.includes? scope.text with
    | none => cases scopes <;> simp_all [KeyScopes.includes?]
    | some included =>
      obtain ⟨all, hall⟩ : ∃ all, scopes.includes? "*" = some all := by
        cases scopes <;> simp_all [KeyScopes.includes?]
      rw [hall]
      cases included <;> cases all <;> simp

lemma tenantId_of_checkScope
    (h : auth ∈ KeyAuth.checkScope requiredScope owner environment scopes) :
    auth.tenantId = some owner := by
  cases requiredScope with
  | none =>
    cases h
    rfl
  | some scope =>
    simp only [KeyAuth.checkScope, Option.bind_eq_bind, Option.mem_def,
      Option.bind_eq_some_iff] at h
    obtain ⟨included, -, all, -, h⟩ := h
    split_ifs at h <;> cases h <;> rfl

end CheckScope

/-- A valid answer names a tenant. -/
lemma exists_acceptsFor_of_valid {auth : KeyAuth}
    (h : auth ∈ authenticateSecret platform env apiKeys store reachable rawKey rawSecret
      requiredScope now) (hvalid : auth.valid = true) : ∃ tenantId, auth.AcceptsFor tenantId := by
  rw [authenticateSecret] at h
  split at h
  · split_ifs at h
    · cases h
      cases hvalid
    · rw [demoKey] at h
      exact ⟨_, hvalid, tenantId_of_checkScope h⟩
    · cases h
      cases hvalid
  · split_ifs at h
    · cases h
      cases hvalid
    · cases h
      cases hvalid
    · cases h
      cases hvalid
    · obtain ⟨scopes, -, h⟩ := Option.bind_eq_some_iff.mp h
      exact ⟨_, hvalid, tenantId_of_checkScope h⟩

lemma isLive_iff {record : ApiKeyRecord} :
    record.IsLive now ↔
      ¬ record.revokedAt.isSome ∧ ¬ record.expiresAt.any fun expiresAt => expiresAt < now := by
  cases h : record.expiresAt <;> simp [ApiKeyRecord.IsLive, h]

/-- With a secret, the key that is found decides, and has the hash of the secret. -/
lemma acceptsFor_authenticateSecret_iff (hdemo : keyIdOf rawKey ∉ ALLOWED_DEMO_KEY_IDS) :
    (∃ auth ∈ authenticateSecret platform env apiKeys store reachable rawKey rawSecret requiredScope
        now, auth.AcceptsFor tenantId) ↔
      ∃ record,
        lookupSecret platform apiKeys store reachable (keyIdOf rawKey) rawSecret = some record ∧
        record.IsLive now ∧ record.secretHash = platform.sha256 rawSecret ∧
        (∃ scopes ∈ record.scopes, Grants requiredScope scopes) ∧ record.tenantId = tenantId := by
  rw [authenticateSecret]
  cases lookupSecret platform apiKeys store reachable (keyIdOf rawKey) rawSecret with
  | none => simp [hdemo, not_acceptsFor_refused]
  | some record =>
    simp only [Option.some.injEq, exists_eq_left', isLive_iff]
    split_ifs with hrevoked hexpired hhash
    · simp [hrevoked, not_acceptsFor_refused]
    · simp [hexpired, not_acceptsFor_refused]
    · simp [Ne.symm hhash, not_acceptsFor_refused]
    · rw [not_not] at hhash
      simp only [hrevoked, hexpired, hhash, Option.mem_def, Option.bind_eq_some_iff,
        Bool.false_eq_true, not_false_eq_true, true_and]
      constructor
      · rintro ⟨auth, ⟨scopes, hscopes, hauth⟩, haccepts⟩
        obtain ⟨hgrants, howner⟩ := acceptsFor_checkScope_iff.mp ⟨auth, hauth, haccepts⟩
        exact ⟨⟨scopes, hscopes, hgrants⟩, howner⟩
      · rintro ⟨⟨scopes, hscopes, hgrants⟩, howner⟩
        obtain ⟨auth, hauth, haccepts⟩ := acceptsFor_checkScope_iff.mpr ⟨hgrants, howner⟩
        exact ⟨auth, ⟨scopes, hscopes, hauth⟩, haccepts⟩

/-- The text starts like a key. -/
def IsKeyText (rawKey : String) : Prop :=
  (KEY_PREFIXES.any fun start => Js.startsWith rawKey start) = true

/-- A row is found locally by its key id, or made of a remote key. -/
lemma lookupSecret_eq_some {keyId : String} {record : ApiKeyRecord}
    (h : lookupSecret platform apiKeys store reachable keyId rawSecret = some record) :
    apiKeys.rows.find? (fun record => record.keyId = keyId) = some record ∨
      (∀ record ∈ apiKeys.rows, record.keyId ≠ keyId) ∧
        ∃ remote ∈ SupabaseStore.fetchApiKeyByHash store reachable (platform.sha256 rawSecret),
          hydrate remote keyId = record := by
  rw [lookupSecret] at h
  split at h
  next found hfound =>
    cases h
    exact .inl hfound
  next hnone =>
    right
    rw [Option.map_eq_some_iff] at h
    exact ⟨by simpa using hnone, h⟩

lemma keyHash_of_fetch {keyHash : String} {remote : SupabaseApiKeyRecord}
    (hfetch : remote ∈ SupabaseStore.fetchApiKeyByHash store reachable keyHash) :
    remote.keyHash = keyHash := by
  rw [SupabaseStore.fetchApiKeyByHash] at hfetch
  split_ifs at hfetch
  · have hfound := List.find?_some hfetch
    simp only [Bool.and_eq_true, decide_eq_true_eq] at hfound
    exact hfound.1
  · cases hfetch

end ApiKeyService

end CtrlRecovery
