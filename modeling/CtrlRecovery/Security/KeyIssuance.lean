import CtrlRecovery.Security.ApiKeys

/-!
# Issuing API keys

`createApiKey` draws the id, the key id and the secret of a key and returns its text,
`ctrl_{environment}_{keyId}.{secret}`. All three are hexadecimal, so that the text is cut back into
the key id and the secret (`keyIdOf_rawKey`, `rawSecret?_rawKey`), and the key id is never that of a
demo key.
-/

namespace CtrlRecovery

open Core

/-- `crypto.randomBytes(n / 2).toString('hex')`. -/
structure HexText (n : ℕ) where
  text : String
  length_text : text.length = n
  isHex : ∀ c ∈ text.toList, c ∈ "0123456789abcdef".toList

lemma HexText.isHex_of_all {text : String}
    (h : text.toList.all ("0123456789abcdef".toList.contains ·)) :
    ∀ c ∈ text.toList, c ∈ "0123456789abcdef".toList := by
  intro c hc
  exact List.contains_iff_mem.mp (List.all_eq_true.mp h c hc)

lemma HexText.ne_of_mem {n : ℕ} (hex : HexText n) {c d : Char} (hc : c ∈ hex.text.toList)
    (hd : d ∉ "0123456789abcdef".toList) : c ≠ d := by
  rintro rfl
  exact hd (hex.isHex c hc)

namespace ApiKeyService

structure CreateKeyParams where
  tenantId : String
  name : String
  environment : Environment
  scopes : List String
  expiresInDays : Option ℕ
  deriving DecidableEq, Repr

/-- What `createApiKey` draws. -/
structure KeyMaterial where
  idSuffix : HexText 8
  keyId : HexText 12
  rawSecret : HexText 32

/-- What `createApiKey` returns. -/
structure CreatedKey where
  id : String
  keyId : String
  rawKey : String
  record : ApiKeyRecord
  deriving DecidableEq, Repr

def environmentText : Environment → String
  | .live => "live"
  | .test => "test"

def keyPrefix (environment : Environment) : String := "ctrl_" ++ environmentText environment ++ "_"

/-- The text that is shown once. -/
def rawKeyOf (environment : Environment) (material : KeyMaterial) : String :=
  keyPrefix environment ++ material.keyId.text ++ "." ++ material.rawSecret.text

def apiKeyId (material : KeyMaterial) (now : Timestamp) : String :=
  "apk_" ++ toString now ++ "_" ++ material.idSuffix.text

/-- No key is granted a financial scope, or one that is not listed. -/
def checkScopes (scopes : List String) : Except String Unit :=
  match scopes.find? fun scope =>
    Js.includes scope "financial:execute" || scope ∉ VALID_API_KEY_SCOPES.map ApiKeyScope.text with
  | none       => .ok ()
  | some scope =>
    .error ("Invalid scope: '" ++ scope ++ "'. Financial execution scopes are structurally forbidden.")

def apiKeyRow (platform : Platform) (params : CreateKeyParams) (material : KeyMaterial)
    (now : Timestamp) : ApiKeyRecord where
  id := apiKeyId material now
  tenantId := params.tenantId
  name := params.name
  keyPrefix := keyPrefix params.environment
  keyId := material.keyId.text
  secretHash := platform.sha256 material.rawSecret.text
  environment := params.environment
  scopes := some (.ofTexts params.scopes)
  createdAt := now
  expiresAt := (params.expiresInDays.filter (· ≠ 0)).map fun days => now + days * 86400000
  revokedAt := none

/-- The record that is saved in the remote store. -/
def remoteRow (platform : Platform) (params : CreateKeyParams) (material : KeyMaterial)
    (now : Timestamp) : SupabaseApiKeyRecord where
  id := apiKeyId material now
  tenantId := params.tenantId
  name := params.name
  keyPrefix := keyPrefix params.environment
  keyHash := platform.sha256 material.rawSecret.text
  scopes := .list (params.scopes.map .text)
  status := .active
  createdAt := now
  expiresAt := (apiKeyRow platform params material now).expiresAt

/-- The ids and the key ids of the table are unique. -/
def insertKey (apiKeys : ApiKeyTable) (row : ApiKeyRecord) : Except String ApiKeyTable :=
  if apiKeys.rows.any fun record => record.keyId = row.keyId then
    .error "UNIQUE constraint failed: api_keys.key_id"
  else
    match apiKeys.insert? row with
    | none          => .error "UNIQUE constraint failed: api_keys.id"
    | some inserted => .ok inserted

/-- `createApiKey`: the new key, and the two stores after it. -/
def createApiKey (platform : Platform) (apiKeys : ApiKeyTable) (store : SupabaseStore.KeyTable)
    (reachable : Bool) (params : CreateKeyParams) (material : KeyMaterial) (now : Timestamp) :
    Except String (CreatedKey × ApiKeyTable × SupabaseStore.KeyTable) :=
  match checkScopes params.scopes with
  | .error message => .error message
  | .ok ()         =>
    match insertKey apiKeys (apiKeyRow platform params material now) with
    | .error message => .error message
    | .ok inserted   =>
      .ok
        ({ id := apiKeyId material now
           keyId := material.keyId.text
           rawKey := rawKeyOf params.environment material
           record := apiKeyRow platform params material now },
          inserted,
          SupabaseStore.saveApiKey store reachable (remoteRow platform params material now))

/-- Material to evaluate calls on. -/
def KeyMaterial.sample : KeyMaterial where
  idSuffix := ⟨"0a0b0c0d", by decide, HexText.isHex_of_all (by decide)⟩
  keyId := ⟨"a1b2c3d4e5f6", by decide, HexText.isHex_of_all (by decide)⟩
  rawSecret :=
    ⟨"00112233445566778899aabbccddeeff", by decide, HexText.isHex_of_all (by decide)⟩

/-- Parameters to evaluate calls on. -/
def CreateKeyParams.sample : CreateKeyParams where
  tenantId := "tenant_a"
  name := "Server"
  environment := .live
  scopes := ["events:write"]
  expiresInDays := none

/-! ### Reading the text of a key -/

variable {environment : Environment} {material : KeyMaterial}

lemma toList_rawKeyOf :
    (rawKeyOf environment material).toList =
      ((keyPrefix environment).toList ++ material.keyId.text.toList) ++
        '.' :: material.rawSecret.text.toList := by
  simp [rawKeyOf]

lemma ne_dot_of_mem (environment : Environment) (material : KeyMaterial) :
    ∀ c ∈ (keyPrefix environment).toList ++ material.keyId.text.toList, c ≠ '.' := by
  have hstart : (keyPrefix environment).toList.all (· ≠ '.') := by
    cases environment <;> decide
  intro c hc
  rcases List.mem_append.mp hc with hc | hc
  · simpa using List.all_eq_true.mp hstart c hc
  · exact HexText.ne_of_mem _ hc (by decide)

lemma rawSecret?_rawKey : rawSecret? (rawKeyOf environment material) =
    some material.rawSecret.text := by
  have hdrop : (rawKeyOf environment material).toList.dropWhile (· ≠ '.') =
      '.' :: material.rawSecret.text.toList := by
    rw [toList_rawKeyOf, List.dropWhile_append_of_pos (by simpa using ne_dot_of_mem _ _)]
    simp
  rw [rawSecret?, hdrop]
  simp

lemma prefixAndId_rawKey : prefixAndId (rawKeyOf environment material) =
    keyPrefix environment ++ material.keyId.text := by
  have htake : (rawKeyOf environment material).toList.takeWhile (· ≠ '.') =
      (keyPrefix environment ++ material.keyId.text).toList := by
    rw [toList_rawKeyOf, List.takeWhile_append_of_pos (by simpa using ne_dot_of_mem _ _)]
    simp
  rw [prefixAndId, htake, String.ofList_toList]

lemma ofList_drop_append (start text : String) :
    String.ofList ((start ++ text).toList.drop start.length) = text := by
  rw [String.toList_append, ← String.length_toList, List.drop_left, String.ofList_toList]

lemma keyIdOf_rawKey : keyIdOf (rawKeyOf environment material) = material.keyId.text := by
  have hfind : (KEY_PREFIXES.find? fun start =>
      Js.startsWith (keyPrefix environment ++ material.keyId.text) start) =
        some (keyPrefix environment) := by
    cases environment <;> simp [KEY_PREFIXES, Js.startsWith, keyPrefix, environmentText]
  rw [keyIdOf, prefixAndId_rawKey, stripPrefix, hfind]
  exact ofList_drop_append _ _

lemma isKeyText_rawKey : IsKeyText (rawKeyOf environment material) := by
  cases environment <;>
    simp [IsKeyText, KEY_PREFIXES, Js.startsWith, toList_rawKeyOf, keyPrefix, environmentText]

lemma keyId_notMem_demo (keyId : HexText 12) : keyId.text ∉ ALLOWED_DEMO_KEY_IDS := by
  have hdemo : ∀ demo ∈ ALLOWED_DEMO_KEY_IDS, '_' ∈ demo.toList := by decide
  intro hmem
  exact keyId.ne_of_mem (hdemo _ hmem) (d := '_') (by decide) rfl

lemma keyId_ne_idPrefix (keyId : HexText 12) (material : KeyMaterial) (now : Timestamp) :
    keyId.text ≠ Js.firstChars 12 (apiKeyId material now) := by
  intro h
  have hmem : 'p' ∈ (Js.firstChars 12 (apiKeyId material now)).toList := by
    simp [Js.firstChars, apiKeyId]
  exact keyId.ne_of_mem (h ▸ hmem) (d := 'p') (by decide) rfl

end ApiKeyService

end CtrlRecovery
