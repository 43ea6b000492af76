import CtrlRecovery.Core.Run
import CtrlRecovery.Core.Table
import CtrlRecovery.Js
import CtrlRecovery.Types

/-!
# The secrets of the tenants

A secret is stored encrypted under the key that is derived for its tenant. Rows are unique by their
credential reference alone, while lookup and deletion go by tenant and reference: a store under the
reference of another tenant's row overwrites the secret of that row and leaves the tenant. Every
lookup gives what its tenant stored last as long as no store meets the row of another tenant.

The remote store is out of reach here.
-/

namespace CtrlRecovery

open Core

/-- AES-256-GCM, and the derivation of a tenant's key from the master key. -/
structure SecretCipher where
  Key : Type
  deriveTenantKey : String → Key
  /-- The ciphertext and its tag, from the key, the initialization vector and the text. -/
  encrypt : Key → String → String → String × String
  /-- The text, from the key, the ciphertext, the initialization vector and the tag. -/
  decrypt : Key → String → String → String → Option String

/-- What was encrypted under a key decrypts under it. -/
def SecretCipher.OpensOwn (cipher : SecretCipher) : Prop :=
  ∀ key iv text,
    cipher.decrypt key (cipher.encrypt key iv text).1 iv (cipher.encrypt key iv text).2 = some text

namespace SecretsManager

structure EncryptedSecret where
  encryptedData : String
  iv : String
  authTag : String
  deriving DecidableEq, Repr

def encryptSecret (cipher : SecretCipher) (tenantId plaintext iv : String) : EncryptedSecret :=
  let (encryptedData, authTag) := cipher.encrypt (cipher.deriveTenantKey tenantId) iv plaintext
  ⟨encryptedData, iv, authTag⟩

/-- `none` when the tag does not authenticate. -/
def decryptSecret (cipher : SecretCipher) (tenantId : String) (secret : EncryptedSecret) :
    Option String :=
  cipher.decrypt (cipher.deriveTenantKey tenantId) secret.encryptedData secret.iv secret.authTag

/-! ### The tables -/

/-- A row of `tenants`, as far as its constraints go. -/
structure TenantRow where
  id : String
  slug : String
  environment : Environment
  createdAt : Timestamp
  deriving DecidableEq, Repr

/-- A row of `tenant_credentials`. -/
structure CredentialRow where
  id : String
  tenantId : String
  provider : String
  environment : Environment
  credentialReference : String
  secret : EncryptedSecret
  createdAt : Timestamp
  updatedAt : Timestamp
  deriving DecidableEq, Repr

structure CredentialDb where
  tenants : Table TenantRow.id
  credentials : Table CredentialRow.credentialReference

structure StoreParams where
  tenantId : String
  provider : String
  environment : Environment
  credentialReference : String
  rawSecret : String
  deriving DecidableEq, Repr

/-- What a store draws. -/
structure StoreStamp where
  id : String
  iv : String
  now : Timestamp
  deriving DecidableEq, Repr

/-! ### The operations -/

/-- `INSERT OR IGNORE INTO tenants`. -/
def ensureTenant (db : CredentialDb) (params : StoreParams) (now : Timestamp) : CredentialDb :=
  let tenant : TenantRow :=
    ⟨params.tenantId, "merchant_" ++ params.tenantId, params.environment, now⟩
  if db.tenants.rows.any (·.slug = tenant.slug) then db
  else { db with tenants := db.tenants.insertOrIgnore tenant }

/-- `INSERT INTO tenant_credentials … ON CONFLICT(credential_reference) DO UPDATE`; `none` when the
insert violates another constraint. -/
def upsertCredential (db : CredentialDb) (row : CredentialRow) : Option CredentialDb :=
  match db.credentials.find? row.credentialReference with
  | some _ =>
    some { db with
      credentials := db.credentials.update row.credentialReference
        (fun stored => { stored with secret := row.secret, updatedAt := row.updatedAt })
        fun _ => rfl }
  | none   =>
    if (db.tenants.find? row.tenantId).isNone || db.credentials.rows.any (·.id = row.id) then none
    else some { db with credentials := db.credentials.put row }

/-- The row that a store inserts. -/
def credentialRow (cipher : SecretCipher) (params : StoreParams) (stamp : StoreStamp) :
    CredentialRow where
  id := stamp.id
  tenantId := params.tenantId
  provider := params.provider
  environment := params.environment
  credentialReference := params.credentialReference
  secret := encryptSecret cipher params.tenantId params.rawSecret stamp.iv
  createdAt := stamp.now
  updatedAt := stamp.now

/-- The database after a store, and whether the store returns. -/
def storeTenantCredential (cipher : SecretCipher) (db : CredentialDb) (params : StoreParams)
    (stamp : StoreStamp) : CredentialDb × Bool :=
  let db := ensureTenant db params stamp.now
  match upsertCredential db (credentialRow cipher params stamp) with
  | some db => (db, true)
  | none    => (db, false)

/-- The row of a tenant and a reference. -/
def queryCredential (db : CredentialDb) (tenantId credentialReference : String) :
    Option CredentialRow :=
  (db.credentials.find? credentialReference).filter (·.tenantId = tenantId)

def getTenantCredential (cipher : SecretCipher) (db : CredentialDb)
    (tenantId credentialReference : String) : Option String :=
  (queryCredential db tenantId credentialReference).bind fun row =>
    decryptSecret cipher tenantId row.secret

/-- The database after a deletion, and whether a row was deleted. -/
def deleteTenantCredential (db : CredentialDb) (tenantId credentialReference : String) :
    CredentialDb × Bool :=
  match queryCredential db tenantId credentialReference with
  | some _ => ({ db with credentials := db.credentials.erase credentialReference }, true)
  | none   => (db, false)

/-! ### Runs -/

inductive CredentialCall
  | store (params : StoreParams) (stamp : StoreStamp)
  | delete (tenantId credentialReference : String)

/-- The database, with the secret that each tenant has stored last under each reference and not
deleted since. -/
structure CredentialState where
  db : CredentialDb
  lastStored : String → String → Option String

/-- No credentials yet, among any tenants. -/
def CredentialState.initial (tenants : Table TenantRow.id) : CredentialState :=
  ⟨⟨tenants, .empty⟩, fun _ _ => none⟩

def setLast (lastStored : String → String → Option String) (tenantId reference : String)
    (secret : Option String) : String → String → Option String :=
  fun tenant ref => if tenant = tenantId ∧ ref = reference then secret else lastStored tenant ref

def credentialStep (cipher : SecretCipher) (s : CredentialState) :
    CredentialCall → Option CredentialState
  | .store params stamp =>
    match storeTenantCredential cipher s.db params stamp with
    | (db, true)  =>
      some ⟨db,
        setLast s.lastStored params.tenantId params.credentialReference (some params.rawSecret)⟩
    | (db, false) => some ⟨db, s.lastStored⟩
  | .delete tenantId reference =>
    some ⟨(deleteTenantCredential s.db tenantId reference).1,
      setLast s.lastStored tenantId reference none⟩

/-- Every lookup gives what its tenant has stored last. -/
def ReturnsLastStored (cipher : SecretCipher) (s : CredentialState) : Prop :=
  ∀ tenantId reference,
    getTenantCredential cipher s.db tenantId reference = s.lastStored tenantId reference

/-- A store meets no row of its reference that belongs to another tenant. -/
def MeetsOwnRow (s : CredentialState) (call : CredentialCall) (_ : CredentialState) : Prop :=
  match call with
  | .store params _ =>
    ∀ row ∈ s.db.credentials.find? params.credentialReference, row.tenantId = params.tenantId
  | .delete _ _     => True

/-! ### What the operations do to the lookups -/

variable {cipher : SecretCipher} {db : CredentialDb} {row : CredentialRow} {params : StoreParams}
  {stamp : StoreStamp} {tenantId reference : String} {now : Timestamp}

lemma getTenantCredential_of_find? (h : db.credentials.find? reference = some row) :
    getTenantCredential cipher db tenantId reference =
      if row.tenantId = tenantId then decryptSecret cipher tenantId row.secret else none := by
  simp only [getTenantCredential, queryCredential, h, Option.filter_some, decide_eq_true_eq]
  split_ifs
  · rfl
  · rfl

lemma getTenantCredential_of_find?_none (h : db.credentials.find? reference = none) :
    getTenantCredential cipher db tenantId reference = none := by
  simp [getTenantCredential, queryCredential, h]

lemma getTenantCredential_congr {db' : CredentialDb}
    (h : db'.credentials.find? reference = db.credentials.find? reference) :
    getTenantCredential cipher db' tenantId reference =
      getTenantCredential cipher db tenantId reference := by
  simp only [getTenantCredential, queryCredential, h]

@[simp] lemma credentials_ensureTenant :
    (ensureTenant db params now).credentials = db.credentials := by
  simp only [ensureTenant]
  split_ifs
  · rfl
  · rfl

lemma decrypt_encryptSecret (hopens : cipher.OpensOwn) (plaintext iv : String) :
    decryptSecret cipher tenantId (encryptSecret cipher tenantId plaintext iv) = some plaintext :=
  hopens _ iv plaintext

/-- The row of a reference after an upsert: the stored one with the new secret, else the new one. -/
def upserted (stored : Option CredentialRow) (row : CredentialRow) : CredentialRow :=
  match stored with
  | some stored => { stored with secret := row.secret, updatedAt := row.updatedAt }
  | none        => row

@[simp] lemma secret_upserted (stored : Option CredentialRow) :
    (upserted stored row).secret = row.secret := by
  cases stored with
  | none        => rfl
  | some stored => rfl

lemma find?_upsertCredential {db' : CredentialDb} (h : upsertCredential db row = some db')
    (ref : String) :
    db'.credentials.find? ref =
      if ref = row.credentialReference then
        some (upserted (db.credentials.find? row.credentialReference) row)
      else db.credentials.find? ref := by
  rw [upsertCredential] at h
  cases hstored : db.credentials.find? row.credentialReference with
  | some stored =>
    simp only [hstored, Option.some.injEq] at h
    subst h
    simp only [Table.find?_update]
    split_ifs with href
    · subst href
      rw [hstored]
      rfl
    · rfl
  | none        =>
    simp only [hstored] at h
    split_ifs at h
    cases h
    simp only [Table.find?_put]
    rfl

lemma upsert_of_store {db' : CredentialDb}
    (h : storeTenantCredential cipher db params stamp = (db', true)) :
    upsertCredential (ensureTenant db params stamp.now) (credentialRow cipher params stamp) =
      some db' := by
  simp only [storeTenantCredential] at h
  split at h
  next hupsert =>
    cases h
    exact hupsert
  · simp at h

lemma find?_of_store {db' : CredentialDb}
    (h : storeTenantCredential cipher db params stamp = (db', true)) :
    db'.credentials.find? params.credentialReference = some
      (upserted (db.credentials.find? params.credentialReference)
        (credentialRow cipher params stamp)) := by
  rw [find?_upsertCredential (upsert_of_store h), credentials_ensureTenant]
  exact if_pos rfl

lemma find?_of_store_of_ne {db' : CredentialDb}
    (h : storeTenantCredential cipher db params stamp = (db', true))
    (hne : reference ≠ params.credentialReference) :
    db'.credentials.find? reference = db.credentials.find? reference := by
  rw [find?_upsertCredential (upsert_of_store h), credentials_ensureTenant]
  exact if_neg hne

/-- A store that throws met no row, and stores nothing. -/
lemma of_store_fails {db' : CredentialDb}
    (h : storeTenantCredential cipher db params stamp = (db', false)) :
    db.credentials.find? params.credentialReference = none ∧ db'.credentials = db.credentials := by
  simp only [storeTenantCredential] at h
  split at h
  · simp at h
  next hupsert =>
    cases h
    refine ⟨?_, credentials_ensureTenant⟩
    cases hstored : db.credentials.find? params.credentialReference with
    | none        => rfl
    | some stored =>
      rw [upsertCredential, credentials_ensureTenant] at hupsert
      simp [credentialRow, hstored] at hupsert

/-- After a store that meets no other tenant's row, its tenant looks up its secret, and the other
lookups are as before. -/
lemma getTenantCredential_store (hopens : cipher.OpensOwn) {db' : CredentialDb}
    (h : storeTenantCredential cipher db params stamp = (db', true))
    (hown : ∀ row ∈ db.credentials.find? params.credentialReference, row.tenantId = params.tenantId) :
    getTenantCredential cipher db' tenantId reference =
      setLast (getTenantCredential cipher db) params.tenantId params.credentialReference
        (some params.rawSecret) tenantId reference := by
  by_cases href : reference = params.credentialReference
  · subst href
    have howner : (upserted (db.credentials.find? params.credentialReference)
        (credentialRow cipher params stamp)).tenantId = params.tenantId := by
      cases hstored : db.credentials.find? params.credentialReference with
      | none        => rfl
      | some stored => exact hown stored hstored
    rw [getTenantCredential_of_find? (find?_of_store h), howner, secret_upserted]
    by_cases htenant : params.tenantId = tenantId
    · subst htenant
      rw [if_pos rfl, setLast, if_pos ⟨rfl, rfl⟩]
      exact decrypt_encryptSecret hopens params.rawSecret stamp.iv
    · -- the row, if there was one, was not of this tenant before either
      rw [if_neg htenant, setLast, if_neg fun h => htenant h.1.symm]
      cases hstored : db.credentials.find? params.credentialReference with
      | none        => rw [getTenantCredential_of_find?_none hstored]
      | some stored =>
        rw [getTenantCredential_of_find? hstored, hown stored hstored, if_neg htenant]
  · rw [getTenantCredential_congr (find?_of_store_of_ne h href), setLast, if_neg fun h => href h.2]

lemma getTenantCredential_store_of_foreign {db' : CredentialDb}
    (h : storeTenantCredential cipher db params stamp = (db', true))
    (hrow : db.credentials.find? params.credentialReference = some row)
    (hne : row.tenantId ≠ params.tenantId) :
    getTenantCredential cipher db' params.tenantId params.credentialReference = none := by
  rw [getTenantCredential_of_find? (find?_of_store h), hrow]
  exact if_neg hne

/-- After a deletion its tenant finds nothing, and the other lookups are as before. -/
lemma getTenantCredential_delete (tenant ref : String) :
    getTenantCredential cipher (deleteTenantCredential db tenantId reference).1 tenant ref =
      setLast (getTenantCredential cipher db) tenantId reference none tenant ref := by
  rw [deleteTenantCredential]
  cases hquery : queryCredential db tenantId reference with
  | none     =>
    simp only [setLast]
    split_ifs with h
    · obtain ⟨rfl, rfl⟩ := h
      rw [getTenantCredential, hquery, Option.bind_none]
    · rfl
  | some row =>
    obtain ⟨hfind, hrow⟩ := Option.filter_eq_some_iff.mp hquery
    rw [decide_eq_true_eq] at hrow
    by_cases href : ref = reference
    · subst href
      rw [getTenantCredential_of_find?_none (by simp [Table.find?_erase]), setLast]
      split_ifs with h
      · rfl
      · rw [getTenantCredential_of_find? hfind, hrow, if_neg fun htenant => h ⟨htenant.symm, rfl⟩]
    · rw [setLast, if_neg fun h => href h.2]
      exact getTenantCredential_congr (by simp [Table.find?_erase, href])

/-! ### The lookups along a run -/

lemma returnsLastStored_step (hopens : cipher.OpensOwn) {s t : CredentialState}
    {call : CredentialCall} (hI : ReturnsLastStored cipher s)
    (h : credentialStep cipher s call = some t) :
    ReturnsLastStored cipher t ↔ MeetsOwnRow s call t := by
  have hlast : getTenantCredential cipher s.db = s.lastStored :=
    funext fun tenantId => funext (hI tenantId)
  cases call with
  | delete tenantId reference =>
    cases h
    simp only [MeetsOwnRow, iff_true]
    intro tenant ref
    rw [getTenantCredential_delete, hlast]
  | store params stamp        =>
    simp only [credentialStep] at h
    split at h
    next db' hstore =>
      cases h
      constructor
      · intro hright row hrow
        by_contra hne
        have hget := hright params.tenantId params.credentialReference
        rw [getTenantCredential_store_of_foreign hstore hrow hne] at hget
        simp [setLast] at hget
      · intro hown tenantId reference
        rw [getTenantCredential_store hopens hstore hown, hlast]
    next db' hstore =>
      cases h
      obtain ⟨hnone, hcredentials⟩ := of_store_fails hstore
      have hright : ReturnsLastStored cipher ⟨db', s.lastStored⟩ := by
        intro tenantId reference
        rw [← hI tenantId reference]
        exact getTenantCredential_congr (by rw [hcredentials])
      simp [hright, MeetsOwnRow, hnone]

/-- Along a run every lookup gives what its tenant has stored last, in every state, exactly when no
store meets a row of its reference that belongs to another tenant. -/
theorem returnsLastStored_iff_meetsOwnRow (cipher : SecretCipher) (hopens : cipher.OpensOwn)
    (tenants : Table TenantRow.id) (calls : List CredentialCall) :
    (∀ pre rest s, calls = pre ++ rest →
      Run (credentialStep cipher) (.initial tenants) pre s → ReturnsLastStored cipher s) ↔
      AllSteps (credentialStep cipher) MeetsOwnRow (.initial tenants) calls := by
  have hinitial : ReturnsLastStored cipher (.initial tenants) := fun _ _ => rfl
  have hstep (s : CredentialState) (call : CredentialCall) (t : CredentialState)
      (hI : ReturnsLastStored cipher s) (h : credentialStep cipher s call = some t) :
      ReturnsLastStored cipher t ↔ MeetsOwnRow s call t :=
    returnsLastStored_step hopens hI h
  exact (always_iff_allSteps hstep).trans (and_iff_right hinitial)

/-- A cipher that stores the text under the tenant as its tag. -/
def plainCipher : SecretCipher where
  Key := String
  deriveTenantKey := id
  encrypt := fun key _ text => (text, key)
  decrypt := fun key data _ tag => if tag = key then some data else none

/-- Two tenants that store under one reference. -/
def collidingCalls : List CredentialCall :=
  [.store ⟨"tenant_a", "razorpay", .test, "ref_main", "secret_a"⟩ ⟨"cred_1", "iv_1", 1⟩,
    .store ⟨"tenant_b", "razorpay", .test, "ref_main", "secret_b"⟩ ⟨"cred_2", "iv_2", 2⟩]

theorem returnsLastStored_iff_meetsOwnRow_colliding :
    (∀ pre rest s, collidingCalls = pre ++ rest →
      Run (credentialStep plainCipher) (.initial .empty) pre s → ReturnsLastStored plainCipher s) ↔
      AllSteps (credentialStep plainCipher) MeetsOwnRow (.initial .empty) collidingCalls :=
  returnsLastStored_iff_meetsOwnRow plainCipher (fun _ _ _ => if_pos rfl) .empty collidingCalls

/-- The second tenant overwrites the secret of the first, and neither finds its own. -/
theorem collision_loses_both_secrets :
    ∃ s, Run (credentialStep plainCipher) (.initial .empty) collidingCalls s ∧
      decide (s.lastStored "tenant_a" "ref_main" = some "secret_a" ∧
        getTenantCredential plainCipher s.db "tenant_a" "ref_main" = none ∧
        s.lastStored "tenant_b" "ref_main" = some "secret_b" ∧
        getTenantCredential plainCipher s.db "tenant_b" "ref_main" = none) :=
  exists_run_of_execute _ _ _ _ (by decide)

end SecretsManager

end CtrlRecovery
