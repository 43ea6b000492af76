import CtrlRecovery.Js
import CtrlRecovery.Platform

/-!
# The security of a delivery

What a delivery on the webhook route has to pass before its body is read: its size, the address that
it comes from, its time stamp, and a signature of the raw body under one of the secrets of the
tenant that the route names.

A tenant without secrets of its own is served with those of the platform.
-/

namespace CtrlRecovery

/-- The variables of `process.env` that only the webhook routes read. -/
structure WebhookEnv where
  /-- `NODE_ENV === 'test'`. -/
  isTest : Bool
  disableIpCheck : Bool
  enableIpCheck : Bool
  egressIps : Option String
  webhookSecretOld : Option String
  deriving DecidableEq, Repr

/-- `Number(text)`. -/
inductive HeaderNumber
  | nan
  | infinite (negative : Bool)
  | finite (value : ℚ)
  deriving DecidableEq, Repr

/-- What is read of the stored provider credential of a tenant. -/
structure TenantCredential where
  webhookSecret : Option String
  backupWebhookSecret : Option String
  deriving DecidableEq, Repr

/-- The readable credentials of the tenants. -/
abbrev Credentials := String → Environment → Option TenantCredential

/-! ### The secrets of a tenant -/

namespace RazorpayConnectionService

/-- The secrets that a tenant has configured itself. -/
def configuredSecrets (credentials : Credentials) (tenantId : String) (environment : Environment) :
    List String :=
  match credentials tenantId environment with
  | none            => []
  | some credential =>
    [credential.webhookSecret, credential.backupWebhookSecret].reduceOption.filter (· ≠ "")

/-- The secrets of a tenant, else that of the platform. -/
def getWebhookSecrets (platform : Platform) (credentials : Credentials) (tenantId : String)
    (environment : Environment) : List String :=
  match configuredSecrets credentials tenantId environment with
  | []      => (platform.razorpayWebhookSecret.filter (· ≠ "")).toList
  | secrets => secrets

end RazorpayConnectionService

namespace WebhookValidator

/-! ### The address -/

def defaultAllowedIps : List String :=
  ["52.66.75.174", "52.66.75.175", "13.235.25.1", "13.235.25.2", "127.0.0.1", "::1",
    "::ffff:127.0.0.1"]

/-- The addresses of `RAZORPAY_EGRESS_IPS`, separated by commas. -/
def customIps (env : WebhookEnv) : List String :=
  match env.egressIps.filter (· ≠ "") with
  | some ips => (ips.toList.splitOn ',').map fun ip => Js.trim (String.ofList ip)
  | none     => []

/-- `clientIp.replace(/^::ffff:/, '')`. -/
def cleanIp (clientIp : String) : String :=
  if Js.startsWith clientIp "::ffff:" then String.ofList (clientIp.toList.drop 7) else clientIp

def isIpAllowed (env : WebhookEnv) (clientIp : String) : Bool :=
  if env.isTest || env.disableIpCheck || !env.enableIpCheck then true
  else
    let allowed := defaultAllowedIps ++ customIps env
    allowed.contains (cleanIp clientIp) || allowed.contains clientIp ||
      Js.startsWith (cleanIp clientIp) "13.235.25." || Js.startsWith (cleanIp clientIp) "52.66."

/-! ### The time stamp -/

structure TimeCheck where
  valid : Bool
  ageSec : HeaderNumber
  deriving DecidableEq, Repr

/-- A stamp is at most 300 seconds old and at most 60 seconds ahead; a delivery may have none. -/
def isTimestampValid (timestampHeader : Option HeaderNumber) (now : Timestamp) : TimeCheck :=
  match timestampHeader with
  | none                      => ⟨true, .finite 0⟩
  | some .nan                 => ⟨false, .infinite false⟩
  | some (.infinite negative) => ⟨false, .infinite !negative⟩
  | some (.finite eventTime)  =>
    let ageSec : ℚ := (now / 1000 : ℕ) - eventTime
    ⟨!(ageSec > 300 || ageSec < -60), .finite ageSec⟩

/-- The text of an age. -/
def ageText : HeaderNumber → String
  | .nan            => "NaN"
  | .infinite false => "Infinity"
  | .infinite true  => "-Infinity"
  | .finite value   => Js.numberToString value

/-! ### The signature -/

/-- The secrets that a signature is tried with: when a tenant has none at all, those of the platform
and the one of its tests. -/
def candidateSecrets (platform : Platform) (env : WebhookEnv) (secrets : List String) :
    List String :=
  match secrets with
  | []      => [platform.razorpayWebhookSecret, env.webhookSecretOld,
      some "rzp_whsec_ctrl_test"].reduceOption.filter (· ≠ "")
  | secrets => secrets

/-- The index of the first secret that the signature verifies under. -/
def verifySignature (platform : Platform) (env : WebhookEnv) (rawBody signatureHeader : String)
    (secrets : List String) : Option ℕ :=
  if rawBody = "" ∨ signatureHeader = "" then none
  else (candidateSecrets platform env secrets).findIdx? fun secret =>
    secret ≠ "" && platform.hmacSha256 secret rawBody == signatureHeader

/-! ### The whole check -/

/-- What a validation looks at. -/
structure Params where
  webhookSecrets : List String
  clientIp : String
  rawBody : String
  signatureHeader : Option String
  timestampHeader : Option HeaderNumber

structure Rejection where
  statusCode : ℕ
  errorReason : String
  deriving DecidableEq, Repr

/-- The index of the secret that a valid delivery is signed with. -/
def validateWebhook (platform : Platform) (env : WebhookEnv) (params : Params) (now : Timestamp) :
    Except Rejection ℕ :=
  let timeCheck := isTimestampValid params.timestampHeader now
  if params.rawBody.utf8ByteSize > 1048576 then .error ⟨413, "Payload size exceeds 1MB limit"⟩
  else if !isIpAllowed env params.clientIp then .error ⟨403, "IP not authorized"⟩
  else if !timeCheck.valid then
    .error ⟨400, "Timestamp expired (age: " ++ ageText timeCheck.ageSec ++ "s)"⟩
  else
    match params.signatureHeader.filter (· ≠ "") with
    | none           => .error ⟨400, "Missing signature header"⟩
    | some signature =>
      match verifySignature platform env params.rawBody signature params.webhookSecrets with
      | none       => .error ⟨401, "Invalid webhook signature"⟩
      | some index => .ok index

variable {platform : Platform} {env : WebhookEnv} {params : Params} {now : Timestamp} {index : ℕ}

lemma exists_secret_of_verifySignature {rawBody signature : String} {secrets : List String}
    (h : verifySignature platform env rawBody signature secrets = some index) :
    ∃ secret, (candidateSecrets platform env secrets)[index]? = some secret ∧
      platform.hmacSha256 secret rawBody = signature := by
  rw [verifySignature] at h
  split_ifs at h
  obtain ⟨hlt, hsigned, -⟩ := List.findIdx?_eq_some_iff_getElem.mp h
  refine ⟨_, List.getElem?_eq_getElem hlt, ?_⟩
  simp only [Bool.and_eq_true, beq_iff_eq] at hsigned
  exact hsigned.2

/-- A valid delivery carries a signature of its body under one of the secrets. -/
theorem signed_of_validateWebhook (h : validateWebhook platform env params now = .ok index) :
    ∃ secret, (candidateSecrets platform env params.webhookSecrets)[index]? = some secret ∧
      params.signatureHeader = some (platform.hmacSha256 secret params.rawBody) := by
  simp only [validateWebhook] at h
  split_ifs at h
  split at h
  · cases h
  · next signature hsignature =>
    split at h
    · cases h
    · next hverified =>
      cases h
      obtain ⟨secret, hsecret, hsigned⟩ := exists_secret_of_verifySignature hverified
      refine ⟨secret, hsecret, ?_⟩
      rw [hsigned, (Option.filter_eq_some_iff.mp hsignature).1]

end WebhookValidator

end CtrlRecovery
