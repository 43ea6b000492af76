import CtrlRecovery.Security.KeyIssuance
import CtrlRecovery.Security.SessionAuth
import CtrlRecovery.Security.WebhookValidator

/-!
# Authentication of requests

Two middlewares read the bearer of a request. `authenticateTenant` hands keys to the key service and
other tokens to the session service and to Supabase; `authenticateJWT` takes keys as well, but verifies
tokens itself and looks up only a list of revoked token ids. Both recognize keys by the prefixes of the
program's former name, so that a key as `createApiKey` returns it is never accepted
(`not_admitsAs_createdKey`).
-/

namespace CtrlRecovery

open Core

/-- What the service that holds the accounts knows of a token. -/
structure SupabaseUser where
  id : String
  email : Option String
  role : String
  tenantId : Option String
  deriving DecidableEq, Repr

/-- What the two middlewares are given: the process environment, the platform and the libraries, and
the tables with whether their lookups succeed. -/
structure AuthServices where
  platform : Platform
  jwt : Jwt
  engine : DbEngine
  env : ProcessEnv
  apiKeys : ApiKeyTable
  store : SupabaseStore.KeyTable
  storeReachable : Bool
  sessions : SessionTable
  sessionsReachable : Bool
  /-- `verifySupabaseToken`: the user of a valid token. -/
  verifySupabaseToken : String → Option SupabaseUser
  /-- `isTokenRevoked` for a token id. -/
  isTokenRevoked : String → Bool

/-- The parts of a request that authentication reads. -/
structure RequestCredentials where
  authorization : Option String
  queryToken : Option Js.Value
  queryApiKey : Option Js.Value
  deriving DecidableEq

def BEARER : String := "Bearer "

/-- A request with a bearer token in its header. -/
def RequestCredentials.bearer (token : String) : RequestCredentials :=
  ⟨some (BEARER ++ token), none, none⟩

inductive AuthType | apiKey | session
  deriving DecidableEq, Repr

/-- `req.tenantContext`. -/
structure RequestContext where
  tenantId : String
  environment : Environment
  authType : AuthType
  scopes : Option KeyScopes
  user : Option SessionUser
  deriving DecidableEq, Repr

/-- What a middleware does: it lets the request pass with what it knows of the caller, answers it, or
throws. -/
inductive Admission (κ : Type)
  | pass (caller : κ)
  | reject (rejection : WebhookValidator.Rejection)
  | throws
  deriving DecidableEq

/-- The prefixes by which the middlewares recognize a key. -/
def isApiKeyToken (token : String) : Bool :=
  Js.startsWith token "ul_live_" || Js.startsWith token "ul_test_"

/-- `tnt_${id.slice(0, 8)}`. -/
def tenantOfUserId (id : String) : String := "tnt_" ++ Js.firstChars 8 id

namespace TenancyEnforcer

/-- The header, or a bearer header of a query parameter. -/
def authHeader (credentials : RequestCredentials) : Option String :=
  match credentials.authorization.filter (· ≠ "") with
  | some header => some header
  | none        =>
    match credentials.queryToken.bind (·.text?) with
    | some token => some (BEARER ++ token)
    | none       =>
      match credentials.queryApiKey.bind (·.text?) with
      | some apiKey => some (BEARER ++ apiKey)
      | none        => none

/-- The text after `Bearer `, trimmed. -/
def bearerToken? (credentials : RequestCredentials) : Option String :=
  ((authHeader credentials).filter fun header => Js.startsWith header BEARER).map fun header =>
    Js.trim (String.ofList (header.toList.drop BEARER.length))

/-- The operator of a development process that asks for no authentication. -/
def devContext : RequestContext where
  tenantId := "tenant_system_default"
  environment := .test
  authType := .session
  scopes := none
  user := some ⟨"dev_operator", "tenant_system_default", "dev@ctrl.internal", "Owner", true⟩

/-- The message for a required scope that is missing; `none` where the check or the message throws. -/
def lacksScope (requiredScope : Option ApiKeyScope) (scopes : Option KeyScopes) :
    Option (Option String) :=
  match requiredScope with
  | none       => some none
  | some scope =>
    let scopes := scopes.getD .null
    match scopes.includes? scope.text with
    | some true => some none
    | _         =>
      scopes.join?.map fun granted =>
        some ("API key lacks required scope '" ++ scope.text ++ "'. Granted: [" ++ granted ++ "]")

def authenticateApiKey (services : AuthServices) (token : String)
    (requiredScope : Option ApiKeyScope) (now : Timestamp) : Admission RequestContext :=
  match ApiKeyService.authenticateKey services.platform services.engine services.env
    services.apiKeys services.store services.storeReachable token none now with
  | none         => .throws
  | some keyAuth =>
    match keyAuth.tenantId.filter fun tenantId => keyAuth.valid && tenantId ≠ "" with
    | none          => .reject ⟨401, Js.orElse keyAuth.errorReason "Invalid API key"⟩
    | some tenantId =>
      match lacksScope requiredScope keyAuth.scopes with
      | none                => .throws
      | some (some message) => .reject ⟨403, message⟩
      | some none           =>
        .pass
          { tenantId
            environment := keyAuth.environment.getD .test
            authType := .apiKey
            scopes := keyAuth.scopes
            user := none }

/-- The context of a session. -/
def sessionContext (user : SessionUser) : RequestContext where
  tenantId := user.tenantId
  environment := .test
  authType := .session
  scopes := none
  user := some user

def supabaseSession (user : SupabaseUser) : SessionUser where
  userId := user.id
  tenantId := Js.orElse user.tenantId (tenantOfUserId user.id)
  email := Js.orElse user.email "merchant@supabase.auth"
  role := Js.orElse (some user.role) "Owner"
  mfaVerified := true

def authenticateSession (services : AuthServices) (token : String) (now : Timestamp) :
    Admission RequestContext :=
  match SessionAuthService.validateSession services.platform services.jwt services.env
    services.sessions services.sessionsReachable token now with
  | .ok user           => .pass (sessionContext user)
  | .error errorReason =>
    match services.verifySupabaseToken token with
    | some user => .pass (sessionContext (supabaseSession user))
    | none      =>
      .reject ⟨401, Js.orElse (some errorReason) "Invalid or unverified authentication token."⟩

def authenticateTenant (services : AuthServices) (requiredScope : Option ApiKeyScope)
    (credentials : RequestCredentials) (now : Timestamp) : Admission RequestContext :=
  match bearerToken? credentials with
  | none       =>
    if services.env.authRequired = some "false" then .pass devContext
    else
      .reject ⟨401, "Missing or malformed Authorization Bearer header or token parameter."⟩
  | some token =>
    if isApiKeyToken token then authenticateApiKey services token requiredScope now
    else authenticateSession services token now

end TenancyEnforcer

/-! ### The second middleware -/

namespace Auth

/-- The secret of a process that sets none, in this part of the program. -/
def JWT_SECRET (env : ProcessEnv) : String :=
  Js.orElse env.jwtSecret SessionAuthService.PROJECT_JWT_SECRET

/-- `req.user`. -/
structure AuthUser where
  userId : String
  role : String
  merchantId : String
  tenantId : String
  jti : Option String
  deriving DecidableEq, Repr

def devUser : AuthUser where
  userId := "dev_operator"
  role := "admin"
  merchantId := "merchant_default"
  tenantId := "tenant_system_default"
  jti := none

/-- Every key is an administrator. -/
def keyUser (tenantId : String) : AuthUser where
  userId := "key_" ++ Js.firstChars 8 tenantId
  role := "admin"
  merchantId := tenantId
  tenantId := tenantId
  jti := none

/-- The text of the first truthy value, or a default. -/
def firstText (values : List (Option Js.Value)) (default : String) : String :=
  ((Js.Value.firstTruthy values).getD (.text default)).toText

def tokenUser (payload : JwtPayload) : AuthUser where
  userId := firstText [payload.userId, payload.id] "dev_operator"
  role := firstText [payload.role] "admin"
  tenantId := firstText [payload.tenantId, payload.merchantId] "tenant_system_default"
  merchantId := firstText [payload.merchantId, payload.tenantId] "tenant_system_default"
  jti := payload.jti.map (·.toText)

def supabaseUser (user : SupabaseUser) : AuthUser where
  userId := user.id
  role := Js.orElse (some user.role) "Owner"
  merchantId := Js.orElse user.tenantId (tenantOfUserId user.id)
  tenantId := Js.orElse user.tenantId (tenantOfUserId user.id)
  jti := none

/-- The word after `Bearer` in the header. -/
def bearerToken (header : String) : String :=
  String.ofList ((header.toList.drop BEARER.length).takeWhile (· ≠ ' '))

/-- The token is not a key that is accepted. -/
def authenticateToken (services : AuthServices) (token : String) (now : Timestamp) :
    Admission AuthUser :=
  match services.jwt.verify token (JWT_SECRET services.env) now with
  | some payload =>
    if (payload.jti.filter (·.truthy)).any fun jti => services.isTokenRevoked jti.toText then
      .reject ⟨401, "Unauthorized: Token has been revoked."⟩
    else .pass (tokenUser payload)
  | none         =>
    match services.verifySupabaseToken token with
    | some user => .pass (supabaseUser user)
    | none      => .reject ⟨401, "Unauthorized: Session token expired or invalid"⟩

def authenticateJWT (services : AuthServices) (credentials : RequestCredentials) (now : Timestamp) :
    Admission AuthUser :=
  match credentials.authorization.filter (· ≠ "") with
  | none        =>
    if services.env.nodeEnv ≠ some "production" ∧ services.env.authRequired = some "false" then
      .pass devUser
    else .reject ⟨401, "Unauthorized: Missing or invalid Authorization Bearer token"⟩
  | some header =>
    if !Js.startsWith header BEARER then
      .reject ⟨401, "Unauthorized: Missing or invalid Authorization Bearer token"⟩
    else
      let token := bearerToken header
      if token = "" then .reject ⟨401, "Unauthorized: Malformed Authorization header"⟩
      else if isApiKeyToken token then
        match ApiKeyService.authenticateKey services.platform services.engine services.env
          services.apiKeys services.store services.storeReachable token none now with
        | none         => .throws
        | some keyAuth =>
          match keyAuth.tenantId.filter fun tenantId => keyAuth.valid && tenantId ≠ "" with
          | some tenantId => .pass (keyUser tenantId)
          | none          => authenticateToken services token now
      else authenticateToken services token now

/-- The roles that a route admits, after `authenticateJWT`. -/
def authorizeRole (allowedRoles : List String) (user : AuthUser) : Admission AuthUser :=
  let userRole := Js.toLowerCase user.role
  let normalizedAllowed := allowedRoles.map Js.toLowerCase
  if userRole = "owner" ∨ userRole = "admin" ∨ userRole ∈ normalizedAllowed ∨
      "*" ∈ normalizedAllowed then .pass user
  else .reject ⟨403, "Forbidden: Insufficient role permissions."⟩

end Auth

/-! ### Created keys -/

/-- A token has a header, a payload and a signature, and `jwt.decode` reads no other text. -/
def Jwt.ReadsThreeParts (jwt : Jwt) : Prop :=
  ∀ token payload, jwt.decode token = some payload → token.toList.count '.' = 2

/-- The service that holds the accounts knows only such tokens. -/
def AuthServices.KnowsThreeParts (services : AuthServices) : Prop :=
  ∀ token user, services.verifySupabaseToken token = some user → token.toList.count '.' = 2

/-- Services without any row, which know no token. -/
def AuthServices.empty : AuthServices where
  platform := .plain
  jwt := { decode := fun _ => none, isSigned := fun _ _ => false }
  engine := .sqlite
  env := .production
  apiKeys := .empty
  store := .empty
  storeReachable := true
  sessions := .empty
  sessionsReachable := true
  verifySupabaseToken := fun _ => none
  isTokenRevoked := fun _ => false

lemma AuthServices.empty_readsThreeParts : AuthServices.empty.jwt.ReadsThreeParts := by
  intro token payload h
  cases h

lemma AuthServices.empty_knowsThreeParts : AuthServices.empty.KnowsThreeParts := by
  intro token user h
  cases h

namespace TenancyEnforcer

variable {services : AuthServices} {requiredScope : Option ApiKeyScope} {token : String}
  {now : Timestamp} {environment : Environment} {material : ApiKeyService.KeyMaterial}

/-- The middleware lets the request pass for the tenant and the environment. -/
def AdmitsAs (services : AuthServices) (requiredScope : Option ApiKeyScope)
    (credentials : RequestCredentials) (now : Timestamp) (tenantId : String)
    (environment : Environment) : Prop :=
  ∃ context, authenticateTenant services requiredScope credentials now = .pass context ∧
    context.tenantId = tenantId ∧ context.environment = environment

/-- A token that is not a key and that Supabase does not know passes as a session. -/
lemma validateSession_of_pass {credentials : RequestCredentials} {context : RequestContext}
    (hbears : bearerToken? credentials = some token) (hkey : isApiKeyToken token = false)
    (hsupabase : services.verifySupabaseToken token = none)
    (hpass : authenticateTenant services requiredScope credentials now = .pass context) :
    ∃ user, SessionAuthService.validateSession services.platform services.jwt services.env
        services.sessions services.sessionsReachable token now = .ok user ∧
      context = sessionContext user := by
  rw [authenticateTenant, hbears] at hpass
  simp only [hkey, Bool.false_eq_true, if_false, authenticateSession, hsupabase] at hpass
  split at hpass
  next user hvalid =>
    cases hpass
    exact ⟨user, hvalid, rfl⟩
  · cases hpass

lemma bearerToken?_bearer (h : ∀ c ∈ token.toList, Js.isWhitespace c = false) :
    bearerToken? (.bearer token) = some token := by
  have hne : BEARER ++ token ≠ "" := by
    rw [ne_eq, ← String.toList_inj, String.toList_append]
    simp [BEARER]
  have hheader : authHeader (.bearer token) = some (BEARER ++ token) := by
    rw [authHeader, RequestCredentials.bearer, Option.filter_some, if_pos (decide_eq_true hne)]
  have hstart : Js.startsWith (BEARER ++ token) BEARER = true := by simp [Js.startsWith]
  rw [bearerToken?, hheader, Option.filter_some, if_pos hstart, Option.map_some,
    ApiKeyService.ofList_drop_append, Js.trim_eq_self h]

/-- The characters of a key: no white space, and one dot. -/
lemma isWhitespace_rawKey :
    ∀ c ∈ (ApiKeyService.rawKeyOf environment material).toList, Js.isWhitespace c = false := by
  have hstart : (ApiKeyService.keyPrefix environment).toList.all (!Js.isWhitespace ·) := by
    cases environment <;> decide
  have hdigits : "0123456789abcdef".toList.all (!Js.isWhitespace ·) := by decide
  have hhex : ∀ c ∈ "0123456789abcdef".toList, Js.isWhitespace c = false := by
    intro c hc
    simpa using List.all_eq_true.mp hdigits c hc
  intro c hc
  rw [ApiKeyService.toList_rawKeyOf] at hc
  simp only [List.mem_append, List.mem_cons] at hc
  rcases hc with (hc | hc) | rfl | hc
  · simpa using List.all_eq_true.mp hstart c hc
  · exact hhex c (material.keyId.isHex c hc)
  · rfl
  · exact hhex c (material.rawSecret.isHex c hc)

lemma count_dot_rawKey :
    (ApiKeyService.rawKeyOf environment material).toList.count '.' = 1 := by
  have hsecret : '.' ∉ material.rawSecret.text.toList := fun hmem =>
    material.rawSecret.ne_of_mem hmem (by decide) rfl
  have hstart : '.' ∉
      (ApiKeyService.keyPrefix environment).toList ++ material.keyId.text.toList := fun hmem =>
    ApiKeyService.ne_dot_of_mem environment material '.' hmem rfl
  rw [ApiKeyService.toList_rawKeyOf, List.count_append, List.count_cons_self,
    List.count_eq_zero.mpr hstart, List.count_eq_zero.mpr hsecret]

lemma isApiKeyToken_rawKey :
    isApiKeyToken (ApiKeyService.rawKeyOf environment material) = false := by
  rw [isApiKeyToken, Js.startsWith, Js.startsWith, ApiKeyService.toList_rawKeyOf]
  cases environment <;> rfl

lemma authenticateSession_of_count (hjwt : services.jwt.ReadsThreeParts)
    (hsupabase : services.KnowsThreeParts) (hcount : token.toList.count '.' ≠ 2) :
    authenticateSession services token now =
      .reject ⟨401, "Invalid session token signature"⟩ := by
  have hdecode : services.jwt.decode token = none :=
    Option.eq_none_iff_forall_ne_some.mpr fun payload h => hcount (hjwt token payload h)
  have huser : services.verifySupabaseToken token = none :=
    Option.eq_none_iff_forall_ne_some.mpr fun user h => hcount (hsupabase token user h)
  simp [authenticateSession, SessionAuthService.validateSession, SessionAuthService.decodeToken,
    Jwt.verify, hdecode, huser, Js.orElse]

/-- A key that was created is refused, before and after any change of the tables, whatever scope is
required. -/
theorem not_admitsAs_createdKey {platform : Platform} {apiKeys apiKeys' : ApiKeyTable}
    {store store' : SupabaseStore.KeyTable} {reachable : Bool}
    {params : ApiKeyService.CreateKeyParams} {key : ApiKeyService.CreatedKey}
    {createdAt : Timestamp}
    (hcreate : ApiKeyService.createApiKey platform apiKeys store reachable params material createdAt =
      .ok (key, apiKeys', store'))
    (hjwt : services.jwt.ReadsThreeParts) (hsupabase : services.KnowsThreeParts) :
    ¬ AdmitsAs services requiredScope (.bearer key.rawKey) now params.tenantId
      params.environment := by
  have hkey : key.rawKey = ApiKeyService.rawKeyOf params.environment material := by
    rw [ApiKeyService.createApiKey] at hcreate
    split at hcreate
    · cases hcreate
    · split at hcreate
      · cases hcreate
      · cases hcreate
        rfl
  have hrefused : authenticateTenant services requiredScope (.bearer key.rawKey) now =
      .reject ⟨401, "Invalid session token signature"⟩ := by
    rw [authenticateTenant, hkey, bearerToken?_bearer isWhitespace_rawKey]
    simp only [isApiKeyToken_rawKey, Bool.false_eq_true, if_false]
    exact authenticateSession_of_count hjwt hsupabase (by rw [count_dot_rawKey]; decide)
  rintro ⟨context, hpass, -⟩
  rw [hrefused] at hpass
  cases hpass

theorem not_admitsAs_sampleKey :
    ¬ AdmitsAs .empty (some .eventsWrite) (.bearer (ApiKeyService.rawKeyOf .live .sample)) 0
      "tenant_a" .live :=
  have hcreate : ApiKeyService.createApiKey .plain .empty .empty true .sample .sample 0 =
    .ok (_, _, _) := rfl
  not_admitsAs_createdKey hcreate AuthServices.empty_readsThreeParts
    AuthServices.empty_knowsThreeParts

/-- A live key of the scope that is required, right after its creation. -/
theorem createdKey_refused :
    ¬ ∀ (services : AuthServices) params material createdAt key apiKeys store requiredScope now,
      ApiKeyService.createApiKey services.platform services.apiKeys services.store
          services.storeReachable params material createdAt = .ok (key, apiKeys, store) →
      services.jwt.ReadsThreeParts → services.KnowsThreeParts →
      key.record.IsLive now → ApiKeyScope.text requiredScope ∈ params.scopes →
        AdmitsAs { services with apiKeys, store } (some requiredScope) (.bearer key.rawKey) now
          params.tenantId params.environment := by
  intro h
  obtain ⟨context, hpass, -⟩ :=
    h .empty .sample .sample 0 _ _ _ .eventsWrite 0 rfl AuthServices.empty_readsThreeParts
      AuthServices.empty_knowsThreeParts ⟨rfl, nofun⟩ (by decide)
  cases hpass

end TenancyEnforcer

end CtrlRecovery
