import CtrlRecovery.Security.Authentication

/-!
# The tenant of a request

Three parts of the gateway ask for the tenant of a request. The rate limiter asks before anyone is
authenticated, so that it gets what the header or the query names; the routes ask afterwards and get
the tenant of the credentials; and the audit record takes the header before anything else. When the
three agree, for two requests with the same credentials, is `usesCredentials_iff`.
-/

namespace CtrlRecovery

namespace TenantGuard

/-- The parts of a request that name a caller or a tenant. -/
structure GatewayRequest where
  credentials : RequestCredentials
  /-- `x-tenant-id`. -/
  tenantHeader : Option String
  /-- `tenant_id` in the query. -/
  queryTenantId : Option Js.Value
  /-- `tenantId` in the query. -/
  queryTenantIdCamel : Option Js.Value
  /-- `tenant_id` in the path. -/
  paramTenantId : Option String
  deriving DecidableEq

/-- What the middlewares have set on a request. A context or a user that is set has a tenant. -/
structure RequestIdentity where
  tenantContext : Option RequestContext
  user : Option Auth.AuthUser
  deriving DecidableEq

namespace RequestIdentity

def anonymous : RequestIdentity := ⟨none, none⟩

/-- The tenant of the credentials. -/
def tenantId? (identity : RequestIdentity) : Option String :=
  match identity.tenantContext with
  | some context => some context.tenantId
  | none         => identity.user.map (·.tenantId)

end RequestIdentity

/-- A text that is not blank, trimmed. -/
def nonBlank (text : String) : Option String :=
  if Js.trim text = "" then none else some (Js.trim text)

/-- The tenant that a request names: in its header, or outside of production in its query. -/
def namedTenant? (env : ProcessEnv) (req : GatewayRequest) : Option String :=
  match req.tenantHeader.bind nonBlank with
  | some tenantId => some tenantId
  | none          =>
    if env.nodeEnv = some "production" then none
    else
      let query := (req.queryTenantId.filter (·.truthy)).or req.queryTenantIdCamel
      (query.bind (·.text?)).bind nonBlank

/-- `resolveTenantId`. No middleware sets a `tenant_id` of the user or a decoded key. -/
def resolveTenantId (env : ProcessEnv) (identity : RequestIdentity) (req : GatewayRequest)
    (allowSystemDefault : Bool) : Option String :=
  match identity.tenantId? with
  | some tenantId => some tenantId
  | none          =>
    match namedTenant? env req with
    | some tenantId => some tenantId
    | none          =>
      if allowSystemDefault ∨ env.authRequired = some "false" ∨ env.nodeEnv = some "test" then
        some "tenant_system_default"
      else none

/-- The tenant whose bucket `tieredRateLimiter` counts the request in. -/
def rateLimitTenant (env : ProcessEnv) (req : GatewayRequest) : String :=
  (resolveTenantId env .anonymous req false).getD "tenant_system_default"

/-- The tenant that `auditLogger` records: the one in the header or else in the path, and otherwise that
of the system; the user has no `tenant_id`. -/
def auditTenant (req : GatewayRequest) : String :=
  Js.orElse ((req.tenantHeader.filter (· ≠ "")).or req.paramTenantId) "tenant_system_default"

/-! ### Routes -/

/-- The middleware that authenticates the requests of a route. -/
inductive Authenticator | jwt | tenant (requiredScope : Option ApiKeyScope) | nobody
  deriving DecidableEq, Repr

/-- How a route is mounted: health checks and the like are not rate limited. -/
structure GatewayRoute where
  rateLimited : Bool
  authenticator : Authenticator
  audited : Bool
  deriving DecidableEq, Repr

/-- What the authentication of a route sets on the request; `none` when it does not let it pass. -/
def authenticate (services : AuthServices) (route : GatewayRoute) (req : GatewayRequest)
    (now : Timestamp) : Option RequestIdentity :=
  match route.authenticator with
  | .jwt                  =>
    match Auth.authenticateJWT services req.credentials now with
    | .pass user => some { RequestIdentity.anonymous with user := some user }
    | _          => none
  | .tenant requiredScope =>
    match TenancyEnforcer.authenticateTenant services requiredScope req.credentials now with
    | .pass context => some { RequestIdentity.anonymous with tenantContext := some context }
    | _             => none
  | .nobody               => some .anonymous

/-- The tenants that a request is counted, looked up and recorded for. -/
structure TenantsUsed where
  rateLimit : Option String
  lookup : Option String
  audit : Option String
  deriving DecidableEq, Repr

/-- A request that is not let in is counted, and neither looked up nor recorded. -/
def tenantsUsed (services : AuthServices) (route : GatewayRoute) (req : GatewayRequest)
    (now : Timestamp) : TenantsUsed :=
  let rateLimit := if route.rateLimited then some (rateLimitTenant services.env req) else none
  match authenticate services route req now with
  | none          => ⟨rateLimit, none, none⟩
  | some identity =>
    { rateLimit
      lookup := resolveTenantId services.env identity req false
      audit := if route.audited then some (auditTenant req) else none }

/-! ### One tenant for a request -/

/-- The same request with other names of a tenant. -/
def rename (req : GatewayRequest) (tenantHeader : Option String)
    (queryTenantId queryTenantIdCamel : Option Js.Value) : GatewayRequest :=
  { req with tenantHeader, queryTenantId, queryTenantIdCamel }

/-- Everything that is used is the given tenant. -/
def TenantsUsed.AllAre (used : TenantsUsed) (tenantId : String) : Prop :=
  (∀ rateLimit ∈ used.rateLimit, rateLimit = tenantId) ∧ used.lookup = some tenantId ∧
    ∀ audit ∈ used.audit, audit = tenantId

/-- Two requests use the same tenants, and those of the credentials when they have one. -/
def UsesCredentials (services : AuthServices) (route : GatewayRoute) (req req' : GatewayRequest)
    (now : Timestamp) : Prop :=
  tenantsUsed services route req now = tenantsUsed services route req' now ∧
    ∀ identity ∈ authenticate services route req now, ∀ tenantId ∈ identity.tenantId?,
      (tenantsUsed services route req now).AllAre tenantId

/-- The tenant that a request names, and otherwise that of the system. -/
def namedTenant (env : ProcessEnv) (req : GatewayRequest) : String :=
  (namedTenant? env req).getD "tenant_system_default"

/-- The tenant that a development or test process lets an unnamed request have. -/
def defaultTenant? (env : ProcessEnv) : Option String :=
  if env.authRequired = some "false" ∨ env.nodeEnv = some "test" then some "tenant_system_default"
  else none

/-- On a route that is rate limited both requests name the same tenant, and on one that is audited
they have the same tenant in their headers; it is the one of the credentials when they have one, and
on a route without authentication both name the same tenant or none. -/
def NamesCredentials (services : AuthServices) (route : GatewayRoute) (req req' : GatewayRequest)
    (now : Timestamp) : Prop :=
  (route.rateLimited = true → namedTenant services.env req = namedTenant services.env req') ∧
    ∀ identity ∈ authenticate services route req now,
      (route.audited = true → auditTenant req = auditTenant req') ∧
        match identity.tenantId? with
        | some tenantId =>
          (route.rateLimited = true → namedTenant services.env req = tenantId) ∧
            (route.audited = true → auditTenant req = tenantId)
        | none          =>
          (namedTenant? services.env req).or (defaultTenant? services.env) =
            (namedTenant? services.env req').or (defaultTenant? services.env)

variable {services : AuthServices} {route : GatewayRoute} {req : GatewayRequest} {now : Timestamp}
  {tenantHeader : Option String} {queryTenantId queryTenantIdCamel : Option Js.Value}

@[simp] lemma authenticate_rename :
    authenticate services route (rename req tenantHeader queryTenantId queryTenantIdCamel) now =
      authenticate services route req now := rfl

lemma resolveTenantId_of_identity {env : ProcessEnv} {identity : RequestIdentity}
    {tenantId : String} {allowSystemDefault : Bool} (h : identity.tenantId? = some tenantId) :
    resolveTenantId env identity req allowSystemDefault = some tenantId := by
  rw [resolveTenantId, h]

lemma resolveTenantId_of_none {env : ProcessEnv} {identity : RequestIdentity}
    (h : identity.tenantId? = none) :
    resolveTenantId env identity req false = (namedTenant? env req).or (defaultTenant? env) := by
  rw [resolveTenantId, h]
  cases namedTenant? env req <;> simp [defaultTenant?]

lemma rateLimitTenant_eq (env : ProcessEnv) (req : GatewayRequest) :
    rateLimitTenant env req = namedTenant env req := by
  rw [rateLimitTenant, resolveTenantId_of_none rfl, namedTenant, defaultTenant?]
  cases namedTenant? env req with
  | some tenantId => rfl
  | none => split_ifs <;> rfl

/-- Two requests with the same credentials use the tenant of these throughout exactly when they name
it, where the gateway reads the name. -/
theorem usesCredentials_iff :
    UsesCredentials services route req
        (rename req tenantHeader queryTenantId queryTenantIdCamel) now ↔
      NamesCredentials services route req
        (rename req tenantHeader queryTenantId queryTenantIdCamel) now := by
  rw [UsesCredentials, NamesCredentials, tenantsUsed, tenantsUsed, authenticate_rename]
  simp only [rateLimitTenant_eq]
  cases authenticate services route req now with
  | none => cases route.rateLimited <;> simp
  | some identity =>
    cases htenant : identity.tenantId? with
    | some tenantId =>
      simp only [resolveTenantId_of_identity htenant, TenantsUsed.AllAre]
      cases route.rateLimited <;> cases route.audited <;> simp [htenant]
      tauto
    | none =>
      simp only [resolveTenantId_of_none htenant]
      cases route.rateLimited <;> cases route.audited <;> simp [htenant]
      all_goals tauto

/-- The routes of opportunities. -/
def opportunitiesRoute : GatewayRoute := ⟨true, .jwt, true⟩

/-- A signed token of tenant B, without a header and with one of tenant A. -/
theorem header_decides :
    ¬ ∀ services route req tenantHeader queryTenantId queryTenantIdCamel now,
      UsesCredentials services route req
        (rename req tenantHeader queryTenantId queryTenantIdCamel) now := by
  intro h
  let jwt : Jwt :=
    { decode := fun _ => some { JwtPayload.blank with
        userId := some (.text "usr_1")
        tenantId := some (.text "tenant_b") }
      isSigned := fun _ _ => true }
  have hused := (h { AuthServices.empty with jwt } opportunitiesRoute
    ⟨.bearer "token", none, none, none, none⟩ (some "tenant_a") none none 0).1
  revert hused
  decide

end TenantGuard

end CtrlRecovery
