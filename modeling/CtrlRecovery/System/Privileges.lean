import CtrlRecovery.Routes.Auth

/-!
# Privileges over runs

Sessions are issued by four routes and keys are admitted by one middleware. A session of a membership
comes from signing up and logging in, from the code of an owner, and from refreshing such a session;
a code gives every user an owner's session, and a refresh gives what the presented token says. A key
is an administrator whatever its scopes (`privileged_of_entitled`).
-/

namespace CtrlRecovery

open Core

namespace Privileges

open AuthRoutes

/-- The tables of accounts, with the sessions that were issued. -/
structure PrivilegeState where
  db : IdentityDb
  issued : List IssuedSession

/-- The routes that are restricted to administrators, or to administrators and operators. -/
inductive RestrictedRoute | admins | adminsAndOperators
  deriving DecidableEq, Repr

def RestrictedRoute.allowedRoles : RestrictedRoute → List String
  | .admins             => ["admin"]
  | .adminsAndOperators => ["admin", "operator"]

/-- A request to a route that issues sessions, or of the bearer of a key to a restricted route. -/
inductive PrivilegeCall
  | signup (account : AccountDraw) (draw : SessionDraw) (email businessName : String)
      (passwordHash : Option String)
  | login (draw : SessionDraw) (email password : String)
  | verifyOtp (account : AccountDraw) (draw : SessionDraw) (email passwordHash : String)
      (accepted : Bool)
  | refresh (world : RequestWorld) (isTokenRevoked : String → Bool) (draw : SessionDraw)
      (credentials : RequestCredentials)
  | keyRequest (services : AuthServices) (route : RestrictedRoute)
      (credentials : RequestCredentials) (now : Timestamp)

/-- What a route does, for accounts other than the demo ones. -/
def outcomeOf (process : AuthProcess) (verifyPassword : String → String → Bool) (db : IdentityDb) :
    PrivilegeCall → Option Outcome
  | .signup account draw email businessName passwordHash =>
    AuthRoutes.signup process db account draw email businessName passwordHash
  | .login draw email password =>
    if isDemoEmail email then none
    else AuthRoutes.login process verifyPassword db draw email password
  | .verifyOtp account draw email passwordHash accepted =>
    AuthRoutes.verifyOtp process db account draw email passwordHash accepted
  | .refresh world isTokenRevoked draw credentials =>
    AuthRoutes.refresh process db world isTokenRevoked draw credentials
  | .keyRequest _ _ _ _ => some (db, none)

def step (process : AuthProcess) (verifyPassword : String → String → Bool) (s : PrivilegeState)
    (call : PrivilegeCall) : Option PrivilegeState :=
  (outcomeOf process verifyPassword s.db call).map fun outcome =>
    { db := outcome.1, issued := outcome.2.toList ++ s.issued }

/-! ### Entitlement -/

/-- A scope that permits to write. -/
def HasWriteScope (auth : ApiKeyService.KeyAuth) : Prop :=
  ∃ scopes ∈ auth.scopes,
    scopes.Has "events:write" ∨ scopes.Has "integrations:write" ∨ scopes.Has "*"

/-- The request bears a key that the key service accepts for a tenant. -/
def PresentsKey (services : AuthServices) (credentials : RequestCredentials) (now : Timestamp)
    (auth : ApiKeyService.KeyAuth) : Prop :=
  ∃ token, BearsToJWT credentials token ∧ isApiKeyToken token = true ∧
    ApiKeyService.authenticateKey services.platform services.engine services.env services.apiKeys
      services.store services.storeReachable token none now = some auth ∧
    ∃ tenantId, tenantId ≠ "" ∧ auth.AcceptsFor tenantId

/-- The request passes the two middlewares of a restricted route. -/
def PassesRoute (services : AuthServices) (route : RestrictedRoute)
    (credentials : RequestCredentials) (now : Timestamp) : Prop :=
  ∃ user, Auth.authenticateJWT services credentials now = .pass user ∧
    Auth.authorizeRole route.allowedRoles user = .pass user

/-- Every session is one of a membership, and no key passes a restricted route without a write scope.
-/
def Privileged (_ : PrivilegeState) (call : PrivilegeCall) (t : PrivilegeState) : Prop :=
  (∀ session ∈ t.issued, HoldsMembership t.db session.user) ∧
    match call with
    | .keyRequest services route credentials now =>
      ∀ auth, PresentsKey services credentials now auth →
        PassesRoute services route credentials now → HasWriteScope auth
    | _ => True

/-- The request bears a session that was issued, of a user and a tenant with an id. -/
def BearsIssued (s : PrivilegeState) (credentials : RequestCredentials) : Prop :=
  ∃ session ∈ s.issued, TenancyEnforcer.bearerToken? credentials = some session.token ∧
    session.user.userId ≠ "" ∧ session.user.tenantId ≠ ""

/-- Codes are accepted of owners and of new users, sessions are refreshed that were issued, and the
keys that are presented to restricted routes have a write scope. -/
def Entitled (process : AuthProcess) (s : PrivilegeState) (call : PrivilegeCall)
    (_ : PrivilegeState) : Prop :=
  match call with
  | .verifyOtp _ _ email _ accepted =>
    accepted = true →
      ∀ row ∈ (s.db.tenantAccounts (Js.toLowerCase (Js.trim email))).head?, row.2.role = .owner
  | .refresh world isTokenRevoked draw credentials =>
    ∀ context user, TenancyEnforcer.authenticateTenant
        (process.services world s.db.sessions isTokenRevoked) none credentials draw.now =
          .pass context →
      context.user = some user → BearsIssued s credentials
  | .keyRequest services _ credentials now =>
    ∀ auth, PresentsKey services credentials now auth → HasWriteScope auth
  | _ => True

/-- The service that holds the accounts does not know the tokens that this program has signed. -/
def SupabaseKnowsNone (s : PrivilegeState) (call : PrivilegeCall) (_ : PrivilegeState) : Prop :=
  match call with
  | .refresh world _ _ _ => ∀ session ∈ s.issued, world.verifySupabaseToken session.token = none
  | _ => True

variable {process : AuthProcess} {verifyPassword : String → String → Bool} {s t : PrivilegeState}

/-- Whatever its scopes, a key that is accepted passes every restricted route. -/
theorem passesRoute_of_presentsKey {services : AuthServices} {route : RestrictedRoute}
    {credentials : RequestCredentials} {now : Timestamp} {auth : ApiKeyService.KeyAuth}
    (h : PresentsKey services credentials now auth) :
    PassesRoute services route credentials now := by
  obtain ⟨token, hbears, hkey, hauth, tenantId, hne, hvalid, htenant⟩ := h
  obtain ⟨header, hfilter, hstart, rfl⟩ := exists_header_of_bears hbears
  have htoken_ne : Auth.bearerToken header ≠ "" := by
    intro hempty
    rw [hempty] at hkey
    cases hkey
  have htenantFilter : (auth.tenantId.filter fun tenantId => auth.valid && tenantId ≠ "") =
      some tenantId := by
    simp [htenant, hvalid, hne]
  have hadmin : Js.toLowerCase (Auth.keyUser tenantId).role = "admin" := by
    show Js.toLowerCase "admin" = "admin"
    decide
  refine ⟨Auth.keyUser tenantId, ?_, ?_⟩
  · rw [Auth.authenticateJWT, hfilter]
    simp only [hstart, Bool.not_true, Bool.false_eq_true, if_false, htoken_ne, hkey, if_true, hauth,
      htenantFilter]
  · rw [Auth.authorizeRole]
    exact if_pos (.inr (.inl hadmin))

/-- The sessions that were issued are signed and are of memberships. -/
structure PrivilegeInvariant (process : AuthProcess) (s : PrivilegeState) : Prop where
  holds : ∀ session ∈ s.issued, HoldsMembership s.db session.user
  signed : ∀ session ∈ s.issued, ∃ sessionId at',
    process.jwt.Signs (SessionAuthService.sessionPayload sessionId session.user at')
      (SessionAuthService.getJwtSecret process.env) session.token

lemma PrivilegeInvariant.initial (db : IdentityDb) : PrivilegeInvariant process ⟨db, []⟩ :=
  ⟨nofun, nofun⟩

lemma PrivilegeInvariant.issues (h : PrivilegeInvariant process s) {outcome : Outcome}
    (hissues : Issues process s.db outcome HoldsMembership) :
    PrivilegeInvariant process { db := outcome.1, issued := outcome.2.toList ++ s.issued } := by
  refine ⟨?_, ?_⟩
  · intro session hsession
    rcases List.mem_append.mp hsession with hnew | hold
    · exact hissues.holds session (Option.mem_toList.mp hnew)
    · exact (h.holds session hold).extends hissues.ext
  · intro session hsession
    rcases List.mem_append.mp hsession with hnew | hold
    · exact hissues.signed session (Option.mem_toList.mp hnew)
    · exact h.signed session hold

lemma text_ne_empty (role : UserRole) : role.text ≠ "" := by
  cases role <;> decide

/-- A refresh of a session that was issued issues a session of the same membership. -/
lemma issues_refresh (hjwt : process.jwt.SignsCompact) (h : PrivilegeInvariant process s)
    {world : RequestWorld} {isTokenRevoked : String → Bool} {draw : SessionDraw}
    {credentials : RequestCredentials} {outcome : Outcome}
    (hrefresh : AuthRoutes.refresh process s.db world isTokenRevoked draw credentials = some outcome)
    (hbears : Entitled process s (.refresh world isTokenRevoked draw credentials) t)
    (hsupabase : ∀ session ∈ s.issued, world.verifySupabaseToken session.token = none) :
    Issues process s.db outcome HoldsMembership := by
  rw [AuthRoutes.refresh] at hrefresh
  split at hrefresh
  next context hpass =>
    split at hrefresh
    · cases hrefresh
      exact issues_nothing (List.Subset.refl _)
    next user huser =>
      obtain ⟨session, hsession, htoken, huserId, htenantId⟩ := hbears context user hpass huser
      obtain ⟨sessionId, at', hsigned⟩ := h.signed session hsession
      obtain ⟨-, hkey⟩ := startsWith_eyJ (hjwt _ _ _ hsigned)
      obtain ⟨found, hvalid, rfl⟩ :=
        TenancyEnforcer.validateSession_of_pass htoken hkey (hsupabase session hsession) hpass
      obtain ⟨⟨payload, hdecode, hfound⟩, -⟩ :=
        SessionAuthService.validateSession_eq_ok_iff.mp hvalid
      have hpayload : some payload = some (SessionAuthService.sessionPayload sessionId session.user
          at') := (SessionAuthService.decodeToken_eq_ok_iff.mp hdecode).1.symm.trans hsigned.1
      cases hpayload
      obtain ⟨membership, hmem, hrow⟩ := h.holds session hsession
      have hrole : session.user.role ≠ "" := hrow.2.2 ▸ text_ne_empty _
      obtain ⟨hfoundUser, hfoundTenant, hfoundRole⟩ :=
        SessionAuthService.userOf_sessionPayload hfound huserId htenantId hrole
      cases huser
      have hissue := issues_issue hrefresh
      refine ⟨hissue.ext, ?_, hissue.signed⟩
      intro issued hissued
      obtain ⟨hissuedUser, hsame⟩ := hissue.holds issued hissued
      rw [hissuedUser]
      refine ⟨membership, hsame ▸ hmem, ?_⟩
      simp only [TenancyEnforcer.sessionContext]
      rw [hfoundUser, hfoundTenant, hfoundRole]
      exact hrow
  · cases hrefresh
    exact issues_nothing (List.Subset.refl _)

lemma privilegeInvariant_step {call : PrivilegeCall} (hjwt : process.jwt.SignsCompact)
    (h : PrivilegeInvariant process s) (hstep : step process verifyPassword s call = some t)
    (hentitled : Entitled process s call t) (hsupabase : SupabaseKnowsNone s call t) :
    PrivilegeInvariant process t := by
  obtain ⟨outcome, houtcome, rfl⟩ := Option.map_eq_some_iff.mp hstep
  apply h.issues
  cases call with
  | signup account draw email businessName passwordHash => exact issues_signup houtcome
  | login draw email password =>
    simp only [outcomeOf] at houtcome
    split_ifs at houtcome
    exact issues_login houtcome
  | verifyOtp account draw email passwordHash accepted =>
    cases accepted with
    | true =>
      have hverify : AuthRoutes.verifyOtp process s.db account draw email passwordHash true =
        some outcome := houtcome
      exact issues_verifyOtp hverify (hentitled rfl)
    | false =>
      cases houtcome
      exact issues_nothing (List.Subset.refl _)
  | refresh world isTokenRevoked draw credentials =>
    exact issues_refresh hjwt h houtcome hentitled hsupabase
  | keyRequest services route credentials now =>
    cases houtcome
    exact issues_nothing (List.Subset.refl _)

/-- In every run whose requests are entitled, every session is one of a membership of its user, and
the keys that pass a restricted route have a write scope. -/
theorem privileged_of_entitled {db : IdentityDb} {calls : List PrivilegeCall}
    (hjwt : process.jwt.SignsCompact)
    (hsupabase : AllSteps (step process verifyPassword) SupabaseKnowsNone ⟨db, []⟩ calls)
    (hentitled : AllSteps (step process verifyPassword) (Entitled process) ⟨db, []⟩ calls) :
    AllSteps (step process verifyPassword) Privileged ⟨db, []⟩ calls := by
  apply AllSteps.of_invariant (I := PrivilegeInvariant process)
    (P := fun s call t => Entitled process s call t ∧ SupabaseKnowsNone s call t)
  · exact fun s call t hinv hstep hcall => privilegeInvariant_step hjwt hinv hstep hcall.1 hcall.2
  · intro s call t hinv hstep hcall
    refine ⟨(privilegeInvariant_step hjwt hinv hstep hcall.1 hcall.2).holds, ?_⟩
    cases call with
    | keyRequest services route credentials now => exact fun auth hkey _ => hcall.1 auth hkey
    | signup => trivial
    | login => trivial
    | verifyOtp => trivial
    | refresh => trivial
  · exact .initial db
  · exact hentitled.and hsupabase

/-- A viewer, to evaluate runs on. -/
def sampleDb : IdentityDb where
  tenants := Table.empty.put (IdentityDb.newTenant "tenant_a")
  users := Table.empty.put ⟨"usr_1", "a@shop.in", "hash"⟩
  memberships := Table.empty.put ⟨"mem_1", "usr_1", "tenant_a", .viewer⟩
  sessions := .empty

theorem privileged_login :
    AllSteps (step (.signing .sample) fun _ _ => true) Privileged ⟨sampleDb, []⟩
      [.login ⟨"ses_1", "eyJ.1", 0⟩ "a@shop.in" "password"] :=
  privileged_of_entitled (AuthProcess.signing_signsCompact .sample) (fun _ _ => ⟨trivial, trivial⟩)
    fun _ _ => ⟨trivial, trivial⟩

/-- The viewer signs in with a code, and is an owner. -/
theorem viewer_escalates :
    ¬ ∀ (process : AuthProcess) verifyPassword db calls, process.jwt.SignsCompact →
      AllSteps (step process verifyPassword) SupabaseKnowsNone ⟨db, []⟩ calls →
        AllSteps (step process verifyPassword) Privileged ⟨db, []⟩ calls := by
  intro h
  let owner : SessionUser := { SessionUser.sample with role := "Owner" }
  have hprivileged := (h (.signing owner) (fun _ _ => true) sampleDb
    [.verifyOtp ⟨"tnt_2", "usr_2", "mem_2"⟩ ⟨"ses_1", "eyJ.1", 0⟩ "a@shop.in" "" true]
    (AuthProcess.signing_signsCompact owner) fun _ _ => ⟨trivial, trivial⟩).at_step (.nil _) rfl
  obtain ⟨membership, hmem, -, -, hrole⟩ := hprivileged.1 ⟨"eyJ.1", owner⟩ (List.mem_singleton_self _)
  cases List.mem_singleton.mp hmem
  revert hrole
  decide

end Privileges

end CtrlRecovery
