import CtrlRecovery.Core.Run
import CtrlRecovery.Core.TtlStore
import CtrlRecovery.Security.Authentication

/-!
# Ending sessions

`POST /logout` and `POST /refresh` mark the row of a session, found by the hash of the token in the
header. `authenticateTenant` refuses a token whose row is marked; `authenticateJWT` never looks at the
row, only at a list of revoked token ids, and the tokens of sessions have none. An ended session is
refused when its token reaches `authenticateJWT` only after its expiry, when the request that ended it
had the token in the header, and when the lookups of its row succeed (`notAdmitted_of_guarded`).
-/

namespace CtrlRecovery

open Core

/-! ### Revoking rows -/

namespace SessionAuthService

/-- `UPDATE sessions SET revoked_at = ? WHERE … AND revoked_at IS NULL`. -/
def revokeWhere (sessions : SessionTable) (selects : SessionRecord → Bool) (now : Timestamp) :
    SessionTable :=
  sessions.updateWhere (fun session => selects session && session.revokedAt.isNone)
    (fun session => { session with revokedAt := some now }) fun _ => rfl

def revokeSession (sessions : SessionTable) (sessionId : String) (now : Timestamp) :
    SessionTable :=
  revokeWhere sessions (fun session => session.id = sessionId) now

def revokeSessionByToken (platform : Platform) (sessions : SessionTable) (token : String)
    (now : Timestamp) : SessionTable :=
  revokeWhere sessions (fun session => session.tokenHash = platform.sha256 token) now

variable {sessions : SessionTable} {selects : SessionRecord → Bool} {now : Timestamp}
  {session : SessionRecord}

lemma mem_revokeWhere (h : session ∈ (revokeWhere sessions selects now).rows) :
    ∃ old ∈ sessions.rows, session.tokenHash = old.tokenHash ∧
      (session.revokedAt = none → old.revokedAt = none ∧ selects old = false) := by
  obtain ⟨old, hmem, rfl⟩ := Table.mem_updateWhere.mp h
  refine ⟨old, hmem, ?_⟩
  split_ifs with hselected
  · exact ⟨rfl, nofun⟩
  · refine ⟨rfl, fun hnone => ⟨hnone, ?_⟩⟩
    simpa [hnone] using hselected

lemma exists_revokeWhere (h : session ∈ sessions.rows) :
    ∃ row ∈ (revokeWhere sessions selects now).rows, row.tokenHash = session.tokenHash := by
  refine ⟨_, Table.mem_updateWhere.mpr ⟨session, h, rfl⟩, ?_⟩
  split_ifs <;> rfl

end SessionAuthService

/-! ### Requests over time -/

/-- What stays the same in a process. -/
structure AuthProcess where
  platform : Platform
  jwt : Jwt
  engine : DbEngine
  env : ProcessEnv

/-- What a request finds besides the sessions and the cache. -/
structure RequestWorld where
  apiKeys : ApiKeyTable
  store : SupabaseStore.KeyTable
  storeReachable : Bool
  sessionsReachable : Bool
  verifySupabaseToken : String → Option SupabaseUser

/-- What the middlewares are given for a request. -/
def AuthProcess.services (process : AuthProcess) (world : RequestWorld) (sessions : SessionTable)
    (isTokenRevoked : String → Bool) : AuthServices where
  platform := process.platform
  jwt := process.jwt
  engine := process.engine
  env := process.env
  apiKeys := world.apiKeys
  store := world.store
  storeReachable := world.storeReachable
  sessions := sessions
  sessionsReachable := world.sessionsReachable
  verifySupabaseToken := world.verifySupabaseToken
  isTokenRevoked := isTokenRevoked

/-- The sessions and the cache, with the tokens that were issued and those of them for which a logout
or a refresh has succeeded. -/
structure SessionState where
  sessions : SessionTable
  cache : TtlStore String String
  issued : List String
  ended : List String

namespace SessionState

def initial : SessionState := ⟨.empty, .empty, [], []⟩

/-- `isTokenRevoked`. -/
def isTokenRevoked (s : SessionState) (now : Timestamp) (jti : String) : Bool :=
  s.cache.get now ("revoked:jti:" ++ jti) = some "1"

def services (process : AuthProcess) (s : SessionState) (world : RequestWorld) (now : Timestamp) :
    AuthServices :=
  process.services world s.sessions (s.isTokenRevoked now)

end SessionState

/-- A request, or traffic of the tables and the cache. -/
inductive SessionCall
  | createSession (sessionId token : String) (user : SessionUser) (now : Timestamp)
  | revokeSession (sessionId : String) (now : Timestamp)
  | logout (world : RequestWorld) (credentials : RequestCredentials) (now : Timestamp)
  | refresh (world : RequestWorld) (credentials : RequestCredentials) (sessionId token : String)
      (now : Timestamp)
  | cacheSet (key value : String) (ttl : ℕ) (now : Timestamp)
  | cacheDel (key : String)
  | tenantRequest (world : RequestWorld) (requiredScope : Option ApiKeyScope)
      (credentials : RequestCredentials) (now : Timestamp)
  | jwtRequest (world : RequestWorld) (credentials : RequestCredentials) (now : Timestamp)

namespace SessionCall

/-- The token in the header, as the two routes read it. -/
def headerToken? (credentials : RequestCredentials) : Option String :=
  credentials.authorization.map fun header =>
    Js.trim (String.ofList (header.toList.drop BEARER.length))

/-- `revokeSessionByToken` for the token that a route has read, if it has read one. -/
def revokeRead (process : AuthProcess) (sessions : SessionTable) (read : Option String)
    (now : Timestamp) : SessionTable :=
  match read with
  | some token => SessionAuthService.revokeSessionByToken process.platform sessions token now
  | none       => sessions

/-- The token that a logout revokes. -/
def logoutToken? (credentials : RequestCredentials) : Option String :=
  (credentials.authorization.filter fun header => Js.startsWith header BEARER).bind fun _ =>
    headerToken? credentials

/-- The token that a refresh revokes. -/
def refreshToken? (credentials : RequestCredentials) : Option String :=
  (headerToken? credentials).filter (· ≠ "")

/-- The session token that a request bears. -/
def sessionToken (s : SessionState) (credentials : RequestCredentials) : List String :=
  ((TenancyEnforcer.bearerToken? credentials).filter fun token => token ∈ s.issued).toList

end SessionCall

open SessionCall

/-- `createSession` with the token that `jwt.sign` gives: the table after it, or `none` within when
the insert fails. -/
def signAndStore (process : AuthProcess) (sessions : SessionTable) (sessionId token : String)
    (user : SessionUser) (now : Timestamp) : Option (Option SessionTable) :=
  if process.jwt.Signs (SessionAuthService.sessionPayload sessionId user now)
      (SessionAuthService.getJwtSecret process.env) token then
    some (SessionAuthService.createSession process.platform sessions sessionId token user now)
  else none

def sessionStep (process : AuthProcess) (s : SessionState) : SessionCall → Option SessionState
  | .createSession sessionId token user now =>
    (signAndStore process s.sessions sessionId token user now).map fun
      | none          => s
      | some sessions => { s with sessions, issued := token :: s.issued }
  | .revokeSession sessionId now =>
    some { s with sessions := SessionAuthService.revokeSession s.sessions sessionId now }
  | .logout world credentials now =>
    match TenancyEnforcer.authenticateTenant (s.services process world now) none credentials now with
    | .pass _ =>
      some { s with
        sessions := revokeRead process s.sessions (logoutToken? credentials) now
        ended := sessionToken s credentials ++ s.ended }
    | _       => some s
  | .refresh world credentials sessionId token now =>
    match TenancyEnforcer.authenticateTenant (s.services process world now) none credentials now with
    | .pass context =>
      match context.user with
      | none      => some s
      | some user =>
        let revoked := revokeRead process s.sessions (refreshToken? credentials) now
        (signAndStore process revoked sessionId token { user with tenantId := context.tenantId }
          now).map fun
            | none          => { s with sessions := revoked }
            | some sessions =>
              { s with
                sessions
                issued := token :: s.issued
                ended := sessionToken s credentials ++ s.ended }
    | _             => some s
  | .cacheSet key value ttl now => some { s with cache := s.cache.set now key value ttl }
  | .cacheDel key               => some { s with cache := s.cache.del key }
  | .tenantRequest _ _ _ _      => some s
  | .jwtRequest _ _ _           => some s

/-! ### Ended sessions -/

/-- The request bears the token in the header that `authenticateJWT` reads. -/
def BearsToJWT (credentials : RequestCredentials) (token : String) : Prop :=
  (credentials.authorization.filter fun header => Js.startsWith header BEARER).map
    Auth.bearerToken = some token

lemma exists_header_of_bears {credentials : RequestCredentials} {token : String}
    (h : BearsToJWT credentials token) :
    ∃ header, credentials.authorization.filter (· ≠ "") = some header ∧
      Js.startsWith header BEARER = true ∧ Auth.bearerToken header = token := by
  obtain ⟨header, hheader, htoken⟩ := Option.map_eq_some_iff.mp h
  obtain ⟨hheader, hstart⟩ := Option.filter_eq_some_iff.mp hheader
  have hne : header ≠ "" := by
    rintro rfl
    cases hstart
  refine ⟨header, ?_, hstart, htoken⟩
  rw [hheader, Option.filter_some, if_pos (decide_eq_true hne)]

/-- No middleware admits a request that bears the token of an ended session. -/
def NotAdmitted (process : AuthProcess) (s : SessionState) (call : SessionCall)
    (_ : SessionState) : Prop :=
  match call with
  | .tenantRequest world requiredScope credentials now =>
    ∀ token ∈ s.ended, TenancyEnforcer.bearerToken? credentials = some token → ∀ context,
      TenancyEnforcer.authenticateTenant (s.services process world now) requiredScope credentials
        now ≠ .pass context
  | .logout world credentials now | .refresh world credentials _ _ now =>
    ∀ token ∈ s.ended, TenancyEnforcer.bearerToken? credentials = some token → ∀ context,
      TenancyEnforcer.authenticateTenant (s.services process world now) none credentials now ≠
        .pass context
  | .jwtRequest world credentials now =>
    ∀ token ∈ s.ended, BearsToJWT credentials token → ∀ user,
      Auth.authenticateJWT (s.services process world now) credentials now ≠ .pass user
  | _ => True

/-- The lookup of an ended session succeeds. -/
def LooksUpEnded (s : SessionState) (world : RequestWorld) (credentials : RequestCredentials) :
    Prop :=
  ∀ token ∈ s.ended, TenancyEnforcer.bearerToken? credentials = some token →
    world.sessionsReachable = true

/-- The session that a request ends is the one of its header. -/
def EndsHeader (s : SessionState) (credentials : RequestCredentials) : Prop :=
  ∀ token ∈ s.issued, TenancyEnforcer.bearerToken? credentials = some token →
    (credentials.authorization.filter (· ≠ "")).isSome

/-- Lookups of ended sessions succeed, sessions are ended by their headers, and the tokens of ended
sessions reach `authenticateJWT` only after they have expired. -/
def Guarded (process : AuthProcess) (s : SessionState) (call : SessionCall) (_ : SessionState) :
    Prop :=
  match call with
  | .tenantRequest world _ credentials _ => LooksUpEnded s world credentials
  | .logout world credentials _ | .refresh world credentials _ _ _ =>
    LooksUpEnded s world credentials ∧ EndsHeader s credentials
  | .jwtRequest _ credentials now =>
    ∀ token ∈ s.ended, BearsToJWT credentials token →
      process.jwt.verify token (Auth.JWT_SECRET process.env) now = none
  | _ => True

/-- A signed token starts with the encoding of its header, a JSON object. -/
def Jwt.SignsCompact (jwt : Jwt) : Prop :=
  ∀ payload secret token, jwt.Signs payload secret token → Js.startsWith token "eyJ" = true

/-- The service that holds the accounts does not know the tokens that this program has signed. -/
def SupabaseKnowsNone (s : SessionState) (call : SessionCall) (_ : SessionState) : Prop :=
  match call with
  | .tenantRequest world _ _ _ | .logout world _ _ | .refresh world _ _ _ _ | .jwtRequest world _ _ =>
    ∀ token ∈ s.issued, world.verifySupabaseToken token = none
  | _ => True

instance (s : SessionState) (world : RequestWorld) (credentials : RequestCredentials) :
    Decidable (LooksUpEnded s world credentials) :=
  inferInstanceAs (Decidable (∀ _ ∈ _, _ → _))

instance (s : SessionState) (credentials : RequestCredentials) :
    Decidable (EndsHeader s credentials) :=
  inferInstanceAs (Decidable (∀ _ ∈ _, _ → _))

instance (process : AuthProcess) (s t : SessionState) (call : SessionCall) :
    Decidable (Guarded process s call t) :=
  match call with
  | .tenantRequest _ _ _ _   => inferInstanceAs (Decidable (LooksUpEnded _ _ _))
  | .logout _ _ _            => inferInstanceAs (Decidable (_ ∧ _))
  | .refresh _ _ _ _ _       => inferInstanceAs (Decidable (_ ∧ _))
  | .jwtRequest _ _ _        => inferInstanceAs (Decidable (∀ _ ∈ _, _ = _ → _ = _))
  | .createSession _ _ _ _   => isTrue trivial
  | .revokeSession _ _       => isTrue trivial
  | .cacheSet _ _ _ _        => isTrue trivial
  | .cacheDel _              => isTrue trivial

instance (s t : SessionState) (call : SessionCall) : Decidable (SupabaseKnowsNone s call t) :=
  match call with
  | .tenantRequest _ _ _ _   => inferInstanceAs (Decidable (∀ _ ∈ _, _ = _))
  | .logout _ _ _            => inferInstanceAs (Decidable (∀ _ ∈ _, _ = _))
  | .refresh _ _ _ _ _       => inferInstanceAs (Decidable (∀ _ ∈ _, _ = _))
  | .jwtRequest _ _ _        => inferInstanceAs (Decidable (∀ _ ∈ _, _ = _))
  | .createSession _ _ _ _   => isTrue trivial
  | .revokeSession _ _       => isTrue trivial
  | .cacheSet _ _ _ _        => isTrue trivial
  | .cacheDel _              => isTrue trivial

/-- Issued tokens are signed and have a row, and the rows of ended sessions are revoked. -/
structure SessionInvariant (process : AuthProcess) (s : SessionState) : Prop where
  signed : ∀ token ∈ s.issued, Js.startsWith token "eyJ" = true
  recorded : ∀ token ∈ s.issued, ∃ session ∈ s.sessions.rows,
    session.tokenHash = process.platform.sha256 token
  endedIssued : s.ended ⊆ s.issued
  endedRevoked : ∀ token ∈ s.ended, ∀ session ∈ s.sessions.rows,
    session.tokenHash = process.platform.sha256 token → session.revokedAt ≠ none

variable {process : AuthProcess} {s t : SessionState} {world : RequestWorld}
  {credentials : RequestCredentials} {requiredScope : Option ApiKeyScope} {token : String}
  {now : Timestamp}

lemma SessionInvariant.initial : SessionInvariant process .initial where
  signed := nofun
  recorded := nofun
  endedIssued := nofun
  endedRevoked := nofun

lemma startsWith_eyJ (h : Js.startsWith token "eyJ" = true) :
    token ≠ "" ∧ isApiKeyToken token = false := by
  rw [Js.startsWith, List.isPrefixOf_iff_prefix] at h
  obtain ⟨rest, hrest⟩ := h
  refine ⟨?_, ?_⟩
  · rintro rfl
    cases hrest
  · rw [isApiKeyToken, Js.startsWith, Js.startsWith, ← hrest]
    rfl

/-- The sessions service refuses a token whose rows are revoked. -/
lemma validateSession_of_revoked (h : SessionInvariant process s) (htoken : token ∈ s.ended)
    (user : SessionUser) :
    SessionAuthService.validateSession process.platform process.jwt process.env s.sessions true
      token now ≠ .ok user := by
  intro hvalid
  obtain ⟨-, hlive⟩ := SessionAuthService.validateSession_eq_ok_iff.mp hvalid
  obtain ⟨session, hmem, hhash⟩ := h.recorded token (h.endedIssued htoken)
  have hfound : session ∈
      SessionAuthService.findSessions process.platform s.sessions true token := by
    simp [SessionAuthService.findSessions, hmem, hhash]
  obtain ⟨first, rest, hfirst⟩ := List.exists_cons_of_ne_nil (List.ne_nil_of_mem hfound)
  have hfirst_mem : first ∈
      SessionAuthService.findSessions process.platform s.sessions true token := by simp [hfirst]
  rw [SessionAuthService.findSessions, if_pos rfl, List.mem_filter, decide_eq_true_iff]
    at hfirst_mem
  exact h.endedRevoked token htoken first hfirst_mem.1 hfirst_mem.2
    (hlive first (by simp [hfirst])).1

lemma authenticateTenant_of_ended (h : SessionInvariant process s) (htoken : token ∈ s.ended)
    (hbears : TenancyEnforcer.bearerToken? credentials = some token)
    (hreachable : world.sessionsReachable = true)
    (hsupabase : world.verifySupabaseToken token = none) (context : RequestContext) :
    TenancyEnforcer.authenticateTenant (s.services process world now) requiredScope credentials now ≠
      .pass context := by
  obtain ⟨-, hkey⟩ := startsWith_eyJ (h.signed token (h.endedIssued htoken))
  intro hpass
  obtain ⟨user, hvalid, -⟩ :=
    TenancyEnforcer.validateSession_of_pass hbears hkey hsupabase hpass
  rw [SessionState.services, AuthProcess.services, hreachable] at hvalid
  exact validateSession_of_revoked h htoken user hvalid

lemma authenticateJWT_of_expired (hsigned : Js.startsWith token "eyJ" = true)
    (hbears : BearsToJWT credentials token)
    (hverify : process.jwt.verify token (Auth.JWT_SECRET process.env) now = none)
    (hsupabase : world.verifySupabaseToken token = none) (user : Auth.AuthUser) :
    Auth.authenticateJWT (s.services process world now) credentials now ≠ .pass user := by
  obtain ⟨hne, hkey⟩ := startsWith_eyJ hsigned
  obtain ⟨header, hfilter, hstart, rfl⟩ := exists_header_of_bears hbears
  rw [Auth.authenticateJWT, hfilter]
  simp [hstart, hne, hkey, Auth.authenticateToken, SessionState.services, AuthProcess.services,
    hverify, hsupabase]

lemma notAdmitted_step {call : SessionCall} (h : SessionInvariant process s)
    (hguarded : Guarded process s call t) (hsupabase : SupabaseKnowsNone s call t) :
    NotAdmitted process s call t := by
  cases call with
  | tenantRequest world requiredScope credentials now =>
    intro token htoken hbears
    exact authenticateTenant_of_ended h htoken hbears (hguarded token htoken hbears)
      (hsupabase token (h.endedIssued htoken))
  | logout world credentials now =>
    intro token htoken hbears
    exact authenticateTenant_of_ended h htoken hbears (hguarded.1 token htoken hbears)
      (hsupabase token (h.endedIssued htoken))
  | refresh world credentials sessionId new now =>
    intro token htoken hbears
    exact authenticateTenant_of_ended h htoken hbears (hguarded.1 token htoken hbears)
      (hsupabase token (h.endedIssued htoken))
  | jwtRequest world credentials now =>
    intro token htoken hbears
    exact authenticateJWT_of_expired (h.signed token (h.endedIssued htoken)) hbears
      (hguarded token htoken hbears) (hsupabase token (h.endedIssued htoken))
  | createSession => trivial
  | revokeSession => trivial
  | cacheSet => trivial
  | cacheDel => trivial

/-! ### The invariant over the calls -/

/-- The token that authenticates a request with a header is the one that the routes revoke. -/
lemma headerToken?_of_bears (hbears : TenancyEnforcer.bearerToken? credentials = some token)
    (hheader : (credentials.authorization.filter (· ≠ "")).isSome) :
    ∃ header, credentials.authorization = some header ∧ Js.startsWith header BEARER = true ∧
      headerToken? credentials = some token := by
  obtain ⟨header, hfilter⟩ := Option.isSome_iff_exists.mp hheader
  have hauthorization : credentials.authorization = some header :=
    (Option.filter_eq_some_iff.mp hfilter).1
  rw [TenancyEnforcer.bearerToken?, TenancyEnforcer.authHeader, hfilter] at hbears
  obtain ⟨header', hstart, htoken⟩ := Option.map_eq_some_iff.mp hbears
  obtain ⟨heq, hstart⟩ := Option.filter_eq_some_iff.mp hstart
  cases heq
  exact ⟨header, hauthorization, hstart, by rw [headerToken?, hauthorization, Option.map_some, htoken]⟩

lemma mem_sessionToken (h : token ∈ sessionToken s credentials) :
    token ∈ s.issued ∧ TenancyEnforcer.bearerToken? credentials = some token := by
  rw [sessionToken, Option.mem_toList, Option.filter_eq_some_iff] at h
  exact ⟨by simpa using h.2, h.1⟩

/-- A revocation keeps the invariant; the sessions that it ends are those whose rows it selects. -/
lemma SessionInvariant.revoke (h : SessionInvariant process s) {selects : SessionRecord → Bool}
    {ended : List String}
    (hended : ∀ token ∈ ended, token ∈ s.ended ∨ (token ∈ s.issued ∧
      ∀ session : SessionRecord, session.tokenHash = process.platform.sha256 token →
        selects session = true)) :
    SessionInvariant process
      { s with sessions := SessionAuthService.revokeWhere s.sessions selects now, ended } where
  signed := h.signed
  recorded token htoken := by
    obtain ⟨session, hmem, hhash⟩ := h.recorded token htoken
    obtain ⟨row, hrow, hsame⟩ := SessionAuthService.exists_revokeWhere hmem
    exact ⟨row, hrow, hsame.trans hhash⟩
  endedIssued token htoken := by
    rcases hended token htoken with htoken | ⟨hissued, -⟩
    · exact h.endedIssued htoken
    · exact hissued
  endedRevoked token htoken session hsession hhash := by
    obtain ⟨old, hold, hsame, hrevoked⟩ := SessionAuthService.mem_revokeWhere hsession
    rw [hsame] at hhash
    intro hnone
    obtain ⟨holdNone, hselects⟩ := hrevoked hnone
    rcases hended token htoken with htoken | ⟨-, hall⟩
    · exact h.endedRevoked token htoken old hold hhash holdNone
    · rw [hall old hhash] at hselects
      cases hselects

/-- A new session has a token that no row had. -/
lemma SessionInvariant.store (h : SessionInvariant process s) {sessionId : String}
    {user : SessionUser} {sessions : SessionTable} (hsigned : Js.startsWith token "eyJ" = true)
    (hcreate : SessionAuthService.createSession process.platform s.sessions sessionId token user
      now = some sessions) :
    SessionInvariant process { s with sessions, issued := token :: s.issued } := by
  rw [SessionAuthService.createSession] at hcreate
  split_ifs at hcreate with hfresh
  have hrows := Table.rows_of_insert? hcreate
  have hunused : ∀ session ∈ s.sessions.rows,
      session.tokenHash ≠ process.platform.sha256 token := by simpa using hfresh
  refine ⟨?_, ?_, List.subset_cons_of_subset _ h.endedIssued, ?_⟩
  · intro token' htoken'
    rcases List.mem_cons.mp htoken' with rfl | htoken'
    · exact hsigned
    · exact h.signed token' htoken'
  · intro token' htoken'
    simp only [hrows, List.mem_append, List.mem_singleton]
    rcases List.mem_cons.mp htoken' with rfl | htoken'
    · exact ⟨_, .inr rfl, rfl⟩
    · obtain ⟨session, hmem, hhash⟩ := h.recorded token' htoken'
      exact ⟨session, .inl hmem, hhash⟩
  · intro token' htoken' session hsession hhash
    simp only [hrows, List.mem_append, List.mem_singleton] at hsession
    rcases hsession with hsession | rfl
    · exact h.endedRevoked token' htoken' session hsession hhash
    · -- an ended session has a row, and the new row has another hash
      obtain ⟨old, hold, holdHash⟩ := h.recorded token' (h.endedIssued htoken')
      exact absurd (holdHash.trans hhash.symm) (hunused old hold)

/-- A route that reads the session token of the request revokes its session. -/
lemma SessionInvariant.revokeRead (h : SessionInvariant process s) {read : Option String}
    {ended : List String} (hread : ∀ token ∈ sessionToken s credentials, read = some token)
    (hended : ∀ token ∈ ended, token ∈ s.ended ∨ token ∈ sessionToken s credentials) :
    SessionInvariant process
      { s with sessions := SessionCall.revokeRead process s.sessions read now, ended } := by
  cases read with
  | none =>
    have hsub : ended ⊆ s.ended := by
      intro token htoken
      rcases hended token htoken with htoken | htoken
      · exact htoken
      · cases hread token htoken
    exact ⟨h.signed, h.recorded, List.Subset.trans hsub h.endedIssued,
      fun token htoken => h.endedRevoked token (hsub htoken)⟩
  | some found =>
    apply h.revoke
    intro token htoken
    rcases hended token htoken with htoken | htoken
    · exact .inl htoken
    · cases hread token htoken
      exact .inr ⟨(mem_sessionToken htoken).1, fun session hhash => decide_eq_true hhash⟩

lemma logoutToken?_of_mem (hheader : EndsHeader s credentials)
    (h : token ∈ sessionToken s credentials) : logoutToken? credentials = some token := by
  obtain ⟨hissued, hbears⟩ := mem_sessionToken h
  obtain ⟨header, hauthorization, hstart, hread⟩ :=
    headerToken?_of_bears hbears (hheader token hissued hbears)
  rw [logoutToken?, hauthorization, Option.filter_some, if_pos hstart, Option.bind_some, hread]

lemma refreshToken?_of_mem (hinv : SessionInvariant process s)
    (hheader : EndsHeader s credentials) (h : token ∈ sessionToken s credentials) :
    refreshToken? credentials = some token := by
  obtain ⟨hissued, hbears⟩ := mem_sessionToken h
  obtain ⟨-, -, -, hread⟩ := headerToken?_of_bears hbears (hheader token hissued hbears)
  have hne : token ≠ "" := (startsWith_eyJ (hinv.signed token hissued)).1
  rw [refreshToken?, hread, Option.filter_some, if_pos (decide_eq_true hne)]

lemma SessionInvariant.signAndStore (h : SessionInvariant process s) (hjwt : process.jwt.SignsCompact)
    {sessionId : String} {user : SessionUser} {sessions : SessionTable}
    (hsign : CtrlRecovery.signAndStore process s.sessions sessionId token user now =
      some (some sessions)) :
    SessionInvariant process { s with sessions, issued := token :: s.issued } := by
  rw [CtrlRecovery.signAndStore] at hsign
  split_ifs at hsign with hsigned
  exact h.store (hjwt _ _ _ hsigned) (Option.some.inj hsign)

lemma sessionInvariant_step {call : SessionCall} (hjwt : process.jwt.SignsCompact)
    (h : SessionInvariant process s) (hstep : sessionStep process s call = some t)
    (hguarded : Guarded process s call t) : SessionInvariant process t := by
  cases call with
  | createSession sessionId token user now =>
    obtain ⟨stored, hsign, rfl⟩ := Option.map_eq_some_iff.mp hstep
    cases stored with
    | none => exact h
    | some sessions => exact h.signAndStore hjwt hsign
  | revokeSession sessionId now =>
    cases hstep
    exact h.revoke fun token htoken => .inl htoken
  | logout world credentials now =>
    simp only [sessionStep] at hstep
    split at hstep
    · cases hstep
      have hread : ∀ token ∈ sessionToken s credentials, logoutToken? credentials = some token :=
        fun token htoken => logoutToken?_of_mem hguarded.2 htoken
      exact h.revokeRead hread fun token htoken => (List.mem_append.mp htoken).symm
    · cases hstep
      exact h
  | refresh world credentials sessionId token now =>
    have hread : ∀ token ∈ sessionToken s credentials, refreshToken? credentials = some token :=
      fun token htoken => refreshToken?_of_mem h hguarded.2 htoken
    simp only [sessionStep] at hstep
    split at hstep
    · split at hstep
      · cases hstep
        exact h
      next user huser =>
        obtain ⟨stored, hsign, rfl⟩ := Option.map_eq_some_iff.mp hstep
        cases stored with
        | none => exact h.revokeRead hread fun token htoken => .inl htoken
        | some sessions =>
          have hrevoked : SessionInvariant process
              { s with sessions := SessionCall.revokeRead process s.sessions
                         (refreshToken? credentials) now
                       ended := sessionToken s credentials ++ s.ended } :=
            h.revokeRead hread fun token htoken => (List.mem_append.mp htoken).symm
          exact hrevoked.signAndStore hjwt hsign
    · cases hstep
      exact h
  | cacheSet key value ttl now =>
    cases hstep
    exact ⟨h.signed, h.recorded, h.endedIssued, h.endedRevoked⟩
  | cacheDel key =>
    cases hstep
    exact ⟨h.signed, h.recorded, h.endedIssued, h.endedRevoked⟩
  | tenantRequest world requiredScope credentials now =>
    cases hstep
    exact h
  | jwtRequest world credentials now =>
    cases hstep
    exact h

/-- In every run whose steps are guarded, no request that bears the token of an ended session is
admitted by either middleware. -/
theorem notAdmitted_of_guarded {calls : List SessionCall} (hjwt : process.jwt.SignsCompact)
    (hsupabase : AllSteps (sessionStep process) SupabaseKnowsNone .initial calls)
    (hguarded : AllSteps (sessionStep process) (Guarded process) .initial calls) :
    AllSteps (sessionStep process) (NotAdmitted process) .initial calls := by
  apply AllSteps.of_invariant (I := SessionInvariant process)
    (P := fun s call t => Guarded process s call t ∧ SupabaseKnowsNone s call t)
  · exact fun s call t hinv hstep hcall => sessionInvariant_step hjwt hinv hstep hcall.1
  · exact fun s call t hinv _ hcall => notAdmitted_step hinv hcall.1 hcall.2
  · exact .initial
  · exact hguarded.and hsupabase

/-- A user to evaluate runs on. -/
def SessionUser.sample : SessionUser := ⟨"usr_1", "tenant_a", "a@shop.in", "Viewer", true⟩

/-- A process with a secret, whose one signed token is the one of the first session of a user. -/
def AuthProcess.signing (user : SessionUser) : AuthProcess where
  platform := .plain
  jwt :=
    { decode := fun token =>
        if token = "eyJ.1" then some (SessionAuthService.sessionPayload "ses_1" user 0) else none
      isSigned := fun _ secret => secret = "secret" }
  engine := .sqlite
  env := { ProcessEnv.production with jwtSecret := some "secret" }

/-- A world without keys, in which the tables answer and Supabase knows nobody. -/
def RequestWorld.sample : RequestWorld where
  apiKeys := .empty
  store := .empty
  storeReachable := true
  sessionsReachable := true
  verifySupabaseToken := fun _ => none

lemma AuthProcess.signing_signsCompact (user : SessionUser) :
    (AuthProcess.signing user).jwt.SignsCompact := by
  rintro payload secret token ⟨hdecode, -⟩
  simp only [AuthProcess.signing] at hdecode
  split_ifs at hdecode with htoken
  rw [htoken]
  rfl

theorem notAdmitted_afterLogout :
    AllSteps (sessionStep (.signing .sample)) (NotAdmitted (.signing .sample)) .initial
      [.createSession "ses_1" "eyJ.1" .sample 0, .logout .sample (.bearer "eyJ.1") 1000,
        .tenantRequest .sample none (.bearer "eyJ.1") 2000] :=
  notAdmitted_of_guarded (AuthProcess.signing_signsCompact .sample) (by decide +kernel)
    (by decide +kernel)

/-- The token of a session that was logged out reaches the other middleware. -/
theorem ended_admitted :
    ¬ ∀ (process : AuthProcess) calls,
      (∃ secret, secret ≠ "" ∧ process.env.jwtSecret = some secret) → process.jwt.SignsCompact →
      AllSteps (sessionStep process) SupabaseKnowsNone .initial calls →
        AllSteps (sessionStep process) (NotAdmitted process) .initial calls := by
  intro h
  have hrun : Run (sessionStep (.signing .sample)) .initial
      [.createSession "ses_1" "eyJ.1" .sample 0, .logout .sample (.bearer "eyJ.1") 1000] _ :=
    run_iff_execute.mpr rfl
  have hall := h (.signing .sample)
    [.createSession "ses_1" "eyJ.1" .sample 0, .logout .sample (.bearer "eyJ.1") 1000,
      .jwtRequest .sample (.bearer "eyJ.1") 2000]
    ⟨"secret", by decide, rfl⟩ (AuthProcess.signing_signsCompact .sample) (by decide +kernel)
  have hrefused := hall.at_step hrun rfl
  exact hrefused "eyJ.1" (by decide) rfl _ rfl

end CtrlRecovery
