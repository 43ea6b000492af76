import CtrlRecovery.Core.Table
import CtrlRecovery.Security.Jwt

/-!
# Dashboard sessions

`createSession` signs a token and stores its hash in `sessions`. `validateSession` accepts a token
that any of its fallbacks reads, also one that no secret verifies, and looks the token up only to
refuse one that is revoked or expired: a token without a row is accepted. When what it accepts is
signed, unexpired and in the table is `validateSession_sound_iff`.
-/

namespace CtrlRecovery

open Core

structure SessionUser where
  userId : String
  tenantId : String
  email : String
  role : String
  mfaVerified : Bool
  deriving DecidableEq, Repr

/-- A row of `sessions`. -/
structure SessionRecord where
  id : String
  userId : String
  tenantId : String
  tokenHash : String
  role : String
  expiresAt : Timestamp
  createdAt : Timestamp
  revokedAt : Option Timestamp
  deriving DecidableEq, Repr

namespace SessionRecord

/-- Neither revoked nor expired. -/
def IsLive (session : SessionRecord) (now : Timestamp) : Prop :=
  session.revokedAt = none ∧ now ≤ session.expiresAt

instance (session : SessionRecord) (now : Timestamp) : Decidable (session.IsLive now) :=
  inferInstanceAs (Decidable (_ ∧ _))

/-- The row with `revoked_at` set, unless it is set already. -/
def revoke (session : SessionRecord) (now : Timestamp) : SessionRecord :=
  { session with revokedAt := some (session.revokedAt.getD now) }

end SessionRecord

/-- The table `sessions`. -/
abbrev SessionTable := Table SessionRecord.id

namespace SessionAuthService

/-- The secret of a process that sets none. -/
def DEFAULT_JWT_SECRET : String := "ctrl_v1_jwt_session_secret_2026"

/-- A secret of another part of the program. -/
def PROJECT_JWT_SECRET : String := "ctrl_secure_jwt_secret_key_2026"

def getJwtSecret (env : ProcessEnv) : String := Js.orElse env.jwtSecret DEFAULT_JWT_SECRET

/-- Seconds that a session lasts. -/
def defaultSessionDurationSec : ℕ := 1800

/-- The payload that `createSession` signs. -/
def sessionPayload (sessionId : String) (user : SessionUser) (now : Timestamp) : JwtPayload :=
  { JwtPayload.blank with
    sessionId := some (.text sessionId)
    userId := some (.text user.userId)
    tenantId := some (.text user.tenantId)
    email := some (.text user.email)
    role := some (.text user.role)
    mfaVerified := some (.boolean user.mfaVerified)
    exp := some (.number ((now / 1000 + defaultSessionDurationSec : ℕ) : ℚ)) }

/-- The row that `createSession` inserts. -/
def sessionRow (platform : Platform) (sessionId token : String) (user : SessionUser)
    (now : Timestamp) : SessionRecord where
  id := sessionId
  userId := user.userId
  tenantId := user.tenantId
  tokenHash := platform.sha256 token
  role := user.role
  expiresAt := now + defaultSessionDurationSec * 1000
  createdAt := now
  revokedAt := none

/-- `createSession` with the session id and the token it has made; `none` when the id or the token is
taken. -/
def createSession (platform : Platform) (sessions : SessionTable) (sessionId token : String)
    (user : SessionUser) (now : Timestamp) : Option SessionTable :=
  if sessions.rows.any fun session => session.tokenHash = platform.sha256 token then none
  else sessions.insert? (sessionRow platform sessionId token user now)

/-! ### Validation -/

/-- The message of the type error of a user id that has no `slice`. -/
def SLICE_TYPE_ERROR : String :=
  "(decoded.userId || decoded.id || decoded.sub || \"usr\").slice is not a function"

/-- The payload of the token, from the first fallback that reads it. -/
def decodeToken (jwt : Jwt) (env : ProcessEnv) (token : String) (now : Timestamp) :
    Except String JwtPayload :=
  match jwt.verify token (getJwtSecret env) now with
  | some payload => .ok payload
  | none         =>
    match jwt.verify token PROJECT_JWT_SECRET now with
    | some payload => .ok payload
    | none         =>
      match jwt.verify token DEFAULT_JWT_SECRET now with
      | some payload => .ok payload
      | none         =>
        match (jwt.decode token).filter fun unverified => unverified.user?.isSome with
        | some unverified => .ok unverified
        | none            => .error "Invalid session token signature"

def userOf (payload : JwtPayload) : Except String SessionUser :=
  let tenantId? :=
    match Js.Value.firstTruthy [payload.tenantId, payload.merchantId] with
    | some tenantId => some tenantId.toText
    | none          =>
      ((payload.user?.getD (.text "usr")).slice? 8).map fun start => "tnt_" ++ start
  match tenantId? with
  | none          => .error SLICE_TYPE_ERROR
  | some tenantId =>
    .ok
      { userId := (payload.user?.getD (.text "usr_unknown")).toText
        tenantId
        email := ((payload.email.filter (·.truthy)).getD (.text "merchant@ctrl.internal")).toText
        role := ((payload.role.filter (·.truthy)).getD (.text "Owner")).toText
        mfaVerified := payload.mfaVerified.any (·.truthy) }

/-- The rows that the lookup of a token finds; none when it fails. -/
def findSessions (platform : Platform) (sessions : SessionTable) (reachable : Bool)
    (token : String) : List SessionRecord :=
  if reachable then
    sessions.rows.filter fun session => session.tokenHash = platform.sha256 token
  else []

/-- `reachable` says whether the lookup in `sessions` succeeds. -/
def validateSession (platform : Platform) (jwt : Jwt) (env : ProcessEnv) (sessions : SessionTable)
    (reachable : Bool) (token : String) (now : Timestamp) : Except String SessionUser :=
  match decodeToken jwt env token now with
  | .error message => .error message
  | .ok payload    =>
    match userOf payload with
    | .error message => .error message
    | .ok user       =>
      match findSessions platform sessions reachable token with
      | []           => .ok user
      | session :: _ =>
        if session.revokedAt.isSome then .error "Session has been revoked"
        else if session.expiresAt < now then .error "Session has expired"
        else .ok user

variable {platform : Platform} {jwt : Jwt} {env : ProcessEnv} {sessions : SessionTable}
  {reachable : Bool} {token : String} {now : Timestamp} {payload : JwtPayload} {user : SessionUser}

/-- The secrets under which a token is verified. -/
def knownSecrets (env : ProcessEnv) : List String :=
  [getJwtSecret env, PROJECT_JWT_SECRET, DEFAULT_JWT_SECRET]

/-- Every fallback gives the same payload: a signature or a user that it names is enough. -/
lemma decodeToken_eq_ok_iff :
    decodeToken jwt env token now = .ok payload ↔
      jwt.decode token = some payload ∧
        ((∃ secret ∈ knownSecrets env, (jwt.verify token secret now).isSome) ∨
          payload.user?.isSome) := by
  have hverify : ∀ secret payload', jwt.verify token secret now = some payload' →
      jwt.decode token = some payload' := fun secret payload' h => (Jwt.verify_eq_some_iff.mp h).1
  rw [decodeToken]
  simp only [knownSecrets, List.exists_mem_cons_iff, List.not_mem_nil, false_and, exists_false,
    or_false]
  split
  next payload' h =>
    simp [hverify _ _ h, h]
  next h₁ =>
    split
    next payload' h =>
      simp [hverify _ _ h, h]
    next h₂ =>
      split
      next payload' h =>
        simp [hverify _ _ h, h]
      next h₃ =>
        rw [h₁, h₂, h₃]
        split
        next unverified h =>
          obtain ⟨hdecode, huser⟩ := Option.filter_eq_some_iff.mp h
          simp only [hdecode, Except.ok.injEq, Option.some.injEq, Option.isSome_none,
            Bool.false_eq_true, false_or, iff_self_and]
          rintro rfl
          exact huser
        next h =>
          rw [Option.filter_eq_none_iff] at h
          simpa using h payload

/-- A token is accepted when a fallback reads it, its payload has a tenant and the first row found for
it, if there is one, is live. -/
lemma validateSession_eq_ok_iff :
    validateSession platform jwt env sessions reachable token now = .ok user ↔
      (∃ payload, decodeToken jwt env token now = .ok payload ∧ userOf payload = .ok user) ∧
        ∀ session ∈ (findSessions platform sessions reachable token).head?,
          session.IsLive now := by
  rw [validateSession]
  cases decodeToken jwt env token now with
  | error message => simp
  | ok payload =>
    cases huser : userOf payload with
    | error message => simp [huser]
    | ok found =>
      cases findSessions platform sessions reachable token with
      | nil => simp [huser]
      | cons session rest =>
        simp only [SessionRecord.IsLive]
        split_ifs with hrevoked hexpired
        · simp [huser, Option.isSome_iff_ne_none.mp hrevoked]
        · simp [huser, Nat.not_le.mpr hexpired]
        · rw [Option.not_isSome_iff_eq_none] at hrevoked
          simp [huser, hrevoked, Nat.not_lt.mp hexpired]

lemma userOf_sessionPayload {sessionId : String} {found : SessionUser}
    (h : userOf (sessionPayload sessionId user now) = .ok found) (huser : user.userId ≠ "")
    (htenant : user.tenantId ≠ "") (hrole : user.role ≠ "") :
    found.userId = user.userId ∧ found.tenantId = user.tenantId ∧ found.role = user.role := by
  simp only [userOf, sessionPayload, JwtPayload.blank, JwtPayload.user?, Js.Value.firstTruthy,
    List.findSome?_cons, Option.filter_some, Js.Value.truthy, huser, htenant, hrole, ne_eq,
    not_false_eq_true, decide_true, if_true, Option.getD_some, Js.Value.toText,
    Except.ok.injEq] at h
  subst h
  exact ⟨rfl, rfl, rfl⟩

/-! ### What an accepted token proves -/

/-- The token is signed under the configured secret and unexpired, and the table holds a live row for
it. -/
def IsBacked (platform : Platform) (jwt : Jwt) (env : ProcessEnv) (sessions : SessionTable)
    (token : String) (now : Timestamp) : Prop :=
  (jwt.verify token (getJwtSecret env) now).isSome ∧
    ∃ session ∈ sessions.rows, session.tokenHash = platform.sha256 token ∧ session.IsLive now

/-- No secret of the program verifies the token, and its payload names no user. -/
def Unrecognized (jwt : Jwt) (env : ProcessEnv) (token : String) (now : Timestamp) : Prop :=
  (∀ secret ∈ knownSecrets env, jwt.verify token secret now = none) ∧
    ∀ payload ∈ jwt.decode token, payload.user? = none

/-- The payload names no tenant, and no prefix of its user id can stand for one. -/
def NamesNoTenant (jwt : Jwt) (token : String) : Prop :=
  ∀ payload ∈ jwt.decode token,
    Js.Value.firstTruthy [payload.tenantId, payload.merchantId] = none ∧
      ∃ user ∈ payload.user?, user.slice? 8 = none

/-- The lookup of the token finds a row that is revoked or expired. -/
def FindsSpent (platform : Platform) (sessions : SessionTable) (reachable : Bool) (token : String)
    (now : Timestamp) : Prop :=
  ∃ session ∈ (findSessions platform sessions reachable token).head?, ¬ session.IsLive now

/-- The token is signed under the configured secret and unexpired, and the table holds a row for it,
a live one when the lookup does not see it. -/
def IsRecorded (platform : Platform) (jwt : Jwt) (env : ProcessEnv) (sessions : SessionTable)
    (reachable : Bool) (token : String) (now : Timestamp) : Prop :=
  (jwt.verify token (getJwtSecret env) now).isSome ∧
    ∃ session ∈ sessions.rows, session.tokenHash = platform.sha256 token ∧
      (reachable = true ∨ session.IsLive now)

lemma exists_userOf_iff :
    (∃ user, userOf payload = .ok user) ↔
      ¬ (Js.Value.firstTruthy [payload.tenantId, payload.merchantId] = none ∧
        ∃ user ∈ payload.user?, user.slice? 8 = none) := by
  rw [userOf]
  cases Js.Value.firstTruthy [payload.tenantId, payload.merchantId] with
  | some tenantId => simp
  | none =>
    cases payload.user? with
    | none => simp [Js.Value.slice?]
    | some user => cases h : user.slice? 8 <;> simp [h]

/-- A token is refused for want of a signature and a user, for want of a tenant or for its row. -/
lemma exists_validateSession_iff :
    (∃ user, validateSession platform jwt env sessions reachable token now = .ok user) ↔
      ¬ Unrecognized jwt env token now ∧ ¬ NamesNoTenant jwt token ∧
        ¬ FindsSpent platform sessions reachable token now := by
  simp only [validateSession_eq_ok_iff, exists_and_right, FindsSpent, not_exists, not_and, not_not]
  rw [← and_assoc]
  refine and_congr_left fun _ => ?_
  rw [exists_comm]
  simp only [exists_and_left, exists_userOf_iff, decodeToken_eq_ok_iff, Unrecognized,
    NamesNoTenant]
  cases hdecode : jwt.decode token with
  | none => simp [Jwt.verify, hdecode]
  | some payload =>
    simp only [Option.some.injEq, Option.mem_def, forall_eq', and_assoc, exists_eq_left',
      not_and_or, not_forall, ← ne_eq, exists_prop, Option.isSome_iff_ne_none]

/-- Where the lookup refuses no row, a row that it finds is live. -/
lemma isBacked_iff_isRecorded (h : ¬ FindsSpent platform sessions reachable token now) :
    IsBacked platform jwt env sessions token now ↔
      IsRecorded platform jwt env sessions reachable token now := by
  refine and_congr_right fun _ => ⟨?_, ?_⟩
  · rintro ⟨session, hmem, hhash, hlive⟩
    exact ⟨session, hmem, hhash, .inr hlive⟩
  · rintro ⟨session, hmem, hhash, hreachable | hlive⟩
    · have hfound : session ∈ findSessions platform sessions reachable token := by
        simp [findSessions, hreachable, hmem, hhash]
      obtain ⟨first, rest, hfirst⟩ := List.exists_cons_of_ne_nil (List.ne_nil_of_mem hfound)
      have hfirst_live : first.IsLive now := by
        by_contra hspent
        exact h ⟨first, by simp [hfirst], hspent⟩
      have hfirst_mem : first ∈ findSessions platform sessions reachable token := by simp [hfirst]
      rw [findSessions, if_pos hreachable, List.mem_filter, decide_eq_true_iff] at hfirst_mem
      exact ⟨first, hfirst_mem.1, hfirst_mem.2, hfirst_live⟩
    · exact ⟨session, hmem, hhash, hlive⟩

/-- The accepted tokens are backed exactly when the token is refused, for want of a signature and a
user, for want of a tenant or for its row, or is recorded. -/
theorem validateSession_sound_iff :
    (∀ user, validateSession platform jwt env sessions reachable token now = .ok user →
      IsBacked platform jwt env sessions token now) ↔
    Unrecognized jwt env token now ∨ NamesNoTenant jwt token ∨
      FindsSpent platform sessions reachable token now ∨
      IsRecorded platform jwt env sessions reachable token now := by
  rw [← exists_imp, exists_validateSession_iff]
  by_cases hspent : FindsSpent platform sessions reachable token now
  · simp [hspent]
  · rw [isBacked_iff_isRecorded hspent]
    tauto

/-- A token that nobody has signed, when the table is empty. -/
theorem forged_accepted :
    ¬ ∀ platform jwt env sessions reachable token now user,
      validateSession platform jwt env sessions reachable token now = .ok user →
        IsBacked platform jwt env sessions token now := by
  intro h
  let jwt : Jwt :=
    { decode := fun _ => some { JwtPayload.blank with userId := some (.text "usr_1") }
      isSigned := fun _ _ => false }
  obtain ⟨-, session, hsession, -⟩ := h .plain jwt .production .empty true "forged" 0
    ⟨"usr_1", "tnt_usr_1", "merchant@ctrl.internal", "Owner", false⟩ (by decide)
  cases hsession

end SessionAuthService

end CtrlRecovery
