import CtrlRecovery.Security.SessionRevocation
import CtrlRecovery.Security.Tenancy

/-!
# Accounts and the sessions that the routes issue

`POST /signup`, `/login`, `/verify-otp` and `/refresh` end in `createSession`, each with a tenant and a
role of its own: a new owner's, the ones of the membership that was found, the constant `Owner`, and
the ones of the presented token.
-/

namespace CtrlRecovery

open Core

/-- A row of `users`. -/
structure User where
  id : String
  email : String
  passwordHash : String
  deriving DecidableEq, Repr

/-- A row of `memberships`. -/
structure Membership where
  id : String
  userId : String
  tenantId : String
  role : UserRole
  deriving DecidableEq, Repr

/-- The tables of accounts. -/
structure IdentityDb where
  tenants : Table Tenant.id
  users : Table User.id
  memberships : Table Membership.id
  sessions : SessionTable

namespace IdentityDb

def empty : IdentityDb := ⟨.empty, .empty, .empty, .empty⟩

/-- `users JOIN memberships … WHERE email = ?`. -/
def accounts (db : IdentityDb) (email : String) : List (User × Membership) :=
  (db.users.rows.filter fun user => user.email = email).flatMap fun user =>
    (db.memberships.rows.filter fun membership => membership.userId = user.id).map (user, ·)

/-- `users JOIN memberships JOIN tenants … WHERE email = ?`. -/
def tenantAccounts (db : IdentityDb) (email : String) : List (User × Membership) :=
  (db.accounts email).filter fun account =>
    db.tenants.rows.any fun tenant => tenant.id = account.2.tenantId

/-- The emails of users are unique. -/
def insertUser? (db : IdentityDb) (user : User) : Option IdentityDb :=
  if db.users.rows.any fun other => other.email = user.email then none
  else (db.users.insert? user).map fun users => { db with users }

/-- A user has one membership in a tenant. -/
def insertMembership? (db : IdentityDb) (membership : Membership) : Option IdentityDb :=
  if db.memberships.rows.any fun other =>
      other.userId = membership.userId && other.tenantId = membership.tenantId then none
  else (db.memberships.insert? membership).map fun memberships => { db with memberships }

/-- A tenant as the routes insert it. -/
def newTenant (id : String) : Tenant := ⟨id, .test, 5⟩

/-- The rows that `createSession` inserts before the session, unless they are there. -/
def ensureTenantAndUser (db : IdentityDb) (user : SessionUser) : IdentityDb :=
  let db := { db with tenants := db.tenants.insertOrIgnore (newTenant user.tenantId) }
  (db.insertUser? ⟨user.userId, user.email, "dummy_hash"⟩).getD db

lemma memberships_insertUser? {db db' : IdentityDb} {user : User}
    (h : db.insertUser? user = some db') : db'.memberships = db.memberships := by
  rw [insertUser?] at h
  split_ifs at h
  obtain ⟨users, -, rfl⟩ := Option.map_eq_some_iff.mp h
  rfl

@[simp] lemma memberships_ensureTenantAndUser (db : IdentityDb) (user : SessionUser) :
    (db.ensureTenantAndUser user).memberships = db.memberships := by
  rw [ensureTenantAndUser]
  cases h : insertUser? { db with tenants := db.tenants.insertOrIgnore (newTenant user.tenantId) }
    ⟨user.userId, user.email, "dummy_hash"⟩ with
  | none => rfl
  | some db' =>
    have hsame := memberships_insertUser? h
    exact hsame

end IdentityDb

/-- A session that was issued. -/
structure IssuedSession where
  token : String
  user : SessionUser
  deriving DecidableEq, Repr

/-- What a new account draws. -/
structure AccountDraw where
  tenantId : String
  userId : String
  membershipId : String
  deriving DecidableEq, Repr

/-- The session id and the token that `createSession` makes, and when. -/
structure SessionDraw where
  sessionId : String
  token : String
  now : Timestamp
  deriving DecidableEq, Repr

namespace AuthRoutes

/-- The tables after a route, and the session that it has issued. -/
abbrev Outcome := IdentityDb × Option IssuedSession

/-- `createSession` with the token that `jwt.sign` gives: no outcome when the token is not signed, and
no session when the insert fails. -/
def issue (process : AuthProcess) (db : IdentityDb) (draw : SessionDraw) (user : SessionUser) :
    Option Outcome :=
  (signAndStore process db.sessions draw.sessionId draw.token user draw.now).map fun
    | none          => (db.ensureTenantAndUser user, none)
    | some sessions =>
      ({ db.ensureTenantAndUser user with sessions }, some ⟨draw.token, user⟩)

/-- `/^[^\s@]+@[^\s@]+\.[^\s@]+$/`. -/
def isEmail (text : String) : Bool :=
  let start := text.toList.takeWhile (· ≠ '@')
  let domain := (text.toList.dropWhile (· ≠ '@')).drop 1
  !start.isEmpty && start.all (!Js.isWhitespace ·) &&
    domain.all (fun c => !Js.isWhitespace c && c ≠ '@') && (domain.drop 1).dropLast.contains '.'

/-- The demo accounts, which the routes seed and let in without a check. -/
def isDemoEmail (email : String) : Bool :=
  Js.toLowerCase email = "demo@ctrl.app" || Js.toLowerCase email = "merchant@ctrl.app"

/-- The transaction that makes a tenant with its owner; `none` when it rolls back. -/
def createAccount (db : IdentityDb) (draw : AccountDraw) (email passwordHash : String) :
    Option IdentityDb :=
  (db.tenants.insert? (IdentityDb.newTenant draw.tenantId)).bind fun tenants =>
    (({ db with tenants }).insertUser? ⟨draw.userId, email, passwordHash⟩).bind fun db =>
      db.insertMembership? ⟨draw.membershipId, draw.userId, draw.tenantId, .owner⟩

/-- A new account, and the session of its owner. -/
def openAccount (process : AuthProcess) (db : IdentityDb) (account : AccountDraw)
    (draw : SessionDraw) (email passwordHash : String) : Option Outcome :=
  match createAccount db account email passwordHash with
  | none         => some (db, none)
  | some created =>
    issue process created draw ⟨account.userId, account.tenantId, email, UserRole.owner.text, true⟩

/-- `POST /signup`. `passwordHash` is what hashing gives; it fails on a weak password. -/
def signup (process : AuthProcess) (db : IdentityDb) (account : AccountDraw) (draw : SessionDraw)
    (email businessName : String) (passwordHash : Option String) : Option Outcome :=
  if businessName = "" ∨ isEmail email = false ∨ db.users.rows.any fun user => user.email = email then
    some (db, none)
  else
    match passwordHash with
    | none              => some (db, none)
    | some passwordHash => openAccount process db account draw email passwordHash

/-- `POST /login`, for other than the demo accounts. -/
def login (process : AuthProcess) (verifyPassword : String → String → Bool) (db : IdentityDb)
    (draw : SessionDraw) (email password : String) : Option Outcome :=
  if email = "" ∨ password = "" then some (db, none)
  else
    match (db.accounts email).head? with
    | none                    => some (db, none)
    | some (user, membership) =>
      if verifyPassword password user.passwordHash then
        issue process db draw
          ⟨user.id, membership.tenantId, user.email, membership.role.text, true⟩
      else some (db, none)

/-- `POST /verify-otp` after the check of the code, which says whether it was `accepted`. -/
def verifyOtp (process : AuthProcess) (db : IdentityDb) (account : AccountDraw)
    (draw : SessionDraw) (email passwordHash : String) (accepted : Bool) : Option Outcome :=
  let cleanEmail := Js.toLowerCase (Js.trim email)
  if !accepted then some (db, none)
  else
    match (db.tenantAccounts cleanEmail).head? with
    | none                    =>
      openAccount process db account draw cleanEmail passwordHash
    | some (user, membership) =>
      issue process db draw ⟨user.id, membership.tenantId, cleanEmail, "Owner", true⟩

/-- `POST /refresh`. -/
def refresh (process : AuthProcess) (db : IdentityDb) (world : RequestWorld)
    (isTokenRevoked : String → Bool) (draw : SessionDraw) (credentials : RequestCredentials) :
    Option Outcome :=
  match TenancyEnforcer.authenticateTenant (process.services world db.sessions isTokenRevoked) none
    credentials draw.now with
  | .pass context =>
    match context.user with
    | none      => some (db, none)
    | some user =>
      let sessions := SessionCall.revokeRead process db.sessions
        (SessionCall.refreshToken? credentials) draw.now
      issue process { db with sessions } draw { user with tenantId := context.tenantId }
  | _             => some (db, none)

/-! ### What the routes issue -/

/-- The session is one of a membership: of its user, in its tenant and with its role. -/
def HoldsMembership (db : IdentityDb) (user : SessionUser) : Prop :=
  ∃ membership ∈ db.memberships.rows, membership.userId = user.userId ∧
    membership.tenantId = user.tenantId ∧ membership.role.text = user.role

/-- Memberships are only added. -/
def Extends (db db' : IdentityDb) : Prop := db.memberships.rows ⊆ db'.memberships.rows

variable {process : AuthProcess} {db db' : IdentityDb} {draw : SessionDraw}
  {account : AccountDraw} {email passwordHash password : String} {user : SessionUser}
  {outcome : Outcome} {session : IssuedSession}

lemma HoldsMembership.extends (h : HoldsMembership db user) (hext : Extends db db') :
    HoldsMembership db' user := by
  obtain ⟨membership, hmem, hrow⟩ := h
  exact ⟨membership, hext hmem, hrow⟩

/-- A route either issues nothing and only adds memberships, or issues a session of the user to an
extension of the tables; the token is then signed for the user. -/
structure Issues (process : AuthProcess) (db : IdentityDb) (outcome : Outcome)
    (issued : IdentityDb → SessionUser → Prop) : Prop where
  ext : Extends db outcome.1
  holds : ∀ session ∈ outcome.2, issued outcome.1 session.user
  signed : ∀ session ∈ outcome.2, ∃ sessionId at',
    process.jwt.Signs (SessionAuthService.sessionPayload sessionId session.user at')
      (SessionAuthService.getJwtSecret process.env) session.token

lemma issues_nothing {issued : IdentityDb → SessionUser → Prop} (hext : Extends db db') :
    Issues process db (db', none) issued :=
  ⟨hext, nofun, nofun⟩

lemma issues_issue (h : issue process db draw user = some outcome) :
    Issues process db outcome fun db' user' => user' = user ∧ db'.memberships = db.memberships := by
  obtain ⟨stored, hsign, rfl⟩ := Option.map_eq_some_iff.mp h
  have hsame : (db.ensureTenantAndUser user).memberships = db.memberships := by simp
  cases stored with
  | none =>
    apply issues_nothing
    rw [Extends, hsame]
    exact List.Subset.refl _
  | some sessions =>
    rw [signAndStore] at hsign
    split_ifs at hsign with hsigned
    refine ⟨?_, ?_, ?_⟩
    · rw [Extends]
      simp only [hsame]
      exact List.Subset.refl _
    · rintro session ⟨⟩
      exact ⟨rfl, hsame⟩
    · rintro session ⟨⟩
      exact ⟨_, _, hsigned⟩

lemma Issues.mono {issued issued' : IdentityDb → SessionUser → Prop}
    (h : Issues process db outcome issued) (himp : ∀ db' user, issued db' user → issued' db' user) :
    Issues process db outcome issued' :=
  ⟨h.ext, fun session hsession => himp _ _ (h.holds session hsession), h.signed⟩

/-- A new account has its membership. -/
lemma createAccount_spec (h : createAccount db account email passwordHash = some db') :
    Extends db db' ∧
      ∃ membership ∈ db'.memberships.rows, membership.userId = account.userId ∧
        membership.tenantId = account.tenantId ∧ membership.role = .owner := by
  rw [createAccount] at h
  obtain ⟨tenants, -, h⟩ := Option.bind_eq_some_iff.mp h
  obtain ⟨created, huser, h⟩ := Option.bind_eq_some_iff.mp h
  have hsame := IdentityDb.memberships_insertUser? huser
  rw [IdentityDb.insertMembership?] at h
  split_ifs at h
  obtain ⟨memberships, hinsert, rfl⟩ := Option.map_eq_some_iff.mp h
  have hrows := Table.rows_of_insert? hinsert
  have hnew : (⟨account.membershipId, account.userId, account.tenantId, .owner⟩ : Membership) ∈
      memberships.rows := by
    rw [hrows]
    exact List.mem_append_right _ (List.mem_singleton_self _)
  refine ⟨?_, _, hnew, rfl, rfl, rfl⟩
  rw [Extends, hrows, hsame]
  exact List.subset_append_left _ _

lemma issues_openAccount (h : openAccount process db account draw email passwordHash = some outcome) :
    Issues process db outcome HoldsMembership := by
  rw [openAccount] at h
  split at h
  · cases h
    exact issues_nothing (List.Subset.refl _)
  next created hcreate =>
    obtain ⟨hext, membership, hmem, huser, htenant, hrole⟩ := createAccount_spec hcreate
    have hissue := issues_issue h
    refine ⟨List.Subset.trans hext hissue.ext, ?_, hissue.signed⟩
    intro session hsession
    obtain ⟨hsessionUser, hsame⟩ := hissue.holds session hsession
    rw [hsessionUser]
    exact ⟨membership, hsame ▸ hmem, huser, htenant, by rw [hrole]⟩

lemma mem_accounts {row : User × Membership} (h : row ∈ db.accounts email) :
    row.2 ∈ db.memberships.rows ∧ row.2.userId = row.1.id := by
  obtain ⟨user, -, h⟩ := List.mem_flatMap.mp h
  obtain ⟨membership, hmem, rfl⟩ := List.mem_map.mp h
  obtain ⟨hmem, huser⟩ := List.mem_filter.mp hmem
  exact ⟨hmem, by simpa using huser⟩

lemma issues_signup {businessName : String} {hash : Option String}
    (h : signup process db account draw email businessName hash = some outcome) :
    Issues process db outcome HoldsMembership := by
  rw [signup.eq_def] at h
  split_ifs at h
  · cases h
    exact issues_nothing (List.Subset.refl _)
  · split at h
    · cases h
      exact issues_nothing (List.Subset.refl _)
    · exact issues_openAccount h

lemma issues_login {verifyPassword : String → String → Bool}
    (h : login process verifyPassword db draw email password = some outcome) :
    Issues process db outcome HoldsMembership := by
  rw [login] at h
  split_ifs at h
  · cases h
    exact issues_nothing (List.Subset.refl _)
  · split at h
    · cases h
      exact issues_nothing (List.Subset.refl _)
    next user membership hfound =>
      split_ifs at h
      · obtain ⟨hmem, huser⟩ := mem_accounts (List.mem_of_mem_head? hfound)
        apply (issues_issue h).mono
        rintro db' user' ⟨rfl, hsame⟩
        exact ⟨membership, hsame ▸ hmem, huser, rfl, rfl⟩
      · cases h
        exact issues_nothing (List.Subset.refl _)

/-- A code that is accepted issues an owner's session, whatever the membership says. -/
lemma issues_verifyOtp {accepted : Bool}
    (h : verifyOtp process db account draw email passwordHash accepted = some outcome)
    (howner : ∀ row ∈ (db.tenantAccounts (Js.toLowerCase (Js.trim email))).head?,
      row.2.role = .owner) :
    Issues process db outcome HoldsMembership := by
  simp only [verifyOtp] at h
  split_ifs at h
  · cases h
    exact issues_nothing (List.Subset.refl _)
  · split at h
    · exact issues_openAccount h
    next user membership hfound =>
      have hrow := List.mem_of_mem_filter (List.mem_of_mem_head? hfound)
      obtain ⟨hmem, huser⟩ := mem_accounts hrow
      have hrole : membership.role = .owner := howner _ hfound
      apply (issues_issue h).mono
      rintro db' user' ⟨rfl, hsame⟩
      exact ⟨membership, hsame ▸ hmem, huser, rfl, by rw [hrole]; rfl⟩

end AuthRoutes

end CtrlRecovery
