import CtrlRecovery.Core.SlidingWindow
import CtrlRecovery.Core.TtlStore
import CtrlRecovery.Routes.Auth

/-!
# One-time codes

`POST /send-otp` stores a code for an email and `POST /verify-otp` compares what it is given with it.
A request runs from one `await` to the next; a step resumes one of the requests that are suspended,
each of which carries what it has read so far.
-/

namespace CtrlRecovery

open Core

/-- A row of `auth_otps`, with the number of the code among the codes issued. -/
structure OtpRecord where
  email : String
  otp : String
  expiresAt : Timestamp
  issue : ℕ
  deriving DecidableEq, Repr

/-- What a request is suspended at. -/
inductive OtpPhase
  /-- `INSERT OR REPLACE INTO auth_otps`. -/
  | storing (expiresAt : Timestamp)
  /-- `cache.get(failKey)`. -/
  | counting
  /-- `SELECT otp, expires_at FROM auth_otps`. -/
  | querying (failedAttempts : ℕ)
  /-- The rows of the query have arrived. -/
  | comparing (failedAttempts : ℕ) (record : Option OtpRecord)
  /-- `DELETE FROM auth_otps` of a code that has expired. -/
  | discarding
  /-- `cache.set(failKey, failedAttempts + 1, 600)`. -/
  | countingFailure (failedAttempts : ℕ)
  /-- `cache.del(failKey)`. -/
  | clearing (issue : ℕ)
  /-- `DELETE FROM auth_otps` of a code that was matched. -/
  | consuming (issue : ℕ)
  /-- The account and the session, for a code that was matched or the bypass. -/
  | signingIn (issue : Option ℕ)
  deriving DecidableEq, Repr

namespace OtpPhase

/-- The request is one to verify a code. -/
def isVerifying : OtpPhase → Bool
  | .storing _ => false
  | _          => true

/-- The counter of wrong codes is about to be deleted. -/
def isClearing : OtpPhase → Bool
  | .clearing _ => true
  | _           => false

/-- The database may reject what the request waits for; the cache falls back to its own map. -/
def awaitsDatabase : OtpPhase → Bool
  | .counting | .countingFailure _ | .clearing _ => false
  | _                                            => true

/-- The code that a request has read. -/
def issue? : OtpPhase → Option ℕ
  | .comparing _ record                 => record.map OtpRecord.issue
  | .clearing issue | .consuming issue  => some issue
  | .signingIn issue                    => issue
  | _                                   => none

end OtpPhase

/-- A request that is suspended: the email it is for, and the code that it sends or was given. -/
structure OtpRequest where
  id : ℕ
  email : String
  otp : String
  phase : OtpPhase
  deriving DecidableEq, Repr

/-- The tables, the cache and the requests, with the wrong codes that were compared with a stored one,
latest first, and the codes that led to a session. -/
structure OtpState where
  now : Timestamp
  cache : TtlStore String ℕ
  authOtps : Table OtpRecord.email
  identity : IdentityDb
  requests : Table OtpRequest.id
  issued : ℕ
  wrong : List (String × Timestamp)
  sessions : List (String × ℕ)

inductive OtpAction
  | sendOtp (id : ℕ) (email : String) (code : ℕ)
  | verifyOtp (id : ℕ) (email otp : String)
  | resume (id : ℕ)
  | signIn (id : ℕ) (account : AccountDraw) (draw : SessionDraw) (passwordHash : String)
  | fail (id : ℕ)
  | tick (ms : ℕ)
  /-- The cache evicts a key, is used by others, or moves between Redis and the map. -/
  | cacheChange (key : String) (entry : Option (ℕ × ℕ))

namespace OtpState

def initial (now : Timestamp) (cache : TtlStore String ℕ) (identity : IdentityDb) : OtpState where
  now
  cache
  authOtps := .empty
  identity
  requests := .empty
  issued := 0
  wrong := []
  sessions := []

/-- The request goes on to its next `await`. -/
def suspend (s : OtpState) (r : OtpRequest) : OtpState := { s with requests := s.requests.put r }

/-- The request has answered. -/
def finish (s : OtpState) (id : ℕ) : OtpState := { s with requests := s.requests.erase id }

/-- The times at which wrong codes were compared with the stored one of an email. -/
def wrongTimes (s : OtpState) (email : String) : List ℕ :=
  (s.wrong.filter fun guess => guess.1 = email).map Prod.snd

end OtpState

namespace OtpRoutes

/-- Ten minutes: what a code and the counter of wrong ones live for. -/
def tenMinutes : ℕ := 10 * 60 * 1000

def cleanEmail (email : String) : String := Js.toLowerCase (Js.trim email)

def failKey (email : String) : String := "auth_otp_failed:" ++ email

def isTestOrDev (env : ProcessEnv) (email : String) : Bool :=
  env.nodeEnv ≠ some "production" &&
    (env.enableTestBypass = some "true" || env.testMode = some "true" || Js.includes email "demo")

def isMasterBypass (env : ProcessEnv) (r : OtpRequest) : Bool :=
  isTestOrDev env r.email && r.otp = "123456"

def isMatch (platform : Platform) (record : OtpRecord) (otp : String) : Bool :=
  record.otp = platform.sha256 otp || record.otp = otp

/-- `POST /send-otp` up to its insert. `code` is the number that was drawn. -/
def sendOtp (s : OtpState) (id : ℕ) (email : String) (code : ℕ) : OtpState :=
  if email = "" || !AuthRoutes.isEmail (cleanEmail email) then s
  else
    let otp := if Js.includes (cleanEmail email) "demo" then "123456" else toString code
    s.suspend ⟨id, cleanEmail email, otp, .storing (s.now + tenMinutes)⟩

/-- `POST /verify-otp` up to its read of the counter. -/
def verifyOtp (s : OtpState) (id : ℕ) (email otp : String) : OtpState :=
  if email = "" || otp = "" then s
  else s.suspend ⟨id, cleanEmail email, Js.trim otp, .counting⟩

/-- What a suspended request waits for is done, and the request runs to its next `await`. -/
def resume (process : AuthProcess) (s : OtpState) (r : OtpRequest) : Option OtpState :=
  match r.phase with
  | .storing expiresAt =>
    let record : OtpRecord := ⟨r.email, process.platform.sha256 r.otp, expiresAt, s.issued⟩
    some { s.finish r.id with authOtps := s.authOtps.put record, issued := s.issued + 1 }
  | .counting =>
    let failedAttempts := (s.cache.get s.now (failKey r.email)).getD 0
    if 5 ≤ failedAttempts then some (s.finish r.id)
    else if isMasterBypass process.env r then some (s.suspend { r with phase := .signingIn none })
    else some (s.suspend { r with phase := .querying failedAttempts })
  | .querying failedAttempts =>
    let record := s.authOtps.find? r.email
    some (s.suspend { r with phase := .comparing failedAttempts record })
  | .comparing _ none => some (s.finish r.id)
  | .comparing failedAttempts (some record) =>
    if record.expiresAt < s.now then some (s.suspend { r with phase := .discarding })
    else if isMatch process.platform record r.otp then
      some (s.suspend { r with phase := .clearing record.issue })
    else
      some { s.suspend { r with phase := .countingFailure failedAttempts } with
        wrong := (r.email, s.now) :: s.wrong }
  | .discarding => some { s.finish r.id with authOtps := s.authOtps.erase r.email }
  | .countingFailure failedAttempts =>
    some { s.finish r.id with
      cache := s.cache.set s.now (failKey r.email) (failedAttempts + 1) (600 * 1000) }
  | .clearing issue =>
    some { s.suspend { r with phase := .consuming issue } with
      cache := s.cache.del (failKey r.email) }
  | .consuming issue =>
    some { s.suspend { r with phase := .signingIn (some issue) } with
      authOtps := s.authOtps.erase r.email }
  | .signingIn _ => none

/-- The account of the email is found or made, and its session. -/
def signIn (process : AuthProcess) (s : OtpState) (r : OtpRequest) (account : AccountDraw)
    (draw : SessionDraw) (passwordHash : String) : Option OtpState :=
  match r.phase with
  | .signingIn issue =>
    (AuthRoutes.verifyOtp process s.identity account draw r.email passwordHash true).map fun
      | (identity, none)   => { s.finish r.id with identity }
      | (identity, some _) =>
        { s.finish r.id with
          identity
          sessions := (issue.map (r.email, ·)).toList ++ s.sessions }
  | _ => none

def step (process : AuthProcess) (s : OtpState) : OtpAction → Option OtpState
  | .sendOtp id email code =>
    if (s.requests.find? id).isSome || code < 100000 || 1000000 ≤ code then none
    else some (sendOtp s id email code)
  | .verifyOtp id email otp =>
    if (s.requests.find? id).isSome then none else some (verifyOtp s id email otp)
  | .resume id => (s.requests.find? id).bind (resume process s)
  | .signIn id account draw passwordHash =>
    (s.requests.find? id).bind fun r => signIn process s r account draw passwordHash
  | .fail id =>
    ((s.requests.find? id).filter fun r => r.phase.awaitsDatabase).map fun r => s.finish r.id
  | .tick ms => some { s with now := s.now + ms }
  | .cacheChange key entry => some { s with cache := s.cache.change key entry }

end OtpRoutes

end CtrlRecovery
