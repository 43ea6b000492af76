import CtrlRecovery.Js
import CtrlRecovery.Platform

/-!
# JSON web tokens

A token carries a payload that anyone can read and a signature that only the secret makes.
`decode` reads the payload and checks nothing; `verify` gives the payload of the tokens that are
signed under a secret and have not expired.
-/

namespace CtrlRecovery

/-- The fields of a payload that the program reads; `null` counts as a missing field. -/
structure JwtPayload where
  userId : Option Js.Value
  id : Option Js.Value
  sub : Option Js.Value
  tenantId : Option Js.Value
  merchantId : Option Js.Value
  email : Option Js.Value
  role : Option Js.Value
  mfaVerified : Option Js.Value
  sessionId : Option Js.Value
  jti : Option Js.Value
  /-- Seconds since the epoch. -/
  exp : Option Js.Value
  deriving DecidableEq

namespace JwtPayload

/-- The payload without any field. -/
def blank : JwtPayload where
  userId := none
  id := none
  sub := none
  tenantId := none
  merchantId := none
  email := none
  role := none
  mfaVerified := none
  sessionId := none
  jti := none
  exp := none

/-- `payload.userId || payload.id || payload.sub`. -/
def user? (payload : JwtPayload) : Option Js.Value :=
  Js.Value.firstTruthy [payload.userId, payload.id, payload.sub]

/-- A payload without an expiry never expires, and one whose expiry is not a number is refused. -/
def unexpired (payload : JwtPayload) (now : Timestamp) : Bool :=
  match payload.exp with
  | none             => true
  | some (.number e) => ((now / 1000 : ℕ) : ℚ) < e
  | some _           => false

end JwtPayload

/-- The token library. -/
structure Jwt where
  /-- `jwt.decode(token)`. -/
  decode : String → Option JwtPayload
  /-- The signature of the token is the one of the secret. -/
  isSigned : String → String → Bool

namespace Jwt

/-- `jwt.verify(token, secret)`. -/
def verify (jwt : Jwt) (token secret : String) (now : Timestamp) : Option JwtPayload :=
  (jwt.decode token).filter fun payload => jwt.isSigned token secret && payload.unexpired now

/-- `jwt.sign(payload, secret)` gives the token. -/
def Signs (jwt : Jwt) (payload : JwtPayload) (secret token : String) : Prop :=
  jwt.decode token = some payload ∧ jwt.isSigned token secret = true

instance (jwt : Jwt) (payload : JwtPayload) (secret token : String) :
    Decidable (jwt.Signs payload secret token) :=
  inferInstanceAs (Decidable (_ ∧ _))

lemma verify_eq_some_iff {jwt : Jwt} {token secret : String} {now : Timestamp}
    {payload : JwtPayload} :
    jwt.verify token secret now = some payload ↔
      jwt.decode token = some payload ∧ jwt.isSigned token secret = true ∧
        payload.unexpired now = true := by
  simp [verify, Option.filter_eq_some_iff]

end Jwt

end CtrlRecovery
