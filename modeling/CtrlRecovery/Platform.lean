import CtrlRecovery.Types

/-!
# The platform

What the program takes from outside its own source: hash functions, date formatting and the process
environment.
-/

namespace CtrlRecovery

structure Platform where
  /-- Hexadecimal SHA-256 digest of a text. -/
  sha256 : String → String
  /-- Hexadecimal HMAC-SHA-256 of a text under a secret. -/
  hmacSha256 : String → String → String
  /-- `new Date(ms).toISOString()`. -/
  isoString : Timestamp → String
  /-- `Number(process.env.MAX_LINKS_PER_RUN)`, when it is a positive integer. -/
  maxLinksPerRun : Option ℕ
  /-- `process.env.RAZORPAY_WEBHOOK_SECRET`. -/
  razorpayWebhookSecret : Option String

/-- The engines that the database adapter runs on. -/
inductive DbEngine | postgreSQL | sqlite
  deriving DecidableEq, Repr

/-- The variables of the process environment that authentication reads. -/
structure ProcessEnv where
  jwtSecret : Option String
  nodeEnv : Option String
  authRequired : Option String
  enableTestBypass : Option String
  testMode : Option String
  deriving DecidableEq, Repr

/-- A production environment that sets nothing else. -/
def ProcessEnv.production : ProcessEnv where
  jwtSecret := none
  nodeEnv := some "production"
  authRequired := none
  enableTestBypass := none
  testMode := none

/-- A platform to evaluate runs on: every text is its own digest. -/
def Platform.plain : Platform where
  sha256 := id
  hmacSha256 := fun secret text => secret ++ text
  isoString := fun ms => toString ms
  maxLinksPerRun := none
  razorpayWebhookSecret := none

end CtrlRecovery
