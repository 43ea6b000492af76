import CtrlRecovery.Js
import CtrlRecovery.Types

/-!
# Normalization of failed payments

A failed payment of any source becomes an opportunity in status `pending`. The decline taxonomy is
decided by patterns in its error code and reason.
-/

namespace CtrlRecovery

namespace Normalizer

/-! ### Decline taxonomy -/

def HARD_DECLINE_PATTERNS : List String :=
  ["stolen_card", "lost_card", "pickup_card", "pick_up_card", "restricted_card",
    "card_stolen_lost", "card_stolen", "card_lost", "card_pickup", "card_restricted",
    "bad_request_payment_card_stolen_or_lost", "bad_request_payment_card_pick_up",
    "bad_request_payment_card_restricted", "invalid_vpa", "vpa_not_found", "account_blocked",
    "account_frozen", "npci_xb"]

def SOFT_DECLINE_PATTERNS : List String :=
  ["insufficient_funds", "expired_card", "card_expired", "generic_decline", "do_not_honor",
    "bank_gateway_timeout", "gateway_timeout", "network_timeout", "bank_network_timeout",
    "gateway_error", "payment_authentication_failed", "transaction_not_permitted",
    "limit_exceeded", "otp_timeout", "card_inactive", "temporarily_unavailable",
    "bad_request_payment_insufficient_funds", "bad_request_payment_card_expired",
    "bad_request_payment_declined_by_bank", "bad_request_payment_do_not_honor",
    "bad_request_payment_authentication_failed", "npci_u30", "transaction_limit_exceeded",
    "npci_u69", "collect_request_expired", "npci_za", "payment_cancelled_by_user",
    "invalid_mpin", "npci_zm", "npci_zh", "user_dropped"]

/-- The keywords that make an otherwise unknown code a soft decline. -/
def softKeywords : List String :=
  ["insufficient", "timeout", "network", "expired", "do_not_honor", "honor", "authentication",
    "temporary"]

def classifyDeclineTaxonomy (errorCode errorReason : String) : DeclineType :=
  let code := Js.toLowerCase (Js.trim errorCode)
  let reason := Js.toLowerCase (Js.trim errorReason)
  let combined := Js.trim (code ++ " " ++ reason)
  let matchesPattern (pattern : String) := Js.includes code pattern || Js.includes reason pattern
  if combined = "" then .unknown
  else if HARD_DECLINE_PATTERNS.any matchesPattern then .hard
  else if SOFT_DECLINE_PATTERNS.any matchesPattern then .soft
  else if softKeywords.any (Js.includes combined) then .soft
  else .unknown

/-! ### Normalization -/

/-- The fields of a raw payment entity that normalization reads. -/
structure RawPaymentPayload where
  id : Option String
  amount : Option ℚ
  currency : Option String
  errorCode : Option String
  errorReason : Option String
  errorDescription : Option String
  customerId : Option String
  email : Option String
  contact : Option String
  attempts : Option ℚ
  deriving DecidableEq, Repr

structure NormalizeOptions where
  source : OpportunitySource
  tenantId : String
  environment : Environment
  deriving DecidableEq, Repr

/-- The opportunity of a failed payment. `priorCount` is the number of earlier opportunities that
the database counts for the customer; it is used when the payload has no attempt number. -/
def normalizeOpportunity (payment : RawPaymentPayload) (eventId : Option String)
    (options : NormalizeOptions) (priorCount : ℕ) (now : Timestamp) : RecoveryOpportunity :=
  let paymentId := Js.orElse payment.id ("pay_" ++ toString now)
  let errorCode := Js.orElse payment.errorCode "UNKNOWN_ERROR"
  let errorReason := Js.orElse payment.errorReason
    (Js.orElse payment.errorDescription "Payment failed")
  let attempts := Js.orZero payment.attempts
  let tenantId := Js.orElse options.tenantId "tenant_default"
  { id := paymentId
    source := options.source
    amountPaise := Js.orZero payment.amount
    currency := Js.orElse payment.currency "INR"
    reasonCode := errorCode
    declineType := classifyDeclineTaxonomy errorCode errorReason
    attemptCount := if attempts < 1 then priorCount + 1 else attempts
    customerId := Js.orElse payment.customerId (Js.orElse payment.email
      (Js.orElse payment.contact ("cust_" ++ Js.lastChars 8 paymentId)))
    createdAt := now
    status := .pending
    tenantId := tenantId
    merchantId := tenantId
    environment := options.environment
    razorpayEventId := eventId.filter (· ≠ "") }

section Simp

variable (payment : RawPaymentPayload) (eventId : Option String) (options : NormalizeOptions)
  (priorCount : ℕ) (now : Timestamp)

@[simp] lemma normalizeOpportunity_id :
    (normalizeOpportunity payment eventId options priorCount now).id =
      Js.orElse payment.id ("pay_" ++ toString now) := rfl

end Simp

end Normalizer

end CtrlRecovery
