import CtrlRecovery.Js

/-!
# Provider truth

What a payment link payload of the provider says about the payment. The stated invariant is that a
created link is not a recovery: a recovery is confirmed only by a paid or captured link with a
positive amount paid.
-/

namespace CtrlRecovery

inductive SourceEnv | razorpayTest | synthetic | fixture
  deriving DecidableEq, Repr

/-- A payment of a payment link. -/
structure ProviderPayment where
  id : String
  deriving DecidableEq, Repr

/-- A payment link entity, as the provider returns or delivers it. -/
structure ProviderPayload where
  id : String
  status : Option String
  amount : Option ℚ
  amountPaid : Option ℚ
  payments : List ProviderPayment
  sourceEnv : Option SourceEnv
  deriving DecidableEq, Repr

inductive EvidenceClass
  | synthetic | razorpayTest | fixture | razorpayTestVerified | partialPayment | unverified
  deriving DecidableEq, Repr

inductive ProviderEvidenceState
  | providerObjectVerified | paymentPending | providerRecoveryVerified | expired
  deriving DecidableEq, Repr

inductive EvaluationStatus | confirmed | pending | reconciliationMismatch
  deriving DecidableEq, Repr

structure ProviderTruthEvaluation where
  paymentLinkId : String
  providerStatus : String
  amountPaise : ℚ
  amountPaidPaise : ℚ
  paymentId : Option String
  evidenceState : ProviderEvidenceState
  evidenceClass : EvidenceClass
  paymentConfirmed : Bool
  isRecovered : Bool
  reconciliationStatus : EvaluationStatus
  rationale : String
  deriving DecidableEq, Repr

namespace ProviderTruthEvaluator

/-- The evidence class of a source, where data of the provider's test mode counts as `verified`. -/
def classOf (verified : EvidenceClass) : SourceEnv → EvidenceClass
  | .razorpayTest => verified
  | .synthetic    => .synthetic
  | .fixture      => .fixture

/-- The status text of a payload in lower case. -/
def normalizedStatus (payload : ProviderPayload) : String :=
  Js.toLowerCase (Js.orElse payload.status "unknown")

/-- A paid or captured status. -/
def isPaidStatus (status : String) : Bool := status == "paid" || status == "captured"

/-- What every case of the evaluation copies from the payload, without a confirmed payment. -/
def unconfirmed (payload : ProviderPayload) (evidenceState : ProviderEvidenceState)
    (evidenceClass : EvidenceClass) (reconciliationStatus : EvaluationStatus)
    (rationale : String) : ProviderTruthEvaluation where
  paymentLinkId := payload.id
  providerStatus := normalizedStatus payload
  amountPaise := Js.orZero payload.amount
  amountPaidPaise := Js.orZero payload.amountPaid
  paymentId := payload.payments.head?.map (·.id)
  evidenceState := evidenceState
  evidenceClass := evidenceClass
  paymentConfirmed := false
  isRecovered := false
  reconciliationStatus := reconciliationStatus
  rationale := rationale

def evaluate (payload : ProviderPayload) : ProviderTruthEvaluation :=
  let status := normalizedStatus payload
  let amount := Js.orZero payload.amount
  let amountPaid := Js.orZero payload.amountPaid
  let sourceEnv := payload.sourceEnv.getD .razorpayTest
  -- Case 1: the provider confirms a completed payment with a positive amount paid
  if isPaidStatus status && 0 < amountPaid then
    { unconfirmed payload .providerRecoveryVerified (classOf .razorpayTestVerified sourceEnv)
        .confirmed ("Provider confirmed successful payment (Status: " ++ status ++
          ", Amount Paid: ₹" ++ Js.rupees amountPaid ++ ").") with
      paymentConfirmed := true
      isRecovered := true }
  -- Case 2: the link exists, but its payment has not completed
  else if status == "created" || status == "issued" || status == "simulated" ||
      (status == "partially_paid" && amountPaid == 0) then
    unconfirmed payload .providerObjectVerified
      (if status == "simulated" then .synthetic else classOf .razorpayTest sourceEnv) .pending
      ("Provider object queried successfully (Status: " ++ status ++
        "), but payment is NOT confirmed (Amount Paid: ₹" ++ Js.rupees amountPaid ++
        "). Invariant: LINK_CREATED != RECOVERED.")
  -- Case 2b: a partial payment
  else if status == "partially_paid" && 0 < amountPaid then
    unconfirmed payload .providerObjectVerified .partialPayment .reconciliationMismatch
      ("Partial payment detected (Paid: ₹" ++ Js.rupees amountPaid ++ " vs Total: ₹" ++
        Js.rupees amount ++ "). Quarantined as MISMATCH.")
  -- Case 3: the link expired or was cancelled
  else if status == "expired" || status == "cancelled" then
    unconfirmed payload .expired (classOf .razorpayTest sourceEnv) .confirmed
      "Provider link expired or cancelled without payment."
  -- Case 4: anything else
  else
    unconfirmed payload .paymentPending .unverified .pending
      ("Provider status '" ++ status ++ "' does not confirm completed payment.")

variable (payload : ProviderPayload)

@[simp] lemma evaluate_providerStatus :
    (evaluate payload).providerStatus = normalizedStatus payload := by
  simp only [evaluate]
  split_ifs <;> rfl

@[simp] lemma evaluate_amountPaidPaise :
    (evaluate payload).amountPaidPaise = Js.orZero payload.amountPaid := by
  simp only [evaluate]
  split_ifs <;> rfl

/-- A recovery is confirmed only for a paid or captured status with a positive amount paid. -/
@[simp] lemma evaluate_isRecovered :
    (evaluate payload).isRecovered =
      (isPaidStatus (normalizedStatus payload) && decide (0 < Js.orZero payload.amountPaid)) := by
  simp only [evaluate]
  by_cases h : isPaidStatus (normalizedStatus payload) && decide (0 < Js.orZero payload.amountPaid)
  · simp [h]
  · rw [Bool.not_eq_true] at h
    simp only [h, Bool.false_eq_true, if_false]
    split_ifs <;> rfl

end ProviderTruthEvaluator

end CtrlRecovery
