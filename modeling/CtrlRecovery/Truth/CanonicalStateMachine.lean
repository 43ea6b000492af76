import CtrlRecovery.Truth.ProviderTruth

/-!
# The canonical payment states

The second reading of a payload: its status and amounts mapped to a canonical state. It compares
the amount paid with the amount of the opportunity, which `ProviderTruthEvaluator` does not.
-/

namespace CtrlRecovery

inductive CanonicalPaymentState
  | pending | providerObjectCreated | paymentConfirmed | recovered | failed | expired
  | cancelled | mismatch | unknown
  deriving DecidableEq, Repr

structure RazorpayStateMappingResult where
  canonicalState : CanonicalPaymentState
  isTerminal : Bool
  isSettled : Bool
  requiresReconciliation : Bool
  rationale : String
  deriving DecidableEq, Repr

namespace CanonicalStateMachine

open ProviderTruthEvaluator (isPaidStatus)

/-- The quarantine of a payment below the amount due. -/
def partialPayment (amountPaid amount : ℚ) : RazorpayStateMappingResult where
  canonicalState := .mismatch
  isTerminal := false
  isSettled := false
  requiresReconciliation := true
  rationale := "Partial payment detected (Paid: ₹" ++ Js.rupees amountPaid ++
    " vs Total: ₹" ++ Js.rupees amount ++ "). Quarantined as MISMATCH."

/-- A link that ended without a payment. -/
def endedUnpaid (state : CanonicalPaymentState) (rationale : String) :
    RazorpayStateMappingResult where
  canonicalState := state
  isTerminal := true
  isSettled := false
  requiresReconciliation := true
  rationale := rationale

def mapRazorpayStatusToCanonicalState (status : String) (amount amountPaid : ℚ) :
    RazorpayStateMappingResult :=
  let rawStatus := Js.toLowerCase (Js.orElse (some status) "unknown")
  -- 1. Confirmed paid, unless the amount falls short
  if isPaidStatus rawStatus && 0 < amountPaid then
    if 0 < amount && amountPaid < amount then partialPayment amountPaid amount
    else
      { canonicalState := .paymentConfirmed
        isTerminal := true
        isSettled := true
        requiresReconciliation := true
        rationale := "Provider confirmed successful payment settlement (Status: '" ++ rawStatus ++
          "', Paid: ₹" ++ Js.rupees amountPaid ++ ")." }
  else if rawStatus == "partially_paid" && 0 < amountPaid then partialPayment amountPaid amount
  -- 2. Created, issued, pending or simulated
  else if rawStatus == "created" || rawStatus == "issued" || rawStatus == "simulated" ||
      (rawStatus == "partially_paid" && amountPaid == 0) then
    { canonicalState := .providerObjectCreated
      isTerminal := false
      isSettled := false
      requiresReconciliation := false
      rationale := "Payment link created in provider system (Status: '" ++ rawStatus ++
        "', Paid: ₹0.00). Invariant: LINK_CREATED != RECOVERED." }
  -- 3. Expired or cancelled
  else if rawStatus == "expired" then
    endedUnpaid .expired "Payment link expired without payment."
  else if rawStatus == "cancelled" then
    endedUnpaid .cancelled "Payment link was cancelled by merchant/system."
  -- 4. Failed
  else if rawStatus == "failed" then
    endedUnpaid .failed "Payment link execution failed at provider."
  -- 5. Unknown, quarantined
  else
    { canonicalState := .unknown
      isTerminal := false
      isSettled := false
      requiresReconciliation := true
      rationale := "Unrecognized or ambiguous provider status: '" ++ rawStatus ++
        "'. Quarantined as UNKNOWN." }

/-- The status that the mapping reads. -/
def rawStatus (status : String) : String := Js.toLowerCase (Js.orElse (some status) "unknown")

variable {status : String} {amount amountPaid : ℚ}

lemma map_of_isPaidStatus (h : isPaidStatus (rawStatus status)) (hpaid : 0 < amountPaid) :
    (mapRazorpayStatusToCanonicalState status amount amountPaid).canonicalState =
      if 0 < amount ∧ amountPaid < amount then .mismatch else .paymentConfirmed := by
  rw [rawStatus] at h
  by_cases hshort : 0 < amount ∧ amountPaid < amount
  · simp [mapRazorpayStatusToCanonicalState, h, hpaid, hshort, partialPayment]
  · simp only [mapRazorpayStatusToCanonicalState, h, hpaid, decide_true, Bool.and_self, if_true,
      Bool.and_eq_true, decide_eq_true_eq, if_neg hshort]

lemma map_of_partiallyPaid (h : rawStatus status = "partially_paid") (hpaid : 0 < amountPaid) :
    (mapRazorpayStatusToCanonicalState status amount amountPaid).canonicalState = .mismatch := by
  rw [rawStatus] at h
  have hstatus : isPaidStatus "partially_paid" = false := by decide
  simp [mapRazorpayStatusToCanonicalState, h, hpaid, hstatus, partialPayment]

lemma map_of_unpaid (amount : ℚ) (h : ¬ (isPaidStatus (rawStatus status) ∧ 0 < amountPaid))
    (h' : ¬ (rawStatus status = "partially_paid" ∧ 0 < amountPaid)) :
    (mapRazorpayStatusToCanonicalState status amount amountPaid).canonicalState ∉
      [.mismatch, .paymentConfirmed] := by
  rw [rawStatus] at h h'
  simp only [mapRazorpayStatusToCanonicalState, Bool.and_eq_true, decide_eq_true_eq, h, if_false,
    beq_iff_eq, h']
  split_ifs <;> simp [endedUnpaid]

/-- A payment is confirmed for a paid or captured status with an amount paid that is positive and
covers a positive amount due. -/
theorem canonicalState_eq_paymentConfirmed_iff :
    (mapRazorpayStatusToCanonicalState status amount amountPaid).canonicalState =
        .paymentConfirmed ↔
      isPaidStatus (rawStatus status) ∧ 0 < amountPaid ∧ ¬ (0 < amount ∧ amountPaid < amount) := by
  by_cases h : isPaidStatus (rawStatus status) ∧ 0 < amountPaid
  · rw [map_of_isPaidStatus h.1 h.2]
    split_ifs with hshort <;> simp [h, hshort]
  · by_cases h' : rawStatus status = "partially_paid" ∧ 0 < amountPaid
    · rw [map_of_partiallyPaid h'.1 h'.2]
      simp [← and_assoc, h]
    · have hstate := map_of_unpaid amount h h'
      simp only [List.mem_cons, List.not_mem_nil, or_false, not_or] at hstate
      simp [← and_assoc, h, hstate.2]

/-- The mapping quarantines positive payments that are partial by their status or fall short of a
positive amount due. -/
theorem canonicalState_eq_mismatch_iff :
    (mapRazorpayStatusToCanonicalState status amount amountPaid).canonicalState = .mismatch ↔
      0 < amountPaid ∧
        ((isPaidStatus (rawStatus status) ∧ 0 < amount ∧ amountPaid < amount) ∨
          rawStatus status = "partially_paid") := by
  by_cases h : isPaidStatus (rawStatus status) ∧ 0 < amountPaid
  · have hne : rawStatus status ≠ "partially_paid" := by
      intro heq
      exact absurd (heq ▸ h.1) (by decide)
    rw [map_of_isPaidStatus h.1 h.2]
    split_ifs with hshort <;> simp [h, hshort, hne]
  · by_cases h' : rawStatus status = "partially_paid" ∧ 0 < amountPaid
    · rw [map_of_partiallyPaid h'.1 h'.2]
      simp [h']
    · have hstate := map_of_unpaid amount h h'
      simp only [List.mem_cons, List.not_mem_nil, or_false, not_or] at hstate
      simp only [hstate.1, false_iff]
      rintro ⟨hpaid, ⟨hstatus, -⟩ | hstatus⟩
      · exact h ⟨hstatus, hpaid⟩
      · exact h' ⟨hstatus, hpaid⟩

end CanonicalStateMachine

end CtrlRecovery
