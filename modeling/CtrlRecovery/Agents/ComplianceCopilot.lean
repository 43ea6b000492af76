import CtrlRecovery.Authority.Gate
import CtrlRecovery.Perception.Normalizer

/-!
# The pre-execution compliance check

`ComplianceCopilot.checkPreExecutionCompliance` is asked before outreach is drafted and before a plan
is made; the gate that money passes does not ask it. The two know hard declines from different
patterns, and the night hours of India are known to the check only. So the gate entails the check
for the opportunities that it never authorizes, and otherwise by day for those whose code the
check does not take for a hard decline (`gateEntailsCheck_iff`).
-/

namespace CtrlRecovery

open Authority AuthorityRuleRegistry

namespace ComplianceCopilot

/-! ### The check -/

structure PreExecutionCompliance where
  dndActive : Bool
  contactLimitExceeded : Bool
  hardDeclineBlocked : Bool
  canProceed : Bool
  vetoReason : Option String
  deriving DecidableEq, Repr

def hardReasons : List String :=
  ["STOLEN_CARD", "LOST_CARD", "FRAUD", "FRAUD_SUSPECTED", "EXPIRED_CARD", "PICKUP_CARD"]

/-- The code of an opportunity reads like a hard decline, whatever the taxonomy made of it. -/
def hasHardReason (opp : RecoveryOpportunity) : Bool :=
  hardReasons.any (Js.includes (Js.toUpperCase opp.reasonCode))

def istOffsetMs : ℕ := 19800000

def istHour (now : Timestamp) : ℕ := (now + istOffsetMs) / 3600000 % 24

/-- The hours in which nobody is contacted. -/
def isDnd (now : Timestamp) : Bool := 21 ≤ istHour now || istHour now < 8

def checkPreExecutionCompliance (opp : RecoveryOpportunity) (now : Timestamp) :
    PreExecutionCompliance :=
  if opp.declineType == .hard || hasHardReason opp then
    { dndActive := false
      contactLimitExceeded := false
      hardDeclineBlocked := true
      canProceed := false
      vetoReason := some ("Action blocked: Hard decline / security stop code '" ++
        opp.reasonCode ++ "'.") }
  else if opp.attemptCount ≥ 3 then
    { dndActive := false
      contactLimitExceeded := true
      hardDeclineBlocked := false
      canProceed := false
      vetoReason := some ("Action blocked: RBI contact threshold reached (attempt " ++
        Js.numberToString opp.attemptCount ++ " of max 3).") }
  else if isDnd now then
    { dndActive := true
      contactLimitExceeded := false
      hardDeclineBlocked := false
      canProceed := false
      vetoReason := some ("Action deferred: Current time (" ++ toString (istHour now) ++
        ":00 IST) falls within RBI DND window (21:00-08:00 IST).") }
  else
    { dndActive := false
      contactLimitExceeded := false
      hardDeclineBlocked := false
      canProceed := true
      vetoReason := none }

variable {opp : RecoveryOpportunity} {now : Timestamp}

lemma canProceed_iff :
    (checkPreExecutionCompliance opp now).canProceed ↔
      opp.declineType ≠ .hard ∧ ¬ hasHardReason opp ∧ opp.attemptCount < 3 ∧ ¬ isDnd now := by
  rw [checkPreExecutionCompliance]
  split_ifs with hhard hlimit hdnd
  · rw [Bool.or_eq_true, beq_iff_eq] at hhard
    simp only [false_iff]
    rintro ⟨hne, hreason, -, -⟩
    exact hhard.elim hne hreason
  · simp only [false_iff]
    rintro ⟨-, -, hlt, -⟩
    exact absurd hlimit (not_le.mpr hlt)
  · simp [hdnd]
  · simp only [Bool.or_eq_true, beq_iff_eq, not_or] at hhard
    simp [hhard.1, hhard.2, hdnd, not_le.mp hlimit]

lemma checkPreExecutionCompliance_vetoReason :
    (checkPreExecutionCompliance opp now).vetoReason.isSome =
      !(checkPreExecutionCompliance opp now).canProceed := by
  rw [checkPreExecutionCompliance]
  split_ifs <;> rfl

/-! ### The gate and the check -/

/-- Whatever the switches, the decision and the score, what the gate authorizes at this time the
check lets proceed. -/
def GateEntailsCheck (opp : RecoveryOpportunity) (now : Timestamp) : Prop :=
  ∀ ks est db decision score,
    (evaluateOpportunity ks est now db opp decision score).1.verdict = .authorized →
      (checkPreExecutionCompliance opp now).canProceed

/-- A score with which nothing is held back. -/
def confidentScore (opp : RecoveryOpportunity) : Score where
  opportunityId := opp.id
  naturalRecoveryProb := 0
  interventionRecoveryProb := 0
  incrementalProb := 0
  operationalCostPaise := 0
  fatigueCostPaise := 0
  expectedIncrementalValuePaise := 0
  confidence := .medium

def actDecision (opp : RecoveryOpportunity) : AllocationDecision where
  opportunityId := opp.id
  decision := .act
  rankInBatch := 1
  shadowPricePaiseAtDecision := 0
  reason := ""

lemma of_authorized {ks : KillSwitches} {est : Estimator} {db : Db}
    {decision : Option AllocationDecision} {score : Option Score}
    (h : (evaluateOpportunity ks est now db opp decision score).1.verdict = .authorized) :
    opp.declineType ≠ .hard ∧ opp.attemptCount < 3 := by
  simp only [evaluateOpportunity, evaluateRules] at h
  rw [verdict_coreRules_iff rfl] at h
  obtain ⟨-, hhard, hattempts, -, -⟩ := h
  exact ⟨hhard, hattempts⟩

/-- With every switch off it authorizes the others when they are confident and allocated. -/
lemma authorized_of_confident (est : Estimator) (now : Timestamp) (db : Db)
    (hhard : opp.declineType ≠ .hard) (hattempts : opp.attemptCount < 3) :
    (evaluateOpportunity .off est now db opp (some (actDecision opp))
      (some (confidentScore opp))).1.verdict = .authorized := by
  simp only [evaluateOpportunity, evaluateRules]
  rw [verdict_coreRules_iff rfl]
  refine ⟨?_, hhard, hattempts, ?_, rfl⟩
  · simp
  · simp [confidentScore]

/-- The gate entails the check exactly for what it never authorizes and, by day, for the codes that
the check does not take for a hard decline. -/
lemma gateEntails_iff (opp : RecoveryOpportunity) (now : Timestamp) :
    GateEntailsCheck opp now ↔
      opp.declineType = .hard ∨ 3 ≤ opp.attemptCount ∨ (¬ hasHardReason opp ∧ ¬ isDnd now) := by
  constructor
  · intro h
    by_contra hnot
    simp only [not_or, not_le] at hnot
    obtain ⟨hhard, hattempts, hcheck⟩ := hnot
    have hproceed := h .off .sample .empty _ _
      (authorized_of_confident .sample now .empty hhard hattempts)
    obtain ⟨-, hreason, -, hdnd⟩ := canProceed_iff.mp hproceed
    exact hcheck ⟨hreason, hdnd⟩
  · intro h ks est db decision score hauthorized
    obtain ⟨hhard, hattempts⟩ := of_authorized hauthorized
    rcases h with h | h | ⟨hreason, hdnd⟩
    · exact absurd h hhard
    · exact absurd h (not_le.mpr hattempts)
    · exact canProceed_iff.mpr ⟨hhard, hreason, hattempts, hdnd⟩

/-! ### Ingested opportunities -/

section Ingested

open Normalizer

/-- For every ingested payment and at every time, the gate entails the check exactly when the taxonomy
has found a hard decline, three attempts have been made, or it is day and the code holds none of
the check's words for a hard decline. -/
theorem gateEntailsCheck_iff (payment : RawPaymentPayload) (eventId : Option String)
    (options : NormalizeOptions) (priorCount : ℕ) (ingestedAt now : Timestamp) :
    GateEntailsCheck (normalizeOpportunity payment eventId options priorCount ingestedAt) now ↔
      (normalizeOpportunity payment eventId options priorCount ingestedAt).declineType = .hard ∨
      3 ≤ (normalizeOpportunity payment eventId options priorCount ingestedAt).attemptCount ∨
      (¬ hasHardReason (normalizeOpportunity payment eventId options priorCount ingestedAt) ∧
        ¬ isDnd now) :=
  gateEntails_iff _ now

/-- The first failure of a payment by an expired card. -/
def expiredCardPayment : RawPaymentPayload where
  id := some "pay_1"
  amount := some 100000
  currency := some "INR"
  errorCode := some "EXPIRED_CARD"
  errorReason := none
  errorDescription := none
  customerId := some "cust_1"
  email := none
  contact := none
  attempts := some 1

/-- At noon in India the gate can authorize the expired card, which the check blocks. -/
theorem expiredCard_authorized_not_canProceed :
    ¬ GateEntailsCheck
      (normalizeOpportunity expiredCardPayment none ⟨.real, "tenant_a", .test⟩ 0 1000) 23400000 := by
  rw [gateEntails_iff]
  decide +kernel

end Ingested

end ComplianceCopilot

end CtrlRecovery
