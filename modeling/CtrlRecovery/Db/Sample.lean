import CtrlRecovery.Db.Database
import CtrlRecovery.Truth.ProviderTruth

/-!
# Concrete databases and payloads

Small values to evaluate runs on.
-/

namespace CtrlRecovery

open Core

/-- A soft-declined real payment of ₹1000.00 that failed for insufficient funds. -/
def sampleOpportunity (id : String) (status : OpportunityStatus) : RecoveryOpportunity where
  id := id
  source := .real
  amountPaise := 100000
  currency := "INR"
  reasonCode := "insufficient_funds"
  declineType := .soft
  attemptCount := 1
  customerId := "cust_1"
  createdAt := 1000
  status := status
  tenantId := "tenant_a"
  merchantId := "tenant_a"
  environment := .test
  razorpayEventId := none

/-- The record of a payment link of an opportunity. -/
def sampleRecord (opportunityId linkId : String) : ExecutionRecord where
  opportunityId := opportunityId
  razorpayPaymentLinkId := linkId
  linkUrl := "https://rzp.io/i/" ++ linkId
  status := "created"
  idempotencyKey := "ref_" ++ opportunityId
  createdAt := 2000

def Db.ofRows (opportunities : List RecoveryOpportunity) (records : List ExecutionRecord) : Db :=
  { Db.empty with
    opportunities := opportunities.foldl Table.put .empty
    executionRecords := records.foldl Table.put .empty }

/-- The payload of a payment link of ₹1000.00. -/
def sampleLink (linkId status : String) (amountPaid : ℚ) : ProviderPayload where
  id := linkId
  status := some status
  amount := some 100000
  amountPaid := some amountPaid
  payments := [⟨"pay_77"⟩]
  sourceEnv := none

end CtrlRecovery
