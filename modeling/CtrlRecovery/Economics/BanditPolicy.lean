import CtrlRecovery.Core.Table
import CtrlRecovery.Js
import CtrlRecovery.Types

/-!
# The bandit's arms

An arm counts the outcomes of a tenant's payments of one reason and amount tier. The reconciler
rewards it after a settlement.
-/

namespace CtrlRecovery

open Core

inductive AmountTier | micro | mid | high | enterprise
  deriving DecidableEq, Repr

def AmountTier.text : AmountTier → String
  | micro      => "MICRO"
  | mid        => "MID"
  | high       => "HIGH"
  | enterprise => "ENTERPRISE"

def resolveAmountTier (amountPaise : ℚ) : AmountTier :=
  if amountPaise < 100000 then .micro
  else if amountPaise < 500000 then .mid
  else if amountPaise < 2000000 then .high
  else .enterprise

/-- A row of `bandit_arms`. -/
structure BanditArmRecord where
  id : String
  tenantId : String
  contextKey : String
  alphaInterv : ℚ
  betaInterv : ℚ
  alphaNat : ℚ
  betaNat : ℚ
  pullCount : ℕ
  rewardSum : ℚ
  updatedAt : Timestamp
  deriving DecidableEq, Repr

def BanditArmRecord.key (arm : BanditArmRecord) : String × String := (arm.tenantId, arm.contextKey)

namespace ThompsonSamplingBandit

def getContextKey (opp : RecoveryOpportunity) : String :=
  Js.orElse (some opp.reasonCode) "generic_decline" ++ ":" ++ (resolveAmountTier opp.amountPaise).text

/-- An arm without outcomes. -/
def newArm (id tenantId contextKey : String) (now : Timestamp) : BanditArmRecord where
  id := id
  tenantId := tenantId
  contextKey := contextKey
  alphaInterv := 3
  betaInterv := 3
  alphaNat := 2
  betaNat := 6
  pullCount := 0
  rewardSum := 0
  updatedAt := now

/-- The arm with one outcome more. -/
def reward (arm : BanditArmRecord) (isRecovered isIntervention : Bool) (now : Timestamp) :
    BanditArmRecord :=
  let rewarded : BanditArmRecord :=
    if isIntervention then
      if isRecovered then
        { arm with alphaInterv := arm.alphaInterv + 1, rewardSum := arm.rewardSum + 1 }
      else { arm with betaInterv := arm.betaInterv + 1 }
    else if isRecovered then { arm with alphaNat := arm.alphaNat + 1 }
    else { arm with betaNat := arm.betaNat + 1 }
  { rewarded with pullCount := arm.pullCount + 1, updatedAt := now }

/-- `INSERT INTO bandit_arms … ON CONFLICT(tenant_id, context_key) DO UPDATE`; `none` when the new id
is that of another arm. -/
def upsertBanditArm (arms : Table BanditArmRecord.key) (arm : BanditArmRecord) :
    Option (Table BanditArmRecord.key) :=
  if (arms.find? arm.key).isNone ∧ arms.rows.any fun other => other.id = arm.id then none
  else some (arms.put arm)

def updateReward (arms : Table BanditArmRecord.key) (id tenantId contextKey : String)
    (isRecovered isIntervention : Bool) (now : Timestamp) : Option (Table BanditArmRecord.key) :=
  let existingArm := (arms.find? (tenantId, contextKey)).getD (newArm id tenantId contextKey now)
  upsertBanditArm arms (reward existingArm isRecovered isIntervention now)

end ThompsonSamplingBandit

end CtrlRecovery
