import CtrlRecovery.Economics.Scorer
import CtrlRecovery.Platform

/-!
# The recovery market

One run of the allocator scores the opportunities that wait for a decision, abstains from those that
are uncertain, worthless or held out, ranks the others by expected incremental value and gives `ACT`
to as many of them as the capacity allows. The rest is deferred to the next run.
-/

namespace CtrlRecovery

open Core OpportunityStatus

namespace AntiBlastEngine

/-- The 32-bit rolling hash of an opportunity id. -/
def holdoutHash (opportunityId : String) : ℤ :=
  (Js.codeUnits opportunityId).foldl
    (fun hash c => Js.toInt32 (Js.toInt32 (hash * 2 ^ 5) - hash + c)) 0

/-- The deterministic control group of five percent. -/
def isSyntheticHoldout (opportunityId : String) : Bool :=
  (holdoutHash opportunityId).natAbs % 100 < 5

end AntiBlastEngine

/-- The arguments of an allocation run; what is left out is looked up. -/
structure AllocationOptions where
  capacity : Option ℕ
  tenantId : Option String
  environment : Option Environment
  deriving DecidableEq, Repr

namespace Market

/-! ### The scope of a run -/

def tenantRow (db : Db) (tenantId : Option String) : Option Tenant :=
  (tenantId.filter (· ≠ "")).bind db.tenants.find?

/-- The environment of a run: the one asked for, else the tenant's. -/
def resolveEnvironment (db : Db) (tenantId : Option String) (environment : Option Environment) :
    Option Environment :=
  environment <|> (tenantRow db tenantId).map (·.environment)

def defaultCapacity (platform : Platform) : ℕ :=
  (platform.maxLinksPerRun.filter (· ≠ 0)).getD 5

/-- The capacity of a run: the one asked for, else the tenant's, else the default. -/
def resolveCapacity (platform : Platform) (db : Db) (options : AllocationOptions) : ℕ :=
  (options.capacity <|> ((tenantRow db options.tenantId).map (·.capacityLimit)).filter (· ≠ 0)).getD
    (defaultCapacity platform)

/-- The statuses that wait for an allocation. -/
def isAllocatable (status : OpportunityStatus) : Bool :=
  status == pending || status == scored || status == deferred

def candidates (db : Db) (tenantId : Option String) (environment : Option Environment) :
    List RecoveryOpportunity :=
  (db.getAllOpportunities tenantId (resolveEnvironment db tenantId environment)).filter
    fun o => isAllocatable o.status

/-! ### Decisions -/

/-- Why the market abstains from an opportunity, if it does. -/
def abstainReason (opp : RecoveryOpportunity) (score : Score) : Option String :=
  if score.confidence = .low then
    some ("abstained — low confidence score (" ++ opp.declineType.text ++ ", attempt " ++
      Js.numberToString opp.attemptCount ++ ")")
  else if score.expectedIncrementalValuePaise ≤ 0 then
    some ("abstained — non-positive expected incremental value (₹" ++
      Js.rupees score.expectedIncrementalValuePaise ++ ")")
  else if AntiBlastEngine.isSyntheticHoldout opp.id then
    some "abstained — counterfactual holdout (5% deterministic control group)"
  else none

def isEligible (item : RecoveryOpportunity × Score) : Bool :=
  (abstainReason item.1 item.2).isNone

/-- The eligible items by expected incremental value. -/
def ranking (items : List (RecoveryOpportunity × Score)) : List (RecoveryOpportunity × Score) :=
  rank (·.2.expectedIncrementalValuePaise) (items.filter isEligible)

/-- The value of the last item within the capacity, when the capacity binds. -/
def shadowPrice (capacity : ℕ) (ranked : List (RecoveryOpportunity × Score)) : ℤ :=
  if ranked.length ≥ capacity ∧ capacity > 0 then
    (ranked[capacity - 1]?).elim 0 (·.2.expectedIncrementalValuePaise)
  else 0

/-- What a run decides for one opportunity, and the status that it writes. -/
structure Placement where
  opportunity : RecoveryOpportunity
  score : Score
  decision : AllocationDecision
  status : OpportunityStatus
  deriving DecidableEq, Repr

/-- `ACT` within the capacity, `WAIT` beyond it. -/
def rankedPlacement (capacity : ℕ) (shadowPricePaise : ℤ) (rank : ℕ)
    (item : RecoveryOpportunity × Score) : Placement :=
  let shadowPriceDisplay := "₹" ++ Js.toLocaleFixed (shadowPricePaise / 100) 2
  { opportunity := item.1
    score := item.2
    decision :=
      { opportunityId := item.1.id
        decision := if rank ≤ capacity then .act else .wait
        rankInBatch := rank
        shadowPricePaiseAtDecision := shadowPricePaise
        reason :=
          if rank ≤ capacity then
            "accepted — rank #" ++ toString rank ++ " within capacity limit of " ++
              toString capacity ++ " (marginal cutoff: " ++ shadowPriceDisplay ++ ")"
          else
            "deferred — below this run's marginal value of " ++ shadowPriceDisplay ++ " (rank #" ++
              toString rank ++ " vs cap " ++ toString capacity ++ ")" }
    status := if rank ≤ capacity then allocated else deferred }

def abstainPlacement (shadowPricePaise : ℤ) (item : RecoveryOpportunity × Score)
    (reason : String) : Placement where
  opportunity := item.1
  score := item.2
  decision :=
    { opportunityId := item.1.id
      decision := .abstain
      rankInBatch := 0
      shadowPricePaiseAtDecision := shadowPricePaise
      reason := reason }
  status := abstained

/-- The placements of a run: the ranked items in order, then those abstained from. -/
def placements (capacity : ℕ) (items : List (RecoveryOpportunity × Score)) : List Placement :=
  let ranked := ranking items
  let shadowPricePaise := shadowPrice capacity ranked
  ranked.mapIdx (fun i item => rankedPlacement capacity shadowPricePaise (i + 1) item) ++
    items.filterMap fun item =>
      (abstainReason item.1 item.2).map (abstainPlacement shadowPricePaise item)

/-- Write one placement: the status, then the decision. -/
def place (db : Db) (p : Placement) : Db :=
  (db.updateStatus p.opportunity.id p.status).upsertAllocationDecision p.decision

structure MarketRunResult where
  capacity : ℕ
  totalOpportunities : ℕ
  eligibleCount : ℕ
  abstainedCount : ℕ
  acceptedCount : ℕ
  deferredCount : ℕ
  shadowPricePaise : ℤ
  items : List Placement
  deriving DecidableEq, Repr

/-- An allocation run on a list of waiting opportunities. -/
def allocateAmong (est : Estimator) (capacity : ℕ) (opps : List RecoveryOpportunity) (db : Db) :
    MarketRunResult × Db :=
  let scoredItems := Scorer.scoreItems est db opps
  let eligible := scoredItems.1.filter isEligible
  let items := placements capacity scoredItems.1
  ({ capacity := capacity
     totalOpportunities := opps.length
     eligibleCount := eligible.length
     abstainedCount := opps.length - eligible.length
     acceptedCount := min capacity eligible.length
     deferredCount := eligible.length - capacity
     shadowPricePaise := shadowPrice capacity (ranking scoredItems.1)
     items := items },
    items.foldl place scoredItems.2)

def runMarketAllocation (platform : Platform) (est : Estimator) (options : AllocationOptions)
    (db : Db) : MarketRunResult × Db :=
  allocateAmong est (resolveCapacity platform db options)
    (candidates db options.tenantId options.environment) db

/-- An allocation run on opportunities that the caller passes; those that do not wait are left
out. It throws where one of the others has no row that its score and its decision could refer to. -/
def runMarketAllocationOn (platform : Platform) (est : Estimator) (options : AllocationOptions)
    (opportunities : List RecoveryOpportunity) (db : Db) : Option (MarketRunResult × Db) :=
  let allOpps := opportunities.filter fun o => isAllocatable o.status
  if db.Stores allOpps then some (allocateAmong est (resolveCapacity platform db options) allOpps db)
  else none

end Market

end CtrlRecovery
