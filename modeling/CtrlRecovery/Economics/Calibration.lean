import CtrlRecovery.Core.Double
import CtrlRecovery.Core.Run
import CtrlRecovery.Core.Table
import CtrlRecovery.Js
import CtrlRecovery.Types
import Mathlib.Logic.Function.Basic

/-!
# The calibrated probabilities

Recovery probabilities start from a static table and are calibrated with the observed outcomes. The
observations are counted in memory by tenant and reason. From the fifth on, each writes its posterior
to the model of the reason, to the prior of the tenant and the reason, and to a cache by reason, from
which the probabilities of a score are read. The two database writes of a call are awaited.

The posteriors and the promotion test are computed in doubles. The parameters of a posterior are tenths,
which the doubles add without a trace; its mean has four decimals and depends on how they are rounded.
-/

namespace CtrlRecovery

open Core Js.Arithmetic

/-- `Math.sqrt` and `Math.tanh`. -/
structure JsMath where
  sqrt : ℚ → ℚ
  tanh : ℚ → ℚ

inductive ModelStatus | active | candidate
  deriving DecidableEq, Repr

/-- An entry of the static table. -/
@[ext]
structure StaticProbability where
  naturalRecoveryProb : ℚ
  interventionRecoveryProb : ℚ
  deriving DecidableEq, Repr

structure BetaDistribution where
  alpha : ℚ
  beta : ℚ
  expected : ℚ
  sampleSize : ℕ
  deriving DecidableEq, Repr

/-- A row of `probability_models`. -/
structure CalibratedModelRecord where
  reasonCode : String
  pNaturalMean : ℚ
  pIntervMean : ℚ
  sampleSize : ℕ
  modelType : ProbabilitySource
  status : ModelStatus
  liftVsBaseline : ℚ
  pValue : ℚ
  updatedAt : Timestamp
  deriving DecidableEq, Repr

/-- A model of at least a hundred observations. -/
def CalibratedModelRecord.isCalibrated (record : CalibratedModelRecord) : Bool :=
  100 ≤ record.sampleSize && record.modelType == .calibrated

/-- A row of `bayesian_priors`. -/
structure BayesianPriorRecord where
  id : String
  tenantId : String
  reasonCode : String
  alphaNatural : ℚ
  betaNatural : ℚ
  alphaInterv : ℚ
  betaInterv : ℚ
  sampleSize : ℕ
  updatedAt : Timestamp
  deriving DecidableEq, Repr

def BayesianPriorRecord.key (row : BayesianPriorRecord) : String × String :=
  (row.tenantId, row.reasonCode)

/-- The counts of an entry of `observationsCache`. -/
structure Observations where
  natSucc : ℕ
  natTot : ℕ
  intSucc : ℕ
  intTot : ℕ
  deriving DecidableEq, Repr

def Observations.total (obs : Observations) : ℕ := obs.natTot + obs.intTot

/-- A probability is missing where the table gives something else than an entry. -/
structure EffectiveProbabilities where
  pNatural : Option ℚ
  pIntervention : Option ℚ
  source : ProbabilitySource
  deriving DecidableEq, Repr

namespace BayesianProbabilityCalibrator

/-! ### The static table -/

def defaultProbability : StaticProbability := ⟨15 / 100, 35 / 100⟩

/-- `STATIC_PROBABILITY_TABLE[reasonCode]`: an entry, or what a plain object inherits under the name.
-/
def STATIC_PROBABILITY_TABLE (reasonCode : String) : Option (Option StaticProbability) :=
  match reasonCode with
  | "insufficient_funds"   => some (some ⟨35 / 100, 55 / 100⟩)
  | "expired_card"         => some (some ⟨5 / 100, 60 / 100⟩)
  | "generic_decline"      => some (some ⟨25 / 100, 45 / 100⟩)
  | "network_error"        => some (some ⟨45 / 100, 75 / 100⟩)
  | "bank_gateway_timeout" => some (some ⟨60 / 100, 70 / 100⟩)
  | "hard_decline"         => some (some ⟨2 / 100, 2 / 100⟩)
  | "default"              => some (some defaultProbability)
  | "constructor" | "__proto__" | "__defineGetter__" | "__defineSetter__" | "hasOwnProperty"
  | "__lookupGetter__" | "__lookupSetter__" | "isPrototypeOf" | "propertyIsEnumerable"
  | "toString" | "valueOf" | "toLocaleString" => some none
  | _                      => none

def directBase (reasonCode : String) : Option StaticProbability :=
  (STATIC_PROBABILITY_TABLE reasonCode).getD (some defaultProbability)

/-- The listed reason that an unlisted one contains a fragment of. -/
def fragmentReason (reasonCode : String) : String :=
  if Js.includes reasonCode "insufficient_funds" then "insufficient_funds"
  else if Js.includes reasonCode "expired_card" || Js.includes reasonCode "card_expired" then
    "expired_card"
  else if Js.includes reasonCode "bank_gateway_timeout" ||
      Js.includes reasonCode "gateway_timeout" then
    "bank_gateway_timeout"
  else if Js.includes reasonCode "timeout" || Js.includes reasonCode "network" then "network_error"
  else if Js.includes reasonCode "generic_decline" || Js.includes reasonCode "do_not_honor" then
    "generic_decline"
  else "default"

def fallbackBase (reasonCode : String) : Option StaticProbability :=
  match STATIC_PROBABILITY_TABLE reasonCode with
  | some base => base
  | none      => directBase (fragmentReason reasonCode)

def staticProbabilities (base : Option StaticProbability) : EffectiveProbabilities where
  pNatural := base.map (·.naturalRecoveryProb)
  pIntervention := base.map (·.interventionRecoveryProb)
  source := .static

/-! ### Posteriors -/

def computeBetaPosterior (priorAlpha priorBeta : ℚ) (successes total : ℕ) : BetaDistribution :=
  let postAlpha := priorAlpha + successes
  let postBeta := priorBeta + (total - successes : ℚ)
  { alpha := postAlpha
    beta := postBeta
    expected := Js.roundFixed (double.div postAlpha (double.add postAlpha postBeta)) 4
    sampleSize := total }

structure ModelPromotion where
  lift : ℚ
  pValue : ℚ
  shouldPromote : Bool
  deriving DecidableEq, Repr

def evaluateModelPromotion (math : JsMath) (staticProb calibratedProb : ℚ) (sampleSize : ℕ) :
    ModelPromotion :=
  if sampleSize < 100 then ⟨0, 1, false⟩
  else
    let lift := double.div (double.sub calibratedProb staticProb) staticProb
    let se := math.sqrt (double.div (double.mul staticProb (double.sub 1 staticProb)) sampleSize)
    let zScore := if se > 0 then double.div (double.sub calibratedProb staticProb) se else 0
    let tail := math.tanh (double.mul zScore (797884 / 1000000))
    let pValue :=
      if zScore > 0 then
        max (double.round (1 / 1000)) (double.sub 1 (double.mul (1 / 2) (double.add 1 tail)))
      else 1
    { lift := Js.roundFixed lift 4
      pValue := Js.roundFixed pValue 4
      shouldPromote :=
        decide (lift > double.round (5 / 100)) && decide (pValue < double.round (5 / 100)) }

/-- The posterior of the outcomes without an intervention, and of those with one. -/
def posteriors (base : StaticProbability) (obs : Observations) : BetaDistribution × BetaDistribution :=
  (computeBetaPosterior (base.naturalRecoveryProb * 10) (10 - base.naturalRecoveryProb * 10)
      obs.natSucc obs.natTot,
    computeBetaPosterior (base.interventionRecoveryProb * 10)
      (10 - base.interventionRecoveryProb * 10) obs.intSucc obs.intTot)

/-- The model that `updateCalibratedDistributions` writes and returns. -/
def modelRecord (math : JsMath) (reasonCode : String) (base : StaticProbability)
    (obs : Observations) (now : Timestamp) : CalibratedModelRecord :=
  let postNat := (posteriors base obs).1
  let postInt := (posteriors base obs).2
  let promotion :=
    evaluateModelPromotion math base.interventionRecoveryProb postInt.expected obs.intTot
  { reasonCode := reasonCode
    pNaturalMean := postNat.expected
    pIntervMean := postInt.expected
    sampleSize := obs.total
    modelType := if 100 ≤ obs.total then .calibrated else .static
    status := if promotion.shouldPromote ∨ obs.total < 100 then .active else .candidate
    liftVsBaseline := promotion.lift
    pValue := promotion.pValue
    updatedAt := now }

/-- The prior that `persistPrior` writes. -/
def priorRecord (tenantId reasonCode : String) (base : StaticProbability) (obs : Observations)
    (now : Timestamp) : BayesianPriorRecord :=
  let postNat := (posteriors base obs).1
  let postInt := (posteriors base obs).2
  { id := "prior_" ++ tenantId ++ "_" ++ reasonCode
    tenantId := tenantId
    reasonCode := reasonCode
    alphaNatural := postNat.alpha
    betaNatural := postNat.beta
    alphaInterv := postInt.alpha
    betaInterv := postInt.beta
    sampleSize := obs.total
    updatedAt := now }

/-! ### The state -/

/-- An observation whose counts are on their way to the tables and the cache. -/
structure Update where
  tenantId : String
  reasonCode : String
  observations : Observations
  deriving DecidableEq, Repr

/-- Where an update is: before the write of the model, before that of the prior, before the cache. -/
inductive UpdatePhase
  | writingModel
  | writingPrior (updated : CalibratedModelRecord)
  | caching (updated : CalibratedModelRecord)
  deriving DecidableEq, Repr

/-- The caches of the process and its suspended calls, and the two tables. A call is identified by its
tenant and a number. -/
structure State where
  observationsCache : String → Option Observations
  cache : String → Option CalibratedModelRecord
  calls : String × ℕ → Option (Update × UpdatePhase)
  models : String → Option CalibratedModelRecord
  priors : Table BayesianPriorRecord.key

def State.initial : State := ⟨fun _ => none, fun _ => none, fun _ => none, fun _ => none, .empty⟩

/-! ### Lookups -/

def calibratedProbabilities (record : CalibratedModelRecord) : EffectiveProbabilities :=
  ⟨some record.pNaturalMean, some record.pIntervMean, .calibrated⟩

/-- The credible interval around a calibrated probability. -/
def calibratedInterval (math : JsMath) (record : CalibratedModelRecord) : ℚ × ℚ :=
  let p := record.pIntervMean
  let se := math.sqrt (double.div (double.mul p (double.sub 1 p)) record.sampleSize)
  (max (1 / 1000) (Js.roundFixed (double.sub p (double.mul (196 / 100) se)) 4),
    min (999 / 1000) (Js.roundFixed (double.add p (double.mul (196 / 100) se)) 4))

def staticInterval (base : StaticProbability) : ℚ × ℚ :=
  (max (1 / 100) (Js.roundFixed (double.sub base.interventionRecoveryProb (10 / 100)) 2),
    min (99 / 100) (Js.roundFixed (double.add base.interventionRecoveryProb (10 / 100)) 2))

/-- The probabilities that a score is computed with, and their credible interval. -/
def getEffectiveProbabilitiesSync (math : JsMath) (s : State) (reasonCode : String)
    (declineType : DeclineType) : EffectiveProbabilities × Option (ℚ × ℚ) :=
  let normReason := Js.toLowerCase reasonCode
  if declineType = .hard then
    (⟨some (2 / 100), some (2 / 100), .static⟩, some (1 / 100, 3 / 100))
  else
    match (s.cache normReason).filter CalibratedModelRecord.isCalibrated with
    | some cached => (calibratedProbabilities cached, some (calibratedInterval math cached))
    | none        =>
      let base := fallbackBase normReason
      (staticProbabilities base, base.map staticInterval)

def activeModel (s : State) (reasonCode : String) : Option CalibratedModelRecord :=
  (s.models reasonCode).filter (·.status == .active)

/-- The probabilities from the table; the model that they come from is cached. -/
def getEffectiveProbabilities (s : State) (reasonCode : String) : EffectiveProbabilities × State :=
  match (activeModel s reasonCode).filter CalibratedModelRecord.isCalibrated with
  | some firstRecord =>
    (calibratedProbabilities firstRecord,
      { s with cache := Function.update s.cache reasonCode (some firstRecord) })
  | none             => (staticProbabilities (directBase reasonCode), s)

/-! ### Observations -/

/-- What `recordRealtimeObservation` is passed. -/
structure Observation where
  tenantId : String
  reasonCode : String
  isRecovered : Bool
  wasIntervention : Bool
  deriving DecidableEq, Repr

namespace Observation

variable (o : Observation)

def normReason : String :=
  Js.toLowerCase (if o.reasonCode = "" then "generic_decline" else o.reasonCode)

def cacheKey : String := o.tenantId ++ ":" ++ o.normReason

/-- The counts after an observation. -/
def count (obs : Observations) : Observations :=
  if o.wasIntervention then
    { obs with
      intTot := obs.intTot + 1
      intSucc := if o.isRecovered then obs.intSucc + 1 else obs.intSucc }
  else
    { obs with
      natTot := obs.natTot + 1
      natSucc := if o.isRecovered then obs.natSucc + 1 else obs.natSucc }

/-- The counts that an observation leaves under its key. -/
def counted (s : State) : Observations :=
  o.count ((s.observationsCache o.cacheKey).getD ⟨0, 0, 0, 0⟩)

end Observation

/-- `recordRealtimeObservation`, up to its first suspension. -/
def observe (s : State) (call : ℕ) (o : Observation) : State :=
  let obs := o.counted s
  let s := { s with observationsCache := Function.update s.observationsCache o.cacheKey (some obs) }
  if 5 ≤ obs.total then
    { s with
      calls := Function.update s.calls (o.tenantId, call)
        (some (⟨o.tenantId, o.normReason, obs⟩, .writingModel)) }
  else s

def State.finish (s : State) (id : String × ℕ) : State :=
  { s with calls := Function.update s.calls id none }

def State.suspend (s : State) (id : String × ℕ) (u : Update) (phase : UpdatePhase) : State :=
  { s with calls := Function.update s.calls id (some (u, phase)) }

/-- `INSERT INTO bayesian_priors … ON CONFLICT(tenant_id, reason_code) DO UPDATE`; `none` when the id
of the row is that of another tenant and reason. -/
def persistPrior (priors : Table BayesianPriorRecord.key) (row : BayesianPriorRecord) :
    Option (Table BayesianPriorRecord.key) :=
  if (priors.find? row.key).isNone ∧ (priors.rows.any fun other => other.id = row.id) then none
  else some (priors.put row)

/-- An update goes on, with whether the database takes its write. Without numbers in its table entry it
writes `NaN`, which the tables refuse. -/
def resume (math : JsMath) (s : State) (id : String × ℕ) (succeeds : Bool) (now : Timestamp)
    (u : Update) : UpdatePhase → State
  | .writingModel =>
    match (directBase u.reasonCode).filter fun _ => succeeds with
    | some base =>
      let updated := modelRecord math u.reasonCode base u.observations now
      { s with models := Function.update s.models u.reasonCode (some updated) }.suspend id u
        (.writingPrior updated)
    | none      => s.finish id
  | .writingPrior updated =>
    match (directBase u.reasonCode).filter fun _ => succeeds with
    | some base =>
      match persistPrior s.priors
        (priorRecord u.tenantId u.reasonCode base u.observations now) with
      | some priors => { s with priors }.suspend id u (.caching { updated with updatedAt := now })
      | none        => s.finish id
    | none      => s.finish id
  | .caching updated =>
    { s with cache := Function.update s.cache u.reasonCode (some updated) }.finish id

/-! ### Runs -/

inductive Action
  | observe (call : ℕ) (o : Observation)
  | resume (id : String × ℕ) (succeeds : Bool) (now : Timestamp)
  deriving DecidableEq, Repr

def step (math : JsMath) (s : State) : Action → Option State
  | .observe call o           =>
    if (s.calls (o.tenantId, call)).isNone then some (observe s call o) else none
  | .resume id succeeds now   =>
    (s.calls id).map fun (u, phase) => resume math s id succeeds now u phase

/-! ### Restarts -/

/-- What `loadPriorsFromDatabase` caches for a row. -/
def loadedRecord (row : BayesianPriorRecord) : CalibratedModelRecord where
  reasonCode := row.reasonCode
  pNaturalMean :=
    Js.roundFixed (double.div row.alphaNatural (double.add row.alphaNatural row.betaNatural)) 4
  pIntervMean :=
    Js.roundFixed (double.div row.alphaInterv (double.add row.alphaInterv row.betaInterv)) 4
  sampleSize := row.sampleSize
  modelType := if 100 ≤ row.sampleSize then .calibrated else .static
  status := .active
  liftVsBaseline := 0
  pValue := 5 / 100
  updatedAt := row.updatedAt

def loadPriorsFromDatabase (s : State) (tenantId : String) : State :=
  { s with
    cache := (s.priors.rows.filter fun row => row.tenantId = tenantId).foldl
      (fun cache row => Function.update cache row.reasonCode (some (loadedRecord row))) s.cache }

def restart (s : State) : State := { State.initial with models := s.models, priors := s.priors }

end BayesianProbabilityCalibrator

end CtrlRecovery
