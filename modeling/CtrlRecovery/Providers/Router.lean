import CtrlRecovery.Core.Table
import CtrlRecovery.Js
import CtrlRecovery.Types

/-!
# The provider router

`ProviderRouter` keeps the health of the registered providers and routes a request to one of them.
The preferred provider is taken unless it is down or its circuit is open, the first alternate only if
it is healthy, and where there is none the preferred one is taken after all. So a request is routed
to a usable provider exactly when the preferred one is usable or a usable alternate is healthy
(`routesWell_iff`).

Failures degrade a provider and then open its circuit. Successes half-open the circuit, and nothing
closes it again (`drivesCircuit_iff`).
-/

namespace CtrlRecovery

open Core

inductive PaymentProviderType | razorpay | cashfree | stripe
  deriving DecidableEq, Repr

def PaymentProviderType.text : PaymentProviderType → String
  | .razorpay => "razorpay"
  | .cashfree => "cashfree"
  | .stripe   => "stripe"

namespace ProviderRouter

inductive ProviderStatus | healthy | degraded | down
  deriving DecidableEq, Repr

def ProviderStatus.text : ProviderStatus → String
  | .healthy  => "HEALTHY"
  | .degraded => "DEGRADED"
  | .down     => "DOWN"

inductive Circuit | closed | halfOpen | opened
  deriving DecidableEq, Repr

structure ProviderHealth where
  provider : PaymentProviderType
  environment : Environment
  status : ProviderStatus
  avgLatencyMs : ℤ
  consecutiveFailures : ℕ
  circuitState : Circuit
  supportedCurrencies : List String
  deriving DecidableEq, Repr

abbrev Key : Type := PaymentProviderType × Environment

def ProviderHealth.key (health : ProviderHealth) : Key := (health.provider, health.environment)

/-- `healthRegistry`, in the order in which its keys were set. -/
abbrev Registry : Type := Table ProviderHealth.key

def initDefaultProviders : Registry where
  rows :=
    [⟨.razorpay, .test, .healthy, 120, 0, .closed, ["INR"]⟩,
      ⟨.cashfree, .test, .healthy, 140, 0, .closed, ["INR"]⟩,
      ⟨.stripe, .test, .healthy, 95, 0, .closed, ["USD", "EUR", "GBP", "INR"]⟩]
  nodup := by decide

/-! ### Routing -/

structure RouteOptions where
  currency : Option String
  preferredProvider : Option PaymentProviderType
  environment : Option Environment
  deriving DecidableEq, Repr

namespace RouteOptions

variable (options : RouteOptions)

/-- `(options.currency || 'INR').toUpperCase()`. -/
def currencyCode : String := Js.toUpperCase (Js.orElse options.currency "INR")

def env : Environment := options.environment.getD .test

def preferred : PaymentProviderType := options.preferredProvider.getD .razorpay

end RouteOptions

structure RouteResolution where
  selectedProvider : PaymentProviderType
  environment : Environment
  routingReason : String
  isFallback : Bool
  fallbackChain : List PaymentProviderType
  deriving DecidableEq, Repr

/-- Not down, and not behind an open circuit. -/
def ProviderHealth.isUsable (health : ProviderHealth) : Bool :=
  health.status ≠ .down && health.circuitState ≠ .opened

def ProviderHealth.supports (health : ProviderHealth) (currency : String) : Bool :=
  health.supportedCurrencies.contains currency

/-- The health of the preferred provider, if the request can be routed to it. -/
def primary? (registry : Registry) (options : RouteOptions) : Option ProviderHealth :=
  (registry.find? (options.preferred, options.env)).filter fun health =>
    health.isUsable && health.supports options.currencyCode

/-- The first healthy alternate. -/
def failover? (registry : Registry) (options : RouteOptions) : Option ProviderHealth :=
  registry.rows.find? fun health =>
    health.provider ≠ options.preferred && health.environment = options.env &&
      health.status = .healthy && health.supports options.currencyCode

def resolveProvider (registry : Registry) (options : RouteOptions) : RouteResolution :=
  match primary? registry options with
  | some preferredHealth =>
    { selectedProvider := options.preferred
      environment := options.env
      routingReason := "Primary provider " ++ options.preferred.text ++ " is healthy (latency: " ++
        toString preferredHealth.avgLatencyMs ++ "ms)"
      isFallback := false
      fallbackChain := [.cashfree, .stripe] }
  | none =>
    match failover? registry options with
    | some health =>
      let status :=
        (registry.find? (options.preferred, options.env)).elim "UNAVAILABLE" (·.status.text)
      { selectedProvider := health.provider
        environment := options.env
        routingReason := "Failover activated: " ++ options.preferred.text ++ " is " ++ status ++
          "; routing to " ++ health.provider.text
        isFallback := true
        fallbackChain := [options.preferred] }
    | none =>
      { selectedProvider := options.preferred
        environment := options.env
        routingReason := "Default fallback to " ++ options.preferred.text ++
          " (all alternates exhausted)"
        isFallback := false
        fallbackChain := [] }

/-! ### Telemetry -/

/-- What `updateProviderTelemetry` is passed. -/
structure Telemetry where
  provider : PaymentProviderType
  latencyMs : ℚ
  isSuccess : Bool
  environment : Environment
  deriving DecidableEq, Repr

def Telemetry.key (t : Telemetry) : Key := (t.provider, t.environment)

namespace ProviderHealth

def succeed (health : ProviderHealth) (latencyMs : ℚ) : ProviderHealth :=
  let health :=
    { health with
      consecutiveFailures := 0
      avgLatencyMs := Js.mathRound (health.avgLatencyMs * (8 / 10) + latencyMs * (2 / 10)) }
  if health.circuitState = .opened then { health with circuitState := .halfOpen }
  else { health with status := .healthy }

def fail (health : ProviderHealth) : ProviderHealth :=
  let consecutiveFailures := health.consecutiveFailures + 1
  let health := { health with consecutiveFailures }
  let health := if consecutiveFailures ≥ 3 then { health with status := .degraded } else health
  if consecutiveFailures ≥ 5 then { health with status := .down, circuitState := .opened }
  else health

def observe (t : Telemetry) (health : ProviderHealth) : ProviderHealth :=
  if t.isSuccess then health.succeed t.latencyMs else health.fail

@[simp] lemma key_succeed (health : ProviderHealth) (latencyMs : ℚ) :
    (health.succeed latencyMs).key = health.key := by
  rw [succeed]
  split_ifs <;> rfl

@[simp] lemma key_fail (health : ProviderHealth) : health.fail.key = health.key := by
  dsimp only [fail]
  split_ifs <;> rfl

lemma key_observe (t : Telemetry) (health : ProviderHealth) :
    (health.observe t).key = health.key := by
  rw [observe]
  split_ifs <;> simp

end ProviderHealth

def updateProviderTelemetry (registry : Registry) (t : Telemetry) : Registry :=
  registry.update t.key (ProviderHealth.observe t) (ProviderHealth.key_observe t)

def afterTelemetry (registry : Registry) (updates : List Telemetry) : Registry :=
  updates.foldl updateProviderTelemetry registry

section Telemetry

variable {registry : Registry} {updates : List Telemetry} {key : Key} {health : ProviderHealth}

lemma find?_afterTelemetry : (afterTelemetry registry updates).find? key =
    (registry.find? key).map fun health =>
      (updates.filter (·.key = key)).foldl (fun health t => health.observe t) health := by
  induction updates generalizing registry with
  | nil => simp [afterTelemetry]
  | cons t updates ih =>
    have hcons : afterTelemetry registry (t :: updates) =
        afterTelemetry (updateProviderTelemetry registry t) updates := rfl
    rw [hcons, ih, updateProviderTelemetry, Table.find?_update]
    by_cases hkey : key = t.key
    · rw [if_pos hkey, Option.map_map, List.filter_cons_of_pos (by simp [hkey])]
      rfl
    · rw [if_neg hkey, List.filter_cons_of_neg (by simpa using Ne.symm hkey)]

/-- What holds of every provider at first and is kept by every update holds in every state. -/
lemma forall_afterTelemetry {P : ProviderHealth → Prop} (h₀ : ∀ health ∈ registry.rows, P health)
    (keep : ∀ health t, P health → P (health.observe t)) :
    ∀ health ∈ (afterTelemetry registry updates).rows, P health := by
  intro health hhealth
  have hfind := Table.find?_key_of_mem hhealth
  rw [find?_afterTelemetry] at hfind
  obtain ⟨first, hfirst, hfold⟩ := Option.map_eq_some_iff.mp hfind
  have hkept : ∀ (updates : List Telemetry) (first : ProviderHealth), P first →
      P (updates.foldl (fun health t => health.observe t) first) := by
    intro updates
    induction updates with
    | nil => exact fun _ h => h
    | cons t updates ih => exact fun first h => ih _ (keep first t h)
  rw [← hfold]
  exact hkept _ _ (h₀ _ (Table.mem_of_find? hfirst))

end Telemetry

/-! ### The circuit of one provider -/

namespace ProviderHealth

variable {health : ProviderHealth} {t : Telemetry} {latencyMs : ℚ} {updates : List Telemetry}

/-- The provider behind an open circuit is down, after five failures or more. -/
def OpenIsDown (health : ProviderHealth) : Prop :=
  health.circuitState = .opened → health.status = .down ∧ 5 ≤ health.consecutiveFailures

instance (health : ProviderHealth) : Decidable health.OpenIsDown :=
  inferInstanceAs (Decidable (_ → _ ∧ _))

lemma circuitState_succeed : (health.succeed latencyMs).circuitState =
    if health.circuitState = .opened then .halfOpen else health.circuitState := by
  dsimp only [succeed]
  split_ifs with hopened <;> rfl

lemma circuitState_fail : health.fail.circuitState =
    if 5 ≤ health.consecutiveFailures + 1 then .opened else health.circuitState := by
  dsimp only [fail]
  split_ifs <;> rfl

@[simp] lemma consecutiveFailures_fail :
    health.fail.consecutiveFailures = health.consecutiveFailures + 1 := by
  dsimp only [fail]
  split_ifs <;> rfl

lemma status_succeed_of_closed (h : health.circuitState = .closed) :
    (health.succeed latencyMs).status = .healthy := by
  simp [succeed, h]

lemma status_fail_of_le (h : 5 ≤ health.consecutiveFailures + 1) : health.fail.status = .down := by
  dsimp only [fail]
  rw [if_pos h]

lemma openIsDown_observe (h : health.OpenIsDown) : (health.observe t).OpenIsDown := by
  rw [observe]
  split_ifs
  · intro hopened
    rw [circuitState_succeed] at hopened
    split_ifs at hopened with hold
    exact absurd hopened hold
  · intro hopened
    rw [circuitState_fail] at hopened
    have hfive : 5 ≤ health.consecutiveFailures + 1 := by
      split_ifs at hopened with hfive
      · exact hfive
      · exact Nat.le_succ_of_le (h hopened).2
    exact ⟨status_fail_of_le hfive, consecutiveFailures_fail ▸ hfive⟩

lemma circuitState_observe_ne_closed (h : health.circuitState ≠ .closed) :
    (health.observe t).circuitState ≠ .closed := by
  rw [observe]
  split_ifs
  · rw [circuitState_succeed]
    split_ifs
    · decide
    · exact h
  · rw [circuitState_fail]
    split_ifs
    · decide
    · exact h

lemma circuitState_foldl_ne_closed (h : health.circuitState ≠ .closed) :
    (updates.foldl (fun health t => health.observe t) health).circuitState ≠ .closed := by
  induction updates generalizing health with
  | nil => exact h
  | cons t updates ih => exact ih (circuitState_observe_ne_closed h)

/-- Failures are counted, and the fifth one opens the circuit. -/
lemma foldl_of_failures (hfail : ∀ t ∈ updates, t.isSuccess = false) (hne : updates ≠ []) :
    let health' := updates.foldl (fun health t => health.observe t) health
    health'.consecutiveFailures = health.consecutiveFailures + updates.length ∧
      (5 ≤ health'.consecutiveFailures →
        health'.circuitState = .opened ∧ health'.status = .down) := by
  induction updates generalizing health with
  | nil => exact absurd rfl hne
  | cons t updates ih =>
    rw [List.forall_mem_cons] at hfail
    have hobserve : health.observe t = health.fail := by simp [observe, hfail.1]
    rw [List.foldl_cons, hobserve]
    by_cases hlast : updates = []
    · subst hlast
      refine ⟨consecutiveFailures_fail, fun hfive => ?_⟩
      rw [List.foldl_nil, consecutiveFailures_fail] at hfive
      exact ⟨by rw [List.foldl_nil, circuitState_fail, if_pos hfive], status_fail_of_le hfive⟩
    · obtain ⟨hcount, hopen⟩ := @ih health.fail hfail.2 hlast
      refine ⟨?_, hopen⟩
      rw [hcount, consecutiveFailures_fail, List.length_cons]
      omega

/-- A closed circuit stays closed with successes, and the first one makes the provider healthy. -/
lemma foldl_of_successes (hsucceed : ∀ t ∈ updates, t.isSuccess = true) (hne : updates ≠ [])
    (h : health.circuitState = .closed) :
    let health' := updates.foldl (fun health t => health.observe t) health
    health'.circuitState = .closed ∧ health'.status = .healthy := by
  induction updates generalizing health with
  | nil => exact absurd rfl hne
  | cons t updates ih =>
    rw [List.forall_mem_cons] at hsucceed
    have hobserve : health.observe t = health.succeed t.latencyMs := by simp [observe, hsucceed.1]
    have hclosed : (health.succeed t.latencyMs).circuitState = .closed := by
      rw [circuitState_succeed, h, if_neg (by decide)]
    rw [List.foldl_cons, hobserve]
    by_cases hlast : updates = []
    · subst hlast
      exact ⟨hclosed, status_succeed_of_closed h⟩
    · exact ih hsucceed.2 hlast hclosed

end ProviderHealth

lemma openIsDown_afterTelemetry (updates : List Telemetry) :
    ∀ health ∈ (afterTelemetry initDefaultProviders updates).rows, health.OpenIsDown :=
  forall_afterTelemetry (by decide) fun _ _ => ProviderHealth.openIsDown_observe

/-! ### What routing promises -/

variable {registry : Registry} {options : RouteOptions} {key : Key}

/-- A provider of the requested environment that supports the currency and is usable. -/
def ProviderHealth.IsCandidate (options : RouteOptions) (health : ProviderHealth) : Prop :=
  health.environment = options.env ∧ health.isUsable ∧ health.supports options.currencyCode

instance (options : RouteOptions) (health : ProviderHealth) :
    Decidable (health.IsCandidate options) := inferInstanceAs (Decidable (_ ∧ _ ∧ _))

/-- If there is a usable provider, one is selected. -/
def RoutesWell (registry : Registry) (options : RouteOptions) : Prop :=
  (∃ health ∈ registry.rows, health.IsCandidate options) →
    ∃ health ∈ registry.rows, health.IsCandidate options ∧
      health.provider = (resolveProvider registry options).selectedProvider

/-- If there is a usable provider, the preferred one is, or a usable one is healthy. -/
def HasRoute (registry : Registry) (options : RouteOptions) : Prop :=
  (∃ health ∈ registry.rows, health.IsCandidate options) →
    ∃ health ∈ registry.rows, health.IsCandidate options ∧
      (health.provider = options.preferred ∨ health.status = .healthy)

instance (registry : Registry) (options : RouteOptions) : Decidable (RoutesWell registry options) :=
  inferInstanceAs (Decidable ((∃ health ∈ registry.rows, _) → ∃ health ∈ registry.rows, _))

lemma primary?_eq_some_iff {health : ProviderHealth} : primary? registry options = some health ↔
    health ∈ registry.rows ∧ health.provider = options.preferred ∧ health.IsCandidate options := by
  rw [primary?, Option.filter_eq_some_iff, Table.find?_eq_some_iff, ProviderHealth.key,
    Prod.mk.injEq, Bool.and_eq_true, ProviderHealth.IsCandidate]
  tauto

lemma primary?_eq_none_iff : primary? registry options = none ↔
    ∀ health ∈ registry.rows, health.IsCandidate options → health.provider ≠ options.preferred := by
  rw [Option.eq_none_iff_forall_ne_some]
  simp only [ne_eq, primary?_eq_some_iff]
  grind

/-- A healthy alternate is usable: its circuit is not open. -/
lemma isCandidate_of_failover? (hopen : ∀ health ∈ registry.rows, health.OpenIsDown)
    {health : ProviderHealth} (h : failover? registry options = some health) :
    health ∈ registry.rows ∧ health.IsCandidate options ∧ health.status = .healthy := by
  have hmem := List.mem_of_find?_eq_some h
  have hfound := List.find?_some h
  simp only [ne_eq, decide_not, Bool.and_eq_true, decide_eq_true_eq] at hfound
  obtain ⟨⟨⟨-, henv⟩, hstatus⟩, hsupports⟩ := hfound
  refine ⟨hmem, ⟨henv, ?_, hsupports⟩, hstatus⟩
  have hclosed : health.circuitState ≠ .opened := by
    intro hopened
    have hdown := (hopen health hmem hopened).1
    rw [hstatus] at hdown
    cases hdown
  simp [ProviderHealth.isUsable, hstatus, hclosed]

/-- A request is routed to a usable provider exactly when, if there is one, the preferred provider is
usable or a usable one is healthy. -/
lemma routesWell_iff_hasRoute (hopen : ∀ health ∈ registry.rows, health.OpenIsDown) :
    RoutesWell registry options ↔ HasRoute registry options := by
  refine imp_congr_right fun _ => ?_
  cases hprimary : primary? registry options with
  | some preferredHealth =>
    obtain ⟨hmem, hpreferred, hcandidate⟩ := primary?_eq_some_iff.mp hprimary
    have hselected : (resolveProvider registry options).selectedProvider = options.preferred := by
      rw [resolveProvider, hprimary]
    rw [hselected]
    exact iff_of_true ⟨_, hmem, hcandidate, hpreferred⟩ ⟨_, hmem, hcandidate, .inl hpreferred⟩
  | none =>
    have hunusable := primary?_eq_none_iff.mp hprimary
    cases hfailover : failover? registry options with
    | some health =>
      obtain ⟨hmem, hcandidate, hhealthy⟩ := isCandidate_of_failover? hopen hfailover
      have hselected : (resolveProvider registry options).selectedProvider = health.provider := by
        rw [resolveProvider, hprimary, hfailover]
      rw [hselected]
      exact iff_of_true ⟨_, hmem, hcandidate, rfl⟩ ⟨_, hmem, hcandidate, .inr hhealthy⟩
    | none =>
      have hselected : (resolveProvider registry options).selectedProvider = options.preferred := by
        rw [resolveProvider, hprimary, hfailover]
      rw [hselected]
      refine iff_of_false ?_ ?_
      · rintro ⟨health, hmem, hcandidate, hpreferred⟩
        exact hunusable health hmem hcandidate hpreferred
      · rintro ⟨health, hmem, hcandidate, hpreferred | hhealthy⟩
        · exact hunusable health hmem hcandidate hpreferred
        · have hnone := List.find?_eq_none.mp hfailover health hmem
          have hother := hunusable health hmem hcandidate
          simp [hother, hcandidate.1, hhealthy, hcandidate.2.2] at hnone

/-- After any telemetry, a request is routed to a usable provider, where there is one, exactly when
the preferred provider is usable or a usable one is healthy. -/
theorem routesWell_iff (updates : List Telemetry) (options : RouteOptions) :
    RoutesWell (afterTelemetry initDefaultProviders updates) options ↔
      HasRoute (afterTelemetry initDefaultProviders updates) options :=
  routesWell_iff_hasRoute (openIsDown_afterTelemetry updates)

def failures (n : ℕ) (provider : PaymentProviderType) : List Telemetry :=
  List.replicate n ⟨provider, 100, false, .test⟩

/-- Stripe is degraded and usable, but the request in dollars goes to a provider that does not support
them; and with a degraded alternate a request goes to a provider that is down. -/
theorem degraded_alternate_ignored :
    ¬ RoutesWell (afterTelemetry initDefaultProviders (failures 3 .stripe))
        ⟨some "USD", none, none⟩ ∧
      ¬ RoutesWell (afterTelemetry initDefaultProviders
          (failures 5 .razorpay ++ failures 3 .cashfree ++ failures 3 .stripe))
        ⟨none, none, none⟩ := by
  decide +kernel

/-! ### What telemetry promises -/

/-- An open circuit is that of a provider that is down, and five failures in a row open the circuit.
-/
def OpensCircuit (registry : Registry) (key : Key) : Prop :=
  (∀ health ∈ registry.find? key, health.circuitState = .opened → health.status = .down) ∧
    ∀ updates : List Telemetry, (∀ t ∈ updates, t.key = key → t.isSuccess = false) →
      5 ≤ updates.countP (·.key = key) →
        ∀ health ∈ (afterTelemetry registry updates).find? key, health.circuitState = .opened

/-- Finitely many successes in a row make the provider healthy and close its circuit. -/
def ReturnsToService (registry : Registry) (key : Key) : Prop :=
  ∃ n, ∀ updates : List Telemetry, (∀ t ∈ updates, t.key = key → t.isSuccess = true) →
    updates.countP (·.key = key) = n →
      ∀ health ∈ (afterTelemetry registry updates).find? key,
        health.status = .healthy ∧ health.circuitState = .closed

def DrivesCircuit (registry : Registry) (key : Key) : Prop :=
  OpensCircuit registry key ∧ ReturnsToService registry key

lemma opensCircuit (hopen : ∀ health ∈ registry.rows, health.OpenIsDown) :
    OpensCircuit registry key := by
  refine ⟨fun health hfind hopened => ?_, fun updates hfail hcount health hfind => ?_⟩
  · exact (hopen health (Table.mem_of_find? hfind) hopened).1
  · rw [find?_afterTelemetry] at hfind
    obtain ⟨first, -, rfl⟩ := Option.map_eq_some_iff.mp hfind
    rw [List.countP_eq_length_filter] at hcount
    have hfail' : ∀ t ∈ updates.filter (·.key = key), t.isSuccess = false := by
      intro t ht
      obtain ⟨hmem, hkey⟩ := List.mem_filter.mp ht
      exact hfail t hmem (of_decide_eq_true hkey)
    have hne : updates.filter (·.key = key) ≠ [] := by
      rw [← List.length_pos_iff]
      omega
    obtain ⟨hfailures, hopens⟩ := @ProviderHealth.foldl_of_failures first _ hfail' hne
    exact (hopens (by omega)).1

/-- A provider returns to service exactly when its circuit is closed. -/
lemma returnsToService_iff : ReturnsToService registry key ↔
    ∀ health ∈ registry.find? key, health.circuitState = .closed := by
  constructor
  · rintro ⟨n, hreturns⟩ health hfind
    by_contra hclosed
    let updates : List Telemetry := List.replicate n ⟨key.1, 100, true, key.2⟩
    have hkey : ∀ t ∈ updates, t.key = key := by
      intro t ht
      rw [List.eq_of_mem_replicate ht]
      rfl
    have hsuccess : ∀ t ∈ updates, t.isSuccess = true := by
      intro t ht
      rw [List.eq_of_mem_replicate ht]
    have hcount : updates.countP (·.key = key) = n := by
      rw [List.countP_eq_length.mpr fun t ht => decide_eq_true (hkey t ht), List.length_replicate]
    have hafter : (afterTelemetry registry updates).find? key = some
        ((updates.filter (·.key = key)).foldl (fun health t => health.observe t) health) := by
      rw [find?_afterTelemetry, hfind]
      rfl
    exact ProviderHealth.circuitState_foldl_ne_closed hclosed
      (hreturns updates (fun t ht _ => hsuccess t ht) hcount _ hafter).2
  · intro hclosed
    refine ⟨1, fun updates hsucceed hcount health hfind => ?_⟩
    rw [find?_afterTelemetry] at hfind
    obtain ⟨first, hfirst, rfl⟩ := Option.map_eq_some_iff.mp hfind
    rw [List.countP_eq_length_filter] at hcount
    have hsucceed' : ∀ t ∈ updates.filter (·.key = key), t.isSuccess = true := by
      intro t ht
      obtain ⟨hmem, hkey⟩ := List.mem_filter.mp ht
      exact hsucceed t hmem (of_decide_eq_true hkey)
    have hne : updates.filter (·.key = key) ≠ [] := by
      rw [← List.length_pos_iff]
      omega
    exact (ProviderHealth.foldl_of_successes hsucceed' hne (hclosed first hfirst)).symm

/-- After any telemetry, the circuit of a provider is opened as it should be; and it is driven in both
directions exactly when it is closed. -/
theorem drivesCircuit_iff (updates : List Telemetry) (key : Key) :
    let registry := afterTelemetry initDefaultProviders updates
    OpensCircuit registry key ∧
      (DrivesCircuit registry key ↔
        ∀ health ∈ registry.find? key, health.circuitState = .closed) := by
  have hopens : OpensCircuit (afterTelemetry initDefaultProviders updates) key :=
    opensCircuit (openIsDown_afterTelemetry updates)
  exact ⟨hopens, (and_iff_right hopens).trans returnsToService_iff⟩

/-- After five failures no number of successes closes the circuit. -/
theorem opened_circuit_stays :
    ¬ DrivesCircuit (afterTelemetry initDefaultProviders (failures 5 .razorpay))
      (.razorpay, .test) := by
  rintro ⟨-, hreturns⟩
  have hclosed := returnsToService_iff.mp hreturns
  revert hclosed
  decide +kernel

end ProviderRouter

end CtrlRecovery
