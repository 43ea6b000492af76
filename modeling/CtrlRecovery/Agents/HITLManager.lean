import CtrlRecovery.Core.Ranking
import CtrlRecovery.Core.Run
import CtrlRecovery.Core.Table
import CtrlRecovery.Db.Sample
import CtrlRecovery.Js

/-!
# Human review

`HITLManager` keeps review requests, which an operator decides and which time out. The queries apply
the timeouts before they answer. `resolveRequest` does not: it decides any request that is still
pending, also one whose time is over. A run keeps the deadlines, and leaves alone the requests that
have been decided, exactly when each operator's decision comes before the deadline of the request
and no new request takes the id of a decided one (`decidesInTime_iff`).
-/

namespace CtrlRecovery

open Core

inductive HITLDecision | approve | reject | override | timeout
  deriving DecidableEq, Repr

inductive HITLTriggerReason
  | highTicketValue
  | lowConfidence
  | outreachReview
  | hardDeclineReview
  | merchantPolicy
  | executionDlqExhausted
  deriving DecidableEq, Repr

inductive HITLRequestStatus | pending | approved | rejected | overridden | timedOut
  deriving DecidableEq, Repr

def HITLRequestStatus.text : HITLRequestStatus → String
  | .pending    => "PENDING"
  | .approved   => "APPROVED"
  | .rejected   => "REJECTED"
  | .overridden => "OVERRIDDEN"
  | .timedOut   => "TIMED_OUT"

/-- An operator has decided: approved, rejected or overridden the request. -/
def HITLRequestStatus.isOperators : HITLRequestStatus → Bool
  | .approved | .rejected | .overridden => true
  | .pending | .timedOut                => false

/-- A review request; its times are in milliseconds. -/
structure HITLRequest where
  id : String
  opportunityId : String
  runId : Option String
  proposedAction : DecisionType
  amountPaise : ℚ
  reason : HITLTriggerReason
  explanation : String
  status : HITLRequestStatus
  operatorId : Option String
  operatorFeedback : Option String
  overriddenAction : Option DecisionType
  timeoutAt : ℤ
  createdAt : ℕ
  resolvedAt : Option ℕ
  deriving DecidableEq

/-- The requests, in the order of their creation. -/
abbrev HITLManager := Table HITLRequest.id

namespace HITLManager

def DEFAULT_SLA_MINUTES : ℚ := 30

structure CreateParams where
  opportunity : RecoveryOpportunity
  runId : Option String
  proposedAction : DecisionType
  reason : HITLTriggerReason
  explanation : String
  slaMinutes : Option ℚ

structure ResolveParams where
  requestId : String
  decision : HITLDecision
  operatorId : String
  feedback : Option String
  overriddenAction : Option DecisionType

/-- `value || null` on texts. -/
def orNull (value : Option String) : Option String := value.filter (· ≠ "")

/-- The time value of `new Date(time)`: fractions of a millisecond are cut off. -/
def timeValue (time : ℚ) : ℤ := if 0 ≤ time then ⌊time⌋ else ⌈time⌉

/-- The times that `toISOString` accepts; it throws for others. -/
def isDate (time : ℚ) : Bool := -8640000000000000 ≤ time && time ≤ 8640000000000000

variable (manager : HITLManager) (now : ℕ)

def timeoutTime (slaMinutes : Option ℚ) : ℚ :=
  now + Js.orDefault (Js.orZero slaMinutes) DEFAULT_SLA_MINUTES * 60 * 1000

/-- The new request; `random` are the four random bytes of its id. -/
def newRequest (params : CreateParams) (random : String) : HITLRequest where
  id := "hitl_" ++ toString now ++ "_" ++ random
  opportunityId := params.opportunity.id
  runId := orNull params.runId
  proposedAction := params.proposedAction
  amountPaise := params.opportunity.amountPaise
  reason := params.reason
  explanation := params.explanation
  status := .pending
  operatorId := none
  operatorFeedback := none
  overriddenAction := none
  timeoutAt := timeValue (timeoutTime now params.slaMinutes)
  createdAt := now
  resolvedAt := none

/-- `none` where the call throws. -/
def createRequest (params : CreateParams) (random : String) : Option HITLManager :=
  if isDate (timeoutTime now params.slaMinutes) then
    some (manager.put (newRequest now params random))
  else none

/-! ### Timeouts -/

/-- A pending request whose time is over. -/
def isExpired (request : HITLRequest) : Bool :=
  request.status = .pending && request.timeoutAt ≤ now

def timeOut (request : HITLRequest) : HITLRequest :=
  { request with
    status := .timedOut
    operatorId := some "system_timeout_daemon"
    operatorFeedback := some
      "SLA expired without merchant response. Defaulting to safe ABSTAIN."
    resolvedAt := some now }

lemma id_timeOut (request : HITLRequest) : (timeOut now request).id = request.id := rfl

/-- The number of requests that have timed out, and the requests after that. -/
def checkTimeouts : ℕ × HITLManager :=
  (manager.rows.countP (isExpired now),
    manager.updateWhere (isExpired now) (timeOut now) (id_timeOut now))

def getPendingRequests : List HITLRequest × HITLManager :=
  let manager := (checkTimeouts manager now).2
  (manager.rows.filter fun request => request.status = .pending, manager)

/-- The newest request first. -/
def getAllRequests : List HITLRequest × HITLManager :=
  let manager := (checkTimeouts manager now).2
  (rank (fun request : HITLRequest => request.createdAt) manager.rows, manager)

def getRequestById (id : String) : Option HITLRequest × HITLManager :=
  let manager := (checkTimeouts manager now).2
  (manager.find? id, manager)

/-! ### Decisions -/

def nextStatus : HITLDecision → HITLRequestStatus
  | .approve  => .approved
  | .reject   => .rejected
  | .override => .overridden
  | .timeout  => .timedOut

def resolve (params : ResolveParams) (request : HITLRequest) : HITLRequest :=
  { request with
    status := nextStatus params.decision
    operatorId := some params.operatorId
    operatorFeedback := orNull params.feedback
    overriddenAction := params.overriddenAction
    resolvedAt := some now }

lemma id_resolve (params : ResolveParams) (request : HITLRequest) :
    (resolve now params request).id = request.id := rfl

/-- The decided request or an error, and the requests after that. -/
def resolveRequest (params : ResolveParams) : Except String HITLRequest × HITLManager :=
  match manager.find? params.requestId with
  | none         => (.error ("HITL Request '" ++ params.requestId ++ "' not found."), manager)
  | some request =>
    if request.status ≠ .pending then
      (.error ("HITL Request is already resolved with status '" ++ request.status.text ++ "'."),
        manager)
    else
      (.ok (resolve now params request),
        manager.update params.requestId (resolve now params) (id_resolve now params))

/-! ### Runs -/

structure State where
  now : ℕ
  manager : HITLManager

def State.initial (now : ℕ) : State := ⟨now, .empty⟩

inductive Action
  | tick (ms : ℕ)
  | createRequest (params : CreateParams) (random : String)
  | resolveRequest (params : ResolveParams)
  | checkTimeouts
  | getPendingRequests
  | getAllRequests
  | getRequestById (id : String)

def step (s : State) : Action → Option State
  | .tick ms                     => some { s with now := s.now + ms }
  | .createRequest params random =>
    some { s with manager := (createRequest s.manager s.now params random).getD s.manager }
  | .resolveRequest params => some { s with manager := (resolveRequest s.manager s.now params).2 }
  | .checkTimeouts         => some { s with manager := (checkTimeouts s.manager s.now).2 }
  | .getPendingRequests    => some { s with manager := (getPendingRequests s.manager s.now).2 }
  | .getAllRequests        => some { s with manager := (getAllRequests s.manager s.now).2 }
  | .getRequestById id     => some { s with manager := (getRequestById s.manager s.now id).2 }

/-- What operators have decided, they have decided before the deadline. -/
def InTime (s : State) : Prop :=
  ∀ request ∈ s.manager.rows, request.status.isOperators →
    ∃ resolvedAt, request.resolvedAt = some resolvedAt ∧ (resolvedAt : ℤ) < request.timeoutAt

/-- The request is there and has left `PENDING`. -/
def Decided (request : HITLRequest) (s : State) : Prop :=
  request ∈ s.manager.rows ∧ request.status ≠ .pending

/-- In every state of the run the deadlines are kept, and a request that has left `PENDING` is the
same in all later states. -/
structure DecidesInTime (start : ℕ) (actions : List Action) : Prop where
  in_time : ∀ pre rest s, actions = pre ++ rest → Run step (.initial start) pre s → InTime s
  final : ∀ pre mid rest s t, actions = pre ++ mid ++ rest → Run step (.initial start) pre s →
    Run step s mid t → ∀ request, Decided request s → Decided request t

/-- An operator's decision of a pending request comes before its deadline. -/
def ResolvesInTime (s : State) (action : Action) (_ : State) : Prop :=
  match action with
  | .resolveRequest params =>
    ∀ request ∈ s.manager.find? params.requestId, request.status = .pending →
      params.decision ≠ .timeout → (s.now : ℤ) < request.timeoutAt
  | _ => True

/-- A new request does not take the id of one that has left `PENDING`. -/
def CreatesAnew (s : State) (action : Action) (_ : State) : Prop :=
  match action with
  | .createRequest params random =>
    isDate (timeoutTime s.now params.slaMinutes) →
      ∀ request ∈ s.manager.rows, request.id = (newRequest s.now params random).id →
        request.status = .pending
  | _ => True

variable {manager : HITLManager} {now : ℕ} {s t : State} {action : Action} {request : HITLRequest}
  {createParams : CreateParams} {params : ResolveParams} {random : String}

/-! ### What a step does to a request -/

lemma mem_checkTimeouts : request ∈ (checkTimeouts manager now).2.rows ↔
    ∃ r ∈ manager.rows, (if isExpired now r then timeOut now r else r) = request := by
  rw [checkTimeouts, Table.mem_updateWhere]

lemma mem_checkTimeouts_of_decided (hmem : request ∈ manager.rows)
    (hdecided : request.status ≠ .pending) : request ∈ (checkTimeouts manager now).2.rows := by
  refine mem_checkTimeouts.mpr ⟨request, hmem, if_neg ?_⟩
  simp [isExpired, hdecided]

/-- A request after a decision is the decided one, or was there before. -/
lemma mem_resolveRequest {r : HITLRequest} (hr : manager.find? params.requestId = some r)
    (hpending : r.status = .pending) :
    request ∈ (resolveRequest manager now params).2.rows ↔
      request = resolve now params r ∨ request ∈ manager.rows ∧ request.id ≠ params.requestId := by
  have hid : r.id = params.requestId := Table.key_of_find? hr
  have hupdate : (resolveRequest manager now params).2 =
      manager.update params.requestId (resolve now params) (id_resolve now params) := by
    simp [resolveRequest, hr, hpending]
  rw [hupdate, Table.rows_update, List.mem_map]
  constructor
  · rintro ⟨x, hx, rfl⟩
    split_ifs with hkey
    · left
      rw [manager.eq_of_key_eq hx (Table.mem_of_find? hr) (hkey.trans hid.symm)]
    · exact .inr ⟨hx, hkey⟩
  · rintro (rfl | ⟨hmem, hne⟩)
    · exact ⟨r, Table.mem_of_find? hr, if_pos hid⟩
    · exact ⟨request, hmem, if_neg hne⟩

lemma resolveRequest_eq_self
    (h : ∀ r ∈ manager.find? params.requestId, r.status ≠ .pending) :
    (resolveRequest manager now params).2 = manager := by
  cases hr : manager.find? params.requestId with
  | none => simp [resolveRequest, hr]
  | some r => simp [resolveRequest, hr, h r hr]

lemma createRequest_eq :
    (createRequest manager now createParams random).getD manager =
      if isDate (timeoutTime now createParams.slaMinutes) then
        manager.put (newRequest now createParams random)
      else manager := by
  rw [createRequest]
  split_ifs <;> rfl

/-! ### Deadlines -/

lemma InTime.checkTimeouts (h : InTime s) :
    InTime { s with manager := (checkTimeouts s.manager s.now).2 } := by
  intro request hrequest hoperators
  obtain ⟨r, hr, rfl⟩ := mem_checkTimeouts.mp hrequest
  split_ifs at hoperators ⊢
  · cases hoperators
  · exact h r hr hoperators

lemma inTime_resolveRequest (h : InTime s) :
    InTime { s with manager := (resolveRequest s.manager s.now params).2 } ↔
      ResolvesInTime s (.resolveRequest params) t := by
  by_cases hpending : ∃ r ∈ s.manager.find? params.requestId, r.status = .pending
  · obtain ⟨r, hr, hpending⟩ := hpending
    have hresolve : (resolve s.now params r).status.isOperators ↔ params.decision ≠ .timeout := by
      cases hdecision : params.decision <;>
        simp [resolve, nextStatus, hdecision, HITLRequestStatus.isOperators]
    have hguard : ResolvesInTime s (.resolveRequest params) t ↔
        (params.decision ≠ .timeout → (s.now : ℤ) < r.timeoutAt) := by
      simp only [ResolvesInTime, Option.mem_def.mp hr, Option.mem_some_iff, forall_eq']
      exact ⟨fun h => h hpending, fun h _ => h⟩
    rw [hguard]
    constructor
    · intro hintime hdecision
      obtain ⟨resolvedAt, hat, hlt⟩ := hintime (resolve s.now params r)
        ((mem_resolveRequest hr hpending).mpr (.inl rfl)) (hresolve.mpr hdecision)
      cases hat
      exact hlt
    · intro hguard request hrequest hoperators
      rcases (mem_resolveRequest hr hpending).mp hrequest with rfl | ⟨hmem, -⟩
      · exact ⟨s.now, rfl, hguard (hresolve.mp hoperators)⟩
      · exact h request hmem hoperators
  · push Not at hpending
    rw [resolveRequest_eq_self hpending]
    exact iff_of_true h fun r hr hr' => absurd hr' (hpending r hr)

lemma InTime.createRequest (h : InTime s) :
    InTime { s with
      manager := (createRequest s.manager s.now createParams random).getD s.manager } := by
  rw [createRequest_eq]
  split_ifs
  · intro request hrequest hoperators
    rcases Table.mem_put.mp hrequest with rfl | ⟨hmem, -⟩
    · cases hoperators
    · exact h request hmem hoperators
  · exact h

lemma inTime_step (hs : InTime s) (h : step s action = some t) :
    InTime t ↔ ResolvesInTime s action t := by
  cases action with
  | tick ms                     => cases h; exact iff_of_true hs trivial
  | createRequest params random => cases h; exact iff_of_true hs.createRequest trivial
  | resolveRequest params       => cases h; exact inTime_resolveRequest hs
  | checkTimeouts               => cases h; exact iff_of_true hs.checkTimeouts trivial
  | getPendingRequests          => cases h; exact iff_of_true hs.checkTimeouts trivial
  | getAllRequests              => cases h; exact iff_of_true hs.checkTimeouts trivial
  | getRequestById id           => cases h; exact iff_of_true hs.checkTimeouts trivial

/-! ### Decided requests -/

lemma Decided.checkTimeouts (h : Decided request s) :
    Decided request { s with manager := (checkTimeouts s.manager s.now).2 } :=
  ⟨mem_checkTimeouts_of_decided h.1 h.2, h.2⟩

lemma Decided.resolveRequest (h : Decided request s) :
    Decided request { s with manager := (resolveRequest s.manager s.now params).2 } := by
  by_cases hpending : ∃ r ∈ s.manager.find? params.requestId, r.status = .pending
  · obtain ⟨r, hr, hpending⟩ := hpending
    refine ⟨(mem_resolveRequest hr hpending).mpr (.inr ⟨h.1, fun hid => h.2 ?_⟩), h.2⟩
    rw [s.manager.eq_of_key_eq h.1 (Table.mem_of_find? hr) (hid.trans (Table.key_of_find? hr).symm)]
    exact hpending
  · push Not at hpending
    rw [resolveRequest_eq_self hpending]
    exact h

/-- A new request leaves the decided ones exactly when none of them has its id. -/
lemma decided_createRequest : (∀ request, Decided request s → Decided request
    { s with manager := (createRequest s.manager s.now createParams random).getD s.manager }) ↔
      CreatesAnew s (.createRequest createParams random) t := by
  rw [createRequest_eq, CreatesAnew]
  split_ifs with hdate
  · simp only [hdate, forall_const]
    constructor
    · intro hkeeps request hrequest hid
      by_contra hdecided
      rcases Table.mem_put.mp (hkeeps request ⟨hrequest, hdecided⟩).1 with heq | ⟨-, hne⟩
      · exact hdecided (heq ▸ rfl)
      · exact hne hid
    · rintro hnew request ⟨hrequest, hdecided⟩
      exact ⟨Table.mem_put.mpr (.inr ⟨hrequest, fun hid => hdecided (hnew request hrequest hid)⟩),
        hdecided⟩
  · simp [hdate]

lemma decided_step (h : step s action = some t) :
    (∀ request, Decided request s → Decided request t) ↔ CreatesAnew s action t := by
  cases action with
  | tick ms                     => cases h; exact iff_of_true (fun _ hs => hs) trivial
  | createRequest params random => cases h; exact decided_createRequest
  | resolveRequest params       => cases h; exact iff_of_true (fun _ hs => hs.resolveRequest) trivial
  | checkTimeouts               => cases h; exact iff_of_true (fun _ hs => hs.checkTimeouts) trivial
  | getPendingRequests          => cases h; exact iff_of_true (fun _ hs => hs.checkTimeouts) trivial
  | getAllRequests              => cases h; exact iff_of_true (fun _ hs => hs.checkTimeouts) trivial
  | getRequestById id           => cases h; exact iff_of_true (fun _ hs => hs.checkTimeouts) trivial

/-! ### Runs -/

/-- A run keeps the deadlines and the decided requests exactly when every operator's decision in it
comes before the deadline of its request and no new request takes the id of a decided one. -/
theorem decidesInTime_iff (start : ℕ) (actions : List Action) :
    DecidesInTime start actions ↔ AllSteps step
      (fun s action t => ResolvesInTime s action t ∧ CreatesAnew s action t)
      (.initial start) actions := by
  have hinitial : InTime (.initial start) := by simp [InTime, State.initial, Table.empty]
  have htime : (∀ pre rest t, actions = pre ++ rest → Run step (.initial start) pre t → InTime t) ↔
      InTime (.initial start) ∧ AllSteps step ResolvesInTime (.initial start) actions := by
    refine always_iff_allSteps ?_
    exact fun s action t hs hstep => inTime_step hs hstep
  have hkeeps : AllSteps step CreatesAnew (.initial start) actions ↔
      ∀ pre mid rest t u, actions = pre ++ mid ++ rest → Run step (.initial start) pre t →
        Run step t mid u → ∀ r, Decided r t → Decided r u := by
    rw [← allSteps_keeps_iff]
    refine (allSteps_congr ?_).symm
    exact fun s action t hstep => decided_step hstep
  constructor
  · intro h
    exact (htime.mp h.in_time).2.and (hkeeps.mpr h.final)
  · intro h
    exact ⟨htime.mpr ⟨hinitial, h.mono fun _ _ _ _ h => h.1⟩, hkeeps.mp (h.mono fun _ _ _ _ h => h.2)⟩

/-- A review is requested, half an hour goes by, and an operator approves. -/
def lateApproval : List Action :=
  [.createRequest
      { opportunity := sampleOpportunity "pay_1" .allocated
        runId := none
        proposedAction := .act
        reason := .executionDlqExhausted
        explanation := "Execution exhausted 5 retries. Final error: timeout"
        slaMinutes := none } "a1b2c3d4",
    .tick 1800000,
    .resolveRequest
      { requestId := "hitl_0_a1b2c3d4"
        decision := .approve
        operatorId := "merchant_admin"
        feedback := none
        overriddenAction := none }]

/-- The request is approved although its time is over. -/
theorem approved_at_deadline : ¬ DecidesInTime 0 lateApproval := by
  intro h
  obtain ⟨s, hrun, hs⟩ := exists_run_of_execute step (.initial 0) lateApproval
    (fun s => s.manager.rows.any fun r => r.status.isOperators ∧ r.resolvedAt = some 1800000 ∧
      r.timeoutAt = 1800000)
    (by decide +kernel)
  simp only [List.any_eq_true, decide_eq_true_eq] at hs
  obtain ⟨r, hr, hoperators, hresolved, htimeout⟩ := hs
  obtain ⟨resolvedAt, hat, hlt⟩ :=
    h.in_time lateApproval [] s (List.append_nil _).symm hrun r hr hoperators
  rw [hresolved, Option.some.injEq] at hat
  rw [← hat, htimeout] at hlt
  exact lt_irrefl _ hlt

end HITLManager

end CtrlRecovery
