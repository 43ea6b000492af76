import CtrlRecovery.Db.StatusWrites
import CtrlRecovery.Reconciliation.AuthoritativeReconciler

/-!
# The polling path

The poller asks the provider about the stored links of the opportunities in flight, which it knows by
their status. What happens to the link of an opportunity in another status it never learns.
-/

namespace CtrlRecovery

open Core OpportunityStatus OpportunityRepository AuthoritativeReconciler

/-- The statuses that the poller takes for being in flight. -/
def isInFlight (status : OpportunityStatus) : Bool :=
  status == executing || status == authorized || status == allocated

/-- The stored payment link of an opportunity. -/
def Db.storedLink (db : Db) (id : String) : Option ExecutionRecord :=
  (db.getExecutionRecordByOpportunityId id).filter fun record => record.razorpayPaymentLinkId ≠ ""

/-- The opportunities that a run of `pollAndReconcile` reconciles, with their records. -/
def polled (db : Db) (tenantId : Option String) : List (RecoveryOpportunity × ExecutionRecord) :=
  let executingOpps := (db.getAllOpportunities tenantId none).filter fun opp => isInFlight opp.status
  executingOpps.filterMap fun opp => (db.storedLink opp.id).map fun record => (opp, record)

/-- A payment link is stored for the opportunity. -/
def Db.HasLink (db : Db) (id : String) : Prop := (db.storedLink id).isSome

instance (db : Db) (id : String) : Decidable (db.HasLink id) :=
  inferInstanceAs (Decidable (_ = true))

variable {db db' : Db} {id : String} {opp : RecoveryOpportunity} {record : ExecutionRecord}
  {tenantId : Option String}

lemma mem_polled :
    (opp, record) ∈ polled db tenantId ↔
      opp ∈ db.opportunities.rows ∧ Db.inScope tenantId none opp ∧ isInFlight opp.status ∧
        db.storedLink opp.id = some record := by
  simp only [polled, List.mem_filterMap, List.mem_filter, db.mem_getAllOpportunities,
    Option.map_eq_some_iff, Prod.mk.injEq]
  constructor
  · rintro ⟨_, ⟨⟨hrow, hscope⟩, hflight⟩, _, hlink, rfl, rfl⟩
    exact ⟨hrow, hscope, hflight, hlink⟩
  · rintro ⟨hrow, hscope, hflight, hlink⟩
    exact ⟨opp, ⟨⟨hrow, hscope⟩, hflight⟩, record, hlink, rfl, rfl⟩

lemma reconcileStart_of_mem_polled (h : (opp, record) ∈ polled db tenantId) (now : Timestamp) :
    reconcileStart db opp.id none now =
      .fetching { opp := opp, execRecord := some record, now := now } := by
  obtain ⟨hrow, -, -, hlink⟩ := mem_polled.mp h
  obtain ⟨hrecord, hne⟩ := Option.filter_eq_some_iff.mp hlink
  have hopp : db.getOpportunityById opp.id = some opp := Table.find?_key_of_mem hrow
  rw [reconcileStart, hopp]
  simpa [hrecord] using hne

lemma storedLink_congr (h : db'.executionRecords = db.executionRecords) (id : String) :
    db'.storedLink id = db.storedLink id := by
  rw [Db.storedLink, Db.storedLink, Db.getExecutionRecordByOpportunityId,
    Db.getExecutionRecordByOpportunityId, h]

/-! ### Statuses that are kept track of -/

/-- An opportunity of this status is in flight or settled. -/
def IsTracked (status : OpportunityStatus) : Prop :=
  isInFlight status ∨ status = recovered ∨ status = notRecovered

instance (status : OpportunityStatus) : Decidable (IsTracked status) :=
  inferInstanceAs (Decidable (_ ∨ _))

/-- The statuses that take a tracked opportunity out of flight. -/
def leavesFlight (status : OpportunityStatus) : Bool :=
  status == blocked || status == abstained || status == deferred

/-- The guard lets a tracked status be written over by these, unless it is `recovered`, and by no other
that is not tracked. -/
lemma isTracked_nextStatus_iff {s t : OpportunityStatus} (hs : IsTracked s) :
    IsTracked (nextStatus s t) ↔ s = recovered ∨ ¬ leavesFlight t := by
  revert hs
  cases s <;> cases t <;> decide

/-- The guard lets `executing` be written over tracked statuses only. -/
lemma isTracked_nextStatus_executing_iff {s : OpportunityStatus} :
    IsTracked (nextStatus s executing) ↔ IsTracked s := by
  cases s <;> decide

/-- Writes of which none takes the opportunity out of flight leave it tracked. -/
lemma isTracked_statusAfter {ws : List (String × OpportunityStatus)} {s : OpportunityStatus}
    (hws : ∀ w ∈ ws, w.1 = id → ¬ leavesFlight w.2) (hs : IsTracked s) :
    IsTracked (statusAfter ws id s) := by
  induction ws generalizing s with
  | nil => exact hs
  | cons w ws ih =>
    rw [statusAfter_cons]
    refine ih (fun v hv => hws v (List.mem_cons_of_mem _ hv)) ?_
    split_ifs with hid
    · exact (isTracked_nextStatus_iff hs).mpr (.inr (hws w List.mem_cons_self hid))
    · exact hs

/-- Writes that all take out of flight lose a tracked opportunity that one of them is about, unless it is
`recovered`. -/
lemma isTracked_statusAfter_iff_of_leaving {ws : List (String × OpportunityStatus)}
    {s : OpportunityStatus} (hws : ∀ w ∈ ws, leavesFlight w.2) (hs : IsTracked s) :
    IsTracked (statusAfter ws id s) ↔ s = recovered ∨ id ∉ ws.map Prod.fst := by
  have hlost : ∀ {s : OpportunityStatus} {t}, leavesFlight t → ¬ IsTracked s →
      ¬ IsTracked (nextStatus s t) := by
    intro s t
    cases s <;> cases t <;> decide
  have hkept : ∀ {t}, nextStatus recovered t = recovered := by
    intro t
    cases t <;> rfl
  have hout : ∀ {ws : List (String × OpportunityStatus)} {s : OpportunityStatus},
      (∀ w ∈ ws, leavesFlight w.2) → ¬ IsTracked s → ¬ IsTracked (statusAfter ws id s) := by
    intro ws
    induction ws with
    | nil => exact fun _ hs => hs
    | cons w ws ih =>
      intro s hws hs
      rw [statusAfter_cons]
      refine ih (fun v hv => hws v (List.mem_cons_of_mem _ hv)) ?_
      split_ifs
      · exact hlost (hws w List.mem_cons_self) hs
      · exact hs
  induction ws with
  | nil => simpa using hs
  | cons w ws ih =>
    obtain ⟨hw, hws⟩ := List.forall_mem_cons.mp hws
    rw [statusAfter_cons, List.map_cons, List.mem_cons, not_or]
    by_cases hid : w.1 = id
    · rw [if_pos hid]
      by_cases hrec : s = recovered
      · subst hrec
        rw [hkept]
        exact iff_of_true ((ih hws).mpr (.inl rfl)) (.inl rfl)
      · refine iff_of_false (hout hws ?_) ?_
        · rw [isTracked_nextStatus_iff hs]
          simp [hrec, hw]
        · simp [hrec, hid]
    · rw [if_neg hid]
      exact (ih hws).trans (by simp [Ne.symm hid])

/-- Every opportunity with a payment link is tracked. -/
def LinksTracked (db : Db) : Prop :=
  ∀ id, db.HasLink id → ∃ status ∈ db.statusOf id, IsTracked status

/-- Every opportunity with a payment link that is not settled is polled by the next run for its tenant.
-/
def LinksPolled (db : Db) : Prop :=
  ∀ opp ∈ db.opportunities.rows, db.HasLink opp.id →
    opp.status ≠ recovered → opp.status ≠ notRecovered →
      ∃ record, (opp, record) ∈ polled db (some opp.tenantId)

lemma LinksTracked.polled (h : LinksTracked db) : LinksPolled db := by
  intro opp hopp hlink hrec hnot
  obtain ⟨record, hrecord⟩ := Option.isSome_iff_exists.mp hlink
  obtain ⟨status, hstatus, htracked⟩ := h opp.id hlink
  have hrow : db.getOpportunityById opp.id = some opp := Table.find?_key_of_mem hopp
  rw [Db.statusOf, hrow, Option.map_some, Option.mem_some_iff] at hstatus
  subst hstatus
  refine ⟨record, mem_polled.mpr ⟨hopp, ?_, ?_, hrecord⟩⟩
  · simp [Db.inScope]
  · exact htracked.resolve_right fun hsettled => hsettled.elim hrec hnot

/-- Where every link is one of a stored row, polling all of them is tracking all of them. -/
lemma linksTracked_iff :
    LinksTracked db ↔ LinksPolled db ∧ ∀ id, db.HasLink id → (db.getOpportunityById id).isSome := by
  constructor
  · intro h
    refine ⟨h.polled, fun id hlink => ?_⟩
    obtain ⟨status, hstatus, -⟩ := h id hlink
    obtain ⟨opp, hopp, -⟩ := Option.map_eq_some_iff.mp hstatus
    rw [hopp, Option.isSome_some]
  · rintro ⟨hpolled, hrows⟩ id hlink
    obtain ⟨opp, hopp⟩ := Option.isSome_iff_exists.mp (hrows id hlink)
    obtain rfl : opp.id = id := Db.id_of_getOpportunityById hopp
    refine ⟨opp.status, by simp [Db.statusOf, hopp], ?_⟩
    by_cases hrec : opp.status = recovered
    · exact .inr (.inl hrec)
    · by_cases hnot : opp.status = notRecovered
      · exact .inr (.inr hnot)
      · obtain ⟨record, hmem⟩ := hpolled opp (Table.mem_of_find? hopp) hlink hrec hnot
        exact .inl (mem_polled.mp hmem).2.2.1

end CtrlRecovery
