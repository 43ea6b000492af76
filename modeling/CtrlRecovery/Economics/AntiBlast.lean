import CtrlRecovery.Core.Run
import CtrlRecovery.Db.Sample
import CtrlRecovery.Js
import Mathlib.Data.List.Nodup

/-!
# Prevented interventions

`recordPreventedIntervention` stores what was saved by not contacting a customer. Allocation runs start
it without waiting for it, so that any number of calls run at the same time, and each is suspended while
the database works. A call looks for a row of its opportunity and inserts one where there is none; the
look and the insert are two statements, and the table has no constraint on the opportunity. The
opportunities are recorded once in the runs in which no call looks while another call of the same
opportunity is between its look and its insert (`recorded_of_serial`), and twice in the others
(`two_le_recorded_of_overlap`).
-/

namespace CtrlRecovery

open Core

namespace AntiBlastEngine

/-! ### Savings -/

structure PreventedInterventionRecord where
  id : String
  opportunityId : String
  tenantId : String
  preventionReason : String
  messagingFeeSavedPaise : ℕ
  providerFeeSavedPaise : ℕ
  goodwillSavedPaise : ℕ
  totalCapitalSavedPaise : ℕ
  timestamp : Timestamp
  deriving DecidableEq, Repr

structure Savings where
  messagingSaved : ℕ
  providerSaved : ℕ
  goodwillSaved : ℕ
  totalSaved : ℕ
  deriving DecidableEq, Repr

def WHATSAPP_FEE_PAISE : ℕ := 85

def RAZORPAY_LINK_FEE_PAISE : ℕ := 400

def goodwillSaved (opp : RecoveryOpportunity) (reason : String) : ℕ :=
  if opp.declineType = .hard then 5000
  else if opp.attemptCount ≥ 3 then 1500
  else if Js.includes reason "timeout" || Js.includes reason "gateway" then 1000
  else 500

def calculateSavings (opp : RecoveryOpportunity) (reason : String) : Savings where
  messagingSaved := WHATSAPP_FEE_PAISE
  providerSaved := RAZORPAY_LINK_FEE_PAISE
  goodwillSaved := goodwillSaved opp reason
  totalSaved := WHATSAPP_FEE_PAISE + RAZORPAY_LINK_FEE_PAISE + goodwillSaved opp reason

/-- The record of a prevented intervention, under an id. -/
def recordOf (opp : RecoveryOpportunity) (reason id : String) (now : Timestamp) :
    PreventedInterventionRecord :=
  let savings := calculateSavings opp reason
  { id := id
    opportunityId := opp.id
    tenantId := Js.orElse (some opp.tenantId) "tenant_system_default"
    preventionReason := reason
    messagingFeeSavedPaise := savings.messagingSaved
    providerFeeSavedPaise := savings.providerSaved
    goodwillSavedPaise := savings.goodwillSaved
    totalCapitalSavedPaise := savings.totalSaved
    timestamp := now }

def PreventedInterventionRecord.Balanced (r : PreventedInterventionRecord) : Prop :=
  r.totalCapitalSavedPaise =
    r.messagingFeeSavedPaise + r.providerFeeSavedPaise + r.goodwillSavedPaise

structure AntiBlastSummary where
  totalPrevented : ℕ
  messagingSavedPaise : ℕ
  providerSavedPaise : ℕ
  goodwillSavedPaise : ℕ
  totalCapitalSavedPaise : ℕ
  totalCapitalSavedDisplay : String
  deriving DecidableEq, Repr

/-- The rows of a summary: of the live opportunities where the live environment is asked for, and of one
tenant when a tenant is given. -/
def summaryRows (rows : List PreventedInterventionRecord) (environmentOf : String → Option Environment)
    (tenantId : Option String) (environment : Option Environment) :
    List PreventedInterventionRecord :=
  rows.filter fun r =>
    (environment != some .live || environmentOf r.opportunityId == some .live) &&
      tenantId.all fun t => t == "" || r.tenantId == t

def summarize (rows : List PreventedInterventionRecord) : AntiBlastSummary where
  totalPrevented := rows.length
  messagingSavedPaise := (rows.map (·.messagingFeeSavedPaise)).sum
  providerSavedPaise := (rows.map (·.providerFeeSavedPaise)).sum
  goodwillSavedPaise := (rows.map (·.goodwillSavedPaise)).sum
  totalCapitalSavedPaise := (rows.map (·.totalCapitalSavedPaise)).sum
  totalCapitalSavedDisplay :=
    "₹" ++ Js.toLocaleFixed ((rows.map (·.totalCapitalSavedPaise)).sum / 100) 2

def getAntiBlastSummary (rows : List PreventedInterventionRecord)
    (environmentOf : String → Option Environment) (tenantId : Option String)
    (environment : Option Environment) : AntiBlastSummary :=
  summarize (summaryRows rows environmentOf tenantId environment)

/-- The total of a summary is the sum of its parts, if those of the rows are. -/
lemma total_summarize {rows : List PreventedInterventionRecord} (h : ∀ r ∈ rows, r.Balanced) :
    (summarize rows).totalCapitalSavedPaise = (summarize rows).messagingSavedPaise +
      (summarize rows).providerSavedPaise + (summarize rows).goodwillSavedPaise := by
  induction rows with
  | nil => rfl
  | cons r rows ih =>
    obtain ⟨hr, hrows⟩ := List.forall_mem_cons.mp h
    have hrest := ih hrows
    simp only [summarize, List.map_cons, List.sum_cons,
      PreventedInterventionRecord.Balanced] at hr hrest ⊢
    omega

lemma balanced_recordOf (opp : RecoveryOpportunity) (reason id : String) (now : Timestamp) :
    (recordOf opp reason id now).Balanced := rfl

/-! ### Calls -/

/-- Where a call is: creating the table, looking for a row, inserting one, or at its end. -/
inductive Phase
  | started
  | looking (id : String) (now : Timestamp)
  | inserting (id : String) (now : Timestamp)
  | returned (record : PreventedInterventionRecord)
  | failed
  deriving DecidableEq, Repr

structure Call where
  opp : RecoveryOpportunity
  reason : String
  phase : Phase
  deriving DecidableEq, Repr

/-- The table and the calls, in the order in which they were started. -/
structure State where
  rows : List PreventedInterventionRecord
  calls : List Call
  deriving DecidableEq, Repr

def State.empty : State := ⟨[], []⟩

/-- Start a call, or let the database answer to one: to its `CREATE TABLE`, its `SELECT` or its
`INSERT`. The id of a row is drawn after the first answer. -/
inductive Action
  | call (opp : RecoveryOpportunity) (reason : String)
  | initTable (i : ℕ) (id : String) (now : Timestamp)
  | query (i : ℕ)
  | insert (i : ℕ)

def State.setPhase (s : State) (i : ℕ) (c : Call) (phase : Phase) : State :=
  { s with calls := s.calls.set i { c with phase := phase } }

/-- `SELECT id FROM interventions_prevented WHERE opportunity_id = ? LIMIT 1`. -/
def State.existing (s : State) (opportunityId : String) : Option PreventedInterventionRecord :=
  s.rows.find? fun r => r.opportunityId = opportunityId

def lookedUp (s : State) (i : ℕ) (c : Call) (id : String) (now : Timestamp) : State :=
  match s.existing c.opp.id with
  | some row => s.setPhase i c (.returned (recordOf c.opp c.reason row.id now))
  | none     => s.setPhase i c (.inserting id now)

/-- The id is the primary key of the table. -/
def inserted (s : State) (i : ℕ) (c : Call) (id : String) (now : Timestamp) : State :=
  if id ∈ s.rows.map (·.id) then s.setPhase i c .failed
  else
    let record := recordOf c.opp c.reason id now
    { s.setPhase i c (.returned record) with rows := s.rows ++ [record] }

def step (s : State) : Action → Option State
  | .call opp reason => some { s with calls := s.calls ++ [⟨opp, reason, .started⟩] }
  | .initTable i id now =>
    (s.calls[i]?).bind fun c => match c.phase with
      | .started => some (s.setPhase i c (.looking id now))
      | _        => none
  | .query i =>
    (s.calls[i]?).bind fun c => match c.phase with
      | .looking id now => some (lookedUp s i c id now)
      | _               => none
  | .insert i =>
    (s.calls[i]?).bind fun c => match c.phase with
      | .inserting id now => some (inserted s i c id now)
      | _                 => none

/-- What a step does, and to which call. -/
inductive Stepped (s : State) : Action → State → Prop
  | call (opp : RecoveryOpportunity) (reason : String) :
    Stepped s (.call opp reason) { s with calls := s.calls ++ [⟨opp, reason, .started⟩] }
  | initTable {i : ℕ} {c : Call} {id : String} {now : Timestamp} (hc : s.calls[i]? = some c)
    (hphase : c.phase = .started) : Stepped s (.initTable i id now) (s.setPhase i c (.looking id now))
  | found {i : ℕ} {c : Call} {id : String} {now : Timestamp} {row : PreventedInterventionRecord}
    (hc : s.calls[i]? = some c) (hphase : c.phase = .looking id now)
    (hrow : s.existing c.opp.id = some row) :
    Stepped s (.query i) (s.setPhase i c (.returned (recordOf c.opp c.reason row.id now)))
  | missed {i : ℕ} {c : Call} {id : String} {now : Timestamp} (hc : s.calls[i]? = some c)
    (hphase : c.phase = .looking id now) (hrow : s.existing c.opp.id = none) :
    Stepped s (.query i) (s.setPhase i c (.inserting id now))
  | taken {i : ℕ} {c : Call} {id : String} {now : Timestamp} (hc : s.calls[i]? = some c)
    (hphase : c.phase = .inserting id now) (hid : id ∈ s.rows.map (·.id)) :
    Stepped s (.insert i) (s.setPhase i c .failed)
  | inserted {i : ℕ} {c : Call} {id : String} {now : Timestamp} (hc : s.calls[i]? = some c)
    (hphase : c.phase = .inserting id now) (hid : id ∉ s.rows.map (·.id)) :
    Stepped s (.insert i)
      { s.setPhase i c (.returned (recordOf c.opp c.reason id now)) with
        rows := s.rows ++ [recordOf c.opp c.reason id now] }

lemma stepped_of_step {s t : State} {a : Action} (h : step s a = some t) : Stepped s a t := by
  cases a with
  | call opp reason =>
    obtain rfl := Option.some_inj.mp h
    exact .call opp reason
  | initTable i id now =>
    obtain ⟨c, hc, hphase⟩ := Option.bind_eq_some_iff.mp h
    split at hphase
    next hstarted =>
      obtain rfl := Option.some_inj.mp hphase
      exact .initTable hc hstarted
    · cases hphase
  | query i =>
    obtain ⟨c, hc, hphase⟩ := Option.bind_eq_some_iff.mp h
    split at hphase
    next id now hlooking =>
      obtain rfl := Option.some_inj.mp hphase
      rw [lookedUp]
      split
      next row hrow => exact .found hc hlooking hrow
      next hrow => exact .missed hc hlooking hrow
    · cases hphase
  | insert i =>
    obtain ⟨c, hc, hphase⟩ := Option.bind_eq_some_iff.mp h
    split at hphase
    next id now hinserting =>
      obtain rfl := Option.some_inj.mp hphase
      rw [inserted]
      split_ifs with hid
      · exact .taken hc hinserting hid
      · exact .inserted hc hinserting hid
    · cases hphase

/-! ### Rows and calls on the way to one -/

def Phase.isInserting : Phase → Bool
  | .inserting .. => true
  | _             => false

/-- The id that a call is about to insert. -/
def Phase.insertingId : Phase → Option String
  | .inserting id _ => some id
  | _               => none

def Phase.isEnded : Phase → Bool
  | .returned _ => true
  | .failed     => true
  | _           => false

/-- The number of rows of an opportunity. -/
def recorded (s : State) (opportunityId : String) : ℕ :=
  (s.rows.map (·.opportunityId)).count opportunityId

/-- The number of calls of an opportunity that found no row and have not inserted one yet. -/
def pending (s : State) (opportunityId : String) : ℕ :=
  s.calls.countP fun c => c.phase.isInserting && decide (c.opp.id = opportunityId)

/-- No call of the opportunity of a look is between its own look and its insert. -/
def Serial (s : State) : Action → Prop
  | .query i => ∀ d ∈ s.calls[i]?, ∀ c ∈ s.calls, c.opp.id = d.opp.id → c.phase.isInserting = false
  | _        => True

/-- The id that was drawn for a row is not that of another one. -/
def FreshId (s : State) : Action → Prop
  | .insert i => ∀ c ∈ s.calls[i]?, ∀ r ∈ s.rows, c.phase.insertingId ≠ some r.id
  | _         => True

section Load

variable {s t : State} {a : Action} {i : ℕ} {c : Call}

/-- Rows and calls on the way to one. -/
def load (s : State) (opp : String) : ℕ := recorded s opp + pending s opp

lemma pending_setPhase (hc : s.calls[i]? = some c) (phase : Phase) (opp : String) :
    pending (s.setPhase i c phase) opp + (if c.phase.isInserting ∧ c.opp.id = opp then 1 else 0) =
      pending s opp + if phase.isInserting ∧ c.opp.id = opp then 1 else 0 := by
  obtain ⟨hi, rfl⟩ := List.getElem?_eq_some_iff.mp hc
  have hpos : s.calls[i].phase.isInserting ∧ s.calls[i].opp.id = opp → 0 < pending s opp := by
    rintro ⟨hinserting, hid⟩
    exact List.countP_pos_iff.mpr ⟨s.calls[i], List.getElem_mem hi, by simp [hinserting, hid]⟩
  rw [pending, State.setPhase, List.countP_set hi, ← pending]
  simp only [Bool.and_eq_true, decide_eq_true_eq]
  split_ifs with hc hphase hphase
  · have := hpos hc
    omega
  · have := hpos hc
    omega
  · omega
  · omega

lemma pending_pos (hc : c ∈ s.calls) (hphase : c.phase.isInserting) : 0 < pending s c.opp.id :=
  List.countP_pos_iff.mpr ⟨c, hc, by simp [hphase]⟩

lemma recorded_eq_zero_of_missed {opp : String} (h : s.existing opp = none) : recorded s opp = 0 := by
  rw [recorded, List.count_eq_zero]
  intro hmem
  obtain ⟨r, hr, hid⟩ := List.mem_map.mp hmem
  exact absurd hid (by simpa using List.find?_eq_none.mp h r hr)

lemma recorded_pos_of_found {opp : String} {row : PreventedInterventionRecord}
    (h : s.existing opp = some row) : 0 < recorded s opp := by
  rw [recorded, List.count_pos_iff]
  exact List.mem_map.mpr
    ⟨row, List.mem_of_find?_eq_some h, by simpa using List.find?_some h⟩

lemma load_setPhase (hc : s.calls[i]? = some c) (phase : Phase) (opp : String) :
    load (s.setPhase i c phase) opp + (if c.phase.isInserting ∧ c.opp.id = opp then 1 else 0) =
      load s opp + if phase.isInserting ∧ c.opp.id = opp then 1 else 0 := by
  have hpending := pending_setPhase hc phase opp
  have hrecorded : recorded (s.setPhase i c phase) opp = recorded s opp := rfl
  rw [load, hrecorded, load]
  omega

lemma load_append (record : PreventedInterventionRecord) (s : State) (opp : String) :
    load { s with rows := s.rows ++ [record] } opp =
      load s opp + if record.opportunityId = opp then 1 else 0 := by
  have hpending : pending { s with rows := s.rows ++ [record] } opp = pending s opp := rfl
  have hrecorded : recorded { s with rows := s.rows ++ [record] } opp =
      recorded s opp + if record.opportunityId = opp then 1 else 0 := by
    simp [recorded, List.count_singleton]
  rw [load, hpending, hrecorded, load]
  omega

/-- The load changes where a look finds no row, if an id that is inserted is new. -/
lemma load_step (h : Stepped s a t) (hfresh : FreshId s a) : (∀ opp, load t opp = load s opp) ∨
    ∃ i c, a = .query i ∧ s.calls[i]? = some c ∧ s.existing c.opp.id = none ∧
      ∀ opp, load t opp = load s opp + if c.opp.id = opp then 1 else 0 := by
  cases h with
  | call o reason =>
    left
    intro opp
    simp [load, recorded, pending, Phase.isInserting]
  | @initTable i c id now hc hphase =>
    left
    intro opp
    simpa [hphase, Phase.isInserting] using load_setPhase hc (.looking id now) opp
  | @found i c id now row hc hphase hrow =>
    left
    intro opp
    simpa [hphase, Phase.isInserting] using
      load_setPhase hc (.returned (recordOf c.opp c.reason row.id now)) opp
  | @missed i c id now hc hphase hrow =>
    right
    refine ⟨i, c, rfl, hc, hrow, fun opp => ?_⟩
    simpa [hphase, Phase.isInserting] using load_setPhase hc (.inserting id now) opp
  | @taken i c id now hc hphase hid =>
    obtain ⟨r, hr, hrid⟩ := List.mem_map.mp hid
    exact absurd (by rw [hphase, hrid]; rfl) (hfresh c hc r hr)
  | @inserted i c id now hc hphase hid =>
    left
    intro opp
    -- the call is no longer on the way to the row, and the row is there
    have hload := load_setPhase hc (.returned (recordOf c.opp c.reason id now)) opp
    have happend := load_append (recordOf c.opp c.reason id now)
      (s.setPhase i c (.returned (recordOf c.opp c.reason id now))) opp
    simp only [hphase, Phase.isInserting, true_and, Bool.false_eq_true, false_and, if_false,
      add_zero] at hload
    exact happend.trans hload

lemma load_le_step (h : Stepped s a t) (hfresh : FreshId s a) (opp : String) :
    load s opp ≤ load t opp := by
  rcases load_step h hfresh with hsame | ⟨i, c, -, -, -, hload⟩
  · exact (hsame opp).ge
  · rw [hload]
    exact Nat.le_add_right _ _

end Load

/-! ### Runs -/

/-- Every opportunity whose call has ended has exactly one row, the others have at most one, and the
total of a row is the sum of its parts. -/
structure RecordedOnce (s : State) : Prop where
  atMostOnce : (s.rows.map (·.opportunityId)).Nodup
  once : ∀ c ∈ s.calls, c.phase.isEnded → recorded s c.opp.id = 1
  balanced : ∀ r ∈ s.rows, r.Balanced

lemma RecordedOnce.summary {s : State} (h : RecordedOnce s)
    (environmentOf : String → Option Environment) (tenantId : Option String)
    (environment : Option Environment) :
    ((summaryRows s.rows environmentOf tenantId environment).map (·.opportunityId)).Nodup ∧
      let summary := getAntiBlastSummary s.rows environmentOf tenantId environment
      summary.totalCapitalSavedPaise =
        summary.messagingSavedPaise + summary.providerSavedPaise + summary.goodwillSavedPaise :=
  ⟨h.atMostOnce.sublist (List.filter_sublist.map _),
    total_summarize fun r hr => h.balanced r (List.mem_of_mem_filter hr)⟩

/-- What serial calls keep. -/
structure Invariant (s : State) : Prop where
  load_le : ∀ opp, load s opp ≤ 1
  ended : ∀ c ∈ s.calls, c.phase.isEnded → 0 < recorded s c.opp.id
  balanced : ∀ r ∈ s.rows, r.Balanced

lemma Invariant.recordedOnce {s : State} (h : Invariant s) : RecordedOnce s where
  atMostOnce := List.nodup_iff_count_le_one.mpr fun opp =>
    le_trans (Nat.le_add_right _ _) (h.load_le opp)
  once c hc hended := by
    have hload := h.load_le c.opp.id
    have hpos := h.ended c hc hended
    rw [load] at hload
    omega
  balanced := h.balanced

lemma invariant_empty : Invariant .empty := by
  constructor
  · intro opp
    exact Nat.zero_le 1
  · intro c hc
    cases hc
  · intro r hr
    cases hr

section Keep

variable {s t : State} {a : Action}

lemma load_le_of_serial (h : Stepped s a t) (hserial : Serial s a) (hfresh : FreshId s a)
    (hle : ∀ opp, load s opp ≤ 1) (opp : String) : load t opp ≤ 1 := by
  rcases load_step h hfresh with hsame | ⟨i, c, rfl, hc, hrow, hload⟩
  · exact (hsame opp).trans_le (hle opp)
  · rw [hload]
    split_ifs with hopp
    · -- nothing is stored for the opportunity, and nothing is on the way
      subst hopp
      have hpending : pending s c.opp.id = 0 := by
        refine List.countP_eq_zero.mpr fun d hd hboth => ?_
        simp only [Bool.and_eq_true, decide_eq_true_eq] at hboth
        exact absurd hboth.1 (by simp [hserial c hc d hd hboth.2])
      rw [load, recorded_eq_zero_of_missed hrow, hpending]
    · exact hle opp

lemma recorded_le_step (h : Stepped s a t) (opp : String) : recorded s opp ≤ recorded t opp := by
  cases h with
  | inserted hc hphase hid =>
    rw [recorded, recorded, List.map_append, List.count_append]
    exact Nat.le_add_right _ _
  | _ => exact le_rfl

lemma mem_calls_setPhase {i : ℕ} {c d : Call} {phase : Phase} (h : d ∈ (s.setPhase i c phase).calls) :
    d ∈ s.calls ∨ d = { c with phase := phase } :=
  List.mem_or_eq_of_mem_set h

/-- A call that has ended left a row, or found one. -/
lemma ended_step (h : Stepped s a t) (hfresh : FreshId s a)
    (hended : ∀ c ∈ s.calls, c.phase.isEnded → 0 < recorded s c.opp.id) :
    ∀ c ∈ t.calls, c.phase.isEnded → 0 < recorded t c.opp.id := by
  have hold : ∀ d ∈ s.calls, d.phase.isEnded → 0 < recorded t d.opp.id :=
    fun d hd hphase => (hended d hd hphase).trans_le (recorded_le_step h d.opp.id)
  intro d hd hphase
  cases h with
  | call o reason =>
    rcases List.mem_append.mp hd with hd | hd
    · exact hold d hd hphase
    · rw [List.mem_singleton.mp hd] at hphase
      cases hphase
  | initTable hc _ =>
    rcases mem_calls_setPhase hd with hd | rfl
    · exact hold d hd hphase
    · cases hphase
  | found hc _ hrow =>
    rcases mem_calls_setPhase hd with hd | rfl
    · exact hold d hd hphase
    · exact recorded_pos_of_found hrow
  | missed hc _ _ =>
    rcases mem_calls_setPhase hd with hd | rfl
    · exact hold d hd hphase
    · cases hphase
  | @taken i c id now hc hinserting hid =>
    obtain ⟨r, hr, hrid⟩ := List.mem_map.mp hid
    exact absurd (by rw [hinserting, hrid]; rfl) (hfresh c hc r hr)
  | inserted hc _ _ =>
    rcases mem_calls_setPhase hd with hd | rfl
    · exact hold d hd hphase
    · exact List.count_pos_iff.mpr (by simp [recordOf])

lemma balanced_step (h : Stepped s a t) (hbalanced : ∀ r ∈ s.rows, r.Balanced) :
    ∀ r ∈ t.rows, r.Balanced := by
  cases h with
  | inserted hc hphase hid =>
    intro r hr
    rcases List.mem_append.mp hr with hr | hr
    · exact hbalanced r hr
    · exact List.mem_singleton.mp hr ▸ balanced_recordOf _ _ _ _
  | _ => exact hbalanced

lemma Invariant.step (hI : Invariant s) (h : Stepped s a t) (hserial : Serial s a)
    (hfresh : FreshId s a) : Invariant t where
  load_le := load_le_of_serial h hserial hfresh hI.load_le
  ended := ended_step h hfresh hI.ended
  balanced := balanced_step h hI.balanced

end Keep

/-- In every run in which no call looks while another call of the same opportunity is between its look
and its insert, and in which the ids that are drawn are new, the opportunities are recorded once. -/
theorem recorded_of_serial {as : List Action} {t : State} (hrun : Run step .empty as t)
    (hall : AllSteps step (fun s a _ => Serial s a ∧ FreshId s a) .empty as) : RecordedOnce t := by
  refine Invariant.recordedOnce (hrun.invariant_of_allSteps (fun s a t hI hstep hP => ?_) hall
    invariant_empty)
  exact hI.step (stepped_of_step hstep) hP.1 hP.2

/-! ### Overlapping calls -/

section Overlap

variable {s t : State} {a : Action}

/-- A look behind another one adds to a load that is there already. -/
lemma two_le_load_of_overlap (h : Stepped s a t) (hfresh : FreshId s a) (hoverlap : ¬ Serial s a) :
    ∃ opp, 2 ≤ load t opp := by
  cases a with
  | query i =>
    simp only [Serial, not_forall] at hoverlap
    obtain ⟨d, hd, c, hc, hid, hphase⟩ := hoverlap
    have hpending := pending_pos hc (by simpa using hphase)
    refine ⟨d.opp.id, ?_⟩
    rw [hid] at hpending
    cases h with
    | @found _ e id now row he hlooking hrow =>
      obtain rfl := Option.some_inj.mp (he.symm.trans hd)
      have hload := load_le_step (.found he hlooking hrow) hfresh e.opp.id
      have hrecorded := recorded_pos_of_found hrow
      rw [load] at hload
      omega
    | @missed _ e id now he hlooking hrow =>
      obtain rfl := Option.some_inj.mp (he.symm.trans hd)
      have hload := load_setPhase he (.inserting id now) e.opp.id
      simp only [hlooking, Phase.isInserting, Bool.false_eq_true, false_and, if_false, true_and,
        if_true, add_zero] at hload
      rw [hload, load]
      omega
  | _ => exact absurd trivial hoverlap

lemma exists_two_le_load {as : List Action} (hrun : Run step s as t)
    (hfresh : AllSteps step (fun s a _ => FreshId s a) s as)
    (hoverlap : ¬ AllSteps step (fun s a _ => Serial s a) s as) : ∃ opp, 2 ≤ load t opp := by
  induction hrun with
  | nil => exact absurd (allSteps_nil _) hoverlap
  | @cons s u t a as hstep hrest ih =>
    obtain ⟨hfresh₀, hfresh₁⟩ := hfresh u hstep
    by_cases hserial : Serial s a
    · refine ih hfresh₁ fun hall => hoverlap fun v hv => ?_
      obtain rfl := Option.some_inj.mp (hstep.symm.trans hv)
      exact ⟨hserial, hall⟩
    · obtain ⟨opp, hload⟩ := two_le_load_of_overlap (stepped_of_step hstep) hfresh₀ hserial
      refine ⟨opp, hrest.invariant_of_allSteps (I := fun s => 2 ≤ load s opp) ?_ hfresh₁ hload⟩
      exact fun s a t hle hstep hfresh =>
        hle.trans (load_le_step (stepped_of_step hstep) hfresh opp)

/-- In every other run an opportunity has two rows once no call is on the way to one. -/
theorem two_le_recorded_of_overlap {as : List Action} (hrun : Run step s as t)
    (hfresh : AllSteps step (fun s a _ => FreshId s a) s as)
    (hoverlap : ¬ AllSteps step (fun s a _ => Serial s a) s as)
    (hended : ∀ c ∈ t.calls, c.phase.isEnded) : ∃ opp, 2 ≤ recorded t opp := by
  obtain ⟨opp, hload⟩ := exists_two_le_load hrun hfresh hoverlap
  have hpending : pending t opp = 0 := by
    refine List.countP_eq_zero.mpr fun c hc hboth => ?_
    have hc := hended c hc
    cases hphase : c.phase <;> simp [hphase, Phase.isInserting, Phase.isEnded] at hboth hc
  exact ⟨opp, by rwa [load, hpending, add_zero] at hload⟩

end Overlap

/-- Two calls of one opportunity, one behind the other. -/
def serialRun : List Action :=
  [.call (sampleOpportunity "opp_1" .abstained) "hard decline", .initTable 0 "prev_1" 1000, .query 0,
    .insert 0, .call (sampleOpportunity "opp_1" .abstained) "hard decline",
    .initTable 1 "prev_2" 1001, .query 1]

/-- Two calls of one opportunity whose looks both come before the inserts. -/
def overlappingRun : List Action :=
  [.call (sampleOpportunity "opp_1" .abstained) "hard decline",
    .call (sampleOpportunity "opp_1" .abstained) "hard decline", .initTable 0 "prev_1" 1000,
    .initTable 1 "prev_2" 1000, .query 0, .query 1, .insert 0, .insert 1]

instance (s : State) : (a : Action) → Decidable (Serial s a ∧ FreshId s a)
  | .query i => inferInstanceAs (Decidable ((∀ d ∈ s.calls[i]?, ∀ c ∈ s.calls,
      c.opp.id = d.opp.id → c.phase.isInserting = false) ∧ True))
  | .insert i => inferInstanceAs (Decidable (True ∧
      ∀ c ∈ s.calls[i]?, ∀ r ∈ s.rows, c.phase.insertingId ≠ some r.id))
  | .call .. => inferInstanceAs (Decidable (True ∧ True))
  | .initTable .. => inferInstanceAs (Decidable (True ∧ True))

theorem recorded_of_serial_run : ∃ t, Run step .empty serialRun t ∧ RecordedOnce t := by
  obtain ⟨t, hrun, -⟩ := exists_run_of_execute step .empty serialRun (fun _ => true) (by decide)
  exact ⟨t, hrun, recorded_of_serial hrun (by decide)⟩

theorem not_recorded_overlapping : ¬ ∀ as t, Run step .empty as t →
    (∀ c ∈ t.calls, c.phase.isEnded) → RecordedOnce t := by
  intro h
  obtain ⟨t, hrun, ht⟩ := exists_run_of_execute step .empty overlappingRun
    (fun t => t.calls.all (·.phase.isEnded) && recorded t "opp_1" == 2) (by decide)
  rw [Bool.and_eq_true, beq_iff_eq] at ht
  have hnodup := (h _ t hrun (List.all_eq_true.mp ht.1)).atMostOnce
  have hle := List.nodup_iff_count_le_one.mp hnodup "opp_1"
  rw [← recorded, ht.2] at hle
  omega

end AntiBlastEngine

end CtrlRecovery
