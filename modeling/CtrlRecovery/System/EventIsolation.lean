import CtrlRecovery.Domain.StatusWriters
import CtrlRecovery.System.SparedTenant

/-!
# Events of one tenant and the opportunities of another

The lookups of an event find the opportunities of every tenant, and an upsert moves the row of its id
to the tenant of the event. Where the events of a tenant meet no row of another tenant, the rows of
that tenant stay as they are, and what becomes of the events does not depend on them
(`isolated_of_meetsNone`).
-/

namespace CtrlRecovery

open Core OpportunityStatus OpportunityRepository

namespace EventIsolation

variable {owner tenantId : String} {db db' db'' t : Db} {id : String}

/-! ### What is seen of the other tenants -/

/-- The event of a row, for the rows of all tenants but the owner. -/
def visible (owner : String) (db : Db) (id : String) : Option (Option String) :=
  ((db.getOpportunityById id).filter (·.tenantId ≠ owner)).map (·.razorpayEventId)

/-- Every row of the owner is still a row of the owner, with the same amount, reason and status. -/
def KeepsRows (owner : String) (db db' : Db) : Prop :=
  ∀ id, ∀ o ∈ db.getOpportunityById id, o.tenantId = owner →
    ∃ o' ∈ db'.getOpportunityById id, o'.tenantId = owner ∧ o'.amountPaise = o.amountPaise ∧
      o'.reasonCode = o.reasonCode ∧ o'.status = o.status

/-- The two databases have the same opportunities of all tenants but the owner. -/
def AgreeOff (owner : String) (db db' : Db) : Prop :=
  ∀ o, o.tenantId ≠ owner → (o ∈ db.opportunities.rows ↔ o ∈ db'.opportunities.rows)

lemma visible_eq_some_iff {eventId : Option String} :
    visible owner db id = some eventId ↔
      ∃ o, db.getOpportunityById id = some o ∧ o.tenantId ≠ owner ∧ o.razorpayEventId = eventId := by
  simp [visible, Option.map_eq_some_iff, Option.filter_eq_some_iff, and_assoc]

lemma visible_of_spares (h : SparesTenant owner db db') (id : String) :
    visible owner db' id = visible owner db id := by
  have hrel := h id
  rw [visible, visible]
  generalize db.getOpportunityById id = row, db'.getOpportunityById id = row' at hrel ⊢
  cases hrel with
  | none => rfl
  | @some o o' hspares =>
    by_cases howner : o.tenantId = owner
    · simp [Option.filter, hspares.tenantId, howner]
    · simp [Option.filter, hspares.tenantId, hspares.razorpayEventId, howner]

lemma visible_insertOpportunity {opp : RecoveryOpportunity}
    (h : db.insertOpportunity opp = some db') (hrow : (Db.insertedRow opp).tenantId ≠ owner)
    (id : String) :
    visible owner db' id =
      if id = opp.id then some (Db.insertedRow opp).razorpayEventId else visible owner db id := by
  rw [visible, Db.getOpportunityById_insertOpportunity h]
  split_ifs
  · cases db.getOpportunityById opp.id <;> simp [Option.filter, hrow]
  · rfl

lemma visible_of_agreeOff (h : AgreeOff owner db db') (id : String) :
    visible owner db id = visible owner db' id := by
  apply Option.ext
  intro eventId
  rw [visible_eq_some_iff, visible_eq_some_iff]
  constructor
  · rintro ⟨o, ho, hne, hevent⟩
    have hmem := (h o hne).mp (Table.mem_of_find? ho)
    exact ⟨o, Table.find?_eq_some_iff.mpr ⟨hmem, Table.key_of_find? ho⟩, hne, hevent⟩
  · rintro ⟨o, ho, hne, hevent⟩
    have hmem := (h o hne).mpr (Table.mem_of_find? ho)
    exact ⟨o, Table.find?_eq_some_iff.mpr ⟨hmem, Table.key_of_find? ho⟩, hne, hevent⟩

lemma KeepsRows.refl (owner : String) (db : Db) : KeepsRows owner db db :=
  fun _ o ho howner => ⟨o, ho, howner, rfl, rfl, rfl⟩

lemma KeepsRows.trans (h : KeepsRows owner db db') (h' : KeepsRows owner db' db'') :
    KeepsRows owner db db'' := by
  intro id o ho howner
  obtain ⟨o', ho', howner', hamount, hreason, hstatus⟩ := h id o ho howner
  obtain ⟨o'', ho'', howner'', hamount', hreason', hstatus'⟩ := h' id o' ho' howner'
  exact ⟨o'', ho'', howner'', hamount'.trans hamount, hreason'.trans hreason,
    hstatus'.trans hstatus⟩

lemma SparesTenant.keepsRows (h : SparesTenant owner db db') : KeepsRows owner db db' := by
  intro id o ho howner
  obtain ⟨o', ho', hspares⟩ := h.exists_row ho
  exact ⟨o', ho', hspares.tenantId.trans howner, hspares.amountPaise, hspares.reasonCode,
    hspares.status howner⟩

lemma keepsRows_insertOpportunity {opp : RecoveryOpportunity}
    (h : db.insertOpportunity opp = some db') (hold : db.tenantOf opp.id ≠ some owner) :
    KeepsRows owner db db' := by
  intro id o ho howner
  have hne : id ≠ opp.id := by
    rintro rfl
    apply hold
    rw [Db.tenantOf, ho, Option.map_some, howner]
  refine ⟨o, ?_, howner, rfl, rfl, rfl⟩
  rw [Db.getOpportunityById_insertOpportunity h, if_neg hne]
  exact ho

/-! ### What an event meets -/

/-- The opportunity of the event. -/
def byEvent (db : Db) (event : CanonicalPaymentEvent) : Option RecoveryOpportunity :=
  db.getOpportunityByRazorpayEventId event.eventId

/-- The opportunity of the payment that the event names. -/
def byPayment (db : Db) (event : CanonicalPaymentEvent) : Option RecoveryOpportunity :=
  (event.paymentId.filter (· ≠ "")).bind db.getOpportunityById

/-- The opportunity that an event finds first, or that it would be stored over. -/
def metBy (db : Db) (incoming : IncomingEvent) : Option RecoveryOpportunity :=
  let event := incoming.event
  let stored := db.getOpportunityById (event.opportunityId incoming.world.now)
  match incoming.path with
  | .gateway =>
    (byEvent db event).or <| (byPayment db event).or <|
      if event.status = .failed then stored else none
  | .queue   =>
    if event.status = .failed then (byEvent db event).or stored
    else if event.isPaid then byPayment db event
    else none

/-- The event of the tenant meets no opportunity of the owner, and none of these names the tenant as
its merchant. -/
def MeetsNone (owner tenantId : String) (db : Db) (incoming : IncomingEvent) (_ : Db) : Prop :=
  (∀ o ∈ metBy db incoming, o.tenantId ≠ owner) ∧
    ∀ o ∈ db.opportunities.rows, o.tenantId = owner → o.merchantId ≠ tenantId

instance : Decidable (MeetsNone owner tenantId db incoming t) :=
  inferInstanceAs (Decidable (_ ∧ _))

/-- Whether an event is taken for a duplicate. -/
def isDuplicate (db : Db) (incoming : IncomingEvent) : Bool :=
  match incoming.path with
  | .gateway => (byEvent db incoming.event).isSome || (byPayment db incoming.event).isSome
  | .queue   => incoming.event.status = .failed && (byEvent db incoming.event).isSome

lemma separate_iff : Separate owner tenantId db ↔
    ∀ o ∈ db.opportunities.rows, o.tenantId = owner → o.merchantId ≠ tenantId := by
  constructor
  · intro h o ho
    exact h o.id o (Table.find?_key_of_mem ho)
  · intro h id o ho
    exact h o (Table.mem_of_find? ho)

/-- The row of a failed event is stored for the tenant, under the event. -/
lemma insertedRow_toOpportunity (htenant : tenantId ≠ "") (event : CanonicalPaymentEvent)
    (source : OpportunitySource) (environment : Environment) (priorCount : ℕ) (now : Timestamp) :
    (Db.insertedRow (event.toOpportunity source tenantId environment priorCount now)).tenantId =
        tenantId ∧
      (Db.insertedRow (event.toOpportunity source tenantId environment priorCount now)).merchantId =
        tenantId ∧
      (Db.insertedRow (event.toOpportunity source tenantId environment priorCount
        now)).razorpayEventId = some event.eventId := by
  have hrow : (event.toOpportunity source tenantId environment priorCount now).tenantId = tenantId :=
    Js.orElse_of_ne_empty htenant
  refine ⟨?_, ?_, ?_⟩
  · rw [Db.insertedRow, hrow]
    exact Js.orElse_of_ne_empty htenant
  · rw [Db.insertedRow, hrow]
    exact Js.orElse_of_ne_empty htenant
  · simp [Db.insertedRow, event.eventId_ne]

lemma Separate.of_insert {opp : RecoveryOpportunity} (h : Separate owner tenantId db)
    (hinsert : db.insertOpportunity opp = some db')
    (hrow : (Db.insertedRow opp).tenantId ≠ owner) : Separate owner tenantId db' := by
  intro j o ho howner
  rw [Db.getOpportunityById_insertOpportunity hinsert] at ho
  split_ifs at ho
  · cases hold : db.getOpportunityById opp.id <;> rw [hold] at ho <;> cases ho <;>
      exact absurd howner hrow
  · exact h j o ho howner

lemma tenantOf_insert {opp : RecoveryOpportunity} (h : db.insertOpportunity opp = some db') :
    db'.tenantOf opp.id = some (Db.insertedRow opp).tenantId := by
  rw [Db.tenantOf, Db.getOpportunityById_insertOpportunity h, if_pos rfl]
  cases db.getOpportunityById opp.id <;> rfl

section Handling

variable {platform : Platform} {event : CanonicalPaymentEvent} {world : EventWorld}

/-- What a paid event matches is no row of the owner. -/
lemma tenantOf_of_matchPaid (h : Separate owner tenantId db) (hne : owner ≠ tenantId)
    (htenant : tenantId ≠ "") (hpayment : ∀ o ∈ byPayment db event, o.tenantId ≠ owner)
    (hmatch : WebhookQueueEngine.matchPaid db tenantId event = some id) :
    db.tenantOf id ≠ some owner := by
  rw [WebhookQueueEngine.matchPaid] at hmatch
  split at hmatch
  next opp hfound =>
    cases hmatch
    obtain ⟨paymentId, -, hrow⟩ := Option.bind_eq_some_iff.mp hfound
    rw [tenantOf_of_mem (Table.mem_of_find? hrow), Ne, Option.some.injEq]
    exact hpayment opp hfound
  · obtain ⟨linkId, -, hfound⟩ := Option.bind_eq_some_iff.mp hmatch
    obtain ⟨record, hrecord, rfl⟩ := Option.map_eq_some_iff.mp hfound
    have hmem := List.mem_of_find?_eq_some hrecord
    rw [Db.getAllExecutionRecords, mem_rank, List.mem_filter] at hmem
    obtain hempty | hscope := (Bool.or_eq_true _ _).mp hmem.2
    · exact absurd (eq_of_beq hempty) htenant
    · obtain ⟨o, ho, hin⟩ := (Option.any_eq_true _ _).mp hscope
      have hrow := Table.mem_of_find? ho
      rw [← Db.id_of_getOpportunityById ho, tenantOf_of_mem hrow, Ne, Option.some.injEq]
      exact h.ne_of_inScope hne htenant hrow hin

lemma tenantOf_of_stored (hmeets : ∀ o ∈ db.getOpportunityById id, o.tenantId ≠ owner) :
    db.tenantOf id ≠ some owner := by
  intro htenantOf
  obtain ⟨o, ho, howner⟩ := Option.map_eq_some_iff.mp htenantOf
  exact hmeets o ho howner

variable {incoming : IncomingEvent}

/-- A duplicate is one in every database with the same other opportunities. -/
lemma isDuplicate_of_visible (hmeets : ∀ o ∈ metBy db incoming, o.tenantId ≠ owner)
    (hsame : ∀ id, visible owner db id = visible owner db' id) (h : isDuplicate db incoming) :
    isDuplicate db' incoming := by
  have hevent : ∀ o ∈ byEvent db incoming.event, o.tenantId ≠ owner →
      (byEvent db' incoming.event).isSome := by
    intro o ho howner
    have hid : o.razorpayEventId = some incoming.event.eventId := by
      simpa using List.find?_some ho
    have hseen := visible_eq_some_iff.mpr
      ⟨o, Table.find?_key_of_mem (List.mem_of_find?_eq_some ho), howner, hid⟩
    rw [hsame, visible_eq_some_iff] at hseen
    obtain ⟨o', ho', -, hid'⟩ := hseen
    rw [byEvent, Db.getOpportunityByRazorpayEventId, List.find?_isSome]
    exact ⟨o', Table.mem_of_find? ho', by simp [hid']⟩
  have hpayment : ∀ o ∈ byPayment db incoming.event, o.tenantId ≠ owner →
      (byPayment db' incoming.event).isSome := by
    intro o ho howner
    obtain ⟨paymentId, hid, hrow⟩ := Option.bind_eq_some_iff.mp ho
    have hseen := visible_eq_some_iff.mpr ⟨o, hrow, howner, rfl⟩
    rw [hsame, visible_eq_some_iff] at hseen
    obtain ⟨o', ho', -, -⟩ := hseen
    rw [byPayment, hid, Option.bind_some, ho', Option.isSome_some]
  obtain ⟨path, event, world⟩ := incoming
  cases path with
  | gateway =>
    simp only [isDuplicate, metBy, Bool.or_eq_true] at h hmeets ⊢
    cases hfound : byEvent db event with
    | some o =>
      left
      rw [hfound] at hmeets
      exact hevent o hfound (hmeets o rfl)
    | none =>
      right
      rw [hfound] at h hmeets
      obtain hnone | hsome := h
      · cases hnone
      · obtain ⟨o, ho⟩ := Option.isSome_iff_exists.mp hsome
        rw [ho] at hmeets
        exact hpayment o ho (hmeets o rfl)
  | queue =>
    simp only [isDuplicate, metBy, Bool.and_eq_true, decide_eq_true_eq] at h hmeets ⊢
    obtain ⟨hfailed, hsome⟩ := h
    obtain ⟨o, ho⟩ := Option.isSome_iff_exists.mp hsome
    rw [if_pos hfailed, ho] at hmeets
    exact ⟨hfailed, hevent o ho (hmeets o rfl)⟩

/-- What the handling of an event can do. -/
inductive Handled (platform : Platform) (tenantId : String) (db : Db) (incoming : IncomingEvent) :
    Db × EventOutcome → Prop
  | duplicate (hdup : isDuplicate db incoming) :
      Handled platform tenantId db incoming (db, .deduplicated)
  | paidDuplicate (hdup : isDuplicate db incoming) (o : RecoveryOpportunity)
      (ho : o ∈ db.opportunities.rows) (hmet : metBy db incoming = some o) :
      Handled platform tenantId db incoming
        (reconcileMatched platform incoming.world db o.id, .deduplicated)
  | stored (hdup : ¬ isDuplicate db incoming) (hfailed : incoming.event.status = .failed)
      (opp : RecoveryOpportunity) (source : OpportunitySource) (db' t u : Db)
      (hopp : opp = incoming.event.toOpportunity source tenantId incoming.event.environment
        incoming.world.priorCount incoming.world.now)
      (hmet : metBy db incoming = db.getOpportunityById opp.id)
      (hinsert : db.insertOpportunity opp = some db') (hrows : SameRows db' t)
      (hafter : u = t ∨ u = EventGateway.recoverIngested platform incoming.world tenantId opp t) :
      Handled platform tenantId db incoming (u, .accepted)
  | matched (hdup : ¬ isDuplicate db incoming) (hfailed : incoming.event.status ≠ .failed)
      (id : String) (hmet : metBy db incoming = byPayment db incoming.event)
      (hmatch : WebhookQueueEngine.matchPaid db tenantId incoming.event = some id) :
      Handled platform tenantId db incoming
        (reconcileMatched platform incoming.world db id, .accepted)
  | ignored (hdup : ¬ isDuplicate db incoming) (hfailed : incoming.event.status ≠ .failed) :
      Handled platform tenantId db incoming (db, .accepted)

lemma sameRows_insertLedgerEntry (db : Db) (entry : LedgerEntry) :
    SameRows db (db.insertLedgerEntry entry) :=
  ⟨rfl, rfl, rfl, rfl⟩

lemma handled_handleEvent (platform : Platform) (tenantId : String) (db : Db)
    (event : CanonicalPaymentEvent) (world : EventWorld) :
    Handled platform tenantId db ⟨.gateway, event, world⟩
      (EventGateway.handleEvent platform tenantId db event world) := by
  rw [EventGateway.handleEvent.eq_def]
  cases hevent : db.getOpportunityByRazorpayEventId event.eventId with
  | some o => exact .duplicate (by simp [isDuplicate, byEvent, hevent])
  | none =>
    have hnone : byEvent db event = none := hevent
    dsimp only
    cases hpayment : (event.paymentId.filter (· ≠ "")).bind db.getOpportunityById with
    | some o =>
      have hfound : byPayment db event = some o := hpayment
      have hdup : isDuplicate db ⟨.gateway, event, world⟩ := by simp [isDuplicate, hfound]
      dsimp only
      split_ifs
      · obtain ⟨paymentId, -, hrow⟩ := Option.bind_eq_some_iff.mp hpayment
        exact .paidDuplicate hdup o (Table.mem_of_find? hrow) (by simp [metBy, hnone, hfound])
      · exact .duplicate hdup
    | none =>
      have hfound : byPayment db event = none := hpayment
      have hdup : ¬ isDuplicate db ⟨.gateway, event, world⟩ := by simp [isDuplicate, hnone, hfound]
      dsimp only
      split_ifs with hfailed hpaid
      · obtain ⟨db', hinsert⟩ := Db.exists_insertOpportunity (event.toOpportunity .real tenantId
          event.environment world.priorCount world.now) (event.toOpportunity_razorpayEventId _ _ _
          _ _) hevent
        rw [hinsert]
        exact .stored hdup hfailed _ .real db' _ _ rfl (by simp [metBy, hnone, hfound, hfailed])
          hinsert (sameRows_insertLedgerEntry db' _) (.inr rfl)
      · cases hmatch : WebhookQueueEngine.matchPaid db tenantId event with
        | none => exact .ignored hdup hfailed
        | some id =>
          exact .matched hdup hfailed id (by simp [metBy, hnone, hfound, hfailed]) hmatch
      · exact .ignored hdup hfailed

lemma handled_processDelivery (platform : Platform) (tenantId : String) (db : Db)
    (event : CanonicalPaymentEvent) (world : EventWorld) :
    Handled platform tenantId db ⟨.queue, event, world⟩
      (WebhookQueueEngine.processDelivery platform tenantId db event world) := by
  rw [WebhookQueueEngine.processDelivery.eq_def]
  split_ifs with hfailed hpaid
  · cases hevent : db.getOpportunityByRazorpayEventId event.eventId with
    | some o => exact .duplicate (by simp [isDuplicate, byEvent, hevent, hfailed])
    | none =>
      obtain ⟨db', hinsert, hprocess⟩ := WebhookQueueEngine.processFailed_of_new tenantId
        world.priorCount world.now world.entryId hevent
      rw [hprocess]
      exact .stored (by simp [isDuplicate, byEvent, hevent]) hfailed _ _ db' _ _ rfl
        (by simp [metBy, byEvent, hevent, hfailed]) hinsert
        (sameRows_insertLedgerEntry db' _) (.inl rfl)
  · have hdup : ¬ isDuplicate db ⟨.queue, event, world⟩ := by simp [isDuplicate, hfailed]
    cases hmatch : WebhookQueueEngine.matchPaid db tenantId event with
    | none => exact .ignored hdup hfailed
    | some id => exact .matched hdup hfailed id (by simp [metBy, hfailed, hpaid]) hmatch
  · exact .ignored (by simp [isDuplicate, hfailed]) hfailed

lemma handled_handleIncoming (platform : Platform) (tenantId : String) (db : Db)
    (incoming : IncomingEvent) :
    Handled platform tenantId db incoming (handleIncoming platform tenantId db incoming) := by
  obtain ⟨path, event, world⟩ := incoming
  cases path with
  | gateway => exact handled_handleEvent platform tenantId db event world
  | queue => exact handled_processDelivery platform tenantId db event world

lemma outcome_handleIncoming (platform : Platform) (tenantId : String) (db : Db)
    (incoming : IncomingEvent) :
    (handleIncoming platform tenantId db incoming).2 =
      if isDuplicate db incoming then .deduplicated else .accepted := by
  have hhandled := handled_handleIncoming platform tenantId db incoming
  generalize handleIncoming platform tenantId db incoming = result at hhandled ⊢
  cases hhandled with
  | duplicate hdup | paidDuplicate hdup => rw [if_pos hdup]
  | stored hdup | matched hdup | ignored hdup => rw [if_neg hdup]

variable {u : Db}

/-- An event that is not stored. -/
lemma spares_handleIncoming (hmeets : MeetsNone owner tenantId db incoming u) (hne : owner ≠ tenantId)
    (htenant : tenantId ≠ "")
    (hkept : isDuplicate db incoming ∨ incoming.event.status ≠ .failed) :
    SparesTenant owner db (handleIncoming platform tenantId db incoming).1 := by
  have hhandled := handled_handleIncoming platform tenantId db incoming
  generalize handleIncoming platform tenantId db incoming = result at hhandled ⊢
  obtain ⟨hmet, hmerchant⟩ := hmeets
  cases hhandled with
  | duplicate | ignored => exact .refl owner db
  | paidDuplicate hdup o ho hfound =>
    apply spares_reconcileMatched
    rw [tenantOf_of_mem ho, Ne, Option.some.injEq]
    exact hmet o hfound
  | stored hdup hfailed => exact absurd hkept (by simp [hdup, hfailed])
  | matched hdup hfailed id hfound hmatch =>
    apply spares_reconcileMatched
    rw [hfound] at hmet
    exact tenantOf_of_matchPaid (separate_iff.mpr hmerchant) hne htenant hmet hmatch

/-- A failed event that is no duplicate. -/
lemma exists_insert_handleIncoming (platform : Platform)
    (hmeets : MeetsNone owner tenantId db incoming u)
    (hne : owner ≠ tenantId) (htenant : tenantId ≠ "") (hdup : ¬ isDuplicate db incoming)
    (hfailed : incoming.event.status = .failed) :
    ∃ opp db', opp.id = incoming.event.opportunityId incoming.world.now ∧
      (Db.insertedRow opp).tenantId = tenantId ∧
      (Db.insertedRow opp).razorpayEventId = some incoming.event.eventId ∧
      db.tenantOf opp.id ≠ some owner ∧ db.insertOpportunity opp = some db' ∧
      SparesTenant owner db' (handleIncoming platform tenantId db incoming).1 := by
  have hhandled := handled_handleIncoming platform tenantId db incoming
  generalize handleIncoming platform tenantId db incoming = result at hhandled ⊢
  obtain ⟨hmet, hmerchant⟩ := hmeets
  cases hhandled with
  | duplicate hdup' | paidDuplicate hdup' => exact absurd hdup' hdup
  | matched _ hfailed' | ignored _ hfailed' => exact absurd hfailed hfailed'
  | stored _ _ opp source db' t u hopp hfound hinsert hrows hafter =>
    obtain ⟨htenantId, -, hevent⟩ := insertedRow_toOpportunity htenant incoming.event source
      incoming.event.environment incoming.world.priorCount incoming.world.now
    rw [← hopp] at htenantId hevent
    rw [hfound] at hmet
    have hrow : (Db.insertedRow opp).tenantId ≠ owner := by
      rw [htenantId]
      exact hne.symm
    have hseparate : Separate owner tenantId t :=
      ((separate_iff.mpr hmerchant).of_insert hinsert hrow).of_spares (.of_sameRows hrows)
    refine ⟨opp, db', by rw [hopp, incoming.event.toOpportunity_id], htenantId, hevent,
      tenantOf_of_stored hmet, hinsert, ?_⟩
    show SparesTenant owner db' u
    rcases hafter with hu | hu
    · rw [hu]
      exact .of_sameRows hrows
    · rw [hu]
      apply SparesTenant.trans (.of_sameRows hrows)
      apply spares_recoverIngested hseparate hne htenant
      have hsame : SparesTenant owner db' t := .of_sameRows hrows
      rw [hsame.tenantOf, tenantOf_insert hinsert]
      simpa using hrow

/-- An event shows a row under its payment if it is stored, and nothing else. -/
lemma visible_handleIncoming (hmeets : MeetsNone owner tenantId db incoming u) (hne : owner ≠ tenantId)
    (htenant : tenantId ≠ "") (id : String) :
    visible owner (handleIncoming platform tenantId db incoming).1 id =
      if ¬ isDuplicate db incoming ∧ incoming.event.status = .failed ∧
          id = incoming.event.opportunityId incoming.world.now then
        some (some incoming.event.eventId)
      else visible owner db id := by
  by_cases hstored : ¬ isDuplicate db incoming ∧ incoming.event.status = .failed
  · obtain ⟨opp, db', hid, htenantId, hevent, -, hinsert, hspares⟩ :=
      exists_insert_handleIncoming platform hmeets hne htenant hstored.1 hstored.2
    have hrow : (Db.insertedRow opp).tenantId ≠ owner := by
      rw [htenantId]
      exact hne.symm
    rw [visible_of_spares hspares, visible_insertOpportunity hinsert hrow, hid, hevent]
    simp [hstored]
  · rw [if_neg fun h => hstored ⟨h.1, h.2.1⟩]
    apply visible_of_spares
    apply spares_handleIncoming hmeets hne htenant
    rwa [not_and_or, not_not] at hstored

lemma keepsRows_handleIncoming (hmeets : MeetsNone owner tenantId db incoming u)
    (hne : owner ≠ tenantId) (htenant : tenantId ≠ "") :
    KeepsRows owner db (handleIncoming platform tenantId db incoming).1 := by
  by_cases hstored : ¬ isDuplicate db incoming ∧ incoming.event.status = .failed
  · obtain ⟨opp, db', -, -, -, hold, hinsert, hspares⟩ :=
      exists_insert_handleIncoming platform hmeets hne htenant hstored.1 hstored.2
    exact (keepsRows_insertOpportunity hinsert hold).trans hspares.keepsRows
  · apply SparesTenant.keepsRows
    apply spares_handleIncoming hmeets hne htenant
    rwa [not_and_or, not_not] at hstored

lemma isDuplicate_congr {u' : Db} (hmeets : MeetsNone owner tenantId db incoming u)
    (hmeets' : MeetsNone owner tenantId db' incoming u')
    (hsame : ∀ id, visible owner db id = visible owner db' id) :
    isDuplicate db incoming = isDuplicate db' incoming := by
  rw [Bool.eq_iff_iff]
  constructor
  · exact isDuplicate_of_visible hmeets.1 hsame
  · exact isDuplicate_of_visible hmeets'.1 fun id => (hsame id).symm

end Handling

/-! ### Runs -/

section Runs

variable {platform : Platform} {events : List IncomingEvent}

lemma keepsRows_of_run (hne : owner ≠ tenantId) (htenant : tenantId ≠ "")
    (hrun : Run (ingestStep platform tenantId) db events t)
    (hmeets : AllSteps (ingestStep platform tenantId) (MeetsNone owner tenantId) db events) :
    KeepsRows owner db t := by
  induction hrun with
  | nil db => exact .refl owner db
  | cons hstep _ ih =>
    obtain ⟨hfirst, hothers⟩ := hmeets _ hstep
    cases hstep
    exact (keepsRows_handleIncoming hfirst hne htenant).trans (ih hothers)

/-- Two runs over the same events, from databases with the same other opportunities. -/
lemma outcomes_congr (hne : owner ≠ tenantId) (htenant : tenantId ≠ "")
    (hsame : ∀ id, visible owner db id = visible owner db' id)
    (hdb : AllSteps (ingestStep platform tenantId) (MeetsNone owner tenantId) db events)
    (hdb' : AllSteps (ingestStep platform tenantId) (MeetsNone owner tenantId) db' events) :
    outcomes platform tenantId db events = outcomes platform tenantId db' events := by
  induction events generalizing db db' with
  | nil => rfl
  | cons incoming events ih =>
    obtain ⟨hfirst, hothers⟩ := hdb _ rfl
    obtain ⟨hfirst', hothers'⟩ := hdb' _ rfl
    have hdup := isDuplicate_congr hfirst hfirst' hsame
    rw [outcomes, outcomes, outcome_handleIncoming, outcome_handleIncoming, hdup]
    congr 1
    refine ih (fun id => ?_) hothers hothers'
    rw [visible_handleIncoming hfirst hne htenant, visible_handleIncoming hfirst' hne htenant, hdup,
      hsame id]

/-- Where the events of a tenant meet no row of the owner, the rows of the owner stay as they are,
and the events fare the same whatever rows the owner has. -/
theorem isolated_of_meetsNone (hne : owner ≠ tenantId) (htenant : tenantId ≠ "")
    (hagree : AgreeOff owner db db') (hrun : Run (ingestStep platform tenantId) db events t)
    (hdb : AllSteps (ingestStep platform tenantId) (MeetsNone owner tenantId) db events)
    (hdb' : AllSteps (ingestStep platform tenantId) (MeetsNone owner tenantId) db' events) :
    KeepsRows owner db t ∧
      outcomes platform tenantId db events = outcomes platform tenantId db' events :=
  ⟨keepsRows_of_run hne htenant hrun hdb,
    outcomes_congr hne htenant (visible_of_agreeOff hagree) hdb hdb'⟩

/-- The row of the owner, for the payment and the event. -/
def ownedRow (paymentId eventId : String) : RecoveryOpportunity :=
  { sampleOpportunity paymentId .pending with razorpayEventId := some eventId }

lemma agreeOff_empty {rows : List RecoveryOpportunity}
    (h : ∀ o ∈ (Db.ofRows rows []).opportunities.rows, o.tenantId = owner) :
    AgreeOff owner (Db.ofRows rows []) .empty := by
  intro o hne
  constructor
  · intro ho
    exact absurd (h o ho) hne
  · intro ho
    cases ho

/-- A queued failure and a delivery of it to the route, with ids of their own. -/
theorem isolated_ownIds :
    ∃ t, KeepsRows "tenant_a" (Db.ofRows [ownedRow "pay_1" "evt_1"] []) t ∧
      outcomes .plain "tenant_b" (Db.ofRows [ownedRow "pay_1" "evt_1"] [])
          [⟨.queue, failedEvent "evt_2" "pay_2", .sample⟩,
            ⟨.gateway, failedEvent "evt_3" "pay_2", .sample⟩] =
        outcomes .plain "tenant_b" .empty
          [⟨.queue, failedEvent "evt_2" "pay_2", .sample⟩,
            ⟨.gateway, failedEvent "evt_3" "pay_2", .sample⟩] := by
  obtain ⟨t, hrun, -⟩ := exists_run_of_execute (ingestStep .plain "tenant_b")
    (Db.ofRows [ownedRow "pay_1" "evt_1"] [])
    [⟨.queue, failedEvent "evt_2" "pay_2", .sample⟩,
      ⟨.gateway, failedEvent "evt_3" "pay_2", .sample⟩] (fun _ => true) rfl
  exact ⟨t, isolated_of_meetsNone (by decide) (by decide) (agreeOff_empty (by decide +kernel)) hrun
    (by decide +kernel) (by decide +kernel)⟩

/-- An event of one tenant takes the row of another for itself, and is a duplicate only because of
that row. -/
theorem events_not_isolated :
    (¬ ∀ (owner tenantId : String) (db t : Db) (events : List IncomingEvent), owner ≠ tenantId →
        Run (ingestStep .plain tenantId) db events t → KeepsRows owner db t) ∧
      ¬ ∀ (owner tenantId : String) (db db' : Db) (events : List IncomingEvent), owner ≠ tenantId →
        AgreeOff owner db db' →
        outcomes .plain tenantId db events = outcomes .plain tenantId db' events := by
  constructor
  · intro h
    obtain ⟨t, hrun, ht⟩ := exists_run_of_execute (ingestStep .plain "tenant_b")
      (Db.ofRows [ownedRow "pay_1" "evt_1"] []) [⟨.queue, failedEvent "evt_2" "pay_1", .sample⟩]
      (fun t => t.tenantOf "pay_1" = some "tenant_b") (by decide +kernel)
    obtain ⟨o, ho, howner, -⟩ := h "tenant_a" "tenant_b" _ t _ (by decide) hrun "pay_1"
      (ownedRow "pay_1" "evt_1") rfl rfl
    have htaken : t.tenantOf "pay_1" = some "tenant_b" := by simpa using ht
    rw [Db.tenantOf, ho, Option.map_some, howner] at htaken
    revert htaken
    decide
  · intro h
    have hsame := h "tenant_a" "tenant_b" (Db.ofRows [ownedRow "pay_1" "evt_1"] []) .empty
      [⟨.gateway, { failedEvent "evt_1" "pay_2" with status := .created }, .sample⟩] (by decide)
      (agreeOff_empty (by decide +kernel))
    revert hsame
    decide +kernel

end Runs

end EventIsolation

end CtrlRecovery
