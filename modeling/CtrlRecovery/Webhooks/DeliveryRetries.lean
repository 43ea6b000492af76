import CtrlRecovery.Webhooks.RetryWorker

/-!
# Attempts of a delivery

In a run in which the worker goes on with copies that are still current, a replay is of a delivery that
is not being processed and has attempts left, one of a delivered delivery does not fail with attempts
left, and no process crashes in the middle of a processing, a delivery is processed at most
`maxAttempts` times, the worker processes none that has been delivered, and none is stranded
(`retriesKept_of_allSteps`).
-/

namespace CtrlRecovery

open Core

namespace WebhookRetries

/-! ### What the queue promises -/

namespace State

variable (s : State)

/-- How often a delivery has been processed. -/
def timesProcessed (deliveryId : String) : ℕ :=
  s.processed.countP fun p => p.deliveryId = deliveryId

/-- A processing of the delivery is under way. -/
def InFlight (deliveryId : String) : Prop :=
  ∃ caller item, s.processing caller = some item ∧ item.id = deliveryId

/-- The row is eligible for `getDueWebhookRetries` after some time, or a processing that is under way
will decide on it. -/
def EventuallyDue (row : WebhookDeliveryQueueItem) : Prop :=
  (∃ ms, isDue (s.now + ms) row) ∨ s.InFlight row.id

end State

/-- No delivery is processed too often, none again by the worker after it has been delivered, and none
is stranded. -/
structure RetriesKept (s : State) : Prop where
  bounded : ∀ row ∈ s.deliveries.rows, s.timesProcessed row.id ≤ row.maxAttempts
  once : ∀ p ∈ s.processed, ∀ process, p.caller = .worker process → p.wasDelivered = false
  eventually : ∀ row ∈ s.deliveries.rows, row.status ≠ .delivered → row.status ≠ .deadLetter →
    s.EventuallyDue row

/-! ### The condition on a step -/

/-- A step that works on a current copy of a row with attempts left, fails no delivered delivery that
would be retried, and strands none. -/
def Careful (s : State) (action : Action) (_ : State) : Prop :=
  match action with
  | .next process =>
    ∀ item rest, s.batches process = some (item :: rest) → s.deliveries.find? item.id = some item
  | .replayWebhook _ _ deliveryId tenantId =>
    ∀ row ∈ s.deliveries.find? deliveryId, row.tenantId = tenantId →
      row.status ≠ .processing ∧ row.attempts < row.maxAttempts
  | .finish caller error =>
    ∀ item ∈ s.processing caller, error.isSome → item.id ∈ s.deliveredIds →
      item.maxAttempts ≤ item.attempts + 1
  | .crash process => ∀ caller, caller.process = process → s.processing caller = none
  | _ => True

/-! ### The invariant -/

/-- What is known of a row in a run of such steps. -/
structure RowConsistent (s : State) (row : WebhookDeliveryQueueItem) : Prop where
  attempts : row.attempts = s.timesProcessed row.id
  bounded : row.attempts ≤ row.maxAttempts
  waits : row.status = .pending ∨ row.status = .failed →
    row.attempts < row.maxAttempts ∧ row.id ∉ s.deliveredIds
  running : row.status = .processing → s.InFlight row.id

structure Consistent (s : State) : Prop where
  row : ∀ row ∈ s.deliveries.rows, RowConsistent s row
  flight : ∀ caller item, s.processing caller = some item → ∃ row,
    s.deliveries.find? item.id = some row ∧ row.status = .processing ∧
      row.attempts = item.attempts + 1 ∧ row.maxAttempts = item.maxAttempts
  unique : ∀ caller caller' item item', s.processing caller = some item →
    s.processing caller' = some item' → item.id = item'.id → caller = caller'
  batch : ∀ process items, s.batches process = some items → ∀ item ∈ items,
    item.status = .pending ∨ item.status = .failed
  known : ∀ id, id ∈ s.processed.map (·.deliveryId) ∨ id ∈ s.deliveredIds →
    (s.deliveries.find? id).isSome
  once : ∀ p ∈ s.processed, ∀ process, p.caller = .worker process → p.wasDelivered = false

variable {s t : State} {row item : WebhookDeliveryQueueItem} {caller : Caller}

lemma exists_isDue (h : row.status = .pending ∨ row.status = .failed) (now : Timestamp) :
    ∃ ms, isDue (now + ms) row := by
  refine ⟨row.nextRetryAt.getD 0, ?_⟩
  rw [isDue, Bool.and_eq_true, Bool.or_eq_true, beq_iff_eq, beq_iff_eq]
  refine ⟨h, ?_⟩
  cases row.nextRetryAt with
  | none => rfl
  | some at' => simp

lemma Consistent.retriesKept (h : Consistent s) : RetriesKept s := by
  refine ⟨fun row hrow => ?_, h.once, fun row hrow hdelivered hdead => ?_⟩
  · rw [← (h.row row hrow).attempts]
    exact (h.row row hrow).bounded
  · cases hstatus : row.status with
    | pending => exact .inl (exists_isDue (.inl hstatus) s.now)
    | failed => exact .inl (exists_isDue (.inr hstatus) s.now)
    | processing => exact .inr ((h.row row hrow).running hstatus)
    | delivered => exact absurd hstatus hdelivered
    | deadLetter => exact absurd hstatus hdead

/-! ### The start of a processing -/

lemma timesProcessed_start (id : String) : (s.start caller item).timesProcessed id =
    s.timesProcessed id + if item.id = id then 1 else 0 := by
  rw [State.timesProcessed, State.start, List.countP_cons, State.timesProcessed]
  simp only [decide_eq_true_eq]

lemma find?_start (id : String) : (s.start caller item).deliveries.find? id =
    if id = item.id then (s.deliveries.find? id).map (begun item) else s.deliveries.find? id := by
  rw [State.start, Table.find?_update]

lemma processing_start (caller' : Caller) : (s.start caller item).processing caller' =
    if caller' = caller then some item else s.processing caller' := Function.update_apply ..

lemma inFlight_start_self : (s.start caller item).InFlight item.id :=
  ⟨caller, item, Function.update_self .., rfl⟩

lemma inFlight_start (hfree : s.processing caller = none) {id : String} (h : s.InFlight id) :
    (s.start caller item).InFlight id := by
  obtain ⟨caller', item', hitem', hid⟩ := h
  have hne : caller' ≠ caller := by
    rintro rfl
    rw [hfree] at hitem'
    cases hitem'
  exact ⟨caller', item', (Function.update_of_ne hne ..).trans hitem', hid⟩

/-- A processing of a current copy with attempts left, none of which is under way, can start. -/
lemma Consistent.start (h : Consistent s) (hfree : s.processing caller = none)
    (hitem : s.deliveries.find? item.id = some item) (hstatus : item.status ≠ .processing)
    (hattempts : item.attempts < item.maxAttempts)
    (hworker : ∀ process, caller = .worker process → item.id ∉ s.deliveredIds) :
    Consistent (s.start caller item) := by
  have hmem : item ∈ s.deliveries.rows := Table.mem_of_find? hitem
  have hnone : ∀ caller' item', s.processing caller' = some item' → item'.id ≠ item.id := by
    intro caller' item' hitem' hid
    obtain ⟨row, hrow, hprocessing, -⟩ := h.flight caller' item' hitem'
    rw [hid, hitem] at hrow
    cases hrow
    exact hstatus hprocessing
  constructor
  · intro row hrow
    obtain ⟨old, hold, rfl⟩ := List.mem_map.mp hrow
    have hrowOld := h.row old hold
    split_ifs with hid
    · have hsame : old = item := s.deliveries.eq_of_key_eq hold hmem hid
      subst hsame
      refine ⟨?_, hattempts, ?_, fun _ => inFlight_start_self⟩
      · rw [id_begun, timesProcessed_start, if_pos rfl, ← hrowOld.attempts]
        rfl
      · rintro (hpending | hfailed)
        · cases hpending
        · cases hfailed
    · refine ⟨?_, hrowOld.bounded, hrowOld.waits, fun hprocessing => ?_⟩
      · rw [timesProcessed_start, if_neg (Ne.symm hid), Nat.add_zero]
        exact hrowOld.attempts
      · exact inFlight_start hfree (hrowOld.running hprocessing)
  · intro caller' item' hitem'
    rw [processing_start] at hitem'
    split_ifs at hitem' with hcaller
    · cases hitem'
      exact ⟨begun item item, by rw [find?_start, if_pos rfl, hitem]; rfl, rfl, rfl, rfl⟩
    · obtain ⟨row, hrow, hrest⟩ := h.flight caller' item' hitem'
      exact ⟨row, by rw [find?_start, if_neg (hnone caller' item' hitem'), hrow], hrest⟩
  · intro c c' i i' hi hi' hid
    rw [processing_start] at hi hi'
    split_ifs at hi hi' with hc hc' hc'
    · rw [hc, hc']
    · cases hi
      exact absurd hid.symm (hnone c' i' hi')
    · cases hi'
      exact absurd hid (hnone c i hi)
    · exact h.unique c c' i i' hi hi' hid
  · exact h.batch
  · intro id hid
    rw [find?_start]
    split_ifs with hsame
    · rw [hsame, hitem]
      rfl
    · refine h.known id (hid.imp_left fun hlog => ?_)
      rw [State.start, List.map_cons, List.mem_cons] at hlog
      exact hlog.resolve_left hsame
  · intro p hp process hcaller
    rcases List.mem_cons.mp hp with rfl | hp
    · exact decide_eq_false (hworker process hcaller)
    · exact h.once p hp process hcaller

/-! ### The end of a processing -/

variable {error : Option String}

lemma find?_finish (id : String) : (s.finish caller item error).deliveries.find? id =
    if id = item.id then (s.deliveries.find? id).map (ended item error s.now)
    else s.deliveries.find? id := by
  rw [State.finish, Table.find?_update]

lemma processing_finish (caller' : Caller) : (s.finish caller item error).processing caller' =
    if caller' = caller then none else s.processing caller' := Function.update_apply ..

/-- The row at the end of a processing. -/
lemma ended_spec (item row : WebhookDeliveryQueueItem) (error : Option String) (now : Timestamp) :
    (ended item error now row).attempts = item.attempts + 1 ∧
      (ended item error now row).maxAttempts = row.maxAttempts ∧
      ((ended item error now row).status = .delivered ∨
        (ended item error now row).status = .deadLetter ∨
        (ended item error now row).status = .failed ∧ error.isSome ∧
          item.attempts + 1 < item.maxAttempts) := by
  cases error with
  | none => exact ⟨rfl, rfl, .inl rfl⟩
  | some message =>
    rw [ended]
    split_ifs with hlast
    · exact ⟨rfl, rfl, .inr (.inl rfl)⟩
    · exact ⟨rfl, rfl, .inr (.inr ⟨rfl, rfl, not_le.mp hlast⟩)⟩

/-- A processing can end, with an error only when the delivery has not been delivered before or is given
up. -/
lemma Consistent.finish (h : Consistent s) (hcaller : s.processing caller = some item)
    (herror : error.isSome → item.id ∈ s.deliveredIds → item.maxAttempts ≤ item.attempts + 1) :
    Consistent (s.finish caller item error) := by
  obtain ⟨current, hcurrent, hprocessing, hattempts, hmax⟩ := h.flight caller item hcaller
  have hmem : current ∈ s.deliveries.rows := Table.mem_of_find? hcurrent
  have hother : ∀ caller' item', (s.finish caller item error).processing caller' = some item' →
      s.processing caller' = some item' ∧ item'.id ≠ item.id := by
    intro caller' item' hitem'
    rw [processing_finish] at hitem'
    split_ifs at hitem' with hsame
    exact ⟨hitem', fun hid => hsame (h.unique caller' caller item' item hitem' hcaller hid)⟩
  constructor
  · intro row hrow
    obtain ⟨old, hold, rfl⟩ := List.mem_map.mp hrow
    have hrowOld := h.row old hold
    split_ifs with hid
    · have hsame : old = current := s.deliveries.eq_of_key_eq hold hmem
        (hid.trans (Table.key_of_find? hcurrent).symm)
      subst hsame
      obtain ⟨hattempts', hmax', hstatus⟩ := ended_spec item old error s.now
      refine ⟨?_, ?_, ?_, ?_⟩
      · rw [hattempts', id_ended, ← hattempts]
        exact hrowOld.attempts
      · rw [hattempts', hmax', ← hattempts]
        exact hrowOld.bounded
      · intro hwaits
        rcases hstatus with h | h | ⟨-, hthrown, hlt⟩
        · simp [h] at hwaits
        · simp [h] at hwaits
        · rw [hattempts', hmax', id_ended, hmax]
          refine ⟨hlt, ?_⟩
          have hnotNone : ¬ error.isNone := by
            rwa [← Option.not_isSome, Bool.not_eq_true', Bool.not_eq_false]
          rw [State.finish, if_neg hnotNone, hid]
          exact fun hdelivered => absurd (herror hthrown hdelivered) (not_le.mpr hlt)
      · intro hprocessing'
        rcases hstatus with h | h | ⟨h, -⟩ <;>
        · rw [h] at hprocessing'
          cases hprocessing'
    · refine ⟨hrowOld.attempts, hrowOld.bounded, fun hwaits => ?_, fun hrunning => ?_⟩
      · obtain ⟨hlt, hnot⟩ := hrowOld.waits hwaits
        refine ⟨hlt, ?_⟩
        rw [State.finish]
        dsimp only
        split_ifs
        · exact List.not_mem_cons_of_ne_of_not_mem hid hnot
        · exact hnot
      · obtain ⟨caller', item', hitem', hid'⟩ := hrowOld.running hrunning
        have hne : caller' ≠ caller := by
          rintro rfl
          rw [hcaller] at hitem'
          cases hitem'
          exact hid hid'.symm
        exact ⟨caller', item', (Function.update_of_ne hne ..).trans hitem', hid'⟩
  · intro caller' item' hitem'
    obtain ⟨hitem', hid⟩ := hother caller' item' hitem'
    obtain ⟨row, hrow, hrest⟩ := h.flight caller' item' hitem'
    exact ⟨row, by rw [find?_finish, if_neg hid, hrow], hrest⟩
  · intro c c' i i' hi hi' hid
    exact h.unique c c' i i' (hother c i hi).1 (hother c' i' hi').1 hid
  · exact h.batch
  · intro id hid
    rw [find?_finish]
    split_ifs with hsame
    · rw [hsame, hcurrent]
      rfl
    · refine h.known id (hid.imp_right fun hdelivered => ?_)
      rw [State.finish] at hdelivered
      dsimp only at hdelivered
      split_ifs at hdelivered
      · exact (List.mem_cons.mp hdelivered).resolve_left hsame
      · exact hdelivered
  · exact h.once

/-! ### Steps -/

/-- A new delivery has all its attempts left. -/
lemma Consistent.enqueue {params : EnqueueParams} {id : String} {deliveries : Deliveries}
    (h : Consistent s) (hinsert : s.deliveries.insert? (enqueued params id s.now) = some deliveries) :
    Consistent { s with deliveries := deliveries } := by
  obtain ⟨hfresh, hrows⟩ := Table.insert?_eq_some_iff.mp hinsert
  have hput : deliveries = s.deliveries.put (enqueued params id s.now) := by
    rw [Table.insert?, if_neg hfresh] at hinsert
    exact (Option.some.inj hinsert).symm
  have hnone : s.deliveries.find? id = none := by
    rw [Table.find?_eq_none_iff]
    intro row hrow hid
    exact hfresh (List.mem_map.mpr ⟨row, hrow, hid⟩)
  have hunknown : ∀ id', id' ∈ s.processed.map (·.deliveryId) ∨ id' ∈ s.deliveredIds → id' ≠ id := by
    rintro id' hid rfl
    have hsome := h.known id' hid
    rw [hnone] at hsome
    cases hsome
  have hfind : ∀ id', deliveries.find? id' =
      if id' = id then some (enqueued params id s.now) else s.deliveries.find? id' := by
    intro id'
    rw [hput, Table.find?_put]
    rfl
  refine ⟨fun row hrow => ?_, fun caller item hitem => ?_, h.unique, h.batch, fun id' hid => ?_,
    h.once⟩
  · rw [hrows, List.mem_append, List.mem_singleton] at hrow
    rcases hrow with hrow | rfl
    · have hold := h.row row hrow
      exact ⟨hold.attempts, hold.bounded, hold.waits, hold.running⟩
    · refine ⟨?_, Nat.zero_le 5, fun _ => ⟨Nat.zero_lt_succ 4, ?_⟩,
        fun hstatus => (by cases hstatus)⟩
      · refine (List.countP_eq_zero.mpr fun p hp hid => ?_).symm
        rw [decide_eq_true_eq] at hid
        exact hunknown p.deliveryId (.inl (List.mem_map_of_mem hp)) hid
      · exact fun hdelivered => hunknown id (.inr hdelivered) rfl
  · obtain ⟨row, hrow, hrest⟩ := h.flight caller item hitem
    refine ⟨row, ?_, hrest⟩
    rw [hfind, if_neg, hrow]
    rintro hid
    rw [hid, hnone] at hrow
    cases hrow
  · rw [hfind, if_neg (hunknown id' hid)]
    exact h.known id' hid

lemma Consistent.setBatch {process : ℕ} {batch : Option (List WebhookDeliveryQueueItem)}
    (h : Consistent s)
    (hbatch : ∀ items ∈ batch, ∀ item ∈ items, item.status = .pending ∨ item.status = .failed) :
    Consistent (s.setBatch process batch) := by
  refine ⟨fun row hrow => ?_, h.flight, h.unique, fun process' items hitems => ?_, h.known, h.once⟩
  · have hold := h.row row hrow
    exact ⟨hold.attempts, hold.bounded, hold.waits, hold.running⟩
  · have hitems' : (if process' = process then batch else s.batches process') = some items :=
      (Function.update_apply ..).symm.trans hitems
    split_ifs at hitems'
    · exact hbatch items hitems'
    · exact h.batch process' items hitems'

lemma status_of_isDue {now : Timestamp} (h : isDue now row) :
    row.status = .pending ∨ row.status = .failed := by
  rw [isDue, Bool.and_eq_true, Bool.or_eq_true, beq_iff_eq, beq_iff_eq] at h
  exact h.1

lemma isDue_of_mem {deliveries : Deliveries} {now : Timestamp} {limit : ℕ}
    (h : row ∈ getDueWebhookRetries deliveries now limit) : isDue now row := by
  have hmem := List.mem_of_mem_take h
  rw [List.mem_mergeSort, List.mem_filter] at hmem
  exact hmem.2

lemma Consistent.crash {process : ℕ} (h : Consistent s)
    (hidle : ∀ caller, caller.process = process → s.processing caller = none) :
    Consistent { s with
      processing := fun caller => if caller.process = process then none else s.processing caller
      batches := Function.update s.batches process none } := by
  have hsame : (fun caller => if caller.process = process then none else s.processing caller) =
      s.processing := by
    funext caller
    split_ifs with hcaller
    · exact (hidle caller hcaller).symm
    · rfl
  rw [hsame]
  exact h.setBatch nofun

/-- A careful step keeps what the queue promises. -/
lemma Consistent.step {action : Action} (h : Consistent s) (hstep : step s action = some t)
    (hcareful : Careful s action t) : Consistent t := by
  cases action with
  | tick ms =>
    cases hstep
    refine ⟨fun row hrow => ?_, h.flight, h.unique, h.batch, h.known, h.once⟩
    have hold := h.row row hrow
    exact ⟨hold.attempts, hold.bounded, hold.waits, hold.running⟩
  | enqueue params id =>
    obtain ⟨deliveries, hinsert, rfl⟩ := Option.map_eq_some_iff.mp hstep
    exact h.enqueue hinsert
  | processDueRetries process =>
    rw [WebhookRetries.step] at hstep
    split at hstep
    · cases hstep
      exact h
    · cases hstep
      apply h.setBatch
      rintro _ ⟨⟩ item hitem
      exact status_of_isDue (isDue_of_mem hitem)
  | next process =>
    rw [WebhookRetries.step] at hstep
    split at hstep
    · next item rest hbatch hfree =>
      cases hstep
      have hcurrent := hcareful item rest hbatch
      have hwaits := h.batch process _ hbatch item List.mem_cons_self
      obtain ⟨hattempts, hnot⟩ := (h.row item (Table.mem_of_find? hcurrent)).waits hwaits
      have hrest : Consistent (s.setBatch process (some rest)) := by
        apply h.setBatch
        rintro _ ⟨⟩ item' hitem'
        exact h.batch process _ hbatch item' (List.mem_cons_of_mem _ hitem')
      refine hrest.start hfree hcurrent ?_ hattempts fun _ _ => hnot
      rcases hwaits with hwaits | hwaits <;> simp [hwaits]
    · cases hstep
      exact h.setBatch nofun
    · cases hstep
  | replayWebhook process call deliveryId tenantId =>
    rw [WebhookRetries.step] at hstep
    split at hstep
    · cases hstep
    · next hfree =>
      split at hstep
      · next item hitem =>
        cases hstep
        rw [Option.filter_eq_some_iff, decide_eq_true_eq] at hitem
        obtain ⟨hstatus, hattempts⟩ := hcareful item hitem.1 hitem.2
        have hid : item.id = deliveryId := Table.key_of_find? hitem.1
        exact h.start hfree (hid ▸ hitem.1) hstatus hattempts nofun
      · cases hstep
        exact h
  | finish caller error =>
    obtain ⟨item, hitem, rfl⟩ := Option.map_eq_some_iff.mp hstep
    exact h.finish hitem (hcareful item hitem)
  | crash process =>
    cases hstep
    exact h.crash hcareful

lemma consistent_initial (now : Timestamp) : Consistent (State.initial now) where
  row row hrow := absurd hrow List.not_mem_nil
  flight _ _ h := by cases h
  unique _ _ _ _ h _ _ := by cases h
  batch _ _ h := by cases h
  known id h := h.elim (absurd · List.not_mem_nil) (absurd · List.not_mem_nil)
  once p hp := absurd hp List.not_mem_nil

/-- A run of careful steps keeps what the queue promises. -/
theorem retriesKept_of_allSteps (now : Timestamp) (as : List Action)
    (hall : AllSteps step Careful (State.initial now) as) (pre rest : List Action) (t : State)
    (has : as = pre ++ rest) (hrun : Run step (State.initial now) pre t) : RetriesKept t := by
  rw [has] at hall
  exact (hrun.invariant_of_allSteps (fun s a t h hstep hcareful => h.step hstep hcareful) hall.left
    (consistent_initial now)).retriesKept

/-! ### One delivery -/

def sampleParams : EnqueueParams where
  tenantId := "tenant_a"
  source := none
  eventId := some "evt_1"
  eventType := "payment.failed"
  payload := "{}"
  headers := none

def sampleItem : WebhookDeliveryQueueItem := enqueued sampleParams "deliv_1" 0

/-- The first due delivery has just been enqueued. -/
def sampleState : State := { State.initial 0 with deliveries := Table.empty.put sampleItem }

lemma getDueWebhookRetries_sample :
    getDueWebhookRetries sampleState.deliveries sampleState.now 20 = [sampleItem] := by
  decide +kernel

/-- The worker of process 0 has found the delivery due and started to process it. -/
def startedState : State :=
  ((sampleState.setBatch 0 (some [sampleItem])).setBatch 0 (some [])).start (.worker 0) sampleItem

lemma run_started : Run step (State.initial 0)
    [.enqueue sampleParams "deliv_1", .processDueRetries 0, .next 0] startedState := by
  have hbatch : step sampleState (.processDueRetries 0) =
      some (sampleState.setBatch 0 (some [sampleItem])) := by
    rw [← getDueWebhookRetries_sample]
    rfl
  exact .cons (t := sampleState) rfl (.cons hbatch (.cons rfl (.nil _)))

/-- So far the queue keeps what it promises. -/
theorem retriesKept_started : RetriesKept startedState := by
  refine retriesKept_of_allSteps 0 _ ?_ _ [] _ (List.append_nil _).symm run_started
  intro t₁ h₁
  cases h₁
  refine ⟨trivial, fun t₂ h₂ => ?_⟩
  cases h₂
  refine ⟨trivial, fun t₃ _ => ⟨?_, trivial⟩⟩
  intro item rest hbatch
  have hdue : item :: rest = [sampleItem] :=
    (Option.some.inj hbatch).symm.trans getDueWebhookRetries_sample
  cases hdue
  rfl

/-- The process has crashed. -/
def crashedState : State where
  now := 0
  deliveries := startedState.deliveries
  processing caller := if caller.process = 0 then none else startedState.processing caller
  batches := Function.update startedState.batches 0 none
  processed := startedState.processed
  deliveredIds := []

lemma processing_crashedState (caller : Caller) : crashedState.processing caller = none := by
  show (if caller.process = 0 then none
    else Function.update (fun _ => none) (.worker 0) (some sampleItem) caller) = none
  split_ifs with hcaller
  · rfl
  · apply Function.update_of_ne
    rintro rfl
    exact hcaller rfl

/-- The worker crashes while it processes the delivery: no retry is ever due, and no processing decides
on the row. -/
theorem crash_strands_delivery :
    Run step (State.initial 0)
        [.enqueue sampleParams "deliv_1", .processDueRetries 0, .next 0, .crash 0] crashedState ∧
      (∃ row ∈ crashedState.deliveries.rows, row.status = .processing ∧
        (∀ ms, isDue (crashedState.now + ms) row = false) ∧ ¬ crashedState.InFlight row.id) ∧
      ¬ RetriesKept crashedState := by
  have hrow : begun sampleItem sampleItem ∈ crashedState.deliveries.rows := List.mem_singleton_self _
  have hdue : ∀ ms, isDue (crashedState.now + ms) (begun sampleItem sampleItem) = false :=
    fun _ => rfl
  have hidle : ¬ crashedState.InFlight "deliv_1" := by
    rintro ⟨caller, item, hitem, -⟩
    rw [processing_crashedState] at hitem
    cases hitem
  refine ⟨run_started.append (.cons rfl (.nil _)), ⟨_, hrow, rfl, hdue, hidle⟩, fun h => ?_⟩
  rcases h.eventually _ hrow nofun nofun with ⟨ms, hms⟩ | hflight
  · rw [hdue] at hms
    cases hms
  · exact hidle hflight

end WebhookRetries

end CtrlRecovery
