import CtrlRecovery.Webhooks.DeliveryRetries

/-!
# Requeueing dead letters

A tenant may requeue all its deliveries that have failed or are dead letters; their attempts are counted
from 0 again. Between careful steps of the queue and requeueings of deliveries that have not been
delivered, a delivery is processed at most `maxAttempts` times for each time it has been queued, the
worker processes none that has been delivered, and none is stranded (`requeuesKept_of_allSteps`).
-/

namespace CtrlRecovery

open Core

namespace WebhookRetries

/-! ### The requeueing -/

def isRequeueable (tenantId : String) (row : WebhookDeliveryQueueItem) : Bool :=
  row.tenantId == tenantId && (row.status == .deadLetter || row.status == .failed)

/-- A row that is requeued. Its `delivered_at` is left as it is. -/
def requeued (now : Timestamp) (row : WebhookDeliveryQueueItem) : WebhookDeliveryQueueItem :=
  { row with
    status := .pending
    attempts := 0
    lastError := some "Manually requeued from Dead Letter Queue"
    nextRetryAt := some now }

/-- The rows afterwards, and how many have been requeued. -/
def requeueDeadLetterWebhooks (deliveries : Deliveries) (tenantId : String) (now : Timestamp) :
    Deliveries × ℕ :=
  (deliveries.updateWhere (isRequeueable tenantId) (requeued now) fun _ => rfl,
    deliveries.rows.countP (isRequeueable tenantId))

/-! ### Runs -/

/-- The queue, in which a delivery counts as processed since it was last requeued; what has been
processed before; and how often each delivery has been requeued. -/
structure History where
  queue : State
  before : List Processed
  requeues : String → ℕ

inductive QueueAction
  | queue (action : Action)
  /-- `POST /v1/webhooks/queue/retry-all`; the iteration of the worker that it starts comes after it. -/
  | retryAll (tenantId : String)

namespace History

def initial (now : Timestamp) : History := ⟨State.initial now, [], fun _ => 0⟩

/-- The deliveries that a requeueing takes. -/
def requeuedIds (h : History) (tenantId : String) : List String :=
  (h.queue.deliveries.rows.filter (isRequeueable tenantId)).map (·.id)

def retryAll (h : History) (tenantId : String) : History where
  queue := { h.queue with
    deliveries := (requeueDeadLetterWebhooks h.queue.deliveries tenantId h.queue.now).1
    processed := h.queue.processed.filter fun p => p.deliveryId ∉ h.requeuedIds tenantId }
  before := h.before ++ h.queue.processed.filter fun p => p.deliveryId ∈ h.requeuedIds tenantId
  requeues id := if id ∈ h.requeuedIds tenantId then h.requeues id + 1 else h.requeues id

/-- How often a delivery has been processed in all. -/
def timesProcessed (h : History) (id : String) : ℕ :=
  (h.before.countP fun p => p.deliveryId = id) + h.queue.timesProcessed id

end History

def queueStep (h : History) : QueueAction → Option History
  | .queue action      => (step h.queue action).map fun queue => { h with queue := queue }
  | .retryAll tenantId => some (h.retryAll tenantId)

/-- Careful steps, and requeueings of what has not been delivered. -/
def CarefulRequeue (h : History) (action : QueueAction) (t : History) : Prop :=
  match action with
  | .queue action      => Careful h.queue action t.queue
  | .retryAll tenantId => ∀ id ∈ h.requeuedIds tenantId, id ∉ h.queue.deliveredIds

/-! ### What is kept -/

/-- No delivery is processed too often for the times that it has been queued, none again by the worker
after it has been delivered, and none is stranded. -/
structure RequeuesKept (h : History) : Prop where
  bounded : ∀ row ∈ h.queue.deliveries.rows,
    h.timesProcessed row.id ≤ row.maxAttempts * (h.requeues row.id + 1)
  once : ∀ p ∈ h.before ++ h.queue.processed, ∀ process, p.caller = .worker process →
    p.wasDelivered = false
  eventually : ∀ row ∈ h.queue.deliveries.rows, row.status ≠ .delivered → row.status ≠ .deadLetter →
    h.queue.EventuallyDue row

/-- The invariant. -/
structure HistoryConsistent (h : History) : Prop where
  consistent : Consistent h.queue
  positive : ∀ row ∈ h.queue.deliveries.rows, 0 < row.maxAttempts
  counted : ∀ row ∈ h.queue.deliveries.rows,
    (h.before.countP fun p => p.deliveryId = row.id) ≤ row.maxAttempts * h.requeues row.id
  known : ∀ p ∈ h.before, ∃ row ∈ h.queue.deliveries.rows, row.id = p.deliveryId
  once : ∀ p ∈ h.before, ∀ process, p.caller = .worker process → p.wasDelivered = false

variable {s t : State} {h h' : History} {row : WebhookDeliveryQueueItem} {tenantId : String}

lemma HistoryConsistent.requeuesKept (hc : HistoryConsistent h) : RequeuesKept h := by
  have hkept := hc.consistent.retriesKept
  refine ⟨fun row hrow => ?_, fun p hp => ?_, hkept.eventually⟩
  · rw [History.timesProcessed, Nat.mul_succ]
    exact Nat.add_le_add (hc.counted row hrow) (hkept.bounded row hrow)
  · exact (List.mem_append.mp hp).elim (hc.once p) (hkept.once p)

/-! ### A step of the queue -/

/-- The rows of the queue stay, with their limits, and a new one has a limit of 5. -/
structure RowsKept (s t : State) : Prop where
  rows : ∀ row ∈ t.deliveries.rows,
    (∃ old ∈ s.deliveries.rows, old.id = row.id ∧ old.maxAttempts = row.maxAttempts) ∨
      (∀ old ∈ s.deliveries.rows, old.id ≠ row.id) ∧ row.maxAttempts = 5
  known : ∀ old ∈ s.deliveries.rows, ∃ row ∈ t.deliveries.rows, row.id = old.id

lemma RowsKept.of_eq (h : t.deliveries = s.deliveries) : RowsKept s t where
  rows row hrow := .inl ⟨row, h ▸ hrow, rfl, rfl⟩
  known old hold := ⟨old, h ▸ hold, rfl⟩

lemma RowsKept.of_update {key : String} {f : WebhookDeliveryQueueItem → WebhookDeliveryQueueItem}
    (hf : ∀ r, (f r).id = r.id) (hmax : ∀ r, (f r).maxAttempts = r.maxAttempts)
    (h : t.deliveries = s.deliveries.update key f hf) : RowsKept s t where
  rows row hrow := by
    rw [h, Table.rows_update] at hrow
    obtain ⟨old, hold, rfl⟩ := List.mem_map.mp hrow
    refine .inl ⟨old, hold, ?_⟩
    split_ifs
    · exact ⟨(hf old).symm, (hmax old).symm⟩
    · exact ⟨rfl, rfl⟩
  known old hold := by
    rw [h, Table.rows_update]
    refine ⟨_, List.mem_map_of_mem hold, ?_⟩
    split_ifs
    · exact hf old
    · rfl

lemma maxAttempts_ended (item : WebhookDeliveryQueueItem) (error : Option String) (now : Timestamp)
    (row : WebhookDeliveryQueueItem) : (ended item error now row).maxAttempts = row.maxAttempts := by
  cases error with
  | none => rfl
  | some message =>
    rw [ended]
    split_ifs <;> rfl

lemma rowsKept_step {action : Action} (hstep : step s action = some t) : RowsKept s t := by
  cases action with
  | tick ms =>
    cases hstep
    exact .of_eq rfl
  | enqueue params id =>
    obtain ⟨deliveries, hinsert, rfl⟩ := Option.map_eq_some_iff.mp hstep
    obtain ⟨hfresh, hrows⟩ := Table.insert?_eq_some_iff.mp hinsert
    refine ⟨fun row hrow => ?_, fun old hold => ⟨old, hrows ▸ List.mem_append_left _ hold, rfl⟩⟩
    rw [hrows, List.mem_append, List.mem_singleton] at hrow
    rcases hrow with hrow | rfl
    · exact .inl ⟨row, hrow, rfl, rfl⟩
    · exact .inr ⟨fun old hold hid => hfresh (List.mem_map.mpr ⟨old, hold, hid⟩), rfl⟩
  | processDueRetries process =>
    rw [step] at hstep
    split at hstep
    · cases hstep
      exact .of_eq rfl
    · cases hstep
      exact .of_eq rfl
  | next process =>
    rw [step] at hstep
    split at hstep
    · next item rest _ _ =>
      cases hstep
      exact .of_update (id_begun item) (fun _ => rfl) rfl
    · cases hstep
      exact .of_eq rfl
    · cases hstep
  | replayWebhook process call deliveryId tenantId =>
    rw [step] at hstep
    split at hstep
    · cases hstep
    · split at hstep
      · next item _ =>
        cases hstep
        exact .of_update (id_begun item) (fun _ => rfl) rfl
      · cases hstep
        exact .of_eq rfl
  | finish caller error =>
    obtain ⟨item, -, rfl⟩ := Option.map_eq_some_iff.mp hstep
    exact .of_update (id_ended item error s.now) (maxAttempts_ended item error s.now) rfl
  | crash process =>
    cases hstep
    exact .of_eq rfl

/-! ### A requeueing -/

lemma mem_requeuedIds (hrow : row ∈ h.queue.deliveries.rows) :
    row.id ∈ h.requeuedIds tenantId ↔ isRequeueable tenantId row = true := by
  rw [History.requeuedIds, List.mem_map]
  constructor
  · rintro ⟨other, hother, hid⟩
    obtain ⟨hmem, hq⟩ := List.mem_filter.mp hother
    rwa [h.queue.deliveries.eq_of_key_eq hmem hrow hid] at hq
  · exact fun hq => ⟨row, List.mem_filter.mpr ⟨hrow, hq⟩, rfl⟩

lemma mem_rows_retryAll_iff : row ∈ (h.retryAll tenantId).queue.deliveries.rows ↔
    ∃ old ∈ h.queue.deliveries.rows,
      (if isRequeueable tenantId old then requeued h.queue.now old else old) = row :=
  List.mem_map

lemma mem_rows_retryAll (hrow : row ∈ (h.retryAll tenantId).queue.deliveries.rows) :
    (∃ old ∈ h.queue.deliveries.rows, isRequeueable tenantId old ∧
      row = requeued h.queue.now old) ∨
      row ∈ h.queue.deliveries.rows ∧ isRequeueable tenantId row = false := by
  obtain ⟨old, hold, heq⟩ := mem_rows_retryAll_iff.mp hrow
  cases hq : isRequeueable tenantId old with
  | true => exact .inl ⟨old, hold, hq, by rw [← heq, if_pos hq]⟩
  | false =>
    have hsame : old = row := by rwa [hq] at heq
    exact .inr (hsame ▸ ⟨hold, hq⟩)

lemma find?_retryAll (id : String) : (h.retryAll tenantId).queue.deliveries.find? id =
    (h.queue.deliveries.find? id).map fun row =>
      if isRequeueable tenantId row then requeued h.queue.now row else row :=
  Table.find?_updateWhere h.queue.deliveries (isRequeueable tenantId) (requeued h.queue.now)
    (fun _ => rfl) id

lemma find?_retryAll_of_not_requeueable {id : String} (hrow : h.queue.deliveries.find? id = some row)
    (hq : isRequeueable tenantId row = false) :
    (h.retryAll tenantId).queue.deliveries.find? id = some row := by
  rw [find?_retryAll, hrow, Option.map_some, hq]
  rfl

lemma timesProcessed_retryAll (id : String) : (h.retryAll tenantId).queue.timesProcessed id =
    if id ∈ h.requeuedIds tenantId then 0 else h.queue.timesProcessed id := by
  rw [State.timesProcessed, History.retryAll, List.countP_filter, State.timesProcessed]
  split_ifs with hid
  · refine List.countP_eq_zero.mpr fun p _ hp => ?_
    simp only [Bool.and_eq_true, decide_eq_true_eq] at hp
    exact hp.2 (hp.1 ▸ hid)
  · refine List.countP_congr fun p _ => ?_
    simp only [Bool.and_eq_true, decide_eq_true_eq]
    exact ⟨And.left, fun hp => ⟨hp, hp ▸ hid⟩⟩

lemma countP_before_retryAll (id : String) :
    ((h.retryAll tenantId).before.countP fun p => p.deliveryId = id) =
      (h.before.countP fun p => p.deliveryId = id) +
        if id ∈ h.requeuedIds tenantId then h.queue.timesProcessed id else 0 := by
  rw [History.retryAll, List.countP_append, List.countP_filter, State.timesProcessed]
  congr 1
  split_ifs with hid
  · refine List.countP_congr fun p _ => ?_
    simp only [Bool.and_eq_true, decide_eq_true_eq]
    exact ⟨And.left, fun hp => ⟨hp, hp ▸ hid⟩⟩
  · refine List.countP_eq_zero.mpr fun p _ hp => ?_
    simp only [Bool.and_eq_true, decide_eq_true_eq] at hp
    exact hid (hp.1 ▸ hp.2)

/-- A requeueing of deliveries that have not been delivered keeps the queue consistent. -/
lemma HistoryConsistent.consistent_retryAll (hc : HistoryConsistent h)
    (hcareful : ∀ id ∈ h.requeuedIds tenantId, id ∉ h.queue.deliveredIds) :
    Consistent (h.retryAll tenantId).queue := by
  have hold := hc.consistent
  refine ⟨fun row hrow => ?_, fun caller item hitem => ?_, hold.unique, hold.batch, fun id hid => ?_,
    fun p hp => hold.once p (List.mem_of_mem_filter hp)⟩
  · rcases mem_rows_retryAll hrow with ⟨old, hmem, hq, rfl⟩ | ⟨hmem, hq⟩
    · have hid : old.id ∈ h.requeuedIds tenantId := (mem_requeuedIds hmem).mpr hq
      refine ⟨?_, Nat.zero_le _, fun _ => ⟨hc.positive old hmem, hcareful old.id hid⟩, nofun⟩
      exact ((timesProcessed_retryAll old.id).trans (if_pos hid)).symm
    · have hid : row.id ∉ h.requeuedIds tenantId := fun hid =>
        absurd ((mem_requeuedIds hmem).mp hid) (by simp [hq])
      have hrowOld := hold.row row hmem
      refine ⟨?_, hrowOld.bounded, hrowOld.waits, hrowOld.running⟩
      rw [timesProcessed_retryAll, if_neg hid]
      exact hrowOld.attempts
  · obtain ⟨row, hrow, hprocessing, hrest⟩ := hold.flight caller item hitem
    have hq : isRequeueable tenantId row = false := by
      simp [isRequeueable, hprocessing]
    exact ⟨row, find?_retryAll_of_not_requeueable hrow hq, hprocessing, hrest⟩
  · have hknown : (h.queue.deliveries.find? id).isSome := hold.known id (hid.imp_left fun hmem => by
      obtain ⟨p, hp, rfl⟩ := List.mem_map.mp hmem
      exact List.mem_map_of_mem (List.mem_of_mem_filter hp))
    obtain ⟨row, hrow⟩ := Option.isSome_iff_exists.mp hknown
    rw [find?_retryAll, hrow]
    rfl

/-! ### Runs -/

lemma HistoryConsistent.retryAll (hc : HistoryConsistent h)
    (hcareful : ∀ id ∈ h.requeuedIds tenantId, id ∉ h.queue.deliveredIds) :
    HistoryConsistent (h.retryAll tenantId) := by
  refine ⟨hc.consistent_retryAll hcareful, fun row hrow => ?_, fun row hrow => ?_, fun p hp => ?_,
    fun p hp => ?_⟩
  · obtain ⟨old, hold, rfl⟩ := mem_rows_retryAll_iff.mp hrow
    split_ifs
    · exact hc.positive old hold
    · exact hc.positive old hold
  · obtain ⟨old, hold, rfl⟩ := mem_rows_retryAll_iff.mp hrow
    have hcounted := hc.counted old hold
    have hbounded : h.queue.timesProcessed old.id ≤ old.maxAttempts :=
      hc.consistent.retriesKept.bounded old hold
    have hgoal : ((h.retryAll tenantId).before.countP fun p => p.deliveryId = old.id) ≤
        old.maxAttempts * (h.retryAll tenantId).requeues old.id := by
      rw [countP_before_retryAll, History.retryAll]
      dsimp only
      split_ifs
      · rw [Nat.mul_succ]
        exact Nat.add_le_add hcounted hbounded
      · exact hcounted
    split_ifs
    · exact hgoal
    · exact hgoal
  · have hknown : ∃ old ∈ h.queue.deliveries.rows, old.id = p.deliveryId := by
      rcases List.mem_append.mp hp with hp | hp
      · exact hc.known p hp
      · have hsome := hc.consistent.known p.deliveryId
          (.inl (List.mem_map_of_mem (List.mem_of_mem_filter hp)))
        obtain ⟨old, hold⟩ := Option.isSome_iff_exists.mp hsome
        exact ⟨old, Table.mem_of_find? hold, Table.key_of_find? hold⟩
    obtain ⟨old, hold, hid⟩ := hknown
    refine ⟨_, mem_rows_retryAll_iff.mpr ⟨old, hold, rfl⟩, ?_⟩
    split_ifs
    · exact hid
    · exact hid
  · rcases List.mem_append.mp hp with hp | hp
    · exact hc.once p hp
    · exact hc.consistent.once p (List.mem_of_mem_filter hp)

lemma HistoryConsistent.queue {queue : State} {action : Action} (hc : HistoryConsistent h)
    (hstep : step h.queue action = some queue) (hcareful : Careful h.queue action queue) :
    HistoryConsistent { h with queue := queue } := by
  have hkept := rowsKept_step hstep
  refine ⟨hc.consistent.step hstep hcareful, fun row hrow => ?_, fun row hrow => ?_, fun p hp => ?_,
    hc.once⟩
  · rcases hkept.rows row hrow with ⟨old, hold, -, hmax⟩ | ⟨-, hmax⟩
    · exact hmax ▸ hc.positive old hold
    · exact hmax ▸ Nat.succ_pos 4
  · rcases hkept.rows row hrow with ⟨old, hold, hid, hmax⟩ | ⟨hfresh, -⟩
    · rw [← hid, ← hmax]
      exact hc.counted old hold
    · -- nothing of a delivery that is new has been processed
      refine le_of_eq_of_le (List.countP_eq_zero.mpr fun p hp hid => ?_) (Nat.zero_le _)
      obtain ⟨old, hold, hknown⟩ := hc.known p hp
      exact hfresh old hold (hknown.trans (of_decide_eq_true hid))
  · obtain ⟨old, hold, hid⟩ := hc.known p hp
    obtain ⟨row, hrow, hsame⟩ := hkept.known old hold
    exact ⟨row, hrow, hsame.trans hid⟩

lemma HistoryConsistent.step {action : QueueAction} (hc : HistoryConsistent h)
    (hstep : queueStep h action = some h') (hcareful : CarefulRequeue h action h') :
    HistoryConsistent h' := by
  cases action with
  | queue action =>
    obtain ⟨queue, hqueue, rfl⟩ := Option.map_eq_some_iff.mp hstep
    exact hc.queue hqueue hcareful
  | retryAll tenantId =>
    cases hstep
    exact hc.retryAll hcareful

lemma historyConsistent_initial (now : Timestamp) : HistoryConsistent (.initial now) where
  consistent := consistent_initial now
  positive _ hrow := absurd hrow List.not_mem_nil
  counted _ hrow := absurd hrow List.not_mem_nil
  known _ hp := absurd hp List.not_mem_nil
  once _ hp := absurd hp List.not_mem_nil

/-- A run of careful steps and careful requeueings keeps what the queue promises. -/
theorem requeuesKept_of_allSteps (now : Timestamp) (as : List QueueAction)
    (hall : AllSteps queueStep CarefulRequeue (.initial now) as)
    (hrun : Run queueStep (.initial now) as h) : RequeuesKept h :=
  (hrun.invariant_of_allSteps (fun _ _ _ hc hstep hcareful => hc.step hstep hcareful) hall
    (historyConsistent_initial now)).requeuesKept

/-- A delivery fails, is requeued and fails again. -/
def failedTwice : List QueueAction :=
  [.queue (.enqueue sampleParams "deliv_1"), .queue (.replayWebhook 0 0 "deliv_1" "tenant_a"),
    .queue (.finish (.replay 0 0) (some "timeout")), .retryAll "tenant_a",
    .queue (.replayWebhook 0 1 "deliv_1" "tenant_a"),
    .queue (.finish (.replay 0 1) (some "timeout"))]

theorem requeuesKept_failedTwice : ∃ h, Run queueStep (.initial 0) failedTwice h ∧
    h.timesProcessed "deliv_1" = 2 ∧ h.requeues "deliv_1" = 1 ∧ RequeuesKept h := by
  obtain ⟨h, hrun, hcounts⟩ : ∃ h, Run queueStep (.initial 0) failedTwice h ∧
      h.timesProcessed "deliv_1" = 2 ∧ h.requeues "deliv_1" = 1 :=
    ⟨_, run_iff_execute.mpr rfl, by decide +kernel, by decide +kernel⟩
  refine ⟨h, hrun, hcounts.1, hcounts.2, requeuesKept_of_allSteps 0 failedTwice ?_ hrun⟩
  -- the replays find the row with attempts left, and nothing has been delivered
  refine fun t₁ h₁ => ⟨trivial, ?_⟩
  cases h₁
  refine fun t₂ h₂ => ⟨?_, ?_⟩
  · rintro row ⟨⟩ -
    exact ⟨nofun, by decide⟩
  cases h₂
  refine fun t₃ h₃ => ⟨fun item _ _ hid => absurd hid List.not_mem_nil, ?_⟩
  cases h₃
  refine fun t₄ h₄ => ⟨fun _ _ => List.not_mem_nil, ?_⟩
  cases h₄
  refine fun t₅ h₅ => ⟨?_, ?_⟩
  · rintro row ⟨⟩ -
    exact ⟨nofun, by decide⟩
  cases h₅
  exact fun t₆ _ => ⟨fun item _ _ hid => absurd hid List.not_mem_nil, trivial⟩

end WebhookRetries

end CtrlRecovery
