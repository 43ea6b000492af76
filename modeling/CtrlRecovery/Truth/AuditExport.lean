import CtrlRecovery.Truth.TamperEvidence
import Mathlib.Tactic.Linarith

/-!
# The audit route

`GET /v1/audit/verify` is the verification that tenants are shown. It follows the links of the
ledger, over all rows or over those of one tenant, and does not compute any hash. So it misses every
altered amount, and it reports a tenant's rows as broken as soon as the chain runs through rows of
another tenant between them. It does what it is for only where there is nothing to verify
(`auditsLedger_iff`).
-/

namespace CtrlRecovery

open Core DoubleEntryLedger

/-- A row of the ledger with the tenant that it is filed under. -/
structure LedgerRow extends StoredEntry where
  tenantId : String
  deriving DecidableEq, Repr

namespace LedgerRow

def key (row : LedgerRow) : String := row.id

def orderKey (row : LedgerRow) : String ×ₗ String := row.toStoredEntry.orderKey

end LedgerRow

/-- The answer of the route; the fields that only one of its two answers has are optional. -/
structure AuditVerification where
  verified : Bool
  isBalanced : Bool
  totalBlocks : ℕ
  totalDebitPaise : Option ℚ
  totalCreditPaise : Option ℚ
  genesisHash : Option String
  rootHash : String
  summary : Option String
  certificateId : Option String
  verifiedAt : Timestamp
  deriving DecidableEq, Repr

namespace AuditExport

/-- What the loop over the rows holds on to. -/
structure AuditLoop where
  isChainValid : Bool
  expectedPrevHash : String
  totalDebitPaise : ℚ
  totalCreditPaise : ℚ

/-- The loop over the rows, which stops at the first broken link. -/
def auditLoop (loop : AuditLoop) : List LedgerRow → AuditLoop
  | []           => loop
  | entry :: rest =>
    let debit := loop.totalDebitPaise + entry.amountPaise
    let credit := loop.totalCreditPaise + entry.amountPaise
    if entry.prevHash ≠ loop.expectedPrevHash then
      { loop with isChainValid := false, totalDebitPaise := debit, totalCreditPaise := credit }
    else
      auditLoop
        { loop with
          expectedPrevHash := entry.entryHash
          totalDebitPaise := debit
          totalCreditPaise := credit } rest

/-- The rows of a scope in the order of the replay: a request without a tenant and the default
tenant see all rows. -/
def scopedRows (tenantId : Option String) (rows : List LedgerRow) : List LedgerRow :=
  ascending LedgerRow.orderKey <|
    match tenantId with
    | none          => rows
    | some tenantId =>
      if tenantId ≠ "" ∧ tenantId ≠ "tenant_system_default" then
        rows.filter fun row => row.tenantId = tenantId
      else rows

/-- `GET /v1/audit/verify`. -/
def verify (sha256 : String → String) (tenantId : Option String) (now : Timestamp)
    (ledger : List LedgerRow) : AuditVerification :=
  let rows := scopedRows tenantId ledger
  match rows.getLast? with
  | none =>
    { verified := true
      isBalanced := true
      totalBlocks := 0
      totalDebitPaise := none
      totalCreditPaise := none
      genesisHash := some GENESIS_HASH
      rootHash := GENESIS_HASH
      summary := some "Ledger is clean at genesis block."
      certificateId := none
      verifiedAt := now }
  | some last =>
    let loop := auditLoop ⟨true, GENESIS_HASH, 0, 0⟩ rows
    let latestRootHash := Js.orElse (some last.entryHash) loop.expectedPrevHash
    { verified := loop.isChainValid
      isBalanced := loop.totalDebitPaise == loop.totalCreditPaise
      totalBlocks := rows.length
      totalDebitPaise := some loop.totalDebitPaise
      totalCreditPaise := some loop.totalCreditPaise
      genesisHash := none
      rootHash := latestRootHash
      summary := none
      certificateId := some ("cert_audit_" ++ toString now ++ "_" ++
        String.ofList ((sha256 latestRootHash).toList.take 8))
      verifiedAt := now }

/-! ### What is reported as verified -/

variable {sha256 : String → String} {tenantId : Option String} {now : Timestamp}
  {rows : List LedgerRow}

lemma auditLoop_isChainValid {loop : AuditLoop} :
    (auditLoop loop rows).isChainValid ↔
      loop.isChainValid ∧
        Linked (fun row : LedgerRow => row.prevHash) (fun row => row.entryHash)
          loop.expectedPrevHash rows := by
  induction rows generalizing loop with
  | nil => simp [auditLoop]
  | cons entry rest ih =>
    rw [auditLoop, linked_cons]
    split_ifs with hprev
    · simp [hprev]
    · rw [ih]
      simp [not_not.mp hprev]

/-- The rows of the scope are linked, whatever their hashes are of. -/
theorem verify_verified_iff :
    (verify sha256 tenantId now rows).verified ↔
      Linked (fun row : LedgerRow => row.prevHash) (fun row => row.entryHash) GENESIS_HASH
        (scopedRows tenantId rows) := by
  rw [verify]
  cases hlast : (scopedRows tenantId rows).getLast? with
  | none =>
    rw [List.getLast?_eq_none_iff.mp hlast]
    simp
  | some last =>
    dsimp only
    rw [auditLoop_isChainValid]
    simp

lemma mem_of_mem_scopedRows {row : LedgerRow} (h : row ∈ scopedRows tenantId rows) : row ∈ rows := by
  unfold scopedRows at h
  rw [mem_ascending] at h
  cases tenantId with
  | none => exact h
  | some tenantId =>
    dsimp only at h
    split_ifs at h
    · exact List.mem_of_mem_filter h
    · exact h

/-- Without collisions, the route verifies a scope of an accepted ledger exactly when its rows are
the first ones of the whole chain. -/
theorem verified_iff_begins_chain (hsha : CollisionFree sha256)
    (hvalid : (verifyLedgerIntegrity sha256 (rows.map (·.toStoredEntry))).valid) :
    (verify sha256 tenantId now rows).verified ↔
      (scopedRows tenantId rows).map (·.toStoredEntry) <+: ordered (rows.map (·.toStoredEntry)) := by
  obtain ⟨hlinked, hhashes⟩ := valid_iff.mp hvalid
  have hmap : Linked (fun row : LedgerRow => row.prevHash) (fun row => row.entryHash) GENESIS_HASH
      (scopedRows tenantId rows) ↔
        Linked StoredEntry.prevHash StoredEntry.entryHash GENESIS_HASH
          ((scopedRows tenantId rows).map (·.toStoredEntry)) := linked_map.symm
  rw [verify_verified_iff, hmap]
  constructor
  · intro hscope
    apply hlinked.prefix_of_subset (hsha.binding hlinked hhashes) hscope
    intro entry hentry
    obtain ⟨row, hrow, rfl⟩ := List.mem_map.mp hentry
    exact mem_ascending.mpr (List.mem_map_of_mem (mem_of_mem_scopedRows hrow))
  · exact hlinked.of_prefix

/-! ### What is missed -/

/-- The row with other columns, if it has this id. -/
def alterRow (id : String) (fields : EntryFields) (row : LedgerRow) : LedgerRow :=
  if row.id = id then
    { row with toStoredEntry := { row.toStoredEntry with toEntryFields := fields } }
  else row

/-- What the route is for, on a ledger that the verifier accepts: the rows of the scope are reported
as verified, but not after the amount, the accounts, the opportunity or the timestamp of one of them
has been altered. -/
structure AuditsLedger (sha256 : String → String) (tenantId : Option String)
    (ledger : Table LedgerRow.key) : Prop where
  verifies : ∀ now, (verify sha256 tenantId now ledger.rows).verified
  notices : ∀ row ∈ scopedRows tenantId ledger.rows, ∀ fields : EntryFields, fields.id = row.id →
    fields.eventType = row.eventType → fields ≠ row.toEntryFields →
      ∀ now, ¬ (verify sha256 tenantId now (ledger.rows.map (alterRow row.id fields))).verified

section Alter

variable {id : String} {fields : EntryFields}

lemma alterRow_tenantId (row : LedgerRow) : (alterRow id fields row).tenantId = row.tenantId := by
  rw [alterRow]
  split_ifs <;> rfl

/-- An alteration that does not move rows changes the rows of a scope in place. -/
lemma scopedRows_map_alterRow (horder : ∀ row ∈ rows,
    (alterRow id fields row).orderKey = row.orderKey) :
    scopedRows tenantId (rows.map (alterRow id fields)) =
      (scopedRows tenantId rows).map (alterRow id fields) := by
  have hascending : ∀ l : List LedgerRow, (∀ row ∈ l, row ∈ rows) →
      ascending LedgerRow.orderKey (l.map (alterRow id fields)) =
        (ascending LedgerRow.orderKey l).map (alterRow id fields) := by
    intro l hl
    rw [ascending, rank_map, ascending]
    congr 1
    apply rank_congr
    intro row hrow
    show OrderDual.toDual _ = OrderDual.toDual _
    rw [horder row (hl row hrow)]
  unfold scopedRows
  cases tenantId with
  | none => exact hascending rows fun _ h => h
  | some tenantId =>
    dsimp only
    split_ifs
    · rw [List.filter_map]
      have htenant : (fun row : LedgerRow => decide (row.tenantId = tenantId)) ∘
          alterRow id fields = fun row => decide (row.tenantId = tenantId) := by
        funext row
        rw [Function.comp_apply, alterRow_tenantId]
      rw [htenant]
      exact hascending _ fun _ h => List.mem_of_mem_filter h
    · exact hascending rows fun _ h => h

/-- Following links does not see an alteration that does not move rows. -/
lemma verified_map_alterRow (horder : ∀ row ∈ rows,
    (alterRow id fields row).orderKey = row.orderKey) :
    (verify sha256 tenantId now (rows.map (alterRow id fields))).verified ↔
      (verify sha256 tenantId now rows).verified := by
  have hprev : (fun row : LedgerRow => row.prevHash) ∘ alterRow id fields =
      fun row => row.prevHash := by
    funext row
    rw [Function.comp_apply, alterRow]
    split_ifs <;> rfl
  have hhash : (fun row : LedgerRow => row.entryHash) ∘ alterRow id fields =
      fun row => row.entryHash := by
    funext row
    rw [Function.comp_apply, alterRow]
    split_ifs <;> rfl
  rw [verify_verified_iff, verify_verified_iff, scopedRows_map_alterRow horder, linked_map, hprev,
    hhash]

/-- A row of the scope whose amount is altered is still reported as verified. -/
lemma AuditsLedger.scopedRows_eq_nil {ledger : Table LedgerRow.key}
    (h : AuditsLedger sha256 tenantId ledger) : scopedRows tenantId ledger.rows = [] := by
  apply List.eq_nil_iff_forall_not_mem.mpr
  intro row hrow
  have hmem : row ∈ ledger.rows := mem_of_mem_scopedRows hrow
  let fields : EntryFields := { row.toEntryFields with amountPaise := row.amountPaise + 1 }
  have hne : fields ≠ row.toEntryFields := by
    intro heq
    have hamount : row.amountPaise + 1 = row.amountPaise := congrArg EntryFields.amountPaise heq
    linarith
  have horder : ∀ r ∈ ledger.rows, (alterRow row.id fields r).orderKey = r.orderKey := by
    intro r hr
    rw [alterRow]
    split_ifs with hid
    · obtain rfl : r = row := ledger.eq_of_key_eq hr hmem hid
      rfl
    · rfl
  exact h.notices row hrow fields rfl rfl hne 0
    ((verified_map_alterRow horder).mpr (h.verifies 0))

end Alter

/-- The route does what it is for exactly where the scope has no rows. -/
theorem auditsLedger_iff (sha256 : String → String) (tenantId : Option String)
    (ledger : Table LedgerRow.key) :
    AuditsLedger sha256 tenantId ledger ↔ scopedRows tenantId ledger.rows = [] := by
  refine ⟨AuditsLedger.scopedRows_eq_nil, fun hempty => ⟨fun now => ?_, fun row hrow => ?_⟩⟩
  · rw [verify_verified_iff, hempty]
    trivial
  · rw [hempty] at hrow
    simp at hrow

/-! ### Two tenants -/

/-- The accepted ledger of two settlements, the second of which is filed under another tenant. -/
def sharedLedger : Table LedgerRow.key :=
  ⟨[⟨firstSettlement, "tenant_a"⟩, ⟨secondSettlement, "tenant_b"⟩], by decide +kernel⟩

/-- The rows of the first tenant are verified, as they begin the chain; those of the second are
not. -/
theorem verified_first_tenant :
    (verify escapedHash (some "tenant_a") 0 sharedLedger.rows).verified ∧
      ¬ (verify escapedHash (some "tenant_b") 0 sharedLedger.rows).verified := by
  have hvalid : (verifyLedgerIntegrity escapedHash
      (sharedLedger.rows.map (·.toStoredEntry))).valid := valid_auditedLedger
  constructor
  · apply (verified_iff_begins_chain collisionFree_escapedHash hvalid).mpr
    change _ <+: ordered auditedLedger.rows
    rw [ordered_auditedLedger]
    exact ⟨[secondSettlement], rfl⟩
  · intro hverified
    have hfirst := (verified_iff_begins_chain collisionFree_escapedHash hvalid).mp hverified
    revert hfirst
    decide +kernel

/-- The verifier accepts the ledger, but the route does not do for its second tenant what it is
for. -/
theorem accepted_but_not_audited :
    ¬ ∀ (sha256 : String → String), CollisionFree sha256 →
      ∀ (tenantId : Option String) (ledger : Table LedgerRow.key),
        (verifyLedgerIntegrity sha256 (ledger.rows.map (·.toStoredEntry))).valid →
          AuditsLedger sha256 tenantId ledger := by
  intro h
  have haudits := h escapedHash collisionFree_escapedHash (some "tenant_b") sharedLedger
    valid_auditedLedger
  have hempty := congrArg List.length haudits.scopedRows_eq_nil
  revert hempty
  decide +kernel

end AuditExport

end CtrlRecovery
