import CtrlRecovery.Core.HashChain
import CtrlRecovery.Core.Table
import CtrlRecovery.Reconciliation.AuthoritativeReconciler
import Mathlib.Data.Prod.Lex
import Mathlib.Data.String.Basic

/-!
# Verifying the settlement ledger

`verifyLedgerIntegrity` replays the rows of the ledger by timestamp and id. It checks that each one
names the hash of the row before it, and that its stored hash is the hash of its columns.

Rows are taken here as the table holds them: a timestamp is a text, and any column may hold any
text. A ledger is accepted exactly when its rows in this order are a hash chain and every stored
hash is right (`valid_iff`).
-/

namespace CtrlRecovery

open Core

/-! ### Rows -/

/-- The columns of a ledger row that its hash covers. -/
structure EntryFields where
  id : String
  opportunityId : String
  eventType : String
  debitAccount : String
  creditAccount : String
  amountPaise : ℚ
  timestamp : String
  deriving DecidableEq, Repr

/-- A row of `double_entry_ledger` as it is stored. -/
structure StoredEntry extends EntryFields where
  prevHash : String
  entryHash : String
  deriving DecidableEq, Repr

/-- The columns of an entry, joined by colons. -/
def EntryFields.text (fields : EntryFields) : String :=
  fields.id ++ ":" ++ fields.opportunityId ++ ":" ++ fields.eventType ++ ":" ++
    fields.debitAccount ++ ":" ++ fields.creditAccount ++ ":" ++
    Js.numberToString fields.amountPaise ++ ":" ++ fields.timestamp

namespace StoredEntry

/-- The primary key. -/
def key (entry : StoredEntry) : String := entry.id

/-- The text that the hash of an entry is taken of. -/
def payload (entry : StoredEntry) : String := entry.prevHash ++ ":" ++ entry.toEntryFields.text

/-- What `ORDER BY timestamp ASC, id ASC` compares. -/
def orderKey (entry : StoredEntry) : String ×ₗ String := toLex (entry.timestamp, entry.id)

/-- An entry whose hash continues the chain. -/
def chained (sha256 : String → String) (prevHash : String) (fields : EntryFields) : StoredEntry where
  toEntryFields := fields
  prevHash := prevHash
  entryHash := sha256 (prevHash ++ ":" ++ fields.text)

end StoredEntry

/-- An entry of the database as it is stored. -/
def DoubleEntryRecord.stored (isoString : Timestamp → String) (entry : DoubleEntryRecord) :
    StoredEntry where
  id := entry.id
  opportunityId := entry.opportunityId
  eventType := entry.eventType
  debitAccount := entry.debitAccount
  creditAccount := entry.creditAccount
  amountPaise := entry.amountPaise
  timestamp := isoString entry.timestamp
  prevHash := entry.prevHash
  entryHash := entry.entryHash

/-! ### Verification -/

structure LedgerIntegrity where
  valid : Bool
  totalEntries : ℕ
  unbrokenChain : Bool
  debitCreditBalanced : Bool
  error : Option String
  deriving DecidableEq, Repr

namespace DoubleEntryLedger

/-- `SELECT * FROM double_entry_ledger ORDER BY timestamp ASC, id ASC`. -/
def ordered (rows : List StoredEntry) : List StoredEntry := ascending StoredEntry.orderKey rows

/-- The hash of the columns of an entry. -/
def computedHash (sha256 : String → String) (entry : StoredEntry) : String := sha256 entry.payload

def accepted (total : ℕ) : LedgerIntegrity where
  valid := true
  totalEntries := total
  unbrokenChain := true
  debitCreditBalanced := true
  error := none

def rejected (total : ℕ) (error : String) : LedgerIntegrity where
  valid := false
  totalEntries := total
  unbrokenChain := false
  debitCreditBalanced := true
  error := some error

/-- The loop of `verifyLedgerIntegrity`, from the entry of index `i` on. -/
def verifyEntries (sha256 : String → String) (total : ℕ) :
    ℕ → String → List StoredEntry → LedgerIntegrity
  | _, _, [] => accepted total
  | i, expectedPrevHash, entry :: rest =>
    if entry.prevHash ≠ expectedPrevHash then
      rejected total ("Hash chain broken at entry #" ++ toString i ++ " (" ++ entry.id ++
        "): expected prev_hash " ++ expectedPrevHash ++ ", got " ++ entry.prevHash)
    else if computedHash sha256 entry ≠ entry.entryHash then
      rejected total ("Hash signature corrupted at entry #" ++ toString i ++ " (" ++ entry.id ++ ")")
    else verifyEntries sha256 total (i + 1) entry.entryHash rest

def verifyLedgerIntegrity (sha256 : String → String) (rows : List StoredEntry) : LedgerIntegrity :=
  let entries := ordered rows
  if entries.length = 0 then accepted 0
  else verifyEntries sha256 entries.length 0 GENESIS_HASH entries

/-! ### What is accepted -/

variable {sha256 : String → String} {rows : List StoredEntry}

lemma verifyEntries_valid_iff {total i : ℕ} {expected : String} {entries : List StoredEntry} :
    (verifyEntries sha256 total i expected entries).valid ↔
      Linked StoredEntry.prevHash StoredEntry.entryHash expected entries ∧
        ∀ e ∈ entries, computedHash sha256 e = e.entryHash := by
  induction entries generalizing i expected with
  | nil => simp [verifyEntries, accepted]
  | cons entry rest ih =>
    rw [verifyEntries, linked_cons, List.forall_mem_cons]
    by_cases hprev : entry.prevHash = expected
    · by_cases hhash : computedHash sha256 entry = entry.entryHash
      · rw [if_neg (not_not.mpr hprev), if_neg (not_not.mpr hhash), ih]
        simp [hprev, hhash]
      · rw [if_neg (not_not.mpr hprev), if_pos hhash]
        simp [rejected, hhash]
    · rw [if_pos hprev]
      simp [rejected, hprev]

/-- An accepted ledger is a hash chain with the right hashes. -/
theorem valid_iff :
    (verifyLedgerIntegrity sha256 rows).valid ↔
      Linked StoredEntry.prevHash StoredEntry.entryHash GENESIS_HASH (ordered rows) ∧
        ∀ e ∈ rows, computedHash sha256 e = e.entryHash := by
  have hmem : (∀ e ∈ ordered rows, computedHash sha256 e = e.entryHash) ↔
      ∀ e ∈ rows, computedHash sha256 e = e.entryHash :=
    forall_congr' fun e => by rw [ordered, mem_ascending]
  rw [verifyLedgerIntegrity, ← hmem]
  split_ifs with hempty
  · rw [List.length_eq_zero_iff] at hempty
    simp [hempty, accepted]
  · exact verifyEntries_valid_iff

/-- A rejection names the entry that it is about, an acceptance names no error. -/
lemma valid_iff_error_eq_none :
    (verifyLedgerIntegrity sha256 rows).valid ↔ (verifyLedgerIntegrity sha256 rows).error = none := by
  have hloop : ∀ (total i : ℕ) (expected : String) (entries : List StoredEntry),
      (verifyEntries sha256 total i expected entries).valid ↔
        (verifyEntries sha256 total i expected entries).error = none := by
    intro total i expected entries
    induction entries generalizing i expected with
    | nil => simp [verifyEntries, accepted]
    | cons entry rest ih =>
      rw [verifyEntries]
      split_ifs
      · simp [rejected]
      · simp [rejected]
      · exact ih _ _
  rw [verifyLedgerIntegrity]
  split_ifs
  · simp [accepted]
  · exact hloop ..

/-! ### A hash without collisions -/

/-- The hash function never collides: different texts have different digests, a digest is text
without a colon, and no digest is the value that a chain starts from. -/
structure CollisionFree (sha256 : String → String) : Prop where
  injective : Function.Injective sha256
  no_colon : ∀ text, ':' ∉ (sha256 text).toList
  ne_genesis : ∀ text, sha256 text ≠ GENESIS_HASH

/-- A text that is joined with a colon from a part without one determines its parts. -/
lemma append_colon_inj {a b c d : String} (ha : ':' ∉ a.toList) (hc : ':' ∉ c.toList)
    (h : a ++ ":" ++ b = c ++ ":" ++ d) : a = c ∧ b = d := by
  have hlist : a.toList ++ ':' :: b.toList = c.toList ++ ':' :: d.toList := by
    simpa using congrArg String.toList h
  have hlength : a.toList.length = c.toList.length := by
    have hidx := congrArg (List.idxOf ':') hlist
    rwa [List.idxOf_append_of_notMem ha, List.idxOf_append_of_notMem hc, List.idxOf_cons_self,
      List.idxOf_cons_self] at hidx
  obtain ⟨hac, hbd⟩ := List.append_inj hlist hlength
  exact ⟨String.toList_inj.mp hac, String.toList_inj.mp (List.cons.inj hbd).2⟩

/-- The chain of an accepted ledger binds its entries. -/
lemma CollisionFree.binding (h : CollisionFree sha256)
    (hlinked : Linked StoredEntry.prevHash StoredEntry.entryHash GENESIS_HASH (ordered rows))
    (hhash : ∀ e ∈ rows, computedHash sha256 e = e.entryHash) :
    Binding StoredEntry.prevHash StoredEntry.entryHash GENESIS_HASH (ordered rows) := by
  have hdigest : ∀ e ∈ ordered rows, e.entryHash = sha256 e.payload := by
    intro e he
    rw [ordered, mem_ascending] at he
    exact (hhash e he).symm
  have hcolon : ∀ e ∈ ordered rows, ':' ∉ e.prevHash.toList := by
    intro e he
    rcases hlinked.prev_mem he with hprev | ⟨x, hx, hprev⟩
    · rw [hprev]
      decide
    · rw [hprev, hdigest x hx]
      exact h.no_colon x.payload
  constructor
  · intro e he x hx heq
    rw [hdigest e he, hdigest x hx] at heq
    exact (append_colon_inj (hcolon e he) (hcolon x hx) (h.injective heq)).1
  · intro e he
    rw [hdigest e he]
    exact h.ne_genesis e.payload

end DoubleEntryLedger

end CtrlRecovery
