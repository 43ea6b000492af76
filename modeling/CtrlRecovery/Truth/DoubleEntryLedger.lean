import CtrlRecovery.Db.Database
import CtrlRecovery.Js

/-!
# The settlement ledger

Settlements are entries of a hash chain: an entry holds the hash of the entry before it, and its own
hash covers that hash and its other columns. The hash function is a parameter.
-/

namespace CtrlRecovery

open Core

namespace DoubleEntryLedger

/-- The previous hash of the first entry: 64 zeros. -/
def GENESIS_HASH : String := String.ofList (List.replicate 64 '0')

/-- The event type of a settlement. -/
def PAYMENT_RECOVERED : String := "PAYMENT_RECOVERED"

/-- The hash of an entry; `isoString` prints its timestamp. -/
def computeHash (sha256 : String → String) (isoString : Timestamp → String)
    (prevHash id opportunityId eventType debitAccount creditAccount : String) (amountPaise : ℚ)
    (timestamp : Timestamp) : String :=
  sha256 (prevHash ++ ":" ++ id ++ ":" ++ opportunityId ++ ":" ++ eventType ++ ":" ++
    debitAccount ++ ":" ++ creditAccount ++ ":" ++ Js.numberToString amountPaise ++ ":" ++
    isoString timestamp)

/-- Whether `e` comes before `e'` in `ORDER BY timestamp DESC, id DESC`. -/
def later (e e' : DoubleEntryRecord) : Bool :=
  e'.timestamp < e.timestamp || (e.timestamp == e'.timestamp && e'.id < e.id)

/-- The first entry in `ORDER BY timestamp DESC, id DESC`. -/
def latest (entries : List DoubleEntryRecord) : Option DoubleEntryRecord :=
  entries.foldl
    (fun best e => match best with
      | none   => some e
      | some b => if later e b then some e else some b)
    none

/-- The hash that the next entry continues from. -/
def prevHash (entries : List DoubleEntryRecord) : String :=
  Js.orElse ((latest entries).map (·.entryHash)) GENESIS_HASH

/-! ### Settlements of an opportunity -/

/-- The settlement entries of an opportunity. -/
def settlements (db : Db) (id : String) : List DoubleEntryRecord :=
  db.doubleEntryLedger.rows.filter fun e =>
    e.opportunityId = id ∧ e.eventType = PAYMENT_RECOVERED

/-- The sum of the settlement entries of an opportunity. -/
def settledTotal (db : Db) (id : String) : ℚ := ((settlements db id).map (·.amountPaise)).sum

end DoubleEntryLedger

end CtrlRecovery
