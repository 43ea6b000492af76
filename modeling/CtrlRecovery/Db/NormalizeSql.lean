import CtrlRecovery.Core.Table
import CtrlRecovery.Db.Placeholders

/-!
# One statement for two engines

`normalizeSql` rewrites the text of a statement before an engine runs it. On PostgreSQL an
`INSERT OR IGNORE` gets the clause `ON CONFLICT DO NOTHING`, and an `INSERT OR REPLACE` gets a clause
if its text names `auth_otps` or `tenants`. That of `tenants` updates two columns.

The engines are compared by what they read of their texts: the tokens with the placeholders bound and
with the primary keys that number their rows, which each engine writes in its own words, and what an
`INSERT` does to the row of the same primary key. The effects are the same exactly when no other part of
the text matches one of the patterns, the placeholders bind alike and the clause does what the statement
says (`runsAlike_statement_iff`).
-/

namespace CtrlRecovery

open Core SqlText

namespace DatabaseAdapter

inductive Engine | postgreSQL | sqlite
  deriving DecidableEq, Repr

/-! ### normalizeSql -/

def autoincrement : Pattern Char := phrase ["INTEGER", "PRIMARY", "KEY", "AUTOINCREMENT"] (by decide)

def insertOrIgnore : Pattern Char := phrase ["INSERT", "OR", "IGNORE", "INTO"] (by decide)

def insertOrReplace : Pattern Char := phrase ["INSERT", "OR", "REPLACE", "INTO"] (by decide)

def onConflict : Pattern Char := phrase ["ON", "CONFLICT"] (by decide)

def authOtps : Pattern Char := phrase ["AUTH_OTPS"] (by decide)

def tenants : Pattern Char := phrase ["TENANTS"] (by decide)

/-- `/PRAGMA\s+[^;]+;?/i`. -/
def pragma : Pattern Char where
  rest? sql :=
    match matchWord "PRAGMA".toList sql with
    | some (space :: c :: rest) =>
      if Js.isWhitespace space ∧ c ≠ ';' then some (rest.dropWhile (· ≠ ';')).tail else none
    | _                         => none
  shorter := by
    intro sql rest h
    split at h
    · rename_i space c rest' hword
      split_ifs at h
      cases h
      obtain ⟨hsuffix, hlength⟩ := matchWord_shorter hword
      have hrest := (List.tail_suffix (rest'.dropWhile (· ≠ ';'))).trans (List.dropWhile_suffix _)
      refine ⟨(hrest.trans ((List.suffix_cons c _).trans (List.suffix_cons space _))).trans hsuffix, ?_⟩
      have hle := hrest.length_le
      simp only [List.length_cons] at hlength
      omega
    · cases h

/-- `sql.trim().replace(/;?$/, clause)`. -/
def withClause (clause : String) (sql : List Char) : List Char :=
  let sql := (Js.trim (String.ofList sql)).toList
  (if sql.getLast? = some ';' then sql.dropLast else sql) ++ clause.toList

def doNothing : String := " ON CONFLICT DO NOTHING;"

def updateOtp : String :=
  " ON CONFLICT (email) DO UPDATE SET otp = EXCLUDED.otp, expires_at = EXCLUDED.expires_at, " ++
    "created_at = EXCLUDED.created_at;"

def updateTenant : String :=
  " ON CONFLICT (id) DO UPDATE SET status = EXCLUDED.status, " ++
    "capacity_limit = EXCLUDED.capacity_limit;"

def normalizeIgnore (pgSql : List Char) : List Char :=
  if insertOrIgnore.test pgSql then
    let pgSql := insertOrIgnore.replaceAll "INSERT INTO".toList pgSql
    if onConflict.test pgSql then pgSql else withClause doNothing pgSql
  else pgSql

def normalizeReplace (pgSql : List Char) : List Char :=
  if insertOrReplace.test pgSql then
    let pgSql := insertOrReplace.replaceAll "INSERT INTO".toList pgSql
    if onConflict.test pgSql then pgSql
    else if authOtps.test pgSql then withClause updateOtp pgSql
    else if tenants.test pgSql then withClause updateTenant pgSql
    else pgSql
  else pgSql

def normalizeSql (engine : Engine) (sql : List Char) : List Char :=
  match engine with
  | .postgreSQL =>
    let pgSql := pragma.replaceAll []
      (autoincrement.replaceAll "BIGSERIAL PRIMARY KEY".toList sql)
    numberFrom 1 (normalizeReplace (normalizeIgnore pgSql))
  | .sqlite     => markNumbers sql

/-! ### What an engine reads -/

inductive InsertOr | ignore | replace
  deriving DecidableEq, Repr

def InsertOr.word : InsertOr → List Char
  | .ignore  => "IGNORE".toList
  | .replace => "REPLACE".toList

/-- Keywords and names are read in capital letters. -/
def fold : Token → Token
  | .word text => .word (text.map Char.toUpper)
  | t          => t

/-- How an engine writes a primary key that numbers its rows. -/
def numberedKey : Engine → List Token
  | .postgreSQL => ["BIGSERIAL", "PRIMARY", "KEY"].map fun text => .word text.toList
  | .sqlite     => ["INTEGER", "PRIMARY", "KEY", "AUTOINCREMENT"].map fun text => .word text.toList

/-- What both read of such a key: one word, which stands in no text as there are spaces in it. -/
def keyMark : Token := .word "BIGSERIAL PRIMARY KEY".toList

def markKeys (engine : Engine) (tokens : List Token) : List Token :=
  replaceRun (numberedKey engine) [keyMark] 0 tokens

/-- The `OR` of an `INSERT`. -/
def insertOr? : List Token → Option InsertOr
  | .word a :: .word b :: .word c :: .word d :: _ =>
    if a = "INSERT".toList ∧ b = "OR".toList ∧ d = "INTO".toList then
      if c = InsertOr.ignore.word then some .ignore
      else if c = InsertOr.replace.word then some .replace
      else none
    else none
  | _ => none

def insertInto : List Token := [.word "INSERT".toList, .word "INTO".toList]

def isOnConflict : List Token → Bool
  | .word a :: .word b :: _ => a = "ON".toList ∧ b = "CONFLICT".toList
  | _                       => false

/-- The statement, and the conflict clause at its end. -/
def splitClause : List Token → List Token × List Token
  | []      => ([], [])
  | t :: ts =>
    if isOnConflict (t :: ts) then ([], t :: ts)
    else (t :: (splitClause ts).1, (splitClause ts).2)

structure Reading where
  insertOr : Option InsertOr
  body : List Token
  clause : List Token
  deriving DecidableEq, Repr

/-- The statement without its `OR`. -/
def dropOr (tokens : List Token) : List Token :=
  if (insertOr? tokens).isSome then insertInto ++ tokens.drop 4 else tokens

def Reading.of (tokens : List Token) : Reading where
  insertOr := insertOr? tokens
  body := (splitClause (dropOr tokens)).1
  clause := (splitClause (dropOr tokens)).2

def dropTerminator (tokens : List Token) : List Token :=
  if tokens.getLast? = some (.symbol ';') then tokens.dropLast else tokens

def bind : Engine → List Token → Option (List Token)
  | .postgreSQL, tokens => bindPg tokens
  | .sqlite, tokens     => bindSqlite 1 tokens

/-- What an engine reads; PostgreSQL has no `INSERT OR`. -/
def read (engine : Engine) (sql : List Char) : Option Reading := do
  let tokens ← lex sql
  let tokens ← bind engine tokens
  let reading := Reading.of (markKeys engine (dropTerminator (tokens.map fold)))
  if engine = .postgreSQL ∧ reading.insertOr.isSome then none else some reading

/-! ### What an `INSERT` does to the row of the same key -/

/-- A table as both engines have it, with its names in capital letters. -/
structure TableDef where
  columns : List String
  primaryKey : List String
  key_subset : primaryKey ⊆ columns

abbrev Row (t : TableDef) : Type := {c // c ∈ t.columns} → String

def Row.key {t : TableDef} (row : Row t) : List String :=
  t.primaryKey.attach.map fun c => row ⟨c.1, t.key_subset c.2⟩

inductive Resolution
  | fail
  | keep
  | replace
  /-- The columns that get the values of the new row. -/
  | update (columns : List String)
  deriving DecidableEq, Repr

/-- The row that the old row becomes. -/
def Resolution.resolve {t : TableDef} (old new : Row t) : Resolution → Option (Row t)
  | .fail           => none
  | .keep           => some old
  | .replace        => some new
  | .update columns =>
    if columns ⊆ t.columns then some fun c => if c.1 ∈ columns then new c else old c else none

/-- Insert a row; `none` when the statement fails. -/
def insertRow {t : TableDef} (resolution : Resolution) (table : Table (Row.key (t := t)))
    (new : Row t) : Option (Table (Row.key (t := t))) :=
  match table.find? new.key with
  | none     => some (table.put new)
  | some old => (resolution.resolve old new).map table.put

def InsertOr.resolution : InsertOr → Resolution
  | .ignore  => .keep
  | .replace => .replace

def names (tokens : List Token) : List String :=
  tokens.filterMap fun
    | .word text => some (String.ofList text)
    | _          => none

/-- The conflict target, and what stands after it. -/
def splitTarget : List Token → Option (List String) × List Token
  | .symbol '(' :: ts =>
    (some (names (ts.takeWhile (· ≠ .symbol ')'))), (ts.dropWhile (· ≠ .symbol ')')).tail)
  | ts                => (none, ts)

/-- The clause is for conflicts of the primary key, or for all. -/
def HandlesKey (t : TableDef) (clause : List Token) : Prop :=
  ∀ target ∈ (splitTarget (clause.drop 2)).1, target ⊆ t.primaryKey ∧ t.primaryKey ⊆ target

instance (t : TableDef) (clause : List Token) : Decidable (HandlesKey t clause) := by
  unfold HandlesKey
  infer_instance

/-- The columns of `c = EXCLUDED.c, …`. -/
def excludedColumns : List Token → Option (List String)
  | [.word c, .symbol '=', .word e, .symbol '.', .word c'] =>
    if e = "EXCLUDED".toList ∧ c = c' then some [String.ofList c] else none
  | .word c :: .symbol '=' :: .word e :: .symbol '.' :: .word c' :: .symbol ',' :: ts =>
    if e = "EXCLUDED".toList ∧ c = c' then (excludedColumns ts).map (String.ofList c :: ·) else none
  | _ => none

def action? : List Token → Option Resolution
  | [.word a, .word b]                 =>
    if a = "DO".toList ∧ b = "NOTHING".toList then some .keep else none
  | .word a :: .word b :: .word c :: ts =>
    if a = "DO".toList ∧ b = "UPDATE".toList ∧ c = "SET".toList then
      (excludedColumns ts).map .update
    else none
  | _                                  => none

/-- What a conflict clause does to the row of the same primary key. -/
def clauseResolution (t : TableDef) (clause : List Token) : Option Resolution :=
  if clause = [] then some .fail
  else if HandlesKey t clause then action? (splitTarget (clause.drop 2)).2
  else some .fail

/-! ### The same effect -/

/-- Two readings of a statement on a table have the same effect: they have the same body, and the
same clause, or a clause that does to every table what the `OR` of the other says. -/
def SameEffect (t : TableDef) (sqlite pg : Reading) : Prop :=
  pg.body = sqlite.body ∧
    match sqlite.insertOr with
    | none    => pg.clause = sqlite.clause
    | some or =>
      if sqlite.clause = [] then
        ∃ resolution, clauseResolution t pg.clause = some resolution ∧
          ∀ (table : Table (Row.key (t := t))) (new : Row t),
            insertRow resolution table new = insertRow or.resolution table new
      else pg.clause = sqlite.clause ∧ HandlesKey t sqlite.clause

/-- A statement is made of words, literals, placeholders and symbols, and may end in `;`. -/
structure Statement where
  pieces : List Piece
  /-- The white space before `;`. -/
  terminator : Option (List Char)
  trail : List Char
  valid : ∀ p ∈ pieces, p.Valid ∧ p.token ≠ .symbol ';'
  separated : Separated pieces
  terminator_spaces : ∀ gap ∈ terminator, ∀ c ∈ gap, isSpace c = true
  trail_spaces : ∀ c ∈ trail, isSpace c = true

namespace Statement

variable (st : Statement)

def ending : List Piece := st.terminator.toList.map fun gap => ⟨gap, .symbol ';'⟩

def text : List Char := spell (st.pieces ++ st.ending) ++ st.trail

def tokens : List Token := st.pieces.map Piece.token

def insertOr : Option InsertOr := insertOr? (st.tokens.map fold)

/-- The pieces without the `OR` of an `INSERT`. -/
def insertPieces : List Piece :=
  match st.insertOr, st.pieces with
  | some _, p :: ps =>
    ⟨p.gap, .word "INSERT".toList⟩ :: ⟨[' '], .word "INTO".toList⟩ :: ps.drop 3
  | _, pieces       => pieces

def insertText : List Char := spell (st.insertPieces ++ st.ending) ++ st.trail

end Statement

/-- Both engines read their texts of the statement, with the same effect. -/
def RunsAlike (t : TableDef) (st : Statement) : Prop :=
  ∃ sqlite pg, read .sqlite (normalizeSql .sqlite st.text) = some sqlite ∧
    read .postgreSQL (normalizeSql .postgreSQL st.text) = some pg ∧ SameEffect t sqlite pg

/-- A pattern of the rewriting matches somewhere else than at the `INSERT OR` of the statement. -/
def Touched (st : Statement) : Prop :=
  autoincrement.test st.text = true ∨ pragma.test st.text = true ∨
    insertOrIgnore.test (if st.insertOr = some .ignore then st.insertText else st.text) = true ∨
    insertOrReplace.test st.insertText = true

instance (st : Statement) : Decidable (Touched st) := by
  unfold Touched
  infer_instance

end DatabaseAdapter

end CtrlRecovery
