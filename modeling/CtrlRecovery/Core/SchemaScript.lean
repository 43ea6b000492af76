import CtrlRecovery.Core.Table
import Mathlib.Data.List.Basic

/-!
# Schema scripts

A schema is the tables of a database with their columns. A script creates tables, adds columns and
uses columns, in one transaction; some of its statements are tried, so that their failures are
caught. On a strict engine a statement that fails takes the rest of the transaction with it, caught
or not, and a table that others refer to has to exist. On a lenient engine a failed statement has no
effect, and nothing else.

What a script does to a schema does not depend on the engine (`effects`), but whether it commits does:
on a strict engine every statement has to run (`commit_strict_iff`), on a lenient one those that are
not tried (`commit_lenient_iff`). For scripts in which nothing is used or added before it is created
the effect can be read off the statements (`present_effects`, `has_effects`), and so can whether the
statements run.
-/

namespace Core

structure TableInfo (ν κ : Type*) where
  name : ν
  columns : List κ
  /-- The tables that its foreign keys refer to. -/
  references : List ν
  deriving DecidableEq, Repr

namespace TableInfo

variable {ν κ : Type*} [DecidableEq κ] {column c : κ} {info : TableInfo ν κ}

def withColumn (column : κ) (info : TableInfo ν κ) : TableInfo ν κ :=
  if column ∈ info.columns then info else { info with columns := info.columns ++ [column] }

lemma name_withColumn (column : κ) (info : TableInfo ν κ) :
    (withColumn column info).name = info.name := by
  rw [withColumn]
  split_ifs <;> rfl

lemma mem_columns_withColumn :
    c ∈ (withColumn column info).columns ↔ c ∈ info.columns ∨ c = column := by
  rw [withColumn]
  split_ifs with h
  · refine ⟨.inl, ?_⟩
    rintro (hc | rfl)
    · exact hc
    · exact h
  · simp

end TableInfo

abbrev Schema (ν κ : Type*) := Table (TableInfo.name : TableInfo ν κ → ν)

namespace Schema

variable {ν κ : Type*} [DecidableEq ν] [DecidableEq κ]

def Present (s : Schema ν κ) (table : ν) : Prop := (s.find? table).isSome

instance (s : Schema ν κ) (table : ν) : Decidable (s.Present table) :=
  inferInstanceAs (Decidable (_ = true))

def Has (s : Schema ν κ) (table : ν) (column : κ) : Prop :=
  ∃ info ∈ s.find? table, column ∈ info.columns

instance (s : Schema ν κ) (table : ν) (column : κ) : Decidable (s.Has table column) :=
  decidable_of_iff ((s.find? table).any fun info => column ∈ info.columns) <| by
    simp [Has, Option.any_eq_true]

omit [DecidableEq κ] in
lemma Has.present {s : Schema ν κ} {table : ν} {column : κ} (h : s.Has table column) :
    s.Present table := by
  obtain ⟨info, hinfo, -⟩ := h
  exact Option.isSome_iff_exists.mpr ⟨info, hinfo⟩

/-! ### Statements -/

inductive Statement (ν κ : Type*)
  /-- `CREATE TABLE IF NOT EXISTS`. -/
  | createTable (info : TableInfo ν κ)
  | addColumn (table : ν) (column : κ)
  /-- A statement that only works on these columns, as `CREATE INDEX` or `INSERT`. -/
  | use (table : ν) (columns : List κ)
  deriving DecidableEq, Repr

def Statement.table : Statement ν κ → ν
  | .createTable info   => info.name
  | .addColumn table _  => table
  | .use table _        => table

def Statement.isUse : Statement ν κ → Bool
  | .use _ _ => true
  | _        => false

/-- Whether a statement succeeds on a schema. -/
def Runs (strict : Bool) (s : Schema ν κ) : Statement ν κ → Prop
  | .createTable info       =>
    s.Present info.name ∨ (strict → ∀ table ∈ info.references, table = info.name ∨ s.Present table)
  | .addColumn table column => s.Present table ∧ ¬ s.Has table column
  | .use table columns      => s.Present table ∧ ∀ column ∈ columns, s.Has table column

instance (strict : Bool) (s : Schema ν κ) : DecidablePred (Runs strict s)
  | .createTable _ => inferInstanceAs (Decidable (_ ∨ _))
  | .addColumn _ _ => inferInstanceAs (Decidable (_ ∧ _))
  | .use _ _       => inferInstanceAs (Decidable (_ ∧ _))

/-- What a statement makes of a schema, if it succeeds; nothing, if it does not. -/
def effect (s : Schema ν κ) : Statement ν κ → Schema ν κ
  | .createTable info       => if s.Present info.name then s else s.put info
  | .addColumn table column =>
    s.update table (TableInfo.withColumn column) (TableInfo.name_withColumn column)
  | .use _ _                => s

def effects (s : Schema ν κ) (stmts : List (Statement ν κ)) : Schema ν κ := stmts.foldl effect s

@[simp] lemma effects_nil (s : Schema ν κ) : s.effects [] = s := rfl

@[simp] lemma effects_cons (s : Schema ν κ) (stmt : Statement ν κ) (stmts : List (Statement ν κ)) :
    s.effects (stmt :: stmts) = (s.effect stmt).effects stmts := rfl

lemma effects_append (s : Schema ν κ) (stmts stmts' : List (Statement ν κ)) :
    s.effects (stmts ++ stmts') = (s.effects stmts).effects stmts' := List.foldl_append

/-! ### What one statement does -/

section Effect

variable {s : Schema ν κ} {stmt : Statement ν κ} {table t : ν} {column c : κ}
  {info : TableInfo ν κ}

omit [DecidableEq κ] in
lemma present_put : Present (s.put info) t ↔ t = info.name ∨ s.Present t := by
  rw [Present, Table.find?_put]
  split_ifs with h
  · simp [h]
  · simp [h, Present]

omit [DecidableEq κ] in
lemma has_put : Has (s.put info) t c ↔
    (t = info.name ∧ c ∈ info.columns) ∨ (t ≠ info.name ∧ s.Has t c) := by
  simp only [Has, Table.find?_put]
  split_ifs with h
  · simp [h]
  · simp [h]

lemma present_effect : (s.effect stmt).Present t ↔
    s.Present t ∨ ∃ info, stmt = .createTable info ∧ info.name = t := by
  cases stmt with
  | createTable info =>
    rw [effect]
    split_ifs with h
    · refine ⟨.inl, ?_⟩
      rintro (ht | ⟨info', heq, rfl⟩)
      · exact ht
      · cases heq
        exact h
    · rw [present_put, or_comm]
      simp [eq_comm]
  | addColumn table column =>
    rw [effect, Present, Table.find?_update]
    split_ifs <;> simp [Present]
  | use table columns => simp [effect]

/-- A created table has its columns, and an added column is there afterwards. -/
lemma has_effect : (s.effect stmt).Has t c ↔ s.Has t c ∨ (s.Present t ∧ stmt = .addColumn t c) ∨
    (¬ s.Present t ∧ ∃ info, stmt = .createTable info ∧ info.name = t ∧ c ∈ info.columns) := by
  cases stmt with
  | createTable info =>
    rw [effect]
    split_ifs with h
    · refine ⟨.inl, ?_⟩
      rintro (ht | ⟨-, heq⟩ | ⟨hnot, info', heq, rfl, -⟩)
      · exact ht
      · cases heq
      · cases heq
        exact absurd h hnot
    · rw [has_put]
      by_cases ht : t = info.name
      · subst ht
        have hnone : ¬ s.Has info.name c := fun hhas => h hhas.present
        simp [h, hnone]
      · simp [ht, Ne.symm ht]
  | addColumn table column =>
    rw [effect]
    simp only [Has, Table.find?_update]
    split_ifs with ht
    · subst ht
      cases hfind : s.find? t with
      | none => simp [Present, hfind]
      | some info => simp [Present, hfind, TableInfo.mem_columns_withColumn, eq_comm]
    · simp [Ne.symm ht]
  | use table columns => simp [effect]

end Effect

/-! ### Transactions -/

/-- A step of a script: a statement, or statements of which one that fails ends the attempt. -/
inductive Step (ν κ : Type*)
  | run (stmt : Statement ν κ)
  | attempt (stmts : List (Statement ν κ))
  deriving DecidableEq, Repr

def Step.statements : Step ν κ → List (Statement ν κ)
  | .run stmt      => [stmt]
  | .attempt stmts => stmts

def statements (script : List (Step ν κ)) : List (Statement ν κ) := script.flatMap Step.statements

/-- A transaction that is open; once aborted it rejects every statement. -/
structure Tx (ν κ : Type*) where
  schema : Schema ν κ
  aborted : Bool

def Tx.execute (strict : Bool) (tx : Tx ν κ) (stmt : Statement ν κ) : Option (Tx ν κ) :=
  if !tx.aborted ∧ Runs strict tx.schema stmt then some { tx with schema := tx.schema.effect stmt }
  else none

/-- Statements up to the first one that fails, whose failure is caught. -/
def Tx.attempt (strict : Bool) : Tx ν κ → List (Statement ν κ) → Tx ν κ
  | tx, []            => tx
  | tx, stmt :: stmts =>
    match tx.execute strict stmt with
    | some tx' => tx'.attempt strict stmts
    | none     => { tx with aborted := tx.aborted || strict }

/-- The steps of a script; `none` when a failure is not caught. -/
def Tx.runScript (strict : Bool) : Tx ν κ → List (Step ν κ) → Option (Tx ν κ)
  | tx, []                     => some tx
  | tx, .run stmt :: steps     => (tx.execute strict stmt).bind (Tx.runScript strict · steps)
  | tx, .attempt stmts :: steps => (tx.attempt strict stmts).runScript strict steps

/-- A script in a transaction of its own, with a last statement that only fails where the transaction
has been aborted. -/
def commit (strict : Bool) (s : Schema ν κ) (script : List (Step ν κ)) : Option (Schema ν κ) :=
  ((Tx.mk s false).runScript strict script).bind fun tx => if tx.aborted then none else some tx.schema

def RunsAll (strict : Bool) : Schema ν κ → List (Statement ν κ) → Prop
  | _, []            => True
  | s, stmt :: stmts => Runs strict s stmt ∧ RunsAll strict (s.effect stmt) stmts

/-- The statements that are not tried succeed. -/
def RunsPlain : Schema ν κ → List (Step ν κ) → Prop
  | _, []                      => True
  | s, .run stmt :: steps      => Runs false s stmt ∧ RunsPlain (s.effect stmt) steps
  | s, .attempt stmts :: steps => RunsPlain (s.effects stmts) steps

/-- What is not tried adds no columns, and an attempt only uses columns after its first statement. -/
def Step.isTolerant : Step ν κ → Bool
  | .run (.addColumn _ _) => false
  | .run _                => true
  | .attempt stmts        => stmts.tail.all Statement.isUse

def Tolerant (script : List (Step ν κ)) : Prop := ∀ step ∈ script, step.isTolerant

section Commit

variable {strict : Bool} {s s' : Schema ν κ} {tx tx' : Tx ν κ} {stmt : Statement ν κ}
  {stmts : List (Statement ν κ)} {script : List (Step ν κ)}

@[simp] lemma execute_aborted : (Tx.mk s true).execute strict stmt = none := rfl

@[simp] lemma execute_open : (Tx.mk s false).execute strict stmt =
    if Runs strict s stmt then some ⟨s.effect stmt, false⟩ else none := by
  simp [Tx.execute]

@[simp] lemma attempt_aborted : (Tx.mk s true).attempt strict stmts = ⟨s, true⟩ := by
  cases stmts <;> rfl

lemma runScript_aborted (h : (Tx.mk s true).runScript strict script = some tx) : tx.aborted := by
  induction script with
  | nil =>
    cases h
    rfl
  | cons step steps ih =>
    cases step with
    | run stmt => cases h
    | attempt stmts =>
      rw [Tx.runScript, attempt_aborted] at h
      exact ih h

lemma runsAll_append {stmts' : List (Statement ν κ)} : RunsAll strict s (stmts ++ stmts') ↔
    RunsAll strict s stmts ∧ RunsAll strict (s.effects stmts) stmts' := by
  induction stmts generalizing s with
  | nil => simp [RunsAll]
  | cons stmt stmts ih => simp [RunsAll, ih, and_assoc]

/-- An attempt leaves a strict transaction open when all of its statements succeed. -/
lemma attempt_strict (s : Schema ν κ) (stmts : List (Statement ν κ)) :
    (Tx.mk s false).attempt true stmts = ⟨s.effects stmts, false⟩ ∧
      RunsAll true s stmts ∨
    (∃ s', (Tx.mk s false).attempt true stmts = ⟨s', true⟩) ∧ ¬ RunsAll true s stmts := by
  induction stmts generalizing s with
  | nil => exact .inl ⟨rfl, trivial⟩
  | cons stmt stmts ih =>
    by_cases hrun : Runs true s stmt
    · simpa [Tx.attempt, hrun, RunsAll] using ih (s.effect stmt)
    · right
      simp [Tx.attempt, hrun, RunsAll]

/-- On a strict engine a script commits when all of its statements succeed, tried or not. -/
theorem commit_strict_iff : commit true s script = some s' ↔
    RunsAll true s (statements script) ∧ s' = s.effects (statements script) := by
  induction script generalizing s with
  | nil => exact ⟨fun h => ⟨trivial, (Option.some.inj h).symm⟩, fun h => congrArg some h.2.symm⟩
  | cons step steps ih =>
    have hstatements : statements (step :: steps) = step.statements ++ statements steps := rfl
    rw [hstatements, runsAll_append, effects_append, and_assoc]
    cases step with
    | run stmt =>
      by_cases hrun : Runs true s stmt
      · simpa [commit, Tx.runScript, hrun, Step.statements, RunsAll] using ih (s := s.effect stmt)
      · simp [commit, Tx.runScript, hrun, Step.statements, RunsAll]
    | attempt stmts =>
      rcases attempt_strict s stmts with ⟨heq, hall⟩ | ⟨⟨s'', haborted⟩, hfail⟩
      · simpa [commit, Tx.runScript, heq, Step.statements, hall] using ih (s := s.effects stmts)
      · simp only [commit, Tx.runScript, haborted, Step.statements, hfail, false_and, iff_false]
        intro h
        obtain ⟨tx, htx, hopen⟩ := Option.bind_eq_some_iff.mp h
        rw [if_pos (runScript_aborted htx)] at hopen
        cases hopen

lemma effect_of_not_runs (h : ¬ Runs false s stmt) : s.effect stmt = s := by
  cases stmt with
  | createTable info => simp [Runs] at h
  | addColumn table column =>
    rw [effect]
    refine Table.update_eq_self fun info hinfo => ?_
    have hpresent : s.Present table := Option.isSome_iff_exists.mpr ⟨info, hinfo⟩
    have hhas : s.Has table column := by simpa [Runs, hpresent] using h
    obtain ⟨info', hinfo', hmem⟩ := hhas
    cases hinfo.symm.trans hinfo'
    rw [TableInfo.withColumn, if_pos hmem]
  | use table columns => rfl

/-- Statements that only use columns have no effect, on a schema or on a lenient transaction. -/
lemma attempt_of_use (h : stmts.all Statement.isUse) : s.effects stmts = s ∧
    (Tx.mk s false).attempt false stmts = ⟨s, false⟩ := by
  induction stmts with
  | nil => exact ⟨rfl, rfl⟩
  | cons stmt stmts ih =>
    rw [List.all_cons, Bool.and_eq_true] at h
    cases stmt with
    | use table columns =>
      by_cases hrun : Runs false s (.use table columns)
      · simpa [Tx.attempt, hrun, effect] using ih h.2
      · exact ⟨(ih h.2).1, by simp [Tx.attempt, hrun]⟩
    | createTable info => cases h.1
    | addColumn table column => cases h.1

lemma attempt_lenient (h : (Step.attempt stmts).isTolerant) :
    (Tx.mk s false).attempt false stmts = ⟨s.effects stmts, false⟩ := by
  cases stmts with
  | nil => rfl
  | cons stmt stmts =>
    have huse : ∀ s : Schema ν κ, s.effects stmts = s ∧
        (Tx.mk s false).attempt false stmts = ⟨s, false⟩ := fun s => attempt_of_use h
    rw [effects_cons, (huse _).1]
    by_cases hrun : Runs false s stmt
    · simpa [Tx.attempt, hrun] using (huse (s.effect stmt)).2
    · simp [Tx.attempt, hrun, effect_of_not_runs hrun]

/-- On a lenient engine a script commits when its statements that are not tried succeed. -/
theorem commit_lenient_iff (h : Tolerant script) : commit false s script = some s' ↔
    RunsPlain s script ∧ s' = s.effects (statements script) := by
  induction script generalizing s with
  | nil => exact ⟨fun h => ⟨trivial, (Option.some.inj h).symm⟩, fun h => congrArg some h.2.symm⟩
  | cons step steps ih =>
    obtain ⟨hstep, hsteps⟩ := List.forall_mem_cons.mp h
    have hstatements : statements (step :: steps) = step.statements ++ statements steps := rfl
    rw [hstatements, effects_append]
    cases step with
    | run stmt =>
      by_cases hrun : Runs false s stmt
      · simpa [commit, Tx.runScript, hrun, Step.statements, RunsPlain] using
          ih hsteps (s := s.effect stmt)
      · simp [commit, Tx.runScript, hrun, RunsPlain]
    | attempt stmts =>
      simpa [commit, Tx.runScript, attempt_lenient hstep, Step.statements, RunsPlain] using
        ih hsteps (s := s.effects stmts)

end Commit

/-! ### Reading the effect off the statements -/

/-- Whether a statement may stand before another one: what the second one creates is not used,
referred to or created before, and what it adds is not used before. -/
def mayPrecede : Statement ν κ → Statement ν κ → Bool
  | .createTable info, .createTable info'         =>
    info.name ≠ info'.name && !info.references.contains info'.name
  | .addColumn table _, .createTable info         => table ≠ info.name
  | .use table _, .createTable info               => table ≠ info.name
  | .use table columns, .addColumn table' column  => table ≠ table' || !columns.contains column
  | _, _                                          => true

def Ordered (stmts : List (Statement ν κ)) : Prop := stmts.Pairwise (mayPrecede · ·)

instance (stmts : List (Statement ν κ)) : Decidable (Ordered stmts) :=
  inferInstanceAs (Decidable (stmts.Pairwise _))

/-- A column that an `ALTER TABLE` would find missing in a table that is there, or will be. -/
def Fresh (s : Schema ν κ) (stmts : List (Statement ν κ)) (table : ν) (column : κ) : Prop :=
  (s.Present table ∧ ¬ s.Has table column) ∨ (¬ s.Present table ∧
    ∃ info, .createTable info ∈ stmts ∧ info.name = table ∧ column ∉ info.columns)

def DistinctAdds (stmts : List (Statement ν κ)) : Prop :=
  stmts.Pairwise fun a b => ∀ table column, a = .addColumn table column → b ≠ .addColumn table column

section Ordered

variable {strict : Bool} {s : Schema ν κ} {stmt : Statement ν κ} {info info' : TableInfo ν κ}
  {table : ν} {column : κ} {columns : List κ} {stmts pre post : List (Statement ν κ)}

lemma table_ne_of_mayPrecede (h : mayPrecede stmt (.createTable info)) : stmt.table ≠ info.name := by
  cases stmt <;> simp_all [mayPrecede, Statement.table]

lemma present_effects : (s.effects stmts).Present table ↔
    s.Present table ∨ ∃ info, .createTable info ∈ stmts ∧ info.name = table := by
  induction stmts generalizing s with
  | nil => simp
  | cons stmt stmts ih =>
    rw [effects_cons, ih, present_effect]
    simp only [List.mem_cons, or_and_right, exists_or, or_assoc, eq_comm (a := stmt)]

/-- A table that was there keeps its columns, one that was not has those it is created with, and
both get those that are added. -/
theorem has_effects (h : Ordered stmts) : (s.effects stmts).Has table column ↔
    (s.Present table ∧ (s.Has table column ∨ .addColumn table column ∈ stmts)) ∨
    (¬ s.Present table ∧ ∃ info, .createTable info ∈ stmts ∧ info.name = table ∧
      (column ∈ info.columns ∨ .addColumn table column ∈ stmts)) := by
  induction stmts generalizing s with
  | nil =>
    have hpresent : s.Has table column → s.Present table := Has.present
    simpa using hpresent
  | cons stmt stmts ih =>
    obtain ⟨hhead, htail⟩ := List.pairwise_cons.mp h
    rw [effects_cons, ih htail, present_effect, has_effect]
    have hpresent : s.Has table column → s.Present table := Has.present
    have hnew : stmt.table = table → ∀ info, .createTable info ∈ stmts → info.name ≠ table :=
      fun htable info hinfo hname =>
        table_ne_of_mayPrecede (hhead _ hinfo) (htable.trans hname.symm)
    cases stmt with
    | createTable info =>
      by_cases htable : info.name = table
      · by_cases hp : s.Present table
        · simp [hp]
        · have hhas : ¬ s.Has table column := fun hhas => hp hhas.present
          simpa [hp, hhas, htable] using fun info' hinfo' hname _ =>
            absurd hname (hnew htable info' hinfo')
      · simp [htable]
    | addColumn t c =>
      by_cases htable : t = table
      · by_cases hp : s.Present table
        · simp [hp, htable, or_assoc, eq_comm]
        · have hnone (q : TableInfo ν κ → Prop) :
              ¬ ∃ info, .createTable info ∈ stmts ∧ info.name = table ∧ q info :=
            fun ⟨info, hinfo, hname, _⟩ => hnew htable info hinfo hname
          simp [hp, htable, hnone]
      · simp [htable, Ne.symm htable]
    | use t cs => simp

lemma createTable_unique (h : Ordered stmts) (hinfo : .createTable info ∈ stmts)
    (hinfo' : .createTable info' ∈ stmts) (hname : info.name = info'.name) : info = info' := by
  obtain ⟨i, hi, heq⟩ := List.mem_iff_getElem.mp hinfo
  obtain ⟨j, hj, heq'⟩ := List.mem_iff_getElem.mp hinfo'
  rcases Nat.lt_trichotomy i j with hij | rfl | hji
  · have hprecede := List.pairwise_iff_getElem.mp h i j hi hj hij
    rw [heq, heq'] at hprecede
    exact absurd hname (table_ne_of_mayPrecede hprecede)
  · cases heq.symm.trans heq'
    rfl
  · have hprecede := List.pairwise_iff_getElem.mp h j i hj hi hji
    rw [heq, heq'] at hprecede
    exact absurd hname.symm (table_ne_of_mayPrecede hprecede)

lemma runsAll_iff_forall : RunsAll strict s stmts ↔
    ∀ pre stmt post, stmts = pre ++ stmt :: post → Runs strict (s.effects pre) stmt := by
  induction stmts generalizing s with
  | nil => simp [RunsAll]
  | cons first stmts ih =>
    rw [RunsAll, ih]
    constructor
    · rintro ⟨hfirst, hrest⟩ pre stmt post heq
      cases pre with
      | nil =>
        obtain ⟨rfl, rfl⟩ := List.cons.inj heq
        exact hfirst
      | cons a pre =>
        obtain ⟨rfl, hstmts⟩ := List.cons.inj heq
        exact hrest pre stmt post hstmts
    · intro h
      exact ⟨h [] first stmts rfl, fun pre stmt post heq => h (first :: pre) stmt post (by simp [heq])⟩

lemma createTable_mem_iff (h : Ordered (pre ++ stmt :: post)) (hinfo : info.name = stmt.table)
    (hstmt : ∀ info, stmt ≠ .createTable info) :
    .createTable info ∈ pre ++ stmt :: post ↔ .createTable info ∈ pre := by
  rw [Ordered, List.pairwise_append, List.pairwise_cons] at h
  refine ⟨fun hmem => ?_, fun hmem => List.mem_append_left _ hmem⟩
  rcases List.mem_append.mp hmem with hpre | hrest
  · exact hpre
  · rcases List.mem_cons.mp hrest with heq | hpost
    · exact absurd heq.symm (hstmt info)
    · exact absurd hinfo.symm (table_ne_of_mayPrecede (h.2.1.1 _ hpost))

/-- A column is added where it is fresh and was not added before. -/
lemma runs_addColumn_iff (h : Ordered (pre ++ .addColumn table column :: post)) :
    Runs strict (s.effects pre) (.addColumn table column) ↔
      Fresh s (pre ++ .addColumn table column :: post) table column ∧
        .addColumn table column ∉ pre := by
  have hpre : Ordered pre := (List.pairwise_append.mp h).1
  have hcreated : ∀ info : TableInfo ν κ, info.name = table →
      (.createTable info ∈ pre ++ .addColumn table column :: post ↔ .createTable info ∈ pre) :=
    fun info hname => createTable_mem_iff h hname (by simp)
  rw [Runs, present_effects, has_effects hpre, Fresh]
  by_cases hp : s.Present table
  · simp [hp]
  · simp only [hp, false_or, false_and, not_false_eq_true, true_and]
    constructor
    · rintro ⟨⟨info, hinfo, hname⟩, hnot⟩
      refine ⟨⟨info, (hcreated info hname).mpr hinfo, hname, fun hc => ?_⟩, fun hadd => ?_⟩
      · exact hnot ⟨info, hinfo, hname, .inl hc⟩
      · exact hnot ⟨info, hinfo, hname, .inr hadd⟩
    · rintro ⟨⟨info, hinfo, hname, hc⟩, hadd⟩
      rw [hcreated info hname] at hinfo
      refine ⟨⟨info, hinfo, hname⟩, ?_⟩
      rintro ⟨info', hinfo', hname', hc' | hadd'⟩
      · rw [createTable_unique hpre hinfo hinfo' (hname.trans hname'.symm)] at hc
        exact hc hc'
      · exact hadd hadd'

/-- Columns that are there in the end are there when they are used. -/
lemma runs_use (h : Ordered (pre ++ .use table columns :: post)) (hne : columns ≠ [])
    (hhas : ∀ column ∈ columns,
      (s.effects (pre ++ .use table columns :: post)).Has table column) :
    Runs strict (s.effects pre) (.use table columns) := by
  have hpre : Ordered pre := (List.pairwise_append.mp h).1
  have hused : ∀ stmt ∈ post, mayPrecede (.use table columns) stmt :=
    (List.pairwise_cons.mp (List.pairwise_append.mp h).2.1).1
  have hbefore : ∀ column ∈ columns, (s.effects pre).Has table column := by
    intro column hcolumn
    have hadded : .addColumn table column ∈ pre ++ .use table columns :: post →
        .addColumn table column ∈ pre := by
      intro hmem
      rcases List.mem_append.mp hmem with hmem | hmem
      · exact hmem
      · have hpost : .addColumn table column ∈ post := by simpa using hmem
        have := hused _ hpost
        simp [mayPrecede, hcolumn] at this
    rw [has_effects hpre]
    rcases (has_effects h).mp (hhas column hcolumn) with ⟨hp, hcol⟩ | ⟨hp, info, hinfo, hname, hcol⟩
    · exact .inl ⟨hp, hcol.imp_right hadded⟩
    · rw [createTable_mem_iff h hname (by simp)] at hinfo
      exact .inr ⟨hp, info, hinfo, hname, hcol.imp_right hadded⟩
  obtain ⟨column, hcolumn⟩ := List.exists_mem_of_ne_nil columns hne
  exact ⟨(hbefore column hcolumn).present, hbefore⟩

/-- Tables that are there in the end are there when they are referred to. -/
lemma runs_createTable (h : Ordered (pre ++ .createTable info :: post))
    (hpresent : ∀ table ∈ info.references,
      (s.effects (pre ++ .createTable info :: post)).Present table) :
    Runs strict (s.effects pre) (.createTable info) := by
  refine .inr fun _ table htable => ?_
  rcases present_effects.mp (hpresent table htable) with hp | ⟨info', hinfo', rfl⟩
  · exact .inr (present_effects.mpr (.inl hp))
  · rcases List.mem_append.mp hinfo' with hpre | hrest
    · exact .inr (present_effects.mpr (.inr ⟨info', hpre, rfl⟩))
    · rcases List.mem_cons.mp hrest with heq | hpost
      · cases heq
        exact .inl rfl
      · have hprecede := (List.pairwise_cons.mp (List.pairwise_append.mp h).2.1).1 _ hpost
        simp [mayPrecede, htable] at hprecede

/-- What a script takes for granted: the columns it uses and the tables it refers to are there once
it has run. -/
structure Supplied (s : Schema ν κ) (stmts : List (Statement ν κ)) : Prop where
  used : ∀ table columns, .use table columns ∈ stmts →
    columns ≠ [] ∧ ∀ column ∈ columns, (s.effects stmts).Has table column
  referenced : ∀ info, .createTable info ∈ stmts →
    ∀ table ∈ info.references, (s.effects stmts).Present table

/-- If the rest is supplied, it takes fresh columns for all statements to succeed. -/
theorem runsAll_iff (h : Ordered stmts) (hsupplied : Supplied s stmts) : RunsAll strict s stmts ↔
    (∀ table column, .addColumn table column ∈ stmts → Fresh s stmts table column) ∧
      DistinctAdds stmts := by
  rw [runsAll_iff_forall]
  constructor
  · intro hruns
    refine ⟨fun table column hadd => ?_, ?_⟩
    · obtain ⟨pre, post, rfl⟩ := List.append_of_mem hadd
      exact ((runs_addColumn_iff h).mp (hruns pre _ post rfl)).1
    · refine List.pairwise_iff_getElem.mpr fun i j hi hj hij table column heq heq' => ?_
      have hsplit : stmts = stmts.take j ++ .addColumn table column :: stmts.drop (j + 1) := by
        rw [← heq', List.getElem_cons_drop, List.take_append_drop]
      have hrun := hruns _ _ _ hsplit
      rw [hsplit] at h
      refine ((runs_addColumn_iff h).mp hrun).2 ?_
      rw [← heq]
      exact List.mem_take_iff_getElem.mpr ⟨i, by omega, rfl⟩
  · rintro ⟨hfresh, hdistinct⟩ pre stmt post rfl
    cases stmt with
    | createTable info => exact runs_createTable h (hsupplied.referenced info (by simp))
    | addColumn table column =>
      refine (runs_addColumn_iff h).mpr ⟨hfresh table column (by simp), fun hmem => ?_⟩
      exact (List.pairwise_append.mp hdistinct).2.2 _ hmem _ List.mem_cons_self table column rfl rfl
    | use table columns =>
      obtain ⟨hne, hhas⟩ := hsupplied.used table columns (by simp)
      exact runs_use h hne hhas

end Ordered

/-! ### Several scripts -/

def commitAll (strict : Bool) : Schema ν κ → List (List (Step ν κ)) → Option (Schema ν κ)
  | s, []                => some s
  | s, script :: scripts => (commit strict s script).bind (commitAll strict · scripts)

section Scripts

variable {strict : Bool} {s s' : Schema ν κ} {script script' : List (Step ν κ)}
  {scripts : List (List (Step ν κ))}

omit [DecidableEq ν] [DecidableEq κ] in
lemma statements_append :
    statements (script ++ script') = statements script ++ statements script' :=
  List.flatMap_append

lemma runsPlain_append : RunsPlain s (script ++ script') ↔
    RunsPlain s script ∧ RunsPlain (s.effects (statements script)) script' := by
  induction script generalizing s with
  | nil => simp [RunsPlain, statements]
  | cons step steps ih =>
    have hstatements : statements (step :: steps) = step.statements ++ statements steps := rfl
    rw [hstatements, effects_append]
    cases step with
    | run stmt => simp [RunsPlain, ih, Step.statements, and_assoc]
    | attempt stmts => simp [RunsPlain, ih, Step.statements]

lemma runsPlain_of_forall (h : ∀ pre stmt post, script = pre ++ .run stmt :: post →
    Runs false (s.effects (statements pre)) stmt) : RunsPlain s script := by
  induction script generalizing s with
  | nil => trivial
  | cons step steps ih =>
    have hrest : RunsPlain (s.effects step.statements) steps := by
      refine ih fun pre stmt post heq => ?_
      rw [← effects_append]
      exact h (step :: pre) stmt post (by rw [heq, List.cons_append])
    cases step with
    | run stmt => exact ⟨h [] stmt steps rfl, hrest⟩
    | attempt stmts => exact hrest

/-- If the rest is supplied, the statements that are not tried succeed. -/
lemma runsPlain_of_supplied (h : Ordered (statements script)) (htolerant : Tolerant script)
    (hsupplied : Supplied s (statements script)) : RunsPlain s script := by
  refine runsPlain_of_forall fun pre stmt post heq => ?_
  have hsplit : statements script = statements pre ++ stmt :: statements post := by
    rw [heq, statements_append]
    rfl
  rw [hsplit] at h hsupplied
  cases stmt with
  | createTable info => exact runs_createTable h (hsupplied.referenced info (by simp))
  | addColumn table column =>
    have hstep := htolerant (.run (.addColumn table column)) (by simp [heq])
    cases hstep
  | use table columns =>
    obtain ⟨hne, hhas⟩ := hsupplied.used table columns (by simp)
    exact runs_use h hne hhas

/-- The scripts commit on a strict engine when all their statements succeed, on a lenient one when
those do that are not tried. -/
lemma commitAll_iff (htolerant : Tolerant scripts.flatten) : commitAll strict s scripts = some s' ↔
    (if strict then RunsAll true s (statements scripts.flatten) else RunsPlain s scripts.flatten) ∧
      s' = s.effects (statements scripts.flatten) := by
  induction scripts generalizing s with
  | nil => cases strict <;> simp [commitAll, statements, RunsAll, RunsPlain, eq_comm]
  | cons script scripts ih =>
    rw [List.flatten_cons] at htolerant ⊢
    obtain ⟨hscript, hrest⟩ := List.forall_mem_append.mp htolerant
    rw [commitAll, Option.bind_eq_some_iff, statements_append, effects_append]
    cases strict with
    | true => simp [commit_strict_iff, ih hrest, runsAll_append, and_assoc]
    | false => simp [commit_lenient_iff hscript, ih hrest, runsPlain_append, and_assoc]

omit [DecidableEq ν] [DecidableEq κ] in
lemma statements_sublist {scripts' : List (List (Step ν κ))} (h : scripts.Sublist scripts') :
    (statements scripts.flatten).Sublist (statements scripts'.flatten) := by
  induction h with
  | slnil => exact List.Sublist.refl _
  | cons script h ih =>
    rw [List.flatten_cons, statements_append]
    exact ih.trans (List.sublist_append_right _ _)
  | cons_cons script h ih =>
    rw [List.flatten_cons, List.flatten_cons, statements_append, statements_append]
    exact (List.Sublist.refl _).append ih

/-- If the rest is supplied, the scripts commit on a lenient engine, and on a strict one when the
columns that they add are fresh and added once. -/
theorem exists_commitAll_iff (h : Ordered (statements scripts.flatten))
    (htolerant : Tolerant scripts.flatten) (hsupplied : Supplied s (statements scripts.flatten)) :
    commitAll strict s scripts = some (s.effects (statements scripts.flatten)) ↔
      (strict → (∀ table column, .addColumn table column ∈ statements scripts.flatten →
        Fresh s (statements scripts.flatten) table column) ∧
          DistinctAdds (statements scripts.flatten)) := by
  rw [commitAll_iff htolerant, and_iff_left rfl]
  cases strict with
  | true => simp [runsAll_iff h hsupplied]
  | false => simp [runsPlain_of_supplied h htolerant hsupplied]

end Scripts

/-! ### What has to be there in the end -/

/-- The tables that some statements create are there with their columns, and so are the columns that
they add, unless their table is not there. -/
structure Provided (s : Schema ν κ) (stmts : List (Statement ν κ)) : Prop where
  created : ∀ info, .createTable info ∈ stmts →
    s.Present info.name ∧ ∀ column ∈ info.columns, s.Has info.name column
  added : ∀ table column, .addColumn table column ∈ stmts → s.Present table → s.Has table column

/-- What has to be there before some of the statements run for all of them to be provided for: a
table is there but for columns that are still added, or it is still created. -/
structure Completes (s : Schema ν κ) (pending stmts : List (Statement ν κ)) : Prop where
  present : ∀ info, .createTable info ∈ stmts → s.Present info.name →
    ∀ column ∈ info.columns, s.Has info.name column ∨ .addColumn info.name column ∈ pending
  absent : ∀ info, .createTable info ∈ stmts → ¬ s.Present info.name →
    .createTable info ∈ pending
  addedPresent : ∀ table column, .addColumn table column ∈ stmts → s.Present table →
    s.Has table column ∨ .addColumn table column ∈ pending
  addedAbsent : ∀ table column, .addColumn table column ∈ stmts → ¬ s.Present table →
    ∀ info, .createTable info ∈ pending → info.name = table →
      column ∈ info.columns ∨ .addColumn table column ∈ pending

/-- Whether a statement creates a table of this name with columns that pass a test. -/
def Statement.creates (table : ν) (q : List κ → Bool) : Statement ν κ → Bool
  | .createTable info => info.name = table && q info.columns
  | _                 => false

/-- Whether the tables that some statements refer to or use are created by them, and the columns that
they use created or added. -/
def selfSupplied (stmts : List (Statement ν κ)) : Bool :=
  stmts.all fun
    | .createTable info  => info.references.all fun table => stmts.any (·.creates table fun _ => true)
    | .addColumn _ _     => true
    | .use table columns => columns ≠ [] && stmts.any (·.creates table fun created =>
        columns.all fun column => created.contains column || stmts.contains (.addColumn table column))

section Provided

variable {s : Schema ν κ} {pending stmts : List (Statement ν κ)}

omit [DecidableEq κ] in
lemma exists_createTable {table : ν} {q : List κ → Bool}
    (h : stmts.any (·.creates table q)) :
    ∃ info, .createTable info ∈ stmts ∧ info.name = table ∧ q info.columns := by
  obtain ⟨stmt, hstmt, hcreates⟩ := List.any_eq_true.mp h
  cases stmt with
  | createTable info => exact ⟨info, hstmt, by simpa [Statement.creates] using hcreates⟩
  | addColumn table column => cases hcreates
  | use table columns => cases hcreates

omit [DecidableEq κ] in
lemma completes_self (h : ∀ table, ¬ s.Present table) : Completes s stmts stmts where
  present info _ hp := absurd hp (h info.name)
  absent _ hinfo _ := hinfo
  addedPresent table _ _ hp := absurd hp (h table)
  addedAbsent _ _ hadd _ _ _ _ := .inr hadd

lemma supplied_of_provided (hself : selfSupplied stmts) (hsub : pending ⊆ stmts)
    (h : Provided (s.effects pending) stmts) : Supplied s pending where
  used table columns huse := by
    have hstmt := List.all_eq_true.mp hself _ (hsub huse)
    simp only [Bool.and_eq_true, decide_eq_true_eq] at hstmt
    obtain ⟨info, hinfo, rfl, hcolumns⟩ := exists_createTable hstmt.2
    refine ⟨hstmt.1, fun column hcolumn => ?_⟩
    have hcol := List.all_eq_true.mp hcolumns column hcolumn
    rw [Bool.or_eq_true, List.contains_iff_mem, List.contains_iff_mem] at hcol
    rcases hcol with hcol | hadd
    · exact (h.created info hinfo).2 column hcol
    · exact h.added _ column hadd (h.created info hinfo).1
  referenced info hinfo table htable := by
    have hstmt := List.all_eq_true.mp hself _ (hsub hinfo)
    obtain ⟨info', hinfo', rfl, -⟩ := exists_createTable (List.all_eq_true.mp hstmt table htable)
    exact (h.created info' hinfo').1

/-- Whether everything is provided for in the end can be read off the schema and the statements. -/
theorem provided_effects_iff (h : Ordered stmts) (hsub : pending.Sublist stmts) :
    Provided (s.effects pending) stmts ↔ Completes s pending stmts := by
  have hpending : Ordered pending := h.sublist hsub
  have hunique : ∀ {info info' : TableInfo ν κ}, .createTable info ∈ stmts →
      .createTable info' ∈ pending → info'.name = info.name → info' = info :=
    fun hinfo hinfo' hname => createTable_unique h (hsub.subset hinfo') hinfo hname
  constructor
  · intro hprovided
    constructor
    case present =>
      intro info hinfo hp column hcolumn
      simpa [has_effects hpending, hp] using (hprovided.created info hinfo).2 column hcolumn
    case absent =>
      intro info hinfo hp
      obtain ⟨info', hinfo', hname⟩ :=
        (present_effects.mp (hprovided.created info hinfo).1).resolve_left hp
      rwa [← hunique hinfo hinfo' hname]
    case addedPresent =>
      intro table column hadd hp
      have hhas := hprovided.added table column hadd (present_effects.mpr (.inl hp))
      simpa [has_effects hpending, hp] using hhas
    case addedAbsent =>
      intro table column hadd hp info hinfo hname
      have hhas := hprovided.added table column hadd (present_effects.mpr (.inr ⟨info, hinfo, hname⟩))
      rw [has_effects hpending] at hhas
      obtain ⟨info', hinfo', hname', hcol⟩ := (hhas.resolve_left fun h' => hp h'.1).2
      rwa [hunique (hsub.subset hinfo) hinfo' (hname'.trans hname.symm)] at hcol
  · intro hcompletes
    constructor
    case created =>
      intro info hinfo
      by_cases hp : s.Present info.name
      · refine ⟨present_effects.mpr (.inl hp), fun column hcolumn => ?_⟩
        exact (has_effects hpending).mpr (.inl ⟨hp, hcompletes.present info hinfo hp column hcolumn⟩)
      · have hmem := hcompletes.absent info hinfo hp
        refine ⟨present_effects.mpr (.inr ⟨info, hmem, rfl⟩), fun column hcolumn => ?_⟩
        exact (has_effects hpending).mpr (.inr ⟨hp, info, hmem, rfl, .inl hcolumn⟩)
    case added =>
      intro table column hadd hpresent
      rw [has_effects hpending]
      by_cases hp : s.Present table
      · exact .inl ⟨hp, hcompletes.addedPresent table column hadd hp⟩
      · obtain ⟨info, hinfo, hname⟩ := (present_effects.mp hpresent).resolve_left hp
        exact .inr ⟨hp, info, hinfo, hname,
          hcompletes.addedAbsent table column hadd hp info hinfo hname⟩

end Provided

/-! ### Dropping tables -/

/-- Whether `DROP TABLE IF EXISTS` succeeds: a strict engine does not drop what another table refers
to. -/
def Drops (strict : Bool) (s : Schema ν κ) (table : ν) : Prop :=
  strict → s.Present table → ∀ info ∈ s.rows, table ∈ info.references → info.name = table

instance (strict : Bool) (s : Schema ν κ) : DecidablePred (Drops strict s) :=
  fun _ => inferInstanceAs (Decidable (_ → _ → _))

/-- Drop tables one after the other; `none` when one of the statements fails. -/
def dropTables (strict : Bool) : Schema ν κ → List ν → Option (Schema ν κ)
  | s, []              => some s
  | s, table :: tables => if Drops strict s table then dropTables strict (s.erase table) tables else none

/-- Whatever refers to a dropped table is dropped before it. -/
def DropsInOrder (s : Schema ν κ) (tables : List ν) : Prop :=
  ∀ pre table post, tables = pre ++ table :: post → table ∉ pre → s.Present table →
    ∀ info ∈ s.rows, table ∈ info.references → info.name = table ∨ info.name ∈ pre

section Drops

variable {strict : Bool} {s s' : Schema ν κ} {table t : ν} {tables tables' : List ν}

omit [DecidableEq κ]

lemma dropTables_append : dropTables strict s (tables ++ tables') =
    (dropTables strict s tables).bind (dropTables strict · tables') := by
  induction tables generalizing s with
  | nil => rfl
  | cons table tables ih =>
    simp only [List.cons_append, dropTables, ih]
    split_ifs <;> rfl

lemma find?_of_dropTables (h : dropTables strict s tables = some s') :
    s'.find? t = if t ∈ tables then none else s.find? t := by
  induction tables generalizing s with
  | nil =>
    cases h
    simp
  | cons table tables ih =>
    rw [dropTables] at h
    split_ifs at h with hdrops
    rw [ih h, Table.find?_erase]
    by_cases ht : t = table
    · simp [ht]
    · simp [ht]

lemma present_of_find? (h : s'.find? t = if t ∈ tables then none else s.find? t) :
    s'.Present t ↔ t ∉ tables ∧ s.Present t := by
  rw [Present, h]
  split_ifs with ht <;> simp [ht, Present]

lemma has_of_find? {column : κ} (h : s'.find? t = if t ∈ tables then none else s.find? t) :
    s'.Has t column ↔ t ∉ tables ∧ s.Has t column := by
  simp only [Has, h]
  split_ifs with ht <;> simp [ht]

/-- Tables may be dropped together with what is recorded about them: if the statements that create
them are pending again, and with a creation all additions to its table. -/
lemma Completes.drop {pending pending' stmts : List (Statement ν κ)} (h : Completes s pending stmts)
    (hsub : pending ⊆ pending')
    (hfind : ∀ table, s'.find? table = if table ∈ tables then none else s.find? table)
    (hcreated : ∀ info, .createTable info ∈ stmts → info.name ∈ tables →
      .createTable info ∈ pending')
    (hadded : ∀ table column info, .addColumn table column ∈ stmts → .createTable info ∈ pending' →
      info.name = table → .addColumn table column ∈ pending') : Completes s' pending' stmts where
  present info hinfo hp column hcolumn := by
    obtain ⟨hkept, hp⟩ := (present_of_find? (hfind _)).mp hp
    rw [has_of_find? (hfind _), and_iff_right hkept]
    exact (h.present info hinfo hp column hcolumn).imp_right (@hsub _)
  absent info hinfo hp := by
    by_cases hdropped : info.name ∈ tables
    · exact hcreated info hinfo hdropped
    · rw [present_of_find? (hfind _), and_iff_right hdropped] at hp
      exact hsub (h.absent info hinfo hp)
  addedPresent table column hadd hp := by
    obtain ⟨hkept, hp⟩ := (present_of_find? (hfind _)).mp hp
    rw [has_of_find? (hfind _), and_iff_right hkept]
    exact (h.addedPresent table column hadd hp).imp_right (@hsub _)
  addedAbsent table column hadd _ info hinfo hname :=
    .inr (hadded table column info hadd hinfo hname)

lemma present_erase : Present (s.erase table) t ↔ s.Present t ∧ t ≠ table := by
  rw [Present, Table.find?_erase]
  split_ifs with ht
  · simp [ht]
  · simp [ht, Present]

lemma dropsInOrder_cons : DropsInOrder s (table :: tables) ↔
    Drops true s table ∧ DropsInOrder (s.erase table) tables := by
  constructor
  · intro h
    refine ⟨fun _ hp info hinfo href => ?_, fun pre t post heq hnot hp info hinfo href => ?_⟩
    · simpa using h [] table tables rfl (by simp) hp info hinfo href
    · obtain ⟨hp, hne⟩ := present_erase.mp hp
      obtain ⟨hinfo, hname⟩ := Table.mem_erase.mp hinfo
      have := h (table :: pre) t post (by rw [heq, List.cons_append])
        (by simp [hne, hnot]) hp info hinfo href
      simpa [hname] using this
  · rintro ⟨hfirst, hrest⟩ pre t post heq hnot hp info hinfo href
    cases pre with
    | nil =>
      obtain ⟨rfl, rfl⟩ := List.cons.inj heq
      exact .inl (hfirst rfl hp info hinfo href)
    | cons a pre =>
      obtain ⟨rfl, htables⟩ := List.cons.inj heq
      rw [List.mem_cons, not_or] at hnot
      by_cases hname : info.name = table
      · exact .inr (by simp [hname])
      · have hmem : info ∈ (s.erase table).rows := Table.mem_erase.mpr ⟨hinfo, hname⟩
        have := hrest pre t post htables hnot.2 (present_erase.mpr ⟨hp, hnot.1⟩) info hmem href
        exact this.imp_right (List.mem_cons_of_mem _)

/-- A lenient engine drops everything, a strict one what is not referred to any more. -/
theorem isSome_dropTables_iff :
    (dropTables strict s tables).isSome ↔ (strict → DropsInOrder s tables) := by
  induction tables generalizing s with
  | nil => simp [dropTables, DropsInOrder]
  | cons table tables ih =>
    rw [dropTables, dropsInOrder_cons]
    cases strict with
    | true => by_cases hdrops : Drops true s table <;> simp [hdrops, ih]
    | false => simp [Drops, ih]

end Drops

end Schema

end Core
