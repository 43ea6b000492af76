import CtrlRecovery.Core.Run
import CtrlRecovery.Core.Transaction
import CtrlRecovery.Db.Sample

/-!
# The SQLite connection of the adapter

All calls of the adapter share one connection. `withTransaction` puts its callback at the end of a
promise chain, so that one transaction is open at a time. `query` and `execute` do not wait for the
chain: whatever another task runs while a callback is suspended runs inside the open transaction,
and `ROLLBACK` takes it back with the rest.

A connection keeps the statements whose writes are in force (`applied`). They are what the data is
made of (`attempt_applied`), so what a rollback does to the writes can be read off them. It undoes
exactly the writes of its own client, and no direct write, if and only if its own client made all
the writes since its `BEGIN` (`rollsBackOwn_iff`).
-/

namespace CtrlRecovery

open Core

namespace DatabaseAdapter

/-- Who runs a statement: a call on the adapter itself, or on the client of a transaction. -/
inductive Caller | adapter | txClient (tx : ℕ)
  deriving DecidableEq, Repr

section Connection

variable {σ : Type*}

/-- A statement that succeeded. -/
structure Write (σ : Type*) where
  caller : Caller
  stmt : σ → Option σ

/-- What the connection keeps at `BEGIN` to come back to. -/
structure Savepoint (σ : Type*) where
  tx : ℕ
  data : σ
  applied : List (Write σ)

structure Connection (σ : Type*) where
  data : σ
  applied : List (Write σ)
  inTransaction : Option (Savepoint σ)
  /-- The callbacks that wait for their turn. -/
  sqliteTxMutex : List ℕ
  /-- The transactions whose callback was given its client. -/
  begun : List ℕ

/-- A connection on which no statement has run. -/
def Connection.initial (data : σ) : Connection σ where
  data := data
  applied := []
  inTransaction := none
  sqliteTxMutex := []
  begun := []

/-- What a task does to the connection between two awaits. -/
inductive Call (σ : Type*)
  /-- A call of `withTransaction`. -/
  | withTransaction (tx : ℕ)
  /-- The next callback of the promise chain starts. -/
  | beginTransaction
  | query (caller : Caller)
  | execute (caller : Caller) (stmt : σ → Option σ)
  /-- The callback of the open transaction has returned. -/
  | commit
  /-- The callback of the open transaction, or its `COMMIT`, has thrown. -/
  | rollback

namespace Connection

/-- Whether a caller exists: the client of a transaction is made when its callback starts. -/
def has (conn : Connection σ) : Caller → Bool
  | .adapter     => true
  | .txClient tx => tx ∈ conn.begun

/-- Run a statement. One that fails changes nothing. -/
def run (conn : Connection σ) (caller : Caller) (stmt : σ → Option σ) : Connection σ :=
  match stmt conn.data with
  | none      => conn
  | some data => { conn with data := data, applied := conn.applied ++ [⟨caller, stmt⟩] }

def step (conn : Connection σ) : Call σ → Option (Connection σ)
  | .withTransaction tx =>
    if tx ∈ conn.sqliteTxMutex ∨ tx ∈ conn.begun then none
    else some { conn with sqliteTxMutex := conn.sqliteTxMutex ++ [tx] }
  | .beginTransaction =>
    match conn.inTransaction, conn.sqliteTxMutex with
    | none, tx :: rest =>
      some { conn with
        inTransaction := some ⟨tx, conn.data, conn.applied⟩
        sqliteTxMutex := rest
        begun := tx :: conn.begun }
    | _, _ => none
  | .query caller => if conn.has caller then some conn else none
  | .execute caller stmt => if conn.has caller then some (conn.run caller stmt) else none
  | .commit =>
    conn.inTransaction.map fun _ => { conn with inTransaction := none }
  | .rollback =>
    conn.inTransaction.map fun saved =>
      { conn with data := saved.data, applied := saved.applied, inTransaction := none }

end Connection

/-! ### Rollback -/

/-- What a rollback has to do to the writes in force: take those of its own client away, and leave
the direct ones. -/
def RollsBackOwn (conn : Connection σ) (call : Call σ) (conn' : Connection σ) : Prop :=
  match call, conn.inTransaction with
  | .rollback, some saved =>
    conn'.applied = conn.applied.filter (·.caller ≠ .txClient saved.tx) ∧
      ∀ w ∈ conn.applied, w.caller = .adapter → w ∈ conn'.applied
  | _, _ => True

/-- The writes since the `BEGIN` of the open transaction. -/
def writesSince (conn : Connection σ) (saved : Savepoint σ) : List (Write σ) :=
  conn.applied.drop saved.applied.length

/-- A rollback finds only writes of its own client since its `BEGIN`. -/
def AloneUntilRollback (conn : Connection σ) (call : Call σ) (_ : Connection σ) : Prop :=
  match call, conn.inTransaction with
  | .rollback, some saved => ∀ w ∈ writesSince conn saved, w.caller = .txClient saved.tx
  | _, _ => True

/-! ### The connection keeps its books -/

/-- The writes of clients are of clients that exist, those that wait have none, and the writes since
a savepoint come after those that it keeps, none of which is its client's. -/
structure Consistent (conn : Connection σ) : Prop where
  has_caller : ∀ w ∈ conn.applied, conn.has w.caller
  nodup_mutex : conn.sqliteTxMutex.Nodup
  waiting : ∀ tx ∈ conn.sqliteTxMutex, tx ∉ conn.begun
  prefix_applied : ∀ saved ∈ conn.inTransaction, saved.applied <+: conn.applied
  foreign_saved : ∀ saved ∈ conn.inTransaction, ∀ w ∈ saved.applied,
    w.caller ≠ .txClient saved.tx

variable {conn conn' : Connection σ} {call : Call σ}

lemma consistent_initial (data : σ) : Consistent (Connection.initial data) where
  has_caller _ h := by cases h
  nodup_mutex := .nil
  waiting _ h := by cases h
  prefix_applied _ h := by cases h
  foreign_saved _ h := by cases h

lemma consistent_run {caller : Caller} {stmt : σ → Option σ} (h : Consistent conn)
    (hcaller : conn.has caller) : Consistent (conn.run caller stmt) := by
  rw [Connection.run]
  cases stmt conn.data with
  | none => exact h
  | some data =>
    exact
      { h with
        has_caller := by
          intro w hw
          rcases List.mem_append.mp hw with hw | hw
          · exact h.has_caller w hw
          · rw [List.mem_singleton.mp hw]
            exact hcaller
        prefix_applied := by
          intro saved hsaved
          exact (h.prefix_applied saved hsaved).trans (List.prefix_append _ _) }

lemma has_of_begun {tx : ℕ} {caller : Caller} {conn' : Connection σ} (h : conn.has caller)
    (hbegun : conn'.begun = tx :: conn.begun) : conn'.has caller := by
  cases caller with
  | adapter => rfl
  | txClient tx' =>
    simp only [Connection.has, decide_eq_true_eq, hbegun] at h ⊢
    exact List.mem_cons_of_mem tx h

lemma consistent_step (h : Consistent conn) (hstep : conn.step call = some conn') :
    Consistent conn' := by
  cases call with
  | withTransaction tx =>
    simp only [Connection.step] at hstep
    split_ifs at hstep with hnew
    cases hstep
    push Not at hnew
    exact
      { h with
        nodup_mutex := by
          rw [List.nodup_append]
          refine ⟨h.nodup_mutex, List.nodup_singleton tx, ?_⟩
          intro a ha b hb heq
          rw [List.mem_singleton.mp hb] at heq
          exact hnew.1 (heq ▸ ha)
        waiting := by
          intro tx' htx'
          rcases List.mem_append.mp htx' with htx' | htx'
          · exact h.waiting tx' htx'
          · rw [List.mem_singleton.mp htx']
            exact hnew.2 }
  | beginTransaction =>
    simp only [Connection.step] at hstep
    split at hstep
    · rename_i tx rest hnone hmutex
      cases hstep
      have hwaiting : tx ∉ conn.begun := h.waiting tx (by simp [hmutex])
      have hnodup := h.nodup_mutex
      rw [hmutex, List.nodup_cons] at hnodup
      exact
        { has_caller := fun w hw => has_of_begun (h.has_caller w hw) rfl
          nodup_mutex := hnodup.2
          waiting := by
            intro tx' htx' hbegun
            rcases List.mem_cons.mp hbegun with rfl | hbegun
            · exact hnodup.1 htx'
            · exact h.waiting tx' (by simp [hmutex, htx']) hbegun
          prefix_applied := by
            rintro saved ⟨⟩
            exact List.prefix_rfl
          foreign_saved := by
            rintro saved ⟨⟩ w hw hown
            have hhas := h.has_caller w hw
            rw [hown] at hhas
            exact hwaiting (by simpa [Connection.has] using hhas) }
    · cases hstep
  | query caller =>
    simp only [Connection.step] at hstep
    split_ifs at hstep
    cases hstep
    exact h
  | execute caller stmt =>
    simp only [Connection.step] at hstep
    split_ifs at hstep with hcaller
    cases hstep
    exact consistent_run h hcaller
  | commit =>
    obtain ⟨saved, hsaved, rfl⟩ := Option.map_eq_some_iff.mp hstep
    exact { h with prefix_applied := nofun, foreign_saved := nofun }
  | rollback =>
    obtain ⟨saved, hsaved, rfl⟩ := Option.map_eq_some_iff.mp hstep
    exact
      { h with
        has_caller := fun w hw => h.has_caller w ((h.prefix_applied saved hsaved).subset hw)
        prefix_applied := nofun
        foreign_saved := nofun }

/-! ### The data is what the writes in force make of it -/

/-- Replaying the writes in force on the first data gives the data, and so it does for those of the
savepoint. -/
structure Replays (data₀ : σ) (conn : Connection σ) : Prop where
  data : Transaction.attempt (conn.applied.map (·.stmt)) none data₀ = some conn.data
  saved : ∀ saved ∈ conn.inTransaction,
    Transaction.attempt (saved.applied.map (·.stmt)) none data₀ = some saved.data

lemma replays_step {data₀ : σ} (h : Replays data₀ conn) (hstep : conn.step call = some conn') :
    Replays data₀ conn' := by
  cases call with
  | withTransaction tx =>
    simp only [Connection.step] at hstep
    split_ifs at hstep
    cases hstep
    exact { h with }
  | beginTransaction =>
    simp only [Connection.step] at hstep
    split at hstep
    · cases hstep
      refine { h with saved := ?_ }
      rintro saved ⟨⟩
      exact h.data
    · cases hstep
  | query caller =>
    simp only [Connection.step] at hstep
    split_ifs at hstep
    cases hstep
    exact h
  | execute caller stmt =>
    simp only [Connection.step, Connection.run] at hstep
    split_ifs at hstep
    cases hstmt : stmt conn.data with
    | none =>
      rw [hstmt] at hstep
      cases hstep
      exact h
    | some data =>
      rw [hstmt] at hstep
      cases hstep
      refine { h with data := ?_ }
      rw [List.map_append, Transaction.attempt_append_none, h.data]
      simp [hstmt]
  | commit =>
    obtain ⟨saved, hsaved, rfl⟩ := Option.map_eq_some_iff.mp hstep
    exact { h with saved := nofun }
  | rollback =>
    obtain ⟨saved, hsaved, rfl⟩ := Option.map_eq_some_iff.mp hstep
    exact { data := h.saved saved hsaved, saved := nofun }

/-- In every run, the data is what the writes in force make of the first data. -/
theorem attempt_applied {data₀ : σ} {calls : List (Call σ)}
    (hrun : Run Connection.step (.initial data₀) calls conn) :
    Transaction.attempt (conn.applied.map (·.stmt)) none data₀ = some conn.data := by
  have h₀ : Replays data₀ (.initial data₀) := ⟨rfl, nofun⟩
  exact (hrun.invariant (fun _ _ _ h hstep => replays_step h hstep) h₀).data

/-! ### When a rollback takes back its own writes only -/

lemma rollsBackOwn_step_iff (h : Consistent conn) (hstep : conn.step call = some conn') :
    RollsBackOwn conn call conn' ↔ AloneUntilRollback conn call conn' := by
  cases call with
  | withTransaction tx => exact Iff.rfl
  | beginTransaction => exact Iff.rfl
  | query caller => exact Iff.rfl
  | execute caller stmt => exact Iff.rfl
  | commit => exact Iff.rfl
  | rollback =>
    obtain ⟨saved, hsaved, rfl⟩ := Option.map_eq_some_iff.mp hstep
    obtain ⟨since, hsince⟩ := h.prefix_applied saved hsaved
    have hforeign : saved.applied.filter (·.caller ≠ .txClient saved.tx) = saved.applied := by
      rw [List.filter_eq_self]
      intro w hw
      simpa using h.foreign_saved saved hsaved w hw
    simp only [RollsBackOwn, AloneUntilRollback, writesSince, hsaved, ← hsince, List.filter_append,
      hforeign, List.drop_left, List.self_eq_append_right, List.filter_eq_nil_iff]
    constructor
    · rintro ⟨hown, -⟩ w hw
      simpa using hown w hw
    · intro hown
      refine ⟨fun w hw => by simpa using hown w hw, ?_⟩
      intro w hw hdirect
      rcases List.mem_append.mp hw with hw | hw
      · exact hw
      · have howner := hown w hw
        rw [hdirect] at howner
        cases howner

/-- The rollbacks of a run take back exactly the writes of their own clients, and no direct write,
exactly when each finds only writes of its own client since its `BEGIN`. -/
theorem rollsBackOwn_iff (data : σ) (calls : List (Call σ)) :
    AllSteps Connection.step RollsBackOwn (.initial data) calls ↔
      AllSteps Connection.step AloneUntilRollback (.initial data) calls :=
  allSteps_iff_of_invariant (fun _ _ _ h hstep => consistent_step h hstep)
    (fun _ _ _ h hstep => rollsBackOwn_step_iff h hstep) (consistent_initial data)

/-! ### An undisturbed callback -/

/-- The calls of a callback that runs its statements one after the other on its client; `fault` is
the statement before which it throws. -/
def callbackCalls (tx : ℕ) : List (σ → Option σ) → Option ℕ → σ → List (Call σ)
  | [], _, _ => [.commit]
  | _ :: _, some 0, _ => [.rollback]
  | stmt :: stmts, some (k + 1), data =>
    .execute (.txClient tx) stmt ::
      (stmt data).elim [.rollback] (callbackCalls tx stmts (some k))
  | stmt :: stmts, none, data =>
    .execute (.txClient tx) stmt :: (stmt data).elim [.rollback] (callbackCalls tx stmts none)

/-- A step that a callback takes: one statement, and the rest of the callback if it succeeds. -/
lemma exists_run_execute {saved : Savepoint σ} {stmt : σ → Option σ} {rest : σ → List (Call σ)}
    {after : Option σ} (hopen : conn.inTransaction = some saved) (hbegun : saved.tx ∈ conn.begun)
    (hrest : ∀ data, stmt conn.data = some data → ∀ conn₁ : Connection σ, conn₁.data = data →
      conn₁.inTransaction = some saved → saved.tx ∈ conn₁.begun →
      ∃ conn', Run Connection.step conn₁ (rest data) conn' ∧ conn'.data = after.getD saved.data)
    (hafter : stmt conn.data = none → after = none) :
    ∃ conn', Run Connection.step conn
        (.execute (.txClient saved.tx) stmt :: (stmt conn.data).elim [.rollback] rest) conn' ∧
      conn'.data = after.getD saved.data := by
  have hstep : conn.step (.execute (.txClient saved.tx) stmt) =
      some (conn.run (.txClient saved.tx) stmt) := by
    simp [Connection.step, Connection.has, hbegun]
  cases hstmt : stmt conn.data with
  | none =>
    have hrun : conn.run (.txClient saved.tx) stmt = conn := by
      rw [Connection.run, hstmt]
    have hrollback : conn.step .rollback = some { conn with
        data := saved.data, applied := saved.applied, inTransaction := none } := by
      rw [Connection.step, hopen, Option.map_some]
    rw [hrun] at hstep
    refine ⟨_, .cons hstep (.cons hrollback (.nil _)), ?_⟩
    rw [hafter hstmt, Option.getD_none]
  | some data =>
    have hrun : conn.run (.txClient saved.tx) stmt =
        { conn with data := data, applied := conn.applied ++ [⟨.txClient saved.tx, stmt⟩] } := by
      rw [Connection.run, hstmt]
    rw [hrun] at hstep
    obtain ⟨conn', hrun', hdata⟩ := hrest data hstmt
      { conn with data := data, applied := conn.applied ++ [⟨.txClient saved.tx, stmt⟩] } rfl
      hopen hbegun
    exact ⟨conn', .cons hstep hrun', hdata⟩

/-- A callback that no other task disturbs commits all of its statements, or the connection is back
at the data of its `BEGIN`. -/
lemma exists_run_callback {saved : Savepoint σ} (stmts : List (σ → Option σ)) (fault : Option ℕ)
    (hopen : conn.inTransaction = some saved) (hbegun : saved.tx ∈ conn.begun) :
    ∃ conn', Run Connection.step conn (callbackCalls saved.tx stmts fault conn.data) conn' ∧
      conn'.data = (Transaction.attempt stmts fault conn.data).getD saved.data := by
  induction stmts generalizing conn fault with
  | nil =>
    have hcommit : conn.step .commit = some { conn with inTransaction := none } := by
      rw [Connection.step, hopen, Option.map_some]
    refine ⟨{ conn with inTransaction := none }, ?_, by simp⟩
    rw [callbackCalls]
    exact .cons hcommit (.nil _)
  | cons stmt stmts ih =>
    match fault with
    | some 0 =>
      have hrollback : conn.step .rollback = some { conn with
          data := saved.data, applied := saved.applied, inTransaction := none } := by
        rw [Connection.step, hopen, Option.map_some]
      exact ⟨_, .cons hrollback (.nil _), rfl⟩
    | some (k + 1) =>
      rw [callbackCalls]
      apply exists_run_execute hopen hbegun
      · intro data hstmt conn₁ hdata hopen₁ hbegun₁
        have hrun := ih (some k) hopen₁ hbegun₁
        rw [hdata] at hrun
        simpa [Transaction.attempt, hstmt] using hrun
      · intro hstmt
        simp [Transaction.attempt, hstmt]
    | none =>
      rw [callbackCalls]
      apply exists_run_execute hopen hbegun
      · intro data hstmt conn₁ hdata hopen₁ hbegun₁
        have hrun := ih none hopen₁ hbegun₁
        rw [hdata] at hrun
        simpa [hstmt] using hrun
      · intro hstmt
        simp [hstmt]

/-- A transaction that no other task disturbs is all or nothing. -/
theorem exists_run_transaction {tx : ℕ} {rest : List ℕ} (stmts : List (σ → Option σ))
    (fault : Option ℕ) (hidle : conn.inTransaction = none)
    (hturn : conn.sqliteTxMutex = tx :: rest) :
    ∃ conn', Run Connection.step conn
        (.beginTransaction :: callbackCalls tx stmts fault conn.data) conn' ∧
      conn'.data = Transaction.commitOrRollback stmts fault conn.data := by
  set begun : Connection σ := { conn with
    inTransaction := some ⟨tx, conn.data, conn.applied⟩
    sqliteTxMutex := rest
    begun := tx :: conn.begun } with hbegun
  have hbegin : conn.step .beginTransaction = some begun := by
    simp only [Connection.step, hidle, hturn, hbegun]
  have hopen : begun.inTransaction = some ⟨tx, conn.data, conn.applied⟩ := rfl
  obtain ⟨conn', hrun, hdata⟩ := exists_run_callback stmts fault hopen List.mem_cons_self
  exact ⟨conn', .cons hbegin hrun, hdata⟩

end Connection

/-- The insert of a settlement, which the double-entry ledger runs on the adapter itself. -/
def sampleSettlementInsert (db : Db) : Option Db :=
  (db.doubleEntryLedger.insert?
    ⟨"de_1", "opp_1", "PAYMENT_RECOVERED", "bank_settlement", "recovered_revenue", 100000, 1000,
      "", ""⟩).map fun t => { db with doubleEntryLedger := t }

/-- A direct write between `BEGIN` and `ROLLBACK` returns and is lost. -/
theorem direct_write_lost :
    ¬ ∀ calls, AllSteps Connection.step RollsBackOwn (.initial Db.empty) calls := by
  intro h
  have hall := h [.withTransaction 0, .beginTransaction, 
    .execute .adapter sampleSettlementInsert,
    .rollback]
  have hrollback := ((((hall _ rfl).2 _ rfl).2 _ rfl).2 _ rfl).1
  have hlost := hrollback.2 _ List.mem_cons_self rfl
  cases hlost

end DatabaseAdapter

end CtrlRecovery
