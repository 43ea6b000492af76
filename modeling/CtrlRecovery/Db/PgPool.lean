import CtrlRecovery.Core.Run
import Mathlib.Logic.Function.Basic

/-!
# The PostgreSQL pool of the adapter

`query` and `execute` run on whichever idle connection the pool hands them, and `withTransaction`
keeps one connection from its `BEGIN` to its `COMMIT` or `ROLLBACK`. `setTenantContext` is one more
`execute`: its `SET LOCAL` is a transaction of its own, so that what it sets is gone before any
other statement runs. A statement runs for the tenant of its task exactly when the task has not set
a tenant at all (`runsAsTenant_iff`).
-/

namespace CtrlRecovery

open Core

namespace PgPool

/-- A connection: the value of `app.current_tenant_id` in its session, what `SET LOCAL` has made of
it in the current transaction, and the task that holds the connection as its client. -/
structure PgConnection where
  sessionTenantId : Option String
  localTenantId : Option String
  client : Option ℕ
  deriving DecidableEq, Repr

namespace PgConnection

/-- `current_setting('app.current_tenant_id')`. -/
def currentTenantId (conn : PgConnection) : Option String :=
  conn.localTenantId.or conn.sessionTenantId

/-- `SET LOCAL app.current_tenant_id`. -/
def setLocal (tenantId : String) (conn : PgConnection) : PgConnection :=
  { conn with localTenantId := some tenantId }

/-- The end of a transaction: what `SET LOCAL` has set in it is gone. -/
def endTransaction (conn : PgConnection) : PgConnection := { conn with localTenantId := none }

/-- A statement outside an explicit `BEGIN` is a transaction of its own. -/
def autocommit (statement : PgConnection → PgConnection) (conn : PgConnection) : PgConnection :=
  (statement conn).endTransaction

end PgConnection

/-- The connections of the pool, and the tenant that each task has set. -/
structure PgState where
  connections : ℕ → PgConnection
  contexts : ℕ → Option String

namespace PgState

/-- A pool whose sessions have no tenant, before any task has set one. -/
def fresh : PgState where
  connections := fun _ => ⟨none, none, none⟩
  contexts := fun _ => none

def isIdle (s : PgState) (connection : ℕ) : Bool := (s.connections connection).client.isNone

def update (s : PgState) (connection : ℕ) (f : PgConnection → PgConnection) : PgState :=
  { s with
    connections := Function.update s.connections connection (f (s.connections connection)) }

end PgState

/-- What a task asks of the adapter, with the connection that the pool hands it. -/
inductive PgCall
  | setTenantContext (task : ℕ) (tenantId : String) (connection : ℕ)
  /-- `query` or `execute` on the adapter. -/
  | query (task connection : ℕ)
  /-- `withTransaction`: a connection is checked out, and its transaction begins. -/
  | connect (task connection : ℕ)
  /-- `query` or `execute` on the client of a transaction. -/
  | clientQuery (task connection : ℕ)
  | commit (task connection : ℕ)
  | rollback (task connection : ℕ)

def step (s : PgState) : PgCall → Option PgState
  | .setTenantContext task tenantId connection =>
    if tenantId = "" then some s
    else if s.isIdle connection then
      some { s.update connection (.autocommit (.setLocal tenantId)) with
        contexts := Function.update s.contexts task (some tenantId) }
    else none
  | .query _ connection =>
    if s.isIdle connection then some (s.update connection (.autocommit id)) else none
  | .connect task connection =>
    if s.isIdle connection then
      some (s.update connection fun conn => { conn with client := some task })
    else none
  | .clientQuery task connection =>
    if (s.connections connection).client = some task then some s else none
  | .commit task connection =>
    if (s.connections connection).client = some task then
      some (s.update connection fun conn => { conn.endTransaction with client := none })
    else none
  | .rollback task connection =>
    if (s.connections connection).client = some task then
      some (s.update connection fun conn => { conn.endTransaction with client := none })
    else none

/-- The task and the connection of a call that runs a statement of the task. -/
def statementOf : PgCall → Option (ℕ × ℕ)
  | .query task connection       => some (task, connection)
  | .clientQuery task connection => some (task, connection)
  | _                            => none

/-- A statement runs in a session of the tenant that its task has set, and in no session of another
tenant. -/
def RunsAsTenant (s : PgState) (call : PgCall) (_ : PgState) : Prop :=
  ∀ statement ∈ statementOf call,
    (∀ tenantId ∈ s.contexts statement.1,
      (s.connections statement.2).currentTenantId = some tenantId) ∧
    ∀ tenantId ∈ (s.connections statement.2).currentTenantId,
      s.contexts statement.1 = some tenantId

/-- A statement whose task has not set its tenant. -/
def BeforeContext (s : PgState) (call : PgCall) (_ : PgState) : Prop :=
  ∀ statement ∈ statementOf call, s.contexts statement.1 = none

def Unset (s : PgState) : Prop := ∀ connection, (s.connections connection).currentTenantId = none

variable {s t : PgState} {call : PgCall}

lemma Unset.update (h : Unset s) {connection : ℕ} {f : PgConnection → PgConnection}
    (hf : ∀ conn : PgConnection, conn.currentTenantId = none → (f conn).currentTenantId = none) :
    Unset (s.update connection f) := by
  intro other
  simp only [PgState.update]
  rcases eq_or_ne other connection with rfl | hne
  · rw [Function.update_self]
    exact hf _ (h other)
  · rw [Function.update_of_ne hne]
    exact h other

lemma Unset.update_of_end (h : Unset s) {connection : ℕ} {f : PgConnection → PgConnection}
    (hlocal : ∀ conn, (f conn).localTenantId = none)
    (hsession : ∀ conn, (f conn).sessionTenantId = conn.sessionTenantId) :
    Unset (s.update connection f) := by
  refine h.update fun conn hconn => ?_
  rw [PgConnection.currentTenantId, Option.or_eq_none_iff] at hconn ⊢
  exact ⟨hlocal conn, (hsession conn).trans hconn.2⟩

/-- Whatever a call does to its connection, it ends its own transaction or opens one in which
nothing is set. -/
lemma unset_step (h : Unset s) (hstep : step s call = some t) : Unset t := by
  cases call with
  | setTenantContext task tenantId connection =>
    simp only [step] at hstep
    split_ifs at hstep
    · cases hstep
      exact h
    · cases hstep
      -- `SET LOCAL` ends with its own transaction
      exact h.update_of_end (fun conn => rfl) (fun conn => rfl)
  | query task connection =>
    simp only [step] at hstep
    split_ifs at hstep
    cases hstep
    exact h.update_of_end (fun conn => rfl) (fun conn => rfl)
  | connect task connection =>
    simp only [step] at hstep
    split_ifs at hstep
    cases hstep
    exact h.update fun conn hconn => hconn
  | clientQuery task connection =>
    simp only [step] at hstep
    split_ifs at hstep
    cases hstep
    exact h
  | commit task connection =>
    simp only [step] at hstep
    split_ifs at hstep
    cases hstep
    exact h.update_of_end (fun conn => rfl) (fun conn => rfl)
  | rollback task connection =>
    simp only [step] at hstep
    split_ifs at hstep
    cases hstep
    exact h.update_of_end (fun conn => rfl) (fun conn => rfl)

/-- In a pool whose sessions have no tenant, a statement runs for its tenant if none is set. -/
lemma runsAsTenant_step_iff (h : Unset s) :
    RunsAsTenant s call t ↔ BeforeContext s call t := by
  refine forall₂_congr fun statement _ => ?_
  rw [h statement.2]
  constructor
  · rintro ⟨hown, -⟩
    rw [Option.eq_none_iff_forall_ne_some]
    intro tenantId hcontext
    cases hown tenantId hcontext
  · intro hnone
    rw [hnone]
    exact ⟨nofun, nofun⟩

/-- In every run of the tasks, the statements run for the tenants of their tasks exactly when no task
runs a statement after it has set its tenant. -/
theorem runsAsTenant_iff (calls : List PgCall) :
    AllSteps step RunsAsTenant .fresh calls ↔ AllSteps step BeforeContext .fresh calls := by
  apply allSteps_iff_of_invariant
  · exact fun s call t h hstep => unset_step h hstep
  · exact fun s call t h _ => runsAsTenant_step_iff h
  · exact fun connection => rfl

/-- A task sets its tenant and queries, on the one connection of an otherwise idle pool. -/
theorem context_lost : ¬ ∀ calls, AllSteps step RunsAsTenant .fresh calls := by
  intro h
  have hquery := (h [.setTenantContext 0 "tenant_a" 0, .query 0 0]).at_step
    (.cons rfl (.nil _)) rfl
  cases (hquery (0, 0) rfl).1 "tenant_a" rfl

end PgPool

end CtrlRecovery
