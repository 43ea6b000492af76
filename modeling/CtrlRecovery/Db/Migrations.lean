import CtrlRecovery.Core.Run
import CtrlRecovery.Core.SchemaScript
import CtrlRecovery.Db.NormalizeSql

/-!
# Migrations

The registered migrations and the runner that applies and rolls them back, each in a transaction of
its own. A migration tries to add the columns that a database may already have and goes on where that
fails; PostgreSQL does not go on, and rejects the rest of the transaction. A rollback selects the
last migrations by a slice whose start is the negated number of steps, so that no steps are all of
them.

Both runs do what they should under conditions on the schema, the recorded migrations and the number
of steps (`migrates_iff`). On SQLite an empty database keeps them through all runs upwards and
downwards (`migrates_of_run`).
-/

namespace CtrlRecovery

open Core Schema

/-- PostgreSQL aborts a transaction in which a statement fails, and minds foreign keys when tables
are created and dropped. SQLite only deletes, or releases, the rows that refer to a dropped table. -/
def DatabaseAdapter.Engine.isStrict : DatabaseAdapter.Engine → Bool
  | .postgreSQL => true
  | .sqlite     => false

namespace MigrationRunner

open DatabaseAdapter (Engine)

/-! ### The migrations -/

inductive DownStatement
  /-- `DROP TABLE IF EXISTS`. -/
  | dropTable (table : String)
  /-- `DROP INDEX IF EXISTS`. -/
  | dropIndex (index : String)
  deriving DecidableEq, Repr

/-- A migration; its checksum only decides about a warning. -/
structure Migration where
  id : String
  name : String
  up : List (Step String String)
  down : List DownStatement
  deriving DecidableEq, Repr

/-- `CREATE TABLE IF NOT EXISTS`. -/
def createTable (name : String) (columns references : List String) : Step String String :=
  .run (.createTable ⟨name, columns, references⟩)

/-- `CREATE INDEX IF NOT EXISTS`; an index of this name is one on these columns. -/
def createIndex (_index table : String) (columns : List String) : Step String String :=
  .run (.use table columns)

/-- `INSERT OR IGNORE`. -/
def insertOrIgnore (table : String) (columns : List String) : Step String String :=
  .run (.use table columns)

/-- `ALTER TABLE … ADD COLUMN` whose failure is caught. -/
def tryAddColumn (table column : String) : Step String String := .attempt [.addColumn table column]

/-- Several `CREATE INDEX IF NOT EXISTS` in one block whose failure is caught. -/
def tryCreateIndexes (indexes : List (String × String × List String)) : Step String String :=
  .attempt (indexes.map fun index => .use index.2.1 index.2.2)

def migration001CoreSchema : Migration where
  id := "001"
  name := "core_financial_schema"
  up :=
    [createTable "customers" ["id", "merchant_id", "trust_score", "created_at"] [],
      tryAddColumn "customers" "merchant_id",
      createTable "recovery_opportunities" ["id", "merchant_id", "source", "amount_paise",
        "currency", "reason_code", "decline_type", "attempt_count", "customer_id",
        "customer_trust_score", "created_at", "status"] ["customers"],
      tryAddColumn "recovery_opportunities" "merchant_id",
      createTable "scores" ["opportunity_id", "natural_recovery_prob",
        "intervention_recovery_prob", "incremental_prob", "operational_cost_paise",
        "fatigue_cost_paise", "expected_incremental_value_paise",
        "confidence"] ["recovery_opportunities"],
      createTable "allocation_decisions" ["opportunity_id", "decision", "rank_in_batch",
        "shadow_price_paise_at_decision", "reason"] ["recovery_opportunities"],
      createTable "authority_checks" ["id", "opportunity_id", "check_name", "passed",
        "reason"] ["recovery_opportunities"],
      createTable "execution_records" ["opportunity_id", "razorpay_payment_link_id", "link_url",
        "status", "idempotency_key", "created_at"] ["recovery_opportunities"],
      createTable "ledger_entries" ["id", "opportunity_id", "event_type", "amount_paise",
        "timestamp", "raw_payload_ref"] ["recovery_opportunities"]]
  down := ["ledger_entries", "execution_records", "authority_checks", "allocation_decisions",
    "scores", "recovery_opportunities", "customers"].map DownStatement.dropTable

def migration002AgentSchema : Migration where
  id := "002"
  name := "agent_intelligence_schema"
  up :=
    [createTable "agent_runs" ["id", "mission_id", "opportunity_id", "goal_type", "status",
        "start_time", "end_time", "total_steps", "llm_calls", "tool_calls", "replan_count",
        "total_tokens", "latency_ms", "termination_reason",
        "created_at"] ["recovery_opportunities"],
      createTable "agent_states" ["id", "run_id", "state", "previous_state", "trigger", "metadata",
        "timestamp"] ["agent_runs"],
      createTable "agent_steps" ["id", "run_id", "step_number", "state", "observation", "thought",
        "action_type", "action_payload", "tool_name", "tool_input", "tool_output",
        "timestamp"] ["agent_runs"],
      createTable "agent_tool_calls" ["id", "run_id", "tool_name", "agent_name", "input_payload",
        "input_hash", "output_payload", "output_hash", "status", "latency_ms", "error_message",
        "permission_level", "created_at"] ["agent_runs"],
      createTable "agent_plans" ["id", "run_id", "plan_version", "goal", "steps",
        "validity_assumptions", "candidate_actions", "preferred_action", "status",
        "invalidation_reason", "created_at"] ["agent_runs"],
      createTable "agent_hypotheses" ["id", "run_id", "failure_category", "root_cause_hypothesis",
        "confidence", "supporting_evidence", "created_at"] ["agent_runs"],
      createTable "agent_proposals" ["id", "run_id", "opportunity_id", "proposal_type", "payload",
        "status", "review_notes", "created_at"] ["agent_runs", "recovery_opportunities"],
      createTable "agent_memories" ["id", "memory_type", "run_id", "opportunity_id",
        "failure_type", "context_summary", "action_taken", "predicted_outcome", "actual_outcome",
        "prediction_error", "semantic_key", "semantic_value", "confidence", "provenance",
        "created_at"] [],
      createTable "agent_outcomes" ["id", "run_id", "opportunity_id", "predicted_recovery_prob",
        "actual_recovered", "prediction_error", "actual_revenue_paise", "operational_cost_paise",
        "net_gain_paise", "customer_response",
        "evaluated_at"] ["agent_runs", "recovery_opportunities"],
      createTable "agent_authority_checks" ["id", "run_id", "tool_name", "agent_name",
        "check_name", "passed", "reason", "timestamp"] ["agent_runs"],
      createTable "llm_invocations" ["id", "run_id", "model", "provider", "prompt_hash",
        "prompt_preview", "completion_hash", "completion_preview", "reasoning_preview",
        "latency_ms", "prompt_tokens", "completion_tokens", "total_tokens", "error",
        "created_at"] ["agent_runs"],
      createTable "outreach_drafts" ["id", "run_id", "opportunity_id", "channel", "recipient",
        "subject", "body", "compliance_footer", "status", "review_feedback",
        "created_at"] ["agent_runs", "recovery_opportunities"],
      createTable "perception_annotations" ["id", "opportunity_id", "failure_intent",
        "customer_urgency_score", "merchant_risk_score", "semantic_notes", "confidence",
        "created_at"] ["recovery_opportunities"]]
  down := ["perception_annotations", "outreach_drafts", "llm_invocations",
    "agent_authority_checks", "agent_outcomes", "agent_memories", "agent_proposals",
    "agent_hypotheses", "agent_plans", "agent_tool_calls", "agent_steps", "agent_states",
    "agent_runs"].map DownStatement.dropTable

def migration003IndexesAndJsonb : Migration where
  id := "003"
  name := "indexes_and_performance_optimization"
  up :=
    [createIndex "idx_opps_status" "recovery_opportunities" ["status"],
      createIndex "idx_opps_customer" "recovery_opportunities" ["customer_id"],
      createIndex "idx_opps_merchant" "recovery_opportunities" ["merchant_id"],
      createIndex "idx_ledger_opp" "ledger_entries" ["opportunity_id"],
      createIndex "idx_ledger_timestamp" "ledger_entries" ["timestamp"],
      createIndex "idx_auth_opp" "authority_checks" ["opportunity_id"],
      createIndex "idx_alloc_rank" "allocation_decisions" ["rank_in_batch"],
      createIndex "idx_agent_runs_status" "agent_runs" ["status"],
      createIndex "idx_agent_runs_opp" "agent_runs" ["opportunity_id"],
      createIndex "idx_agent_states_run" "agent_states" ["run_id"],
      createIndex "idx_agent_steps_run" "agent_steps" ["run_id", "step_number"],
      createIndex "idx_agent_tool_calls_run" "agent_tool_calls" ["run_id"],
      createIndex "idx_agent_plans_run" "agent_plans" ["run_id", "plan_version"],
      createIndex "idx_agent_proposals_opp" "agent_proposals" ["opportunity_id"],
      createIndex "idx_agent_memories_type" "agent_memories" ["memory_type"],
      createIndex "idx_agent_memories_created" "agent_memories" ["created_at"],
      createIndex "idx_llm_invocations_run" "llm_invocations" ["run_id"]]
  down := ["idx_opps_status", "idx_opps_customer", "idx_opps_merchant", "idx_ledger_opp",
    "idx_ledger_timestamp", "idx_auth_opp", "idx_alloc_rank", "idx_agent_runs_status",
    "idx_agent_runs_opp", "idx_agent_states_run", "idx_agent_steps_run",
    "idx_agent_tool_calls_run", "idx_agent_plans_run", "idx_agent_proposals_opp",
    "idx_agent_memories_type", "idx_agent_memories_created",
    "idx_llm_invocations_run"].map DownStatement.dropIndex

def tablesToTenantScope : List String :=
  ["customers", "recovery_opportunities", "scores",
    "allocation_decisions", "authority_checks", "execution_records", "ledger_entries",
    "agent_runs", "agent_memories", "agent_outcomes", "outreach_drafts", "perception_annotations",
    "double_entry_ledger"]

def migration004TenancyAndAuth : Migration where
  id := "004"
  name := "v6_tenancy_and_auth_schema"
  up :=
    [createTable "tenants" ["id", "name", "slug", "environment", "status", "created_at"] [],
      createTable "organizations" ["id", "tenant_id", "name", "created_at"] ["tenants"],
      createTable "users" ["id", "email", "name", "password_hash", "mfa_enabled", "mfa_secret",
        "created_at"] [],
      createTable "memberships" ["id", "user_id", "tenant_id", "role",
        "created_at"] ["users", "tenants"],
      createTable "sessions" ["id", "user_id", "tenant_id", "token_hash", "role", "ip_address",
        "user_agent", "expires_at", "created_at", "revoked_at"] ["users", "tenants"],
      createTable "api_keys" ["id", "tenant_id", "name", "key_prefix", "key_id", "secret_hash",
        "environment", "scopes", "created_at", "last_used_at", "expires_at",
        "revoked_at"] ["tenants"],
      createTable "audit_records" ["id", "tenant_id", "actor_id", "actor_type", "action",
        "resource_type", "resource_id", "payload", "ip_address", "timestamp"] ["tenants"],
      createTable "tenant_credentials" ["id", "tenant_id", "provider", "environment",
        "credential_reference", "encrypted_data", "iv", "auth_tag", "created_at",
        "updated_at"] ["tenants"]] ++
    tablesToTenantScope.map (tryAddColumn · "tenant_id") ++
    [createIndex "idx_memberships_user" "memberships" ["user_id"],
      createIndex "idx_memberships_tenant" "memberships" ["tenant_id"],
      createIndex "idx_sessions_token_hash" "sessions" ["token_hash"],
      createIndex "idx_api_keys_key_id" "api_keys" ["key_id"],
      createIndex "idx_api_keys_tenant" "api_keys" ["tenant_id"],
      createIndex "idx_audit_tenant" "audit_records" ["tenant_id"],
      createIndex "idx_audit_timestamp" "audit_records" ["timestamp"]]
  down := ["tenant_credentials", "audit_records", "api_keys", "sessions", "memberships", "users",
    "organizations", "tenants"].map DownStatement.dropTable

def migration005TenantScoping : Migration where
  id := "005"
  name := "tenant_scoping_saas"
  up :=
    [insertOrIgnore "tenants" ["id", "name", "slug", "environment", "status", "created_at"],
      tryAddColumn "tenants" "capacity_limit",
      tryAddColumn "tenants" "kill_switch_active",
      tryAddColumn "tenants" "razorpay_account_id",
      tryAddColumn "recovery_opportunities" "tenant_id",
      tryCreateIndexes
        [("idx_opp_tenant_status", "recovery_opportunities", ["tenant_id", "status"]),
          ("idx_opp_tenant_created", "recovery_opportunities", ["tenant_id", "created_at"])],
      tryAddColumn "customers" "tenant_id",
      tryCreateIndexes [("idx_customers_tenant", "customers", ["tenant_id"])],
      tryAddColumn "scores" "tenant_id",
      tryAddColumn "allocation_decisions" "tenant_id",
      tryAddColumn "authority_checks" "tenant_id",
      tryAddColumn "execution_records" "tenant_id",
      tryAddColumn "ledger_entries" "tenant_id",
      tryCreateIndexes [("idx_ledger_tenant", "ledger_entries", ["tenant_id"])],
      tryAddColumn "double_entry_ledger" "tenant_id",
      tryAddColumn "agent_runs" "tenant_id",
      tryCreateIndexes [("idx_agent_runs_tenant", "agent_runs", ["tenant_id"])]]
  -- added columns are not dropped
  down := []

def registeredMigrations : List Migration :=
  [migration001CoreSchema, migration002AgentSchema, migration003IndexesAndJsonb,
    migration004TenancyAndAuth, migration005TenantScoping]

/-! ### The runner -/

/-- A row of `schema_migrations`; the time and the duration are left out. -/
structure AppliedMigrationRecord where
  id : String
  name : String
  deriving DecidableEq, Repr

structure Database where
  schema : Schema String String
  schemaMigrations : Table AppliedMigrationRecord.id

def Migration.record (migration : Migration) : AppliedMigrationRecord :=
  ⟨migration.id, migration.name⟩

def AppliedMigrationRecord.label (row : AppliedMigrationRecord) : String := row.id ++ "_" ++ row.name

/-- `SELECT … FROM schema_migrations ORDER BY id ASC`. -/
def getAppliedMigrations (db : Database) : List AppliedMigrationRecord :=
  db.schemaMigrations.rows.insertionSort fun row row' => row.id ≤ row'.id

structure UpResult where
  applied : List String
  skipped : List String
  deriving DecidableEq, Repr

/-- A migration and its record in one transaction; `none` when it is rolled back. -/
def applyMigration (engine : Engine) (db : Database) (migration : Migration) : Option Database := do
  let schema ← commit engine.isStrict db.schema migration.up
  let schemaMigrations ← db.schemaMigrations.insert? migration.record
  return ⟨schema, schemaMigrations⟩

/-- The loop over the migrations, with the rows that were read before it; no result when it
throws. -/
def migrateUpFrom (engine : Engine) (appliedMap : Table AppliedMigrationRecord.id) :
    Database → UpResult → List Migration → Database × Option UpResult
  | db, result, []                       => (db, some result)
  | db, result, migration :: migrations =>
    let label := migration.record.label
    if (appliedMap.find? migration.id).isSome then
      migrateUpFrom engine appliedMap db { result with skipped := result.skipped ++ [label] }
        migrations
    else match applyMigration engine db migration with
      | some db' =>
        migrateUpFrom engine appliedMap db' { result with applied := result.applied ++ [label] }
          migrations
      | none     => (db, none)

def migrateUp (engine : Engine) (db : Database) : Database × Option UpResult :=
  migrateUpFrom engine db.schemaMigrations db ⟨[], []⟩ registeredMigrations

/-- The tables that a migration drops, in their order; nothing depends on an index. -/
def Migration.droppedTables (migration : Migration) : List String :=
  migration.down.filterMap fun
    | .dropTable table => some table
    | .dropIndex _     => none

/-- The rollback of a migration and of its record in one transaction. -/
def rollBackMigration (engine : Engine) (db : Database) (migration : Migration) :
    Option Database := do
  let schema ← dropTables engine.isStrict db.schema migration.droppedTables
  return ⟨schema, db.schemaMigrations.erase migration.id⟩

/-- The loop over the rows to roll back. -/
def migrateDownFrom (engine : Engine) :
    Database → List String → List AppliedMigrationRecord → Database × Option (List String)
  | db, rolledBack, []             => (db, some rolledBack)
  | db, rolledBack, applied :: rows =>
    match registeredMigrations.find? (·.id = applied.id) with
    | none           => (db, none)
    | some migration =>
      match rollBackMigration engine db migration with
      | none     => (db, none)
      | some db' => migrateDownFrom engine db' (rolledBack ++ [migration.record.label]) rows

/-- `rows.slice(-steps)`: negative zero is zero, and nothing is left out. -/
def sliceBack {α : Type*} (steps : ℕ) (rows : List α) : List α :=
  if steps = 0 then rows else rows.drop (rows.length - steps)

def migrateDown (engine : Engine) (steps : ℕ) (db : Database) : Database × Option (List String) :=
  let appliedRows := getAppliedMigrations db
  if appliedRows.isEmpty then (db, some [])
  else migrateDownFrom engine db [] (sliceBack steps appliedRows).reverse

/-! ### What the runs owe -/

def upStatements (migrations : List Migration) : List (Statement String String) :=
  statements (migrations.map (·.up)).flatten

def isPending (db : Database) (migration : Migration) : Bool :=
  (db.schemaMigrations.find? migration.id).isNone

def pendingMigrations (db : Database) : List Migration :=
  registeredMigrations.filter (isPending db ·)

/-- The migrations that a rollback is about are those with the largest ids, the last one first. -/
def mostRecent (steps : ℕ) (db : Database) : List AppliedMigrationRecord :=
  let appliedRows := getAppliedMigrations db
  (appliedRows.drop (appliedRows.length - min steps appliedRows.length)).reverse

def tablesOf (row : AppliedMigrationRecord) : List String :=
  ((registeredMigrations.find? (·.id = row.id)).map Migration.droppedTables).getD []

/-- The pending migrations are applied and recorded, in ascending order, and what all the registered
migrations create and add is there. -/
structure MigratedUp (db : Database) (outcome : Database × Option UpResult) : Prop where
  returns : outcome.2 = some ⟨(pendingMigrations db).map (·.record.label),
    (registeredMigrations.filter (!isPending db ·)).map (·.record.label)⟩
  recorded : outcome.1.schemaMigrations.rows =
    db.schemaMigrations.rows ++ (pendingMigrations db).map Migration.record
  ascending : ((pendingMigrations db).map (·.id)).Pairwise (· < ·)
  once : ∀ migration ∈ registeredMigrations,
    outcome.1.schemaMigrations.rows.countP (·.id = migration.id) = 1
  provided : Provided outcome.1.schema (upStatements registeredMigrations)

/-- The most recent migrations are rolled back, and no other ones. -/
structure RolledBack (steps : ℕ) (db : Database) (outcome : Database × Option (List String)) :
    Prop where
  returns : outcome.2 = some ((mostRecent steps db).map AppliedMigrationRecord.label)
  recorded : ∀ row, row ∈ outcome.1.schemaMigrations.rows ↔
    row ∈ db.schemaMigrations.rows ∧ row ∉ mostRecent steps db
  tables : ∀ table, outcome.1.schema.find? table =
    if table ∈ (mostRecent steps db).flatMap tablesOf then none else db.schema.find? table

def OnlyRegistered (db : Database) : Prop :=
  ∀ row ∈ db.schemaMigrations.rows, row ∈ registeredMigrations.map Migration.record

/-- When the pending migrations can be applied: the schema and they have, between them, everything
that the registered migrations create and add; and on PostgreSQL every column that they add is missing
before, in a table that is there or created by them, and is added by one of them only. -/
structure CanMigrateUp (engine : Engine) (db : Database) : Prop where
  completes : Completes db.schema (upStatements (pendingMigrations db))
    (upStatements registeredMigrations)
  fresh : engine = .postgreSQL → ∀ table column,
    .addColumn table column ∈ upStatements (pendingMigrations db) →
      Fresh db.schema (upStatements (pendingMigrations db)) table column
  distinct : engine = .postgreSQL → DistinctAdds (upStatements (pendingMigrations db))

/-- When the most recent migrations are rolled back: there is a step, or nothing is recorded; and on
PostgreSQL whatever refers to a dropped table is dropped before it. -/
structure CanMigrateDown (engine : Engine) (steps : ℕ) (db : Database) : Prop where
  some_steps : steps ≠ 0 ∨ db.schemaMigrations.rows = []
  order : engine = .postgreSQL → DropsInOrder db.schema ((mostRecent steps db).flatMap tablesOf)

/-! ### Applying the pending migrations -/

/-- What is checked of the registered migrations once and for all. -/
private lemma registered_checks : Ordered (upStatements registeredMigrations) ∧
    (registeredMigrations.map (·.up)).flatten.all Step.isTolerant = true ∧
    (registeredMigrations.map (·.id)).Pairwise (· < ·) ∧
    selfSupplied (upStatements registeredMigrations) ∧
    registeredMigrations.all (fun migration => migration.droppedTables.all fun table =>
      (statements migration.up).any (·.creates table fun _ => true)) = true := by
  decide +kernel

lemma ordered_registered : Ordered (upStatements registeredMigrations) := registered_checks.1

lemma tolerant_registered : Tolerant (registeredMigrations.map (·.up)).flatten :=
  List.all_eq_true.mp registered_checks.2.1

lemma ascending_registered : (registeredMigrations.map (·.id)).Pairwise (· < ·) :=
  registered_checks.2.2.1

lemma nodup_registered : (registeredMigrations.map (·.id)).Nodup :=
  ascending_registered.imp fun h => h.ne

lemma selfSupplied_registered : selfSupplied (upStatements registeredMigrations) :=
  registered_checks.2.2.2.1

lemma exists_createTable_of_dropped {migration : Migration} (h : migration ∈ registeredMigrations)
    {table : String} (hdropped : table ∈ migration.droppedTables) :
    ∃ info, .createTable info ∈ statements migration.up ∧ info.name = table := by
  have hcreates := List.all_eq_true.mp
    (List.all_eq_true.mp registered_checks.2.2.2.2 migration h) table hdropped
  obtain ⟨info, hinfo, hname, -⟩ := exists_createTable hcreates
  exact ⟨info, hinfo, hname⟩

section Up

variable {engine : Engine} {db db' : Database} {migrations : List Migration} {s' : Schema String String}

lemma isStrict_iff : engine.isStrict ↔ engine = .postgreSQL := by
  cases engine <;> simp [DatabaseAdapter.Engine.isStrict]

lemma applyMigration_eq_some {migration : Migration}
    (hcommit : commit engine.isStrict db.schema migration.up = some s')
    (hnew : ∀ row ∈ db.schemaMigrations.rows, row.id ≠ migration.id) :
    ∃ db', applyMigration engine db migration = some db' ∧ db'.schema = s' ∧
      db'.schemaMigrations.rows = db.schemaMigrations.rows ++ [migration.record] := by
  have hkey : migration.record.id ∉ db.schemaMigrations.rows.map (·.id) := by
    intro hmem
    obtain ⟨row, hrow, heq⟩ := List.mem_map.mp hmem
    exact hnew row hrow heq
  obtain ⟨rows, hrows⟩ := Table.exists_insert? hkey
  refine ⟨⟨s', rows⟩, ?_, rfl, Table.rows_of_insert? hrows⟩
  simp [applyMigration, hcommit, hrows]

/-- The loop applies what was not recorded before it, if all of its scripts commit, and throws
otherwise. -/
lemma migrateUpFrom_spec (engine : Engine) (db₀ db : Database) (result : UpResult)
    (hnodup : (migrations.map (·.id)).Nodup)
    (hnew : ∀ migration ∈ migrations, isPending db₀ migration →
      ∀ row ∈ db.schemaMigrations.rows, row.id ≠ migration.id) :
    match commitAll engine.isStrict db.schema
      ((migrations.filter (isPending db₀ ·)).map (·.up)) with
    | some s' => ∃ db', migrateUpFrom engine db₀.schemaMigrations db result migrations =
        (db', some ⟨result.applied ++ (migrations.filter (isPending db₀ ·)).map (·.record.label),
          result.skipped ++ (migrations.filter (!isPending db₀ ·)).map (·.record.label)⟩) ∧
        db'.schema = s' ∧ db'.schemaMigrations.rows =
          db.schemaMigrations.rows ++ (migrations.filter (isPending db₀ ·)).map Migration.record
    | none => (migrateUpFrom engine db₀.schemaMigrations db result migrations).2 = none := by
  induction migrations generalizing db result with
  | nil => exact ⟨db, by simp [migrateUpFrom], rfl, by simp⟩
  | cons migration migrations ih =>
    obtain ⟨hhead, htail⟩ := List.nodup_cons.mp hnodup
    obtain ⟨hfirst, hrest⟩ := List.forall_mem_cons.mp hnew
    rw [migrateUpFrom]
    cases hfind : db₀.schemaMigrations.find? migration.id with
    | some row =>
      have hpending : isPending db₀ migration = false := by simp [isPending, hfind]
      have hskip := ih db { result with
        skipped := result.skipped ++ [migration.record.label] } htail hrest
      simpa [hpending] using hskip
    | none =>
      have hpending : isPending db₀ migration = true := by simp [isPending, hfind]
      simp only [hpending, Option.isSome_none, Bool.false_eq_true, if_false,
        List.filter_cons_of_pos, List.map_cons, commitAll]
      cases hcommit : commit engine.isStrict db.schema migration.up with
      | none =>
        have hfails : applyMigration engine db migration = none := by simp [applyMigration, hcommit]
        simp [hfails]
      | some s₁ =>
        obtain ⟨db₁, happly, rfl, hrows⟩ := applyMigration_eq_some hcommit (hfirst hpending)
        have hnext := ih db₁ { result with
          applied := result.applied ++ [migration.record.label] } htail <| by
            intro other hother hstill row hrow
            rw [hrows, List.mem_append, List.mem_singleton] at hrow
            rcases hrow with hrow | rfl
            · exact hrest other hother hstill row hrow
            · exact fun heq => hhead (List.mem_map.mpr ⟨other, hother, heq.symm⟩)
        simp only [Option.bind_some, happly]
        revert hnext
        cases commitAll engine.isStrict db₁.schema
          ((migrations.filter (isPending db₀ ·)).map (·.up)) with
        | none => exact id
        | some s' =>
          rintro ⟨db', hresult, hschema, hrows'⟩
          refine ⟨db', ?_, hschema, by simp [hrows', hrows]⟩
          simpa [hpending] using hresult

lemma pending_sublist (db : Database) :
    (upStatements (pendingMigrations db)).Sublist (upStatements registeredMigrations) :=
  statements_sublist (List.filter_sublist.map _)

lemma tolerant_pending (db : Database) : Tolerant ((pendingMigrations db).map (·.up)).flatten := by
  intro step hstep
  refine tolerant_registered step ?_
  exact (List.filter_sublist.map _).flatten.subset hstep

lemma ascending_pending (db : Database) : ((pendingMigrations db).map (·.id)).Pairwise (· < ·) :=
  ascending_registered.sublist (List.filter_sublist.map _)

lemma not_recorded {migration : Migration} (hpending : isPending db migration) :
    ∀ row ∈ db.schemaMigrations.rows, row.id ≠ migration.id :=
  Table.find?_eq_none_iff.mp (Option.isNone_iff_eq_none.mp hpending)

/-- A run leaves the effects of all pending migrations and their records, if it does not throw. -/
lemma migrateUp_eq_some (hcommit : commitAll engine.isStrict db.schema
    ((pendingMigrations db).map (·.up)) = some s') :
    ∃ db', migrateUp engine db = (db', some ⟨(pendingMigrations db).map (·.record.label),
        (registeredMigrations.filter (!isPending db ·)).map (·.record.label)⟩) ∧
      db'.schema = s' ∧ db'.schemaMigrations.rows =
        db.schemaMigrations.rows ++ (pendingMigrations db).map Migration.record := by
  have hspec := migrateUpFrom_spec engine db db ⟨[], []⟩ nodup_registered
    fun _ _ hpending => not_recorded hpending
  rw [pendingMigrations] at hcommit
  rwa [hcommit] at hspec

lemma migrateUp_eq_none (hcommit : commitAll engine.isStrict db.schema
    ((pendingMigrations db).map (·.up)) = none) : (migrateUp engine db).2 = none := by
  have hspec := migrateUpFrom_spec engine db db ⟨[], []⟩ nodup_registered
    fun _ _ hpending => not_recorded hpending
  rw [pendingMigrations] at hcommit
  rwa [hcommit] at hspec

/-- What is pending and what is recorded are all the registered migrations. -/
lemma countP_recorded {migration : Migration} (hmem : migration ∈ registeredMigrations)
    (hrows : db'.schemaMigrations.rows =
      db.schemaMigrations.rows ++ (pendingMigrations db).map Migration.record) :
    db'.schemaMigrations.rows.countP (·.id = migration.id) = 1 := by
  have hkey : migration.id ∈ db'.schemaMigrations.rows.map (·.id) := by
    rw [hrows, List.map_append, List.mem_append]
    cases hfind : db.schemaMigrations.find? migration.id with
    | none =>
      have hpending : migration ∈ pendingMigrations db :=
        List.mem_filter.mpr ⟨hmem, by simp [isPending, hfind]⟩
      exact .inr (by simpa using ⟨migration, hpending, rfl⟩)
    | some row =>
      obtain ⟨hrow, hid⟩ := Table.find?_eq_some_iff.mp hfind
      exact .inl (List.mem_map.mpr ⟨row, hrow, hid⟩)
  have hcount := List.count_eq_one_of_mem db'.schemaMigrations.nodup hkey
  rwa [List.count, List.countP_map] at hcount

/-- The run does what it should exactly where the conditions hold. -/
lemma migratedUp_iff : MigratedUp db (migrateUp engine db) ↔ CanMigrateUp engine db := by
  have hordered : Ordered (upStatements (pendingMigrations db)) :=
    ordered_registered.sublist (pending_sublist db)
  have hsupplied : Provided (db.schema.effects (upStatements (pendingMigrations db)))
      (upStatements registeredMigrations) → Supplied db.schema (upStatements (pendingMigrations db)) :=
    supplied_of_provided selfSupplied_registered (pending_sublist db).subset
  constructor
  · intro h
    cases hcommit : commitAll engine.isStrict db.schema ((pendingMigrations db).map (·.up)) with
    | none => exact absurd (h.returns.symm.trans (migrateUp_eq_none hcommit)) (by simp)
    | some s' =>
      obtain ⟨db', heq, rfl, -⟩ := migrateUp_eq_some hcommit
      have heffects := ((commitAll_iff (tolerant_pending db)).mp hcommit).2
      have hprovided := h.provided
      rw [heq, heffects] at hprovided
      rw [heffects] at hcommit
      have hstrict := (exists_commitAll_iff hordered (tolerant_pending db)
        (hsupplied hprovided)).mp hcommit
      exact ⟨(provided_effects_iff ordered_registered (pending_sublist db)).mp hprovided,
        fun hpg => (hstrict (isStrict_iff.mpr hpg)).1, fun hpg => (hstrict (isStrict_iff.mpr hpg)).2⟩
  · intro h
    have hprovided := (provided_effects_iff ordered_registered (pending_sublist db)).mpr h.completes
    have hcommit := (exists_commitAll_iff hordered (tolerant_pending db) (hsupplied hprovided)).mpr
      fun hstrict => ⟨h.fresh (isStrict_iff.mp hstrict), h.distinct (isStrict_iff.mp hstrict)⟩
    obtain ⟨db', heq, hschema, hrows⟩ := migrateUp_eq_some hcommit
    rw [heq]
    refine ⟨rfl, hrows, ascending_pending db, fun migration hmem => countP_recorded hmem hrows, ?_⟩
    rw [hschema]
    exact hprovided

end Up

/-! ### Rolling back the most recent ones -/

section Down

variable {engine : Engine} {db : Database} {steps : ℕ}
  {rows : List AppliedMigrationRecord} {row : AppliedMigrationRecord}

lemma find?_registered (h : row ∈ registeredMigrations.map Migration.record) :
    ∃ migration, registeredMigrations.find? (·.id = row.id) = some migration ∧
      migration.record = row ∧ tablesOf row = migration.droppedTables := by
  obtain ⟨migration, hmem, rfl⟩ := List.mem_map.mp h
  have hfind : registeredMigrations.find? (·.id = migration.record.id) = some migration := by
    obtain ⟨other, hother⟩ : ∃ other, registeredMigrations.find? (·.id = migration.record.id) =
        some other := by
      rw [← Option.isSome_iff_exists, List.find?_isSome]
      exact ⟨migration, hmem, by simp [Migration.record]⟩
    have htest := List.find?_some hother
    have hid : other.id = migration.id := of_decide_eq_true htest
    rw [hother, List.inj_on_of_nodup_map nodup_registered (List.mem_of_find?_eq_some hother) hmem hid]
  exact ⟨migration, hfind, rfl, by simp [tablesOf, hfind]⟩

/-- The loop drops the tables of its rows and the rows, and throws where a table cannot be
dropped. -/
lemma migrateDownFrom_spec (engine : Engine) (db : Database) (rolledBack : List String)
    (h : ∀ row ∈ rows, row ∈ registeredMigrations.map Migration.record) :
    match dropTables engine.isStrict db.schema (rows.flatMap tablesOf) with
    | some s' => ∃ db', migrateDownFrom engine db rolledBack rows =
        (db', some (rolledBack ++ rows.map AppliedMigrationRecord.label)) ∧ db'.schema = s' ∧
        ∀ row, row ∈ db'.schemaMigrations.rows ↔
          row ∈ db.schemaMigrations.rows ∧ row.id ∉ rows.map (·.id)
    | none => (migrateDownFrom engine db rolledBack rows).2 = none := by
  induction rows generalizing db rolledBack with
  | nil => exact ⟨db, by simp [migrateDownFrom], rfl, by simp⟩
  | cons row rows ih =>
    obtain ⟨hrow, hrows⟩ := List.forall_mem_cons.mp h
    obtain ⟨migration, hfind, rfl, htables⟩ := find?_registered hrow
    rw [List.flatMap_cons, dropTables_append, migrateDownFrom, hfind, htables]
    cases hdrop : dropTables engine.isStrict db.schema migration.droppedTables with
    | none => simp [rollBackMigration, hdrop]
    | some s₁ =>
      have hnext := ih ⟨s₁, db.schemaMigrations.erase migration.id⟩
        (rolledBack ++ [migration.record.label]) hrows
      have hback : rollBackMigration engine db migration =
          some ⟨s₁, db.schemaMigrations.erase migration.id⟩ := by simp [rollBackMigration, hdrop]
      simp only [Option.bind_some, hback]
      revert hnext
      cases dropTables engine.isStrict s₁ (rows.flatMap tablesOf) with
      | none => exact id
      | some s' =>
        rintro ⟨db', hresult, hschema, hleft⟩
        refine ⟨db', by simpa using hresult, hschema, fun row => ?_⟩
        rw [hleft, Table.mem_erase, List.map_cons, List.mem_cons, not_or, and_assoc]
        rfl

lemma migrateDown_eq : migrateDown engine steps db =
    migrateDownFrom engine db [] (sliceBack steps (getAppliedMigrations db)).reverse := by
  rw [migrateDown]
  split_ifs with hempty
  · rw [List.isEmpty_iff.mp hempty]
    simp [sliceBack, migrateDownFrom]
  · rfl

lemma sliceBack_subset {α : Type*} {xs : List α} : sliceBack steps xs ⊆ xs := by
  rw [sliceBack]
  split_ifs
  · exact fun _ => id
  · exact List.drop_subset _ _

lemma reverse_sliceBack (h : steps ≠ 0 ∨ db.schemaMigrations.rows = []) :
    (sliceBack steps (getAppliedMigrations db)).reverse = mostRecent steps db := by
  rw [sliceBack, mostRecent]
  split_ifs with hsteps
  · have hrows : getAppliedMigrations db = [] := by
      rw [getAppliedMigrations, h.resolve_left (not_not_intro hsteps), List.insertionSort_nil]
    simp [hrows]
  · have hstart : (getAppliedMigrations db).length - steps = (getAppliedMigrations db).length -
        min steps (getAppliedMigrations db).length := by omega
    rw [hstart]

lemma mem_getAppliedMigrations : row ∈ getAppliedMigrations db ↔ row ∈ db.schemaMigrations.rows :=
  List.mem_insertionSort _

lemma mem_of_mem_mostRecent (h : row ∈ mostRecent steps db) : row ∈ db.schemaMigrations.rows :=
  mem_getAppliedMigrations.mp (List.mem_of_mem_drop (List.mem_reverse.mp h))

lemma id_mem_iff (hrows : ∀ row ∈ rows, row ∈ db.schemaMigrations.rows)
    (h : row ∈ db.schemaMigrations.rows) : row.id ∈ rows.map (·.id) ↔ row ∈ rows := by
  refine ⟨fun hid => ?_, fun hmem => List.mem_map.mpr ⟨row, hmem, rfl⟩⟩
  obtain ⟨row', hmem, heq⟩ := List.mem_map.mp hid
  rwa [db.schemaMigrations.eq_of_key_eq h (hrows row' hmem) heq.symm]

/-- Without a step nothing is to be rolled back, yet everything is. -/
lemma not_rolledBack (h : OnlyRegistered db) (hrows : db.schemaMigrations.rows ≠ []) :
    ¬ RolledBack 0 db (migrateDown engine 0 db) := by
  intro hback
  have hmost : mostRecent 0 db = [] := by simp [mostRecent]
  have hall : (sliceBack 0 (getAppliedMigrations db)).reverse =
      (getAppliedMigrations db).reverse := rfl
  have hmem : ∀ row ∈ (getAppliedMigrations db).reverse,
      row ∈ registeredMigrations.map Migration.record :=
    fun row hrow => h row (mem_getAppliedMigrations.mp (List.mem_reverse.mp hrow))
  have hspec := migrateDownFrom_spec engine db [] hmem
  have hreturns := hback.returns
  rw [migrateDown_eq, hall, hmost] at hreturns
  cases hdrop : dropTables engine.isStrict db.schema
      ((getAppliedMigrations db).reverse.flatMap tablesOf) with
  | none =>
    rw [hdrop] at hspec
    exact absurd (hspec.symm.trans hreturns) (by simp)
  | some s' =>
    rw [hdrop] at hspec
    obtain ⟨db', heq, -⟩ := hspec
    rw [heq] at hreturns
    have hnil : getAppliedMigrations db = [] := by simpa using hreturns
    obtain ⟨row, hrow⟩ := List.exists_mem_of_ne_nil _ hrows
    have hmem := mem_getAppliedMigrations.mpr hrow
    rw [hnil] at hmem
    cases hmem

lemma rolledBack_iff (h : OnlyRegistered db) :
    RolledBack steps db (migrateDown engine steps db) ↔ CanMigrateDown engine steps db := by
  by_cases hsteps : steps ≠ 0 ∨ db.schemaMigrations.rows = []
  case neg =>
    obtain ⟨hzero, hrows⟩ := not_or.mp hsteps
    obtain rfl := not_not.mp hzero
    exact iff_of_false (not_rolledBack h hrows) fun hcan => hsteps hcan.some_steps
  have hmem : ∀ row ∈ mostRecent steps db, row ∈ registeredMigrations.map Migration.record :=
    fun row hrow => h row (mem_of_mem_mostRecent hrow)
  have hspec := migrateDownFrom_spec engine db [] hmem
  rw [← reverse_sliceBack hsteps, ← migrateDown_eq, reverse_sliceBack hsteps] at hspec
  constructor
  · intro hback
    refine ⟨hsteps, fun hpg => ?_⟩
    have hsome : (dropTables engine.isStrict db.schema
        ((mostRecent steps db).flatMap tablesOf)).isSome := by
      by_contra hnone
      rw [Option.not_isSome_iff_eq_none.mp hnone] at hspec
      exact absurd (hspec.symm.trans hback.returns) (by simp)
    exact isSome_dropTables_iff.mp hsome (isStrict_iff.mpr hpg)
  · intro hcan
    obtain ⟨s', hdrop⟩ := Option.isSome_iff_exists.mp <|
      isSome_dropTables_iff.mpr fun hstrict => hcan.order (isStrict_iff.mp hstrict)
    rw [hdrop] at hspec
    obtain ⟨db', heq, rfl, hleft⟩ := hspec
    rw [heq]
    refine ⟨rfl, fun row => ?_, fun table => find?_of_dropTables hdrop⟩
    rw [hleft]
    exact and_congr_right fun hrow =>
      not_congr (id_mem_iff (fun _ hmem => mem_of_mem_mostRecent hmem) hrow)

end Down

/-! ### Both runs -/

lemma completes_empty : Completes Table.empty (upStatements (pendingMigrations ⟨.empty, .empty⟩))
    (upStatements registeredMigrations) :=
  completes_self fun _ => Bool.false_ne_true

/-- The pending migrations are applied and the most recent ones rolled back exactly where the
conditions on the schema, the recorded migrations and the number of steps hold. -/
theorem migrates_iff {engine : Engine} {steps : ℕ} {db : Database} (h : OnlyRegistered db) :
    (MigratedUp db (migrateUp engine db) ∧ RolledBack steps db (migrateDown engine steps db)) ↔
      CanMigrateUp engine db ∧ CanMigrateDown engine steps db :=
  and_congr migratedUp_iff (rolledBack_iff h)

/-- SQLite migrates an empty database. -/
theorem migrates_empty : MigratedUp ⟨.empty, .empty⟩ (migrateUp .sqlite ⟨.empty, .empty⟩) ∧
    RolledBack 1 ⟨.empty, .empty⟩ (migrateDown .sqlite 1 ⟨.empty, .empty⟩) := by
  have hregistered : OnlyRegistered ⟨.empty, .empty⟩ := fun _ hrow => by cases hrow
  exact (migrates_iff hregistered).mpr ⟨⟨completes_empty, nofun, nofun⟩, ⟨.inr rfl, nofun⟩⟩

/-- PostgreSQL does not: the first migration finds a column that it has just created. And without a
step, what is recorded is rolled back all the same. -/
theorem not_migrates : ¬ MigratedUp ⟨.empty, .empty⟩ (migrateUp .postgreSQL ⟨.empty, .empty⟩) ∧
    ¬ RolledBack 0 ⟨.empty, Table.empty.put migration001CoreSchema.record⟩
      (migrateDown .sqlite 0 ⟨.empty, Table.empty.put migration001CoreSchema.record⟩) := by
  constructor
  · intro h
    have hthrows : (migrateUp .postgreSQL ⟨.empty, .empty⟩).2 = none := by decide +kernel
    exact absurd (hthrows.symm.trans h.returns) (by simp)
  · intro h
    have hall : (migrateDown .sqlite 0 ⟨.empty, Table.empty.put migration001CoreSchema.record⟩).2 =
        some ["001_core_financial_schema"] := by decide +kernel
    exact absurd (hall.symm.trans h.returns) (by simp [mostRecent])

/-! ### Whole runs -/

inductive Action
  | up
  | down (steps : ℕ)

def step (engine : Engine) (db : Database) : Action → Option Database
  | .up         => some (migrateUp engine db).1
  | .down steps => some (migrateDown engine steps db).1

/-- The records are those of registered migrations, nothing is recorded after a migration that is not,
and the records fit the schema. -/
structure Consistent (db : Database) : Prop where
  registered : OnlyRegistered db
  closed : ∀ migration ∈ registeredMigrations, ∀ later ∈ registeredMigrations,
    migration.id ≤ later.id → isPending db migration → isPending db later
  completes : Completes db.schema (upStatements (pendingMigrations db))
    (upStatements registeredMigrations)

section Runs

variable {db : Database} {migration later : Migration} {stmt stmt' : Statement String String}
  {migrations : List Migration} {steps : ℕ}

lemma upStatements_eq_flatMap :
    upStatements migrations = migrations.flatMap fun migration => statements migration.up := by
  rw [upStatements, statements, ← List.flatMap_def]
  exact List.flatMap_assoc

lemma mem_upStatements : stmt ∈ upStatements migrations ↔
    ∃ migration ∈ migrations, stmt ∈ statements migration.up := by
  rw [upStatements_eq_flatMap, List.mem_flatMap]

/-- The statements of a migration may stand before those of a later one, but not the other way round. -/
lemma mayPrecede_of_lt (h : migration ∈ registeredMigrations) (h' : later ∈ registeredMigrations)
    (hlt : migration.id < later.id) (hstmt : stmt ∈ statements migration.up)
    (hstmt' : stmt' ∈ statements later.up) : mayPrecede stmt stmt' := by
  have hordered := ordered_registered
  rw [Ordered, upStatements_eq_flatMap, List.pairwise_flatMap] at hordered
  obtain ⟨i, hi, rfl⟩ := List.mem_iff_getElem.mp h
  obtain ⟨j, hj, rfl⟩ := List.mem_iff_getElem.mp h'
  have hascending := List.pairwise_map.mp ascending_registered
  rcases Nat.lt_trichotomy i j with hij | rfl | hji
  · exact List.pairwise_iff_getElem.mp hordered.2 i j hi hj hij stmt hstmt stmt' hstmt'
  · exact absurd hlt (lt_irrefl _)
  · exact absurd hlt (lt_asymm (List.pairwise_iff_getElem.mp hascending j i hj hi hji))

lemma isPending_iff : isPending db migration ↔
    ∀ row ∈ db.schemaMigrations.rows, row.id ≠ migration.id := by
  rw [isPending, Option.isNone_iff_eq_none, Table.find?_eq_none_iff]

lemma consistent_empty : Consistent ⟨.empty, .empty⟩ where
  registered _ h := by cases h
  closed _ _ _ _ _ _ := rfl
  completes := completes_empty

lemma Consistent.canMigrateUp (h : Consistent db) : CanMigrateUp .sqlite db :=
  ⟨h.completes, nofun, nofun⟩

/-- After a run upwards nothing is pending, and everything is there. -/
lemma Consistent.migrateUp (h : Consistent db) : Consistent (migrateUp .sqlite db).1 := by
  have hup : MigratedUp db (MigrationRunner.migrateUp .sqlite db) :=
    migratedUp_iff.mpr h.canMigrateUp
  have hrecorded : ∀ migration ∈ registeredMigrations,
      ¬ isPending (MigrationRunner.migrateUp .sqlite db).1 migration := by
    intro migration hmem hpending
    have hcount := hup.once migration hmem
    rw [List.countP_eq_zero.mpr fun row hrow => by simpa using isPending_iff.mp hpending row hrow]
      at hcount
    cases hcount
  have hnil : pendingMigrations (MigrationRunner.migrateUp .sqlite db).1 = [] :=
    List.filter_eq_nil_iff.mpr hrecorded
  refine ⟨fun row hrow => ?_, fun migration hmem _ _ _ hpending => ?_, ?_⟩
  · rw [hup.recorded, List.mem_append] at hrow
    rcases hrow with hrow | hrow
    · exact h.registered row hrow
    · exact (List.filter_sublist.map _).subset hrow
  · exact absurd hpending (hrecorded migration hmem)
  · rw [hnil]
    exact (provided_effects_iff ordered_registered (List.nil_sublist _)).mp hup.provided

/-- On SQLite a run downwards drops the tables of the rows of its slice, and the rows. -/
lemma migrateDown_sqlite (h : OnlyRegistered db) (steps : ℕ) :
    (∀ row, row ∈ (migrateDown .sqlite steps db).1.schemaMigrations.rows ↔
      row ∈ db.schemaMigrations.rows ∧ row ∉ sliceBack steps (getAppliedMigrations db)) ∧
    ∀ table, (migrateDown .sqlite steps db).1.schema.find? table =
      if table ∈ (sliceBack steps (getAppliedMigrations db)).reverse.flatMap tablesOf then none
      else db.schema.find? table := by
  have hmem : ∀ row ∈ (sliceBack steps (getAppliedMigrations db)).reverse,
      row ∈ db.schemaMigrations.rows := fun row hrow =>
    mem_getAppliedMigrations.mp (sliceBack_subset (List.mem_reverse.mp hrow))
  have hsome : (dropTables Engine.sqlite.isStrict db.schema
      ((sliceBack steps (getAppliedMigrations db)).reverse.flatMap tablesOf)).isSome :=
    isSome_dropTables_iff.mpr nofun
  obtain ⟨s', hdrop⟩ := Option.isSome_iff_exists.mp hsome
  have hspec := migrateDownFrom_spec .sqlite db [] fun row hrow => h row (hmem row hrow)
  rw [hdrop, ← migrateDown_eq] at hspec
  obtain ⟨db', heq, rfl, hleft⟩ := hspec
  rw [heq]
  refine ⟨fun row => ?_, fun table => find?_of_dropTables hdrop⟩
  rw [hleft]
  refine and_congr_right fun hrow => not_congr ?_
  rw [id_mem_iff hmem hrow, List.mem_reverse]

lemma le_of_mem_sliceBack {row row' : AppliedMigrationRecord}
    (h : row ∈ sliceBack steps (getAppliedMigrations db)) (h' : row' ∈ db.schemaMigrations.rows)
    (hnot : row' ∉ sliceBack steps (getAppliedMigrations db)) : row'.id ≤ row.id := by
  have hmem : row' ∈ getAppliedMigrations db := mem_getAppliedMigrations.mpr h'
  rw [sliceBack] at h hnot
  split_ifs at h hnot
  · exact absurd hmem hnot
  · have hsorted : (getAppliedMigrations db).Pairwise fun row row' => row.id ≤ row'.id :=
      List.pairwise_insertionSort _ _
    rw [← List.take_append_drop ((getAppliedMigrations db).length - steps)
      (getAppliedMigrations db)] at hsorted hmem
    exact (List.pairwise_append.mp hsorted).2.2 row'
      ((List.mem_append.mp hmem).resolve_right hnot) row h

section Downwards

variable (h : Consistent db) (steps : ℕ)

include h

lemma Consistent.isPending_migrateDown (hpending : isPending db migration) :
    isPending (migrateDown .sqlite steps db).1 migration := by
  refine isPending_iff.mpr fun row hrow => ?_
  exact isPending_iff.mp hpending row (((migrateDown_sqlite h.registered steps).1 row).mp hrow).1

lemma Consistent.isPending_of_mem_sliceBack {row : AppliedMigrationRecord}
    (hrow : row ∈ sliceBack steps (getAppliedMigrations db)) (hid : row.id = migration.id) :
    isPending (migrateDown .sqlite steps db).1 migration := by
  refine isPending_iff.mpr fun row' hrow' hid' => ?_
  obtain ⟨hold, hnot⟩ := ((migrateDown_sqlite h.registered steps).1 row').mp hrow'
  have heq : row' = row := db.schemaMigrations.eq_of_key_eq hold
    (mem_getAppliedMigrations.mp (sliceBack_subset hrow)) (hid'.trans hid.symm)
  exact hnot (heq ▸ hrow)

/-- No record is left after a missing one. -/
lemma Consistent.closed_migrateDown (hmem : migration ∈ registeredMigrations)
    (hlater : later ∈ registeredMigrations) (hle : migration.id ≤ later.id)
    (hpending : isPending (migrateDown .sqlite steps db).1 migration) :
    isPending (migrateDown .sqlite steps db).1 later := by
  have hrows := (migrateDown_sqlite h.registered steps).1
  by_cases hbefore : isPending db migration
  · exact h.isPending_migrateDown steps (h.closed migration hmem later hlater hle hbefore)
  · obtain ⟨row, hold, hid⟩ : ∃ row ∈ db.schemaMigrations.rows, row.id = migration.id := by
      simpa [isPending_iff] using hbefore
    have hslice : row ∈ sliceBack steps (getAppliedMigrations db) := by
      by_contra hkept
      exact isPending_iff.mp hpending row ((hrows row).mpr ⟨hold, hkept⟩) hid
    refine isPending_iff.mpr fun row' hrow' hid' => ?_
    obtain ⟨hold', hnot⟩ := (hrows row').mp hrow'
    have hge : later.id ≤ migration.id := hid' ▸ hid ▸ le_of_mem_sliceBack hslice hold' hnot
    have hback := h.isPending_of_mem_sliceBack steps hslice (hid.trans (le_antisymm hle hge))
    exact isPending_iff.mp hback row' hrow' hid'

/-- What is dropped is created by a migration that is pending again. -/
lemma Consistent.createTable_mem_of_dropped {info : TableInfo String String}
    (hinfo : .createTable info ∈ upStatements registeredMigrations)
    (hdropped : info.name ∈ (sliceBack steps (getAppliedMigrations db)).reverse.flatMap tablesOf) :
    .createTable info ∈ upStatements (pendingMigrations (migrateDown .sqlite steps db).1) := by
  obtain ⟨row, hrow, htable⟩ := List.mem_flatMap.mp hdropped
  have hslice := List.mem_reverse.mp hrow
  obtain ⟨migration, hfind, rfl, htables⟩ := find?_registered <|
    h.registered row (mem_getAppliedMigrations.mp (sliceBack_subset hslice))
  have hmem := List.mem_of_find?_eq_some hfind
  rw [htables] at htable
  obtain ⟨info', hinfo', hname⟩ := exists_createTable_of_dropped hmem htable
  have heq : info' = info := createTable_unique ordered_registered
    (mem_upStatements.mpr ⟨migration, hmem, hinfo'⟩) hinfo hname
  have hpending := h.isPending_of_mem_sliceBack steps hslice rfl
  exact mem_upStatements.mpr ⟨migration, List.mem_filter.mpr ⟨hmem, hpending⟩, heq ▸ hinfo'⟩

lemma Consistent.addColumn_mem_of_created {table column : String} {info : TableInfo String String}
    (hadd : .addColumn table column ∈ upStatements registeredMigrations)
    (hinfo : .createTable info ∈ upStatements (pendingMigrations (migrateDown .sqlite steps db).1))
    (hname : info.name = table) :
    .addColumn table column ∈ upStatements (pendingMigrations (migrateDown .sqlite steps db).1) := by
  obtain ⟨migration, hpending, hinfo⟩ := mem_upStatements.mp hinfo
  obtain ⟨later, hlater, hadd⟩ := mem_upStatements.mp hadd
  obtain ⟨hmem, hpending⟩ := List.mem_filter.mp hpending
  have hle : migration.id ≤ later.id := by
    refine not_lt.mp fun hlt => ?_
    exact table_ne_of_mayPrecede (mayPrecede_of_lt hlater hmem hlt hadd hinfo) hname.symm
  have hstill := h.closed_migrateDown steps hmem hlater hle hpending
  exact mem_upStatements.mpr ⟨later, List.mem_filter.mpr ⟨hlater, hstill⟩, hadd⟩

lemma Consistent.migrateDown : Consistent (migrateDown .sqlite steps db).1 where
  registered row hrow :=
    h.registered row (((migrateDown_sqlite h.registered steps).1 row).mp hrow).1
  closed _ hmem _ hlater := h.closed_migrateDown steps hmem hlater
  completes := by
    refine h.completes.drop (fun stmt hstmt => ?_) (migrateDown_sqlite h.registered steps).2
      (fun info => h.createTable_mem_of_dropped steps)
      (fun table column info => h.addColumn_mem_of_created steps)
    obtain ⟨migration, hmem, hstmt⟩ := mem_upStatements.mp hstmt
    obtain ⟨hregistered, hpending⟩ := List.mem_filter.mp hmem
    exact mem_upStatements.mpr
      ⟨migration, List.mem_filter.mpr ⟨hregistered, h.isPending_migrateDown steps hpending⟩, hstmt⟩

end Downwards

/-- What holds of an empty database on SQLite holds after any runs upwards and downwards: the next run
upwards does what it should, and so does the next one downwards, if it is by a step at least. -/
theorem migrates_of_run {actions : List Action} (hrun : Run (step .sqlite) ⟨.empty, .empty⟩ actions db)
    (steps : ℕ) : MigratedUp db (migrateUp .sqlite db) ∧
      (steps ≠ 0 → RolledBack steps db (migrateDown .sqlite steps db)) := by
  have hconsistent : Consistent db := by
    refine Run.invariant (fun db action db' h hstep => ?_) hrun consistent_empty
    cases action with
    | up =>
      cases hstep
      exact h.migrateUp
    | down steps =>
      cases hstep
      exact h.migrateDown steps
  exact ⟨migratedUp_iff.mpr hconsistent.canMigrateUp,
    fun hsteps => (rolledBack_iff hconsistent.registered).mpr ⟨.inl hsteps, nofun⟩⟩

/-- Up, two back and up again. -/
theorem migrates_again : ∃ db, Run (step .sqlite) ⟨.empty, .empty⟩ [.up, .down 2, .up] db ∧
    MigratedUp db (migrateUp .sqlite db) ∧ RolledBack 3 db (migrateDown .sqlite 3 db) := by
  obtain ⟨db, hrun⟩ : ∃ db, Run (step .sqlite) ⟨.empty, .empty⟩ [.up, .down 2, .up] db :=
    ⟨_, .cons rfl (.cons rfl (.cons rfl (.nil _)))⟩
  have hmigrates := migrates_of_run hrun 3
  exact ⟨db, hrun, hmigrates.1, hmigrates.2 (by decide)⟩

end Runs

end MigrationRunner

end CtrlRecovery
