import Bifrostnms.Lib.Transaction
import Mathlib.Data.List.Induction

/-!
# The migrations of the agent's database (`storage/storage.go`)

`migrate` call by call of the driver: the table of the applied migrations, the
version, and one transaction for each migration that is missing.
-/

namespace Bifrostnms.Agent

open Bifrostnms.Lib Bifrostnms.Lib.TxProgram

/-- `CREATE TABLE` or `CREATE INDEX`, or the row of `synchronization_state`. -/
inductive SchemaStatement where
  | create (name : String)
  | insertSynchronizationState

structure AgentDatabase where
  schemaMigrations : List ℕ := []
  /-- The tables and indexes, in the order of creation. -/
  objects : List String := []
  synchronizationState : Bool := false

namespace AgentDatabase

def run (db : AgentDatabase) : SchemaStatement → Except String AgentDatabase
  | .create name =>
    if name ∈ db.objects then .error (name ++ " already exists")
    else .ok { db with objects := db.objects ++ [name] }
  | .insertSynchronizationState =>
    if "synchronization_state" ∉ db.objects then .error "no such table: synchronization_state"
    else if db.synchronizationState then .error "UNIQUE constraint failed"
    else .ok { db with synchronizationState := true }

/-- `SELECT COALESCE(MAX(version), 0) FROM schema_migrations`. -/
def schemaVersion (db : AgentDatabase) : ℕ := db.schemaMigrations.foldl max 0

/-- `INSERT INTO schema_migrations`. -/
def recordMigration (version : ℕ) (db : AgentDatabase) : Except String (Unit × AgentDatabase) :=
  if version ∈ db.schemaMigrations then .error "UNIQUE constraint failed"
  else .ok ((), { db with schemaMigrations := db.schemaMigrations ++ [version] })

end AgentDatabase

structure Migration where
  /-- The number that the name of the file begins with. -/
  version : ℕ
  script : List SchemaStatement

def currentSchemaVersion : ℕ := 3

/-- The embedded files, sorted by name. -/
def migrationFiles : List Migration := [
  ⟨1, [.create "agent_identity", .create "credentials", .create "configuration_snapshots",
    .create "configuration_one_active_idx"]⟩,
  ⟨2, [.create "pending_observations", .create "pending_observations_ready_idx",
    .create "rejected_observations", .create "synchronization_state",
    .insertSynchronizationState]⟩,
  ⟨3, [.create "scheduler_state"]⟩]

def applyMigration (m : Migration) : TxProgram AgentDatabase Unit :=
  transaction s!"begin migration {m.version}: " do
    exec s!"apply migration {m.version}: " fun db =>
      (m.script.foldlM AgentDatabase.run db).map fun db' => ((), db')
    exec s!"record migration {m.version}: " (AgentDatabase.recordMigration m.version)
    commit s!"commit migration {m.version}: "

/-- `migrate` once the version was read. -/
def migrateFrom (current : ℕ) : TxProgram AgentDatabase Unit :=
  if currentSchemaVersion < current then fail
    s!"agent database schema is newer than this binary supports: database={current} supported=3"
  else (migrationFiles.drop current).forM applyMigration

def migrate : TxProgram AgentDatabase Unit := do
  query "create schema migration table: " fun _ => ()
  if migrationFiles.length ≠ currentSchemaVersion then
    fail s!"embedded migration count = {migrationFiles.length}, expected {currentSchemaVersion}"
  else do
    let current ← query "read agent schema version: " AgentDatabase.schemaVersion
    migrateFrom current

end Bifrostnms.Agent
