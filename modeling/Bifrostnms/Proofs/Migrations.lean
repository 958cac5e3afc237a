import Bifrostnms.Agent.Migrations

/-!
# Migrations that are interrupted

A migration and its record are one transaction, so a start that stops anywhere
leaves the database between two migrations (`schemaAt`), and the next one goes on
from there.
-/

namespace Bifrostnms.Proofs

open Bifrostnms.Lib Bifrostnms.Lib.TxProgram Bifrostnms.Agent

def created? : SchemaStatement → Option String
  | .create name => some name
  | .insertSynchronizationState => none

/-- The database after `k` migrations: each was recorded and has created its
objects, once and in order. -/
def schemaAt (k : ℕ) : AgentDatabase where
  schemaMigrations := List.range' 1 k
  objects := (migrationFiles.take k).flatMap fun m => m.script.filterMap created?
  synchronizationState := decide (2 ≤ k)

/-- What a start gives that begins after `k` migrations: how many there are then,
and that it returns when nothing fails. -/
def Advances (k : ℕ) (failures : List (Option String))
    (r : Except String Unit × Connection AgentDatabase) : Prop :=
  ∃ k', k ≤ k' ∧ k' ≤ currentSchemaVersion ∧ r.2.committed = schemaAt k' ∧
    (r.1 = .ok () → k' = currentSchemaVersion) ∧ (failures = [] → r.1 = .ok ())

variable {k : ℕ} (failures : List (Option String))

theorem advances_failed {e : String} {rest : List (Option String)}
    (hk : k ≤ currentSchemaVersion) (hfailed : failures ≠ []) :
    Advances k failures (.error e, ⟨schemaAt k, none, rest⟩) :=
  ⟨k, Nat.le_refl k, hk, rfl, nofun, fun h => absurd h hfailed⟩

/-- Each file takes the database from one version to the next. -/
theorem migration_next {m : Migration} (h : migrationFiles[k]? = some m) :
    ∃ db, m.script.foldlM AgentDatabase.run (schemaAt k) = .ok db ∧
      db.recordMigration m.version = .ok ((), schemaAt (k + 1)) := by
  match k with
  | 0 | 1 | 2 => cases h; exact ⟨_, rfl, rfl⟩
  | _ + 3 => cases h

theorem applyMigration_run {m : Migration} (h : migrationFiles[k]? = some m) :
    (∃ e rest, applyMigration m ⟨schemaAt k, none, failures⟩ =
      (.error e, ⟨schemaAt k, none, rest⟩) ∧ failures ≠ []) ∨
    ∃ rest, applyMigration m ⟨schemaAt k, none, failures⟩ =
      (.ok (), ⟨schemaAt (k + 1), none, rest⟩) ∧ (failures = [] → rest = []) := by
  obtain ⟨db, hscript, hrecord⟩ := migration_next h
  -- The calls of the transaction are the begin, two statements and the commit.
  rcases failures with _ | ⟨_ | _, _ | ⟨_ | _, _ | ⟨_ | _, _ | ⟨_ | _, rest⟩⟩⟩⟩ <;>
    simp [applyMigration, transaction, andThen, begin, exec, commit, call, bind, hscript, hrecord,
      Except.map]

theorem migrations_run (n : ℕ) (hk : k + n = currentSchemaVersion) : Advances k failures
      ((migrationFiles.drop k).forM applyMigration ⟨schemaAt k, none, failures⟩) := by
  induction n generalizing k failures with
  | zero =>
    cases hk
    exact ⟨_, Nat.le_refl _, Nat.le_refl _, rfl, fun _ => rfl, fun _ => rfl⟩
  | succ n ih =>
    have hlt : k < migrationFiles.length := show k < currentSchemaVersion by omega
    rw [List.drop_eq_getElem_cons hlt]
    show Advances k failures ((applyMigration _).andThen (fun _ => List.forM _ _) _)
    unfold andThen
    obtain ⟨e, rest, hrun, hfailed⟩ | ⟨rest, hrun, hrest⟩ :=
      applyMigration_run failures (List.getElem?_eq_getElem hlt)
    · rw [hrun]
      exact advances_failed failures (by omega) hfailed
    · rw [hrun]
      obtain ⟨k', hle, hk', hdb, hok, hreturns⟩ := ih (k := k + 1) rest (by omega)
      exact ⟨k', by omega, hk', hdb, hok, fun h => hreturns (hrest h)⟩

/-- Before the migrations a start creates the table and reads the version. -/
theorem migrate_cases (db : AgentDatabase) :
    (∃ e rest, migrate ⟨db, none, failures⟩ = (.error e, ⟨db, none, rest⟩) ∧ failures ≠ []) ∨
    ∃ rest, migrate ⟨db, none, failures⟩ = migrateFrom db.schemaVersion ⟨db, none, rest⟩ ∧
      (failures = [] → rest = []) := by
  match failures with
  | some _ :: _ | none :: some _ :: _ => exact .inl ⟨_, _, rfl, by simp⟩
  | [] | [none] | none :: none :: _ => exact .inr ⟨_, rfl, by simp⟩

theorem migrate_advances (hk : k ≤ currentSchemaVersion) :
    Advances k failures (migrate ⟨schemaAt k, none, failures⟩) := by
  have hversion : (schemaAt k).schemaVersion = k := by
    match k with
    | 0 | 1 | 2 | 3 => rfl
    | _ + 4 => exact absurd hk (by simp [currentSchemaVersion])
  obtain ⟨e, rest, hrun, hfailed⟩ | ⟨rest, hrun, hrest⟩ := migrate_cases failures (schemaAt k)
  · rw [hrun]
    exact advances_failed failures hk hfailed
  · rw [hrun, hversion, migrateFrom, if_neg (Nat.not_lt.mpr hk)]
    obtain ⟨k', hle, hk', hdb, hok, hreturns⟩ :=
      migrations_run rest (currentSchemaVersion - k) (Nat.add_sub_cancel' hk)
    exact ⟨k', hle, hk', hdb, hok, fun h => hreturns (hrest h)⟩

/-- The database after starts in which these calls failed. -/
def migrateAll (history : List (List (Option String))) : AgentDatabase :=
  history.foldl (fun db failures => (migrate ⟨db, none, failures⟩).2.committed) {}

/-- Wherever the starts before it were interrupted, a start finds the database
between two migrations and goes on: it never goes back, has every migration when
it returns, and returns when nothing fails. -/
theorem migrate_interrupted (history : List (List (Option String))) :
    ∃ k ≤ currentSchemaVersion, migrateAll history = schemaAt k ∧
      ∀ failures, Advances k failures (migrate ⟨migrateAll history, none, failures⟩) := by
  suffices hstart : ∃ k ≤ currentSchemaVersion, migrateAll history = schemaAt k by
    obtain ⟨k, hk, h⟩ := hstart
    exact ⟨k, hk, h, h ▸ (migrate_advances · hk)⟩
  induction history using List.reverseRecOn with
  | nil => exact ⟨0, Nat.zero_le _, rfl⟩
  | append_singleton history failures ih =>
    obtain ⟨k, hk, h⟩ := ih
    obtain ⟨k', -, hk', hdb, -⟩ := migrate_advances failures hk
    refine ⟨k', hk', ?_⟩
    rw [migrateAll, List.foldl_append]
    exact (congrArg (fun db => (migrate ⟨db, none, failures⟩).2.committed) h).trans hdb

end Bifrostnms.Proofs
