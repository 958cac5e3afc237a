import Bifrostnms.Agent.Configuration
import Bifrostnms.Lib.Transaction

/-!
# The transaction of an activation (`storage/configuration.go`)

`ActivateConfiguration`, call by call of the driver, with the texts that errors
are wrapped with. A statement whose rows would break the primary key, the index
on the active row or a check fails, and any call may fail by itself.
-/

namespace Bifrostnms.Agent

open Bifrostnms.Lib Bifrostnms.Lib.TxProgram

instance (rows : List ConfigurationSnapshot) : Decidable (Keyed rows) :=
  decidable_of_iff ((rows.map ConfigurationSnapshot.revision).Nodup ∧
      ∀ a ∈ rows, ∀ b ∈ rows, a.active = true → b.active = true → a.revision = b.revision)
    ⟨fun h => ⟨h.1, h.2⟩, fun h => ⟨h.revision, h.active⟩⟩

/-- A statement that would leave these rows. -/
def ConfigurationTable.write (rows : List ConfigurationSnapshot) :
    Except String (Unit × ConfigurationTable) :=
  if h : Keyed rows then .ok ((), ⟨rows, h⟩) else .error "constraint failed"

/-- `INSERT INTO configuration_snapshots`, with the checks of its columns. -/
def ConfigurationTable.insertSnapshot (snapshot : ConfigurationSnapshot)
    (t : ConfigurationTable) : Except String (Unit × ConfigurationTable) :=
  if snapshot.revision ≤ 0 ∨ snapshot.schemaVersion ≤ 0 then .error "constraint failed"
  else ConfigurationTable.write (t.rows ++ [{ snapshot with
    validatedAt := none
    activatedAt := none
    active := false }])

def ensureConfigurationContentTx (snapshot : ConfigurationSnapshot) :
    TxProgram ConfigurationTable Unit := do
  let found ← query "read configuration revision: " fun t =>
    t.rows.find? fun row => row.revision == snapshot.revision
  match found with
  | some row =>
    if row.contentHash ≠ snapshot.contentHash ∨ row.payloadBytes ≠ snapshot.payloadBytes then
      fail "configuration revision has different content"
    else pure ()
  | none =>
    exec "store configuration snapshot: " (ConfigurationTable.insertSnapshot snapshot)

/-- `SET active = 0 WHERE active = 1` -/
def ConfigurationTable.clearActive (t : ConfigurationTable) :
    Except String (Unit × ConfigurationTable) :=
  ConfigurationTable.write (t.rows.map fun row =>
    if row.active then { row with active := false } else row)

/-- `SET validated_at = ?, activated_at = ?, active = 1 WHERE revision = ?` -/
def ConfigurationTable.activateRow (snapshot : ConfigurationSnapshot)
    (t : ConfigurationTable) : Except String (Unit × ConfigurationTable) :=
  ConfigurationTable.write (t.rows.map fun row =>
    if row.revision = snapshot.revision then { row with
      validatedAt := snapshot.validatedAt
      activatedAt := snapshot.activatedAt
      active := true }
    else row)

def ConfigurationTable.prune (t : ConfigurationTable) : Except String (Unit × ConfigurationTable) :=
  ConfigurationTable.write (pruneRetired t.rows)

/-- `ActivateConfiguration`. -/
def activateConfigurationTx (snapshot : ConfigurationSnapshot) :
    TxProgram ConfigurationTable Unit :=
  if snapshot.revision < 1 ∨ snapshot.contentHash = [] ∨
      snapshot.payloadBytes = [] ∨ snapshot.schemaVersion < 1 ∨
      snapshot.validatedAt = none ∨ snapshot.activatedAt = none then
    fail "validated configuration snapshot fields are required"
  else transaction "begin configuration activation: " do
    ensureConfigurationContentTx snapshot
    exec "clear active configuration: " ConfigurationTable.clearActive
    exec "activate configuration: " (ConfigurationTable.activateRow snapshot)
    exec "prune old configurations: " ConfigurationTable.prune
    commit "commit configuration activation: "

/-- A call of `ActivateConfiguration`, and what fails of the driver in it. -/
structure ActivationCall where
  snapshot : ConfigurationSnapshot
  failures : List (Option String) := []

/-- What the call returns, and the table it leaves. -/
def ConfigurationTable.perform (t : ConfigurationTable) (call : ActivationCall) :
    Except String Unit × ConfigurationTable :=
  let (result, c) := activateConfigurationTx call.snapshot
    { committed := t, failures := call.failures }
  (result, c.committed)

def activationStep (t : ConfigurationTable) (call : ActivationCall) :
    Option ConfigurationTable := some (t.perform call).2

end Bifrostnms.Agent
