import Bifrostnms.Backend.Configuration
import Bifrostnms.Lib.Runs

/-!
# The configuration rows of one agent (`agents/configuration.py`)

Three transactions write the rows of an agent: a configuration request, the
bump of its desired revision after a change to its monitors, and the
acknowledgement of a configuration that it has activated. Each of them locks
the row of `AgentConfigurationState`, so they happen one after the other.

An acknowledgement looks its snapshot up before it asks for the lock. Between
the two others may run, so it is two events here. A request that raises rolls
its transaction back.
-/

namespace Bifrostnms.Backend

open Bifrostnms.Lib Bifrostnms.Protocol

/-- The transaction of `_bump_configuration_revisions` for one agent. -/
def ConfigurationRows.bump (rows : ConfigurationRows) : ConfigurationRows :=
  { rows with state := { rows.state with
      desiredRevision := rows.state.desiredRevision + 1
      desiredContentHash := "" } }

/-- `content_hash.removeprefix("sha256:")`. -/
def digestOf (contentHash : String) : String :=
  if "sha256:".toList.isPrefixOf contentHash.toList then
    String.ofList (contentHash.toList.drop "sha256:".toList.length)
  else contentHash

/-- The first half of `acknowledge_configuration`: the snapshot was issued. -/
def ConfigurationRows.findAcknowledged (rows : ConfigurationRows)
    (revision : ℕ) (digest : String) : Except AgentProtocolError Unit :=
  if rows.snapshots.any fun s =>
      s.revision == revision && s.contentHash == digest then .ok ()
  else .error {
    statusCode := 409
    code := "unknown_configuration"
    message := "The acknowledged configuration was not issued to this agent."
    retryable := false }

/-- The second half of `acknowledge_configuration`, under the lock: a late
acknowledgement of an older revision changes nothing. -/
def ConfigurationRows.acknowledge (rows : ConfigurationRows) (revision : ℕ)
    (digest : String) : ConfigurationRows :=
  if rows.state.acknowledgedRevision ≤ revision then
    { rows with state := { rows.state with
        acknowledgedRevision := revision
        acknowledgedContentHash := digest } }
  else rows

/-- The rows of one agent, the acknowledgements that wait for the lock with
the revision and digest they looked up, and every result a request has
returned. -/
structure AgentConfigurations where
  rows : ConfigurationRows := {}
  acknowledging : List (ℕ × String) := []
  responses : List ConfigurationResult := []

/-- A request finds the capabilities and the assigned monitors as they are by
then. -/
inductive ConfigurationEvent where
  | request (operational : Option Capabilities) (monitors : List Monitor)
  | bump
  | acknowledge (revision : ℕ) (contentHash : String)
  | locked (i : ℕ)

def AgentConfigurations.step (sha256 : List UInt8 → List UInt8)
    (agentId realmId : Uuid) (s : AgentConfigurations) :
    ConfigurationEvent → Option AgentConfigurations
  | .request operational monitors =>
    match getOrCreateConfiguration sha256 agentId realmId operational monitors
        s.rows with
    | .error _ => some s
    | .ok (rows, result) =>
      some { s with rows := rows, responses := s.responses ++ [result] }
  | .bump => some { s with rows := s.rows.bump }
  | .acknowledge revision contentHash =>
    match s.rows.findAcknowledged revision (digestOf contentHash) with
    | .error _ => some s
    | .ok () => some { s with acknowledging :=
        s.acknowledging ++ [(revision, digestOf contentHash)] }
  | .locked i =>
    match s.acknowledging[i]? with
    | some (revision, digest) => some { s with
        rows := s.rows.acknowledge revision digest
        acknowledging := s.acknowledging.eraseIdx i }
    | none => none

end Bifrostnms.Backend
