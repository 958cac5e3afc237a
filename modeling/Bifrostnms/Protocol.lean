import Bifrostnms.Lib.JsonText
import Bifrostnms.Lib.Text

/-!
# Messages of the agent protocol

The configuration response as the control plane issues it
(`AgentConfigurationResponse` in `schemas/agent_protocol.py`) and as the
agent decodes it (`protocol/types.go`). The two declare the same members
under the same names; UUIDs are texts on the wire. `generated_at` is not
read by any function modelled here.
-/

namespace Bifrostnms.Protocol

open Bifrostnms.Lib

structure ProbeCapability where
  schemaVersions : List ℤ
  available : Bool

/-- What an agent says it can run, by probe type. -/
structure Capabilities where
  probes : String → Option ProbeCapability

/-- An available probe family that lists the schema version. -/
def Capabilities.supports (c : Capabilities) (probeType : String) (schemaVersion : ℤ) : Bool :=
  match c.probes probeType with
  | none => false
  | some probe => probe.available && probe.schemaVersions.contains schemaVersion

structure MonitorConfiguration where
  monitorId : String
  targetId : String
  monitorRevision : ℤ
  targetAddress : String
  probeType : String
  probeSchemaVersion : ℤ
  intervalSeconds : ℤ
  timeoutSeconds : ℤ
  missedRunPolicy : String
  configuration : Json JsonNum

structure ConfigurationResponse where
  protocolVersion : ℤ := 1
  configurationSchemaVersion : ℤ := 1
  agentId : String
  realmId : String
  revision : ℤ
  contentHash : String
  monitors : List MonitorConfiguration

end Bifrostnms.Protocol
