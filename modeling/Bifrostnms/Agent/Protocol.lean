import Bifrostnms.Protocol

/-!
# Validating a configuration response (`protocol/types.go`)

`ConfigurationResponse.Validate` checks a response against the enrolled
identity and the agent's capabilities, rebuilds the canonical text that the
control plane hashed, and compares the digests. A monitor's configuration
arrives as raw JSON and goes through `any` on its way into that text, so its
numbers become doubles; the other numbers stay integers.
-/

namespace Bifrostnms.Agent

open Bifrostnms.Lib Bifrostnms.Protocol

inductive ValidateError where
  | version
  | identity
  | duplicate (monitorId : String)
  | capability (monitorId probeType : String)
  | schedule (monitorId : String)
  | hash
deriving DecidableEq

/-- The texts of the errors. -/
def ValidateError.message : ValidateError → String
  | .version => "unsupported configuration protocol or schema version"
  | .identity => "configuration identity does not match enrolled agent"
  | .duplicate monitorId => "duplicate monitor " ++ monitorId
  | .capability monitorId probeType =>
    "configuration requires an unsupported capability: monitor=" ++ monitorId ++
      " probe=" ++ probeType
  | .schedule monitorId => "invalid scheduling policy for monitor " ++ monitorId
  | .hash => "configuration content hash is invalid"

/-- `json.Marshal` of the raw configuration and `json.Unmarshal` into
`any`. -/
def decodeAny (configuration : Json JsonNum) : Json GoNum :=
  configuration.mapNum fun n => .float64 (JsonText.readFloat64 n)

/-- The map built for one monitor. -/
def monitorMap (m : MonitorConfiguration) : Json GoNum := .obj [("monitor_id", .str m.monitorId),
  ("target_id", .str m.targetId), ("monitor_revision", .num (.int m.monitorRevision)),
  ("target_address", .str m.targetAddress), ("probe_type", .str m.probeType),
  ("probe_schema_version", .num (.int m.probeSchemaVersion)),
  ("interval_seconds", .num (.int m.intervalSeconds)),
  ("timeout_seconds", .num (.int m.timeoutSeconds)), ("missed_run_policy", .str m.missedRunPolicy),
  ("configuration", decodeAny m.configuration)]

/-- The loop of `Validate` over the monitors, with the ids it has seen. -/
def validateMonitors (capabilities : Capabilities) :
    List String → List MonitorConfiguration → Except ValidateError Unit
  | _, [] => .ok ()
  | seen, m :: ms =>
    if m.monitorId ∈ seen then .error (.duplicate m.monitorId)
    else if !capabilities.supports m.probeType m.probeSchemaVersion then
      .error (.capability m.monitorId m.probeType)
    else if m.intervalSeconds < 1 ∨ m.timeoutSeconds < 1 ∨
        m.timeoutSeconds ≥ m.intervalSeconds ∨ m.missedRunPolicy ≠ "skip" then
      .error (.schedule m.monitorId)
    else validateMonitors capabilities (m.monitorId :: seen) ms

/-- The canonical map. -/
def canonicalMap (c : ConfigurationResponse) : Json GoNum := .obj [
  ("configuration_schema_version", .num (.int c.configurationSchemaVersion)),
  ("agent_id", .str c.agentId), ("realm_id", .str c.realmId),
  ("monitors", .arr (c.monitors.map monitorMap))]

/-- The canonical map as it is encoded: the keys of every map are sorted. -/
def canonicalValue (c : ConfigurationResponse) : Json GoNum :=
  (canonicalMap c).sortKeys utf8Le

/-- `json.Marshal` of the canonical map. -/
def canonicalBytes (c : ConfigurationResponse) : List UInt8 :=
  utf8 ((canonicalValue c).encode JsonText.goEncoder)

/-- `ConfigurationResponse.Validate`. -/
def validate (sha256 : List UInt8 → List UInt8) (c : ConfigurationResponse)
    (agentId realmId : String) (capabilities : Capabilities) :
    Except ValidateError (List UInt8) := do
  if c.protocolVersion ≠ 1 ∨ c.configurationSchemaVersion ≠ 1 ∨ c.revision < 1 then
    .error .version
  else if c.agentId ≠ agentId ∨ c.realmId ≠ realmId then .error .identity
  else
    validateMonitors capabilities [] c.monitors
    let canonical := canonicalBytes c
    let digest := "sha256:".toList ++ hexText (sha256 canonical)
    if equalFold digest c.contentHash.toList then .ok canonical
    else .error .hash

end Bifrostnms.Agent
