import Bifrostnms.Backend.ProbeConfiguration
import Bifrostnms.Protocol

/-!
# Issuing configurations (`agents/configuration.py`, `monitoring/domain.py`)

`create_monitor` and `update_monitor_behavior` decide which monitors exist:
a schedule that passes `_validate_schedule` and a configuration that
`serialize_probe_configuration` returned, as the JSON column gives it back.
`get_or_create_configuration` turns the monitors assigned to an agent into
one document, hashes its canonical text, and stores a snapshot for the
desired revision; the configuration endpoint answers with that document.

The query for the assigned monitors is a parameter: the list it returns, in
the order of the monitor ids.
-/

namespace Bifrostnms.Backend

open Bifrostnms.Lib Bifrostnms.Protocol

/-! ## Monitors -/

inductive MonitoringDomainError where
  | interval
  | timeout
  | configuration (e : ConfigurationError)
deriving DecidableEq

def MonitoringDomainError.message : MonitoringDomainError → String
  | .interval => "Monitor interval must be at least one second"
  | .timeout =>
    "Monitor timeout must be positive and shorter than its interval"
  | .configuration (.field name) => name
  | .configuration (.value message) => message
  | .configuration (.plain message) => message

/-- `_validate_schedule`. -/
def validateSchedule (intervalSeconds timeoutSeconds : ℤ) : Except MonitoringDomainError Unit :=
  if intervalSeconds < 1 then .error .interval
  else if timeoutSeconds < 1 ∨ timeoutSeconds ≥ intervalSeconds then
    .error .timeout
  else .ok ()

/-- What a JSON column returns for a number written to it. PostgreSQL keeps
the value and not its spelling, so a double may come back as an integer, and
a negative zero without its sign. -/
structure JsonColumn where
  read : JsonNum → JsonNum
  read_int : ∀ n, read (.int n) = .int n
  read_float : ∀ d, (JsonText.readFloat64 (read (.float d))).value = d.value

/-- A row of the monitor table with its target's address. -/
structure Monitor where
  id : Uuid
  targetId : Uuid
  targetAddress : String
  probeType : ProbeType
  intervalSeconds : ℤ
  timeoutSeconds : ℤ
  revision : ℤ
  configuration : Json JsonNum

/-- The checks that `create_monitor` and `update_monitor_behavior` share,
and the columns they then write. -/
def storeMonitor (txt : PyText) (column : JsonColumn) (id targetId : Uuid)
    (targetAddress : String) (intervalSeconds timeoutSeconds revision : ℤ)
    (configuration : TypedProbeConfiguration) : Except MonitoringDomainError Monitor := do
  validateSchedule intervalSeconds timeoutSeconds
  match serializeProbeConfiguration txt configuration (some timeoutSeconds) with
  | .error e => .error (.configuration e)
  | .ok normalized => .ok {
      id := id
      targetId := targetId
      targetAddress := targetAddress
      probeType := configuration.probeType
      intervalSeconds := intervalSeconds
      timeoutSeconds := timeoutSeconds
      revision := revision
      configuration := normalized.mapNum column.read }

/-- A monitor the domain operations can leave in the table. -/
def Monitor.Stored (txt : PyText) (column : JsonColumn) (m : Monitor) : Prop :=
  ∃ configuration, storeMonitor txt column m.id m.targetId m.targetAddress
    m.intervalSeconds m.timeoutSeconds m.revision configuration = .ok m

/-! ## The configuration document -/

/-- `configuration.get("schema_version", 1)`, where it is an integer. -/
def schemaVersion : Json JsonNum → Option ℤ
  | .obj members =>
    match members.lookup "schema_version" with
    | none => some 1
    | some (.num (.int n)) => some n
    | some _ => none
  | _ => none

structure AgentProtocolError where
  statusCode : ℕ
  code : String
  message : String
  retryable : Bool
  details : List (String × String) := []
deriving DecidableEq

/-- `_check_capability`, with the schema version it found. -/
def checkCapability (capabilities : Capabilities) (m : Monitor) : Except AgentProtocolError ℤ :=
  let unsupported : AgentProtocolError := {
    statusCode := 409
    code := "incompatible_capability"
    message := "An assigned monitor is not supported by this agent."
    retryable := false
    details := [("monitor_id", m.id.text), ("probe_type", m.probeType.text)] }
  match schemaVersion m.configuration with
  | none => .error unsupported
  | some version =>
    if capabilities.supports m.probeType.text version then .ok version
    else .error unsupported

/-- One element of `entries`. -/
def entry (m : Monitor) (version : ℤ) : MonitorConfiguration where
  monitorId := m.id.text
  targetId := m.targetId.text
  monitorRevision := m.revision
  targetAddress := m.targetAddress
  probeType := m.probeType.text
  probeSchemaVersion := version
  intervalSeconds := m.intervalSeconds
  timeoutSeconds := m.timeoutSeconds
  missedRunPolicy := "skip"
  configuration := m.configuration

def entries (capabilities : Capabilities) (monitors : List Monitor) :
    Except AgentProtocolError (List MonitorConfiguration) :=
  monitors.mapM fun m => return entry m (← checkCapability capabilities m)

/-- An entry as the dictionary that is dumped. -/
def entryJson (e : MonitorConfiguration) : Json JsonNum := .obj [("monitor_id", .str e.monitorId),
  ("target_id", .str e.targetId), ("monitor_revision", jsonInt e.monitorRevision),
  ("target_address", .str e.targetAddress), ("probe_type", .str e.probeType),
  ("probe_schema_version", jsonInt e.probeSchemaVersion),
  ("interval_seconds", jsonInt e.intervalSeconds), ("timeout_seconds", jsonInt e.timeoutSeconds),
  ("missed_run_policy", .str e.missedRunPolicy), ("configuration", e.configuration)]

def hashInput (agentId realmId : Uuid) (es : List MonitorConfiguration) : Json JsonNum := .obj [
  ("configuration_schema_version", jsonInt 1), ("agent_id", .str agentId.text),
  ("realm_id", .str realmId.text), ("monitors", .arr (es.map entryJson))]

/-- The bytes that are hashed: `json.dumps(hash_input, sort_keys=True,
separators=(",", ":")).encode()`. -/
def hashedBytes (agentId realmId : Uuid) (es : List MonitorConfiguration) : List UInt8 :=
  utf8 (((hashInput agentId realmId es).sortKeys codePointLe).encode
    JsonText.pyEncoder)

/-- `hexdigest()`. -/
def contentHash (sha256 : List UInt8 → List UInt8) (agentId realmId : Uuid)
    (es : List MonitorConfiguration) : String :=
  String.ofList (hexText (sha256 (hashedBytes agentId realmId es)))

/-! ## Revisions and snapshots of one agent -/

structure ConfigurationState where
  desiredRevision : ℕ := 0
  desiredContentHash : String := ""
  acknowledgedRevision : ℕ := 0
  acknowledgedContentHash : String := ""

/-- The revision a request is answered with: the first request moves the
desired revision from 0 to 1. -/
def ConfigurationState.requested (s : ConfigurationState) : ℕ :=
  if s.desiredRevision = 0 then 1 else s.desiredRevision

structure ConfigurationSnapshot where
  revision : ℕ
  contentHash : String
  monitors : List MonitorConfiguration

/-- The rows of one agent in the two configuration tables. -/
structure ConfigurationRows where
  state : ConfigurationState := {}
  snapshots : List ConfigurationSnapshot := []

structure ConfigurationResult where
  snapshot : ConfigurationSnapshot
  monitors : List MonitorConfiguration

/-- `AgentConfigurationSnapshot.get_or_create` by revision. -/
def getOrCreateSnapshot (snapshots : List ConfigurationSnapshot) (created : ConfigurationSnapshot) :
    List ConfigurationSnapshot × ConfigurationSnapshot :=
  match snapshots.find? fun s => s.revision == created.revision with
  | some s => (snapshots, s)
  | none => (snapshots ++ [created], created)

/-- `get_or_create_configuration`, inside its transaction. -/
def getOrCreateConfiguration (sha256 : List UInt8 → List UInt8)
    (agentId realmId : Uuid) (operational : Option Capabilities)
    (monitors : List Monitor) (rows : ConfigurationRows) :
    Except AgentProtocolError (ConfigurationRows × ConfigurationResult) := do
  let desired := rows.state.requested
  match operational with
  | none => .error {
      statusCode := 409
      code := "capabilities_required"
      message := "Send a heartbeat before requesting configuration."
      retryable := true }
  | some capabilities =>
    let es ← entries capabilities monitors
    let hash := contentHash sha256 agentId realmId es
    let snapshot := getOrCreateSnapshot rows.snapshots ⟨desired, hash, es⟩
    if snapshot.2.contentHash ≠ hash then .error {
        statusCode := 409
        code := "configuration_revision_conflict"
        message :=
          "Desired configuration changed while its snapshot was generated."
        retryable := true }
    else
      -- The revision is written only together with a new hash.
      let state :=
        if rows.state.desiredContentHash ≠ hash then
          { rows.state with
            desiredRevision := desired
            desiredContentHash := hash }
        else rows.state
      .ok (⟨state, snapshot.1⟩, ⟨snapshot.2, es⟩)

/-- The body of `GET /config`; `none` is the answer 304. -/
def getConfiguration (agentId realmId : Uuid) (result : ConfigurationResult)
    (activeRevision : Option ℕ) (activeHash : Option String) : Option ConfigurationResponse :=
  let responseHash := "sha256:" ++ result.snapshot.contentHash
  if activeRevision = some result.snapshot.revision ∧ activeHash = some responseHash then none
  else some {
    agentId := agentId.text
    realmId := realmId.text
    revision := result.snapshot.revision
    contentHash := responseHash
    monitors := result.monitors }

end Bifrostnms.Backend
