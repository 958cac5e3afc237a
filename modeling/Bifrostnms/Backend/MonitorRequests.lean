import Bifrostnms.Backend.ConfigurationReader
import Bifrostnms.Backend.MonitorManagement
import Bifrostnms.Lib.Checks

/-!
# Requests to create and to update a monitor (`api/monitoring.py`, `api/monitor_management.py`)

The bodies of both requests have the same schema, in which a configuration is any object;
it is read when it is serialized, after the rows were loaded and the schedule was checked.
Here a request is followed to its first write: it is answered before, or it goes on with
the row or the call that is returned.

Which values pydantic reads as a field of an annotated type is left open (`SchemaReader`);
`documentReader` is one way to read.
-/

namespace Bifrostnms.Backend

open Bifrostnms.Lib Bifrostnms.Protocol

/-- `MonitorCreate` and `MonitorUpdate`, with the bounds that they check. -/
structure MonitorBody where
  targetId : Uuid
  name : String
  description : Option String := none
  probeType : ProbeType
  intervalSeconds : ℤ
  timeoutSeconds : ℤ
  configuration : List (String × Json JsonNum) := []
  nameLength : 1 ≤ name.length ∧ name.length ≤ 200
  intervalPositive : 1 ≤ intervalSeconds
  timeoutPositive : 1 ≤ timeoutSeconds

/-- The fields of a document in their annotated types, or a field that cannot be read. -/
structure SchemaReader where
  read : ProbeType → List (String × Json JsonNum) → Except String TypedProbeConfiguration
  probeType_read : ∀ {probeType members c}, read probeType members = .ok c → c.probeType = probeType

/-- What the error is about. -/
def ConfigurationError.text : ConfigurationError → String
  | .field name => name
  | .value message => message
  | .plain message => message

theorem probeType_parse {probeType : ProbeType} {members : List (String × Json JsonNum)}
    {c : TypedProbeConfiguration} (h : parseProbeConfiguration probeType (.obj members) = .ok c) :
    c.probeType = probeType := by
  cases probeType <;>
    · obtain ⟨_, -, hc⟩ := bind_eq_ok.mp h
      cases hc
      rfl

/-- Documents whose values have the annotated types. -/
def documentReader : SchemaReader where
  read probeType members :=
    (parseProbeConfiguration probeType (.obj members)).mapError ConfigurationError.text
  probeType_read {probeType members c} h := by
    cases hparse : parseProbeConfiguration probeType (.obj members) with
    | error e =>
      rw [hparse] at h
      cases h
    | ok c' =>
      rw [hparse] at h
      cases h
      exact probeType_parse hparse

/-- `_validate_schedule` and `serialize_probe_configuration`. -/
def MonitorBody.normalize (txt : PyText) (reader : SchemaReader) (body : MonitorBody) :
    Except DomainError (TypedProbeConfiguration × Json JsonNum) :=
  match validateSchedule body.intervalSeconds body.timeoutSeconds with
  | .error e => .error (.monitoring e)
  | .ok () =>
    match reader.read body.probeType body.configuration with
    | .error path => .error (.monitoring (.configuration (.field path)))
    | .ok c =>
      match serializeProbeConfiguration txt c (some body.timeoutSeconds) with
      | .error e => .error (.monitoring (.configuration e))
      | .ok normalized => .ok (c, normalized)

section

variable (ctx : DomainContext) (reader : SchemaReader) (body : MonitorBody)

/-! ## `create_monitor_endpoint` -/

/-- `create_monitor`, before the insert. -/
def MonitorBody.createMonitor (realmId monitorId : Uuid) (target : TargetRow) :
    Except DomainError MonitorRow := do
  requireSameRealm realmId [target.realmId]
  requireActive [target.archived]
  if target.enabled then
    let (c, normalized) ← body.normalize ctx.txt reader
    .ok {
      id := monitorId
      realmId := realmId
      targetId := target.id
      probeType := c.probeType
      intervalSeconds := body.intervalSeconds
      timeoutSeconds := body.timeoutSeconds
      configuration := normalized.mapNum ctx.column.read }
  else .error (.disabledTarget "Disabled targets cannot receive new monitors")

/-- `Target.filter(id=payload.target_id, realm=authorization.realm).first()` -/
def MonitorBody.selectTarget (s : NamedMonitors) (realmId : Uuid) : Option TargetRow :=
  s.tables.targets.rows.find? fun row => row.id = body.targetId && row.realmId = realmId

def MonitorBody.createMonitorEndpoint (s : NamedMonitors) (realmId monitorId : Uuid) :
    Except UpdateOutcome MonitorRow :=
  match body.selectTarget s realmId with
  | none => .error (.httpError 404 "Target not found")
  | some target => (body.createMonitor ctx reader realmId monitorId target).mapError
      DomainError.response

/-! ## `update_monitor` -/

/-- `update_monitor_behavior`, before the first statement. -/
def MonitorBody.updateMonitorBehavior (realmId : Uuid) (monitor : MonitorRow)
    (target : TargetRow) : Except DomainError (MonitorRow × DomainCall) := do
  requireSameRealm realmId [monitor.realmId, target.realmId]
  requireActive [monitor.archived, target.archived]
  if target.enabled then
    let (c, normalized) ← body.normalize ctx.txt reader
    if monitor.changed target.id body.intervalSeconds body.timeoutSeconds c normalized then
      let saved := { monitor with
        targetId := target.id
        probeType := c.probeType
        intervalSeconds := body.intervalSeconds
        timeoutSeconds := body.timeoutSeconds
        configuration := normalized.mapNum ctx.column.read
        revision := monitor.revision + 1 }
      .ok (saved, .updateSave saved)
    else .ok (monitor, .done)
  else .error (.disabledTarget "Disabled targets cannot receive monitors")

/-- `Monitor.filter(id=monitor_id, realm=authorization.realm, archived_at=None).first()` -/
def NamedMonitors.selectMonitor (s : NamedMonitors) (realmId monitorId : Uuid) :
    Option MonitorRow :=
  s.tables.monitors.rows.find? fun row =>
    row.id = monitorId && row.realmId = realmId && !row.archived

/-- `Target.filter(…, archived_at=None).first()` -/
def MonitorBody.selectActiveTarget (s : NamedMonitors) (realmId : Uuid) : Option TargetRow :=
  s.tables.targets.rows.find? fun row =>
    row.id = body.targetId && row.realmId = realmId && !row.archived

def MonitorBody.updateMonitorEndpoint (s : NamedMonitors) (realmId monitorId : Uuid) :
    Except UpdateOutcome (MonitorRow × DomainCall) :=
  match s.selectMonitor realmId monitorId with
  | none => .error (.httpError 404 "Monitor not found")
  | some monitor =>
    match body.selectActiveTarget s realmId with
    | none => .error (.httpError 404 "Target not found")
    | some target =>
      if s.taken realmId monitor.id (ctx.txt.strip body.name) then .error nameConflict
      else (body.updateMonitorBehavior ctx reader realmId monitor target).mapError
        DomainError.response

end

end Bifrostnms.Backend
