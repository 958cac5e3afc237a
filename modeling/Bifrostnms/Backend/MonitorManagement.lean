import Bifrostnms.Backend.Domain
import Bifrostnms.Lib.Calls

/-!
# Updates of a monitor (`api/monitor_management.py`)

A request to update a monitor is not one transaction. It selects the monitor
and its new target, looks for another monitor of the same name, and calls
`update_monitor_behavior`, which compares the new behavior with the monitor
that was selected, counts the revision up and saves. Whatever happens to the
row in the meantime, the save writes what was computed from the selected row.
A last statement writes the name and the description.

Any number of requests run at the same time; the database executes one
statement at a time, of any of them. In `serve` it may also fail, and requests of
other kinds may change the tables in between as they like.
-/

namespace Bifrostnms.Backend

open Bifrostnms.Lib Bifrostnms.Protocol

/-- The body of a request and the realm it is authorized for. -/
structure MonitorUpdate where
  realmId : Uuid
  monitorId : Uuid
  targetId : Uuid
  name : String
  description : Option String := none
  intervalSeconds : ℤ
  timeoutSeconds : ℤ
  configuration : TypedProbeConfiguration

/-- What `update_monitor_behavior` does before its first statement: the monitor
as it is returned, and the statements that are left. -/
def updateMonitorBehavior (ctx : DomainContext) (update : MonitorUpdate)
    (monitor : MonitorRow) (target : TargetRow) : Except DomainError (MonitorRow × DomainCall) := do
  requireSameRealm update.realmId [monitor.realmId, target.realmId]
  requireActive [monitor.archived, target.archived]
  if target.enabled then
    let normalized ← normalizeBehavior ctx.txt update.intervalSeconds
      update.timeoutSeconds update.configuration
    if monitor.changed target.id update.intervalSeconds update.timeoutSeconds
        update.configuration normalized then
      let saved := { monitor with
        targetId := target.id
        probeType := update.configuration.probeType
        intervalSeconds := update.intervalSeconds
        timeoutSeconds := update.timeoutSeconds
        configuration := normalized.mapNum ctx.column.read
        revision := monitor.revision + 1 }
      .ok (saved, .updateSave saved)
    else .ok (monitor, .done)
  else .error (.disabledTarget "Disabled targets cannot receive monitors")

/-- The tables, with the names and descriptions of monitors beside them. -/
structure NamedMonitors where
  tables : MonitoringTables
  names : Uuid → String := fun _ => ""
  descriptions : Uuid → Option String := fun _ => none

/-- Another monitor of the realm has the name. -/
def NamedMonitors.taken (s : NamedMonitors) (realmId monitorId : Uuid) (name : String) : Bool :=
  s.tables.monitors.rows.any fun row =>
    row.realmId = realmId && s.names row.id = name && row.id ≠ monitorId

/-- A monitor as a request holds it: the row, and the name and description that
were selected with it. -/
structure SelectedMonitor where
  row : MonitorRow
  name : String
  description : Option String

def NamedMonitors.select (s : NamedMonitors) (row : MonitorRow) : SelectedMonitor :=
  ⟨row, s.names row.id, s.descriptions row.id⟩

inductive UpdateOutcome where
  | updated (monitor : MonitorRow)
  | httpError (statusCode : ℕ) (detail : String)

def nameConflict : UpdateOutcome :=
  .httpError 409 "A monitor with that name already exists"

/-- An exception that no handler catches. -/
def serverError : UpdateOutcome := .httpError 500 "Internal Server Error"

/-- `except (MonitoringDomainError, ResourceStateError, ValidationError)`: a `ValueError`
that is none of these is not caught. -/
def DomainError.response : DomainError → UpdateOutcome
  | .monitoring (.configuration (.plain _)) => serverError
  | e => .httpError 422 e.message

/-- A request, by the statement it executes next. -/
inductive UpdatePhase where
  | selectMonitor
  | selectTarget (monitor : SelectedMonitor)
  | checkName (monitor : SelectedMonitor) (target : TargetRow)
  /-- Inside `update_monitor_behavior`. -/
  | behavior (monitor : SelectedMonitor) (call : DomainCall)
  | rename (monitor : SelectedMonitor)
  | refresh (monitor : SelectedMonitor)
  | returned (outcome : UpdateOutcome)

namespace MonitorUpdate

variable (ctx : DomainContext) (update : MonitorUpdate)

def strippedName : String := ctx.txt.strip update.name

/-- An empty description is none. -/
def strippedDescription : Option String :=
  (update.description.filter (· ≠ "")).map ctx.txt.strip

/-- After `update_monitor_behavior` returned. -/
def afterBehavior (monitor : SelectedMonitor) : UpdatePhase :=
  if monitor.name ≠ update.strippedName ctx ∨
      monitor.description ≠ update.strippedDescription ctx then
    .rename monitor
  else .returned (.updated monitor.row)

/-- The next phase, once a call has executed a statement. -/
def nextBehavior (monitor : SelectedMonitor) (call : DomainCall) : UpdatePhase :=
  if call.returned then update.afterBehavior ctx monitor
  else .behavior monitor call

/-- The next statement of a request. -/
def step (s : NamedMonitors) : UpdatePhase → UpdatePhase × NamedMonitors
  | .selectMonitor =>
    match s.tables.monitors.rows.find? fun row => row.id = update.monitorId &&
        row.realmId = update.realmId && !row.archived with
    | some row => (.selectTarget (s.select row), s)
    | none => (.returned (.httpError 404 "Monitor not found"), s)
  | .selectTarget monitor =>
    match s.tables.targets.rows.find? fun row => row.id = update.targetId &&
        row.realmId = update.realmId && !row.archived with
    | some target => (.checkName monitor target, s)
    | none => (.returned (.httpError 404 "Target not found"), s)
  | .checkName monitor target =>
    if s.taken update.realmId monitor.row.id (update.strippedName ctx) then
      (.returned nameConflict, s)
    else
      match updateMonitorBehavior ctx update monitor.row target with
      | .error e => (.returned e.response, s)
      | .ok (row, call) =>
        (update.nextBehavior ctx { monitor with row := row } call, s)
  | .behavior monitor call =>
    let (next, tables) := call.step ctx.order s.tables
    (update.nextBehavior ctx monitor next, { s with tables := tables })
  | .rename monitor =>
    let id := monitor.row.id
    if s.taken monitor.row.realmId id (update.strippedName ctx) then
      (.returned nameConflict, s)
    else (.refresh monitor, { s with
      names := Function.update s.names id (update.strippedName ctx)
      descriptions := Function.update s.descriptions id
        (update.strippedDescription ctx) })
  | .refresh monitor =>
    match s.tables.monitors.find? monitor.row.id with
    | some row => (.returned (.updated row), s)
    | none => (.returned serverError, s)
  | .returned outcome => (.returned outcome, s)

end MonitorUpdate

/-! ## Requests at the same time -/

structure UpdateTraffic where
  monitors : NamedMonitors
  requests : List (MonitorUpdate × UpdatePhase) := []

inductive UpdateEvent where
  | request (update : MonitorUpdate)
  /-- The next statement of a request. -/
  | statement (index : ℕ)

def UpdateTraffic.step (ctx : DomainContext) (s : UpdateTraffic) :
    UpdateEvent → Option UpdateTraffic
  | .request update =>
    some { s with requests := s.requests ++ [(update, .selectMonitor)] }
  | .statement index =>
    match s.requests[index]? with
    | none => none
    | some (update, phase) =>
      let (next, monitors) := update.step ctx s.monitors phase
      some ⟨monitors, s.requests.set index (update, next)⟩

/-! ## Among all requests -/

def UpdatePhase.ended : UpdatePhase → Bool
  | .returned _ => true
  | _ => false

inductive ManagementEvent where
  | request (update : MonitorUpdate)
  | statement (index : ℕ) (fate : StatementFate)
  /-- Requests of other kinds have left the tables so. -/
  | elsewhere (monitors : NamedMonitors)

/-- The next statement of a request, when the database may fail. -/
def MonitorUpdate.attempt (ctx : DomainContext) (update : MonitorUpdate) (s : NamedMonitors)
    (fate : StatementFate) (phase : UpdatePhase) : UpdatePhase × NamedMonitors :=
  match fate with
  | .answered => update.step ctx s phase
  | .notExecuted => (.returned serverError, s)
  | .answerLost => (.returned serverError, (update.step ctx s phase).2)

def UpdateTraffic.serve (ctx : DomainContext) (s : UpdateTraffic) :
    ManagementEvent → Option UpdateTraffic
  | .request update => s.step ctx (.request update)
  | .statement index fate =>
    match s.requests[index]? with
    | none => none
    | some (update, phase) =>
      if phase.ended then none
      else
        let next := update.attempt ctx s.monitors fate phase
        some ⟨next.2, s.requests.set index (update, next.1)⟩
  | .elsewhere monitors => some { s with monitors := monitors }

end Bifrostnms.Backend
