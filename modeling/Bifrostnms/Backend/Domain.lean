import Bifrostnms.Backend.Revisions
import Bifrostnms.Lib.Table
import Mathlib.Data.List.Sort

/-!
# Changes to monitors, groups and assignments (`monitoring/domain.py`)

The operations that decide which monitors an agent runs, and the queries of
`agents/configuration.py` that compute them. An operation that changes the
monitors of an agent has to bump its desired revision. Most operations are not
one transaction: they read, write and bump with separate statements, and what a
statement finds decides what comes next. So an operation is a call that is
somewhere between two of its statements (`DomainCall`), and one step executes
the next statement. Consecutive reads that only one operation makes, with nothing
written in between, are one step; so is `archive_target`, which is one
transaction.

`get_or_create` is two statements, a `SELECT` and an `INSERT`. When another
call has inserted the row in between, the insert fails on the unique key, and
the row is read again.

Names, descriptions and times are left out; `archived_at` is kept as whether it
is set.
-/

namespace Bifrostnms.Backend

open Bifrostnms.Lib Bifrostnms.Protocol

/-! ## Tables -/

structure AgentRow where
  id : Uuid
  realmId : Uuid
  enabled : Bool := true
  archived : Bool := false
deriving DecidableEq

structure AgentGroupRow where
  id : Uuid
  realmId : Uuid
  enabled : Bool := true
  archived : Bool := false

structure MembershipRow where
  realmId : Uuid
  groupId : Uuid
  agentId : Uuid
deriving DecidableEq

structure TargetRow where
  id : Uuid
  realmId : Uuid
  address : String
  enabled : Bool := true
  archived : Bool := false

structure MonitorRow where
  id : Uuid
  realmId : Uuid
  targetId : Uuid
  probeType : ProbeType
  intervalSeconds : ℤ
  timeoutSeconds : ℤ
  configuration : Json JsonNum
  enabled : Bool := true
  revision : ℤ := 1
  archived : Bool := false

structure AgentAssignmentRow where
  realmId : Uuid
  monitorId : Uuid
  agentId : Uuid
  enabled : Bool := true

structure GroupAssignmentRow where
  realmId : Uuid
  monitorId : Uuid
  groupId : Uuid
  enabled : Bool := true

/-- The realm, the monitor and the agent or group. -/
abbrev AssignmentKey := Uuid × Uuid × Uuid

def AgentAssignmentRow.key (row : AgentAssignmentRow) : AssignmentKey :=
  (row.realmId, row.monitorId, row.agentId)

def GroupAssignmentRow.key (row : GroupAssignmentRow) : AssignmentKey :=
  (row.realmId, row.monitorId, row.groupId)

/-- The tables with their unique constraints. The configuration rows of an
agent have their defaults until they are first written. -/
structure MonitoringTables where
  agents : Table AgentRow.id := {}
  groups : Table AgentGroupRow.id := {}
  memberships : Table (id : MembershipRow → MembershipRow) := {}
  targets : Table TargetRow.id := {}
  monitors : Table MonitorRow.id := {}
  assignments : Table AgentAssignmentRow.key := {}
  groupAssignments : Table GroupAssignmentRow.key := {}
  configurations : Uuid → ConfigurationRows := fun _ => {}

/-- An enabled agent that is not archived. -/
def AgentRow.active (agent : AgentRow) : Bool := agent.enabled && !agent.archived

def AgentGroupRow.active (group : AgentGroupRow) : Bool :=
  group.enabled && !group.archived

/-! ## The monitors of an agent -/

/-- `ORDER BY id` compares the sixteen bytes. -/
def uuidNumber (u : Uuid) : ℕ :=
  u.bytes.foldl (fun n b => 256 * n + b.toNat) 0

namespace MonitoringTables

variable (t : MonitoringTables)

def activeAgent (agentId : Uuid) : Bool :=
  (t.agents.find? agentId).any AgentRow.active

def activeGroup (groupId : Uuid) : Bool :=
  (t.groups.find? groupId).any AgentGroupRow.active

/-- The first query of `_assigned_monitor_ids`. -/
def directMonitorIds (realmId agentId : Uuid) : List Uuid :=
  (t.assignments.rows.filter fun row =>
    row.realmId = realmId && row.agentId = agentId && row.enabled).map
      (·.monitorId)

/-- The second query of `_assigned_monitor_ids`. -/
def memberGroupIds (realmId agentId : Uuid) : List Uuid :=
  (t.memberships.rows.filter fun row =>
    row.realmId = realmId && row.agentId = agentId && t.activeGroup row.groupId).map (·.groupId)

/-- The third query of `_assigned_monitor_ids`. -/
def groupedMonitorIds (realmId : Uuid) (groupIds : List Uuid) : List Uuid :=
  (t.groupAssignments.rows.filter fun row =>
    row.realmId = realmId && groupIds.contains row.groupId && row.enabled).map
      (·.monitorId)

/-- `_assigned_monitor_ids`. -/
def assignedMonitorIds (realmId agentId : Uuid) : List Uuid :=
  t.directMonitorIds realmId agentId ++
    t.groupedMonitorIds realmId (t.memberGroupIds realmId agentId)

/-- A row of the query for the monitors, with its target. -/
def selectMonitor (realmId : Uuid) (ids : List Uuid) (row : MonitorRow) : Option Monitor :=
  if row.realmId = realmId ∧ row.enabled ∧ !row.archived ∧ ids.contains row.id then
    match t.targets.find? row.targetId with
    | some target =>
      if target.enabled ∧ !target.archived then some {
        id := row.id
        targetId := row.targetId
        targetAddress := target.address
        probeType := row.probeType
        intervalSeconds := row.intervalSeconds
        timeoutSeconds := row.timeoutSeconds
        revision := row.revision
        configuration := row.configuration }
      else none
    | none => none
  else none

/-- The query for the monitors of `get_or_create_configuration`. -/
def selectMonitors (realmId : Uuid) (ids : List Uuid) : List Monitor :=
  (t.monitors.rows.filterMap (t.selectMonitor realmId ids)).insertionSort
    fun a b => uuidNumber a.id ≤ uuidNumber b.id

/-- What `get_or_create_configuration` finds for an agent. -/
def assignedMonitors (realmId agentId : Uuid) : List Monitor :=
  t.selectMonitors realmId (t.assignedMonitorIds realmId agentId)

/-! ## Queries of the operations -/

/-- Whether the group has an enabled assignment. -/
def hasAssignments (realmId groupId : Uuid) : Bool :=
  t.groupAssignments.rows.any fun row =>
    row.realmId = realmId && row.groupId = groupId && row.enabled

/-- The enabled, unarchived agents of a group. -/
def activeMembers (realmId groupId : Uuid) : List Uuid :=
  (t.memberships.rows.filter fun row =>
    row.realmId = realmId && row.groupId = groupId && t.activeAgent row.agentId).map (·.agentId)

/-- `effective_agent_ids`, of a monitor as it was loaded. -/
def effectiveAgentIds (monitor : MonitorRow) : List Uuid :=
  if monitor.archived || !monitor.enabled then []
  else
    let directIds := (t.assignments.rows.filter fun row =>
      row.realmId = monitor.realmId && row.monitorId = monitor.id &&
        row.enabled && t.activeAgent row.agentId).map (·.agentId)
    let groupIds := (t.groupAssignments.rows.filter fun row =>
      row.realmId = monitor.realmId && row.monitorId = monitor.id &&
        row.enabled && t.activeGroup row.groupId).map (·.groupId)
    let groupAgentIds := (t.memberships.rows.filter fun row =>
      row.realmId = monitor.realmId && groupIds.contains row.groupId &&
        t.activeAgent row.agentId).map (·.agentId)
    directIds ++ groupAgentIds

/-- The body of the loop of `_bump_configuration_revisions`. -/
def bump (agentId : Uuid) : MonitoringTables :=
  { t with
    configurations := Function.update t.configurations agentId
      (t.configurations agentId).bump }

end MonitoringTables

/-! ## Checks -/

inductive DomainError where
  /-- The caller could not have loaded one of the objects. -/
  | missing
  | realmBoundary
  | archived
  | disabledTarget (message : String)
  | disabled
  | monitoring (e : MonitoringDomainError)

def DomainError.message : DomainError → String
  | .missing => ""
  | .realmBoundary => "All related resources must belong to the active realm"
  | .archived => "Archived resources cannot be changed or assigned"
  | .disabledTarget message => message
  | .disabled => "Disabled resources cannot receive new assignments"
  | .monitoring e => e.message

/-- `_require_same_realm`. -/
def requireSameRealm (realmId : Uuid) (realmIds : List Uuid) : Except DomainError Unit :=
  if realmIds.any fun id => id != realmId then .error .realmBoundary else .ok ()

/-- `_require_active`. -/
def requireActive (archived : List Bool) : Except DomainError Unit :=
  if archived.any id then .error .archived else .ok ()

def loadRow {ρ : Type} {key : ρ → Uuid} (table : Table key) (id : Uuid) : Except DomainError ρ :=
  match table.find? id with
  | some row => .ok row
  | none => .error .missing

/-- The checks on a schedule and a configuration, and the configuration that
is stored. -/
def normalizeBehavior (txt : PyText) (intervalSeconds timeoutSeconds : ℤ)
    (configuration : TypedProbeConfiguration) : Except DomainError (Json JsonNum) :=
  match validateSchedule intervalSeconds timeoutSeconds with
  | .error e => .error (.monitoring e)
  | .ok () =>
    match serializeProbeConfiguration txt configuration
        (some timeoutSeconds) with
    | .error e => .error (.monitoring (.configuration e))
    | .ok normalized => .ok normalized

def numberValue : JsonNum → ℚ
  | .int n => n
  | .float d => d.value

mutual

/-- Python's `==` of two decoded documents: numbers by their value, with the
booleans among them, and dictionaries without regard to order. -/
def pyEqual : Json JsonNum → Json JsonNum → Bool
  | .null, .null => true
  | .bool b, .bool c => b == c
  | .bool b, .num n => (if b then 1 else 0) == numberValue n
  | .num n, .bool b => numberValue n == if b then 1 else 0
  | .num n, .num m => numberValue n == numberValue m
  | .str s, .str t => s == t
  | .arr xs, .arr ys => pyEqualItems xs ys
  | .obj kvs, .obj lvs => kvs.length == lvs.length && pyEqualMembers kvs lvs
  | _, _ => false

def pyEqualItems : List (Json JsonNum) → List (Json JsonNum) → Bool
  | [], [] => true
  | x :: xs, y :: ys => pyEqual x y && pyEqualItems xs ys
  | _, _ => false

def pyEqualMembers : List (String × Json JsonNum) → List (String × Json JsonNum) → Bool
  | [], _ => true
  | (k, v) :: kvs, lvs =>
    (match lvs.lookup k with
      | some w => pyEqual v w
      | none => false) && pyEqualMembers kvs lvs

end

/-! ## Operations -/

/-- The order in which a set is iterated. -/
structure SetOrder where
  iterate : List Uuid → List Uuid
  mem_iterate : ∀ ids id, id ∈ iterate ids ↔ id ∈ ids
  nodup : ∀ ids, (iterate ids).Nodup

structure DomainContext where
  txt : PyText
  column : JsonColumn
  order : SetOrder

/-- The operations with the ids of the objects they are called on. The id of a
new monitor is drawn. -/
inductive DomainOperation where
  | createMonitor (realmId targetId monitorId : Uuid)
      (intervalSeconds timeoutSeconds : ℤ)
      (configuration : TypedProbeConfiguration)
  | updateMonitorBehavior (realmId monitorId targetId : Uuid)
      (intervalSeconds timeoutSeconds : ℤ)
      (configuration : TypedProbeConfiguration)
  | archiveTarget (realmId targetId : Uuid)
  | addAgentToGroup (realmId groupId agentId : Uuid)
  | removeAgentFromGroup (realmId groupId agentId : Uuid)
  | assignMonitorToAgent (realmId monitorId agentId : Uuid)
  | assignMonitorToAgentGroup (realmId monitorId groupId : Uuid)
  | unassignMonitorFromAgent (realmId monitorId agentId : Uuid)
  | unassignMonitorFromAgentGroup (realmId monitorId groupId : Uuid)

/-- A call, by the statement it executes next. -/
inductive DomainCall where
  | createInsert (monitor : MonitorRow)
  | updateSave (monitor : MonitorRow)
  | updateEffective (monitor : MonitorRow)
  | archive (target : TargetRow)
  | addSelect (row : MembershipRow)
  | addInsert (row : MembershipRow)
  | addCheck (row : MembershipRow)
  | removeDelete (row : MembershipRow)
  | removeCheck (row : MembershipRow)
  | assignSelect (row : AgentAssignmentRow)
  | assignInsert (row : AgentAssignmentRow)
  | assignReread (row : AgentAssignmentRow)
  | assignEnable (row : AgentAssignmentRow)
  | unassignDelete (row : AgentAssignmentRow)
  | groupSelect (row : GroupAssignmentRow)
  | groupInsert (row : GroupAssignmentRow)
  | groupReread (row : GroupAssignmentRow)
  | groupEnable (row : GroupAssignmentRow)
  | groupMembers (row : GroupAssignmentRow)
  | ungroupMembers (row : GroupAssignmentRow)
  | ungroupDelete (row : GroupAssignmentRow) (agentIds : List Uuid)
  /-- `_bump_configuration_revisions` with the agents that are left. -/
  | bumping (agentIds : List Uuid)
  | done

/-- The row of a monitor that is called with new behavior. -/
def MonitorRow.changed (monitor : MonitorRow) (targetId : Uuid) (intervalSeconds timeoutSeconds : ℤ)
    (configuration : TypedProbeConfiguration) (normalized : Json JsonNum) : Bool :=
  monitor.targetId ≠ targetId || monitor.probeType ≠ configuration.probeType ||
    monitor.intervalSeconds ≠ intervalSeconds || monitor.timeoutSeconds ≠ timeoutSeconds ||
    !pyEqual monitor.configuration normalized

/-- What an operation does before its first statement, on objects that were
loaded right before. -/
def DomainOperation.start (ctx : DomainContext) (t : MonitoringTables) :
    DomainOperation → Except DomainError DomainCall
  | .createMonitor realmId targetId monitorId intervalSeconds timeoutSeconds
      configuration => do
      let target ← loadRow t.targets targetId
      requireSameRealm realmId [target.realmId]
      requireActive [target.archived]
      if target.enabled then
        let normalized ← normalizeBehavior ctx.txt intervalSeconds
          timeoutSeconds configuration
        .ok (.createInsert {
          id := monitorId
          realmId := realmId
          targetId := target.id
          probeType := configuration.probeType
          intervalSeconds := intervalSeconds
          timeoutSeconds := timeoutSeconds
          configuration := normalized.mapNum ctx.column.read })
      else .error (.disabledTarget "Disabled targets cannot receive new monitors")
  | .updateMonitorBehavior realmId monitorId targetId intervalSeconds
      timeoutSeconds configuration => do
      let monitor ← loadRow t.monitors monitorId
      let target ← loadRow t.targets targetId
      requireSameRealm realmId [monitor.realmId, target.realmId]
      requireActive [monitor.archived, target.archived]
      if target.enabled then
        let normalized ← normalizeBehavior ctx.txt intervalSeconds
          timeoutSeconds configuration
        if monitor.changed target.id intervalSeconds timeoutSeconds
            configuration normalized then
          .ok (.updateSave { monitor with
            targetId := target.id
            probeType := configuration.probeType
            intervalSeconds := intervalSeconds
            timeoutSeconds := timeoutSeconds
            configuration := normalized.mapNum ctx.column.read
            revision := monitor.revision + 1 })
        else .ok .done
      else .error (.disabledTarget "Disabled targets cannot receive monitors")
  | .archiveTarget realmId targetId => do
      let target ← loadRow t.targets targetId
      requireSameRealm realmId [target.realmId]
      if target.archived then .ok .done else .ok (.archive target)
  | .addAgentToGroup realmId groupId agentId => do
      let group ← loadRow t.groups groupId
      let agent ← loadRow t.agents agentId
      requireSameRealm realmId [group.realmId, agent.realmId]
      requireActive [group.archived, agent.archived]
      .ok (.addSelect ⟨realmId, group.id, agent.id⟩)
  | .removeAgentFromGroup realmId groupId agentId => do
      let group ← loadRow t.groups groupId
      let agent ← loadRow t.agents agentId
      requireSameRealm realmId [group.realmId, agent.realmId]
      .ok (.removeDelete ⟨realmId, group.id, agent.id⟩)
  | .assignMonitorToAgent realmId monitorId agentId => do
      let monitor ← loadRow t.monitors monitorId
      let agent ← loadRow t.agents agentId
      requireSameRealm realmId [monitor.realmId, agent.realmId]
      requireActive [monitor.archived, agent.archived]
      if monitor.enabled && agent.enabled then
        .ok (.assignSelect ⟨realmId, monitor.id, agent.id, true⟩)
      else .error .disabled
  | .assignMonitorToAgentGroup realmId monitorId groupId => do
      let monitor ← loadRow t.monitors monitorId
      let group ← loadRow t.groups groupId
      requireSameRealm realmId [monitor.realmId, group.realmId]
      requireActive [monitor.archived, group.archived]
      if monitor.enabled && group.enabled then
        .ok (.groupSelect ⟨realmId, monitor.id, group.id, true⟩)
      else .error .disabled
  | .unassignMonitorFromAgent realmId monitorId agentId => do
      let monitor ← loadRow t.monitors monitorId
      let agent ← loadRow t.agents agentId
      requireSameRealm realmId [monitor.realmId, agent.realmId]
      .ok (.unassignDelete ⟨realmId, monitor.id, agent.id, true⟩)
  | .unassignMonitorFromAgentGroup realmId monitorId groupId => do
      let monitor ← loadRow t.monitors monitorId
      let group ← loadRow t.groups groupId
      requireSameRealm realmId [monitor.realmId, group.realmId]
      .ok (.ungroupMembers ⟨realmId, monitor.id, group.id, true⟩)

/-! ## Statements -/

/-- The columns of `monitor.save(update_fields=[…])`. -/
def MonitorRow.withBehavior (row monitor : MonitorRow) : MonitorRow :=
  if row.id = monitor.id then
    { row with
      targetId := monitor.targetId
      probeType := monitor.probeType
      intervalSeconds := monitor.intervalSeconds
      timeoutSeconds := monitor.timeoutSeconds
      configuration := monitor.configuration
      revision := monitor.revision }
  else row

def TargetRow.archivedAs (row target : TargetRow) : TargetRow :=
  if row.id = target.id then { row with enabled := false, archived := true }
  else row

/-- The filter of `archive_target` for the monitors of its target. -/
def MonitorRow.watches (monitor : MonitorRow) (target : TargetRow) : Bool :=
  monitor.realmId = target.realmId && monitor.targetId = target.id && !monitor.archived

def MonitorRow.archivedWith (monitor : MonitorRow) (target : TargetRow) : MonitorRow :=
  if monitor.watches target then
    { monitor with enabled := false, archived := true }
  else monitor

def AgentAssignmentRow.enabledAs (row assignment : AgentAssignmentRow) : AgentAssignmentRow :=
  if row.key = assignment.key then { row with enabled := true } else row

def GroupAssignmentRow.enabledAs (row assignment : GroupAssignmentRow) : GroupAssignmentRow :=
  if row.key = assignment.key then { row with enabled := true } else row

theorem MonitorRow.id_withBehavior (monitor row : MonitorRow) :
    (row.withBehavior monitor).id = row.id := by
  unfold MonitorRow.withBehavior
  split <;> rfl

theorem TargetRow.id_archivedAs (target row : TargetRow) : (row.archivedAs target).id = row.id := by
  unfold TargetRow.archivedAs
  split <;> rfl

theorem MonitorRow.id_archivedWith (target : TargetRow) (monitor : MonitorRow) :
    (monitor.archivedWith target).id = monitor.id := by
  unfold MonitorRow.archivedWith
  split <;> rfl

theorem AgentAssignmentRow.key_enabledAs (assignment row : AgentAssignmentRow) :
    (row.enabledAs assignment).key = row.key := by
  unfold AgentAssignmentRow.enabledAs
  split <;> rfl

theorem GroupAssignmentRow.key_enabledAs (assignment row : GroupAssignmentRow) :
    (row.enabledAs assignment).key = row.key := by
  unfold GroupAssignmentRow.enabledAs
  split <;> rfl

/-- The transaction of `archive_target`. -/
def MonitoringTables.archiveTarget (order : SetOrder) (t : MonitoringTables)
    (target : TargetRow) : MonitoringTables :=
  let saved := { t with
    targets := t.targets.update (·.archivedAs target) target.id_archivedAs }
  let monitors := saved.monitors.rows.filter (·.watches target)
  let affectedAgentIds := monitors.flatMap saved.effectiveAgentIds
  let archived := { saved with
    monitors := saved.monitors.update (·.archivedWith target)
      (MonitorRow.id_archivedWith target) }
  (order.iterate affectedAgentIds).foldl MonitoringTables.bump archived

namespace DomainCall

/-- The next call state after `get_or_create` returned an existing row. -/
def afterAssignment (assignment row : AgentAssignmentRow) : DomainCall :=
  if row.enabled then .done else .assignEnable assignment

def afterGroupAssignment (assignment row : GroupAssignmentRow) : DomainCall :=
  if row.enabled then .done else .groupEnable assignment

/-- The next statement of a call. -/
def step (order : SetOrder) (t : MonitoringTables) : DomainCall → DomainCall × MonitoringTables
  | .createInsert monitor =>
    (.done, { t with monitors := t.monitors.insert monitor })
  | .updateSave monitor =>
    (.updateEffective monitor, { t with
      monitors := t.monitors.update (·.withBehavior monitor)
        monitor.id_withBehavior })
  | .updateEffective monitor =>
    (.bumping (order.iterate (t.effectiveAgentIds monitor)), t)
  | .archive target => (.done, t.archiveTarget order target)
  | .addSelect row => (if t.memberships.has row then .done else .addInsert row, t)
  | .addInsert row =>
    if t.memberships.has row then (.done, t)
    else (.addCheck row, { t with memberships := t.memberships.insert row })
  | .addCheck row | .removeCheck row =>
    (if t.hasAssignments row.realmId row.groupId then .bumping [row.agentId]
      else .done, t)
  | .removeDelete row =>
    if t.memberships.has row then
      (.removeCheck row, { t with
        memberships := t.memberships.delete fun r => r = row })
    else (.done, t)
  | .assignSelect assignment =>
    match t.assignments.find? assignment.key with
    | some row => (afterAssignment assignment row, t)
    | none => (.assignInsert assignment, t)
  | .assignInsert assignment =>
    if t.assignments.has assignment.key then (.assignReread assignment, t)
    else (.bumping [assignment.agentId], { t with assignments := t.assignments.insert assignment })
  | .assignReread assignment =>
    match t.assignments.find? assignment.key with
    | some row => (afterAssignment assignment row, t)
    | none => (.done, t)
  | .assignEnable assignment =>
    (.bumping [assignment.agentId], { t with
      assignments := t.assignments.update (·.enabledAs assignment)
        assignment.key_enabledAs })
  | .unassignDelete assignment =>
    if t.assignments.has assignment.key then
      (.bumping [assignment.agentId], { t with
        assignments := t.assignments.delete fun row =>
          row.key = assignment.key })
    else (.done, t)
  | .groupSelect assignment =>
    match t.groupAssignments.find? assignment.key with
    | some row => (afterGroupAssignment assignment row, t)
    | none => (.groupInsert assignment, t)
  | .groupInsert assignment =>
    if t.groupAssignments.has assignment.key then (.groupReread assignment, t)
    else (.groupMembers assignment,
      { t with groupAssignments := t.groupAssignments.insert assignment })
  | .groupReread assignment =>
    match t.groupAssignments.find? assignment.key with
    | some row => (afterGroupAssignment assignment row, t)
    | none => (.done, t)
  | .groupEnable assignment =>
    (.groupMembers assignment, { t with
      groupAssignments := t.groupAssignments.update (·.enabledAs assignment)
        assignment.key_enabledAs })
  | .groupMembers assignment =>
    (.bumping (order.iterate
      (t.activeMembers assignment.realmId assignment.groupId)), t)
  | .ungroupMembers assignment =>
    (.ungroupDelete assignment
      (t.activeMembers assignment.realmId assignment.groupId), t)
  | .ungroupDelete assignment agentIds =>
    if t.groupAssignments.has assignment.key then
      (.bumping (order.iterate agentIds), { t with
        groupAssignments := t.groupAssignments.delete fun row =>
          row.key = assignment.key })
    else (.done, t)
  | .bumping [] => (.done, t)
  | .bumping (agentId :: agentIds) => (.bumping agentIds, t.bump agentId)
  | .done => (.done, t)

/-- No statement is left. -/
def returned : DomainCall → Bool
  | .done => true
  | .bumping [] => true
  | _ => false

/-- The next statements, with no other call in between. -/
def runFor (order : SetOrder) : ℕ → DomainCall × MonitoringTables → DomainCall × MonitoringTables
  | 0, s => s
  | n + 1, s => runFor order n (s.1.step order s.2)

end DomainCall

/-- An operation that stops after some of its statements and is then repeated
to its end: the tables it leaves behind when it stops, and at last. -/
def DomainOperation.repeated (ctx : DomainContext) (t : MonitoringTables)
    (op : DomainOperation) (stop statements : ℕ) : Option (MonitoringTables × MonitoringTables) :=
  match op.start ctx t with
  | .error _ => none
  | .ok call =>
    let stopped := (DomainCall.runFor ctx.order stop (call, t)).2
    match op.start ctx stopped with
    | .error _ => none
    | .ok again =>
      let s := DomainCall.runFor ctx.order statements (again, stopped)
      if s.1.returned then some (stopped, s.2) else none

/-! ## Operations and requests, one after the other -/

/-- `get_or_create_configuration` for an agent. -/
def MonitoringTables.requestConfiguration (sha256 : List UInt8 → List UInt8)
    (t : MonitoringTables) (agent : AgentRow) (operational : Option Capabilities) :
    Except AgentProtocolError (MonitoringTables × ConfigurationResult) :=
  match getOrCreateConfiguration sha256 agent.id agent.realmId operational
      (t.assignedMonitors agent.realmId agent.id)
      (t.configurations agent.id) with
  | .error e => .error e
  | .ok (rows, result) => .ok ({ t with
      configurations := Function.update t.configurations agent.id rows }, result)

/-- The id drawn for a new monitor is in no table. -/
def DomainOperation.fresh (t : MonitoringTables) : DomainOperation → Bool
  | .createMonitor _ _ monitorId _ _ _ =>
    !t.monitors.has monitorId && t.assignments.rows.all (fun row => row.monitorId ≠ monitorId) &&
      t.groupAssignments.rows.all fun row => row.monitorId ≠ monitorId
  | _ => true

/-- An operation that runs to its end, with the number of its statements, or a
configuration request. -/
inductive DomainEvent where
  | operation (op : DomainOperation) (statements : ℕ)
  | request (agentId : Uuid) (operational : Option Capabilities)

def MonitoringTables.step (sha256 : List UInt8 → List UInt8)
    (ctx : DomainContext) (t : MonitoringTables) : DomainEvent → Option MonitoringTables
  | .operation op statements =>
    if op.fresh t then
      match op.start ctx t with
      | .error _ => some t
      | .ok call =>
        let s := DomainCall.runFor ctx.order statements (call, t)
        if s.1.returned then some s.2 else none
    else none
  | .request agentId operational =>
    match t.agents.find? agentId with
    | none => none
    | some agent =>
      match t.requestConfiguration sha256 agent operational with
      | .error _ => some t
      | .ok (t', _) => some t'

end Bifrostnms.Backend
