import Bifrostnms.Backend.Domain
import Bifrostnms.Backend.Observations
import Bifrostnms.Lib.Query

/-!
# What the dashboard shows (`monitoring/dashboard.py`)

Two queries, each for one realm: the state of every monitor, and the history of
one. The first finds out by a query of its own which agents run which monitors
(`effectivePairs`).

The names of agents, monitors and targets and some times are columns that only
these queries read; they are kept beside the rows they belong to (`Columns`).
Instants are in microseconds. Texts are ordered by the collation of the
database, which is left open.

Where an order has ties, the answer of a query is not determined. A query is
therefore the set of its answers.
-/

namespace Bifrostnms.Backend

open Bifrostnms.Lib Bifrostnms.Protocol

/-! ## Tables -/

/-- Columns by the key of their row. The times of a heartbeat and the
capabilities are in the operational state of an agent, which has no row before
the first heartbeat. -/
structure Columns where
  agentName : Uuid → String := fun _ => ""
  monitorName : Uuid → String := fun _ => ""
  targetName : Uuid → String := fun _ => ""
  acknowledgedAt : Uuid → Option ℤ := fun _ => none
  lastHeartbeatAt : Uuid → Option ℤ := fun _ => none
  capabilities : Uuid → Option Capabilities := fun _ => none
  receivedAt : Identity → ℤ := fun _ => 0

structure ServerTables where
  tables : MonitoringTables := {}
  database : Database := {}
  columns : Columns := {}

/-! ## The pairs of a monitor and an agent that runs it -/

structure EffectivePair where
  realmId : Uuid
  monitorId : Uuid
  monitorName : String
  probeType : ProbeType
  intervalSeconds : ℤ
  timeoutSeconds : ℤ
  agentId : Uuid
  agentName : String
deriving DecidableEq

def effectivePair (columns : Columns) (monitor : MonitorRow) (agent : AgentRow) :
    EffectivePair where
  realmId := monitor.realmId
  monitorId := monitor.id
  monitorName := columns.monitorName monitor.id
  probeType := monitor.probeType
  intervalSeconds := monitor.intervalSeconds
  timeoutSeconds := monitor.timeoutSeconds
  agentId := agent.id
  agentName := columns.agentName agent.id

/-- The `WHERE` of both halves of the union. -/
def pairWhere (realmId : Uuid) (monitor : MonitorRow) (target : TargetRow)
    (agent : AgentRow) : Bool :=
  monitor.realmId = realmId && monitor.enabled && !monitor.archived &&
    target.enabled && !target.archived && agent.enabled && !agent.archived

namespace ServerTables

variable (s : ServerTables)

/-- `INNER JOIN target`. -/
def joinTarget (monitor : MonitorRow) : List TargetRow :=
  s.tables.targets.rows.filter fun target =>
    target.id = monitor.targetId && target.realmId = monitor.realmId

/-- `INNER JOIN agent`, by a column that refers to it. -/
def joinAgent (monitor : MonitorRow) (agentId : Uuid) : List AgentRow :=
  s.tables.agents.rows.filter fun agent =>
    agent.id = agentId && agent.realmId = monitor.realmId

/-- The first half of the union, through `monitoragentassignment`. -/
def directPairs (realmId : Uuid) : List EffectivePair :=
  s.tables.monitors.rows.flatMap fun monitor =>
  (s.joinTarget monitor).flatMap fun target =>
  (s.tables.assignments.rows.filter fun assignment =>
    assignment.monitorId = monitor.id && assignment.realmId = monitor.realmId &&
      assignment.enabled).flatMap fun assignment =>
  (s.joinAgent monitor assignment.agentId).flatMap fun agent =>
  if pairWhere realmId monitor target agent then
    [effectivePair s.columns monitor agent]
  else []

/-- The second half, through `monitoragentgroupassignment`. -/
def groupedPairs (realmId : Uuid) : List EffectivePair :=
  s.tables.monitors.rows.flatMap fun monitor =>
  (s.joinTarget monitor).flatMap fun target =>
  (s.tables.groupAssignments.rows.filter fun assignment =>
    assignment.monitorId = monitor.id && assignment.realmId = monitor.realmId &&
      assignment.enabled).flatMap fun assignment =>
  (s.tables.groups.rows.filter fun group =>
    group.id = assignment.groupId && group.realmId = monitor.realmId &&
      group.enabled && !group.archived).flatMap fun group =>
  (s.tables.memberships.rows.filter fun membership =>
    membership.groupId = group.id && membership.realmId = monitor.realmId).flatMap fun membership =>
  (s.joinAgent monitor membership.agentId).flatMap fun agent =>
  if pairWhere realmId monitor target agent then
    [effectivePair s.columns monitor agent]
  else []

/-- `effective_pairs`; the union has no duplicates. -/
def effectivePairs (realmId : Uuid) : List EffectivePair :=
  (s.directPairs realmId ++ s.groupedPairs realmId).dedup

end ServerTables

/-! ## Observations -/

structure ObservationSummary where
  observationId : Uuid
  scheduledAt : ℤ
  receivedAt : ℤ
  monitorId : Uuid
  agentId : Uuid
  probeType : ProbeType
  executionStatus : ExecutionStatus
  assessment : Assessment
  errorCategory : Option ErrorCategory
  errorCode : Option String
  errorMessage : Option String

def observationSummary (columns : Columns) (o : CommonRow) : ObservationSummary where
  observationId := o.observationId
  scheduledAt := o.scheduledAt
  receivedAt := columns.receivedAt o.identity
  monitorId := o.monitorId
  agentId := o.agentId
  probeType := o.probeType
  executionStatus := o.executionStatus
  assessment := o.assessment
  errorCategory := o.errorCategory
  errorCode := o.errorCode
  errorMessage := o.errorMessage

/-! ## The state of a monitor at an agent -/

structure Settings where
  agentHeartbeatIntervalSeconds : ℤ := 30
  agentOfflineAfterSeconds : ℤ := 90
  agentConfigurationPollIntervalSeconds : ℤ := 30

inductive AvailabilityState where
  | pendingConfiguration | noDataYet | healthy | unhealthy | probeError
  | overdue | agentStale | agentOffline | disabled
deriving DecidableEq

/-- A row of the query. The observation that comes last is joined. -/
structure StateRow where
  pair : EffectivePair
  desiredRevision : ℕ
  acknowledgedRevision : ℕ
  acknowledgedAt : Option ℤ
  lastHeartbeatAt : Option ℤ
  latest : Option ObservationSummary

def seconds (n : ℤ) : ℤ := n * 1000000

/-- `_availability_state`. -/
def availabilityState (settings : Settings) (now : ℤ) (row : StateRow) : AvailabilityState :=
  if row.desiredRevision = 0 ∨ row.acknowledgedRevision < row.desiredRevision then
    .pendingConfiguration
  else
    match row.lastHeartbeatAt with
    | none => .agentOffline
    | some heartbeat =>
      let staleAfter := min settings.agentOfflineAfterSeconds
        (settings.agentHeartbeatIntervalSeconds * 2)
      let grace := settings.agentHeartbeatIntervalSeconds +
        settings.agentConfigurationPollIntervalSeconds
      let allowed := seconds
        (row.pair.intervalSeconds + row.pair.timeoutSeconds + grace)
      if seconds settings.agentOfflineAfterSeconds < now - heartbeat then
        .agentOffline
      else if seconds staleAfter < now - heartbeat then .agentStale
      else
        match row.latest with
        | none =>
          match row.acknowledgedAt with
          | none => .noDataYet
          | some acknowledgedAt =>
            if now ≤ acknowledgedAt + allowed then .noDataYet else .overdue
        | some latest =>
          if latest.scheduledAt + allowed < now then .overdue
          else if latest.executionStatus = .failed then .probeError
          else
            match latest.assessment with
            | .unhealthy => .unhealthy
            | .healthy => .healthy
            | .unknown => .probeError

namespace ServerTables

variable (s : ServerTables)

end ServerTables

/-! ## History -/

structure ProbeHistoryPoint extends ObservationSummary where
  result : Option ObservationResult

namespace ServerTables

variable (s : ServerTables)

/-- A typed row is joined by its identity, in the table of the probe type. -/
def typedOn (o : CommonRow) (typed : TypedRow) : Bool :=
  typed.result.probeType = o.probeType && typed.identity = o.identity

def historyPoint (columns : Columns) (row : CommonRow × Option TypedRow) : ProbeHistoryPoint :=
  { observationSummary columns row.1 with result := row.2.map (·.result) }

def historyKey : SortKey ProbeHistoryPoint :=
  ((SortKey.number ℤ).column fun p => p.scheduledAt).andThen
    ((SortKey.number ℕ).column fun p => uuidNumber p.agentId)

/-- The rows of `_HISTORY_QUERY`. -/
def historyRows (realmId monitorId : Uuid) (probeType : ProbeType) (start stop : ℤ) :
    List (CommonRow × Option TypedRow) :=
  leftJoin typedOn (s.database.observations.filter fun o =>
    o.realmId = realmId && o.monitorId = monitorId && o.probeType = probeType &&
      start ≤ o.scheduledAt && o.scheduledAt ≤ stop) s.database.results

/-- `query_probe_history`. -/
def QueryProbeHistory (realmId monitorId : Uuid) (probeType : ProbeType)
    (start stop : ℤ) (limit : ℕ) (answer : List ProbeHistoryPoint) : Prop :=
  ∃ points, Arranged historyKey
      ((s.historyRows realmId monitorId probeType start stop).map
        (historyPoint s.columns)) points ∧ answer = points.take limit

end ServerTables

end Bifrostnms.Backend
