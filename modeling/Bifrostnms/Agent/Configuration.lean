import Bifrostnms.Agent.Protocol
import Bifrostnms.Agent.Scheduler

/-!
# Configurations on the agent (`storage/configuration.go`,
`synchronization/control_plane.go`, `engine/engine.go`, `main.go`)

A configuration reaches the scheduler in three steps. `SynchronizeConfiguration`
downloads one, validates it and activates it in the store, and then sends an
acknowledgement; `LoadActiveConfiguration` decodes the active snapshot and
reconciles the scheduler with it. The loop of `main.run` calls the second only
when the first reports an update and no error.

What the other side answers and whether a read or a transaction fails is an
input of each poll. A stored payload is kept as the tree whose text it is, with
its numbers as they are written; times are in nanoseconds.
-/

namespace Bifrostnms.Agent

open Bifrostnms.Lib Bifrostnms.Protocol

/-! ## The snapshot table -/

/-- A row of `configuration_snapshots`. No function modelled here writes or
reads a rejection. -/
structure ConfigurationSnapshot where
  revision : ℤ
  contentHash : List Char
  schemaVersion : ℤ
  canonicalPayload : Json JsonText.NumText
  downloadedAt : ℤ
  validatedAt : Option ℤ
  activatedAt : Option ℤ
  active : Bool

def ConfigurationSnapshot.payloadBytes (s : ConfigurationSnapshot) :
    List UInt8 := utf8 (s.canonicalPayload.encode JsonText.textEncoder)

/-- The primary key and the index `configuration_one_active_idx`. -/
structure Keyed (rows : List ConfigurationSnapshot) : Prop where
  revision : (rows.map ConfigurationSnapshot.revision).Nodup
  active : ∀ a ∈ rows, ∀ b ∈ rows, a.active = true → b.active = true → a.revision = b.revision

structure ConfigurationTable where
  rows : List ConfigurationSnapshot
  keyed : Keyed rows

/-- `ActiveConfiguration`; `none` is `sql.ErrNoRows`. -/
def ConfigurationTable.activeConfiguration (t : ConfigurationTable) :
    Option ConfigurationSnapshot := t.rows.find? fun row => row.active

/-- `ensureConfigurationContent`. -/
def ensureConfigurationContent (rows : List ConfigurationSnapshot)
    (snapshot : ConfigurationSnapshot) : Except String (List ConfigurationSnapshot) :=
  match rows.find? fun row => row.revision == snapshot.revision with
  | some row =>
    if row.contentHash ≠ snapshot.contentHash ∨ row.payloadBytes ≠ snapshot.payloadBytes then
      .error "configuration revision has different content"
    else .ok rows
  | none => .ok (rows ++ [{ snapshot with
      validatedAt := none
      activatedAt := none
      active := false }])

/-- The two updates: the active row is cleared, and the row of the revision
is marked. -/
def markActive (snapshot : ConfigurationSnapshot)
    (rows : List ConfigurationSnapshot) : List ConfigurationSnapshot :=
  rows.map fun row =>
    if row.revision = snapshot.revision then { row with
      validatedAt := snapshot.validatedAt
      activatedAt := snapshot.activatedAt
      active := true }
    else { row with active := false }

/-- A row the last statement may delete. -/
def retired (row : ConfigurationSnapshot) : Bool :=
  !row.active && row.validatedAt.isSome

/-- The deletion: of the retired rows, the one with the highest revision
stays. -/
def pruneRetired (rows : List ConfigurationSnapshot) : List ConfigurationSnapshot :=
  let newest := ((rows.filter retired).map ConfigurationSnapshot.revision).max?
  rows.filter fun row => !retired row || newest == some row.revision

theorem Keyed.ensure {rows rows' : List ConfigurationSnapshot}
    {snapshot : ConfigurationSnapshot} (h : Keyed rows)
    (hens : ensureConfigurationContent rows snapshot = .ok rows') :
    (rows'.map ConfigurationSnapshot.revision).Nodup := by
  unfold ensureConfigurationContent at hens
  split at hens
  · split at hens
    · cases hens
    · cases hens
      exact h.revision
  · next hnone =>
      cases hens
      rw [List.map_append, List.map_singleton, ← List.concat_eq_append, List.nodup_concat]
      refine ⟨?_, h.revision⟩
      intro hmem
      obtain ⟨row, hrow, hrev⟩ := List.mem_map.mp hmem
      exact absurd (beq_iff_eq.mpr hrev) (List.find?_eq_none.mp hnone row hrow)

theorem Keyed.mark {rows : List ConfigurationSnapshot} {snapshot : ConfigurationSnapshot}
    (h : (rows.map ConfigurationSnapshot.revision).Nodup) : Keyed (markActive snapshot rows) := by
  have hactive : ∀ a ∈ markActive snapshot rows, a.active = true →
      a.revision = snapshot.revision := by
    intro a ha hact
    obtain ⟨row, _, rfl⟩ := List.mem_map.mp ha
    split at hact
    · next hrev => rw [if_pos hrev]; exact hrev
    · cases hact
  refine ⟨?_, fun a ha b hb hact hact' => ?_⟩
  · have hsame : (markActive snapshot rows).map ConfigurationSnapshot.revision =
        rows.map ConfigurationSnapshot.revision := by
      rw [markActive, List.map_map]
      refine List.map_congr_left fun row _ => ?_
      show ConfigurationSnapshot.revision (ite _ _ _) = row.revision
      split <;> rfl
    rw [hsame]
    exact h
  · rw [hactive a ha hact, hactive b hb hact']

theorem Keyed.prune {rows : List ConfigurationSnapshot} (h : Keyed rows) :
    Keyed (pruneRetired rows) :=
  ⟨h.revision.sublist (List.filter_sublist.map _), fun a ha b hb =>
    h.active a (List.mem_filter.mp ha).1 b (List.mem_filter.mp hb).1⟩

/-- `ActivateConfiguration`, when no statement fails by itself. -/
def ConfigurationTable.activateConfiguration (t : ConfigurationTable)
    (snapshot : ConfigurationSnapshot) : Except String ConfigurationTable :=
  if snapshot.revision < 1 ∨ snapshot.contentHash = [] ∨
      snapshot.payloadBytes = [] ∨ snapshot.schemaVersion < 1 ∨
      snapshot.validatedAt = none ∨ snapshot.activatedAt = none then
    .error "validated configuration snapshot fields are required"
  else
    match h : ensureConfigurationContent t.rows snapshot with
    | .error e => .error e
    | .ok rows => .ok ⟨pruneRetired (markActive snapshot rows),
        (Keyed.mark (t.keyed.ensure h)).prune⟩

/-! ## SynchronizeConfiguration -/

/-- A number an `int64` holds; so does an `int`. -/
def Int64Range (n : ℤ) : Prop :=
  -9223372036854775808 ≤ n ∧ n ≤ 9223372036854775807

/-- A response as `decodeJSON` leaves it: its numbers are machine integers,
and the configuration of a monitor is a map of raw messages, which
`json.Marshal` writes back in the spelling of the response. -/
structure DecodedConfiguration where
  response : ConfigurationResponse
  marshal : MonitorConfiguration → List Char
  revision_range : Int64Range response.revision
  schema_range : Int64Range response.configurationSchemaVersion
  monitor_range : ∀ m ∈ response.monitors, Int64Range m.monitorRevision ∧
    Int64Range m.probeSchemaVersion ∧ Int64Range m.intervalSeconds ∧ Int64Range m.timeoutSeconds

structure Identity where
  agentId : String
  realmId : String

/-- What one call of `SynchronizeConfiguration` meets. -/
structure Poll where
  now : ℤ
  /-- The identity, when it and a credential could be read. -/
  identity : Except String Identity
  /-- Whether the active snapshot could be read. -/
  readActive : Except String Unit
  /-- The answer to the download; `none` is 304. -/
  download : Except String (Option DecodedConfiguration)
  /-- Whether the transaction of the activation went through. -/
  commit : Except String Unit
  acknowledgement : Except String Unit

/-- The agent's digest function, probes and capabilities. -/
structure AgentContext where
  sha256 : List UInt8 → List UInt8
  registry : Registry
  capabilities : Capabilities

/-- The payload that `Validate` returns. -/
def canonicalPayload (c : ConfigurationResponse) : Json JsonText.NumText :=
  (canonicalValue c).mapNum JsonText.numText

/-- `strings.TrimPrefix(strings.ToLower(contentHash), "sha256:")`, on the
hashes that `Validate` lets through: their letters are ASCII or a long s, which
`ToLower` keeps. -/
def snapshotDigest (contentHash : String) : List Char :=
  let lower := contentHash.toList.map Char.toLower
  if "sha256:".toList.isPrefixOf lower then lower.drop 7 else lower

/-- The loop over the monitors of a validated response. -/
def validateConfigurations (registry : Registry) (marshal : MonitorConfiguration → List Char) :
    List MonitorConfiguration → Except String Unit
  | [] => .ok ()
  | m :: ms =>
    match registry.validate m.probeType (UInt32.ofInt m.probeSchemaVersion) (marshal m) with
    | .error e => .error ("validate monitor " ++ m.monitorId ++ ": " ++ e)
    | .ok () => validateConfigurations registry marshal ms

def downloadedSnapshot (c : ConfigurationResponse) (now : ℤ) : ConfigurationSnapshot where
  revision := c.revision
  contentHash := snapshotDigest c.contentHash
  schemaVersion := c.configurationSchemaVersion
  canonicalPayload := canonicalPayload c
  downloadedAt := now
  validatedAt := some now
  activatedAt := some now
  active := false

/-- From the downloaded response to the table with it active. -/
def activateDownload (ctx : AgentContext) (poll : Poll) (identity : Identity)
    (d : DecodedConfiguration) (table : ConfigurationTable) : Except String ConfigurationTable :=
  match validate ctx.sha256 d.response identity.agentId identity.realmId
      ctx.capabilities with
  | .error e => .error ("validate desired configuration: " ++ e.message)
  | .ok _ =>
    match validateConfigurations ctx.registry d.marshal d.response.monitors with
    | .error e => .error e
    | .ok () =>
      match table.activateConfiguration
          (downloadedSnapshot d.response poll.now), poll.commit with
      | .error e, _ => .error ("activate desired configuration: " ++ e)
      | .ok _, .error e => .error ("activate desired configuration: " ++ e)
      | .ok table', .ok () => .ok table'

def failure : Except String Unit → Option String
  | .ok () => none
  | .error e => some e

/-- What `SynchronizeConfiguration` returns, with the table it leaves. -/
structure Synchronized where
  updated : Bool
  error : Option String
  table : ConfigurationTable

/-- `SynchronizeConfiguration`. -/
def synchronizeConfiguration (ctx : AgentContext) (poll : Poll)
    (table : ConfigurationTable) : Synchronized :=
  match poll.identity, poll.readActive, poll.download with
  | .error e, _, _ => ⟨false, some e, table⟩
  | .ok _, .error e, _ =>
    ⟨false, some ("read active configuration: " ++ e), table⟩
  | .ok _, .ok (), .error e => ⟨false, some e, table⟩
  | .ok _, .ok (), .ok none =>
    match table.activeConfiguration with
    | none => ⟨false, none, table⟩
    | some active =>
      if active.activatedAt = none then ⟨false, none, table⟩
      else ⟨false, failure poll.acknowledgement, table⟩
  | .ok identity, .ok (), .ok (some d) =>
    match activateDownload ctx poll identity d table with
    | .error e => ⟨false, some e, table⟩
    -- A failed acknowledgement is reported together with the update.
    | .ok table' => ⟨true, (failure poll.acknowledgement).map
        ("acknowledge active configuration: " ++ ·), table'⟩

/-! ## LoadActiveConfiguration -/

/-- `json.Unmarshal` into a string field; a missing member and a `null` leave
it empty. -/
def stringField (members : List (String × Json JsonText.NumText)) (name : String) : Option String :=
  match members.lookup name with
  | none | some .null => some ""
  | some (.str s) => some s
  | some _ => none

/-- `json.Unmarshal` into an integer field with the given bounds. -/
def intField (lower upper : ℤ) (members : List (String × Json JsonText.NumText))
    (name : String) : Option ℤ :=
  match members.lookup name with
  | none | some .null => some 0
  | some (.num n) =>
    (JsonText.readInt n.val).filter fun v => lower ≤ v ∧ v ≤ upper
  | some _ => none

def int64Field := intField (-9223372036854775808) 9223372036854775807

def uint32Field := intField 0 4294967295

/-- `json.Unmarshal` into a raw message. -/
def rawField (members : List (String × Json JsonText.NumText)) (name : String) : List Char :=
  match members.lookup name with
  | none => []
  | some v => v.encode JsonText.textEncoder

structure MonitorAssignment where
  monitorId : String
  targetId : String
  monitorRevision : ℤ
  targetAddress : String
  probeType : String
  probeSchemaVersion : UInt32
  intervalSeconds : ℤ
  timeoutSeconds : ℤ
  missedRunPolicy : String
  configuration : List Char

/-- The members of an object; a `null` leaves a structure as it is. -/
def objectMembers : Json JsonText.NumText → Option (List (String × Json JsonText.NumText))
  | .obj members => some members
  | .null => some []
  | _ => none

def decodeMonitor (v : Json JsonText.NumText) : Option MonitorAssignment := do
  let members ← objectMembers v
  return {
    monitorId := ← stringField members "monitor_id"
    targetId := ← stringField members "target_id"
    monitorRevision := ← int64Field members "monitor_revision"
    targetAddress := ← stringField members "target_address"
    probeType := ← stringField members "probe_type"
    probeSchemaVersion :=
      UInt32.ofInt (← uint32Field members "probe_schema_version")
    intervalSeconds := ← int64Field members "interval_seconds"
    timeoutSeconds := ← int64Field members "timeout_seconds"
    missedRunPolicy := ← stringField members "missed_run_policy"
    configuration := rawField members "configuration" }

structure ActiveConfiguration where
  configurationSchemaVersion : ℤ
  monitors : List MonitorAssignment

def decodeConfiguration (v : Json JsonText.NumText) : Option ActiveConfiguration := do
  let members ← objectMembers v
  let version ← int64Field members "configuration_schema_version"
  let monitors ← match members.lookup "monitors" with
    | none | some .null => some []
    | some (.arr xs) => xs.mapM decodeMonitor
    | some _ => none
  return ⟨version, monitors⟩

/-- `time.Duration(seconds) * time.Second`, in 64 bits. -/
def duration (seconds : ℤ) : ℤ := Int.bmod (seconds * second) (2 ^ 64)

def MonitorAssignment.assignment (m : MonitorAssignment) (revision : ℤ) : Assignment where
  probeType := m.probeType
  configurationSchemaVersion := m.probeSchemaVersion
  agentConfigRevision := revision
  monitorId := m.monitorId
  monitorRevision := m.monitorRevision
  targetId := m.targetId
  targetAddress := m.targetAddress
  interval := duration m.intervalSeconds
  timeout := duration m.timeoutSeconds
  configuration := m.configuration

/-- The loop of `LoadActiveConfiguration`. -/
def collectAssignments (revision : ℤ) : List MonitorAssignment → Except String (List Assignment)
  | [] => .ok []
  | m :: ms =>
    if m.missedRunPolicy ≠ "skip" then
      .error ("monitor " ++ m.monitorId ++ " has unsupported missed-run policy")
    else
      match collectAssignments revision ms with
      | .error e => .error e
      | .ok as => .ok (m.assignment revision :: as)

/-- The assignments of the active snapshot. The text of a decoding error is
left out. -/
def ConfigurationTable.activeAssignments (t : ConfigurationTable) :
    Except String (List Assignment) :=
  match t.activeConfiguration with
  | none => .ok []
  | some snapshot =>
    match decodeConfiguration snapshot.canonicalPayload with
    | none => .error "decode active configuration"
    | some configuration =>
      if configuration.configurationSchemaVersion ≠ 1 then
        .error "active configuration schema is unsupported"
      else collectAssignments snapshot.revision configuration.monitors

/-- `LoadActiveConfiguration`. -/
def loadActiveConfiguration (ctx : AgentContext) (now : ℤ)
    (table : ConfigurationTable) (rows : ScheduleRows) : Except String (List Job) × ScheduleRows :=
  match table.activeAssignments with
  | .error e => (.error e, rows)
  | .ok assignments => reconcile ctx.sha256 ctx.registry assignments now rows

/-! ## The configuration tick of `main.run` -/

/-- The snapshots in the store, and the jobs in the scheduler. -/
structure AgentProcess where
  table : ConfigurationTable
  jobs : List Job

/-- `run` up to its loop: the result of the first poll is only logged, and a
configuration that cannot be loaded ends the process. -/
def startProcess (ctx : AgentContext) (poll : Poll) (now : ℤ)
    (rows : ScheduleRows) (table : ConfigurationTable) : Except String AgentProcess :=
  let table' := (synchronizeConfiguration ctx poll table).table
  match (loadActiveConfiguration ctx now table' rows).1 with
  | .error e => .error ("load last valid configuration: " ++ e)
  | .ok jobs => .ok ⟨table', jobs⟩

/-- One configuration tick. An error of the poll is only logged. -/
def configurationTick (ctx : AgentContext) (poll : Poll) (now : ℤ)
    (rows : ScheduleRows) (p : AgentProcess) : Except String AgentProcess :=
  let r := synchronizeConfiguration ctx poll p.table
  match r.error with
  | some _ => .ok { p with table := r.table }
  | none =>
    if r.updated then
      match (loadActiveConfiguration ctx now r.table rows).1 with
      | .error e => .error e
      | .ok jobs => .ok ⟨r.table, jobs⟩
    else .ok { p with table := r.table }

/-- A step of a running process: a configuration tick that does not end it,
on a poll that is allowed, or a `Tick` of the scheduler, which visits its jobs
in any order. The schedule rows are written by other goroutines too, so a step
may meet any. -/
inductive ProcessStep (ctx : AgentContext) (allowed : AgentProcess → Poll → Prop) :
    AgentProcess → AgentProcess → Prop where
  | configuration {p p' : AgentProcess} (poll : Poll) (now : ℤ)
      (rows : ScheduleRows) (hpoll : allowed p poll)
      (htick : configurationTick ctx poll now rows p = .ok p') : ProcessStep ctx allowed p p'
  | schedule {p : AgentProcess} (capacity : ℕ) (now : ℤ) (order : List Job)
      (shared : Shared) (horder : order.Perm p.jobs) : ProcessStep ctx allowed p
        { p with jobs := (tick capacity now order shared).jobs }

end Bifrostnms.Agent
