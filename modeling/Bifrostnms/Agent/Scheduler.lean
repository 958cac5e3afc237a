import Bifrostnms.Agent.Probe

/-!
# The scheduler (`scheduler/scheduler.go`, `storage/scheduler.go`)

Every assigned monitor has a job with its next due time, and a row of
`scheduler_state` that survives the process. `Reconcile` checks the
assignments, restores each row, removes the others and then replaces the jobs;
`Tick` walks over the jobs that are due, advances their rows and starts a run
unless the monitor is still running or every worker is taken. Times and
durations are in nanoseconds, and a time is stored and read back unchanged.

The pieces are kept apart where another goroutine can come between them:
`evaluate` is what `Tick` decides about a due job before it writes the row, and
`tick` is the whole of it when nothing comes between.
-/

namespace Bifrostnms.Agent

open Bifrostnms.Lib

def second : ℤ := 1000000000

def minimumInterval : ℤ := 5 * second

def maximumInterval : ℤ := 24 * 3600 * second

def minimumTimeout : ℤ := second / 10

structure Assignment where
  probeType : String
  configurationSchemaVersion : UInt32
  agentConfigRevision : ℤ
  monitorId : String
  monitorRevision : ℤ
  targetId : String
  targetAddress : String
  interval : ℤ
  timeout : ℤ
  configuration : List Char

structure Job where
  assignment : Assignment
  nextDue : ℤ

def Job.monitorId (job : Job) : String := job.assignment.monitorId

inductive MissReason where
  | overlap | capacity
deriving DecidableEq

structure MissedRun where
  monitorId : String
  scheduledAt : ℤ
  reason : MissReason
deriving DecidableEq

structure Execution where
  probeType : String
  request : Request
  result : Result

/-! ## Hashed values -/

/-- `binary.BigEndian.Uint64` of the first eight bytes. -/
def bigEndian (bytes : List UInt8) : ℕ :=
  (bytes.take 8).foldl (fun n b => n * 256 + b.toNat) 0

/-- `deterministicJitter`. -/
def deterministicJitter (sha256 : List UInt8 → List UInt8) (identity : String) (interval : ℤ) : ℤ :=
  let maximum := interval.tdiv 10
  if maximum ≤ 0 then 0
  else bigEndian (sha256 (utf8 identity.toList)) % maximum

/-- `newObservationID`: the first sixteen bytes of the digest, in the groups
of a UUID. -/
def newObservationId (sha256 : List UInt8 → List UInt8) (monitorId : String)
    (scheduledAt : ℤ) : String :=
  let digest := sha256 (utf8 (monitorId.toList ++ '/' :: rfc3339Nano scheduledAt))
  String.ofList (hexText (digest.take 4) ++ '-' :: (hexText ((digest.drop 4).take 2) ++
      '-' :: (hexText ((digest.drop 6).take 2) ++ '-' :: (hexText ((digest.drop 8).take 2) ++
          '-' :: hexText ((digest.drop 10).take 6)))))

/-- The request that `start` builds for a run. -/
def startRequest (sha256 : List UInt8 → List UInt8) (a : Assignment)
    (scheduledAt : ℤ) : Request where
  observationId := newObservationId sha256 a.monitorId scheduledAt
  scheduledAt := scheduledAt
  agentConfigRevision := a.agentConfigRevision
  monitorId := a.monitorId
  monitorRevision := a.monitorRevision
  targetId := a.targetId
  targetAddress := a.targetAddress
  timeout := a.timeout
  configuration := a.configuration

/-! ## The stored schedule -/

/-- A row of `scheduler_state`. -/
structure ScheduleState where
  monitorRevision : ℤ
  agentConfigRevision : ℤ
  nextDueAt : ℤ
  missedRunCount : ℤ
deriving DecidableEq

/-- The table, by its primary key. -/
abbrev ScheduleRows := String → Option ScheduleState

/-- The loop over the due times up to `now`: those it passes, and the first
one after. -/
def catchUp (interval now due : ℤ) : List ℤ × ℤ :=
  if now < due ∨ interval ≤ 0 then ([], due)
  else
    let rest := catchUp interval now (due + interval)
    (due :: rest.1, rest.2)
termination_by (now + 1 - due).toNat
decreasing_by omega

/-- The row `RestoreSchedule` writes. -/
def restoredRow (row : Option ScheduleState)
    (monitorRevision agentConfigRevision initialDue interval now : ℤ) : ScheduleState :=
  match row with
  | none => ⟨monitorRevision, agentConfigRevision, initialDue, 0⟩
  | some row =>
    if row.monitorRevision = monitorRevision ∧ row.agentConfigRevision = agentConfigRevision then
      let (passed, nextDue) := catchUp interval now row.nextDueAt
      ⟨monitorRevision, agentConfigRevision, nextDue, row.missedRunCount + passed.length⟩
    else ⟨monitorRevision, agentConfigRevision, initialDue, 0⟩

/-- `RestoreSchedule`, with the row it leaves behind. -/
def restoreSchedule (rows : ScheduleRows) (monitorId : String)
    (monitorRevision agentConfigRevision initialDue interval now : ℤ) :
    Except String (ℤ × ScheduleRows) :=
  if monitorId = "" ∨ monitorRevision < 1 ∨ agentConfigRevision < 1 ∨ interval ≤ 0 then
    .error "valid schedule identity and interval are required"
  else
    let row := restoredRow (rows monitorId) monitorRevision agentConfigRevision
      initialDue interval now
    .ok (row.nextDueAt, Function.update rows monitorId (some row))

/-- `AdvanceSchedule`. -/
def advanceSchedule (rows : ScheduleRows) (monitorId : String)
    (monitorRevision agentConfigRevision nextDue missedRuns : ℤ) : Except String ScheduleRows :=
  match rows monitorId with
  | none => .error "schedule state changed before it could be advanced"
  | some row =>
    if row.monitorRevision = monitorRevision ∧ row.agentConfigRevision = agentConfigRevision then
      .ok (Function.update rows monitorId (some { row with
        nextDueAt := nextDue
        missedRunCount := row.missedRunCount + missedRuns }))
    else .error "schedule state changed before it could be advanced"

/-- `RemoveSchedulesExcept`. -/
def removeSchedulesExcept (rows : ScheduleRows) (monitorIds : List String) :
    ScheduleRows := fun id => if id ∈ monitorIds then rows id else none

/-! ## Reconcile -/

/-- The checks on one assignment, given the jobs of those before it. -/
def checkAssignment (registry : Registry) (validated : List Job)
    (a : Assignment) : Except String Unit :=
  if a.monitorId = "" ∨ a.monitorRevision < 1 ∨ a.agentConfigRevision < 1 ∨
      a.targetId = "" ∨ a.targetAddress = "" then
    .error "scheduler assignment identity is incomplete"
  else if a.interval < minimumInterval ∨ maximumInterval < a.interval ∨
      a.timeout < minimumTimeout ∨ a.interval ≤ a.timeout then
    .error ("monitor " ++ a.monitorId ++ " has invalid scheduling bounds")
  else if validated.any fun job => job.monitorId == a.monitorId then
    .error ("monitor " ++ a.monitorId ++ " is assigned more than once")
  else registry.validate a.probeType a.configurationSchemaVersion a.configuration

/-- The loop of `Reconcile` over the assignments. The map it builds is a list
of jobs with distinct monitors. -/
def validateAssignments (sha256 : List UInt8 → List UInt8) (registry : Registry)
    (now : ℤ) : List Job → List Assignment → Except String (List Job)
  | validated, [] => .ok validated
  | validated, a :: rest =>
    match checkAssignment registry validated a with
    | .error e => .error e
    | .ok () => validateAssignments sha256 registry now (validated ++
        [⟨a, now + deterministicJitter sha256 a.monitorId a.interval⟩]) rest

/-- `RestoreSchedule` for a candidate job, whose next due time becomes the
restored one. -/
def restoreJob (now : ℤ) (rows : ScheduleRows) (job : Job) : Except String (Job × ScheduleRows) :=
  match restoreSchedule rows job.monitorId job.assignment.monitorRevision
      job.assignment.agentConfigRevision job.nextDue job.assignment.interval
      now with
  | .error e => .error ("restore monitor " ++ job.monitorId ++ " schedule: " ++ e)
  | .ok (nextDue, rows') => .ok ({ job with nextDue := nextDue }, rows')

/-- The loop of `Reconcile` over the candidates, with the rows as it left
them. -/
def restoreJobs (now : ℤ) : List Job → ScheduleRows → Except String (List Job) × ScheduleRows
  | [], rows => (.ok [], rows)
  | job :: rest, rows =>
    match restoreJob now rows job with
    | .error e => (.error e, rows)
    | .ok (job', rows') =>
      match restoreJobs now rest rows' with
      | (.error e, rows'') => (.error e, rows'')
      | (.ok jobs, rows'') => (.ok (job' :: jobs), rows'')

/-- `Reconcile`: the jobs that replace the old ones, and the table. -/
def reconcile (sha256 : List UInt8 → List UInt8) (registry : Registry)
    (assignments : List Assignment) (now : ℤ) (rows : ScheduleRows) :
    Except String (List Job) × ScheduleRows :=
  match validateAssignments sha256 registry now [] assignments with
  | .error e => (.error e, rows)
  | .ok validated =>
    match restoreJobs now validated rows with
    | (.error e, rows') => (.error e, rows')
    | (.ok jobs, rows') =>
      (.ok jobs, removeSchedulesExcept rows' (jobs.map Job.monitorId))

/-! ## Tick -/

/-- What `Tick` has decided about a due job when it writes the row. -/
structure Turn where
  nextDue : ℤ
  skipped : List MissedRun
  missReason : Option MissReason

def Turn.missedCount (t : Turn) : ℕ :=
  t.skipped.length + if t.missReason.isSome then 1 else 0

/-- The due times after the first that are already past are missed for want
of capacity; the first one is missed if the monitor is running or no worker
is free. -/
def evaluate (now : ℤ) (job : Job) (running full : Bool) : Turn :=
  let (passed, nextDue) := catchUp job.assignment.interval now
    (job.nextDue + job.assignment.interval)
  { nextDue := nextDue
    skipped := passed.map fun t => ⟨job.monitorId, t, .capacity⟩
    missReason :=
      if running then some .overlap
      else if full then some .capacity
      else none }

/-- `AdvanceSchedule` for a job that was due. -/
def advanceJob (rows : ScheduleRows) (job : Job) (turn : Turn) : Except String ScheduleRows :=
  advanceSchedule rows job.monitorId job.assignment.monitorRevision
    job.assignment.agentConfigRevision turn.nextDue turn.missedCount

/-- The runs a turn reports as missed. -/
def Turn.missed (turn : Turn) (job : Job) : List MissedRun :=
  match turn.missReason with
  | some reason => turn.skipped ++ [⟨job.monitorId, job.nextDue, reason⟩]
  | none => turn.skipped

/-- What `Tick` shares with other goroutines: the table, the running monitors
and the worker slots that are taken. -/
structure Shared where
  rows : ScheduleRows
  running : String → Bool
  workers : ℕ

/-- A worker slot is taken and the monitor is marked as running. -/
def Shared.begin (s : Shared) (monitorId : String) : Shared :=
  { s with
    running := Function.update s.running monitorId true
    workers := s.workers + 1 }

/-- The outcome of `Tick`: what it returns, the jobs and the shared state it
leaves, and the runs it has started. -/
structure TickResult where
  missed : List MissedRun
  error : Option String
  jobs : List Job
  started : List (Assignment × ℤ)
  shared : Shared

/-- What the turn of one due job adds to the rest of the loop. -/
def TickResult.after (r : TickResult) (job : Job) (turn : Turn) : TickResult :=
  { r with
    missed := turn.missed job ++ r.missed
    jobs := { job with nextDue := turn.nextDue } :: r.jobs
    started := if turn.missReason.isSome then r.started
      else (job.assignment, job.nextDue) :: r.started }

/-- `Tick` over the jobs, in the order in which they are visited. -/
def tick (capacity : ℕ) (now : ℤ) : List Job → Shared → TickResult
  | [], s => ⟨[], none, [], [], s⟩
  | job :: rest, s =>
    if now < job.nextDue then
      let r := tick capacity now rest s
      { r with jobs := job :: r.jobs }
    else
      let turn := evaluate now job (s.running job.monitorId)
        (s.workers == capacity)
      match advanceJob s.rows job turn with
      | .error e => ⟨turn.skipped, some ("advance monitor schedule: " ++ e), job :: rest, [], s⟩
      | .ok rows =>
        let s' : Shared := { s with rows := rows }
        (tick capacity now rest (if turn.missReason.isSome then s'
          else s'.begin job.monitorId)).after job turn

/-! ## One operation after the other -/

structure SchedulerContext where
  sha256 : List UInt8 → List UInt8
  registry : Registry
  /-- `maximumConcurrent`, the capacity of both channels. -/
  capacity : ℕ

/-- The scheduler between two operations, with every run it has started, also
in earlier processes. -/
structure SchedulerProcess where
  jobs : List Job
  shared : Shared
  started : List (Assignment × ℤ)

/-- The state that a `Tick` leaves. -/
def SchedulerProcess.ticked (s : SchedulerProcess) (r : TickResult) : SchedulerProcess :=
  ⟨r.jobs, r.shared, s.started ++ r.started⟩

/-- One operation on the scheduler. `Reconcile` is given a list of assignments
that is allowed, `Tick` visits its jobs in any order, and a run that completes
clears its mark and then gives its worker back. A new process has no jobs, no
running monitors and free workers, and finds the rows of the last one. -/
inductive Operation (ctx : SchedulerContext) (allowed : List Assignment → Prop) :
    SchedulerProcess → SchedulerProcess → Prop where
  | reconcile {s : SchedulerProcess} {jobs : List Job} {rows : ScheduleRows}
      (assignments : List Assignment) (now : ℤ) (hallowed : allowed assignments)
      (hok : Agent.reconcile ctx.sha256 ctx.registry assignments now
        s.shared.rows = (.ok jobs, rows)) : Operation ctx allowed s
        { s with jobs := jobs, shared := { s.shared with rows := rows } }
  | rejected {s : SchedulerProcess} {e : String} {rows : ScheduleRows}
      (assignments : List Assignment) (now : ℤ)
      (herror : Agent.reconcile ctx.sha256 ctx.registry assignments now
        s.shared.rows = (.error e, rows)) : Operation ctx allowed s
        { s with shared := { s.shared with rows := rows } }
  | tick {s : SchedulerProcess} (now : ℤ) (order : List Job)
      (horder : order.Perm s.jobs) : Operation ctx allowed s
        (s.ticked (Agent.tick ctx.capacity now order s.shared))
  | clear {s : SchedulerProcess} (monitorId : String) :
      Operation ctx allowed s { s with shared := { s.shared with
        running := Function.update s.shared.running monitorId false } }
  | release {s : SchedulerProcess} : Operation ctx allowed s { s with shared := { s.shared with
        workers := s.shared.workers - 1 } }
  | restart {s : SchedulerProcess} : Operation ctx allowed s { s with
        jobs := []
        shared := ⟨s.shared.rows, fun _ => false, 0⟩ }

end Bifrostnms.Agent
