import Bifrostnms.Agent.Scheduler

/-!
# Goroutines of the scheduler (`scheduler/scheduler.go`)

`Tick`, `Reconcile` and the goroutine of every run work on the same maps,
channels and rows. This file splits them where another goroutine can come
between, one event for each stretch of code that no other goroutine can see
the middle of:

* `Tick` holds the mutex from `tickBegin` to `tickEnd`. It visits the jobs in
  any order; between the decision about a due job, the commit of its row and
  the send on the workers channel the rows and the channel can change, the
  jobs and the running map cannot.
* `Reconcile` commits one row after the other without the mutex, then removes
  the obsolete rows, and takes the mutex only to replace the jobs. It is called
  from one goroutine, so there is one at a time.
* A run ends its probe, sends the execution, clears the running mark under the
  mutex, and then runs its deferred calls: the worker slot is given back before
  the wait group is told.

No store operation fails by itself. A run keeps its place in the list of runs
after it has ended, so the list is also the history of what was started.
-/

namespace Bifrostnms.Agent

open Bifrostnms.Lib

/-! ## Runs -/

/-- A reading of the system clock; it is never the zero time. -/
abbrev ClockTime := {t : ℤ // zeroTime < t}

/-- How a probe implementation ends. -/
inductive ProbeOutcome where
  | returned (result : Result)
  | panicked

/-- The result that stands for a failure of the agent itself. -/
def internalFailure (startedAt finishedAt : ℤ) (code message : String) : Result where
  startedAt := startedAt
  finishedAt := finishedAt
  executionStatus := executionFailed
  assessment := assessmentUnknown
  errorCategory := some errorInternal
  errorCode := code
  errorMessage := message

/-- `runProbeSafely`. -/
def runProbeSafely (outcome : ProbeOutcome) (startedAt finishedAt : ClockTime) : Result :=
  match outcome with
  | .returned result => result
  | .panicked => internalFailure startedAt finishedAt "probe_panic"
      "Probe stopped after an internal failure."

/-- The result a run sends: one that does not validate is replaced. -/
def checkedResult (result : Result) (now : ClockTime) : Result :=
  match result.validate with
  | .ok () => result
  | .error _ => internalFailure now now "invalid_probe_result"
      "Probe returned an invalid result."

/-- Where the goroutine of a run is. -/
inductive RunPhase where
  /-- Inside the probe. -/
  | probing
  /-- At the send on the results channel. -/
  | sending (result : Result)
  /-- The execution is sent; the running mark is still set. -/
  | clearing
  /-- The running mark is cleared; the worker slot is still taken. -/
  | releasing
  /-- The worker slot is given back; `wait.Done` is to come. -/
  | closing
  | ended

structure ProbeRun where
  assignment : Assignment
  scheduledAt : ℤ
  phase : RunPhase

def ProbeRun.monitorId (r : ProbeRun) : String := r.assignment.monitorId

/-- The monitor and the time a run was started for. -/
def ProbeRun.key (r : ProbeRun) : String × ℤ := (r.monitorId, r.scheduledAt)

/-- The execution that a run sends. -/
def runExecution (sha256 : List UInt8 → List UInt8) (a : Assignment)
    (scheduledAt : ℤ) (result : Result) : Execution :=
  ⟨a.probeType, startRequest sha256 a scheduledAt, result⟩

/-! ## Tick and Reconcile -/

/-- Where `Tick` is; it holds the mutex unless it is idle. -/
inductive TickPhase where
  | idle
  /-- Between two jobs, with the monitors still to visit. -/
  | looping (now : ℤ) (pending : List String)
  /-- At `AdvanceSchedule` for a due job. -/
  | advancing (now : ℤ) (pending : List String) (job : Job) (turn : Turn)
  /-- At the send on the workers channel, with the job as it was when due. -/
  | starting (now : ℤ) (pending : List String) (job : Job)

/-- Where `Reconcile` is. -/
inductive ReconcilePhase where
  | idle
  /-- Between two calls of `RestoreSchedule`. -/
  | restoring (now : ℤ) (todo restored : List Job)
  /-- At the mutex, with the jobs to install. -/
  | swapping (jobs : List Job)

structure SchedulerState where
  jobs : List Job := []
  rows : ScheduleRows
  running : String → Bool := fun _ => false
  /-- The number of tokens in the workers channel. -/
  workers : ℕ := 0
  /-- The buffer of the results channel. -/
  results : List Execution := []
  runs : List ProbeRun := []
  tick : TickPhase := .idle
  reconcile : ReconcilePhase := .idle
  /-- The error a `Tick` has returned. -/
  failed : Option String := none
  /-- Every execution that was sent, with the run that sent it. -/
  sent : List (ℕ × Execution) := []
  /-- Every execution that was taken from the channel. -/
  received : List Execution := []

inductive SchedulerEvent where
  | tickBegin (now : ℤ)
  | tickVisit (monitorId : String)
  | tickAdvance
  | tickStart
  | tickEnd
  | reconcileBegin (assignments : List Assignment) (now : ℤ)
  | reconcileRestore (monitorId : String)
  | reconcileRemove
  | reconcileSwap
  | probeEnd (run : ℕ) (outcome : ProbeOutcome)
      (startedAt finishedAt now : ClockTime)
  | resultSend (run : ℕ)
  | runningClear (run : ℕ)
  | workerRelease (run : ℕ)
  | runDone (run : ℕ)
  | resultReceive

/-- The job of a monitor. -/
def findJob (jobs : List Job) (monitorId : String) : Option Job :=
  jobs.find? fun job => job.monitorId == monitorId

/-- `current.nextDue = nextDue`. -/
def setNextDue (jobs : List Job) (monitorId : String) (nextDue : ℤ) : List Job :=
  jobs.map fun job =>
    if job.monitorId = monitorId then { job with nextDue := nextDue } else job

def setPhase (runs : List ProbeRun) (i : ℕ) (phase : RunPhase) : List ProbeRun :=
  runs.modify i fun r => { r with phase := phase }

namespace SchedulerState

variable (ctx : SchedulerContext) (s : SchedulerState)

/-- One job of the loop of `Tick`, up to the decision. -/
def visit (monitorId : String) : Option SchedulerState :=
  match s.tick with
  | .looping now pending =>
    match findJob s.jobs monitorId with
    | some job =>
      if monitorId ∉ pending then none
      else if now < job.nextDue then
        some { s with tick := .looping now (pending.erase monitorId) }
      else some { s with
        tick := .advancing now (pending.erase monitorId) job
          (evaluate now job (s.running monitorId)
            (s.workers == ctx.capacity)) }
    | none => none
  | _ => none

/-- `AdvanceSchedule` and what follows it. -/
def advance : Option SchedulerState :=
  match s.tick with
  | .advancing now pending job turn =>
    match advanceJob s.rows job turn with
    | .error e => some { s with
        tick := .idle
        failed := some ("advance monitor schedule: " ++ e) }
    | .ok rows => some { s with
        rows := rows
        jobs := setNextDue s.jobs job.monitorId turn.nextDue
        tick := if turn.missReason.isSome then .looping now pending
          else .starting now pending job }
  | _ => none

/-- The send on the workers channel, which blocks while it is full, and
`start`. -/
def start : Option SchedulerState :=
  match s.tick with
  | .starting now pending job =>
    if s.workers < ctx.capacity then some { s with
      workers := s.workers + 1
      running := Function.update s.running job.monitorId true
      runs := s.runs ++ [⟨job.assignment, job.nextDue, .probing⟩]
      tick := .looping now pending }
    else none
  | _ => none

/-- `RestoreSchedule` for one candidate. -/
def restore (monitorId : String) : Option SchedulerState :=
  match s.reconcile with
  | .restoring now todo restored =>
    match findJob todo monitorId with
    | some job =>
      match restoreJob now s.rows job with
      | .error _ => some { s with reconcile := .idle }
      | .ok (job', rows) => some { s with
          rows := rows
          reconcile := .restoring now
            (todo.filter fun j => j.monitorId ≠ monitorId)
            (restored ++ [job']) }
    | none => none
  | _ => none

/-- One event, when it can happen. -/
def step : SchedulerEvent → Option SchedulerState
  | .tickBegin now =>
    match s.tick with
    | .idle => some { s with tick := .looping now (s.jobs.map Job.monitorId) }
    | _ => none
  | .tickVisit monitorId => s.visit ctx monitorId
  | .tickAdvance => s.advance
  | .tickStart => s.start ctx
  | .tickEnd =>
    match s.tick with
    | .looping _ [] => some { s with tick := .idle }
    | _ => none
  | .reconcileBegin assignments now =>
    match s.reconcile, validateAssignments ctx.sha256 ctx.registry now [] assignments with
    | .idle, .ok candidates =>
      some { s with reconcile := .restoring now candidates [] }
    | .idle, .error _ => some s
    | _, _ => none
  | .reconcileRestore monitorId => s.restore monitorId
  | .reconcileRemove =>
    match s.reconcile with
    | .restoring _ [] restored => some { s with
        rows := removeSchedulesExcept s.rows (restored.map Job.monitorId)
        reconcile := .swapping restored }
    | _ => none
  | .reconcileSwap =>
    match s.reconcile, s.tick with
    | .swapping jobs, .idle => some { s with
        jobs := jobs
        reconcile := .idle }
    | _, _ => none
  | .probeEnd i outcome startedAt finishedAt now =>
    match s.runs[i]? with
    | some ⟨_, _, .probing⟩ => some { s with
        runs := setPhase s.runs i (.sending (checkedResult
          (runProbeSafely outcome startedAt finishedAt) now)) }
    | _ => none
  | .resultSend i =>
    match s.runs[i]? with
    | some ⟨a, t, .sending result⟩ =>
      if s.results.length < ctx.capacity then
        some { s with
          results := s.results ++ [runExecution ctx.sha256 a t result]
          sent := s.sent ++ [(i, runExecution ctx.sha256 a t result)]
          runs := setPhase s.runs i .clearing }
      else none
    | _ => none
  | .runningClear i =>
    match s.runs[i]?, s.tick with
    | some ⟨a, _, .clearing⟩, .idle => some { s with
        running := Function.update s.running a.monitorId false
        runs := setPhase s.runs i .releasing }
    | _, _ => none
  | .workerRelease i =>
    match s.runs[i]? with
    | some ⟨_, _, .releasing⟩ =>
      if 0 < s.workers then some { s with
        workers := s.workers - 1
        runs := setPhase s.runs i .closing }
      else none
    | _ => none
  | .runDone i =>
    match s.runs[i]? with
    | some ⟨_, _, .closing⟩ =>
      some { s with runs := setPhase s.runs i .ended }
    | _ => none
  | .resultReceive =>
    match s.results with
    | execution :: rest => some { s with
        results := rest
        received := s.received ++ [execution] }
    | [] => none

end SchedulerState

/-- A sequence of events. -/
def runEvents (ctx : SchedulerContext) :
    List SchedulerEvent → SchedulerState → Option SchedulerState
  | [], s => some s
  | e :: es, s => (s.step ctx e).bind (runEvents ctx es)

/-- `New`, over the rows of an earlier process. -/
def newScheduler (rows : ScheduleRows) : SchedulerState := { rows := rows }

end Bifrostnms.Agent
