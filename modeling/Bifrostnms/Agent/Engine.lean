import Bifrostnms.Agent.Interleaving
import Bifrostnms.Agent.Upload

/-!
# The engine and the agent process (`engine/engine.go`, `scheduler/scheduler.go`, `cmd/bifrost-agent/main.go`)

`Engine.Run` starts `Scheduler.Run` in a goroutine and takes executions from
the results channel, one at a time, to enqueue them. Three kinds of goroutines
are at work: the loop of the engine, the loop of the scheduler with its `Tick`,
and the probe runs. The events of the runs and of `Tick` are those of the
scheduler; what is added here is which of them the two loops let happen, and
when the loops end:

* a failed `RecordExecution` cancels the context of the scheduler and waits for
  it, and from then on nobody takes executions from the channel;
* when the scheduler has returned, the engine takes what is left in the channel
  and enqueues it on a context that is not cancelled.

A `select` with several ready cases takes any of them, so each case is an event
of its own. `run` of the agent process is a third loop around the engine: it
returns as soon as the engine does. The requests it makes to the control plane
change nothing here, but for `UploadOnce`, which works on the same store; it is
cut in two where it waits for the answer. The tick interval is the one second
that `run` passes.
-/

namespace Bifrostnms.Agent

open Bifrostnms.Lib

/-! ## Engine.Run -/

structure EngineContext extends SchedulerContext where
  limits : QueueLimits

/-- What `Engine.Run` can return. -/
inductive EngineError where
  /-- The error of `Scheduler.Run`. -/
  | scheduler (message : String)
  /-- The error of `RecordExecution`. -/
  | record (message : String)
  /-- The context is cancelled. -/
  | context
  /-- A statement has failed. -/
  | database
deriving DecidableEq

/-- `RecordExecution`. On a cancelled context its transaction does not begin;
what is checked before is still reported. -/
def recordOn (cancelled : Bool) (store : Store) (limits : QueueLimits)
    (execution : Execution) (createdAt clock : ℤ) : Except EngineError Store :=
  match recordExecution store limits execution createdAt clock with
  | .ok store' => if cancelled then .error .context else .ok store'
  | .error message =>
    if cancelled ∧ (message = EnqueueError.conflict.message ∨
        message = EnqueueError.queueFull.message) then .error .context
    else .error (.record message)

/-- Where `Scheduler.Run` is. -/
inductive LoopPhase where
  | selecting
  /-- Inside `Tick`. -/
  | ticking
  /-- At the deferred `Wait`, with the error to return. -/
  | joining (err : Option String)
  /-- Its error is in the `schedulerErrors` channel. -/
  | finished (err : Option String)
deriving DecidableEq

/-- Where `Engine.Run` is. -/
inductive EnginePhase where
  | selecting
  | recording (execution : Execution)
  /-- At `<-schedulerErrors`, after a `RecordExecution` that has failed. -/
  | joining (failure : EngineError)
  /-- At the inner `select`, with the error of the scheduler. -/
  | draining (err : Option EngineError)
  | drainRecording (execution : Execution) (err : Option EngineError)
  | returned (err : Option EngineError)

structure EngineState where
  scheduler : SchedulerState
  store : Store
  /-- The context that `Engine.Run` was called with. -/
  cancelled : Bool := false
  /-- `cancel` was called. -/
  stopped : Bool := false
  loop : LoopPhase := .selecting
  phase : EnginePhase := .selecting
  /-- The executions that were enqueued. -/
  enqueued : List Execution := []

inductive EngineEvent where
  | cancel
  | tick (now : ℤ)
  | goroutine (event : SchedulerEvent)
  /-- `AdvanceSchedule` fails. -/
  | tickBreaks (message : String)
  | done
  | join
  | receive
  | record (createdAt clock : ℤ)
  /-- A statement of the enqueueing fails. -/
  | recordBreaks
  | observe
  | drainEnd

/-- The events that one of the two loops decides on. -/
def SchedulerEvent.ofLoops : SchedulerEvent → Bool
  | .tickBegin _ | .resultReceive => true
  | _ => false

/-- `Scheduler.Run` goes on where its `Tick` has returned. -/
def LoopPhase.after (loop : LoopPhase) (scheduler : SchedulerState) : LoopPhase :=
  match loop, scheduler.tick with
  | .ticking, .idle =>
    match scheduler.failed with
    | none => .selecting
    | some message => .joining (some message)
  | _, _ => loop

/-- Every goroutine of a run has ended. -/
def SchedulerState.allEnded (s : SchedulerState) : Bool :=
  s.runs.all fun r =>
    match r.phase with
    | .ended => true
    | _ => false

namespace EngineState

variable (ctx : EngineContext) (s : EngineState)

/-- `RecordExecution` in the loop has failed: `cancel`, then wait. -/
def fail (failure : EngineError) : EngineState :=
  { s with stopped := true, phase := .joining failure }

/-- An execution is taken from the channel. -/
def receive (next : Execution → EnginePhase) : Option EngineState :=
  match s.scheduler.results with
  | execution :: _ =>
    (s.scheduler.step ctx.toSchedulerContext .resultReceive).map fun scheduler =>
      { s with scheduler := scheduler, phase := next execution }
  | [] => none

/-- One event, when it can happen. -/
def step : EngineEvent → Option EngineState
  | .cancel => some { s with cancelled := true }
  | .tick now =>
    match s.loop with
    | .selecting =>
      (s.scheduler.step ctx.toSchedulerContext (.tickBegin now)).map
        fun scheduler => { s with scheduler := scheduler, loop := .ticking }
    | _ => none
  | .goroutine event =>
    if event.ofLoops then none
    else (s.scheduler.step ctx.toSchedulerContext event).map fun scheduler =>
      { s with scheduler := scheduler, loop := s.loop.after scheduler }
  | .tickBreaks message =>
    match s.scheduler.tick with
    | .advancing _ _ _ _ =>
      let scheduler := { s.scheduler with
        tick := .idle
        failed := some ("advance monitor schedule: " ++ message) }
      some { s with
        scheduler := scheduler
        loop := s.loop.after scheduler }
    | _ => none
  | .done =>
    match s.loop with
    | .selecting =>
      if s.cancelled || s.stopped then some { s with loop := .joining none }
      else none
    | _ => none
  | .join =>
    match s.loop with
    | .joining err =>
      if s.scheduler.allEnded then some { s with loop := .finished err }
      else none
    | _ => none
  | .receive =>
    match s.phase with
    | .selecting => s.receive ctx .recording
    | .draining err => s.receive ctx fun e => .drainRecording e err
    | _ => none
  | .record createdAt clock =>
    match s.phase with
    | .recording execution =>
      match recordOn s.cancelled s.store ctx.limits execution createdAt
          clock with
      | .ok store => some { s with
          store := store
          phase := .selecting
          enqueued := s.enqueued ++ [execution] }
      | .error failure => some (s.fail failure)
    | .drainRecording execution err =>
      match recordOn false s.store ctx.limits execution createdAt clock with
      | .ok store => some { s with
          store := store
          phase := .draining err
          enqueued := s.enqueued ++ [execution] }
      | .error failure => some { s with phase := .returned (some failure) }
    | _ => none
  | .recordBreaks =>
    match s.phase with
    | .recording _ => some (s.fail .database)
    | .drainRecording _ _ =>
      some { s with phase := .returned (some .database) }
    | _ => none
  | .observe =>
    match s.loop, s.phase with
    | .finished err, .selecting =>
      some { s with phase := .draining (err.map .scheduler) }
    | .finished _, .joining failure =>
      some { s with phase := .returned (some failure) }
    | _, _ => none
  | .drainEnd =>
    match s.phase, s.scheduler.results with
    | .draining err, [] => some { s with phase := .returned err }
    | _, _ => none

end EngineState

/-- The start of `Engine.Run` after `engine.New`, over the tables of an earlier
process. -/
def newEngine (rows : ScheduleRows) (store : Store) : EngineState where
  scheduler := newScheduler rows
  store := store

/-! ## The agent process -/

/-- What `run` can return. -/
inductive MainError where
  | engine (err : EngineError)
  | configuration (message : String)
deriving DecidableEq

/-- Where `run` is. -/
inductive MainPhase where
  | looping
  /-- In `UploadOnce`, waiting for the answer to a batch. -/
  | uploading (clock : UploadClock) (failureCount : ℕ) (batch : Batch)
  /-- At `<-engineErrors`, after the context was cancelled. -/
  | waiting
  | returned (err : Option MainError)

structure MainState where
  engine : EngineState
  phase : MainPhase := .looping

inductive MainEvent where
  | engine (event : EngineEvent)
  | upload (clock : UploadClock) (random : Uuid)
  | answer (outcome : HttpOutcome)
  | done
  | engineErrors
  /-- `LoadActiveConfiguration` fails after an update. -/
  | loadFails (message : String)
  /-- A new process, on the rows and the store of the last one. -/
  | restart

namespace MainState

variable (raw : RawJson) (ctx : EngineContext) (s : MainState)

/-- The store, which `UploadOnce` shares with the engine. -/
def withStore (store : Store) : MainState :=
  { s with engine := { s.engine with store := store } }

/-- One event, when it can happen. -/
def step : MainEvent → Option MainState
  | .engine event =>
    match s.phase with
    | .returned _ => none
    | _ => (s.engine.step ctx event).map fun engine => { s with engine := engine }
  | .upload clock random =>
    match s.phase with
    | .looping =>
      match startUpload raw s.engine.store clock.now (newBatchId random).text with
      | .backoff | .noReadyData | .failed => some s
      | .quarantine o code details =>
        match quarantineObservation s.engine.store o code details
            clock.now with
        | .ok store => some (s.withStore store)
        | .error _ => some s
      | .send batch => some { s with
          phase := .uploading clock
            s.engine.store.synchronization.consecutiveFailureCount batch }
    | _ => none
  | .answer outcome =>
    match s.phase with
    | .uploading clock failureCount batch =>
      some { (s.withStore (finishUpload clock failureCount batch outcome
        s.engine.store)) with phase := .looping }
    | _ => none
  | .done =>
    match s.phase with
    | .looping =>
      if s.engine.cancelled then some { s with phase := .waiting } else none
    | _ => none
  | .engineErrors =>
    match s.phase, s.engine.phase with
    | .looping, .returned err | .waiting, .returned err =>
      some { s with phase := .returned (err.map .engine) }
    | _, _ => none
  | .loadFails message =>
    match s.phase with
    | .looping =>
      some { s with phase := .returned (some (.configuration message)) }
    | _ => none
  | .restart =>
    match s.phase with
    | .returned _ => some
        { engine := newEngine s.engine.scheduler.rows s.engine.store }
    | _ => none

end MainState

end Bifrostnms.Agent
