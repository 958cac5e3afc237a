import Bifrostnms.Proofs.Engine
import Bifrostnms.Proofs.UploadOutcome

/-!
# How the engine ends

After a `RecordExecution` that has failed, the engine waits for the scheduler
and takes nothing from the results channel any more. The scheduler waits for
the goroutines of the runs, and each of them has to send its execution first.
The channel has as many places as there are workers, but a worker is free again
as soon as its run has sent, so there can be more executions in the channel and
still to come than it has places: then a goroutine stays at its send, and all
three wait forever.

Where there is room for all of them (`load`) nothing of the kind happens; and
the room is only used up by the start of a run.

When the scheduler returns first, the engine enqueues what is left in the
channel on a context that cannot be cancelled. But until it notices, it may
take an execution in its main loop after the cancellation, and then that
execution and all that follow are lost. `Accounted` keeps the balance of what
was taken from the channel and what was enqueued.
-/

namespace Bifrostnms.Proofs

open Bifrostnms.Lib Bifrostnms.Agent

variable {ctx : EngineContext} {s s' : EngineState} {event : EngineEvent}

/-! ## Deadlocks -/

/-- The events of other goroutines: the signal that cancels the context, and
`Reconcile`. -/
def fromOutside : EngineEvent → Bool
  | .cancel => true
  | .goroutine (.reconcileBegin _ _) => true
  | .goroutine (.reconcileRestore _) => true
  | .goroutine .reconcileRemove => true
  | .goroutine .reconcileSwap => true
  | _ => false

/-- `Engine.Run` has not returned, and neither it nor the scheduler nor a
goroutine of a run can do anything. -/
def Deadlocked (ctx : EngineContext) (s : EngineState) : Prop :=
  (∀ err, s.phase ≠ .returned err) ∧ ∀ event, fromOutside event = false → s.step ctx event = none

/-- An event of the scheduler that can happen is one of the engine. -/
theorem goroutine_enabled {event : SchedulerEvent} (hevent : event.ofLoops = false)
    (h : (s.scheduler.step ctx.toSchedulerContext event).isSome) :
    (s.step ctx (.goroutine event)).isSome := by
  show (if event.ofLoops then none else _ : Option EngineState).isSome
  rw [hevent, if_neg Bool.false_ne_true, Option.isSome_map]
  exact h

/-- `Tick` does not block. -/
theorem tick_enabled (h : EngineInvariant ctx s) (htick : s.scheduler.tick ≠ .idle) :
    ∃ event, fromOutside event = false ∧ (s.step ctx event).isSome := by
  cases hphase : s.scheduler.tick with
  | idle => exact absurd hphase htick
  | looping now pending =>
    cases pending with
    | nil =>
      refine ⟨.goroutine .tickEnd, rfl, goroutine_enabled rfl ?_⟩
      dsimp only [SchedulerState.step]
      rw [hphase]
      rfl
    | cons id pending =>
      refine ⟨.goroutine (.tickVisit id), rfl, goroutine_enabled rfl ?_⟩
      have hknown := h.visits id (by rw [hphase]; exact List.mem_cons_self)
      obtain ⟨job, hjob⟩ := Option.isSome_iff_exists.mp hknown
      dsimp only [SchedulerState.step, SchedulerState.visit]
      rw [hphase]
      dsimp only
      rw [hjob]
      dsimp only
      rw [if_neg (fun hnot => hnot List.mem_cons_self)]
      split_ifs <;> rfl
  | advancing now pending job turn =>
    refine ⟨.goroutine .tickAdvance, rfl, goroutine_enabled rfl ?_⟩
    dsimp only [SchedulerState.step, SchedulerState.advance]
    rw [hphase]
    dsimp only
    split <;> rfl
  | starting now pending job =>
    exact ⟨.goroutine .tickStart, rfl, goroutine_enabled rfl (h.runs.start_ready hphase)⟩

theorem resultSend_enabled {i : ℕ} {r : ProbeRun} {result : Result}
    (hr : s.scheduler.runs[i]? = some r) (hphase : r.phase = .sending result)
    (hroom : s.scheduler.results.length < ctx.capacity) :
    (s.step ctx (.goroutine (.resultSend i))).isSome := by
  refine goroutine_enabled rfl ?_
  obtain ⟨assignment, scheduledAt, phase⟩ := r
  cases hphase
  dsimp only [SchedulerState.step]
  rw [hr]
  dsimp only
  rw [if_pos hroom]
  rfl

/-- The goroutine of a run does not block while `Tick` is not at work and the
channel has room. -/
theorem run_enabled (h : EngineInvariant ctx s) (hidle : s.scheduler.tick = .idle)
    {i : ℕ} {r : ProbeRun} (hr : s.scheduler.runs[i]? = some r) (hlive : isLive r.phase = true)
    (hroom : inFlight r.phase = true → s.scheduler.results.length < ctx.capacity) :
    ∃ event, fromOutside event = false ∧ (s.step ctx event).isSome := by
  have hr' := hr
  obtain ⟨assignment, scheduledAt, phase⟩ := r
  cases phase with
  | probing =>
    refine ⟨.goroutine (.probeEnd i .panicked ⟨0, by decide⟩ ⟨0, by decide⟩
      ⟨0, by decide⟩), rfl, goroutine_enabled rfl ?_⟩
    dsimp only [SchedulerState.step]
    rw [hr]
    rfl
  | sending result =>
    exact ⟨.goroutine (.resultSend i), rfl, resultSend_enabled hr rfl (hroom rfl)⟩
  | clearing =>
    refine ⟨.goroutine (.runningClear i), rfl, goroutine_enabled rfl ?_⟩
    dsimp only [SchedulerState.step]
    rw [hr, hidle]
    rfl
  | releasing =>
    refine ⟨.goroutine (.workerRelease i), rfl, goroutine_enabled rfl ?_⟩
    have htaken : 0 < s.scheduler.workers := by
      rw [h.runs.workers]
      exact List.countP_pos_iff.mpr ⟨_, List.mem_of_getElem? hr, rfl⟩
    dsimp only [SchedulerState.step]
    rw [hr]
    dsimp only
    rw [if_pos htaken]
    rfl
  | closing =>
    refine ⟨.goroutine (.runDone i), rfl, goroutine_enabled rfl ?_⟩
    dsimp only [SchedulerState.step]
    rw [hr]
    rfl
  | ended => cases hlive

/-- The scheduler makes a step or has returned, if the runs can send. -/
theorem scheduler_progress (h : EngineInvariant ctx s)
    (hroom : (∃ r ∈ s.scheduler.runs, inFlight r.phase = true) →
      s.scheduler.results.length < ctx.capacity) : (∃ err, s.loop = .finished err) ∨
      ∃ event, fromOutside event = false ∧ (s.step ctx event).isSome := by
  cases hloop : s.loop with
  | finished err => exact .inl ⟨err, rfl⟩
  | ticking => exact .inr (tick_enabled h (h.ticking.mp hloop))
  | selecting =>
    have hidle := h.idle (by rw [hloop]; nofun)
    -- the next tick of the ticker; after `cancel` the other case is ready too
    refine .inr ⟨.tick 0, rfl, ?_⟩
    dsimp only [EngineState.step, SchedulerState.step]
    rw [hloop, hidle]
    rfl
  | joining err =>
    have hidle := h.idle (by rw [hloop]; nofun)
    by_cases hended : s.scheduler.allEnded = true
    · refine .inr ⟨.join, rfl, ?_⟩
      dsimp only [EngineState.step]
      rw [hloop]
      dsimp only
      rw [if_pos hended]
      rfl
    · rw [allEnded_iff] at hended
      push Not at hended
      obtain ⟨r, hmem, hlive⟩ := hended
      obtain ⟨i, hr⟩ := List.mem_iff_getElem?.mp hmem
      exact .inr (run_enabled h hidle hr (by simpa using hlive)
        fun hflight => hroom ⟨r, hmem, hflight⟩)

/-- While the engine waits for the scheduler there is room for every execution
that is still to be sent. -/
def RoomToJoin (ctx : EngineContext) (s : EngineState) : Prop :=
  ∀ failure, s.phase = .joining failure → load s.scheduler ≤ ctx.capacity

theorem RoomToJoin.room {failure : EngineError} (h : RoomToJoin ctx s)
    (hphase : s.phase = .joining failure) {r : ProbeRun}
    (hr : r ∈ s.scheduler.runs) (hflight : inFlight r.phase = true) :
    s.scheduler.results.length < ctx.capacity := by
  have hload := h failure hphase
  have hpos : 0 < s.scheduler.runs.countP fun r => inFlight r.phase :=
    List.countP_pos_iff.mpr ⟨r, hr, hflight⟩
  unfold load at hload
  omega

/-- With room, some goroutine can go on until the engine has returned. -/
theorem engine_progress (h : EngineInvariant ctx s) (hcapacity : 0 < ctx.capacity)
    (hroom : RoomToJoin ctx s) (hrunning : ∀ err, s.phase ≠ .returned err) :
    ∃ event, fromOutside event = false ∧ (s.step ctx event).isSome := by
  cases hphase : s.phase with
  | returned err => exact absurd hphase (hrunning err)
  | recording execution =>
    refine ⟨.record 0 0, rfl, ?_⟩
    dsimp only [EngineState.step]
    rw [hphase]
    dsimp only
    split <;> rfl
  | drainRecording execution err =>
    refine ⟨.record 0 0, rfl, ?_⟩
    dsimp only [EngineState.step]
    rw [hphase]
    dsimp only
    split <;> rfl
  | draining err =>
    cases hresults : s.scheduler.results with
    | nil =>
      refine ⟨.drainEnd, rfl, ?_⟩
      dsimp only [EngineState.step]
      rw [hphase, hresults]
      rfl
    | cons execution rest =>
      refine ⟨.receive, rfl, ?_⟩
      dsimp only [EngineState.step, EngineState.receive, SchedulerState.step]
      rw [hphase]
      dsimp only
      rw [hresults]
      rfl
  | selecting =>
    cases hresults : s.scheduler.results with
    | nil =>
      rcases scheduler_progress h (fun _ => by rw [hresults]; exact hcapacity)
        with ⟨err, hloop⟩ | hevent
      · refine ⟨.observe, rfl, ?_⟩
        dsimp only [EngineState.step]
        rw [hloop, hphase]
        rfl
      · exact hevent
    | cons execution rest =>
      refine ⟨.receive, rfl, ?_⟩
      dsimp only [EngineState.step, EngineState.receive, SchedulerState.step]
      rw [hphase]
      dsimp only
      rw [hresults]
      rfl
  | joining failure =>
    rcases scheduler_progress h
      (fun hflight => by
        obtain ⟨r, hr, hp⟩ := hflight
        exact hroom.room hphase hr hp) with ⟨err, hloop⟩ | hevent
    · refine ⟨.observe, rfl, ?_⟩
      dsimp only [EngineState.step]
      rw [hloop, hphase]
      rfl
    · exact hevent

/-- An event that keeps the room: a `RecordExecution` fails only with room for
all executions, and while the engine waits no run is started without. -/
def keepsRoom (ctx : EngineContext) (s : EngineState) : EngineEvent → Bool
  | .record createdAt clock =>
    match s.phase with
    | .recording execution =>
      (recordOn s.cancelled s.store ctx.limits execution createdAt
        clock).toBool || decide (load s.scheduler ≤ ctx.capacity)
    | _ => true
  | .recordBreaks =>
    match s.phase with
    | .recording _ => decide (load s.scheduler ≤ ctx.capacity)
    | _ => true
  | .goroutine .tickStart =>
    match s.phase with
    | .joining _ => decide (load s.scheduler < ctx.capacity)
    | _ => true
  | _ => true

theorem step_roomToJoin (hroom : RoomToJoin ctx s)
    (hkeeps : keepsRoom ctx s event = true) (hstep : s.step ctx event = some s') :
    RoomToJoin ctx s' := by
  cases step_moves hstep with
  | cancel => exact hroom
  | tick hloop hbegin =>
    intro failure hphase
    have hload := hroom failure hphase
    dsimp only [SchedulerState.step] at hbegin
    split at hbegin <;> cases hbegin
    exact hload
  | @goroutine event scheduler hevent hgo =>
    intro failure hphase
    have hload := hroom failure hphase
    show load scheduler ≤ ctx.capacity
    rcases (step_runChange hevent hgo).load_eq with heq | ⟨rfl, heq⟩
    · omega
    · dsimp only at hphase
      rw [keepsRoom, hphase] at hkeeps
      have hless := of_decide_eq_true hkeeps
      omega
  | tickBreaks htick hscheduler =>
    intro failure hphase
    have hload := hroom failure hphase
    rw [hscheduler]
    exact hload
  | done hloop => exact hroom
  | join hloop hended => exact hroom
  | receive => exact fun _ => nofun
  | drainReceive => exact fun _ => nofun
  | record => exact fun _ => nofun
  | recordFails hphase hrecord =>
    intro failure _
    rw [keepsRoom, hphase] at hkeeps
    dsimp only at hkeeps
    rw [hrecord] at hkeeps
    exact of_decide_eq_true hkeeps
  | drainRecord => exact fun _ => nofun
  | drainRecordFails => exact fun _ => nofun
  | recordBreaks hphase =>
    intro failure _
    rw [keepsRoom, hphase] at hkeeps
    exact of_decide_eq_true hkeeps
  | drainRecordBreaks => exact fun _ => nofun
  | observe => exact fun _ => nofun
  | joined => exact fun _ => nofun
  | drainEnd => exact fun _ => nofun

/-- In every run whose events keep the room, no state is a deadlock; and while
the engine waits for the scheduler, every run that is at its send can send. -/
theorem engine_not_deadlocked {rows : ScheduleRows} {store : Store}
    {events : List EngineEvent} (hcapacity : 0 < ctx.capacity)
    (hmeets : Meets (EngineState.step ctx)
      (fun s event => keepsRoom ctx s event = true) events (newEngine rows store))
    (hrun : runSteps (EngineState.step ctx) events (newEngine rows store) = some s) :
    ¬ Deadlocked ctx s ∧ ∀ failure, s.phase = .joining failure →
        ∀ i r result, s.scheduler.runs[i]? = some r → r.phase = .sending result →
          (s.step ctx (.goroutine (.resultSend i))).isSome := by
  have hinvariant : EngineInvariant ctx s :=
    runSteps_preserves step_engineInvariant (newEngine_invariant ctx rows store) hrun
  have hstart : RoomToJoin ctx (newEngine rows store) := fun _ h => by cases h
  have hroom := runSteps_invariant step_roomToJoin hstart hmeets hrun
  refine ⟨fun hdead => ?_, fun failure hphase i r result hr hsending => ?_⟩
  · obtain ⟨event, hown, henabled⟩ :=
      engine_progress hinvariant hcapacity hroom hdead.1
    rw [hdead.2 event hown] at henabled
    cases henabled
  · refine resultSend_enabled hr hsending ?_
    exact hroom.room hphase (List.mem_of_getElem? hr) (by rw [hsending]; rfl)

/-! ## Without room -/

/-- The engine waits for the scheduler and the channel cannot take all
executions that are still to be sent. -/
def Overfull (ctx : EngineContext) (s : EngineState) : Prop :=
  EngineInvariant ctx s ∧ ctx.capacity < load s.scheduler ∧ ∃ failure, s.phase = .joining failure

theorem load_of_allEnded {s : SchedulerState} (h : s.allEnded = true) :
    load s = s.results.length := by
  have hnone : s.runs.countP (fun r => inFlight r.phase) = 0 := by
    rw [List.countP_eq_zero]
    intro r hr hflight
    have hdead := allEnded_iff.mp h r hr
    rw [isLive_of_inFlight hflight] at hdead
    cases hdead
  rw [load, hnone, Nat.add_zero]

/-- Nothing ends this: the load never falls, and the scheduler does not return
before all runs have sent. -/
theorem step_overfull (h : Overfull ctx s) (hstep : s.step ctx event = some s') :
    Overfull ctx s' := by
  obtain ⟨hinvariant, hload, failure, hphase⟩ := h
  refine ⟨step_engineInvariant hinvariant hstep, ?_⟩
  cases step_moves hstep with
  | cancel => exact ⟨hload, failure, hphase⟩
  | tick hloop hbegin =>
    dsimp only [SchedulerState.step] at hbegin
    split at hbegin <;> cases hbegin
    exact ⟨hload, failure, hphase⟩
  | @goroutine event scheduler hevent hgo =>
    refine ⟨?_, failure, hphase⟩
    show ctx.capacity < load scheduler
    rcases (step_runChange hevent hgo).load_eq with heq | ⟨rfl, heq⟩ <;> omega
  | tickBreaks htick hscheduler =>
    refine ⟨?_, failure, hphase⟩
    rw [hscheduler]
    exact hload
  | done hloop => exact ⟨hload, failure, hphase⟩
  | join hloop hended => exact ⟨hload, failure, hphase⟩
  | joined hloop hjoining =>
    have hended := hinvariant.ended _ hloop
    have hchannel := hinvariant.channel
    rw [load_of_allEnded hended] at hload
    omega
  | receive hother | drainReceive hother | record hother | recordFails hother
  | drainRecord hother | drainRecordFails hother | recordBreaks hother
  | drainRecordBreaks hother | observe _ hother | drainEnd hother =>
    rw [hphase] at hother
    cases hother

theorem overfull_never_returns {events : List EngineEvent} (h : Overfull ctx s)
    (hrun : runSteps (EngineState.step ctx) events s = some s') :
    ∀ err, s'.phase ≠ .returned err := by
  obtain ⟨_, _, failure, hphase⟩ := runSteps_preserves step_overfull h hrun
  rw [hphase]
  exact fun _ => nofun

/-- All goroutines wait for each other. -/
structure Stuck (ctx : EngineContext) (s : EngineState) : Prop where
  phase : ∃ failure, s.phase = .joining failure
  loop : ∃ err, s.loop = .joining err
  idle : s.scheduler.tick = .idle
  runs : ∀ r ∈ s.scheduler.runs, r.phase = .ended ∨ ∃ result, r.phase = .sending result
  sending : s.scheduler.allEnded = false
  full : ctx.capacity ≤ s.scheduler.results.length

theorem Stuck.goroutine (h : Stuck ctx s) {event : SchedulerEvent}
    (hown : fromOutside (.goroutine event) = false) (hevent : event.ofLoops = false) :
    s.scheduler.step ctx.toSchedulerContext event = none := by
  have hfull := h.full
  cases event with
  | tickBegin | resultReceive => cases hevent
  | reconcileBegin | reconcileRestore | reconcileRemove | reconcileSwap =>
    cases hown
  | tickVisit | tickAdvance | tickStart | tickEnd =>
    dsimp only [SchedulerState.step, SchedulerState.visit,
      SchedulerState.advance, SchedulerState.start]
    rw [h.idle]
  | probeEnd | workerRelease | runDone =>
    dsimp only [SchedulerState.step]
    split
    · next hr =>
        rcases h.runs _ (List.mem_of_getElem? hr) with hphase | ⟨_, hphase⟩ <;>
          cases hphase
    · rfl
  | runningClear =>
    dsimp only [SchedulerState.step]
    split
    · next hr _ =>
        rcases h.runs _ (List.mem_of_getElem? hr) with hphase | ⟨_, hphase⟩ <;>
          cases hphase
    · rfl
  | resultSend =>
    dsimp only [SchedulerState.step]
    split
    · rw [if_neg (by omega)]
    · rfl

theorem Stuck.deadlocked (h : Stuck ctx s) : Deadlocked ctx s := by
  obtain ⟨failure, hphase⟩ := h.phase
  obtain ⟨err, hloop⟩ := h.loop
  refine ⟨fun err' => by rw [hphase]; nofun, fun event hown => ?_⟩
  cases event with
  | cancel => cases hown
  | goroutine event =>
    dsimp only [EngineState.step]
    split
    · rfl
    · next hevent =>
        rw [h.goroutine hown (Bool.eq_false_iff.mpr hevent)]
        rfl
  | tickBreaks =>
    dsimp only [EngineState.step]
    rw [h.idle]
  | tick | done =>
    dsimp only [EngineState.step]
    rw [hloop]
  | join =>
    dsimp only [EngineState.step]
    rw [hloop]
    dsimp only
    rw [h.sending, if_neg Bool.false_ne_true]
  | receive | record | recordBreaks =>
    dsimp only [EngineState.step]
    rw [hphase]
  | observe =>
    dsimp only [EngineState.step]
    rw [hloop]
  | drainEnd =>
    dsimp only [EngineState.step]
    rw [hphase]

/-! ## What was sent is enqueued -/

/-- The text that an execution is stored as. -/
def storedText (e : Execution) : Except String (List Char) :=
  encodeObservation e.truncated.probeType e.truncated.request e.truncated.result
    none

/-- The row of an execution is pending. -/
def Queued (store : Store) (e : Execution) : Prop :=
  ∃ payload, storedText e = .ok payload ∧ Pending store (formatTime e.truncated.request.scheduledAt,
      e.request.observationId) payload

theorem recordOn_ok {cancelled : Bool} {store store' : Store}
    {limits : QueueLimits} {e : Execution} {createdAt clock : ℤ}
    (h : recordOn cancelled store limits e createdAt clock = .ok store') :
    Queued store' e ∧ ∀ e', Queued store e' → Queued store' e' := by
  unfold recordOn at h
  split at h
  · next store₁ hrecord =>
      split_ifs at h
      cases h
      unfold recordExecution at hrecord
      dsimp only at hrecord
      split at hrecord
      · cases hrecord
      · next payload hpayload =>
          split at hrecord
          · cases hrecord
          · next s₁ henqueue =>
              cases hrecord
              obtain ⟨hpending, hgrows⟩ := enqueueObservation_ok henqueue
              refine ⟨⟨payload, hpayload, hpending⟩, fun e' he' => ?_⟩
              obtain ⟨text, htext, row, hrow, hkey⟩ := he'
              rcases hgrows with rfl | ⟨new, _, _, _, rfl⟩
              · exact ⟨text, htext, row, hrow, hkey⟩
              · exact ⟨text, htext, row, List.mem_append_left _ hrow, hkey⟩
  · split_ifs at h

/-- Every execution that was taken from the channel is enqueued, but for the
one at hand. -/
structure Accounted (s : EngineState) : Prop where
  balance : match s.phase with
    | .selecting | .draining _ => s.scheduler.received = s.enqueued
    | .recording e | .drainRecording e _ =>
      s.scheduler.received = s.enqueued ++ [e]
    | .joining _ => False
    | .returned _ => s.scheduler.received = s.enqueued ∧ s.scheduler.results = []
  queued : ∀ e ∈ s.enqueued, Queued s.store e

/-- The store works: what is enqueued on a context that is not cancelled goes
through. -/
def storeWorks (ctx : EngineContext) (s : EngineState) : EngineEvent → Bool
  | .record createdAt clock =>
    match s.phase with
    | .recording e => s.cancelled || !(storedText e).toBool ||
        (recordExecution s.store ctx.limits e createdAt clock).toBool
    | .drainRecording e _ => !(storedText e).toBool ||
        (recordExecution s.store ctx.limits e createdAt clock).toBool
    | _ => true
  | .recordBreaks => false
  | _ => true

/-- The main loop records before the context is cancelled, and what is recorded
can be encoded. -/
def recordsInTime (s : EngineState) : EngineEvent → Bool
  | .record _ _ =>
    match s.phase with
    | .recording e => !s.cancelled && (storedText e).toBool
    | .drainRecording e _ => (storedText e).toBool
    | _ => true
  | _ => true

theorem forall_mem_append_singleton {α : Type*} {p : α → Prop} {l : List α}
    {a : α} (hl : ∀ x ∈ l, p x) (ha : p a) : ∀ x ∈ l ++ [a], p x := by
  intro x hx
  rcases List.mem_append.mp hx with hx | hx
  · exact hl x hx
  · rw [List.mem_singleton.mp hx]
    exact ha

theorem recordOn_live {store : Store} {limits : QueueLimits} {e : Execution}
    {createdAt clock : ℤ} {failure : EngineError}
    (h : recordOn false store limits e createdAt clock = .error failure) :
    (recordExecution store limits e createdAt clock).toBool = false := by
  unfold recordOn at h
  split at h
  · cases h
  · next hrecord =>
      rw [hrecord]
      rfl

theorem step_accounted (hinvariant : EngineInvariant ctx s) (h : Accounted s)
    (hworks : storeWorks ctx s event = true) (htime : recordsInTime s event = true)
    (hstep : s.step ctx event = some s') : Accounted s' := by
  have hbalance := h.balance
  cases step_moves hstep with
  | cancel => exact ⟨hbalance, h.queued⟩
  | tick hloop hbegin =>
    dsimp only [SchedulerState.step] at hbegin
    split at hbegin <;> cases hbegin
    exact ⟨hbalance, h.queued⟩
  | @goroutine event scheduler hevent hgo =>
    have hreceived := step_received hevent hgo
    refine ⟨?_, h.queued⟩
    dsimp only
    rw [hreceived]
    cases hphase : s.phase with
    | returned err =>
      rw [hphase] at hbalance
      have hdrains := hinvariant.drains
      rw [hphase] at hdrains
      obtain ⟨err', hloop⟩ := hdrains
      have hkeep := (step_runChange hevent hgo).ended
        (hinvariant.idle (by rw [hloop]; nofun)) (hinvariant.ended err' hloop)
      exact ⟨hbalance.1, hkeep.2.trans hbalance.2⟩
    | _ =>
      rw [hphase] at hbalance
      exact hbalance
  | tickBreaks htick hscheduler =>
    rw [hscheduler]
    exact ⟨hbalance, h.queued⟩
  | done hloop => exact ⟨hbalance, h.queued⟩
  | join hloop hended => exact ⟨hbalance, h.queued⟩
  | receive hphase hfirst hreceive =>
    rw [hphase] at hbalance
    obtain ⟨execution', hresults, hscheduler⟩ := step_resultReceive hreceive
    rw [hresults, List.head?_cons, Option.some.injEq] at hfirst
    refine ⟨?_, h.queued⟩
    rw [hscheduler]
    show s.scheduler.received ++ [execution'] = _
    rw [hbalance, hfirst]
  | drainReceive hphase hfirst hreceive =>
    rw [hphase] at hbalance
    obtain ⟨execution', hresults, hscheduler⟩ := step_resultReceive hreceive
    rw [hresults, List.head?_cons, Option.some.injEq] at hfirst
    refine ⟨?_, h.queued⟩
    rw [hscheduler]
    show s.scheduler.received ++ [execution'] = _
    rw [hbalance, hfirst]
  | record hphase hrecord =>
    rw [hphase] at hbalance
    obtain ⟨hnew, hkeeps⟩ := recordOn_ok hrecord
    exact ⟨hbalance, forall_mem_append_singleton
      (fun e he => hkeeps e (h.queued e he)) hnew⟩
  | drainRecord hphase hrecord =>
    rw [hphase] at hbalance
    obtain ⟨hnew, hkeeps⟩ := recordOn_ok hrecord
    exact ⟨hbalance, forall_mem_append_singleton
      (fun e he => hkeeps e (h.queued e he)) hnew⟩
  | recordFails hphase hrecord =>
    rw [storeWorks, hphase] at hworks
    rw [recordsInTime, hphase] at htime
    dsimp only at hworks htime
    rw [Bool.and_eq_true, Bool.not_eq_true'] at htime
    rw [htime.1] at hrecord
    rw [htime.1, htime.2, recordOn_live hrecord] at hworks
    cases hworks
  | drainRecordFails hphase hrecord =>
    rw [storeWorks, hphase] at hworks
    rw [recordsInTime, hphase] at htime
    dsimp only at hworks htime
    rw [htime, recordOn_live hrecord] at hworks
    cases hworks
  | recordBreaks | drainRecordBreaks => cases hworks
  | observe hloop hphase =>
    rw [hphase] at hbalance
    exact ⟨hbalance, h.queued⟩
  | joined hloop hphase =>
    rw [hphase] at hbalance
    exact hbalance.elim
  | drainEnd hphase hresults =>
    rw [hphase] at hbalance
    exact ⟨⟨hbalance, hresults⟩, h.queued⟩

/-- In every run in which the store works and the main loop records in time:
when the engine has returned, every execution that was sent is enqueued. -/
theorem sent_enqueued {rows : ScheduleRows} {store : Store}
    {events : List EngineEvent} {err : Option EngineError}
    (hmeets : Meets (EngineState.step ctx) (fun s event =>
        storeWorks ctx s event = true ∧ recordsInTime s event = true) events
      (newEngine rows store))
    (hrun : runSteps (EngineState.step ctx) events (newEngine rows store) =
      some s) (hreturned : s.phase = .returned err) : s.scheduler.sent.map Prod.snd = s.enqueued ∧
      ∀ e ∈ s.scheduler.sent, Queued s.store e.2 := by
  have hstart : EngineInvariant ctx (newEngine rows store) ∧ Accounted (newEngine rows store) :=
    ⟨newEngine_invariant ctx rows store, rfl, fun _ => nofun⟩
  obtain ⟨hinvariant, haccounted⟩ := runSteps_invariant
    (P := fun s => EngineInvariant ctx s ∧ Accounted s)
    (fun hboth hcondition hstep => ⟨step_engineInvariant hboth.1 hstep,
      step_accounted hboth.1 hboth.2 hcondition.1 hcondition.2 hstep⟩)
    hstart hmeets hrun
  have hbalance := haccounted.balance
  rw [hreturned] at hbalance
  have hall : s.scheduler.sent.map Prod.snd = s.enqueued := by
    rw [hinvariant.runs.channel, hbalance.1, hbalance.2, List.append_nil]
  refine ⟨hall, fun e he => haccounted.queued e.2 ?_⟩
  rw [← hall]
  exact List.mem_map_of_mem he

/-! ## One worker and a full queue -/

def soloEngine : EngineContext where
  toSchedulerContext := soloContext
  limits := ⟨1, 1024⟩

/-- The goroutine of a run, up to the send. -/
def probeEvents (i : ℕ) : List SchedulerEvent :=
  [.probeEnd i .panicked noonTime noonTime noonTime]

/-- The send and what follows it. -/
def sendEvents (i : ℕ) : List SchedulerEvent :=
  [.resultSend i, .runningClear i, .workerRelease i, .runDone i]

/-- A `Tick` that starts the only monitor. -/
def tickEvents (now : ℤ) : List EngineEvent :=
  .tick now :: ((startEvents "first").map .goroutine ++ [.goroutine .tickEnd])

/-- The queue is full. -/
def fullStore : Store := { pending := [queuedObservation "a"] }

/-- The first execution is being recorded and does not fit in the queue, while
the second run is still going on. -/
def roomyEvents : List EngineEvent :=
  (installEvents [soloAssignment "first" 1] 0).map .goroutine ++
    tickEvents 0 ++ (probeEvents 0 ++ sendEvents 0).map .goroutine ++ [.receive] ++
    tickEvents (60 * second) ++ (probeEvents 1).map .goroutine ++
    [.record (120 * second) (120 * second), .done]

theorem engine_not_deadlocked_roomy : ∃ s, runSteps (EngineState.step soloEngine) roomyEvents
        (newEngine (fun _ => none) fullStore) = some s ∧ ¬ Deadlocked soloEngine s := by
  have hrun : (checkedRun (EngineState.step soloEngine)
      (fun s event => keepsRoom soloEngine s event = true) roomyEvents
      (newEngine (fun _ => none) fullStore)).any (fun _ => true) = true := by
    decide +kernel
  obtain ⟨s, hmeets, hs, -⟩ := exists_of_checkedRun hrun
  exact ⟨s, hs, (engine_not_deadlocked (by decide) hmeets hs).1⟩

/-- The first execution is being recorded, the second is in the channel, and
the third is at its send when the first turns out not to fit in the queue. -/
def backlogEvents : List EngineEvent :=
  (installEvents [soloAssignment "first" 1] 0).map .goroutine ++
    tickEvents 0 ++ (probeEvents 0 ++ sendEvents 0).map .goroutine ++ [.receive] ++
    tickEvents (60 * second) ++ (probeEvents 1 ++ sendEvents 1).map .goroutine ++
    tickEvents (120 * second) ++ (probeEvents 2).map .goroutine ++
    [.record (120 * second) (120 * second), .done]

def isStuck (ctx : EngineContext) (s : EngineState) : Bool :=
  (match s.phase with
    | .joining _ => true
    | _ => false) && (match s.loop with
    | .joining _ => true
    | _ => false) && (match s.scheduler.tick with
    | .idle => true
    | _ => false) && (s.scheduler.runs.all fun r =>
    match r.phase with
    | .ended | .sending _ => true
    | _ => false) && !s.scheduler.allEnded && decide (ctx.capacity ≤ s.scheduler.results.length)

theorem stuck_of_isStuck (h : isStuck ctx s = true) : Stuck ctx s := by
  unfold isStuck at h
  simp only [Bool.and_eq_true, decide_eq_true_eq, Bool.not_eq_true'] at h
  obtain ⟨⟨⟨⟨⟨hphase, hloop⟩, htick⟩, hruns⟩, hended⟩, hfull⟩ := h
  refine ⟨?_, ?_, ?_, fun r hr => ?_, hended, hfull⟩
  · split at hphase
    · next failure heq => exact ⟨failure, heq⟩
    · cases hphase
  · split at hloop
    · next err heq => exact ⟨err, heq⟩
    · cases hloop
  · split at htick
    · next heq => exact heq
    · cases htick
  · have hone := List.all_eq_true.mp hruns r hr
    split at hone
    · next heq => exact .inl heq
    · next result heq => exact .inr ⟨result, heq⟩
    · cases hone

/-- A reachable deadlock that no later event ends. -/
theorem engine_deadlock_backlog : ∃ s, runSteps (EngineState.step soloEngine) backlogEvents
        (newEngine (fun _ => none) fullStore) = some s ∧ Deadlocked soloEngine s ∧
      ∀ events s', runSteps (EngineState.step soloEngine) events s = some s' →
        ∀ err, s'.phase ≠ .returned err := by
  have hstuck : ((runSteps (EngineState.step soloEngine) backlogEvents
      (newEngine (fun _ => none) fullStore)).any fun s =>
        isStuck soloEngine s && decide (soloEngine.capacity < load s.scheduler)) =
      true := by decide +kernel
  obtain ⟨s, hs, hboth⟩ := (Option.any_eq_true _ _).mp hstuck
  rw [Bool.and_eq_true, decide_eq_true_eq] at hboth
  have hinvariant : EngineInvariant soloEngine s :=
    runSteps_preserves step_engineInvariant (newEngine_invariant _ _ _) hs
  have hwaits := stuck_of_isStuck hboth.1
  exact ⟨s, hs, hwaits.deadlocked, fun events s' hrun =>
    overfull_never_returns ⟨hinvariant, hboth.2, hwaits.phase⟩ hrun⟩


/-! ## One execution at the cancellation -/

/-- An execution is in the channel and the context is cancelled. -/
def cancelEvents : List EngineEvent :=
  (installEvents [soloAssignment "first" 1] 0).map .goroutine ++
    tickEvents 0 ++ (probeEvents 0 ++ sendEvents 0).map .goroutine ++ [.cancel]

/-- The engine sees that the scheduler has returned and takes the execution
afterwards. -/
def drainEvents : List EngineEvent :=
  cancelEvents ++ [.done, .join, .observe, .receive,
    .record (120 * second) (120 * second), .drainEnd]

def hasReturned : EnginePhase → Bool
  | .returned _ => true
  | _ => false

theorem exists_of_hasReturned {phase : EnginePhase} (h : hasReturned phase = true) :
    ∃ err, phase = .returned err := by
  cases phase with
  | returned err => exact ⟨err, rfl⟩
  | _ => cases h

theorem sent_enqueued_drained : ∃ s err,
    runSteps (EngineState.step soloEngine) drainEvents (newEngine (fun _ => none) {}) =
        some s ∧ s.phase = .returned err ∧ s.scheduler.sent.map Prod.snd = s.enqueued := by
  have hrun : ((checkedRun (EngineState.step soloEngine) (fun s event =>
      storeWorks soloEngine s event = true ∧ recordsInTime s event = true)
      drainEvents (newEngine (fun _ => none) {})).any
        fun s => hasReturned s.phase) = true := by
    decide +kernel
  obtain ⟨s, hmeets, hs, hphase⟩ := exists_of_checkedRun hrun
  obtain ⟨err, herr⟩ := exists_of_hasReturned hphase
  exact ⟨s, err, hs, herr, (sent_enqueued hmeets hs herr).1⟩

/-- The engine takes the execution first, on the cancelled context. -/
def lostEvents : List EngineEvent :=
  cancelEvents ++ [.receive, .record (120 * second) (120 * second), .done, .join, .observe]

/-- The store works, the engine has returned, and the execution is lost. -/
theorem sent_lost : ∃ s err e, Meets (EngineState.step soloEngine)
        (fun s event => storeWorks soloEngine s event = true) lostEvents
        (newEngine (fun _ => none) {}) ∧ runSteps (EngineState.step soloEngine) lostEvents
        (newEngine (fun _ => none) {}) = some s ∧
      s.phase = .returned err ∧ e ∈ s.scheduler.sent ∧ ¬ Queued s.store e.2 := by
  have hrun : ((checkedRun (EngineState.step soloEngine)
      (fun s event => storeWorks soloEngine s event = true) lostEvents
      (newEngine (fun _ => none) {})).any fun s => hasReturned s.phase &&
        s.scheduler.sent.length == 1 && s.store.pending.isEmpty) = true := by
    decide +kernel
  obtain ⟨s, hmeets, hs, hall⟩ := exists_of_checkedRun hrun
  rw [Bool.and_eq_true, Bool.and_eq_true, beq_iff_eq, List.isEmpty_iff] at hall
  obtain ⟨⟨hphase, hsent⟩, hpending⟩ := hall
  obtain ⟨err, herr⟩ := exists_of_hasReturned hphase
  obtain ⟨e, he⟩ := List.length_eq_one_iff.mp hsent
  refine ⟨s, err, e, hmeets, hs, herr, by rw [he]; simp, ?_⟩
  rintro ⟨payload, _, row, hrow, _⟩
  rw [hpending] at hrow
  cases hrow

end Bifrostnms.Proofs
