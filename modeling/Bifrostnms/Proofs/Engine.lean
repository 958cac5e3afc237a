import Bifrostnms.Agent.Engine
import Bifrostnms.Lib.Runs
import Bifrostnms.Proofs.Workers

/-!
# Steps of the engine

`Moves` says once what each event of the engine does and when it can happen;
the invariants of this file and the results about shutdown and about a full
queue are read off from it.

The invariant joins three facts: the runs are counted as in the scheduler
alone; the loop of the scheduler is inside `Tick` exactly while `Tick` holds
the mutex; and once the loop has returned every goroutine of a run has ended.
From them an engine that has not returned can always make a step, unless it
waits for the scheduler while the channel has no room for all executions that
are still to be sent.
-/

namespace Bifrostnms.Proofs

open Bifrostnms.Lib Bifrostnms.Agent

/-! ## What an event does -/

/-- The steps of the engine, with what makes them possible. -/
inductive Moves (ctx : EngineContext) (s : EngineState) : EngineEvent → EngineState → Prop where
  | cancel : Moves ctx s .cancel { s with cancelled := true }
  | tick {now : ℤ} {scheduler : SchedulerState} (hloop : s.loop = .selecting)
      (hstep : s.scheduler.step ctx.toSchedulerContext (.tickBegin now) = some scheduler) :
      Moves ctx s (.tick now) { s with scheduler := scheduler, loop := .ticking }
  | goroutine {event : SchedulerEvent} {scheduler : SchedulerState}
      (hevent : event.ofLoops = false)
      (hstep : s.scheduler.step ctx.toSchedulerContext event = some scheduler) :
      Moves ctx s (.goroutine event)
        { s with scheduler := scheduler, loop := s.loop.after scheduler }
  | tickBreaks {message failed : String} {scheduler : SchedulerState}
      (htick : s.scheduler.tick ≠ .idle)
      (hscheduler : scheduler = { s.scheduler with tick := .idle, failed := some failed }) :
      Moves ctx s (.tickBreaks message)
        { s with scheduler := scheduler, loop := s.loop.after scheduler }
  | done (hloop : s.loop = .selecting) : Moves ctx s .done { s with loop := .joining none }
  | join {err : Option String} (hloop : s.loop = .joining err)
      (hended : s.scheduler.allEnded = true) : Moves ctx s .join { s with loop := .finished err }
  | receive {execution : Execution} {scheduler : SchedulerState}
      (hphase : s.phase = .selecting)
      (hfirst : s.scheduler.results.head? = some execution)
      (hstep : s.scheduler.step ctx.toSchedulerContext .resultReceive = some scheduler) :
      Moves ctx s .receive
        { s with scheduler := scheduler, phase := .recording execution }
  | drainReceive {execution : Execution} {scheduler : SchedulerState}
      {err : Option EngineError} (hphase : s.phase = .draining err)
      (hfirst : s.scheduler.results.head? = some execution)
      (hstep : s.scheduler.step ctx.toSchedulerContext .resultReceive = some scheduler) :
      Moves ctx s .receive
        { s with scheduler := scheduler, phase := .drainRecording execution err }
  | record {createdAt clock : ℤ} {execution : Execution} {store : Store}
      (hphase : s.phase = .recording execution)
      (hrecord : recordOn s.cancelled s.store ctx.limits execution createdAt
        clock = .ok store) : Moves ctx s (.record createdAt clock) { s with
        store := store
        phase := .selecting
        enqueued := s.enqueued ++ [execution] }
  | recordFails {createdAt clock : ℤ} {execution : Execution}
      {failure : EngineError} (hphase : s.phase = .recording execution)
      (hrecord : recordOn s.cancelled s.store ctx.limits execution createdAt
        clock = .error failure) : Moves ctx s (.record createdAt clock) (s.fail failure)
  | drainRecord {createdAt clock : ℤ} {execution : Execution} {store : Store}
      {err : Option EngineError} (hphase : s.phase = .drainRecording execution err)
      (hrecord : recordOn false s.store ctx.limits execution createdAt clock = .ok store) :
      Moves ctx s (.record createdAt clock) { s with
        store := store
        phase := .draining err
        enqueued := s.enqueued ++ [execution] }
  | drainRecordFails {createdAt clock : ℤ} {execution : Execution}
      {failure : EngineError} {err : Option EngineError}
      (hphase : s.phase = .drainRecording execution err)
      (hrecord : recordOn false s.store ctx.limits execution createdAt clock = .error failure) :
      Moves ctx s (.record createdAt clock)
        { s with phase := .returned (some failure) }
  | recordBreaks {execution : Execution} (hphase : s.phase = .recording execution) :
      Moves ctx s .recordBreaks (s.fail .database)
  | drainRecordBreaks {execution : Execution} {err : Option EngineError}
      (hphase : s.phase = .drainRecording execution err) :
      Moves ctx s .recordBreaks { s with phase := .returned (some .database) }
  | observe {err : Option String} (hloop : s.loop = .finished err)
      (hphase : s.phase = .selecting) :
      Moves ctx s .observe { s with phase := .draining (err.map .scheduler) }
  | joined {err : Option String} {failure : EngineError}
      (hloop : s.loop = .finished err) (hphase : s.phase = .joining failure) :
      Moves ctx s .observe { s with phase := .returned (some failure) }
  | drainEnd {err : Option EngineError} (hphase : s.phase = .draining err)
      (hresults : s.scheduler.results = []) :
      Moves ctx s .drainEnd { s with phase := .returned err }

variable {ctx : EngineContext} {s s' : EngineState} {event : EngineEvent}

theorem receive_inv {next : Execution → EnginePhase} (h : s.receive ctx next = some s') :
    ∃ execution scheduler, s.scheduler.results.head? = some execution ∧
      s.scheduler.step ctx.toSchedulerContext .resultReceive = some scheduler ∧
      s' = { s with scheduler := scheduler, phase := next execution } := by
  unfold EngineState.receive at h
  split at h
  · next execution rest hresults =>
      obtain ⟨scheduler, hstep, rfl⟩ := Option.map_eq_some_iff.mp h
      exact ⟨execution, scheduler, by rw [hresults]; rfl, hstep, rfl⟩
  · cases h

theorem step_moves (h : s.step ctx event = some s') : Moves ctx s event s' := by
  cases event with
  | cancel =>
    cases h
    exact .cancel
  | tick now =>
    dsimp only [EngineState.step] at h
    split at h
    · next hloop =>
        obtain ⟨scheduler, hstep, rfl⟩ := Option.map_eq_some_iff.mp h
        exact .tick hloop hstep
    · cases h
  | goroutine event =>
    dsimp only [EngineState.step] at h
    split at h
    · cases h
    · next hevent =>
        obtain ⟨scheduler, hstep, rfl⟩ := Option.map_eq_some_iff.mp h
        exact .goroutine (Bool.eq_false_iff.mpr hevent) hstep
  | tickBreaks message =>
    dsimp only [EngineState.step] at h
    split at h
    · next htick =>
        cases h
        exact .tickBreaks (by rw [htick]; nofun) rfl
    · cases h
  | done =>
    dsimp only [EngineState.step] at h
    split at h
    · next hloop =>
        split at h
        · cases h
          exact .done hloop
        · cases h
    · cases h
  | join =>
    dsimp only [EngineState.step] at h
    split at h
    · next err hloop =>
        split at h
        · next hended =>
            cases h
            exact .join hloop hended
        · cases h
    · cases h
  | receive =>
    dsimp only [EngineState.step] at h
    split at h
    · next hphase =>
        obtain ⟨execution, scheduler, hfirst, hstep, rfl⟩ := receive_inv h
        exact .receive hphase hfirst hstep
    · next err hphase =>
        obtain ⟨execution, scheduler, hfirst, hstep, rfl⟩ := receive_inv h
        exact .drainReceive hphase hfirst hstep
    · cases h
  | record createdAt clock =>
    dsimp only [EngineState.step] at h
    split at h
    · next execution hphase =>
        split at h
        · next store hrecord =>
            cases h
            exact .record hphase hrecord
        · next failure hrecord =>
            cases h
            exact .recordFails hphase hrecord
    · next execution err hphase =>
        split at h
        · next store hrecord =>
            cases h
            exact .drainRecord hphase hrecord
        · next failure hrecord =>
            cases h
            exact .drainRecordFails hphase hrecord
    · cases h
  | recordBreaks =>
    dsimp only [EngineState.step] at h
    split at h
    · next hphase =>
        cases h
        exact .recordBreaks hphase
    · next hphase =>
        cases h
        exact .drainRecordBreaks hphase
    · cases h
  | observe =>
    dsimp only [EngineState.step] at h
    split at h
    · next err hloop hphase =>
        cases h
        exact .observe hloop hphase
    · next err failure hloop hphase =>
        cases h
        exact .joined hloop hphase
    · cases h
  | drainEnd =>
    dsimp only [EngineState.step] at h
    split at h
    · next err hphase hresults =>
        cases h
        exact .drainEnd hphase hresults
    · cases h

/-! ## The scheduler under the loops -/

section Scheduler

variable {ctx : SchedulerContext} {s s' : SchedulerState}
  {event : SchedulerEvent}

/-- What an event does to the runs and to the results channel. -/
inductive RunChange (ctx : SchedulerContext) (s s' : SchedulerState) : SchedulerEvent → Prop where
  | same {event : SchedulerEvent} (hruns : s'.runs = s.runs)
      (hresults : s'.results = s.results) : RunChange ctx s s' event
  | started {job : Job} (hruns : s'.runs = s.runs ++ [startedRun job])
      (hresults : s'.results = s.results) (htick : s.tick ≠ .idle) : RunChange ctx s s' .tickStart
  | moved {event : SchedulerEvent} {i : ℕ} {r : ProbeRun} {phase : RunPhase}
      (hr : s.runs[i]? = some r) (hruns : s'.runs = setPhase s.runs i phase)
      (hresults : s'.results = s.results)
      (hflight : inFlight phase = inFlight r.phase)
      (hlive : isLive r.phase = true) : RunChange ctx s s' event
  | sent {event : SchedulerEvent} {i : ℕ} {r : ProbeRun} {execution : Execution}
      (hr : s.runs[i]? = some r)
      (hruns : s'.runs = setPhase s.runs i .clearing)
      (hresults : s'.results = s.results ++ [execution])
      (hflight : inFlight r.phase = true)
      (hroom : s.results.length < ctx.capacity) : RunChange ctx s s' event

theorem step_runChange (hevent : event.ofLoops = false)
    (hstep : s.step ctx event = some s') : RunChange ctx s s' event := by
  cases event with
  | tickBegin now => cases hevent
  | resultReceive => cases hevent
  | tickVisit monitorId =>
    dsimp only [SchedulerState.step, SchedulerState.visit] at hstep
    split at hstep
    · split at hstep
      · split_ifs at hstep <;> cases hstep <;> exact .same rfl rfl
      · cases hstep
    · cases hstep
  | tickAdvance =>
    dsimp only [SchedulerState.step, SchedulerState.advance] at hstep
    split at hstep
    · split at hstep <;> cases hstep <;> exact .same rfl rfl
    · cases hstep
  | tickStart =>
    dsimp only [SchedulerState.step, SchedulerState.start] at hstep
    split at hstep
    · next htick =>
        split_ifs at hstep
        cases hstep
        exact .started rfl rfl (by rw [htick]; nofun)
    · cases hstep
  | tickEnd =>
    dsimp only [SchedulerState.step] at hstep
    split at hstep <;> cases hstep
    exact .same rfl rfl
  | reconcileBegin assignments now =>
    dsimp only [SchedulerState.step] at hstep
    split at hstep <;> cases hstep <;> exact .same rfl rfl
  | reconcileRestore monitorId =>
    dsimp only [SchedulerState.step, SchedulerState.restore] at hstep
    split at hstep
    · split at hstep
      · split at hstep <;> cases hstep <;> exact .same rfl rfl
      · cases hstep
    · cases hstep
  | reconcileRemove =>
    dsimp only [SchedulerState.step] at hstep
    split at hstep <;> cases hstep
    exact .same rfl rfl
  | reconcileSwap =>
    dsimp only [SchedulerState.step] at hstep
    split at hstep <;> cases hstep
    exact .same rfl rfl
  | probeEnd i outcome startedAt finishedAt now =>
    dsimp only [SchedulerState.step] at hstep
    split at hstep <;> cases hstep
    next hr => exact .moved hr rfl rfl rfl rfl
  | resultSend i =>
    dsimp only [SchedulerState.step] at hstep
    split at hstep
    · next hr =>
        split_ifs at hstep with hroom
        cases hstep
        exact .sent hr rfl rfl rfl hroom
    · cases hstep
  | runningClear i =>
    dsimp only [SchedulerState.step] at hstep
    split at hstep <;> cases hstep
    next hr _ => exact .moved hr rfl rfl rfl rfl
  | workerRelease i =>
    dsimp only [SchedulerState.step] at hstep
    split at hstep
    · next hr =>
        split_ifs at hstep
        cases hstep
        exact .moved hr rfl rfl rfl rfl
    · cases hstep
  | runDone i =>
    dsimp only [SchedulerState.step] at hstep
    split at hstep <;> cases hstep
    next hr => exact .moved hr rfl rfl rfl rfl

/-- The executions in the channel and those still to be sent. -/
def load (s : SchedulerState) : ℕ :=
  s.results.length + s.runs.countP fun r => inFlight r.phase

/-- Only the start of a run adds to the load. -/
theorem RunChange.load_eq (h : RunChange ctx s s' event) :
    load s' = load s ∨ event = .tickStart ∧ load s' = load s + 1 := by
  unfold load
  cases h with
  | same hruns hresults => exact .inl (by rw [hruns, hresults])
  | started hruns hresults =>
    refine .inr ⟨rfl, ?_⟩
    rw [hruns, hresults, List.countP_append]
    rfl
  | moved hr hruns hresults hflight =>
    refine .inl ?_
    rw [hruns, hresults, countP_move hr hflight]
  | @sent _ i r execution hr hruns hresults hflight =>
    have hcount : (setPhase s.runs i .clearing).countP
        (fun r => inFlight r.phase) + (if inFlight r.phase then 1 else 0) =
        s.runs.countP (fun r => inFlight r.phase) + 0 :=
      countP_setPhase _ hr
    rw [hflight, if_pos rfl] at hcount
    refine .inl ?_
    rw [hruns, hresults, List.length_append, List.length_singleton]
    omega

theorem RunChange.results_le (h : RunChange ctx s s' event)
    (hle : s.results.length ≤ ctx.capacity) : s'.results.length ≤ ctx.capacity := by
  cases h with
  | same _ hresults => rwa [hresults]
  | started _ hresults => rwa [hresults]
  | moved _ _ hresults => rwa [hresults]
  | sent _ _ hresults _ hroom =>
    rw [hresults, List.length_append, List.length_singleton]
    omega

/-- A run that can move has not ended. -/
theorem isLive_of_inFlight {p : RunPhase} (h : inFlight p = true) : isLive p = true := by
  cases p <;> first | rfl | cases h

theorem allEnded_iff : s.allEnded = true ↔ ∀ r ∈ s.runs, isLive r.phase = false := by
  rw [SchedulerState.allEnded, List.all_eq_true]
  refine forall₂_congr fun r _ => ?_
  cases r.phase <;> simp [isLive]

/-- When all goroutines have ended and `Tick` does not start another, none of
them does anything. -/
theorem RunChange.ended (h : RunChange ctx s s' event) (hidle : s.tick = .idle)
    (hended : s.allEnded = true) : s'.allEnded = true ∧ s'.results = s.results := by
  have hdead : ∀ {i : ℕ} {r : ProbeRun}, s.runs[i]? = some r → isLive r.phase = true → False := by
    intro i r hr hlive
    rw [allEnded_iff.mp hended r (List.mem_of_getElem? hr)] at hlive
    cases hlive
  cases h with
  | same hruns hresults =>
    refine ⟨?_, hresults⟩
    rw [allEnded_iff, hruns]
    exact allEnded_iff.mp hended
  | started _ _ htick => exact absurd hidle htick
  | moved hr _ _ _ hlive => exact (hdead hr hlive).elim
  | sent hr _ _ hflight => exact (hdead hr (isLive_of_inFlight hflight)).elim

/-- `Tick` begins only where the loop lets it. -/
theorem step_idle (hevent : event.ofLoops = false) (hidle : s.tick = .idle)
    (hstep : s.step ctx event = some s') : s'.tick = .idle := by
  cases event with
  | tickBegin now => cases hevent
  | resultReceive => cases hevent
  | tickVisit monitorId =>
    dsimp only [SchedulerState.step, SchedulerState.visit] at hstep
    rw [hidle] at hstep
    cases hstep
  | tickAdvance =>
    dsimp only [SchedulerState.step, SchedulerState.advance] at hstep
    rw [hidle] at hstep
    cases hstep
  | tickStart =>
    dsimp only [SchedulerState.step, SchedulerState.start] at hstep
    rw [hidle] at hstep
    cases hstep
  | tickEnd =>
    dsimp only [SchedulerState.step] at hstep
    rw [hidle] at hstep
    cases hstep
  | reconcileBegin assignments now =>
    dsimp only [SchedulerState.step] at hstep
    split at hstep <;> cases hstep <;> exact hidle
  | reconcileRestore monitorId =>
    dsimp only [SchedulerState.step, SchedulerState.restore] at hstep
    split at hstep
    · split at hstep
      · split at hstep <;> cases hstep <;> exact hidle
      · cases hstep
    · cases hstep
  | reconcileRemove | reconcileSwap =>
    dsimp only [SchedulerState.step] at hstep
    split at hstep <;> cases hstep
    exact hidle
  | probeEnd | runningClear | runDone =>
    dsimp only [SchedulerState.step] at hstep
    split at hstep <;> cases hstep
    exact hidle
  | resultSend | workerRelease =>
    dsimp only [SchedulerState.step] at hstep
    split at hstep
    · split_ifs at hstep
      cases hstep
      exact hidle
    · cases hstep

/-- Only the engine takes executions from the channel. -/
theorem step_received (hevent : event.ofLoops = false)
    (hstep : s.step ctx event = some s') : s'.received = s.received := by
  cases event with
  | tickBegin | resultReceive => cases hevent
  | tickVisit =>
    dsimp only [SchedulerState.step, SchedulerState.visit] at hstep
    split at hstep
    · split at hstep
      · split_ifs at hstep <;> cases hstep <;> rfl
      · cases hstep
    · cases hstep
  | tickAdvance =>
    dsimp only [SchedulerState.step, SchedulerState.advance] at hstep
    split at hstep
    · split at hstep <;> cases hstep <;> rfl
    · cases hstep
  | reconcileRestore =>
    dsimp only [SchedulerState.step, SchedulerState.restore] at hstep
    split at hstep
    · split at hstep
      · split at hstep <;> cases hstep <;> rfl
      · cases hstep
    · cases hstep
  | tickEnd | reconcileBegin | reconcileRemove | reconcileSwap | probeEnd
  | runningClear | runDone =>
    dsimp only [SchedulerState.step] at hstep
    split at hstep <;> cases hstep <;> rfl
  | tickStart | resultSend | workerRelease =>
    dsimp only [SchedulerState.step, SchedulerState.start] at hstep
    split at hstep
    · split_ifs at hstep
      cases hstep
      rfl
    · cases hstep

/-- The monitors that `Tick` has still to visit. -/
def tickVisits : TickPhase → List String
  | .idle => []
  | .looping _ pending => pending
  | .advancing _ pending _ _ => pending
  | .starting _ pending _ => pending

/-- `Tick` only has monitors to visit that have a job. -/
def KnownVisits (s : SchedulerState) : Prop :=
  ∀ id ∈ tickVisits s.tick, (findJob s.jobs id).isSome

theorem findJob_isSome {jobs : List Job} {id : String} :
    (findJob jobs id).isSome ↔ id ∈ jobs.map Job.monitorId := by
  rw [findJob, List.find?_isSome, List.mem_map]
  simp only [beq_iff_eq]

theorem findJob_setNextDue {jobs : List Job} {id id' : String} {due : ℤ} :
    (findJob (setNextDue jobs id due) id').isSome = (findJob jobs id').isSome := by
  have hsame : (setNextDue jobs id due).map Job.monitorId = jobs.map Job.monitorId := by
    rw [setNextDue, List.map_map]
    refine List.map_congr_left fun job _ => ?_
    show (if job.monitorId = id then _ else job : Job).monitorId = _
    split_ifs <;> rfl
  rw [Bool.eq_iff_iff, findJob_isSome, findJob_isSome, hsame]

theorem step_visits (h : KnownVisits s) (hstep : s.step ctx event = some s') : KnownVisits s' := by
  cases event with
  | tickBegin now =>
    dsimp only [SchedulerState.step] at hstep
    split at hstep <;> cases hstep
    exact fun id hid => findJob_isSome.mpr hid
  | tickVisit monitorId =>
    dsimp only [SchedulerState.step, SchedulerState.visit] at hstep
    split at hstep
    · next now pending htick =>
        have hless : ∀ id ∈ pending.erase monitorId, (findJob s.jobs id).isSome := by
          intro id hid
          refine h id ?_
          rw [htick]
          exact List.mem_of_mem_erase hid
        split at hstep
        · split_ifs at hstep <;> cases hstep <;> exact hless
        · cases hstep
    · cases hstep
  | tickAdvance =>
    dsimp only [SchedulerState.step, SchedulerState.advance] at hstep
    split at hstep
    · next now pending job turn htick =>
        split at hstep
        · cases hstep
          exact fun _ hid => by cases hid
        · cases hstep
          intro id hid
          show (findJob (setNextDue _ _ _) id).isSome
          rw [findJob_setNextDue]
          refine h id ?_
          rw [htick]
          dsimp only at hid
          split at hid <;> exact hid
    · cases hstep
  | tickStart =>
    dsimp only [SchedulerState.step, SchedulerState.start] at hstep
    split at hstep
    · next now pending job htick =>
        split_ifs at hstep
        cases hstep
        intro id hid
        refine h id ?_
        rw [htick]
        exact hid
    · cases hstep
  | tickEnd =>
    dsimp only [SchedulerState.step] at hstep
    split at hstep <;> cases hstep
    exact fun _ hid => by cases hid
  | reconcileSwap =>
    dsimp only [SchedulerState.step] at hstep
    split at hstep
    · next jobs _ htick =>
        cases hstep
        intro id hid
        rw [htick] at hid
        cases hid
    · cases hstep
  | reconcileBegin assignments now =>
    dsimp only [SchedulerState.step] at hstep
    split at hstep <;> cases hstep <;> exact h
  | reconcileRestore monitorId =>
    dsimp only [SchedulerState.step, SchedulerState.restore] at hstep
    split at hstep
    · split at hstep
      · split at hstep <;> cases hstep <;> exact h
      · cases hstep
    · cases hstep
  | reconcileRemove | probeEnd | runningClear | runDone | resultReceive =>
    dsimp only [SchedulerState.step] at hstep
    split at hstep <;> cases hstep
    exact h
  | resultSend | workerRelease =>
    dsimp only [SchedulerState.step] at hstep
    split at hstep
    · split_ifs at hstep
      cases hstep
      exact h
    · cases hstep

end Scheduler

/-! ## The invariant -/

theorem after_eq_ticking {loop : LoopPhase} {scheduler : SchedulerState} :
    loop.after scheduler = .ticking ↔ loop = .ticking ∧ scheduler.tick ≠ .idle := by
  unfold LoopPhase.after
  split
  · next htick =>
      constructor
      · intro h
        split at h <;> cases h
      · exact fun h => absurd htick h.2
  · next hother =>
      refine ⟨fun h => ⟨h, fun hidle => hother h hidle⟩, And.left⟩

theorem after_of_ne {loop : LoopPhase} {scheduler : SchedulerState}
    (h : loop ≠ .ticking) : loop.after scheduler = loop := by
  unfold LoopPhase.after
  split
  · exact absurd rfl h
  · rfl

/-- The loop of the scheduler is over when the engine takes what is left, and
when it has returned. -/
def Drains (loop : LoopPhase) : EnginePhase → Prop
  | .draining _ | .drainRecording _ _ | .returned _ => ∃ err, loop = .finished err
  | _ => True

structure EngineInvariant (ctx : EngineContext) (s : EngineState) : Prop where
  runs : RunInvariant ctx.toSchedulerContext s.scheduler
  visits : KnownVisits s.scheduler
  channel : s.scheduler.results.length ≤ ctx.capacity
  ticking : s.loop = .ticking ↔ s.scheduler.tick ≠ .idle
  ended : ∀ err, s.loop = .finished err → s.scheduler.allEnded = true
  drains : Drains s.loop s.phase
  stopped : ∀ failure, s.phase = .joining failure → s.stopped = true

theorem newEngine_invariant (ctx : EngineContext) (rows : ScheduleRows)
    (store : Store) : EngineInvariant ctx (newEngine rows store) where
  runs := newScheduler_invariant _ _
  visits _ hid := by cases hid
  channel := Nat.zero_le _
  ticking := ⟨nofun, fun h => absurd rfl h⟩
  ended _ h := by cases h
  drains := trivial
  stopped _ h := by cases h

theorem EngineInvariant.idle (h : EngineInvariant ctx s)
    (hloop : s.loop ≠ .ticking) : s.scheduler.tick = .idle :=
  not_not.mp fun htick => hloop (h.ticking.mpr htick)

theorem EngineInvariant.goroutine {event : SchedulerEvent}
    {scheduler : SchedulerState} (h : EngineInvariant ctx s) (hevent : event.ofLoops = false)
    (hstep : s.scheduler.step ctx.toSchedulerContext event = some scheduler) : EngineInvariant ctx
      { s with scheduler := scheduler, loop := s.loop.after scheduler } := by
  have hchange := step_runChange hevent hstep
  have hkeep : ∀ err, s.loop = .finished err →
      s.loop.after scheduler = .finished err ∧ scheduler.allEnded = true := by
    intro err hloop
    have hne : s.loop ≠ .ticking := by rw [hloop]; nofun
    refine ⟨(after_of_ne hne).trans hloop, ?_⟩
    exact (hchange.ended (h.idle hne) (h.ended err hloop)).1
  refine ⟨step_runInvariant h.runs hstep, step_visits h.visits hstep,
    hchange.results_le h.channel, ?_, fun err hloop => ?_, ?_, h.stopped⟩
  · rw [after_eq_ticking]
    refine ⟨And.right, fun htick => ⟨?_, htick⟩⟩
    by_contra hne
    exact htick (step_idle hevent (h.idle hne) hstep)
  · by_cases hne : s.loop = .ticking
    · dsimp only at hloop
      unfold LoopPhase.after at hloop
      rw [hne] at hloop
      split at hloop
      · split at hloop <;> cases hloop
      · cases hloop
    · exact (hkeep err ((after_of_ne hne).symm.trans hloop)).2
  · have hdrains := h.drains
    show Drains (s.loop.after scheduler) s.phase
    unfold Drains at hdrains ⊢
    split at hdrains
    · obtain ⟨err, hloop⟩ := hdrains
      exact ⟨err, (hkeep err hloop).1⟩
    · obtain ⟨err, hloop⟩ := hdrains
      exact ⟨err, (hkeep err hloop).1⟩
    · obtain ⟨err, hloop⟩ := hdrains
      exact ⟨err, (hkeep err hloop).1⟩
    · trivial

theorem Drains.not_before {loop : LoopPhase} {phase : EnginePhase}
    (h : Drains loop phase) (hloop : ∀ err, loop ≠ .finished err)
    (loop' : LoopPhase) : Drains loop' phase := by
  unfold Drains at h ⊢
  split at h
  · exact (hloop _ h.choose_spec).elim
  · exact (hloop _ h.choose_spec).elim
  · exact (hloop _ h.choose_spec).elim
  · trivial

theorem step_resultReceive {ctx : SchedulerContext} {s s' : SchedulerState}
    (h : s.step ctx .resultReceive = some s') :
    ∃ execution, s.results = execution :: s'.results ∧ s' = { s with
      results := s'.results
      received := s.received ++ [execution] } := by
  dsimp only [SchedulerState.step] at h
  split at h
  · next execution rest hresults =>
      cases h
      exact ⟨execution, hresults, rfl⟩
  · cases h

theorem EngineInvariant.receive {scheduler : SchedulerState} {phase : EnginePhase}
    (h : EngineInvariant ctx s) (hstep : s.scheduler.step ctx.toSchedulerContext .resultReceive =
      some scheduler) (hdrains : Drains s.loop phase)
    (hphase : ∀ failure, phase ≠ .joining failure) :
    EngineInvariant ctx { s with scheduler := scheduler, phase := phase } := by
  have hruns := step_runInvariant h.runs hstep
  have hvisits := step_visits h.visits hstep
  obtain ⟨execution, hresults, hscheduler⟩ := step_resultReceive hstep
  have hlength := h.channel
  rw [hresults, List.length_cons] at hlength
  refine ⟨hruns, hvisits, by dsimp only; omega, ?_, fun err hloop => ?_, hdrains,
    fun failure hjoining => absurd hjoining (hphase failure)⟩
  · rw [hscheduler]
    exact h.ticking
  · rw [hscheduler]
    exact h.ended err hloop

theorem step_engineInvariant (h : EngineInvariant ctx s)
    (hstep : s.step ctx event = some s') : EngineInvariant ctx s' := by
  cases step_moves hstep with
  | cancel =>
    exact ⟨h.runs, h.visits, h.channel, h.ticking, h.ended, h.drains, h.stopped⟩
  | @tick now scheduler hloop hbegin =>
    have hruns := step_runInvariant h.runs hbegin
    have hvisits := step_visits h.visits hbegin
    dsimp only [SchedulerState.step] at hbegin
    split at hbegin <;> cases hbegin
    refine ⟨hruns, hvisits, h.channel, ?_, nofun, ?_, h.stopped⟩
    · exact ⟨fun _ => nofun, fun _ => rfl⟩
    · exact h.drains.not_before (by rw [hloop]; nofun) _
  | goroutine hevent hgo => exact h.goroutine hevent hgo
  | @tickBreaks message failed scheduler htick hscheduler =>
    have hloop := h.ticking.mpr htick
    have hafter : s.loop.after scheduler = .joining (some failed) := by
      rw [hloop, hscheduler]
      rfl
    rw [hafter, hscheduler]
    refine ⟨h.runs.same ⟨rfl, rfl, rfl, rfl, rfl, rfl⟩ trivial,
      fun _ => nofun, h.channel, ?_, nofun, ?_, h.stopped⟩
    · exact ⟨nofun, fun hbusy => absurd rfl hbusy⟩
    · exact h.drains.not_before (by rw [hloop]; nofun) _
  | done hloop =>
    have hidle := h.idle (by rw [hloop]; nofun)
    refine ⟨h.runs, h.visits, h.channel, ?_, nofun, ?_, h.stopped⟩
    · exact ⟨nofun, fun hbusy => absurd hidle hbusy⟩
    · exact h.drains.not_before (by rw [hloop]; nofun) _
  | join hloop hended =>
    have hidle := h.idle (by rw [hloop]; nofun)
    refine ⟨h.runs, h.visits, h.channel, ?_, fun _ _ => hended, ?_, h.stopped⟩
    · exact ⟨nofun, fun hbusy => absurd hidle hbusy⟩
    · exact h.drains.not_before (by rw [hloop]; nofun) _
  | receive hphase hfirst hreceive => exact h.receive hreceive trivial nofun
  | drainReceive hphase hfirst hreceive =>
    have hdrains := h.drains
    rw [hphase] at hdrains
    exact h.receive hreceive hdrains nofun
  | record hphase hrecord =>
    exact ⟨h.runs, h.visits, h.channel, h.ticking, h.ended, trivial, nofun⟩
  | recordFails hphase hrecord =>
    exact ⟨h.runs, h.visits, h.channel, h.ticking, h.ended, trivial, fun _ _ => rfl⟩
  | drainRecord hphase hrecord =>
    have hdrains := h.drains
    rw [hphase] at hdrains
    exact ⟨h.runs, h.visits, h.channel, h.ticking, h.ended, hdrains, nofun⟩
  | drainRecordFails hphase hrecord =>
    have hdrains := h.drains
    rw [hphase] at hdrains
    exact ⟨h.runs, h.visits, h.channel, h.ticking, h.ended, hdrains, nofun⟩
  | recordBreaks hphase =>
    exact ⟨h.runs, h.visits, h.channel, h.ticking, h.ended, trivial, fun _ _ => rfl⟩
  | drainRecordBreaks hphase =>
    have hdrains := h.drains
    rw [hphase] at hdrains
    exact ⟨h.runs, h.visits, h.channel, h.ticking, h.ended, hdrains, nofun⟩
  | @observe err hloop hphase =>
    exact ⟨h.runs, h.visits, h.channel, h.ticking, h.ended, ⟨err, hloop⟩, nofun⟩
  | @joined err failure hloop hphase =>
    exact ⟨h.runs, h.visits, h.channel, h.ticking, h.ended, ⟨err, hloop⟩, nofun⟩
  | drainEnd hphase hresults =>
    have hdrains := h.drains
    rw [hphase] at hdrains
    exact ⟨h.runs, h.visits, h.channel, h.ticking, h.ended, hdrains, nofun⟩

end Bifrostnms.Proofs
