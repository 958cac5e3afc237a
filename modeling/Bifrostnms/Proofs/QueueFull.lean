import Bifrostnms.Proofs.Shutdown

/-!
# A full queue and the agent process

An execution that finds the queue full is reported by `RecordExecution` like
any other failure, so it ends the engine, and with the engine the process. The
uploads that could make room are made by the same process. A restart does not
help: the queue is as full as before, and the next execution ends it again.

The error is followed through the loops by the error that each of them is
about to return (`phaseError`, `mainError`): it is the error of a full queue
only if an execution was recorded without room.
-/

namespace Bifrostnms.Proofs

open Bifrostnms.Lib Bifrostnms.Agent

/-- `ErrQueueFull`, as `Engine.Run` returns it. -/
def queueFullError : EngineError := .record EnqueueError.queueFull.message

/-- The queue takes the execution, or has it already. -/
def hasRoom (store : Store) (limits : QueueLimits) (e : Execution) : Bool :=
  match storedText e with
  | .error _ => true
  | .ok payload =>
    (store.findPending (formatTime e.truncated.request.scheduledAt,
      e.request.observationId)).isSome ||
    (decide ((store.pending.length : ℤ) + 1 ≤ limits.maxCount) &&
      decide ((store.pending.map fun row =>
        (payloadSize row.canonicalPayload : ℤ)).sum + payloadSize payload ≤ limits.maxBytes))

theorem message_ne_queueFull (err : String) :
    "encode completed probe execution: " ++ err ≠ EnqueueError.queueFull.message := by
  intro h
  have hlist := congrArg String.toList h
  rw [String.toList_append] at hlist
  have hhead := congrArg List.head? hlist
  revert hhead
  rw [List.head?_append_of_ne_nil _ (by decide)]
  decide

theorem eq_queueFull {err : EnqueueError}
    (h : err.message = EnqueueError.queueFull.message) : err = .queueFull := by
  revert h
  cases err <;> decide

theorem enqueueObservation_hasRoom {store : Store} {limits : QueueLimits}
    {o : Observation} {clock : ℤ} (hroom : (store.findPending o.key).isSome ∨
      (store.pending.length : ℤ) + 1 ≤ limits.maxCount ∧ (store.pending.map fun row =>
          (payloadSize row.canonicalPayload : ℤ)).sum +
            payloadSize o.canonicalPayload ≤ limits.maxBytes) :
    enqueueObservation store o limits clock ≠ .error .queueFull := by
  intro h
  unfold enqueueObservation at h
  split at h
  · cases h
  · split at h
    · cases h
    · dsimp only at h
      have hkey : (o.withTimes clock).key = o.key := rfl
      have hpayload : (o.withTimes clock).canonicalPayload = o.canonicalPayload :=
        rfl
      unfold observationAlreadyQueued at h
      rw [hkey, hpayload] at h
      cases hfind : store.findPending o.key with
      | some row =>
        rw [hfind] at h
        dsimp only at h
        split_ifs at h <;> cases h
      | none =>
        rw [hfind] at h hroom
        have hfits := hroom.resolve_left Bool.false_ne_true
        dsimp only at h
        rw [if_neg (by omega)] at h
        cases h

/-- With room, the error of a full queue is not reported. -/
theorem recordExecution_hasRoom {store : Store} {limits : QueueLimits}
    {e : Execution} {createdAt clock : ℤ} (hroom : hasRoom store limits e = true) :
    recordExecution store limits e createdAt clock ≠ .error EnqueueError.queueFull.message := by
  intro h
  unfold recordExecution at h
  dsimp only at h
  split at h
  · next err _ =>
      exact message_ne_queueFull err (Except.error.inj h)
  · next payload hpayload =>
      have htext : storedText e = .ok payload := hpayload
      rw [hasRoom, htext] at hroom
      simp only [Bool.or_eq_true, Bool.and_eq_true, decide_eq_true_eq] at hroom
      split at h
      · next err henqueue =>
          rw [eq_queueFull (Except.error.inj h)] at henqueue
          have hkey : (recordedObservation e.truncated payload createdAt).key =
            (formatTime e.truncated.request.scheduledAt, e.request.observationId) := rfl
          refine enqueueObservation_hasRoom ?_ henqueue
          rw [hkey]
          exact hroom
      · cases h

theorem recordOn_hasRoom {cancelled : Bool} {store : Store}
    {limits : QueueLimits} {e : Execution} {createdAt clock : ℤ}
    (hroom : (cancelled || hasRoom store limits e) = true) :
    recordOn cancelled store limits e createdAt clock ≠ .error queueFullError := by
  intro h
  unfold recordOn at h
  split at h
  · split_ifs at h
    cases h
  · next message hrecord =>
      split at h
      · exact EngineError.noConfusion (Except.error.inj h)
      · next hcontext =>
          have hmessage : message = EnqueueError.queueFull.message :=
            EngineError.record.inj (Except.error.inj h)
          rw [hmessage] at hcontext hrecord
          rw [not_and_or] at hcontext
          rcases hcontext with hlive | hother
          · rw [Bool.eq_false_iff.mpr hlive, Bool.false_or] at hroom
            exact recordExecution_hasRoom hroom hrecord
          · exact hother (.inr rfl)

/-! ## Through the loops -/

/-- The error that the engine is about to return, or has returned. -/
def phaseError : EnginePhase → Option EngineError
  | .selecting | .recording _ => none
  | .joining failure => some failure
  | .draining err => err
  | .drainRecording _ err => err
  | .returned err => err

/-- The error that the process has returned. -/
def mainError : MainPhase → Option MainError
  | .returned err => err
  | _ => none

/-- The engine or the process ends, or has ended, because the queue is full. -/
def EndsByFullQueue (s : MainState) : Prop :=
  phaseError s.engine.phase = some queueFullError ∨
    mainError s.phase = some (.engine queueFullError)

instance (s : MainState) : Decidable (EndsByFullQueue s) :=
  inferInstanceAs (Decidable (_ ∨ _))

/-- An event of the engine that records finds room in the queue. -/
def engineFindsRoom (ctx : EngineContext) (s : EngineState) : EngineEvent → Bool
  | .record _ _ =>
    match s.phase with
    | .recording e => s.cancelled || hasRoom s.store ctx.limits e
    | .drainRecording e _ => hasRoom s.store ctx.limits e
    | _ => true
  | _ => true

def findsRoom (ctx : EngineContext) (s : MainState) : MainEvent → Bool
  | .engine event => engineFindsRoom ctx s.engine event
  | _ => true

theorem engine_step_error {ctx : EngineContext} {s s' : EngineState}
    {event : EngineEvent} (h : phaseError s.phase ≠ some queueFullError)
    (hroom : engineFindsRoom ctx s event = true) (hstep : s.step ctx event = some s') :
    phaseError s'.phase ≠ some queueFullError := by
  cases step_moves hstep with
  | cancel | tick | goroutine | tickBreaks | done | join => exact h
  | receive | record | recordBreaks | drainRecordBreaks => exact nofun
  | drainReceive hphase | drainRecord hphase | joined _ hphase | drainEnd hphase =>
    rw [hphase] at h
    exact h
  | recordFails hphase hrecord =>
    rw [engineFindsRoom, hphase] at hroom
    intro hfull
    rw [Option.some.inj hfull] at hrecord
    exact recordOn_hasRoom hroom hrecord
  | drainRecordFails hphase hrecord =>
    rw [engineFindsRoom, hphase] at hroom
    intro hfull
    rw [Option.some.inj hfull] at hrecord
    refine recordOn_hasRoom ?_ hrecord
    rw [Bool.false_or]
    exact hroom
  | @observe err =>
    show err.map EngineError.scheduler ≠ _
    cases err <;> nofun

theorem main_step_error {raw : RawJson} {ctx : EngineContext} {s s' : MainState}
    {event : MainEvent} (h : ¬ EndsByFullQueue s)
    (hroom : findsRoom ctx s event = true) (hstep : s.step raw ctx event = some s') :
    ¬ EndsByFullQueue s' := by
  obtain ⟨hengine, hmain⟩ := not_or.mp h
  cases event with
  | engine event =>
    have hinner : (s.engine.step ctx event).map
        (fun engine => { s with engine := engine }) = some s' := by
      dsimp only [MainState.step] at hstep
      split at hstep
      · cases hstep
      · exact hstep
    obtain ⟨engine, hgo, rfl⟩ := Option.map_eq_some_iff.mp hinner
    exact not_or.mpr ⟨engine_step_error hengine hroom hgo, hmain⟩
  | upload clock random =>
    dsimp only [MainState.step] at hstep
    split at hstep
    · next hlooping =>
        split at hstep
        · cases hstep; exact h
        · cases hstep; exact h
        · cases hstep; exact h
        · split at hstep
          · cases hstep
            exact not_or.mpr ⟨hengine, hmain⟩
          · cases hstep; exact h
        · cases hstep
          exact not_or.mpr ⟨hengine, nofun⟩
    · cases hstep
  | answer outcome =>
    dsimp only [MainState.step] at hstep
    split at hstep
    · cases hstep
      exact not_or.mpr ⟨hengine, nofun⟩
    · cases hstep
  | done =>
    dsimp only [MainState.step] at hstep
    split at hstep
    · split_ifs at hstep
      cases hstep
      exact not_or.mpr ⟨hengine, nofun⟩
    · cases hstep
  | engineErrors =>
    have hreturned : ∃ err, s.engine.phase = .returned err ∧
        s' = { s with phase := .returned (err.map .engine) } := by
      dsimp only [MainState.step] at hstep
      split at hstep
      · next err _ hphase =>
          cases hstep
          exact ⟨err, hphase, rfl⟩
      · next err _ hphase =>
          cases hstep
          exact ⟨err, hphase, rfl⟩
      · cases hstep
    obtain ⟨err, hphase, rfl⟩ := hreturned
    refine not_or.mpr ⟨hengine, fun hfull => hengine ?_⟩
    obtain ⟨e, he, heq⟩ := Option.map_eq_some_iff.mp hfull
    rw [hphase, phaseError, he, MainError.engine.inj heq]
  | loadFails message =>
    dsimp only [MainState.step] at hstep
    split at hstep
    · cases hstep
      exact not_or.mpr ⟨hengine, nofun⟩
    · cases hstep
  | restart =>
    dsimp only [MainState.step] at hstep
    split at hstep
    · cases hstep
      exact not_or.mpr ⟨nofun, nofun⟩
    · cases hstep

/-- The agent process as it starts. -/
def newMain (rows : ScheduleRows) (store : Store) : MainState where
  engine := newEngine rows store

/-- In every run in which each execution that is recorded finds room, neither
the engine nor the process ends because of a full queue. -/
theorem process_survives {raw : RawJson} {ctx : EngineContext}
    {rows : ScheduleRows} {store : Store} {events : List MainEvent} {s : MainState}
    (hmeets : Meets (MainState.step raw ctx)
      (fun s event => findsRoom ctx s event = true) events (newMain rows store))
    (hrun : runSteps (MainState.step raw ctx) events (newMain rows store) = some s) :
    ¬ EndsByFullQueue s := by
  have hstart : ¬ EndsByFullQueue (newMain rows store) := not_or.mpr ⟨nofun, nofun⟩
  exact runSteps_invariant main_step_error hstart hmeets hrun

/-! ## A queue of one row -/

/-- One execution, from the schedule to the queue. -/
def executionEvents (installed now : ℤ) : List EngineEvent :=
  (installEvents [soloAssignment "first" 1] installed).map .goroutine ++
    tickEvents now ++ (probeEvents 0 ++ sendEvents 0).map .goroutine ++
    [.receive, .record (now + second) (now + second)]

def processEvents (installed now : ℤ) : List MainEvent :=
  (executionEvents installed now).map .engine

/-- The engine ends, and the process with it. -/
def endEvents : List MainEvent :=
  [.engine .done, .engine .join, .engine .observe, .engineErrors]

theorem process_survives_room : ∃ s,
    runSteps (MainState.step plainJson soloEngine) (processEvents 0 0)
        (newMain (fun _ => none) {}) = some s ∧ ¬ EndsByFullQueue s := by
  have hrun : (checkedRun (MainState.step plainJson soloEngine)
      (fun s event => findsRoom soloEngine s event = true) (processEvents 0 0)
      (newMain (fun _ => none) {})).any (fun _ => true) = true := by
    decide +kernel
  obtain ⟨s, hmeets, hs, -⟩ := exists_of_checkedRun hrun
  exact ⟨s, hs, process_survives hmeets hs⟩

/-- The process ends because the queue is full, and ends again after a restart;
the pending row is never sent. -/
theorem process_ends_full : ∃ s, runSteps (MainState.step plainJson soloEngine)
        (processEvents 0 0 ++ endEvents ++ [.restart] ++
          processEvents (30 * second) (60 * second) ++ endEvents)
        (newMain (fun _ => none) fullStore) = some s ∧
      mainError s.phase = some (.engine queueFullError) ∧
      s.engine.store.pending.map Observation.key = fullStore.pending.map Observation.key := by
  have hends : ((runSteps (MainState.step plainJson soloEngine)
      (processEvents 0 0 ++ endEvents ++ [.restart] ++
        processEvents (30 * second) (60 * second) ++ endEvents)
      (newMain (fun _ => none) fullStore)).any fun s =>
        decide (mainError s.phase = some (.engine queueFullError)) &&
        decide (s.engine.store.pending.map Observation.key =
          fullStore.pending.map Observation.key)) = true := by
    decide +kernel
  obtain ⟨s, hs, hboth⟩ := (Option.any_eq_true _ _).mp hends
  rw [Bool.and_eq_true, decide_eq_true_eq, decide_eq_true_eq] at hboth
  exact ⟨s, hs, hboth⟩

end Bifrostnms.Proofs
