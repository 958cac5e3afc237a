import Bifrostnms.Agent.Interleaving
import Bifrostnms.Proofs.Scheduler
import Mathlib.Tactic.SplitIfs

/-!
# Worker slots, running marks and sent executions

Three places say that a run is going on: the running map, the tokens in the
workers channel, and the goroutine itself. A run gives them up one after the
other, so at any moment they disagree; what every interleaving keeps is how
each of them counts the goroutines by their phase. A mark stands for exactly
one run that has not cleared it, a token for one run that has not given it
back, and an execution for one run that is past its send.

`Tick` decides under the mutex and sends on the workers channel later. In
between the marks cannot change and the tokens only become fewer, so what it
has decided is still true when it sends. Replacing the jobs touches none of
this, which is why a monitor that is removed and added again is not started
over its own run.
-/

namespace Bifrostnms.Proofs

open Bifrostnms.Lib Bifrostnms.Agent

/-! ## Phases -/

/-- Between the start of a run and the sending of its execution. -/
def inFlight : RunPhase → Bool
  | .probing | .sending _ => true
  | _ => false

/-- The running mark is set. -/
def marked : RunPhase → Bool
  | .probing | .sending _ | .clearing => true
  | _ => false

/-- The worker slot is taken. -/
def holdsSlot : RunPhase → Bool
  | .probing | .sending _ | .clearing | .releasing => true
  | _ => false

/-- The execution is sent. -/
def hasSent : RunPhase → Bool
  | .clearing | .releasing | .closing | .ended => true
  | _ => false

/-- The goroutine exists. -/
def isLive : RunPhase → Bool
  | .ended => false
  | _ => true

theorem marked_of_inFlight {p : RunPhase} (h : inFlight p = true) : marked p = true := by
  cases p <;> first | rfl | cases h

/-! ## Moving one run -/

theorem countP_setPhase (p : ProbeRun → Bool) {runs : List ProbeRun} {i : ℕ}
    {r : ProbeRun} {phase : RunPhase} (h : runs[i]? = some r) :
    (setPhase runs i phase).countP p + (if p r then 1 else 0) =
      runs.countP p + (if p { r with phase := phase } then 1 else 0) := by
  unfold setPhase
  induction runs generalizing i with
  | nil => cases h
  | cons r' runs ih =>
    cases i with
    | zero =>
      rw [List.getElem?_cons_zero, Option.some.injEq] at h
      subst h
      rw [List.modify_zero_cons, List.countP_cons, List.countP_cons]
      omega
    | succ i =>
      rw [List.getElem?_cons_succ] at h
      rw [List.modify_succ_cons, List.countP_cons, List.countP_cons]
      have := ih h
      omega

theorem getElem?_setPhase {runs : List ProbeRun} {i j : ℕ} {phase : RunPhase} :
    (setPhase runs i phase)[j]? = if i = j then runs[j]?.map fun r => { r with phase := phase }
      else runs[j]? := by
  rw [setPhase, List.getElem?_modify]
  split_ifs with h
  · rfl
  · exact Option.map_id'

theorem mem_setPhase {runs : List ProbeRun} {i : ℕ} {r : ProbeRun}
    {phase : RunPhase} (h : r ∈ setPhase runs i phase) : r ∈ runs ∨ r.phase = phase := by
  obtain ⟨j, hj⟩ := List.mem_iff_getElem?.mp h
  rw [getElem?_setPhase] at hj
  split_ifs at hj
  · obtain ⟨r', _, rfl⟩ := Option.map_eq_some_iff.mp hj
    exact .inr rfl
  · exact .inl (List.mem_of_getElem? hj)

/-! ## Results -/

/-- Results that stand for a failure of the agent validate, whatever the
clock says, as long as it does not go back. -/
theorem internalFailure_valid {startedAt finishedAt : ℤ} {code message : String}
    (hstart : startedAt ≠ zeroTime) (hle : startedAt ≤ finishedAt)
    (hmessage : (utf8 message.toList).length ≤ maximumErrorMessageBytes) :
    (internalFailure startedAt finishedAt code message).validate = .ok () := by
  have htime : ¬ (startedAt = zeroTime ∨ finishedAt < startedAt) := by omega
  dsimp only [Result.validate, internalFailure]
  rw [if_neg htime, if_neg (by decide), if_neg (by decide), if_neg (by decide),
    if_neg (by decide), if_neg (by decide), if_neg (not_lt.mpr hmessage),
    if_neg (by simp), if_neg (by decide)]

/-- What a run sends validates. -/
theorem checkedResult_valid (result : Result) (now : ClockTime) :
    (checkedResult result now).validate = .ok () := by
  unfold checkedResult
  split
  · next h => exact h
  · exact internalFailure_valid (ne_of_gt now.property) le_rfl (by decide)

/-! ## The invariant -/

/-- What `Tick` has decided still holds: the monitor is not running and there
is a free worker. -/
def TickReady (capacity : ℕ) (running : String → Bool) (workers : ℕ) : TickPhase → Prop
  | .advancing _ _ job turn => turn.missReason = none →
      running job.monitorId = false ∧ workers < capacity
  | .starting _ _ job => running job.monitorId = false ∧ workers < capacity
  | _ => True

/-- The number of runs of a monitor in the given phases. -/
def countRuns (runs : List ProbeRun) (monitorId : String) (phases : RunPhase → Bool) : ℕ :=
  runs.countP fun r => r.monitorId == monitorId && phases r.phase

/-- A sent execution is that of the run it was sent by. -/
def Originates (sha256 : List UInt8 → List UInt8) (runs : List ProbeRun)
    (sent : ℕ × Execution) : Prop :=
  ∃ r, runs[sent.1]? = some r ∧
    sent.2 = runExecution sha256 r.assignment r.scheduledAt sent.2.result

structure RunInvariant (ctx : SchedulerContext) (s : SchedulerState) : Prop where
  workers : s.workers = s.runs.countP fun r => holdsSlot r.phase
  capacity : s.workers ≤ ctx.capacity
  running : ∀ id, countRuns s.runs id marked = if s.running id then 1 else 0
  tick : TickReady ctx.capacity s.running s.workers s.tick
  sent : ∀ i, s.sent.countP (fun e => e.1 == i) =
    if s.runs[i]?.any fun r => hasSent r.phase then 1 else 0
  sending : ∀ r ∈ s.runs, ∀ result, r.phase = .sending result → result.validate = .ok ()
  valid : ∀ e ∈ s.sent, e.2.result.validate = .ok ()
  origin : ∀ e ∈ s.sent, Originates ctx.sha256 s.runs e
  channel : s.sent.map Prod.snd = s.received ++ s.results

theorem newScheduler_invariant (ctx : SchedulerContext) (rows : ScheduleRows) :
    RunInvariant ctx (newScheduler rows) where
  workers := rfl
  capacity := Nat.zero_le _
  running _ := rfl
  tick := trivial
  sent _ := rfl
  sending _ hr := by cases hr
  valid _ he := by cases he
  origin _ he := by cases he
  channel := rfl

/-- Fewer tokens and fewer marks keep what `Tick` has decided. -/
theorem TickReady.mono {capacity workers workers' : ℕ}
    {running running' : String → Bool} {phase : TickPhase}
    (h : TickReady capacity running workers phase) (hw : workers' ≤ workers)
    (hr : ∀ id, running id = false → running' id = false) :
    TickReady capacity running' workers' phase := by
  cases phase with
  | idle => trivial
  | looping => trivial
  | advancing now pending job turn =>
    intro hmiss
    obtain ⟨hrun, hfree⟩ := h hmiss
    exact ⟨hr _ hrun, by omega⟩
  | starting now pending job =>
    obtain ⟨hrun, hfree⟩ := h
    exact ⟨hr _ hrun, by omega⟩

/-! ## Events of Tick and Reconcile

They leave the runs and the channels alone, but for the start of a run. -/

/-- The part of the state that the runs are counted by is the same. -/
structure SameRuns (s s' : SchedulerState) : Prop where
  workers : s'.workers = s.workers
  running : s'.running = s.running
  runs : s'.runs = s.runs
  results : s'.results = s.results
  sent : s'.sent = s.sent
  received : s'.received = s.received

theorem RunInvariant.same {ctx : SchedulerContext} {s s' : SchedulerState}
    (h : RunInvariant ctx s) (hsame : SameRuns s s')
    (htick : TickReady ctx.capacity s.running s.workers s'.tick) : RunInvariant ctx s' := by
  obtain ⟨hworkers, hrunning, hruns, hresults, hsent, hreceived⟩ := hsame
  exact {
    workers := by rw [hworkers, hruns]; exact h.workers
    capacity := by rw [hworkers]; exact h.capacity
    running := by rw [hruns, hrunning]; exact h.running
    tick := by rw [hworkers, hrunning]; exact htick
    sent := by rw [hsent, hruns]; exact h.sent
    sending := by rw [hruns]; exact h.sending
    valid := by rw [hsent]; exact h.valid
    origin := by rw [hsent, hruns]; exact h.origin
    channel := by rw [hsent, hreceived, hresults]; exact h.channel }

theorem evaluate_ready {capacity workers : ℕ} {now : ℤ} {job : Job}
    {running : Bool} (hcap : workers ≤ capacity)
    (h : (evaluate now job running (workers == capacity)).missReason = none) :
    running = false ∧ workers < capacity := by
  cases running with
  | true => cases h
  | false =>
    cases hfull : workers == capacity with
    | true => rw [hfull] at h; cases h
    | false =>
      have hne := beq_eq_false_iff_ne.mp hfull
      exact ⟨rfl, by omega⟩

/-- A visit decides with the marks and the tokens it sees. -/
theorem RunInvariant.visit {ctx : SchedulerContext} {s s' : SchedulerState}
    {monitorId : String} (h : RunInvariant ctx s)
    (hstep : s.visit ctx monitorId = some s') : RunInvariant ctx s' := by
  unfold SchedulerState.visit at hstep
  split at hstep
  · next now pending htick =>
      split at hstep
      · next job hfind =>
          split_ifs at hstep
          · cases hstep
            exact h.same ⟨rfl, rfl, rfl, rfl, rfl, rfl⟩ trivial
          · cases hstep
            have hid : job.monitorId = monitorId := by
              have := List.find?_some hfind
              exact beq_iff_eq.mp this
            refine h.same ⟨rfl, rfl, rfl, rfl, rfl, rfl⟩ fun hmiss => ?_
            rw [hid]
            exact evaluate_ready h.capacity hmiss
      · cases hstep
  · cases hstep

theorem RunInvariant.advance {ctx : SchedulerContext} {s s' : SchedulerState}
    (h : RunInvariant ctx s) (hstep : s.advance = some s') : RunInvariant ctx s' := by
  unfold SchedulerState.advance at hstep
  split at hstep
  · next now pending job turn htick =>
      have hready := h.tick
      rw [htick] at hready
      split at hstep
      · cases hstep
        exact h.same ⟨rfl, rfl, rfl, rfl, rfl, rfl⟩ trivial
      · cases hstep
        refine h.same ⟨rfl, rfl, rfl, rfl, rfl, rfl⟩ ?_
        dsimp only
        split
        · trivial
        · next hmiss =>
            exact hready (Option.not_isSome_iff_eq_none.mp hmiss)
  · cases hstep

/-- A run that has just been started. -/
def startedRun (job : Job) : ProbeRun := ⟨job.assignment, job.nextDue, .probing⟩

theorem countRuns_started {runs : List ProbeRun} {job : Job} {id : String} :
    countRuns (runs ++ [startedRun job]) id marked =
      countRuns runs id marked + if id = job.monitorId then 1 else 0 := by
  unfold countRuns
  rw [List.countP_append, List.countP_singleton]
  congr 1
  by_cases hid : id = job.monitorId
  · rw [if_pos hid, hid]
    refine if_pos ?_
    rw [show (startedRun job).monitorId = job.monitorId from rfl, beq_self_eq_true]
    rfl
  · rw [if_neg hid]
    refine if_neg ?_
    rw [show (startedRun job).monitorId = job.monitorId from rfl,
      beq_eq_false_iff_ne.mpr fun h => hid h.symm]
    exact Bool.false_ne_true

/-- A new run has not sent anything. -/
theorem hasSent_started {runs : List ProbeRun} {job : Job} (i : ℕ) :
    ((runs ++ [startedRun job])[i]?.any fun r => hasSent r.phase) =
      runs[i]?.any fun r => hasSent r.phase := by
  rcases lt_trichotomy i runs.length with h | h | h
  · rw [List.getElem?_append_left h]
  · subst h
    rw [List.getElem?_concat_length, List.getElem?_eq_none le_rfl]
    rfl
  · rw [List.getElem?_eq_none (by rw [List.length_append]; exact h), List.getElem?_eq_none h.le]

theorem Originates.append {sha256 : List UInt8 → List UInt8}
    {runs : List ProbeRun} {e : ℕ × Execution} (h : Originates sha256 runs e)
    (more : List ProbeRun) : Originates sha256 (runs ++ more) e := by
  obtain ⟨r, hr, he⟩ := h
  exact ⟨r, (List.getElem?_append_left (List.getElem?_eq_some_iff.mp hr).1).trans
    hr, he⟩

/-- A start takes a free slot and sets a mark that was not set. -/
theorem RunInvariant.start {ctx : SchedulerContext} {s s' : SchedulerState}
    (h : RunInvariant ctx s) (hstep : s.start ctx = some s') : RunInvariant ctx s' := by
  unfold SchedulerState.start at hstep
  split at hstep
  · next now pending job htick =>
      have hready := h.tick
      rw [htick] at hready
      split_ifs at hstep with hfree
      cases hstep
      refine ⟨?_, hfree, fun id => ?_, trivial, fun i => ?_, fun r hr => ?_,
        h.valid, fun e he => (h.origin e he).append _, h.channel⟩
      · rw [List.countP_append, ← h.workers]
        rfl
      · show countRuns (s.runs ++ [startedRun job]) id marked =
          if Function.update s.running job.monitorId true id then 1 else 0
        rw [countRuns_started, h.running, Function.update_apply]
        by_cases hid : id = job.monitorId
        · rw [if_pos hid, if_pos hid, hid, hready.1]
          rfl
        · rw [if_neg hid, if_neg hid]
          rfl
      · show s.sent.countP _ = if ((s.runs ++ [startedRun job])[i]?.any _) then _ else _
        rw [hasSent_started, h.sent i]
      · rcases List.mem_append.mp hr with hr | hr
        · exact h.sending r hr
        · intro result hphase
          rw [List.mem_singleton.mp hr] at hphase
          cases hphase
  · cases hstep

/-! ## Events of a run

Each moves one run to its next phase. -/

section Moves

variable {runs : List ProbeRun} {i : ℕ} {r : ProbeRun} {phase : RunPhase}

theorem countP_move {p : ProbeRun → Bool} (h : runs[i]? = some r)
    (hp : p { r with phase := phase } = p r) :
    (setPhase runs i phase).countP p = runs.countP p := by
  have hcount : (setPhase runs i phase).countP p + _ = runs.countP p + _ :=
    countP_setPhase p h
  rw [hp] at hcount
  omega

theorem countRuns_move (h : runs[i]? = some r) (hp : marked phase = marked r.phase) (id : String) :
    countRuns (setPhase runs i phase) id marked = countRuns runs id marked := by
  refine countP_move h ?_
  show (r.monitorId == id && marked phase) = (r.monitorId == id && marked r.phase)
  rw [hp]

theorem hasSent_move (h : runs[i]? = some r) (hp : hasSent phase = hasSent r.phase) (j : ℕ) :
    ((setPhase runs i phase)[j]?.any fun r => hasSent r.phase) =
      runs[j]?.any fun r => hasSent r.phase := by
  rw [getElem?_setPhase]
  split_ifs with hij
  · rw [← hij, h]
    exact hp
  · rfl

theorem Originates.move {sha256 : List UInt8 → List UInt8} {e : ℕ × Execution}
    (h : Originates sha256 runs e) : Originates sha256 (setPhase runs i phase) e := by
  obtain ⟨r, hr, he⟩ := h
  rw [Originates, getElem?_setPhase]
  split_ifs
  · rw [hr]
    exact ⟨_, rfl, he⟩
  · exact ⟨r, hr, he⟩

/-- The results that are waiting to be sent validate. -/
def SendsValid (runs : List ProbeRun) : Prop :=
  ∀ r ∈ runs, ∀ result, r.phase = .sending result → result.validate = .ok ()

theorem SendsValid.move (h : SendsValid runs)
    (hvalid : ∀ result, phase = .sending result → result.validate = .ok ()) :
    SendsValid (setPhase runs i phase) := by
  intro r hr result hphase
  rcases mem_setPhase hr with hold | hnew
  · exact h r hold result hphase
  · exact hvalid result (hnew.symm.trans hphase)

end Moves

/-- A move that changes neither mark, slot nor what was sent. -/
theorem RunInvariant.move {ctx : SchedulerContext} {s : SchedulerState} {i : ℕ}
    {r : ProbeRun} {phase : RunPhase} (h : RunInvariant ctx s)
    (hr : s.runs[i]? = some r) (hmark : marked phase = marked r.phase)
    (hslot : holdsSlot phase = holdsSlot r.phase) (hsent : hasSent phase = hasSent r.phase)
    (hvalid : ∀ result, phase = .sending result → result.validate = .ok ()) :
    RunInvariant ctx { s with runs := setPhase s.runs i phase } := by
  refine ⟨?_, h.capacity, fun id => ?_, h.tick, fun j => ?_, ?_, h.valid,
    fun e he => (h.origin e he).move, h.channel⟩
  · rw [countP_move hr hslot]
    exact h.workers
  · rw [countRuns_move hr hmark]
    exact h.running id
  · rw [hasSent_move hr hsent]
    exact h.sent j
  · exact SendsValid.move h.sending hvalid

/-- A send adds the one execution that the run had not sent. -/
theorem RunInvariant.send {ctx : SchedulerContext} {s : SchedulerState} {i : ℕ}
    {r : ProbeRun} {result : Result} {e : Execution} (h : RunInvariant ctx s)
    (hr : s.runs[i]? = some r) (hphase : r.phase = .sending result)
    (he : e = runExecution ctx.sha256 r.assignment r.scheduledAt result) : RunInvariant ctx { s with
      results := s.results ++ [e]
      sent := s.sent ++ [(i, e)]
      runs := setPhase s.runs i .clearing } := by
  refine ⟨?_, h.capacity, fun id => ?_, h.tick, fun j => ?_, ?_,
    fun e' he' => ?_, fun e' he' => ?_, ?_⟩
  · rw [countP_move hr (by rw [hphase]; rfl)]
    exact h.workers
  · rw [countRuns_move hr (by rw [hphase]; rfl)]
    exact h.running id
  · rw [List.countP_append, List.countP_singleton, h.sent j, getElem?_setPhase]
    by_cases hij : i = j
    · subst hij
      rw [if_pos rfl, hr]
      simp [hphase, hasSent]
    · have hne : ((i, e).1 == j) = false := beq_eq_false_iff_ne.mpr hij
      rw [if_neg hij, hne]
      rfl
  · exact SendsValid.move h.sending fun _ h => by cases h
  · rcases List.mem_append.mp he' with hold | hnew
    · exact h.valid e' hold
    · rw [List.mem_singleton.mp hnew, he]
      exact h.sending r (List.mem_of_getElem? hr) result hphase
  · rcases List.mem_append.mp he' with hold | hnew
    · exact (h.origin e' hold).move
    · rw [List.mem_singleton.mp hnew]
      refine Originates.move ⟨r, hr, ?_⟩
      rw [he]
      rfl
  · rw [List.map_append, h.channel, List.append_assoc]
    rfl

/-- Clearing the mark of a run leaves none for its monitor. -/
theorem RunInvariant.clear {ctx : SchedulerContext} {s : SchedulerState} {i : ℕ}
    {r : ProbeRun} (h : RunInvariant ctx s) (hr : s.runs[i]? = some r)
    (hphase : r.phase = .clearing) : RunInvariant ctx { s with
      running := Function.update s.running r.monitorId false
      runs := setPhase s.runs i .releasing } := by
  refine ⟨?_, h.capacity, fun id => ?_, ?_, fun j => ?_, ?_, h.valid,
    fun e he => (h.origin e he).move, h.channel⟩
  · rw [countP_move hr (by rw [hphase]; rfl)]
    exact h.workers
  · have hcount : countRuns (setPhase s.runs i .releasing) id marked + _ =
        countRuns s.runs id marked + _ := countP_setPhase _ hr
    rw [h.running id, hphase, show ({ r with phase := .releasing } :
      ProbeRun).monitorId = r.monitorId from rfl] at hcount
    show _ = if Function.update s.running r.monitorId false id then 1 else 0
    rw [Function.update_apply]
    by_cases hid : id = r.monitorId
    · rw [if_pos hid]
      rw [hid, beq_self_eq_true] at hcount
      rw [hid]
      change _ + 1 = _ + 0 at hcount
      show countRuns (setPhase s.runs i .releasing) r.monitorId marked = 0
      split_ifs at hcount <;> omega
    · rw [if_neg hid]
      rw [beq_eq_false_iff_ne.mpr fun h => hid h.symm] at hcount
      exact hcount
  · refine h.tick.mono le_rfl fun id hid => ?_
    show Function.update s.running r.monitorId false id = false
    rw [Function.update_apply]
    split_ifs
    · rfl
    · exact hid
  · rw [hasSent_move hr (by rw [hphase]; rfl)]
    exact h.sent j
  · exact SendsValid.move h.sending fun _ h => by cases h

/-- Giving a slot back takes one token. -/
theorem RunInvariant.release {ctx : SchedulerContext} {s : SchedulerState}
    {i : ℕ} {r : ProbeRun} (h : RunInvariant ctx s) (hr : s.runs[i]? = some r)
    (hphase : r.phase = .releasing) : RunInvariant ctx { s with
      workers := s.workers - 1
      runs := setPhase s.runs i .closing } := by
  have hcap := h.capacity
  refine ⟨?_, ?_, fun id => ?_, ?_, fun j => ?_, ?_, h.valid,
    fun e he => (h.origin e he).move, h.channel⟩
  · have hcount : (setPhase s.runs i .closing).countP
        (fun r => holdsSlot r.phase) + _ = s.runs.countP _ + _ :=
      countP_setPhase _ hr
    rw [← h.workers, hphase] at hcount
    show s.workers - 1 = (setPhase s.runs i .closing).countP fun r => holdsSlot r.phase
    change _ + 1 = s.workers + 0 at hcount
    omega
  · show s.workers - 1 ≤ ctx.capacity
    omega
  · rw [countRuns_move hr (by rw [hphase]; rfl)]
    exact h.running id
  · exact h.tick.mono (Nat.sub_le _ _) fun _ hid => hid
  · rw [hasSent_move hr (by rw [hphase]; rfl)]
    exact h.sent j
  · exact SendsValid.move h.sending fun _ h => by cases h

/-! ## Whole runs -/

theorem RunInvariant.receive {ctx : SchedulerContext} {s : SchedulerState}
    {e : Execution} {rest : List Execution} (h : RunInvariant ctx s)
    (hresults : s.results = e :: rest) : RunInvariant ctx { s with
      results := rest
      received := s.received ++ [e] } := by
  refine { h with channel := ?_ }
  rw [h.channel, hresults, List.append_assoc]
  rfl

theorem step_runInvariant {ctx : SchedulerContext} {s s' : SchedulerState}
    {event : SchedulerEvent} (h : RunInvariant ctx s)
    (hstep : s.step ctx event = some s') : RunInvariant ctx s' := by
  cases event with
  | tickBegin now =>
    dsimp only [SchedulerState.step] at hstep
    split at hstep
    · cases hstep
      exact h.same ⟨rfl, rfl, rfl, rfl, rfl, rfl⟩ trivial
    · cases hstep
  | tickVisit monitorId => exact h.visit hstep
  | tickAdvance => exact h.advance hstep
  | tickStart => exact h.start hstep
  | tickEnd =>
    dsimp only [SchedulerState.step] at hstep
    split at hstep
    · cases hstep
      exact h.same ⟨rfl, rfl, rfl, rfl, rfl, rfl⟩ trivial
    · cases hstep
  | reconcileBegin assignments now =>
    dsimp only [SchedulerState.step] at hstep
    split at hstep
    · cases hstep
      exact h.same ⟨rfl, rfl, rfl, rfl, rfl, rfl⟩ h.tick
    · cases hstep
      exact h
    · cases hstep
  | reconcileRestore monitorId =>
    dsimp only [SchedulerState.step, SchedulerState.restore] at hstep
    split at hstep
    · split at hstep
      · split at hstep
        · cases hstep
          exact h.same ⟨rfl, rfl, rfl, rfl, rfl, rfl⟩ h.tick
        · cases hstep
          exact h.same ⟨rfl, rfl, rfl, rfl, rfl, rfl⟩ h.tick
      · cases hstep
    · cases hstep
  | reconcileRemove =>
    dsimp only [SchedulerState.step] at hstep
    split at hstep
    · cases hstep
      exact h.same ⟨rfl, rfl, rfl, rfl, rfl, rfl⟩ h.tick
    · cases hstep
  | reconcileSwap =>
    dsimp only [SchedulerState.step] at hstep
    split at hstep
    · cases hstep
      exact h.same ⟨rfl, rfl, rfl, rfl, rfl, rfl⟩ h.tick
    · cases hstep
  | probeEnd i outcome startedAt finishedAt now =>
    dsimp only [SchedulerState.step] at hstep
    split at hstep
    · next hr =>
        cases hstep
        refine h.move hr rfl rfl rfl fun result hphase => ?_
        cases hphase
        exact checkedResult_valid _ now
    · cases hstep
  | resultSend i =>
    dsimp only [SchedulerState.step] at hstep
    split at hstep
    · next hr =>
        split_ifs at hstep
        cases hstep
        exact h.send hr rfl rfl
    · cases hstep
  | runningClear i =>
    dsimp only [SchedulerState.step] at hstep
    split at hstep
    · next hr _ =>
        cases hstep
        exact h.clear hr rfl
    · cases hstep
  | workerRelease i =>
    dsimp only [SchedulerState.step] at hstep
    split at hstep
    · next hr =>
        split_ifs at hstep
        cases hstep
        exact h.release hr rfl
    · cases hstep
  | runDone i =>
    dsimp only [SchedulerState.step] at hstep
    split at hstep
    · next hr =>
        cases hstep
        exact h.move hr rfl rfl rfl fun _ h => by cases h
    · cases hstep
  | resultReceive =>
    dsimp only [SchedulerState.step] at hstep
    split at hstep
    · next hresults =>
        cases hstep
        exact h.receive hresults
    · cases hstep

/-- The invariant holds after every sequence of events. -/
theorem runEvents_runInvariant {ctx : SchedulerContext}
    {events : List SchedulerEvent} {s s' : SchedulerState}
    (h : RunInvariant ctx s) (hrun : runEvents ctx events s = some s') : RunInvariant ctx s' := by
  induction events generalizing s with
  | nil =>
    rw [runEvents] at hrun
    cases hrun
    exact h
  | cons event events ih =>
    rw [runEvents, Option.bind_eq_some_iff] at hrun
    obtain ⟨s₁, hstep, hrest⟩ := hrun
    exact ih (step_runInvariant h hstep) hrest

theorem countRuns_mono {runs : List ProbeRun} {id : String} {phases phases' : RunPhase → Bool}
    (h : ∀ p, phases p = true → phases' p = true) :
    countRuns runs id phases ≤ countRuns runs id phases' := by
  refine List.countP_mono_left fun r _ hr => ?_
  rw [Bool.and_eq_true] at hr ⊢
  exact ⟨hr.1, h _ hr.2⟩

theorem RunInvariant.inFlight_le_one {ctx : SchedulerContext}
    {s : SchedulerState} (h : RunInvariant ctx s) (id : String) :
    countRuns s.runs id inFlight ≤ 1 := by
  have hmono : countRuns s.runs id inFlight ≤ countRuns s.runs id marked :=
    countRuns_mono fun p => marked_of_inFlight
  have hmarked := h.running id
  split_ifs at hmarked <;> omega

theorem RunInvariant.start_ready {ctx : SchedulerContext} {s : SchedulerState}
    (h : RunInvariant ctx s) {now : ℤ} {pending : List String} {job : Job}
    (htick : s.tick = .starting now pending job) : (s.start ctx).isSome := by
  have hready := h.tick
  rw [htick] at hready
  unfold SchedulerState.start
  rw [htick]
  dsimp only
  rw [if_pos hready.2]
  rfl

theorem RunInvariant.sent_once {ctx : SchedulerContext} {s : SchedulerState}
    (h : RunInvariant ctx s) {i : ℕ} {r : ProbeRun}
    (hr : s.runs[i]? = some r) (hended : r.phase = .ended) :
    ∃ result, s.sent.filter (fun e => e.1 == i) =
        [(i, runExecution ctx.sha256 r.assignment r.scheduledAt result)] ∧
      result.validate = .ok () := by
  have hcount := h.sent i
  rw [hr, Option.any_some, hended, if_pos (show hasSent .ended = true from rfl),
    List.countP_eq_length_filter, List.length_eq_one_iff] at hcount
  obtain ⟨e, he⟩ := hcount
  have hfilter : e ∈ s.sent.filter fun e => e.1 == i := by
    rw [he]
    exact List.mem_singleton_self e
  obtain ⟨hmem, hindex⟩ := List.mem_filter.mp hfilter
  obtain ⟨r', hr', hexecution⟩ := h.origin e hmem
  obtain rfl : e.1 = i := beq_iff_eq.mp hindex
  obtain rfl : r = r' := Option.some.inj (hr.symm.trans hr')
  refine ⟨e.2.result, ?_, h.valid e hmem⟩
  rw [he, ← hexecution]

/-- After every interleaving: no monitor has two runs between start and send;
the runs that hold a slot are at most as many as the configured maximum; a
`Tick` at its send is not blocked; and every run that has ended has sent one
execution, with a result that validates. -/
theorem runs_bounded {ctx : SchedulerContext} {rows : ScheduleRows}
    {events : List SchedulerEvent} {s : SchedulerState}
    (hrun : runEvents ctx events (newScheduler rows) = some s) :
    (∀ id, countRuns s.runs id inFlight ≤ 1) ∧
      s.runs.countP (fun r => holdsSlot r.phase) ≤ ctx.capacity ∧
      (∀ now pending job, s.tick = .starting now pending job → (s.start ctx).isSome) ∧
      ∀ i r, s.runs[i]? = some r → r.phase = .ended → ∃ result, s.sent.filter (fun e => e.1 == i) =
            [(i, runExecution ctx.sha256 r.assignment r.scheduledAt result)] ∧
          result.validate = .ok () := by
  have h := runEvents_runInvariant (newScheduler_invariant ctx rows) hrun
  refine ⟨h.inFlight_le_one, ?_, fun _ _ _ => h.start_ready, fun _ _ => h.sent_once⟩
  rw [← h.workers]
  exact h.capacity

/-! ## Two monitors and one worker

The first run has given its slot back and is about to leave; the second run
has been started in its place. Both goroutines exist. -/

def noonTime : ClockTime := ⟨43200 * second, by decide⟩

/-- Install the assignments at the given time. -/
def installEvents (assignments : List Assignment) (now : ℤ) : List SchedulerEvent :=
  .reconcileBegin assignments now :: (assignments.map fun a => .reconcileRestore a.monitorId) ++
      [.reconcileRemove, .reconcileSwap]

/-- Start the run of a monitor that is due, with a free worker. -/
def startEvents (monitorId : String) : List SchedulerEvent :=
  [.tickVisit monitorId, .tickAdvance, .tickStart]

/-- The first run starts, while the other monitor is missed; it ends up to its
last deferred call; the other monitor is started a minute later. -/
def handoverEvents : List SchedulerEvent :=
  installEvents [soloAssignment "first" 1, soloAssignment "second" 1] 0 ++
    [.tickBegin 0] ++ startEvents "first" ++ [.tickVisit "second", .tickAdvance, .tickEnd,
      .probeEnd 0 .panicked noonTime noonTime noonTime, .resultSend 0,
      .runningClear 0, .workerRelease 0, .tickBegin (60 * second)] ++ startEvents "second"

theorem runs_bounded_handover : ∃ s,
    runEvents soloContext handoverEvents (newScheduler fun _ => none) = some s ∧
      countRuns s.runs "second" inFlight ≤ 1 ∧ s.runs.countP (fun r => holdsSlot r.phase) ≤ 1 := by
  have hsome : (runEvents soloContext handoverEvents
      (newScheduler fun _ => none)).isSome := by
    decide +kernel
  obtain ⟨s, hs⟩ := Option.isSome_iff_exists.mp hsome
  obtain ⟨hflight, hslots, _⟩ := runs_bounded hs
  exact ⟨s, hs, hflight "second", hslots⟩

/-- More goroutines exist than the configured maximum. -/
theorem handover_two_live : (runEvents soloContext handoverEvents (newScheduler fun _ => none)).map
        (fun s => s.runs.countP fun r => isLive r.phase) = some 2 ∧ soloContext.capacity = 1 := by
  decide +kernel

end Bifrostnms.Proofs
