import Bifrostnms.Proofs.MonitorRevision

/-!
# What an update that fails has done

An update saves the new behavior and bumps the agents before it writes the new name, and
nothing takes this back. So a request that has changed something must not fail any more.
It does if another monitor was given the name after the request had looked for it
(`failed_update_applied`), or if the database does not answer. `Completes` says this of a
statement and the tables before it; exactly in the runs in which all statements are so has
no failed request changed a monitor or a desired revision (`failed_updates_iff`).
-/

namespace Bifrostnms.Proofs

open Bifrostnms.Lib Bifrostnms.Backend

variable {ctx : DomainContext}

/-- The monitors and the desired revisions are the same. -/
structure SameMonitors (s s' : NamedMonitors) : Prop where
  rows : s'.tables.monitors.rows = s.tables.monitors.rows
  names : s'.names = s.names
  descriptions : s'.descriptions = s.descriptions
  desired : ∀ agentId, (s'.tables.configurations agentId).state.desiredRevision =
    (s.tables.configurations agentId).state.desiredRevision

theorem SameMonitors.refl (s : NamedMonitors) : SameMonitors s s :=
  ⟨rfl, rfl, rfl, fun _ => rfl⟩

/-! ## Requests with a record -/

/-- The traffic, with a record of the requests that have changed a monitor or a desired
revision. No statement reads it. -/
structure RecordedTraffic where
  traffic : UpdateTraffic
  changed : ℕ → Prop

/-- No request is in progress. -/
def RecordedTraffic.start (monitors : NamedMonitors) : RecordedTraffic where
  traffic := { monitors := monitors }
  changed _ := False

/-- The event is a statement of the request. -/
def statementOf (i : ℕ) : ManagementEvent → Bool
  | .statement index _ => index = i
  | _ => false

def RecordedTraffic.step (ctx : DomainContext) (s : RecordedTraffic) (event : ManagementEvent) :
    Option RecordedTraffic :=
  (s.traffic.serve ctx event).map fun traffic =>
    { traffic := traffic
      changed := fun i => s.changed i ∨
        statementOf i event = true ∧ ¬ SameMonitors s.traffic.monitors traffic.monitors }

/-- The response is an error. -/
def failed : UpdatePhase → Bool
  | .returned (.httpError _ _) => true
  | _ => false

/-- No request that has failed has changed anything. -/
def Untouched (s : RecordedTraffic) : Prop :=
  ∀ (i : ℕ) (update : MonitorUpdate) (phase : UpdatePhase),
    s.traffic.requests[i]? = some (update, phase) → failed phase = true → ¬ s.changed i

/-- What a request needs from the tables once it may have changed something. -/
def Succeeds (ctx : DomainContext) (update : MonitorUpdate) (s : NamedMonitors) : UpdatePhase → Prop
  | .rename monitor =>
    s.taken monitor.row.realmId monitor.row.id (update.strippedName ctx) = false
  | .refresh monitor => (s.tables.monitors.find? monitor.row.id).isSome = true
  | _ => True

/-- A request that has changed something is answered: its name is free, and its monitor
exists. No statement that changes something is executed without an answer. -/
def Completes (ctx : DomainContext) (s : RecordedTraffic) : ManagementEvent → Prop
  | .statement index fate => ∀ update phase, s.traffic.requests[index]? = some (update, phase) →
        (s.changed index → fate = .answered ∧ Succeeds ctx update s.traffic.monitors phase) ∧
        (fate = .answerLost →
          SameMonitors s.traffic.monitors (update.step ctx s.traffic.monitors phase).2)
  | _ => True

/-! ## One statement -/

/-- The request has only read. -/
def reading : UpdatePhase → Bool
  | .selectMonitor | .selectTarget _ | .checkName _ _ => true
  | _ => false

section Statements

variable {update : MonitorUpdate} {s : NamedMonitors} {phase : UpdatePhase}

theorem failed_nextBehavior (monitor : SelectedMonitor) (call : DomainCall) :
    failed (update.nextBehavior ctx monitor call) = false := by
  unfold MonitorUpdate.nextBehavior MonitorUpdate.afterBehavior
  split
  · split <;> rfl
  · rfl

theorem reading_nextBehavior (monitor : SelectedMonitor) (call : DomainCall) :
    reading (update.nextBehavior ctx monitor call) = false := by
  unfold MonitorUpdate.nextBehavior MonitorUpdate.afterBehavior
  split
  · split <;> rfl
  · rfl

/-- The first statements are queries. -/
theorem step_reading (h : reading phase = true) : (update.step ctx s phase).2 = s := by
  cases phase with
  | selectMonitor =>
    rw [MonitorUpdate.step]
    split <;> rfl
  | selectTarget monitor =>
    rw [MonitorUpdate.step]
    split <;> rfl
  | checkName monitor target =>
    rw [MonitorUpdate.step]
    split
    · rfl
    · split <;> rfl
  | _ => cases h

/-- The later statements fail only where something is missing, and change nothing then. -/
theorem step_failed (h : reading phase = false) (hended : phase.ended = false) :
    (failed (update.step ctx s phase).1 = true ↔ ¬ Succeeds ctx update s phase) ∧
      (failed (update.step ctx s phase).1 = true → (update.step ctx s phase).2 = s) := by
  cases phase with
  | behavior monitor call =>
    have hnone : failed (update.step ctx s (.behavior monitor call)).1 = false :=
      failed_nextBehavior monitor _
    rw [hnone]
    exact ⟨⟨Bool.noConfusion, fun hnot => absurd trivial hnot⟩, Bool.noConfusion⟩
  | rename monitor =>
    rw [MonitorUpdate.step, Succeeds]
    split
    · next htaken => exact ⟨iff_of_true rfl (by simp [htaken]), fun _ => rfl⟩
    · next hfree => exact ⟨iff_of_false Bool.noConfusion (by simpa using hfree), Bool.noConfusion⟩
  | refresh monitor =>
    rw [MonitorUpdate.step, Succeeds]
    split
    · next row hfind => exact ⟨iff_of_false Bool.noConfusion (by simp [hfind]), Bool.noConfusion⟩
    · next hfind => exact ⟨iff_of_true rfl (by simp [hfind]), fun _ => rfl⟩
  | returned outcome => cases hended
  | _ => cases h

/-- A request that fails by an answer of the database changes nothing with it. -/
theorem step_failed_same (hended : phase.ended = false)
    (hfailed : failed (update.step ctx s phase).1 = true) :
    SameMonitors s (update.step ctx s phase).2 := by
  cases hreading : reading phase with
  | true =>
    rw [step_reading hreading]
    exact .refl s
  | false =>
    rw [(step_failed hreading hended).2 hfailed]
    exact .refl s

theorem reading_step (h : reading phase = false) (hended : phase.ended = false) :
    reading (update.step ctx s phase).1 = false := by
  cases phase with
  | behavior monitor call => exact reading_nextBehavior monitor _
  | rename monitor =>
    rw [MonitorUpdate.step]
    split <;> rfl
  | refresh monitor =>
    rw [MonitorUpdate.step]
    split <;> rfl
  | returned outcome => cases hended
  | _ => cases h

/-- A request fails with nothing changed exactly if, once it has changed something, it is
answered and succeeds, and no change is left without an answer. -/
theorem attempt_failed {changed : Prop} (hended : phase.ended = false)
    (hchanged : changed → reading phase = false) (fate : StatementFate) :
    (failed (update.attempt ctx s fate phase).1 = true →
      ¬ changed ∧ SameMonitors s (update.attempt ctx s fate phase).2) ↔
    (changed → fate = .answered ∧ Succeeds ctx update s phase) ∧
      (fate = .answerLost → SameMonitors s (update.step ctx s phase).2) := by
  cases fate with
  | answered =>
    constructor
    · intro h
      refine ⟨fun hc => ⟨rfl, ?_⟩, StatementFate.noConfusion⟩
      by_contra hnot
      exact (h ((step_failed (hchanged hc) hended).1.mpr hnot)).1 hc
    · rintro ⟨h, -⟩ hfailed
      refine ⟨fun hc => ?_, step_failed_same hended hfailed⟩
      exact (step_failed (hchanged hc) hended).1.mp hfailed (h hc).2
  | notExecuted =>
    constructor
    · intro h
      exact ⟨fun hc => absurd hc (h rfl).1, StatementFate.noConfusion⟩
    · rintro ⟨h, -⟩ -
      exact ⟨fun hc => StatementFate.noConfusion (h hc).1, .refl s⟩
  | answerLost =>
    constructor
    · intro h
      exact ⟨fun hc => absurd hc (h rfl).1, fun _ => (h rfl).2⟩
    · rintro ⟨h, hsame⟩ -
      exact ⟨fun hc => StatementFate.noConfusion (h hc).1, hsame rfl⟩

end Statements

/-! ## Runs -/

theorem serve_statement {s s' : UpdateTraffic} {index : ℕ} {fate : StatementFate}
    (h : s.serve ctx (.statement index fate) = some s') :
    ∃ update phase, s.requests[index]? = some (update, phase) ∧ phase.ended = false ∧
      s' = ⟨(update.attempt ctx s.monitors fate phase).2,
        s.requests.set index (update, (update.attempt ctx s.monitors fate phase).1)⟩ := by
  rw [UpdateTraffic.serve] at h
  split at h
  · cases h
  · next update phase hrequest =>
      split at h
      · cases h
      · next hended =>
          exact ⟨update, phase, hrequest, eq_false_of_ne_true hended, (Option.some.inj h).symm⟩

/-- A request that has changed something has read what it needs. -/
def ReadFirst (s : RecordedTraffic) : Prop :=
  ∀ i, s.changed i → ∃ update phase,
    s.traffic.requests[i]? = some (update, phase) ∧ reading phase = false

theorem reading_attempt {update : MonitorUpdate} {s : NamedMonitors} {phase : UpdatePhase}
    {fate : StatementFate} (hended : phase.ended = false)
    (h : reading phase = false ∨ ¬ SameMonitors s (update.attempt ctx s fate phase).2) :
    reading (update.attempt ctx s fate phase).1 = false := by
  cases fate with
  | answered =>
    cases hreading : reading phase with
    | false => exact reading_step hreading hended
    | true =>
      refine absurd ?_ (h.resolve_left (by simp [hreading]))
      show SameMonitors s (update.step ctx s phase).2
      rw [step_reading hreading]
      exact .refl s
  | notExecuted => rfl
  | answerLost => rfl

theorem readFirst_step {s s' : RecordedTraffic} {event : ManagementEvent} (h : ReadFirst s)
    (hstep : s.step ctx event = some s') : ReadFirst s' := by
  obtain ⟨traffic, hserve, rfl⟩ := Option.map_eq_some_iff.mp hstep
  intro i hi
  cases event with
  | request update =>
    cases hserve
    obtain ⟨old, phase, hold, hreading⟩ := h i (hi.resolve_right fun hnew => by cases hnew.1)
    refine ⟨old, phase, ?_, hreading⟩
    rw [List.getElem?_append_left (List.getElem?_eq_some_iff.mp hold).1]
    exact hold
  | elsewhere monitors =>
    cases hserve
    exact h i (hi.resolve_right fun hnew => by cases hnew.1)
  | statement index fate =>
    obtain ⟨update, phase, hrequest, hended, rfl⟩ := serve_statement hserve
    have hindex := (List.getElem?_eq_some_iff.mp hrequest).1
    by_cases hi' : i = index
    · subst hi'
      refine ⟨update, _, List.getElem?_set_self hindex, reading_attempt hended ?_⟩
      rcases hi with hold | hnew
      · obtain ⟨old, phase', hold, hreading⟩ := h i hold
        rw [hrequest, Option.some.injEq, Prod.mk.injEq] at hold
        exact .inl (hold.2 ▸ hreading)
      · exact .inr hnew.2
    · have hold := hi.resolve_right fun hnew => hi' (of_decide_eq_true hnew.1).symm
      obtain ⟨old, phase', hold, hreading⟩ := h i hold
      exact ⟨old, phase', by rw [List.getElem?_set_ne (Ne.symm hi')]; exact hold, hreading⟩

theorem completes_statement {s : RecordedTraffic} {index : ℕ} {update : MonitorUpdate}
    {phase : UpdatePhase} (h : ReadFirst s)
    (hrequest : s.traffic.requests[index]? = some (update, phase))
    (hended : phase.ended = false) (fate : StatementFate) :
    Completes ctx s (.statement index fate) ↔
      (failed (update.attempt ctx s.traffic.monitors fate phase).1 = true →
        ¬ s.changed index ∧ SameMonitors s.traffic.monitors
          (update.attempt ctx s.traffic.monitors fate phase).2) := by
  have hchanged : s.changed index → reading phase = false := by
    intro hi
    obtain ⟨old, phase', hold, hreading⟩ := h index hi
    rw [hrequest, Option.some.injEq, Prod.mk.injEq] at hold
    exact hold.2 ▸ hreading
  rw [attempt_failed hended hchanged fate, Completes]
  constructor
  · intro hall
    exact hall update phase hrequest
  · intro hone update' phase' hrequest'
    rw [hrequest, Option.some.injEq, Prod.mk.injEq] at hrequest'
    obtain ⟨rfl, rfl⟩ := hrequest'
    exact hone

/-- One event: no failed request has changed anything, if none had and this one completes
what it has begun. -/
theorem untouched_step {s s' : RecordedTraffic} {event : ManagementEvent} (h : ReadFirst s)
    (hstep : s.step ctx event = some s') : Untouched s' ↔ Untouched s ∧ Completes ctx s event := by
  obtain ⟨traffic, hserve, rfl⟩ := Option.map_eq_some_iff.mp hstep
  cases event with
  | request update =>
    cases hserve
    constructor
    · refine fun huntouched => ⟨fun i old phase hold hfailed hi => ?_, trivial⟩
      refine huntouched i old phase ?_ hfailed (.inl hi)
      rw [List.getElem?_append_left (List.getElem?_eq_some_iff.mp hold).1]
      exact hold
    · rintro ⟨huntouched, -⟩ i old phase hold hfailed hi
      have hi := hi.resolve_right fun hnew => Bool.noConfusion hnew.1
      obtain ⟨old', phase', hold', -⟩ := h i hi
      rw [List.getElem?_append_left (List.getElem?_eq_some_iff.mp hold').1] at hold
      exact huntouched i old phase hold hfailed hi
  | elsewhere monitors =>
    cases hserve
    constructor
    · intro huntouched
      exact ⟨fun i old phase hold hfailed hi => huntouched i old phase hold hfailed (.inl hi),
        trivial⟩
    · rintro ⟨huntouched, -⟩ i old phase hold hfailed hi
      exact huntouched i old phase hold hfailed
        (hi.resolve_right fun hnew => Bool.noConfusion hnew.1)
  | statement index fate =>
    obtain ⟨update, phase, hrequest, hended, rfl⟩ := serve_statement hserve
    have hindex := (List.getElem?_eq_some_iff.mp hrequest).1
    have hpending : failed phase = false := by
      cases phase <;> first | rfl | cases hended
    rw [completes_statement h hrequest hended]
    constructor
    · intro huntouched
      refine ⟨fun i old phase' hold hfailed hi => ?_, fun hfailed => ?_⟩
      · by_cases hi' : i = index
        · subst hi'
          rw [hrequest, Option.some.injEq, Prod.mk.injEq] at hold
          rw [← hold.2, hpending] at hfailed
          exact Bool.noConfusion hfailed
        · refine huntouched i old phase' ?_ hfailed (.inl hi)
          rw [List.getElem?_set_ne (Ne.symm hi')]
          exact hold
      · have hnot := huntouched index _ _ (List.getElem?_set_self hindex) hfailed
        refine ⟨fun hi => hnot (.inl hi), ?_⟩
        by_contra hsame
        exact hnot (.inr ⟨decide_eq_true rfl, hsame⟩)
    · rintro ⟨huntouched, hone⟩ i old phase' hold hfailed hi
      rcases getElem?_set_cases hold with ⟨rfl, heq⟩ | ⟨hi', hold⟩
      · obtain ⟨-, rfl⟩ := Prod.mk.inj heq
        obtain ⟨hnot, hsame⟩ := hone hfailed
        exact hi.elim hnot fun hnew => hnew.2 hsame
      · exact huntouched i old phase' hold hfailed
          (hi.resolve_right fun hnew => hi' (of_decide_eq_true hnew.1).symm)

/-- Requests that take turns, with a database that may fail and other requests in between:
no request that has failed has changed a monitor or a desired revision exactly if every
statement completes what its request has begun. -/
theorem failed_updates_iff (ctx : DomainContext) (monitors : NamedMonitors)
    {events : List ManagementEvent} {s : RecordedTraffic}
    (hrun : runSteps (RecordedTraffic.step ctx) events (.start monitors) = some s) : Untouched s ↔
      Meets (RecordedTraffic.step ctx) (Completes ctx) events (.start monitors) := by
  have hfirst : ReadFirst (.start monitors) := fun i hi => hi.elim
  have huntouched : Untouched (.start monitors) := fun i _ _ _ _ hi => hi
  rw [runSteps_iff_meets readFirst_step untouched_step hfirst hrun]
  exact and_iff_right huntouched

/-! ## A late conflict -/

/-- The site with a second monitor and a name for each; the agent runs the first one. -/
def twoMonitors : NamedMonitors where
  tables := { site with
    monitors := site.monitors.insert { siteMonitor with id := .ofByte 5 }
    assignments := Table.insert {} ⟨.ofByte 9, .ofByte 4, .ofByte 1, true⟩ }
  names id := if id = .ofByte 4 then "first" else "second"

/-- An update of one of the two monitors. -/
def namedUpdate (monitorId : Uuid) (name : String) (intervalSeconds : ℤ) : MonitorUpdate :=
  { siteUpdate intervalSeconds with monitorId := monitorId, name := name }

def answeredStatements (index count : ℕ) : List ManagementEvent :=
  List.replicate count (.statement index .answered)

/-- The first monitor is to have a new interval and a new name. Once the request has found
the name to be free, another request gives it to the second monitor. -/
def beforeSave : List ManagementEvent :=
  [.request (namedUpdate (.ofByte 4) "edge" 60), .request (namedUpdate (.ofByte 5) "edge" 30)] ++
    answeredStatements 0 3 ++ answeredStatements 1 5

/-- Which of the requests have failed. -/
def RecordedTraffic.failures (s : RecordedTraffic) : List Bool :=
  s.traffic.requests.map fun request => failed request.2

/-- The revision of the first monitor and the desired revision of the agent. -/
def RecordedTraffic.revisions (s : RecordedTraffic) : Option ℤ × ℤ :=
  ((s.traffic.monitors.tables.monitors.find? (.ofByte 4)).map MonitorRow.revision,
    (s.traffic.monitors.tables.configurations (.ofByte 1)).state.desiredRevision)

theorem changed_runSteps {events : List ManagementEvent} {s s' : RecordedTraffic} {i : ℕ}
    (h : s.changed i) (hrun : runSteps (RecordedTraffic.step ctx) events s = some s') :
    s'.changed i := by
  refine runSteps_preserves (P := fun u => u.changed i) ?_ h hrun
  intro u event u' hu hstep
  obtain ⟨traffic, -, rfl⟩ := Option.map_eq_some_iff.mp hstep
  exact .inl hu

/-- The new behavior is saved and the agent is bumped; then the name is taken, and the
response is an error. -/
theorem failed_update_applied : ∃ t s,
    runSteps (RecordedTraffic.step siteContext) beforeSave (.start twoMonitors) = some t ∧
    runSteps (RecordedTraffic.step siteContext) (answeredStatements 0 4) t = some s ∧
    s.failures = [true, false] ∧ t.revisions = (some 1, 0) ∧ s.revisions = (some 2, 1) ∧
    ¬ Untouched s := by
  have hcheck : ((runSteps (RecordedTraffic.step siteContext) beforeSave
      (.start twoMonitors)).any fun t =>
        (t.step siteContext (.statement 0 .answered)).any fun u =>
          (runSteps (RecordedTraffic.step siteContext) (answeredStatements 0 3) u).any fun s =>
            decide (s.failures = [true, false] ∧ t.revisions = (some 1, 0) ∧
              u.revisions = (some 2, 0) ∧ s.revisions = (some 2, 1))) = true := by
    decide +kernel
  simp only [Option.any_eq_true, decide_eq_true_eq] at hcheck
  obtain ⟨t, ht, u, hu, s, hs, hfailures, hbefore, hsaved, hafter⟩ := hcheck
  have hchanged : u.changed 0 := by
    obtain ⟨traffic, -, rfl⟩ := Option.map_eq_some_iff.mp hu
    refine .inr ⟨rfl, fun hsame => ?_⟩
    have hrows : traffic.monitors.tables.monitors.find? (.ofByte 4) =
        t.traffic.monitors.tables.monitors.find? (.ofByte 4) := by
      unfold Table.find?
      rw [hsame.rows]
    have hrevision := congrArg Prod.fst hsaved
    have hold := congrArg Prod.fst hbefore
    simp only [RecordedTraffic.revisions] at hrevision hold
    rw [hrows, hold] at hrevision
    cases hrevision
  refine ⟨t, s, ht, runSteps_cons.mpr ⟨u, hu, hs⟩, hfailures, hbefore, hafter, ?_⟩
  intro huntouched
  obtain ⟨request, rest, hrequests, hfailed, -⟩ := List.map_eq_cons_iff.mp hfailures
  exact huntouched 0 request.1 request.2 (by rw [hrequests]; rfl) hfailed
    (changed_runSteps hchanged hs)

/-- The first monitor alone is updated and renamed. -/
def wholeUpdate : List ManagementEvent :=
  .request (namedUpdate (.ofByte 4) "edge" 60) :: answeredStatements 0 8

/-- A request that succeeds completes what it has begun. -/
theorem failed_updates_none : ∃ s,
    runSteps (RecordedTraffic.step siteContext) wholeUpdate (.start twoMonitors) = some s ∧
    s.revisions = (some 2, 1) ∧
    Meets (RecordedTraffic.step siteContext) (Completes siteContext) wholeUpdate
      (.start twoMonitors) := by
  have hcheck : ((runSteps (RecordedTraffic.step siteContext) wholeUpdate
      (.start twoMonitors)).any fun s =>
        decide (s.failures = [false] ∧ s.revisions = (some 2, 1))) = true := by
    decide +kernel
  simp only [Option.any_eq_true, decide_eq_true_eq] at hcheck
  obtain ⟨s, hrun, hfailures, hrevisions⟩ := hcheck
  refine ⟨s, hrun, hrevisions, (failed_updates_iff siteContext twoMonitors hrun).mp ?_⟩
  intro i update phase hrequest hfailed
  have hmem : failed phase ∈ s.failures :=
    List.mem_map.mpr ⟨(update, phase), List.mem_of_getElem? hrequest, rfl⟩
  rw [hfailures, List.mem_singleton, hfailed] at hmem
  cases hmem

end Bifrostnms.Proofs
