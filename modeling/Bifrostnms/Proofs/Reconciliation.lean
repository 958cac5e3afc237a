import Bifrostnms.Proofs.Workers
import Bifrostnms.Proofs.Scheduler

/-!
# Tick against Reconcile

`Reconcile` writes the rows of the new jobs while `Tick` still works with the
old ones. A `Tick` that advances a row the other has already restored either
finds other revisions there and fails, or moves a due time of which the new
job has an old copy, so that the same run is started again once the jobs are
replaced. Both happen; the last section shows them.

Where `Tick` stays away from the rows that `Reconcile` has been at, neither
can. Then every job, old or restored, agrees with its row, and no row falls
behind the times that were handed out: advancing a row and catching it up move
it forward. Only a row that is created anew, for a monitor that was started
before, has to be ahead of them by itself.
-/

namespace Bifrostnms.Proofs

open Bifrostnms.Lib Bifrostnms.Agent

/-! ## The condition -/

/-- The rows that the current `Reconcile` has restored or removed. -/
def Touched : ReconcilePhase → String → Prop
  | .idle, _ => False
  | .restoring _ _ restored, id => id ∈ restored.map Job.monitorId
  | .swapping _, _ => True

/-- The times that were handed out: those of the runs, and the one that `Tick`
is about to start. -/
def begun (s : SchedulerState) : List (String × ℤ) :=
  s.runs.map ProbeRun.key ++ match s.tick with
    | .starting _ _ job => [(job.monitorId, job.nextDue)]
    | _ => []

/-- `Tick` does not advance a row that `Reconcile` has been at, and a row that
starts anew is due after every time that was handed out for its monitor. -/
def Careful (s : SchedulerState) : SchedulerEvent → Prop
  | .tickAdvance =>
    match s.tick with
    | .advancing _ _ job _ => ¬ Touched s.reconcile job.monitorId
    | _ => True
  | .reconcileRestore id =>
    match s.reconcile with
    | .restoring _ todo _ =>
      match findJob todo id with
      | some job => Resets s.rows job → ∀ p ∈ begun s, p.1 = id → p.2 < job.nextDue
      | none => True
    | _ => True
  | _ => True

/-- Every event of the sequence is careful where it happens. -/
def CarefulRun (ctx : SchedulerContext) : List SchedulerEvent → SchedulerState → Prop
  | [], _ => True
  | e :: es, s => Careful s e ∧ match s.step ctx e with
      | some s' => CarefulRun ctx es s'
      | none => True

instance (phase : ReconcilePhase) (id : String) : Decidable (Touched phase id) := by
  cases phase <;> unfold Touched <;> infer_instance

instance (s : SchedulerState) (e : SchedulerEvent) : Decidable (Careful s e) := by
  unfold Careful
  split
  · split <;> infer_instance
  · split
    · split <;> infer_instance
    · infer_instance
  · infer_instance

instance (ctx : SchedulerContext) (es : List SchedulerEvent)
    (s : SchedulerState) : Decidable (CarefulRun ctx es s) := by
  induction es generalizing s with
  | nil =>
    unfold CarefulRun
    infer_instance
  | cons e es ih =>
    unfold CarefulRun
    cases s.step ctx e with
    | none => infer_instance
    | some s' => exact @instDecidableAnd _ _ _ (ih s')

/-! ## The invariant -/

/-- What `Reconcile` carries from step to step. -/
def Reconciling (registry : Registry) (rows : ScheduleRows) : ReconcilePhase → Prop
  | .idle => True
  | .restoring _ todo restored =>
    Checked registry (todo ++ restored) ∧ ∀ job ∈ restored, RowOf rows job
  | .swapping jobs => Checked registry jobs ∧ ∀ job ∈ jobs, RowOf rows job

/-- A job that `Tick` is deciding about is one of the jobs. -/
def Deciding (jobs : List Job) : TickPhase → Prop
  | .advancing now _ job turn => job ∈ jobs ∧ ∃ running full, turn = evaluate now job running full
  | _ => True

structure ScheduleInvariant (ctx : SchedulerContext) (s : SchedulerState) : Prop where
  jobs : Checked ctx.registry s.jobs
  rows : ∀ job ∈ s.jobs, ¬ Touched s.reconcile job.monitorId → RowOf s.rows job
  ahead : ∀ id row, s.rows id = some row → ∀ t, (id, t) ∈ begun s → t < row.nextDueAt
  tick : Deciding s.jobs s.tick
  reconcile : Reconciling ctx.registry s.rows s.reconcile
  once : (begun s).Nodup
  failed : s.failed = none

theorem newScheduler_scheduleInvariant (ctx : SchedulerContext)
    (rows : ScheduleRows) : ScheduleInvariant ctx (newScheduler rows) where
  jobs := ⟨List.nodup_nil, fun _ h => by cases h⟩
  rows _ h := by cases h
  ahead _ _ _ _ h := by cases h
  tick := trivial
  reconcile := trivial
  once := List.nodup_nil
  failed := rfl

/-! ## Jobs and rows -/

theorem mem_setNextDue {jobs : List Job} {id : String} {due : ℤ} {job : Job} :
    job ∈ setNextDue jobs id due ↔
      (∃ old ∈ jobs, old.monitorId = id ∧ job = { old with nextDue := due }) ∨
        (job ∈ jobs ∧ job.monitorId ≠ id) := by
  rw [setNextDue, List.mem_map]
  refine ⟨fun h => ?_, fun h => ?_⟩
  · obtain ⟨old, hold, rfl⟩ := h
    by_cases hid : old.monitorId = id
    · rw [if_pos hid]
      exact .inl ⟨old, hold, hid, rfl⟩
    · rw [if_neg hid]
      exact .inr ⟨hold, hid⟩
  · rcases h with ⟨old, hold, hid, rfl⟩ | ⟨hold, hid⟩
    · exact ⟨old, hold, if_pos hid⟩
    · exact ⟨job, hold, if_neg hid⟩

theorem Checked.setNextDue {registry : Registry} {jobs : List Job}
    (h : Checked registry jobs) (id : String) (due : ℤ) :
    Checked registry (setNextDue jobs id due) := by
  refine ⟨?_, fun job hjob => ?_⟩
  · have hsame : (Agent.setNextDue jobs id due).map Job.monitorId = jobs.map Job.monitorId := by
      rw [Agent.setNextDue, List.map_map]
      refine List.map_congr_left fun job _ => ?_
      show Job.monitorId (ite _ _ _) = job.monitorId
      split_ifs <;> rfl
    rw [hsame]
    exact h.ids
  · rcases mem_setNextDue.mp hjob with ⟨old, hold, _, rfl⟩ | ⟨hold, _⟩
    · exact h.schedulable old hold
    · exact h.schedulable job hold

/-! ## Events that leave jobs and rows alone -/

/-- The part of the state that the schedule is kept in is the same. -/
structure SameSchedule (s s' : SchedulerState) : Prop where
  jobs : s'.jobs = s.jobs
  rows : s'.rows = s.rows
  reconcile : s'.reconcile = s.reconcile
  failed : s'.failed = s.failed
  times : begun s' = begun s

theorem ScheduleInvariant.same {ctx : SchedulerContext} {s s' : SchedulerState}
    (h : ScheduleInvariant ctx s) (hsame : SameSchedule s s')
    (htick : Deciding s.jobs s'.tick) : ScheduleInvariant ctx s' := by
  obtain ⟨hjobs, hrows, hreconcile, hfailed, hbegun⟩ := hsame
  exact {
    jobs := by rw [hjobs]; exact h.jobs
    rows := by rw [hjobs, hrows, hreconcile]; exact h.rows
    ahead := by rw [hrows, hbegun]; exact h.ahead
    tick := by rw [hjobs]; exact htick
    reconcile := by rw [hrows, hreconcile]; exact h.reconcile
    once := by rw [hbegun]; exact h.once
    failed := by rw [hfailed]; exact h.failed }

theorem key_setPhase (runs : List ProbeRun) (i : ℕ) (phase : RunPhase) :
    (setPhase runs i phase).map ProbeRun.key = runs.map ProbeRun.key := by
  unfold setPhase
  induction runs generalizing i with
  | nil => rw [List.modify_nil]
  | cons r runs ih =>
    cases i with
    | zero =>
      rw [List.modify_zero_cons]
      rfl
    | succ i => rw [List.modify_succ_cons, List.map_cons, List.map_cons, ih]

/-- Events of a run move its phase. -/
theorem ScheduleInvariant.move {ctx : SchedulerContext} {s s' : SchedulerState}
    {i : ℕ} {phase : RunPhase} (h : ScheduleInvariant ctx s)
    (hruns : s'.runs = setPhase s.runs i phase) (hjobs : s'.jobs = s.jobs)
    (hrows : s'.rows = s.rows) (hreconcile : s'.reconcile = s.reconcile)
    (hfailed : s'.failed = s.failed) (htick : s'.tick = s.tick) : ScheduleInvariant ctx s' := by
  refine h.same ⟨hjobs, hrows, hreconcile, hfailed, ?_⟩ (htick ▸ h.tick)
  rw [begun, begun, hruns, key_setPhase, htick]

/-! ## Tick -/

theorem ScheduleInvariant.visit {ctx : SchedulerContext} {s s' : SchedulerState}
    {monitorId : String} (h : ScheduleInvariant ctx s)
    (hstep : s.visit ctx monitorId = some s') : ScheduleInvariant ctx s' := by
  unfold SchedulerState.visit at hstep
  split at hstep
  · next now pending htick =>
      have hbegun : begun s = s.runs.map ProbeRun.key ++ [] := by
        rw [begun, htick]
      split at hstep
      · next job hfind =>
          split_ifs at hstep
          · cases hstep
            exact h.same ⟨rfl, rfl, rfl, rfl, hbegun.symm⟩ trivial
          · cases hstep
            exact h.same ⟨rfl, rfl, rfl, rfl, hbegun.symm⟩
              ⟨List.mem_of_find?_eq_some hfind, _, _, rfl⟩
      · cases hstep
  · cases hstep

theorem ScheduleInvariant.start {ctx : SchedulerContext} {s s' : SchedulerState}
    (h : ScheduleInvariant ctx s) (hstep : s.start ctx = some s') : ScheduleInvariant ctx s' := by
  unfold SchedulerState.start at hstep
  split at hstep
  · next now pending job htick =>
      split_ifs at hstep
      cases hstep
      refine h.same ⟨rfl, rfl, rfl, rfl, ?_⟩ trivial
      rw [begun, begun, htick, List.map_append, List.append_nil]
      rfl
  · cases hstep

/-- The times handed out once `Tick` has advanced a job. -/
theorem begun_advanced {s s' : SchedulerState} {now : ℤ} {pending : List String}
    {job : Job} {turn : Turn} (htick : s.tick = .advancing now pending job turn)
    (hruns : s'.runs = s.runs)
    (htick' : s'.tick = if turn.missReason.isSome then .looping now pending
      else .starting now pending job) : begun s' = begun s ∨
      begun s' = begun s ++ [(job.monitorId, job.nextDue)] := by
  rw [begun, begun, hruns, htick', htick, List.append_nil]
  split_ifs
  · exact .inl (List.append_nil _)
  · exact .inr rfl

theorem Reconciling.update {registry : Registry} {rows : ScheduleRows}
    {phase : ReconcilePhase} {id : String} (h : Reconciling registry rows phase)
    (hnot : ¬ Touched phase id) (row : Option ScheduleState) :
    Reconciling registry (Function.update rows id row) phase := by
  cases phase with
  | idle => trivial
  | restoring now todo restored =>
    refine ⟨h.1, fun job hjob => (h.2 job hjob).update_of_ne fun hid => ?_⟩
    exact hnot (List.mem_map.mpr ⟨job, hjob, hid⟩)
  | swapping jobs => exact absurd trivial hnot

/-- Advancing a row that agrees with its job moves both behind the time that
is handed out. -/
theorem ScheduleInvariant.advance {ctx : SchedulerContext}
    {s s' : SchedulerState} (h : ScheduleInvariant ctx s)
    (hcareful : Careful s .tickAdvance) (hstep : s.advance = some s') :
    ScheduleInvariant ctx s' := by
  unfold SchedulerState.advance at hstep
  split at hstep
  case h_2 => cases hstep
  next now pending job turn htick =>
  have hdeciding := h.tick
  rw [htick] at hdeciding
  obtain ⟨hjob, running, full, hturn⟩ := hdeciding
  have huntouched : ¬ Touched s.reconcile job.monitorId := by
    rw [Careful, htick] at hcareful
    exact hcareful
  obtain ⟨row, hrow, hdue, hok⟩ := advanceJob_ok (h.rows job hjob huntouched) turn
  have hbefore : ∀ t, (job.monitorId, t) ∈ begun s → t < job.nextDue := by
    intro t ht
    rw [← hdue]
    exact h.ahead job.monitorId row hrow t ht
  have hlater : job.nextDue < turn.nextDue := by
    rw [hturn]
    exact lt_evaluate (h.jobs.schedulable job hjob).interval_pos running full
  rw [hok] at hstep
  have hs' := (Option.some.inj hstep).symm
  have hrows : s'.rows = Function.update s.rows job.monitorId
      (some (advancedRow row turn)) := by
    rw [hs']
  have hbegun : begun s' = begun s ∨ begun s' = begun s ++ [(job.monitorId, job.nextDue)] :=
    begun_advanced htick (by rw [hs']) (by rw [hs'])
  refine ⟨by rw [hs']; exact h.jobs.setNextDue _ _, fun other hother hnot => ?_,
    fun id r hr t ht => ?_, ?_, ?_, ?_, by rw [hs']; exact h.failed⟩
  · rw [hs'] at hother hnot
    rw [hrows]
    rcases mem_setNextDue.mp hother with ⟨old, hold, hid, rfl⟩ | ⟨hold, hid⟩
    · obtain rfl : old = job :=
        List.inj_on_of_nodup_map h.jobs.ids hold hjob hid
      obtain ⟨row', hrow', hmon, hagent, _⟩ := h.rows _ hjob huntouched
      obtain rfl := Option.some.inj (hrow.symm.trans hrow')
      exact ⟨_, Function.update_self _ _ _, hmon, hagent, rfl⟩
    · exact (h.rows other hold hnot).update_of_ne hid
  · have ht' : (id, t) ∈ begun s ∨ (id, t) = (job.monitorId, job.nextDue) := by
      rcases hbegun with hsame | hmore
      · exact .inl (hsame ▸ ht)
      · rw [hmore, List.mem_append, List.mem_singleton] at ht
        exact ht
    rw [hrows] at hr
    by_cases hid : id = job.monitorId
    · subst hid
      rw [Function.update_self] at hr
      cases hr
      show t < turn.nextDue
      rcases ht' with ht' | ht'
      · have := hbefore t ht'
        omega
      · cases ht'
        exact hlater
    · rw [Function.update_of_ne hid] at hr
      refine h.ahead id r hr t ?_
      exact ht'.resolve_right fun heq => hid (congrArg Prod.fst heq)
  · rw [hs']
    dsimp only
    split_ifs <;> trivial
  · rw [hrows, show s'.reconcile = s.reconcile by rw [hs']]
    exact h.reconcile.update huntouched _
  · rcases hbegun with hsame | hmore
    · exact hsame ▸ h.once
    · rw [hmore, ← List.concat_eq_append, List.nodup_concat]
      exact ⟨fun hmem => lt_irrefl _ (hbefore _ hmem), h.once⟩

/-! ## Reconcile -/

theorem ScheduleInvariant.begin {ctx : SchedulerContext} {s : SchedulerState}
    {assignments : List Assignment} {now : ℤ} {candidates : List Job}
    (h : ScheduleInvariant ctx s) (hidle : s.reconcile = .idle)
    (hval : validateAssignments ctx.sha256 ctx.registry now [] assignments = .ok candidates) :
    ScheduleInvariant ctx { s with
      reconcile := .restoring now candidates [] } := by
  obtain ⟨haccepted, rfl⟩ := validateAssignments_accepted.mp hval
  refine ⟨h.jobs, fun job hjob _ => h.rows job hjob ?_, h.ahead, h.tick,
    ⟨?_, fun job hjob => by cases hjob⟩, h.once, h.failed⟩
  · rw [hidle]
    exact id
  · rw [List.append_nil]
    exact haccepted.candidates ctx.sha256 now

/-- A candidate moves to the restored jobs. -/
theorem Checked.restored {registry : Registry} {todo restored : List Job}
    {job : Job} {id : String} {due : ℤ} (h : Checked registry (todo ++ restored))
    (hjob : job ∈ todo) (hid : job.monitorId = id)
    (hnew : job.monitorId ∉ restored.map Job.monitorId) :
    Checked registry ((todo.filter fun j => j.monitorId ≠ id) ++
      (restored ++ [{ job with nextDue := due }])) := by
  obtain ⟨hids, hok⟩ := h
  rw [List.map_append, List.nodup_append] at hids
  obtain ⟨htodo, hrestored, hdisjoint⟩ := hids
  refine ⟨?_, fun other hother => ?_⟩
  · rw [List.map_append, List.map_append, List.map_singleton, List.nodup_append,
      ← List.concat_eq_append, List.nodup_concat]
    refine ⟨htodo.sublist (List.filter_sublist.map _), ⟨hnew, hrestored⟩, ?_⟩
    intro a ha b hb
    obtain ⟨other, hother, rfl⟩ := List.mem_map.mp ha
    obtain ⟨hother, hne⟩ := List.mem_filter.mp hother
    rw [List.concat_eq_append, List.mem_append, List.mem_singleton] at hb
    rcases hb with hb | rfl
    · exact hdisjoint _ (List.mem_map_of_mem hother) _ hb
    · exact fun heq => of_decide_eq_true hne (heq.trans hid)
  · rcases List.mem_append.mp hother with hother | hother
    · exact hok other (List.mem_append_left _ (List.mem_filter.mp hother).1)
    · rcases List.mem_append.mp hother with hother | hother
      · exact hok other (List.mem_append_right _ hother)
      · rw [List.mem_singleton.mp hother]
        exact hok job (List.mem_append_left _ hjob)

/-- A restored row is ahead of the times that were handed out, and the job
agrees with it. -/
theorem ScheduleInvariant.restore {ctx : SchedulerContext}
    {s s' : SchedulerState} {id : String} (h : ScheduleInvariant ctx s)
    (hcareful : Careful s (.reconcileRestore id))
    (hstep : s.restore id = some s') : ScheduleInvariant ctx s' := by
  unfold SchedulerState.restore at hstep
  split at hstep
  case h_2 => cases hstep
  next now todo restored hphase =>
  split at hstep
  case h_2 => cases hstep
  next job hfind =>
  have hreconciling := h.reconcile
  rw [hphase] at hreconciling
  obtain ⟨hchecked, hrestored⟩ := hreconciling
  have hjob : job ∈ todo := List.mem_of_find?_eq_some hfind
  have hid : job.monitorId = id := by
    have := List.find?_some hfind
    exact beq_iff_eq.mp this
  have hok := hchecked.schedulable job (List.mem_append_left _ hjob)
  obtain ⟨hmon, hagent, hcase⟩ := jobRow_spec now s.rows job hok.interval_pos
  rw [restoreJob_ok hok] at hstep
  have hs' := (Option.some.inj hstep).symm
  have hrows : s'.rows = Function.update s.rows job.monitorId
      (some (jobRow now s.rows job)) := by
    rw [hs']
  have hbegun : begun s' = begun s := by rw [hs']; rfl
  have hnew : job.monitorId ∉ restored.map Job.monitorId := by
    intro hmem
    have hnodup := hchecked.ids
    rw [List.map_append, List.nodup_append] at hnodup
    exact hnodup.2.2 _ (List.mem_map_of_mem hjob) _ hmem rfl
  refine ⟨by rw [hs']; exact h.jobs, fun other hother hnot => ?_,
    fun id' r hr t ht => ?_, by rw [hs']; exact h.tick, ?_,
    by rw [hbegun]; exact h.once, by rw [hs']; exact h.failed⟩
  · rw [hs'] at hother hnot
    have hother' : other.monitorId ∉ (restored ++ [{ job with
        nextDue := (jobRow now s.rows job).nextDueAt }]).map Job.monitorId := hnot
    rw [List.map_append, List.mem_append, not_or] at hother'
    rw [hrows]
    refine (h.rows other hother ?_).update_of_ne fun heq =>
      hother'.2 (List.mem_singleton.mpr heq)
    rw [hphase]
    exact hother'.1
  · rw [hbegun] at ht
    rw [hrows] at hr
    by_cases hid' : id' = job.monitorId
    · subst hid'
      rw [Function.update_self] at hr
      cases hr
      rcases hcase with ⟨hreset, hdue⟩ | ⟨row, hrow, hle⟩
      · rw [Careful, hphase] at hcareful
        dsimp only at hcareful
        rw [hfind] at hcareful
        rw [hdue]
        exact hcareful hreset _ ht hid
      · exact lt_of_lt_of_le (h.ahead _ row hrow t ht) hle
    · rw [Function.update_of_ne hid'] at hr
      exact h.ahead id' r hr t ht
  · rw [hrows, hs']
    refine ⟨hchecked.restored hjob hid hnew, fun other hother => ?_⟩
    rcases List.mem_append.mp hother with hold | hlast
    · exact (hrestored other hold).update_of_ne fun heq =>
        hnew (List.mem_map.mpr ⟨other, hold, heq⟩)
    · rw [List.mem_singleton.mp hlast]
      exact ⟨_, Function.update_self _ _ _, hmon, hagent, rfl⟩

theorem ScheduleInvariant.remove {ctx : SchedulerContext} {s : SchedulerState}
    {now : ℤ} {restored : List Job} (h : ScheduleInvariant ctx s)
    (hphase : s.reconcile = .restoring now [] restored) : ScheduleInvariant ctx { s with
      rows := removeSchedulesExcept s.rows (restored.map Job.monitorId)
      reconcile := .swapping restored } := by
  have hreconciling := h.reconcile
  rw [hphase] at hreconciling
  obtain ⟨hchecked, hrestored⟩ := hreconciling
  refine ⟨h.jobs, fun _ _ hnot => absurd trivial hnot, fun id r hr => ?_, h.tick,
    ⟨hchecked, fun job hjob => ?_⟩, h.once, h.failed⟩
  · change (if id ∈ restored.map Job.monitorId then s.rows id else none) = some r at hr
    split_ifs at hr
    exact h.ahead id r hr
  · obtain ⟨row, hrow, hrest⟩ := hrestored job hjob
    exact ⟨row, (if_pos (List.mem_map_of_mem hjob)).trans hrow, hrest⟩

theorem ScheduleInvariant.swap {ctx : SchedulerContext} {s : SchedulerState}
    {jobs : List Job} (h : ScheduleInvariant ctx s)
    (hphase : s.reconcile = .swapping jobs) (hidle : s.tick = .idle) :
    ScheduleInvariant ctx { s with
      jobs := jobs
      reconcile := .idle } := by
  have hreconciling := h.reconcile
  rw [hphase] at hreconciling
  obtain ⟨hchecked, hjobs⟩ := hreconciling
  refine ⟨hchecked, fun job hjob _ => hjobs job hjob, h.ahead, ?_, trivial, h.once, h.failed⟩
  show Deciding jobs s.tick
  rw [hidle]
  trivial

/-! ## Whole runs -/

theorem step_scheduleInvariant {ctx : SchedulerContext} {s s' : SchedulerState}
    {event : SchedulerEvent} (h : ScheduleInvariant ctx s)
    (hcareful : Careful s event) (hstep : s.step ctx event = some s') :
    ScheduleInvariant ctx s' := by
  cases event with
  | tickBegin now =>
    dsimp only [SchedulerState.step] at hstep
    split at hstep
    · next htick =>
        cases hstep
        refine h.same ⟨rfl, rfl, rfl, rfl, ?_⟩ trivial
        rw [begun, begun, htick]
    · cases hstep
  | tickVisit monitorId => exact h.visit hstep
  | tickAdvance => exact h.advance hcareful hstep
  | tickStart => exact h.start hstep
  | tickEnd =>
    dsimp only [SchedulerState.step] at hstep
    split at hstep
    · next htick =>
        cases hstep
        refine h.same ⟨rfl, rfl, rfl, rfl, ?_⟩ trivial
        rw [begun, begun, htick]
    · cases hstep
  | reconcileBegin assignments now =>
    dsimp only [SchedulerState.step] at hstep
    split at hstep
    · next hidle hval =>
        cases hstep
        exact h.begin hidle hval
    · cases hstep
      exact h
    · cases hstep
  | reconcileRestore monitorId => exact h.restore hcareful hstep
  | reconcileRemove =>
    dsimp only [SchedulerState.step] at hstep
    split at hstep
    · next hphase =>
        cases hstep
        exact h.remove hphase
    · cases hstep
  | reconcileSwap =>
    dsimp only [SchedulerState.step] at hstep
    split at hstep
    · next hphase htick =>
        cases hstep
        exact h.swap hphase htick
    · cases hstep
  | probeEnd i outcome startedAt finishedAt now =>
    dsimp only [SchedulerState.step] at hstep
    split at hstep
    · cases hstep
      exact h.move rfl rfl rfl rfl rfl rfl
    · cases hstep
  | resultSend i =>
    dsimp only [SchedulerState.step] at hstep
    split at hstep
    · split_ifs at hstep
      cases hstep
      exact h.move rfl rfl rfl rfl rfl rfl
    · cases hstep
  | runningClear i =>
    dsimp only [SchedulerState.step] at hstep
    split at hstep
    · cases hstep
      exact h.move rfl rfl rfl rfl rfl rfl
    · cases hstep
  | workerRelease i =>
    dsimp only [SchedulerState.step] at hstep
    split at hstep
    · split_ifs at hstep
      cases hstep
      exact h.move rfl rfl rfl rfl rfl rfl
    · cases hstep
  | runDone i =>
    dsimp only [SchedulerState.step] at hstep
    split at hstep
    · cases hstep
      exact h.move rfl rfl rfl rfl rfl rfl
    · cases hstep
  | resultReceive =>
    dsimp only [SchedulerState.step] at hstep
    split at hstep
    · cases hstep
      exact h.same ⟨rfl, rfl, rfl, rfl, rfl⟩ h.tick
    · cases hstep

theorem runEvents_scheduleInvariant {ctx : SchedulerContext}
    {events : List SchedulerEvent} {s s' : SchedulerState}
    (h : ScheduleInvariant ctx s) (hcareful : CarefulRun ctx events s)
    (hrun : runEvents ctx events s = some s') : ScheduleInvariant ctx s' := by
  induction events generalizing s with
  | nil =>
    rw [runEvents] at hrun
    cases hrun
    exact h
  | cons event events ih =>
    rw [runEvents, Option.bind_eq_some_iff] at hrun
    obtain ⟨s₁, hstep, hrest⟩ := hrun
    obtain ⟨hevent, hlater⟩ := hcareful
    rw [hstep] at hlater
    exact ih (step_scheduleInvariant h hevent hstep) hlater hrest

/-- In a careful run no `Tick` fails, and no monitor is started twice for the
same time. -/
theorem careful_run_safe {ctx : SchedulerContext} {rows : ScheduleRows}
    {events : List SchedulerEvent} {s : SchedulerState}
    (hcareful : CarefulRun ctx events (newScheduler rows))
    (hrun : runEvents ctx events (newScheduler rows) = some s) :
    s.failed = none ∧ (s.runs.map ProbeRun.key).Nodup := by
  have h := runEvents_scheduleInvariant (newScheduler_scheduleInvariant ctx rows)
    hcareful hrun
  exact ⟨h.failed, (List.nodup_append.mp h.once).1⟩

/-! ## What goes wrong otherwise -/

/-- A careful run: a monitor is reconciled again, with a new configuration
revision, between two of its runs. -/
def carefulEvents : List SchedulerEvent :=
  installEvents [soloAssignment "m" 1] 0 ++ [.tickBegin 0] ++ startEvents "m" ++
    [.tickEnd, .probeEnd 0 .panicked noonTime noonTime noonTime, .resultSend 0,
      .runningClear 0, .workerRelease 0] ++ installEvents [soloAssignment "m" 2] (30 * second) ++
    [.tickBegin (30 * second)] ++ startEvents "m"

theorem careful_run_safe_sample : ∃ s, runEvents soloContext carefulEvents
      (newScheduler fun _ => none) = some s ∧
    s.failed = none ∧ (s.runs.map ProbeRun.key).Nodup := by
  have hsome : (runEvents soloContext carefulEvents
      (newScheduler fun _ => none)).isSome := by
    decide +kernel
  obtain ⟨s, hs⟩ := Option.isSome_iff_exists.mp hsome
  have hcareful : CarefulRun soloContext carefulEvents
      (newScheduler fun _ => none) := by
    decide +kernel
  exact ⟨s, hs, careful_run_safe hcareful hs⟩

/-- `Tick` has decided to start the monitor when `Reconcile` writes its row
with a new configuration revision. -/
def conflictEvents : List SchedulerEvent :=
  installEvents [soloAssignment "m" 1] 0 ++
    [.tickBegin 0, .tickVisit "m", .reconcileBegin [soloAssignment "m" 2] 0,
      .reconcileRestore "m", .tickAdvance]

/-- A row that an earlier process has left, due at one minute. -/
def storedRows : ScheduleRows := fun id =>
  if id = "m" then some ⟨1, 1, 60 * second, 0⟩ else none

/-- `Reconcile` has read the due time of the monitor when `Tick` starts the run
and advances the row; the jobs are then replaced by one with the old time. -/
def repeatEvents : List SchedulerEvent :=
  installEvents [soloAssignment "m" 1] (30 * second) ++
    [.reconcileBegin [soloAssignment "m" 1] (40 * second),
      .reconcileRestore "m", .tickBegin (60 * second)] ++ startEvents "m" ++
    [.tickEnd, .reconcileRemove, .reconcileSwap,
      .probeEnd 0 .panicked noonTime noonTime noonTime, .resultSend 0,
      .runningClear 0, .workerRelease 0, .tickBegin (61 * second)] ++ startEvents "m"

theorem tick_reconcile_conflict :
    (runEvents soloContext conflictEvents (newScheduler fun _ => none)).map
        (fun s => s.failed) = some (some ("advance monitor schedule: " ++
          "schedule state changed before it could be advanced")) ∧
      (runEvents soloContext repeatEvents (newScheduler storedRows)).map
        (fun s => s.runs.map ProbeRun.key) = some [("m", 60 * second), ("m", 60 * second)] := by
  decide +kernel

end Bifrostnms.Proofs
