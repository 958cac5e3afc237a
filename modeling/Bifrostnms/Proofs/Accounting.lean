import Bifrostnms.Proofs.Scheduler

/-!
# Every due time is started or counted as missed

A monitor's row is created with a first due time. From then on the due times
are one interval apart, and each one that has passed was either started or is
in the row's count of missed runs. Three places do the counting: `Tick` counts
the due times it skips, and the one it cannot start because the monitor is
still running or no worker is free, and `RestoreSchedule` counts those that
passed while no `Tick` came.

`Balanced` says that the books are right, in terms of the row and the times
started, and has one rule for a run that is missed and one for a run that is
started. What a `Tick` does to one monitor is `Visited`; the other jobs of the
loop do not matter to it, because they are other monitors. `Account` is what
holds between any two operations, restarts included, and needs no assumption
on the clock.
-/

namespace Bifrostnms.Proofs

open Bifrostnms.Lib Bifrostnms.Agent

/-! ## The books of one monitor -/

/-- The due times from `first` up to the row's are started, each once, or
missed. -/
def Balanced (first interval : ℤ) (times : List ℤ) (row : ScheduleState) : Prop :=
  ∃ (ks : List ℕ) (n : ℕ), times = ks.map (fun k : ℕ => first + k * interval) ∧ ks.Nodup ∧
    (∀ k ∈ ks, k < n) ∧ row.nextDueAt = first + n * interval ∧
    (ks.length : ℤ) + row.missedRunCount = n

theorem Balanced.opened {first interval : ℤ} {row : ScheduleState}
    (hdue : row.nextDueAt = first) (hmissed : row.missedRunCount = 0) :
    Balanced first interval [] row := by
  refine ⟨[], 0, rfl, List.nodup_nil, fun _ h => (by cases h), ?_, ?_⟩
  · rw [hdue]
    push_cast
    ring
  · rw [hmissed]
    rfl

/-- The next due times are missed. -/
theorem Balanced.miss {first interval : ℤ} {times : List ℤ}
    {row row' : ScheduleState} (h : Balanced first interval times row) (p : ℕ)
    (hdue : row'.nextDueAt = row.nextDueAt + p * interval)
    (hmissed : row'.missedRunCount = row.missedRunCount + p) :
    Balanced first interval times row' := by
  obtain ⟨ks, n, htimes, hnodup, hlt, hnext, hcount⟩ := h
  refine ⟨ks, n + p, htimes, hnodup, fun k hk => ?_, ?_, ?_⟩
  · exact (hlt k hk).trans_le (Nat.le_add_right n p)
  · rw [hdue, hnext]
    push_cast
    ring
  · rw [hmissed]
    push_cast
    omega

/-- The next due time is started. -/
theorem Balanced.start {first interval : ℤ} {times : List ℤ}
    {row row' : ScheduleState} (h : Balanced first interval times row)
    (hdue : row'.nextDueAt = row.nextDueAt + interval)
    (hmissed : row'.missedRunCount = row.missedRunCount) :
    Balanced first interval (times ++ [row.nextDueAt]) row' := by
  obtain ⟨ks, n, htimes, hnodup, hlt, hnext, hcount⟩ := h
  refine ⟨ks ++ [n], n + 1, ?_, ?_, fun k hk => ?_, ?_, ?_⟩
  · rw [List.map_append, htimes, hnext]
    rfl
  · refine List.nodup_append.mpr ⟨hnodup, List.nodup_singleton n, ?_⟩
    intro k hk m hm
    rw [List.mem_singleton.mp hm]
    exact (hlt k hk).ne
  · rcases List.mem_append.mp hk with hk | hk
    · exact (hlt k hk).trans (Nat.lt_succ_self n)
    · rw [List.mem_singleton.mp hk]
      exact Nat.lt_succ_self n
  · rw [hdue, hnext]
    push_cast
    ring
  · rw [List.length_append, List.length_singleton, hmissed]
    push_cast
    omega

/-- Balanced books, with the division written out. -/
theorem Balanced.count {first interval : ℤ} {times : List ℤ}
    {row : ScheduleState} (h : Balanced first interval times row)
    (hpos : 0 < interval) : interval ∣ row.nextDueAt - first ∧
      (times.length : ℤ) + row.missedRunCount = (row.nextDueAt - first) / interval := by
  obtain ⟨ks, n, htimes, _, _, hnext, hcount⟩ := h
  have hdiff : row.nextDueAt - first = n * interval := by
    rw [hnext]
    ring
  rw [hdiff, Int.mul_ediv_cancel _ hpos.ne', htimes, List.length_map]
  exact ⟨Int.dvd_mul_left _ _, hcount⟩

/-! ## One turn -/

/-- The missed runs of one monitor. -/
def missedOf (monitorId : String) (missed : List MissedRun) : List MissedRun :=
  missed.filter fun m => m.monitorId == monitorId

/-- The scheduled times of one monitor's runs. -/
def startTimes (monitorId : String) (started : List (Assignment × ℤ)) : List ℤ :=
  (started.filter fun p => p.1.monitorId == monitorId).map Prod.snd

theorem startTimes_append (id : String) (xs ys : List (Assignment × ℤ)) :
    startTimes id (xs ++ ys) = startTimes id xs ++ startTimes id ys := by
  rw [startTimes, List.filter_append, List.map_append]
  rfl

theorem startTimes_cons (id : String) (a : Assignment) (t : ℤ)
    (xs : List (Assignment × ℤ)) : startTimes id ((a, t) :: xs) =
      (if a.monitorId = id then [t] else []) ++ startTimes id xs := by
  unfold startTimes
  by_cases h : a.monitorId = id
  · simp [h]
  · simp [h]

/-- The time that a turn starts. -/
def turnTimes (turn : Turn) (job : Job) : List ℤ :=
  if turn.missReason.isSome then [] else [job.nextDue]

theorem length_missed (turn : Turn) (job : Job) : (turn.missed job).length = turn.missedCount := by
  unfold Turn.missed Turn.missedCount
  cases turn.missReason with
  | none => rfl
  | some reason => exact List.length_append

section Evaluate

variable {now : ℤ} {job : Job} {running full : Bool}

theorem evaluate_spec (h : 0 < job.assignment.interval) (now : ℤ) (running full : Bool) :
    (evaluate now job running full).nextDue = job.nextDue +
        ((evaluate now job running full).skipped.length + 1 : ℕ) *
          job.assignment.interval ∧ now < (evaluate now job running full).nextDue := by
  obtain ⟨_, hnext, hlater⟩ := catchUp_spec h now
    (job.nextDue + job.assignment.interval)
  refine ⟨?_, hlater⟩
  show (catchUp _ now _).2 = job.nextDue + ((List.map _ _).length + 1 : ℕ) * _
  rw [hnext, List.length_map]
  push_cast
  ring

theorem monitorId_missed {m : MissedRun} (hm : m ∈ (evaluate now job running full).missed job) :
    m.monitorId = job.monitorId := by
  have hskipped : ∀ m ∈ (evaluate now job running full).skipped, m.monitorId = job.monitorId := by
    intro m hm
    obtain ⟨t, _, rfl⟩ := List.mem_map.mp hm
    rfl
  unfold Turn.missed at hm
  split at hm
  · rcases List.mem_append.mp hm with hm | hm
    · exact hskipped m hm
    · rw [List.mem_singleton.mp hm]
  · exact hskipped m hm

/-- A turn on a row whose books are balanced keeps them so. -/
theorem Balanced.turn {first : ℤ} {times : List ℤ} {row : ScheduleState}
    (h : Balanced first job.assignment.interval times row)
    (hpos : 0 < job.assignment.interval) (hdue : row.nextDueAt = job.nextDue) :
    Balanced first job.assignment.interval
      (times ++ turnTimes (evaluate now job running full) job)
      (advancedRow row (evaluate now job running full)) := by
  have hnext : (evaluate now job running full).nextDue = _ :=
    (evaluate_spec hpos now running full).1
  generalize evaluate now job running full = turn at hnext ⊢
  unfold turnTimes
  split_ifs with hmiss
  · rw [List.append_nil]
    refine h.miss (turn.skipped.length + 1) (hdue ▸ hnext) ?_
    rw [advancedRow, Turn.missedCount, if_pos hmiss]
  · rw [← hdue]
    have hstart : Balanced first job.assignment.interval _ { row with
        nextDueAt := row.nextDueAt + job.assignment.interval } :=
      h.start rfl rfl
    refine hstart.miss turn.skipped.length ?_ ?_
    · show turn.nextDue = _
      rw [hnext, hdue]
      push_cast
      ring
    · rw [advancedRow, Turn.missedCount, if_neg hmiss, Nat.add_zero]

end Evaluate

/-! ## One Tick -/

/-- Checked jobs, each with a row that agrees with it. -/
structure Backed (registry : Registry) (jobs : List Job)
    (rows : ScheduleRows) : Prop extends Checked registry jobs where
  rows : ∀ job ∈ jobs, RowOf rows job

section Tick

variable {registry : Registry} {capacity : ℕ} {now : ℤ} {job : Job}
  {jobs order : List Job} {rows : ScheduleRows} {s : Shared} {id : String}

theorem Backed.perm (h : Backed registry jobs rows)
    (horder : order.Perm jobs) : Backed registry order rows := by
  refine ⟨⟨?_, fun job hjob => ?_⟩, fun job hjob => ?_⟩
  · exact (horder.map Job.monitorId).nodup_iff.mpr h.ids
  · exact h.schedulable job (horder.mem_iff.mp hjob)
  · exact h.rows job (horder.mem_iff.mp hjob)

theorem Backed.not_mem (h : Backed registry (job :: jobs) rows) :
    job.monitorId ∉ jobs.map Job.monitorId :=
  (List.nodup_cons.mp h.ids).1

theorem Backed.tail (h : Backed registry (job :: jobs) rows) : Backed registry jobs rows :=
  ⟨⟨(List.nodup_cons.mp h.ids).2, fun j hj => h.schedulable j (List.mem_cons_of_mem _ hj)⟩,
    fun j hj => h.rows j (List.mem_cons_of_mem _ hj)⟩

/-- The row of the first job is not a row of the others. -/
theorem Backed.update (h : Backed registry (job :: jobs) rows) (row : Option ScheduleState) :
    Backed registry jobs (Function.update rows job.monitorId row) := by
  refine ⟨h.tail.toChecked, fun j hj => (h.tail.rows j hj).update_of_ne ?_⟩
  exact fun heq => h.not_mem (List.mem_map.mpr ⟨j, hj, heq⟩)

/-- A job that is not due is passed over. -/
theorem tick_later (h : now < job.nextDue) : tick capacity now (job :: jobs) s =
      { tick capacity now jobs s with
        jobs := job :: (tick capacity now jobs s).jobs } := by
  rw [tick, if_pos h]

/-- A job that is due takes its turn, and the loop goes on from there. -/
theorem tick_due (hrow : RowOf s.rows job) (hdue : ¬ now < job.nextDue) :
    ∃ (running full : Bool) (row : ScheduleState) (s' : Shared),
      s.rows job.monitorId = some row ∧ row.nextDueAt = job.nextDue ∧
      s'.rows = Function.update s.rows job.monitorId
        (some (advancedRow row (evaluate now job running full))) ∧
      tick capacity now (job :: jobs) s = (tick capacity now jobs s').after job
        (evaluate now job running full) := by
  let turn := evaluate now job (s.running job.monitorId) (s.workers == capacity)
  obtain ⟨row, hrow, hnext, hok⟩ := advanceJob_ok hrow turn
  let s' : Shared := { s with
    rows := Function.update s.rows job.monitorId (some (advancedRow row turn)) }
  refine ⟨s.running job.monitorId, s.workers == capacity, row,
    if turn.missReason.isSome then s' else s'.begin job.monitorId, hrow, hnext, ?_, ?_⟩
  · split_ifs <;> rfl
  · rw [tick, if_neg hdue]
    dsimp only
    rw [hok]

theorem missed_after (r : TickResult) (turn : Turn) : missedOf id (r.after job turn).missed =
      missedOf id (turn.missed job) ++ missedOf id r.missed :=
  List.filter_append _ _

theorem started_after (r : TickResult) (turn : Turn) : startTimes id (r.after job turn).started =
      (if job.monitorId = id then turnTimes turn job else []) ++ startTimes id r.started := by
  unfold TickResult.after turnTimes
  by_cases hmiss : turn.missReason.isSome
  · rw [if_pos hmiss, if_pos hmiss, ite_self]
    rfl
  · rw [if_neg hmiss, if_neg hmiss, startTimes_cons]
    rfl

theorem missedOf_self {running full : Bool} :
    missedOf job.monitorId ((evaluate now job running full).missed job) =
      (evaluate now job running full).missed job :=
  List.filter_eq_self.mpr fun _ hm => beq_iff_eq.mpr (monitorId_missed hm)

theorem missedOf_of_ne {running full : Bool} (h : job.monitorId ≠ id) :
    missedOf id ((evaluate now job running full).missed job) = [] :=
  List.filter_eq_nil_iff.mpr fun _ hm heq =>
    h ((monitorId_missed hm).symm.trans (beq_iff_eq.mp heq))

theorem error_tick (h : Backed registry jobs s.rows) : (tick capacity now jobs s).error = none := by
  induction jobs generalizing s with
  | nil => rfl
  | cons job jobs ih =>
    by_cases hlater : now < job.nextDue
    · rw [tick_later hlater]
      exact ih h.tail
    · obtain ⟨running, full, row, s', _, _, hrows, htick⟩ :
        ∃ (running full : Bool) (row : ScheduleState) (s' : Shared), _ :=
        tick_due (h.rows job List.mem_cons_self) hlater
      rw [htick]
      exact ih (hrows ▸ h.update _)

/-- A `Tick` does nothing for a monitor that has no job. -/
theorem tick_other (h : Backed registry jobs s.rows) (hid : id ∉ jobs.map Job.monitorId) :
    (tick capacity now jobs s).shared.rows id = s.rows id ∧
      missedOf id (tick capacity now jobs s).missed = [] ∧
      startTimes id (tick capacity now jobs s).started = [] := by
  induction jobs generalizing s with
  | nil => exact ⟨rfl, rfl, rfl⟩
  | cons job jobs ih =>
    rw [List.map_cons, List.mem_cons, not_or] at hid
    by_cases hlater : now < job.nextDue
    · rw [tick_later hlater]
      exact ih h.tail hid.2
    · obtain ⟨running, full, row, s', _, _, hrows, htick⟩ :
        ∃ (running full : Bool) (row : ScheduleState) (s' : Shared), _ :=
        tick_due (h.rows job List.mem_cons_self) hlater
      obtain ⟨hrow, hmissed, hstarted⟩ := ih (hrows ▸ h.update _) hid.2
      rw [htick, missed_after, started_after, if_neg (Ne.symm hid.1),
        missedOf_of_ne (Ne.symm hid.1), hmissed, hstarted]
      refine ⟨?_, rfl, rfl⟩
      exact hrow.trans (hrows ▸ Function.update_of_ne hid.1 _ _)

/-- What a `Tick` has done for a job whose row it found. -/
inductive Visited (now : ℤ) (job : Job) (row : ScheduleState) (r : TickResult) : Prop where
  | later (hlater : now < job.nextDue) (hjob : job ∈ r.jobs)
      (hrow : r.shared.rows job.monitorId = some row)
      (hmissed : missedOf job.monitorId r.missed = [])
      (hstarted : startTimes job.monitorId r.started = [])
  | due (running full : Bool)
      (hjob : { job with nextDue := (evaluate now job running full).nextDue } ∈ r.jobs)
      (hrow : r.shared.rows job.monitorId = some (advancedRow row (evaluate now job running full)))
      (hmissed : missedOf job.monitorId r.missed = (evaluate now job running full).missed job)
      (hstarted : startTimes job.monitorId r.started =
        turnTimes (evaluate now job running full) job)

/-- The turn of another monitor adds nothing. -/
theorem Visited.after {row : ScheduleState} {r : TickResult}
    (h : Visited now job row r) {other : Job} {running full : Bool}
    (hne : other.monitorId ≠ job.monitorId) :
    Visited now job row (r.after other (evaluate now other running full)) := by
  have hsame : missedOf job.monitorId
        (r.after other (evaluate now other running full)).missed = missedOf job.monitorId r.missed ∧
      startTimes job.monitorId
        (r.after other (evaluate now other running full)).started =
        startTimes job.monitorId r.started := by
    rw [missed_after, started_after, missedOf_of_ne hne, if_neg hne]
    exact ⟨rfl, rfl⟩
  cases h with
  | later hlater hjob hrow hmissed hstarted =>
    exact .later hlater (List.mem_cons_of_mem _ hjob) hrow
      (hsame.1.trans hmissed) (hsame.2.trans hstarted)
  | due running full hjob hrow hmissed hstarted =>
    exact .due running full (List.mem_cons_of_mem _ hjob) hrow
      (hsame.1.trans hmissed) (hsame.2.trans hstarted)

theorem Visited.cons {row : ScheduleState} {r : TickResult}
    (h : Visited now job row r) (other : Job) :
    Visited now job row { r with jobs := other :: r.jobs } := by
  cases h with
  | later hlater hjob hrow hmissed hstarted =>
    exact .later hlater (List.mem_cons_of_mem _ hjob) hrow hmissed hstarted
  | due running full hjob hrow hmissed hstarted =>
    exact .due running full (List.mem_cons_of_mem _ hjob) hrow hmissed hstarted

/-- A `Tick` visits every job once. -/
theorem tick_visited (h : Backed registry jobs s.rows) (hjob : job ∈ jobs)
    {row : ScheduleState} (hrow : s.rows job.monitorId = some row) :
    Visited now job row (tick capacity now jobs s) := by
  induction jobs generalizing s with
  | nil => cases hjob
  | cons j jobs ih =>
    have hne : job ∈ jobs → j.monitorId ≠ job.monitorId := fun hjob heq =>
      h.not_mem (heq ▸ List.mem_map_of_mem hjob)
    by_cases hlater : now < j.nextDue
    · rw [tick_later hlater]
      rcases List.mem_cons.mp hjob with rfl | hjob
      · obtain ⟨hrow', hmissed, hstarted⟩ := tick_other h.tail h.not_mem
        exact .later hlater List.mem_cons_self (hrow'.trans hrow) hmissed
          hstarted
      · exact (ih h.tail hjob hrow).cons j
    · obtain ⟨running, full, row', s', hrow', _, hrows, htick⟩ :
        ∃ (running full : Bool) (row' : ScheduleState) (s' : Shared), _ :=
        tick_due (h.rows j List.mem_cons_self) hlater
      have hcons : Backed registry jobs s'.rows := hrows ▸ h.update _
      rw [htick]
      rcases List.mem_cons.mp hjob with rfl | hjob
      · obtain ⟨hsame, hmissed, hstarted⟩ := tick_other hcons h.not_mem
        rw [hrows, Function.update_self] at hsame
        rw [hrow] at hrow'
        cases hrow'
        refine .due running full List.mem_cons_self hsame ?_ ?_
        · rw [missed_after, missedOf_self, hmissed, List.append_nil]
        · rw [started_after, if_pos rfl, hstarted, List.append_nil]
      · refine (ih hcons hjob ?_).after (hne hjob)
        rw [hrows, Function.update_of_ne (hne hjob).symm]
        exact hrow

/-- The row `row'` after a visit: it keeps its revisions, is due later than
`now` as the job is, counts the missed runs that were returned, and keeps the
books. -/
structure Outcome (now : ℤ) (job : Job) (row row' : ScheduleState) (r : TickResult) : Prop where
  stored : r.shared.rows job.monitorId = some row'
  monitorRevision : row'.monitorRevision = row.monitorRevision
  agentConfigRevision : row'.agentConfigRevision = row.agentConfigRevision
  installed : { job with nextDue := row'.nextDueAt } ∈ r.jobs
  later : now < row'.nextDueAt
  missed : row'.missedRunCount = row.missedRunCount + (missedOf job.monitorId r.missed).length
  balanced : ∀ first times, Balanced first job.assignment.interval times row →
    Balanced first job.assignment.interval
      (times ++ startTimes job.monitorId r.started) row'

theorem Visited.outcome {row : ScheduleState} {r : TickResult}
    (h : Visited now job row r) (hpos : 0 < job.assignment.interval)
    (hdue : row.nextDueAt = job.nextDue) : ∃ row', Outcome now job row row' r := by
  cases h with
  | later hlater hjob hrow hmissed hstarted =>
    refine ⟨row, hrow, rfl, rfl, hdue ▸ hjob, hdue ▸ hlater, ?_, fun first times h => ?_⟩
    · rw [hmissed]
      exact (Int.add_zero _).symm
    · rw [hstarted, List.append_nil]
      exact h
  | due running full hjob hrow hmissed hstarted =>
    refine ⟨_, hrow, rfl, rfl, hjob, (evaluate_spec hpos now running full).2,
      ?_, fun first times h => ?_⟩
    · rw [hmissed, length_missed]
      rfl
    · rw [hstarted]
      exact h.turn hpos hdue

theorem tick_outcome (h : Backed registry jobs s.rows) (hjob : job ∈ jobs)
    {row : ScheduleState} (hrow : s.rows job.monitorId = some row) :
    ∃ row', Outcome now job row row' (tick capacity now jobs s) := by
  obtain ⟨row', hrow', _, _, hdue⟩ := h.rows job hjob
  rw [hrow] at hrow'
  cases hrow'
  exact (tick_visited h hjob hrow).outcome (h.schedulable job hjob).interval_pos
    hdue

theorem Backed.eq_of_monitorId (h : Backed registry jobs rows)
    {j j' : Job} (hj : j ∈ jobs) (hj' : j' ∈ jobs) (heq : j.monitorId = j'.monitorId) : j = j' :=
  List.inj_on_of_nodup_map h.ids hj hj' heq

theorem Backed.tick (h : Backed registry jobs s.rows) :
    Backed registry (tick capacity now jobs s).jobs
      (tick capacity now jobs s).shared.rows := by
  have hassign := assignment_tick capacity now jobs s
  have hids : ((Agent.tick capacity now jobs s).jobs.map Job.monitorId).Nodup := by
    have hmap := congrArg (List.map Assignment.monitorId) hassign
    rw [List.map_map, List.map_map] at hmap
    exact hmap ▸ h.ids
  have hold : ∀ j ∈ (Agent.tick capacity now jobs s).jobs,
      ∃ job ∈ jobs, job.assignment = j.assignment := fun j hj =>
    List.mem_map.mp (hassign ▸ List.mem_map_of_mem hj)
  refine ⟨⟨hids, fun j hj => ?_⟩, fun j hj => ?_⟩
  · obtain ⟨job, hjob, heq⟩ := hold j hj
    exact heq ▸ h.schedulable job hjob
  · obtain ⟨job, hjob, heq⟩ := hold j hj
    obtain ⟨row, hrow, hmon, hagent, _⟩ := h.rows job hjob
    obtain ⟨row', hout⟩ : ∃ row', Outcome now job row row' _ :=
      tick_outcome h hjob hrow
    have : j = { job with nextDue := row'.nextDueAt } :=
      List.inj_on_of_nodup_map hids hj hout.installed
        (congrArg Assignment.monitorId heq.symm)
    rw [this]
    exact ⟨row', hout.stored, hout.monitorRevision.trans hmon,
      hout.agentConfigRevision.trans hagent, rfl⟩

end Tick

/-! ## Whole runs -/

/-- Assignments in which a monitor keeps its revisions and its interval. -/
def KeepsMonitor (a : Assignment) (as : List Assignment) : Prop :=
  ∃ b ∈ as, b.monitorId = a.monitorId ∧ b.monitorRevision = a.monitorRevision ∧
    b.agentConfigRevision = a.agentConfigRevision ∧ b.interval = a.interval

/-- What holds of a monitor between two operations, when its row was created
with the due time `first` and the runs `before` had been started. A process
that has just been started has no jobs yet. -/
structure Account (registry : Registry) (a : Assignment) (first : ℤ)
    (before : List (Assignment × ℤ)) (s : SchedulerProcess) : Prop where
  backed : Backed registry s.jobs s.shared.rows
  interval : ∀ job ∈ s.jobs, job.monitorId = a.monitorId → job.assignment.interval = a.interval
  assigned : s.jobs = [] ∨ ∃ job ∈ s.jobs, job.monitorId = a.monitorId
  books : ∃ row later, s.shared.rows a.monitorId = some row ∧
    row.monitorRevision = a.monitorRevision ∧ row.agentConfigRevision = a.agentConfigRevision ∧
    s.started = before ++ later ∧ Balanced first a.interval (startTimes a.monitorId later) row

section Runs

variable {ctx : SchedulerContext} {a : Assignment} {first now : ℤ}
  {before : List (Assignment × ℤ)} {s s' : SchedulerProcess}
  {as : List Assignment} {jobs : List Job} {rows rows' : ScheduleRows}

/-- The jobs that `Reconcile` installs agree with the rows it leaves. -/
theorem backed_reconcile
    (h : reconcile ctx.sha256 ctx.registry as now rows = (.ok jobs, rows')) :
    Backed ctx.registry jobs rows' := by
  obtain ⟨hacc, rfl, hrows⟩ := reconcile_inv h
  have hids : ((as.map (candidate ctx.sha256 now)).map
      (restoredJob now rows)).map Job.monitorId = as.map Assignment.monitorId := by
    rw [List.map_map, List.map_map]
    rfl
  have hold : ∀ job ∈ (as.map (candidate ctx.sha256 now)).map
      (restoredJob now rows), ∃ b ∈ as,
        job = restoredJob now rows (candidate ctx.sha256 now b) := by
    intro job hjob
    rw [List.map_map] at hjob
    obtain ⟨b, hb, heq⟩ := List.mem_map.mp hjob
    exact ⟨b, hb, heq.symm⟩
  refine ⟨⟨hids ▸ hacc.ids, fun job hjob => ?_⟩, fun job hjob => ?_⟩
  · obtain ⟨b, hb, rfl⟩ := hold job hjob
    exact hacc.schedulable b hb
  · obtain ⟨b, hb, rfl⟩ := hold job hjob
    obtain ⟨hmon, hagent, _⟩ := jobRow_spec now rows
      (candidate ctx.sha256 now b) (hacc.schedulable b hb).interval_pos
    exact ⟨_, hrows b hb, hmon, hagent, rfl⟩

/-- After a `Reconcile` that keeps a monitor, the monitor has a job, at the
same interval. -/
theorem assigned_reconcile (hkeeps : KeepsMonitor a as)
    (h : reconcile ctx.sha256 ctx.registry as now rows = (.ok jobs, rows')) :
    (∀ job ∈ jobs, job.monitorId = a.monitorId → job.assignment.interval = a.interval) ∧
      ∃ job ∈ jobs, job.monitorId = a.monitorId := by
  obtain ⟨b, hb, hid, _, _, hinterval⟩ := hkeeps
  have hassign := assignment_reconcile h
  obtain ⟨kept, hkept, heq⟩ : ∃ job ∈ jobs, job.assignment = b :=
    List.mem_map.mp (hassign.symm ▸ hb)
  have hkid : kept.monitorId = a.monitorId := by
    rw [Job.monitorId, heq, hid]
  refine ⟨fun job hjob hjid => ?_, kept, hkept, hkid⟩
  have : job = kept := (backed_reconcile h).eq_of_monitorId hjob hkept
    (hjid.trans hkid.symm)
  rw [this, heq, hinterval]

theorem Account.reconcile (h : Account ctx.registry a first before s) (hkeeps : KeepsMonitor a as)
    (hok : reconcile ctx.sha256 ctx.registry as now s.shared.rows = (.ok jobs, rows)) :
    Account ctx.registry a first before
      { s with jobs := jobs, shared := { s.shared with rows := rows } } := by
  obtain ⟨hinterval, hassigned⟩ := assigned_reconcile hkeeps hok
  refine ⟨backed_reconcile hok, hinterval, .inr hassigned, ?_⟩
  obtain ⟨row, later, hrow, hmon, hagent, hstarted, hbal⟩ := h.books
  obtain ⟨b, hb, hid, hbmon, hbagent, hbinterval⟩ := hkeeps
  obtain ⟨hacc, _, hrows⟩ := reconcile_inv hok
  have hpos : 0 < a.interval := hbinterval ▸ (hacc.schedulable b hb).interval_pos
  -- `RestoreSchedule` goes on from the row: the due times it passes are missed
  have hnew : jobRow now s.shared.rows (candidate ctx.sha256 now b) =
      ⟨a.monitorRevision, a.agentConfigRevision,
        (catchUp a.interval now row.nextDueAt).2, row.missedRunCount +
          (catchUp a.interval now row.nextDueAt).1.length⟩ := by
    rw [jobRow, candidate, Job.monitorId, hid, hrow, restoredRow, hbmon, hbagent, hbinterval]
    exact if_pos ⟨hmon, hagent⟩
  refine ⟨_, later, hid ▸ hrows b hb, ?_⟩
  rw [hnew]
  refine ⟨rfl, rfl, hstarted, hbal.miss _ ?_ rfl⟩
  exact (catchUp_spec hpos now row.nextDueAt).2.1

theorem Account.tick (h : Account ctx.registry a first before s)
    {order : List Job} (horder : order.Perm s.jobs) : Account ctx.registry a first before
      (s.ticked (tick ctx.capacity now order s.shared)) := by
  have hcons := h.backed.perm horder
  have hafter : Backed ctx.registry
      (Agent.tick ctx.capacity now order s.shared).jobs _ := hcons.tick
  have hassign := assignment_tick ctx.capacity now order s.shared
  have hold : ∀ j ∈ (Agent.tick ctx.capacity now order s.shared).jobs,
      ∃ job ∈ s.jobs, job.assignment = j.assignment := by
    intro j hj
    obtain ⟨job, hjob, heq⟩ := List.mem_map.mp
      (hassign ▸ List.mem_map_of_mem hj)
    exact ⟨job, horder.mem_iff.mp hjob, heq⟩
  obtain ⟨row, later, hrow, hmon, hagent, hstarted, hbal⟩ := h.books
  have hinterval : ∀ j ∈ (Agent.tick ctx.capacity now order s.shared).jobs,
      j.monitorId = a.monitorId → j.assignment.interval = a.interval := by
    intro j hj hid
    obtain ⟨job, hjob, heq⟩ := hold j hj
    rw [← heq]
    exact h.interval job hjob ((congrArg Assignment.monitorId heq).trans hid)
  rcases h.assigned with hnone | ⟨job, hjob, hid⟩
  · -- no jobs, so the loop has nothing to do
    rw [hnone, List.perm_nil] at horder
    subst horder
    refine ⟨hafter, hinterval, .inl rfl, row, later, hrow, hmon, hagent, ?_, hbal⟩
    rw [SchedulerProcess.ticked, Agent.tick, List.append_nil, hstarted]
  · obtain ⟨row', hout⟩ : ∃ row', Outcome now job row row' _ :=
      tick_outcome hcons (horder.mem_iff.mpr hjob) (hid ▸ hrow)
    refine ⟨hafter, hinterval, .inr ⟨_, hout.installed, hid⟩, row',
      later ++ (Agent.tick ctx.capacity now order s.shared).started,
      hid ▸ hout.stored, hout.monitorRevision.trans hmon,
      hout.agentConfigRevision.trans hagent, ?_, ?_⟩
    · rw [SchedulerProcess.ticked, hstarted, List.append_assoc]
    · rw [startTimes_append, ← hid, ← h.interval job hjob hid]
      refine hout.balanced first _ ?_
      rw [hid, h.interval job hjob hid]
      exact hbal

/-- Operations that leave the jobs or drop them, and leave the rows. -/
theorem Account.of_rows (h : Account ctx.registry a first before s)
    (hjobs : s'.jobs = s.jobs ∨ s'.jobs = [])
    (hrows : s'.shared.rows = s.shared.rows) (hstarted : s'.started = s.started) :
    Account ctx.registry a first before s' := by
  have hbooks := h.books
  rw [← hrows, ← hstarted] at hbooks
  rcases hjobs with hjobs | hjobs
  · refine ⟨?_, ?_, ?_, hbooks⟩
    · rw [hjobs, hrows]
      exact h.backed
    · rw [hjobs]
      exact h.interval
    · rw [hjobs]
      exact h.assigned
  · refine ⟨?_, ?_, .inl hjobs, hbooks⟩
    · rw [hjobs]
      exact ⟨⟨List.nodup_nil, fun _ h => (by cases h)⟩, fun _ h => (by cases h)⟩
    · rw [hjobs]
      exact fun _ h => (by cases h)

theorem Account.step (h : Account ctx.registry a first before s)
    (hstep : Operation ctx (KeepsMonitor a) s s') : Account ctx.registry a first before s' := by
  cases hstep with
  | reconcile as now hkeeps hok => exact h.reconcile hkeeps hok
  | @rejected e rows as now herror =>
    have hnot : ¬ Accepted ctx.registry as := by
      intro hacc
      obtain ⟨rows', hok, _⟩ : ∃ rows', Agent.reconcile ctx.sha256 ctx.registry
        as now s.shared.rows = (_, rows') ∧ _ := reconcile_accepted hacc
      rw [herror] at hok
      cases hok
    obtain ⟨e', he'⟩ : ∃ e', Agent.reconcile ctx.sha256 ctx.registry as now
      s.shared.rows = (.error e', s.shared.rows) := reconcile_rejected hnot
    rw [herror] at he'
    exact h.of_rows (.inl rfl) (congrArg Prod.snd he') rfl
  | tick now order horder => exact h.tick horder
  | clear id => exact h.of_rows (.inl rfl) rfl rfl
  | release => exact h.of_rows (.inl rfl) rfl rfl
  | restart => exact h.of_rows (.inr rfl) rfl rfl

theorem Account.run (h : Account ctx.registry a first before s)
    (hrun : Relation.ReflTransGen (Operation ctx (KeepsMonitor a)) s s') :
    Account ctx.registry a first before s' := by
  induction hrun with
  | refl => exact h
  | tail _ hstep ih => exact ih.step hstep

/-- A row that `Reconcile` creates opens the books. -/
theorem account_created (ha : a ∈ as) (hnew : Resets s.shared.rows (candidate ctx.sha256 now a))
    (hok : reconcile ctx.sha256 ctx.registry as now s.shared.rows = (.ok jobs, rows)) :
    Account ctx.registry a (candidate ctx.sha256 now a).nextDue s.started
      { s with jobs := jobs, shared := { s.shared with rows := rows } } := by
  obtain ⟨hinterval, hassigned⟩ :=
    assigned_reconcile ⟨a, ha, rfl, rfl, rfl, rfl⟩ hok
  have hrow := (reconcile_inv hok).2.2 a ha
  rw [jobRow_of_resets now hnew] at hrow
  exact ⟨backed_reconcile hok, hinterval, .inr hassigned, _, [], hrow, rfl,
    rfl, (List.append_nil _).symm, .opened rfl rfl⟩

/-- A monitor's row is created by a `Reconcile`, and every later `Reconcile`
keeps the monitor, its revisions and its interval. Then at any later time,
however the operations and the restarts came and whatever times they were
given, the runs started since and the missed runs in the row add up to the
intervals between the first due time and the row's; the runs were started at
distinct due times; and the next `Tick` succeeds, returns as many missed runs
of the monitor as it adds to the row, and, unless the process has not
reconciled since it was started, leaves the monitor due later than its time. -/
theorem runs_accounted (ha : a ∈ as) (hnew : Resets s.shared.rows (candidate ctx.sha256 now a))
    (hok : reconcile ctx.sha256 ctx.registry as now s.shared.rows = (.ok jobs, rows))
    (hrun : Relation.ReflTransGen (Operation ctx (KeepsMonitor a))
      { s with jobs := jobs, shared := { s.shared with rows := rows } } s') :
    ∃ (row : ScheduleState) (later : List (Assignment × ℤ)) (ks : List ℕ),
      s'.shared.rows a.monitorId = some row ∧ s'.started = s.started ++ later ∧
      startTimes a.monitorId later = ks.map (fun k : ℕ =>
        now + deterministicJitter ctx.sha256 a.monitorId a.interval + k * a.interval) ∧ ks.Nodup ∧
      a.interval ∣ row.nextDueAt -
        (now + deterministicJitter ctx.sha256 a.monitorId a.interval) ∧
      ((startTimes a.monitorId later).length : ℤ) + row.missedRunCount = (row.nextDueAt -
          (now + deterministicJitter ctx.sha256 a.monitorId a.interval)) /
            a.interval ∧ ∀ (time : ℤ) (order : List Job), order.Perm s'.jobs →
        (tick ctx.capacity time order s'.shared).error = none ∧
        ∃ row', (tick ctx.capacity time order s'.shared).shared.rows
            a.monitorId = some row' ∧ ((missedOf a.monitorId (tick ctx.capacity time order
              s'.shared).missed).length : ℤ) = row'.missedRunCount - row.missedRunCount ∧
          (s'.jobs = [] ∨ ∃ job ∈ (tick ctx.capacity time order s'.shared).jobs,
              job.monitorId = a.monitorId ∧ job.nextDue = row'.nextDueAt ∧ time < job.nextDue) := by
  have hacc := (account_created ha hnew hok).run hrun
  have hpos := ((reconcile_inv hok).1.schedulable a ha).interval_pos
  obtain ⟨row, later, hrow, _, _, hstarted, hbal⟩ := hacc.books
  obtain ⟨hdvd, hcount⟩ := hbal.count hpos
  obtain ⟨ks, _, htimes, hnodup, _⟩ := hbal
  refine ⟨row, later, ks, hrow, hstarted, htimes, hnodup, hdvd, hcount, fun time order horder => ?_⟩
  have hcons := hacc.backed.perm horder
  refine ⟨error_tick hcons, ?_⟩
  rcases hacc.assigned with hnone | ⟨job, hjob, hid⟩
  · rw [hnone, List.perm_nil] at horder
    subst horder
    exact ⟨row, hrow, (Int.sub_self _).symm, .inl hnone⟩
  · obtain ⟨row', hout⟩ : ∃ row', Outcome time job row row' _ :=
      tick_outcome hcons (horder.mem_iff.mpr hjob) (hid ▸ hrow)
    refine ⟨row', hid ▸ hout.stored, ?_, .inr ⟨_, hout.installed, hid, rfl, hout.later⟩⟩
    rw [hout.missed, hid]
    omega

end Runs

/-! ## A restart

The first `Tick` comes 150 s after the monitor was due: it starts that run and
misses two. The process then restarts, and misses three more until it
reconciles after 300 s. -/

/-- The monitor is assigned at the given time. -/
def soloReconciled (now : ℤ) (s : SchedulerProcess) : SchedulerProcess :=
  { s with
    jobs := [restoredJob now s.shared.rows
      (candidate soloContext.sha256 now (soloAssignment "m" 1))]
    shared := { s.shared with
      rows := (reconcile soloContext.sha256 soloContext.registry
        [soloAssignment "m" 1] now s.shared.rows).2 } }

def soloCreated : SchedulerProcess :=
  soloReconciled 0 ⟨[], ⟨fun _ => none, fun _ => false, 0⟩, []⟩

def soloTicked : SchedulerProcess :=
  soloCreated.ticked (tick soloContext.capacity (150 * second) soloCreated.jobs
    soloCreated.shared)

def soloRestarted : SchedulerProcess :=
  soloReconciled (300 * second) { soloTicked with
    jobs := []
    shared := ⟨soloTicked.shared.rows, fun _ => false, 0⟩ }

theorem soloAssignment_accepted : Accepted soloContext.registry [soloAssignment "m" 1] := by
  refine ⟨fun a ha => ?_, List.nodup_singleton "m"⟩
  rw [List.mem_singleton.mp ha]
  exact ⟨by decide, by decide, by decide, by decide, by decide, by decide, by decide, rfl⟩

theorem reconcile_solo (now : ℤ) (rows : ScheduleRows) :
    reconcile soloContext.sha256 soloContext.registry [soloAssignment "m" 1] now
      rows = (.ok [restoredJob now rows
        (candidate soloContext.sha256 now (soloAssignment "m" 1))],
        (reconcile soloContext.sha256 soloContext.registry
          [soloAssignment "m" 1] now rows).2) := by
  obtain ⟨rows', hok, _⟩ : ∃ rows', reconcile soloContext.sha256
      soloContext.registry [soloAssignment "m" 1] now rows = (_, rows') ∧ _ :=
    reconcile_accepted soloAssignment_accepted
  rw [hok]
  rfl

theorem soloRun : Relation.ReflTransGen
    (Operation soloContext (KeepsMonitor (soloAssignment "m" 1))) soloCreated
    soloRestarted := by
  refine .tail (.tail (.single (.tick (150 * second) _ (.refl _))) .restart)
    (.reconcile [soloAssignment "m" 1] (300 * second) ?_ (reconcile_solo _ _))
  exact ⟨_, List.mem_singleton_self _, rfl, rfl, rfl, rfl⟩

theorem runs_accounted_restart : startTimes "m" soloRestarted.started = [0] ∧
    ∃ row, soloRestarted.shared.rows "m" = some row ∧ row.missedRunCount = 5 ∧
      ((startTimes "m" soloRestarted.started).length : ℤ) + row.missedRunCount =
        row.nextDueAt / (60 * second) := by
  have hnew : Resets (fun _ => none) (candidate soloContext.sha256 0
    (soloAssignment "m" 1)) := trivial
  obtain ⟨row, later, _, hrow, hstarted, _, _, _, hcount, _⟩ := runs_accounted
    (List.mem_singleton_self (soloAssignment "m" 1)) hnew
    (reconcile_solo 0 fun _ => none) soloRun
  refine ⟨by decide +kernel, row, hrow, ?_, ?_⟩
  · have hmissed : (soloRestarted.shared.rows "m").map
        ScheduleState.missedRunCount = some 5 := by decide +kernel
    rw [show soloRestarted.shared.rows "m" = some row from hrow] at hmissed
    exact Option.some.inj hmissed
  · rw [hstarted]
    refine hcount.trans ?_
    rw [show (0 : ℤ) + deterministicJitter soloContext.sha256
      (soloAssignment "m" 1).monitorId (soloAssignment "m" 1).interval = 0 from by
      decide, Int.sub_zero]
    rfl

end Bifrostnms.Proofs
