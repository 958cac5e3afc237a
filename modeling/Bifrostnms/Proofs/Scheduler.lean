import Bifrostnms.Agent.Scheduler
import Mathlib.Tactic.Ring

/-!
# What the scheduler's functions do

One contract a function. `Reconcile` accepts exactly the lists of assignments
that are each in order and name no monitor twice, and the jobs it installs have
those assignments, in that order, whatever the rows held before; `Tick` moves
due times and nothing else of a job.
-/

namespace Bifrostnms.Proofs

open Bifrostnms.Lib Bifrostnms.Agent

/-! ## Catching up -/

/-- The loop passes the due times up to `now`, one interval apart, and stops
at the first one after. -/
theorem catchUp_spec {interval : ℤ} (hpos : 0 < interval) (now due : ℤ) :
    (catchUp interval now due).1 = (List.range (catchUp interval now due).1.length).map
          (fun k : ℕ => due + k * interval) ∧ (catchUp interval now due).2 =
        due + (catchUp interval now due).1.length * interval ∧
      now < (catchUp interval now due).2 := by
  fun_induction catchUp interval now due with
  | case1 due hstop =>
    refine ⟨rfl, by simp, ?_⟩
    show now < due
    omega
  | case2 due hgo rest ih =>
    obtain ⟨htimes, hnext, hlater⟩ := ih
    refine ⟨?_, ?_, hlater⟩
    · show due :: rest.1 = (List.range (rest.1.length + 1)).map _
      rw [List.range_succ_eq_map, List.map_cons, List.map_map]
      refine List.cons_eq_cons.mpr ⟨by push_cast; ring, htimes.trans ?_⟩
      refine List.map_congr_left fun k _ => ?_
      show due + interval + k * interval = due + ((k + 1 : ℕ) : ℤ) * interval
      push_cast
      ring
    · show rest.2 = due + ((rest.1.length + 1 : ℕ) : ℤ) * interval
      rw [hnext]
      push_cast
      ring

theorem le_catchUp {interval : ℤ} (hpos : 0 < interval) (now due : ℤ) :
    due ≤ (catchUp interval now due).2 := by
  rw [(catchUp_spec hpos now due).2.1]
  have : 0 ≤ ((catchUp interval now due).1.length : ℤ) * interval := by positivity
  omega

/-! ## The checks of `Reconcile` -/

/-- What `Reconcile` asks of one assignment. -/
structure Schedulable (registry : Registry) (a : Assignment) : Prop where
  monitorId : a.monitorId ≠ ""
  monitorRevision : 1 ≤ a.monitorRevision
  agentConfigRevision : 1 ≤ a.agentConfigRevision
  targetId : a.targetId ≠ ""
  targetAddress : a.targetAddress ≠ ""
  interval : minimumInterval ≤ a.interval ∧ a.interval ≤ maximumInterval
  timeout : minimumTimeout ≤ a.timeout ∧ a.timeout < a.interval
  configuration : registry.validate a.probeType a.configurationSchemaVersion
    a.configuration = .ok ()

theorem Schedulable.interval_pos {registry : Registry} {a : Assignment}
    (h : Schedulable registry a) : 0 < a.interval := by
  have hmin : minimumInterval = 5000000000 := rfl
  have := h.interval.1
  omega

theorem checkAssignment_ok {registry : Registry} {validated : List Job}
    {a : Assignment} : checkAssignment registry validated a = .ok () ↔ Schedulable registry a ∧
        a.monitorId ∉ validated.map Job.monitorId := by
  have hany : (validated.any fun job => job.monitorId == a.monitorId) = true ↔
      a.monitorId ∈ validated.map Job.monitorId := by
    rw [List.any_eq_true, List.mem_map]
    exact exists_congr fun job => and_congr_right fun _ => beq_iff_eq
  unfold checkAssignment
  refine ⟨fun h => ?_, fun h => ?_⟩
  · split at h
    · cases h
    next hid =>
    split at h
    · cases h
    next hbounds =>
    split at h
    · cases h
    next hnew =>
    simp only [not_or, not_lt, not_le] at hid hbounds
    exact ⟨⟨hid.1, hid.2.1, hid.2.2.1, hid.2.2.2.1, hid.2.2.2.2,
      ⟨hbounds.1, hbounds.2.1⟩, ⟨hbounds.2.2.1, hbounds.2.2.2⟩, h⟩,
      fun hmem => hnew (hany.mpr hmem)⟩
  · obtain ⟨hok, hnew⟩ := h
    rw [if_neg, if_neg, if_neg (fun h => hnew (hany.mp h))]
    · exact hok.configuration
    · simp only [not_or, not_lt, not_le]
      exact ⟨hok.interval.1, hok.interval.2, hok.timeout.1, hok.timeout.2⟩
    · simp only [not_or, not_lt]
      exact ⟨hok.monitorId, hok.monitorRevision, hok.agentConfigRevision,
        hok.targetId, hok.targetAddress⟩

/-- The job `Reconcile` builds before it looks at the row. -/
def candidate (sha256 : List UInt8 → List UInt8) (now : ℤ) (a : Assignment) :
    Job := ⟨a, now + deterministicJitter sha256 a.monitorId a.interval⟩

theorem monitorId_candidate (sha256 : List UInt8 → List UInt8) (now : ℤ)
    (as : List Assignment) : (as.map (candidate sha256 now)).map Job.monitorId =
      as.map Assignment.monitorId := by
  rw [List.map_map]
  rfl

/-- The loop accepts the assignments that are in order and new, and no
others. -/
theorem validateAssignments_ok {sha256 : List UInt8 → List UInt8}
    {registry : Registry} {now : ℤ} {jobs validated : List Job} {as : List Assignment} :
    validateAssignments sha256 registry now validated as = .ok jobs ↔
      (∀ a ∈ as, Schedulable registry a) ∧ (as.map Assignment.monitorId).Nodup ∧
        (∀ a ∈ as, a.monitorId ∉ validated.map Job.monitorId) ∧
        jobs = validated ++ as.map (candidate sha256 now) := by
  induction as generalizing validated with
  | nil =>
    rw [validateAssignments]
    simp [eq_comm]
  | cons a as ih =>
    rw [validateAssignments]
    have hcheck : checkAssignment registry validated a = .ok () ↔ _ :=
      checkAssignment_ok
    split
    · next e he =>
        refine ⟨fun h => (by cases h), fun h => ?_⟩
        rw [hcheck.mpr ⟨h.1 a List.mem_cons_self, h.2.2.1 a List.mem_cons_self⟩] at he
        cases he
    · next hok =>
        obtain ⟨ha, hnew⟩ := hcheck.mp hok
        rw [ih, List.forall_mem_cons, List.map_cons, List.nodup_cons,
          List.forall_mem_cons, List.map_cons, List.map_append, List.append_assoc]
        simp only [List.mem_append, not_or, List.map_cons, List.map_nil,
          List.mem_singleton, List.singleton_append]
        refine ⟨fun h => ⟨⟨ha, h.1⟩, ⟨?_, h.2.1⟩, ⟨hnew, fun b hb =>
          (h.2.2.1 b hb).1⟩, h.2.2.2⟩, fun h => ⟨h.1.2, h.2.1.2, fun b hb =>
          ⟨h.2.2.1.2 b hb, ?_⟩, h.2.2.2⟩⟩
        · intro hmem
          obtain ⟨b, hb, heq⟩ := List.mem_map.mp hmem
          exact (h.2.2.1 b hb).2 heq
        · intro heq
          exact h.2.1.1 (List.mem_map.mpr ⟨b, hb, heq⟩)

/-! ## Jobs and their rows -/

/-- The row of a job, at its revisions and its due time. -/
def RowOf (rows : ScheduleRows) (job : Job) : Prop :=
  ∃ row, rows job.monitorId = some row ∧ row.monitorRevision = job.assignment.monitorRevision ∧
    row.agentConfigRevision = job.assignment.agentConfigRevision ∧ row.nextDueAt = job.nextDue

/-- Jobs that `Reconcile` has checked. -/
structure Checked (registry : Registry) (jobs : List Job) : Prop where
  ids : (jobs.map Job.monitorId).Nodup
  schedulable : ∀ job ∈ jobs, Schedulable registry job.assignment

theorem RowOf.update_of_ne {rows : ScheduleRows} {job : Job}
    (h : RowOf rows job) {id : String} {row : Option ScheduleState}
    (hid : job.monitorId ≠ id) : RowOf (Function.update rows id row) job := by
  obtain ⟨r, hr, hrest⟩ := h
  exact ⟨r, (Function.update_of_ne hid _ _).trans hr, hrest⟩

/-- The row after a turn. -/
def advancedRow (row : ScheduleState) (turn : Turn) : ScheduleState :=
  { row with
    nextDueAt := turn.nextDue
    missedRunCount := row.missedRunCount + turn.missedCount }

/-- A row that agrees with its job can be advanced. -/
theorem advanceJob_ok {rows : ScheduleRows} {job : Job} (h : RowOf rows job)
    (turn : Turn) : ∃ row, rows job.monitorId = some row ∧
      row.nextDueAt = job.nextDue ∧ advanceJob rows job turn =
        .ok (Function.update rows job.monitorId
          (some (advancedRow row turn))) := by
  obtain ⟨row, hrow, hmon, hagent, hdue⟩ := h
  refine ⟨row, hrow, hdue, ?_⟩
  unfold advanceJob advanceSchedule
  rw [hrow]
  dsimp only
  rw [if_pos ⟨hmon, hagent⟩]
  rfl

theorem lt_evaluate {now : ℤ} {job : Job} (h : 0 < job.assignment.interval)
    (running full : Bool) : job.nextDue < (evaluate now job running full).nextDue := by
  have hle := le_catchUp h now (job.nextDue + job.assignment.interval)
  show job.nextDue < (catchUp job.assignment.interval now
    (job.nextDue + job.assignment.interval)).2
  omega

/-! ## Restoring the rows -/

/-- The row that `RestoreSchedule` leaves for a job. -/
def jobRow (now : ℤ) (rows : ScheduleRows) (job : Job) : ScheduleState :=
  restoredRow (rows job.monitorId) job.assignment.monitorRevision
    job.assignment.agentConfigRevision job.nextDue job.assignment.interval now

/-- `RestoreSchedule` does not go on from the row it finds. -/
def Resets (rows : ScheduleRows) (job : Job) : Prop :=
  match rows job.monitorId with
  | none => True
  | some row => ¬ (row.monitorRevision = job.assignment.monitorRevision ∧
      row.agentConfigRevision = job.assignment.agentConfigRevision)

instance (rows : ScheduleRows) (job : Job) : Decidable (Resets rows job) := by
  unfold Resets
  split <;> infer_instance

theorem jobRow_of_resets (now : ℤ) {rows : ScheduleRows} {job : Job}
    (h : Resets rows job) : jobRow now rows job =
      ⟨job.assignment.monitorRevision, job.assignment.agentConfigRevision, job.nextDue, 0⟩ := by
  unfold Resets at h
  unfold jobRow restoredRow
  split
  · rfl
  · next row hrow =>
      rw [hrow] at h
      exact if_neg h

/-- The restored row has the revisions of the job, and goes on from the old
row or starts at the job's due time. -/
theorem jobRow_spec (now : ℤ) (rows : ScheduleRows) (job : Job) (h : 0 < job.assignment.interval) :
    (jobRow now rows job).monitorRevision = job.assignment.monitorRevision ∧
      (jobRow now rows job).agentConfigRevision = job.assignment.agentConfigRevision ∧
      ((Resets rows job ∧ (jobRow now rows job).nextDueAt = job.nextDue) ∨
        ∃ row, rows job.monitorId = some row ∧
          row.nextDueAt ≤ (jobRow now rows job).nextDueAt) := by
  unfold jobRow restoredRow
  split
  · next hnone =>
      refine ⟨rfl, rfl, .inl ⟨?_, rfl⟩⟩
      rw [Resets, hnone]
      trivial
  · next row hrow =>
      split_ifs with hrevs
      · exact ⟨rfl, rfl, .inr ⟨row, hrow, le_catchUp h now row.nextDueAt⟩⟩
      · refine ⟨rfl, rfl, .inl ⟨?_, rfl⟩⟩
        rw [Resets, hrow]
        exact hrevs

theorem restoreJob_ok {registry : Registry} {now : ℤ} {rows : ScheduleRows}
    {job : Job} (h : Schedulable registry job.assignment) : restoreJob now rows job =
      .ok ({ job with nextDue := (jobRow now rows job).nextDueAt },
        Function.update rows job.monitorId (some (jobRow now rows job))) := by
  have hpos := h.interval_pos
  have hmon := h.monitorRevision
  have hagent := h.agentConfigRevision
  unfold restoreJob restoreSchedule
  rw [if_neg]
  · rfl
  · rw [not_or, not_or, not_or]
    exact ⟨h.monitorId, by omega, by omega, by omega⟩

theorem jobRow_congr {now : ℤ} {rows rows' : ScheduleRows} {job : Job}
    (h : rows' job.monitorId = rows job.monitorId) :
    jobRow now rows' job = jobRow now rows job := by
  rw [jobRow, jobRow, h]

/-- A job with the due time of its restored row. -/
def restoredJob (now : ℤ) (rows : ScheduleRows) (job : Job) : Job :=
  { job with nextDue := (jobRow now rows job).nextDueAt }

/-- The loop restores each row from what it found, whatever the order. -/
theorem restoreJobs_spec {registry : Registry} (now : ℤ) {jobs : List Job}
    (rows : ScheduleRows) (h : Checked registry jobs) : ∃ rows', restoreJobs now jobs rows =
        (.ok (jobs.map (restoredJob now rows)), rows') ∧
      (∀ job ∈ jobs, rows' job.monitorId = some (jobRow now rows job)) ∧
      ∀ id, id ∉ jobs.map Job.monitorId → rows' id = rows id := by
  induction jobs generalizing rows with
  | nil => exact ⟨rows, rfl, fun _ h => (by cases h), fun _ _ => rfl⟩
  | cons job jobs ih =>
    obtain ⟨hids, hok⟩ := h
    rw [List.map_cons, List.nodup_cons] at hids
    rw [List.forall_mem_cons] at hok
    obtain ⟨rows', hrest, hrows, hother⟩ := ih (Function.update rows
      job.monitorId (some (jobRow now rows job))) ⟨hids.2, hok.2⟩
    have hsame : ∀ j ∈ jobs, jobRow now (Function.update rows job.monitorId
        (some (jobRow now rows job))) j = jobRow now rows j := by
      intro j hj
      refine jobRow_congr (Function.update_of_ne ?_ _ _)
      exact fun heq => hids.1 (List.mem_map.mpr ⟨j, hj, heq⟩)
    refine ⟨rows', ?_, ?_, ?_⟩
    · rw [restoreJobs, restoreJob_ok hok.1]
      dsimp only
      rw [hrest, List.map_cons, List.map_congr_left fun j hj => by
        rw [restoredJob, hsame j hj, ← restoredJob]]
      rfl
    · rw [List.forall_mem_cons]
      refine ⟨?_, fun j hj => (hrows j hj).trans (by rw [hsame j hj])⟩
      rw [hother job.monitorId hids.1, Function.update_self]
    · intro id hid
      rw [List.map_cons, List.mem_cons, not_or] at hid
      rw [hother id hid.2, Function.update_of_ne hid.1]

/-! ## Reconcile as a whole -/

/-- Lists of assignments that are each in order and name no monitor twice. -/
structure Accepted (registry : Registry) (as : List Assignment) : Prop where
  schedulable : ∀ a ∈ as, Schedulable registry a
  ids : (as.map Assignment.monitorId).Nodup

theorem Accepted.candidates {registry : Registry} {as : List Assignment}
    (h : Accepted registry as) (sha256 : List UInt8 → List UInt8) (now : ℤ) :
    Checked registry (as.map (candidate sha256 now)) := by
  refine ⟨(monitorId_candidate sha256 now as).symm ▸ h.ids, fun job hjob => ?_⟩
  obtain ⟨a, ha, rfl⟩ := List.mem_map.mp hjob
  exact h.schedulable a ha

theorem validateAssignments_accepted {sha256 : List UInt8 → List UInt8}
    {registry : Registry} {now : ℤ} {as : List Assignment} {jobs : List Job} :
    validateAssignments sha256 registry now [] as = .ok jobs ↔
      Accepted registry as ∧ jobs = as.map (candidate sha256 now) := by
  rw [validateAssignments_ok]
  exact ⟨fun h => ⟨⟨h.1, h.2.1⟩, h.2.2.2⟩, fun h =>
    ⟨h.1.schedulable, h.1.ids, fun _ _ hmem => (by cases hmem), h.2⟩⟩

section Reconcile

variable {sha256 : List UInt8 → List UInt8} {registry : Registry}
  {as : List Assignment} {now : ℤ} {rows : ScheduleRows}

/-- Accepted assignments become jobs, with their rows restored. -/
theorem reconcile_accepted (h : Accepted registry as) :
    ∃ rows', reconcile sha256 registry as now rows =
        (.ok ((as.map (candidate sha256 now)).map (restoredJob now rows)), rows') ∧
      ∀ a ∈ as, rows' a.monitorId = some (jobRow now rows (candidate sha256 now a)) := by
  obtain ⟨rows', hrestore, hrows, _⟩ :=
    restoreJobs_spec now rows (h.candidates sha256 now)
  have hids : ((as.map (candidate sha256 now)).map (restoredJob now rows)).map
      Job.monitorId = as.map Assignment.monitorId := by
    rw [List.map_map, List.map_map]
    rfl
  refine ⟨removeSchedulesExcept rows' (as.map Assignment.monitorId), ?_, fun a ha => ?_⟩
  · rw [reconcile, validateAssignments_accepted.mpr ⟨h, rfl⟩]
    dsimp only
    rw [hrestore]
    dsimp only
    rw [hids]
  · rw [removeSchedulesExcept, if_pos (List.mem_map_of_mem ha)]
    exact hrows _ (List.mem_map_of_mem ha)

/-- Other assignments change nothing. -/
theorem reconcile_rejected (h : ¬ Accepted registry as) :
    ∃ e, reconcile sha256 registry as now rows = (.error e, rows) := by
  cases hval : validateAssignments sha256 registry now [] as with
  | error e => exact ⟨e, by rw [reconcile, hval]⟩
  | ok jobs => exact absurd (validateAssignments_accepted.mp hval).1 h

theorem reconcile_ok : (∃ jobs rows', reconcile sha256 registry as now rows = (.ok jobs, rows')) ↔
      Accepted registry as := by
  refine ⟨fun h => ?_, fun h => ?_⟩
  · obtain ⟨jobs, rows', h⟩ := h
    by_contra hnot
    obtain ⟨e, he⟩ : ∃ e, reconcile sha256 registry as now rows =
      (.error e, rows) := reconcile_rejected hnot
    rw [he] at h
    cases h
  · obtain ⟨rows', hok, _⟩ := reconcile_accepted h
    exact ⟨_, rows', hok⟩

/-- What a `Reconcile` that succeeds has done. -/
theorem reconcile_inv {jobs : List Job} {rows' : ScheduleRows}
    (h : reconcile sha256 registry as now rows = (.ok jobs, rows')) : Accepted registry as ∧
      jobs = (as.map (candidate sha256 now)).map (restoredJob now rows) ∧
      ∀ a ∈ as, rows' a.monitorId = some (jobRow now rows (candidate sha256 now a)) := by
  have hacc := reconcile_ok.mp ⟨jobs, rows', h⟩
  obtain ⟨rows₁, hok, hrows⟩ : ∃ rows₁, reconcile sha256 registry as now rows =
    (_, rows₁) ∧ _ := reconcile_accepted hacc
  rw [h] at hok
  cases hok
  exact ⟨hacc, rfl, hrows⟩

/-- The jobs that `Reconcile` installs have the assignments it was given. -/
theorem assignment_reconcile {jobs : List Job} {rows' : ScheduleRows}
    (h : reconcile sha256 registry as now rows = (.ok jobs, rows')) :
    jobs.map Job.assignment = as := by
  obtain ⟨_, rfl, _⟩ := reconcile_inv h
  rw [List.map_map, List.map_map]
  exact List.map_id as

end Reconcile

/-! ## Tick -/

/-- `Tick` keeps the assignments of the jobs, whether it fails or not. -/
theorem assignment_tick (capacity : ℕ) (now : ℤ) (jobs : List Job) (s : Shared) :
    (tick capacity now jobs s).jobs.map Job.assignment = jobs.map Job.assignment := by
  induction jobs generalizing s with
  | nil => rfl
  | cons job jobs ih =>
    rw [tick]
    split
    · rw [List.map_cons, List.map_cons, ih]
    · dsimp only
      split
      · rfl
      · rw [TickResult.after, List.map_cons, List.map_cons, ih]

/-! ## A small scheduler

One worker, a probe that takes any configuration, and monitors that are due
every minute without jitter. -/

def soloContext : SchedulerContext :=
  ⟨fun _ => [], fun _ => some ⟨1, 1, fun _ => .ok ()⟩, 1⟩

def soloAssignment (monitorId : String) (revision : ℤ) : Assignment where
  probeType := "tcp"
  configurationSchemaVersion := 1
  agentConfigRevision := revision
  monitorId := monitorId
  monitorRevision := 1
  targetId := "target"
  targetAddress := "router.example"
  interval := 60 * second
  timeout := 5 * second
  configuration := []

end Bifrostnms.Proofs
