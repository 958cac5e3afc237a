import Bifrostnms.Proofs.Activation
import Mathlib.Logic.Relation

/-!
# The scheduler follows the active configuration

The jobs of the scheduler and the active snapshot of the store are written in
different steps, and the loop of `main.run` writes the first only when the poll
that wrote the second reports no error. A poll reports one also when it has
activated a configuration and only the acknowledgement failed. From then on the
store holds one configuration and the scheduler runs another: later polls name
the stored revision, are answered 304, and report no update.

As long as no acknowledgement fails in that place the two agree after every
step. What carries the induction is that a poll which reports no update has
left the table alone, and that activating the active revision once more does
not change its content.
-/

namespace Bifrostnms.Proofs

open Bifrostnms.Lib Bifrostnms.Protocol Bifrostnms.Agent Relation

/-- The scheduler runs the assignments of the active snapshot. -/
def Loaded (p : AgentProcess) : Prop :=
  ∃ as, p.table.activeAssignments = .ok as ∧ (p.jobs.map Job.assignment).Perm as

def activeRevision (t : ConfigurationTable) : Option ℤ :=
  t.activeConfiguration.map ConfigurationSnapshot.revision

/-- The poll does not report an error after it has activated another revision
than the active one. -/
def Acknowledged (ctx : AgentContext) (p : AgentProcess) (poll : Poll) : Prop :=
  (synchronizeConfiguration ctx poll p.table).updated = true →
    (synchronizeConfiguration ctx poll p.table).error = none ∨
      activeRevision (synchronizeConfiguration ctx poll p.table).table = activeRevision p.table

/-- A load that succeeds installs the assignments of the active snapshot. -/
theorem load_loaded {ctx : AgentContext} {now : ℤ} {t : ConfigurationTable}
    {rows : ScheduleRows} {jobs : List Job}
    (h : (loadActiveConfiguration ctx now t rows).1 = .ok jobs) : Loaded ⟨t, jobs⟩ := by
  unfold loadActiveConfiguration at h
  split at h
  · cases h
  · next as has =>
      refine ⟨as, has, ?_⟩
      rw [assignment_reconcile (Prod.ext h rfl)]

/-- The assignments depend on the revision and the payload of the active row
alone. -/
theorem activeAssignments_congr {t t' : ConfigurationTable}
    {row row' : ConfigurationSnapshot} (h : t.activeConfiguration = some row)
    (h' : t'.activeConfiguration = some row') (hrev : row'.revision = row.revision)
    (hpayload : row'.canonicalPayload = row.canonicalPayload) :
    t'.activeAssignments = t.activeAssignments := by
  rw [ConfigurationTable.activeAssignments, ConfigurationTable.activeAssignments, h, h']
  dsimp only
  rw [hrev, hpayload]

/-- Activating the active revision again does not change the assignments. -/
theorem activeAssignments_reactivated {t t' : ConfigurationTable} {snapshot : ConfigurationSnapshot}
    (h : t.activateConfiguration snapshot = .ok t') (hrev : activeRevision t' = activeRevision t) :
    t'.activeAssignments = t.activeAssignments := by
  obtain ⟨row', hactive', hrev', hpayload'⟩ := activateConfiguration_active h
  rw [activeRevision, activeRevision, hactive'] at hrev
  obtain ⟨row, hactive, hrow⟩ := Option.map_eq_some_iff.mp hrev.symm
  have hpayload : row.canonicalPayload = snapshot.canonicalPayload :=
    payload_of_activateConfiguration h (List.mem_of_find?_eq_some hactive)
      (hrow.trans hrev')
  exact activeAssignments_congr hactive hactive' hrow.symm
    (hpayload'.trans hpayload.symm)

/-- A tick that does not load leaves the jobs; a poll that is acknowledged
leaves the assignments that belong to them. -/
theorem configurationTick_loaded {ctx : AgentContext} {poll : Poll} {now : ℤ}
    {rows : ScheduleRows} {p p' : AgentProcess} (h : Loaded p) (hpoll : Acknowledged ctx p poll)
    (htick : configurationTick ctx poll now rows p = .ok p') : Loaded p' := by
  have hkeep : (synchronizeConfiguration ctx poll p.table).updated = false ∨
      (synchronizeConfiguration ctx poll p.table).error ≠ none →
      (synchronizeConfiguration ctx poll p.table).table.activeAssignments =
        p.table.activeAssignments := by
    intro hcase
    rcases synchronizeConfiguration_cases ctx poll p.table with ⟨_, hsame⟩ |
      ⟨hupdated, d, _, _, hact⟩
    · rw [hsame]
    · refine activeAssignments_reactivated hact ?_
      refine (hpoll hupdated).resolve_left fun hnone => ?_
      rcases hcase with hnot | herror
      · rw [hnot] at hupdated
        cases hupdated
      · exact herror hnone
  obtain ⟨as, has, hperm⟩ := h
  unfold configurationTick at htick
  dsimp only at htick
  split at htick
  · next e he =>
      cases htick
      exact ⟨as, (hkeep (.inr (by rw [he]; exact Option.some_ne_none e))).trans has, hperm⟩
  · split at htick
    · split at htick
      · cases htick
      · next jobs hload =>
          cases htick
          exact load_loaded hload
    · next hnot =>
        cases htick
        exact ⟨as, (hkeep (.inl (Bool.eq_false_iff.mpr hnot))).trans has, hperm⟩

theorem step_loaded {ctx : AgentContext} {p p' : AgentProcess} (h : Loaded p)
    (hstep : ProcessStep ctx (Acknowledged ctx) p p') : Loaded p' := by
  cases hstep with
  | configuration poll now rows hpoll htick =>
    exact configurationTick_loaded h hpoll htick
  | schedule capacity now order shared horder =>
    obtain ⟨as, has, hperm⟩ := h
    refine ⟨as, has, ?_⟩
    dsimp only
    rw [assignment_tick]
    exact (horder.map _).trans hperm

/-- In a run whose polls are all acknowledged, the scheduler runs the
assignments of the active snapshot after every step. -/
theorem process_loaded {ctx : AgentContext} {poll : Poll} {now : ℤ}
    {rows : ScheduleRows} {t : ConfigurationTable} {p₀ p : AgentProcess}
    (hstart : startProcess ctx poll now rows t = .ok p₀)
    (hrun : ReflTransGen (ProcessStep ctx (Acknowledged ctx)) p₀ p) : Loaded p := by
  induction hrun with
  | refl =>
    unfold startProcess at hstart
    dsimp only at hstart
    split at hstart
    · cases hstart
    · next jobs hload =>
        cases hstart
        exact load_loaded hload
  | tail _ hstep ih => exact step_loaded ih hstep

/-! ## A run that loads, and one whose acknowledgement is lost -/

/-- A poll that does not reach the control plane. -/
def offlinePoll : Poll where
  now := 0
  identity := .ok sampleIdentity
  readActive := .ok ()
  download := .error "request configuration: connection refused"
  commit := .ok ()
  acknowledgement := .ok ()

theorem startProcess_offline : startProcess (openContext fun _ => [1])
    offlinePoll 0 (fun _ => none) emptyTable = .ok ⟨emptyTable, []⟩ := rfl

theorem process_loaded_plain : ∃ p₀ p,
    startProcess (openContext fun _ => [1]) offlinePoll 0 (fun _ => none)
        emptyTable = .ok p₀ ∧ ProcessStep (openContext fun _ => [1])
        (Acknowledged (openContext fun _ => [1])) p₀ p ∧ p.jobs ≠ [] ∧ Loaded p := by
  obtain ⟨t', hsync, hactive⟩ := synchronize_plain (.ok ())
  obtain ⟨jobs, rows', hload⟩ : ∃ jobs rows', reconcile (fun _ => [1])
      openRegistry [loadedAssignment 1 (Backend.entry plainMonitor 1)] 0
      (fun _ => none) = (.ok jobs, rows') :=
    reconcile_ok.mpr ⟨List.forall_mem_singleton.mpr
      ((runnable_iff (by omega)).mp plain_runnable).2, List.nodup_singleton _⟩
  have htick : configurationTick (openContext fun _ => [1]) (firstPoll
      sampleIdentity (plainDownload fun _ => [1]) (.ok ())) 0 (fun _ => none)
      ⟨emptyTable, []⟩ = .ok ⟨t', jobs⟩ := by
    simp only [configurationTick, hsync, loadActiveConfiguration, hactive]
    rw [show reconcile (openContext fun _ => [1]).sha256
      (openContext fun _ => [1]).registry = reconcile (fun _ => [1]) openRegistry
      from rfl, hload]
    rfl
  have hstep : ProcessStep (openContext fun _ => [1])
      (Acknowledged (openContext fun _ => [1])) ⟨emptyTable, []⟩ ⟨t', jobs⟩ := by
    refine .configuration _ 0 (fun _ => none) (fun _ => .inl ?_) htick
    rw [hsync]
    rfl
  refine ⟨_, _, startProcess_offline, hstep, ?_,
    process_loaded startProcess_offline (.single hstep)⟩
  intro hnil
  have hjobs := assignment_reconcile hload
  rw [show jobs = [] from hnil] at hjobs
  cases hjobs

/-- A poll that is answered 304 changes nothing. -/
theorem configurationTick_notModified {ctx : AgentContext} {poll : Poll}
    (h : poll.download = .ok none) (now : ℤ) (rows : ScheduleRows)
    (p : AgentProcess) : configurationTick ctx poll now rows p = .ok p := by
  rcases synchronizeConfiguration_cases ctx poll p.table with
    ⟨hnot, hsame⟩ | ⟨_, d, hd, _⟩
  · unfold configurationTick
    dsimp only
    split
    · rw [hsame]
    · rw [hnot, hsame]
      rfl
  · rw [h] at hd
    cases hd

/-- The first configuration is activated and its acknowledgement is lost: the
scheduler stays empty, and no later poll that is answered 304 changes that. -/
theorem process_unacknowledged : ∃ p₀ p,
    startProcess (openContext fun _ => [1]) offlinePoll 0 (fun _ => none)
        emptyTable = .ok p₀ ∧ configurationTick (openContext fun _ => [1]) (firstPoll sampleIdentity
        (plainDownload fun _ => [1]) (.error "send request: timeout")) 0
        (fun _ => none) p₀ = .ok p ∧ (∀ poll now rows, poll.download = .ok none →
        configurationTick (openContext fun _ => [1]) poll now rows p = .ok p) ∧
      p.jobs = [] ∧ p.table.activeAssignments =
        .ok [loadedAssignment 1 (Backend.entry plainMonitor 1)] ∧ ¬ Loaded p := by
  obtain ⟨t', hsync, hactive⟩ := synchronize_plain (.error "send request: timeout")
  refine ⟨_, ⟨t', []⟩, startProcess_offline, ?_, fun poll now rows h =>
    configurationTick_notModified h now rows _, rfl, hactive, ?_⟩
  · simp only [configurationTick, hsync]
    rfl
  · intro hloaded
    obtain ⟨as, has, hperm⟩ := hloaded
    rw [show (AgentProcess.mk t' []).table = t' from rfl, hactive] at has
    cases has
    exact absurd hperm.length_eq (by simp)

end Bifrostnms.Proofs
