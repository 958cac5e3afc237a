import Bifrostnms.Backend.MonitorManagement
import Bifrostnms.Proofs.DesiredRevision

/-!
# The revision of a monitor that is updated twice at once

The revision of a monitor names its behavior: an observation is taken for the
behavior of the revision it carries. A save writes the revision that its request
has counted up in memory, so two requests that have selected the same row save
two behaviors under one revision, and a request that was overtaken twice sets
the revision back (`updateMonitor_lost_update`).

A save that still finds the revision that was selected moves it up
(`savesCurrent`). Nothing else in a request touches it, so a later version of a
monitor then is the same or has a higher revision (`versions_of_current`).
-/

namespace Bifrostnms.Proofs

open Bifrostnms.Lib Bifrostnms.Protocol Bifrostnms.Backend

/-! ## Versions -/

/-- The part of a monitor that its revision stands for. -/
structure SameBehavior (m m' : MonitorRow) : Prop where
  targetId : m.targetId = m'.targetId
  probeType : m.probeType = m'.probeType
  intervalSeconds : m.intervalSeconds = m'.intervalSeconds
  timeoutSeconds : m.timeoutSeconds = m'.timeoutSeconds
  configuration : m.configuration = m'.configuration

theorem SameBehavior.refl (m : MonitorRow) : SameBehavior m m :=
  ⟨rfl, rfl, rfl, rfl, rfl⟩

theorem SameBehavior.trans {m m' m'' : MonitorRow} (h : SameBehavior m m')
    (h' : SameBehavior m' m'') : SameBehavior m m'' :=
  ⟨h.1.trans h'.1, h.2.trans h'.2, h.3.trans h'.3, h.4.trans h'.4, h.5.trans h'.5⟩

/-- Of two versions of a monitor, an earlier and a later one. -/
structure Follows (m m' : MonitorRow) : Prop where
  revision_le : m.revision ≤ m'.revision
  same : m.revision = m'.revision → SameBehavior m m'

theorem Follows.refl (m : MonitorRow) : Follows m m := ⟨le_refl _, fun _ => .refl m⟩

theorem Follows.trans {m m' m'' : MonitorRow} (h : Follows m m')
    (h' : Follows m' m'') : Follows m m'' where
  revision_le := h.revision_le.trans h'.revision_le
  same heq := by
    have hle := h.revision_le
    have hle' := h'.revision_le
    exact (h.same (by omega)).trans (h'.same (by omega))

/-- Every version of a monitor in the later tables follows the one in the
earlier tables. -/
def VersionsFollow (t t' : MonitoringTables) : Prop :=
  ∀ m' ∈ t'.monitors.rows, ∃ m ∈ t.monitors.rows, m.id = m'.id ∧ Follows m m'

theorem VersionsFollow.of_eq {t t' : MonitoringTables}
    (h : t'.monitors = t.monitors) : VersionsFollow t t' :=
  fun m hm => ⟨m, h ▸ hm, rfl, .refl m⟩

theorem VersionsFollow.trans {t t' t'' : MonitoringTables}
    (h : VersionsFollow t t') (h' : VersionsFollow t' t'') : VersionsFollow t t'' := by
  intro m'' hm''
  obtain ⟨m', hm', hid', hfollows'⟩ := h' m'' hm''
  obtain ⟨m, hm, hid, hfollows⟩ := h m' hm'
  exact ⟨m, hm, hid.trans hid', hfollows.trans hfollows'⟩

/-! ## The condition -/

/-- A request that saves finds the revision that it has selected. -/
def savesCurrent (s : UpdateTraffic) : UpdateEvent → Bool
  | .request _ => true
  | .statement index =>
    match s.requests[index]? with
    | some (_, .behavior _ (.updateSave monitor)) =>
      (s.monitors.tables.monitors.find? monitor.id).all fun row =>
        row.revision + 1 = monitor.revision
    | _ => true

/-! ## Statements -/

/-- The calls of `update_monitor_behavior`. -/
def updateCall : DomainCall → Bool
  | .updateSave _ | .updateEffective _ | .bumping _ | .done => true
  | _ => false

section Statements

variable {ctx : DomainContext} {order : SetOrder} {t : MonitoringTables}
  {c : DomainCall} {update : MonitorUpdate} {s : NamedMonitors}
  {phase : UpdatePhase}

theorem updateCall_step (h : updateCall c = true) : updateCall (c.step order t).1 = true := by
  cases c with
  | bumping agentIds => cases agentIds <;> rfl
  | updateSave | updateEffective | done => rfl
  | _ => cases h

/-- A save moves the revision on, if it is the one that was selected; nothing
else changes a monitor. -/
theorem updateCall_versions (h : updateCall c = true)
    (hcurrent : ∀ monitor, c = .updateSave monitor → ∀ row, t.monitors.find? monitor.id = some row →
        row.revision + 1 = monitor.revision) : VersionsFollow t (c.step order t).2 := by
  cases c with
  | updateSave monitor =>
    intro m' hm'
    obtain ⟨m, hm, rfl⟩ := List.mem_map.mp hm'
    refine ⟨m, hm, (MonitorRow.id_withBehavior monitor m).symm, ?_⟩
    rw [MonitorRow.withBehavior]
    split
    · next hid =>
        have hrevision := hcurrent monitor rfl m
          (Table.find?_eq_some.mpr ⟨hm, hid⟩)
        refine ⟨?_, fun heq => ?_⟩
        · show m.revision ≤ monitor.revision
          omega
        · have heq : m.revision = monitor.revision := heq
          omega
    · exact .refl m
  | bumping agentIds => cases agentIds <;> exact .of_eq rfl
  | updateEffective | done => exact .of_eq rfl
  | _ => cases h

theorem updateMonitorBehavior_call {monitor row : MonitorRow} {target : TargetRow}
    (h : updateMonitorBehavior ctx update monitor target = .ok (row, c)) : updateCall c = true := by
  simp only [updateMonitorBehavior, bind_eq_ok] at h
  obtain ⟨_, -, _, -, h⟩ := h
  split at h
  · simp only [bind_eq_ok] at h
    obtain ⟨normalized, -, h⟩ := h
    split at h <;> cases h <;> rfl
  · cases h

/-- The call a request is in, if any, is one of an update. -/
def updating : UpdatePhase → Bool
  | .behavior _ c => updateCall c
  | _ => true

theorem updating_nextBehavior {monitor : SelectedMonitor} (h : updateCall c = true) :
    updating (update.nextBehavior ctx monitor c) = true := by
  unfold MonitorUpdate.nextBehavior MonitorUpdate.afterBehavior
  split
  · split <;> rfl
  · exact h

theorem updating_step (h : updating phase = true) :
    updating (update.step ctx s phase).1 = true := by
  cases phase with
  | selectMonitor | selectTarget | rename | refresh =>
    rw [MonitorUpdate.step]
    split <;> rfl
  | checkName monitor target =>
    rw [MonitorUpdate.step]
    split
    · rfl
    · split
      · rfl
      · next row c hok =>
          exact updating_nextBehavior (updateMonitorBehavior_call hok)
  | behavior monitor c => exact updating_nextBehavior (updateCall_step h)
  | returned => rfl

theorem updateStep_versions (h : updating phase = true)
    (hcurrent : ∀ m monitor, phase = .behavior m (.updateSave monitor) →
      ∀ row, s.tables.monitors.find? monitor.id = some row → row.revision + 1 = monitor.revision) :
    VersionsFollow s.tables (update.step ctx s phase).2.tables := by
  cases phase with
  | selectMonitor | selectTarget | rename | refresh =>
    rw [MonitorUpdate.step]
    split <;> exact .of_eq rfl
  | checkName monitor target =>
    rw [MonitorUpdate.step]
    split
    · exact .of_eq rfl
    · split <;> exact .of_eq rfl
  | behavior monitor c =>
    exact updateCall_versions h fun m hm => hcurrent monitor m (by rw [hm])
  | returned => exact .of_eq rfl

end Statements

/-! ## Runs -/

section Runs

variable {ctx : DomainContext} {s s' : UpdateTraffic} {e : UpdateEvent}

def AllUpdating (s : UpdateTraffic) : Prop := ∀ r ∈ s.requests, updating r.2 = true

theorem step_updating (h : AllUpdating s) (hstep : s.step ctx e = some s') : AllUpdating s' := by
  cases e with
  | request update =>
    obtain rfl := Option.some.inj hstep
    intro r hr
    rcases List.mem_append.mp hr with hr | hr
    · exact h r hr
    · rw [List.mem_singleton.mp hr]
      rfl
  | statement index =>
    rw [UpdateTraffic.step] at hstep
    split at hstep
    · cases hstep
    · next update phase hrequest =>
        obtain rfl := Option.some.inj hstep
        intro r hr
        rcases List.mem_or_eq_of_mem_set hr with hr | rfl
        · exact h r hr
        · exact updating_step (h _ (List.mem_of_getElem? hrequest))

theorem step_versions (h : AllUpdating s) (hcurrent : savesCurrent s e = true)
    (hstep : s.step ctx e = some s') : VersionsFollow s.monitors.tables s'.monitors.tables := by
  cases e with
  | request update =>
    obtain rfl := Option.some.inj hstep
    exact .of_eq rfl
  | statement index =>
    rw [UpdateTraffic.step] at hstep
    split at hstep
    · cases hstep
    · next update phase hrequest =>
        obtain rfl := Option.some.inj hstep
        refine updateStep_versions (h _ (List.mem_of_getElem? hrequest))
          fun m monitor hphase row hrow => ?_
        subst hphase
        simp only [savesCurrent, hrequest, hrow, Option.all_some, decide_eq_true_eq] at hcurrent
        exact hcurrent

/-- Two moments of a run of update requests. Where every save in between finds
the revision it has selected, the revision of a monitor does not decrease, and
two versions of different behavior have different revisions. -/
theorem versions_of_current {initial : UpdateTraffic} {before after : List UpdateEvent}
    (hinitial : initial.requests = [])
    (hs : runSteps (UpdateTraffic.step ctx) before initial = some s)
    (hs' : runSteps (UpdateTraffic.step ctx) after s = some s')
    (hmeets : Meets (UpdateTraffic.step ctx) (fun s e => savesCurrent s e = true)
      after s) (m m' : MonitorRow) (hm : m ∈ s.monitors.tables.monitors.rows)
    (hm' : m' ∈ s'.monitors.tables.monitors.rows) (hid : m.id = m'.id) : m.revision ≤ m'.revision ∧
      (¬ SameBehavior m m' → m.revision ≠ m'.revision) := by
  have hupdating : AllUpdating s := by
    refine runSteps_preserves step_updating (fun r hr => ?_) hs
    rw [hinitial] at hr
    exact absurd hr List.not_mem_nil
  have hrun : AllUpdating s' ∧ VersionsFollow s.monitors.tables s'.monitors.tables :=
    runSteps_invariant
      (P := fun u => AllUpdating u ∧ VersionsFollow s.monitors.tables u.monitors.tables)
      (fun hu hcondition hstep => ⟨step_updating hu.1 hstep,
        hu.2.trans (step_versions hu.1 hcondition hstep)⟩)
      ⟨hupdating, .of_eq rfl⟩ hmeets hs'
  obtain ⟨m₀, hm₀, hid₀, hfollows⟩ := hrun.2 m' hm'
  obtain rfl : m₀ = m := Table.eq_of_key hm₀ hm (hid₀.trans hid.symm)
  exact ⟨hfollows.revision_le, fun hdiffer heq => hdiffer (hfollows.same heq)⟩

end Runs

/-! ## Lost updates -/

/-- A new interval for the monitor of the site. -/
def siteUpdate (intervalSeconds : ℤ) : MonitorUpdate where
  realmId := .ofByte 9
  monitorId := .ofByte 4
  targetId := .ofByte 3
  name := ""
  intervalSeconds := intervalSeconds
  timeoutSeconds := 5
  configuration := .tcp { port := 22 }

def siteTraffic : UpdateTraffic := { monitors := { tables := site } }

/-- The statements of a request before it saves. -/
def prepare (index : ℕ) : List UpdateEvent := List.replicate 3 (.statement index)

/-- The monitor of the site at two moments of a run. -/
def twoVersions (before after : List UpdateEvent) (p : MonitorRow → MonitorRow → Bool) : Bool :=
  (runSteps (UpdateTraffic.step siteContext) before siteTraffic).any fun s =>
    (runSteps (UpdateTraffic.step siteContext) after s).any fun s' =>
      (s.monitors.tables.monitors.find? (.ofByte 4)).any fun m =>
        (s'.monitors.tables.monitors.find? (.ofByte 4)).any (p m)

theorem exists_of_twoVersions {before after : List UpdateEvent}
    {p : MonitorRow → MonitorRow → Bool} (h : twoVersions before after p = true) :
    ∃ s s', runSteps (UpdateTraffic.step siteContext) before siteTraffic = some s ∧
      runSteps (UpdateTraffic.step siteContext) after s = some s' ∧
      ∃ m ∈ s.monitors.tables.monitors.rows,
        ∃ m' ∈ s'.monitors.tables.monitors.rows, m.id = m'.id ∧ p m m' = true := by
  simp only [twoVersions, Option.any_eq_true] at h
  obtain ⟨s, hs, s', hs', m, hm, m', hm', hp⟩ := h
  obtain ⟨hmem, hid⟩ := Table.find?_eq_some.mp hm
  obtain ⟨hmem', hid'⟩ := Table.find?_eq_some.mp hm'
  exact ⟨s, s', hs, hs', m, hmem, m', hmem', hid.trans hid'.symm, hp⟩

/-- Two requests that have selected the same row save two behaviors under one
revision. A request that two others overtake sets the revision back. -/
theorem updateMonitor_lost_update : (∃ before after s s',
      runSteps (UpdateTraffic.step siteContext) before siteTraffic = some s ∧
      runSteps (UpdateTraffic.step siteContext) after s = some s' ∧
      ∃ m ∈ s.monitors.tables.monitors.rows, ∃ m' ∈ s'.monitors.tables.monitors.rows, m.id = m'.id ∧
          ¬ SameBehavior m m' ∧ m.revision = m'.revision) ∧ ∃ before after s s',
      runSteps (UpdateTraffic.step siteContext) before siteTraffic = some s ∧
      runSteps (UpdateTraffic.step siteContext) after s = some s' ∧
      ∃ m ∈ s.monitors.tables.monitors.rows, ∃ m' ∈ s'.monitors.tables.monitors.rows, m.id = m'.id ∧
          m'.revision < m.revision := by
  constructor
  · have hrun : twoVersions
        ([.request (siteUpdate 60), .request (siteUpdate 90)] ++ prepare 0 ++
          prepare 1 ++ [.statement 0]) [.statement 1]
        (fun m m' => m.intervalSeconds ≠ m'.intervalSeconds &&
          m.revision = m'.revision) = true := by
      decide +kernel
    obtain ⟨s, s', hs, hs', m, hm, m', hm', hid, hp⟩ := exists_of_twoVersions hrun
    simp only [Bool.and_eq_true, decide_eq_true_eq] at hp
    exact ⟨_, _, s, s', hs, hs', m, hm, m', hm', hid, fun hsame => hp.1 hsame.intervalSeconds, hp.2⟩
  · have hrun : twoVersions
        ([.request (siteUpdate 60), .request (siteUpdate 90),
          .request (siteUpdate 120)] ++ prepare 0 ++ prepare 1 ++ [.statement 1] ++
          prepare 2 ++ [.statement 2]) [.statement 0]
        (fun m m' => m'.revision < m.revision) = true := by
      decide +kernel
    obtain ⟨s, s', hs, hs', m, hm, m', hm', hid, hp⟩ := exists_of_twoVersions hrun
    exact ⟨_, _, s, s', hs, hs', m, hm, m', hm', hid, of_decide_eq_true hp⟩

/-- One request after the other. -/
theorem versions_of_current_site : ∃ s s',
    runSteps (UpdateTraffic.step siteContext) [] siteTraffic = some s ∧
    runSteps (UpdateTraffic.step siteContext)
      ([.request (siteUpdate 60)] ++ prepare 0 ++ [.statement 0]) s = some s' ∧
    ∀ m ∈ s.monitors.tables.monitors.rows, ∀ m' ∈ s'.monitors.tables.monitors.rows, m.id = m'.id →
        ¬ SameBehavior m m' → m.revision ≠ m'.revision := by
  have hrun : ((checkedRun (UpdateTraffic.step siteContext)
      (fun s e => savesCurrent s e = true)
      ([.request (siteUpdate 60)] ++ prepare 0 ++ [.statement 0])
      siteTraffic).any fun s => s.requests.length == 1) = true := by
    decide +kernel
  obtain ⟨s', hmeets, hs', -⟩ := exists_of_checkedRun hrun
  have hstart : runSteps (UpdateTraffic.step siteContext) [] siteTraffic = some siteTraffic := rfl
  exact ⟨siteTraffic, s', hstart, hs', fun m hm m' hm' hid =>
    (versions_of_current rfl hstart hs' hmeets m m' hm hm' hid).2⟩

end Bifrostnms.Proofs
