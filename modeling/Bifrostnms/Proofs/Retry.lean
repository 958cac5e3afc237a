import Bifrostnms.Proofs.DesiredRevision

/-!
# An operation that stops half way and is repeated

An operation changes the tables with one statement and bumps the agents with
others. When the process stops in between, the caller repeats the operation.
But most operations look first whether there is anything to do: the row is
there already, or gone already, and they return without a bump. So a repeat
helps only if the stop came before the change (`beforeChange_run`). After it, an
agent that was not bumped yet is left behind: its monitors have changed, and
its desired revision is still the one of a snapshot with the old ones.

`archive_target` is one transaction and leaves no agent behind.
-/

namespace Bifrostnms.Proofs

open Bifrostnms.Lib Bifrostnms.Protocol Bifrostnms.Backend

/-- If the entries computed for the agent differ from those of its latest
snapshot, its desired revision is above that of the snapshot. -/
def Announced (t : MonitoringTables) (agent : AgentRow) : Prop :=
  ∀ s ∈ (t.configurations agent.id).snapshots,
    (∀ s' ∈ (t.configurations agent.id).snapshots, s'.revision ≤ s.revision) →
    computedEntries (t.assignedMonitors agent.realmId agent.id) ≠ s.monitors →
    s.revision < (t.configurations agent.id).state.desiredRevision

theorem announced_iff_current {t : MonitoringTables} {agent : AgentRow}
    (hordered : Ordered (t.configurations agent.id)) : Announced t agent ↔ Current t agent := by
  constructor
  · intro h s hs hrevision
    by_contra hne
    have hlatest : ∀ s' ∈ (t.configurations agent.id).snapshots, s'.revision ≤ s.revision := by
      intro s' hs'
      rw [hrevision]
      exact hordered.snapshots_le s' hs'
    have hlt := h s hs hlatest fun heq => hne heq.symm
    omega
  · intro h s hs _ hdiffer
    have hle := hordered.snapshots_le s hs
    have hne : s.revision ≠ (t.configurations agent.id).state.desiredRevision :=
      fun heq => hdiffer (h s hs heq).symm
    omega

/-! ## Operations with nothing to do -/

/-- The operation finds its change made. -/
def settled (ctx : DomainContext) (t : MonitoringTables) : DomainOperation → Bool
  | .createMonitor _ _ _ _ _ _ => false
  | .updateMonitorBehavior _ monitorId targetId intervalSeconds timeoutSeconds
      configuration =>
      match t.monitors.find? monitorId, normalizeBehavior ctx.txt
          intervalSeconds timeoutSeconds configuration with
      | some monitor, .ok normalized =>
        !monitor.changed targetId intervalSeconds timeoutSeconds configuration
          normalized
      | _, _ => false
  | .archiveTarget _ targetId => (t.targets.find? targetId).any (·.archived)
  | .addAgentToGroup realmId groupId agentId =>
    t.memberships.has ⟨realmId, groupId, agentId⟩
  | .removeAgentFromGroup realmId groupId agentId =>
    !t.memberships.has ⟨realmId, groupId, agentId⟩
  | .assignMonitorToAgent realmId monitorId agentId =>
    (t.assignments.find? (realmId, monitorId, agentId)).any (·.enabled)
  | .assignMonitorToAgentGroup realmId monitorId groupId =>
    (t.groupAssignments.find? (realmId, monitorId, groupId)).any (·.enabled)
  | .unassignMonitorFromAgent realmId monitorId agentId =>
    !t.assignments.has (realmId, monitorId, agentId)
  | .unassignMonitorFromAgentGroup realmId monitorId groupId =>
    !t.groupAssignments.has (realmId, monitorId, groupId)

section Settled

variable {ctx : DomainContext} {t : MonitoringTables} {op : DomainOperation}
  {c : DomainCall}

theorem runFor_done (order : SetOrder) (n : ℕ) :
    DomainCall.runFor order n (.done, t) = (.done, t) := by
  induction n with
  | zero => rfl
  | succ n ih => exact ih

theorem runFor_read {order : SetOrder} (h : c.step order t = (.done, t)) (n : ℕ) :
    (DomainCall.runFor order n (c, t)).2 = t := by
  cases n with
  | zero => rfl
  | succ n =>
    rw [DomainCall.runFor, h, runFor_done]

/-- A call that finds its change made returns without another one. -/
theorem settled_run (hsettled : settled ctx t op = true) (hstart : Started ctx t op c) (n : ℕ) :
    (DomainCall.runFor ctx.order n (c, t)).2 = t := by
  cases hstart with
  | create => cases hsettled
  | update hmonitor htarget hrealm hnormalized hchanged =>
    rw [(Table.find?_eq_some.mp htarget).2] at hchanged
    simp [settled, hmonitor, hnormalized, hchanged] at hsettled
  | archive htarget harchived =>
    simp [settled, htarget, harchived] at hsettled
  | unchanged | archived => rw [runFor_done]
  | @add realmId groupId agentId =>
    have hhas : t.memberships.has ⟨realmId, groupId, agentId⟩ = true := hsettled
    exact runFor_read (by rw [DomainCall.step, if_pos hhas]) n
  | @remove realmId groupId agentId =>
    have hhas : t.memberships.has ⟨realmId, groupId, agentId⟩ = false := by
      simpa [settled] using hsettled
    exact runFor_read (by rw [DomainCall.step, hhas]; rfl) n
  | assign =>
    obtain ⟨row, hrow, henabled⟩ := (Option.any_eq_true _ _).mp hsettled
    refine runFor_read ?_ n
    simp only [DomainCall.step, AgentAssignmentRow.key, hrow,
      DomainCall.afterAssignment, henabled, if_true]
  | assignGroup =>
    obtain ⟨row, hrow, henabled⟩ := (Option.any_eq_true _ _).mp hsettled
    refine runFor_read ?_ n
    simp only [DomainCall.step, GroupAssignmentRow.key, hrow,
      DomainCall.afterGroupAssignment, henabled, if_true]
  | @unassign realmId monitorId agentId =>
    have hhas : t.assignments.has (realmId, monitorId, agentId) = false := by
      simpa [settled] using hsettled
    refine runFor_read ?_ n
    simp only [DomainCall.step, AgentAssignmentRow.key, hhas]
    rfl
  | @unassignGroup realmId monitorId groupId =>
    have hhas : t.groupAssignments.has (realmId, monitorId, groupId) = false := by
      simpa [settled] using hsettled
    cases n with
    | zero => rfl
    | succ n =>
      refine runFor_read ?_ n
      simp only [DomainCall.step, GroupAssignmentRow.key, hhas]
      rfl

/-! ## Before and after the change -/

/-- The statements after the change: they read and bump. -/
def afterChange : DomainCall → Bool
  | .addCheck _ | .removeCheck _ | .groupMembers _ | .updateEffective _ |
      .bumping _ | .done => true
  | _ => false

/-- The two have the same tables but for the configuration rows. -/
def OnlyBumped (t t' : MonitoringTables) : Prop :=
  ∃ configurations, t' = { t with configurations := configurations }

theorem OnlyBumped.trans {t t' t'' : MonitoringTables} (h : OnlyBumped t t')
    (h' : OnlyBumped t' t'') : OnlyBumped t t'' := by
  obtain ⟨_, rfl⟩ := h
  obtain ⟨configurations, rfl⟩ := h'
  exact ⟨configurations, rfl⟩

theorem OnlyBumped.settled {t t' : MonitoringTables} (h : OnlyBumped t t') :
    settled ctx t' op = settled ctx t op := by
  obtain ⟨configurations, rfl⟩ := h
  cases op <;> rfl

theorem afterChange_step (order : SetOrder) (t : MonitoringTables)
    (h : afterChange c = true) : afterChange (c.step order t).1 = true ∧
      OnlyBumped t (c.step order t).2 := by
  cases c with
  | addCheck row | removeCheck row =>
    refine ⟨?_, _, rfl⟩
    show afterChange (if _ then _ else _) = true
    split <;> rfl
  | bumping agentIds => cases agentIds <;> exact ⟨rfl, _, rfl⟩
  | groupMembers | updateEffective | done => exact ⟨rfl, _, rfl⟩
  | _ => cases h

theorem afterChange_run (order : SetOrder) (h : afterChange c = true) (n : ℕ) :
    OnlyBumped t (DomainCall.runFor order n (c, t)).2 := by
  induction n generalizing c t with
  | zero => exact ⟨_, rfl⟩
  | succ n ih =>
    obtain ⟨hafter, hstep⟩ := afterChange_step order t h
    exact hstep.trans (ih hafter)

/-- The statements up to the change, on the tables the call has started
on. -/
inductive BeforeChange (t : MonitoringTables) : DomainOperation → DomainCall → Prop where
  | archive {realmId : Uuid} {target : TargetRow}
      (htarget : t.targets.find? target.id = some target) :
      BeforeChange t (.archiveTarget realmId target.id) (.archive target)
  | addSelect {realmId groupId agentId : Uuid} :
      BeforeChange t (.addAgentToGroup realmId groupId agentId)
        (.addSelect ⟨realmId, groupId, agentId⟩)
  | addInsert {realmId groupId agentId : Uuid} :
      BeforeChange t (.addAgentToGroup realmId groupId agentId)
        (.addInsert ⟨realmId, groupId, agentId⟩)
  | removeDelete {realmId groupId agentId : Uuid} :
      BeforeChange t (.removeAgentFromGroup realmId groupId agentId)
        (.removeDelete ⟨realmId, groupId, agentId⟩)
  | assignSelect {realmId monitorId agentId : Uuid} :
      BeforeChange t (.assignMonitorToAgent realmId monitorId agentId)
        (.assignSelect ⟨realmId, monitorId, agentId, true⟩)
  | assignInsert {realmId monitorId agentId : Uuid}
      (hnone : t.assignments.has (realmId, monitorId, agentId) = false) :
      BeforeChange t (.assignMonitorToAgent realmId monitorId agentId)
        (.assignInsert ⟨realmId, monitorId, agentId, true⟩)
  | assignEnable {realmId monitorId agentId : Uuid}
      (hsome : t.assignments.has (realmId, monitorId, agentId) = true) :
      BeforeChange t (.assignMonitorToAgent realmId monitorId agentId)
        (.assignEnable ⟨realmId, monitorId, agentId, true⟩)
  | unassignDelete {realmId monitorId agentId : Uuid} :
      BeforeChange t (.unassignMonitorFromAgent realmId monitorId agentId)
        (.unassignDelete ⟨realmId, monitorId, agentId, true⟩)
  | groupSelect {realmId monitorId groupId : Uuid} :
      BeforeChange t (.assignMonitorToAgentGroup realmId monitorId groupId)
        (.groupSelect ⟨realmId, monitorId, groupId, true⟩)
  | groupInsert {realmId monitorId groupId : Uuid}
      (hnone : t.groupAssignments.has (realmId, monitorId, groupId) = false) :
      BeforeChange t (.assignMonitorToAgentGroup realmId monitorId groupId)
        (.groupInsert ⟨realmId, monitorId, groupId, true⟩)
  | groupEnable {realmId monitorId groupId : Uuid}
      (hsome : t.groupAssignments.has (realmId, monitorId, groupId) = true) :
      BeforeChange t (.assignMonitorToAgentGroup realmId monitorId groupId)
        (.groupEnable ⟨realmId, monitorId, groupId, true⟩)
  | ungroupMembers {realmId monitorId groupId : Uuid} :
      BeforeChange t (.unassignMonitorFromAgentGroup realmId monitorId groupId)
        (.ungroupMembers ⟨realmId, monitorId, groupId, true⟩)
  | ungroupDelete {realmId monitorId groupId : Uuid} {agentIds : List Uuid} :
      BeforeChange t (.unassignMonitorFromAgentGroup realmId monitorId groupId)
        (.ungroupDelete ⟨realmId, monitorId, groupId, true⟩ agentIds)
  | done {op : DomainOperation} : BeforeChange t op .done

/-- The next statement leaves the tables alone, or it makes the change. -/
theorem beforeChange_step (ctx : DomainContext) (h : BeforeChange t op c) :
    (∃ c', c.step ctx.order t = (c', t) ∧ BeforeChange t op c') ∨
      (afterChange (c.step ctx.order t).1 = true ∧
        settled ctx (c.step ctx.order t).2 op = true) := by
  cases h with
  | archive htarget =>
    refine .inr ⟨rfl, ?_⟩
    show settled ctx (t.archiveTarget ctx.order _) _ = true
    rw [archiveTarget_eq]
    simp [settled, Table.find?_update, htarget, TargetRow.archivedAs]
  | addSelect =>
    refine .inl ⟨_, rfl, ?_⟩
    split
    · exact .done
    · exact .addInsert
  | addInsert =>
    rw [DomainCall.step]
    split
    · exact .inl ⟨_, rfl, .done⟩
    · next hnone =>
        refine .inr ⟨rfl, ?_⟩
        exact Table.has_eq_true.mpr ⟨_, Table.mem_insert.mpr
          (.inr ⟨rfl, by simpa using hnone⟩), rfl⟩
  | removeDelete =>
    rw [DomainCall.step]
    split
    · refine .inr ⟨rfl, ?_⟩
      rw [settled, Bool.not_eq_true']
      exact Table.has_delete
    · exact .inl ⟨_, rfl, .done⟩
  | assignSelect =>
    refine .inl ?_
    rw [DomainCall.step]
    split
    · next row hrow =>
        refine ⟨_, rfl, ?_⟩
        unfold DomainCall.afterAssignment
        split
        · exact .done
        · exact .assignEnable (Table.has_eq_true.mpr
            ⟨row, Table.find?_eq_some.mp hrow⟩)
    · next hnone =>
        exact ⟨_, rfl, .assignInsert (Table.find?_eq_none.mp hnone)⟩
  | assignInsert hnone =>
    refine .inr ?_
    rw [DomainCall.step]
    split
    · next hsome => exact absurd hsome (by simp [AgentAssignmentRow.key, hnone])
    · exact ⟨rfl, Table.any_find?_insert hnone rfl⟩
  | assignEnable hsome =>
    refine .inr ⟨rfl, Table.any_find?_update _
      (AgentAssignmentRow.key_enabledAs _) hsome fun row hkey => ?_⟩
    exact congrArg AgentAssignmentRow.enabled (if_pos hkey)
  | unassignDelete =>
    rw [DomainCall.step]
    split
    · refine .inr ⟨rfl, ?_⟩
      rw [settled, Bool.not_eq_true']
      exact Table.has_delete
    · exact .inl ⟨_, rfl, .done⟩
  | groupSelect =>
    refine .inl ?_
    rw [DomainCall.step]
    split
    · next row hrow =>
        refine ⟨_, rfl, ?_⟩
        unfold DomainCall.afterGroupAssignment
        split
        · exact .done
        · exact .groupEnable (Table.has_eq_true.mpr
            ⟨row, Table.find?_eq_some.mp hrow⟩)
    · next hnone =>
        exact ⟨_, rfl, .groupInsert (Table.find?_eq_none.mp hnone)⟩
  | groupInsert hnone =>
    refine .inr ?_
    rw [DomainCall.step]
    split
    · next hsome => exact absurd hsome (by simp [GroupAssignmentRow.key, hnone])
    · exact ⟨rfl, Table.any_find?_insert hnone rfl⟩
  | groupEnable hsome =>
    refine .inr ⟨rfl, Table.any_find?_update _
      (GroupAssignmentRow.key_enabledAs _) hsome fun row hkey => ?_⟩
    exact congrArg GroupAssignmentRow.enabled (if_pos hkey)
  | ungroupMembers => exact .inl ⟨_, rfl, .ungroupDelete⟩
  | ungroupDelete =>
    rw [DomainCall.step]
    split
    · refine .inr ⟨rfl, ?_⟩
      rw [settled, Bool.not_eq_true']
      exact Table.has_delete
    · exact .inl ⟨_, rfl, .done⟩
  | done => exact .inl ⟨_, rfl, .done⟩

/-- Wherever a call stops, it has changed nothing, or its change is made. -/
theorem beforeChange_run (h : BeforeChange t op c) (n : ℕ) :
    (DomainCall.runFor ctx.order n (c, t)).2 = t ∨
      settled ctx (DomainCall.runFor ctx.order n (c, t)).2 op = true := by
  induction n generalizing c with
  | zero => exact .inl rfl
  | succ n ih =>
    rcases beforeChange_step ctx h with ⟨c', hstep, hnext⟩ | ⟨hafter, hdone⟩
    · rw [DomainCall.runFor, hstep]
      exact ih hnext
    · refine .inr ?_
      rw [← hdone]
      exact (afterChange_run ctx.order hafter n).settled

/-! ## Updates

The comparison of an update decides anew whether there is anything to do, on
the row as the JSON column gives it back. -/

theorem runFor_bumping (order : SetOrder) (n : ℕ) (agentIds : List Uuid) (t : MonitoringTables) :
    (DomainCall.runFor order n (.bumping agentIds, t)).2 =
      (agentIds.take n).foldl MonitoringTables.bump t := by
  induction n generalizing agentIds t with
  | zero => rfl
  | succ n ih =>
    cases agentIds with
    | nil =>
      show (DomainCall.runFor order n (.done, t)).2 = t
      rw [runFor_done]
    | cons a agentIds => exact ih agentIds (t.bump a)

/-- The tables after the statement that saves the monitor. -/
def savedMonitor (t : MonitoringTables) (monitor : MonitorRow) : MonitoringTables :=
  { t with
    monitors := t.monitors.update (·.withBehavior monitor)
      monitor.id_withBehavior }

/-- An update that stops has changed nothing, or it has saved the monitor and
bumped some of its agents. -/
theorem update_run (order : SetOrder) (monitor : MonitorRow) (t : MonitoringTables) (n : ℕ) :
    (DomainCall.runFor order n (.updateSave monitor, t)).2 = t ∨ ∃ agentIds : List Uuid,
        (∀ a ∈ agentIds, a ∈ t.effectiveAgentIds monitor) ∧
        (DomainCall.runFor order n (.updateSave monitor, t)).2 =
          agentIds.foldl MonitoringTables.bump (savedMonitor t monitor) := by
  match n with
  | 0 => exact .inl rfl
  | 1 => exact .inr ⟨[], nofun, rfl⟩
  | n + 2 =>
    refine .inr ⟨_, fun a ha => ?_, runFor_bumping order n _ _⟩
    exact (order.mem_iterate _ _).mp (List.mem_of_mem_take ha)

/-- An update that returns has bumped the agents of its monitor. -/
theorem update_bumps {order : SetOrder} {monitor : MonitorRow} {agentId : Uuid}
    (hactive : t.activeAgent agentId = true) (hrealm : RealmConsistent t)
    (hknows : Knows t (.updateSave monitor)) (hin : agentId ∈ t.effectiveAgentIds monitor) {n : ℕ}
    (hreturned : (DomainCall.runFor order n (.updateSave monitor, t)).1.returned = true) :
    (t.configurations agentId).state.desiredRevision <
      ((DomainCall.runFor order n (.updateSave monitor, t)).2.configurations
        agentId).state.desiredRevision := by
  cases n with
  | zero => cases hreturned
  | succ n =>
    have hserves := (runFor_serves order monitor.realmId
      ((activeAgent_step order (.updateSave monitor) t agentId).trans hactive)
      (step_realmConsistent hrealm hknows) (step_knows order _ t) n).2
    rcases hserves with hlt | ⟨-, howes, -⟩
    · exact hlt
    · exact absurd (howes hin) (not_owes_of_returned hreturned)

end Settled

/-! ## Stopping and repeating -/

/-- An agent whose monitors were changed and that was not bumped, while the
snapshot of its desired revision has other monitors. -/
def LeftBehind (t t₁ : MonitoringTables) (agent : AgentRow) : Prop :=
  (t₁.configurations agent.id).state.desiredRevision =
      (t.configurations agent.id).state.desiredRevision ∧
    ∃ s ∈ (t.configurations agent.id).snapshots,
      s.revision = (t.configurations agent.id).state.desiredRevision ∧ s.monitors ≠
        computedEntries (t₁.assignedMonitors agent.realmId agent.id)

/-- The operations that change what agents see. -/
def changesAgents : DomainOperation → Bool
  | .createMonitor _ _ _ _ _ _ => false
  | _ => true

theorem repeated_eq_some {ctx : DomainContext} {t t₁ t₂ : MonitoringTables}
    {op : DomainOperation} {stop statements : ℕ}
    (h : op.repeated ctx t stop statements = some (t₁, t₂)) :
    ∃ c again, Started ctx t op c ∧ Started ctx t₁ op again ∧
      t₁ = (DomainCall.runFor ctx.order stop (c, t)).2 ∧
      (DomainCall.runFor ctx.order statements (again, t₁)).1.returned = true ∧
      t₂ = (DomainCall.runFor ctx.order statements (again, t₁)).2 := by
  unfold DomainOperation.repeated at h
  split at h
  · cases h
  · next c hc =>
      dsimp only at h
      split at h
      · cases h
      · next again hagain =>
          split at h
          · next hreturned =>
              cases h
              exact ⟨c, again, start_started hc, start_started hagain, rfl, hreturned, rfl⟩
          · cases h

section Repeated

variable {ctx : DomainContext} {t t₁ : MonitoringTables} {op : DomainOperation}
  {c again : DomainCall} {agent : AgentRow}

theorem Started.beforeChange (h : Started ctx t op c) (hop : changesAgents op = true) :
    BeforeChange t op c ∨ ∃ monitor, c = .updateSave monitor := by
  cases h with
  | create => cases hop
  | update => exact .inr ⟨_, rfl⟩
  | archive htarget =>
    obtain ⟨-, rfl⟩ := Table.find?_eq_some.mp htarget
    exact .inl (.archive htarget)
  | unchanged | archived => exact .inl .done
  | add => exact .inl .addSelect
  | remove => exact .inl .removeDelete
  | assign => exact .inl .assignSelect
  | assignGroup => exact .inl .groupSelect
  | unassign => exact .inl .unassignDelete
  | unassignGroup => exact .inl .ungroupMembers

theorem fresh_of_changesAgents (hop : changesAgents op = true) : op.fresh t = true := by
  cases op <;> first | rfl | cases hop

/-- The columns that `effective_agent_ids` reads. -/
def SameMonitor (monitor monitor' : MonitorRow) : Prop :=
  monitor'.id = monitor.id ∧ monitor'.realmId = monitor.realmId ∧
    monitor'.enabled = monitor.enabled ∧ monitor'.archived = monitor.archived

theorem SameMonitor.effective {monitor monitor' : MonitorRow} {agentId : Uuid}
    (h : SameMonitor monitor monitor') (hin : agentId ∈ t.effectiveAgentIds monitor) :
    agentId ∈ t.effectiveAgentIds monitor' := by
  obtain ⟨hid, hrealm, henabled, harchived⟩ := h
  rw [mem_effectiveAgentIds] at hin ⊢
  rwa [hid, hrealm, henabled, harchived]

theorem sameMonitor_withBehavior (row monitor : MonitorRow) :
    SameMonitor row (row.withBehavior monitor) := by
  unfold MonitorRow.withBehavior
  split <;> exact ⟨rfl, rfl, rfl, rfl⟩

/-- A repeated update that finds a difference saves the monitor of the same
agents again. -/
theorem update_again {monitor : MonitorRow} {agentId : Uuid}
    (hstart : Started ctx t op (.updateSave monitor))
    (hsaved : OnlyBumped (savedMonitor t monitor) t₁)
    (hagain : Started ctx t₁ op again) (hunsettled : settled ctx t₁ op = false)
    (hin : agentId ∈ t.effectiveAgentIds monitor) : ∃ monitor', again = .updateSave monitor' ∧
      agentId ∈ t₁.effectiveAgentIds monitor' := by
  cases hstart with
  | @update _ _ _ row _ _ _ _ _ hrow =>
    have hin' : agentId ∈ t.effectiveAgentIds row :=
      SameMonitor.effective ⟨rfl, rfl, rfl, rfl⟩ hin
    obtain ⟨configurations, rfl⟩ := hsaved
    cases hagain with
    | @update _ _ _ row' _ _ _ _ _ hrow' =>
      refine ⟨_, rfl, ?_⟩
      rw [savedMonitor, Table.find?_update, hrow, Option.map_some, Option.some.injEq] at hrow'
      have hsame : SameMonitor row row' :=
        hrow' ▸ sameMonitor_withBehavior row _
      refine SameMonitor.effective (?_ : SameMonitor row' _)
        (show agentId ∈ t.effectiveAgentIds row' from hsame.effective hin')
      exact ⟨rfl, rfl, rfl, rfl⟩
    | unchanged hmonitor' htarget' hnormalized hchanged =>
      rw [(Table.find?_eq_some.mp htarget').2] at hchanged
      simp [settled, hmonitor', hnormalized, hchanged] at hunsettled

/-- Where only bumps have happened to the rows of an agent, it is current
unless it is left behind. -/
theorem current_iff_not_leftBehind
    (hordered : Ordered (t.configurations agent.id)) {k : ℕ} (hk : t₁.configurations agent.id =
      ConfigurationRows.bump^[k] (t.configurations agent.id)) :
    Current t₁ agent ↔ ¬ LeftBehind t t₁ agent := by
  obtain ⟨hdesired, hsnapshots⟩ :=
    iterate_bump_state (t.configurations agent.id) k
  rw [← hk] at hdesired hsnapshots
  constructor
  · rintro hcurrent ⟨hsame, s, hs, hrevision, hne⟩
    exact hne (hcurrent s (by rwa [hsnapshots]) (by omega))
  · intro hnot s hs hrevision
    rw [hsnapshots] at hs
    by_contra hne
    have hle := hordered.snapshots_le s hs
    exact hnot ⟨by omega, s, hs, by omega, hne⟩

/-- What a call leaves an active agent with, wherever it stops. -/
structure Stopped (t t₁ : MonitoringTables) (agent : AgentRow) : Prop where
  realm : RealmConsistent t₁
  active : t₁.activeAgent agent.id = true
  ordered : Ordered (t₁.configurations agent.id)
  bumps : ∃ k, t₁.configurations agent.id = ConfigurationRows.bump^[k] (t.configurations agent.id)

theorem runFor_stopped (hop : changesAgents op = true)
    (hstart : Started ctx t op c) (hrealm : RealmConsistent t)
    (hactive : t.activeAgent agent.id = true)
    (hordered : Ordered (t.configurations agent.id)) (n : ℕ) :
    Stopped t (DomainCall.runFor ctx.order n (c, t)).2 agent := by
  obtain ⟨hagents, hbumps⟩ := runFor_frame ctx.order n c t
  obtain ⟨k, hk⟩ := hbumps agent.id
  refine ⟨?_, ?_, ?_, k, hk⟩
  · exact (runFor_serves ctx.order agent.realmId hactive hrealm
      (hstart.knows (fresh_of_changesAgents hop)) n).1
  · rwa [MonitoringTables.activeAgent, hagents]
  · rw [hk]
    exact hordered.iterate_bump k

/-- A call that starts and returns keeps an agent current. -/
theorem current_of_returned (hop : changesAgents op = true)
    (hstart : Started ctx t op c) (hrealm : RealmConsistent t)
    (hactive : t.activeAgent agent.id = true)
    (hordered : Ordered (t.configurations agent.id)) {n : ℕ}
    (hreturned : (DomainCall.runFor ctx.order n (c, t)).1.returned = true)
    (hcurrent : Current t agent) : Current (DomainCall.runFor ctx.order n (c, t)).2 agent := by
  obtain ⟨k, hk⟩ :=
    (runFor_stopped hop hstart hrealm hactive hordered n).bumps
  exact current_of_served hordered hcurrent hk (serves_returned
    (runFor_serves ctx.order agent.realmId hactive hrealm
      (hstart.knows (fresh_of_changesAgents hop)) n).2 hreturned)

/-- A stopped update leaves the agents current that do not run its monitor. -/
theorem current_of_not_effective {monitor : MonitorRow}
    (hstart : Started ctx t op (.updateSave monitor))
    (hactive : t.activeAgent agent.id = true) {agentIds : List Uuid}
    (hids : ∀ a ∈ agentIds, a ∈ t.effectiveAgentIds monitor)
    (hout : agent.id ∉ t.effectiveAgentIds monitor) (hcurrent : Current t agent) :
    Current (agentIds.foldl MonitoringTables.bump (savedMonitor t monitor))
      agent := by
  have hzero : agentIds.count agent.id = 0 :=
    List.count_eq_zero.mpr fun h => hout (hids _ h)
  have hop : changesAgents op = true := by
    cases hstart
    rfl
  obtain ⟨⟨row, hrow, hsame⟩, -⟩ := hstart.knows (fresh_of_changesAgents hop)
  have hmonitors : (savedMonitor t monitor).assignedMonitors agent.realmId
      agent.id = t.assignedMonitors agent.realmId agent.id :=
    assignedMonitors_update hactive hrow hsame rfl hout
  rw [foldl_bump]
  intro s
  show s ∈ (ConfigurationRows.bump^[agentIds.count agent.id]
      (t.configurations agent.id)).snapshots →
    s.revision = (ConfigurationRows.bump^[agentIds.count agent.id]
      (t.configurations agent.id)).state.desiredRevision →
    s.monitors = computedEntries ((savedMonitor t monitor).assignedMonitors
      agent.realmId agent.id)
  rw [hzero, hmonitors]
  exact hcurrent s

/-- A repeat that finds something to do makes up for the stop. -/
theorem current_of_unsettled (hop : changesAgents op = true)
    (hstart : Started ctx t op c) (hrealm : RealmConsistent t)
    (hactive : t.activeAgent agent.id = true)
    (hordered : Ordered (t.configurations agent.id)) {stop statements : ℕ}
    (ht₁ : t₁ = (DomainCall.runFor ctx.order stop (c, t)).2) (hagain : Started ctx t₁ op again)
    (hreturned : (DomainCall.runFor ctx.order statements (again, t₁)).1.returned = true)
    (hunsettled : settled ctx t₁ op = false) (hcurrent : Current t agent) :
    Current (DomainCall.runFor ctx.order statements (again, t₁)).2 agent := by
  have hstopped := runFor_stopped hop hstart hrealm hactive hordered stop
  rw [← ht₁] at hstopped
  have hkept : Current t₁ agent →
      Current (DomainCall.runFor ctx.order statements (again, t₁)).2 agent :=
    current_of_returned hop hagain hstopped.realm hstopped.active
      hstopped.ordered hreturned
  rcases hstart.beforeChange hop with hbeforeChange | ⟨monitor, rfl⟩
  · have hstay : t₁ = t := by
      rw [ht₁] at hunsettled ⊢
      exact (beforeChange_run hbeforeChange stop).resolve_right
        (Bool.eq_false_iff.mp hunsettled)
    exact hkept (by rwa [hstay])
  · rcases update_run ctx.order monitor t stop with hstay | ⟨agentIds, hids, hrun⟩
    · rw [← ht₁] at hstay
      exact hkept (by rwa [hstay])
    · rw [← ht₁] at hrun
      by_cases hin : agent.id ∈ t.effectiveAgentIds monitor
      · -- The repeat saves the monitor again, and bumps the agent.
        have hsaved : OnlyBumped (savedMonitor t monitor) t₁ := by
          rw [hrun, foldl_bump]
          exact ⟨_, rfl⟩
        obtain ⟨monitor', rfl, hin'⟩ :=
          update_again hstart hsaved hagain hunsettled hin
        obtain ⟨k, hk⟩ := (runFor_stopped hop hagain hstopped.realm
          hstopped.active hstopped.ordered statements).bumps
        exact current_of_bumped hstopped.ordered hk
          (update_bumps hstopped.active hstopped.realm
            (hagain.knows (fresh_of_changesAgents hop)) hin' hreturned)
      · refine hkept ?_
        rw [hrun]
        exact current_of_not_effective hstart hactive hids hin hcurrent

/-- An operation stops, at any statement, and is repeated to its end. An
enabled agent is announced then, unless the operation found its change made and
the agent was left behind when it stopped. -/
theorem repeated_announced_iff {t₂ : MonitoringTables} {stop statements : ℕ}
    (hop : changesAgents op = true) (hrepeated : op.repeated ctx t stop statements = some (t₁, t₂))
    (hrealm : RealmConsistent t) (hunarchived : ∀ agent ∈ t.agents.rows, agent.archived = false)
    (hordered : ∀ agent ∈ t.agents.rows, Ordered (t.configurations agent.id))
    (hbefore : ∀ agent ∈ t.agents.rows, agent.enabled = true → Announced t agent) :
    ∀ agent ∈ t.agents.rows, agent.enabled = true → (Announced t₂ agent ↔
        ¬ (settled ctx t₁ op = true ∧ LeftBehind t t₁ agent)) := by
  intro agent hmem henabled
  have hordered := hordered agent hmem
  have hactive : t.activeAgent agent.id = true :=
    activeAgent_of_enabled hmem henabled (hunarchived agent hmem)
  obtain ⟨c, again, hstart, hagain, ht₁, hreturned, ht₂⟩ :=
    repeated_eq_some hrepeated
  have hstopped := runFor_stopped hop hstart hrealm hactive hordered stop
  rw [← ht₁] at hstopped
  have hlast := runFor_stopped hop hagain hstopped.realm hstopped.active
    hstopped.ordered statements
  rw [← ht₂] at hlast
  rw [announced_iff_current hlast.ordered]
  cases hsettled : settled ctx t₁ op with
  | true =>
    -- The repeat changes nothing.
    have hsame : t₂ = t₁ := ht₂.trans (settled_run hsettled hagain statements)
    obtain ⟨k, hk⟩ := hstopped.bumps
    rw [hsame, current_iff_not_leftBehind hordered hk, and_iff_right rfl]
  | false =>
    refine iff_of_true ?_ fun h => absurd h.1 Bool.false_ne_true
    rw [ht₂]
    exact current_of_unsettled hop hstart hrealm hactive hordered ht₁ hagain
      hreturned hsettled ((announced_iff_current hordered).mp
        (hbefore agent hmem henabled))

end Repeated

/-! ## The site, after the first request -/

/-- The agent was answered with no monitor. -/
def answeredSite : MonitoringTables :=
  { site with
    configurations := Function.update site.configurations siteAgent.id
      ⟨{ desiredRevision := 1, desiredContentHash := "00" }, [⟨1, "00", []⟩]⟩ }

theorem answeredSite_agents {agent : AgentRow}
    (h : agent ∈ answeredSite.agents.rows) : agent = siteAgent :=
  List.mem_singleton.mp h

theorem answeredSite_configurations : answeredSite.configurations siteAgent.id =
      ⟨{ desiredRevision := 1, desiredContentHash := "00" }, [⟨1, "00", []⟩]⟩ := by
  simp only [answeredSite, Function.update_self]

theorem answeredSite_ordered : Ordered (answeredSite.configurations siteAgent.id) := by
  rw [answeredSite_configurations]
  refine ⟨fun s hs => ?_, List.nodup_singleton _, nofun⟩
  rw [List.mem_singleton.mp hs]

theorem answeredSite_announced : Announced answeredSite siteAgent := by
  rw [announced_iff_current answeredSite_ordered]
  intro s hs _
  rw [answeredSite_configurations] at hs
  rw [List.mem_singleton.mp hs]
  rfl

/-- The monitor is assigned to the group of the agent. -/
def assignToGroup : DomainOperation :=
  .assignMonitorToAgentGroup (.ofByte 9) (.ofByte 4) (.ofByte 2)

/-- Stopped after its first statement, the operation is made up for. -/
theorem repeated_announced_early : ∃ t₁ t₂,
    assignToGroup.repeated siteContext answeredSite 1 4 = some (t₁, t₂) ∧
      Announced t₂ siteAgent := by
  have hrun : (assignToGroup.repeated siteContext answeredSite 1 4).any
      (fun p => !settled siteContext p.1 assignToGroup) = true := by
    decide +kernel
  obtain ⟨⟨t₁, t₂⟩, hrepeated, hunsettled⟩ := (Option.any_eq_true _ _).mp hrun
  refine ⟨t₁, t₂, hrepeated, ?_⟩
  refine (repeated_announced_iff rfl hrepeated site_realmConsistent ?_ ?_ ?_
    siteAgent (List.mem_singleton_self _) rfl).mpr fun h => ?_
  · intro agent hagent
    rw [answeredSite_agents hagent]
    rfl
  · intro agent hagent
    rw [answeredSite_agents hagent]
    exact answeredSite_ordered
  · intro agent hagent _
    rw [answeredSite_agents hagent]
    exact answeredSite_announced
  · rw [h.1] at hunsettled
    cases hunsettled

/-- The only snapshot is the one of the desired revision, and has another
number of monitors. -/
theorem not_announced_of_lengths {t : MonitoringTables} {agent : AgentRow} {revision n : ℕ}
    (hsnapshots : (t.configurations agent.id).snapshots.map
      (fun s => (s.revision, s.monitors.length)) = [(revision, n)])
    (hdesired : (t.configurations agent.id).state.desiredRevision = revision)
    (hlength : (t.assignedMonitors agent.realmId agent.id).length ≠ n) : ¬ Announced t agent := by
  obtain ⟨s, hs, hpair⟩ := List.map_eq_singleton_iff.mp hsnapshots
  obtain ⟨hrevision, hmonitors⟩ := Prod.mk.inj hpair
  intro h
  have hlt := h s (by simp [hs]) (by simp [hs]) fun heq => by
    have hlengths := congrArg List.length heq
    simp only [computedEntries, List.length_map] at hlengths
    omega
  omega

/-- Stopped after the assignment was inserted, it is not: the repeat finds the
row and returns, and the agent keeps a revision that has no monitor. -/
theorem repeated_left_behind : Announced answeredSite siteAgent ∧ ∃ t₁ t₂,
    assignToGroup.repeated siteContext answeredSite 2 1 = some (t₁, t₂) ∧
      siteAgent ∈ t₂.agents.rows ∧ siteAgent.enabled = true ∧ ¬ Announced t₂ siteAgent := by
  have hrun : (assignToGroup.repeated siteContext answeredSite 2 1).any
      (fun p =>
        (p.2.assignedMonitors siteAgent.realmId siteAgent.id).length == 1 &&
        (p.2.configurations siteAgent.id).state.desiredRevision == 1 &&
        (p.2.configurations siteAgent.id).snapshots.map
          (fun s => (s.revision, s.monitors.length)) == [(1, 0)]) = true := by
    decide +kernel
  obtain ⟨⟨t₁, t₂⟩, hrepeated, hfinal⟩ := (Option.any_eq_true _ _).mp hrun
  simp only [Bool.and_eq_true, beq_iff_eq] at hfinal
  obtain ⟨⟨hlength, hdesired⟩, hsnapshots⟩ := hfinal
  refine ⟨answeredSite_announced, t₁, t₂, hrepeated, ?_, rfl,
    not_announced_of_lengths hsnapshots hdesired (by omega)⟩
  obtain ⟨c, again, -, -, ht₁, -, ht₂⟩ := repeated_eq_some hrepeated
  rw [ht₂, (runFor_frame _ _ _ _).1, ht₁, (runFor_frame _ _ _ _).1]
  exact List.mem_singleton_self _

end Bifrostnms.Proofs
