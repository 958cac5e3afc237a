import Bifrostnms.Backend.Domain
import Bifrostnms.Proofs.Revisions

/-!
# What one statement does to the monitors of an agent

The monitors of an agent are found by a query over five tables. It depends on
an enabled assignment of the agent itself, or on a membership together with an
enabled assignment of that group (`mem_assignedMonitorIds`). The operations ask
the question from the other end: which agents run this monitor. The two queries
are dual (`mem_effectiveAgentIds`), and that is why the agents an operation
finds are the ones it has to bump.

A call that has changed the tables and not yet bumped an agent owes it a bump
(`Owes`). The result of this file is `step_serves`: whatever statement a
call executes, an active agent is bumped, or its monitors stay as they are, or
it is owed a bump from then on.
-/

namespace Bifrostnms.Proofs

open Bifrostnms.Lib Bifrostnms.Protocol Bifrostnms.Backend

variable {t t' : MonitoringTables} {realmId agentId groupId monitorId : Uuid}

/-! ## The queries -/

theorem mem_directMonitorIds : monitorId ∈ t.directMonitorIds realmId agentId ↔
    ∃ row ∈ t.assignments.rows, row.realmId = realmId ∧ row.agentId = agentId ∧
      row.enabled = true ∧ row.monitorId = monitorId := by
  simp [MonitoringTables.directMonitorIds, and_assoc]

theorem mem_memberGroupIds : groupId ∈ t.memberGroupIds realmId agentId ↔
    ⟨realmId, groupId, agentId⟩ ∈ t.memberships.rows ∧ t.activeGroup groupId = true := by
  simp only [MonitoringTables.memberGroupIds, List.mem_map, List.mem_filter,
    Bool.and_eq_true, decide_eq_true_eq]
  constructor
  · rintro ⟨⟨_, _, _⟩, ⟨hmem, ⟨rfl, rfl⟩, hactive⟩, rfl⟩
    exact ⟨hmem, hactive⟩
  · rintro ⟨hmem, hactive⟩
    exact ⟨_, ⟨hmem, ⟨rfl, rfl⟩, hactive⟩, rfl⟩

theorem mem_groupedMonitorIds {groupIds : List Uuid} :
    monitorId ∈ t.groupedMonitorIds realmId groupIds ↔
      ∃ row ∈ t.groupAssignments.rows, row.realmId = realmId ∧
        row.groupId ∈ groupIds ∧ row.enabled = true ∧ row.monitorId = monitorId := by
  simp [MonitoringTables.groupedMonitorIds, and_assoc]

theorem mem_assignedMonitorIds : monitorId ∈ t.assignedMonitorIds realmId agentId ↔
      (∃ row ∈ t.assignments.rows, row.realmId = realmId ∧
        row.agentId = agentId ∧ row.enabled = true ∧ row.monitorId = monitorId) ∨
      ∃ row ∈ t.groupAssignments.rows, row.realmId = realmId ∧
        (⟨realmId, row.groupId, agentId⟩ ∈ t.memberships.rows ∧ t.activeGroup row.groupId = true) ∧
        row.enabled = true ∧ row.monitorId = monitorId := by
  rw [MonitoringTables.assignedMonitorIds, List.mem_append,
    mem_directMonitorIds, mem_groupedMonitorIds]
  simp only [mem_memberGroupIds]

theorem hasAssignments_eq_true : t.hasAssignments realmId groupId = true ↔
    ∃ row ∈ t.groupAssignments.rows, row.realmId = realmId ∧
      row.groupId = groupId ∧ row.enabled = true := by
  simp [MonitoringTables.hasAssignments, and_assoc]

theorem mem_activeMembers : agentId ∈ t.activeMembers realmId groupId ↔
    ⟨realmId, groupId, agentId⟩ ∈ t.memberships.rows ∧ t.activeAgent agentId = true := by
  simp only [MonitoringTables.activeMembers, List.mem_map, List.mem_filter,
    Bool.and_eq_true, decide_eq_true_eq]
  constructor
  · rintro ⟨⟨_, _, _⟩, ⟨hmem, ⟨rfl, rfl⟩, hactive⟩, rfl⟩
    exact ⟨hmem, hactive⟩
  · rintro ⟨hmem, hactive⟩
    exact ⟨_, ⟨hmem, ⟨rfl, rfl⟩, hactive⟩, rfl⟩

/-- `effective_agent_ids` finds the active agents that the monitor is assigned
to. -/
theorem mem_effectiveAgentIds {monitor : MonitorRow} : agentId ∈ t.effectiveAgentIds monitor ↔
      monitor.archived = false ∧ monitor.enabled = true ∧ t.activeAgent agentId = true ∧
      monitor.id ∈ t.assignedMonitorIds monitor.realmId agentId := by
  unfold MonitoringTables.effectiveAgentIds
  split
  · next hoff =>
      rw [Bool.or_eq_true, Bool.not_eq_true'] at hoff
      constructor
      · intro h
        cases h
      · rintro ⟨harchived, henabled, -⟩
        rw [harchived, henabled] at hoff
        simp at hoff
  · next hon =>
      have hon : monitor.archived = false ∧ monitor.enabled = true := by
        simpa using hon
      simp only [hon, true_and, mem_assignedMonitorIds, List.mem_append,
        List.mem_map, List.mem_filter, Bool.and_eq_true, decide_eq_true_eq, List.contains_iff_mem]
      constructor
      · rintro (⟨row, ⟨hmem, ⟨⟨hrealm, hmonitor⟩, henabled⟩, hactive⟩, rfl⟩ |
          ⟨⟨r, g, a⟩, ⟨hmem, ⟨rfl, ⟨row, ⟨hrow, ⟨⟨hrealm, hmonitor⟩, henabled⟩,
            hgroup⟩, rfl⟩⟩, hactive⟩, rfl⟩)
        · exact ⟨hactive, .inl ⟨row, hmem, hrealm, rfl, henabled, hmonitor⟩⟩
        · exact ⟨hactive, .inr ⟨row, hrow, hrealm, ⟨hmem, hgroup⟩, henabled, hmonitor⟩⟩
      · rintro ⟨hactive, ⟨row, hmem, hrealm, rfl, henabled, hmonitor⟩ |
          ⟨row, hrow, hrealm, ⟨hmem, hgroup⟩, henabled, hmonitor⟩⟩
        · exact .inl ⟨row, ⟨hmem, ⟨⟨hrealm, hmonitor⟩, henabled⟩, hactive⟩, rfl⟩
        · exact .inr ⟨_, ⟨hmem, ⟨rfl, row, ⟨hrow, ⟨⟨hrealm, hmonitor⟩, henabled⟩,
            hgroup⟩, rfl⟩, hactive⟩, rfl⟩

/-! ## What the monitors of an agent depend on -/

theorem selectMonitors_congr {ids ids' : List Uuid}
    (hmonitors : t'.monitors = t.monitors) (htargets : t'.targets = t.targets)
    (hids : ∀ id, id ∈ ids' ↔ id ∈ ids) :
    t'.selectMonitors realmId ids' = t.selectMonitors realmId ids := by
  have hcontains : ∀ id, ids'.contains id = ids.contains id := by
    intro id
    rw [Bool.eq_iff_iff, List.contains_iff_mem, List.contains_iff_mem, hids]
  have hselect : t'.selectMonitor realmId ids' = t.selectMonitor realmId ids := by
    funext row
    simp only [MonitoringTables.selectMonitor, hcontains, htargets]
  rw [MonitoringTables.selectMonitors, MonitoringTables.selectMonitors, hselect, hmonitors]

/-- Only the enabled assignments of the agent and of its groups count. -/
theorem assignedMonitorIds_congr (hgroups : t'.groups = t.groups)
    (hdirect : ∀ row : AgentAssignmentRow, row.realmId = realmId →
      row.agentId = agentId → row.enabled = true →
      (row ∈ t'.assignments.rows ↔ row ∈ t.assignments.rows))
    (hgrouped : ∀ row : GroupAssignmentRow, row.realmId = realmId → row.enabled = true →
      ((row ∈ t'.groupAssignments.rows ∧ ⟨realmId, row.groupId, agentId⟩ ∈ t'.memberships.rows) ↔
        (row ∈ t.groupAssignments.rows ∧ ⟨realmId, row.groupId, agentId⟩ ∈ t.memberships.rows))) :
    monitorId ∈ t'.assignedMonitorIds realmId agentId ↔
      monitorId ∈ t.assignedMonitorIds realmId agentId := by
  have hactive : ∀ g, t'.activeGroup g = t.activeGroup g := by
    intro g
    rw [MonitoringTables.activeGroup, MonitoringTables.activeGroup, hgroups]
  rw [mem_assignedMonitorIds, mem_assignedMonitorIds]
  refine or_congr (exists_congr fun row => ?_) (exists_congr fun row => ?_)
  · constructor
    · rintro ⟨hmem, hrealm, hagent, henabled, hmonitor⟩
      exact ⟨(hdirect row hrealm hagent henabled).mp hmem, hrealm, hagent, henabled, hmonitor⟩
    · rintro ⟨hmem, hrealm, hagent, henabled, hmonitor⟩
      exact ⟨(hdirect row hrealm hagent henabled).mpr hmem, hrealm, hagent, henabled, hmonitor⟩
  · rw [hactive]
    constructor
    · rintro ⟨hmem, hrealm, ⟨hmember, hgroup⟩, henabled, hmonitor⟩
      obtain ⟨hmem, hmember⟩ := (hgrouped row hrealm henabled).mp ⟨hmem, hmember⟩
      exact ⟨hmem, hrealm, ⟨hmember, hgroup⟩, henabled, hmonitor⟩
    · rintro ⟨hmem, hrealm, ⟨hmember, hgroup⟩, henabled, hmonitor⟩
      obtain ⟨hmem, hmember⟩ := (hgrouped row hrealm henabled).mpr ⟨hmem, hmember⟩
      exact ⟨hmem, hrealm, ⟨hmember, hgroup⟩, henabled, hmonitor⟩

/-- The agent is in the same groups, of those that have assignments. -/
def SameMembership (realmId agentId : Uuid) (t t' : MonitoringTables) : Prop :=
  ∀ groupId, t.hasAssignments realmId groupId = true →
    (⟨realmId, groupId, agentId⟩ ∈ t'.memberships.rows ↔
      ⟨realmId, groupId, agentId⟩ ∈ t.memberships.rows)

/-- A change of memberships counts for the groups with assignments. -/
theorem assignedMonitorIds_memberships (hgroups : t'.groups = t.groups)
    (hassignments : t'.assignments = t.assignments)
    (hgrouped : t'.groupAssignments = t.groupAssignments)
    (hmember : SameMembership realmId agentId t t') :
    monitorId ∈ t'.assignedMonitorIds realmId agentId ↔
      monitorId ∈ t.assignedMonitorIds realmId agentId := by
  refine assignedMonitorIds_congr hgroups (fun _ _ _ _ => by rw [hassignments])
    fun row hrealm henabled => ?_
  rw [hgrouped]
  refine and_congr_right fun hmem => hmember row.groupId ?_
  exact hasAssignments_eq_true.mpr ⟨row, hmem, hrealm, rfl, henabled⟩

/-- A change of group assignments counts for the groups of the agent. -/
theorem assignedMonitorIds_groupAssignments (hgroups : t'.groups = t.groups)
    (hassignments : t'.assignments = t.assignments) (hmemberships : t'.memberships = t.memberships)
    (hrow : ∀ row : GroupAssignmentRow, row.realmId = realmId →
      row.enabled = true → ⟨realmId, row.groupId, agentId⟩ ∈ t.memberships.rows →
      (row ∈ t'.groupAssignments.rows ↔ row ∈ t.groupAssignments.rows)) :
    monitorId ∈ t'.assignedMonitorIds realmId agentId ↔
      monitorId ∈ t.assignedMonitorIds realmId agentId := by
  refine assignedMonitorIds_congr hgroups (fun _ _ _ _ => by rw [hassignments])
    fun row hrealm henabled => ?_
  rw [hmemberships]
  exact and_congr_left fun hmember => hrow row hrealm henabled hmember

theorem assignedMonitors_congr (hmonitors : t'.monitors = t.monitors)
    (htargets : t'.targets = t.targets)
    (hids : ∀ monitorId, monitorId ∈ t'.assignedMonitorIds realmId agentId ↔
      monitorId ∈ t.assignedMonitorIds realmId agentId) :
    t'.assignedMonitors realmId agentId = t.assignedMonitors realmId agentId :=
  selectMonitors_congr hmonitors htargets hids

/-! ## Bumps -/

theorem iterate_bump_state (rows : ConfigurationRows) (n : ℕ) :
    (ConfigurationRows.bump^[n] rows).state.desiredRevision = rows.state.desiredRevision + n ∧
      (ConfigurationRows.bump^[n] rows).snapshots = rows.snapshots := by
  induction n generalizing rows with
  | zero => exact ⟨rfl, rfl⟩
  | succ n ih =>
    rw [Function.iterate_succ_apply]
    obtain ⟨hdesired, hsnapshots⟩ := ih rows.bump
    refine ⟨?_, hsnapshots⟩
    rw [hdesired]
    show rows.state.desiredRevision + 1 + n = rows.state.desiredRevision + (n + 1)
    omega

theorem Ordered.iterate_bump {rows : ConfigurationRows} (h : Ordered rows) (n : ℕ) :
    Ordered (ConfigurationRows.bump^[n] rows) := by
  induction n generalizing rows with
  | zero => exact h
  | succ n ih =>
    rw [Function.iterate_succ_apply]
    exact ih h.bump

/-- The loop of `_bump_configuration_revisions`. -/
theorem foldl_bump (agentIds : List Uuid) (t : MonitoringTables) :
    agentIds.foldl MonitoringTables.bump t = { t with
      configurations := fun a =>
        ConfigurationRows.bump^[agentIds.count a] (t.configurations a) } := by
  induction agentIds generalizing t with
  | nil => rfl
  | cons b agentIds ih =>
    rw [List.foldl_cons, ih]
    simp only [MonitoringTables.bump, MonitoringTables.mk.injEq, true_and]
    funext a
    rw [List.count_cons, Function.update_apply]
    rcases eq_or_ne a b with rfl | hne
    · rw [if_pos rfl, if_pos (beq_self_eq_true a), Function.iterate_succ_apply]
    · rw [if_neg hne, if_neg (by simpa using hne.symm), Nat.add_zero]

/-! ## Owed bumps -/

/-- The call is going to bump the agent, if it finds the tables as they
are. -/
def Owes (t : MonitoringTables) (agentId : Uuid) : DomainCall → Prop
  | .addCheck row | .removeCheck row =>
    agentId = row.agentId ∧ t.hasAssignments row.realmId row.groupId = true
  | .groupMembers assignment =>
    agentId ∈ t.activeMembers assignment.realmId assignment.groupId ∧
      ∃ row ∈ t.groupAssignments.rows, row.key = assignment.key ∧ row.enabled = true
  | .updateEffective monitor => agentId ∈ t.effectiveAgentIds monitor
  | .bumping agentIds => agentId ∈ agentIds
  | _ => False

/-- What a call knows about the tables, as long as no other call changes
them. -/
def Knows (t : MonitoringTables) : DomainCall → Prop
  | .createInsert monitor =>
    (∀ realmId agentId, monitor.id ∉ t.assignedMonitorIds realmId agentId) ∧
      ∀ target, t.targets.find? monitor.targetId = some target → target.realmId = monitor.realmId
  | .updateSave monitor =>
    (∃ row, t.monitors.find? monitor.id = some row ∧
      row.realmId = monitor.realmId ∧ row.enabled = monitor.enabled ∧
      row.archived = monitor.archived) ∧ ∀ target, t.targets.find? monitor.targetId = some target →
        target.realmId = monitor.realmId
  | .archive target => t.targets.find? target.id = some target
  | .ungroupDelete assignment agentIds =>
    ∀ a ∈ t.activeMembers assignment.realmId assignment.groupId, a ∈ agentIds
  | _ => True

/-- Monitors and their targets are in one realm. -/
def RealmConsistent (t : MonitoringTables) : Prop :=
  ∀ monitor ∈ t.monitors.rows, ∀ target, t.targets.find? monitor.targetId = some target →
    target.realmId = monitor.realmId

/-- What a statement leaves an agent with. -/
def Serves (realmId agentId : Uuid) (c c' : DomainCall) (t t' : MonitoringTables) : Prop :=
  (t.configurations agentId).state.desiredRevision <
      (t'.configurations agentId).state.desiredRevision ∨
    t'.configurations agentId = t.configurations agentId ∧ (Owes t agentId c → Owes t' agentId c') ∧
      (t'.assignedMonitors realmId agentId = t.assignedMonitors realmId agentId ∨
        Owes t' agentId c')

section Statements

variable {order : SetOrder} {c c' : DomainCall}

/-- A statement that only reads. -/
theorem serves_read (howes : Owes t agentId c → Owes t agentId c') :
    Serves realmId agentId c c' t t :=
  .inr ⟨rfl, howes, .inl rfl⟩

/-- A statement that changes who is assigned what, of a call that owed
nothing. -/
theorem serves_assigned (hnone : ¬ Owes t agentId c)
    (hconfigurations : t'.configurations = t.configurations)
    (hmonitors : t'.monitors = t.monitors) (htargets : t'.targets = t.targets)
    (hids : Owes t' agentId c' ∨ ∀ monitorId, monitorId ∈ t'.assignedMonitorIds realmId agentId ↔
        monitorId ∈ t.assignedMonitorIds realmId agentId) : Serves realmId agentId c c' t t' := by
  refine .inr ⟨by rw [hconfigurations], fun h => absurd h hnone, ?_⟩
  rcases hids with howes | hids
  · exact .inr howes
  · exact .inl (assignedMonitors_congr hmonitors htargets hids)

/-! ### Memberships -/

theorem sameMembership_addInsert {row : MembershipRow}
    (ht : t' = { t with memberships := t.memberships.insert row }) :
    Owes t' agentId (.addCheck row) ∨ SameMembership realmId agentId t t' := by
  subst ht
  by_cases howes : agentId = row.agentId ∧ t.hasAssignments row.realmId row.groupId = true
  · exact .inl howes
  · refine .inr fun groupId hhas => ?_
    show _ ∈ (t.memberships.insert row).rows ↔ _
    rw [Table.mem_insert]
    refine or_iff_left fun hnew => howes ?_
    obtain ⟨rfl, -⟩ := hnew
    exact ⟨rfl, hhas⟩

theorem sameMembership_removeDelete {row : MembershipRow}
    (ht : t' = { t with memberships := t.memberships.delete fun r => r = row }) :
    Owes t' agentId (.removeCheck row) ∨ SameMembership realmId agentId t t' := by
  subst ht
  by_cases howes : agentId = row.agentId ∧ t.hasAssignments row.realmId row.groupId = true
  · exact .inl howes
  · refine .inr fun groupId hhas => ?_
    show _ ∈ (t.memberships.delete fun r => r = row).rows ↔ _
    rw [Table.mem_delete, decide_eq_false_iff_not]
    refine and_iff_left fun hrow => howes ?_
    subst hrow
    exact ⟨rfl, hhas⟩

/-! ### Assignments of the agent -/

theorem ids_assignments {assignments : Table AgentAssignmentRow.key}
    {assignment : AgentAssignmentRow} (ht : t' = { t with assignments := assignments })
    (hother : ∀ row : AgentAssignmentRow, row.key ≠ assignment.key →
      (row ∈ assignments.rows ↔ row ∈ t.assignments.rows)) :
    Owes t' agentId (.bumping [assignment.agentId]) ∨
      ∀ monitorId, monitorId ∈ t'.assignedMonitorIds realmId agentId ↔
        monitorId ∈ t.assignedMonitorIds realmId agentId := by
  subst ht
  rcases eq_or_ne agentId assignment.agentId with heq | hne
  · exact .inl (List.mem_singleton.mpr heq)
  · refine .inr fun monitorId =>
      assignedMonitorIds_congr rfl (fun row _ hagent _ => hother row ?_)
        fun _ _ _ => Iff.rfl
    intro hkey
    have hsame : row.agentId = assignment.agentId := congrArg (·.2.2) hkey
    exact hne (hagent.symm.trans hsame)

/-! ### Assignments of groups -/

/-- Only members of the group are concerned, and they are the agents that the
next statement finds. -/
theorem ids_groupAssignments {groupAssignments : Table GroupAssignmentRow.key}
    {assignment : GroupAssignmentRow} (ht : t' = { t with groupAssignments := groupAssignments })
    (hother : ∀ row : GroupAssignmentRow, row.key ≠ assignment.key →
      (row ∈ groupAssignments.rows ↔ row ∈ t.groupAssignments.rows))
    (hmember : ⟨assignment.realmId, assignment.groupId, agentId⟩ ∈ t.memberships.rows →
      Owes t' agentId c' ∨ ∀ row : GroupAssignmentRow, row.key = assignment.key →
          row.enabled = true → (row ∈ groupAssignments.rows ↔ row ∈ t.groupAssignments.rows)) :
    Owes t' agentId c' ∨ ∀ monitorId, monitorId ∈ t'.assignedMonitorIds realmId agentId ↔
        monitorId ∈ t.assignedMonitorIds realmId agentId := by
  subst ht
  by_cases howes : Owes { t with groupAssignments := groupAssignments } agentId c'
  · exact .inl howes
  · refine .inr fun monitorId =>
      assignedMonitorIds_groupAssignments rfl rfl rfl
        fun row hrealm henabled hin => ?_
    by_cases hkey : row.key = assignment.key
    · have hrealm' : row.realmId = assignment.realmId := congrArg (·.1) hkey
      have hgroup : row.groupId = assignment.groupId := congrArg (·.2.2) hkey
      rw [← hrealm, hrealm', hgroup] at hin
      exact (hmember hin).resolve_left howes row hkey henabled
    · exact hother row hkey

/-- A member of the group is found next, unless no assignment was made. -/
theorem owes_groupInsert {assignment : GroupAssignmentRow} (hactive : t.activeAgent agentId = true)
    (hnew : t.groupAssignments.has assignment.key = false) (ht : t' = { t with
      groupAssignments := t.groupAssignments.insert assignment })
    (hmember : ⟨assignment.realmId, assignment.groupId, agentId⟩ ∈ t.memberships.rows) :
    Owes t' agentId (.groupMembers assignment) ∨
      ∀ row : GroupAssignmentRow, row.key = assignment.key → row.enabled = true →
        (row ∈ t'.groupAssignments.rows ↔ row ∈ t.groupAssignments.rows) := by
  subst ht
  have hrow : assignment ∈ (t.groupAssignments.insert assignment).rows :=
    Table.mem_insert.mpr (.inr ⟨rfl, hnew⟩)
  cases henabled : assignment.enabled with
  | true =>
    exact .inl ⟨mem_activeMembers.mpr ⟨hmember, hactive⟩, assignment, hrow, rfl, henabled⟩
  | false =>
    -- A disabled row is no assignment.
    refine .inr fun row hkey hon => ?_
    rw [Table.mem_insert]
    refine or_iff_left fun hnew => ?_
    rw [hnew.1, henabled] at hon
    cases hon

theorem owes_groupEnable {assignment : GroupAssignmentRow} (hactive : t.activeAgent agentId = true)
    (ht : t' = { t with
      groupAssignments := t.groupAssignments.update (·.enabledAs assignment)
        assignment.key_enabledAs })
    (hmember : ⟨assignment.realmId, assignment.groupId, agentId⟩ ∈ t.memberships.rows) :
    Owes t' agentId (.groupMembers assignment) ∨
      ∀ row : GroupAssignmentRow, row.key = assignment.key → row.enabled = true →
        (row ∈ t'.groupAssignments.rows ↔ row ∈ t.groupAssignments.rows) := by
  subst ht
  by_cases hhas : ∃ row ∈ t.groupAssignments.rows, row.key = assignment.key
  · obtain ⟨row, hrow, hkey⟩ := hhas
    refine .inl ⟨mem_activeMembers.mpr ⟨hmember, hactive⟩,
      row.enabledAs assignment, List.mem_map_of_mem hrow, ?_, ?_⟩
    · rw [assignment.key_enabledAs, hkey]
    · rw [GroupAssignmentRow.enabledAs, if_pos hkey]
  · refine .inr fun row hkey _ => ?_
    rw [Table.mem_update]
    constructor
    · rintro ⟨s, hs, rfl⟩
      rw [assignment.key_enabledAs] at hkey
      exact absurd ⟨s, hs, hkey⟩ hhas
    · intro hrow
      exact absurd ⟨row, hrow, hkey⟩ hhas

/-- Rows of other keys are as before. -/
theorem mem_groupEnable_of_ne {assignment row : GroupAssignmentRow} (h : row.key ≠ assignment.key) :
    row ∈ (t.groupAssignments.update (·.enabledAs assignment)
        assignment.key_enabledAs).rows ↔ row ∈ t.groupAssignments.rows :=
  Table.mem_update_of_ne (fun _ h => if_neg h) h

theorem ids_ungroupDelete {assignment : GroupAssignmentRow}
    {agentIds : List Uuid} (hactive : t.activeAgent agentId = true)
    (hknows : agentId ∈ t.activeMembers assignment.realmId assignment.groupId → agentId ∈ agentIds)
    (ht : t' = { t with
      groupAssignments := t.groupAssignments.delete fun row =>
        row.key = assignment.key }) : Owes t' agentId (.bumping (order.iterate agentIds)) ∨
      ∀ monitorId, monitorId ∈ t'.assignedMonitorIds realmId agentId ↔
        monitorId ∈ t.assignedMonitorIds realmId agentId := by
  refine ids_groupAssignments ht (fun _ => Table.mem_delete_of_ne) fun hmember => ?_
  exact .inl ((order.mem_iterate _ _).mpr
    (hknows (mem_activeMembers.mpr ⟨hmember, hactive⟩)))

/-! ### Monitors and targets -/

theorem selectMonitor_eq_none {ids : List Uuid} {row : MonitorRow}
    (h : row.id ∉ ids) : t.selectMonitor realmId ids row = none := by
  unfold MonitoringTables.selectMonitor
  rw [if_neg]
  rintro ⟨-, -, -, hmem⟩
  exact h (List.contains_iff_mem.mp hmem)

/-- A monitor that is selected is one whose active agents would be found. -/
theorem selectMonitor_eq_none_of_not_effective {row : MonitorRow}
    (hactive : t.activeAgent agentId = true) (h : agentId ∉ t.effectiveAgentIds row) :
    t.selectMonitor realmId (t.assignedMonitorIds realmId agentId) row = none := by
  unfold MonitoringTables.selectMonitor
  rw [if_neg]
  rintro ⟨rfl, henabled, harchived, hmem⟩
  refine h (mem_effectiveAgentIds.mpr ⟨?_, henabled, hactive, ?_⟩)
  · simpa using harchived
  · exact List.contains_iff_mem.mp hmem

theorem assignedMonitors_create {monitor : MonitorRow}
    (hfresh : monitor.id ∉ t.assignedMonitorIds realmId agentId)
    (ht : t' = { t with monitors := t.monitors.insert monitor }) :
    t'.assignedMonitors realmId agentId = t.assignedMonitors realmId agentId := by
  subst ht
  cases hhas : t.monitors.has monitor.id with
  | true => rw [Table.insert_of_has hhas]
  | false =>
    have hnone : t.selectMonitor realmId (t.assignedMonitorIds realmId agentId)
        monitor = none := selectMonitor_eq_none hfresh
    show ((t.monitors.insert monitor).rows.filterMap (t.selectMonitor realmId
      (t.assignedMonitorIds realmId agentId))).insertionSort _ = _
    rw [Table.rows_insert hhas, List.filterMap_append]
    simp [hnone, MonitoringTables.assignedMonitors, MonitoringTables.selectMonitors]

theorem assignedMonitors_update {monitor row : MonitorRow} (hactive : t.activeAgent agentId = true)
    (hrow : t.monitors.find? monitor.id = some row)
    (hsame : row.realmId = monitor.realmId ∧ row.enabled = monitor.enabled ∧
      row.archived = monitor.archived) (ht : t' = { t with
      monitors := t.monitors.update (·.withBehavior monitor)
        monitor.id_withBehavior })
    (h : agentId ∉ t'.effectiveAgentIds monitor) :
    t'.assignedMonitors realmId agentId = t.assignedMonitors realmId agentId := by
  obtain ⟨hmem, hid⟩ := Table.find?_eq_some.mp hrow
  obtain ⟨hrealm, henabled, harchived⟩ := hsame
  have heffective : ∀ r : MonitorRow, r.id = monitor.id →
      r.realmId = monitor.realmId → r.enabled = monitor.enabled →
      r.archived = monitor.archived → agentId ∉ t.effectiveAgentIds r := by
    intro r h1 h2 h3 h4 hin
    refine h (?_ : agentId ∈ t'.effectiveAgentIds monitor)
    have hin := mem_effectiveAgentIds.mp hin
    rw [h1, h2, h3, h4] at hin
    subst ht
    exact mem_effectiveAgentIds.mpr hin
  subst ht
  show ((t.monitors.rows.map (·.withBehavior monitor)).filterMap
    (t.selectMonitor realmId (t.assignedMonitorIds realmId agentId))).insertionSort
      _ = _
  rw [List.filterMap_map]
  unfold MonitoringTables.assignedMonitors MonitoringTables.selectMonitors
  congr 1
  refine List.filterMap_congr fun r hr => ?_
  show t.selectMonitor realmId _ (r.withBehavior monitor) = _
  by_cases hsame : r.id = monitor.id
  · obtain rfl : r = row := Table.eq_of_key hr hmem (hsame.trans hid.symm)
    rw [selectMonitor_eq_none_of_not_effective hactive
        (heffective r hsame hrealm henabled harchived),
      selectMonitor_eq_none_of_not_effective hactive]
    rw [MonitorRow.withBehavior, if_pos hsame]
    exact heffective _ hsame hrealm henabled harchived
  · rw [MonitorRow.withBehavior, if_neg hsame]

/-- The agents that `archive_target` bumps. -/
def affectedAgentIds (t : MonitoringTables) (target : TargetRow) : List Uuid :=
  (t.monitors.rows.filter (·.watches target)).flatMap t.effectiveAgentIds

theorem archiveTarget_eq (target : TargetRow) : t.archiveTarget order target = { t with
      targets := t.targets.update (·.archivedAs target) target.id_archivedAs
      monitors := t.monitors.update (·.archivedWith target)
        (MonitorRow.id_archivedWith target)
      configurations := fun a => ConfigurationRows.bump^[
        (order.iterate (affectedAgentIds t target)).count a]
          (t.configurations a) } := by
  unfold MonitoringTables.archiveTarget
  rw [foldl_bump]
  rfl

theorem assignedMonitors_archive {target : TargetRow}
    (hactive : t.activeAgent agentId = true) (hrealm : RealmConsistent t)
    (htarget : t.targets.find? target.id = some target) (h : agentId ∉ affectedAgentIds t target) :
    (t.archiveTarget order target).assignedMonitors realmId agentId =
      t.assignedMonitors realmId agentId := by
  rw [archiveTarget_eq]
  unfold MonitoringTables.assignedMonitors MonitoringTables.selectMonitors
  congr 1
  show (t.monitors.rows.map (·.archivedWith target)).filterMap _ = _
  rw [List.filterMap_map]
  refine List.filterMap_congr fun row hrow => ?_
  rw [Function.comp_apply, MonitorRow.archivedWith]
  split
  · next hwatches =>
      -- It was not selected, or its agents would have been bumped.
      rw [selectMonitor_eq_none_of_not_effective hactive]
      · exact if_neg fun hselect => by simpa using hselect.2.2.1
      · intro hin
        exact h (List.mem_flatMap.mpr
          ⟨row, List.mem_filter.mpr ⟨hrow, hwatches⟩, hin⟩)
  · next hwatches =>
      by_cases hsame : row.targetId = target.id
      · -- Its target is archived now; the monitor has been for longer.
        have harchived : row.archived = true := by
          have hr := hrealm row hrow target (by rw [hsame, htarget])
          simpa [MonitorRow.watches, hsame, hr] using hwatches
        simp [MonitoringTables.selectMonitor, harchived]
      · have hfind : (t.targets.update (·.archivedAs target)
            target.id_archivedAs).find? row.targetId = t.targets.find? row.targetId := by
          rw [Table.find?_update]
          cases hother : t.targets.find? row.targetId with
          | none => rfl
          | some other =>
            have hid := (Table.find?_eq_some.mp hother).2
            rw [Option.map_some, TargetRow.archivedAs, if_neg (by rwa [hid])]
        simp only [MonitoringTables.selectMonitor, hfind]
        rfl

/-! ### Any statement -/

/-- An active agent is bumped, or keeps its monitors, or is owed a bump; and a
bump that is owed stays owed until it happens. -/
theorem step_serves (hactive : t.activeAgent agentId = true)
    (hrealm : RealmConsistent t) (hknows : Knows t c) :
    Serves realmId agentId c (c.step order t).1 t (c.step order t).2 := by
  cases c with
  | createInsert monitor =>
    exact .inr ⟨rfl, False.elim, .inl (assignedMonitors_create (hknows.1 realmId agentId) rfl)⟩
  | updateSave monitor =>
    obtain ⟨⟨row, hrow, hsame⟩, -⟩ := hknows
    refine .inr ⟨rfl, False.elim, ?_⟩
    by_cases howes : agentId ∈ t.effectiveAgentIds monitor
    · exact .inr howes
    · exact .inl (assignedMonitors_update hactive hrow hsame rfl howes)
  | updateEffective monitor =>
    exact serves_read fun howes => (order.mem_iterate _ _).mpr howes
  | archive target =>
    by_cases hin : agentId ∈ affectedAgentIds t target
    · refine .inl ?_
      show _ < ((t.archiveTarget order target).configurations
        agentId).state.desiredRevision
      rw [archiveTarget_eq]
      show _ < (ConfigurationRows.bump^[_] _).state.desiredRevision
      rw [(iterate_bump_state _ _).1]
      have hpos : 0 < (order.iterate (affectedAgentIds t target)).count agentId :=
        List.count_pos_iff.mpr ((order.mem_iterate _ _).mpr hin)
      omega
    · refine .inr ⟨?_, False.elim, .inl (assignedMonitors_archive hactive hrealm
        hknows hin)⟩
      show (t.archiveTarget order target).configurations agentId = _
      have hzero : (order.iterate (affectedAgentIds t target)).count agentId = 0 :=
        List.count_eq_zero.mpr fun hmem => hin ((order.mem_iterate _ _).mp hmem)
      rw [archiveTarget_eq]
      simp only [hzero, Function.iterate_zero, id_eq]
  | addSelect row => exact serves_read False.elim
  | addInsert row =>
    rw [DomainCall.step]
    split
    · exact serves_read False.elim
    · exact serves_assigned False.elim rfl rfl rfl
        ((sameMembership_addInsert rfl).imp_right
          fun h _ => assignedMonitorIds_memberships rfl rfl rfl h)
  | addCheck row | removeCheck row =>
    refine serves_read fun howes => ?_
    show Owes t agentId (if _ then _ else _)
    rw [if_pos howes.2]
    exact List.mem_singleton.mpr howes.1
  | removeDelete row =>
    rw [DomainCall.step]
    split
    · exact serves_assigned False.elim rfl rfl rfl
        ((sameMembership_removeDelete rfl).imp_right
          fun h _ => assignedMonitorIds_memberships rfl rfl rfl h)
    · exact serves_read False.elim
  | assignSelect assignment | assignReread assignment =>
    rw [DomainCall.step]
    split <;> exact serves_read False.elim
  | assignInsert assignment =>
    rw [DomainCall.step]
    split
    · exact serves_read False.elim
    · exact serves_assigned False.elim rfl rfl rfl
        (ids_assignments rfl fun _ => Table.mem_insert_of_ne)
  | assignEnable assignment =>
    exact serves_assigned False.elim rfl rfl rfl (ids_assignments rfl
      fun _ => Table.mem_update_of_ne fun _ h => if_neg h)
  | unassignDelete assignment =>
    rw [DomainCall.step]
    split
    · exact serves_assigned False.elim rfl rfl rfl
        (ids_assignments rfl fun _ => Table.mem_delete_of_ne)
    · exact serves_read False.elim
  | groupSelect assignment | groupReread assignment =>
    rw [DomainCall.step]
    split <;> exact serves_read False.elim
  | groupInsert assignment =>
    rw [DomainCall.step]
    split
    · exact serves_read False.elim
    · next hnew =>
        exact serves_assigned False.elim rfl rfl rfl
          (ids_groupAssignments rfl (fun _ => Table.mem_insert_of_ne)
            (owes_groupInsert hactive (Bool.not_eq_true _ ▸ hnew) rfl))
  | groupEnable assignment =>
    exact serves_assigned False.elim rfl rfl rfl
      (ids_groupAssignments rfl (fun _ => mem_groupEnable_of_ne)
        (owes_groupEnable hactive rfl))
  | groupMembers assignment =>
    exact serves_read fun howes => (order.mem_iterate _ _).mpr howes.1
  | ungroupMembers assignment => exact serves_read False.elim
  | ungroupDelete assignment agentIds =>
    rw [DomainCall.step]
    split
    · exact serves_assigned False.elim rfl rfl rfl
        (ids_ungroupDelete hactive (hknows agentId) rfl)
    · exact serves_read False.elim
  | bumping agentIds =>
    cases agentIds with
    | nil => exact serves_read fun howes => absurd howes List.not_mem_nil
    | cons b agentIds =>
      rcases eq_or_ne agentId b with rfl | hne
      · refine .inl ?_
        show _ < (Function.update t.configurations agentId _
          agentId).state.desiredRevision
        rw [Function.update_self]
        exact Nat.lt_succ_self _
      · refine .inr ⟨Function.update_of_ne hne _ _, fun howes => ?_, .inl rfl⟩
        exact (List.mem_cons.mp howes).resolve_left hne
  | done => exact serves_read False.elim

end Statements

end Bifrostnms.Proofs
