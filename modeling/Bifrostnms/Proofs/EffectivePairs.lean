import Bifrostnms.Backend.Dashboard
import Bifrostnms.Proofs.DesiredRevision

/-!
# Who runs a monitor, asked three times

A configuration request asks for the monitors of an agent, an operation for
the agents of a monitor, and the dashboard for all the pairs of a realm. The
first two are dual already (`mem_effectiveAgentIds`). The third joins the seven
tables in one query and compares realms at every join, where the others follow
a foreign key. The comparisons lose nothing in tables whose foreign keys stay
within a realm (`Linked`), and then all three agree.
-/

namespace Bifrostnms.Proofs

open Bifrostnms.Lib Bifrostnms.Protocol Bifrostnms.Backend

/-! ## Foreign keys within a realm -/

section Realms

variable (t : MonitoringTables) (id : Uuid)

def agentRealm : Option Uuid := (t.agents.find? id).map (·.realmId)

def groupRealm : Option Uuid := (t.groups.find? id).map (·.realmId)

def targetRealm : Option Uuid := (t.targets.find? id).map (·.realmId)

def monitorRealm : Option Uuid := (t.monitors.find? id).map (·.realmId)

end Realms

/-- Every foreign key refers to a row of the same realm. -/
structure Linked (t : MonitoringTables) : Prop where
  monitors : ∀ row ∈ t.monitors.rows, targetRealm t row.targetId = some row.realmId
  memberships : ∀ row ∈ t.memberships.rows, groupRealm t row.groupId = some row.realmId ∧
      agentRealm t row.agentId = some row.realmId
  assignments : ∀ row ∈ t.assignments.rows, monitorRealm t row.monitorId = some row.realmId ∧
      agentRealm t row.agentId = some row.realmId
  groupAssignments : ∀ row ∈ t.groupAssignments.rows,
    monitorRealm t row.monitorId = some row.realmId ∧ groupRealm t row.groupId = some row.realmId

/-! ## The pairs -/

/-- The two ways in which a monitor is assigned to an agent, as the joins find
them. -/
def PairAssigned (t : MonitoringTables) (monitor : MonitorRow) (agentId : Uuid) : Prop :=
  (∃ row ∈ t.assignments.rows, row.monitorId = monitor.id ∧
    row.realmId = monitor.realmId ∧ row.enabled = true ∧ row.agentId = agentId) ∨
  ∃ row ∈ t.groupAssignments.rows, row.monitorId = monitor.id ∧
    row.realmId = monitor.realmId ∧ row.enabled = true ∧
    ∃ group ∈ t.groups.rows, group.id = row.groupId ∧
      group.realmId = monitor.realmId ∧ group.enabled = true ∧ group.archived = false ∧
      ∃ membership ∈ t.memberships.rows, membership.groupId = group.id ∧
        membership.realmId = monitor.realmId ∧ membership.agentId = agentId

/-- The rows that a pair is made of. -/
structure PairOf (t : MonitoringTables) (realmId : Uuid) (monitor : MonitorRow)
    (target : TargetRow) (agent : AgentRow) : Prop where
  mem_monitors : monitor ∈ t.monitors.rows
  mem_targets : target ∈ t.targets.rows
  mem_agents : agent ∈ t.agents.rows
  targetId : target.id = monitor.targetId
  targetRealm : target.realmId = monitor.realmId
  agentRealm : agent.realmId = monitor.realmId
  passes : pairWhere realmId monitor target agent = true
  assigned : PairAssigned t monitor agent.id

theorem mem_effectivePairs {s : ServerTables} {realmId : Uuid} {p : EffectivePair} :
    p ∈ s.effectivePairs realmId ↔ ∃ monitor target agent,
      PairOf s.tables realmId monitor target agent ∧ p = effectivePair s.columns monitor agent := by
  simp only [ServerTables.effectivePairs, List.mem_dedup, List.mem_append,
    ServerTables.directPairs, ServerTables.groupedPairs, ServerTables.joinTarget, ServerTables.joinAgent,
    List.mem_flatMap, List.mem_filter, Bool.and_eq_true, decide_eq_true_eq, Bool.not_eq_true']
  constructor
  · rintro (⟨monitor, hmonitor, target, ⟨htarget, hid, hrealm⟩, row,
        ⟨hrow, ⟨hm, hr⟩, henabled⟩, agent, ⟨hagent, ha, har⟩, hp⟩ |
      ⟨monitor, hmonitor, target, ⟨htarget, hid, hrealm⟩, row,
        ⟨hrow, ⟨hm, hr⟩, henabled⟩, group, ⟨hgroup, ⟨⟨hg, hgr⟩, hon⟩, harchived⟩,
        membership, ⟨hmember, hmg, hmr⟩, agent, ⟨hagent, ha, har⟩, hp⟩)
    · split at hp
      · next hwhere =>
          exact ⟨monitor, target, agent, ⟨hmonitor, htarget, hagent, hid, hrealm,
            har, hwhere, .inl ⟨row, hrow, hm, hr, henabled, ha.symm⟩⟩, List.mem_singleton.mp hp⟩
      · exact absurd hp List.not_mem_nil
    · split at hp
      · next hwhere =>
          exact ⟨monitor, target, agent, ⟨hmonitor, htarget, hagent, hid, hrealm,
            har, hwhere, .inr ⟨row, hrow, hm, hr, henabled, group, hgroup, hg, hgr,
              hon, harchived, membership, hmember, hmg, hmr, ha.symm⟩⟩, List.mem_singleton.mp hp⟩
      · exact absurd hp List.not_mem_nil
  · rintro ⟨monitor, target, agent, h, rfl⟩
    have hp : effectivePair s.columns monitor agent ∈
        if pairWhere realmId monitor target agent = true then
          [effectivePair s.columns monitor agent] else [] := by
      rw [if_pos h.passes]
      exact List.mem_singleton_self _
    rcases h.assigned with ⟨row, hrow, hm, hr, henabled, ha⟩ |
      ⟨row, hrow, hm, hr, henabled, group, hgroup, hg, hgr, hon, harchived,
        membership, hmember, hmg, hmr, ha⟩
    · exact .inl ⟨monitor, h.mem_monitors, target,
        ⟨h.mem_targets, h.targetId, h.targetRealm⟩, row, ⟨hrow, ⟨hm, hr⟩, henabled⟩,
        agent, ⟨h.mem_agents, ha.symm, h.agentRealm⟩, hp⟩
    · exact .inr ⟨monitor, h.mem_monitors, target,
        ⟨h.mem_targets, h.targetId, h.targetRealm⟩, row, ⟨hrow, ⟨hm, hr⟩, henabled⟩,
        group, ⟨hgroup, ⟨⟨hg, hgr⟩, hon⟩, harchived⟩, membership,
        ⟨hmember, hmg, hmr⟩, agent, ⟨h.mem_agents, ha.symm, h.agentRealm⟩, hp⟩

/-! ## The three queries -/

section Agreement

variable {t : MonitoringTables} {monitor : MonitorRow} {agent : AgentRow}
  {target : TargetRow}

theorem activeGroup_eq_true {groupId : Uuid} : t.activeGroup groupId = true ↔
    ∃ group ∈ t.groups.rows, group.id = groupId ∧ group.enabled = true ∧
      group.archived = false := by
  rw [MonitoringTables.activeGroup, Option.any_eq_true]
  simp only [Table.find?_eq_some, AgentGroupRow.active, Bool.and_eq_true,
    Bool.not_eq_true', and_assoc]

theorem activeAgent_of_mem (hagent : agent ∈ t.agents.rows) :
    t.activeAgent agent.id = agent.active := by
  rw [MonitoringTables.activeAgent, Table.find?_eq_some.mpr ⟨hagent, rfl⟩]
  rfl

/-- A group of a realm is in that realm, so the joins find it. -/
theorem pairAssigned_iff (h : Linked t) (agentId : Uuid) : PairAssigned t monitor agentId ↔
      monitor.id ∈ t.assignedMonitorIds monitor.realmId agentId := by
  rw [mem_assignedMonitorIds, PairAssigned]
  refine or_congr (exists_congr fun row => and_congr_right fun _ => ?_)
    (exists_congr fun row => and_congr_right fun hrow => ?_)
  · constructor
    · rintro ⟨hm, hr, henabled, ha⟩
      exact ⟨hr, ha, henabled, hm⟩
    · rintro ⟨hr, ha, henabled, hm⟩
      exact ⟨hm, hr, henabled, ha⟩
  · constructor
    · rintro ⟨hm, hr, henabled, group, hgroup, hg, -, hon, harchived,
        ⟨_, _, _⟩, hmember, rfl, rfl, rfl⟩
      refine ⟨hr, ⟨hg ▸ hmember, ?_⟩, henabled, hm⟩
      exact activeGroup_eq_true.mpr ⟨group, hgroup, hg, hon, harchived⟩
    · rintro ⟨hr, ⟨hmember, hactive⟩, henabled, hm⟩
      obtain ⟨group, hgroup, hg, hon, harchived⟩ := activeGroup_eq_true.mp hactive
      have hrealm := (h.groupAssignments row hrow).2
      rw [groupRealm, Table.find?_eq_some.mpr ⟨hgroup, hg⟩, Option.map_some,
        Option.some.injEq] at hrealm
      exact ⟨hm, hr, henabled, group, hgroup, hg, hrealm.trans hr, hon, harchived,
        _, hmember, hg.symm, rfl, rfl⟩

/-- The monitors that the query selects, with a target that is active. -/
theorem exists_selectMonitor
    (htarget : t.targets.find? monitor.targetId = some target)
    (hon : target.enabled = true) (hkept : target.archived = false)
    (realmId : Uuid) (ids : List Uuid) : (∃ m, t.selectMonitor realmId ids monitor = some m) ↔
      monitor.realmId = realmId ∧ monitor.enabled = true ∧
        monitor.archived = false ∧ monitor.id ∈ ids := by
  rw [MonitoringTables.selectMonitor]
  simp only [htarget, hon, hkept, Bool.not_false, and_self, if_true,
    List.contains_iff_mem, Bool.not_eq_true']
  split
  · next h =>
      exact ⟨fun _ => h, fun _ => ⟨_, rfl⟩⟩
  · next h =>
      refine ⟨?_, fun hsel => absurd hsel h⟩
      rintro ⟨m, hm⟩
      cases hm

theorem id_of_selectMonitor {realmId : Uuid} {ids : List Uuid} {m : Monitor}
    (h : t.selectMonitor realmId ids monitor = some m) : m.id = monitor.id := by
  rw [MonitoringTables.selectMonitor] at h
  split at h
  · split at h
    · split at h
      · obtain rfl := Option.some.inj h
        rfl
      · cases h
    · cases h
  · cases h

theorem mem_assignedMonitors (hmonitor : monitor ∈ t.monitors.rows)
    (htarget : t.targets.find? monitor.targetId = some target)
    (hon : target.enabled = true) (hkept : target.archived = false) (realmId agentId : Uuid) :
    (∃ m ∈ t.assignedMonitors realmId agentId, m.id = monitor.id) ↔
      monitor.realmId = realmId ∧ monitor.enabled = true ∧ monitor.archived = false ∧
        monitor.id ∈ t.assignedMonitorIds realmId agentId := by
  rw [← exists_selectMonitor htarget hon hkept]
  simp only [MonitoringTables.assignedMonitors, MonitoringTables.selectMonitors,
    List.mem_insertionSort, List.mem_filterMap]
  constructor
  · rintro ⟨m, ⟨row, hrow, hm⟩, hid⟩
    obtain rfl : row = monitor :=
      Table.eq_of_key hrow hmonitor ((id_of_selectMonitor hm).symm.trans hid)
    exact ⟨m, hm⟩
  · rintro ⟨m, hm⟩
    exact ⟨m, ⟨monitor, hmonitor, hm⟩, id_of_selectMonitor hm⟩

/-- For an active agent and a monitor of its realm whose target is active, the
entries of a configuration request, the pairs of the dashboard and the agents
of the monitor agree. -/
theorem effective_queries_agree {s : ServerTables} (h : Linked s.tables)
    (hagent : agent ∈ s.tables.agents.rows) (hactive : agent.active = true)
    (hmonitor : monitor ∈ s.tables.monitors.rows) (hrealm : monitor.realmId = agent.realmId)
    (htarget : s.tables.targets.find? monitor.targetId = some target)
    (hon : target.enabled = true) (hkept : target.archived = false) :
    ((∃ m ∈ s.tables.assignedMonitors agent.realmId agent.id, m.id = monitor.id) ↔
      ∃ p ∈ s.effectivePairs agent.realmId, p.monitorId = monitor.id ∧ p.agentId = agent.id) ∧
    ((∃ p ∈ s.effectivePairs agent.realmId, p.monitorId = monitor.id ∧ p.agentId = agent.id) ↔
      agent.id ∈ s.tables.effectiveAgentIds monitor) := by
  have hentries := mem_assignedMonitors hmonitor htarget hon hkept agent.realmId
    agent.id
  have hpairs : (∃ p ∈ s.effectivePairs agent.realmId,
        p.monitorId = monitor.id ∧ p.agentId = agent.id) ↔
      monitor.enabled = true ∧ monitor.archived = false ∧
        monitor.id ∈ s.tables.assignedMonitorIds agent.realmId agent.id := by
    rw [← hrealm, ← pairAssigned_iff h]
    constructor
    · rintro ⟨p, hp, hm, ha⟩
      obtain ⟨monitor', target', agent', hpair, rfl⟩ := mem_effectivePairs.mp hp
      obtain rfl : monitor' = monitor :=
        Table.eq_of_key hpair.mem_monitors hmonitor hm
      obtain rfl : agent' = agent := Table.eq_of_key hpair.mem_agents hagent ha
      have hwhere := hpair.passes
      simp only [pairWhere, Bool.and_eq_true, Bool.not_eq_true'] at hwhere
      exact ⟨hwhere.1.1.1.1.1.2, hwhere.1.1.1.1.2, hpair.assigned⟩
    · rintro ⟨henabled, harchived, hassigned⟩
      obtain ⟨hmem, hid⟩ := Table.find?_eq_some.mp htarget
      have hsame := h.monitors monitor hmonitor
      rw [targetRealm, htarget, Option.map_some, Option.some.injEq] at hsame
      rw [AgentRow.active, Bool.and_eq_true] at hactive
      refine ⟨_, mem_effectivePairs.mpr ⟨monitor, target, agent, ⟨hmonitor, hmem,
        hagent, hid, hsame, hrealm.symm, ?_, hassigned⟩, rfl⟩, rfl, rfl⟩
      simp [pairWhere, hrealm, henabled, harchived, hon, hkept, hactive]
  have hagents : agent.id ∈ s.tables.effectiveAgentIds monitor ↔
      monitor.enabled = true ∧ monitor.archived = false ∧
        monitor.id ∈ s.tables.assignedMonitorIds agent.realmId agent.id := by
    rw [mem_effectiveAgentIds, activeAgent_of_mem hagent, hrealm]
    constructor
    · rintro ⟨harchived, henabled, -, hmem⟩
      exact ⟨henabled, harchived, hmem⟩
    · rintro ⟨henabled, harchived, hmem⟩
      exact ⟨harchived, henabled, hactive, hmem⟩
  rw [hpairs, hentries, hagents]
  exact ⟨and_iff_right hrealm, Iff.rfl⟩

end Agreement

/-- The monitor of the site is assigned to the group of the agent. -/
def assignedSite : ServerTables where
  tables := { site with
    groupAssignments := Table.insert {} ⟨.ofByte 9, .ofByte 4, .ofByte 2, true⟩ }

theorem assignedSite_linked : Linked assignedSite.tables where
  monitors row hrow := by
    obtain rfl : row = siteMonitor := List.mem_singleton.mp hrow
    rfl
  memberships row hrow := by
    obtain rfl := List.mem_singleton.mp hrow
    exact ⟨rfl, rfl⟩
  assignments row hrow := absurd hrow List.not_mem_nil
  groupAssignments row hrow := by
    obtain rfl := List.mem_singleton.mp hrow
    exact ⟨rfl, rfl⟩

theorem effective_queries_agree_assignedSite :
    (∃ m ∈ assignedSite.tables.assignedMonitors siteAgent.realmId siteAgent.id,
      m.id = siteMonitor.id) ∧ ∃ p ∈ assignedSite.effectivePairs siteAgent.realmId,
      p.monitorId = siteMonitor.id ∧ p.agentId = siteAgent.id := by
  obtain ⟨hentries, hpairs⟩ := effective_queries_agree assignedSite_linked
    (List.mem_singleton_self siteAgent) rfl (List.mem_singleton_self siteMonitor)
    rfl rfl rfl rfl
  have hagent : siteAgent.id ∈ assignedSite.tables.effectiveAgentIds siteMonitor :=
    List.mem_singleton_self _
  exact ⟨hentries.mpr (hpairs.mpr hagent), hpairs.mpr hagent⟩

end Bifrostnms.Proofs
