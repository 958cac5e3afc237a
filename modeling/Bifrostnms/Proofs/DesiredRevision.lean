import Bifrostnms.Proofs.Assignments

/-!
# The desired revision follows the monitors

Operations that run to their end one after the other, with requests in between.
A call starts on what it has just loaded, and nobody changes it until the call
returns; so every statement serves every active agent (`step_serves`), and a
call that has returned owes nothing. An agent whose monitors have changed was
bumped.

A snapshot is therefore the configuration of its revision for as long as that
revision is the desired one, and a request never finds another hash in its
place.
-/

namespace Bifrostnms.Proofs

open Bifrostnms.Lib Bifrostnms.Protocol Bifrostnms.Backend

variable {t t' t'' : MonitoringTables} {realmId agentId : Uuid}
  {order : SetOrder} {c c' c'' : DomainCall}

/-! ## Calls without interruption -/

theorem Serves.le (h : Serves realmId agentId c c' t t') :
    (t.configurations agentId).state.desiredRevision ≤
      (t'.configurations agentId).state.desiredRevision := by
  rcases h with hlt | ⟨hsame, -⟩
  · exact hlt.le
  · rw [hsame]

theorem Serves.refl : Serves realmId agentId c c t t :=
  .inr ⟨rfl, id, .inl rfl⟩

theorem Serves.trans (h : Serves realmId agentId c c' t t')
    (h' : Serves realmId agentId c' c'' t' t'') : Serves realmId agentId c c'' t t'' := by
  have hle := h'.le
  rcases h with hlt | ⟨hsame, howes, hmonitors⟩
  · exact .inl (hlt.trans_le hle)
  · rcases h' with hlt | ⟨hsame', howes', hmonitors'⟩
    · rw [hsame] at hlt
      exact .inl hlt
    · refine .inr ⟨hsame'.trans hsame, fun h => howes' (howes h), ?_⟩
      rcases hmonitors' with heq | h
      · rcases hmonitors with heq' | h
        · exact .inl (heq.trans heq')
        · exact .inr (howes' h)
      · exact .inr h

theorem not_owes_of_returned (h : c.returned = true) : ¬ Owes t agentId c := by
  intro howes
  cases c with
  | bumping agentIds =>
    cases agentIds with
    | nil => cases howes
    | cons => cases h
  | _ => first | exact howes | cases h

/-- No statement touches the agents and groups, and the configuration rows of
an agent are only bumped. -/
theorem step_frame (order : SetOrder) (c : DomainCall) (t : MonitoringTables) :
    (c.step order t).2.agents = t.agents ∧ (c.step order t).2.groups = t.groups ∧
      ∀ a, ∃ n, (c.step order t).2.configurations a =
        ConfigurationRows.bump^[n] (t.configurations a) := by
  have hread : t.agents = t.agents ∧ t.groups = t.groups ∧ ∀ a, ∃ n, t.configurations a =
        ConfigurationRows.bump^[n] (t.configurations a) :=
    ⟨rfl, rfl, fun _ => ⟨0, rfl⟩⟩
  cases c with
  | archive target =>
    show (t.archiveTarget order target).agents = _ ∧ _
    rw [DomainCall.step, archiveTarget_eq]
    exact ⟨rfl, rfl, fun a => ⟨_, rfl⟩⟩
  | bumping agentIds =>
    cases agentIds with
    | nil => exact hread
    | cons b agentIds =>
      refine ⟨rfl, rfl, fun a => ?_⟩
      show ∃ n, Function.update t.configurations b _ a = _
      rw [Function.update_apply]
      split
      · next h =>
          subst h
          exact ⟨1, rfl⟩
      · exact ⟨0, rfl⟩
  | addInsert | removeDelete | assignSelect | assignReread | assignInsert |
      unassignDelete | groupSelect | groupReread | groupInsert |
      ungroupDelete =>
      rw [DomainCall.step]
      split <;> exact hread
  | _ => exact hread

theorem activeAgent_step (order : SetOrder) (c : DomainCall) (t : MonitoringTables) (a : Uuid) :
    (c.step order t).2.activeAgent a = t.activeAgent a := by
  rw [MonitoringTables.activeAgent, MonitoringTables.activeAgent, (step_frame order c t).1]

/-- A statement leaves monitors in the realm of their target, if the call
knows that they are. -/
theorem step_realmConsistent (hrealm : RealmConsistent t) (hknows : Knows t c) :
    RealmConsistent (c.step order t).2 := by
  cases c with
  | createInsert monitor =>
    intro row hrow target hfind
    rcases Table.mem_insert.mp hrow with hrow | ⟨rfl, -⟩
    · exact hrealm row hrow target hfind
    · exact hknows.2 target hfind
  | updateSave monitor =>
    obtain ⟨⟨found, hfound, hsame, -⟩, htarget⟩ := hknows
    intro saved hmem target hfind
    obtain ⟨row, hrow, rfl⟩ := List.mem_map.mp hmem
    rw [MonitorRow.withBehavior] at hfind ⊢
    split at hfind
    · next hid =>
        obtain ⟨hmem, hfid⟩ := Table.find?_eq_some.mp hfound
        obtain rfl : row = found :=
          Table.eq_of_key hrow hmem (hid.trans hfid.symm)
        rw [if_pos hid]
        exact (htarget target hfind).trans hsame.symm
    · next hid =>
        rw [if_neg hid]
        exact hrealm row hrow target hfind
  | archive archived =>
    rw [DomainCall.step, archiveTarget_eq]
    intro monitor hmem target hfind
    obtain ⟨row, hrow, rfl⟩ := List.mem_map.mp hmem
    have hsame : (row.archivedWith archived).targetId = row.targetId ∧
        (row.archivedWith archived).realmId = row.realmId := by
      unfold MonitorRow.archivedWith
      split <;> exact ⟨rfl, rfl⟩
    rw [hsame.1] at hfind
    rw [hsame.2]
    rw [Table.find?_update, Option.map_eq_some_iff] at hfind
    obtain ⟨target, hfind, rfl⟩ := hfind
    have hkeeps : (target.archivedAs archived).realmId = target.realmId := by
      unfold TargetRow.archivedAs
      split <;> rfl
    rw [hkeeps]
    exact hrealm row hrow target hfind
  | bumping agentIds =>
    cases agentIds <;> exact hrealm
  | addInsert | removeDelete | assignSelect | assignReread | assignInsert |
      unassignDelete | groupSelect | groupReread | groupInsert |
      ungroupDelete =>
      rw [DomainCall.step]
      split <;> exact hrealm
  | _ => exact hrealm

/-- What a call will have read is what it finds. -/
theorem step_knows (order : SetOrder) (c : DomainCall) (t : MonitoringTables) :
    Knows (c.step order t).2 (c.step order t).1 := by
  cases c with
  | bumping agentIds => cases agentIds <;> trivial
  | addSelect row | addCheck row | removeCheck row =>
    show Knows t (if _ then _ else _)
    split <;> trivial
  | assignSelect | assignReread | groupSelect | groupReread =>
    rw [DomainCall.step]
    split
    · first
        | (unfold DomainCall.afterAssignment; split <;> trivial)
        | (unfold DomainCall.afterGroupAssignment; split <;> trivial)
    · trivial
  | addInsert | removeDelete | assignInsert | unassignDelete | groupInsert |
      ungroupDelete =>
      rw [DomainCall.step]
      split <;> trivial
  | ungroupMembers assignment => exact fun a ha => ha
  | _ => trivial

/-- A whole run of a call, up to any of its statements. -/
theorem runFor_serves (order : SetOrder) (realmId : Uuid) (hactive : t.activeAgent agentId = true)
    (hrealm : RealmConsistent t) (hknows : Knows t c) (n : ℕ) :
    RealmConsistent (DomainCall.runFor order n (c, t)).2 ∧
      Serves realmId agentId c (DomainCall.runFor order n (c, t)).1 t
        (DomainCall.runFor order n (c, t)).2 := by
  induction n generalizing c t with
  | zero => exact ⟨hrealm, .refl⟩
  | succ n ih =>
    have hstep : Serves realmId agentId c (c.step order t).1 t
        (c.step order t).2 := step_serves hactive hrealm hknows
    obtain ⟨hlast, hrest⟩ := ih
      ((activeAgent_step order c t agentId).trans hactive)
      (step_realmConsistent hrealm hknows) (step_knows order c t)
    exact ⟨hlast, hstep.trans hrest⟩

theorem runFor_frame (order : SetOrder) (n : ℕ) (c : DomainCall) (t : MonitoringTables) :
    (DomainCall.runFor order n (c, t)).2.agents = t.agents ∧
      ∀ a, ∃ k, (DomainCall.runFor order n (c, t)).2.configurations a =
        ConfigurationRows.bump^[k] (t.configurations a) := by
  induction n generalizing c t with
  | zero => exact ⟨rfl, fun _ => ⟨0, rfl⟩⟩
  | succ n ih =>
    obtain ⟨hagents, -, hstep⟩ := step_frame order c t
    obtain ⟨hagents', hrest⟩ := ih (c.step order t).1 (c.step order t).2
    refine ⟨hagents'.trans hagents, fun a => ?_⟩
    obtain ⟨j, hj⟩ := hstep a
    obtain ⟨k, hk⟩ := hrest a
    refine ⟨k + j, ?_⟩
    rw [Function.iterate_add_apply, ← hj]
    exact hk

/-- A call that has returned has served everyone. -/
theorem serves_returned (h : Serves realmId agentId c c' t t') (hreturned : c'.returned = true) :
    (t.configurations agentId).state.desiredRevision <
        (t'.configurations agentId).state.desiredRevision ∨
      t'.configurations agentId = t.configurations agentId ∧ t'.assignedMonitors realmId agentId =
          t.assignedMonitors realmId agentId := by
  rcases h with hlt | ⟨hsame, -, hmonitors⟩
  · exact .inl hlt
  · exact .inr ⟨hsame, hmonitors.resolve_right (not_owes_of_returned hreturned)⟩

/-! ## Every call returns -/

theorem loadRow_eq_ok {ρ : Type} {key : ρ → Uuid} {table : Table key} {id : Uuid}
    {row : ρ} : loadRow table id = .ok row ↔ table.find? id = some row := by
  unfold loadRow
  split
  · next found hfound => simp [hfound]
  · next hnone => simp [hnone]

theorem requireSameRealm_eq_ok {realmIds : List Uuid} {u : Unit} :
    requireSameRealm realmId realmIds = .ok u ↔ ∀ id ∈ realmIds, id = realmId := by
  unfold requireSameRealm
  split
  · next hany =>
      simp only [List.any_eq_true, bne_iff_ne] at hany
      obtain ⟨id, hmem, hne⟩ := hany
      exact ⟨nofun, fun h => absurd (h id hmem) hne⟩
  · next hall =>
      simp only [List.any_eq_true, bne_iff_ne, not_exists, not_and, not_not] at hall
      exact ⟨fun _ => hall, fun _ => rfl⟩

/-- What an operation can start as. -/
inductive Started (ctx : DomainContext) (t : MonitoringTables) :
    DomainOperation → DomainCall → Prop where
  | create {realmId targetId monitorId : Uuid} {target : TargetRow}
      {intervalSeconds timeoutSeconds : ℤ}
      {configuration : TypedProbeConfiguration} {normalized : Json JsonNum}
      (htarget : t.targets.find? targetId = some target)
      (hrealm : target.realmId = realmId) :
      Started ctx t (.createMonitor realmId targetId monitorId intervalSeconds
        timeoutSeconds configuration) (.createInsert {
          id := monitorId
          realmId := realmId
          targetId := target.id
          probeType := configuration.probeType
          intervalSeconds := intervalSeconds
          timeoutSeconds := timeoutSeconds
          configuration := normalized.mapNum ctx.column.read })
  | update {realmId monitorId targetId : Uuid} {monitor : MonitorRow}
      {target : TargetRow} {intervalSeconds timeoutSeconds : ℤ}
      {configuration : TypedProbeConfiguration} {normalized : Json JsonNum}
      (hmonitor : t.monitors.find? monitorId = some monitor)
      (htarget : t.targets.find? targetId = some target)
      (hrealm : target.realmId = monitor.realmId)
      (hnormalized : normalizeBehavior ctx.txt intervalSeconds timeoutSeconds
        configuration = .ok normalized)
      (hchanged : monitor.changed target.id intervalSeconds timeoutSeconds
        configuration normalized = true) :
      Started ctx t (.updateMonitorBehavior realmId monitorId targetId
        intervalSeconds timeoutSeconds configuration) (.updateSave { monitor with
          targetId := target.id
          probeType := configuration.probeType
          intervalSeconds := intervalSeconds
          timeoutSeconds := timeoutSeconds
          configuration := normalized.mapNum ctx.column.read
          revision := monitor.revision + 1 })
  | unchanged {realmId monitorId targetId : Uuid} {monitor : MonitorRow}
      {target : TargetRow} {intervalSeconds timeoutSeconds : ℤ}
      {configuration : TypedProbeConfiguration} {normalized : Json JsonNum}
      (hmonitor : t.monitors.find? monitorId = some monitor)
      (htarget : t.targets.find? targetId = some target)
      (hnormalized : normalizeBehavior ctx.txt intervalSeconds timeoutSeconds
        configuration = .ok normalized)
      (hchanged : monitor.changed target.id intervalSeconds timeoutSeconds
        configuration normalized = false) :
      Started ctx t (.updateMonitorBehavior realmId monitorId targetId
        intervalSeconds timeoutSeconds configuration) .done
  | archive {realmId targetId : Uuid} {target : TargetRow}
      (htarget : t.targets.find? targetId = some target)
      (harchived : target.archived = false) :
      Started ctx t (.archiveTarget realmId targetId) (.archive target)
  | archived {realmId targetId : Uuid} : Started ctx t (.archiveTarget realmId targetId) .done
  | add {realmId groupId agentId : Uuid} : Started ctx t (.addAgentToGroup realmId groupId agentId)
        (.addSelect ⟨realmId, groupId, agentId⟩)
  | remove {realmId groupId agentId : Uuid} :
      Started ctx t (.removeAgentFromGroup realmId groupId agentId)
        (.removeDelete ⟨realmId, groupId, agentId⟩)
  | assign {realmId monitorId agentId : Uuid} :
      Started ctx t (.assignMonitorToAgent realmId monitorId agentId)
        (.assignSelect ⟨realmId, monitorId, agentId, true⟩)
  | assignGroup {realmId monitorId groupId : Uuid} :
      Started ctx t (.assignMonitorToAgentGroup realmId monitorId groupId)
        (.groupSelect ⟨realmId, monitorId, groupId, true⟩)
  | unassign {realmId monitorId agentId : Uuid} :
      Started ctx t (.unassignMonitorFromAgent realmId monitorId agentId)
        (.unassignDelete ⟨realmId, monitorId, agentId, true⟩)
  | unassignGroup {realmId monitorId groupId : Uuid} :
      Started ctx t (.unassignMonitorFromAgentGroup realmId monitorId groupId)
        (.ungroupMembers ⟨realmId, monitorId, groupId, true⟩)

theorem start_started {ctx : DomainContext} {op : DomainOperation}
    (hstart : op.start ctx t = .ok c) : Started ctx t op c := by
  cases op with
  | createMonitor realm targetId monitorId interval timeout configuration =>
    simp only [DomainOperation.start, bind_eq_ok, loadRow_eq_ok,
      requireSameRealm_eq_ok, List.forall_mem_singleton] at hstart
    obtain ⟨target, htarget, _, hrealm, _, -, hstart⟩ := hstart
    split at hstart
    · simp only [bind_eq_ok, Except.ok.injEq] at hstart
      obtain ⟨normalized, -, rfl⟩ := hstart
      exact .create htarget hrealm
    · cases hstart
  | updateMonitorBehavior realm monitorId targetId interval timeout configuration =>
    simp only [DomainOperation.start, bind_eq_ok, loadRow_eq_ok,
      requireSameRealm_eq_ok, List.forall_mem_cons] at hstart
    obtain ⟨monitor, hmonitor, target, htarget, _, ⟨hrealm, hrealm', -⟩, _, -, hstart⟩ := hstart
    split at hstart
    · simp only [bind_eq_ok] at hstart
      obtain ⟨normalized, hnormalized, hstart⟩ := hstart
      split at hstart
      · next hchanged =>
          cases hstart
          exact .update hmonitor htarget (hrealm'.trans hrealm.symm)
            hnormalized hchanged
      · next hchanged =>
          cases hstart
          exact .unchanged hmonitor htarget hnormalized
            (by simpa using hchanged)
    · cases hstart
  | archiveTarget realm targetId =>
    simp only [DomainOperation.start, bind_eq_ok, loadRow_eq_ok] at hstart
    obtain ⟨target, htarget, _, -, hstart⟩ := hstart
    split at hstart
    · cases hstart
      exact .archived
    · next harchived =>
        cases hstart
        exact .archive htarget (by simpa using harchived)
  | addAgentToGroup realm groupId agentId =>
    simp only [DomainOperation.start, bind_eq_ok, loadRow_eq_ok] at hstart
    obtain ⟨group, hgroup, agent, hagent, _, -, _, -, hstart⟩ := hstart
    obtain ⟨-, rfl⟩ := Table.find?_eq_some.mp hgroup
    obtain ⟨-, rfl⟩ := Table.find?_eq_some.mp hagent
    cases hstart
    exact .add
  | removeAgentFromGroup realm groupId agentId =>
    simp only [DomainOperation.start, bind_eq_ok, loadRow_eq_ok] at hstart
    obtain ⟨group, hgroup, agent, hagent, _, -, hstart⟩ := hstart
    obtain ⟨-, rfl⟩ := Table.find?_eq_some.mp hgroup
    obtain ⟨-, rfl⟩ := Table.find?_eq_some.mp hagent
    cases hstart
    exact .remove
  | assignMonitorToAgent realm monitorId agentId =>
    simp only [DomainOperation.start, bind_eq_ok, loadRow_eq_ok] at hstart
    obtain ⟨monitor, hmonitor, agent, hagent, _, -, _, -, hstart⟩ := hstart
    obtain ⟨-, rfl⟩ := Table.find?_eq_some.mp hmonitor
    obtain ⟨-, rfl⟩ := Table.find?_eq_some.mp hagent
    split at hstart
    · cases hstart
      exact .assign
    · cases hstart
  | assignMonitorToAgentGroup realm monitorId groupId =>
    simp only [DomainOperation.start, bind_eq_ok, loadRow_eq_ok] at hstart
    obtain ⟨monitor, hmonitor, group, hgroup, _, -, _, -, hstart⟩ := hstart
    obtain ⟨-, rfl⟩ := Table.find?_eq_some.mp hmonitor
    obtain ⟨-, rfl⟩ := Table.find?_eq_some.mp hgroup
    split at hstart
    · cases hstart
      exact .assignGroup
    · cases hstart
  | unassignMonitorFromAgent realm monitorId agentId =>
    simp only [DomainOperation.start, bind_eq_ok, loadRow_eq_ok] at hstart
    obtain ⟨monitor, hmonitor, agent, hagent, _, -, hstart⟩ := hstart
    obtain ⟨-, rfl⟩ := Table.find?_eq_some.mp hmonitor
    obtain ⟨-, rfl⟩ := Table.find?_eq_some.mp hagent
    cases hstart
    exact .unassign
  | unassignMonitorFromAgentGroup realm monitorId groupId =>
    simp only [DomainOperation.start, bind_eq_ok, loadRow_eq_ok] at hstart
    obtain ⟨monitor, hmonitor, group, hgroup, _, -, hstart⟩ := hstart
    obtain ⟨-, rfl⟩ := Table.find?_eq_some.mp hmonitor
    obtain ⟨-, rfl⟩ := Table.find?_eq_some.mp hgroup
    cases hstart
    exact .unassignGroup

/-- An object is loaded under its own id. -/
theorem find?_self {ρ : Type} {key : ρ → Uuid} {table : Table key} {id : Uuid}
    {row : ρ} (h : table.find? id = some row) : table.find? (key row) = some row := by
  rwa [(Table.find?_eq_some.mp h).2]

/-- A call knows what was loaded for it. -/
theorem Started.knows {ctx : DomainContext} {op : DomainOperation}
    (h : Started ctx t op c) (hfresh : op.fresh t = true) : Knows t c := by
  cases h with
  | create htarget hrealm =>
    simp only [DomainOperation.fresh, Bool.and_eq_true, List.all_eq_true,
      decide_eq_true_eq] at hfresh
    refine ⟨fun r a hmem => ?_, fun other hother => ?_⟩
    · rcases mem_assignedMonitorIds.mp hmem with
        ⟨row, hrow, -, -, -, hid⟩ | ⟨row, hrow, -, -, -, hid⟩
      · exact hfresh.1.2 row hrow hid
      · exact hfresh.2 row hrow hid
    · cases (find?_self htarget).symm.trans hother
      exact hrealm
  | update hmonitor htarget hrealm =>
    have hself := find?_self hmonitor
    refine ⟨⟨_, hself, rfl, rfl, rfl⟩, fun other hother => ?_⟩
    cases (find?_self htarget).symm.trans hother
    exact hrealm
  | archive htarget => exact find?_self htarget
  | _ => trivial

/-! ## Requests -/

/-- The entries computed for a list of monitors. -/
def computedEntries (monitors : List Monitor) : List MonitorConfiguration :=
  monitors.map fun m => entry m (versionOf m)

/-- The snapshot of the desired revision, if there is one, has the entries
computed now. -/
def Current (t : MonitoringTables) (agent : AgentRow) : Prop :=
  ∀ s ∈ (t.configurations agent.id).snapshots,
    s.revision = (t.configurations agent.id).state.desiredRevision →
    s.monitors = computedEntries (t.assignedMonitors agent.realmId agent.id)

/-- The configuration rows of an agent follow its monitors. -/
structure InStep (sha256 : List UInt8 → List UInt8) (t : MonitoringTables)
    (agent : AgentRow) : Prop where
  ordered : Ordered (t.configurations agent.id)
  hashed : ∀ s ∈ (t.configurations agent.id).snapshots,
    s.contentHash = contentHash sha256 agent.id agent.realmId s.monitors
  current : Current t agent

/-- The snapshots of an agent that was bumped are older than its desired
revision. -/
theorem current_of_bumped {agent : AgentRow}
    (hordered : Ordered (t.configurations agent.id)) {k : ℕ} (hk : t'.configurations agent.id =
      ConfigurationRows.bump^[k] (t.configurations agent.id))
    (hlt : (t.configurations agent.id).state.desiredRevision <
      (t'.configurations agent.id).state.desiredRevision) : Current t' agent := by
  intro snapshot hmem hrevision
  rw [hk, (iterate_bump_state _ _).2] at hmem
  have hle := hordered.snapshots_le snapshot hmem
  omega

theorem current_of_served {agent : AgentRow}
    (hordered : Ordered (t.configurations agent.id)) (hcurrent : Current t agent)
    {k : ℕ} (hk : t'.configurations agent.id =
      ConfigurationRows.bump^[k] (t.configurations agent.id))
    (hserved : (t.configurations agent.id).state.desiredRevision <
        (t'.configurations agent.id).state.desiredRevision ∨
      t'.configurations agent.id = t.configurations agent.id ∧
        t'.assignedMonitors agent.realmId agent.id =
          t.assignedMonitors agent.realmId agent.id) : Current t' agent := by
  rcases hserved with hlt | ⟨hsame, hmonitors⟩
  · exact current_of_bumped hordered hk hlt
  · unfold Current
    rw [hsame, hmonitors]
    exact hcurrent

section Requests

variable {sha256 : List UInt8 → List UInt8} {agent : AgentRow}
  {operational : Option Capabilities} {result : ConfigurationResult}

/-- The revision of a request is the desired one, or none was issued yet. -/
theorem Ordered.requested {rows : ConfigurationRows} (h : Ordered rows)
    {s : Backend.ConfigurationSnapshot} (hs : s ∈ rows.snapshots)
    (hrevision : s.revision = rows.state.requested) : s.revision = rows.state.desiredRevision := by
  have hle := h.snapshots_le s hs
  unfold ConfigurationState.requested at hrevision
  split at hrevision
  · omega
  · exact hrevision

/-- The snapshot of the desired revision after a request is the one before, or
has what the request computed. -/
theorem Answered.desired (hsha : ∀ bytes, sha256 bytes ≠ []) {realmId : Uuid}
    {rows rows' : ConfigurationRows} (hordered : Ordered rows)
    (h : Answered sha256 agentId realmId rows rows' result)
    {s : Backend.ConfigurationSnapshot} (hs : s ∈ rows'.snapshots)
    (hrevision : s.revision = rows'.state.desiredRevision) :
    (s ∈ rows.snapshots ∧ s.revision = rows.state.desiredRevision) ∨
      s.monitors = result.monitors := by
  rw [h.desiredRevision hsha hordered] at hrevision
  rcases h.snapshots with ⟨hsame, -⟩ | ⟨hnew, hcontent, hfresh⟩
  · rw [hsame] at hs
    exact .inl ⟨hs, hordered.requested hs hrevision⟩
  · rw [hnew] at hs
    rcases List.mem_append.mp hs with hs | hs
    · exact absurd hrevision (hfresh s hs)
    · rw [List.mem_singleton.mp hs, hcontent]
      exact .inr rfl

theorem requestConfiguration_eq_ok
    (h : t.requestConfiguration sha256 agent operational = .ok (t', result)) : result.monitors =
        computedEntries (t.assignedMonitors agent.realmId agent.id) ∧ ∃ rows, t' = { t with
          configurations := Function.update t.configurations agent.id rows } ∧
        Answered sha256 agent.id agent.realmId (t.configurations agent.id) rows
          result := by
  unfold MonitoringTables.requestConfiguration at h
  split at h
  · cases h
  · next rows result' hok =>
      cases h
      obtain ⟨⟨capabilities, -, hentries⟩, hanswered⟩ :=
        getOrCreateConfiguration_answered hok
      exact ⟨(entries_eq_ok hentries).1, rows, rfl, hanswered⟩

theorem InStep.request (hsha : ∀ bytes, sha256 bytes ≠ []) (hin : InStep sha256 t agent)
    (h : t.requestConfiguration sha256 agent operational = .ok (t', result)) :
    InStep sha256 t' agent := by
  obtain ⟨hmonitors, rows, rfl, hanswered⟩ := requestConfiguration_eq_ok h
  have hrows : Function.update t.configurations agent.id rows agent.id = rows :=
    Function.update_self _ _ _
  refine ⟨?_, ?_, ?_⟩
  · show Ordered (Function.update t.configurations agent.id rows agent.id)
    rw [hrows]
    exact hin.ordered.request hsha hanswered
  · show ∀ s ∈ (Function.update t.configurations agent.id rows
      agent.id).snapshots, _
    rw [hrows]
    intro s hs
    rcases hanswered.snapshots with ⟨hsame, -⟩ | ⟨hnew, hcontent, -⟩
    · rw [hsame] at hs
      exact hin.hashed s hs
    · rw [hnew] at hs
      rcases List.mem_append.mp hs with hs | hs
      · exact hin.hashed s hs
      · rw [List.mem_singleton.mp hs, hcontent]
        exact hanswered.hash
  · show ∀ s ∈ (Function.update t.configurations agent.id rows
        agent.id).snapshots, s.revision = (Function.update t.configurations
          agent.id rows agent.id).state.desiredRevision →
      s.monitors = computedEntries (t.assignedMonitors agent.realmId agent.id)
    rw [hrows]
    intro s hs hrevision
    rcases hanswered.desired hsha hin.ordered hs hrevision with
      ⟨hold, hdesired⟩ | hnew
    · exact hin.current s hold hdesired
    · rw [hnew, hmonitors]

theorem entries_eq_error {capabilities : Capabilities} {monitors : List Monitor}
    {e : AgentProtocolError} (h : entries capabilities monitors = .error e) :
    e.code = "incompatible_capability" := by
  induction monitors with
  | nil => cases h
  | cons m monitors ih =>
    rw [entries, List.mapM_cons] at h
    cases hcheck : checkCapability capabilities m with
    | error e' =>
      rw [hcheck] at h
      cases h
      unfold checkCapability at hcheck
      split at hcheck
      · cases hcheck
        rfl
      · split at hcheck
        · cases hcheck
        · cases hcheck
          rfl
    | ok version =>
      rw [hcheck] at h
      cases hrest : entries capabilities monitors with
      | error e' =>
        rw [entries] at hrest
        simp only [hrest] at h
        cases h
        exact ih hrest
      | ok es =>
        rw [entries] at hrest
        simp only [hrest] at h
        cases h

/-- A request that is in step finds no other hash under its revision. -/
theorem InStep.no_conflict (hin : InStep sha256 t agent) {e : AgentProtocolError}
    (h : t.requestConfiguration sha256 agent operational = .error e) :
    e.code ≠ "configuration_revision_conflict" := by
  unfold MonitoringTables.requestConfiguration at h
  split at h
  · next e' herror =>
      cases h
      rcases getOrCreateConfiguration_eq_error herror with
        hcode | ⟨capabilities, hentries | ⟨es, hentries, s, hs, hrevision, hne⟩⟩
      · rw [hcode]
        decide
      · rw [entries_eq_error hentries]
        decide
      · have hcurrent := hin.current s hs (hin.ordered.requested hs hrevision)
        rw [hin.hashed s hs, hcurrent, (entries_eq_ok hentries).1] at hne
        exact absurd rfl hne
  · cases h

end Requests

/-! ## Runs -/

section Runs

variable {sha256 : List UInt8 → List UInt8} {ctx : DomainContext}
  {s : MonitoringTables} {agent : AgentRow} {event : DomainEvent}

/-- From one moment to a later one the desired revision grows, or the monitors
are the same. -/
def Tracks (agent : AgentRow) (s t : MonitoringTables) : Prop :=
  (s.configurations agent.id).state.desiredRevision <
      (t.configurations agent.id).state.desiredRevision ∨
    (s.configurations agent.id).state.desiredRevision =
        (t.configurations agent.id).state.desiredRevision ∧
      t.assignedMonitors agent.realmId agent.id = s.assignedMonitors agent.realmId agent.id

theorem Tracks.refl : Tracks agent s s := .inr ⟨rfl, rfl⟩

theorem Tracks.trans (h : Tracks agent s t) (h' : Tracks agent t t') : Tracks agent s t' := by
  rcases h with hlt | ⟨heq, hmonitors⟩
  · rcases h' with hlt' | ⟨heq', -⟩
    · exact .inl (hlt.trans hlt')
    · exact .inl (hlt.trans_eq heq')
  · rcases h' with hlt' | ⟨heq', hmonitors'⟩
    · exact .inl (heq.trans_lt hlt')
    · exact .inr ⟨heq.trans heq', hmonitors'.trans hmonitors⟩

theorem activeAgent_of_active (hagent : s.agents.find? agent.id = some agent)
    (hactive : agent.active = true) : s.activeAgent agent.id = true := by
  rw [MonitoringTables.activeAgent, hagent]
  exact hactive

theorem activeAgent_of_enabled (hagent : agent ∈ s.agents.rows)
    (henabled : agent.enabled = true) (harchived : agent.archived = false) :
    s.activeAgent agent.id = true := by
  refine activeAgent_of_active (Table.find?_eq_some.mpr ⟨hagent, rfl⟩) ?_
  rw [AgentRow.active, henabled, harchived]
  rfl

/-- What holds of an active agent in every reachable state. -/
structure Followed (sha256 : List UInt8 → List UInt8) (agent : AgentRow)
    (t : MonitoringTables) : Prop where
  known : t.agents.find? agent.id = some agent
  realm : RealmConsistent t
  inStep : InStep sha256 t agent

theorem Followed.operation (hactive : agent.active = true)
    (hs : Followed sha256 agent s) {n : ℕ} (hknows : Knows s c)
    (hreturned : (DomainCall.runFor ctx.order n (c, s)).1.returned = true) :
    Followed sha256 agent (DomainCall.runFor ctx.order n (c, s)).2 ∧
      Tracks agent s (DomainCall.runFor ctx.order n (c, s)).2 := by
  obtain ⟨hrealm, hserves⟩ := runFor_serves ctx.order agent.realmId
    (activeAgent_of_active hs.known hactive) hs.realm hknows n
  obtain ⟨hagents, hbumps⟩ := runFor_frame ctx.order n c s
  obtain ⟨k, hk⟩ := hbumps agent.id
  have hsnapshots := (iterate_bump_state (s.configurations agent.id) k).2
  rw [← hk] at hsnapshots
  have hserved := serves_returned hserves hreturned
  refine ⟨⟨by rw [hagents, hs.known], hrealm, ?_, ?_, ?_⟩, ?_⟩
  · rw [hk]
    exact hs.inStep.ordered.iterate_bump k
  · rw [hsnapshots]
    exact hs.inStep.hashed
  · exact current_of_served hs.inStep.ordered hs.inStep.current hk hserved
  · rcases hserved with hlt | ⟨hsame, hmonitors⟩
    · exact .inl hlt
    · exact .inr ⟨by rw [hsame], hmonitors⟩

theorem Followed.request (hsha : ∀ bytes, sha256 bytes ≠ []) {other : AgentRow}
    {operational : Option Capabilities} {result : ConfigurationResult}
    (hs : Followed sha256 agent s) (hother : s.agents.find? other.id = some other)
    (hok : s.requestConfiguration sha256 other operational = .ok (t, result)) :
    Followed sha256 agent t ∧ Tracks agent s t := by
  obtain ⟨-, rows, ht, hanswered⟩ := requestConfiguration_eq_ok hok
  rcases eq_or_ne agent.id other.id with hid | hne
  · obtain rfl : agent = other := by
      have hknown := hs.known
      rw [hid] at hknown
      exact Option.some.inj (hknown.symm.trans hother)
    have hnext := hs.inStep.request hsha hok
    have hle : (s.configurations agent.id).state.desiredRevision ≤
        (t.configurations agent.id).state.desiredRevision := by
      rw [ht]
      show _ ≤ (Function.update s.configurations agent.id rows
        agent.id).state.desiredRevision
      rw [Function.update_self, hanswered.desiredRevision hsha hs.inStep.ordered]
      exact desiredRevision_le_requested _
    have hmonitors : t.assignedMonitors agent.realmId agent.id =
        s.assignedMonitors agent.realmId agent.id := by rw [ht]; rfl
    refine ⟨⟨by rw [ht]; exact hs.known, by rw [ht]; exact hs.realm, hnext⟩, ?_⟩
    exact hle.lt_or_eq.imp id fun heq => ⟨heq, hmonitors⟩
  · have hrows : Function.update s.configurations other.id rows agent.id =
        s.configurations agent.id := Function.update_of_ne hne _ _
    subst ht
    refine ⟨⟨hs.known, hs.realm, ?_, ?_, ?_⟩, ?_⟩
    · show Ordered (Function.update s.configurations other.id rows agent.id)
      rw [hrows]
      exact hs.inStep.ordered
    · show ∀ snapshot ∈ (Function.update s.configurations other.id rows
        agent.id).snapshots, _
      rw [hrows]
      exact hs.inStep.hashed
    · show ∀ snapshot ∈ (Function.update s.configurations other.id rows
          agent.id).snapshots, snapshot.revision = (Function.update
            s.configurations other.id rows agent.id).state.desiredRevision → _
      rw [hrows]
      exact hs.inStep.current
    · refine .inr ⟨?_, rfl⟩
      show _ = (Function.update s.configurations other.id rows
        agent.id).state.desiredRevision
      rw [hrows]

theorem step_followed (hsha : ∀ bytes, sha256 bytes ≠ [])
    (hactive : agent.active = true) (hs : Followed sha256 agent s)
    (hstep : s.step sha256 ctx event = some t) : Followed sha256 agent t ∧ Tracks agent s t := by
  cases event with
  | operation op n =>
    rw [MonitoringTables.step] at hstep
    split at hstep
    · next hfresh =>
        split at hstep
        · cases hstep
          exact ⟨hs, .refl⟩
        · next call hstart =>
            dsimp only at hstep
            split at hstep
            · next hreturned =>
                cases hstep
                exact hs.operation hactive ((start_started hstart).knows hfresh)
                  hreturned
            · cases hstep
    · cases hstep
  | request requester operational =>
    rw [MonitoringTables.step] at hstep
    split at hstep
    · cases hstep
    · next other hother =>
        split at hstep
        · cases hstep
          exact ⟨hs, .refl⟩
        · next t' result hok =>
            cases hstep
            exact hs.request hsha (find?_self hother) hok

theorem run_followed (hsha : ∀ bytes, sha256 bytes ≠ [])
    (hactive : agent.active = true) {events : List DomainEvent} (hs : Followed sha256 agent s)
    (hrun : runSteps (MonitoringTables.step sha256 ctx) events s = some t) :
    Followed sha256 agent t ∧ Tracks agent s t :=
  runSteps_preserves (P := fun u => Followed sha256 agent u ∧ Tracks agent s u)
    (fun hu hstep =>
      have hnext := step_followed hsha hactive hu.1 hstep
      ⟨hnext.1, hu.2.trans hnext.2⟩)
    ⟨hs, .refl⟩ hrun

/-- However operations and requests follow each other: if the entries computed
for an active agent differ between two moments, so does its desired revision,
and no request ends in a revision conflict. -/
theorem desiredRevision_follows (hsha : ∀ bytes, sha256 bytes ≠ [])
    {initial : MonitoringTables} (hrealm : RealmConsistent initial)
    (hstart : ∀ agent ∈ initial.agents.rows, agent.active = true → InStep sha256 initial agent)
    {events events' : List DomainEvent}
    (hs : runSteps (MonitoringTables.step sha256 ctx) events initial = some s)
    (ht : runSteps (MonitoringTables.step sha256 ctx) events' s = some t) :
    ∀ agent ∈ initial.agents.rows, agent.active = true →
      (computedEntries (s.assignedMonitors agent.realmId agent.id) ≠
          computedEntries (t.assignedMonitors agent.realmId agent.id) →
        (s.configurations agent.id).state.desiredRevision ≠
          (t.configurations agent.id).state.desiredRevision) ∧ ∀ operational e,
        t.requestConfiguration sha256 agent operational = .error e →
        e.code ≠ "configuration_revision_conflict" := by
  intro agent hmem hactive
  have hknown := Table.find?_eq_some.mpr ⟨hmem, rfl⟩
  have hinitial : Followed sha256 agent initial :=
    ⟨hknown, hrealm, hstart agent hmem hactive⟩
  have hfirst := (run_followed hsha hactive hinitial hs).1
  obtain ⟨hfinal, htracks⟩ := run_followed hsha hactive hfirst ht
  refine ⟨fun hdiffer => ?_, fun operational e => hfinal.inStep.no_conflict⟩
  rcases htracks with hlt | ⟨-, hmonitors⟩
  · exact Nat.ne_of_lt hlt
  · exact absurd (by rw [hmonitors]) hdiffer

end Runs

/-! ## A small site -/

/-- A set is iterated like the list without its repetitions. -/
def siteOrder : SetOrder where
  iterate := List.dedup
  mem_iterate _ _ := List.mem_dedup
  nodup := List.nodup_dedup

def siteContext : DomainContext := ⟨plainText, exactColumn, siteOrder⟩

/-- A digest that is never empty. -/
def shortDigest (_ : List UInt8) : List UInt8 := [0]

theorem shortDigest_ne_nil (bytes : List UInt8) : shortDigest bytes ≠ [] :=
  List.cons_ne_nil _ _

def siteAgent : AgentRow := { id := .ofByte 1, realmId := .ofByte 9 }

def siteMonitor : MonitorRow where
  id := .ofByte 4
  realmId := .ofByte 9
  targetId := .ofByte 3
  probeType := .tcp
  intervalSeconds := 30
  timeoutSeconds := 5
  configuration := (TypedProbeConfiguration.tcp { port := 22 }).modelDump

/-- One agent, alone in a group, and one monitor that is not assigned yet. -/
def site : MonitoringTables where
  agents := Table.insert {} siteAgent
  groups := Table.insert {} { id := .ofByte 2, realmId := .ofByte 9 }
  memberships := Table.insert {} ⟨.ofByte 9, .ofByte 2, .ofByte 1⟩
  targets := Table.insert {}
    { id := .ofByte 3, realmId := .ofByte 9, address := "router.example" }
  monitors := Table.insert {} siteMonitor

theorem site_realmConsistent : RealmConsistent site := by
  intro monitor hmem target hfind
  obtain rfl : monitor = siteMonitor := List.mem_singleton.mp hmem
  obtain rfl := Option.some.inj hfind
  rfl

theorem site_inStep (agent : AgentRow) : InStep shortDigest site agent where
  ordered := ⟨fun _ h => (by cases h), List.nodup_nil, fun _ => rfl⟩
  hashed _ h := by cases h
  current _ h := by cases h

/-- The monitor is assigned to the group between two requests. -/
theorem desiredRevision_follows_assigned : ∃ s t,
    runSteps (MonitoringTables.step shortDigest siteContext)
      [.request siteAgent.id (some sampleCapabilities)] site = some s ∧
    runSteps (MonitoringTables.step shortDigest siteContext)
      [.operation (.assignMonitorToAgentGroup (.ofByte 9) (.ofByte 4)
        (.ofByte 2)) 4, .request siteAgent.id (some sampleCapabilities)] s = some t ∧
    (s.configurations siteAgent.id).state.desiredRevision ≠
      (t.configurations siteAgent.id).state.desiredRevision := by
  have hrun : ((runSteps (MonitoringTables.step shortDigest siteContext)
      [.request siteAgent.id (some sampleCapabilities)] site).any fun s =>
        (runSteps (MonitoringTables.step shortDigest siteContext)
          [.operation (.assignMonitorToAgentGroup (.ofByte 9) (.ofByte 4)
            (.ofByte 2)) 4, .request siteAgent.id (some sampleCapabilities)]
          s).any fun t =>
            (s.assignedMonitors siteAgent.realmId siteAgent.id).length == 0 &&
            (t.assignedMonitors siteAgent.realmId siteAgent.id).length == 1) = true := by
    decide +kernel
  obtain ⟨s, hs, hrun⟩ := (Option.any_eq_true _ _).mp hrun
  obtain ⟨t, ht, hlengths⟩ := (Option.any_eq_true _ _).mp hrun
  rw [Bool.and_eq_true, beq_iff_eq, beq_iff_eq] at hlengths
  refine ⟨s, t, hs, ht, ?_⟩
  refine (desiredRevision_follows shortDigest_ne_nil site_realmConsistent
    (fun agent _ _ => site_inStep agent) hs ht siteAgent
    (List.mem_singleton_self _) rfl).1 fun hsame => ?_
  have hlength := congrArg List.length hsame
  simp only [computedEntries, List.length_map] at hlength
  omega

end Bifrostnms.Proofs
