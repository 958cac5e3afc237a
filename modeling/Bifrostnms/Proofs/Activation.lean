import Bifrostnms.Proofs.ConfigurationHash
import Bifrostnms.Proofs.ConfigurationTable
import Bifrostnms.Proofs.Scheduler

/-!
# From an activated configuration to the scheduler

Between the response that `SynchronizeConfiguration` activates and the
assignments that `Reconcile` checks lies a text: the canonical payload, written
by one encoder and read back into other types. The file follows a monitor
through it. Its strings and integers come back as they were, as long as the
schema version is not negative and fits 32 bits; its configuration comes back
with ordered names and its numbers as doubles; its seconds become nanoseconds
in 64 bits.

What `Validate` and the registry have checked by then is less than what
`Reconcile` asks for: an interval of one second passes every check up to the
acknowledgement and is refused by the scheduler, whose minimum is five.
-/

namespace Bifrostnms.Proofs

open Bifrostnms.Lib Bifrostnms.Protocol Bifrostnms.Agent

/-! ## Reading the payload back -/

section Fields

variable {members : List (String × Json GoNum)} {name : String}

/-- The members of an object of the payload. -/
def storedMembers (members : List (String × Json GoNum)) : List (String × Json JsonText.NumText) :=
  Json.mapNumMembers JsonText.numText (Json.sortKeysMembers utf8Le members)

theorem lookup_storedMembers (h : (members.map Prod.fst).Nodup) (name : String) :
    (storedMembers members).lookup name = (members.lookup name).map fun v =>
      (v.sortKeys utf8Le).mapNum JsonText.numText := by
  rw [storedMembers, Json.lookup_mapNumMembers, Json.lookup_sortKeysMembers _ h, Option.map_map]
  rfl

theorem stringField_stored (h : (members.map Prod.fst).Nodup) {s : String}
    (hlookup : members.lookup name = some (.str s)) :
    stringField (storedMembers members) name = some s := by
  rw [stringField, lookup_storedMembers h, hlookup]
  rfl

theorem intField_stored {lower upper : ℤ} (h : (members.map Prod.fst).Nodup)
    {n : ℤ} (hlookup : members.lookup name = some (.num (.int n))) :
    intField lower upper (storedMembers members) name =
      if lower ≤ n ∧ n ≤ upper then some n else none := by
  rw [intField, lookup_storedMembers h, hlookup]
  show (JsonText.readInt (JsonText.intText n)).filter _ = _
  rw [JsonText.readInt_intText, Option.filter_some]
  simp only [decide_eq_true_eq]

theorem int64Field_stored (h : (members.map Prod.fst).Nodup) {n : ℤ}
    (hn : Int64Range n) (hlookup : members.lookup name = some (.num (.int n))) :
    int64Field (storedMembers members) name = some n := by
  rw [int64Field, intField_stored h hlookup]
  exact if_pos hn

theorem rawField_stored (h : (members.map Prod.fst).Nodup) {v : Json GoNum}
    (hlookup : members.lookup name = some v) : rawField (storedMembers members) name =
      (v.sortKeys utf8Le).encode JsonText.goEncoder := by
  rw [rawField, lookup_storedMembers h, hlookup]
  exact JsonText.encode_numText _

end Fields

/-- The text a monitor's configuration is stored as. -/
def storedConfiguration (m : MonitorConfiguration) : List Char :=
  ((decodeAny m.configuration).sortKeys utf8Le).encode JsonText.goEncoder

/-- What the agent makes of a monitor of the response. -/
def decodedMonitor (m : MonitorConfiguration) : MonitorAssignment where
  monitorId := m.monitorId
  targetId := m.targetId
  monitorRevision := m.monitorRevision
  targetAddress := m.targetAddress
  probeType := m.probeType
  probeSchemaVersion := UInt32.ofInt m.probeSchemaVersion
  intervalSeconds := m.intervalSeconds
  timeoutSeconds := m.timeoutSeconds
  missedRunPolicy := m.missedRunPolicy
  configuration := storedConfiguration m

/-- A monitor of the response, as the payload holds it. -/
def storedMonitor (m : MonitorConfiguration) : Json JsonText.NumText :=
  ((monitorMap m).sortKeys utf8Le).mapNum JsonText.numText

/-- The integers of a monitor are machine integers. -/
def MonitorRange (m : MonitorConfiguration) : Prop :=
  Int64Range m.monitorRevision ∧ Int64Range m.probeSchemaVersion ∧
    Int64Range m.intervalSeconds ∧ Int64Range m.timeoutSeconds

theorem monitorMap_nodup (m : MonitorConfiguration) :
    ((monitorMap m).members.map Prod.fst).Nodup := by
  simp only [monitorMap, Json.members, List.map_cons, List.map_nil]
  decide

/-- A number a `uint32` holds. -/
def Uint32Range (n : ℤ) : Prop := 0 ≤ n ∧ n ≤ 4294967295

instance (n : ℤ) : Decidable (Uint32Range n) := by
  unfold Uint32Range
  infer_instance

/-- A monitor comes back from the payload unless its schema version does not
fit 32 bits. -/
theorem decodeMonitor_stored {m : MonitorConfiguration} (hm : MonitorRange m) :
    decodeMonitor (storedMonitor m) =
      if Uint32Range m.probeSchemaVersion then some (decodedMonitor m)
      else none := by
  have hnodup := monitorMap_nodup m
  have hmembers : objectMembers (storedMonitor m) =
      some (storedMembers (monitorMap m).members) := rfl
  generalize hstored : storedMembers (monitorMap m).members = stored at hmembers
  have hid : stringField stored "monitor_id" = some m.monitorId :=
    hstored ▸ stringField_stored hnodup rfl
  have htarget : stringField stored "target_id" = some m.targetId :=
    hstored ▸ stringField_stored hnodup rfl
  have hrevision : int64Field stored "monitor_revision" =
      some m.monitorRevision := hstored ▸ int64Field_stored hnodup hm.1 rfl
  have haddress : stringField stored "target_address" = some m.targetAddress :=
    hstored ▸ stringField_stored hnodup rfl
  have htype : stringField stored "probe_type" = some m.probeType :=
    hstored ▸ stringField_stored hnodup rfl
  have hversion : uint32Field stored "probe_schema_version" =
      if Uint32Range m.probeSchemaVersion then some m.probeSchemaVersion
      else none := hstored ▸ intField_stored hnodup rfl
  have hinterval : int64Field stored "interval_seconds" =
      some m.intervalSeconds := hstored ▸ int64Field_stored hnodup hm.2.2.1 rfl
  have htimeout : int64Field stored "timeout_seconds" =
      some m.timeoutSeconds := hstored ▸ int64Field_stored hnodup hm.2.2.2 rfl
  have hpolicy : stringField stored "missed_run_policy" =
      some m.missedRunPolicy := hstored ▸ stringField_stored hnodup rfl
  have hconfiguration : rawField stored "configuration" =
      storedConfiguration m := hstored ▸ rawField_stored hnodup rfl
  simp only [decodeMonitor, hmembers, hid, htarget, hrevision, haddress, htype,
    hversion, hinterval, htimeout, hpolicy, hconfiguration, Option.bind_eq_bind, Option.bind_some]
  split
  · rfl
  · rfl

theorem decodeConfiguration_canonicalPayload {c : ConfigurationResponse}
    (hschema : Int64Range c.configurationSchemaVersion) : decodeConfiguration (canonicalPayload c) =
      (c.monitors.mapM (decodeMonitor ∘ storedMonitor)).map
        (⟨c.configurationSchemaVersion, ·⟩) := by
  have hnodup : ((canonicalMap c).members.map Prod.fst).Nodup := by
    simp only [canonicalMap, Json.members, List.map_cons, List.map_nil]
    decide
  have hmembers : objectMembers (canonicalPayload c) =
      some (storedMembers (canonicalMap c).members) := rfl
  have hversion : int64Field (storedMembers (canonicalMap c).members)
      "configuration_schema_version" = some c.configurationSchemaVersion :=
    int64Field_stored hnodup hschema rfl
  have hmonitors : (storedMembers (canonicalMap c).members).lookup "monitors" =
      some (.arr (c.monitors.map storedMonitor)) := by
    rw [lookup_storedMembers hnodup]
    show some (((Json.arr _).sortKeys utf8Le).mapNum JsonText.numText) = _
    rw [Json.sortKeys, Json.mapNum, Json.sortKeysItems_eq_map,
      Json.mapNumItems_eq_map, List.map_map, List.map_map]
    rfl
  simp only [decodeConfiguration, hmembers, hversion, hmonitors,
    Option.bind_eq_bind, Option.bind_some, List.mapM_map]
  cases c.monitors.mapM (decodeMonitor ∘ storedMonitor) <;> rfl

theorem mapM_storedMonitor {ms : List MonitorConfiguration} (h : ∀ m ∈ ms, MonitorRange m) :
    ms.mapM (decodeMonitor ∘ storedMonitor) = if ∀ m ∈ ms, Uint32Range m.probeSchemaVersion then
        some (ms.map decodedMonitor)
      else none := by
  induction ms with
  | nil => rfl
  | cons m ms ih =>
    rw [List.forall_mem_cons] at h
    rw [List.mapM_cons, ih h.2, Function.comp_apply, decodeMonitor_stored h.1]
    simp only [List.forall_mem_cons]
    by_cases hm : Uint32Range m.probeSchemaVersion
    · by_cases hms : ∀ m ∈ ms, Uint32Range m.probeSchemaVersion
      · rw [if_pos hm, if_pos hms, if_pos ⟨hm, hms⟩]
        rfl
      · rw [if_pos hm, if_neg hms, if_neg fun h => hms h.2]
        rfl
    · have hnot : ¬ (Uint32Range m.probeSchemaVersion ∧
          ∀ m ∈ ms, Uint32Range m.probeSchemaVersion) := fun h => hm h.1
      rw [if_neg hm, if_neg hnot]
      rfl

/-! ## The assignments that are loaded -/

/-- The assignment that a monitor of the response becomes. -/
def loadedAssignment (revision : ℤ) (m : MonitorConfiguration) : Assignment :=
  (decodedMonitor m).assignment revision

theorem collectAssignments_skip {revision : ℤ} {ms : List MonitorAssignment}
    (h : ∀ m ∈ ms, m.missedRunPolicy = "skip") : collectAssignments revision ms =
      .ok (ms.map fun m => m.assignment revision) := by
  induction ms with
  | nil => rfl
  | cons m ms ih =>
    rw [List.forall_mem_cons] at h
    rw [collectAssignments, if_neg (not_not.mpr h.1), ih h.2]
    rfl

/-- What a response has passed once it is validated. -/
structure Validated (c : ConfigurationResponse) : Prop where
  schema : c.configurationSchemaVersion = 1
  revision : 1 ≤ c.revision
  ids : (c.monitors.map MonitorConfiguration.monitorId).Nodup
  skip : ∀ m ∈ c.monitors, m.missedRunPolicy = "skip"

theorem validateMonitors_ok {capabilities : Capabilities} {seen : List String}
    {ms : List MonitorConfiguration} (h : validateMonitors capabilities seen ms = .ok ()) :
    (ms.map MonitorConfiguration.monitorId).Nodup ∧ (∀ m ∈ ms, m.monitorId ∉ seen) ∧
      ∀ m ∈ ms, m.missedRunPolicy = "skip" := by
  induction ms generalizing seen with
  | nil => exact ⟨List.nodup_nil, by simp, by simp⟩
  | cons m ms ih =>
    rw [validateMonitors] at h
    split at h
    · cases h
    next hseen =>
    split at h
    · cases h
    split at h
    · cases h
    next hschedule =>
    obtain ⟨hnodup, hnew, hskip⟩ := ih h
    rw [not_or, not_or, not_or, not_not] at hschedule
    refine ⟨?_, ?_, ?_⟩
    · rw [List.map_cons, List.nodup_cons]
      refine ⟨fun hmem => ?_, hnodup⟩
      obtain ⟨m', hm', hid⟩ := List.mem_map.mp hmem
      exact hnew m' hm' (hid ▸ List.mem_cons_self)
    · rw [List.forall_mem_cons]
      exact ⟨hseen, fun m' hm' hmem =>
        hnew m' hm' (List.mem_cons_of_mem _ hmem)⟩
    · rw [List.forall_mem_cons]
      exact ⟨hschedule.2.2.2, hskip⟩

theorem validated_of_validate {sha256 : List UInt8 → List UInt8}
    {c : ConfigurationResponse} {agentId realmId : String}
    {capabilities : Capabilities} {canonical : List UInt8}
    (h : validate sha256 c agentId realmId capabilities = .ok canonical) : Validated c := by
  unfold validate at h
  split at h
  · cases h
  next hversion =>
  split at h
  · cases h
  rw [bind_eq_ok] at h
  obtain ⟨_, hmonitors, _⟩ := h
  obtain ⟨hids, _, hskip⟩ := validateMonitors_ok hmonitors
  rw [not_or, not_or, not_not, not_not, not_lt] at hversion
  exact ⟨hversion.2.1, hversion.2.2, hids, hskip⟩

/-- What the scheduler is given after an activation. -/
theorem activeAssignments_activated {t t' : ConfigurationTable}
    {d : DecodedConfiguration} {now : ℤ} (hval : Validated d.response)
    (h : t.activateConfiguration (downloadedSnapshot d.response now) = .ok t') :
    t'.activeAssignments = if ∀ m ∈ d.response.monitors, Uint32Range m.probeSchemaVersion then
        .ok (d.response.monitors.map (loadedAssignment d.response.revision))
      else .error "decode active configuration" := by
  obtain ⟨row, hactive, hrev, hpayload⟩ := activateConfiguration_active h
  have hskip : ∀ m ∈ d.response.monitors.map decodedMonitor, m.missedRunPolicy = "skip" := by
    intro m hm
    obtain ⟨m', hm', rfl⟩ := List.mem_map.mp hm
    exact hval.skip m' hm'
  have hdecode : decodeConfiguration row.canonicalPayload =
      if ∀ m ∈ d.response.monitors, Uint32Range m.probeSchemaVersion then
        some ⟨1, d.response.monitors.map decodedMonitor⟩
      else none := by
    rw [hpayload, downloadedSnapshot, decodeConfiguration_canonicalPayload d.schema_range,
      mapM_storedMonitor d.monitor_range, hval.schema]
    split
    · rfl
    · rfl
  rw [ConfigurationTable.activeAssignments, hactive]
  dsimp only
  by_cases hfits : ∀ m ∈ d.response.monitors, Uint32Range m.probeSchemaVersion
  · rw [hdecode, if_pos hfits, if_pos hfits]
    dsimp only
    rw [if_neg (not_not.mpr rfl), hrev, collectAssignments_skip hskip, List.map_map]
    rfl
  · rw [hdecode, if_neg hfits, if_neg hfits]

/-! ## What a poll has checked -/

theorem activateDownload_ok {ctx : AgentContext} {poll : Poll}
    {identity : Identity} {d : DecodedConfiguration} {t t' : ConfigurationTable}
    (h : activateDownload ctx poll identity d t = .ok t') :
    Validated d.response ∧ t.activateConfiguration
      (downloadedSnapshot d.response poll.now) = .ok t' := by
  unfold activateDownload at h
  split at h
  · cases h
  next canonical hval =>
  split at h
  · cases h
  split at h
  · cases h
  · cases h
  · next hact _ =>
      cases h
      exact ⟨validated_of_validate hval, hact⟩

/-- A poll either leaves the table alone, or has activated the response it
downloaded. -/
theorem synchronizeConfiguration_cases (ctx : AgentContext) (poll : Poll) (t : ConfigurationTable) :
    ((synchronizeConfiguration ctx poll t).updated = false ∧
        (synchronizeConfiguration ctx poll t).table = t) ∨
      ((synchronizeConfiguration ctx poll t).updated = true ∧
        ∃ d, poll.download = .ok (some d) ∧ Validated d.response ∧
          t.activateConfiguration (downloadedSnapshot d.response poll.now) =
            .ok (synchronizeConfiguration ctx poll t).table) := by
  unfold synchronizeConfiguration
  split
  · exact .inl ⟨rfl, rfl⟩
  · exact .inl ⟨rfl, rfl⟩
  · exact .inl ⟨rfl, rfl⟩
  · split
    · exact .inl ⟨rfl, rfl⟩
    · split
      · exact .inl ⟨rfl, rfl⟩
      · exact .inl ⟨rfl, rfl⟩
  · next d _ _ hdownload =>
      split
      · exact .inl ⟨rfl, rfl⟩
      · next t' hact =>
          obtain ⟨hval, hact⟩ := activateDownload_ok hact
          exact .inr ⟨rfl, d, hdownload, hval, hact⟩

/-! ## Which activated configurations can be loaded -/

/-- A monitor that the scheduler takes once it has been through the store. -/
structure Runnable (registry : Registry) (m : MonitorConfiguration) : Prop where
  monitorId : m.monitorId ≠ ""
  targetId : m.targetId ≠ ""
  targetAddress : m.targetAddress ≠ ""
  monitorRevision : 1 ≤ m.monitorRevision
  schemaVersion : Uint32Range m.probeSchemaVersion
  interval : minimumInterval ≤ duration m.intervalSeconds ∧
    duration m.intervalSeconds ≤ maximumInterval
  timeout : minimumTimeout ≤ duration m.timeoutSeconds ∧
    duration m.timeoutSeconds < duration m.intervalSeconds
  configuration : registry.validate m.probeType
    (UInt32.ofInt m.probeSchemaVersion) (storedConfiguration m) = .ok ()

theorem runnable_iff {registry : Registry} {revision : ℤ}
    {m : MonitorConfiguration} (hrev : 1 ≤ revision) :
    Runnable registry m ↔ Uint32Range m.probeSchemaVersion ∧
      Schedulable registry (loadedAssignment revision m) :=
  ⟨fun h => ⟨h.schemaVersion, h.monitorId, h.monitorRevision, hrev, h.targetId,
      h.targetAddress, h.interval, h.timeout, h.configuration⟩,
    fun h => ⟨h.2.monitorId, h.2.targetId, h.2.targetAddress,
      h.2.monitorRevision, h.1, h.2.interval, h.2.timeout, h.2.configuration⟩⟩

/-- After an update the active assignments are those of the response, if the
schema versions of its monitors could be read back. -/
theorem activeAssignments_updated {ctx : AgentContext} {poll : Poll}
    {t : ConfigurationTable} {d : DecodedConfiguration} (hdownload : poll.download = .ok (some d))
    (hupdated : (synchronizeConfiguration ctx poll t).updated = true) : Validated d.response ∧
      (synchronizeConfiguration ctx poll t).table.activeAssignments =
        if ∀ m ∈ d.response.monitors, Uint32Range m.probeSchemaVersion then
          .ok (d.response.monitors.map (loadedAssignment d.response.revision))
        else .error "decode active configuration" := by
  rcases synchronizeConfiguration_cases ctx poll t with ⟨hnot, _⟩ |
    ⟨_, d', hd', hval, hact⟩
  · rw [hnot] at hupdated
    cases hupdated
  · obtain rfl : d' = d :=
      Option.some.inj (Except.ok.inj (hd'.symm.trans hdownload))
    exact ⟨hval, activeAssignments_activated hval hact⟩

/-- An activated configuration can be loaded exactly when the scheduler takes
each of its monitors. -/
theorem load_activated_iff {ctx : AgentContext} {poll : Poll}
    {t : ConfigurationTable} {d : DecodedConfiguration} (hdownload : poll.download = .ok (some d))
    (hupdated : (synchronizeConfiguration ctx poll t).updated = true)
    (now : ℤ) (rows : ScheduleRows) : (∃ jobs rows', loadActiveConfiguration ctx now
        (synchronizeConfiguration ctx poll t).table rows = (.ok jobs, rows')) ↔
      ∀ m ∈ d.response.monitors, Runnable ctx.registry m := by
  obtain ⟨hval, hactive⟩ := activeAssignments_updated hdownload hupdated
  rw [loadActiveConfiguration, hactive]
  by_cases hfits : ∀ m ∈ d.response.monitors, Uint32Range m.probeSchemaVersion
  · rw [if_pos hfits]
    dsimp only
    have hids : ((d.response.monitors.map (loadedAssignment
        d.response.revision)).map Assignment.monitorId).Nodup := by
      rw [List.map_map]
      exact hval.ids
    rw [reconcile_ok]
    refine ⟨fun h m hm => (runnable_iff hval.revision).mpr
      ⟨hfits m hm, h.schedulable _ (List.mem_map_of_mem hm)⟩,
      fun h => ⟨List.forall_mem_map.mpr fun m hm => ?_, hids⟩⟩
    exact ((runnable_iff hval.revision).mp (h m hm)).2
  · rw [if_neg hfits]
    refine ⟨fun h => ?_, fun h => absurd (fun m hm => (h m hm).schemaVersion) hfits⟩
    obtain ⟨jobs, rows', h⟩ := h
    cases h

/-! ## Two monitors that are issued, activated and acknowledged

The first can be loaded. The second has an interval that the control plane
takes and the scheduler does not. -/

theorem toLower_hex {c : Char} (h : isHex c) : c.toLower = c := by
  obtain ⟨n, hn, rfl⟩ := h
  interval_cases n <;> decide

/-- The digest is what follows the algorithm's name. -/
theorem snapshotDigest_hex (bs : List UInt8) :
    snapshotDigest ("sha256:" ++ String.ofList (hexText bs)) = hexText bs := by
  have hlower : (hexText bs).map Char.toLower = hexText bs := by
    conv_rhs => rw [← List.map_id (hexText bs)]
    exact List.map_congr_left fun c hc => toLower_hex (isHex_of_mem_hexText hc)
  have hall : ("sha256:" ++ String.ofList (hexText bs)).toList.map Char.toLower =
      "sha256:".toList ++ hexText bs := by
    simp only [String.toList_append, String.toList_ofList, List.map_append, hlower]
    rfl
  unfold snapshotDigest
  rw [hall, if_pos (List.isPrefixOf_iff_prefix.mpr (List.prefix_append _ _))]
  rfl

/-- A store without snapshots takes every complete one. -/
theorem activateConfiguration_empty {c : ConfigurationResponse} (now : ℤ)
    (hval : Validated c) (hdigest : snapshotDigest c.contentHash ≠ []) :
    ∃ t', emptyTable.activateConfiguration (downloadedSnapshot c now) = .ok t' := by
  have hpayload : (downloadedSnapshot c now).payloadBytes ≠ [] := by
    intro h
    have htext : (Json.obj (storedMembers (canonicalMap c).members)).encode
        JsonText.textEncoder = [] := utf8_inj.mp h
    cases hmembers : storedMembers (canonicalMap c).members with
    | nil => rw [hmembers, Json.encode] at htext; cases htext
    | cons kv kvs => rw [hmembers, Json.encode] at htext; cases htext
  have hrev := hval.revision
  have hschema := hval.schema
  unfold ConfigurationTable.activateConfiguration
  rw [if_neg]
  · exact ⟨_, rfl⟩
  · simp only [not_or]
    refine ⟨?_, hdigest, hpayload, ?_, by simp [downloadedSnapshot], by simp [downloadedSnapshot]⟩
    · show ¬ c.revision < 1
      omega
    · show ¬ c.configurationSchemaVersion < 1
      omega

/-- A poll in which everything up to the acknowledgement succeeds. -/
def firstPoll (identity : Identity) (d : DecodedConfiguration)
    (acknowledgement : Except String Unit) : Poll where
  now := 0
  identity := .ok identity
  readActive := .ok ()
  download := .ok (some d)
  commit := .ok ()
  acknowledgement := acknowledgement

theorem synchronizeConfiguration_first {ctx : AgentContext}
    {identity : Identity} {d : DecodedConfiguration} {canonical : List UInt8}
    (hval : validate ctx.sha256 d.response identity.agentId identity.realmId
      ctx.capabilities = .ok canonical) (hconf : validateConfigurations ctx.registry d.marshal
      d.response.monitors = .ok ()) (hdigest : snapshotDigest d.response.contentHash ≠ [])
    (acknowledgement : Except String Unit) :
    ∃ t', synchronizeConfiguration ctx (firstPoll identity d acknowledgement)
      emptyTable = ⟨true, (failure acknowledgement).map
        ("acknowledge active configuration: " ++ ·), t'⟩ := by
  obtain ⟨t', hact⟩ := activateConfiguration_empty
    (firstPoll identity d acknowledgement).now (validated_of_validate hval) hdigest
  have hdown : activateDownload ctx (firstPoll identity d acknowledgement)
      identity d emptyTable = .ok t' := by
    rw [activateDownload, hval]
    dsimp only
    rw [hconf]
    dsimp only
    rw [hact]
    rfl
  refine ⟨t', ?_⟩
  rw [synchronizeConfiguration]
  dsimp only [firstPoll] at hdown ⊢
  rw [hdown]

/-- Every probe type at version 1, with any configuration. -/
def openRegistry : Registry := fun _ => some ⟨1, 1, fun _ => .ok ()⟩

def openContext (sha256 : List UInt8 → List UInt8) : AgentContext :=
  ⟨sha256, openRegistry, sampleCapabilities⟩

def sampleIdentity : Identity := ⟨(Uuid.ofByte 3).text, (Uuid.ofByte 4).text⟩

/-- The first response that an agent with this one monitor is sent. -/
def issuedResponse (sha256 : List UInt8 → List UInt8) (m : Backend.Monitor) :
    ConfigurationResponse where
  agentId := sampleIdentity.agentId
  realmId := sampleIdentity.realmId
  revision := (1 : ℕ)
  contentHash := "sha256:" ++ Backend.contentHash sha256 (Uuid.ofByte 3)
    (Uuid.ofByte 4) [Backend.entry m 1]
  monitors := [Backend.entry m 1]

/-- A portable monitor that the control plane stores is issued, activated and
acknowledged. -/
theorem synchronize_issued {sha256 : List UInt8 → List UInt8}
    (hsha : ∀ bytes, sha256 bytes ≠ []) {m : Backend.Monitor}
    (hstored : m.Stored plainText exactColumn) (hentries : Backend.entries sampleCapabilities [m] =
      .ok [Backend.entry m 1]) (hportable : portable m = true) {d : DecodedConfiguration}
    (hd : d.response = issuedResponse sha256 m) :
    (∃ rows' result, Backend.getOrCreateConfiguration sha256 (Uuid.ofByte 3)
        (Uuid.ofByte 4) (some sampleCapabilities) [m] {} = .ok (rows', result) ∧
      Backend.getConfiguration (Uuid.ofByte 3) (Uuid.ofByte 4) result none none = some d.response) ∧
    ∀ acknowledgement, ∃ t', synchronizeConfiguration (openContext sha256)
      (firstPoll sampleIdentity d acknowledgement) emptyTable = ⟨true, (failure acknowledgement).map
          ("acknowledge active configuration: " ++ ·), t'⟩ := by
  obtain ⟨rows', hissue⟩ : ∃ rows', Backend.getOrCreateConfiguration sha256
      (Uuid.ofByte 3) (Uuid.ofByte 4) (some sampleCapabilities) [m] {} =
        .ok (rows', _) := getOrCreateConfiguration_first hentries
  have hresponse := getConfiguration_first (Uuid.ofByte 3) (Uuid.ofByte 4)
    ⟨⟨1, Backend.contentHash sha256 (Uuid.ofByte 3) (Uuid.ofByte 4)
      [Backend.entry m 1], [Backend.entry m 1]⟩, [Backend.entry m 1]⟩
  refine ⟨⟨rows', _, hissue, by rw [hd]; exact hresponse⟩, fun acknowledgement => ?_⟩
  obtain ⟨hbytes, hvalidate⟩ := validate_issued
    (List.forall_mem_singleton.mpr hstored) (List.nodup_singleton _) hissue
    hresponse
  rw [hbytes.mpr (List.forall_mem_singleton.mpr hportable), if_pos rfl]
    at hvalidate
  refine synchronizeConfiguration_first (by rw [hd]; exact hvalidate) ?_ ?_
    acknowledgement
  · rw [hd]
    rfl
  · rw [hd, issuedResponse, Backend.contentHash, snapshotDigest_hex]
    intro h
    exact hsha _ (hexText_inj (h.trans rfl))

theorem int64Range_of_small {n : ℤ} (h : 0 ≤ n ∧ n ≤ 100) : Int64Range n :=
  ⟨by omega, by omega⟩

/-- The response as the agent decodes it. -/
def issuedDownload (sha256 : List UInt8 → List UInt8) (m : Backend.Monitor)
    (hm : (0 ≤ m.revision ∧ m.revision ≤ 100) ∧ (0 ≤ m.intervalSeconds ∧ m.intervalSeconds ≤ 100) ∧
      0 ≤ m.timeoutSeconds ∧ m.timeoutSeconds ≤ 100) : DecodedConfiguration where
  response := issuedResponse sha256 m
  marshal _ := []
  revision_range := int64Range_of_small ⟨by simp [issuedResponse], by simp [issuedResponse]⟩
  schema_range := int64Range_of_small ⟨by simp [issuedResponse], by simp [issuedResponse]⟩
  monitor_range := by
    rw [issuedResponse, List.forall_mem_singleton]
    exact ⟨int64Range_of_small hm.1, int64Range_of_small (by simp [Backend.entry]),
      int64Range_of_small hm.2.1, int64Range_of_small hm.2.2⟩

def plainDownload (sha256 : List UInt8 → List UInt8) : DecodedConfiguration :=
  issuedDownload sha256 plainMonitor (by decide)

theorem plainDownload_monitors (sha256 : List UInt8 → List UInt8) :
    (plainDownload sha256).response.monitors = [Backend.entry plainMonitor 1] :=
  rfl

theorem plain_runnable : Runnable openRegistry (Backend.entry plainMonitor 1) :=
  ⟨by decide, by decide, by decide, by decide, by decide, by decide, by decide, rfl⟩

/-- The first poll of an agent with the plain monitor. -/
theorem synchronize_plain (acknowledgement : Except String Unit) :
    ∃ t', synchronizeConfiguration (openContext fun _ => [1]) (firstPoll
      sampleIdentity (plainDownload fun _ => [1]) acknowledgement) emptyTable =
        ⟨true, (failure acknowledgement).map
          ("acknowledge active configuration: " ++ ·), t'⟩ ∧ t'.activeAssignments =
        .ok [loadedAssignment 1 (Backend.entry plainMonitor 1)] := by
  have hstored : plainMonitor.Stored plainText exactColumn :=
    ⟨.tcp { port := 22 }, rfl⟩
  obtain ⟨t', hsync⟩ := (synchronize_issued (fun _ => List.cons_ne_nil _ _)
    hstored rfl (by decide)
    (show (plainDownload fun _ => [1]).response = _ from rfl)).2 acknowledgement
  have hupdated : (synchronizeConfiguration (openContext fun _ => [1])
      (firstPoll sampleIdentity (plainDownload fun _ => [1]) acknowledgement)
      emptyTable).updated = true := by
    rw [hsync]
  have hactive := (activeAssignments_updated rfl hupdated).2
  have hfits : ∀ m ∈ [Backend.entry plainMonitor 1], Uint32Range m.probeSchemaVersion :=
    List.forall_mem_singleton.mpr plain_runnable.schemaVersion
  rw [hsync, plainDownload_monitors, if_pos hfits] at hactive
  exact ⟨t', hsync, hactive⟩

theorem load_plain_monitor : ∃ t', synchronizeConfiguration
      (openContext fun _ => [1]) (firstPoll sampleIdentity
        (plainDownload fun _ => [1]) (.ok ())) emptyTable = ⟨true, none, t'⟩ ∧
    ∃ jobs rows', loadActiveConfiguration (openContext fun _ => [1]) 0 t'
      (fun _ => none) = (.ok jobs, rows') := by
  obtain ⟨t', hsync, _⟩ := synchronize_plain (.ok ())
  have hupdated : (synchronizeConfiguration (openContext fun _ => [1])
      (firstPoll sampleIdentity (plainDownload fun _ => [1]) (.ok ()))
      emptyTable).updated = true := by
    rw [hsync]
  have hload := (load_activated_iff rfl hupdated 0 fun _ => none).mpr
    (List.forall_mem_singleton.mpr plain_runnable)
  rw [hsync] at hload
  exact ⟨t', hsync, hload⟩

/-- A monitor that is run every four seconds. -/
def hastyMonitor : Backend.Monitor :=
  { plainMonitor with intervalSeconds := 4, timeoutSeconds := 1 }

def hastyDownload (sha256 : List UInt8 → List UInt8) : DecodedConfiguration :=
  issuedDownload sha256 hastyMonitor (by decide)

theorem load_hasty_monitor : hastyMonitor.Stored plainText exactColumn ∧
      ∀ sha256 : List UInt8 → List UInt8, (∀ bytes, sha256 bytes ≠ []) →
        (∃ rows' result, Backend.getOrCreateConfiguration sha256
            (Uuid.ofByte 3) (Uuid.ofByte 4) (some sampleCapabilities)
            [hastyMonitor] {} = .ok (rows', result) ∧
          Backend.getConfiguration (Uuid.ofByte 3) (Uuid.ofByte 4) result none
            none = some (hastyDownload sha256).response) ∧
        ∃ t', synchronizeConfiguration (openContext sha256)
            (firstPoll sampleIdentity (hastyDownload sha256) (.ok ())) emptyTable =
              ⟨true, none, t'⟩ ∧
          ∀ now rows, loadActiveConfiguration (openContext sha256) now t' rows =
            (.error ("monitor " ++ (Uuid.ofByte 1).text ++
              " has invalid scheduling bounds"), rows) := by
  have hstored : hastyMonitor.Stored plainText exactColumn :=
    ⟨.tcp { port := 22 }, rfl⟩
  refine ⟨hstored, fun sha256 hsha => ?_⟩
  obtain ⟨hissued, hpoll⟩ := synchronize_issued hsha hstored rfl (by decide)
    (show (hastyDownload sha256).response = _ from rfl)
  obtain ⟨t', hsync⟩ := hpoll (.ok ())
  refine ⟨hissued, t', hsync, fun now rows => ?_⟩
  have hcheck : checkAssignment openRegistry []
      (loadedAssignment 1 (Backend.entry hastyMonitor 1)) =
        .error ("monitor " ++ (Uuid.ofByte 1).text ++ " has invalid scheduling bounds") := by
    unfold checkAssignment
    rw [if_neg (by decide), if_pos (by decide)]
    rfl
  have hfits : ∀ m ∈ (hastyDownload sha256).response.monitors,
      Uint32Range m.probeSchemaVersion := by
    rw [show (hastyDownload sha256).response.monitors =
      [Backend.entry hastyMonitor 1] from rfl, List.forall_mem_singleton]
    decide
  have hupdated : (synchronizeConfiguration (openContext sha256)
      (firstPoll sampleIdentity (hastyDownload sha256) (.ok ()))
      emptyTable).updated = true := by
    rw [hsync]
  have hactive := (activeAssignments_updated rfl hupdated).2
  rw [hsync, if_pos hfits, show (hastyDownload sha256).response.monitors.map
    (loadedAssignment (hastyDownload sha256).response.revision) =
      [loadedAssignment 1 (Backend.entry hastyMonitor 1)] from rfl] at hactive
  rw [loadActiveConfiguration, hactive]
  dsimp only [openContext]
  rw [reconcile, validateAssignments, hcheck]

end Bifrostnms.Proofs
