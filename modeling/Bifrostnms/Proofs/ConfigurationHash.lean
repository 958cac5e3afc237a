import Bifrostnms.Agent.Protocol
import Bifrostnms.Backend.Configuration
import Bifrostnms.Proofs.ProbeConfiguration

/-!
# The agent rebuilds the hashed bytes exactly on portable configurations

The control plane hashes `json.dumps` of the configuration document; the
agent hashes `json.Marshal` of the map it rebuilds from the response. Both
sort the members of every object, and on the keys a configuration can have
the two orders agree: field names are fixed and header names passed a
pattern, so all of them are ASCII. What is left is how the two libraries
write the leaves, and `Lib.Json.encode_eq_iff` makes that exact: the texts
are equal if and only if every string and every number is written alike.

The identifiers are UUIDs and always portable, and so are the numbers of the
schedule, which the agent keeps as integers. So the agent accepts what the
server issued (`validate_issued_iff`) exactly when the target address and
the configuration of every monitor are portable, and there are monitors that
the server accepts and that are not (`validate_half_loss_monitor`).
-/

namespace Bifrostnms.Proofs

open Bifrostnms.Lib Bifrostnms.Protocol Bifrostnms.Backend Bifrostnms.Agent

/-- A text both libraries write alike. -/
def portableText (s : String) : Bool := s.toList.all JsonText.portableChar

/-- A tree whose strings, member names included, and numbers both libraries
write alike. -/
def portableJson (v : Json JsonNum) : Bool :=
  v.strings.all portableText && v.numbers.all JsonText.portableNum

/-- A monitor whose entry both libraries write alike. -/
def portable (m : Monitor) : Bool :=
  portableText m.targetAddress && portableJson m.configuration

theorem str_eq_iff {s : String} : JsonText.pyEncoder.str s = JsonText.goEncoder.str s ↔
      portableText s = true := by
  rw [JsonText.pyString_eq_goString, portableText, List.all_eq_true]

/-! ## The trees are aligned -/

theorem aligned_configuration {v : Json JsonNum} (hkeys : ∀ k ∈ v.keys, isAscii k = true) :
    Json.Aligned JsonText.pyEncoder JsonText.goEncoder (v.sortKeys codePointLe)
      ((decodeAny v).sortKeys utf8Le) ↔ portableJson v = true := by
  have hsort : v.sortKeys utf8Le = v.sortKeys codePointLe :=
    Json.sortKeys_congr fun a ha b hb =>
      utf8Le_eq_codePointLe (hkeys a ha) (hkeys b hb)
  rw [decodeAny, ← Json.mapNum_sortKeys, hsort, Json.aligned_mapNum,
    portableJson, Bool.and_eq_true, List.all_eq_true, List.all_eq_true]
  simp only [Json.mem_strings_sortKeys, Json.mem_numbers_sortKeys, str_eq_iff,
    JsonText.pyNum_eq_goNum]

theorem portableText_uuid (u : Uuid) : portableText u.text = true := by
  rw [portableText, Uuid.text, List.all_eq_true, String.toList_ofList]
  intro c hc
  rcases Uuid.mem_chars hc with ⟨n, hn, rfl⟩ | rfl
  · interval_cases n <;> decide
  · decide

theorem portableText_probeType (p : ProbeType) : portableText p.text = true := by
  cases p <;> decide

theorem num_int_eq (n : ℤ) :
    JsonText.pyEncoder.num (.int n) = JsonText.goEncoder.num (.int n) := rfl

/-- The fixed member names of the document. -/
theorem portableText_names : ∀ k ∈ ["agent_id", "configuration",
    "configuration_schema_version", "interval_seconds", "missed_run_policy",
    "monitor_id", "monitor_revision", "monitors", "probe_schema_version",
    "probe_type", "realm_id", "skip", "target_address", "target_id",
    "timeout_seconds"], portableText k = true := by
  decide

theorem entryJson_sortKeys (e : MonitorConfiguration) : (entryJson e).sortKeys codePointLe = .obj [
      ("configuration", e.configuration.sortKeys codePointLe),
      ("interval_seconds", jsonInt e.intervalSeconds),
      ("missed_run_policy", .str e.missedRunPolicy), ("monitor_id", .str e.monitorId),
      ("monitor_revision", jsonInt e.monitorRevision),
      ("probe_schema_version", jsonInt e.probeSchemaVersion), ("probe_type", .str e.probeType),
      ("target_address", .str e.targetAddress), ("target_id", .str e.targetId),
      ("timeout_seconds", jsonInt e.timeoutSeconds)] := rfl

theorem monitorMap_sortKeys (e : MonitorConfiguration) : (monitorMap e).sortKeys utf8Le = .obj [
      ("configuration", (decodeAny e.configuration).sortKeys utf8Le),
      ("interval_seconds", .num (.int e.intervalSeconds)),
      ("missed_run_policy", .str e.missedRunPolicy), ("monitor_id", .str e.monitorId),
      ("monitor_revision", .num (.int e.monitorRevision)),
      ("probe_schema_version", .num (.int e.probeSchemaVersion)), ("probe_type", .str e.probeType),
      ("target_address", .str e.targetAddress), ("target_id", .str e.targetId),
      ("timeout_seconds", .num (.int e.timeoutSeconds))] := rfl

/-- The entry of a monitor on both sides. -/
theorem aligned_entry {m : Monitor} {version : ℤ}
    (hkeys : ∀ k ∈ m.configuration.keys, isAscii k = true) :
    Json.Aligned JsonText.pyEncoder JsonText.goEncoder
      ((entryJson (entry m version)).sortKeys codePointLe)
      ((monitorMap (entry m version)).sortKeys utf8Le) ↔ portable m = true := by
  have hnames := portableText_names
  simp only [List.forall_mem_cons] at hnames
  rw [entryJson_sortKeys, monitorMap_sortKeys, portable, Bool.and_eq_true]
  simp only [Json.Aligned, Json.AlignedMembers, jsonInt, num_int_eq, str_eq_iff,
    entry, aligned_configuration hkeys, portableText_uuid,
    portableText_probeType, hnames, true_and, and_true]
  exact And.comm

/-- The whole document on both sides. -/
theorem canonicalBytes_eq_iff {agentId realmId : Uuid} {revision : ℤ}
    {hash : String} {monitors : List Monitor} {version : Monitor → ℤ}
    (hkeys : ∀ m ∈ monitors, ∀ k ∈ m.configuration.keys, isAscii k = true) : canonicalBytes {
        agentId := agentId.text
        realmId := realmId.text
        revision := revision
        contentHash := hash
        monitors := monitors.map fun m => entry m (version m) } =
      hashedBytes agentId realmId (monitors.map fun m => entry m (version m)) ↔
      ∀ m ∈ monitors, portable m = true := by
  have hnames := portableText_names
  simp only [List.forall_mem_cons] at hnames
  rw [eq_comm, canonicalBytes, hashedBytes, utf8_inj, Json.encode_eq_iff]
  show Json.Aligned _ _
    (.obj [("agent_id", .str agentId.text), ("configuration_schema_version", jsonInt 1),
      ("monitors", .arr (Json.sortKeysItems codePointLe
        ((monitors.map fun m => entry m (version m)).map entryJson))),
      ("realm_id", .str realmId.text)])
    (.obj [("agent_id", .str agentId.text), ("configuration_schema_version", .num (.int 1)),
      ("monitors", .arr (Json.sortKeysItems utf8Le
        ((monitors.map fun m => entry m (version m)).map monitorMap))),
      ("realm_id", .str realmId.text)]) ↔ _
  simp only [Json.Aligned, Json.AlignedMembers, jsonInt, num_int_eq, str_eq_iff,
    portableText_uuid, hnames, true_and, and_true, Json.sortKeysItems_eq_map,
    List.map_map, Json.alignedItems_map, Function.comp_apply]
  exact forall₂_congr fun m hm => aligned_entry (hkeys m hm)

/-! ## The keys of a stored configuration are ASCII -/

theorem isAscii_of_headerName {s : String} (h : headerName s = true) : isAscii s = true := by
  simp only [headerName, Bool.and_eq_true, List.all_eq_true] at h
  rw [isAscii, List.all_eq_true]
  intro c hc
  have hchar := h.2 c hc
  simp only [headerNameChar, Bool.or_eq_true, decide_eq_true_eq] at hchar
  rw [decide_eq_true_eq]
  rcases hchar with (hc | hc) | hc
  · have hall : ("!#$%&'*+.^_`|~-".toList.all fun c => c.toNat < 128) = true := by
      decide
    exact of_decide_eq_true (List.all_eq_true.mp hall c hc)
  · simp only [Char.isDigit, Bool.and_eq_true, decide_eq_true_eq] at hc
    have := UInt32.le_iff_toNat_le.mp hc.2
    exact Nat.lt_of_le_of_lt this (by decide)
  · rcases Bool.or_eq_true_iff.mp hc with hc | hc
    · have hle : c.val ≤ 'Z'.val := (of_decide_eq_true hc).2
      exact Nat.lt_of_le_of_lt (UInt32.le_iff_toNat_le.mp hle) (by decide)
    · have hle : c.val ≤ 'z'.val := of_decide_eq_true (Bool.and_eq_true_iff.mp hc).2
      exact Nat.lt_of_le_of_lt (UInt32.le_iff_toNat_le.mp hle) (by decide)

theorem keys_jsonOption {α : Type} {f : α → Json JsonNum} (o : Option α)
    (hf : ∀ a, (f a).keys = []) : (jsonOption f o).keys = [] := by
  cases o with
  | none => rfl
  | some a => exact hf a

theorem keysItems_map {α : Type} {f : α → Json JsonNum} {l : List α} {k : String} :
    k ∈ Json.keysItems (l.map f) ↔ ∃ a ∈ l, k ∈ (f a).keys := by
  induction l with
  | nil => simp [Json.keysItems]
  | cons a l ih => simp [Json.keysItems, ih]

theorem keysMembers_headers {l : List (String × String)} {k : String} :
    k ∈ Json.keysMembers (l.map fun h => (h.1, (.str h.2 : Json JsonNum))) ↔ ∃ h ∈ l, k = h.1 := by
  induction l with
  | nil => simp [Json.keysMembers]
  | cons h l ih => simp [Json.keysMembers, Json.keys, ih]

/-- Every field name of the five schemas. -/
def fieldNames : List String :=
  ["schema_version", "packet_count", "packet_interval_ms",
    "per_packet_timeout_ms", "payload_size_bytes", "address_family",
    "maximum_packet_loss_percent", "maximum_average_rtt_ms", "scheme", "port",
    "path", "method", "follow_redirects", "maximum_redirects", "host_header",
    "request_headers", "expected_status_codes", "expected_header_values",
    "name", "value", "expected_body_contains", "maximum_response_bytes",
    "resolver_mode", "resolver_address", "resolver_port", "transport",
    "query_name", "query_type", "recursion_desired", "expected_response_codes",
    "expected_answers", "server_name", "minimum_tls_version", "expiry_warning_days"]

theorem isAscii_fieldNames : ∀ k ∈ fieldNames, isAscii k = true := by decide

/-- Every member name a dump can have is a field name, or the name of a
request header. -/
theorem keys_modelDump {c : TypedProbeConfiguration} {k : String}
    (hk : k ∈ c.modelDump.keys) : k ∈ fieldNames ∨
      ∃ h, c = .http h ∧ ∃ header ∈ h.requestHeaders, k = header.1 := by
  have hint : ∀ n, (jsonInt n).keys = [] := fun _ => rfl
  have hfloat : ∀ x : Decimal, (Json.num (JsonNum.float x)).keys = [] :=
    fun _ => rfl
  have hstr : ∀ t : String, (Json.str t : Json JsonNum).keys = [] :=
    fun _ => rfl
  cases c with
  | icmp c =>
    simp only [TypedProbeConfiguration.modelDump, Json.keys,
      Json.keysMembers, hint, keys_jsonOption _ hint, keys_jsonOption _ hfloat,
      List.nil_append] at hk
    exact .inl ((by decide : ∀ k ∈ _, k ∈ fieldNames) k hk)
  | http c =>
    simp only [TypedProbeConfiguration.modelDump, Json.keys,
      Json.keysMembers, hint, keys_jsonOption _ hint, keys_jsonOption _ hstr,
      List.nil_append, List.mem_cons, List.mem_append, keysItems_map,
      keysMembers_headers, List.not_mem_nil, and_false, exists_false, false_or, or_false] at hk
    rcases hk with rfl | rfl | rfl | rfl | rfl | rfl | rfl | rfl | rfl |
      ⟨header, hm, rfl⟩ | rfl | rfl | ⟨_, _, rfl | rfl⟩ | rfl | rfl | rfl
    all_goals first
      | exact .inl (by decide)
      | exact .inr ⟨c, rfl, header, hm, rfl⟩
  | tcp c =>
    simp only [TypedProbeConfiguration.modelDump, Json.keys,
      Json.keysMembers, hint, List.nil_append] at hk
    exact .inl ((by decide : ∀ k ∈ _, k ∈ fieldNames) k hk)
  | dns c =>
    simp only [TypedProbeConfiguration.modelDump, Json.keys,
      Json.keysMembers, hint, keys_jsonOption _ hstr,
      List.nil_append, List.mem_cons, List.mem_append, keysItems_map,
      List.not_mem_nil, and_false, exists_false, false_or, or_false] at hk
    rcases hk with rfl | rfl | rfl | rfl | rfl | rfl | rfl | rfl | rfl |
      rfl | ⟨_, _, rfl⟩
    all_goals exact .inl (by decide)
  | tls c =>
    simp only [TypedProbeConfiguration.modelDump, Json.keys,
      Json.keysMembers, hint, keys_jsonOption _ hstr, List.nil_append] at hk
    exact .inl ((by decide : ∀ k ∈ _, k ∈ fieldNames) k hk)

/-- Request headers passed the pattern. -/
theorem headerName_of_normalize {txt : PyText} {c : TypedProbeConfiguration}
    {timeout : Option ℤ} {c' : HttpProbeConfiguration}
    (h : normalizeProbeConfiguration txt c timeout = .ok (.http c')) :
    ∀ header ∈ c'.requestHeaders, headerName header.1 = true := by
  cases c with
  | http c =>
    obtain ⟨⟨hvalid, -⟩, heq⟩ := normalizeHttp_eq_ok.mp h
    cases heq
    exact fun header hm => (hvalid.requestHeaders header hm).name
  | icmp c =>
    cases timeout with
    | none => cases (normalizeIcmp_none_eq_ok.mp h).2
    | some seconds => cases (normalizeIcmp_eq_ok.mp h).2
  | tcp c => cases (normalizeTcp_eq_ok.mp h).2
  | dns c => cases (normalizeDns_eq_ok.mp h).2
  | tls c => cases (normalizeTls_eq_ok.mp h).2

theorem keys_serialize {txt : PyText} {c : TypedProbeConfiguration}
    {timeout : Option ℤ} {v : Json JsonNum}
    (h : serializeProbeConfiguration txt c timeout = .ok v) : ∀ k ∈ v.keys, isAscii k = true := by
  obtain ⟨c', hc', rfl⟩ := serialize_eq_ok.mp h
  intro k hk
  rcases keys_modelDump hk with hk | ⟨c', rfl, header, hm, rfl⟩
  · exact isAscii_fieldNames k hk
  · exact isAscii_of_headerName (headerName_of_normalize hc' header hm)

/-! ## What is issued passes every other check -/

theorem validateSchedule_eq_ok {interval timeout : ℤ} : validateSchedule interval timeout = .ok () ↔
      1 ≤ interval ∧ 1 ≤ timeout ∧ timeout < interval := by
  unfold validateSchedule
  split
  · simp; omega
  · split
    · simp; omega
    · simp; omega

/-- What the checks on a stored monitor leave behind. -/
theorem stored_spec {txt : PyText} {column : JsonColumn} {m : Monitor} (h : m.Stored txt column) :
    (1 ≤ m.timeoutSeconds ∧ m.timeoutSeconds < m.intervalSeconds) ∧
      ∀ k ∈ m.configuration.keys, isAscii k = true := by
  obtain ⟨c, h⟩ := h
  simp only [storeMonitor, bind_eq_ok] at h
  obtain ⟨_, hsched, h⟩ := h
  have hsched := validateSchedule_eq_ok.mp hsched
  refine ⟨⟨by omega, by omega⟩, ?_⟩
  split at h
  · cases h
  · next v hv =>
      have hm : m.configuration = v.mapNum column.read := by
        have h := Except.ok.inj h
        rw [← h]
      rw [hm, Json.keys_mapNum]
      exact keys_serialize hv

/-- The entries are those of the monitors, each with its schema version. -/
def versionOf (m : Monitor) : ℤ := (schemaVersion m.configuration).getD 0

theorem checkCapability_eq_ok {capabilities : Capabilities} {m : Monitor}
    {version : ℤ} (h : checkCapability capabilities m = .ok version) : version = versionOf m ∧
      capabilities.supports m.probeType.text version = true := by
  unfold checkCapability at h
  split at h
  · cases h
  · next v hv =>
      split at h
      · next hs =>
          cases h
          exact ⟨by rw [versionOf, hv]; rfl, hs⟩
      · cases h

theorem entries_eq_ok {capabilities : Capabilities} {monitors : List Monitor}
    {es : List MonitorConfiguration} (h : entries capabilities monitors = .ok es) :
    es = monitors.map (fun m => entry m (versionOf m)) ∧ ∀ m ∈ monitors,
        capabilities.supports m.probeType.text (versionOf m) = true := by
  rw [entries, mapM_eq_ok] at h
  induction monitors generalizing es with
  | nil =>
    cases es with
    | nil => simp
    | cons e es => simp at h
  | cons m monitors ih =>
    cases es with
    | nil => simp at h
    | cons e es =>
      simp only [List.map_cons, List.cons.injEq, bind_eq_ok] at h
      obtain ⟨⟨version, hv, he⟩, h⟩ := h
      obtain ⟨rfl, hs⟩ := checkCapability_eq_ok hv
      obtain ⟨hes, hrest⟩ := ih h
      refine ⟨?_, List.forall_mem_cons.mpr ⟨hs, hrest⟩⟩
      rw [List.map_cons, ← hes]
      cases he
      rfl

theorem getOrCreateSnapshot_revision (snapshots : List Backend.ConfigurationSnapshot)
    (created : Backend.ConfigurationSnapshot) :
    (getOrCreateSnapshot snapshots created).2.revision = created.revision := by
  unfold getOrCreateSnapshot
  split
  · next s hs =>
      have hs := List.find?_some hs
      exact beq_iff_eq.mp hs
  · rfl

theorem one_le_requested (s : ConfigurationState) : 1 ≤ s.requested := by
  unfold ConfigurationState.requested
  split <;> omega

/-- What `get_or_create_configuration` returns belongs to the monitors it was
given: its snapshot carries their hash and a positive revision. -/
theorem getOrCreateConfiguration_eq_ok {sha256 : List UInt8 → List UInt8}
    {agentId realmId : Uuid} {capabilities : Capabilities}
    {monitors : List Monitor} {rows rows' : ConfigurationRows} {result : ConfigurationResult}
    (h : getOrCreateConfiguration sha256 agentId realmId (some capabilities)
      monitors rows = .ok (rows', result)) : entries capabilities monitors = .ok result.monitors ∧
      result.snapshot.contentHash = contentHash sha256 agentId realmId result.monitors ∧
      1 ≤ result.snapshot.revision := by
  simp only [getOrCreateConfiguration, bind_eq_ok] at h
  obtain ⟨es, hes, h⟩ := h
  split at h
  · cases h
  · next hhash =>
      simp only [Except.ok.injEq, Prod.mk.injEq] at h
      obtain ⟨-, rfl⟩ := h
      rw [not_not] at hhash
      refine ⟨hes, hhash, ?_⟩
      rw [getOrCreateSnapshot_revision]
      exact one_le_requested _

theorem validateMonitors_eq_ok {capabilities : Capabilities}
    {es : List MonitorConfiguration} {seen : List String}
    (hids : (seen.reverse ++ es.map (·.monitorId)).Nodup) (hok : ∀ e ∈ es,
      capabilities.supports e.probeType e.probeSchemaVersion = true ∧
        1 ≤ e.timeoutSeconds ∧ e.timeoutSeconds < e.intervalSeconds ∧ e.missedRunPolicy = "skip") :
    validateMonitors capabilities seen es = .ok () := by
  induction es generalizing seen with
  | nil => rfl
  | cons e es ih =>
    obtain ⟨⟨hs, ht, hi, hp⟩, hrest⟩ := List.forall_mem_cons.mp hok
    have hnew : e.monitorId ∉ seen := by
      intro hm
      rw [List.nodup_append] at hids
      exact hids.2.2 _ (List.mem_reverse.mpr hm) _ (by simp) rfl
    rw [validateMonitors, if_neg hnew, if_neg (by simp [hs]), if_neg (by simp [hp]; omega)]
    refine ih ?_ hrest
    rwa [List.reverse_cons, List.append_assoc]

/-! ## Issuing and validating -/

section Issued

variable {sha256 : List UInt8 → List UInt8} {txt : PyText}
  {column : JsonColumn} {agentId realmId : Uuid} {capabilities : Capabilities}
  {monitors : List Monitor} {rows rows' : ConfigurationRows}
  {result : ConfigurationResult} {activeRevision : Option ℕ}
  {activeHash : Option String} {response : ConfigurationResponse}

/-- A response passes every check of `Validate` but the last, which compares
the digests of the two texts. -/
theorem validate_issued (hstored : ∀ m ∈ monitors, m.Stored txt column)
    (hids : (monitors.map Monitor.id).Nodup)
    (hissue : getOrCreateConfiguration sha256 agentId realmId
      (some capabilities) monitors rows = .ok (rows', result))
    (hresponse : getConfiguration agentId realmId result activeRevision
      activeHash = some response) :
    (canonicalBytes response = hashedBytes agentId realmId result.monitors ↔
      ∀ m ∈ monitors, portable m = true) ∧
    validate sha256 response agentId.text realmId.text capabilities =
      if sha256 (canonicalBytes response) =
          sha256 (hashedBytes agentId realmId result.monitors) then
        .ok (canonicalBytes response)
      else .error .hash := by
  obtain ⟨hentries, hhash, hrev⟩ := getOrCreateConfiguration_eq_ok hissue
  obtain ⟨hes, hsupports⟩ := entries_eq_ok hentries
  simp only [getConfiguration] at hresponse
  split at hresponse
  · cases hresponse
  · injection hresponse with hresponse
    subst hresponse
    have hmonitors : validateMonitors capabilities [] result.monitors = .ok () := by
      refine validateMonitors_eq_ok ?_ ?_
      · rw [hes, List.map_map]
        show (monitors.map fun m => m.id.text).Nodup
        rw [← Function.comp_def, ← List.map_map]
        exact hids.map fun _ _ h => Uuid.text_inj.mp h
      · rw [hes, List.forall_mem_map]
        intro m hm
        obtain ⟨⟨h1, h2⟩, -⟩ := stored_spec (hstored m hm)
        exact ⟨hsupports m hm, h1, h2, rfl⟩
    constructor
    · rw [hes]
      exact canonicalBytes_eq_iff fun m hm => (stored_spec (hstored m hm)).2
    · unfold validate
      have hversion : ¬ ((1 : ℤ) ≠ 1 ∨ (1 : ℤ) ≠ 1 ∨ (result.snapshot.revision : ℤ) < 1) := by omega
      rw [if_neg hversion, if_neg (by simp), hmonitors]
      simp only [hhash, contentHash, String.toList_append, String.toList_ofList]
      exact if_congr equalFold_hexText rfl rfl

/-- The agent accepts an issued configuration with exactly the bytes that
were hashed if and only if the monitors are portable. -/
theorem validate_issued_iff (hstored : ∀ m ∈ monitors, m.Stored txt column)
    (hids : (monitors.map Monitor.id).Nodup)
    (hissue : getOrCreateConfiguration sha256 agentId realmId
      (some capabilities) monitors rows = .ok (rows', result))
    (hresponse : getConfiguration agentId realmId result activeRevision
      activeHash = some response) :
    validate sha256 response agentId.text realmId.text capabilities =
        .ok (hashedBytes agentId realmId result.monitors) ↔ ∀ m ∈ monitors, portable m = true := by
  obtain ⟨hbytes, hvalidate⟩ :=
    validate_issued hstored hids hissue hresponse
  rw [hvalidate, ← hbytes]
  constructor
  · intro h
    split at h
    · exact Except.ok.inj h
    · cases h
  · intro h
    rw [h, if_pos rfl]

end Issued

/-! ## A portable monitor, and one that is not -/

/-- The first request of an agent is answered with revision 1. -/
theorem getOrCreateConfiguration_first {sha256 : List UInt8 → List UInt8}
    {agentId realmId : Uuid} {capabilities : Capabilities}
    {monitors : List Monitor} {es : List MonitorConfiguration}
    (h : entries capabilities monitors = .ok es) :
    ∃ rows', getOrCreateConfiguration sha256 agentId realmId
      (some capabilities) monitors {} =
        .ok (rows', ⟨⟨1, contentHash sha256 agentId realmId es, es⟩, es⟩) := by
  simp only [getOrCreateConfiguration, h]
  show ∃ rows', ite (contentHash sha256 agentId realmId es ≠ _) _ _ = _
  rw [if_neg (not_not.mpr rfl)]
  exact ⟨_, rfl⟩

theorem getConfiguration_first (agentId realmId : Uuid) (result : ConfigurationResult) :
    getConfiguration agentId realmId result none none = some {
      agentId := agentId.text
      realmId := realmId.text
      revision := result.snapshot.revision
      contentHash := "sha256:" ++ result.snapshot.contentHash
      monitors := result.monitors } := by
  simp [getConfiguration]

def sampleCapabilities : Capabilities where
  probes _ := some ⟨[1], true⟩

/-- Text functions that change nothing, and no IP addresses. -/
def plainText : PyText := ⟨id, id, id, fun _ => false⟩

/-- A column that returns what was written. -/
def exactColumn : JsonColumn := ⟨id, fun _ => rfl, fun _ => rfl⟩

/-- A TCP monitor with a plain address. -/
def plainMonitor : Monitor where
  id := .ofByte 1
  targetId := .ofByte 2
  targetAddress := "router.example"
  probeType := .tcp
  intervalSeconds := 30
  timeoutSeconds := 5
  revision := 1
  configuration := (TypedProbeConfiguration.tcp { port := 22 }).modelDump

theorem validate_plain_monitor : ∃ rows' result response,
    getOrCreateConfiguration id (Uuid.ofByte 3) (Uuid.ofByte 4)
        (some sampleCapabilities) [plainMonitor] {} = .ok (rows', result) ∧
      getConfiguration (Uuid.ofByte 3) (Uuid.ofByte 4) result none none = some response ∧
      validate id response (Uuid.ofByte 3).text (Uuid.ofByte 4).text
          sampleCapabilities =
        .ok (hashedBytes (Uuid.ofByte 3) (Uuid.ofByte 4) result.monitors) := by
  have hstored : ∀ m ∈ [plainMonitor], m.Stored plainText exactColumn := by
    rw [List.forall_mem_singleton]
    exact ⟨.tcp { port := 22 }, rfl⟩
  obtain ⟨rows', hissue⟩ := getOrCreateConfiguration_first
    (show entries sampleCapabilities [plainMonitor] = .ok _ from rfl)
  have hresponse := getConfiguration_first (Uuid.ofByte 3) (Uuid.ofByte 4)
    ⟨⟨1, contentHash id (Uuid.ofByte 3) (Uuid.ofByte 4) [entry plainMonitor 1],
      [entry plainMonitor 1]⟩, [entry plainMonitor 1]⟩
  refine ⟨rows', _, _, hissue, hresponse, ?_⟩
  refine (validate_issued_iff hstored (by simp) hissue hresponse).mpr ?_
  decide

/-- The double 50. -/
def fifty : Decimal where
  neg := false
  digits := [5]
  exp := 1
  digits_lt := by decide
  head_ne := by decide
  last_ne := by decide
  zero_exp := by decide

theorem value_fifty : fifty.value = 50 := by
  norm_num [Decimal.value, fifty, Nat.ofDigits]

/-- An ICMP monitor that allows half of its packets to be lost; `json.dumps`
writes that as `50.0` and `json.Marshal` as `50`. -/
def halfLossMonitor : Monitor where
  id := .ofByte 1
  targetId := .ofByte 2
  targetAddress := "router.example"
  probeType := .icmp
  intervalSeconds := 30
  timeoutSeconds := 5
  revision := 1
  configuration := (TypedProbeConfiguration.icmp {
    perPacketTimeoutMs := some 4050
    maximumPacketLossPercent := some fifty }).modelDump

theorem halfLossMonitor_stored : halfLossMonitor.Stored plainText exactColumn := by
  refine ⟨.icmp { maximumPacketLossPercent := some fifty }, ?_⟩
  have hrange : decide (0 ≤ fifty.value ∧ fifty.value ≤ 100) = true := by
    rw [value_fifty]
    norm_num
  have hvalid : IcmpProbeConfiguration.validate
      { maximumPacketLossPercent := some fifty } =
        .ok { maximumPacketLossPercent := some fifty } := by
    simp only [IcmpProbeConfiguration.validate, Option.forM, hrange]
    rfl
  simp only [storeMonitor, serializeProbeConfiguration, validateProbeConfiguration, hvalid]
  rfl

theorem validate_half_loss_monitor : halfLossMonitor.Stored plainText exactColumn ∧
      ∀ sha256 : List UInt8 → List UInt8, Function.Injective sha256 → ∃ rows' result response,
          getOrCreateConfiguration sha256 (Uuid.ofByte 3) (Uuid.ofByte 4)
              (some sampleCapabilities) [halfLossMonitor] {} = .ok (rows', result) ∧
          getConfiguration (Uuid.ofByte 3) (Uuid.ofByte 4) result none none = some response ∧
          validate sha256 response (Uuid.ofByte 3).text (Uuid.ofByte 4).text
            sampleCapabilities = .error .hash := by
  refine ⟨halfLossMonitor_stored, fun sha256 hinj => ?_⟩
  obtain ⟨rows', hissue⟩ := getOrCreateConfiguration_first
    (show entries sampleCapabilities [halfLossMonitor] = .ok _ from rfl)
  have hresponse := getConfiguration_first (Uuid.ofByte 3) (Uuid.ofByte 4)
    ⟨⟨1, contentHash sha256 (Uuid.ofByte 3) (Uuid.ofByte 4)
      [entry halfLossMonitor 1], [entry halfLossMonitor 1]⟩, [entry halfLossMonitor 1]⟩
  obtain ⟨hbytes, hvalidate⟩ := validate_issued
    (List.forall_mem_singleton.mpr halfLossMonitor_stored) (by simp) hissue
    hresponse
  refine ⟨rows', _, _, hissue, hresponse, ?_⟩
  have hne : ¬ ∀ m ∈ [halfLossMonitor], portable m = true := by decide
  rw [hvalidate]
  exact if_neg fun h => hne (hbytes.mp (hinj h))

end Bifrostnms.Proofs
