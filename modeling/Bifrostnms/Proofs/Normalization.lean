import Bifrostnms.Backend.MonitorManagement
import Bifrostnms.Proofs.ConfigurationHash
import Bifrostnms.Proofs.ConfigurationReader
import Bifrostnms.Proofs.NameConfiguration

/-!
# Normalizing a stored configuration again

A monitor's own values, submitted again, are meant to change nothing: the stored document
is normalized to itself, `update_monitor_behavior` finds it equal to the one it has, and
the revision stays.

A document is read back as the configuration that was dumped, up to the spelling of its
numbers, so what matters is whether a normalized configuration is valid and normalizes to
itself. Two are not. The packet timeout of an ICMP configuration is computed after the
bounds were checked and may be above them. A query name may keep white space that stood
before the full stops, and `lower` may make it longer than the bound.
-/

namespace Bifrostnms.Proofs

open Bifrostnms.Lib Bifrostnms.Backend

/-! ## Equal documents -/

theorem value_readFloat64 (n : JsonNum) : (JsonText.readFloat64 n).value = numberValue n := by
  cases n with
  | int n => exact JsonText.value_decimalOfInt n
  | float d => rfl

section Equal

variable {f g : JsonNum → JsonNum}

mutual

/-- Two spellings of the numbers of a document are equal, if the values are. -/
theorem pyEqual_mapNum (h : ∀ n, numberValue (f n) = numberValue (g n)) {v : Json JsonNum}
    (hv : v.Distinct) : pyEqual (v.mapNum f) (v.mapNum g) = true := by
  match v with
  | .null => rfl
  | .bool b => simp [Json.mapNum, pyEqual]
  | .num n => simp [Json.mapNum, pyEqual, h n]
  | .str s => simp [Json.mapNum, pyEqual]
  | .arr xs =>
    rw [Json.Distinct] at hv
    rw [Json.mapNum, Json.mapNum, pyEqual]
    exact pyEqualItems_mapNum h hv
  | .obj kvs =>
    rw [Json.Distinct] at hv
    rw [Json.mapNum, Json.mapNum, pyEqual, Json.length_mapNumMembers,
      Json.length_mapNumMembers, beq_self_eq_true, Bool.true_and]
    exact pyEqualMembers_mapNum h hv.2 fun k v hm => Json.lookup_of_mem hv.1 hm

theorem pyEqualItems_mapNum (h : ∀ n, numberValue (f n) = numberValue (g n))
    {xs : List (Json JsonNum)} (hxs : Json.DistinctItems xs) :
    pyEqualItems (Json.mapNumItems f xs) (Json.mapNumItems g xs) = true := by
  match xs with
  | [] => rfl
  | x :: xs =>
    rw [Json.DistinctItems] at hxs
    rw [Json.mapNumItems, Json.mapNumItems, pyEqualItems, pyEqual_mapNum h hxs.1,
      pyEqualItems_mapNum h hxs.2, Bool.and_self]

theorem pyEqualMembers_mapNum (h : ∀ n, numberValue (f n) = numberValue (g n))
    {kvs all : List (String × Json JsonNum)} (hkvs : Json.DistinctMembers kvs)
    (hall : ∀ k v, (k, v) ∈ kvs → all.lookup k = some v) :
    pyEqualMembers (Json.mapNumMembers f kvs) (Json.mapNumMembers g all) = true := by
  match kvs with
  | [] => rfl
  | (k, v) :: kvs =>
    rw [Json.DistinctMembers] at hkvs
    rw [Json.mapNumMembers, pyEqualMembers, Json.lookup_mapNumMembers,
      hall k v List.mem_cons_self, Option.map_some,
      pyEqualMembers_mapNum h hkvs.2 fun k v hm => hall k v (List.mem_cons_of_mem _ hm),
      Bool.and_true]
    exact pyEqual_mapNum h hkvs.1

end

theorem pyEqual_self {v : Json JsonNum} (hv : v.Distinct) : pyEqual v v = true := by
  have h : pyEqual (v.mapNum id) (v.mapNum id) = true := pyEqual_mapNum (fun _ => rfl) hv
  rwa [Json.mapNum_id] at h

theorem pyEqualMembers_member {kvs lvs : List (String × Json JsonNum)}
    (h : pyEqualMembers kvs lvs = true) {k : String} {v w : Json JsonNum}
    (hm : (k, v) ∈ kvs) (hlookup : lvs.lookup k = some w) : pyEqual v w = true := by
  induction kvs with
  | nil => cases hm
  | cons kv kvs ih =>
    obtain ⟨k', v'⟩ := kv
    rw [pyEqualMembers, Bool.and_eq_true] at h
    rcases List.mem_cons.mp hm with heq | htail
    · cases heq
      rw [hlookup] at h
      exact h.1
    · exact ih h.2 htail

/-- Two equal objects have equal members. -/
theorem pyEqual_member {kvs lvs : List (String × Json JsonNum)}
    (h : pyEqual (.obj kvs) (.obj lvs) = true) {k : String} {v w : Json JsonNum}
    (hm : (k, v) ∈ kvs) (hlookup : lvs.lookup k = some w) : pyEqual v w = true := by
  rw [pyEqual, Bool.and_eq_true] at h
  exact pyEqualMembers_member h.2 hm hlookup

end Equal

/-! ## The stored document -/

/-- The keys of a Python dictionary are different. -/
def DistinctHeaders : TypedProbeConfiguration → Prop
  | .http c => (c.requestHeaders.map Prod.fst).Nodup
  | _ => True

theorem distinct_jsonOption {α : Type} {f : α → Json JsonNum} (h : ∀ a, (f a).Distinct)
    (o : Option α) : (jsonOption f o).Distinct := by
  cases o with
  | none => trivial
  | some a => exact h a

theorem distinct_modelDump {c : TypedProbeConfiguration} (h : DistinctHeaders c) :
    c.modelDump.Distinct := by
  have hint : ∀ n, (jsonInt n).Distinct := fun _ => trivial
  have hints : ∀ o, (jsonOption jsonInt o).Distinct := distinct_jsonOption hint
  have htexts : ∀ o, (jsonOption .str o).Distinct := distinct_jsonOption fun _ => trivial
  have hfloats : ∀ o, (jsonOption (fun d => .num (.float d)) o).Distinct :=
    distinct_jsonOption fun _ => trivial
  cases c with
  | icmp c =>
    simp [TypedProbeConfiguration.modelDump, Json.Distinct, Json.distinctMembers_iff, hint,
      hints, hfloats]
  | http c =>
    have hheaders : (Json.obj (c.requestHeaders.map fun header =>
        (header.1, .str header.2)) : Json JsonNum).Distinct := by
      rw [Json.Distinct, List.map_map, Json.distinctMembers_iff, List.forall_mem_map]
      exact ⟨h, fun _ _ => trivial⟩
    have hcodes : (Json.arr (c.expectedStatusCodes.map jsonInt)).Distinct := by
      simp [Json.Distinct, Json.distinctItems_iff, hint]
    have hassertions : (Json.arr (c.expectedHeaderValues.map fun a =>
        .obj [("name", .str a.name), ("value", .str a.value)]) : Json JsonNum).Distinct := by
      simp [Json.Distinct, Json.distinctItems_iff, Json.distinctMembers_iff]
    have hbodies : (Json.arr (c.expectedBodyContains.map .str) : Json JsonNum).Distinct := by
      simp [Json.Distinct, Json.distinctItems_iff]
    refine ⟨by simp, Json.distinctMembers_iff.mpr ?_⟩
    simp only [List.forall_mem_cons]
    exact ⟨hint 1, trivial, hints _, trivial, trivial, trivial, hint _, htexts _, hheaders,
      hcodes, hassertions, hbodies, hint _, trivial, fun _ hm => (List.not_mem_nil hm).elim⟩
  | tcp c =>
    simp [TypedProbeConfiguration.modelDump, Json.Distinct, Json.distinctMembers_iff, hint]
  | dns c =>
    simp [TypedProbeConfiguration.modelDump, Json.Distinct, Json.distinctMembers_iff,
      Json.distinctItems_iff, hint, htexts]
  | tls c =>
    simp [TypedProbeConfiguration.modelDump, Json.Distinct, Json.distinctMembers_iff, hint, htexts]

section Column

variable (column : JsonColumn)

/-- The double that is read for a double that was stored. -/
def reread (d : Decimal) : Decimal := JsonText.readFloat64 (column.read (.float d))

theorem numberValue_read (n : JsonNum) : numberValue (column.read n) = numberValue n := by
  cases n with
  | int n => rw [column.read_int]
  | float d =>
    rw [← value_readFloat64]
    exact column.read_float d

/-- The same document with the thresholds as they are read. -/
def rereadNum : JsonNum → JsonNum
  | .int n => .int n
  | .float d => .float (reread column d)

theorem modelDump_reread (c : TypedProbeConfiguration) :
    (mapThresholds (reread column) c).modelDump = c.modelDump.mapNum (rereadNum column) ∨
      (mapThresholds (reread column) c).modelDump = c.modelDump.mapNum id := by
  cases c with
  | icmp c =>
    left
    obtain ⟨count, interval, timeout, payload, family, loss, rtt⟩ := c
    cases timeout <;> cases loss <;> cases rtt <;> rfl
  | http | tcp | dns | tls => exact .inr (Json.mapNum_id _).symm

theorem numberValue_rereadNum (n : JsonNum) : numberValue (rereadNum column n) = numberValue n := by
  cases n with
  | int n => rfl
  | float d => exact column.read_float d

/-- Columns keep what `==` compares. -/
theorem pyEqual_stored (column' : JsonColumn) {c : TypedProbeConfiguration}
    (h : DistinctHeaders c) : pyEqual (c.modelDump.mapNum column.read)
      (mapThresholds (reread column') c).modelDump = true := by
  rcases modelDump_reread column' c with heq | heq
  · rw [heq]
    refine pyEqual_mapNum (fun n => ?_) (distinct_modelDump h)
    rw [numberValue_read, numberValue_rereadNum]
  · rw [heq]
    exact pyEqual_mapNum (numberValue_read column) (distinct_modelDump h)

end Column

/-! ## Stable configurations -/

/-- The input is normalized to a configuration that is normal. -/
def Stable (txt : PyText) : TypedProbeConfiguration → Option ℤ → Prop
  | .icmp c, some seconds =>
    c.perPacketTimeoutMs = none → availableMs c seconds ≤ 60000
  | .dns c, _ => ∀ value ∈ c.queryName, endsWithSpace (normalizedName txt value) = false ∧
        (normalizedName txt value).length ≤ 253
  | _, _ => True

/-- Without control characters the two languages have the same white space. -/
theorem isPySpace_eq {s : String} (hcontrol : hasControlCharacter s = false) {c : Char}
    (hc : c ∈ s.toList) : isPySpace c = isGoSpace c := by
  rw [hasControlCharacter, List.any_eq_false] at hcontrol
  have hcode : 32 ≤ c.toNat := by
    by_contra hlow
    refine hcontrol c hc ?_
    rw [controlCharacter, decide_eq_true (by omega : c.toNat < 32), Bool.true_or]
  have hrange : decide (c.toNat ≤ 31) = false := decide_eq_false (by omega)
  rw [isPySpace, hrange, Bool.and_false, Bool.or_false]

theorem one_le_length {s : String} (h : s ≠ "") : 1 ≤ s.length := by
  rwa [Nat.one_le_iff_ne_zero, ne_eq, String.length_eq_zero_iff]

section Names

variable {txt : PyText} (laws : LawfulText txt)

include laws

/-- A query name is normal exactly if it does not end with white space. -/
theorem normalizedName_again_iff {value : String}
    (hcontrol : hasControlCharacter (normalizedName txt value) = false) :
    normalizedName txt (normalizedName txt value) = normalizedName txt value ↔
      endsWithSpace (normalizedName txt value) = false := by
  rw [normalizedName_idempotent_iff laws, endsWithSpace, Option.any_eq_false]
  refine forall_congr' fun c => ⟨fun h hc => ?_, fun h hc => ?_⟩
  · rw [← isPySpace_eq hcontrol (List.mem_of_getLast? hc)]
    exact h hc
  · rw [isPySpace_eq hcontrol (List.mem_of_getLast? hc)]
    exact h hc

/-- A server name is normal. -/
theorem normalizedName_of_labels {value : String}
    (hlabels : hostnameLabels (normalizedName txt value).toList = true) :
    normalizedName txt (normalizedName txt value) = normalizedName txt value := by
  rw [normalizedName_idempotent_iff laws]
  intro c hc
  have hchar := hostnameChar_of_labels (hostnameLabels_eq _ ▸ hlabels) c
    (List.mem_of_getLast? hc)
  refine forall_ascii (P := fun c => hostnameChar c = true → isPySpace c = false) ?_
    (toNat_lt_of_hostnameChar hchar) hchar
  decide

end Names

section Again

variable {txt : PyText} (laws : LawfulText txt) {c : DnsProbeConfiguration}

theorem validIcmp_mapThresholds {g : Decimal → Decimal}
    (hg : ∀ d, (g d).value = d.value) {c : IcmpProbeConfiguration} (hvalid : ValidIcmp c) :
    ValidIcmp { c with
      maximumPacketLossPercent := c.maximumPacketLossPercent.map g
      maximumAverageRttMs := c.maximumAverageRttMs.map g } where
  packetCount := hvalid.packetCount
  packetIntervalMs := hvalid.packetIntervalMs
  perPacketTimeoutMs := hvalid.perPacketTimeoutMs
  payloadSizeBytes := hvalid.payloadSizeBytes
  maximumPacketLossPercent := by
    intro x hx
    obtain ⟨d, hd, rfl⟩ := Option.map_eq_some_iff.mp hx
    rw [hg]
    exact hvalid.maximumPacketLossPercent d hd
  maximumAverageRttMs := by
    intro x hx
    obtain ⟨d, hd, rfl⟩ := Option.map_eq_some_iff.mp hx
    rw [hg]
    exact hvalid.maximumAverageRttMs d hd

/-- The packet timeout is the only value that is computed after the bounds were checked. -/
theorem validIcmp_withTimeout {c : IcmpProbeConfiguration} (hvalid : ValidIcmp c) {ms : ℤ}
    (hms : 1 ≤ ms ∧ ms ≤ 60000) : ValidIcmp { c with perPacketTimeoutMs := some ms } :=
  { hvalid with
    perPacketTimeoutMs := by
      rintro _ ⟨⟩
      exact hms }

include laws

theorem normalizedCodes_again (hvalid : ValidDns txt c) :
    (c.expectedResponseCodes.map (normalizedCode txt)).map (normalizedCode txt) =
      c.expectedResponseCodes.map (normalizedCode txt) := by
  rw [List.map_map]
  exact List.map_congr_left fun code hcode =>
    normalizedCode_of_allowed laws (hvalid.expectedResponseCodes code hcode)

theorem normalizedDns_again (hvalid : ValidDns txt c) (hnames : ∀ value ∈ c.queryName,
      normalizedName txt (normalizedName txt value) = normalizedName txt value) :
    normalizedDns txt (normalizedDns txt c) = normalizedDns txt c := by
  have hquery : (c.queryName.map (normalizedName txt)).map (normalizedName txt) =
      c.queryName.map (normalizedName txt) := by
    rw [Option.map_map]
    exact Option.map_congr hnames
  simp only [normalizedDns, hquery, normalizedCodes_again laws hvalid]

theorem validDns_again (hvalid : ValidDns txt c) (hnames : ∀ value ∈ c.queryName,
      normalizedName txt (normalizedName txt value) = normalizedName txt value)
    (hlength : ∀ value ∈ c.queryName, (normalizedName txt value).length ≤ 253) :
    ValidDns txt (normalizedDns txt c) where
  resolverAddress_length := hvalid.resolverAddress_length
  resolverAddress := hvalid.resolverAddress
  resolverPort := hvalid.resolverPort
  transport := hvalid.transport
  queryName_length := by
    intro name hname
    obtain ⟨value, hvalue, rfl⟩ := Option.map_eq_some_iff.mp hname
    exact ⟨one_le_length (hvalid.queryName value hvalue).1, hlength value hvalue⟩
  queryName := by
    intro name hname
    obtain ⟨value, hvalue, rfl⟩ := Option.map_eq_some_iff.mp hname
    rw [hnames value hvalue]
    exact hvalid.queryName value hvalue
  expectedResponseCodes_length := by
    show 1 ≤ (c.expectedResponseCodes.map _).length ∧ (c.expectedResponseCodes.map _).length ≤ 16
    rw [List.length_map]
    exact hvalid.expectedResponseCodes_length
  expectedResponseCodes := by
    refine List.forall_mem_map.mpr fun code hcode => ?_
    have hallowed := hvalid.expectedResponseCodes code hcode
    rwa [normalizedCode_of_allowed laws hallowed]
  expectedResponseCodes_nodup := by
    show ((c.expectedResponseCodes.map _).map _).Nodup
    rw [normalizedCodes_again laws hvalid]
    exact hvalid.expectedResponseCodes_nodup
  expectedAnswers := hvalid.expectedAnswers
  expectedAnswers_length := hvalid.expectedAnswers_length

theorem normalizedTls_again {c : TlsProbeConfiguration} (hvalid : ValidTls txt c) :
    ValidTls txt (normalizedTls txt c) ∧
      normalizedTls txt (normalizedTls txt c) = normalizedTls txt c := by
  have hnames : ∀ value ∈ c.serverName,
      normalizedName txt (normalizedName txt value) = normalizedName txt value :=
    fun value hvalue => normalizedName_of_labels laws (hvalid.serverName value hvalue).2
  refine ⟨⟨hvalid.port, ?_, ?_, hvalid.expiryWarningDays⟩, ?_⟩
  · intro name hname
    obtain ⟨value, hvalue, rfl⟩ := Option.map_eq_some_iff.mp hname
    obtain ⟨-, hlabels⟩ := hvalid.serverName value hvalue
    have hascii : ∀ c ∈ (normalizedName txt value).toList, c.toNat < 128 := fun c hc =>
      toNat_lt_of_hostnameChar (hostnameChar_of_labels (hostnameLabels_eq _ ▸ hlabels) c hc)
    have hne : normalizedName txt value ≠ "" := by
      intro h
      rw [h] at hlabels
      cases hlabels
    exact ⟨one_le_length hne, (length_normalizedName_le laws value hascii).trans
      (hvalid.serverName_length value hvalue).2⟩
  · intro name hname
    obtain ⟨value, hvalue, rfl⟩ := Option.map_eq_some_iff.mp hname
    rw [hnames value hvalue]
    exact hvalid.serverName value hvalue
  · have hserver : (c.serverName.map (normalizedName txt)).map (normalizedName txt) =
        c.serverName.map (normalizedName txt) := by
      rw [Option.map_map]
      exact Option.map_congr hnames
    simp only [normalizedTls, hserver]

end Again

/-! ## Normalizing again -/

section Stable

variable {txt : PyText} (laws : LawfulText txt) {c c' : TypedProbeConfiguration}
  {timeout : Option ℤ}

theorem probeType_of_normalize (h : normalizeProbeConfiguration txt c timeout = .ok c') :
    c'.probeType = c.probeType := by
  cases c with
  | icmp c =>
    cases timeout with
    | none =>
      obtain ⟨-, rfl⟩ := normalizeIcmp_none_eq_ok.mp h
      rfl
    | some seconds =>
      obtain ⟨-, rfl⟩ := normalizeIcmp_eq_ok.mp h
      rfl
  | http c =>
    obtain ⟨-, rfl⟩ := normalizeHttp_eq_ok.mp h
    rfl
  | tcp c =>
    obtain ⟨-, rfl⟩ := normalizeTcp_eq_ok.mp h
    rfl
  | dns c =>
    obtain ⟨-, rfl⟩ := normalizeDns_eq_ok.mp h
    rfl
  | tls c =>
    obtain ⟨-, rfl⟩ := normalizeTls_eq_ok.mp h
    rfl

include laws

/-- What a stable input was normalized to is normal, however its thresholds are spelled. -/
theorem normalize_again (h : normalizeProbeConfiguration txt c timeout = .ok c')
    (hstable : Stable txt c timeout) {g : Decimal → Decimal} (hg : ∀ d, (g d).value = d.value) :
    normalizeProbeConfiguration txt (mapThresholds g c') timeout = .ok (mapThresholds g c') := by
  cases c with
  | icmp c =>
    cases timeout with
    | none =>
      obtain ⟨hvalid, rfl⟩ := normalizeIcmp_none_eq_ok.mp h
      exact normalizeIcmp_none_eq_ok.mpr ⟨validIcmp_mapThresholds hg hvalid, rfl⟩
    | some seconds =>
      obtain ⟨⟨hvalid, havailable, hfits⟩, rfl⟩ := normalizeIcmp_eq_ok.mp h
      have hms : 1 ≤ packetTimeoutMs c seconds ∧ packetTimeoutMs c seconds ≤ 60000 := by
        cases hgiven : c.perPacketTimeoutMs with
        | none =>
          rw [packetTimeoutMs, hgiven]
          exact ⟨havailable, hstable hgiven⟩
        | some ms =>
          rw [packetTimeoutMs, hgiven]
          exact hvalid.perPacketTimeoutMs ms hgiven
      have hvalid' := validIcmp_mapThresholds hg (validIcmp_withTimeout hvalid hms)
      exact normalizeIcmp_eq_ok.mpr ⟨⟨hvalid', havailable, hfits⟩, rfl⟩
  | http c =>
    obtain ⟨hvalid, rfl⟩ := normalizeHttp_eq_ok.mp h
    exact h
  | tcp c =>
    obtain ⟨hvalid, rfl⟩ := normalizeTcp_eq_ok.mp h
    exact h
  | dns c =>
    obtain ⟨hvalid, rfl⟩ := normalizeDns_eq_ok.mp h
    have hnames : ∀ value ∈ c.queryName,
        normalizedName txt (normalizedName txt value) = normalizedName txt value :=
      fun value hvalue => (normalizedName_again_iff laws
        (hvalid.queryName value hvalue).2).mpr (hstable value hvalue).1
    refine normalizeDns_eq_ok.mpr ⟨validDns_again laws hvalid hnames fun value hvalue =>
      (hstable value hvalue).2, ?_⟩
    rw [normalizedDns_again laws hvalid hnames]
    rfl
  | tls c =>
    obtain ⟨hvalid, rfl⟩ := normalizeTls_eq_ok.mp h
    obtain ⟨hvalid', hagain⟩ := normalizedTls_again laws hvalid
    refine normalizeTls_eq_ok.mpr ⟨hvalid', ?_⟩
    rw [hagain]
    rfl

/-- An input is stable if what it was normalized to is accepted again, with an equal
document. -/
theorem stable_of_again (h : normalizeProbeConfiguration txt c timeout = .ok c')
    {g : Decimal → Decimal} {read : JsonNum → JsonNum} {c₂ : TypedProbeConfiguration}
    (hagain : normalizeProbeConfiguration txt (mapThresholds g c') timeout = .ok c₂)
    (hequal : pyEqual (c'.modelDump.mapNum read) c₂.modelDump = true) : Stable txt c timeout := by
  cases c with
  | icmp c =>
    cases timeout with
    | none => trivial
    | some seconds =>
      obtain ⟨-, rfl⟩ := normalizeIcmp_eq_ok.mp h
      obtain ⟨⟨hvalid, -⟩, -⟩ := normalizeIcmp_eq_ok.mp hagain
      intro hnone
      have hms := (hvalid.perPacketTimeoutMs (packetTimeoutMs c seconds) rfl).2
      rwa [packetTimeoutMs, hnone] at hms
  | http | tcp | tls => trivial
  | dns c =>
    obtain ⟨hvalid, rfl⟩ := normalizeDns_eq_ok.mp h
    obtain ⟨hvalid', rfl⟩ := normalizeDns_eq_ok.mp hagain
    intro value hvalue
    have hname : (normalizedDns txt c).queryName = some (normalizedName txt value) :=
      Option.map_eq_some_iff.mpr ⟨value, hvalue, rfl⟩
    refine ⟨(normalizedName_again_iff laws (hvalid.queryName value hvalue).2).mp ?_,
      (hvalid'.queryName_length _ hname).2⟩
    have hquery : pyEqual ((jsonOption .str (normalizedDns txt c).queryName).mapNum read)
        (jsonOption .str ((normalizedDns txt c).queryName.map (normalizedName txt))) = true := by
      refine pyEqual_member (k := "query_name") hequal ?_ rfl
      simp [Json.mapNumMembers]
    rw [hname] at hquery
    exact (beq_iff_eq.mp hquery).symm

end Stable

/-! ## Own values -/

/-- `update_monitor_behavior` with the values that the monitor has. -/
def resubmit (ctx : DomainContext) (monitor : MonitorRow) (target : TargetRow) :
    Except DomainError (MonitorRow × DomainCall) :=
  match parseProbeConfiguration monitor.probeType monitor.configuration with
  | .error e => .error (.monitoring (.configuration e))
  | .ok configuration => updateMonitorBehavior ctx {
      realmId := monitor.realmId
      monitorId := monitor.id
      targetId := monitor.targetId
      name := ""
      intervalSeconds := monitor.intervalSeconds
      timeoutSeconds := monitor.timeoutSeconds
      configuration := configuration } monitor target

/-- A monitor for which a document was stored, and its target, both in a state in which
the monitor can be changed. -/
structure OwnValues (column : JsonColumn) (c : TypedProbeConfiguration)
    (dump : Json JsonNum) (monitor : MonitorRow) (target : TargetRow) : Prop where
  probeType : monitor.probeType = c.probeType
  configuration : monitor.configuration = dump.mapNum column.read
  schedule : validateSchedule monitor.intervalSeconds monitor.timeoutSeconds = .ok ()
  unarchived : monitor.archived = false
  target_id : target.id = monitor.targetId
  target_realm : target.realmId = monitor.realmId
  target_unarchived : target.archived = false
  target_enabled : target.enabled = true

section Own

variable {txt : PyText} {column : JsonColumn} {order : SetOrder}
  {c configuration : TypedProbeConfiguration} {dump : Json JsonNum} {monitor : MonitorRow}
  {target : TargetRow}

/-- The row that is saved when the documents differ. -/
def counted (column : JsonColumn) (monitor : MonitorRow) (normalized : Json JsonNum) : MonitorRow :=
  { monitor with
    configuration := normalized.mapNum column.read
    revision := monitor.revision + 1 }

/-- Only the documents are compared: the other values are those of the row. -/
theorem resubmit_eq (h : OwnValues column c dump monitor target)
    (hparse : parseProbeConfiguration monitor.probeType monitor.configuration = .ok configuration)
    (htype : configuration.probeType = monitor.probeType) :
    resubmit ⟨txt, column, order⟩ monitor target =
      match serializeProbeConfiguration txt configuration (some monitor.timeoutSeconds) with
      | .error e => .error (.monitoring (.configuration e))
      | .ok normalized =>
        if pyEqual monitor.configuration normalized = true then .ok (monitor, .done)
        else .ok (counted column monitor normalized,
          .updateSave (counted column monitor normalized)) := by
  have hrealm : requireSameRealm monitor.realmId [monitor.realmId, target.realmId] = .ok () := by
    simp [requireSameRealm, h.target_realm]
  have hactive : requireActive [monitor.archived, target.archived] = .ok () := by
    simp [requireActive, h.unarchived, h.target_unarchived]
  have hchanged : ∀ normalized, monitor.changed monitor.targetId monitor.intervalSeconds
      monitor.timeoutSeconds configuration normalized =
        !pyEqual monitor.configuration normalized := by
    intro normalized
    simp [MonitorRow.changed, htype]
  simp only [resubmit, hparse, updateMonitorBehavior, hrealm, hactive, h.target_enabled,
    normalizeBehavior, h.schedule, h.target_id, htype, hchanged]
  cases serializeProbeConfiguration txt configuration (some monitor.timeoutSeconds) with
  | error e => rfl
  | ok normalized =>
    show (if (!pyEqual monitor.configuration normalized) = true then
      Except.ok (counted column monitor normalized, _)
      else .ok (monitor, DomainCall.done)) = ite _ _ _
    cases pyEqual monitor.configuration normalized <;> rfl

/-- Nothing happens exactly if the configuration is accepted, with an equal document. -/
theorem resubmit_eq_done_iff (h : OwnValues column c dump monitor target)
    (hparse : parseProbeConfiguration monitor.probeType monitor.configuration = .ok configuration)
    (htype : configuration.probeType = monitor.probeType) :
    resubmit ⟨txt, column, order⟩ monitor target = .ok (monitor, .done) ↔
      ∃ normalized, serializeProbeConfiguration txt configuration
        (some monitor.timeoutSeconds) = .ok normalized ∧
        pyEqual monitor.configuration normalized = true := by
  rw [resubmit_eq h hparse htype]
  cases serializeProbeConfiguration txt configuration (some monitor.timeoutSeconds) with
  | error e => simp
  | ok normalized =>
    by_cases hequal : pyEqual monitor.configuration normalized = true
    · simp [hequal]
    · simp [hequal]

end Own

theorem distinctHeaders_of_normalize {txt : PyText} {c c' : TypedProbeConfiguration}
    {timeout : Option ℤ} (h : normalizeProbeConfiguration txt c timeout = .ok c')
    (hkeys : DistinctHeaders c) : DistinctHeaders c' := by
  have htype := probeType_of_normalize h
  cases c with
  | http c =>
    obtain ⟨-, rfl⟩ := normalizeHttp_eq_ok.mp h
    exact hkeys
  | icmp | tcp | dns | tls =>
    cases c' with
    | http => cases htype
    | icmp | tcp | dns | tls => trivial

/-- What the first call returned is returned by the second, and a monitor that stores it is
left as it is when its own values are submitted, exactly if the input is stable. -/
theorem normalization_stable_iff (txt : PyText) (laws : LawfulText txt)
    (c : TypedProbeConfiguration) (hkeys : DistinctHeaders c) (timeout : Option ℤ)
    (dump : Json JsonNum) (h : serializeProbeConfiguration txt c timeout = .ok dump) :
    (serializeDocument txt c.probeType dump timeout = .ok dump ↔ Stable txt c timeout) ∧
    ∀ (column : JsonColumn) (order : SetOrder) (monitor : MonitorRow) (target : TargetRow),
      timeout = some monitor.timeoutSeconds → OwnValues column c dump monitor target →
      (resubmit ⟨txt, column, order⟩ monitor target = .ok (monitor, .done) ↔
        Stable txt c timeout) := by
  obtain ⟨c', hnormalize, rfl⟩ := serialize_eq_ok.mp h
  have htype := probeType_of_normalize hnormalize
  have hkeys' := distinctHeaders_of_normalize hnormalize hkeys
  constructor
  · have hdocument : serializeDocument txt c.probeType c'.modelDump timeout =
        serializeProbeConfiguration txt c' timeout := by
      rw [serializeDocument, ← htype, parse_modelDump]
      rfl
    rw [hdocument, serialize_eq_ok]
    constructor
    · rintro ⟨c₂, hagain, hdump⟩
      rw [← mapThresholds_id c'] at hagain
      have hequal : pyEqual (c'.modelDump.mapNum id) c₂.modelDump = true := by
        rw [hdump, Json.mapNum_id]
        exact pyEqual_self (distinct_modelDump hkeys')
      exact stable_of_again laws hnormalize hagain hequal
    · intro hstable
      have hagain := normalize_again laws hnormalize hstable (g := id) fun _ => rfl
      rw [mapThresholds_id] at hagain
      exact ⟨c', hagain, rfl⟩
  · rintro column order monitor target rfl hown
    have hparse : parseProbeConfiguration monitor.probeType monitor.configuration =
        .ok (mapThresholds (reread column) c') := by
      rw [hown.probeType, hown.configuration, ← htype]
      exact parse_mapNum column.read_int c'
    have htype' : (mapThresholds (reread column) c').probeType = monitor.probeType := by
      rw [hown.probeType, ← htype]
      cases c' <;> rfl
    rw [resubmit_eq_done_iff hown hparse htype', hown.configuration]
    constructor
    · rintro ⟨normalized, hserialize, hequal⟩
      obtain ⟨c₂, hagain, rfl⟩ := serialize_eq_ok.mp hserialize
      exact stable_of_again laws hnormalize hagain hequal
    · intro hstable
      exact ⟨_, serialize_eq_ok.mpr
        ⟨_, normalize_again laws hnormalize hstable column.read_float, rfl⟩,
        pyEqual_stored column column hkeys'⟩

/-- A DNS monitor that stores a document. -/
def ownMonitor (configuration : Json JsonNum) : MonitorRow where
  id := .ofByte 4
  realmId := .ofByte 9
  targetId := .ofByte 3
  probeType := .dns
  intervalSeconds := 30
  timeoutSeconds := 5
  configuration := configuration

def ownTarget : TargetRow where
  id := .ofByte 3
  realmId := .ofByte 9
  address := "192.0.2.1"

def namedDns (name : String) : TypedProbeConfiguration := .dns { queryName := some name }

theorem normalization_stable_sample :
    serializeDocument asciiText .dns (namedDns "router.example").modelDump (some 5) =
      .ok (namedDns "router.example").modelDump ∧ ∀ order, resubmit ⟨asciiText, exactColumn, order⟩
        (ownMonitor (namedDns "router.example").modelDump) ownTarget =
      .ok (ownMonitor (namedDns "router.example").modelDump, .done) := by
  have hstable : Stable asciiText (namedDns " Router.Example. ") (some 5) := by
    rintro _ ⟨⟩
    decide
  obtain ⟨hdocument, hmonitor⟩ := normalization_stable_iff asciiText asciiText_lawful
    (namedDns " Router.Example. ") trivial (some 5) (namedDns "router.example").modelDump rfl
  refine ⟨hdocument.mpr hstable, fun order => ?_⟩
  refine (hmonitor exactColumn order _ ownTarget rfl ?_).mpr hstable
  exact ⟨rfl, (Json.mapNum_id _).symm, rfl, rfl, rfl, rfl, rfl, rfl⟩

/-- The default packet timeout for two minutes is refused when it is submitted again. A space
before the full stop is stored by the first call and taken off by the second, and so the
monitor gets a new revision. -/
theorem normalization_unstable :
    (∃ dump, serializeProbeConfiguration asciiText (.icmp {}) (some 120) = .ok dump ∧
      serializeDocument asciiText .icmp dump (some 120) = .error (.field "per_packet_timeout_ms")) ∧
    (serializeProbeConfiguration asciiText (namedDns "a .") (some 5) =
        .ok (namedDns "a ").modelDump ∧
      serializeDocument asciiText .dns (namedDns "a ").modelDump (some 5) =
        .ok (namedDns "a").modelDump) ∧ ∀ order, ∃ row, resubmit ⟨asciiText, exactColumn, order⟩
        (ownMonitor (namedDns "a ").modelDump) ownTarget =
          .ok (row, .updateSave row) ∧ row.revision = 2 := by
  refine ⟨⟨_, rfl, rfl⟩, ⟨rfl, rfl⟩, fun order => ?_⟩
  have hown : OwnValues exactColumn (namedDns "a ") (namedDns "a ").modelDump
      (ownMonitor (namedDns "a ").modelDump) ownTarget :=
    ⟨rfl, (Json.mapNum_id _).symm, rfl, rfl, rfl, rfl, rfl, rfl⟩
  have hserialize : serializeProbeConfiguration asciiText (namedDns "a ") (some 5) =
      .ok (namedDns "a").modelDump := rfl
  have hdiffer : pyEqual (namedDns "a ").modelDump (namedDns "a").modelDump = false := by
    decide +kernel
  have hparse : parseProbeConfiguration .dns (namedDns "a ").modelDump =
      .ok (namedDns "a ") := parse_modelDump (namedDns "a ")
  refine ⟨counted exactColumn (ownMonitor (namedDns "a ").modelDump)
    (namedDns "a").modelDump, ?_, rfl⟩
  rw [resubmit_eq hown hparse rfl]
  simp only [ownMonitor, hserialize, hdiffer, Bool.false_eq_true, if_false]

end Bifrostnms.Proofs
