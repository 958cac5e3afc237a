import Bifrostnms.Agent.DecodeConfiguration
import Bifrostnms.Proofs.ProbeConfiguration

/-!
# What the agent reads of a stored configuration

The server's dump has one member for each field of the agent's struct, in the same
order and of the types that the decoder expects. So strict decoding succeeds and the
struct holds the values that the server dumped, with `null` as no value.
-/

namespace Bifrostnms.Proofs

open Bifrostnms.Lib Bifrostnms.Lib.GoJson Bifrostnms.Backend Bifrostnms.Agent

/-- Strict decoding succeeds, and so do the checks of the probe. -/
theorem decodeStrict_eq_ok {ρ γ : Type} {fields : List (StructField ρ)} {initial : ρ}
    {check : ρ → Except String γ} {document : Json JsonNum} {c : γ} :
    decodeStrict fields initial check document = .ok c ↔
      ∃ raw, decodeStruct fields document initial = some raw ∧ check raw = .ok c := by
  unfold decodeStrict
  cases decodeStruct fields document initial with
  | none => simp
  | some raw =>
    simp only [Option.some.injEq, exists_eq_left']
    cases check raw <;> simp [Except.mapError]

/-! ## Values -/

/-- A number that an `int` of 64 bits holds. -/
def IsInt (n : ℤ) : Prop := -2 ^ 63 ≤ n ∧ n ≤ 2 ^ 63 - 1

instance (n : ℤ) : Decidable (IsInt n) :=
  inferInstanceAs (Decidable (-2 ^ 63 ≤ n ∧ n ≤ 2 ^ 63 - 1))

section Values

theorem isInt_of_between {low high n : ℤ} (h : low ≤ n ∧ n ≤ high) (hlow : IsInt low)
    (hhigh : IsInt high) : IsInt n := ⟨hlow.1.trans h.1, h.2.trans hhigh.2⟩

theorem decodeInt_jsonInt {n : ℤ} (h : IsInt n) (old : ℤ) :
    decodeInt (jsonInt n) old = some n := decodeInt_int old h

theorem decodePointer_jsonOption {α : Type} {decode : Decoder α} {zero : α}
    {encode : α → Json JsonNum} {o : Option α}
    (h : ∀ a ∈ o, decodePointer decode zero (encode a) none = some (some a)) :
    decodePointer decode zero (jsonOption encode o) none = some o := by
  cases o with
  | none => rfl
  | some a => exact h a rfl

theorem decodePointer_string (o : Option String) :
    decodePointer decodeString "" (jsonOption .str o) none = some o :=
  decodePointer_jsonOption fun _ _ => rfl

theorem decodePointer_float64 (o : Option Decimal) :
    decodePointer decodeFloat64 (JsonText.decimalOfInt 0)
      (jsonOption (fun x => .num (.float x)) o) none = some o :=
  decodePointer_jsonOption fun _ _ => rfl

theorem decodePointer_int {o : Option ℤ} (h : ∀ n ∈ o, IsInt n) :
    decodePointer decodeInt 0 (jsonOption jsonInt o) none = some o := by
  refine decodePointer_jsonOption fun n hn => ?_
  show (decodeInt (jsonInt n) 0).map some = _
  rw [decodeInt_jsonInt (h n hn), Option.map_some]

theorem decodeSlice_string (values old : List String) :
    decodeSlice decodeString "" (.arr (values.map .str)) old = some values := by
  rw [decodeSlice_map old fun s _ => decodeString_str s "", List.map_id']

theorem decodeSlice_int {values : List ℤ} (h : ∀ n ∈ values, IsInt n) (old : List ℤ) :
    decodeSlice decodeInt 0 (.arr (values.map jsonInt)) old = some values := by
  rw [decodeSlice_map old fun n hn => decodeInt_jsonInt (h n hn) 0, List.map_id']

end Values

/-! ## ICMP -/

/-- The struct the ICMP probe decodes. A packet timeout that is not set is zero. -/
def icmpStruct (c : IcmpProbeConfiguration) : RawIcmpConfiguration where
  schemaVersion := 1
  packetCount := c.packetCount
  packetIntervalMs := c.packetIntervalMs
  perPacketTimeoutMs := c.perPacketTimeoutMs.getD 0
  payloadSizeBytes := c.payloadSizeBytes
  addressFamily := c.addressFamily.text
  maximumPacketLoss := c.maximumPacketLossPercent
  maximumAverageRttMs := c.maximumAverageRttMs

theorem decodeStruct_icmp {c : IcmpProbeConfiguration} (hvalid : ValidIcmp c) {ms : ℤ}
    (htimeout : IsInt ms) : decodeStruct RawIcmpConfiguration.fields
      (TypedProbeConfiguration.icmp { c with perPacketTimeoutMs := some ms }).modelDump {} =
      some (icmpStruct { c with perPacketTimeoutMs := some ms }) := by
  have hcount := isInt_of_between hvalid.packetCount (by decide) (by decide)
  have hinterval := isInt_of_between hvalid.packetIntervalMs (by decide) (by decide)
  have hpayload := isInt_of_between hvalid.payloadSizeBytes (by decide) (by decide)
  refine Eq.trans (decodeStruct_inOrder
    [jsonInt 1, jsonInt c.packetCount, jsonInt c.packetIntervalMs, jsonInt ms,
      jsonInt c.payloadSizeBytes, .str c.addressFamily.text,
      jsonOption (fun x => .num (.float x)) c.maximumPacketLossPercent,
      jsonOption (fun x => .num (.float x)) c.maximumAverageRttMs] (by decide) rfl) ?_
  refine decodeFields_of (decodeInt_jsonInt (n := 1) (by decide) _) ?_
  refine decodeFields_of (decodeInt_jsonInt hcount _) ?_
  refine decodeFields_of (decodeInt_jsonInt hinterval _) ?_
  refine decodeFields_of (decodeInt_jsonInt htimeout _) ?_
  refine decodeFields_of (decodeInt_jsonInt hpayload _) ?_
  refine decodeFields_of (decodeString_str _ _) ?_
  refine decodeFields_of (decodePointer_float64 _) ?_
  refine decodeFields_of (decodePointer_float64 _) ?_
  rfl

/-- A packet timeout that no `int` holds is an error of the decoder. -/
theorem decodeStruct_icmp_none {c : IcmpProbeConfiguration} (hvalid : ValidIcmp c) {ms : ℤ}
    (htimeout : ¬ IsInt ms) : decodeStruct RawIcmpConfiguration.fields
      (TypedProbeConfiguration.icmp { c with perPacketTimeoutMs := some ms }).modelDump {} =
      none := by
  have hcount := isInt_of_between hvalid.packetCount (by decide) (by decide)
  have hinterval := isInt_of_between hvalid.packetIntervalMs (by decide) (by decide)
  have hone : IsInt 1 := by decide
  have hnone : decodeInt (jsonInt ms) 0 = none := if_neg htimeout
  refine Eq.trans (decodeStruct_inOrder
    [jsonInt 1, jsonInt c.packetCount, jsonInt c.packetIntervalMs, jsonInt ms,
      jsonInt c.payloadSizeBytes, .str c.addressFamily.text,
      jsonOption (fun x => .num (.float x)) c.maximumPacketLossPercent,
      jsonOption (fun x => .num (.float x)) c.maximumAverageRttMs] (by decide) rfl) ?_
  simp only [RawIcmpConfiguration.fields, List.zip_cons_cons, decodeFields, StructField.of,
    decodeInt_jsonInt hone, decodeInt_jsonInt hcount, decodeInt_jsonInt hinterval, hnone,
    Option.map_some, Option.bind_some, Option.map_none, Option.bind_none]

/-! ## HTTP -/

def httpStruct (c : HttpProbeConfiguration) : Http.RawConfiguration where
  schemaVersion := 1
  scheme := c.scheme.text
  port := c.port
  path := c.path
  method := c.method.text
  followRedirects := c.followRedirects
  maximumRedirects := c.maximumRedirects
  hostHeader := c.hostHeader
  requestHeaders := c.requestHeaders
  expectedStatusCodes := c.expectedStatusCodes
  expectedHeaderValues := c.expectedHeaderValues.map fun a => ⟨a.name, a.value⟩
  expectedBodyContains := c.expectedBodyContains
  maximumResponseBytes := c.maximumResponseBytes
  addressFamily := c.addressFamily.text

theorem decodeStruct_headerAssertion (a : HttpHeaderAssertion) :
    decodeStruct Http.headerAssertionFields
      (.obj [("name", .str a.name), ("value", .str a.value)]) ⟨"", ""⟩ =
      some ⟨a.name, a.value⟩ := by
  refine Eq.trans (decodeStruct_inOrder [.str a.name, .str a.value] (by decide) rfl) ?_
  rfl

/-- The keys of a Python dictionary are different. -/
theorem decodeStruct_http {c : HttpProbeConfiguration} (hvalid : ValidHttp c)
    (hkeys : (c.requestHeaders.map Prod.fst).Nodup) :
    decodeStruct Http.fields (TypedProbeConfiguration.http c).modelDump
      { schemaVersion := 0 } = some (httpStruct c) := by
  have hport : ∀ port ∈ c.port, IsInt port := fun port hm =>
    isInt_of_between (hvalid.port port hm) (by decide) (by decide)
  have hredirects := isInt_of_between hvalid.maximumRedirects (by decide) (by decide)
  have hcodes : ∀ code ∈ c.expectedStatusCodes, IsInt code := fun code hm =>
    isInt_of_between (hvalid.expectedStatusCodes code hm) (by decide) (by decide)
  have hbytes := isInt_of_between hvalid.maximumResponseBytes (by decide) (by decide)
  refine Eq.trans (decodeStruct_inOrder
    [jsonInt 1, .str c.scheme.text, jsonOption jsonInt c.port, .str c.path,
      .str c.method.text, .bool c.followRedirects, jsonInt c.maximumRedirects,
      jsonOption .str c.hostHeader, .obj (c.requestHeaders.map fun h => (h.1, .str h.2)),
      .arr (c.expectedStatusCodes.map jsonInt), .arr (c.expectedHeaderValues.map fun a =>
        .obj [("name", .str a.name), ("value", .str a.value)]),
      .arr (c.expectedBodyContains.map .str), jsonInt c.maximumResponseBytes,
      .str c.addressFamily.text] (by decide) rfl) ?_
  refine decodeFields_of (a := 1) rfl ?_
  refine decodeFields_of (decodeString_str _ _) ?_
  refine decodeFields_of (decodePointer_int hport) ?_
  refine decodeFields_of (decodeString_str _ _) ?_
  refine decodeFields_of (decodeString_str _ _) ?_
  refine decodeFields_of (decodeBool_bool _ _) ?_
  refine decodeFields_of (decodeInt_jsonInt hredirects _) ?_
  refine decodeFields_of (decodePointer_string _) ?_
  refine decodeFields_of (decodeMap_members decodeString_str hkeys) ?_
  refine decodeFields_of (decodeSlice_int hcodes _) ?_
  refine decodeFields_of
    (decodeSlice_map _ fun a _ => decodeStruct_headerAssertion a) ?_
  refine decodeFields_of (decodeSlice_string _ _) ?_
  refine decodeFields_of (decodeInt_jsonInt hbytes _) ?_
  refine decodeFields_of (decodeString_str _ _) ?_
  rfl

/-! ## DNS -/

def dnsStruct (c : DnsProbeConfiguration) : Dns.RawConfiguration where
  schemaVersion := 1
  resolverMode := c.resolverMode.text
  resolverAddress := c.resolverAddress
  resolverPort := c.resolverPort
  transport := c.transport.text
  queryName := c.queryName
  queryType := c.queryType.text
  recursionDesired := c.recursionDesired
  expectedResponseCodes := c.expectedResponseCodes
  expectedAnswers := c.expectedAnswers

theorem decodeStruct_dns {c : DnsProbeConfiguration} (hport : IsInt c.resolverPort) :
    decodeStruct Dns.fields (TypedProbeConfiguration.dns c).modelDump
      { schemaVersion := 0, queryType := "" } = some (dnsStruct c) := by
  have hanswers : decodeSlice (decodeStruct Dns.answerAssertionFields) ""
      (.arr (c.expectedAnswers.map fun value => .obj [("value", .str value)])) [] =
      some c.expectedAnswers := by
    rw [decodeSlice_map [] fun value _ => rfl, List.map_id']
  refine Eq.trans (decodeStruct_inOrder
    [jsonInt 1, .str c.resolverMode.text, jsonOption .str c.resolverAddress,
      jsonInt c.resolverPort, .str c.transport.text, jsonOption .str c.queryName,
      .str c.queryType.text, .bool c.recursionDesired, .arr (c.expectedResponseCodes.map .str),
      .arr (c.expectedAnswers.map fun value => .obj [("value", .str value)])]
    (by decide) rfl) ?_
  refine decodeFields_of (a := 1) rfl ?_
  refine decodeFields_of (decodeString_str _ _) ?_
  refine decodeFields_of (decodePointer_string _) ?_
  refine decodeFields_of (decodeInt_jsonInt hport _) ?_
  refine decodeFields_of (decodeString_str _ _) ?_
  refine decodeFields_of (decodePointer_string _) ?_
  refine decodeFields_of (decodeString_str _ _) ?_
  refine decodeFields_of (decodeBool_bool _ _) ?_
  refine decodeFields_of (decodeSlice_string _ _) ?_
  refine decodeFields_of hanswers ?_
  rfl

/-! ## TLS -/

def tlsStruct (c : TlsProbeConfiguration) : Tls.RawConfiguration where
  schemaVersion := 1
  port := c.port
  serverName := c.serverName
  addressFamily := c.addressFamily.text
  minimumTlsVersion := c.minimumTlsVersion.text
  expiryWarningDays := c.expiryWarningDays

theorem decodeStruct_tls {c : TlsProbeConfiguration} (hport : IsInt c.port)
    (hdays : IsInt c.expiryWarningDays) :
    decodeStruct Tls.fields (TypedProbeConfiguration.tls c).modelDump
      { schemaVersion := 0 } = some (tlsStruct c) := by
  refine Eq.trans (decodeStruct_inOrder
    [jsonInt 1, jsonInt c.port, jsonOption .str c.serverName, .str c.addressFamily.text,
      .str c.minimumTlsVersion.text, jsonInt c.expiryWarningDays] (by decide) rfl) ?_
  refine decodeFields_of (a := 1) rfl ?_
  refine decodeFields_of (decodeInt_jsonInt hport _) ?_
  refine decodeFields_of (decodePointer_string _) ?_
  refine decodeFields_of (decodeString_str _ _) ?_
  refine decodeFields_of (decodeString_str _ _) ?_
  refine decodeFields_of (decodeInt_jsonInt hdays _) ?_
  rfl

end Bifrostnms.Proofs
