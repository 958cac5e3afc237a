import Bifrostnms.Backend.ProbeConfiguration
import Bifrostnms.Lib.Checks

/-!
# What the configuration schemas accept

For each schema the checks of its validators are the fields of a structure, and
validation succeeds exactly if they hold. It returns ICMP, HTTP and TCP configurations
as they are, and DNS and TLS configurations with normalized names and codes.

What `serialize_probe_configuration` returns is the dump of a configuration
(`serialize_eq_ok`): of the validated one, or for ICMP of the one with a packet timeout.
-/

namespace Bifrostnms.Proofs

open Bifrostnms.Lib Bifrostnms.Backend

/-! ## Checks -/

section Checks

variable {e : ConfigurationError} {name : String} {b : Bool} {u : Unit}

theorem require_eq_ok : require e b = .ok u ↔ b = true := by
  cases b <;> simp [require]

theorem between_eq_ok {low high n : ℤ} : between name low high n = .ok u ↔ low ≤ n ∧ n ≤ high := by
  rw [between, require_eq_ok, decide_eq_true_iff]

theorem lengthBetween_eq_ok {low high n : ℕ} :
    lengthBetween name low high n = .ok u ↔ low ≤ n ∧ n ≤ high := by
  rw [lengthBetween, require_eq_ok, decide_eq_true_iff]

end Checks

/-! ## ICMP -/

structure ValidIcmp (c : IcmpProbeConfiguration) : Prop where
  packetCount : 1 ≤ c.packetCount ∧ c.packetCount ≤ 100
  packetIntervalMs : 10 ≤ c.packetIntervalMs ∧ c.packetIntervalMs ≤ 1000
  perPacketTimeoutMs : ∀ ms ∈ c.perPacketTimeoutMs, 1 ≤ ms ∧ ms ≤ 60000
  payloadSizeBytes : 0 ≤ c.payloadSizeBytes ∧ c.payloadSizeBytes ≤ 1400
  maximumPacketLossPercent : ∀ x ∈ c.maximumPacketLossPercent, 0 ≤ x.value ∧ x.value ≤ 100
  maximumAverageRttMs : ∀ x ∈ c.maximumAverageRttMs, 0 ≤ x.value

theorem validateIcmp_eq_ok {c c' : IcmpProbeConfiguration} :
    c.validate = .ok c' ↔ ValidIcmp c ∧ c = c' := by
  simp only [IcmpProbeConfiguration.validate, bind_eq_ok, require_eq_ok, between_eq_ok,
    optionForM_eq_ok, exists_const, decide_eq_true_eq, pure, Except.pure, Except.ok.injEq]
  constructor
  · rintro ⟨h1, h2, h3, h4, h5, h6, rfl⟩
    exact ⟨⟨h1, h2, h3, h4, h5, h6⟩, rfl⟩
  · rintro ⟨⟨h1, h2, h3, h4, h5, h6⟩, rfl⟩
    exact ⟨h1, h2, h3, h4, h5, h6, rfl⟩

/-- The time that is left for the last packet. -/
def availableMs (c : IcmpProbeConfiguration) (timeoutSeconds : ℤ) : ℤ :=
  timeoutSeconds * 1000 - (c.packetCount - 1) * c.packetIntervalMs

/-- The packet timeout that is stored. -/
def packetTimeoutMs (c : IcmpProbeConfiguration) (timeoutSeconds : ℤ) : ℤ :=
  c.perPacketTimeoutMs.getD (availableMs c timeoutSeconds)

theorem materialize_eq_ok {c c' : IcmpProbeConfiguration} {seconds : ℤ} :
    c.materialize seconds = .ok c' ↔
      (1 ≤ availableMs c seconds ∧ packetTimeoutMs c seconds ≤ availableMs c seconds) ∧
        { c with perPacketTimeoutMs := some (packetTimeoutMs c seconds) } = c' := by
  simp only [IcmpProbeConfiguration.materialize, bind_eq_ok, require_eq_ok, exists_const,
    pure, Except.pure, Except.ok.injEq, Bool.not_eq_true', Bool.or_eq_false_iff,
    decide_eq_false_iff_not, not_lt, gt_iff_lt]
  exact Iff.rfl

/-! ## HTTP -/

structure ValidHeaderAssertion (a : HttpHeaderAssertion) : Prop where
  name_length : 1 ≤ a.name.length ∧ a.name.length ≤ 128
  name : headerName a.name = true
  value_length : a.value.length ≤ 1024
  value : hasControlCharacter a.value = false

structure ValidRequestHeader (header : String × String) : Prop where
  name_length : 1 ≤ header.1.length ∧ header.1.length ≤ 128
  value_length : header.2.length ≤ 1024
  name : headerName header.1 = true
  permitted : forbiddenHeaders.contains
    (String.ofList (header.1.toList.map Char.toLower)) = false
  value : hasControlCharacter header.2 = false

structure ValidHttp (c : HttpProbeConfiguration) : Prop where
  port : ∀ port ∈ c.port, 1 ≤ port ∧ port ≤ 65535
  path_length : 1 ≤ c.path.length ∧ c.path.length ≤ 2048
  path_head : c.path.toList.head? = some '/'
  path : hasControlCharacter c.path = false
  maximumRedirects : 0 ≤ c.maximumRedirects ∧ c.maximumRedirects ≤ 10
  hostHeader : ∀ value ∈ c.hostHeader, (1 ≤ value.length ∧ value.length ≤ 253) ∧
    hostnameLabels (rstripDots value.toList) = true
  requestHeaders : ∀ header ∈ c.requestHeaders, ValidRequestHeader header
  requestHeaders_length : c.requestHeaders.length ≤ 32
  expectedStatusCodes_length : 1 ≤ c.expectedStatusCodes.length ∧ c.expectedStatusCodes.length ≤ 200
  expectedStatusCodes : ∀ code ∈ c.expectedStatusCodes, 100 ≤ code ∧ code ≤ 599
  expectedStatusCodes_nodup : c.expectedStatusCodes.Nodup
  expectedHeaderValues : ∀ a ∈ c.expectedHeaderValues, ValidHeaderAssertion a
  expectedHeaderValues_length : c.expectedHeaderValues.length ≤ 32
  expectedBodyContains : ∀ value ∈ c.expectedBodyContains,
    (1 ≤ value.length ∧ value.length ≤ 1024) ∧ hasControlCharacter value = false
  expectedBodyContains_length : c.expectedBodyContains.length ≤ 16
  maximumResponseBytes : 1 ≤ c.maximumResponseBytes ∧ c.maximumResponseBytes ≤ 4194304

theorem validateHeaderAssertion_eq_ok {a : HttpHeaderAssertion} {u : Unit} :
    a.validate = .ok u ↔ ValidHeaderAssertion a := by
  simp only [HttpHeaderAssertion.validate, bind_eq_ok, require_eq_ok, lengthBetween_eq_ok,
    exists_const, Nat.zero_le, true_and, Bool.not_eq_true']
  constructor
  · rintro ⟨h1, h2, h3, h4⟩
    exact ⟨h1, h2, h3, h4⟩
  · rintro ⟨h1, h2, h3, h4⟩
    exact ⟨h1, h2, h3, h4⟩

theorem validateHttp_eq_ok {c c' : HttpProbeConfiguration} :
    c.validate = .ok c' ↔ ValidHttp c ∧ c = c' := by
  simp only [HttpProbeConfiguration.validate, validateRequestHeader, bind_eq_ok,
    require_eq_ok, between_eq_ok, lengthBetween_eq_ok, optionForM_eq_ok, forM_eq_ok,
    validateHeaderAssertion_eq_ok, exists_const, Nat.zero_le, true_and,
    Bool.not_eq_true', beq_iff_eq, List.all_eq_true, List.any_eq_false,
    decide_eq_true_eq, Bool.not_eq_true, pure, Except.pure, Except.ok.injEq]
  constructor
  · rintro ⟨h1, h2, h3, h4, h5, h6, h7, h8, h9, h10, h11, h12, h13, h14, h15, h16, h17, h18, rfl⟩
    exact ⟨{
      port := h1, path_length := h2, path_head := h3, path := h4, maximumRedirects := h5
      hostHeader := h6
      requestHeaders := fun header hm =>
        ⟨(h7 header hm).1, (h7 header hm).2, (h9 header hm).1, (h9 header hm).2.1,
          (h9 header hm).2.2⟩
      requestHeaders_length := h8, expectedStatusCodes_length := h10
      expectedStatusCodes := h11, expectedStatusCodes_nodup := h12
      expectedHeaderValues := h13, expectedHeaderValues_length := h14
      expectedBodyContains := fun value hm => ⟨h15 value hm, h17 value hm⟩
      expectedBodyContains_length := h16, maximumResponseBytes := h18 }, rfl⟩
  · rintro ⟨h, rfl⟩
    exact ⟨h.port, h.path_length, h.path_head, h.path, h.maximumRedirects, h.hostHeader,
      fun header hm => ⟨(h.requestHeaders header hm).1, (h.requestHeaders header hm).2⟩,
      h.requestHeaders_length,
      fun header hm => ⟨(h.requestHeaders header hm).3, (h.requestHeaders header hm).4,
        (h.requestHeaders header hm).5⟩,
      h.expectedStatusCodes_length, h.expectedStatusCodes, h.expectedStatusCodes_nodup,
      h.expectedHeaderValues, h.expectedHeaderValues_length,
      fun value hm => (h.expectedBodyContains value hm).1, h.expectedBodyContains_length,
      fun value hm => (h.expectedBodyContains value hm).2, h.maximumResponseBytes, rfl⟩

/-! ## TCP -/

theorem validateTcp_eq_ok {c c' : TcpProbeConfiguration} :
    c.validate = .ok c' ↔ (1 ≤ c.port ∧ c.port ≤ 65535) ∧ c = c' := by
  simp only [TcpProbeConfiguration.validate, bind_eq_ok, between_eq_ok, exists_const, pure,
    Except.pure, Except.ok.injEq]

/-! ## DNS -/

section Names

variable (txt : PyText)

/-- `value.strip().rstrip(".").lower()`. -/
def normalizedName (value : String) : String :=
  txt.lower (String.ofList (rstripDots (txt.strip value).toList))

/-- `code.strip().upper()`. -/
def normalizedCode (code : String) : String := txt.upper (txt.strip code)

variable {txt}

theorem normalizeQueryName_eq_ok {value name : String} : normalizeQueryName txt value = .ok name ↔
      (normalizedName txt value ≠ "" ∧ hasControlCharacter (normalizedName txt value) = false) ∧
        normalizedName txt value = name := by
  simp only [normalizeQueryName, bind_eq_ok, require_eq_ok, exists_const, pure, Except.pure,
    Except.ok.injEq, Bool.and_eq_true, Bool.not_eq_true', List.isEmpty_eq_false_iff]
  rw [← normalizedName, ne_eq, ne_eq, String.toList_eq_nil_iff]

theorem normalizeServerName_eq_ok {value name : String} : normalizeServerName txt value = .ok name ↔
      (txt.ipAddress (normalizedName txt value) = false ∧
        hostnameLabels (normalizedName txt value).toList = true) ∧
        normalizedName txt value = name := by
  simp only [normalizeServerName, bind_eq_ok, require_eq_ok, exists_const, pure,
    Except.pure, Except.ok.injEq, Bool.not_eq_true', ← and_assoc]
  exact Iff.rfl

end Names

structure ValidDns (txt : PyText) (c : DnsProbeConfiguration) : Prop where
  resolverAddress_length : ∀ value ∈ c.resolverAddress, 2 ≤ value.length ∧ value.length ≤ 45
  resolverAddress : validateResolverAddress txt c.resolverMode c.resolverAddress = .ok ()
  resolverPort : 1 ≤ c.resolverPort ∧ c.resolverPort ≤ 65535
  transport : c.resolverMode = .explicit ∨ c.transport = .udpWithTcpFallback
  queryName_length : ∀ value ∈ c.queryName, 1 ≤ value.length ∧ value.length ≤ 253
  queryName : ∀ value ∈ c.queryName, normalizedName txt value ≠ "" ∧
    hasControlCharacter (normalizedName txt value) = false
  expectedResponseCodes_length :
    1 ≤ c.expectedResponseCodes.length ∧ c.expectedResponseCodes.length ≤ 16
  expectedResponseCodes :
    ∀ code ∈ c.expectedResponseCodes, normalizedCode txt code ∈ allowedResponseCodes
  expectedResponseCodes_nodup : (c.expectedResponseCodes.map (normalizedCode txt)).Nodup
  expectedAnswers : ∀ value ∈ c.expectedAnswers,
    (1 ≤ value.length ∧ value.length ≤ 1024) ∧ hasControlCharacter value = false
  expectedAnswers_length : c.expectedAnswers.length ≤ 32

/-- The configuration with its normalized name and codes. -/
def normalizedDns (txt : PyText) (c : DnsProbeConfiguration) : DnsProbeConfiguration :=
  { c with
    queryName := c.queryName.map (normalizedName txt)
    expectedResponseCodes := c.expectedResponseCodes.map (normalizedCode txt) }

/-- A normalizer of an optional field. -/
theorem optionMapM_normalize {f : String → Except ConfigurationError String}
    {g : String → String} {P : String → Prop} {o r : Option String}
    (h : ∀ value name, f value = .ok name ↔ P value ∧ g value = name) :
    o.mapM f = .ok r ↔ (∀ value ∈ o, P value) ∧ o.map g = r := by
  rw [optionMapM_eq_ok]
  cases o <;> cases r <;> simp [h]

theorem validateDns_eq_ok {txt : PyText} {c c' : DnsProbeConfiguration} :
    c.validate txt = .ok c' ↔ ValidDns txt c ∧ normalizedDns txt c = c' := by
  simp only [DnsProbeConfiguration.validate, bind_eq_ok, require_eq_ok, between_eq_ok,
    lengthBetween_eq_ok, optionForM_eq_ok, forM_eq_ok,
    optionMapM_normalize fun _ _ => normalizeQueryName_eq_ok, exists_const, Nat.zero_le,
    true_and, Bool.not_eq_true', beq_iff_eq, Bool.or_eq_true, List.all_eq_true,
    List.forall_mem_map, List.contains_iff_mem, decide_eq_true_eq, pure, Except.pure,
    Except.ok.injEq]
  constructor
  · rintro ⟨h1, _, h2, h3, h4, h5, name, ⟨h6, rfl⟩, h7, h8, h9, h10, h11, rfl⟩
    exact ⟨⟨h1, h2, h3, h4, h5, h6, h7, h8, h9, h10, h11⟩, rfl⟩
  · rintro ⟨⟨h1, h2, h3, h4, h5, h6, h7, h8, h9, h10, h11⟩, rfl⟩
    exact ⟨h1, (), h2, h3, h4, h5, _, ⟨h6, rfl⟩, h7, h8, h9, h10, h11, rfl⟩

/-! ## TLS -/

structure ValidTls (txt : PyText) (c : TlsProbeConfiguration) : Prop where
  port : 1 ≤ c.port ∧ c.port ≤ 65535
  serverName_length : ∀ value ∈ c.serverName, 1 ≤ value.length ∧ value.length ≤ 253
  serverName : ∀ value ∈ c.serverName, txt.ipAddress (normalizedName txt value) = false ∧
      hostnameLabels (normalizedName txt value).toList = true
  expiryWarningDays : 0 ≤ c.expiryWarningDays ∧ c.expiryWarningDays ≤ 3650

/-- The configuration with its normalized name. -/
def normalizedTls (txt : PyText) (c : TlsProbeConfiguration) : TlsProbeConfiguration :=
  { c with serverName := c.serverName.map (normalizedName txt) }

theorem validateTls_eq_ok {txt : PyText} {c c' : TlsProbeConfiguration} :
    c.validate txt = .ok c' ↔ ValidTls txt c ∧ normalizedTls txt c = c' := by
  simp only [TlsProbeConfiguration.validate, bind_eq_ok, between_eq_ok,
    lengthBetween_eq_ok, optionForM_eq_ok,
    optionMapM_normalize fun _ _ => normalizeServerName_eq_ok, exists_const, pure,
    Except.pure, Except.ok.injEq]
  constructor
  · rintro ⟨h1, h2, name, ⟨h3, rfl⟩, h4, rfl⟩
    exact ⟨⟨h1, h2, h3, h4⟩, rfl⟩
  · rintro ⟨⟨h1, h2, h3, h4⟩, rfl⟩
    exact ⟨h1, h2, _, ⟨h3, rfl⟩, h4, rfl⟩

/-! ## Serialization -/

/-- The end of `serialize_probe_configuration`, before the dump. -/
def withPacketTimeout : TypedProbeConfiguration → Option ℤ →
    Except ConfigurationError TypedProbeConfiguration
  | .icmp c, some seconds => (c.materialize seconds).map .icmp
  | c, _ => .ok c

/-- The configuration that `serialize_probe_configuration` dumps. -/
def normalizeProbeConfiguration (txt : PyText) (c : TypedProbeConfiguration)
    (timeoutSeconds : Option ℤ) : Except ConfigurationError TypedProbeConfiguration := do
  withPacketTimeout (← validateProbeConfiguration txt c) timeoutSeconds

section Serialization

variable {txt : PyText} {timeout : Option ℤ} {c' : TypedProbeConfiguration}

theorem serialize_eq_ok {c : TypedProbeConfiguration} {dump : Json JsonNum} :
    serializeProbeConfiguration txt c timeout = .ok dump ↔
      ∃ c', normalizeProbeConfiguration txt c timeout = .ok c' ∧ c'.modelDump = dump := by
  have h : serializeProbeConfiguration txt c timeout =
      (normalizeProbeConfiguration txt c timeout).map TypedProbeConfiguration.modelDump := by
    unfold serializeProbeConfiguration normalizeProbeConfiguration
    cases validateProbeConfiguration txt c with
    | error e => rfl
    | ok validated =>
      cases validated with
      | icmp c =>
        cases timeout with
        | none => rfl
        | some seconds =>
          show (c.materialize seconds >>= _) = ((c.materialize seconds).map _).map _
          cases c.materialize seconds <;> rfl
      | http | tcp | dns | tls => rfl
  rw [h, map_eq_ok]

theorem normalize_eq_ok {c : TypedProbeConfiguration} :
    normalizeProbeConfiguration txt c timeout = .ok c' ↔
      ∃ validated, validateProbeConfiguration txt c = .ok validated ∧
        withPacketTimeout validated timeout = .ok c' := bind_eq_ok

theorem normalizeIcmp_eq_ok {c : IcmpProbeConfiguration} {seconds : ℤ} :
    normalizeProbeConfiguration txt (.icmp c) (some seconds) = .ok c' ↔
      (ValidIcmp c ∧ 1 ≤ availableMs c seconds ∧
        packetTimeoutMs c seconds ≤ availableMs c seconds) ∧
        .icmp { c with perPacketTimeoutMs := some (packetTimeoutMs c seconds) } = c' := by
  simp [normalize_eq_ok, validateProbeConfiguration, bind_eq_ok, validateIcmp_eq_ok,
    withPacketTimeout, map_eq_ok, materialize_eq_ok, pure, Except.pure, and_assoc]

theorem normalizeIcmp_none_eq_ok {c : IcmpProbeConfiguration} :
    normalizeProbeConfiguration txt (.icmp c) none = .ok c' ↔ ValidIcmp c ∧ .icmp c = c' := by
  simp [normalize_eq_ok, validateProbeConfiguration, bind_eq_ok, validateIcmp_eq_ok,
    withPacketTimeout, pure, Except.pure, and_assoc]

theorem normalizeHttp_eq_ok {c : HttpProbeConfiguration} :
    normalizeProbeConfiguration txt (.http c) timeout = .ok c' ↔
      (ValidHttp c ∧ (c.method = .head → c.expectedBodyContains = [])) ∧ .http c = c' := by
  simp [normalize_eq_ok, validateProbeConfiguration, bind_eq_ok, validateHttp_eq_ok,
    require_eq_ok, withPacketTimeout, pure, Except.pure, and_assoc]
  exact fun _ _ => imp_iff_not_or.symm

theorem normalizeTcp_eq_ok {c : TcpProbeConfiguration} :
    normalizeProbeConfiguration txt (.tcp c) timeout = .ok c' ↔
      (1 ≤ c.port ∧ c.port ≤ 65535) ∧ .tcp c = c' := by
  simp [normalize_eq_ok, validateProbeConfiguration, bind_eq_ok, validateTcp_eq_ok,
    withPacketTimeout, pure, Except.pure, and_assoc]

theorem normalizeDns_eq_ok {c : DnsProbeConfiguration} :
    normalizeProbeConfiguration txt (.dns c) timeout = .ok c' ↔
      ValidDns txt c ∧ .dns (normalizedDns txt c) = c' := by
  simp [normalize_eq_ok, validateProbeConfiguration, bind_eq_ok, validateDns_eq_ok,
    withPacketTimeout, pure, Except.pure, and_assoc]

theorem normalizeTls_eq_ok {c : TlsProbeConfiguration} :
    normalizeProbeConfiguration txt (.tls c) timeout = .ok c' ↔
      ValidTls txt c ∧ .tls (normalizedTls txt c) = c' := by
  simp [normalize_eq_ok, validateProbeConfiguration, bind_eq_ok, validateTls_eq_ok,
    withPacketTimeout, pure, Except.pure, and_assoc]

end Serialization

end Bifrostnms.Proofs
