import Bifrostnms.Proofs.ConfigurationDocument
import Bifrostnms.Proofs.ConfigurationReader
import Bifrostnms.Proofs.IcmpConfiguration
import Bifrostnms.Proofs.NameNormalization

/-!
# DNS and TLS configurations on both sides

The agent normalizes a name that the server has normalized. A TLS server name consists of
labels, so it is ASCII, and nothing is left to trim or to lower: the agent accepts every
TLS configuration of the server and holds the same values (`tls_agrees`).

A DNS query name is any text. It may end with white space, which the agent takes off, and
both it and the expected answers may have more bytes than the agent allows, as the server
counts characters. A resolver's address may be one with a zone, which `net.ParseIP` does not
read. Without those the two sides agree (`dns_agrees_iff`).
-/

namespace Bifrostnms.Proofs

open Bifrostnms.Lib Bifrostnms.Lib.GoJson Bifrostnms.Backend Bifrostnms.Agent

/-! ## TLS -/

section Tls

variable {txt : PyText} (laws : LawfulText txt) (unicode : CaseMapping) {value : String}

theorem isGoSpace_of_hostnameChar {c : Char} (h : hostnameChar c = true) : isGoSpace c = false := by
  refine forall_ascii (P := fun c => hostnameChar c = true → isGoSpace c = false) ?_
    (toNat_lt_of_hostnameChar h) h
  decide

/-- A list of labels does not end with a full stop. -/
theorem getLast?_of_labels {l : List Char} (h : (l.splitOn '.').all validLabel = true) :
    l.getLast? ≠ some '.' := by
  intro hlast
  obtain ⟨m, rfl⟩ := List.getLast?_eq_some_iff.mp hlast
  rw [not_labels_concat] at h
  cases h

include laws

/-- The server's name is a fixed point of the agent's normalization. -/
theorem normalizeName_normalizedName
    (hlabels : hostnameLabels (normalizedName txt value).toList = true) :
    Tls.normalizeName unicode (normalizedName txt value) = (normalizedName txt value).toList := by
  have hchars := hostnameChar_of_labels (hostnameLabels_eq _ ▸ hlabels)
  have hspace : trimSpace (normalizedName txt value).toList = (normalizedName txt value).toList :=
    trim_eq_self fun c hc => isGoSpace_of_hostnameChar (hchars c hc)
  have hdot := getLast?_of_labels (hostnameLabels_eq _ ▸ hlabels)
  rw [Tls.normalizeName, hspace, trimSuffix_eq_self hdot]
  conv_rhs => rw [← List.map_id (normalizedName txt value).toList]
  refine List.map_congr_left fun c hc => ?_
  have hascii := toNat_lt_of_hostnameChar (hchars c hc)
  rw [unicode.lower_ascii c hascii]
  exact toLower_of_mem_normalizedName laws value hc hascii

/-- And it passes the agent's check. -/
theorem validHostname_normalizedName
    (hip : ∀ s, hostnameLabels s.toList = true → parseIp s.toList = true → txt.ipAddress s = true)
    (hlength : value.length ≤ 253) (haddress : txt.ipAddress (normalizedName txt value) = false)
    (hlabels : hostnameLabels (normalizedName txt value).toList = true) :
    Tls.validHostname (normalizedName txt value).toList = true := by
  have hlabels' := hostnameLabels_eq _ ▸ hlabels
  have hascii : ∀ c ∈ (normalizedName txt value).toList, c.toNat < 128 := fun c hc =>
    toNat_lt_of_hostnameChar (hostnameChar_of_labels hlabels' c hc)
  have hne : (normalizedName txt value).toList ≠ [] := by
    intro h
    rw [h] at hlabels
    cases hlabels
  have hbytes : (utf8 (normalizedName txt value).toList).length ≤ 253 := by
    rw [length_utf8_ascii hascii]
    exact (length_normalizedName_le laws value hascii).trans hlength
  have hparse : parseIp (normalizedName txt value).toList = false := by
    rw [Bool.eq_false_iff]
    intro h
    rw [hip _ hlabels h] at haddress
    cases haddress
  simp only [Tls.validHostname, hne, hbytes, hparse, hlabels', ne_eq, not_false_eq_true,
    decide_true, Bool.not_false, Bool.and_self]

end Tls

def tlsVersionOf : TlsVersion → Tls.MinimumTlsVersion
  | .v12 => .tls12
  | .v13 => .tls13

/-- The agent holds the values of the server. -/
structure SameTls (c : TlsProbeConfiguration) (agent : Tls.Configuration) : Prop where
  port : agent.port.val = c.port
  serverName : agent.serverName.map (fun name => String.ofList name.val) = c.serverName
  addressFamily : agent.addressFamily = familyOf c.addressFamily
  minimumTlsVersion : agent.minimumTlsVersion = tlsVersionOf c.minimumTlsVersion
  expiryWarningDays : (agent.expiryWarningDays : ℤ) = c.expiryWarningDays

/-- The agent accepts what the server stored and holds the same values, and the stored name
is one that the agent's normalization leaves alone and its check accepts. -/
theorem tls_agrees (txt : PyText) (laws : LawfulText txt) (unicode : CaseMapping)
    (hip : ∀ s, hostnameLabels s.toList = true → parseIp s.toList = true → txt.ipAddress s = true)
    (c : TlsProbeConfiguration) (timeout : Option ℤ) (dump : Json JsonNum)
    (h : serializeProbeConfiguration txt (.tls c) timeout = .ok dump) :
    ∃ stored agent, dump = (TypedProbeConfiguration.tls stored).modelDump ∧
      Tls.decodeDocument unicode dump = .ok agent ∧ SameTls stored agent ∧
      ∀ name ∈ stored.serverName, Tls.normalizeName unicode name = name.toList ∧
        Tls.validHostname name.toList = true := by
  obtain ⟨c', hnormalize, rfl⟩ := serialize_eq_ok.mp h
  obtain ⟨hvalid, rfl⟩ := normalizeTls_eq_ok.mp hnormalize
  have hnames : ∀ name ∈ (normalizedTls txt c).serverName,
      Tls.normalizeName unicode name = name.toList ∧ Tls.validHostname name.toList = true := by
    intro name hname
    obtain ⟨value, hvalue, rfl⟩ := Option.map_eq_some_iff.mp hname
    obtain ⟨haddress, hlabels⟩ := hvalid.serverName value hvalue
    exact ⟨normalizeName_normalizedName laws unicode hlabels,
      validHostname_normalizedName laws hip (hvalid.serverName_length value hvalue).2
        haddress hlabels⟩
  have hserver : ∃ names, (normalizedTls txt c).serverName.mapM
        (Tls.decodeServerName unicode) = .ok names ∧
      names.map (fun name => String.ofList name.val) = (normalizedTls txt c).serverName := by
    cases hname : (normalizedTls txt c).serverName with
    | none => exact ⟨none, rfl, rfl⟩
    | some name =>
      obtain ⟨hfixed, hcheck⟩ := hnames name hname
      refine ⟨some ⟨name.toList, hcheck⟩, optionMapM_eq_ok.mpr ?_, ?_⟩
      · simp only [Option.map_some, Tls.decodeServerName, hfixed, hcheck, dif_pos]
      · exact congrArg some String.ofList_toList
  obtain ⟨names, hdecode, hsame⟩ := hserver
  have hport : Tls.decodePort c.port = .ok ⟨c.port, hvalid.port⟩ := by
    have hrange := hvalid.port
    have hgiven : c.port ≠ 0 := by omega
    simp only [Tls.decodePort, if_neg hgiven, dif_pos hrange]
  have hfamily : Tls.decodeAddressFamily c.addressFamily.text = .ok (familyOf c.addressFamily) := by
    cases c.addressFamily <;> rfl
  have hversion : Tls.decodeMinimumTlsVersion c.minimumTlsVersion.text =
      .ok (tlsVersionOf c.minimumTlsVersion) := by
    cases c.minimumTlsVersion <;> rfl
  have hdays := hvalid.expiryWarningDays
  refine ⟨normalizedTls txt c, ⟨⟨c.port, hvalid.port⟩, names, familyOf c.addressFamily,
    tlsVersionOf c.minimumTlsVersion, c.expiryWarningDays.toNat⟩, rfl, ?_,
    ⟨rfl, hsame, rfl, rfl, ?_⟩, hnames⟩
  · refine decodeStrict_eq_ok.mpr ⟨tlsStruct (normalizedTls txt c), decodeStruct_tls
      (isInt_of_between hvalid.port (by decide) (by decide))
      (isInt_of_between hdays (by decide) (by decide)), ?_⟩
    unfold Tls.decodeConfiguration
    simp only [↓bind_eq_ok, ↓ite_throw_eq_ok]
    refine ⟨not_not.mpr rfl, _, hport, names, hdecode, _, hfamily, _, hversion, ?_, rfl⟩
    show ¬ (c.expiryWarningDays < 0 ∨ 3650 < c.expiryWarningDays)
    omega
  · show ((c.expiryWarningDays.toNat : ℕ) : ℤ) = c.expiryWarningDays
    omega

theorem tls_agrees_sample : ∃ stored agent,
    (TypedProbeConfiguration.tls { serverName := some "router.example" }).modelDump =
      (TypedProbeConfiguration.tls stored).modelDump ∧
    Tls.decodeDocument asciiMapping (TypedProbeConfiguration.tls
      { serverName := some "router.example" }).modelDump = .ok agent ∧ SameTls stored agent ∧
    ∀ name ∈ stored.serverName, Tls.normalizeName asciiMapping name = name.toList ∧
      Tls.validHostname name.toList = true :=
  tls_agrees asciiText asciiText_lawful asciiMapping (fun _ _ h => h)
    { serverName := some " Router.Example.. " } none _ rfl

/-! ## DNS -/

/-- The name ends with what `TrimSpace` takes off. -/
def endsWithSpace (s : String) : Bool := s.toList.getLast?.any isGoSpace

theorem containsControl_of_server {s : String} (h : hasControlCharacter s = false) :
    Dns.containsControl s.toList = false := by
  rw [hasControlCharacter, List.any_eq_false] at h
  rw [Dns.containsControl, List.any_eq_false]
  intro c hc hcontrol
  refine h c hc ?_
  rw [decide_eq_true_eq] at hcontrol
  rcases hcontrol with rfl | rfl | rfl <;> rfl

/-- The agent leaves a name of the server alone exactly if it does not end with white space
and has at most 253 bytes. -/
theorem decodeQueryName_normalizedName {txt : PyText} (laws : LawfulText txt)
    (unicode : CaseMapping)
    (hcase : ∀ s c, c ∈ (txt.lower s).toList → unicode.lower c = c) {value : String}
    (hne : normalizedName txt value ≠ "")
    (hcontrol : hasControlCharacter (normalizedName txt value) = false) :
    Dns.decodeQueryName unicode (normalizedName txt value) = .ok (normalizedName txt value) ↔
      endsWithSpace (normalizedName txt value) = false ∧
        (utf8 (normalizedName txt value).toList).length ≤ 253 := by
  have hhead : ∀ c, (normalizedName txt value).toList.head? = some c → isGoSpace c = false := by
    intro c hc
    exact isGoSpace_of_isPySpace (head?_normalizedName laws value hc)
  have hdot := getLast?_normalizedName laws value
  have hlower : ∀ c ∈ (normalizedName txt value).toList, unicode.lower c = c :=
    fun c hc => hcase _ c hc
  generalize normalizedName txt value = n at hne hcontrol hhead hdot hlower ⊢
  have hends : endsWithSpace n = false ↔ trimSpace n.toList = n.toList := by
    refine Iff.trans ?_ (trim_eq_self_iff hhead).symm
    rw [endsWithSpace, Option.any_eq_false]
  have hcheck : Dns.containsControl n.toList = false := containsControl_of_server hcontrol
  rw [hends, Dns.decodeQueryName, ite_error_eq_ok, Except.ok.injEq, ← String.toList_inj,
    String.toList_ofList]
  constructor
  · rintro ⟨hchecks, heq⟩
    rw [heq] at hchecks
    refine ⟨trim_eq_self_of_length_le ?_, ?_⟩
    · have hlength := length_trimSuffix_le (trimSpace n.toList) ['.']
      rwa [← List.length_map unicode.lower, heq] at hlength
    · exact not_lt.mp fun hlarge => hchecks (.inr (.inl hlarge))
  · rintro ⟨hspace, hbytes⟩
    have hfixed : (trimSuffix (trimSpace n.toList) ['.']).map unicode.lower = n.toList := by
      rw [hspace, trimSuffix_eq_self hdot, List.map_congr_left hlower, List.map_id']
    rw [hfixed]
    refine ⟨?_, rfl⟩
    rintro (hempty | hlarge | hcontrol)
    · exact hne (String.toList_eq_nil_iff.mp hempty)
    · omega
    · rw [hcheck] at hcontrol
      cases hcontrol

/-- The codes of the server, after those before. -/
theorem decodeResponseCodes_of_allowed (unicode : CaseMapping) {seen codes : List String}
    (hallowed : ∀ code ∈ codes, code ∈ allowedResponseCodes) (hnodup : codes.Nodup)
    (hseen : ∀ code ∈ codes, code ∉ seen) :
    Dns.decodeResponseCodes unicode seen codes = .ok (seen ++ codes) := by
  have hfixed : ∀ code ∈ allowedResponseCodes,
      String.ofList ((trimSpace code.toList).map unicode.upper) = code := by
    intro code hcode
    have hchar := fun c hc => capital_of_allowed hcode (c := c) hc
    have htrim : trimSpace code.toList = code.toList :=
      trim_eq_self fun c hc => isGoSpace_of_isPySpace (hchar c hc).2.1
    rw [htrim, ← String.toList_inj, String.toList_ofList]
    conv_rhs => rw [← List.map_id code.toList]
    refine List.map_congr_left fun c hc => ?_
    rw [unicode.upper_ascii c (hchar c hc).1]
    exact (hchar c hc).2.2
  induction codes generalizing seen with
  | nil => rw [Dns.decodeResponseCodes, List.append_nil]
  | cons code codes ih =>
    obtain ⟨hcode, hallowed⟩ := List.forall_mem_cons.mp hallowed
    obtain ⟨hnew, hseen⟩ := List.forall_mem_cons.mp hseen
    obtain ⟨hnot, hnodup⟩ := List.nodup_cons.mp hnodup
    have hvalid : Dns.validResponseCode code = true := decide_eq_true hcode
    simp only [Dns.decodeResponseCodes, hfixed code hcode, hvalid, Bool.not_true,
      Bool.false_eq_true, if_false, if_neg hnew]
    rw [ih hallowed hnodup, List.append_assoc, List.singleton_append]
    intro other hother
    rw [List.mem_append, List.mem_singleton, not_or]
    exact ⟨hseen other hother, fun heq => hnot (heq ▸ hother)⟩

theorem decodeExpectedAnswers_eq_ok {values : List String}
    {r : {answers : List String // answers.length ≤ 32}} :
    Dns.decodeExpectedAnswers values = .ok r ↔
      (∀ value ∈ values, value ≠ "" ∧ (utf8 value.toList).length ≤ 1024 ∧
        Dns.containsControl value.toList = false) ∧ values = r.val := by
  unfold Dns.decodeExpectedAnswers
  split
  · next hlength =>
      split
      · next hany =>
          refine iff_of_false (fun h => nomatch h) fun h => ?_
          obtain ⟨value, hvalue, hbad⟩ := List.any_eq_true.mp hany
          obtain ⟨hne, hbytes, hcontrol⟩ := h.1 value hvalue
          simp only [decide_eq_true_eq, hne, hcontrol, Bool.false_eq_true, false_or,
            or_false] at hbad
          exact absurd hbad (not_lt.mpr hbytes)
      · next hany =>
          simp only [Bool.not_eq_true, List.any_eq_false, decide_eq_false_iff_not, not_or,
            not_lt] at hany
          rw [Except.ok.injEq, Subtype.ext_iff]
          exact ⟨fun h => ⟨hany, h⟩, fun h => h.2⟩
  · next hlength =>
      exact iff_of_false (fun h => nomatch h) fun h => hlength (h.2 ▸ r.property)

def modeOf : Backend.ResolverMode → Dns.ResolverMode
  | .system => .system
  | .explicit => .explicit

def transportOf : DnsTransport → Dns.Transport
  | .udpWithTcpFallback => .udpWithTcpFallback
  | .tcp => .tcp

def queryTypeOf : DnsQueryType → Dns.QueryType
  | .a => .a
  | .aaaa => .aaaa
  | .cname => .cname
  | .mx => .mx
  | .ns => .ns
  | .txt => .txt
  | .ptr => .ptr

/-- The agent's resolver is the server's. -/
def SameResolver (c : DnsProbeConfiguration) : Dns.Resolver → Prop
  | .system => c.resolverMode = .system ∧ c.resolverAddress = none ∧
      c.transport = .udpWithTcpFallback
  | .explicit address port transport => c.resolverMode = .explicit ∧
      c.resolverAddress = some address.val ∧ c.resolverPort = port ∧
      transportOf c.transport = transport

/-- The agent holds the values of the server. -/
structure SameDns (c : DnsProbeConfiguration) (agent : Dns.Configuration) : Prop where
  resolver : SameResolver c agent.resolver
  queryName : agent.queryName = c.queryName
  queryType : agent.queryType = queryTypeOf c.queryType
  recursionDesired : agent.recursionDesired = c.recursionDesired
  expectedResponseCodes : agent.expectedResponseCodes = c.expectedResponseCodes
  expectedAnswers : agent.expectedAnswers.val = c.expectedAnswers

/-- None of the differences between the two validators occurs. -/
structure DnsAgreeable (txt : PyText) (c : DnsProbeConfiguration) : Prop where
  resolverAddress : ∀ address ∈ c.resolverAddress, parseIp address.toList = true
  queryName : ∀ value ∈ c.queryName, endsWithSpace (normalizedName txt value) = false ∧
    (utf8 (normalizedName txt value).toList).length ≤ 253
  expectedAnswers : ∀ value ∈ c.expectedAnswers, (utf8 value.toList).length ≤ 1024

theorem decodeResolver_eq_ok {txt : PyText} {c : DnsProbeConfiguration}
    (hvalid : ValidDns txt c) {resolver : Dns.Resolver} :
    Dns.decodeResolver (modeOf c.resolverMode) c.resolverAddress c.resolverPort
        (transportOf c.transport) = .ok resolver ↔
      (∀ address ∈ c.resolverAddress, parseIp address.toList = true) ∧ SameResolver c resolver := by
  have haddress := hvalid.resolverAddress
  have htransport := hvalid.transport
  cases hmode : c.resolverMode with
  | system =>
    cases hgiven : c.resolverAddress with
    | some address =>
      rw [hmode, hgiven] at haddress
      cases haddress
    | none =>
      rw [hmode] at htransport
      have hudp := htransport.resolve_left (by decide)
      rw [hudp]
      cases resolver with
      | system => simp [modeOf, Dns.decodeResolver, transportOf, SameResolver, hmode, hgiven, hudp]
      | explicit => simp [modeOf, Dns.decodeResolver, transportOf, SameResolver, hmode]
  | explicit =>
    cases hgiven : c.resolverAddress with
    | none =>
      rw [hmode, hgiven] at haddress
      cases haddress
    | some address =>
      cases resolver with
      | system =>
        simp only [modeOf, Dns.decodeResolver, SameResolver, hmode]
        split <;> simp
      | explicit address' port transport =>
        simp only [modeOf, Dns.decodeResolver, SameResolver, hmode, hgiven]
        by_cases hparse : parseIp address.toList = true
        · simp [hparse, Subtype.ext_iff]
        · simp [hparse]

/-- A resolver whose address is read is one that the agent can hold. -/
theorem exists_sameResolver {txt : PyText} {c : DnsProbeConfiguration} (hvalid : ValidDns txt c)
    (haddress : ∀ address ∈ c.resolverAddress, parseIp address.toList = true) :
    ∃ resolver, SameResolver c resolver := by
  have hcheck := hvalid.resolverAddress
  have htransport := hvalid.transport
  cases hmode : c.resolverMode with
  | system =>
    rw [hmode] at hcheck htransport
    cases hgiven : c.resolverAddress with
    | some address =>
      rw [hgiven] at hcheck
      cases hcheck
    | none => exact ⟨.system, hmode, hgiven, htransport.resolve_left (by decide)⟩
  | explicit =>
    rw [hmode] at hcheck
    cases hgiven : c.resolverAddress with
    | none =>
      rw [hgiven] at hcheck
      cases hcheck
    | some address =>
      exact ⟨.explicit ⟨address, haddress address hgiven⟩ c.resolverPort
        (transportOf c.transport), hmode, hgiven, rfl, rfl⟩

/-- `DecodeConfiguration` of a struct in which no field has to be completed. -/
theorem decodeDns_eq_ok {unicode : CaseMapping} {raw : Dns.RawConfiguration}
    {mode : Dns.ResolverMode} {transport : Dns.Transport} {queryType : Dns.QueryType}
    {agent : Dns.Configuration} (hversion : raw.schemaVersion = 1)
    (hmode : Dns.decodeResolverMode raw.resolverMode = .ok mode)
    (htransport : Dns.decodeTransport raw.transport = .ok transport)
    (htype : Dns.decodeQueryType raw.queryType = .ok queryType)
    (hport : raw.resolverPort ≠ 0) (hcodes : raw.expectedResponseCodes ≠ []) :
    Dns.decodeConfiguration unicode raw = .ok agent ↔
      (1 ≤ raw.resolverPort ∧ raw.resolverPort ≤ 65535) ∧
      ∃ resolver, Dns.decodeResolver mode raw.resolverAddress raw.resolverPort transport =
        .ok resolver ∧ ∃ name, raw.queryName.mapM (Dns.decodeQueryName unicode) = .ok name ∧
      raw.expectedResponseCodes.length ≤ 16 ∧
      ∃ codes, Dns.decodeResponseCodes unicode [] raw.expectedResponseCodes = .ok codes ∧
      ∃ answers, Dns.decodeExpectedAnswers raw.expectedAnswers = .ok answers ∧
      ⟨resolver, name, queryType, raw.recursionDesired, codes, answers⟩ = agent := by
  unfold Dns.decodeConfiguration
  simp only [↓bind_eq_ok, ↓ite_throw_eq_ok, pure, Except.pure, Except.ok.injEq, hversion,
    hmode, htransport, htype, if_neg hport, if_neg hcodes, exists_eq_left', ne_eq,
    not_true_eq_false, not_false_eq_true, true_and, not_or, not_lt]

/-- The query name of the server, if there is one. -/
theorem decodeQueryNames_iff {txt : PyText} (laws : LawfulText txt) (unicode : CaseMapping)
    (hcase : ∀ s c, c ∈ (txt.lower s).toList → unicode.lower c = c)
    {c : DnsProbeConfiguration} (hvalid : ValidDns txt c) :
    (c.queryName.map (normalizedName txt)).mapM (Dns.decodeQueryName unicode) =
        .ok (c.queryName.map (normalizedName txt)) ↔
      ∀ value ∈ c.queryName, endsWithSpace (normalizedName txt value) = false ∧
        (utf8 (normalizedName txt value).toList).length ≤ 253 := by
  have hname := hvalid.queryName
  rw [optionMapM_eq_ok]
  cases hgiven : c.queryName with
  | none => simp
  | some value =>
    rw [hgiven] at hname
    obtain ⟨hne, hcontrol⟩ := hname value rfl
    have hiff := decodeQueryName_normalizedName laws unicode hcase hne hcontrol
    simpa using hiff

/-- What the agent makes of the struct: the checks that can fail, and what it holds. -/
theorem decodeNormalizedDns_eq_ok {txt : PyText} {unicode : CaseMapping}
    {c : DnsProbeConfiguration} (hvalid : ValidDns txt c) {agent : Dns.Configuration} :
    Dns.decodeConfiguration unicode (dnsStruct (normalizedDns txt c)) = .ok agent ↔
      (∀ address ∈ c.resolverAddress, parseIp address.toList = true) ∧
      (c.queryName.map (normalizedName txt)).mapM (Dns.decodeQueryName unicode) =
        .ok agent.queryName ∧ (∀ value ∈ c.expectedAnswers, (utf8 value.toList).length ≤ 1024) ∧
      SameDns (normalizedDns txt c) { agent with
        queryName := c.queryName.map (normalizedName txt) } := by
  have hport : c.resolverPort ≠ 0 := by
    have := hvalid.resolverPort
    omega
  have hlength : (c.expectedResponseCodes.map (normalizedCode txt)).length ≤ 16 := by
    rw [List.length_map]
    exact hvalid.expectedResponseCodes_length.2
  have hsome : c.expectedResponseCodes.map (normalizedCode txt) ≠ [] := by
    intro hnil
    have hone := hvalid.expectedResponseCodes_length.1
    rw [List.map_eq_nil_iff.mp hnil] at hone
    exact absurd hone (by decide)
  have hcodes : Dns.decodeResponseCodes unicode []
      (c.expectedResponseCodes.map (normalizedCode txt)) =
      .ok (c.expectedResponseCodes.map (normalizedCode txt)) :=
    decodeResponseCodes_of_allowed unicode
      (List.forall_mem_map.mpr hvalid.expectedResponseCodes)
      hvalid.expectedResponseCodes_nodup fun _ _ => List.not_mem_nil
  have hmode : Dns.decodeResolverMode c.resolverMode.text = .ok (modeOf c.resolverMode) := by
    cases c.resolverMode <;> rfl
  have htransport : Dns.decodeTransport c.transport.text = .ok (transportOf c.transport) := by
    cases c.transport <;> rfl
  have htype : Dns.decodeQueryType c.queryType.text = .ok (queryTypeOf c.queryType) := by
    cases c.queryType <;> rfl
  have hanswer : ∀ value ∈ c.expectedAnswers,
      value ≠ "" ∧ Dns.containsControl value.toList = false := by
    intro value hvalue
    obtain ⟨hlengths, hcontrol⟩ := hvalid.expectedAnswers value hvalue
    refine ⟨?_, containsControl_of_server hcontrol⟩
    rintro rfl
    exact absurd hlengths.1 (by decide)
  refine Iff.trans (decodeDns_eq_ok rfl hmode htransport htype hport hsome) ?_
  constructor
  · rintro ⟨-, resolver, hresolver, name, hname, -, codes, hdecoded, answers, hanswers, rfl⟩
    obtain ⟨haddress, hsame⟩ := (decodeResolver_eq_ok hvalid).mp hresolver
    obtain ⟨hbytes, hvalues⟩ := decodeExpectedAnswers_eq_ok.mp hanswers
    exact ⟨haddress, hname, fun value hvalue => (hbytes value hvalue).2.1, hsame, rfl, rfl,
      rfl, (Except.ok.inj (hcodes.symm.trans hdecoded)).symm, hvalues.symm⟩
  · rintro ⟨haddress, hname, hbytes, hsame⟩
    refine ⟨hvalid.resolverPort, agent.resolver,
      (decodeResolver_eq_ok hvalid).mpr ⟨haddress, hsame.resolver⟩, _, hname, hlength, _,
      hcodes, agent.expectedAnswers, decodeExpectedAnswers_eq_ok.mpr ⟨fun value hvalue =>
        ⟨(hanswer value hvalue).1, hbytes value hvalue, (hanswer value hvalue).2⟩,
        hsame.expectedAnswers.symm⟩, ?_⟩
    obtain ⟨resolver, name, queryType, recursion, codes, answers⟩ := agent
    have h1 : queryType = queryTypeOf c.queryType := hsame.queryType
    have h2 : recursion = c.recursionDesired := hsame.recursionDesired
    have h3 : codes = c.expectedResponseCodes.map (normalizedCode txt) :=
      hsame.expectedResponseCodes
    rw [h1, h2, h3]
    rfl

/-- The agent accepts what the server stored and holds the same values, exactly if none of
the differences occurs. Go's tables of letters are those of Python. -/
theorem dns_agrees_iff (txt : PyText) (laws : LawfulText txt) (unicode : CaseMapping)
    (hcase : ∀ s c, c ∈ (txt.lower s).toList → unicode.lower c = c)
    (c : DnsProbeConfiguration) (timeout : Option ℤ) (dump : Json JsonNum)
    (h : serializeProbeConfiguration txt (.dns c) timeout = .ok dump) :
    (∃ stored agent, dump = (TypedProbeConfiguration.dns stored).modelDump ∧
      Dns.decodeDocument unicode dump = .ok agent ∧
      Dns.decodedPort dump = some stored.resolverPort ∧ SameDns stored agent) ↔
      DnsAgreeable txt c := by
  obtain ⟨c', hnormalize, rfl⟩ := serialize_eq_ok.mp h
  obtain ⟨hvalid, rfl⟩ := normalizeDns_eq_ok.mp hnormalize
  have hstruct := decodeStruct_dns (c := normalizedDns txt c)
    (isInt_of_between hvalid.resolverPort (by decide) (by decide))
  have hport : Dns.decodedPort (TypedProbeConfiguration.dns (normalizedDns txt c)).modelDump =
      some c.resolverPort := by
    have hgiven : c.resolverPort ≠ 0 := by
      have := hvalid.resolverPort
      omega
    rw [Dns.decodedPort, hstruct, Option.map_some]
    exact congrArg some (if_neg hgiven)
  have hnames := decodeQueryNames_iff laws unicode hcase hvalid
  constructor
  · rintro ⟨stored, agent, hdump, hdecode, -, hsame⟩
    have hstored : TypedProbeConfiguration.dns (normalizedDns txt c) = .dns stored :=
      modelDump_inj rfl hdump
    obtain rfl := TypedProbeConfiguration.dns.inj hstored
    obtain ⟨raw, hraw, hcheck⟩ := decodeStrict_eq_ok.mp hdecode
    obtain rfl := Option.some.inj (hstruct.symm.trans hraw)
    obtain ⟨haddress, hname, hbytes, -⟩ := (decodeNormalizedDns_eq_ok hvalid).mp hcheck
    rw [hsame.queryName] at hname
    exact ⟨haddress, hnames.mp hname, hbytes⟩
  · intro hagreeable
    obtain ⟨resolver, hresolver⟩ := exists_sameResolver hvalid hagreeable.resolverAddress
    have hsame : SameDns (normalizedDns txt c) ⟨resolver,
        c.queryName.map (normalizedName txt), queryTypeOf c.queryType, c.recursionDesired,
        c.expectedResponseCodes.map (normalizedCode txt),
        ⟨c.expectedAnswers, hvalid.expectedAnswers_length⟩⟩ :=
      ⟨hresolver, rfl, rfl, rfl, rfl, rfl⟩
    refine ⟨normalizedDns txt c, _, rfl, decodeStrict_eq_ok.mpr ⟨_, hstruct, ?_⟩, hport, hsame⟩
    exact (decodeNormalizedDns_eq_ok hvalid).mpr ⟨hagreeable.resolverAddress,
      hnames.mpr hagreeable.queryName, hagreeable.expectedAnswers, hsame⟩

theorem asciiMapping_lowered (s : String) (c : Char)
    (h : c ∈ (asciiText.lower s).toList) : asciiMapping.lower c = c := by
  rw [asciiText, String.toList_ofList] at h
  obtain ⟨d, -, rfl⟩ := List.mem_map.mp h
  exact toLower_toLower d

theorem dns_agrees_sample : ∃ stored agent,
    (TypedProbeConfiguration.dns { queryName := some "router.example" }).modelDump =
      (TypedProbeConfiguration.dns stored).modelDump ∧
    Dns.decodeDocument asciiMapping (TypedProbeConfiguration.dns
      { queryName := some "router.example" }).modelDump = .ok agent ∧
    Dns.decodedPort (TypedProbeConfiguration.dns
      { queryName := some "router.example" }).modelDump = some stored.resolverPort ∧
    SameDns stored agent :=
  (dns_agrees_iff asciiText asciiText_lawful asciiMapping asciiMapping_lowered
    { queryName := some " Router.Example.. " } none _ rfl).mpr
    ⟨by simp, by simp; decide, by simp⟩

/-- `ipaddress` reads an IPv6 address with a zone after a percent sign. -/
def zonedText : PyText := { asciiText with
  ipAddress s :=
    let (address, zone) := s.toList.span (· != '%')
    parseIp s.toList ||
      address.contains ':' && parseIp address && 1 < zone.length && zone.count '%' == 1 }

/-- A resolver with a zone. -/
def zonedDns : DnsProbeConfiguration where
  resolverMode := .explicit
  resolverAddress := some "fe80::1%eth0"

/-- The space before the full stop is stored, and the agent asks for another name than the
one that is stored. An address with a zone is stored, and refused by the agent. -/
theorem dns_disagrees :
    (serializeProbeConfiguration zonedText (.dns { queryName := some "a ." }) none =
      .ok (TypedProbeConfiguration.dns { queryName := some "a " }).modelDump ∧
    ∃ agent, Dns.decodeDocument asciiMapping
        (TypedProbeConfiguration.dns { queryName := some "a " }).modelDump = .ok agent ∧
      agent.queryName = some "a") ∧ serializeProbeConfiguration zonedText (.dns zonedDns) none =
      .ok (TypedProbeConfiguration.dns zonedDns).modelDump ∧
    Dns.decodeDocument asciiMapping (TypedProbeConfiguration.dns zonedDns).modelDump =
      .error (.invalid "explicit DNS resolver address must be an IP address") :=
  ⟨⟨rfl, _, rfl, rfl⟩, rfl, rfl⟩

end Bifrostnms.Proofs
