import Bifrostnms.Proofs.ConfigurationDocument
import Bifrostnms.Proofs.IcmpConfiguration
import Bifrostnms.Proofs.NameNormalization

/-!
# HTTP configurations on both sides

The agent checks again what the server has checked, with its own functions. The names of
headers, the forbidden ones among them, the status codes and the counts come out the
same. Texts do not: the agent counts bytes where the server counts characters, its control
characters go up to U+009F, it takes one full stop off a host name where the server takes
all of them, and it allows no IP address there. And zero redirects are, for the agent, the
default of five.

`http_agrees_iff` says that those are all the differences: where none of them occurs, the
agent accepts the configuration and holds the values of the server in every field.
-/

namespace Bifrostnms.Proofs

open Bifrostnms.Lib Bifrostnms.Lib.GoJson Bifrostnms.Backend Bifrostnms.Agent

/-! ## Texts -/

/-- The control characters that the server allows. -/
def latinControl (c : Char) : Bool := 128 ≤ c.toNat && c.toNat < 160

def hasLatinControl (s : String) : Bool := s.toList.any latinControl

theorem containsControl_eq (s : String) :
    Http.containsControl s = (hasControlCharacter s || hasLatinControl s) := by
  have hchar (c : Char) : Http.isControl c = (controlCharacter c || latinControl c) := by
    rw [Bool.eq_iff_iff]
    simp only [Http.isControl, controlCharacter, latinControl, Bool.or_eq_true,
      Bool.and_eq_true, decide_eq_true_eq, beq_iff_eq]
    omega
  rw [Bool.eq_iff_iff]
  simp only [Http.containsControl, hasControlCharacter, hasLatinControl, hchar,
    List.any_eq_true, Bool.or_eq_true, and_or_left, exists_or]

/-- A text of the server that is within the agent's limits. -/
def withinLimits (s : String) : Bool :=
  (utf8 s.toList).length ≤ 1024 && !hasLatinControl s

theorem validHeaderValue_eq {s : String} (h : hasControlCharacter s = false) :
    Http.validHeaderValue s = withinLimits s := by
  rw [Http.validHeaderValue, containsControl_eq, h, Bool.false_or, withinLimits]

/-! ## Header names -/

theorem headerName_eq (s : String) : headerName s = Http.validHeaderName s := by
  have hperm : "!#$%&'*+.^_`|~-".toList.Perm "!#$%&'*+-.^_`|~".toList := by decide
  have hchar (c : Char) : headerNameChar c =
      (c.isAlphanum || "!#$%&'*+-.^_`|~".toList.contains c) := by
    rw [Bool.eq_iff_iff]
    simp only [headerNameChar, Char.isAlphanum, Bool.or_eq_true, decide_eq_true_eq,
      List.contains_iff_mem, hperm.mem_iff]
    constructor
    · rintro ((h | h) | h)
      · exact .inr h
      · exact .inl (.inr h)
      · exact .inl (.inl h)
    · rintro ((h | h) | h)
      · exact .inr h
      · exact .inl (.inr h)
      · exact .inl (.inl h)
  have hempty : (!s.toList.isEmpty) = decide (s ≠ "") := by
    rw [Bool.eq_iff_iff, decide_eq_true_eq, Bool.not_eq_true', List.isEmpty_eq_false_iff,
      ne_eq, ne_eq, String.toList_eq_nil_iff]
  rw [headerName, Http.validHeaderName, funext hchar, hempty]

theorem map_toLower_canonicalHeaderKey (upper : Bool) (l : List Char) :
    (Http.canonicalHeaderKey upper l).map Char.toLower = l.map Char.toLower := by
  induction l generalizing upper with
  | nil => rfl
  | cons c l ih =>
    have hchar : (if upper then c.toUpper else c.toLower).toLower = c.toLower := by
      split
      · exact toLower_toUpper c
      · exact toLower_toLower c
    rw [Http.canonicalHeaderKey, List.map_cons, List.map_cons, hchar, ih]

/-- A name that the agent forbids, the server forbids. -/
theorem permitted_of_server {name : String} (h : forbiddenHeaders.contains
      (String.ofList (name.toList.map Char.toLower)) = false) :
    String.ofList (Http.canonicalHeaderKey true name.toList) ∉ Http.forbiddenHeaders := by
  intro hforbidden
  have hlower : ∀ forbidden ∈ Http.forbiddenHeaders,
      String.ofList (forbidden.toList.map Char.toLower) ∈ forbiddenHeaders := by decide
  have hmem := hlower _ hforbidden
  rw [String.toList_ofList, map_toLower_canonicalHeaderKey] at hmem
  rw [List.contains_iff_mem.mpr hmem] at h
  cases h

theorem checkRequestHeader_eq_ok {header : String × String} (h : ValidRequestHeader header)
    {u : Unit} : Http.checkRequestHeader header = .ok u ↔ withinLimits header.2 = true := by
  simp only [Http.checkRequestHeader, ← headerName_eq, h.name, validHeaderValue_eq h.value,
    if_neg (permitted_of_server h.permitted), ite_error_eq_ok, and_true, Bool.not_true,
    Bool.false_or, Bool.not_eq_true', Bool.not_eq_false]

/-! ## Host headers -/

/-- `rstrip(".")` and `TrimSuffix(value, ".")`. -/
theorem trimSuffix_eq_rstripDots {l : List Char} (h : ¬ ['.', '.'] <:+ l) :
    trimSuffix l ['.'] = rstripDots l := by
  show trimSuffix l ['.'] = l.rdropWhile (· == '.')
  rcases List.eq_nil_or_concat' l with rfl | ⟨m, c, rfl⟩
  · rfl
  · by_cases hc : c = '.'
    · subst hc
      rw [trimSuffix_append, List.rdropWhile_concat_pos (· == '.') m '.' rfl, eq_comm,
        List.rdropWhile_eq_self_iff]
      intro hm hlast
      have hm : m.dropLast ++ ['.'] = m := by
        rw [← eq_of_beq hlast, List.dropLast_append_getLast]
      refine h ⟨m.dropLast, ?_⟩
      rw [← hm, List.append_assoc]
      simp
    · have hlast : (m ++ [c]).getLast? ≠ some '.' := by
        rw [List.getLast?_concat, ne_eq, Option.some.injEq]
        exact hc
      rw [trimSuffix_eq_self hlast, List.rdropWhile_concat_neg (· == '.') m c]
      rwa [beq_iff_eq]

/-- A character that `rstrip` takes off is a full stop. -/
theorem mem_rstripDots {l : List Char} {c : Char} (h : c ∈ l) : c = '.' ∨ c ∈ rstripDots l := by
  have hsplit := List.takeWhile_append_dropWhile (p := (· == '.')) (l := l.reverse)
  rw [← List.mem_reverse, ← hsplit, List.mem_append] at h
  rcases h with h | h
  · exact .inl (eq_of_beq (List.mem_takeWhile_imp (p := (· == '.')) h))
  · exact .inr (List.mem_reverse.mpr h)

theorem hostnameChar_of_rstripDots {l : List Char}
    (h : hostnameLabels (rstripDots l) = true) : ∀ c ∈ l, hostnameChar c = true := by
  intro c hc
  rcases mem_rstripDots hc with rfl | hc
  · rfl
  · rw [hostnameLabels_eq] at h
    exact hostnameChar_of_labels h c hc

theorem isControl_of_hostnameChar {c : Char} (h : hostnameChar c = true) :
    Http.isControl c = false := by
  refine forall_ascii (P := fun c => hostnameChar c = true → Http.isControl c = false) ?_
    (toNat_lt_of_hostnameChar h) h
  decide

/-- The agent's check of a host header that the server has accepted. -/
theorem validHostname_iff {value : String} (hlength : 1 ≤ value.length ∧ value.length ≤ 253)
    (hlabels : hostnameLabels (rstripDots value.toList) = true) : Http.validHostname value = true ↔
      parseIp value.toList = false ∧ ¬ ['.', '.'] <:+ value.toList := by
  have hchars := hostnameChar_of_rstripDots hlabels
  have hne : value ≠ "" := by
    rintro rfl
    exact absurd hlength.1 (by decide)
  have hbytes : (utf8 value.toList).length ≤ 253 := by
    rw [length_utf8_ascii fun c hc => toNat_lt_of_hostnameChar (hchars c hc)]
    exact hlength.2
  have hcontrol : Http.containsControl value = false := by
    rw [Http.containsControl, List.any_eq_false]
    intro c hc
    rw [isControl_of_hostnameChar (hchars c hc)]
    exact Bool.false_ne_true
  have hdots : ((trimSuffix value.toList ['.']).splitOn '.').all validLabel = true ↔
      ¬ ['.', '.'] <:+ value.toList := by
    constructor
    · rintro h ⟨m, hm⟩
      rw [← hm, ← List.singleton_append, ← List.append_assoc, trimSuffix_append,
        not_labels_concat] at h
      cases h
    · intro h
      rw [trimSuffix_eq_rstripDots h, ← hostnameLabels_eq, hlabels]
  simp only [Http.validHostname, hne, hbytes, hcontrol, hdots, Bool.and_eq_true,
    Bool.not_eq_true', ne_eq, not_false_eq_true, decide_true, true_and, Bool.not_false]

/-! ## Lists -/

theorem checkStatusCodes_of_nodup {seen codes : List ℤ}
    (hrange : ∀ code ∈ codes, 100 ≤ code ∧ code ≤ 599) (hnodup : codes.Nodup)
    (hseen : ∀ code ∈ codes, code ∉ seen) : Http.checkStatusCodes seen codes = .ok () := by
  induction codes generalizing seen with
  | nil => rfl
  | cons code codes ih =>
    obtain ⟨hcode, hrange⟩ := List.forall_mem_cons.mp hrange
    obtain ⟨hnew, hseen⟩ := List.forall_mem_cons.mp hseen
    obtain ⟨hnot, hnodup⟩ := List.nodup_cons.mp hnodup
    rw [Http.checkStatusCodes, if_neg (by omega), if_neg hnew]
    refine ih hrange hnodup fun other hother => ?_
    rw [List.mem_cons, not_or]
    exact ⟨fun heq => hnot (heq ▸ hother), hseen other hother⟩

theorem decodeHeaderAssertions_eq_ok {values : List Http.HeaderAssertion}
    {r : {values : List Http.HeaderAssertion // values.length ≤ 32}} :
    Http.decodeHeaderAssertions values = .ok r ↔ (∀ a ∈ values, Http.validHeaderName a.name = true ∧
        Http.validHeaderValue a.value = true) ∧ values = r.val := by
  unfold Http.decodeHeaderAssertions
  split
  · next hlength =>
      split
      · next hall =>
          simp only [List.all_eq_true, Bool.and_eq_true] at hall
          rw [Except.ok.injEq, Subtype.ext_iff, and_iff_right hall]
      · next hall =>
          simp only [List.all_eq_true, Bool.and_eq_true] at hall
          exact iff_of_false (fun h => nomatch h) fun h => hall h.1
  · next hlength =>
      exact iff_of_false (fun h => nomatch h) fun h => hlength (h.2 ▸ r.property)

theorem decodeBodyAssertions_eq_ok {values : List String}
    {r : {values : List String // values.length ≤ 16}} : Http.decodeBodyAssertions values = .ok r ↔
      (∀ expected ∈ values, expected ≠ "" ∧ Http.validHeaderValue expected = true) ∧
        values = r.val := by
  unfold Http.decodeBodyAssertions
  split
  · next hlength =>
      split
      · next hall =>
          simp only [List.all_eq_true, Bool.and_eq_true, decide_eq_true_eq] at hall
          rw [Except.ok.injEq, Subtype.ext_iff, and_iff_right hall]
      · next hall =>
          simp only [List.all_eq_true, Bool.and_eq_true, decide_eq_true_eq] at hall
          exact iff_of_false (fun h => nomatch h) fun h => hall h.1
  · next hlength =>
      exact iff_of_false (fun h => nomatch h) fun h => hlength (h.2 ▸ r.property)

theorem decodeMaximumRedirects_eq_ok {n : ℤ} (h : 0 ≤ n ∧ n ≤ 10) {r : {n : ℕ // n ≤ 10}} :
    Http.decodeMaximumRedirects n = .ok r ↔ (if n = 0 then 5 else n) = (r.val : ℤ) := by
  have hrange : ¬ ((if n = 0 then 5 else n) < 0 ∨ 10 < (if n = 0 then 5 else n)) := by
    split <;> omega
  simp only [Http.decodeMaximumRedirects]
  rw [dif_neg hrange, Except.ok.injEq, Subtype.ext_iff]
  show (if n = 0 then 5 else n).toNat = r.val ↔ _
  omega

/-! ## Agreement -/

/-- The agent holds the values of the server. -/
structure SameHttp (c : HttpProbeConfiguration) (agent : Http.Configuration) : Prop where
  scheme : agent.scheme.text = c.scheme.text
  port : agent.port = c.port
  path : agent.path = c.path
  method : agent.method.text = c.method.text
  followRedirects : agent.followRedirects = c.followRedirects
  maximumRedirects : (agent.maximumRedirects.val : ℤ) = c.maximumRedirects
  hostHeader : agent.hostHeader = c.hostHeader
  requestHeaders : agent.requestHeaders = c.requestHeaders
  expectedStatusCodes : agent.expectedStatusCodes = c.expectedStatusCodes
  expectedHeaderValues : agent.expectedHeaderValues.val.map (fun a => (a.name, a.value)) =
    c.expectedHeaderValues.map fun a => (a.name, a.value)
  expectedBodyContains : agent.expectedBodyContains.val = c.expectedBodyContains
  maximumResponseBytes : (agent.maximumResponseBytes : ℤ) = c.maximumResponseBytes
  addressFamily : agent.addressFamily = familyOf c.addressFamily

/-- None of the differences between the two validators occurs. -/
structure HttpAgreeable (c : HttpProbeConfiguration) : Prop where
  maximumRedirects : c.maximumRedirects ≠ 0
  path : hasLatinControl c.path = false
  hostHeader : ∀ value ∈ c.hostHeader, parseIp value.toList = false ∧ ¬ ['.', '.'] <:+ value.toList
  requestHeaders : ∀ header ∈ c.requestHeaders, withinLimits header.2 = true
  expectedHeaderValues : ∀ a ∈ c.expectedHeaderValues, withinLimits a.value = true
  expectedBodyContains : ∀ value ∈ c.expectedBodyContains, withinLimits value = true

section Agreement

variable {c : HttpProbeConfiguration} {agent : Http.Configuration}

def schemeOf : HttpScheme → Http.Scheme
  | .http => .http
  | .https => .https

def methodOf : HttpMethod → Http.Method
  | .get => .get
  | .head => .head

theorem decodeScheme_text (scheme : HttpScheme) :
    Http.decodeScheme scheme.text = .ok (schemeOf scheme) := by
  cases scheme <;> rfl

theorem decodeMethod_text (method : HttpMethod) :
    Http.decodeMethod method.text = .ok (methodOf method) := by
  cases method <;> rfl

theorem decodeAddressFamily_text (family : Backend.AddressFamily) :
    Http.decodeAddressFamily family.text = .ok (familyOf family) := by
  cases family <;> rfl

/-- `DecodeConfiguration` of a struct in which no field has to be completed. -/
theorem decodeConfiguration_eq_ok {raw : Http.RawConfiguration} {scheme : Http.Scheme}
    {method : Http.Method} {family : Agent.AddressFamily} (hversion : raw.schemaVersion = 1)
    (hscheme : Http.decodeScheme raw.scheme = .ok scheme)
    (hmethod : Http.decodeMethod raw.method = .ok method)
    (hfamily : Http.decodeAddressFamily raw.addressFamily = .ok family)
    (hpath : raw.path ≠ "") (hcodes : raw.expectedStatusCodes ≠ [])
    (hbytes : raw.maximumResponseBytes ≠ 0) : Http.decodeConfiguration raw = .ok agent ↔
      (raw.path.toList.head? = some '/' ∧ Http.containsControl raw.path = false) ∧
      (∀ port ∈ raw.port, 1 ≤ port ∧ port ≤ 65535) ∧
      ∃ redirects, Http.decodeMaximumRedirects raw.maximumRedirects = .ok redirects ∧
      (∀ host ∈ raw.hostHeader, Http.validHostname host = true) ∧ raw.requestHeaders.length ≤ 32 ∧
      (∀ header ∈ raw.requestHeaders, Http.checkRequestHeader header = .ok ()) ∧
      raw.expectedStatusCodes.length ≤ 200 ∧
      Http.checkStatusCodes [] raw.expectedStatusCodes = .ok () ∧
      ∃ assertions, Http.decodeHeaderAssertions raw.expectedHeaderValues = .ok assertions ∧
      ∃ body, Http.decodeBodyAssertions raw.expectedBodyContains = .ok body ∧
      (method = .head → body.val = []) ∧
      (1 ≤ raw.maximumResponseBytes ∧ raw.maximumResponseBytes ≤ 4194304) ∧
      ⟨scheme, raw.port, raw.path, method, raw.followRedirects, redirects, raw.hostHeader,
        raw.requestHeaders, raw.expectedStatusCodes, assertions, body,
        raw.maximumResponseBytes.toNat, family⟩ = agent := by
  have hunit {x : Except String Unit} {P : Prop} :
      (∃ u, x = .ok u ∧ P) ↔ x = .ok () ∧ P := ⟨fun ⟨_, h⟩ => h, fun h => ⟨_, h⟩⟩
  unfold Http.decodeConfiguration
  simp only [↓bind_eq_ok, ↓ite_throw_eq_ok, ↓forM_eq_ok, exists_const, pure, Except.pure,
    Except.ok.injEq, hversion, if_neg hpath, if_neg hcodes, if_neg hbytes, hscheme, hmethod,
    hfamily, exists_eq_left', hunit, Http.maximumResponseBytes, ne_eq, not_true_eq_false,
    not_false_eq_true, true_and, not_or, not_not, not_lt, not_and, Bool.not_eq_true,
    Option.any_eq_false, decide_eq_false_iff_not, Bool.not_eq_false', Option.mem_def]

/-- What is left of the agent's checks after the server's. -/
theorem decodeConfiguration_http (hvalid : ValidHttp c)
    (hbody : c.method = .head → c.expectedBodyContains = []) :
    Http.decodeConfiguration (httpStruct c) = .ok agent ↔ hasLatinControl c.path = false ∧
      (∀ value ∈ c.hostHeader, parseIp value.toList = false ∧ ¬ ['.', '.'] <:+ value.toList) ∧
      (∀ header ∈ c.requestHeaders, withinLimits header.2 = true) ∧
      (∀ a ∈ c.expectedHeaderValues, withinLimits a.value = true) ∧
      (∀ value ∈ c.expectedBodyContains, withinLimits value = true) ∧
      ∃ (redirects : {n : ℕ // n ≤ 10})
        (assertions : {values : List Http.HeaderAssertion // values.length ≤ 32})
        (body : {values : List String // values.length ≤ 16}),
        (if c.maximumRedirects = 0 then 5 else c.maximumRedirects) = (redirects.val : ℤ) ∧
        c.expectedHeaderValues.map (fun a => ⟨a.name, a.value⟩) = assertions.val ∧
        c.expectedBodyContains = body.val ∧
        ⟨schemeOf c.scheme, c.port, c.path, methodOf c.method, c.followRedirects, redirects,
          c.hostHeader, c.requestHeaders, c.expectedStatusCodes, assertions, body,
          c.maximumResponseBytes.toNat, familyOf c.addressFamily⟩ = agent := by
  have hpath : c.path ≠ "" := by
    intro h
    have hlength := hvalid.path_length.1
    rw [h] at hlength
    exact absurd hlength (by decide)
  have hcodes : c.expectedStatusCodes ≠ [] := by
    intro h
    have hlength := hvalid.expectedStatusCodes_length.1
    rw [h] at hlength
    exact absurd hlength (by decide)
  have hbytes : c.maximumResponseBytes ≠ 0 := by
    have hrange := hvalid.maximumResponseBytes
    omega
  rw [decodeConfiguration_eq_ok rfl (decodeScheme_text c.scheme) (decodeMethod_text c.method)
    (decodeAddressFamily_text c.addressFamily) hpath hcodes hbytes]
  have hcontrol : Http.containsControl c.path = hasLatinControl c.path := by
    rw [containsControl_eq, hvalid.path, Bool.false_or]
  have hhost : (∀ host ∈ c.hostHeader, Http.validHostname host = true) ↔ ∀ value ∈ c.hostHeader,
        parseIp value.toList = false ∧ ¬ ['.', '.'] <:+ value.toList :=
    forall₂_congr fun value hm =>
      validHostname_iff (hvalid.hostHeader value hm).1 (hvalid.hostHeader value hm).2
  have hheaders : (∀ header ∈ c.requestHeaders, Http.checkRequestHeader header = .ok ()) ↔
      ∀ header ∈ c.requestHeaders, withinLimits header.2 = true :=
    forall₂_congr fun header hm => checkRequestHeader_eq_ok (hvalid.requestHeaders header hm)
  have hvalues : (∀ a ∈ c.expectedHeaderValues.map
        (fun a => (⟨a.name, a.value⟩ : Http.HeaderAssertion)),
        Http.validHeaderName a.name = true ∧ Http.validHeaderValue a.value = true) ↔
      ∀ a ∈ c.expectedHeaderValues, withinLimits a.value = true := by
    rw [List.forall_mem_map]
    refine forall₂_congr fun a hm => ?_
    have hassertion := hvalid.expectedHeaderValues a hm
    rw [← headerName_eq, hassertion.name, validHeaderValue_eq hassertion.value]
    exact and_iff_right rfl
  have htexts : (∀ value ∈ c.expectedBodyContains,
        value ≠ "" ∧ Http.validHeaderValue value = true) ↔
      ∀ value ∈ c.expectedBodyContains, withinLimits value = true := by
    refine forall₂_congr fun value hm => ?_
    obtain ⟨⟨hpos, -⟩, hcontrol⟩ := hvalid.expectedBodyContains value hm
    have hne : value ≠ "" := by
      rintro rfl
      exact absurd hpos (by decide)
    rw [validHeaderValue_eq hcontrol, and_iff_right hne]
  have hstatus : Http.checkStatusCodes [] c.expectedStatusCodes = .ok () :=
    checkStatusCodes_of_nodup hvalid.expectedStatusCodes hvalid.expectedStatusCodes_nodup
      fun _ _ => List.not_mem_nil
  have hmethod : methodOf c.method = .head → c.method = .head := by
    cases c.method <;> simp [methodOf]
  constructor
  · rintro ⟨⟨-, h1⟩, -, redirects, h2, h3, -, h4, -, -, assertions, h5, body, h6, -, -, heq⟩
    obtain ⟨h5, hassertions⟩ := decodeHeaderAssertions_eq_ok.mp h5
    obtain ⟨h6, hbodies⟩ := decodeBodyAssertions_eq_ok.mp h6
    exact ⟨hcontrol ▸ h1, hhost.mp h3, hheaders.mp h4, hvalues.mp h5, htexts.mp h6,
      redirects, assertions, body,
      (decodeMaximumRedirects_eq_ok hvalid.maximumRedirects).mp h2, hassertions, hbodies, heq⟩
  · rintro ⟨h1, h3, h4, h5, h6, redirects, assertions, body, h2, hassertions, hbodies, heq⟩
    refine ⟨⟨hvalid.path_head, hcontrol ▸ h1⟩, hvalid.port, redirects,
      (decodeMaximumRedirects_eq_ok hvalid.maximumRedirects).mpr h2, hhost.mpr h3,
      hvalid.requestHeaders_length, hheaders.mpr h4, hvalid.expectedStatusCodes_length.2,
      hstatus, assertions, decodeHeaderAssertions_eq_ok.mpr ⟨hvalues.mpr h5, hassertions⟩,
      body, decodeBodyAssertions_eq_ok.mpr ⟨htexts.mpr h6, hbodies⟩, ?_,
      hvalid.maximumResponseBytes, heq⟩
    intro hhead
    rw [← hbodies]
    exact hbody (hmethod hhead)

/-- The agent accepts what the server stored and holds the same values in every field,
exactly if none of the differences occurs. -/
theorem http_agrees_iff (txt : PyText) (c : HttpProbeConfiguration) (timeout : Option ℤ)
    (dump : Json JsonNum) (hkeys : (c.requestHeaders.map Prod.fst).Nodup)
    (h : serializeProbeConfiguration txt (.http c) timeout = .ok dump) :
    (∃ agent, Http.decodeDocument dump = .ok agent ∧ SameHttp c agent) ↔ HttpAgreeable c := by
  obtain ⟨c', hnormalize, rfl⟩ := serialize_eq_ok.mp h
  obtain ⟨⟨hvalid, hbody⟩, rfl⟩ := normalizeHttp_eq_ok.mp hnormalize
  have hdecode (agent : Http.Configuration) :
      Http.decodeDocument (TypedProbeConfiguration.http c).modelDump = .ok agent ↔
        Http.decodeConfiguration (httpStruct c) = .ok agent := by
    rw [Http.decodeDocument, decodeStrict_eq_ok, decodeStruct_http hvalid hkeys]
    simp only [Option.some.injEq, exists_eq_left']
  simp only [hdecode, decodeConfiguration_http hvalid hbody]
  constructor
  · rintro ⟨agent, ⟨hpath, hhost, hheaders, hvalues, htexts, redirects, assertions, body,
      hredirects, -, -, rfl⟩, hsame⟩
    refine ⟨?_, hpath, hhost, hheaders, hvalues, htexts⟩
    intro hzero
    have hfive := hsame.maximumRedirects
    rw [← hredirects, if_pos hzero, hzero] at hfive
    cases hfive
  · rintro ⟨hredirects, hpath, hhost, hheaders, hvalues, htexts⟩
    have hrange := hvalid.maximumRedirects
    have hmaximum := hvalid.maximumResponseBytes
    refine ⟨_, ⟨hpath, hhost, hheaders, hvalues, htexts, ⟨c.maximumRedirects.toNat, by omega⟩,
      ⟨_, by rw [List.length_map]; exact hvalid.expectedHeaderValues_length⟩,
      ⟨_, hvalid.expectedBodyContains_length⟩, ?_, rfl, rfl, rfl⟩, ?_⟩
    · rw [if_neg hredirects]
      show _ = ((c.maximumRedirects.toNat : ℕ) : ℤ)
      omega
    · exact {
        scheme := by cases c.scheme <;> rfl
        port := rfl
        path := rfl
        method := by cases c.method <;> rfl
        followRedirects := rfl
        maximumRedirects := by
          show ((c.maximumRedirects.toNat : ℕ) : ℤ) = _
          omega
        hostHeader := rfl
        requestHeaders := rfl
        expectedStatusCodes := rfl
        expectedHeaderValues := by
          show (c.expectedHeaderValues.map _).map _ = _
          rw [List.map_map]
          rfl
        expectedBodyContains := rfl
        maximumResponseBytes := by
          show ((c.maximumResponseBytes.toNat : ℕ) : ℤ) = _
          omega
        addressFamily := rfl }

end Agreement

/-- The configuration of a monitor that expects the status code 200. -/
def sampleHttp : HttpProbeConfiguration := { expectedStatusCodes := [200] }

theorem http_agrees_sample : ∃ agent,
    Http.decodeDocument (TypedProbeConfiguration.http sampleHttp).modelDump = .ok agent ∧
      SameHttp sampleHttp agent := by
  refine (http_agrees_iff ⟨id, id, id, fun _ => false⟩ sampleHttp none _ (by decide) rfl).mpr
    ⟨by decide, by decide, ?_, ?_, ?_, ?_⟩ <;> simp [sampleHttp]

/-- A configuration that the server stores, and what the agent makes of it. -/
def storedHttp (c : HttpProbeConfiguration) (outcome : Except DecodeError Http.Configuration →
    Prop) : Prop :=
  (∀ txt timeout, serializeProbeConfiguration txt (.http c) timeout =
    .ok (TypedProbeConfiguration.http c).modelDump) ∧
    outcome (Http.decodeDocument (TypedProbeConfiguration.http c).modelDump)

/-- Zero redirects are five. A control character of Latin-1 in a path, and an IP address or
two full stops at the end of a host header are refused. -/
theorem http_disagrees : storedHttp { sampleHttp with maximumRedirects := 0 }
      (fun r => ∃ agent, r = .ok agent ∧ agent.maximumRedirects.val = 5) ∧
    storedHttp { sampleHttp with path := "/\u0085" }
      (fun r => r = .error (.invalid "HTTP path is invalid")) ∧
    storedHttp { sampleHttp with hostHeader := some "192.0.2.1" }
      (fun r => r = .error (.invalid "HTTP host header is invalid")) ∧
    storedHttp { sampleHttp with hostHeader := some "router.." }
      (fun r => r = .error (.invalid "HTTP host header is invalid")) :=
  ⟨⟨fun _ _ => rfl, _, rfl, rfl⟩, ⟨fun _ _ => rfl, rfl⟩, ⟨fun _ _ => rfl, rfl⟩,
    ⟨fun _ _ => rfl, rfl⟩⟩

end Bifrostnms.Proofs
