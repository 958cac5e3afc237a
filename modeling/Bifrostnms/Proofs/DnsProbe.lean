import Bifrostnms.Agent.DnsProbe
import Bifrostnms.Lib.Checks
import Bifrostnms.Proofs.ObservationReader
import Mathlib.Data.List.ReduceOption

/-!
# What the DNS probe reports

Every bound of `DnsObservationResult` but two holds for whatever the resolver answers:
the counts, the lengths of names, values and codes, and the sign of the duration
(`BoundedResult`). A result that keeps these bounds is read exactly if it has a slice of
answers in which no name and no value is empty (`isSome_readDnsResult_iff`). The
platform's resolver leaves no slice when a lookup fails, and the root, as a name or as
the target of a name, is written as an empty text.
-/

namespace Bifrostnms.Proofs

open Bifrostnms.Lib Bifrostnms.Backend Bifrostnms.Agent

/-! ## Names -/

/-- The text of a name ends in a dot, and only that of the root is just a dot. -/
theorem wireText_eq {labels : List (List UInt8)} (hne : ∀ label ∈ labels, label ≠ []) :
    ∃ text, Dns.wireText labels = text ++ [46] ∧ (text = [] ↔ labels = []) := by
  unfold Dns.wireText
  rcases List.eq_nil_or_concat labels with rfl | ⟨front, last, rfl⟩
  · exact ⟨[], rfl, by simp⟩
  · rw [List.concat_eq_append] at hne ⊢
    rw [if_neg (by simp), List.flatMap_append, List.flatMap_singleton, ← List.append_assoc]
    refine ⟨_, rfl, ?_⟩
    have hlast := hne last (List.mem_append_right _ (List.mem_singleton_self last))
    simp [hlast]

theorem normalizeName_dot (unicode : CaseMapping) (text : List UInt8) :
    Dns.normalizeName unicode (text ++ [46]) = utf8 ((runes text).map unicode.lower) := by
  have hdot : runes [46] = ['.'] := runes_utf8 ['.']
  have hlower : unicode.lower '.' = '.' := unicode.lower_ascii '.' (by decide)
  rw [Dns.normalizeName, toLower, runes_concat text (by decide), hdot, List.map_append,
    List.map_singleton, hlower, utf8_append]
  exact trimSuffix_append _ _

/-- A name has at most 253 characters, and none exactly if it is the root. -/
theorem goText_normalizeName (unicode : CaseMapping) (n : Dns.Name) :
    (goText (Dns.normalizeName unicode (Dns.wireText n.labels))).length ≤ 253 ∧
      (Dns.normalizeName unicode (Dns.wireText n.labels) = [] ↔ n.isRoot = true) := by
  obtain ⟨text, htext, hroot⟩ := wireText_eq n.labels_ne
  have hlen := n.length_le
  have hrunes := length_runes_le text
  rw [htext, List.length_append, List.length_singleton] at hlen
  rw [htext, normalizeName_dot]
  constructor
  · rw [goText, runes_utf8, String.length_ofList, List.length_map]
    omega
  · rw [← runes_eq_nil_iff, runes_utf8, List.map_eq_nil_iff, runes_eq_nil_iff, hroot,
      Dns.Name.isRoot, List.isEmpty_iff]

/-! ## Reading a result -/

/-- What holds of every answer. -/
structure BoundedAnswer (a : Dns.Answer) : Prop where
  name : (goText a.name).length ≤ 253
  value : a.value.length ≤ 1024

/-- Neither the name nor the value is empty. -/
def Named (a : Dns.Answer) : Prop := a.name ≠ [] ∧ a.value ≠ []

theorem readQueryType_text (t : Dns.QueryType) : ∃ t', readQueryType (.str t.text) = some t' := by
  cases t <;> exact ⟨_, rfl⟩

theorem isSome_readDnsAnswer_iff {a : Dns.Answer} (ha : BoundedAnswer a) :
    (readDnsAnswer a.document).isSome ↔ Named a := by
  obtain ⟨type, htype⟩ := readQueryType_text a.type
  have hvalue := (length_goText_le a.value).trans ha.value
  have hname := ha.name
  have hread : readDnsAnswer a.document = Option.filter DnsAnswer.valid
      (some ⟨type, goText a.name, a.ttl.map fun ttl => (ttl.toNat : ℤ), goText a.value⟩) := by
    have hmembers : (a.document.members.all fun m =>
        m.1 ∈ ["type", "name", "ttl", "value"]) = true := rfl
    have httl : readOptional readInt a.document "ttl" =
        some (a.ttl.map fun ttl => (ttl.toNat : ℤ)) :=
      readOptional_pointer "ttl" a.ttl rfl (fun _ => rfl) rfl
    rw [readDnsAnswer, if_pos hmembers, httl, readField_of_lookup "type" rfl, htype,
      readField_of_lookup "name" rfl, readField_of_lookup "value" rfl]
    rfl
  have httl : (a.ttl.map fun ttl => (ttl.toNat : ℤ)).all (fun n => 0 ≤ n) = true := by
    cases a.ttl <;> simp
  rw [hread, Option.isSome_filter, Option.any_some, DnsAnswer.valid, httl, Named,
    ← length_goText_pos, ← length_goText_pos]
  simp [sized, hname, hvalue]

/-- The bounds that every result of the probe keeps. -/
structure BoundedResult (r : Dns.Result) : Prop where
  resolverAddress : r.resolverAddress.all (sized 2 45) = true
  queryName : 1 ≤ r.queryName.length ∧ r.queryName.length ≤ 253
  responseCode : r.responseCode.all (sized 0 32) = true
  responseMs : ∀ ms ∈ r.responseMs, ms.neg = false
  answerCount : r.answerCount = (r.answers.getD []).length
  answers : (r.answers.getD []).length ≤ 100
  each : ∀ a ∈ r.answers.getD [], BoundedAnswer a
  assertions : r.assertionsFailed ≤ r.assertionsTotal
  assertionsTotal : r.assertionsTotal ≤ 100

/-- A result as it is read, with what is read of its answers. -/
def dnsObservation (r : Dns.Result) (type : DnsQueryType) (answers : List DnsAnswer) :
    DnsObservationResult where
  resolverAddress := r.resolverAddress
  queryName := String.ofList r.queryName
  queryType := type
  responseCode := r.responseCode
  responseMs := r.responseMs.map .finite
  answerCount := r.answerCount
  answers := answers
  truncated := r.truncated
  authoritative := r.authoritative
  assertionsTotal := r.assertionsTotal
  assertionsFailed := r.assertionsFailed

theorem readDnsResult_document (r : Dns.Result) :
    ∃ type, readDnsResult r.document = Option.filter DnsObservationResult.valid
      ((readList readDnsAnswer (pointer
        (fun answers => .arr (answers.map Dns.Answer.document)) r.answers)).map
          (dnsObservation r type)) := by
  obtain ⟨type, htype⟩ := readQueryType_text r.queryType
  refine ⟨type, ?_⟩
  rw [readDnsResult, readOptional_nullable "resolver_address" _ rfl,
    readField_of_lookup "query_name" rfl, readField_of_lookup "query_type" rfl, htype,
    readOptional_nullable "response_code" _ rfl, readOptional_float "response_ms" _ rfl,
    readField_of_lookup "answer_count" rfl, readField_of_lookup "answers" rfl,
    readField_of_lookup "truncated" rfl, readField_of_lookup "authoritative" rfl,
    readField_of_lookup "assertions_total" rfl, readField_of_lookup "assertions_failed" rfl]
  cases readList readDnsAnswer (pointer _ r.answers) with
  | none => rfl
  | some answers => rfl

theorem dnsObservation_valid {r : Dns.Result} (hr : BoundedResult r) (type : DnsQueryType)
    {answers : List DnsAnswer} (hlen : answers.length = (r.answers.getD []).length)
    (hvalid : ∀ a ∈ answers, a.valid = true) : (dnsObservation r type answers).valid = true := by
  have hms := all_nonNegative hr.responseMs
  have hname : sized 1 253 (String.ofList r.queryName) = true := by
    simpa [sized] using hr.queryName
  have hcount : inRange 0 100 r.answerCount = true ∧
      ((answers.length : ℤ) == r.answerCount) = true ∧ answers.length ≤ 100 := by
    have hanswers := hr.answers
    rw [inRange, decide_eq_true_iff, beq_iff_eq, hr.answerCount, ← hlen] at *
    omega
  have hassertions : inRange 0 100 r.assertionsTotal = true ∧
      inRange 0 100 r.assertionsFailed = true ∧ (r.assertionsFailed : ℤ) ≤ r.assertionsTotal := by
    have hle := hr.assertions
    have htotal := hr.assertionsTotal
    rw [inRange, inRange, decide_eq_true_iff, decide_eq_true_iff]
    omega
  simp only [DnsObservationResult.valid, dnsObservation, hr.resolverAddress, hname,
    hr.responseCode, hms, List.all_eq_true.mpr hvalid, hcount, hassertions, decide_true,
    Bool.and_self]

/-- A result with the bounds is accepted exactly if its answers are there and have
names and values. -/
theorem isSome_readDnsResult_iff {r : Dns.Result} (hr : BoundedResult r) :
    (readDnsResult r.document).isSome ↔
      ∃ answers, r.answers = some answers ∧ ∀ a ∈ answers, Named a := by
  obtain ⟨type, hread⟩ := readDnsResult_document r
  rw [hread]
  cases hanswers : r.answers with
  | none => simp [pointer, readList]
  | some answers =>
    have heach := hr.each
    rw [hanswers, Option.getD_some] at heach
    have hsome : (readList readDnsAnswer (.arr (answers.map Dns.Answer.document))).isSome ↔
        ∀ a ∈ answers, Named a := by
      rw [readList, isSome_mapM, List.forall_mem_map]
      exact forall₂_congr fun a ha => isSome_readDnsAnswer_iff (heach a ha)
    rw [pointer]
    constructor
    · intro h
      refine ⟨answers, rfl, hsome.mp ?_⟩
      cases hlist : readList readDnsAnswer (.arr (answers.map Dns.Answer.document)) with
      | none =>
        rw [hlist] at h
        cases h
      | some read => rfl
    · rintro ⟨_, heq, hnamed⟩
      obtain rfl := Option.some.inj heq
      obtain ⟨read, hlist⟩ := Option.isSome_iff_exists.mp (hsome.mpr hnamed)
      rw [hlist, Option.map_some, Option.isSome_filter, Option.any_some]
      rw [readList] at hlist
      refine dnsObservation_valid hr type ?_ fun a ha => ?_
      · rw [length_of_mapM_eq_some hlist, List.length_map, hanswers, Option.getD_some]
      · obtain ⟨x, -, hx⟩ := mem_of_mapM_eq_some hlist ha
        unfold readDnsAnswer at hx
        split_ifs at hx
        exact (Option.filter_eq_some_iff.mp hx).2

/-! ## What the probe builds -/

/-- The answers are there, and have names and values. -/
def AllNamed (r : Dns.Result) : Prop :=
  ∃ answers, r.answers = some answers ∧ ∀ a ∈ answers, Named a

theorem accepted_completed {r : Agent.Result} {result : Dns.Result}
    (hstatus : r.executionStatus = executionCompleted)
    (hresult : r.probeResult = some result.document) (hbounded : BoundedResult result) :
    ResultAccepted readDnsResult r ↔ AllNamed result := by
  rw [resultAccepted_iff hstatus hresult, isSome_readDnsResult_iff hbounded, AllNamed]

variable {run : Dns.Run} {c : Dns.Configuration} {result : Dns.Result}

theorem failedAssertions_le : Dns.failedAssertions run c result ≤
    1 + c.expectedAnswers.val.length := by
  unfold Dns.failedAssertions
  refine Nat.add_le_add ?_ List.countP_le_length
  split_ifs <;> omega

theorem accepted_assess (hbounded : BoundedResult result) :
    ResultAccepted readDnsResult (Dns.assess run c result) ↔ AllNamed result := by
  have hassessed : BoundedResult { result with
      assertionsTotal := 1 + c.expectedAnswers.val.length
      assertionsFailed := Dns.failedAssertions run c result } :=
    { hbounded with
      assertions := failedAssertions_le
      assertionsTotal := by
        have hanswers := c.expectedAnswers.property
        show 1 + c.expectedAnswers.val.length ≤ 100
        omega }
  unfold Dns.assess
  dsimp only
  split_ifs
  · exact (accepted_completed rfl rfl hassessed).trans Iff.rfl
  · exact (accepted_completed rfl rfl hassessed).trans Iff.rfl

theorem accepted_reportError {err : Dns.Error} (hbounded : BoundedResult result) :
    ResultAccepted readDnsResult (Dns.reportError run result err) ↔
      (Dns.classifyExchangeError run.context err).failed = true ∨ AllNamed result := by
  unfold Dns.reportError
  dsimp only
  split_ifs with hfailed
  · exact iff_of_true (resultAccepted_of_failed rfl) (.inl hfailed)
  · rw [accepted_completed rfl rfl hbounded]
    exact ⟨.inr, fun h => h.resolve_left hfailed⟩

theorem length_of_effectiveQueryName {target : String} {queryName : List Char}
    (h : Dns.effectiveQueryName target c = .ok queryName) :
    1 ≤ queryName.length ∧ queryName.length ≤ 253 := by
  unfold Dns.effectiveQueryName at h
  dsimp only at h
  split_ifs at h with hinvalid
  obtain rfl := Except.ok.inj h
  rw [not_or, not_or] at hinvalid
  obtain ⟨hne, hlen, -⟩ := hinvalid
  refine ⟨List.length_pos_iff.mpr hne, (length_le_length_utf8 _).trans ?_⟩
  omega

theorem bounded_baseResult {address : Option String} {queryName : List Char}
    {answers : Option (List Dns.Answer)} (haddress : address.all (sized 2 45) = true)
    (hname : 1 ≤ queryName.length ∧ queryName.length ≤ 253) (hlen : (answers.getD []).length ≤ 100)
    (heach : ∀ a ∈ answers.getD [], BoundedAnswer a) :
    BoundedResult (Dns.baseResult run c address queryName answers) where
  resolverAddress := haddress
  queryName := hname
  responseCode := rfl
  responseMs := by
    intro ms hms
    obtain rfl := Option.some.inj hms
    exact durationMs_neg run.elapsed
  answerCount := rfl
  answers := hlen
  each := heach
  assertions := Nat.le_refl 0
  assertionsTotal := Nat.zero_le 100

theorem BoundedResult.respond (h : BoundedResult result) {code : String}
    (hcode : code.length ≤ 32) (truncated authoritative : Bool) : BoundedResult { result with
      responseCode := some code
      truncated := truncated
      authoritative := authoritative } :=
  { h with responseCode := decide_eq_true ⟨Nat.zero_le _, hcode⟩ }

/-! ## The resolver of the platform -/

theorem name_of_lookupAnswers {unicode : CaseMapping} {resolver : Dns.SystemResolver}
    {queryName : List UInt8} {queryType : Dns.QueryType} {answers : List Dns.Answer}
    (h : Dns.lookupAnswers unicode resolver queryName queryType = .ok answers)
    {a : Dns.Answer} (ha : a ∈ answers) : a.name = queryName := by
  cases queryType <;> obtain ⟨values, -, rfl⟩ := map_eq_ok.mp h <;>
    simp only [List.mem_map, List.mem_singleton] at ha
  case cname => rw [ha]
  all_goals
    obtain ⟨value, -, rfl⟩ := ha
    rfl

/-- The answers of a lookup are within the bounds. -/
theorem bounded_of_systemLookup {unicode : CaseMapping} {resolver : Dns.SystemResolver}
    {queryName : List Char} {queryType : Dns.QueryType} {answers : List Dns.Answer}
    (h : Dns.systemLookup unicode resolver (utf8 queryName) queryType = .ok answers)
    (hname : queryName.length ≤ 253) :
    answers.length ≤ 100 ∧ ∀ a ∈ answers, BoundedAnswer a ∧ a.name = utf8 queryName := by
  unfold Dns.systemLookup at h
  split at h
  · cases h
  · next hlookup =>
      split_ifs at h with hmany hlong
      obtain rfl := Except.ok.inj h
      refine ⟨Nat.not_lt.mp hmany, fun a ha => ?_⟩
      have heq := name_of_lookupAnswers hlookup ha
      refine ⟨⟨?_, ?_⟩, heq⟩
      · rw [heq, goText, runes_utf8, String.length_ofList]
        exact hname
      · by_contra hlt
        exact hlong (List.any_eq_true.mpr ⟨a, ha, decide_eq_true (Nat.not_le.mp hlt)⟩)

/-- The lookup has returned answers with values, or its error is reported without a
typed result. -/
def SystemReportable (run : Dns.Run) (c : Dns.Configuration) (queryName : List Char) : Prop :=
  match Dns.systemLookup run.unicode run.resolver (utf8 queryName) c.queryType with
  | .ok answers => ∀ a ∈ answers, a.value ≠ []
  | .error err => err.isNotFound = false ∧ (Dns.classifyExchangeError run.context err).failed = true

theorem accepted_runSystem {queryName : List Char}
    (hname : 1 ≤ queryName.length ∧ queryName.length ≤ 253) :
    ResultAccepted readDnsResult (Dns.runSystem run c queryName) ↔
      SystemReportable run c queryName := by
  cases hlookup : Dns.systemLookup run.unicode run.resolver (utf8 queryName) c.queryType with
  | error err =>
    have hbounded : BoundedResult (Dns.baseResult run c none queryName none) :=
      bounded_baseResult rfl hname (Nat.zero_le _) fun a ha => by cases ha
    have hnone : ¬AllNamed (Dns.baseResult run c none queryName none) := by
      rintro ⟨answers, h, -⟩
      cases h
    simp only [Dns.runSystem, SystemReportable, hlookup]
    split_ifs with hfound
    · have hrespond := hbounded.respond (show "NXDOMAIN".length ≤ 32 by decide) false false
      refine (accepted_assess hrespond).trans (iff_of_false hnone fun h => ?_)
      rw [hfound] at h
      exact absurd h.1 (by decide)
    · rw [accepted_reportError hbounded, or_iff_left hnone]
      exact (and_iff_right (Bool.eq_false_iff.mpr hfound)).symm
  | ok answers =>
    obtain ⟨hlen, heach⟩ := bounded_of_systemLookup hlookup hname.2
    have hbounded : BoundedResult (Dns.baseResult run c none queryName (some answers)) :=
      bounded_baseResult rfl hname hlen fun a ha => (heach a ha).1
    have hutf8 : utf8 queryName ≠ [] := utf8_ne_nil (List.length_pos_iff.mp hname.1)
    have hrespond := hbounded.respond (show "NOERROR".length ≤ 32 by decide) false false
    simp only [Dns.runSystem, SystemReportable, hlookup]
    refine (accepted_assess hrespond).trans ?_
    constructor
    · rintro ⟨_, heq, hnamed⟩ a ha
      obtain rfl := Option.some.inj heq
      exact (hnamed a ha).2
    · intro hvalues
      refine ⟨answers, rfl, fun a ha => ⟨?_, hvalues a ha⟩⟩
      rw [(heach a ha).2]
      exact hutf8

/-! ## Explicit resolvers -/

/-- The value of a body is not written as an empty text. -/
def valueWritten : Dns.ResourceBody → Bool
  | .cname n | .ns n | .ptr n => !n.isRoot
  | .txt strings => strings.any fun s => s ≠ []
  | _ => true

/-- A resource that is reported has a name that is not the root, and a value. -/
def ResourceReportable (r : Dns.Resource) : Prop :=
  r.body = .other ∨ r.name.isRoot = false ∧ valueWritten r.body = true

theorem value_ne_nil_iff (unicode : CaseMapping) (n : Dns.Name) :
    Dns.normalizeName unicode (Dns.wireText n.labels) ≠ [] ↔ n.isRoot = false := by
  rw [ne_eq, (goText_normalizeName unicode n).2, Bool.not_eq_true]

theorem resourceValue_ne_nil_iff {unicode : CaseMapping} {body : Dns.ResourceBody}
    {type : Dns.QueryType} {value : List UInt8}
    (h : Dns.resourceValue unicode body = some (type, value)) :
    value ≠ [] ↔ valueWritten body = true := by
  cases body with
  | a address | aaaa address =>
    cases h
    exact iff_of_true (utf8_ne_nil (ipText_ne_nil address)) rfl
  | cname n | ns n | ptr n =>
    cases h
    rw [value_ne_nil_iff, valueWritten, Bool.not_eq_true']
  | mx pref n =>
    cases h
    refine iff_of_true (fun hnil => ?_) rfl
    exact utf8_ne_nil (by simp) (List.append_eq_nil_iff.mp hnil).1
  | txt strings =>
    cases h
    simp [valueWritten]
  | other => cases h

/-- What becomes of a resource that is no error. -/
theorem normalizeResource_some {unicode : CaseMapping} {r : Dns.Resource}
    {answer : Option Dns.Answer} (h : Dns.normalizeResource unicode r = some answer) :
    (∀ a ∈ answer, BoundedAnswer a) ∧ ((∀ a ∈ answer, Named a) ↔ ResourceReportable r) := by
  unfold Dns.normalizeResource at h
  split at h
  · next hvalue =>
      obtain rfl := Option.some.inj h
      have hother : r.body = .other := by
        cases hbody : r.body <;> rw [hbody] at hvalue <;> first | rfl | cases hvalue
      have hnone {p : Dns.Answer → Prop} : ∀ a ∈ (none : Option Dns.Answer), p a :=
        fun a ha => by cases ha
      exact ⟨hnone, iff_of_true hnone (.inl hother)⟩
  · next type value hvalue =>
      split_ifs at h with hlong
      obtain rfl := Option.some.inj h
      have hother : r.body ≠ .other := by
        intro hbody
        rw [hbody] at hvalue
        cases hvalue
      constructor
      · intro a ha
        obtain rfl := Option.some.inj ha
        exact ⟨(goText_normalizeName unicode r.name).1, Nat.not_lt.mp hlong⟩
      · rw [ResourceReportable, or_iff_right hother, ← resourceValue_ne_nil_iff hvalue,
          ← value_ne_nil_iff unicode]
        exact ⟨fun hall => hall _ rfl, fun hnamed a ha => Option.some.inj ha ▸ hnamed⟩

theorem length_responseCode_le (code : Fin 16) : (Dns.responseCode code).length ≤ 32 := by
  revert code
  decide

/-- A response that is read: its answers are within the bounds, and have names and
values if its resources do. -/
theorem parseResponse_some {unicode : CaseMapping} {content : Dns.Content}
    {parsed : Dns.ParsedResponse} (h : Dns.parseResponse unicode content = some parsed) :
    parsed.responseCode.length ≤ 32 ∧ parsed.answers.length ≤ 100 ∧
      (∀ a ∈ parsed.answers, BoundedAnswer a) ∧ ((∀ a ∈ parsed.answers, Named a) ↔
        ∀ r ∈ content.resources.getD [], ResourceReportable r) := by
  unfold Dns.parseResponse at h
  simp only [Option.bind_eq_bind, Option.bind_eq_some_iff] at h
  obtain ⟨_, -, header, -, _, -, resources, hresources, _, hfew, answers, hanswers, hparsed⟩ := h
  obtain rfl := Option.some.inj hparsed
  replace hfew : resources.length ≤ 100 := (Option.guard_eq_some' _).mp hfew
  rw [hresources, Option.getD_some]
  have hmem (a : Dns.Answer) : a ∈ answers.reduceOption ↔ some a ∈ answers :=
    List.reduceOption_mem_iff
  refine ⟨length_responseCode_le _, ?_, fun a ha => ?_, ?_⟩
  · have hlen := List.reduceOption_length_le answers
    rw [length_of_mapM_eq_some hanswers] at hlen
    exact hlen.trans hfew
  · obtain ⟨r, -, hr⟩ := mem_of_mapM_eq_some hanswers ((hmem a).mp ha)
    exact (normalizeResource_some hr).1 a rfl
  · constructor
    · intro hall r hr
      obtain ⟨answer, hanswer⟩ := Option.isSome_iff_exists.mp
        (isSome_mapM.mp (Option.isSome_iff_exists.mpr ⟨_, hanswers⟩) r hr)
      refine (normalizeResource_some hanswer).2.mp fun a ha => hall a ((hmem a).mpr ?_)
      exact mem_mapM_of_mem hanswers hr (hanswer.trans (congrArg some ha))
    · intro hall a ha
      obtain ⟨r, hr, hanswer⟩ := mem_of_mapM_eq_some hanswers ((hmem a).mp ha)
      exact (normalizeResource_some hanswer).2.mpr (hall r hr) a rfl

/-- What the resolver has sent, if it is read at all, has names and values. -/
def ExplicitReportable (run : Dns.Run) (transport : Dns.Transport) : Prop :=
  run.queryBuilt = true → ∀ content, Dns.exchange transport run.udp run.tcp = .ok content →
    (Dns.parseResponse run.unicode content).isSome →
      ∀ r ∈ content.resources.getD [], ResourceReportable r

theorem accepted_runExplicit {queryName : List Char} {address : String}
    {transport : Dns.Transport} (haddress : parseIp address.toList = true)
    (hname : 1 ≤ queryName.length ∧ queryName.length ≤ 253) :
    ResultAccepted readDnsResult (Dns.runExplicit run c queryName address transport) ↔
      ExplicitReportable run transport := by
  have hsized : (some address).all (sized 2 45) = true := by
    have hlen := length_of_parseIp haddress
    rw [String.length_toList] at hlen
    exact decide_eq_true hlen
  unfold Dns.runExplicit ExplicitReportable
  by_cases hbuilt : run.queryBuilt = true
  swap
  · rw [if_pos (by simpa using hbuilt)]
    exact iff_of_true (resultAccepted_of_failed rfl) fun h => (hbuilt h).elim
  rw [if_neg (by simpa using hbuilt), imp_iff_right hbuilt]
  cases hexchange : Dns.exchange transport run.udp run.tcp with
  | error err =>
    have hbounded : BoundedResult (Dns.baseResult run c (some address) queryName (some [])) :=
      bounded_baseResult hsized hname (Nat.zero_le _) fun a ha => by cases ha
    refine iff_of_true ((accepted_reportError hbounded).mpr (.inr ?_)) ?_
    · exact ⟨[], rfl, fun a ha => by cases ha⟩
    · intro content hcontent
      cases hcontent
  | ok content =>
    dsimp only
    cases hparse : Dns.parseResponse run.unicode content with
    | none =>
      refine iff_of_true (resultAccepted_of_failed rfl) fun content' hcontent hsome => ?_
      obtain rfl := Except.ok.inj hcontent
      rw [hparse] at hsome
      cases hsome
    | some parsed =>
      obtain ⟨hcode, hlen, heach, hnamed⟩ := parseResponse_some hparse
      have hbounded : BoundedResult
          (Dns.baseResult run c (some address) queryName (some parsed.answers)) :=
        bounded_baseResult hsized hname hlen heach
      have hrespond := hbounded.respond hcode parsed.truncated parsed.authoritative
      refine (accepted_assess hrespond).trans ?_
      constructor
      · rintro ⟨_, heq, hall⟩ content' hcontent -
        obtain rfl := Option.some.inj heq
        obtain rfl := Except.ok.inj hcontent
        exact hnamed.mp hall
      · intro hall
        refine ⟨parsed.answers, rfl, hnamed.mpr (hall content rfl ?_)⟩
        rw [hparse]
        rfl

/-! ## Whole runs -/

/-- What a resolver has to do for the result of a run to be accepted. -/
def DnsReportable (run : Dns.Run) (target : String) (c : Dns.Configuration) : Prop :=
  ∀ queryName, Dns.effectiveQueryName target c = .ok queryName → match c.resolver with
    | .system => SystemReportable run c queryName
    | .explicit _ _ transport => ExplicitReportable run transport

/-- For every behaviour of the resolver and every configuration that is accepted: a
completed result is read by the control plane exactly if the run is reportable. -/
theorem dns_accepted_iff {run : Dns.Run} {raw : Dns.RawConfiguration}
    {c : Dns.Configuration} (hc : Dns.decodeConfiguration run.unicode raw = .ok c)
    (target : String) : ResultAccepted readDnsResult (Dns.runDns run target (some raw)) ↔
      DnsReportable run target c := by
  unfold Dns.runDns DnsReportable
  rw [Option.map_some, hc]
  dsimp only
  cases hname : Dns.effectiveQueryName target c with
  | error err =>
    refine iff_of_true (resultAccepted_of_failed rfl) fun queryName h => ?_
    cases h
  | ok queryName =>
    have hlen := length_of_effectiveQueryName hname
    simp only [Except.ok.injEq, forall_eq']
    cases c.resolver with
    | system => exact accepted_runSystem hlen
    | explicit address port transport =>
      exact accepted_runExplicit address.property hlen

/-! ## Three resolvers -/

/-- A run in which every lookup and every exchange fails with the error. -/
def failingRun (err : Dns.Error) : Dns.Run where
  unicode := asciiMapping
  equalFold := fun a b => a == b
  context := none
  startedAt := 0
  finishedAt := 1000000
  elapsed := 1000000
  resolver := ⟨.error err, .error err, .error err, .error err, .error err, .error err⟩
  queryBuilt := true
  udp := .error err
  tcp := .error err

/-- The addresses of the target from the platform's resolver. -/
def systemConfiguration : Dns.Configuration :=
  ⟨.system, none, .a, false, ["NOERROR"], ⟨[], by decide⟩⟩

theorem decode_systemConfiguration : Dns.decodeConfiguration asciiMapping
    { schemaVersion := 1, queryType := "A" } = .ok systemConfiguration := rfl

/-- A lookup that finds an address. -/
def addressRun : Dns.Run := { failingRun {} with
  resolver := { (failingRun {}).resolver with lookupIP := .ok [[192, 0, 2, 1]] } }

theorem dns_accepted_address : ResultAccepted readDnsResult (Dns.runDns addressRun "router.example"
      (some { schemaVersion := 1, queryType := "A" })) := by
  have hdecode : Dns.decodeConfiguration addressRun.unicode
      { schemaVersion := 1, queryType := "A" } = .ok systemConfiguration :=
    decode_systemConfiguration
  refine (dns_accepted_iff hdecode "router.example").mpr ?_
  intro queryName _
  show SystemReportable addressRun systemConfiguration queryName
  have hlookup : Dns.systemLookup addressRun.unicode addressRun.resolver (utf8 queryName)
      systemConfiguration.queryType = .ok [{
        type := .a, name := utf8 queryName, value := utf8 (ipText [192, 0, 2, 1]) }] := by
    have hlong : ¬Dns.maximumRecordBytes < (utf8 (ipText [192, 0, 2, 1])).length := by
      decide
    simp [Dns.systemLookup, Dns.lookupAnswers, systemConfiguration, addressRun, Except.map,
      Dns.maximumAnswers, hlong]
  rw [SystemReportable, hlookup]
  intro a ha
  rw [List.mem_singleton.mp ha]
  exact utf8_ne_nil (ipText_ne_nil _)

/-- The texts of the target from an explicit resolver. -/
def textConfiguration : Dns.Configuration :=
  ⟨.explicit ⟨"192.0.2.53", by decide⟩ 53 .udpWithTcpFallback, none, .txt, false,
    ["NOERROR"], ⟨[], by decide⟩⟩

/-- A response with one text record without a text. -/
def emptyTextRun : Dns.Run := { failingRun {} with
  udp := .ok {
    size := 40
    header := some ⟨true, false, false, 0⟩
    resources := some [⟨⟨[[116]], by decide, by decide⟩, 60, .txt [[]]⟩] } }

/-- Results that are completed and rejected: that of a name that does not exist, asked
of the platform's resolver, which has no slice of answers; and that of a text record
without a text. -/
theorem dns_rejected : ¬ResultAccepted readDnsResult
      (Dns.runDns (failingRun { isNotFound := true }) "router.example"
        (some { schemaVersion := 1, queryType := "A" })) ∧
    ¬ResultAccepted readDnsResult (Dns.runDns emptyTextRun "t" (some {
      schemaVersion := 1, resolverMode := "explicit"
      resolverAddress := some "192.0.2.53", queryType := "TXT" })) := by
  constructor
  · show ¬ResultAccepted readDnsResult (Dns.runSystem (failingRun { isNotFound := true })
      systemConfiguration "router.example".toList)
    rw [accepted_runSystem (by decide)]
    rintro ⟨hfound, -⟩
    cases hfound
  · show ¬ResultAccepted readDnsResult (Dns.runExplicit emptyTextRun textConfiguration "t".toList
      "192.0.2.53" .udpWithTcpFallback)
    rw [accepted_runExplicit (by decide) (by decide)]
    intro h
    obtain hother | ⟨-, hvalue⟩ := h rfl _ rfl rfl _ List.mem_cons_self
    · cases hother
    · exact absurd hvalue (by decide)

end Bifrostnms.Proofs
