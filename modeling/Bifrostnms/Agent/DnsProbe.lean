import Bifrostnms.Agent.IcmpProbe
import Bifrostnms.Lib.GoText
import Bifrostnms.Lib.Ip

/-!
# The DNS probe (`probes/dns`)

One run of the probe. What it meets from outside is given: what the lookups of the
platform's resolver return, what an exchange with an explicit resolver over UDP and
over TCP returns, the state of the context, and the time that passes by the monotonic
clock. A response is given as the message library reads it, or as far as it can read
it; a domain name in it is a list of labels.

Strings that come from the network are bytes (`Lib/GoText.lean`); those of a
configuration were read from JSON and are valid text.
-/

namespace Bifrostnms.Agent.Dns

open Bifrostnms.Lib

def maximumAnswers : ℕ := 100

def maximumRecordBytes : ℕ := 1024

def maximumMessageBytes : ℕ := 65535

/-! ## Configurations (`configuration.go`) -/

inductive QueryType where
  | a | aaaa | cname | mx | ns | txt | ptr
deriving DecidableEq

def QueryType.text : QueryType → String
  | .a => "A"
  | .aaaa => "AAAA"
  | .cname => "CNAME"
  | .mx => "MX"
  | .ns => "NS"
  | .txt => "TXT"
  | .ptr => "PTR"

inductive ResolverMode where
  | system | explicit

inductive Transport where
  | udpWithTcpFallback | tcp
deriving DecidableEq

/-- A configuration as it was read from JSON. -/
structure RawConfiguration where
  schemaVersion : ℕ
  resolverMode : String := ""
  resolverAddress : Option String := none
  resolverPort : ℤ := 0
  transport : String := ""
  queryName : Option String := none
  queryType : String
  recursionDesired : Bool := false
  expectedResponseCodes : List String := []
  expectedAnswers : List String := []

inductive Resolver where
  | system
  | explicit (address : {s : String // parseIp s.toList = true}) (port : ℤ)
      (transport : Transport)

/-- A configuration that `DecodeConfiguration` has accepted. -/
structure Configuration where
  resolver : Resolver
  queryName : Option String
  queryType : QueryType
  recursionDesired : Bool
  expectedResponseCodes : List String
  expectedAnswers : {answers : List String // answers.length ≤ 32}

/-- `strings.ContainsAny(value, "\r\n\x00")` -/
def containsControl (value : List Char) : Bool :=
  value.any fun c => c = '\r' ∨ c = '\n' ∨ c = '\x00'

def decodeResolverMode : String → Except String ResolverMode
  | "" | "system" => .ok .system
  | "explicit" => .ok .explicit
  | _ => .error "DNS resolver mode is invalid"

def decodeTransport : String → Except String Transport
  | "" | "udp_with_tcp_fallback" => .ok .udpWithTcpFallback
  | "tcp" => .ok .tcp
  | _ => .error "DNS transport is invalid"

def decodeResolver (mode : ResolverMode) (address : Option String) (port : ℤ)
    (transport : Transport) : Except String Resolver :=
  match mode with
  | .explicit =>
    match address with
    | some s =>
      if h : parseIp s.toList = true then .ok (.explicit ⟨s, h⟩ port transport)
      else .error "explicit DNS resolver address must be an IP address"
    | none => .error "explicit DNS resolver address must be an IP address"
  | .system =>
    if address.isSome then
      .error "system DNS resolver mode cannot specify an explicit resolver"
    else if transport ≠ .udpWithTcpFallback then
      .error "system DNS resolver mode uses platform resolver transport behavior"
    else .ok .system

def decodeQueryName (unicode : CaseMapping) (name : String) : Except String String :=
  let normalized := (trimSuffix (trimSpace name.toList) ['.']).map unicode.lower
  if normalized = [] ∨ 253 < (utf8 normalized).length ∨ containsControl normalized then
    .error "DNS query name is invalid"
  else .ok (String.ofList normalized)

def decodeQueryType (text : String) : Except String QueryType :=
  match [QueryType.a, .aaaa, .cname, .mx, .ns, .txt, .ptr].find? (·.text = text) with
  | some queryType => .ok queryType
  | none => .error "DNS query type is invalid"

def validResponseCode (code : String) : Bool :=
  code ∈ ["NOERROR", "FORMERR", "SERVFAIL", "NXDOMAIN", "NOTIMP", "REFUSED"]

/-- The loop over the expected codes, with those before. -/
def decodeResponseCodes (unicode : CaseMapping) (seenCodes : List String) :
    List String → Except String (List String)
  | [] => .ok seenCodes
  | code :: codes =>
    let code := String.ofList ((trimSpace code.toList).map unicode.upper)
    if !validResponseCode code then .error "DNS expected response code is invalid"
    else if code ∈ seenCodes then
      .error "DNS expected response codes must be unique"
    else decodeResponseCodes unicode (seenCodes ++ [code]) codes

def decodeExpectedAnswers (answers : List String) :
    Except String {answers : List String // answers.length ≤ 32} :=
  if h : answers.length ≤ 32 then
    if answers.any fun value => value = "" ∨ maximumRecordBytes < (utf8 value.toList).length ∨
        containsControl value.toList then
      .error "DNS answer assertion is invalid"
    else .ok ⟨answers, h⟩
  else .error "DNS answer assertion count exceeds the valid range"

/-- `DecodeConfiguration`, after the strict decoding of the JSON. -/
def decodeConfiguration (unicode : CaseMapping) (raw : RawConfiguration) :
    Except String Configuration := do
  if raw.schemaVersion ≠ 1 then throw "unsupported DNS configuration schema"
  let mode ← decodeResolverMode raw.resolverMode
  let port := if raw.resolverPort = 0 then 53 else raw.resolverPort
  if port < 1 ∨ 65535 < port then
    throw "DNS resolver port is outside the valid range"
  let transport ← decodeTransport raw.transport
  let resolver ← decodeResolver mode raw.resolverAddress port transport
  let queryName ← raw.queryName.mapM (decodeQueryName unicode)
  let queryType ← decodeQueryType raw.queryType
  let codes := if raw.expectedResponseCodes = [] then ["NOERROR"]
    else raw.expectedResponseCodes
  if 16 < codes.length then
    throw "DNS expected response code count exceeds the valid range"
  let expectedResponseCodes ← decodeResponseCodes unicode [] codes
  let expectedAnswers ← decodeExpectedAnswers raw.expectedAnswers
  return ⟨resolver, queryName, queryType, raw.recursionDesired, expectedResponseCodes,
    expectedAnswers⟩

/-! ## Results -/

structure Answer where
  type : QueryType
  name : List UInt8
  ttl : Option UInt32 := none
  value : List UInt8

/-- A typed result. No slice of answers is different from an empty one. -/
structure Result where
  resolverAddress : Option String := none
  queryName : List Char
  queryType : QueryType
  responseCode : Option String := none
  responseMs : Option Decimal
  answerCount : ℕ := 0
  answers : Option (List Answer)
  truncated : Bool := false
  authoritative : Bool := false
  assertionsTotal : ℕ := 0
  assertionsFailed : ℕ := 0

def Answer.document (a : Answer) : Json GoNum := .obj [("type", .str a.type.text),
  ("name", .str (goText a.name)), ("ttl", pointer (fun ttl => .num (.int ttl.toNat)) a.ttl),
  ("value", .str (goText a.value))]

/-- `json.Marshal` of a result. -/
def Result.document (r : Result) : Json GoNum := .obj [
  ("resolver_address", nullable r.resolverAddress),
  ("query_name", .str (String.ofList r.queryName)), ("query_type", .str r.queryType.text),
  ("response_code", nullable r.responseCode),
  ("response_ms", pointer (fun ms => .num (.float64 ms)) r.responseMs),
  ("answer_count", .num (.int r.answerCount)),
  ("answers", pointer (fun answers => .arr (answers.map Answer.document)) r.answers),
  ("truncated", .bool r.truncated), ("authoritative", .bool r.authoritative),
  ("assertions_total", .num (.int r.assertionsTotal)),
  ("assertions_failed", .num (.int r.assertionsFailed))]

def completedUnhealthy (startedAt finishedAt : ℤ) (result : Result)
    (category code message : String) : Agent.Result where
  startedAt := startedAt
  finishedAt := finishedAt
  executionStatus := executionCompleted
  assessment := assessmentUnhealthy
  errorCategory := some category
  errorCode := code
  errorMessage := message
  probeResult := some result.document

def failed (startedAt finishedAt : ℤ) (category code message : String) : Agent.Result where
  startedAt := startedAt
  finishedAt := finishedAt
  executionStatus := executionFailed
  assessment := assessmentUnknown
  errorCategory := some category
  errorCode := code
  errorMessage := message

/-! ## Errors -/

/-- What `errors.Is` and `errors.As` find in an error. -/
structure Error where
  /-- A `*net.DNSError` for a name that does not exist. -/
  isNotFound : Bool := false
  deadlineExceeded : Bool := false
  canceled : Bool := false
  /-- `EMFILE`, `ENFILE`, `ENOBUFS` or `ENOMEM`. -/
  localResource : Bool := false
  /-- A `net.Error` that is a timeout. -/
  timeout : Bool := false

structure ErrorClassification where
  category : String
  code : String
  message : String
  failed : Bool := false

def classifyExchangeError (ctx : Option ContextError) (err : Error) : ErrorClassification :=
  if ctx = some .deadlineExceeded ∨ err.deadlineExceeded then
    ⟨"timeout", "dns_resolver_timeout", "DNS resolver query timed out.", false⟩
  else if ctx = some .canceled ∨ err.canceled then
    ⟨"internal", "dns_cancelled", "DNS query was cancelled locally.", true⟩
  else if err.localResource then
    ⟨"resource_limit", "dns_local_resource_exhausted",
      "DNS query could not start because local resources are exhausted.", true⟩
  else if err.timeout then
    ⟨"timeout", "dns_resolver_timeout", "DNS resolver query timed out.", false⟩
  else
    ⟨"connection", "dns_resolver_unreachable", "DNS resolver could not be reached.", false⟩

/-! ## The resolver of the platform -/

/-- What each lookup returns for the query name. -/
structure SystemResolver where
  lookupIP : Except Error (List (List UInt8))
  lookupCNAME : Except Error (List UInt8)
  lookupMX : Except Error (List (UInt16 × List UInt8))
  lookupNS : Except Error (List (List UInt8))
  lookupTXT : Except Error (List (List UInt8))
  lookupAddr : Except Error (List (List UInt8))

def normalizeName (unicode : CaseMapping) (value : List UInt8) : List UInt8 :=
  trimSuffix (toLower unicode value) [46]

/-- `fmt.Sprintf("%d %s", pref, host)` -/
def mxText (pref : UInt16) (host : List UInt8) : List UInt8 :=
  utf8 ((toString pref.toNat).toList ++ [' ']) ++ host

def lookupAnswers (unicode : CaseMapping) (resolver : SystemResolver)
    (queryName : List UInt8) : QueryType → Except Error (List Answer)
  | .a => resolver.lookupIP.map fun addresses => addresses.map fun address =>
    { type := .a, name := queryName, value := utf8 (ipText address) }
  | .aaaa => resolver.lookupIP.map fun addresses => addresses.map fun address =>
    { type := .aaaa, name := queryName, value := utf8 (ipText address) }
  | .cname => resolver.lookupCNAME.map fun value =>
    [{ type := .cname, name := queryName, value := normalizeName unicode value }]
  | .mx => resolver.lookupMX.map fun values => values.map fun (pref, host) =>
    { type := .mx, name := queryName, value := mxText pref (normalizeName unicode host) }
  | .ns => resolver.lookupNS.map fun values => values.map fun host =>
    { type := .ns, name := queryName, value := normalizeName unicode host }
  | .txt => resolver.lookupTXT.map fun values => values.map fun value =>
    { type := .txt, name := queryName, value := value }
  | .ptr => resolver.lookupAddr.map fun values => values.map fun value =>
    { type := .ptr, name := queryName, value := normalizeName unicode value }

/-- `systemLookup`. Too many answers and one that is too long are plain errors. -/
def systemLookup (unicode : CaseMapping) (resolver : SystemResolver)
    (queryName : List UInt8) (queryType : QueryType) : Except Error (List Answer) :=
  match lookupAnswers unicode resolver queryName queryType with
  | .error err => .error err
  | .ok answers =>
    if maximumAnswers < answers.length then .error {}
    else if answers.any fun a => maximumRecordBytes < a.value.length then .error {}
    else .ok answers

/-! ## Messages -/

/-- `Name.String`: every label with a dot after it. -/
def wireText (labels : List (List UInt8)) : List UInt8 :=
  if labels = [] then [46] else labels.flatMap fun label => label ++ [46]

/-- A name of a message that was read. -/
structure Name where
  labels : List (List UInt8)
  labels_ne : ∀ label ∈ labels, label ≠ []
  length_le : (wireText labels).length ≤ 254

def Name.isRoot (n : Name) : Bool := n.labels.isEmpty

inductive ResourceBody where
  | a (address : List UInt8)
  | aaaa (address : List UInt8)
  | cname (name : Name)
  | mx (pref : UInt16) (name : Name)
  | ns (name : Name)
  | ptr (name : Name)
  | txt (strings : List (List UInt8))
  /-- A body of another type. -/
  | other

structure Resource where
  name : Name
  ttl : UInt32
  body : ResourceBody

structure Header where
  response : Bool
  authoritative : Bool
  truncated : Bool
  /-- The four bits of the header. -/
  rcode : Fin 16

/-- A response, with the parts of it that the message library can read. -/
structure Content where
  size : ℕ
  /-- `parser.Start`. -/
  header : Option Header
  /-- `parser.AllQuestions` and `parser.AllAnswers`. -/
  resources : Option (List Resource)

def responseCode (code : Fin 16) : String :=
  match code.val with
  | 0 => "NOERROR"
  | 1 => "FORMERR"
  | 2 => "SERVFAIL"
  | 3 => "NXDOMAIN"
  | 4 => "NOTIMP"
  | 5 => "REFUSED"
  | n => "RCODE" ++ toString n

/-- The type and the value of an answer, for a body of a supported type. -/
def resourceValue (unicode : CaseMapping) : ResourceBody → Option (QueryType × List UInt8)
  | .a address => some (.a, utf8 (ipText address))
  | .aaaa address => some (.aaaa, utf8 (ipText address))
  | .cname n => some (.cname, normalizeName unicode (wireText n.labels))
  | .mx pref n => some (.mx, mxText pref (normalizeName unicode (wireText n.labels)))
  | .ns n => some (.ns, normalizeName unicode (wireText n.labels))
  | .ptr n => some (.ptr, normalizeName unicode (wireText n.labels))
  | .txt strings => some (.txt, strings.flatten)
  | .other => none

/-- `normalizeResource`: an answer, or nothing for an unsupported type; `none` is an
error. -/
def normalizeResource (unicode : CaseMapping) (resource : Resource) : Option (Option Answer) :=
  match resourceValue unicode resource.body with
  | none => some none
  | some (type, value) =>
    if maximumRecordBytes < value.length then none
    else some (some {
      type := type
      name := normalizeName unicode (wireText resource.name.labels)
      ttl := some resource.ttl
      value := value })

structure ParsedResponse where
  responseCode : String
  answers : List Answer
  truncated : Bool
  authoritative : Bool

/-- `parseResponse`; no caller looks at its error. -/
def parseResponse (unicode : CaseMapping) (content : Content) : Option ParsedResponse := do
  guard (content.size ≤ maximumMessageBytes)
  let header ← content.header
  guard header.response
  let resources ← content.resources
  guard (resources.length ≤ maximumAnswers)
  let answers ← resources.mapM (normalizeResource unicode)
  return ⟨responseCode header.rcode, answers.reduceOption, header.truncated, header.authoritative⟩

/-- `exchange`, given what an exchange over each transport returns. -/
def exchange (transport : Transport) (udp tcp : Except Error Content) : Except Error Content :=
  match transport with
  | .tcp => tcp
  | .udpWithTcpFallback =>
    match udp with
    | .error err => .error err
    | .ok response =>
      match response.header with
      | none => .error {}
      | some header => if header.truncated then tcp else .ok response

/-! ## Runs -/

/-- What one run meets. -/
structure Run where
  unicode : CaseMapping
  /-- `strings.EqualFold`. -/
  equalFold : List UInt8 → List UInt8 → Bool
  context : Option ContextError
  startedAt : ℤ
  finishedAt : ℤ
  /-- The time of the lookup or the exchange by the monotonic clock. -/
  elapsed : ℕ
  resolver : SystemResolver
  /-- Whether `buildQuery` can represent the name. -/
  queryBuilt : Bool
  udp : Except Error Content
  tcp : Except Error Content

section Runs

variable (run : Run) (configuration : Configuration)

def answerMatches (queryType : QueryType) (actual expected : List UInt8) : Bool :=
  match queryType with
  | .cname | .ns | .ptr | .mx => run.equalFold actual expected
  | _ => actual == expected

/-- The number of assertions that fail. -/
def failedAssertions (result : Result) : ℕ :=
  (if result.responseCode.any (· ∈ configuration.expectedResponseCodes) then 0 else 1) +
    configuration.expectedAnswers.val.countP fun expected =>
      !((result.answers.getD []).any fun answer =>
        answerMatches run configuration.queryType answer.value (utf8 expected.toList))

def assess (result : Result) : Agent.Result :=
  let failed := failedAssertions run configuration result
  let result := { result with
    assertionsTotal := 1 + configuration.expectedAnswers.val.length
    assertionsFailed := failed }
  if 0 < failed then
    completedUnhealthy run.startedAt run.finishedAt result "assertion"
      "dns_assertion_failed" "One or more DNS assertions failed."
  else
    { startedAt := run.startedAt
      finishedAt := run.finishedAt
      executionStatus := executionCompleted
      assessment := assessmentHealthy
      probeResult := some result.document }

/-- How a run ends with an error of the resolver. -/
def reportError (result : Result) (err : Error) : Agent.Result :=
  let classification := classifyExchangeError run.context err
  if classification.failed then
    failed run.startedAt run.finishedAt classification.category classification.code
      classification.message
  else
    completedUnhealthy run.startedAt run.finishedAt result classification.category
      classification.code classification.message

/-- The result of a run before it is assessed. -/
def baseResult (resolverAddress : Option String) (queryName : List Char)
    (answers : Option (List Answer)) : Result where
  resolverAddress := resolverAddress
  queryName := queryName
  queryType := configuration.queryType
  responseMs := some (durationMs run.elapsed)
  answers := answers
  answerCount := (answers.getD []).length

def runExplicit (queryName : List Char) (address : String) (transport : Transport) : Agent.Result :=
  if !run.queryBuilt then
    failed run.startedAt run.finishedAt "invalid_configuration" "dns_query_build_failed"
      "DNS query could not be represented safely."
  else
    match exchange transport run.udp run.tcp with
    | .error err =>
      reportError run (baseResult run configuration (some address) queryName (some [])) err
    | .ok response =>
      match parseResponse run.unicode response with
      | none => failed run.startedAt run.finishedAt "protocol" "dns_response_malformed"
          "DNS resolver returned a malformed or unsupported response."
      | some parsed => assess run configuration
          { baseResult run configuration (some address) queryName (some parsed.answers) with
            responseCode := some parsed.responseCode
            truncated := parsed.truncated
            authoritative := parsed.authoritative }

def runSystem (queryName : List Char) : Agent.Result :=
  let result := baseResult run configuration none queryName
  match systemLookup run.unicode run.resolver (utf8 queryName) configuration.queryType with
  | .error err =>
    -- A lookup that fails returns no slice.
    if err.isNotFound then
      assess run configuration { result none with responseCode := some "NXDOMAIN" }
    else reportError run (result none) err
  | .ok answers =>
    assess run configuration { result (some answers) with responseCode := some "NOERROR" }

end Runs

def effectiveQueryName (target : String) (configuration : Configuration) :
    Except String (List Char) :=
  let value := trimSuffix (trimSpace (configuration.queryName.getD target).toList) ['.']
  if value = [] ∨ 253 < (utf8 value).length ∨ containsControl value then
    .error "invalid DNS query name"
  else .ok value

/-- `Probe.Run`, with the configuration unless its JSON cannot be decoded. -/
def runDns (run : Run) (targetAddress : String) (raw : Option RawConfiguration) : Agent.Result :=
  match raw.map (decodeConfiguration run.unicode) with
  | some (.ok configuration) =>
    match effectiveQueryName targetAddress configuration with
    | .error _ => failed run.startedAt run.finishedAt "invalid_configuration"
        "invalid_dns_query_name" "DNS query name is invalid."
    | .ok queryName =>
      match configuration.resolver with
      | .system => runSystem run configuration queryName
      | .explicit address _ transport =>
        runExplicit run configuration queryName address transport
  | _ => failed run.startedAt run.finishedAt "invalid_configuration"
      "invalid_dns_configuration" "DNS configuration is invalid."

end Bifrostnms.Agent.Dns
