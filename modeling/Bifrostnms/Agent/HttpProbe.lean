import Bifrostnms.Agent.IcmpProbe
import Bifrostnms.Lib.Ip
import Bifrostnms.Lib.Url

/-!
# The HTTP probe (`probes/http`)

One run of the probe. What the web server does is given for each request of a chain of
redirects: the request fails, or a response comes, with or without a location that the
client can go on to. Durations are by the monotonic clock.

A configuration that `DecodeConfiguration` has accepted carries the bounds that its
counts keep. The headers of a request are in the order in which the map of the source
is ranged over, which is not fixed.
-/

namespace Bifrostnms.Agent.Http

open Bifrostnms.Lib

/-! ## Configurations (`configuration.go`) -/

def defaultMaximumResponseBytes : ℤ := 1048576

def maximumResponseBytes : ℤ := 4194304

inductive Scheme where
  | http | https
deriving DecidableEq

def Scheme.text : Scheme → String
  | .http => "http"
  | .https => "https"

inductive Method where
  | get | head
deriving DecidableEq

def Method.text : Method → String
  | .get => "GET"
  | .head => "HEAD"

structure HeaderAssertion where
  name : String
  value : String

/-- A configuration as it was read from JSON. -/
structure RawConfiguration where
  schemaVersion : ℕ
  scheme : String := ""
  port : Option ℤ := none
  path : String := ""
  method : String := ""
  followRedirects : Bool := false
  maximumRedirects : ℤ := 0
  hostHeader : Option String := none
  requestHeaders : List (String × String) := []
  expectedStatusCodes : List ℤ := []
  expectedHeaderValues : List HeaderAssertion := []
  expectedBodyContains : List String := []
  maximumResponseBytes : ℤ := 0
  addressFamily : String := ""

/-- A configuration that `DecodeConfiguration` has accepted. -/
structure Configuration where
  scheme : Scheme
  port : Option ℤ
  path : String
  method : Method
  followRedirects : Bool
  maximumRedirects : {n : ℕ // n ≤ 10}
  hostHeader : Option String
  requestHeaders : List (String × String)
  expectedStatusCodes : List ℤ
  expectedHeaderValues : {values : List HeaderAssertion // values.length ≤ 32}
  expectedBodyContains : {values : List String // values.length ≤ 16}
  maximumResponseBytes : ℕ
  addressFamily : AddressFamily

/-- `unicode.IsControl` -/
def isControl (c : Char) : Bool := c.toNat < 32 ∨ 127 ≤ c.toNat ∧ c.toNat < 160

def containsControl (value : String) : Bool := value.toList.any isControl

def validHeaderName (value : String) : Bool :=
  value ≠ "" && value.toList.all fun c =>
    c.isAlphanum || "!#$%&'*+-.^_`|~".toList.contains c

/-- `textproto.CanonicalMIMEHeaderKey` of a valid name: capitals at the beginning and
after a hyphen. -/
def canonicalHeaderKey (upper : Bool) : List Char → List Char
  | [] => []
  | c :: cs => (if upper then c.toUpper else c.toLower) :: canonicalHeaderKey (c == '-') cs

def forbiddenHeaders : List String := ["Authorization", "Cookie", "Proxy-Authorization"]

def validHostname (value : String) : Bool :=
  value ≠ "" && (utf8 value.toList).length ≤ 253 && !containsControl value &&
    !parseIp value.toList && ((trimSuffix value.toList ['.']).splitOn '.').all validLabel

def validHeaderValue (value : String) : Bool :=
  (utf8 value.toList).length ≤ 1024 && !containsControl value

def decodeScheme : String → Except String Scheme
  | "http" => .ok .http
  | "" | "https" => .ok .https
  | _ => .error "HTTP scheme is invalid"

def decodeMethod : String → Except String Method
  | "" | "GET" => .ok .get
  | "HEAD" => .ok .head
  | _ => .error "HTTP method is invalid"

def decodeAddressFamily : String → Except String AddressFamily
  | "" | "auto" => .ok .auto
  | "ipv4" => .ok .ipv4
  | "ipv6" => .ok .ipv6
  | _ => .error "HTTP address family is invalid"

def decodeMaximumRedirects (n : ℤ) : Except String {n : ℕ // n ≤ 10} :=
  let n := if n = 0 then 5 else n
  if h : n < 0 ∨ 10 < n then
    .error "HTTP maximum redirects is outside the valid range"
  else .ok ⟨n.toNat, by omega⟩

def checkRequestHeader (header : String × String) : Except String Unit :=
  let canonical := String.ofList (canonicalHeaderKey true header.1.toList)
  if !validHeaderName header.1 || !validHeaderValue header.2 then
    .error "HTTP request header is invalid"
  else if canonical ∈ forbiddenHeaders then
    .error ("HTTP request header \"" ++ canonical ++ "\" is not permitted")
  else .ok ()

/-- The loop over the expected status codes, with those before. -/
def checkStatusCodes (seenStatus : List ℤ) : List ℤ → Except String Unit
  | [] => .ok ()
  | status :: rest =>
    if status < 100 ∨ 599 < status then .error "HTTP expected status code is invalid"
    else if status ∈ seenStatus then
      .error "HTTP expected status codes must be unique"
    else checkStatusCodes (status :: seenStatus) rest

def decodeHeaderAssertions (values : List HeaderAssertion) :
    Except String {values : List HeaderAssertion // values.length ≤ 32} :=
  if h : values.length ≤ 32 then
    if values.all fun a => validHeaderName a.name && validHeaderValue a.value then
      .ok ⟨values, h⟩
    else .error "HTTP header assertion is invalid"
  else .error "HTTP header assertion count exceeds the valid range"

def decodeBodyAssertions (values : List String) :
    Except String {values : List String // values.length ≤ 16} :=
  if h : values.length ≤ 16 then
    if values.all fun expected => expected ≠ "" && validHeaderValue expected then
      .ok ⟨values, h⟩
    else .error "HTTP body assertion is invalid"
  else .error "HTTP body assertion count exceeds the valid range"

/-- `DecodeConfiguration`, after the strict decoding of the JSON. -/
def decodeConfiguration (raw : RawConfiguration) : Except String Configuration := do
  if raw.schemaVersion ≠ 1 then throw "unsupported HTTP configuration schema"
  let scheme ← decodeScheme raw.scheme
  let method ← decodeMethod raw.method
  let path := if raw.path = "" then "/" else raw.path
  if path.toList.head? ≠ some '/' ∨ containsControl path then throw "HTTP path is invalid"
  if raw.port.any fun port => port < 1 ∨ 65535 < port then
    throw "HTTP port is outside the valid range"
  let maximumRedirects ← decodeMaximumRedirects raw.maximumRedirects
  if raw.hostHeader.any fun host => !validHostname host then
    throw "HTTP host header is invalid"
  if 32 < raw.requestHeaders.length then
    throw "HTTP request header count exceeds the valid range"
  raw.requestHeaders.forM checkRequestHeader
  let expectedStatusCodes := if raw.expectedStatusCodes = [] then
    (List.range 200).map fun index => (200 + index : ℤ) else raw.expectedStatusCodes
  if 200 < expectedStatusCodes.length then
    throw "HTTP expected status code count exceeds the valid range"
  checkStatusCodes [] expectedStatusCodes
  let expectedHeaderValues ← decodeHeaderAssertions raw.expectedHeaderValues
  let expectedBodyContains ← decodeBodyAssertions raw.expectedBodyContains
  if method = .head ∧ expectedBodyContains.val ≠ [] then
    throw "HTTP HEAD monitors cannot contain body assertions"
  let maximum := if raw.maximumResponseBytes = 0 then defaultMaximumResponseBytes
    else raw.maximumResponseBytes
  if maximum < 1 ∨ maximumResponseBytes < maximum then
    throw "HTTP maximum response bytes is outside the valid range"
  let addressFamily ← decodeAddressFamily raw.addressFamily
  return ⟨scheme, raw.port, path, method, raw.followRedirects, maximumRedirects,
    raw.hostHeader, raw.requestHeaders, expectedStatusCodes, expectedHeaderValues,
    expectedBodyContains, maximum.toNat, addressFamily⟩

/-! ## Results -/

structure Result where
  method : Method
  scheme : Scheme
  statusCode : Option ℤ := none
  redirectCount : ℕ
  responseSizeBytes : Option ℤ := none
  dnsMs : Option Decimal
  connectMs : Option Decimal
  tlsMs : Option Decimal
  ttfbMs : Option Decimal
  totalMs : Option Decimal
  assertionsTotal : ℕ := 0
  assertionsFailed : ℕ := 0
  finalUrlRedacted : Option (List UInt8) := none

/-- `json.Marshal` of a result. -/
def Result.document (r : Result) : Json GoNum := .obj [("method", .str r.method.text),
  ("scheme", .str r.scheme.text), ("status_code", pointer (fun n => .num (.int n)) r.statusCode),
  ("redirect_count", .num (.int r.redirectCount)),
  ("response_size_bytes", pointer (fun n => .num (.int n)) r.responseSizeBytes),
  ("dns_ms", pointer (fun ms => .num (.float64 ms)) r.dnsMs),
  ("connect_ms", pointer (fun ms => .num (.float64 ms)) r.connectMs),
  ("tls_ms", pointer (fun ms => .num (.float64 ms)) r.tlsMs),
  ("ttfb_ms", pointer (fun ms => .num (.float64 ms)) r.ttfbMs),
  ("total_ms", pointer (fun ms => .num (.float64 ms)) r.totalMs),
  ("assertions_total", .num (.int r.assertionsTotal)),
  ("assertions_failed", .num (.int r.assertionsFailed)),
  ("final_url_redacted", nullable (r.finalUrlRedacted.map goText))]

def completedUnhealthy (startedAt finishedAt : ℤ) (result : Result)
    (category code message : String) : Agent.Result where
  startedAt := startedAt
  finishedAt := finishedAt
  executionStatus := executionCompleted
  assessment := assessmentUnhealthy
  errorCategory := some category
  errorCode := code
  errorMessage := message
  probeResult := some result.document

def failed (startedAt finishedAt : ℤ) (category code message : String) : Agent.Result where
  startedAt := startedAt
  finishedAt := finishedAt
  executionStatus := executionFailed
  assessment := assessmentUnknown
  errorCategory := some category
  errorCode := code
  errorMessage := message

/-! ## Errors -/

/-- What is found in the error of a verification. -/
inductive VerificationError where
  | hostname | unknownAuthority | other

/-- What `errors.Is`, `errors.As` and the text of an error show. -/
structure Error where
  deadlineExceeded : Bool := false
  canceled : Bool := false
  /-- `EMFILE`, `ENFILE`, `ENOBUFS` or `ENOMEM`. -/
  localResource : Bool := false
  verification : Option VerificationError := none
  /-- A `*net.DNSError`. -/
  resolution : Bool := false
  /-- `ECONNREFUSED`. -/
  refused : Bool := false
  /-- `ENETUNREACH` or `EHOSTUNREACH`. -/
  unreachable : Bool := false
  /-- The text has "maximum redirects exceeded" in it. -/
  redirectLimit : Bool := false

structure ErrorClassification where
  category : String
  code : String
  message : String
  failed : Bool := false

def classifyError (ctx : Option ContextError) (err : Error) : ErrorClassification :=
  if ctx = some .deadlineExceeded ∨ err.deadlineExceeded then
    ⟨"timeout", "http_timeout", "HTTP request timed out.", false⟩
  else if ctx = some .canceled ∨ err.canceled then
    ⟨"internal", "http_cancelled", "HTTP request was cancelled locally.", true⟩
  else if err.localResource then
    ⟨"resource_limit", "http_local_resource_exhausted",
      "HTTP request could not start because local resources are exhausted.", true⟩
  else
    match err.verification with
    | some .hostname => ⟨"tls", "http_tls_hostname_mismatch",
        "HTTPS certificate does not match the requested hostname.", false⟩
    | some .unknownAuthority => ⟨"tls", "http_tls_untrusted",
        "HTTPS certificate chain is not trusted.", false⟩
    | some .other => ⟨"tls", "http_tls_verification_failed",
        "HTTPS certificate verification failed.", false⟩
    | none =>
      if err.resolution then
        ⟨"resolution", "http_resolution_failed", "HTTP target resolution failed.", false⟩
      else if err.refused then
        ⟨"connection", "http_connection_refused", "HTTP connection was refused.", false⟩
      else if err.unreachable then
        ⟨"connection", "http_target_unreachable", "HTTP target is unreachable.", false⟩
      else if err.redirectLimit then
        ⟨"protocol", "http_redirect_limit_exceeded", "HTTP redirect limit was exceeded.", false⟩
      else ⟨"connection", "http_request_failed", "HTTP request failed.", false⟩

/-! ## Responses -/

/-- The bytes of a body, and the error after them. -/
structure Body where
  bytes : List UInt8
  error : Option Error := none
  /-- The error comes in one read with the last bytes. -/
  together : Bool := false

structure Response where
  statusCode : ℤ
  /-- Negative if it is not known. -/
  contentLength : ℤ
  /-- `Header.Values` -/
  headers : String → List (List UInt8)
  body : Body

/-- What becomes of one request. -/
inductive Hop where
  | failed (err : Error)
  | final (response : Response)
  | redirect (response : Response) (location : Url)

/-- `client.Do` after so many redirects, with those that may still be followed: the
redirect count, and the response with the URL that was requested last. -/
def follow (configuration : Configuration) (hops : ℕ → Hop) (left via : ℕ) (url : Url) :
    ℕ × Except Error (Url × Response) :=
  match hops via with
  | .failed err => (via, .error err)
  | .final response => (via, .ok (url, response))
  | .redirect response location =>
    -- CheckRedirect
    if !configuration.followRedirects then (via + 1, .ok (url, response))
    else
      match left with
      | 0 => (via + 1, .error { redirectLimit := true })
      | left + 1 => follow configuration hops left (via + 1) location
termination_by structural left

def readBounded (body : Body) (maximum : ℕ) : Except Error (List UInt8 × Bool) :=
  match body.error with
  | none => .ok (body.bytes.take maximum, maximum < body.bytes.length)
  | some err =>
    -- The limited reader asks for one byte after the maximum and no more.
    if body.bytes.length ≤ maximum ∨ body.together ∧ body.bytes.length = maximum + 1 then
      .error err
    else .ok (body.bytes.take maximum, true)

def evaluateAssertions (configuration : Configuration) (response : Response)
    (body : List UInt8) : ℕ × ℕ :=
  (1 + configuration.expectedHeaderValues.val.length +
      configuration.expectedBodyContains.val.length,
    (if response.statusCode ∈ configuration.expectedStatusCodes then 0 else 1) +
      configuration.expectedHeaderValues.val.countP (fun assertion =>
        utf8 assertion.value.toList ∉ response.headers assertion.name) +
      configuration.expectedBodyContains.val.countP fun expected =>
        ¬utf8 expected.toList <:+: body)

/-- `redactURL` of a URL that was requested. -/
def redactUrl (url : Url) : List UInt8 :=
  Url.string (if url.rawQuery = [] then url
    else { url with
      rawQuery := List.intercalate [38] ((queryKeys url.rawQuery).map fun key =>
        queryEscape key ++ 61 :: utf8 "REDACTED".toList) })

/-! ## Runs -/

/-- The durations that the trace has measured, in nanoseconds. -/
structure Timings where
  dns : ℕ
  connect : ℕ
  tls : ℕ
  /-- From the start to the first byte of a response. -/
  firstByte : Option ℕ

/-- What one run meets. -/
structure Run where
  context : Option ContextError
  startedAt : ℤ
  finishedAt : ℤ
  /-- What `buildURL` has built, if it can. -/
  url : Option Url
  requestCreated : Bool
  timings : Timings
  total : ℕ
  hops : ℕ → Hop

def durationPointer (duration : ℕ) : Option Decimal :=
  if duration = 0 then none else some (durationMs duration)

def baseResult (run : Run) (configuration : Configuration) (redirectCount : ℕ) : Result where
  method := configuration.method
  scheme := configuration.scheme
  redirectCount := redirectCount
  dnsMs := durationPointer run.timings.dns
  connectMs := durationPointer run.timings.connect
  tlsMs := durationPointer run.timings.tls
  ttfbMs := run.timings.firstByte.map fun ns : ℕ => durationMs ns
  totalMs := some (durationMs run.total)

/-- How a run ends with an error. -/
def reportError (run : Run) (result : Result) (err : Error) : Agent.Result :=
  let classification := classifyError run.context err
  if classification.failed then
    failed run.startedAt run.finishedAt classification.category classification.code
      classification.message
  else
    completedUnhealthy run.startedAt run.finishedAt result classification.category
      classification.code classification.message

def responseSize (configuration : Configuration) (response : Response) (body : List UInt8)
    (exceeded : Bool) : ℤ :=
  if response.contentLength < 0 then
    if exceeded then configuration.maximumResponseBytes + 1 else body.length
  else response.contentLength

/-- The result of a response whose body was read. -/
def responseResult (run : Run) (configuration : Configuration) (redirectCount : ℕ)
    (url : Url) (response : Response) (body : List UInt8) (exceeded : Bool) : Result :=
  let (assertionsTotal, assertionsFailed) :=
    evaluateAssertions configuration response body
  { baseResult run configuration redirectCount with
    statusCode := some response.statusCode
    responseSizeBytes := some (responseSize configuration response body exceeded)
    finalUrlRedacted := some (redactUrl url)
    assertionsTotal := assertionsTotal
    assertionsFailed := assertionsFailed }

def reportResponse (run : Run) (configuration : Configuration) (redirectCount : ℕ)
    (url : Url) (response : Response) (body : List UInt8) (exceeded : Bool) : Agent.Result :=
  let result := responseResult run configuration redirectCount url response body exceeded
  if exceeded then
    completedUnhealthy run.startedAt run.finishedAt result "protocol"
      "http_response_limit_exceeded" "HTTP response exceeded the configured read limit."
  else if 0 < result.assertionsFailed then
    completedUnhealthy run.startedAt run.finishedAt result "assertion"
      "http_assertion_failed" "One or more HTTP assertions failed."
  else
    { startedAt := run.startedAt
      finishedAt := run.finishedAt
      executionStatus := executionCompleted
      assessment := assessmentHealthy
      probeResult := some result.document }

/-- The request and what becomes of it. -/
def request (run : Run) (configuration : Configuration) (url : Url) : Agent.Result :=
  let (redirectCount, outcome) :=
    follow configuration run.hops configuration.maximumRedirects 0 url
  let result := baseResult run configuration redirectCount
  match outcome with
  | .error err => reportError run result err
  | .ok (url, response) =>
    match readBounded response.body configuration.maximumResponseBytes with
    | .error err => reportError run { result with statusCode := some response.statusCode } err
    | .ok (body, exceeded) =>
      reportResponse run configuration redirectCount url response body exceeded

/-- `Probe.Run`, with the configuration unless its JSON cannot be decoded. -/
def runHttp (run : Run) (raw : Option RawConfiguration) : Agent.Result :=
  match raw.map decodeConfiguration with
  | some (.ok configuration) =>
    match run.url with
    | none => failed run.startedAt run.finishedAt "invalid_configuration"
        "invalid_http_target" "HTTP target could not be represented safely."
    | some url =>
      if !run.requestCreated then
        failed run.startedAt run.finishedAt "invalid_configuration"
          "http_request_creation_failed" "HTTP request could not be created safely."
      else request run configuration url
  | _ => failed run.startedAt run.finishedAt "invalid_configuration"
      "invalid_http_configuration" "HTTP configuration is invalid."

end Bifrostnms.Agent.Http
