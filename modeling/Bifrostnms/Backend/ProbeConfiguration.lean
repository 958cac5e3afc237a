import Bifrostnms.Lib.JsonText

/-!
# Probe configurations (`schemas/monitoring.py`)

The five configuration schemas with the bounds of their annotations and
their validators, and `serialize_probe_configuration`, which validates a
configuration, gives an ICMP one its packet timeout, and dumps it as JSON.

The records below hold the values pydantic has already coerced to the
annotated types; an omitted field has its default. `validate` is what is
left: bounds in field order, then the validators. A float is a finite
double, since JSON has no other. What Python's text functions do beyond
ASCII and which texts are IP addresses is not in the repository, so those
functions are parameters (`PyText`).
-/

namespace Bifrostnms.Backend

open Bifrostnms.Lib

/-- The standard library functions the validators call. -/
structure PyText where
  strip : String → String
  lower : String → String
  upper : String → String
  /-- Whether `ipaddress.ip_address` returns. -/
  ipAddress : String → Bool

/-- A rejected configuration: a bound of a field's annotation, or a
`ValueError` with its message. Those of the validators come out as a
`ValidationError` of pydantic, with the bounds; the others as they are. -/
inductive ConfigurationError where
  | field (name : String)
  | value (message : String)
  /-- Raised outside of the validators. -/
  | plain (message : String)
deriving DecidableEq

/-- A pydantic check. -/
def require (error : ConfigurationError) (ok : Bool) : Except ConfigurationError Unit :=
  if ok then .ok () else .error error

/-- `Field(ge=low, le=high)`. -/
def between (name : String) (low high n : ℤ) : Except ConfigurationError Unit :=
  require (.field name) (low ≤ n ∧ n ≤ high)

/-- `Field(min_length=low, max_length=high)`. -/
def lengthBetween (name : String) (low high n : ℕ) : Except ConfigurationError Unit :=
  require (.field name) (low ≤ n ∧ n ≤ high)

def controlCharacter (c : Char) : Bool := c.toNat < 32 || c.toNat == 127

def hasControlCharacter (s : String) : Bool := s.toList.any controlCharacter

/-! ## Enumerations -/

inductive ProbeType where
  | icmp | http | tcp | dns | tls
deriving DecidableEq

def ProbeType.text : ProbeType → String
  | .icmp => "icmp"
  | .http => "http"
  | .tcp => "tcp"
  | .dns => "dns"
  | .tls => "tls"

inductive AddressFamily where
  | auto | ipv4 | ipv6
deriving DecidableEq

def AddressFamily.text : AddressFamily → String
  | .auto => "auto"
  | .ipv4 => "ipv4"
  | .ipv6 => "ipv6"

inductive HttpScheme where
  | http | https
deriving DecidableEq

def HttpScheme.text : HttpScheme → String
  | .http => "http"
  | .https => "https"

inductive HttpMethod where
  | get | head
deriving DecidableEq

def HttpMethod.text : HttpMethod → String
  | .get => "GET"
  | .head => "HEAD"

inductive ResolverMode where
  | system | explicit
deriving DecidableEq

def ResolverMode.text : ResolverMode → String
  | .system => "system"
  | .explicit => "explicit"

inductive DnsTransport where
  | udpWithTcpFallback | tcp
deriving DecidableEq

def DnsTransport.text : DnsTransport → String
  | .udpWithTcpFallback => "udp_with_tcp_fallback"
  | .tcp => "tcp"

inductive DnsQueryType where
  | a | aaaa | cname | mx | ns | txt | ptr
deriving DecidableEq

def DnsQueryType.text : DnsQueryType → String
  | .a => "A"
  | .aaaa => "AAAA"
  | .cname => "CNAME"
  | .mx => "MX"
  | .ns => "NS"
  | .txt => "TXT"
  | .ptr => "PTR"

inductive TlsVersion where
  | v12 | v13
deriving DecidableEq

def TlsVersion.text : TlsVersion → String
  | .v12 => "1.2"
  | .v13 => "1.3"

/-! ## ICMP -/

structure IcmpProbeConfiguration where
  packetCount : ℤ := 20
  packetIntervalMs : ℤ := 50
  perPacketTimeoutMs : Option ℤ := none
  payloadSizeBytes : ℤ := 56
  addressFamily : AddressFamily := .auto
  maximumPacketLossPercent : Option Decimal := none
  maximumAverageRttMs : Option Decimal := none

def IcmpProbeConfiguration.validate (c : IcmpProbeConfiguration) :
    Except ConfigurationError IcmpProbeConfiguration := do
  between "packet_count" 1 100 c.packetCount
  between "packet_interval_ms" 10 1000 c.packetIntervalMs
  c.perPacketTimeoutMs.forM (between "per_packet_timeout_ms" 1 60000)
  between "payload_size_bytes" 0 1400 c.payloadSizeBytes
  c.maximumPacketLossPercent.forM fun x =>
    require (.field "maximum_packet_loss_percent") (0 ≤ x.value ∧ x.value ≤ 100)
  c.maximumAverageRttMs.forM fun x =>
    require (.field "maximum_average_rtt_ms") (0 ≤ x.value)
  pure c

/-! ## HTTP -/

/-- The class of `_HTTP_HEADER_NAME`. -/
def headerNameChar (c : Char) : Bool :=
  c ∈ "!#$%&'*+.^_`|~-".toList || c.isDigit || c.isAlpha

/-- `_HTTP_HEADER_NAME.fullmatch`. -/
def headerName (s : String) : Bool :=
  !s.toList.isEmpty && s.toList.all headerNameChar

/-- `_HTTP_FORBIDDEN_HEADERS`. -/
def forbiddenHeaders : List String :=
  ["authorization", "cookie", "proxy-authorization"]

structure HttpHeaderAssertion where
  name : String
  value : String
deriving DecidableEq

def HttpHeaderAssertion.validate (a : HttpHeaderAssertion) : Except ConfigurationError Unit := do
  lengthBetween "name" 1 128 a.name.length
  require (.value "header assertion name is invalid") (headerName a.name)
  lengthBetween "value" 0 1024 a.value.length
  require (.value "header assertion value contains control characters")
    (!hasControlCharacter a.value)

/-- A text without its trailing full stops (`rstrip(".")`). -/
def rstripDots (l : List Char) : List Char :=
  (l.reverse.dropWhile (· == '.')).reverse

/-- One label of the hostname checks. -/
def hostnameLabel (l : List Char) : Bool :=
  !l.isEmpty && l.length ≤ 63 && l.head? != some '-' && l.getLast? != some '-' &&
    l.all fun c => c.isAlphanum || c == '-'

def hostnameLabels (l : List Char) : Bool := (l.splitOn '.').all hostnameLabel

structure HttpProbeConfiguration where
  scheme : HttpScheme := .https
  port : Option ℤ := none
  path : String := "/"
  method : HttpMethod := .get
  followRedirects : Bool := true
  maximumRedirects : ℤ := 5
  hostHeader : Option String := none
  requestHeaders : List (String × String) := []
  expectedStatusCodes : List ℤ := (List.range 200).map fun i => 200 + (i : ℤ)
  expectedHeaderValues : List HttpHeaderAssertion := []
  expectedBodyContains : List String := []
  maximumResponseBytes : ℤ := 1024 * 1024
  addressFamily : AddressFamily := .auto

/-- `validate_request_headers`, one member. A name that passed the pattern is
ASCII, so folding it is folding ASCII. -/
def validateRequestHeader (header : String × String) : Except ConfigurationError Unit := do
  require (.value "request header name is invalid") (headerName header.1)
  require (.value ("request header '" ++ header.1 ++ "' is not permitted"))
    (!forbiddenHeaders.contains
      (String.ofList (header.1.toList.map Char.toLower)))
  require (.value "request header value contains control characters")
    (!hasControlCharacter header.2)

def HttpProbeConfiguration.validate (c : HttpProbeConfiguration) :
    Except ConfigurationError HttpProbeConfiguration := do
  c.port.forM (between "port" 1 65535)
  lengthBetween "path" 1 2048 c.path.length
  require (.value "path must start with '/'") (c.path.toList.head? == some '/')
  require (.value "path contains control characters")
    (!hasControlCharacter c.path)
  between "maximum_redirects" 0 10 c.maximumRedirects
  c.hostHeader.forM fun value => do
    lengthBetween "host_header" 1 253 value.length
    require (.value "host_header must be a valid hostname")
      (hostnameLabels (rstripDots value.toList))
  c.requestHeaders.forM fun header => do
    lengthBetween "request_headers" 1 128 header.1.length
    lengthBetween "request_headers" 0 1024 header.2.length
  lengthBetween "request_headers" 0 32 c.requestHeaders.length
  c.requestHeaders.forM validateRequestHeader
  lengthBetween "expected_status_codes" 1 200 c.expectedStatusCodes.length
  require (.value "expected status codes must be between 100 and 599")
    (c.expectedStatusCodes.all fun code => 100 ≤ code ∧ code ≤ 599)
  require (.value "expected status codes must be unique")
    (c.expectedStatusCodes.Nodup)
  c.expectedHeaderValues.forM HttpHeaderAssertion.validate
  lengthBetween "expected_header_values" 0 32 c.expectedHeaderValues.length
  c.expectedBodyContains.forM fun value =>
    lengthBetween "expected_body_contains" 1 1024 value.length
  lengthBetween "expected_body_contains" 0 16 c.expectedBodyContains.length
  require (.value "body assertion contains control characters")
    (!c.expectedBodyContains.any hasControlCharacter)
  between "maximum_response_bytes" 1 (4 * 1024 * 1024) c.maximumResponseBytes
  pure c

/-! ## TCP -/

structure TcpProbeConfiguration where
  port : ℤ
  addressFamily : AddressFamily := .auto

def TcpProbeConfiguration.validate (c : TcpProbeConfiguration) :
    Except ConfigurationError TcpProbeConfiguration := do
  between "port" 1 65535 c.port
  pure c

/-! ## DNS -/

structure DnsProbeConfiguration where
  resolverMode : ResolverMode := .system
  resolverAddress : Option String := none
  resolverPort : ℤ := 53
  transport : DnsTransport := .udpWithTcpFallback
  queryName : Option String := none
  queryType : DnsQueryType := .a
  recursionDesired : Bool := true
  expectedResponseCodes : List String := ["NOERROR"]
  /-- The `value` of each `DnsAnswerAssertion`. -/
  expectedAnswers : List String := []

/-- `validate_resolver_address`; `validate_resolver_mode` repeats the two
tests that need no address to be there. -/
def validateResolverAddress (txt : PyText) (mode : ResolverMode)
    (value : Option String) : Except ConfigurationError Unit :=
  match mode, value with
  | .explicit, none => .error (.value
      "resolver_address is required for explicit DNS resolver mode")
  | .explicit, some address =>
    require (.value "resolver_address must be an IP address")
      (txt.ipAddress address)
  | .system, some _ => .error (.value
      "resolver_address is not permitted for system DNS resolver mode")
  | .system, none => .ok ()

/-- `normalize_query_name`. -/
def normalizeQueryName (txt : PyText) (value : String) : Except ConfigurationError String := do
  let normalized :=
    txt.lower (String.ofList (rstripDots (txt.strip value).toList))
  require (.value "query_name is invalid")
    (!normalized.toList.isEmpty && !hasControlCharacter normalized)
  pure normalized

def allowedResponseCodes : List String :=
  ["NOERROR", "FORMERR", "SERVFAIL", "NXDOMAIN", "NOTIMP", "REFUSED"]

def DnsProbeConfiguration.validate (txt : PyText) (c : DnsProbeConfiguration) :
    Except ConfigurationError DnsProbeConfiguration := do
  c.resolverAddress.forM fun value =>
    lengthBetween "resolver_address" 2 45 value.length
  validateResolverAddress txt c.resolverMode c.resolverAddress
  between "resolver_port" 1 65535 c.resolverPort
  require
    (.value "system DNS resolver mode uses platform resolver transport behavior")
    (c.resolverMode == .explicit || c.transport == .udpWithTcpFallback)
  c.queryName.forM fun value => lengthBetween "query_name" 1 253 value.length
  let queryName ← c.queryName.mapM (normalizeQueryName txt)
  lengthBetween "expected_response_codes" 1 16 c.expectedResponseCodes.length
  let codes := c.expectedResponseCodes.map fun code => txt.upper (txt.strip code)
  require
    (.value "expected_response_codes contains an unsupported DNS response code")
    (codes.all allowedResponseCodes.contains)
  require (.value "expected_response_codes must be unique") (codes.Nodup)
  c.expectedAnswers.forM fun value => do
    lengthBetween "value" 1 1024 value.length
    require (.value "DNS answer assertion contains control characters")
      (!hasControlCharacter value)
  lengthBetween "expected_answers" 0 32 c.expectedAnswers.length
  pure { c with queryName := queryName, expectedResponseCodes := codes }

/-! ## TLS -/

structure TlsProbeConfiguration where
  port : ℤ := 443
  serverName : Option String := none
  addressFamily : AddressFamily := .auto
  minimumTlsVersion : TlsVersion := .v12
  expiryWarningDays : ℤ := 30

/-- `normalize_server_name`. -/
def normalizeServerName (txt : PyText) (value : String) : Except ConfigurationError String := do
  let normalized :=
    txt.lower (String.ofList (rstripDots (txt.strip value).toList))
  require (.value "server_name must be a hostname, not an IP address")
    (!txt.ipAddress normalized)
  require (.value "server_name must be a valid hostname")
    (hostnameLabels normalized.toList)
  pure normalized

def TlsProbeConfiguration.validate (txt : PyText) (c : TlsProbeConfiguration) :
    Except ConfigurationError TlsProbeConfiguration := do
  between "port" 1 65535 c.port
  c.serverName.forM fun value => lengthBetween "server_name" 1 253 value.length
  let serverName ← c.serverName.mapM (normalizeServerName txt)
  between "expiry_warning_days" 0 3650 c.expiryWarningDays
  pure { c with serverName := serverName }

/-! ## Validation and serialization -/

inductive TypedProbeConfiguration where
  | icmp (c : IcmpProbeConfiguration)
  | http (c : HttpProbeConfiguration)
  | tcp (c : TcpProbeConfiguration)
  | dns (c : DnsProbeConfiguration)
  | tls (c : TlsProbeConfiguration)

def TypedProbeConfiguration.probeType : TypedProbeConfiguration → ProbeType
  | .icmp _ => .icmp
  | .http _ => .http
  | .tcp _ => .tcp
  | .dns _ => .dns
  | .tls _ => .tls

/-- `validate_probe_configuration`. -/
def validateProbeConfiguration (txt : PyText) :
    TypedProbeConfiguration → Except ConfigurationError TypedProbeConfiguration
  | .icmp c => return .icmp (← c.validate)
  | .http c => do
      let c ← c.validate
      require (.plain "HTTP HEAD monitors cannot contain body assertions")
        (!(c.method == .head && !c.expectedBodyContains.isEmpty))
      return .http c
  | .tcp c => return .tcp (← c.validate)
  | .dns c => return .dns (← c.validate txt)
  | .tls c => return .tls (← c.validate txt)

def jsonInt (n : ℤ) : Json JsonNum := .num (.int n)

def jsonOption {α : Type} (f : α → Json JsonNum) : Option α → Json JsonNum
  | none => .null
  | some a => f a

/-- `model_dump(mode="json")`: every field in the order of the schema. -/
def TypedProbeConfiguration.modelDump : TypedProbeConfiguration → Json JsonNum
  | .icmp c => .obj [("schema_version", jsonInt 1), ("packet_count", jsonInt c.packetCount),
      ("packet_interval_ms", jsonInt c.packetIntervalMs),
      ("per_packet_timeout_ms", jsonOption jsonInt c.perPacketTimeoutMs),
      ("payload_size_bytes", jsonInt c.payloadSizeBytes),
      ("address_family", .str c.addressFamily.text), ("maximum_packet_loss_percent",
        jsonOption (fun x => .num (.float x)) c.maximumPacketLossPercent),
      ("maximum_average_rtt_ms", jsonOption (fun x => .num (.float x)) c.maximumAverageRttMs)]
  | .http c => .obj [("schema_version", jsonInt 1), ("scheme", .str c.scheme.text),
      ("port", jsonOption jsonInt c.port), ("path", .str c.path), ("method", .str c.method.text),
      ("follow_redirects", .bool c.followRedirects),
      ("maximum_redirects", jsonInt c.maximumRedirects),
      ("host_header", jsonOption .str c.hostHeader),
      ("request_headers", .obj (c.requestHeaders.map fun h => (h.1, .str h.2))),
      ("expected_status_codes", .arr (c.expectedStatusCodes.map jsonInt)),
      ("expected_header_values", .arr (c.expectedHeaderValues.map fun a =>
        .obj [("name", .str a.name), ("value", .str a.value)])),
      ("expected_body_contains", .arr (c.expectedBodyContains.map .str)),
      ("maximum_response_bytes", jsonInt c.maximumResponseBytes),
      ("address_family", .str c.addressFamily.text)]
  | .tcp c => .obj [("schema_version", jsonInt 1), ("port", jsonInt c.port),
      ("address_family", .str c.addressFamily.text)]
  | .dns c => .obj [("schema_version", jsonInt 1), ("resolver_mode", .str c.resolverMode.text),
      ("resolver_address", jsonOption .str c.resolverAddress),
      ("resolver_port", jsonInt c.resolverPort), ("transport", .str c.transport.text),
      ("query_name", jsonOption .str c.queryName), ("query_type", .str c.queryType.text),
      ("recursion_desired", .bool c.recursionDesired),
      ("expected_response_codes", .arr (c.expectedResponseCodes.map .str)),
      ("expected_answers", .arr (c.expectedAnswers.map fun value =>
        .obj [("value", .str value)]))]
  | .tls c => .obj [("schema_version", jsonInt 1), ("port", jsonInt c.port),
      ("server_name", jsonOption .str c.serverName), ("address_family", .str c.addressFamily.text),
      ("minimum_tls_version", .str c.minimumTlsVersion.text),
      ("expiry_warning_days", jsonInt c.expiryWarningDays)]

/-- The packet timeout that `serialize_probe_configuration` writes into an
ICMP configuration: what it asked for, or all the time the packet sequence
leaves. -/
def IcmpProbeConfiguration.materialize (c : IcmpProbeConfiguration)
    (timeoutSeconds : ℤ) : Except ConfigurationError IcmpProbeConfiguration := do
  let availableMs :=
    timeoutSeconds * 1000 - (c.packetCount - 1) * c.packetIntervalMs
  let packetTimeoutMs := c.perPacketTimeoutMs.getD availableMs
  require (.plain "ICMP packet sequence does not fit within monitor timeout")
    (!(availableMs < 1 || packetTimeoutMs > availableMs))
  pure { c with perPacketTimeoutMs := some packetTimeoutMs }

/-- `serialize_probe_configuration`. -/
def serializeProbeConfiguration (txt : PyText) (c : TypedProbeConfiguration)
    (timeoutSeconds : Option ℤ) : Except ConfigurationError (Json JsonNum) := do
  let validated ← validateProbeConfiguration txt c
  match validated, timeoutSeconds with
  | .icmp c, some seconds =>
    return (TypedProbeConfiguration.icmp (← c.materialize seconds)).modelDump
  | validated, _ => return validated.modelDump

end Bifrostnms.Backend
