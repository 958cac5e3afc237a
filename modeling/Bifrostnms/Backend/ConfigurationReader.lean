import Bifrostnms.Backend.ProbeConfiguration

/-!
# Reading a probe configuration (`schemas/monitoring.py`)

`validate_python` reads a document field by field before any bound is checked: a missing
field has its default, if it has one, a value has to be of the annotated type, and a member
that no field has is forbidden. The documents here are those that were dumped and come
back from a JSON column, in which a double may be a whole number. Other spellings that
pydantic knows for the same values do not occur in them.
-/

namespace Bifrostnms.Backend

open Bifrostnms.Lib

/-! ## Values -/

section Values

variable {α : Type}

def parseInt : Json JsonNum → Option ℤ
  | .num (.int n) => some n
  | _ => none

def parseFloat : Json JsonNum → Option Decimal
  | .num n => some (JsonText.readFloat64 n)
  | _ => none

def parseStr : Json JsonNum → Option String
  | .str s => some s
  | _ => none

def parseBool : Json JsonNum → Option Bool
  | .bool b => some b
  | _ => none

/-- `| None`. -/
def parseOptional (parse : Json JsonNum → Option α) : Json JsonNum → Option (Option α)
  | .null => some none
  | document => (parse document).map some

def parseList (parse : Json JsonNum → Option α) : Json JsonNum → Option (List α)
  | .arr items => items.mapM parse
  | _ => none

/-- `dict[str, str]`. -/
def parseDict : Json JsonNum → Option (List (String × String))
  | .obj members => members.mapM fun member => (parseStr member.2).map (member.1, ·)
  | _ => none

/-- A `Literal` with the given values. -/
def parseLiteral (text : α → String) (values : List α) : Json JsonNum → Option α
  | .str s => values.find? fun value => text value = s
  | _ => none

/-! ## Fields -/

def parseField (members : List (String × Json JsonNum)) (name : String)
    (parse : Json JsonNum → Option α) (default? : Option α) : Except ConfigurationError α :=
  match (match members.lookup name with
    | none => default?
    | some document => parse document) with
  | some a => .ok a
  | none => .error (.field name)

/-- `extra="forbid"`. -/
def forbidExtra (names : List String) (members : List (String × Json JsonNum)) :
    Except ConfigurationError Unit :=
  match members.find? fun member => !names.contains member.1 with
  | some member => .error (.field member.1)
  | none => .ok ()

/-- `schema_version: Literal[1] = 1`. -/
def parseSchemaVersion (members : List (String × Json JsonNum)) : Except ConfigurationError Unit :=
  parseField members "schema_version"
    (fun document => if parseInt document = some 1 then some () else none) (some ())

end Values

/-! ## Schemas -/

def parseAddressFamily : Json JsonNum → Option AddressFamily :=
  parseLiteral AddressFamily.text [.auto, .ipv4, .ipv6]

def IcmpProbeConfiguration.parse (members : List (String × Json JsonNum)) :
    Except ConfigurationError IcmpProbeConfiguration := do
  let default : IcmpProbeConfiguration := {}
  forbidExtra ["schema_version", "packet_count", "packet_interval_ms",
    "per_packet_timeout_ms", "payload_size_bytes", "address_family",
    "maximum_packet_loss_percent", "maximum_average_rtt_ms"] members
  parseSchemaVersion members
  let packetCount ← parseField members "packet_count" parseInt (some default.packetCount)
  let packetIntervalMs ← parseField members "packet_interval_ms" parseInt
    (some default.packetIntervalMs)
  let perPacketTimeoutMs ← parseField members "per_packet_timeout_ms"
    (parseOptional parseInt) (some default.perPacketTimeoutMs)
  let payloadSizeBytes ← parseField members "payload_size_bytes" parseInt
    (some default.payloadSizeBytes)
  let addressFamily ← parseField members "address_family" parseAddressFamily
    (some default.addressFamily)
  let maximumPacketLossPercent ← parseField members "maximum_packet_loss_percent"
    (parseOptional parseFloat) (some default.maximumPacketLossPercent)
  let maximumAverageRttMs ← parseField members "maximum_average_rtt_ms"
    (parseOptional parseFloat) (some default.maximumAverageRttMs)
  return ⟨packetCount, packetIntervalMs, perPacketTimeoutMs, payloadSizeBytes, addressFamily,
    maximumPacketLossPercent, maximumAverageRttMs⟩

def HttpHeaderAssertion.parse : Json JsonNum → Option HttpHeaderAssertion
  | .obj members =>
    match forbidExtra ["name", "value"] members, parseField members "name" parseStr none,
        parseField members "value" parseStr none with
    | .ok (), .ok name, .ok value => some ⟨name, value⟩
    | _, _, _ => none
  | _ => none

def HttpProbeConfiguration.parse (members : List (String × Json JsonNum)) :
    Except ConfigurationError HttpProbeConfiguration := do
  let default : HttpProbeConfiguration := {}
  forbidExtra ["schema_version", "scheme", "port", "path", "method", "follow_redirects",
    "maximum_redirects", "host_header", "request_headers", "expected_status_codes",
    "expected_header_values", "expected_body_contains", "maximum_response_bytes",
    "address_family"] members
  parseSchemaVersion members
  let scheme ← parseField members "scheme" (parseLiteral HttpScheme.text [.http, .https])
    (some default.scheme)
  let port ← parseField members "port" (parseOptional parseInt) (some default.port)
  let path ← parseField members "path" parseStr (some default.path)
  let method ← parseField members "method" (parseLiteral HttpMethod.text [.get, .head])
    (some default.method)
  let followRedirects ← parseField members "follow_redirects" parseBool
    (some default.followRedirects)
  let maximumRedirects ← parseField members "maximum_redirects" parseInt
    (some default.maximumRedirects)
  let hostHeader ← parseField members "host_header" (parseOptional parseStr)
    (some default.hostHeader)
  let requestHeaders ← parseField members "request_headers" parseDict
    (some default.requestHeaders)
  let expectedStatusCodes ← parseField members "expected_status_codes" (parseList parseInt)
    (some default.expectedStatusCodes)
  let expectedHeaderValues ← parseField members "expected_header_values"
    (parseList HttpHeaderAssertion.parse) (some default.expectedHeaderValues)
  let expectedBodyContains ← parseField members "expected_body_contains"
    (parseList parseStr) (some default.expectedBodyContains)
  let maximumResponseBytes ← parseField members "maximum_response_bytes" parseInt
    (some default.maximumResponseBytes)
  let addressFamily ← parseField members "address_family" parseAddressFamily
    (some default.addressFamily)
  return ⟨scheme, port, path, method, followRedirects, maximumRedirects, hostHeader,
    requestHeaders, expectedStatusCodes, expectedHeaderValues, expectedBodyContains,
    maximumResponseBytes, addressFamily⟩

def TcpProbeConfiguration.parse (members : List (String × Json JsonNum)) :
    Except ConfigurationError TcpProbeConfiguration := do
  forbidExtra ["schema_version", "port", "address_family"] members
  parseSchemaVersion members
  let port ← parseField members "port" parseInt none
  let addressFamily ← parseField members "address_family" parseAddressFamily (some .auto)
  return ⟨port, addressFamily⟩

/-- The `value` of a `DnsAnswerAssertion`. -/
def parseAnswerAssertion : Json JsonNum → Option String
  | .obj members =>
    match forbidExtra ["value"] members, parseField members "value" parseStr none with
    | .ok (), .ok value => some value
    | _, _ => none
  | _ => none

def DnsProbeConfiguration.parse (members : List (String × Json JsonNum)) :
    Except ConfigurationError DnsProbeConfiguration := do
  let default : DnsProbeConfiguration := {}
  forbidExtra ["schema_version", "resolver_mode", "resolver_address", "resolver_port",
    "transport", "query_name", "query_type", "recursion_desired", "expected_response_codes",
    "expected_answers"] members
  parseSchemaVersion members
  let resolverMode ← parseField members "resolver_mode"
    (parseLiteral ResolverMode.text [.system, .explicit]) (some default.resolverMode)
  let resolverAddress ← parseField members "resolver_address" (parseOptional parseStr)
    (some default.resolverAddress)
  let resolverPort ← parseField members "resolver_port" parseInt (some default.resolverPort)
  let transport ← parseField members "transport"
    (parseLiteral DnsTransport.text [.udpWithTcpFallback, .tcp]) (some default.transport)
  let queryName ← parseField members "query_name" (parseOptional parseStr)
    (some default.queryName)
  let queryType ← parseField members "query_type"
    (parseLiteral DnsQueryType.text [.a, .aaaa, .cname, .mx, .ns, .txt, .ptr])
    (some default.queryType)
  let recursionDesired ← parseField members "recursion_desired" parseBool
    (some default.recursionDesired)
  let expectedResponseCodes ← parseField members "expected_response_codes"
    (parseList parseStr) (some default.expectedResponseCodes)
  let expectedAnswers ← parseField members "expected_answers"
    (parseList parseAnswerAssertion) (some default.expectedAnswers)
  return ⟨resolverMode, resolverAddress, resolverPort, transport, queryName, queryType,
    recursionDesired, expectedResponseCodes, expectedAnswers⟩

def TlsProbeConfiguration.parse (members : List (String × Json JsonNum)) :
    Except ConfigurationError TlsProbeConfiguration := do
  let default : TlsProbeConfiguration := {}
  forbidExtra ["schema_version", "port", "server_name", "address_family",
    "minimum_tls_version", "expiry_warning_days"] members
  parseSchemaVersion members
  let port ← parseField members "port" parseInt (some default.port)
  let serverName ← parseField members "server_name" (parseOptional parseStr)
    (some default.serverName)
  let addressFamily ← parseField members "address_family" parseAddressFamily
    (some default.addressFamily)
  let minimumTlsVersion ← parseField members "minimum_tls_version"
    (parseLiteral TlsVersion.text [.v12, .v13]) (some default.minimumTlsVersion)
  let expiryWarningDays ← parseField members "expiry_warning_days" parseInt
    (some default.expiryWarningDays)
  return ⟨port, serverName, addressFamily, minimumTlsVersion, expiryWarningDays⟩

/-- The types of the fields, before `validate`. -/
def parseProbeConfiguration (probeType : ProbeType) :
    Json JsonNum → Except ConfigurationError TypedProbeConfiguration
  | .obj members =>
    match probeType with
    | .icmp => return .icmp (← IcmpProbeConfiguration.parse members)
    | .http => return .http (← HttpProbeConfiguration.parse members)
    | .tcp => return .tcp (← TcpProbeConfiguration.parse members)
    | .dns => return .dns (← DnsProbeConfiguration.parse members)
    | .tls => return .tls (← TlsProbeConfiguration.parse members)
  | _ => .error (.field "")

/-- `serialize_probe_configuration` of a document. -/
def serializeDocument (txt : PyText) (probeType : ProbeType) (document : Json JsonNum)
    (timeoutSeconds : Option ℤ) : Except ConfigurationError (Json JsonNum) := do
  serializeProbeConfiguration txt (← parseProbeConfiguration probeType document)
    timeoutSeconds

end Bifrostnms.Backend
