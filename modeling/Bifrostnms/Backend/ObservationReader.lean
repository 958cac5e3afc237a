import Bifrostnms.Backend.ObservationSchema

/-!
# How an upload is read (`schemas/agent_protocol.py`)

The models of the wire protocol read a JSON document field by field: a required
field has to be there, an optional one may be missing or `null`, and a value has
to be of the annotated type. What is read this way has to pass the bounds and the
validators of its model. The documents are those that the agent writes, with
whole numbers and doubles told apart and times in UTC; other spellings that
pydantic knows for the same values do not occur in them.

The result of an observation is a union of models. Of the members that accept the
document, pydantic takes the one with the most fields set.
-/

namespace Bifrostnms.Backend

open Bifrostnms.Lib

/-- A document as the agent writes it. -/
abbrev Document := Json GoNum

/-! ## Fields -/

section Fields

variable {α : Type}

def readInt : Document → Option ℤ
  | .num (.int n) => some n
  | _ => none

def readFloat : Document → Option Double
  | .num (.float64 d) => some (.finite d)
  | _ => none

def readStr : Document → Option String
  | .str s => some s
  | _ => none

def readBool : Document → Option Bool
  | .bool b => some b
  | _ => none

def readTime : Document → Option DateTime
  | .str s => readUtc s.toList
  | _ => none

def readList (read : Document → Option α) : Document → Option (List α)
  | .arr xs => xs.mapM read
  | _ => none

/-- A `Literal` with the given values. -/
def readLiteral (text : α → String) (values : List α) : Document → Option α
  | .str s => values.find? fun value => text value = s
  | _ => none

def readField (read : Document → Option α) (j : Document) (name : String) : Option α :=
  (j.members.lookup name).bind read

def readOptional (read : Document → Option α) (j : Document) (name : String) : Option (Option α) :=
  match j.members.lookup name with
  | none | some .null => some none
  | some value => (read value).map some

variable {read : Document → Option α} {j : Document}

theorem readField_of_lookup (name : String) {value : Document}
    (h : j.members.lookup name = some value) : readField read j name = read value := by
  rw [readField, h, Option.bind_some]

theorem readOptional_of_null (name : String) (h : j.members.lookup name = some .null) :
    readOptional read j name = some none := by
  rw [readOptional, h]

theorem readOptional_of_lookup (name : String) {value : Document}
    (hnull : read .null = none) (h : j.members.lookup name = some value) {a : α} (hread : read value = some a) :
    readOptional read j name = some (some a) := by
  rw [readOptional, h]
  split
  · next heq => cases heq
  · next heq =>
      obtain rfl := Option.some.inj heq
      rw [hnull] at hread
      cases hread
  · next heq =>
      obtain rfl := Option.some.inj heq
      rw [hread, Option.map_some]

end Fields

/-! ## Results -/

def readIcmpResult (j : Document) : Option IcmpObservationResult :=
  Option.filter IcmpObservationResult.valid do return {
    packetsSent := ← readField readInt j "packets_sent"
    packetsReceived := ← readField readInt j "packets_received"
    packetLossPercent := ← readField readFloat j "packet_loss_percent"
    minRttMs := ← readOptional readFloat j "min_rtt_ms"
    avgRttMs := ← readOptional readFloat j "avg_rtt_ms"
    medianRttMs := ← readOptional readFloat j "median_rtt_ms"
    maxRttMs := ← readOptional readFloat j "max_rtt_ms"
    p95RttMs := ← readOptional readFloat j "p95_rtt_ms"
    jitterMs := ← readOptional readFloat j "jitter_ms"
    rttSamplesMs := ← readField (readList readFloat) j "rtt_samples_ms" }

def readHttpResult (j : Document) : Option HttpObservationResult :=
  Option.filter HttpObservationResult.valid do return {
    method := ← readField (readLiteral HttpMethod.text [.get, .head]) j "method"
    scheme := ← readField (readLiteral HttpScheme.text [.http, .https]) j "scheme"
    statusCode := ← readOptional readInt j "status_code"
    redirectCount := ← readField readInt j "redirect_count"
    responseSizeBytes := ← readOptional readInt j "response_size_bytes"
    dnsMs := ← readOptional readFloat j "dns_ms"
    connectMs := ← readOptional readFloat j "connect_ms"
    tlsMs := ← readOptional readFloat j "tls_ms"
    ttfbMs := ← readOptional readFloat j "ttfb_ms"
    totalMs := ← readOptional readFloat j "total_ms"
    assertionsTotal := ← readField readInt j "assertions_total"
    assertionsFailed := ← readField readInt j "assertions_failed"
    finalUrlRedacted := ← readOptional readStr j "final_url_redacted" }

def readTcpResult (j : Document) : Option TcpObservationResult :=
  Option.filter TcpObservationResult.valid do return {
    port := ← readField readInt j "port"
    addressUsed := ← readOptional readStr j "address_used"
    connectMs := ← readOptional readFloat j "connect_ms" }

def readQueryType : Document → Option DnsQueryType :=
  readLiteral DnsQueryType.text [.a, .aaaa, .cname, .mx, .ns, .ptr, .txt]

/-- An answer has no other members. -/
def readDnsAnswer (j : Document) : Option DnsAnswer :=
  if (j.members.all fun m => m.1 ∈ ["type", "name", "ttl", "value"]) then
    Option.filter DnsAnswer.valid do return {
      type := ← readField readQueryType j "type"
      name := ← readField readStr j "name"
      ttl := ← readOptional readInt j "ttl"
      value := ← readField readStr j "value" }
  else none

def readDnsResult (j : Document) : Option DnsObservationResult :=
  Option.filter DnsObservationResult.valid do return {
    resolverAddress := ← readOptional readStr j "resolver_address"
    queryName := ← readField readStr j "query_name"
    queryType := ← readField readQueryType j "query_type"
    responseCode := ← readOptional readStr j "response_code"
    responseMs := ← readOptional readFloat j "response_ms"
    answerCount := ← readField readInt j "answer_count"
    answers := ← readField (readList readDnsAnswer) j "answers"
    truncated := ← readField readBool j "truncated"
    authoritative := ← readField readBool j "authoritative"
    assertionsTotal := ← readField readInt j "assertions_total"
    assertionsFailed := ← readField readInt j "assertions_failed" }

def readTlsResult (j : Document) : Option TlsObservationResult :=
  Option.filter TlsObservationResult.valid do return {
    port := ← readField readInt j "port"
    serverName := ← readField readStr j "server_name"
    protocolVersion := ← readOptional readStr j "protocol_version"
    cipherSuite := ← readOptional readStr j "cipher_suite"
    handshakeMs := ← readOptional readFloat j "handshake_ms"
    certificatePresent := ← readField readBool j "certificate_present"
    hostnameValid := ← readOptional readBool j "hostname_valid"
    chainValid := ← readOptional readBool j "chain_valid"
    notBefore := ← readOptional readTime j "not_before"
    notAfter := ← readOptional readTime j "not_after"
    daysRemaining := ← readOptional readFloat j "days_remaining"
    subjectName := ← readOptional readStr j "subject_name"
    issuerName := ← readOptional readStr j "issuer_name"
    serialNumber := ← readOptional readStr j "serial_number"
    fingerprintSha256 := ← readOptional readStr j "fingerprint_sha256" }

/-- The model of a probe type. -/
def readResult (j : Document) : ProbeType → Option ObservationResult
  | .icmp => (readIcmpResult j).map .icmp
  | .http => (readHttpResult j).map .http
  | .tcp => (readTcpResult j).map .tcp
  | .dns => (readDnsResult j).map .dns
  | .tls => (readTlsResult j).map .tls

def resultFields : ProbeType → List String
  | .icmp => ["packets_sent", "packets_received", "packet_loss_percent", "min_rtt_ms",
      "avg_rtt_ms", "median_rtt_ms", "max_rtt_ms", "p95_rtt_ms", "jitter_ms", "rtt_samples_ms"]
  | .http => ["method", "scheme", "status_code", "redirect_count",
      "response_size_bytes", "dns_ms", "connect_ms", "tls_ms", "ttfb_ms", "total_ms",
      "assertions_total", "assertions_failed", "final_url_redacted"]
  | .tcp => ["port", "address_used", "connect_ms"]
  | .dns => ["resolver_address", "query_name", "query_type", "response_code",
      "response_ms", "answer_count", "answers", "truncated", "authoritative",
      "assertions_total", "assertions_failed"]
  | .tls => ["port", "server_name", "protocol_version", "cipher_suite", "handshake_ms",
      "certificate_present", "hostname_valid", "chain_valid", "not_before", "not_after",
      "days_remaining", "subject_name", "issuer_name", "serial_number", "fingerprint_sha256"]

/-- How many fields of a model the document sets. -/
def fieldsSet (j : Document) (t : ProbeType) : ℕ :=
  (resultFields t).countP fun name => (j.members.lookup name).isSome

/-- The better of two members that have accepted the document. -/
def betterMember (a b : ℕ × ObservationResult) : ℕ × ObservationResult :=
  if a.1 < b.1 then b else a

/-- `IcmpObservationResult | HttpObservationResult | …` -/
def readUnion (j : Document) : Option ObservationResult :=
  match [ProbeType.icmp, .http, .tcp, .dns, .tls].filterMap fun t =>
      (readResult j t).map fun r => (fieldsSet j t, r) with
  | [] => none
  | member :: members => some (members.foldl betterMember member).2

/-! ## Observations -/

/-- `AgentObservation`, given how the text of a UUID is read. -/
def readObservation (uuid : String → Option Uuid) (j : Document) : Option AgentObservation :=
  Option.filter AgentObservation.valid do return {
    scheduledAt := ← readField readTime j "scheduled_at"
    observationId := ← readField (fun v => (readStr v).bind uuid) j "observation_id"
    monitorId := ← readField (fun v => (readStr v).bind uuid) j "monitor_id"
    monitorRevision := ← readField readInt j "monitor_revision"
    probeType := ← readField
      (readLiteral ProbeType.text [.icmp, .http, .tcp, .dns, .tls]) j "probe_type"
    startedAt := ← readField readTime j "started_at"
    finishedAt := ← readField readTime j "finished_at"
    executionStatus := ← readField
      (readLiteral ExecutionStatus.text [.completed, .failed]) j "execution_status"
    assessment := ← readField
      (readLiteral Assessment.text [.healthy, .unhealthy, .unknown]) j "assessment"
    errorCategory := ← readOptional (readLiteral ErrorCategory.text
      [.timeout, .resolution, .connection, .tls, .protocol, .assertion, .permission,
        .invalidConfiguration, .resourceLimit, .internal]) j "error_category"
    errorCode := ← readOptional readStr j "error_code"
    errorMessage := ← readOptional readStr j "error_message"
    agentClockOffsetMs := ← readOptional readInt j "agent_clock_offset_ms"
    result := ← readOptional readUnion j "result" }

end Bifrostnms.Backend
