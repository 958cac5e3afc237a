import Bifrostnms.Backend.ProbeConfiguration
import Bifrostnms.Lib.Sql

/-!
# Observations and their results (`schemas/agent_protocol.py`)

An upload as pydantic hands it to the ingestion code: every field of the
annotated type, with the bounds of the annotations and the model validators
gathered in `valid`. A float may be any double; pydantic rejects one only
when a comparison with its bound holds, and no comparison with a NaN does.

`modelDump` is `model_dump(mode="json")`, whose sorted dump is what an
observation's content hash is taken of.
-/

namespace Bifrostnms.Backend

open Bifrostnms.Lib

/-! ## Typed results -/

/-- `Field(ge=0)` on a float. -/
def nonNegative (x : Double) : Bool := !x.lt 0

theorem nonNegative_finite {d : Decimal} (h : d.neg = false) : nonNegative (.finite d) = true := by
  rw [nonNegative, Double.lt, decide_eq_false (not_lt.mpr (Decimal.value_nonneg h))]
  rfl

/-- `Field(min_length=low, max_length=high)` on a string. -/
def sized (low high : ℕ) (s : String) : Bool := low ≤ s.length ∧ s.length ≤ high

def inRange (low high n : ℤ) : Bool := low ≤ n ∧ n ≤ high

structure IcmpObservationResult where
  packetsSent : ℤ
  packetsReceived : ℤ
  packetLossPercent : Double
  minRttMs : Option Double := none
  avgRttMs : Option Double := none
  medianRttMs : Option Double := none
  maxRttMs : Option Double := none
  p95RttMs : Option Double := none
  jitterMs : Option Double := none
  rttSamplesMs : List Double

def IcmpObservationResult.valid (r : IcmpObservationResult) : Bool :=
  inRange 1 100 r.packetsSent && inRange 0 100 r.packetsReceived &&
    nonNegative r.packetLossPercent && !r.packetLossPercent.gt 100 &&
    r.minRttMs.all nonNegative && r.avgRttMs.all nonNegative &&
    r.medianRttMs.all nonNegative && r.maxRttMs.all nonNegative &&
    r.p95RttMs.all nonNegative && r.jitterMs.all nonNegative &&
    r.rttSamplesMs.all nonNegative && r.rttSamplesMs.length ≤ 100 &&
    -- validate_packet_counts
    r.packetsReceived ≤ r.packetsSent && (r.rttSamplesMs.length : ℤ) == r.packetsReceived

/-- The fields of an ICMP result over any kind of numbers. -/
structure IcmpMeasurements (ν : Type) where
  packetsSent : ℤ
  packetsReceived : ℤ
  packetLossPercent : ν
  minRttMs : Option ν := none
  avgRttMs : Option ν := none
  medianRttMs : Option ν := none
  maxRttMs : Option ν := none
  p95RttMs : Option ν := none
  jitterMs : Option ν := none
  rttSamplesMs : List ν

/-- The checks of `IcmpObservationResult`, given what `ge=0` and `le=100` mean. -/
def IcmpMeasurements.valid {ν : Type} (ge0 le100 : ν → Bool) (r : IcmpMeasurements ν) : Bool :=
  inRange 1 100 r.packetsSent && inRange 0 100 r.packetsReceived &&
    ge0 r.packetLossPercent && le100 r.packetLossPercent &&
    r.minRttMs.all ge0 && r.avgRttMs.all ge0 && r.medianRttMs.all ge0 &&
    r.maxRttMs.all ge0 && r.p95RttMs.all ge0 && r.jitterMs.all ge0 &&
    r.rttSamplesMs.all ge0 && r.rttSamplesMs.length ≤ 100 && r.packetsReceived ≤ r.packetsSent &&
    (r.rttSamplesMs.length : ℤ) == r.packetsReceived

def IcmpObservationResult.measurements (r : IcmpObservationResult) : IcmpMeasurements Double :=
  ⟨r.packetsSent, r.packetsReceived, r.packetLossPercent, r.minRttMs, r.avgRttMs,
    r.medianRttMs, r.maxRttMs, r.p95RttMs, r.jitterMs, r.rttSamplesMs⟩

theorem IcmpObservationResult.valid_eq_measurements (r : IcmpObservationResult) :
    r.valid = r.measurements.valid nonNegative (fun x => !x.gt 100) := rfl

structure HttpObservationResult where
  method : HttpMethod
  scheme : HttpScheme
  statusCode : Option ℤ := none
  redirectCount : ℤ
  responseSizeBytes : Option ℤ := none
  dnsMs : Option Double := none
  connectMs : Option Double := none
  tlsMs : Option Double := none
  ttfbMs : Option Double := none
  totalMs : Option Double := none
  assertionsTotal : ℤ
  assertionsFailed : ℤ
  finalUrlRedacted : Option String := none

def HttpObservationResult.valid (r : HttpObservationResult) : Bool :=
  r.statusCode.all (inRange 100 599) && inRange 0 20 r.redirectCount &&
    r.responseSizeBytes.all (fun n => 0 ≤ n) &&
    r.dnsMs.all nonNegative && r.connectMs.all nonNegative &&
    r.tlsMs.all nonNegative && r.ttfbMs.all nonNegative &&
    r.totalMs.all nonNegative && inRange 0 100 r.assertionsTotal &&
    inRange 0 100 r.assertionsFailed && r.finalUrlRedacted.all (sized 0 2048) &&
    -- validate_assertion_counts
    r.assertionsFailed ≤ r.assertionsTotal

structure TcpObservationResult where
  port : ℤ
  addressUsed : Option String := none
  connectMs : Option Double := none

def TcpObservationResult.valid (r : TcpObservationResult) : Bool :=
  inRange 1 65535 r.port && r.addressUsed.all (sized 2 45) && r.connectMs.all nonNegative

structure DnsAnswer where
  type : DnsQueryType
  name : String
  ttl : Option ℤ := none
  value : String

def DnsAnswer.valid (a : DnsAnswer) : Bool :=
  sized 1 253 a.name && a.ttl.all (fun n => 0 ≤ n) && sized 1 1024 a.value

structure DnsObservationResult where
  resolverAddress : Option String := none
  queryName : String
  queryType : DnsQueryType
  responseCode : Option String := none
  responseMs : Option Double := none
  answerCount : ℤ
  answers : List DnsAnswer
  truncated : Bool
  authoritative : Bool
  assertionsTotal : ℤ
  assertionsFailed : ℤ

def DnsObservationResult.valid (r : DnsObservationResult) : Bool :=
  r.resolverAddress.all (sized 2 45) && sized 1 253 r.queryName &&
    r.responseCode.all (sized 0 32) && r.responseMs.all nonNegative &&
    inRange 0 100 r.answerCount && r.answers.all DnsAnswer.valid &&
    r.answers.length ≤ 100 && inRange 0 100 r.assertionsTotal && inRange 0 100 r.assertionsFailed &&
    -- validate_counts
    (r.answers.length : ℤ) == r.answerCount && r.assertionsFailed ≤ r.assertionsTotal

structure TlsObservationResult where
  port : ℤ
  serverName : String
  protocolVersion : Option String := none
  cipherSuite : Option String := none
  handshakeMs : Option Double := none
  certificatePresent : Bool
  hostnameValid : Option Bool := none
  chainValid : Option Bool := none
  notBefore : Option DateTime := none
  notAfter : Option DateTime := none
  daysRemaining : Option Double := none
  subjectName : Option String := none
  issuerName : Option String := none
  serialNumber : Option String := none
  fingerprintSha256 : Option String := none

/-- The pattern `^[0-9a-f]{64}$`. -/
def fingerprint (s : String) : Bool :=
  s.length == 64 && s.toList.all fun c => c.isDigit || ('a' ≤ c && c ≤ 'f')

def TlsObservationResult.valid (r : TlsObservationResult) : Bool :=
  inRange 1 65535 r.port && sized 1 253 r.serverName && r.protocolVersion.all (sized 0 32) &&
    r.cipherSuite.all (sized 0 160) &&
    r.handshakeMs.all nonNegative && r.subjectName.all (sized 0 500) &&
    r.issuerName.all (sized 0 500) && r.serialNumber.all (sized 0 160) &&
    r.fingerprintSha256.all fingerprint &&
    -- validate_certificate_dates
    r.notBefore.all fun a => r.notAfter.all fun b => a.instant ≤ b.instant

inductive ObservationResult where
  | icmp (r : IcmpObservationResult)
  | http (r : HttpObservationResult)
  | tcp (r : TcpObservationResult)
  | dns (r : DnsObservationResult)
  | tls (r : TlsObservationResult)

def ObservationResult.valid : ObservationResult → Bool
  | .icmp r => r.valid
  | .http r => r.valid
  | .tcp r => r.valid
  | .dns r => r.valid
  | .tls r => r.valid

def ObservationResult.probeType : ObservationResult → ProbeType
  | .icmp _ => .icmp
  | .http _ => .http
  | .tcp _ => .tcp
  | .dns _ => .dns
  | .tls _ => .tls

/-! ## Observations and uploads -/

inductive ExecutionStatus where
  | completed | failed
deriving DecidableEq

def ExecutionStatus.text : ExecutionStatus → String
  | .completed => "completed"
  | .failed => "failed"

inductive Assessment where
  | healthy | unhealthy | unknown
deriving DecidableEq

def Assessment.text : Assessment → String
  | .healthy => "healthy"
  | .unhealthy => "unhealthy"
  | .unknown => "unknown"

inductive ErrorCategory where
  | timeout | resolution | connection | tls | protocol | assertion
  | permission | invalidConfiguration | resourceLimit | internal
deriving DecidableEq

def ErrorCategory.text : ErrorCategory → String
  | .timeout => "timeout"
  | .resolution => "resolution"
  | .connection => "connection"
  | .tls => "tls"
  | .protocol => "protocol"
  | .assertion => "assertion"
  | .permission => "permission"
  | .invalidConfiguration => "invalid_configuration"
  | .resourceLimit => "resource_limit"
  | .internal => "internal"

structure AgentObservation where
  scheduledAt : DateTime
  observationId : Uuid
  monitorId : Uuid
  monitorRevision : ℤ
  probeType : ProbeType
  startedAt : DateTime
  finishedAt : DateTime
  executionStatus : ExecutionStatus
  assessment : Assessment
  errorCategory : Option ErrorCategory := none
  errorCode : Option String := none
  errorMessage : Option String := none
  agentClockOffsetMs : Option ℤ := none
  result : Option ObservationResult := none

def AgentObservation.valid (o : AgentObservation) : Bool :=
  1 ≤ o.monitorRevision && o.errorCode.all (sized 0 120) && o.errorMessage.all (sized 0 500) &&
    o.result.all ObservationResult.valid &&
    -- validate_observation
    o.scheduledAt.instant ≤ o.startedAt.instant && o.startedAt.instant ≤ o.finishedAt.instant &&
    (match o.executionStatus with
      | .completed => o.result.map ObservationResult.probeType == some o.probeType
      | .failed => o.result.isNone)

structure AgentObservationUpload where
  protocolVersion : ℤ
  resultSchemaVersion : ℤ
  agentConfigRevision : ℤ
  batchId : Uuid
  observations : List AgentObservation

def AgentObservationUpload.valid (u : AgentObservationUpload) : Bool :=
  1 ≤ u.protocolVersion && 1 ≤ u.resultSchemaVersion &&
    1 ≤ u.agentConfigRevision && u.observations.all AgentObservation.valid &&
    1 ≤ u.observations.length && u.observations.length ≤ 500

/-! ## The content hash -/

/-- A number of a dump; `json.dumps` writes the non-finite doubles too. -/
inductive DumpNum where
  | int (n : ℤ)
  | float (x : Double)

def dumpNum : DumpNum → List Char
  | .int n => JsonText.intText n
  | .float (.finite d) => JsonText.pyFloat d
  | .float (.infinity neg) => JsonText.signed neg "Infinity".toList
  | .float .nan => "NaN".toList

theorem token_dumpNum (n : DumpNum) : Json.Token (dumpNum n) := by
  match n with
  | .int n => exact JsonText.token_pyNum (.int n)
  | .float (.finite d) => exact JsonText.token_pyNum (.float d)
  | .float (.infinity true) =>
    exact ⟨⟨'-', "Infinity".toList, rfl, by decide⟩,
      by simp [dumpNum, JsonText.signed, Json.isDelim]⟩
  | .float (.infinity false) =>
    exact ⟨⟨'I', "nfinity".toList, rfl, by decide⟩,
      by simp [dumpNum, JsonText.signed, Json.isDelim]⟩
  | .float .nan =>
    exact ⟨⟨'N', "aN".toList, rfl, by decide⟩, by simp [dumpNum, Json.isDelim]⟩

/-- `json.dumps` on a dump. -/
def dumpEncoder : Json.Encoder DumpNum where
  str := JsonText.quote JsonText.pyEscape
  num := dumpNum
  str_literal := JsonText.literal_quote JsonText.body_pyEscape
  num_token := token_dumpNum

def dumpInt (n : ℤ) : Json DumpNum := .num (.int n)

def dumpFloat (x : Double) : Json DumpNum := .num (.float x)

def dumpTime (t : DateTime) : Json DumpNum := .str (String.ofList t.isoformat)

def dumpOption {α : Type} (f : α → Json DumpNum) : Option α → Json DumpNum
  | none => .null
  | some a => f a

def ObservationResult.modelDump : ObservationResult → Json DumpNum
  | .icmp r => .obj [("packets_sent", dumpInt r.packetsSent),
      ("packets_received", dumpInt r.packetsReceived),
      ("packet_loss_percent", dumpFloat r.packetLossPercent),
      ("min_rtt_ms", dumpOption dumpFloat r.minRttMs),
      ("avg_rtt_ms", dumpOption dumpFloat r.avgRttMs),
      ("median_rtt_ms", dumpOption dumpFloat r.medianRttMs),
      ("max_rtt_ms", dumpOption dumpFloat r.maxRttMs),
      ("p95_rtt_ms", dumpOption dumpFloat r.p95RttMs),
      ("jitter_ms", dumpOption dumpFloat r.jitterMs),
      ("rtt_samples_ms", .arr (r.rttSamplesMs.map dumpFloat))]
  | .http r => .obj [("method", .str r.method.text), ("scheme", .str r.scheme.text),
      ("status_code", dumpOption dumpInt r.statusCode), ("redirect_count", dumpInt r.redirectCount),
      ("response_size_bytes", dumpOption dumpInt r.responseSizeBytes),
      ("dns_ms", dumpOption dumpFloat r.dnsMs), ("connect_ms", dumpOption dumpFloat r.connectMs),
      ("tls_ms", dumpOption dumpFloat r.tlsMs), ("ttfb_ms", dumpOption dumpFloat r.ttfbMs),
      ("total_ms", dumpOption dumpFloat r.totalMs), ("assertions_total", dumpInt r.assertionsTotal),
      ("assertions_failed", dumpInt r.assertionsFailed),
      ("final_url_redacted", dumpOption .str r.finalUrlRedacted)]
  | .tcp r => .obj [("port", dumpInt r.port), ("address_used", dumpOption .str r.addressUsed),
      ("connect_ms", dumpOption dumpFloat r.connectMs)]
  | .dns r => .obj [("resolver_address", dumpOption .str r.resolverAddress),
      ("query_name", .str r.queryName), ("query_type", .str r.queryType.text),
      ("response_code", dumpOption .str r.responseCode),
      ("response_ms", dumpOption dumpFloat r.responseMs), ("answer_count", dumpInt r.answerCount),
      ("answers", .arr (r.answers.map fun a => .obj [("type", .str a.type.text),
        ("name", .str a.name), ("ttl", dumpOption dumpInt a.ttl), ("value", .str a.value)])),
      ("truncated", .bool r.truncated), ("authoritative", .bool r.authoritative),
      ("assertions_total", dumpInt r.assertionsTotal),
      ("assertions_failed", dumpInt r.assertionsFailed)]
  | .tls r => .obj [("port", dumpInt r.port), ("server_name", .str r.serverName),
      ("protocol_version", dumpOption .str r.protocolVersion),
      ("cipher_suite", dumpOption .str r.cipherSuite),
      ("handshake_ms", dumpOption dumpFloat r.handshakeMs),
      ("certificate_present", .bool r.certificatePresent),
      ("hostname_valid", dumpOption .bool r.hostnameValid),
      ("chain_valid", dumpOption .bool r.chainValid),
      ("not_before", dumpOption dumpTime r.notBefore),
      ("not_after", dumpOption dumpTime r.notAfter),
      ("days_remaining", dumpOption dumpFloat r.daysRemaining),
      ("subject_name", dumpOption .str r.subjectName),
      ("issuer_name", dumpOption .str r.issuerName),
      ("serial_number", dumpOption .str r.serialNumber),
      ("fingerprint_sha256", dumpOption .str r.fingerprintSha256)]

def AgentObservation.modelDump (o : AgentObservation) : Json DumpNum := .obj [
  ("scheduled_at", dumpTime o.scheduledAt), ("observation_id", .str o.observationId.text),
  ("monitor_id", .str o.monitorId.text), ("monitor_revision", dumpInt o.monitorRevision),
  ("probe_type", .str o.probeType.text), ("started_at", dumpTime o.startedAt),
  ("finished_at", dumpTime o.finishedAt), ("execution_status", .str o.executionStatus.text),
  ("assessment", .str o.assessment.text),
  ("error_category", dumpOption (fun e => .str e.text) o.errorCategory),
  ("error_code", dumpOption .str o.errorCode), ("error_message", dumpOption .str o.errorMessage),
  ("agent_clock_offset_ms", dumpOption dumpInt o.agentClockOffsetMs),
  ("result", dumpOption ObservationResult.modelDump o.result)]

/-- `_canonical_hash`. -/
def canonicalHash (sha256 : List UInt8 → List UInt8) (o : AgentObservation) : String :=
  String.ofList (hexText (sha256
    (utf8 ((o.modelDump.sortKeys codePointLe).encode dumpEncoder))))

end Bifrostnms.Backend
