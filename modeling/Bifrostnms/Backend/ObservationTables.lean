import Bifrostnms.Backend.ObservationSchema

/-!
# The observation tables (migrations 0007, 0011 and 0012)

The six tables as the migrations leave them, and the rows and parameters
with which the ingestion code fills them. `received_at` is left out: it is
filled by its default.
-/

namespace Bifrostnms.Backend

open Bifrostnms.Lib

/-! ## The tables -/

def required (name : String) (type : Sql.ColumnType) : Sql.Column :=
  ⟨name, type, true⟩

def nullable (name : String) (type : Sql.ColumnType) : Sql.Column :=
  ⟨name, type, false⟩

def observationsTable : Sql.Table where
  columns := [required "scheduled_at" .timestamptz, required "observation_id" .uuid,
    required "realm_id" .uuid, required "agent_id" .uuid, required "monitor_id" .uuid,
    required "probe_type" (.varchar 16), required "monitor_revision" .bigint,
    required "agent_config_revision" .bigint, required "started_at" .timestamptz,
    required "finished_at" .timestamptz, required "execution_status" (.varchar 16),
    required "assessment" (.varchar 16), nullable "error_category" (.varchar 32),
    nullable "error_code" (.varchar 120), nullable "error_message" (.varchar 500),
    nullable "agent_clock_offset_ms" .integer, nullable "canonical_payload_hash" (.varchar 64)]
  checks := [Sql.oneOf "probe_type" ["icmp", "http", "tcp", "dns", "tls"],
    Sql.oneOf "execution_status" ["completed", "failed"],
    Sql.oneOf "assessment" ["healthy", "unhealthy", "unknown"],
    Sql.either (Sql.isNull "error_category") (Sql.oneOf "error_category"
      ["timeout", "resolution", "connection", "tls", "protocol", "assertion",
        "permission", "invalid_configuration", "resource_limit", "internal"]),
    Sql.both (Sql.atLeast "monitor_revision" 1)
      (Sql.atLeast "agent_config_revision" 1), Sql.both (Sql.notBefore "started_at" "scheduled_at")
      (Sql.notBefore "finished_at" "started_at")]

/-- The columns every typed table begins with. -/
def identityColumns : List Sql.Column := [required "scheduled_at" .timestamptz,
  required "observation_id" .uuid, required "realm_id" .uuid, required "agent_id" .uuid,
  required "monitor_id" .uuid]

def icmpResults : Sql.Table where
  columns := identityColumns ++ [required "packets_sent" .integer,
    required "packets_received" .integer, required "packet_loss_percent" .doublePrecision,
    nullable "min_rtt_ms" .doublePrecision, nullable "avg_rtt_ms" .doublePrecision,
    nullable "median_rtt_ms" .doublePrecision, nullable "max_rtt_ms" .doublePrecision,
    nullable "p95_rtt_ms" .doublePrecision, nullable "jitter_ms" .doublePrecision,
    required "rtt_samples_ms" .doubleArray]
  checks := [Sql.both (Sql.between "packets_sent" 1 100)
      (Sql.both
        (Sql.both (Sql.atLeast "packets_received" 0)
          (Sql.notBefore "packets_sent" "packets_received"))
        (Sql.cardinality "rtt_samples_ms" "packets_received")),
    Sql.between "packet_loss_percent" 0 100,
    Sql.either (Sql.isNull "min_rtt_ms") (Sql.atLeast "min_rtt_ms" 0)]

def httpResults : Sql.Table where
  columns := identityColumns ++ [required "method" (.varchar 8), required "scheme" (.varchar 8),
    nullable "status_code" .integer, required "redirect_count" .integer,
    nullable "response_size_bytes" .bigint, nullable "dns_ms" .doublePrecision,
    nullable "connect_ms" .doublePrecision, nullable "tls_ms" .doublePrecision,
    nullable "ttfb_ms" .doublePrecision, nullable "total_ms" .doublePrecision,
    required "assertions_total" .integer, required "assertions_failed" .integer,
    nullable "final_url_redacted" (.varchar 2048)]
  checks := [Sql.oneOf "method" ["GET", "HEAD"], Sql.oneOf "scheme" ["http", "https"],
    Sql.either (Sql.isNull "status_code") (Sql.between "status_code" 100 599),
    Sql.both (Sql.atLeast "redirect_count" 0)
      (Sql.both (Sql.atLeast "assertions_total" 0)
        (Sql.both
          (Sql.both (Sql.atLeast "assertions_failed" 0)
            (Sql.notBefore "assertions_total" "assertions_failed"))
          (Sql.either (Sql.isNull "response_size_bytes")
            (Sql.atLeast "response_size_bytes" 0))))]

def tcpResults : Sql.Table where
  columns := identityColumns ++ [required "port" .integer, required "address_used" .inet,
    nullable "connect_ms" .doublePrecision]
  checks := [Sql.between "port" 1 65535,
    Sql.either (Sql.isNull "connect_ms") (Sql.atLeast "connect_ms" 0)]

def dnsResults : Sql.Table where
  columns := identityColumns ++ [required "resolver_address" .inet,
    required "query_name" (.varchar 253), required "query_type" (.varchar 16),
    nullable "response_code" (.varchar 32), nullable "response_ms" .doublePrecision,
    required "answer_count" .integer, required "answers" .jsonb, required "truncated" .boolean,
    required "authoritative" .boolean, required "assertions_total" .integer,
    required "assertions_failed" .integer]
  checks := [Sql.oneOf "query_type"
      ["A", "AAAA", "CNAME", "MX", "NS", "PTR", "SOA", "TXT"], Sql.both
      (Sql.either (Sql.isNull "response_ms") (Sql.atLeast "response_ms" 0))
      (Sql.both (Sql.atLeast "answer_count" 0)
        (Sql.both (Sql.isArray "answers")
          (Sql.both (Sql.atLeast "assertions_total" 0)
            (Sql.both (Sql.atLeast "assertions_failed" 0)
              (Sql.notBefore "assertions_total" "assertions_failed")))))]

def tlsResults : Sql.Table where
  columns := identityColumns ++ [required "port" .integer, required "server_name" (.varchar 253),
    nullable "protocol_version" (.varchar 32), nullable "cipher_suite" (.varchar 160),
    nullable "handshake_ms" .doublePrecision, required "certificate_present" .boolean,
    nullable "hostname_valid" .boolean, nullable "chain_valid" .boolean,
    nullable "not_before" .timestamptz, nullable "not_after" .timestamptz,
    nullable "days_remaining" .doublePrecision, nullable "subject_name" (.varchar 500),
    nullable "issuer_name" (.varchar 500), nullable "serial_number" (.varchar 160),
    nullable "fingerprint_sha256" (.varchar 64)]
  checks := [Sql.between "port" 1 65535,
    Sql.either (Sql.isNull "handshake_ms") (Sql.atLeast "handshake_ms" 0),
    Sql.either (Sql.isNull "not_before")
      (Sql.either (Sql.isNull "not_after")
        (Sql.notBefore "not_after" "not_before"))]

/-- The table of `specifications[probe_type]`. -/
def typedTable : ProbeType → Sql.Table
  | .icmp => icmpResults
  | .http => httpResults
  | .tcp => tcpResults
  | .dns => dnsResults
  | .tls => tlsResults

/-! ## Rows -/

structure Authentication where
  realmId : Uuid
  agentId : Uuid
deriving DecidableEq

/-- A row of `observations`; instants are in microseconds. -/
structure CommonRow where
  scheduledAt : ℤ
  observationId : Uuid
  realmId : Uuid
  agentId : Uuid
  monitorId : Uuid
  probeType : ProbeType
  monitorRevision : ℤ
  agentConfigRevision : ℤ
  startedAt : ℤ
  finishedAt : ℤ
  executionStatus : ExecutionStatus
  assessment : Assessment
  errorCategory : Option ErrorCategory
  errorCode : Option String
  errorMessage : Option String
  agentClockOffsetMs : Option ℤ
  canonicalPayloadHash : String

/-- A row of the typed table of its result. -/
structure TypedRow where
  scheduledAt : ℤ
  observationId : Uuid
  realmId : Uuid
  agentId : Uuid
  monitorId : Uuid
  result : ObservationResult

/-- The unique key of every one of the tables. -/
abbrev Identity := ℤ × Uuid

def CommonRow.identity (r : CommonRow) : Identity :=
  (r.scheduledAt, r.observationId)

def TypedRow.identity (r : TypedRow) : Identity :=
  (r.scheduledAt, r.observationId)

def AgentObservation.identity (o : AgentObservation) : Identity :=
  (o.scheduledAt.instant, o.observationId)

structure Database where
  observations : List CommonRow := []
  results : List TypedRow := []

/-- What surrounds one upload: the address parser of the driver, the hash,
and the authenticated agent. -/
structure IngestContext where
  inet : String → Bool
  sha256 : List UInt8 → List UInt8
  authentication : Authentication
  agentConfigRevision : ℤ

def commonRow (ctx : IngestContext) (o : AgentObservation) : CommonRow where
  scheduledAt := o.scheduledAt.instant
  observationId := o.observationId
  realmId := ctx.authentication.realmId
  agentId := ctx.authentication.agentId
  monitorId := o.monitorId
  probeType := o.probeType
  monitorRevision := o.monitorRevision
  agentConfigRevision := ctx.agentConfigRevision
  startedAt := o.startedAt.instant
  finishedAt := o.finishedAt.instant
  executionStatus := o.executionStatus
  assessment := o.assessment
  errorCategory := o.errorCategory
  errorCode := o.errorCode
  errorMessage := o.errorMessage
  agentClockOffsetMs := o.agentClockOffsetMs
  canonicalPayloadHash := canonicalHash ctx.sha256 o

def typedRow (ctx : IngestContext) (o : AgentObservation)
    (result : ObservationResult) : TypedRow where
  scheduledAt := o.scheduledAt.instant
  observationId := o.observationId
  realmId := ctx.authentication.realmId
  agentId := ctx.authentication.agentId
  monitorId := o.monitorId
  result := result

/-- The parameters of the `INSERT` of `_insert_common`. -/
def commonValues (ctx : IngestContext) (o : AgentObservation) : Sql.Row := [
  ("scheduled_at", .timestamp o.scheduledAt), ("observation_id", .uuid o.observationId),
  ("realm_id", .uuid ctx.authentication.realmId), ("agent_id", .uuid ctx.authentication.agentId),
  ("monitor_id", .uuid o.monitorId), ("probe_type", .text o.probeType.text),
  ("monitor_revision", .int o.monitorRevision),
  ("agent_config_revision", .int ctx.agentConfigRevision), ("started_at", .timestamp o.startedAt),
  ("finished_at", .timestamp o.finishedAt), ("execution_status", .text o.executionStatus.text),
  ("assessment", .text o.assessment.text),
  ("error_category", .ofOption (fun e => .text e.text) o.errorCategory),
  ("error_code", .ofOption .text o.errorCode), ("error_message", .ofOption .text o.errorMessage),
  ("agent_clock_offset_ms", .ofOption .int o.agentClockOffsetMs),
  ("canonical_payload_hash", .text (canonicalHash ctx.sha256 o))]

def answerJson (a : DnsAnswer) : Json JsonNum := .obj [("type", .str a.type.text),
  ("name", .str a.name), ("ttl", jsonOption jsonInt a.ttl), ("value", .str a.value)]

/-- The columns of a typed result. -/
def resultValues : ObservationResult → Sql.Row
  | .icmp r => [("packets_sent", .int r.packetsSent), ("packets_received", .int r.packetsReceived),
      ("packet_loss_percent", .double r.packetLossPercent),
      ("min_rtt_ms", .ofOption .double r.minRttMs), ("avg_rtt_ms", .ofOption .double r.avgRttMs),
      ("median_rtt_ms", .ofOption .double r.medianRttMs),
      ("max_rtt_ms", .ofOption .double r.maxRttMs), ("p95_rtt_ms", .ofOption .double r.p95RttMs),
      ("jitter_ms", .ofOption .double r.jitterMs), ("rtt_samples_ms", .doubles r.rttSamplesMs)]
  | .http r => [("method", .text r.method.text), ("scheme", .text r.scheme.text),
      ("status_code", .ofOption .int r.statusCode), ("redirect_count", .int r.redirectCount),
      ("response_size_bytes", .ofOption .int r.responseSizeBytes),
      ("dns_ms", .ofOption .double r.dnsMs), ("connect_ms", .ofOption .double r.connectMs),
      ("tls_ms", .ofOption .double r.tlsMs), ("ttfb_ms", .ofOption .double r.ttfbMs),
      ("total_ms", .ofOption .double r.totalMs), ("assertions_total", .int r.assertionsTotal),
      ("assertions_failed", .int r.assertionsFailed),
      ("final_url_redacted", .ofOption .text r.finalUrlRedacted)]
  | .tcp r => [("port", .int r.port), ("address_used", .ofOption .text r.addressUsed),
      ("connect_ms", .ofOption .double r.connectMs)]
  | .dns r => [("resolver_address", .ofOption .text r.resolverAddress),
      ("query_name", .text r.queryName), ("query_type", .text r.queryType.text),
      ("response_code", .ofOption .text r.responseCode),
      ("response_ms", .ofOption .double r.responseMs), ("answer_count", .int r.answerCount),
      ("answers", .json (.arr (r.answers.map answerJson))), ("truncated", .bool r.truncated),
      ("authoritative", .bool r.authoritative), ("assertions_total", .int r.assertionsTotal),
      ("assertions_failed", .int r.assertionsFailed)]
  | .tls r => [("port", .int r.port), ("server_name", .text r.serverName),
      ("protocol_version", .ofOption .text r.protocolVersion),
      ("cipher_suite", .ofOption .text r.cipherSuite),
      ("handshake_ms", .ofOption .double r.handshakeMs),
      ("certificate_present", .bool r.certificatePresent),
      ("hostname_valid", .ofOption .bool r.hostnameValid),
      ("chain_valid", .ofOption .bool r.chainValid),
      ("not_before", .ofOption .timestamp r.notBefore),
      ("not_after", .ofOption .timestamp r.notAfter),
      ("days_remaining", .ofOption .double r.daysRemaining),
      ("subject_name", .ofOption .text r.subjectName),
      ("issuer_name", .ofOption .text r.issuerName),
      ("serial_number", .ofOption .text r.serialNumber),
      ("fingerprint_sha256", .ofOption .text r.fingerprintSha256)]

/-- The parameters of the `INSERT` of `_insert_typed_result`. -/
def typedValues (ctx : IngestContext) (o : AgentObservation)
    (result : ObservationResult) : Sql.Row := [("scheduled_at", .timestamp o.scheduledAt),
  ("observation_id", .uuid o.observationId), ("realm_id", .uuid ctx.authentication.realmId),
  ("agent_id", .uuid ctx.authentication.agentId),
  ("monitor_id", .uuid o.monitorId)] ++ resultValues result

end Bifrostnms.Backend
