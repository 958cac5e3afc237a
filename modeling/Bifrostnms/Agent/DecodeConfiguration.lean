import Bifrostnms.Agent.DnsProbe
import Bifrostnms.Agent.HttpProbe
import Bifrostnms.Agent.TlsProbe
import Bifrostnms.Lib.GoJson

/-!
# Decoding configurations (`probe.DecodeStrict` and the `DecodeConfiguration`s)

A probe gets its configuration as JSON. It is decoded into the struct of the probe,
which is zero before, or the default configuration for ICMP, and the struct is then
checked and completed. A document is one JSON value, so there is no data after it.
-/

namespace Bifrostnms.Agent

open Bifrostnms.Lib Bifrostnms.Lib.GoJson

inductive DecodeError where
  /-- An error of `encoding/json`. -/
  | json
  | invalid (message : String)

/-- The strict decoding into a struct, and the rest of a `DecodeConfiguration`. -/
def decodeStrict {ρ γ : Type} (fields : List (StructField ρ)) (initial : ρ)
    (check : ρ → Except String γ) (document : Json JsonNum) : Except DecodeError γ :=
  match decodeStruct fields document initial with
  | none => .error .json
  | some raw => (check raw).mapError .invalid

/-! ## ICMP -/

/-- The struct of the source, in which the address family is any string. -/
structure RawIcmpConfiguration where
  schemaVersion : ℤ := 1
  packetCount : ℤ := 20
  packetIntervalMs : ℤ := 50
  perPacketTimeoutMs : ℤ := 0
  payloadSizeBytes : ℤ := 56
  addressFamily : String := "auto"
  maximumPacketLoss : Option Decimal := none
  maximumAverageRttMs : Option Decimal := none

namespace RawIcmpConfiguration

def fields : List (StructField RawIcmpConfiguration) := [
  .of "schema_version" decodeInt (·.schemaVersion)
    fun c n => { c with schemaVersion := n },
  .of "packet_count" decodeInt (·.packetCount) fun c n => { c with packetCount := n },
  .of "packet_interval_ms" decodeInt (·.packetIntervalMs)
    fun c n => { c with packetIntervalMs := n },
  .of "per_packet_timeout_ms" decodeInt (·.perPacketTimeoutMs)
    fun c n => { c with perPacketTimeoutMs := n },
  .of "payload_size_bytes" decodeInt (·.payloadSizeBytes)
    fun c n => { c with payloadSizeBytes := n }, .of "address_family" decodeString (·.addressFamily)
    fun c s => { c with addressFamily := s },
  .of "maximum_packet_loss_percent" (decodePointer decodeFloat64 (JsonText.decimalOfInt 0))
    (·.maximumPacketLoss) fun c x => { c with maximumPacketLoss := x },
  .of "maximum_average_rtt_ms" (decodePointer decodeFloat64 (JsonText.decimalOfInt 0))
    (·.maximumAverageRttMs) fun c x => { c with maximumAverageRttMs := x }]

/-- The configuration with an address family in the place of its string. -/
def withFamily (c : RawIcmpConfiguration) (family : AddressFamily) : IcmpConfiguration where
  schemaVersion := c.schemaVersion
  packetCount := c.packetCount
  packetIntervalMs := c.packetIntervalMs
  perPacketTimeoutMs := c.perPacketTimeoutMs
  payloadSizeBytes := c.payloadSizeBytes
  addressFamily := family
  maximumPacketLoss := c.maximumPacketLoss.map Decimal.value
  maximumAverageRttMs := c.maximumAverageRttMs.map Decimal.value

def addressFamilyOf : String → Option AddressFamily
  | "auto" => some .auto
  | "ipv4" => some .ipv4
  | "ipv6" => some .ipv6
  | _ => none

/-- `Validate`. The address family is looked at before the thresholds, so without them
`IcmpConfiguration.validate` is what comes before it. -/
def check (c : RawIcmpConfiguration) : Except String IcmpConfiguration := do
  match addressFamilyOf c.addressFamily with
  | some family =>
    (c.withFamily family).validate
    return c.withFamily family
  | none =>
    ({ c with maximumPacketLoss := none, maximumAverageRttMs := none }.withFamily
      .auto).validate
    throw "address_family must be auto, ipv4 or ipv6"

end RawIcmpConfiguration

/-- `DecodeConfiguration` of the ICMP probe. -/
def decodeIcmp (document : Json JsonNum) : Except DecodeError IcmpConfiguration :=
  decodeStrict RawIcmpConfiguration.fields {} RawIcmpConfiguration.check document

/-! ## HTTP -/

namespace Http

def headerAssertionFields : List (StructField HeaderAssertion) := [
  .of "name" decodeString (·.name) fun a s => { a with name := s },
  .of "value" decodeString (·.value) fun a s => { a with value := s }]

def fields : List (StructField RawConfiguration) := [
  .of "schema_version" decodeUint32 (·.schemaVersion)
    fun c n => { c with schemaVersion := n },
  .of "scheme" decodeString (·.scheme) fun c s => { c with scheme := s },
  .of "port" (decodePointer decodeInt 0) (·.port) fun c p => { c with port := p },
  .of "path" decodeString (·.path) fun c s => { c with path := s },
  .of "method" decodeString (·.method) fun c s => { c with method := s },
  .of "follow_redirects" decodeBool (·.followRedirects)
    fun c b => { c with followRedirects := b },
  .of "maximum_redirects" decodeInt (·.maximumRedirects)
    fun c n => { c with maximumRedirects := n },
  .of "host_header" (decodePointer decodeString "") (·.hostHeader)
    fun c s => { c with hostHeader := s },
  .of "request_headers" (decodeMap decodeString "") (·.requestHeaders)
    fun c m => { c with requestHeaders := m },
  .of "expected_status_codes" (decodeSlice decodeInt 0) (·.expectedStatusCodes)
    fun c l => { c with expectedStatusCodes := l },
  .of "expected_header_values" (decodeSlice (decodeStruct headerAssertionFields) ⟨"", ""⟩)
    (·.expectedHeaderValues) fun c l => { c with expectedHeaderValues := l },
  .of "expected_body_contains" (decodeSlice decodeString "") (·.expectedBodyContains)
    fun c l => { c with expectedBodyContains := l },
  .of "maximum_response_bytes" decodeInt (·.maximumResponseBytes)
    fun c n => { c with maximumResponseBytes := n },
  .of "address_family" decodeString (·.addressFamily)
    fun c s => { c with addressFamily := s }]

/-- `DecodeConfiguration`. -/
def decodeDocument (document : Json JsonNum) : Except DecodeError Configuration :=
  decodeStrict fields { schemaVersion := 0 } decodeConfiguration document

end Http

/-! ## DNS -/

namespace Dns

/-- An answer assertion is a struct with one field. -/
def answerAssertionFields : List (StructField String) := [.of "value" decodeString id fun _ s => s]

def fields : List (StructField RawConfiguration) := [
  .of "schema_version" decodeUint32 (·.schemaVersion)
    fun c n => { c with schemaVersion := n }, .of "resolver_mode" decodeString (·.resolverMode)
    fun c s => { c with resolverMode := s },
  .of "resolver_address" (decodePointer decodeString "") (·.resolverAddress)
    fun c s => { c with resolverAddress := s },
  .of "resolver_port" decodeInt (·.resolverPort) fun c n => { c with resolverPort := n },
  .of "transport" decodeString (·.transport) fun c s => { c with transport := s },
  .of "query_name" (decodePointer decodeString "") (·.queryName)
    fun c s => { c with queryName := s },
  .of "query_type" decodeString (·.queryType) fun c s => { c with queryType := s },
  .of "recursion_desired" decodeBool (·.recursionDesired)
    fun c b => { c with recursionDesired := b },
  .of "expected_response_codes" (decodeSlice decodeString "") (·.expectedResponseCodes)
    fun c l => { c with expectedResponseCodes := l },
  .of "expected_answers" (decodeSlice (decodeStruct answerAssertionFields) "")
    (·.expectedAnswers) fun c l => { c with expectedAnswers := l }]

/-- `DecodeConfiguration`. -/
def decodeDocument (unicode : CaseMapping) (document : Json JsonNum) :
    Except DecodeError Configuration :=
  decodeStrict fields { schemaVersion := 0, queryType := "" }
    (decodeConfiguration unicode) document

/-- The port in the struct that `DecodeConfiguration` returns. With the platform's resolver
the probe does not read it, and a `Configuration` does not hold it. -/
def decodedPort (document : Json JsonNum) : Option ℤ :=
  (decodeStruct fields document { schemaVersion := 0, queryType := "" }).map fun raw =>
    if raw.resolverPort = 0 then 53 else raw.resolverPort

end Dns

/-! ## TLS -/

namespace Tls

def fields : List (StructField RawConfiguration) := [
  .of "schema_version" decodeUint32 (·.schemaVersion)
    fun c n => { c with schemaVersion := n },
  .of "port" decodeInt (·.port) fun c n => { c with port := n },
  .of "server_name" (decodePointer decodeString "") (·.serverName)
    fun c s => { c with serverName := s }, .of "address_family" decodeString (·.addressFamily)
    fun c s => { c with addressFamily := s },
  .of "minimum_tls_version" decodeString (·.minimumTlsVersion)
    fun c s => { c with minimumTlsVersion := s },
  .of "expiry_warning_days" decodeInt (·.expiryWarningDays)
    fun c n => { c with expiryWarningDays := n }]

/-- `DecodeConfiguration`. -/
def decodeDocument (unicode : CaseMapping) (document : Json JsonNum) :
    Except DecodeError Configuration :=
  decodeStrict fields { schemaVersion := 0 } (decodeConfiguration unicode) document

end Tls

end Bifrostnms.Agent
