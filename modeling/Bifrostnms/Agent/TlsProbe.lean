import Bifrostnms.Agent.IcmpProbe
import Bifrostnms.Lib.GoText
import Bifrostnms.Lib.Ip

/-!
# The TLS probe (`probes/tls`)

One run of the probe. What the dialer, the handshake and the verification of the
certificates do is given. Of a certificate the probe reads the fields of `Certificate`;
its dates are whole seconds, which is all that the certificate format has. The
handshake is timed by the monotonic clock, and the days that remain are counted from
the wall clock.
-/

namespace Bifrostnms.Agent.Tls

open Bifrostnms.Lib

/-! ## Configurations (`configuration.go`) -/

inductive MinimumTlsVersion where
  | tls12 | tls13
deriving DecidableEq

/-- A configuration as it was read from JSON. -/
structure RawConfiguration where
  schemaVersion : ℕ
  port : ℤ := 0
  serverName : Option String := none
  addressFamily : String := ""
  minimumTlsVersion : String := ""
  expiryWarningDays : ℤ := 0

def validHostname (value : List Char) : Bool :=
  value ≠ [] && (utf8 value).length ≤ 253 && !parseIp value && (value.splitOn '.').all validLabel

/-- A name that `validHostname` accepts. -/
abbrev Hostname := {name : List Char // validHostname name = true}

/-- A configuration that `DecodeConfiguration` has accepted. -/
structure Configuration where
  port : {port : ℤ // 1 ≤ port ∧ port ≤ 65535}
  serverName : Option Hostname
  addressFamily : AddressFamily
  minimumTlsVersion : MinimumTlsVersion
  expiryWarningDays : ℕ

/-- `strings.ToLower(strings.TrimSuffix(strings.TrimSpace(value), "."))` -/
def normalizeName (unicode : CaseMapping) (value : String) : List Char :=
  (trimSuffix (trimSpace value.toList) ['.']).map unicode.lower

def decodePort (port : ℤ) : Except String {port : ℤ // 1 ≤ port ∧ port ≤ 65535} :=
  let port := if port = 0 then 443 else port
  if h : 1 ≤ port ∧ port ≤ 65535 then .ok ⟨port, h⟩
  else .error "TLS port is outside the valid range"

def decodeServerName (unicode : CaseMapping) (name : String) : Except String Hostname :=
  let normalized := normalizeName unicode name
  if h : validHostname normalized = true then .ok ⟨normalized, h⟩
  else .error "TLS server name is invalid"

def decodeAddressFamily : String → Except String AddressFamily
  | "" | "auto" => .ok .auto
  | "ipv4" => .ok .ipv4
  | "ipv6" => .ok .ipv6
  | _ => .error "TLS address family is invalid"

def decodeMinimumTlsVersion : String → Except String MinimumTlsVersion
  | "" | "1.2" => .ok .tls12
  | "1.3" => .ok .tls13
  | _ => .error "TLS minimum version is invalid"

/-- `DecodeConfiguration`, after the strict decoding of the JSON. -/
def decodeConfiguration (unicode : CaseMapping) (raw : RawConfiguration) :
    Except String Configuration := do
  if raw.schemaVersion ≠ 1 then throw "unsupported TLS configuration schema"
  let port ← decodePort raw.port
  let serverName ← raw.serverName.mapM (decodeServerName unicode)
  let addressFamily ← decodeAddressFamily raw.addressFamily
  let minimumTlsVersion ← decodeMinimumTlsVersion raw.minimumTlsVersion
  if raw.expiryWarningDays < 0 ∨ 3650 < raw.expiryWarningDays then
    throw "TLS expiry warning days is outside the valid range"
  return ⟨port, serverName, addressFamily, minimumTlsVersion, raw.expiryWarningDays.toNat⟩

/-! ## Results -/

structure Result where
  port : ℤ
  serverName : List Char
  protocolVersion : Option String := none
  cipherSuite : Option String := none
  handshakeMs : Option Decimal := none
  certificatePresent : Bool := false
  hostnameValid : Option Bool := none
  chainValid : Option Bool := none
  /-- Seconds, as `notAfter`. -/
  notBefore : Option ℤ := none
  notAfter : Option ℤ := none
  daysRemaining : Option Decimal := none
  subjectName : Option (List UInt8) := none
  issuerName : Option (List UInt8) := none
  serialNumber : Option String := none
  fingerprintSha256 : Option String := none

/-- `Time.MarshalJSON` of a date. One that is not in the years 0 to 9999 cannot be
marshalled; its text here is one that is no date either. -/
def dateDocument (seconds : ℤ) : Json GoNum :=
  .str (String.ofList (rfc3339Micro (seconds * 1000000000)))

/-- `json.Marshal` of a result. -/
def Result.document (r : Result) : Json GoNum := .obj [("port", .num (.int r.port)),
  ("server_name", .str (String.ofList r.serverName)),
  ("protocol_version", nullable r.protocolVersion), ("cipher_suite", nullable r.cipherSuite),
  ("handshake_ms", pointer (fun ms => .num (.float64 ms)) r.handshakeMs),
  ("certificate_present", .bool r.certificatePresent),
  ("hostname_valid", pointer .bool r.hostnameValid), ("chain_valid", pointer .bool r.chainValid),
  ("not_before", pointer dateDocument r.notBefore), ("not_after", pointer dateDocument r.notAfter),
  ("days_remaining", pointer (fun days => .num (.float64 days)) r.daysRemaining),
  ("subject_name", nullable (r.subjectName.map goText)),
  ("issuer_name", nullable (r.issuerName.map goText)), ("serial_number", nullable r.serialNumber),
  ("fingerprint_sha256", nullable r.fingerprintSha256)]

def emptyResult (port : ℤ) (serverName : List Char) : Result where
  port := port
  serverName := serverName

def completedUnhealthy (startedAt finishedAt : ℤ) (result : Result)
    (category code message : String) : Agent.Result where
  startedAt := startedAt
  finishedAt := finishedAt
  executionStatus := executionCompleted
  assessment := assessmentUnhealthy
  errorCategory := some category
  errorCode := code
  errorMessage := message
  probeResult := some result.document

def failed (startedAt finishedAt : ℤ) (category code message : String) : Agent.Result where
  startedAt := startedAt
  finishedAt := finishedAt
  executionStatus := executionFailed
  assessment := assessmentUnknown
  errorCategory := some category
  errorCode := code
  errorMessage := message

/-! ## Certificates -/

structure Certificate where
  /-- Seconds since 1970, as `notAfter`. -/
  notBefore : ℤ
  notAfter : ℤ
  /-- `Subject.String()`, and the same of the issuer. -/
  subject : List UInt8
  issuer : List UInt8
  serialNumber : ℤ
  raw : List UInt8
  /-- Whether `VerifyHostname` returns no error. -/
  verifyHostname : List Char → Bool

/-- `Time.Sub`: a duration is a 64-bit count of nanoseconds, and stops at its ends. -/
def timeSub (t u : ℤ) : ℤ := max (-2 ^ 63) (min (2 ^ 63 - 1) (t - u))

/-- `Int.Text(16)`. -/
def hexInt (n : ℤ) : List Char :=
  (if n < 0 then ['-'] else []) ++ Nat.toDigits 16 n.natAbs

/-- Cuts bytes, and may cut through a character. -/
def truncate {α : Type} (value : List α) (maximum : ℕ) : List α :=
  if value.length ≤ maximum then value else value.take maximum

/-- What the libraries compute. -/
structure Library where
  unicode : CaseMapping
  sha256 : List UInt8 → {digest : List UInt8 // digest.length = 32}
  /-- `Hours() / 24` of a duration, as doubles. -/
  days : ℤ → Decimal

def populateCertificateMetadata (library : Library) (result : Result)
    (certificate : Certificate) (now : ℤ) : Result :=
  { result with
    certificatePresent := true
    notBefore := some certificate.notBefore
    notAfter := some certificate.notAfter
    daysRemaining := some (library.days (timeSub (certificate.notAfter * 1000000000) now))
    subjectName := some (truncate certificate.subject 500)
    issuerName := some (truncate certificate.issuer 500)
    serialNumber := some (String.ofList (truncate (hexInt certificate.serialNumber) 160))
    fingerprintSha256 := some (String.ofList (hexText (library.sha256 certificate.raw))) }

/-! ## Errors -/

/-- What is found in the error of a verification. -/
inductive VerificationError where
  | hostname | unknownAuthority | invalid | other
deriving DecidableEq

/-- A `CertificateVerificationError`. -/
structure VerificationFailure where
  unverifiedCertificates : List Certificate
  error : VerificationError

/-- What `errors.Is` and `errors.As` find in an error. -/
structure Error where
  deadlineExceeded : Bool := false
  canceled : Bool := false
  /-- `EMFILE`, `ENFILE`, `ENOBUFS` or `ENOMEM`. -/
  localResource : Bool := false
  /-- A `*net.DNSError`. -/
  resolution : Bool := false
  /-- `ECONNREFUSED`. -/
  refused : Bool := false
  /-- `ENETUNREACH`. -/
  networkUnreachable : Bool := false
  /-- `EHOSTUNREACH`. -/
  hostUnreachable : Bool := false
  verification : Option VerificationFailure := none

structure ErrorClassification where
  category : String
  code : String
  message : String
  failed : Bool := false

def classifyConnectionError (ctx : Option ContextError) (err : Error) : ErrorClassification :=
  if ctx = some .deadlineExceeded ∨ err.deadlineExceeded then
    ⟨"timeout", "tls_connect_timeout", "TLS target connection timed out.", false⟩
  else if ctx = some .canceled ∨ err.canceled then
    ⟨"internal", "tls_cancelled", "TLS probe was cancelled locally.", true⟩
  else if err.localResource then
    ⟨"resource_limit", "tls_local_resource_exhausted",
      "TLS probe could not start because local resources are exhausted.", true⟩
  else if err.resolution then
    ⟨"resolution", "tls_resolution_failed", "TLS target resolution failed.", false⟩
  else if err.refused then
    ⟨"connection", "tls_connection_refused", "TLS target connection was refused.", false⟩
  else if err.networkUnreachable then
    ⟨"connection", "tls_network_unreachable", "TLS target network is unreachable.", false⟩
  else if err.hostUnreachable then
    ⟨"connection", "tls_host_unreachable", "TLS target host is unreachable.", false⟩
  else ⟨"connection", "tls_connection_failed", "TLS target connection failed.", false⟩

def classifyHandshakeError (ctx : Option ContextError) (err : Error) : ErrorClassification :=
  if ctx = some .deadlineExceeded ∨ err.deadlineExceeded then
    ⟨"timeout", "tls_handshake_timeout", "TLS handshake timed out.", false⟩
  else if ctx = some .canceled ∨ err.canceled then
    ⟨"internal", "tls_cancelled", "TLS probe was cancelled locally.", true⟩
  else if err.localResource then
    ⟨"resource_limit", "tls_local_resource_exhausted",
      "TLS handshake failed because local resources are exhausted.", true⟩
  else ⟨"tls", "tls_handshake_failed", "TLS handshake failed.", false⟩

/-! ## Handshakes -/

/-- `0x%04X` -/
def hexWord (n : UInt16) : String :=
  "0x" ++ String.ofList ([n / 4096, n / 256 % 16, n / 16 % 16, n % 16].map fun d =>
    (Nat.digitChar d.toNat).toUpper)

/-- `VersionName` -/
def versionName (version : UInt16) : String :=
  ([(0x0300, "SSLv3"), (0x0301, "TLS 1.0"), (0x0302, "TLS 1.1"), (0x0303, "TLS 1.2"),
    (0x0304, "TLS 1.3")].lookup version).getD (hexWord version)

def cipherSuites : List (UInt16 × String) := [(0x1301, "TLS_AES_128_GCM_SHA256"),
  (0x1302, "TLS_AES_256_GCM_SHA384"), (0x1303, "TLS_CHACHA20_POLY1305_SHA256"),
  (0xc009, "TLS_ECDHE_ECDSA_WITH_AES_128_CBC_SHA"),
  (0xc00a, "TLS_ECDHE_ECDSA_WITH_AES_256_CBC_SHA"), (0xc013, "TLS_ECDHE_RSA_WITH_AES_128_CBC_SHA"),
  (0xc014, "TLS_ECDHE_RSA_WITH_AES_256_CBC_SHA"),
  (0xc02b, "TLS_ECDHE_ECDSA_WITH_AES_128_GCM_SHA256"),
  (0xc02c, "TLS_ECDHE_ECDSA_WITH_AES_256_GCM_SHA384"),
  (0xc02f, "TLS_ECDHE_RSA_WITH_AES_128_GCM_SHA256"),
  (0xc030, "TLS_ECDHE_RSA_WITH_AES_256_GCM_SHA384"),
  (0xcca8, "TLS_ECDHE_RSA_WITH_CHACHA20_POLY1305_SHA256"),
  (0xcca9, "TLS_ECDHE_ECDSA_WITH_CHACHA20_POLY1305_SHA256"), (0x0005, "TLS_RSA_WITH_RC4_128_SHA"),
  (0x000a, "TLS_RSA_WITH_3DES_EDE_CBC_SHA"), (0x002f, "TLS_RSA_WITH_AES_128_CBC_SHA"),
  (0x0035, "TLS_RSA_WITH_AES_256_CBC_SHA"), (0x003c, "TLS_RSA_WITH_AES_128_CBC_SHA256"),
  (0x009c, "TLS_RSA_WITH_AES_128_GCM_SHA256"), (0x009d, "TLS_RSA_WITH_AES_256_GCM_SHA384"),
  (0xc007, "TLS_ECDHE_ECDSA_WITH_RC4_128_SHA"), (0xc011, "TLS_ECDHE_RSA_WITH_RC4_128_SHA"),
  (0xc012, "TLS_ECDHE_RSA_WITH_3DES_EDE_CBC_SHA"),
  (0xc023, "TLS_ECDHE_ECDSA_WITH_AES_128_CBC_SHA256"),
  (0xc027, "TLS_ECDHE_RSA_WITH_AES_128_CBC_SHA256")]

/-- `CipherSuiteName` -/
def cipherSuiteName (id : UInt16) : String := (cipherSuites.lookup id).getD (hexWord id)

structure ConnectionState where
  version : UInt16
  cipherSuite : UInt16
  peerCertificates : List Certificate
  /-- The number of verified chains. -/
  verifiedChains : ℕ

/-- What one run meets. -/
structure Run where
  library : Library
  context : Option ContextError
  startedAt : ℤ
  finishedAt : ℤ
  /-- The error of the dialer, if it cannot connect. -/
  dial : Option Error
  handshake : Except Error ConnectionState
  /-- The duration of the handshake. -/
  elapsed : ℕ

/-- The verdict on a certificate that was not accepted: its code and message. -/
def verificationVerdict (error : VerificationError) (result : Result) (now : ℤ) : String × String :=
  match error with
  | .hostname => ("tls_hostname_mismatch",
      "TLS certificate does not match the configured server name.")
  | .unknownAuthority => ("tls_certificate_untrusted", "TLS certificate chain is not trusted.")
  | _ =>
    if error = .invalid ∧ result.notAfter.any (fun t => t * 1000000000 < now) then
      ("tls_certificate_expired", "TLS certificate has expired.")
    else if error = .invalid ∧ result.notBefore.any (fun t => now < t * 1000000000) then
      ("tls_certificate_not_yet_valid", "TLS certificate is not yet valid.")
    else ("tls_certificate_invalid", "TLS certificate validation failed.")

/-- The result of `verificationFailureResult`. -/
def verificationResult (run : Run) (failure : VerificationFailure) (port : ℤ)
    (serverName : List Char) : Result :=
  let result := { emptyResult port serverName with
    handshakeMs := some (durationMs run.elapsed) }
  let result := match failure.unverifiedCertificates with
    | [] => result
    | leaf :: _ =>
      { populateCertificateMetadata run.library result leaf run.finishedAt with
        hostnameValid := some (leaf.verifyHostname serverName) }
  { result with chainValid := some false }

def resultFromConnectionState (run : Run) (port : ℤ) (serverName : List Char)
    (state : ConnectionState) : Result :=
  let result := { emptyResult port serverName with
    handshakeMs := some (durationMs run.elapsed)
    protocolVersion := some (versionName state.version)
    cipherSuite := some (cipherSuiteName state.cipherSuite) }
  match state.peerCertificates with
  | [] => result
  | leaf :: _ =>
    { populateCertificateMetadata run.library result leaf run.finishedAt with
      hostnameValid := some (leaf.verifyHostname serverName)
      chainValid := some (0 < state.verifiedChains) }

/-! ## Runs -/

/-- `strings.Trim(target, "[]")` -/
def trimBrackets (target : List Char) : List Char :=
  let bracket := fun c => c = '[' || c = ']'
  ((target.dropWhile bracket).reverse.dropWhile bracket).reverse

def effectiveServerName (unicode : CaseMapping) (target : String) :
    Option Hostname → Except String Hostname
  | some configured => .ok configured
  | none =>
    if parseIp (trimBrackets target.toList) then
      .error "server name required for IP target"
    else
      let serverName := normalizeName unicode target
      if h : validHostname serverName = true then .ok ⟨serverName, h⟩
      else .error "target does not provide a valid server name"

/-- What follows a handshake with the server. -/
def reportHandshake (run : Run) (configuration : Configuration) (serverName : List Char) :
    Agent.Result :=
  match run.handshake with
  | .error err =>
    match err.verification with
    | some failure =>
      let result := verificationResult run failure configuration.port serverName
      let (code, message) := verificationVerdict failure.error result run.finishedAt
      completedUnhealthy run.startedAt run.finishedAt result "tls" code message
    | none =>
      let classification := classifyHandshakeError run.context err
      if classification.failed then
        failed run.startedAt run.finishedAt classification.category classification.code
          classification.message
      else
        completedUnhealthy run.startedAt run.finishedAt
          { emptyResult configuration.port serverName with
            handshakeMs := some (durationMs run.elapsed) }
          classification.category classification.code classification.message
  | .ok state =>
    let result := resultFromConnectionState run configuration.port serverName state
    if result.daysRemaining.any fun days =>
        days.value ≤ (configuration.expiryWarningDays : ℚ) then
      completedUnhealthy run.startedAt run.finishedAt result "tls"
        "tls_certificate_expiring"
        "TLS certificate is within the configured expiry warning window."
    else
      { startedAt := run.startedAt
        finishedAt := run.finishedAt
        executionStatus := executionCompleted
        assessment := assessmentHealthy
        probeResult := some result.document }

/-- `Probe.Run`, with the configuration unless its JSON cannot be decoded. -/
def runTls (run : Run) (targetAddress : String) (raw : Option RawConfiguration) : Agent.Result :=
  match raw.map (decodeConfiguration run.library.unicode) with
  | some (.ok configuration) =>
    match effectiveServerName run.library.unicode targetAddress configuration.serverName with
    | .error _ => failed run.startedAt run.finishedAt "invalid_configuration"
        "tls_server_name_required" "TLS server name is required for this target."
    | .ok serverName =>
      match run.dial with
      | some err =>
        let classification := classifyConnectionError run.context err
        if classification.failed then
          failed run.startedAt run.finishedAt classification.category
            classification.code classification.message
        else
          completedUnhealthy run.startedAt run.finishedAt
            (emptyResult configuration.port serverName) classification.category
            classification.code classification.message
      | none => reportHandshake run configuration serverName
  | _ => failed run.startedAt run.finishedAt "invalid_configuration"
      "invalid_tls_configuration" "TLS configuration is invalid."

end Bifrostnms.Agent.Tls
