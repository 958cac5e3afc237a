import Bifrostnms.Agent.TlsProbe
import Bifrostnms.Proofs.ObservationReader

/-!
# What the TLS probe reports

Every bound of `TlsObservationResult` on a text, a number or a fingerprint holds for
whatever certificate a peer presents (`BoundedTls`): what is too long is cut, and cut
bytes are never more characters than bytes. The dates of the certificate are copied
without a check. A peer may present one that ends before it begins; its verification
fails, the result is completed all the same, and the control plane rejects it.
-/

namespace Bifrostnms.Proofs

open Bifrostnms.Lib Bifrostnms.Backend Bifrostnms.Agent

/-! ## Texts -/

theorem length_truncate_le {α : Type} (value : List α) (maximum : ℕ) :
    (Tls.truncate value maximum).length ≤ maximum := by
  unfold Tls.truncate
  split_ifs with h
  · exact h
  · exact List.length_take_le maximum value

theorem length_hexWord (n : UInt16) : (Tls.hexWord n).length = 6 := by
  have hzero : "0x".length = 2 := rfl
  rw [Tls.hexWord, String.length_append, hzero, String.length_ofList, List.length_map]
  rfl

/-- A bound on the names of a table and on the number that stands for a missing one. -/
theorem length_lookup_le {table : List (UInt16 × String)} {maximum : ℕ}
    (htable : ∀ row ∈ table, row.2.length ≤ maximum) (hmaximum : 6 ≤ maximum) (n : UInt16) :
    ((table.lookup n).getD (Tls.hexWord n)).length ≤ maximum := by
  cases hlookup : table.lookup n with
  | none =>
    rw [Option.getD_none, length_hexWord]
    exact hmaximum
  | some name =>
    obtain ⟨l₁, l₂, rfl, -⟩ := List.lookup_eq_some_iff.mp hlookup
    exact htable (n, name) (by simp)

theorem length_versionName_le (version : UInt16) : (Tls.versionName version).length ≤ 32 :=
  length_lookup_le (by decide) (by decide) version

theorem length_cipherSuiteName_le (id : UInt16) : (Tls.cipherSuiteName id).length ≤ 160 := by
  refine length_lookup_le ?_ (by decide) id
  simp only [Tls.cipherSuites, List.forall_mem_cons, List.not_mem_nil, false_imp_iff,
    implies_true, and_true]
  and_intros <;> exact String.length_ofList.trans_le (by decide)

theorem fingerprint_hexText (digest : {digest : List UInt8 // digest.length = 32}) :
    fingerprint (String.ofList (hexText digest)) = true := by
  have hlength : (hexText digest).length = 64 := by
    rw [length_hexText, digest.property]
  have hdigit : ∀ n < 16, ((Nat.digitChar n).isDigit ||
      ('a' ≤ Nat.digitChar n && Nat.digitChar n ≤ 'f')) = true := by decide
  have hhex : (hexText digest).all (fun c => c.isDigit || ('a' ≤ c && c ≤ 'f')) = true := by
    rw [List.all_eq_true]
    intro c hc
    obtain ⟨n, hn, rfl⟩ := isHex_of_mem_hexText hc
    exact hdigit n hn
  rw [fingerprint, String.length_ofList, String.toList_ofList, hlength, hhex]
  rfl

theorem length_hostname (name : Tls.Hostname) : 1 ≤ name.val.length ∧ name.val.length ≤ 253 := by
  have hvalid := name.property
  simp only [Tls.validHostname, Bool.and_eq_true, decide_eq_true_eq] at hvalid
  obtain ⟨⟨⟨hne, hlen⟩, -⟩, -⟩ := hvalid
  exact ⟨List.length_pos_iff.mpr hne, (length_le_length_utf8 _).trans hlen⟩

/-! ## Reading a result -/

/-- The dates of a certificate are in order, and in the years 1 to 9999. -/
structure OrderedDates (certificate : Tls.Certificate) : Prop where
  begins : minInstant ≤ certificate.notBefore * 1000000
  ordered : certificate.notBefore ≤ certificate.notAfter
  ends : certificate.notAfter * 1000000 ≤ maxInstant

/-- The bounds that every result of the probe keeps, with the certificate that its dates
are from. -/
structure BoundedTls (r : Tls.Result) (certificate : Option Tls.Certificate) : Prop where
  port : 1 ≤ r.port ∧ r.port ≤ 65535
  serverName : 1 ≤ r.serverName.length ∧ r.serverName.length ≤ 253
  protocolVersion : ∀ name ∈ r.protocolVersion, name.length ≤ 32
  cipherSuite : ∀ name ∈ r.cipherSuite, name.length ≤ 160
  handshakeMs : ∀ ms ∈ r.handshakeMs, ms.neg = false
  notBefore : r.notBefore = certificate.map (·.notBefore)
  notAfter : r.notAfter = certificate.map (·.notAfter)
  subjectName : ∀ name ∈ r.subjectName, name.length ≤ 500
  issuerName : ∀ name ∈ r.issuerName, name.length ≤ 500
  serialNumber : ∀ text ∈ r.serialNumber, text.length ≤ 160
  fingerprintSha256 : r.fingerprintSha256.all fingerprint = true

/-- An optional date as it is read. -/
def readDatePointer : Option ℤ → Option (Option DateTime)
  | none => some none
  | some seconds => (DateTime.ofInstant (seconds * 1000000)).map some

theorem readOptional_date {j : Document} (name : String) (o : Option ℤ)
    (h : j.members.lookup name = some (pointer Tls.dateDocument o)) :
    readOptional readTime j name = readDatePointer o := by
  cases o with
  | none => exact readOptional_of_null name h
  | some seconds =>
    have hinstant : seconds * 1000000000 / 1000 = seconds * 1000000 := by omega
    have hread : readTime (Tls.dateDocument seconds) = DateTime.ofInstant (seconds * 1000000) := by
      rw [Tls.dateDocument, readTime, String.toList_ofList, readUtc_rfc3339Micro, hinstant]
    rw [readOptional, h, readDatePointer, ← hread]
    rfl

/-- A result as it is read, with what is read of its dates. -/
def tlsObservation (r : Tls.Result) (notBefore notAfter : Option DateTime) :
    TlsObservationResult where
  port := r.port
  serverName := String.ofList r.serverName
  protocolVersion := r.protocolVersion
  cipherSuite := r.cipherSuite
  handshakeMs := r.handshakeMs.map .finite
  certificatePresent := r.certificatePresent
  hostnameValid := r.hostnameValid
  chainValid := r.chainValid
  notBefore := notBefore
  notAfter := notAfter
  daysRemaining := r.daysRemaining.map .finite
  subjectName := r.subjectName.map goText
  issuerName := r.issuerName.map goText
  serialNumber := r.serialNumber
  fingerprintSha256 := r.fingerprintSha256

theorem readTlsResult_document (r : Tls.Result) :
    readTlsResult r.document = Option.filter TlsObservationResult.valid
      ((readDatePointer r.notBefore).bind fun notBefore =>
        (readDatePointer r.notAfter).bind fun notAfter =>
          some (tlsObservation r notBefore notAfter)) := by
  rw [readTlsResult, readField_of_lookup "port" rfl, readField_of_lookup "server_name" rfl,
    readOptional_nullable "protocol_version" _ rfl, readOptional_nullable "cipher_suite" _ rfl,
    readOptional_float "handshake_ms" _ rfl, readField_of_lookup "certificate_present" rfl,
    readOptional_bool "hostname_valid" _ rfl, readOptional_bool "chain_valid" _ rfl,
    readOptional_date "not_before" _ rfl, readOptional_date "not_after" _ rfl,
    readOptional_float "days_remaining" _ rfl, readOptional_nullable "subject_name" _ rfl,
    readOptional_nullable "issuer_name" _ rfl, readOptional_nullable "serial_number" _ rfl,
    readOptional_nullable "fingerprint_sha256" _ rfl]
  rfl

theorem all_sized {o : Option String} {maximum : ℕ} (h : ∀ s ∈ o, s.length ≤ maximum) :
    o.all (sized 0 maximum) = true := by
  cases o with
  | none => rfl
  | some s => exact decide_eq_true ⟨Nat.zero_le _, h s rfl⟩

theorem all_sized_goText {o : Option (List UInt8)} {maximum : ℕ}
    (h : ∀ s ∈ o, s.length ≤ maximum) : (o.map goText).all (sized 0 maximum) = true := by
  refine all_sized fun text htext => ?_
  obtain ⟨s, hs, rfl⟩ := Option.map_eq_some_iff.mp htext
  exact (length_goText_le s).trans (h s hs)

variable {certificate : Option Tls.Certificate}

theorem tlsObservation_valid_iff {r : Tls.Result} (hr : BoundedTls r certificate)
    (notBefore notAfter : Option DateTime) : (tlsObservation r notBefore notAfter).valid = true ↔
      ∀ a ∈ notBefore, ∀ b ∈ notAfter, a.instant ≤ b.instant := by
  have hport : inRange 1 65535 r.port = true := decide_eq_true hr.port
  have hname : sized 1 253 (String.ofList r.serverName) = true := by
    rw [sized, String.length_ofList]
    exact decide_eq_true hr.serverName
  simp only [TlsObservationResult.valid, tlsObservation, hport, hname,
    all_sized hr.protocolVersion, all_sized hr.cipherSuite, all_nonNegative hr.handshakeMs,
    all_sized_goText hr.subjectName, all_sized_goText hr.issuerName, all_sized hr.serialNumber,
    hr.fingerprintSha256, Bool.true_and, Option.all_eq_true, decide_eq_true_eq]
  rfl

/-- A result with the bounds is accepted exactly if the dates in it are in order. -/
theorem isSome_readTlsResult_iff {r : Tls.Result} (hr : BoundedTls r certificate) :
    (readTlsResult r.document).isSome ↔ ∀ c ∈ certificate, OrderedDates c := by
  rw [readTlsResult_document, hr.notBefore, hr.notAfter]
  cases certificate with
  | none =>
    rw [Option.map_none, Option.map_none, readDatePointer, Option.bind_some, Option.bind_some,
      Option.isSome_filter, Option.any_some, tlsObservation_valid_iff hr]
    exact iff_of_true (fun a ha => by cases ha) fun c hc => by cases hc
  | some c =>
    have hsome (p : Tls.Certificate → Prop) : (∀ c' ∈ some c, p c') ↔ p c := by simp
    rw [hsome, Option.map_some, Option.map_some, readDatePointer, readDatePointer]
    constructor
    · intro h
      obtain ⟨o, ho⟩ := Option.isSome_iff_exists.mp h
      obtain ⟨hread, hvalid⟩ := Option.filter_eq_some_iff.mp ho
      obtain ⟨_, hdate, hread⟩ := Option.bind_eq_some_iff.mp hread
      obtain ⟨notBefore, hbefore, rfl⟩ := Option.map_eq_some_iff.mp hdate
      obtain ⟨_, hdate', hread⟩ := Option.bind_eq_some_iff.mp hread
      obtain ⟨notAfter, hafter, rfl⟩ := Option.map_eq_some_iff.mp hdate'
      obtain rfl := Option.some.inj hread
      have hordered := (tlsObservation_valid_iff hr _ _).mp hvalid notBefore rfl notAfter rfl
      rw [DateTime.instant_of_ofInstant hbefore, DateTime.instant_of_ofInstant hafter]
        at hordered
      have hbegins := isSome_ofInstant.mp (Option.isSome_iff_exists.mpr ⟨_, hbefore⟩)
      have hends := isSome_ofInstant.mp (Option.isSome_iff_exists.mpr ⟨_, hafter⟩)
      exact ⟨hbegins.1, by omega, hends.2⟩
    · rintro ⟨hbegins, hordered, hends⟩
      have hdate {seconds : ℤ} (hlow : c.notBefore ≤ seconds)
          (hhigh : seconds ≤ c.notAfter) : ∃ d, DateTime.ofInstant (seconds * 1000000) = some d :=
        Option.isSome_iff_exists.mp (isSome_ofInstant.mpr ⟨by omega, by omega⟩)
      obtain ⟨notBefore, hbefore⟩ := hdate (le_refl _) hordered
      obtain ⟨notAfter, hafter⟩ := hdate hordered (le_refl _)
      rw [hbefore, hafter, Option.map_some, Option.map_some, Option.bind_some,
        Option.bind_some, Option.isSome_filter, Option.any_some, tlsObservation_valid_iff hr]
      intro a ha b hb
      obtain rfl := Option.some.inj ha
      obtain rfl := Option.some.inj hb
      rw [DateTime.instant_of_ofInstant hbefore, DateTime.instant_of_ofInstant hafter]
      omega

theorem accepted_tls {r : Agent.Result} {result : Tls.Result}
    (hstatus : r.executionStatus = executionCompleted)
    (hresult : r.probeResult = some result.document) (hbounded : BoundedTls result certificate) :
    ResultAccepted readTlsResult r ↔ ∀ c ∈ certificate, OrderedDates c := by
  rw [resultAccepted_iff hstatus hresult, isSome_readTlsResult_iff hbounded]

/-! ## What the probe builds -/

variable {run : Tls.Run} {result : Tls.Result}

section Bounds

variable (port : {port : ℤ // 1 ≤ port ∧ port ≤ 65535}) (serverName : Tls.Hostname)

theorem bounded_emptyResult : BoundedTls (Tls.emptyResult port serverName) none where
  port := port.property
  serverName := length_hostname serverName
  protocolVersion := fun _ h => by cases h
  cipherSuite := fun _ h => by cases h
  handshakeMs := fun _ h => by cases h
  notBefore := rfl
  notAfter := rfl
  subjectName := fun _ h => by cases h
  issuerName := fun _ h => by cases h
  serialNumber := fun _ h => by cases h
  fingerprintSha256 := rfl

theorem BoundedTls.timed (h : BoundedTls result certificate) (elapsed : ℕ) :
    BoundedTls { result with handshakeMs := some (durationMs elapsed) } certificate :=
  { h with
    handshakeMs := by
      intro ms hms
      obtain rfl := Option.some.inj hms
      exact durationMs_neg elapsed }

theorem BoundedTls.negotiated (h : BoundedTls result certificate) (state : Tls.ConnectionState) :
    BoundedTls { result with
      protocolVersion := some (Tls.versionName state.version)
      cipherSuite := some (Tls.cipherSuiteName state.cipherSuite) } certificate :=
  { h with
    protocolVersion := by
      intro name hname
      obtain rfl := Option.some.inj hname
      exact length_versionName_le state.version
    cipherSuite := by
      intro name hname
      obtain rfl := Option.some.inj hname
      exact length_cipherSuiteName_le state.cipherSuite }

theorem BoundedTls.verdict (h : BoundedTls result certificate)
    (hostnameValid chainValid : Option Bool) : BoundedTls { result with
      hostnameValid := hostnameValid, chainValid := chainValid } certificate :=
  { h with }

theorem BoundedTls.populate (h : BoundedTls result none) (library : Tls.Library)
    (leaf : Tls.Certificate) (now : ℤ) :
    BoundedTls (Tls.populateCertificateMetadata library result leaf now) (some leaf) :=
  { h with
    notBefore := rfl
    notAfter := rfl
    subjectName := by
      intro name hname
      obtain rfl := Option.some.inj hname
      exact length_truncate_le leaf.subject 500
    issuerName := by
      intro name hname
      obtain rfl := Option.some.inj hname
      exact length_truncate_le leaf.issuer 500
    serialNumber := by
      intro text htext
      obtain rfl := Option.some.inj htext
      rw [String.length_ofList]
      exact length_truncate_le (Tls.hexInt leaf.serialNumber) 160
    fingerprintSha256 := fingerprint_hexText (library.sha256 leaf.raw) }

theorem bounded_verificationResult (failure : Tls.VerificationFailure) :
    BoundedTls (Tls.verificationResult run failure port serverName)
      failure.unverifiedCertificates.head? := by
  have htimed := (bounded_emptyResult port serverName).timed run.elapsed
  unfold Tls.verificationResult
  cases failure.unverifiedCertificates with
  | nil => exact htimed.verdict none (some false)
  | cons leaf _ =>
    have hpopulated := htimed.populate run.library leaf run.finishedAt
    exact hpopulated.verdict (some (leaf.verifyHostname serverName)) (some false)

theorem bounded_resultFromConnectionState (state : Tls.ConnectionState) :
    BoundedTls (Tls.resultFromConnectionState run port serverName state)
      state.peerCertificates.head? := by
  have hnegotiated :=
    ((bounded_emptyResult port serverName).timed run.elapsed).negotiated state
  unfold Tls.resultFromConnectionState
  cases state.peerCertificates with
  | nil => exact hnegotiated
  | cons leaf _ =>
    have hpopulated := hnegotiated.populate run.library leaf run.finishedAt
    exact hpopulated.verdict (some (leaf.verifyHostname serverName))
      (some (0 < state.verifiedChains))

end Bounds

/-! ## Whole runs -/

/-- The certificate that a handshake puts into the result. -/
def reportedCertificate : Except Tls.Error Tls.ConnectionState → Option Tls.Certificate
  | .error err => err.verification.bind (·.unverifiedCertificates.head?)
  | .ok state => state.peerCertificates.head?

theorem accepted_reportHandshake (c : Tls.Configuration) (serverName : Tls.Hostname) :
    ResultAccepted readTlsResult (Tls.reportHandshake run c serverName) ↔
      ∀ leaf ∈ reportedCertificate run.handshake, OrderedDates leaf := by
  unfold Tls.reportHandshake
  cases run.handshake with
  | error err =>
    dsimp only
    cases hverification : err.verification with
    | some failure =>
      rw [reportedCertificate, hverification, Option.bind_some]
      exact accepted_tls rfl rfl (bounded_verificationResult _ _ failure)
    | none =>
      rw [reportedCertificate, hverification, Option.bind_none]
      refine iff_of_true ?_ fun leaf h => by cases h
      dsimp only
      split_ifs
      · exact resultAccepted_of_failed rfl
      · have htimed := (bounded_emptyResult c.port serverName).timed run.elapsed
        exact (accepted_tls rfl rfl htimed).mpr fun leaf h => by cases h
  | ok state =>
    dsimp only
    split_ifs
    · exact accepted_tls rfl rfl (bounded_resultFromConnectionState _ _ state)
    · exact accepted_tls rfl rfl (bounded_resultFromConnectionState _ _ state)

/-- What a peer has to present for the result of a run to be accepted. -/
def TlsReportable (run : Tls.Run) (target : String) (c : Tls.Configuration) : Prop :=
  ∀ serverName, Tls.effectiveServerName run.library.unicode target c.serverName = .ok serverName →
      run.dial.isNone = true → ∀ leaf ∈ reportedCertificate run.handshake, OrderedDates leaf

/-- For every certificate of the peer, every outcome of the handshake and every
configuration that is accepted: a completed result is read by the control plane exactly
if the dates of the certificate in it are in order. -/
theorem tls_accepted_iff {run : Tls.Run} {raw : Tls.RawConfiguration}
    {c : Tls.Configuration} (hc : Tls.decodeConfiguration run.library.unicode raw = .ok c)
    (target : String) : ResultAccepted readTlsResult (Tls.runTls run target (some raw)) ↔
      TlsReportable run target c := by
  unfold Tls.runTls TlsReportable
  rw [Option.map_some, hc]
  dsimp only
  cases Tls.effectiveServerName run.library.unicode target c.serverName with
  | error err =>
    refine iff_of_true (resultAccepted_of_failed rfl) fun serverName h => ?_
    cases h
  | ok serverName =>
    simp only [Except.ok.injEq, forall_eq']
    cases run.dial with
    | some err =>
      refine iff_of_true ?_ fun h => by cases h
      dsimp only
      split_ifs
      · exact resultAccepted_of_failed rfl
      · have hempty := bounded_emptyResult c.port serverName
        exact (accepted_tls rfl rfl hempty).mpr fun leaf h => by cases h
    | none => exact (accepted_reportHandshake c serverName).trans (imp_iff_right rfl).symm

/-! ## Two peers -/

/-- A run in January 2025. -/
def peerRun (handshake : Except Tls.Error Tls.ConnectionState) : Tls.Run where
  library := {
    unicode := asciiMapping
    sha256 := fun _ => ⟨List.replicate 32 0, rfl⟩
    days := fun _ => JsonText.decimalOfInt 90 }
  context := none
  startedAt := 1735689600000000000
  finishedAt := 1735689600020000000
  dial := none
  handshake := handshake
  elapsed := 20000000

def peerCertificate (notBefore notAfter : ℤ) : Tls.Certificate where
  notBefore := notBefore
  notAfter := notAfter
  subject := utf8 "CN=router.example".toList
  issuer := utf8 "CN=router.example".toList
  serialNumber := 1
  raw := []
  verifyHostname := fun _ => true

def peerConfiguration : Tls.Configuration :=
  ⟨⟨443, by decide⟩, none, .auto, .tls12, 0⟩

theorem decode_peerConfiguration :
    Tls.decodeConfiguration asciiMapping { schemaVersion := 1 } = .ok peerConfiguration := rfl

/-- A handshake in which a certificate from 2020 to 2030 was verified. -/
def verifiedHandshake : Tls.ConnectionState where
  version := 0x0304
  cipherSuite := 0x1301
  peerCertificates := [peerCertificate 1577836800 1893456000]
  verifiedChains := 1

theorem tls_accepted_verified : ResultAccepted readTlsResult
    (Tls.runTls (peerRun (.ok verifiedHandshake)) "router.example"
      (some { schemaVersion := 1 })) := by
  have haccepted := @tls_accepted_iff (peerRun (.ok verifiedHandshake)) { schemaVersion := 1 }
    peerConfiguration decode_peerConfiguration "router.example"
  refine haccepted.mpr ?_
  intro serverName _ _ leaf hleaf
  obtain rfl := Option.some.inj hleaf
  exact ⟨by decide, by decide, by decide⟩

/-- The verification of a certificate that begins in 2030 and ends in 2020 fails. -/
def reversedDates : Tls.Error where
  verification := some ⟨[peerCertificate 1893456000 1577836800], .invalid⟩

/-- A result that is completed and rejected. -/
theorem tls_rejected : ¬ResultAccepted readTlsResult
    (Tls.runTls (peerRun (.error reversedDates)) "router.example"
      (some { schemaVersion := 1 })) := by
  have hname : Tls.validHostname "router.example".toList = true := by decide
  show ¬ResultAccepted readTlsResult (Tls.reportHandshake (peerRun (.error reversedDates))
    peerConfiguration (⟨"router.example".toList, hname⟩ : Tls.Hostname))
  rw [accepted_reportHandshake]
  intro h
  exact absurd (h _ rfl).ordered (by decide)

end Bifrostnms.Proofs
