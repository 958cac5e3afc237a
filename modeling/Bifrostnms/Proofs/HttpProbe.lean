import Bifrostnms.Agent.HttpProbe
import Bifrostnms.Proofs.ObservationReader

/-!
# What the HTTP probe reports

Every bound of `HttpObservationResult` but two holds for whatever the web server does:
the count of redirects, the size, the durations and the counts of assertions
(`BoundedHttp`). The other two are on what the server chooses. The status code is copied
as the client has it, and the client takes any number; the URL is that of the last
redirect, and redaction leaves its host, its path and the keys of its query as they are.
-/

namespace Bifrostnms.Proofs

open Bifrostnms.Lib Bifrostnms.Backend Bifrostnms.Agent

/-! ## Reading a result -/

/-- The bounds that every result of the probe keeps. -/
structure BoundedHttp (r : Http.Result) : Prop where
  redirectCount : r.redirectCount ≤ 20
  responseSizeBytes : ∀ n ∈ r.responseSizeBytes, 0 ≤ n
  dnsMs : ∀ ms ∈ r.dnsMs, ms.neg = false
  connectMs : ∀ ms ∈ r.connectMs, ms.neg = false
  tlsMs : ∀ ms ∈ r.tlsMs, ms.neg = false
  ttfbMs : ∀ ms ∈ r.ttfbMs, ms.neg = false
  totalMs : ∀ ms ∈ r.totalMs, ms.neg = false
  assertions : r.assertionsFailed ≤ r.assertionsTotal
  assertionsTotal : r.assertionsTotal ≤ 100

/-- A status code between 100 and 599. -/
def KnownStatus (status : ℤ) : Prop := 100 ≤ status ∧ status ≤ 599

/-- A URL of at most 2048 characters, once it is redacted. -/
def ShortUrl (redacted : List UInt8) : Prop := (goText redacted).length ≤ 2048

theorem readMethod_text (m : Http.Method) :
    ∃ m', readLiteral HttpMethod.text [.get, .head] (.str m.text) = some m' := by
  cases m <;> exact ⟨_, rfl⟩

theorem readScheme_text (s : Http.Scheme) :
    ∃ s', readLiteral HttpScheme.text [.http, .https] (.str s.text) = some s' := by
  cases s <;> exact ⟨_, rfl⟩

/-- A result as it is read. -/
def httpObservation (r : Http.Result) (method : HttpMethod) (scheme : HttpScheme) :
    HttpObservationResult where
  method := method
  scheme := scheme
  statusCode := r.statusCode
  redirectCount := r.redirectCount
  responseSizeBytes := r.responseSizeBytes
  dnsMs := r.dnsMs.map .finite
  connectMs := r.connectMs.map .finite
  tlsMs := r.tlsMs.map .finite
  ttfbMs := r.ttfbMs.map .finite
  totalMs := r.totalMs.map .finite
  assertionsTotal := r.assertionsTotal
  assertionsFailed := r.assertionsFailed
  finalUrlRedacted := r.finalUrlRedacted.map goText

theorem readHttpResult_document (r : Http.Result) : ∃ method scheme, readHttpResult r.document =
      Option.filter HttpObservationResult.valid (some (httpObservation r method scheme)) := by
  obtain ⟨method, hmethod⟩ := readMethod_text r.method
  obtain ⟨scheme, hscheme⟩ := readScheme_text r.scheme
  refine ⟨method, scheme, ?_⟩
  rw [readHttpResult, readField_of_lookup "method" rfl, hmethod,
    readField_of_lookup "scheme" rfl, hscheme, readOptional_int "status_code" _ rfl,
    readField_of_lookup "redirect_count" rfl, readOptional_int "response_size_bytes" _ rfl,
    readOptional_float "dns_ms" _ rfl, readOptional_float "connect_ms" _ rfl,
    readOptional_float "tls_ms" _ rfl, readOptional_float "ttfb_ms" _ rfl,
    readOptional_float "total_ms" _ rfl, readField_of_lookup "assertions_total" rfl,
    readField_of_lookup "assertions_failed" rfl, readOptional_nullable "final_url_redacted" _ rfl]
  rfl

theorem httpObservation_valid_iff {r : Http.Result} (hr : BoundedHttp r)
    (method : HttpMethod) (scheme : HttpScheme) : (httpObservation r method scheme).valid = true ↔
      (∀ status ∈ r.statusCode, KnownStatus status) ∧
        ∀ redacted ∈ r.finalUrlRedacted, ShortUrl redacted := by
  have hcount : inRange 0 20 r.redirectCount = true := by
    have hle := hr.redirectCount
    exact decide_eq_true (by omega)
  have hsize : r.responseSizeBytes.all (fun n => 0 ≤ n) = true := by
    rw [Option.all_eq_true]
    exact fun n hn => decide_eq_true (hr.responseSizeBytes n hn)
  have hassertions : inRange 0 100 r.assertionsTotal = true ∧
      inRange 0 100 r.assertionsFailed = true ∧ (r.assertionsFailed : ℤ) ≤ r.assertionsTotal := by
    have hle := hr.assertions
    have htotal := hr.assertionsTotal
    rw [inRange, inRange, decide_eq_true_iff, decide_eq_true_iff]
    omega
  have hstatus : r.statusCode.all (inRange 100 599) = true ↔
      ∀ status ∈ r.statusCode, KnownStatus status := by
    simp only [Option.all_eq_true, inRange, KnownStatus, decide_eq_true_iff]
    rfl
  have hurl : (r.finalUrlRedacted.map goText).all (sized 0 2048) = true ↔
      ∀ redacted ∈ r.finalUrlRedacted, ShortUrl redacted := by
    cases r.finalUrlRedacted <;> simp [sized, ShortUrl]
  rw [← hstatus, ← hurl]
  simp only [HttpObservationResult.valid, httpObservation, hcount, hsize,
    all_nonNegative hr.dnsMs, all_nonNegative hr.connectMs, all_nonNegative hr.tlsMs,
    all_nonNegative hr.ttfbMs, all_nonNegative hr.totalMs, hassertions, decide_true,
    Bool.and_true, Bool.and_eq_true]

theorem accepted_http {r : Agent.Result} {result : Http.Result}
    (hstatus : r.executionStatus = executionCompleted)
    (hresult : r.probeResult = some result.document) (hbounded : BoundedHttp result) :
    ResultAccepted readHttpResult r ↔ (∀ status ∈ result.statusCode, KnownStatus status) ∧
        ∀ redacted ∈ result.finalUrlRedacted, ShortUrl redacted := by
  obtain ⟨method, scheme, hread⟩ := readHttpResult_document result
  rw [resultAccepted_iff hstatus hresult, hread, Option.isSome_filter, Option.any_some,
    httpObservation_valid_iff hbounded]

/-! ## What the probe builds -/

variable {run : Http.Run} {c : Http.Configuration}

/-- The client gives up one redirect after the last that may be followed. -/
theorem follow_count_le (hops : ℕ → Http.Hop) (left via : ℕ) (url : Url) :
    (Http.follow c hops left via url).1 ≤ via + left + 1 := by
  induction left generalizing via url with
  | zero =>
    unfold Http.follow
    split
    · omega
    · omega
    · split_ifs <;> exact Nat.le_refl _
  | succ left ih =>
    unfold Http.follow
    split
    · omega
    · omega
    · next location _ =>
        split_ifs
        · show via + 1 ≤ via + (left + 1) + 1
          omega
        · have hrest := ih (via + 1) location
          show (Http.follow c hops left (via + 1) location).1 ≤ via + (left + 1) + 1
          omega

theorem durationPointer_neg {duration : ℕ} {ms : Decimal}
    (h : ms ∈ Http.durationPointer duration) : ms.neg = false := by
  unfold Http.durationPointer at h
  split_ifs at h
  · cases h
  · obtain rfl := Option.some.inj h
    exact durationMs_neg duration

theorem bounded_http_baseResult {redirectCount : ℕ} (h : redirectCount ≤ 20) :
    BoundedHttp (Http.baseResult run c redirectCount) where
  redirectCount := h
  responseSizeBytes := fun n hn => by cases hn
  dnsMs := fun _ => durationPointer_neg
  connectMs := fun _ => durationPointer_neg
  tlsMs := fun _ => durationPointer_neg
  ttfbMs := by
    intro ms hms
    obtain ⟨ns, -, rfl⟩ := Option.map_eq_some_iff.mp hms
    exact durationMs_neg ns
  totalMs := by
    intro ms hms
    obtain rfl := Option.some.inj hms
    exact durationMs_neg run.total
  assertions := Nat.le_refl 0
  assertionsTotal := Nat.zero_le 100

theorem evaluateAssertions_le (response : Http.Response) (body : List UInt8) :
    (Http.evaluateAssertions c response body).2 ≤ (Http.evaluateAssertions c response body).1 := by
  unfold Http.evaluateAssertions
  refine Nat.add_le_add (Nat.add_le_add ?_ List.countP_le_length) List.countP_le_length
  split_ifs <;> omega

theorem responseSize_nonneg (response : Http.Response) (body : List UInt8)
    (exceeded : Bool) : 0 ≤ Http.responseSize c response body exceeded := by
  unfold Http.responseSize
  split_ifs <;> omega

theorem bounded_responseResult {redirectCount : ℕ} (h : redirectCount ≤ 20) (url : Url)
    (response : Http.Response) (body : List UInt8) (exceeded : Bool) :
    BoundedHttp (Http.responseResult run c redirectCount url response body exceeded) :=
  have hbase : BoundedHttp (Http.baseResult run c redirectCount) := bounded_http_baseResult h
  { hbase with
    responseSizeBytes := by
      intro n hn
      obtain rfl := Option.some.inj hn
      exact responseSize_nonneg response body exceeded
    assertions := evaluateAssertions_le response body
    assertionsTotal := by
      have hheaders := c.expectedHeaderValues.property
      have hbody := c.expectedBodyContains.property
      show 1 + c.expectedHeaderValues.val.length + c.expectedBodyContains.val.length ≤ 100
      omega }

/-! ## Whole runs -/

/-- A response that is reported has a status code and a URL that the control plane takes,
as far as they are reported. -/
def ResponseReportable (run : Http.Run) (c : Http.Configuration) (url : Url)
    (response : Http.Response) : Prop :=
  match Http.readBounded response.body c.maximumResponseBytes with
  | .error err => (Http.classifyError run.context err).failed = true ∨
      KnownStatus response.statusCode
  | .ok _ => KnownStatus response.statusCode ∧ ShortUrl (Http.redactUrl url)

/-- What a web server has to do for the result of a run to be accepted. -/
def HttpReportable (run : Http.Run) (c : Http.Configuration) : Prop :=
  ∀ url ∈ run.url, run.requestCreated = true → ∀ last response,
    (Http.follow c run.hops c.maximumRedirects 0 url).2 = .ok (last, response) →
      ResponseReportable run c last response

theorem accepted_http_reportError {result : Http.Result} {err : Http.Error}
    (hbounded : BoundedHttp result) (hurl : result.finalUrlRedacted = none) :
    ResultAccepted readHttpResult (Http.reportError run result err) ↔
      (Http.classifyError run.context err).failed = true ∨
        ∀ status ∈ result.statusCode, KnownStatus status := by
  unfold Http.reportError
  dsimp only
  split_ifs with hfailed
  · exact iff_of_true (resultAccepted_of_failed rfl) (.inl hfailed)
  · rw [accepted_http rfl rfl hbounded, hurl, or_iff_right hfailed]
    exact and_iff_left fun redacted h => by cases h

theorem accepted_reportResponse {redirectCount : ℕ} (h : redirectCount ≤ 20) (url : Url)
    (response : Http.Response) (body : List UInt8) (exceeded : Bool) : ResultAccepted readHttpResult
        (Http.reportResponse run c redirectCount url response body exceeded) ↔
      KnownStatus response.statusCode ∧ ShortUrl (Http.redactUrl url) := by
  have hbounded :
      BoundedHttp (Http.responseResult run c redirectCount url response body exceeded) :=
    bounded_responseResult h url response body exceeded
  have hreport : (∀ status ∈ some response.statusCode, KnownStatus status) ∧
      (∀ redacted ∈ some (Http.redactUrl url), ShortUrl redacted) ↔
      KnownStatus response.statusCode ∧ ShortUrl (Http.redactUrl url) := by
    simp
  unfold Http.reportResponse
  dsimp only
  split_ifs <;> exact (accepted_http rfl rfl hbounded).trans hreport

theorem accepted_request (url : Url) :
    ResultAccepted readHttpResult (Http.request run c url) ↔ ∀ last response,
      (Http.follow c run.hops c.maximumRedirects 0 url).2 = .ok (last, response) →
        ResponseReportable run c last response := by
  have hcount : (Http.follow c run.hops c.maximumRedirects 0 url).1 ≤ 20 := by
    have hle := follow_count_le (c := c) run.hops c.maximumRedirects 0 url
    have hmaximum := c.maximumRedirects.property
    omega
  unfold Http.request
  generalize Http.follow c run.hops c.maximumRedirects 0 url = followed at hcount ⊢
  obtain ⟨redirectCount, outcome⟩ := followed
  have hbounded : BoundedHttp (Http.baseResult run c redirectCount) :=
    bounded_http_baseResult hcount
  cases outcome with
  | error err =>
    refine iff_of_true ((accepted_http_reportError hbounded rfl).mpr (.inr ?_)) ?_
    · intro status h
      cases h
    · intro last response h
      cases h
  | ok answer =>
    obtain ⟨last, response⟩ := answer
    have hlast : (∀ last' response', (Except.ok (last, response) :
        Except Http.Error (Url × Http.Response)) = .ok (last', response') →
        ResponseReportable run c last' response') ↔ ResponseReportable run c last response := by
      simp
    refine Iff.trans ?_ hlast.symm
    unfold ResponseReportable
    dsimp only
    cases Http.readBounded response.body c.maximumResponseBytes with
    | error err =>
      have hstatus : BoundedHttp { Http.baseResult run c redirectCount with
          statusCode := some response.statusCode } := { hbounded with }
      refine (accepted_http_reportError hstatus rfl).trans ?_
      simp
    | ok read => exact accepted_reportResponse hcount last response read.1 read.2

/-- For every behaviour of the web server and every configuration that is accepted: a
completed result is read by the control plane exactly if the run is reportable. -/
theorem http_accepted_iff {run : Http.Run} {raw : Http.RawConfiguration}
    {c : Http.Configuration} (hc : Http.decodeConfiguration raw = .ok c) :
    ResultAccepted readHttpResult (Http.runHttp run (some raw)) ↔ HttpReportable run c := by
  unfold Http.runHttp HttpReportable
  rw [Option.map_some, hc]
  dsimp only
  cases run.url with
  | none =>
    refine iff_of_true (resultAccepted_of_failed rfl) fun url h => ?_
    cases h
  | some url =>
    have hurl (p : Url → Prop) : (∀ u ∈ some url, p u) ↔ p url := by simp
    rw [hurl]
    dsimp only
    by_cases hcreated : run.requestCreated = true
    · rw [if_neg (by simpa using hcreated), accepted_request, imp_iff_right hcreated]
    · rw [if_pos (by simpa using hcreated)]
      exact iff_of_true (resultAccepted_of_failed rfl) fun h => (hcreated h).elim

/-! ## Three web servers -/

def routerUrl : Url where
  scheme := utf8 "http".toList
  host := utf8 "router".toList
  path := utf8 "/".toList

/-- A run that begins at `http://router/`. -/
def routerRun (hops : ℕ → Http.Hop) : Http.Run where
  context := none
  startedAt := 0
  finishedAt := 5000000
  url := some routerUrl
  requestCreated := true
  timings := ⟨1000000, 1000000, 0, some 4000000⟩
  total := 5000000
  hops := hops

def plainResponse (status : ℤ) : Http.Response where
  statusCode := status
  contentLength := 2
  headers := fun _ => []
  body := { bytes := utf8 "ok".toList }

def followingMonitor : Http.RawConfiguration where
  schemaVersion := 1
  scheme := "http"
  followRedirects := true
  expectedStatusCodes := [200]

def followingConfiguration : Http.Configuration :=
  ⟨.http, none, "/", .get, true, ⟨5, by decide⟩, none, [], [200], ⟨[], by decide⟩,
    ⟨[], by decide⟩, 1048576, .auto⟩

theorem decode_followingMonitor :
    Http.decodeConfiguration followingMonitor = .ok followingConfiguration := rfl

theorem http_accepted_plain : ResultAccepted readHttpResult
    (Http.runHttp (routerRun fun _ => .final (plainResponse 200)) (some followingMonitor)) := by
  refine (http_accepted_iff decode_followingMonitor).mpr ?_
  intro url hurl _ last response hfollow
  obtain rfl := Option.some.inj hurl
  cases hfollow
  exact ⟨by unfold KnownStatus; decide, (length_goText_le _).trans (by decide)⟩

/-- A page of the router. -/
def pageUrl (page : List Char) : Url := { routerUrl with path := utf8 ('/' :: page) }

theorem shortUrl_pageUrl_iff (page : List Char) :
    ShortUrl (Http.redactUrl (pageUrl page)) ↔ page.length + 14 ≤ 2048 := by
  have htext : Http.redactUrl (pageUrl page) = utf8 ("http://router/".toList ++ page) := by
    simp [Http.redactUrl, Url.string, pageUrl, routerUrl, utf8]
    decide
  have hlength : "http://router/".toList.length = 14 := rfl
  rw [ShortUrl, htext, goText, runes_utf8, String.length_ofList, List.length_append, hlength]
  omega

def longUrl : Url := pageUrl (List.replicate 2048 'a')

/-- Results that are completed and rejected: that of a response with status 999, and that
of a redirect to a page with a long path. -/
theorem http_rejected : ¬ResultAccepted readHttpResult (Http.runHttp
      (routerRun fun _ => .final (plainResponse 999)) (some followingMonitor)) ∧
    ¬ResultAccepted readHttpResult (Http.runHttp
      (routerRun fun | 0 => .redirect (plainResponse 301) longUrl
                     | _ => .final (plainResponse 200)) (some followingMonitor)) := by
  constructor
  · show ¬ResultAccepted readHttpResult (Http.request
      (routerRun fun _ => .final (plainResponse 999)) followingConfiguration routerUrl)
    rw [accepted_request]
    intro h
    have hstatus : KnownStatus 999 := (h routerUrl (plainResponse 999) rfl).1
    exact absurd hstatus.2 (by decide)
  · show ¬ResultAccepted readHttpResult (Http.request
      (routerRun fun | 0 => .redirect (plainResponse 301) longUrl
                     | _ => .final (plainResponse 200)) followingConfiguration routerUrl)
    rw [accepted_request]
    intro h
    have hshort := (shortUrl_pageUrl_iff _).mp (h longUrl (plainResponse 200) rfl).2
    rw [List.length_replicate] at hshort
    omega

end Bifrostnms.Proofs
