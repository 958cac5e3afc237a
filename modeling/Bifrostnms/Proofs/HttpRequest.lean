import Bifrostnms.Agent.HttpRequest
import Bifrostnms.Lib.Checks

/-!
# The header of a request and the order of a map

Go ranges over `RequestHeaders` in any order. `DecodeConfiguration` does not mind:
what it accepts, it accepts in every order. The loop that fills the header of the
request does: two names that differ in case are two keys of the map and one key of
the header, and the value that is set last is sent. `sentRequest_perm_iff` says that
this is the only way in which the order shows.
-/

namespace Bifrostnms.Proofs

open Bifrostnms.Lib Bifrostnms.Agent

variable {raw : Http.RawConfiguration} {configuration : Http.Configuration}
  {order : List (String × String)}

/-- A configuration with its map in another order. -/
theorem decodeConfiguration_perm (h : Http.decodeConfiguration raw = .ok configuration)
    (hperm : order.Perm raw.requestHeaders) :
    Http.decodeConfiguration { raw with requestHeaders := order } =
      .ok { configuration with requestHeaders := order } := by
  unfold Http.decodeConfiguration at h ⊢
  simp only [↓bind_eq_ok, ↓ite_throw_eq_ok, ↓forM_eq_ok, exists_const, hperm.length_eq,
    hperm.mem_iff, pure, Except.pure, Except.ok.injEq] at h ⊢
  obtain ⟨hversion, scheme, hscheme, method, hmethod, hpath, hport, redirects, hredirects, hhost,
    hlength, hheaders, hcodes, u, hunique, values, hvalues, texts, htexts, hhead, hmaximum,
    family, hfamily, rfl⟩ := h
  exact ⟨hversion, scheme, hscheme, method, hmethod, hpath, hport, redirects, hredirects, hhost,
    hlength, hheaders, hcodes, u, hunique, values, hvalues, texts, htexts, hhead, hmaximum,
    family, hfamily, rfl⟩

/-- Names with one canonical form have one value. -/
def HeadersAgree (requestHeaders : List (String × String)) : Prop :=
  Agree (fun header => Http.canonicalMimeHeaderKey header.1) Prod.snd requestHeaders

instance (requestHeaders : List (String × String)) : Decidable (HeadersAgree requestHeaders) :=
  inferInstanceAs (Decidable (Agree _ _ _))

/-- The order in which the loop sets the entries shows only if two of them are for one
key. -/
theorem setHeaders_perm_iff (requestHeaders : List (String × String)) :
    (∀ first second, first.Perm requestHeaders → second.Perm requestHeaders →
      Http.setHeaders first = Http.setHeaders second) ↔ HeadersAgree requestHeaders := by
  refine Iff.trans (assignAll_perm_iff _ requestHeaders) ?_
  refine forall₂_congr fun a _ => forall₂_congr fun b _ => imp_congr_right fun _ => ?_
  rw [Option.some.injEq, List.cons.injEq, and_iff_left rfl]

/-- What the order of the map leaves of the request: everything but the header. -/
theorem sentRequest_perm (newRequest : Http.NewRequest) (target : String)
    (h : Http.decodeConfiguration raw = .ok configuration) (hperm : order.Perm raw.requestHeaders) :
    Http.sentRequest newRequest target { raw with requestHeaders := order } =
      (Http.sentRequest newRequest target raw).map fun request =>
        { request with header := Http.setHeaders order } := by
  unfold Http.sentRequest
  rw [decodeConfiguration_perm h hperm, h]
  show Http.buildRequest newRequest target { configuration with requestHeaders := order } =
    (Http.buildRequest newRequest target configuration).map _
  have hurl : Http.buildUrl target { configuration with requestHeaders := order } =
      Http.buildUrl target configuration := rfl
  unfold Http.buildRequest
  rw [hurl]
  cases Http.buildUrl target configuration with
  | none => rfl
  | some requestUrl =>
    show Option.bind (newRequest requestUrl.string) _ =
      Option.map _ (Option.bind (newRequest requestUrl.string) _)
    cases newRequest requestUrl.string with
    | none => rfl
    | some created => rfl

/-- For every accepted configuration and every target: the request is the same for any two
orders of the map, exactly if no request is sent at all or names with one canonical form
have one value. -/
theorem sentRequest_perm_iff (newRequest : Http.NewRequest) (target : String)
    (raw : Http.RawConfiguration) (configuration : Http.Configuration)
    (h : Http.decodeConfiguration raw = .ok configuration) :
    (∀ first second, first.Perm raw.requestHeaders → second.Perm raw.requestHeaders →
      Http.sentRequest newRequest target { raw with requestHeaders := first } =
        Http.sentRequest newRequest target { raw with requestHeaders := second }) ↔
    Http.sentRequest newRequest target raw = none ∨ HeadersAgree raw.requestHeaders := by
  have hrequest (order : List (String × String)) (hperm : order.Perm raw.requestHeaders) :=
    sentRequest_perm newRequest target h hperm
  cases hsent : Http.sentRequest newRequest target raw with
  | none =>
    rw [hsent] at hrequest
    refine iff_of_true ?_ (.inl rfl)
    intro first second hfirst hsecond
    rw [hrequest first hfirst, hrequest second hsecond]
    rfl
  | some request =>
    rw [hsent] at hrequest
    rw [← setHeaders_perm_iff, or_iff_right (Option.some_ne_none request)]
    refine forall₄_congr fun first second hfirst hsecond => ?_
    rw [hrequest first hfirst, hrequest second hsecond, Option.map_some, Option.map_some,
      Option.some.injEq, Http.Request.mk.injEq]
    exact ⟨fun heq => heq.2.2.2, fun heq => ⟨rfl, rfl, rfl, heq⟩⟩

/-- A configuration with two headers. -/
def twoHeaders (first second : String × String) : Http.RawConfiguration where
  schemaVersion := 1
  requestHeaders := [first, second]
  expectedStatusCodes := [200]

theorem sentRequest_perm_distinct :
    HeadersAgree [("X-A", "1"), ("X-B", "2")] ∧ ∀ newRequest : Http.NewRequest,
      Http.sentRequest newRequest "192.0.2.1" (twoHeaders ("X-A", "1") ("X-B", "2")) =
        Http.sentRequest newRequest "192.0.2.1" (twoHeaders ("X-B", "2") ("X-A", "1")) := by
  have hagree : HeadersAgree [("X-A", "1"), ("X-B", "2")] := by decide
  refine ⟨hagree, fun newRequest => ?_⟩
  obtain ⟨configuration, hdecode⟩ : ∃ configuration, Http.decodeConfiguration
      (twoHeaders ("X-A", "1") ("X-B", "2")) = .ok configuration := ⟨_, rfl⟩
  exact (sentRequest_perm_iff newRequest "192.0.2.1" _ configuration hdecode).mpr
    (.inr hagree) _ _ (List.Perm.refl _) (List.Perm.swap _ _ _)

/-- Two names that are one: with any library that creates a request for the URL, the value
that is sent is the one that is set last. -/
theorem sentRequest_differs : (∃ configuration,
      Http.decodeConfiguration (twoHeaders ("X-A", "1") ("x-a", "2")) = .ok configuration) ∧
    ∀ newRequest : Http.NewRequest, ∀ created,
      newRequest (utf8 "https://192.0.2.1/".toList) = some created →
      ((Http.sentRequest newRequest "192.0.2.1" (twoHeaders ("X-A", "1") ("x-a", "2"))).map
        fun request => request.header "X-A") = some (some ["2"]) ∧
      ((Http.sentRequest newRequest "192.0.2.1" (twoHeaders ("x-a", "2") ("X-A", "1"))).map
        fun request => request.header "X-A") = some (some ["1"]) := by
  refine ⟨⟨_, rfl⟩, fun newRequest created hcreated => ⟨?_, ?_⟩⟩
  · show Option.map _ (Option.bind (newRequest (utf8 "https://192.0.2.1/".toList)) _) = _
    rw [hcreated]
    rfl
  · show Option.map _ (Option.bind (newRequest (utf8 "https://192.0.2.1/".toList)) _) = _
    rw [hcreated]
    rfl

end Bifrostnms.Proofs
