import Bifrostnms.Agent.HttpProbe
import Bifrostnms.Lib.Assignments

/-!
# The request of the HTTP probe (`probes/http/probe.go`)

What `Run` gives to `client.Do`: the URL that `buildURL` makes of the target and the
configuration, the host, and the header, into which the loop over `RequestHeaders` sets
one entry after the other. `http.NewRequestWithContext` reads the text of the URL again;
what it makes of it is a parameter.
-/

namespace Bifrostnms.Agent.Http

open Bifrostnms.Lib

/-! ## The URL -/

/-- `net.JoinHostPort` -/
def joinHostPort (host port : List Char) : List Char :=
  if host.contains ':' then '[' :: host ++ "]:".toList ++ port else host ++ ':' :: port

/-- The host of the URL. -/
def urlHost (target : String) (port : Option ℤ) : List Char :=
  match port with
  | some port => joinHostPort target.toList (JsonText.intText port)
  | none =>
    if parseIp target.toList && target.toList.contains ':' then
      '[' :: target.toList ++ [']']
    else target.toList

/-- `buildURL`, with every part as `URL.String` prints it. The path of a configuration
starts with a slash, so `url.ParseRequestURI` finds no scheme, host or user in it, and it
keeps what follows the first question mark. -/
def buildUrl (target : String) (configuration : Configuration) : Option Url := do
  let uri := utf8 configuration.path.toList
  let raw := uri.takeWhile (· ≠ 63)
  let path ← pathUnescape raw
  return { scheme := utf8 configuration.scheme.text.toList
           host := escape staysInHost (utf8 (urlHost target configuration.port))
           path := escapedPath raw path
           rawQuery := (uri.dropWhile (· ≠ 63)).tail }

/-! ## The request -/

/-- `http.Header`, a map from names to values. -/
def Header := String → Option (List String)

/-- `textproto.CanonicalMIMEHeaderKey`: what is not a header name stays as it is. -/
def canonicalMimeHeaderKey (name : String) : String :=
  if validHeaderName name then String.ofList (canonicalHeaderKey true name.toList) else name

/-- The loop of `header.Set(name, value)`, in the order of the entries. -/
def setHeaders (requestHeaders : List (String × String)) : Header :=
  assignAll (fun header => canonicalMimeHeaderKey header.1)
    (fun header => some [header.2]) (fun _ => none) requestHeaders

structure Request where
  method : Method
  url : Url
  host : List UInt8
  header : Header

/-- The URL and the host of a request that `http.NewRequestWithContext` has created for
the text of a URL. -/
abbrev NewRequest := List UInt8 → Option (Url × List UInt8)

/-- The request of a configuration. -/
def buildRequest (newRequest : NewRequest) (target : String) (configuration : Configuration) :
    Option Request := do
  let requestUrl ← buildUrl target configuration
  let (url, host) ← newRequest requestUrl.string
  return { method := configuration.method
           url := url
           host := (configuration.hostHeader.map fun host => utf8 host.toList).getD host
           header := setHeaders configuration.requestHeaders }

/-- The request that a run sends, if it comes to that. -/
def sentRequest (newRequest : NewRequest) (target : String) (raw : RawConfiguration) :
    Option Request :=
  match decodeConfiguration raw with
  | .error _ => none
  | .ok configuration => buildRequest newRequest target configuration

end Bifrostnms.Agent.Http
