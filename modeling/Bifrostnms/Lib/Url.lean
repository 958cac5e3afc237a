import Bifrostnms.Lib.GoText
import Mathlib.Data.List.Sort

/-!
# URLs that were requested

A URL as Go's HTTP client has requested it: it has a scheme and a host, and every part
is given as `URL.String` prints it, but for the query, which is kept as it came. A
query is a sequence of escaped keys and values; what cannot be read in it is passed
over (`URL.Query`), and `Values.Encode` writes the keys in their order.
-/

namespace Bifrostnms.Lib

structure Url where
  scheme : List UInt8
  host : List UInt8
  path : List UInt8
  rawQuery : List UInt8 := []
  forceQuery : Bool := false
  fragment : List UInt8 := []

/-- `URL.String`, without the user information. -/
def Url.string (u : Url) : List UInt8 :=
  u.scheme ++ utf8 "://".toList ++ u.host ++
    (if u.path ≠ [] ∧ u.path.head? ≠ some 47 then [47] else []) ++ u.path ++
    (if u.forceQuery ∨ u.rawQuery ≠ [] then 63 :: u.rawQuery else []) ++
    (if u.fragment ≠ [] then 35 :: u.fragment else [])

/-! ## Queries -/

/-- The value of a hexadecimal digit. -/
def hexDigit (b : UInt8) : Option UInt8 :=
  if 48 ≤ b ∧ b ≤ 57 then some (b - 48)
  else if 97 ≤ b ∧ b ≤ 102 then some (b - 87)
  else if 65 ≤ b ∧ b ≤ 70 then some (b - 55)
  else none

/-- `url.QueryUnescape`. -/
def queryUnescape : List UInt8 → Option (List UInt8)
  | [] => some []
  | 37 :: high :: low :: rest => do
      return ((← hexDigit high) * 16 + (← hexDigit low)) :: (← queryUnescape rest)
  | 37 :: _ => none
  | 43 :: rest => (queryUnescape rest).map (32 :: ·)
  | b :: rest => (queryUnescape rest).map (b :: ·)

/-- Letters, digits, `-`, `_`, `.` and `~` stay as they are. -/
def isUnreserved (b : UInt8) : Bool :=
  48 ≤ b ∧ b ≤ 57 ∨ 65 ≤ b ∧ b ≤ 90 ∨ 97 ≤ b ∧ b ≤ 122 ∨ b ∈ [45, 95, 46, 126]

def upperHex (n : UInt8) : UInt8 := if n < 10 then 48 + n else 55 + n

/-- `url.QueryEscape`. -/
def queryEscape (s : List UInt8) : List UInt8 :=
  s.flatMap fun b =>
    if isUnreserved b then [b]
    else if b = 32 then [43]
    else [37, upperHex (b / 16), upperHex (b % 16)]

/-- The key of one pair of a query, if the pair can be read. -/
def queryKey (pair : List UInt8) : Option (List UInt8) := do
  guard (pair ≠ [] ∧ 59 ∉ pair)
  let key ← queryUnescape (pair.takeWhile (· ≠ 61))
  let _ ← queryUnescape ((pair.dropWhile (· ≠ 61)).drop 1)
  return key

/-- The keys of `URL.Query`, in the order of `Values.Encode`. -/
def queryKeys (rawQuery : List UInt8) : List (List UInt8) :=
  (((rawQuery.splitOn 38).filterMap queryKey).dedup).insertionSort fun a b =>
    a.map UInt8.toNat ≤ b.map UInt8.toNat

/-! ## Paths and hosts -/

/-- `unescape` of a path, in which a plus sign is one. -/
def pathUnescape : List UInt8 → Option (List UInt8)
  | [] => some []
  | 37 :: high :: low :: rest => do
      return ((← hexDigit high) * 16 + (← hexDigit low)) :: (← pathUnescape rest)
  | 37 :: _ => none
  | b :: rest => (pathUnescape rest).map (b :: ·)

/-- `escape`, for the bytes that stay as they are. -/
def escape (stays : UInt8 → Bool) (s : List UInt8) : List UInt8 :=
  s.flatMap fun b => if stays b then [b] else [37, upperHex (b / 16), upperHex (b % 16)]

/-- `!shouldEscape(c, encodePath)` -/
def staysInPath (b : UInt8) : Bool :=
  isUnreserved b || (utf8 "$&+,/:;=@".toList).contains b

/-- `!shouldEscape(c, encodeHost)` -/
def staysInHost (b : UInt8) : Bool :=
  isUnreserved b || (utf8 "!$&'()*+,;=:[]<>\"".toList).contains b

/-- `validEncoded(s, encodePath)` -/
def validEncodedPath (s : List UInt8) : Bool :=
  s.all fun b => staysInPath b || (utf8 "!'()*[]%".toList).contains b

/-- `URL.EscapedPath` of a path that was read from `raw`, which stays as it is if it is
an encoding. -/
def escapedPath (raw path : List UInt8) : List UInt8 :=
  if validEncodedPath raw then raw else escape staysInPath path

end Bifrostnms.Lib
