import Bifrostnms.Agent.DnsProbe

/-!
# The exchange with an explicit resolver (`probes/dns/probe.go`)

The query that `buildQuery` builds, and the two sockets with the messages that arrive
at them, from whomever. A message is given as far as the message library can read it,
with its ID and its questions, which `parseResponse` reads and drops.
-/

namespace Bifrostnms.Agent.Dns

open Bifrostnms.Lib

/-! ## Queries -/

/-- `dnsMessageType` -/
def dnsMessageType : QueryType → UInt16
  | .a => 1
  | .aaaa => 28
  | .cname => 5
  | .mx => 15
  | .ns => 2
  | .txt => 16
  | .ptr => 12

/-- `reverseAddress` of the 16 bytes of an address. -/
def reverseAddress (address : List UInt8) : List Char :=
  if address.take 12 = List.replicate 10 0 ++ [255, 255] then
    ipv4Text (address.drop 12).reverse ++ ".in-addr.arpa".toList
  else
    List.intercalate ['.'] (address.reverse.flatMap fun b =>
      [[Nat.digitChar (b.toNat % 16)], [Nat.digitChar (b.toNat / 16)]]) ++ ".ip6.arpa".toList

/-- A question, with its name as `Name.String` prints it. -/
structure Question where
  name : List UInt8
  type : UInt16
  classCode : UInt16
deriving DecidableEq

structure Query where
  id : UInt16
  recursionDesired : Bool
  question : Question

/-- Whether the message library can pack a name that ends with a dot. -/
def packable (name : List UInt8) : Bool :=
  name == [46] || (name.dropLast.splitOn 46).all fun label => label ≠ [] && label.length < 64

/-- `buildQuery` at a time, with `net.ParseIP` as a parameter. -/
def buildQuery (parseIP : List Char → Option (List UInt8)) (unixNano : ℤ)
    (queryName : List Char) (configuration : Configuration) : Option Query := do
  let wireName :=
    if configuration.queryType = .ptr then
      ((parseIP queryName).map reverseAddress).getD queryName
    else queryName
  let name := utf8 (trimSuffix wireName ['.'] ++ ['.'])
  guard (name.length ≤ 255)
  guard (packable name)
  return { id := UInt16.ofInt unixNano
           recursionDesired := configuration.recursionDesired
           question := ⟨name, dnsMessageType configuration.queryType, 1⟩ }

/-! ## Messages -/

structure Message where
  size : ℕ
  /-- `parser.Start`: the ID, and the rest of the header. -/
  header : Option (UInt16 × Header)
  /-- `parser.AllQuestions`. -/
  questions : Option (List Question)
  /-- `parser.AllAnswers`, after the questions. -/
  answers : Option (List Resource)
  /-- Lengths have 16 bits on both transports. -/
  size_le : size ≤ maximumMessageBytes
  size_header : header.isSome → 12 ≤ size

/-- What `parseResponse` looks at. -/
def Message.content (m : Message) : Content where
  size := m.size
  header := m.header.map Prod.snd
  resources := m.questions.bind fun _ => m.answers

/-! ## Sockets -/

/-- A connection of the agent. -/
structure Socket where
  /-- An error of the dialling or of the write. -/
  broken : Option Error := none
  /-- The messages in the order in which they arrive. -/
  arriving : List Message
  /-- The error of a read for which nothing has arrived. -/
  silence : Error := { timeout := true }

/-- The first message is read, and no other. -/
def Socket.read (socket : Socket) : Except Error Message :=
  match socket.broken with
  | some err => .error err
  | none =>
    match socket.arriving with
    | [] => .error socket.silence
    | m :: _ => .ok m

def exchangeUdp (socket : Socket) : Except Error Message := socket.read

def exchangeTcp (socket : Socket) : Except Error Message := do
  let response ← socket.read
  if response.size = 0 ∨ maximumMessageBytes < response.size then .error {}
  else .ok response

/-- What the two sockets of a run meet. -/
structure Network where
  udp : Socket
  tcp : Socket

/-- A run over a network. -/
def Run.over (run : Run) (query : Option Query) (network : Network) : Run :=
  { run with
    queryBuilt := query.isSome
    udp := (exchangeUdp network.udp).map Message.content
    tcp := (exchangeTcp network.tcp).map Message.content }

end Bifrostnms.Agent.Dns
