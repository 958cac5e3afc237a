import Mathlib.Data.Int.Notation
import Mathlib.Data.List.Basic
import Mathlib.Logic.Function.Basic

/-!
# ICMP exchanges (`probes/icmp/transport.go`)

Every `Exchange` opens a raw socket, sends its echo requests one after the
other and reads what arrives. The operating system delivers every inbound
message to every raw socket of its network, so the exchanges of one process
see each other's replies and those to other programs; each of them has to tell
its own by the identifier and the sequence number.

The loop of an exchange is cut at its effects: a request is sent, a message is
read, the exchange returns. A read that times out changes nothing. What a reply
answers is not in the packet; it is kept with it here, so that one can say
which exchange it belongs to. A round-trip time is in nanoseconds; that it is
returned in milliseconds as a `float64` is left out.
-/

namespace Bifrostnms.Agent

/-! ## Targets -/

inductive AddressFamily where
  | auto
  | ipv4
  | ipv6
deriving DecidableEq

/-- `ip4:icmp` and `ip6:ipv6-icmp`. -/
inductive IcmpNetwork where
  | ip4
  | ip6
deriving DecidableEq

structure IpAddress where
  text : String
  isIpv4 : Bool
deriving DecidableEq

structure ResolvedTarget where
  ip : IpAddress
  network : IcmpNetwork
deriving DecidableEq

/-- `resolve`, from the addresses of the target: the first one in the family. -/
def resolve (family : AddressFamily) : List IpAddress → Option ResolvedTarget
  | [] => none
  | address :: addresses =>
    if family = .ipv4 ∧ address.isIpv4 = false ∨ family = .ipv6 ∧ address.isIpv4 = true then
      resolve family addresses
    else some ⟨address, if address.isIpv4 then .ip4 else .ip6⟩

/-! ## One exchange -/

/-- An inbound ICMP message. -/
structure Packet where
  network : IcmpNetwork
  source : IpAddress
  /-- An echo reply; any other message is skipped. -/
  reply : Bool
  id : ℕ
  seq : ℕ
  /-- The request it answers: the exchange and its sequence number. -/
  answers : Option (ℕ × ℕ)

/-- What an exchange has sent and measured. -/
structure ExchangeProgress where
  sentAt : List ℤ := []
  samplesBySequence : ℕ → Option ℤ := fun _ => none

namespace ExchangeProgress

variable (e : ExchangeProgress)

/-- The next sequence number. -/
def sequence : ℕ := e.sentAt.length

/-- The request with the next sequence number is sent. -/
def send (now : ℤ) : ExchangeProgress := { e with sentAt := e.sentAt ++ [now] }

/-- The checks on the header of a message. -/
def hears (id : ℕ) (p : Packet) : Bool :=
  p.reply && p.id == id && decide (p.seq < e.sequence)

/-- A message is read. -/
def read (id : ℕ) (packetTimeout now : ℤ) (p : Packet) : ExchangeProgress :=
  if e.hears id p then
    match e.sentAt[p.seq]? with
    | some sentAt =>
      let elapsed := now - sentAt
      if elapsed ≤ packetTimeout ∧ e.samplesBySequence p.seq = none then
        { e with samplesBySequence :=
            Function.update e.samplesBySequence p.seq (some elapsed) }
      else e
    | none => e
  else e

/-- The samples that are returned, in the order of their requests. -/
def samples (packetCount : ℕ) : List ℤ :=
  (List.range packetCount).filterMap e.samplesBySequence

end ExchangeProgress

/-- What an exchange does, as it is logged. -/
inductive ExchangeAction where
  | sent (now : ℤ)
  | read (now : ℤ) (packet : Packet)

inductive ExchangeResult where
  | running
  | returned (samples : List ℤ)
  | failed
deriving DecidableEq

/-- A call of `Exchange`. -/
structure Exchange where
  target : ResolvedTarget
  packetCount : ℕ
  packetInterval : ℤ
  packetTimeout : ℤ
  sequenceStartedAt : ℤ
  progress : ExchangeProgress := {}
  /-- What has arrived at the socket and is not read. -/
  inbox : List Packet := []
  result : ExchangeResult := .running
  /-- Everything the exchange has sent and read. -/
  log : List ExchangeAction := []

def Exchange.finishedAt (e : Exchange) : ℤ :=
  e.sequenceStartedAt + ((e.packetCount : ℤ) - 1) * e.packetInterval + e.packetTimeout

/-! ## The exchanges of a process -/

inductive IcmpEvent where
  | open (family : AddressFamily) (addresses : List IpAddress)
      (packetCount : ℕ) (packetInterval packetTimeout now : ℤ)
  | send (exchange : ℕ) (now : ℤ)
  | arrive (packet : Packet)
  | read (exchange : ℕ) (now : ℤ)
  /-- The loop is over: its time is, or that of the context. -/
  | finish (exchange : ℕ) (now : ℤ) (deadlineExceeded : Bool)
  /-- The exchange returns an error. -/
  | fail (exchange : ℕ)

structure IcmpProcess where
  exchanges : List Exchange := []

namespace IcmpProcess

variable (pid : ℕ) (s : IcmpProcess)

/-- `os.Getpid() & 0xffff`. -/
def identifier : ℕ := pid % 0x10000

/-- A reply that says it answers a request answers one that was sent. -/
def wellFormed (p : Packet) : Bool :=
  match p.answers with
  | none => true
  | some (i, seq) => p.reply && p.id == identifier pid && p.seq == seq &&
      s.exchanges[i]?.any fun e => decide (seq < e.progress.sequence)

/-- An exchange that is running goes on. -/
def update (i : ℕ) (f : Exchange → Option Exchange) : Option IcmpProcess :=
  match s.exchanges[i]? with
  | some e =>
    if e.result = .running then
      (f e).map fun e' => { s with exchanges := s.exchanges.set i e' }
    else none
  | none => none

/-- A socket gets every message of its network. -/
def deliver (p : Packet) (e : Exchange) : Exchange :=
  if e.result = .running ∧ e.target.network = p.network then
    { e with inbox := e.inbox ++ [p] }
  else e

def sendNext (now : ℤ) (e : Exchange) : Option Exchange :=
  if e.progress.sequence < e.packetCount ∧
      e.sequenceStartedAt + e.progress.sequence * e.packetInterval ≤ now then
    some { e with
      progress := e.progress.send now
      log := e.log ++ [.sent now] }
  else none

def readNext (now : ℤ) (e : Exchange) : Option Exchange :=
  match e.inbox with
  | p :: rest => some { e with
      inbox := rest
      progress := e.progress.read (identifier pid) e.packetTimeout now p
      log := e.log ++ [.read now p] }
  | [] => none

/-- One event, when it can happen. -/
def step : IcmpEvent → Option IcmpProcess
  | .open family addresses packetCount packetInterval packetTimeout now =>
    (resolve family addresses).map fun target => { s with
      exchanges := s.exchanges ++ [⟨target, packetCount, packetInterval, packetTimeout, now, {}, [],
          .running, []⟩] }
  | .send i now => s.update i (sendNext now)
  | .arrive p =>
    if s.wellFormed pid p then
      some { s with exchanges := s.exchanges.map (deliver p) }
    else none
  | .read i now => s.update i (readNext pid now)
  | .finish i now deadlineExceeded => s.update i fun e =>
    if e.packetCount ≤ e.progress.sequence ∧ (deadlineExceeded ∨ e.finishedAt ≤ now) then
      some { e with result := .returned (e.progress.samples e.packetCount) }
    else none
  | .fail i => s.update i fun e => some { e with result := .failed }

end IcmpProcess

end Bifrostnms.Agent
