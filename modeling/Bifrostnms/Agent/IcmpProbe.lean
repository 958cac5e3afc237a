import Bifrostnms.Agent.Icmp
import Bifrostnms.Agent.Probe
import Mathlib.Data.Rat.Floor
import Mathlib.Data.List.Sort

/-!
# The ICMP probe (`probes/icmp`)

One run of the probe: the configuration is checked, the loop of `Exchange` runs
iteration by iteration, and the samples are summed up. What the loop meets from
outside is given for each iteration: the state of the context, whether sending
and reading succeed, and what is read; and the clock, by the number of times it
was read before. A run for which there are too few iterations has not returned.

Times and durations are in nanoseconds. The numbers of a result are exact
rationals, in milliseconds where they are times.
-/

namespace Bifrostnms.Agent

open Bifrostnms.Lib

/-! ## Configurations (`configuration.go`) -/

def maximumPacketCount : ℤ := 100

structure IcmpConfiguration where
  schemaVersion : ℤ := 1
  packetCount : ℤ := 20
  packetIntervalMs : ℤ := 50
  perPacketTimeoutMs : ℤ := 0
  payloadSizeBytes : ℤ := 56
  addressFamily : AddressFamily := .auto
  maximumPacketLoss : Option ℚ := none
  maximumAverageRttMs : Option ℚ := none

namespace IcmpConfiguration

variable (c : IcmpConfiguration)

/-- `Configuration.Validate`, for one of the three address families. The thresholds
are looked at in the order of a map, which is not fixed. -/
def validate : Except String Unit :=
  if c.schemaVersion ≠ 1 then
    .error "ICMP configuration schema version is unsupported"
  else if c.packetCount < 1 ∨ maximumPacketCount < c.packetCount then
    .error "packet_count must be within 1..100"
  else if c.packetIntervalMs < 10 ∨ 1000 < c.packetIntervalMs then
    .error "packet_interval_ms must be within 10..1000"
  else if c.perPacketTimeoutMs < 0 ∨ 60000 < c.perPacketTimeoutMs then
    .error "per_packet_timeout_ms must be within 1..60000 when supplied"
  else if c.payloadSizeBytes < 0 ∨ 1400 < c.payloadSizeBytes then
    .error "payload_size_bytes must be within 0..1400"
  else if c.maximumPacketLoss.any (· < 0) then
    .error "maximum_packet_loss_percent must be finite and non-negative"
  else if c.maximumAverageRttMs.any (· < 0) then
    .error "maximum_average_rtt_ms must be finite and non-negative"
  else if c.maximumPacketLoss.any (100 < ·) then
    .error "maximum_packet_loss_percent cannot exceed 100"
  else .ok ()

/-- `Configuration.Timeout`. -/
def timeout (monitorTimeout : ℤ) : Except String ℤ :=
  let remaining := monitorTimeout -
    (c.packetCount - 1) * (c.packetIntervalMs * 1000000)
  if remaining < 1000000 then
    .error "packet sequence does not fit within the monitor timeout"
  else
    let packetTimeout :=
      if c.perPacketTimeoutMs = 0 then remaining else c.perPacketTimeoutMs * 1000000
    if remaining < packetTimeout then
      .error "packet timeout and interval sequence exceed the monitor timeout"
    else .ok packetTimeout

end IcmpConfiguration

/-! ## Errors of the transport -/

inductive ContextError where
  | canceled
  | deadlineExceeded
deriving DecidableEq

/-- An error by its text and what `errors.Is` and `errors.As` find in it. -/
structure TransportError where
  diagnostic : String
  deadlineExceeded : Bool := false
  permission : Bool := false
  /-- A `*net.DNSError`. -/
  resolution : Bool := false

/-- `fmt.Errorf` with `%w`. -/
def TransportError.wrap (label : String) (e : TransportError) : TransportError :=
  { e with diagnostic := label ++ ": " ++ e.diagnostic }

def ContextError.transport : ContextError → TransportError
  | .canceled => { diagnostic := "context canceled" }
  | .deadlineExceeded =>
    { diagnostic := "context deadline exceeded", deadlineExceeded := true }

/-! ## The loop of an exchange (`transport.go`) -/

structure EchoRequest where
  id : ℕ
  seq : ℕ
  payload : List UInt8

/-- `payload[index] = byte(index)` -/
def echoPayload (size : ℕ) : List UInt8 := (List.range size).map UInt8.ofNat

inductive ReadOutcome where
  | message (packet : Packet)
  | timeout
  | failed (e : TransportError)

/-- What an iteration of the loop meets. -/
structure Iteration where
  contextErr : Option ContextError := none
  marshalErr : Option TransportError := none
  writeErr : Option TransportError := none
  setDeadlineErr : Option TransportError := none
  /-- What a read until a deadline gives. -/
  read : ℤ → ReadOutcome
  /-- `ctx.Err()` once a read has failed. -/
  contextErrAfterRead : Option ContextError := none

/-- The arguments of `Exchange`, and its identifier. -/
structure ExchangeCall where
  id : ℕ
  packetCount : ℕ
  packetInterval : ℤ
  packetTimeout : ℤ
  payloadSize : ℕ

/-- The variables of the loop, how often the clock was read, and what was sent. -/
structure LoopState where
  readings : ℕ
  progress : ExchangeProgress := {}
  sent : List EchoRequest := []

inductive LoopStep where
  | proceed (s : LoopState)
  /-- `break` -/
  | leave (s : LoopState)
  | fail (e : TransportError)

section Loop

variable (call : ExchangeCall) (clock : ℕ → ℤ) (contextDeadline : Option ℤ)

/-- The first reading of the clock. -/
def sequenceStartedAt : ℤ := clock 0

def loopFinishedAt : ℤ :=
  sequenceStartedAt clock + (((call.packetCount : ℤ) - 1) * call.packetInterval +
    call.packetTimeout)

/-- When the request with a sequence number is due. -/
def nextSendAt (sequence : ℕ) : ℤ :=
  sequenceStartedAt clock + sequence * call.packetInterval

/-- The part of an iteration that sends: the state and the next time to send. -/
def sendIfDue (it : Iteration) (s : LoopState) : Except TransportError (LoopState × ℤ) :=
  let now := clock s.readings
  let s := { s with readings := s.readings + 1 }
  let sequence := s.progress.sequence
  if sequence < call.packetCount ∧ nextSendAt call clock sequence ≤ now then
    match it.marshalErr with
    | some e => .error (e.wrap "encode ICMP echo request")
    | none =>
      let sentAt := clock s.readings
      match it.writeErr with
      | some e => .error (e.wrap "send ICMP echo request")
      | none =>
        .ok ({
          readings := s.readings + 1
          progress := s.progress.send sentAt
          sent := s.sent ++ [⟨call.id, sequence, echoPayload call.payloadSize⟩] },
          if sequence + 1 < call.packetCount then
            nextSendAt call clock (sequence + 1)
          else loopFinishedAt call clock)
  else .ok (s, nextSendAt call clock sequence)

/-- The deadline of a read. -/
def readDeadline (nextSend : ℤ) : ℤ :=
  let deadline := min nextSend (loopFinishedAt call clock)
  match contextDeadline with
  | some contextDeadline => min contextDeadline deadline
  | none => deadline

/-- A message is read; the clock is read for one that passes the checks. -/
def hearMessage (s : LoopState) (p : Packet) : LoopState :=
  if s.progress.hears call.id p then
    { s with
      readings := s.readings + 1
      progress := s.progress.read call.id call.packetTimeout (clock s.readings) p }
  else s

/-- The part of an iteration that reads. -/
def readOne (it : Iteration) (s : LoopState) (nextSend : ℤ) : LoopStep :=
  match it.setDeadlineErr with
  | some e => .fail (e.wrap "set ICMP packet read deadline")
  | none =>
    match it.read (readDeadline call clock contextDeadline nextSend) with
    | .message p => .proceed (hearMessage call clock s p)
    | .timeout =>
      if it.contextErrAfterRead = some .deadlineExceeded ∧
          call.packetCount ≤ s.progress.sequence then .leave s
      else .proceed s
    | .failed e =>
      if it.contextErrAfterRead = some .deadlineExceeded ∧
          call.packetCount ≤ s.progress.sequence then .leave s
      else .fail (e.wrap "read ICMP echo response")

/-- One iteration of the loop. -/
def iterate (it : Iteration) (s : LoopState) : LoopStep :=
  match it.contextErr with
  | some e =>
    if e = .deadlineExceeded ∧ call.packetCount ≤ s.progress.sequence then .leave s
    else .fail e.transport
  | none =>
    match sendIfDue call clock it s with
    | .error e => .fail e
    | .ok (s, nextSend) => readOne call clock contextDeadline it s nextSend

/-- The condition of the loop, and the state once it is evaluated: the clock is
only read when everything was sent. -/
def loopCondition (s : LoopState) : Bool × LoopState :=
  if s.progress.sequence < call.packetCount then (true, s)
  else (clock s.readings < loopFinishedAt call clock, { s with readings := s.readings + 1 })

/-- The loop, if it ends within the iterations. -/
def exchangeLoop : List Iteration → LoopState → Option (Except TransportError LoopState)
  | [], s =>
    match loopCondition call clock s with
    | (true, _) => none
    | (false, s) => some (.ok s)
  | it :: its, s =>
    match loopCondition call clock s with
    | (true, s) =>
      match iterate call clock contextDeadline it s with
      | .proceed s => exchangeLoop its s
      | .leave s => some (.ok s)
      | .fail e => some (.error e)
    | (false, s) => some (.ok s)

end Loop

/-- What an exchange meets. -/
structure ExchangeEnvironment where
  pid : ℕ
  /-- `LookupIPAddr` -/
  addresses : Except TransportError (List IpAddress)
  listenErr : Option TransportError := none
  contextDeadline : Option ℤ := none
  clock : ℕ → ℤ
  iterations : List Iteration
  /-- `ctx.Err()` after the exchange. -/
  contextErr : Option ContextError := none

/-- `NativeTransport.Exchange`: the requests that were sent, and the samples in
nanoseconds. -/
def exchange (family : AddressFamily) (call : ExchangeCall) (env : ExchangeEnvironment) :
    Option (Except TransportError (List EchoRequest × List ℤ)) :=
  match env.addresses with
  | .error e => some (.error (e.wrap "resolve ICMP target"))
  | .ok addresses =>
    match resolve family addresses with
    | none => some (.error
        { diagnostic := "target has no address in the requested family" })
    | some _ =>
      match env.listenErr with
      | some e => some (.error (e.wrap "open native ICMP socket"))
      | none =>
        match exchangeLoop call env.clock env.contextDeadline env.iterations
            { readings := 1 } with
        | none => none
        | some (.error e) => some (.error e)
        | some (.ok s) => some (.ok (s.sent, s.progress.samples call.packetCount))

/-! ## Results (`result.go`) -/

structure IcmpResult where
  packetsSent : ℤ
  packetsReceived : ℤ
  packetLossPercent : ℚ
  minimumRttMs : Option ℚ := none
  averageRttMs : Option ℚ := none
  medianRttMs : Option ℚ := none
  maximumRttMs : Option ℚ := none
  p95RttMs : Option ℚ := none
  jitterMs : Option ℚ := none
  rttSamplesMs : List ℚ

/-- `percentile`, unless an index is out of range. -/
def percentile (sorted : List ℚ) (fraction : ℚ) : Option ℚ :=
  let position := ((sorted.length : ℚ) - 1) * fraction
  let lower := ⌊position⌋.toNat
  let upper := ⌈position⌉.toNat
  if lower = upper then sorted[lower]?
  else
    let weight := position - lower
    sorted[lower]?.bind fun low =>
      sorted[upper]?.map fun high => low + (high - low) * weight

/-- The sum of the differences between neighbours. -/
def differences : List ℚ → ℚ
  | x :: y :: rest => |y - x| + differences (y :: rest)
  | _ => 0

/-- `CalculateResult`. An index out of range would be a panic. -/
def calculateResult (packetsSent : ℤ) (samplesMs : List ℚ) : Except String IcmpResult :=
  if packetsSent < 1 ∨ maximumPacketCount < packetsSent ∨ packetsSent < samplesMs.length then
    .error "ICMP packet counts are invalid"
  else if samplesMs.any (· < 0) then
    .error "ICMP RTT samples must be finite and non-negative"
  else
    let result : IcmpResult := {
      packetsSent := packetsSent
      packetsReceived := samplesMs.length
      packetLossPercent := 100 * ((packetsSent : ℚ) - samplesMs.length) / packetsSent
      rttSamplesMs := samplesMs }
    if samplesMs = [] then .ok result
    else
      let sorted := samplesMs.insertionSort (· ≤ ·)
      match sorted.head?, sorted.getLast?, percentile sorted (1 / 2),
          percentile sorted (19 / 20) with
      | some minimum, some maximum, some median, some p95 => .ok { result with
          minimumRttMs := some minimum
          averageRttMs := some (sorted.sum / sorted.length)
          medianRttMs := some median
          maximumRttMs := some maximum
          p95RttMs := some p95
          jitterMs :=
            if 1 < samplesMs.length then
              some (differences samplesMs / ((samplesMs.length : ℚ) - 1))
            else none }
      | _, _, _, _ => .error "index out of range"

/-- `Assess`. -/
def assess (c : IcmpConfiguration) (r : IcmpResult) : Bool :=
  if r.packetsReceived = 0 then false
  else if c.maximumPacketLoss.any (· < r.packetLossPercent) then false
  else if c.maximumAverageRttMs.any (fun maximum => r.averageRttMs.any (maximum < ·)) then
    false
  else true

/-! ## The probe (`probe.go`) -/

/-- The exchange that a configuration asks for. -/
def IcmpConfiguration.call (c : IcmpConfiguration) (pid : ℕ) (packetTimeout : ℤ) :
    ExchangeCall where
  id := IcmpProcess.identifier pid
  packetCount := c.packetCount.toNat
  packetInterval := c.packetIntervalMs * 1000000
  packetTimeout := packetTimeout
  payloadSize := c.payloadSizeBytes.toNat

end Bifrostnms.Agent
