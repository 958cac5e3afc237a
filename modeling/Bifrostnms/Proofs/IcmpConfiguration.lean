import Bifrostnms.Proofs.ConfigurationDocument
import Bifrostnms.Proofs.IcmpProbe

/-!
# The packet timeout of an ICMP monitor on both sides

The server writes a packet timeout into an ICMP configuration that has none: all the
time that the sequence of packets leaves. Validation comes before that, so the bound of
60000 ms holds for a timeout that was asked for and not for one that is computed. The
agent checks the bound on what it gets. Where the stored timeout is within it, the agent
accepts the configuration and comes to the same timeout (`icmp_timeout_iff`); a monitor
with two minutes and the defaults for the rest is rejected (`icmp_default_rejected`).
-/

namespace Bifrostnms.Proofs

open Bifrostnms.Lib Bifrostnms.Lib.GoJson Bifrostnms.Backend Bifrostnms.Agent

/-- The agent's family of the same name. -/
def familyOf : Backend.AddressFamily → Agent.AddressFamily
  | .auto => .auto
  | .ipv4 => .ipv4
  | .ipv6 => .ipv6

theorem addressFamilyOf_text (family : Backend.AddressFamily) :
    RawIcmpConfiguration.addressFamilyOf family.text = some (familyOf family) := by
  cases family <;> rfl

/-- Apart from the packet timeout, what the server has checked passes the agent's
checks. -/
theorem validate_withFamily {c : IcmpProbeConfiguration} {ms : ℤ} (hvalid : ValidIcmp c)
    (hpos : 1 ≤ ms) (family : Agent.AddressFamily) {u : Unit} :
    ((icmpStruct { c with perPacketTimeoutMs := some ms }).withFamily family).validate =
      .ok u ↔ ms ≤ 60000 := by
  have hthreshold {o : Option Decimal} {P : ℚ → Prop} (h : ∀ x ∈ o, P x.value) :
      ∀ x ∈ o.map Decimal.value, P x := by
    intro x hx
    obtain ⟨d, hd, rfl⟩ := Option.map_eq_some_iff.mp hx
    exact h d hd
  rw [validate_eq_ok]
  constructor
  · intro h
    exact h.2.2.2.1.2
  · intro h
    refine ⟨rfl, hvalid.packetCount, hvalid.packetIntervalMs, ⟨?_, h⟩, hvalid.payloadSizeBytes,
      hthreshold fun x hx => (hvalid.maximumPacketLossPercent x hx).1,
      hthreshold hvalid.maximumAverageRttMs,
      hthreshold fun x hx => (hvalid.maximumPacketLossPercent x hx).2⟩
    show 0 ≤ ms
    omega

/-- `DecodeConfiguration` of what the server stored. -/
theorem decodeIcmp_dump {c : IcmpProbeConfiguration} {ms : ℤ} (hvalid : ValidIcmp c)
    (hpos : 1 ≤ ms) {agent : IcmpConfiguration} : decodeIcmp
      (TypedProbeConfiguration.icmp { c with perPacketTimeoutMs := some ms }).modelDump =
      .ok agent ↔ ms ≤ 60000 ∧ (icmpStruct { c with perPacketTimeoutMs := some ms }).withFamily
          (familyOf c.addressFamily) = agent := by
  by_cases hint : IsInt ms
  · rw [decodeIcmp, decodeStrict_eq_ok, decodeStruct_icmp hvalid hint]
    have hfamily : RawIcmpConfiguration.addressFamilyOf
        (icmpStruct { c with perPacketTimeoutMs := some ms }).addressFamily =
        some (familyOf c.addressFamily) := addressFamilyOf_text c.addressFamily
    simp only [Option.some.injEq, exists_eq_left', RawIcmpConfiguration.check, hfamily,
      bind_eq_ok, validate_withFamily hvalid hpos, exists_const, pure, Except.pure, Except.ok.injEq]
  · rw [decodeIcmp, decodeStrict_eq_ok, decodeStruct_icmp_none hvalid hint]
    constructor
    · rintro ⟨_, h, -⟩
      cases h
    · rintro ⟨h, -⟩
      exact absurd (isInt_of_between ⟨hpos, h⟩ (by decide) (by decide)) hint

/-! ## The timeout -/

/-- A packet timeout that is given and fits is the one that is used. -/
theorem timeout_of_fits {c : IcmpConfiguration} {monitorTimeout remaining : ℤ}
    (hremaining : monitorTimeout - (c.packetCount - 1) * (c.packetIntervalMs * 1000000) = remaining)
    (hms : 1000000 ≤ remaining) (hgiven : c.perPacketTimeoutMs ≠ 0)
    (hfits : c.perPacketTimeoutMs * 1000000 ≤ remaining) :
    c.timeout monitorTimeout = .ok (c.perPacketTimeoutMs * 1000000) := by
  simp only [IcmpConfiguration.timeout, hremaining, if_neg hgiven]
  rw [if_neg (by omega), if_neg (by omega)]

/-- What the agent calls the remaining time is the server's, in nanoseconds. -/
theorem timeout_withFamily {c : IcmpProbeConfiguration} {seconds : ℤ}
    (hpos : 1 ≤ packetTimeoutMs c seconds)
    (hfits : packetTimeoutMs c seconds ≤ availableMs c seconds) (family : Agent.AddressFamily) :
    ((icmpStruct { c with perPacketTimeoutMs := some (packetTimeoutMs c seconds) }).withFamily
      family).timeout (seconds * 1000000000) = .ok (packetTimeoutMs c seconds * 1000000) := by
  have hremaining : seconds * 1000000000 -
      (c.packetCount - 1) * (c.packetIntervalMs * 1000000) = availableMs c seconds * 1000000 := by
    rw [availableMs]
    ring
  refine timeout_of_fits hremaining (by omega) ?_ ?_
  · show packetTimeoutMs c seconds ≠ 0
    omega
  · show packetTimeoutMs c seconds * 1000000 ≤ availableMs c seconds * 1000000
    omega

/-- The agent accepts what the server stored, and its timeout for a packet is the stored
one, exactly if a timeout was asked for or the time that is left is at most a minute. -/
theorem icmp_timeout_iff (txt : PyText) (c : IcmpProbeConfiguration) (seconds : ℤ)
    (dump : Json JsonNum)
    (h : serializeProbeConfiguration txt (.icmp c) (some seconds) = .ok dump) :
    (∃ agent ms, decodeIcmp dump = .ok agent ∧
      dump.members.lookup "per_packet_timeout_ms" = some (jsonInt ms) ∧
      agent.timeout (seconds * 1000000000) = .ok (ms * 1000000)) ↔
      (c.perPacketTimeoutMs = none → availableMs c seconds ≤ 60000) := by
  obtain ⟨c', hnormalize, rfl⟩ := serialize_eq_ok.mp h
  obtain ⟨⟨hvalid, havailable, hfits⟩, rfl⟩ := normalizeIcmp_eq_ok.mp hnormalize
  have hpos : 1 ≤ packetTimeoutMs c seconds := by
    cases htimeout : c.perPacketTimeoutMs with
    | none =>
      rw [packetTimeoutMs, htimeout]
      exact havailable
    | some ms =>
      rw [packetTimeoutMs, htimeout]
      exact (hvalid.perPacketTimeoutMs ms htimeout).1
  constructor
  · rintro ⟨agent, ms, hdecode, -, -⟩ hnone
    have hle := ((decodeIcmp_dump hvalid hpos).mp hdecode).1
    rwa [packetTimeoutMs, hnone] at hle
  · intro hbound
    have hle : packetTimeoutMs c seconds ≤ 60000 := by
      cases htimeout : c.perPacketTimeoutMs with
      | none =>
        rw [packetTimeoutMs, htimeout]
        exact hbound htimeout
      | some ms =>
        rw [packetTimeoutMs, htimeout]
        exact (hvalid.perPacketTimeoutMs ms htimeout).2
    exact ⟨_, packetTimeoutMs c seconds, (decodeIcmp_dump hvalid hpos).mpr ⟨hle, rfl⟩, rfl,
      timeout_withFamily hpos hfits _⟩

theorem icmp_timeout_defaults : ∃ agent ms, decodeIcmp (TypedProbeConfiguration.icmp
        { perPacketTimeoutMs := some 4050 }).modelDump = .ok agent ∧
      (TypedProbeConfiguration.icmp { perPacketTimeoutMs := some 4050 }).modelDump.members.lookup
        "per_packet_timeout_ms" = some (jsonInt ms) ∧
      agent.timeout (5 * 1000000000) = .ok (ms * 1000000) :=
  (icmp_timeout_iff ⟨id, id, id, fun _ => false⟩ {} 5 _ rfl).mpr fun _ => by decide

/-- Twenty packets, one every 50 ms, within two minutes: the packet timeout that is
stored is 119050 ms. -/
theorem icmp_default_rejected : ∃ (c : IcmpProbeConfiguration) (seconds : ℤ) (dump : Json JsonNum),
    (∀ txt, serializeProbeConfiguration txt (.icmp c) (some seconds) = .ok dump) ∧
      decodeIcmp dump = .error (.invalid
        "per_packet_timeout_ms must be within 1..60000 when supplied") :=
  ⟨{}, 120, (TypedProbeConfiguration.icmp { perPacketTimeoutMs := some 119050 }).modelDump,
    fun _ => rfl, rfl⟩

end Bifrostnms.Proofs
