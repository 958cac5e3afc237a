import Bifrostnms.Backend.Revisions
import Bifrostnms.Proofs.ConfigurationHash

/-!
# Revisions and snapshots of one agent

The rows of an agent under configuration requests, bumps and acknowledgements,
in any order and with any monitors found by the requests. The snapshots only
grow, one for a revision, and none is ahead of the desired revision; so what
has been issued for a revision stays what it was, however late an
acknowledgement of it arrives.

A request writes the desired revision only together with a new hash. That the
very first one moves it from 0 to 1 rests on a hash never being the empty text
that the row starts with.
-/

namespace Bifrostnms.Proofs

open Bifrostnms.Lib Bifrostnms.Protocol Bifrostnms.Backend

/-! ## One request -/

section Request

variable {sha256 : List UInt8 → List UInt8} {agentId realmId : Uuid}
  {operational : Option Capabilities} {monitors : List Monitor}
  {rows rows' : ConfigurationRows} {result : ConfigurationResult}

/-- What the snapshots are after a request: as before, or with the new one at
the end when the revision had none. -/
theorem getOrCreateSnapshot_cases (snapshots : List Backend.ConfigurationSnapshot)
    (created : Backend.ConfigurationSnapshot) :
    ((getOrCreateSnapshot snapshots created).1 = snapshots ∧
        (getOrCreateSnapshot snapshots created).2 ∈ snapshots ∧
        (getOrCreateSnapshot snapshots created).2.revision = created.revision) ∨
      (getOrCreateSnapshot snapshots created = (snapshots ++ [created], created) ∧
        ∀ s ∈ snapshots, s.revision ≠ created.revision) := by
  unfold getOrCreateSnapshot
  split
  · next s hs =>
      exact .inl ⟨rfl, List.mem_of_find?_eq_some hs, beq_iff_eq.mp (List.find?_some hs :)⟩
  · next hs =>
      refine .inr ⟨rfl, fun s hmem => ?_⟩
      have hne := List.find?_eq_none.mp hs s hmem
      rwa [beq_iff_eq] at hne

/-- A request that succeeds, as a whole. -/
structure Answered (sha256 : List UInt8 → List UInt8) (agentId realmId : Uuid)
    (rows rows' : ConfigurationRows) (result : ConfigurationResult) : Prop where
  hash : result.snapshot.contentHash = contentHash sha256 agentId realmId result.monitors
  revision : result.snapshot.revision = rows.state.requested
  state : rows'.state = if rows.state.desiredContentHash ≠ result.snapshot.contentHash then
      { rows.state with
        desiredRevision := rows.state.requested
        desiredContentHash := result.snapshot.contentHash }
    else rows.state
  snapshots : (rows'.snapshots = rows.snapshots ∧ result.snapshot ∈ rows.snapshots) ∨
    (rows'.snapshots = rows.snapshots ++ [result.snapshot] ∧
      result.snapshot.monitors = result.monitors ∧
      ∀ s ∈ rows.snapshots, s.revision ≠ rows.state.requested)

theorem getOrCreateConfiguration_answered
    (h : getOrCreateConfiguration sha256 agentId realmId operational monitors
      rows = .ok (rows', result)) : (∃ capabilities, operational = some capabilities ∧
      entries capabilities monitors = .ok result.monitors) ∧
    Answered sha256 agentId realmId rows rows' result := by
  cases operational with
  | none => cases h
  | some capabilities =>
    simp only [getOrCreateConfiguration, bind_eq_ok] at h
    obtain ⟨es, hes, h⟩ := h
    split at h
    · cases h
    · next hhash =>
        rw [not_not] at hhash
        simp only [Except.ok.injEq, Prod.mk.injEq] at h
        obtain ⟨rfl, rfl⟩ := h
        refine ⟨⟨capabilities, rfl, hes⟩, hhash, ?_, ?_, ?_⟩
        · exact getOrCreateSnapshot_revision _ _
        · simp only [hhash]
        · rcases getOrCreateSnapshot_cases rows.snapshots
            ⟨rows.state.requested, contentHash sha256 agentId realmId es, es⟩
            with ⟨hsame, hmem, -⟩ | ⟨hnew, hfresh⟩
          · exact .inl ⟨hsame, hmem⟩
          · refine .inr ⟨?_, ?_, hfresh⟩
            · simp only [hnew]
            · simp only [hnew]

/-- Why a request raises. -/
theorem getOrCreateConfiguration_eq_error {e : AgentProtocolError}
    (h : getOrCreateConfiguration sha256 agentId realmId operational monitors
      rows = .error e) : e.code = "capabilities_required" ∨
      ∃ capabilities, entries capabilities monitors = .error e ∨
        ∃ es, entries capabilities monitors = .ok es ∧
          ∃ s ∈ rows.snapshots, s.revision = rows.state.requested ∧
            s.contentHash ≠ contentHash sha256 agentId realmId es := by
  cases operational with
  | none =>
    cases h
    exact .inl rfl
  | some capabilities =>
    refine .inr ⟨capabilities, ?_⟩
    cases hes : entries capabilities monitors with
    | error e' =>
      simp only [getOrCreateConfiguration, hes] at h
      cases h
      exact .inl rfl
    | ok es =>
      refine .inr ⟨es, rfl, ?_⟩
      simp only [getOrCreateConfiguration, hes] at h
      change ite ((getOrCreateSnapshot _ _).2.contentHash ≠ _) _ _ = _ at h
      split at h
      · next hhash =>
          rcases getOrCreateSnapshot_cases rows.snapshots
            ⟨rows.state.requested, contentHash sha256 agentId realmId es, es⟩
            with ⟨-, hmem, hrevision⟩ | ⟨hnew, -⟩
          · exact ⟨_, hmem, hrevision, hhash⟩
          · exact absurd (by rw [hnew]) hhash
      · cases h

theorem Answered.mem (h : Answered sha256 agentId realmId rows rows' result) :
    result.snapshot ∈ rows'.snapshots := by
  rcases h.snapshots with ⟨hsame, hmem⟩ | ⟨hnew, -⟩
  · rwa [hsame]
  · rw [hnew]
    exact List.mem_append_right _ (List.mem_singleton_self _)

end Request

/-! ## The rows in order -/

/-- No snapshot is ahead of the desired revision, and a revision has one
snapshot. -/
structure Ordered (rows : ConfigurationRows) : Prop where
  snapshots_le : ∀ s ∈ rows.snapshots, s.revision ≤ rows.state.desiredRevision
  nodup : (rows.snapshots.map (·.revision)).Nodup
  unset : rows.state.desiredRevision = 0 → rows.state.desiredContentHash = ""

section Ordered

variable {sha256 : List UInt8 → List UInt8} {agentId realmId : Uuid}
  {operational : Option Capabilities} {monitors : List Monitor}
  {rows rows' : ConfigurationRows} {result : ConfigurationResult}

theorem contentHash_ne_empty (hsha : ∀ bytes, sha256 bytes ≠ []) (es : List MonitorConfiguration) :
    contentHash sha256 agentId realmId es ≠ "" := by
  intro h
  have htext := congrArg (fun s => s.toList.length) h
  rw [contentHash] at htext
  simp only [String.toList_ofList, length_hexText] at htext
  have hlength : (sha256 (hashedBytes agentId realmId es)).length = 0 := by
    have hempty : "".toList.length = 0 := rfl
    omega
  exact hsha _ (List.length_eq_zero_iff.mp hlength)

/-- After a request the desired revision is the one it was answered with. -/
theorem Answered.desiredRevision (hsha : ∀ bytes, sha256 bytes ≠ []) (hrows : Ordered rows)
    (h : Answered sha256 agentId realmId rows rows' result) :
    rows'.state.desiredRevision = rows.state.requested := by
  rw [h.state]
  split
  · rfl
  · next hsame =>
      rw [not_not] at hsame
      unfold ConfigurationState.requested
      split
      · next hzero =>
          -- The row still has the empty hash, so it would have been written.
          rw [hrows.unset hzero, h.hash] at hsame
          exact absurd hsame.symm (contentHash_ne_empty hsha _)
      · rfl

theorem desiredRevision_le_requested (s : ConfigurationState) :
    s.desiredRevision ≤ s.requested := by
  unfold ConfigurationState.requested
  split <;> omega

theorem Ordered.request (hsha : ∀ bytes, sha256 bytes ≠ []) (hrows : Ordered rows)
    (h : Answered sha256 agentId realmId rows rows' result) : Ordered rows' := by
  have hdesired := h.desiredRevision hsha hrows
  have hle := desiredRevision_le_requested rows.state
  have hpos := one_le_requested rows.state
  refine ⟨fun s hs => ?_, ?_, fun hzero => ?_⟩
  · rw [hdesired]
    rcases h.snapshots with ⟨hsame, -⟩ | ⟨hnew, -⟩
    · rw [hsame] at hs
      exact (hrows.snapshots_le s hs).trans hle
    · rw [hnew] at hs
      rcases List.mem_append.mp hs with hs | hs
      · exact (hrows.snapshots_le s hs).trans hle
      · rw [List.mem_singleton.mp hs, h.revision]
  · rcases h.snapshots with ⟨hsame, -⟩ | ⟨hnew, -, hfresh⟩
    · rw [hsame]
      exact hrows.nodup
    · rw [hnew, List.map_append]
      refine hrows.nodup.append (List.nodup_singleton _) ?_
      intro revision hold hnew
      obtain ⟨s, hs, rfl⟩ := List.mem_map.mp hold
      have heq : s.revision = result.snapshot.revision := by simpa using hnew
      exact hfresh s hs (heq.trans h.revision)
  · omega

theorem Ordered.bump (hrows : Ordered rows) : Ordered rows.bump where
  snapshots_le s hs := (hrows.snapshots_le s hs).trans (Nat.le_succ _)
  nodup := hrows.nodup
  unset _ := rfl

theorem acknowledge_snapshots (rows : ConfigurationRows) (revision : ℕ) (digest : String) :
    (rows.acknowledge revision digest).snapshots = rows.snapshots := by
  unfold ConfigurationRows.acknowledge
  split <;> rfl

theorem acknowledge_desired (rows : ConfigurationRows) (revision : ℕ) (digest : String) :
    (rows.acknowledge revision digest).state.desiredRevision = rows.state.desiredRevision ∧
      (rows.acknowledge revision digest).state.desiredContentHash =
        rows.state.desiredContentHash := by
  unfold ConfigurationRows.acknowledge
  split <;> exact ⟨rfl, rfl⟩

theorem Ordered.acknowledge (hrows : Ordered rows) (revision : ℕ)
    (digest : String) : Ordered (rows.acknowledge revision digest) := by
  obtain ⟨hdesired, hhash⟩ := acknowledge_desired rows revision digest
  refine ⟨?_, ?_, ?_⟩
  · rw [acknowledge_snapshots, hdesired]
    exact hrows.snapshots_le
  · rw [acknowledge_snapshots]
    exact hrows.nodup
  · rw [hdesired, hhash]
    exact hrows.unset

theorem Ordered.eq_of_revision (hrows : Ordered rows)
    {s t : Backend.ConfigurationSnapshot} (hs : s ∈ rows.snapshots)
    (ht : t ∈ rows.snapshots) (h : s.revision = t.revision) : s = t :=
  List.inj_on_of_nodup_map hrows.nodup hs ht h

end Ordered

/-! ## Runs -/

/-- A snapshot of that revision and digest was issued. -/
def Issued (rows : ConfigurationRows) (revision : ℕ) (digest : String) : Prop :=
  ∃ s ∈ rows.snapshots, s.revision = revision ∧ s.contentHash = digest

/-- What holds of an agent's rows at any time. -/
structure Coherent (sha256 : List UInt8 → List UInt8) (agentId realmId : Uuid)
    (s : AgentConfigurations) : Prop where
  ordered : Ordered s.rows
  acknowledged_le : s.rows.state.acknowledgedRevision ≤ s.rows.state.desiredRevision
  acknowledged : 0 < s.rows.state.acknowledgedRevision →
    Issued s.rows s.rows.state.acknowledgedRevision
      s.rows.state.acknowledgedContentHash
  waiting : ∀ p ∈ s.acknowledging, Issued s.rows p.1 p.2
  responses : ∀ r ∈ s.responses, r.snapshot ∈ s.rows.snapshots ∧
    r.snapshot.contentHash = contentHash sha256 agentId realmId r.monitors

/-- What a step never takes back. -/
structure Extends (s t : AgentConfigurations) : Prop where
  desired : s.rows.state.desiredRevision ≤ t.rows.state.desiredRevision
  acknowledged : s.rows.state.acknowledgedRevision ≤ t.rows.state.acknowledgedRevision
  snapshots : s.rows.snapshots <+: t.rows.snapshots

theorem Extends.refl (s : AgentConfigurations) : Extends s s :=
  ⟨Nat.le_refl _, Nat.le_refl _, List.prefix_rfl⟩

theorem Extends.trans {s t u : AgentConfigurations} (h : Extends s t)
    (h' : Extends t u) : Extends s u :=
  ⟨h.desired.trans h'.desired, h.acknowledged.trans h'.acknowledged, h.snapshots.trans h'.snapshots⟩

theorem Issued.mono {rows rows' : ConfigurationRows} {revision : ℕ} {digest : String}
    (h : Issued rows revision digest) (hgrow : rows.snapshots <+: rows'.snapshots) :
    Issued rows' revision digest := by
  obtain ⟨s, hs, hrest⟩ := h
  exact ⟨s, hgrow.subset hs, hrest⟩

section Runs

variable {sha256 : List UInt8 → List UInt8} {agentId realmId : Uuid}
  {s t : AgentConfigurations} {event : ConfigurationEvent}

theorem coherent_init : Coherent sha256 agentId realmId {} where
  ordered := ⟨fun _ h => (by cases h), List.nodup_nil, fun _ => rfl⟩
  acknowledged_le := Nat.le_refl _
  acknowledged h := absurd h (Nat.lt_irrefl _)
  waiting _ h := by cases h
  responses _ h := by cases h

theorem Coherent.request (hsha : ∀ bytes, sha256 bytes ≠ [])
    {rows : ConfigurationRows} {result : ConfigurationResult}
    (hs : Coherent sha256 agentId realmId s)
    (h : Answered sha256 agentId realmId s.rows rows result) : Coherent sha256 agentId realmId
        { s with rows := rows, responses := s.responses ++ [result] } ∧
      Extends s { s with rows := rows, responses := s.responses ++ [result] } := by
  have hgrow : s.rows.snapshots <+: rows.snapshots := by
    rcases h.snapshots with ⟨hsame, -⟩ | ⟨hnew, -⟩
    · rw [hsame]
    · rw [hnew]
      exact List.prefix_append _ _
  have hdesired : s.rows.state.desiredRevision ≤ rows.state.desiredRevision := by
    rw [h.desiredRevision hsha hs.ordered]
    exact desiredRevision_le_requested _
  have hack : rows.state.acknowledgedRevision = s.rows.state.acknowledgedRevision ∧
      rows.state.acknowledgedContentHash = s.rows.state.acknowledgedContentHash := by
    rw [h.state]
    split <;> exact ⟨rfl, rfl⟩
  refine ⟨⟨hs.ordered.request hsha h, ?_, ?_, ?_, ?_⟩, hdesired, ?_, hgrow⟩
  · show rows.state.acknowledgedRevision ≤ rows.state.desiredRevision
    rw [hack.1]
    exact hs.acknowledged_le.trans hdesired
  · show 0 < rows.state.acknowledgedRevision → Issued rows
      rows.state.acknowledgedRevision rows.state.acknowledgedContentHash
    rw [hack.1, hack.2]
    exact fun hpos => (hs.acknowledged hpos).mono hgrow
  · exact fun p hp => (hs.waiting p hp).mono hgrow
  · intro r hr
    rcases List.mem_append.mp hr with hr | hr
    · obtain ⟨hmem, hhash⟩ := hs.responses r hr
      exact ⟨hgrow.subset hmem, hhash⟩
    · rw [List.mem_singleton.mp hr]
      exact ⟨h.mem, h.hash⟩
  · exact hack.1.ge

theorem Coherent.acknowledge {revision : ℕ} {digest : String} {i : ℕ}
    (hs : Coherent sha256 agentId realmId s) (hissued : Issued s.rows revision digest) :
    Coherent sha256 agentId realmId
        { s with
          rows := s.rows.acknowledge revision digest
          acknowledging := s.acknowledging.eraseIdx i } ∧ Extends s { s with
          rows := s.rows.acknowledge revision digest
          acknowledging := s.acknowledging.eraseIdx i } := by
  have hle : revision ≤ s.rows.state.desiredRevision := by
    obtain ⟨snapshot, hmem, rfl, -⟩ := hissued
    exact hs.ordered.snapshots_le snapshot hmem
  have hsame := acknowledge_snapshots s.rows revision digest
  have hdesired := (acknowledge_desired s.rows revision digest).1
  have hgrow : s.rows.snapshots <+: (s.rows.acknowledge revision digest).snapshots := by rw [hsame]
  have hrows := hs.ordered.acknowledge revision digest
  have hstate : s.rows.state.acknowledgedRevision ≤
        (s.rows.acknowledge revision digest).state.acknowledgedRevision ∧
      ((s.rows.acknowledge revision digest).state.acknowledgedRevision =
            s.rows.state.acknowledgedRevision ∧
          (s.rows.acknowledge revision digest).state.acknowledgedContentHash =
            s.rows.state.acknowledgedContentHash ∨
        (s.rows.acknowledge revision digest).state.acknowledgedRevision = revision ∧
          (s.rows.acknowledge revision digest).state.acknowledgedContentHash = digest) := by
    unfold ConfigurationRows.acknowledge
    split
    · next hnewer => exact ⟨hnewer, .inr ⟨rfl, rfl⟩⟩
    · exact ⟨Nat.le_refl _, .inl ⟨rfl, rfl⟩⟩
  refine ⟨⟨hrows, ?_, ?_, ?_, ?_⟩, hdesired.ge, hstate.1, hgrow⟩
  · show (s.rows.acknowledge revision digest).state.acknowledgedRevision ≤
      (s.rows.acknowledge revision digest).state.desiredRevision
    rw [hdesired]
    rcases hstate.2 with ⟨hold, -⟩ | ⟨hnew, -⟩
    · rw [hold]
      exact hs.acknowledged_le
    · rw [hnew]
      exact hle
  · intro hpos
    show Issued (s.rows.acknowledge revision digest) _ _
    rcases hstate.2 with ⟨hold, hhash⟩ | ⟨hnew, hhash⟩
    · rw [hold, hhash]
      exact (hs.acknowledged (hold ▸ hpos)).mono hgrow
    · rw [hnew, hhash]
      exact hissued.mono hgrow
  · exact fun p hp => (hs.waiting p (List.mem_of_mem_eraseIdx hp)).mono hgrow
  · intro r hr
    obtain ⟨hmem, hhash⟩ := hs.responses r hr
    exact ⟨hgrow.subset hmem, hhash⟩

/-- One event. -/
theorem step_coherent (hsha : ∀ bytes, sha256 bytes ≠ []) (hs : Coherent sha256 agentId realmId s)
    (hstep : s.step sha256 agentId realmId event = some t) :
    Coherent sha256 agentId realmId t ∧ Extends s t := by
  cases event with
  | request operational monitors =>
    rw [AgentConfigurations.step] at hstep
    split at hstep
    · cases hstep
      exact ⟨hs, .refl s⟩
    · next rows result hok =>
        cases hstep
        exact hs.request hsha (getOrCreateConfiguration_answered hok).2
  | bump =>
    cases hstep
    have hle : s.rows.state.desiredRevision ≤ s.rows.state.desiredRevision + 1 := Nat.le_succ _
    exact ⟨⟨hs.ordered.bump, hs.acknowledged_le.trans hle, hs.acknowledged,
      hs.waiting, hs.responses⟩, hle, Nat.le_refl _, List.prefix_rfl⟩
  | acknowledge revision hash =>
    rw [AgentConfigurations.step] at hstep
    split at hstep
    · cases hstep
      exact ⟨hs, .refl s⟩
    · next hok =>
        cases hstep
        refine ⟨⟨hs.ordered, hs.acknowledged_le, hs.acknowledged, ?_,
          hs.responses⟩, Nat.le_refl _, Nat.le_refl _, List.prefix_rfl⟩
        intro p hp
        rcases List.mem_append.mp hp with hp | hp
        · exact hs.waiting p hp
        · rw [List.mem_singleton.mp hp]
          unfold ConfigurationRows.findAcknowledged at hok
          split at hok
          · next hany =>
              obtain ⟨snapshot, hmem, heq⟩ := List.any_eq_true.mp hany
              rw [Bool.and_eq_true, beq_iff_eq, beq_iff_eq] at heq
              exact ⟨snapshot, hmem, heq⟩
          · cases hok
  | locked i =>
    rw [AgentConfigurations.step] at hstep
    split at hstep
    · next revision digest hget =>
        cases hstep
        exact hs.acknowledge
          (hs.waiting (revision, digest) (List.mem_of_getElem? hget))
    · cases hstep

theorem run_coherent (hsha : ∀ bytes, sha256 bytes ≠ []) {events : List ConfigurationEvent}
    (hs : Coherent sha256 agentId realmId s)
    (hrun : runSteps (AgentConfigurations.step sha256 agentId realmId) events s = some t) :
    Coherent sha256 agentId realmId t ∧ Extends s t :=
  runSteps_preserves
    (P := fun u => Coherent sha256 agentId realmId u ∧ Extends s u)
    (fun hu hstep =>
      have hnext := step_coherent hsha hu.1 hstep
      ⟨hnext.1, hu.2.trans hnext.2⟩)
    ⟨hs, .refl s⟩ hrun

end Runs

/-! ## Responses of one revision -/

/-- The monitors of a document as text, with the keys in order. -/
def monitorsText (es : List MonitorConfiguration) : List Char :=
  ((Json.arr (es.map entryJson)).sortKeys codePointLe).encode
    JsonText.pyEncoder

theorem monitorsText_of_hashedBytes {agentId realmId : Uuid} {es es' : List MonitorConfiguration}
    (h : hashedBytes agentId realmId es = hashedBytes agentId realmId es') :
    monitorsText es = monitorsText es' := by
  have hsorted : ∀ es, (hashInput agentId realmId es).sortKeys codePointLe =
      .obj [("agent_id", .str agentId.text), ("configuration_schema_version", jsonInt 1),
        ("monitors", (Json.arr (es.map entryJson)).sortKeys codePointLe),
        ("realm_id", .str realmId.text)] := fun _ => rfl
  rw [hashedBytes, hashedBytes, utf8_inj, Json.encode_eq_iff, hsorted, hsorted] at h
  simp only [Json.Aligned, Json.AlignedMembers] at h
  exact Json.encode_eq_iff.mpr h.2.2.2.2.2.1

section Responses

variable {sha256 : List UInt8 → List UInt8} {agentId realmId : Uuid}
  {s t : AgentConfigurations}

theorem Coherent.same_revision (hinj : Function.Injective sha256)
    (hs : Coherent sha256 agentId realmId s) {r r' : ConfigurationResult}
    (hr : r ∈ s.responses) (hr' : r' ∈ s.responses)
    (h : r.snapshot.revision = r'.snapshot.revision) :
    r.snapshot.contentHash = r'.snapshot.contentHash ∧
      monitorsText r.monitors = monitorsText r'.monitors := by
  obtain ⟨hmem, hhash⟩ := hs.responses r hr
  obtain ⟨hmem', hhash'⟩ := hs.responses r' hr'
  have hsnapshot := hs.ordered.eq_of_revision hmem hmem' h
  refine ⟨congrArg _ hsnapshot, ?_⟩
  have hdigest : contentHash sha256 agentId realmId r.monitors =
      contentHash sha256 agentId realmId r'.monitors := by
    rw [← hhash, ← hhash', hsnapshot]
  rw [contentHash, contentHash, String.ofList_inj] at hdigest
  exact monitorsText_of_hashedBytes (hinj (hexText_inj hdigest))

/-- From the first request on, whatever happens in between: revisions never go
back, nothing is ahead of the desired revision, an acknowledged configuration
is one that was issued, snapshots stay, responses of one revision say the same,
and what raises changes nothing. -/
theorem revisions_consistent (hinj : Function.Injective sha256) (hsha : ∀ bytes, sha256 bytes ≠ [])
    {events events' : List ConfigurationEvent}
    (hs : runSteps (AgentConfigurations.step sha256 agentId realmId) events {} = some s)
    (ht : runSteps (AgentConfigurations.step sha256 agentId realmId) events' s = some t) :
    (s.rows.state.desiredRevision ≤ t.rows.state.desiredRevision ∧
      s.rows.state.acknowledgedRevision ≤ t.rows.state.acknowledgedRevision) ∧
    (t.rows.state.acknowledgedRevision ≤ t.rows.state.desiredRevision ∧
      ∀ snapshot ∈ t.rows.snapshots, snapshot.revision ≤ t.rows.state.desiredRevision) ∧
    (0 < t.rows.state.acknowledgedRevision → ∃ snapshot ∈ t.rows.snapshots,
      snapshot.revision = t.rows.state.acknowledgedRevision ∧
      snapshot.contentHash = t.rows.state.acknowledgedContentHash) ∧
    (s.rows.snapshots <+: t.rows.snapshots ∧ (t.rows.snapshots.map (·.revision)).Nodup) ∧
    (∀ r ∈ t.responses, ∀ r' ∈ t.responses, r.snapshot.revision = r'.snapshot.revision →
      r.snapshot.contentHash = r'.snapshot.contentHash ∧
        monitorsText r.monitors = monitorsText r'.monitors) ∧ (∀ operational monitors e,
      getOrCreateConfiguration sha256 agentId realmId operational monitors
        t.rows = .error e →
      t.step sha256 agentId realmId (.request operational monitors) = some t) ∧ (∀ revision hash e,
      t.rows.findAcknowledged revision (digestOf hash) = .error e →
      t.step sha256 agentId realmId (.acknowledge revision hash) = some t) := by
  have hconsistent := (run_coherent hsha coherent_init hs).1
  obtain ⟨hfinal, hextends⟩ := run_coherent hsha hconsistent ht
  refine ⟨⟨hextends.desired, hextends.acknowledged⟩,
    ⟨hfinal.acknowledged_le, hfinal.ordered.snapshots_le⟩, hfinal.acknowledged,
    ⟨hextends.snapshots, hfinal.ordered.nodup⟩, ?_, ?_, ?_⟩
  · exact fun r hr r' hr' => hfinal.same_revision hinj hr hr'
  · intro operational monitors e hraise
    rw [AgentConfigurations.step, hraise]
  · intro revision hash e hraise
    rw [AgentConfigurations.step, hraise]

end Responses

/-! ## A late acknowledgement -/

/-- The rows after the first request. -/
theorem getOrCreateConfiguration_unset {sha256 : List UInt8 → List UInt8}
    {capabilities : Capabilities} {monitors : List Monitor}
    {es : List MonitorConfiguration} (agentId realmId : Uuid) (hsha : ∀ bytes, sha256 bytes ≠ [])
    (h : entries capabilities monitors = .ok es) :
    getOrCreateConfiguration sha256 agentId realmId (some capabilities) monitors
        {} = .ok
      (⟨{ desiredRevision := 1
          desiredContentHash := contentHash sha256 agentId realmId es },
        [⟨1, contentHash sha256 agentId realmId es, es⟩]⟩,
        ⟨⟨1, contentHash sha256 agentId realmId es, es⟩, es⟩) := by
  have hne : ("" : String) ≠ contentHash sha256 agentId realmId es :=
    (contentHash_ne_empty hsha _).symm
  simp only [getOrCreateConfiguration, h]
  show ite (contentHash sha256 agentId realmId es ≠ _) _ _ = _
  rw [if_neg (not_not.mpr rfl)]
  simp only [if_pos hne]
  rfl

/-- A digest that keeps its whole input. -/
def keepingDigest (bytes : List UInt8) : List UInt8 := 0 :: bytes

theorem keepingDigest_injective : Function.Injective keepingDigest :=
  fun _ _ h => (List.cons.inj h).2

theorem keepingDigest_ne_nil (bytes : List UInt8) : keepingDigest bytes ≠ [] :=
  List.cons_ne_nil _ _

/-- What the agent sends back is the hash with the name of the digest. -/
theorem digestOf_named (hash : String) : digestOf ("sha256:" ++ hash) = hash := by
  have htext : ("sha256:" ++ hash).toList = "sha256:".toList ++ hash.toList :=
    String.toList_append
  unfold digestOf
  rw [htext, if_pos (List.isPrefixOf_iff_prefix.mpr (List.prefix_append _ _)),
    List.drop_left, String.ofList_toList]

/-- The desired revision moves on between the two halves of an
acknowledgement. -/
theorem late_acknowledgement {capabilities : Capabilities}
    {monitors : List Monitor} {es : List MonitorConfiguration}
    {agentId realmId : Uuid} {hash : String} (h : entries capabilities monitors = .ok es)
    (hhash : hash = contentHash keepingDigest agentId realmId es) :
    ∃ s t, runSteps (AgentConfigurations.step keepingDigest agentId realmId)
        [.request (some capabilities) monitors, .acknowledge 1 ("sha256:" ++ hash)] {} = some s ∧
      runSteps (AgentConfigurations.step keepingDigest agentId realmId)
        [.bump, .locked 0] s = some t ∧ t.rows.state = ⟨2, "", 1, hash⟩ := by
  have hfirst :=
    getOrCreateConfiguration_unset agentId realmId keepingDigest_ne_nil h
  rw [← hhash] at hfirst
  let rows : ConfigurationRows :=
    ⟨{ desiredRevision := 1, desiredContentHash := hash }, [⟨1, hash, es⟩]⟩
  let responses : List ConfigurationResult := [⟨⟨1, hash, es⟩, es⟩]
  have hrequest : AgentConfigurations.step keepingDigest agentId realmId {}
      (.request (some capabilities) monitors) = some { rows := rows, responses := responses } := by
    rw [AgentConfigurations.step, hfirst]
    rfl
  have hfound : rows.findAcknowledged 1 hash = .ok () :=
    if_pos (by simp [rows])
  have hlookup : AgentConfigurations.step keepingDigest agentId realmId
      { rows := rows, responses := responses }
      (.acknowledge 1 ("sha256:" ++ hash)) = some
        { rows := rows
          acknowledging := [(1, hash)]
          responses := responses } := by
    rw [AgentConfigurations.step, digestOf_named, hfound]
    rfl
  exact ⟨_, _, runSteps_cons.mpr ⟨_, hrequest, runSteps_cons.mpr
    ⟨_, hlookup, rfl⟩⟩, rfl, rfl⟩

theorem revisions_consistent_late : ∃ s t,
    runSteps (AgentConfigurations.step keepingDigest (.ofByte 3) (.ofByte 4))
      [.request (some sampleCapabilities) [plainMonitor],
        .acknowledge 1 ("sha256:" ++ contentHash keepingDigest (.ofByte 3)
          (.ofByte 4) [entry plainMonitor 1])] {} = some s ∧
    runSteps (AgentConfigurations.step keepingDigest (.ofByte 3) (.ofByte 4))
      [.bump, .locked 0] s = some t ∧ t.rows.state.desiredRevision = 2 ∧
    t.rows.state.acknowledgedRevision = 1 ∧ ∃ snapshot ∈ t.rows.snapshots, snapshot.revision = 1 ∧
      snapshot.contentHash = t.rows.state.acknowledgedContentHash := by
  obtain ⟨s, t, hs, ht, hstate⟩ := late_acknowledgement
    (show entries sampleCapabilities [plainMonitor] = .ok [entry plainMonitor 1] from rfl)
    (Eq.refl (contentHash keepingDigest (.ofByte 3) (.ofByte 4) _))
  have hall :=
    revisions_consistent keepingDigest_injective keepingDigest_ne_nil hs ht
  have hack : t.rows.state.acknowledgedRevision = 1 := by rw [hstate]
  obtain ⟨snapshot, hmem, hrevision, hhash⟩ := hall.2.2.1 (by omega)
  refine ⟨s, t, hs, ht, by rw [hstate], hack, snapshot, hmem, ?_, hhash⟩
  omega

end Bifrostnms.Proofs
