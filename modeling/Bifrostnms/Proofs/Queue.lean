import Bifrostnms.Proofs.BatchBuilding

/-!
# What the queue keeps

A payload that is in one of the two tables of the agent leaves them in one
way: an acknowledgement `accepted` or `duplicate` deletes its pending row. So
if every payload so acknowledged satisfies some `P` (in use: the control plane
has it), every payload stays held or satisfies `P` (`applyAcknowledgements_keeps`).

The argument needs that the pending row which an acknowledgement deletes is
the one that was sent, so it goes through the two facts about keys: the
pending rows have distinct ones, and the rows of a batch are among them.
-/

namespace Bifrostnms.Proofs

open Bifrostnms.Lib Bifrostnms.Agent

/-- The payload is pending under the key. -/
def Pending (s : Store) (key : String × String) (payload : List Char) : Prop :=
  ∃ row ∈ s.pending, row.key = key ∧ row.canonicalPayload = payload

/-- The payload is among the rejected ones under the key. -/
def Rejected (s : Store) (key : String × String) (payload : List Char) : Prop :=
  ∃ row ∈ s.rejected, row.key = key ∧ row.canonicalPayload = payload

/-- What was in the tables still is, or satisfies `P`; and every pending row
was pending before. -/
structure Keeps (P : List Char → Prop) (s s' : Store) : Prop where
  held : ∀ key payload, Pending s key payload ∨ Rejected s key payload →
    Pending s' key payload ∨ Rejected s' key payload ∨ P payload
  pending : ∀ key payload, Pending s' key payload → Pending s key payload
  keys : (s'.pending.map Observation.key).Sublist
    (s.pending.map Observation.key)

variable {P : List Char → Prop} {s s' s'' : Store} {now : ℤ}

theorem Keeps.refl (s : Store) : Keeps P s s :=
  ⟨fun _ _ h => h.imp_right .inl, fun _ _ h => h, List.Sublist.refl _⟩

theorem Keeps.trans (h₁ : Keeps P s s') (h₂ : Keeps P s' s'') : Keeps P s s'' := by
  refine ⟨fun key payload h => ?_,
    fun key payload h => h₁.pending key payload (h₂.pending key payload h), h₂.keys.trans h₁.keys⟩
  rcases h₁.held key payload h with h | h | h
  · exact h₂.held key payload (.inl h)
  · exact h₂.held key payload (.inr h)
  · exact .inr (.inr h)

/-! ## Single statements -/

theorem findPending_eq_none {key : String × String} :
    s.findPending key = none ↔ ∀ row ∈ s.pending, row.key ≠ key := by
  simp [Store.findPending]

theorem findPending_eq_some {key : String × String} {row : Observation}
    (h : s.findPending key = some row) : row ∈ s.pending ∧ row.key = key := by
  refine ⟨List.mem_of_find?_eq_some h, ?_⟩
  have h := List.find?_some h
  exact beq_iff_eq.mp h

theorem insertRejected_eq_some {row : RejectedObservation} (h : s.insertRejected row = some s') :
    s' = { s with rejected := s.rejected ++ [row] } := by
  unfold Store.insertRejected at h
  split at h
  · cases h
  · exact (Option.some.inj h).symm

/-- Deleting a pending row is right if what was under its key is done with. -/
theorem deletePending_keeps {key : String × String}
    (h : ∀ payload, Pending s key payload → Rejected s key payload ∨ P payload) :
    Keeps P s (s.deletePending key) := by
  refine ⟨fun k payload hheld => ?_, fun k payload hpending => ?_, ?_⟩
  · rcases hheld with ⟨row, hrow, hk, hp⟩ | hrejected
    · by_cases hkey : k = key
      · subst hkey
        exact .inr (h payload ⟨row, hrow, hk, hp⟩)
      · refine .inl ⟨row, ?_, hk, hp⟩
        exact List.mem_filter.mpr ⟨hrow, by simpa [hk] using hkey⟩
    · exact .inr (.inl hrejected)
  · obtain ⟨row, hrow, hk, hp⟩ := hpending
    exact ⟨row, (List.mem_filter.mp hrow).1, hk, hp⟩
  · exact List.Sublist.map _ List.filter_sublist

theorem insertRejected_keeps {row : RejectedObservation} (h : s.insertRejected row = some s') :
    Keeps P s s' ∧ Rejected s' row.key row.canonicalPayload := by
  rw [insertRejected_eq_some h]
  refine ⟨⟨fun k payload hheld => ?_, fun k payload hpending => hpending,
    List.Sublist.refl _⟩, row, by simp, rfl, rfl⟩
  rcases hheld with hpending | ⟨r, hr, hk, hp⟩
  · exact .inl hpending
  · exact .inr (.inl ⟨r, List.mem_append_left _ hr, hk, hp⟩)

/-- Moving the pending row of a key to the rejected ones keeps it. -/
theorem reject_keeps {row : RejectedObservation} {key : String × String}
    (hinsert : s.insertRejected row = some s') (hkey : row.key = key)
    (hrow : ∀ payload, Pending s key payload → payload = row.canonicalPayload) :
    Keeps P s (s'.deletePending key) := by
  obtain ⟨hkeeps, hrejected⟩ := insertRejected_keeps (P := P) hinsert
  refine hkeeps.trans (deletePending_keeps fun payload hpending => .inl ?_)
  rw [hrow payload (hkeeps.pending key payload hpending), ← hkey]
  exact hrejected

/-- Writing to the other columns of pending rows keeps them. -/
theorem mapPending_keeps {f : Observation → Observation} (hkey : ∀ row, (f row).key = row.key)
    (hpayload : ∀ row, (f row).canonicalPayload = row.canonicalPayload) :
    Keeps P s { s with pending := s.pending.map f } := by
  refine ⟨fun k payload hheld => ?_, fun k payload hpending => ?_, ?_⟩
  · rcases hheld with ⟨row, hrow, hk, hp⟩ | hrejected
    · exact .inl ⟨f row, List.mem_map_of_mem hrow, (hkey row).trans hk, (hpayload row).trans hp⟩
    · exact .inr (.inl hrejected)
  · obtain ⟨row', hrow', hk, hp⟩ := hpending
    obtain ⟨row, hrow, rfl⟩ := List.mem_map.mp hrow'
    exact ⟨row, hrow, (hkey row).symm.trans hk, (hpayload row).symm.trans hp⟩
  · have hkeys : Observation.key ∘ f = Observation.key := funext hkey
    rw [List.map_map, hkeys]

/-! ## Transactions -/

/-- The pending row under a key is the only one. -/
theorem pending_unique (hnodup : (s.pending.map Observation.key).Nodup)
    {key : String × String} {payload payload' : List Char}
    (h : Pending s key payload) (h' : Pending s key payload') : payload' = payload := by
  obtain ⟨row, hrow, hk, rfl⟩ := h
  obtain ⟨row', hrow', hk', rfl⟩ := h'
  rw [List.inj_on_of_nodup_map hnodup hrow' hrow (hk'.trans hk.symm)]

/-- What `EnqueueObservation` asks of an observation. -/
structure Enqueueable (o : Observation) : Prop where
  observationId : o.observationId ≠ ""
  monitorId : o.monitorId ≠ ""
  monitorRevision : 1 ≤ o.monitorRevision
  agentConfigRevision : 1 ≤ o.agentConfigRevision
  probeType : o.probeType ≠ ""
  canonicalPayload : o.canonicalPayload ≠ []

/-- The number of bytes that are pending. -/
def pendingBytes (s : Store) : ℤ :=
  (s.pending.map fun row => (payloadSize row.canonicalPayload : ℤ)).sum

/-- An observation is enqueued in two ways: it is there already, or it is new
and there is room for it. -/
theorem enqueueObservation_eq_ok {o : Observation} {limits : QueueLimits} {clock : ℤ} :
    enqueueObservation s o limits clock = .ok s' ↔
      Enqueueable o ∧ 1 ≤ limits.maxCount ∧ 1 ≤ limits.maxBytes ∧
      ((∃ row, s.findPending o.key = some row ∧
          row.canonicalPayload = o.canonicalPayload ∧ s' = s) ∨
        s.findPending o.key = none ∧ (s.pending.length : ℤ) + 1 ≤ limits.maxCount ∧
          pendingBytes s + payloadSize o.canonicalPayload ≤ limits.maxBytes ∧
          s' = { s with pending := s.pending ++ [(o.withTimes clock).inserted] }) := by
  unfold enqueueObservation
  have hkey : (o.withTimes clock).key = o.key := rfl
  by_cases hfields : o.observationId = "" ∨ o.monitorId = "" ∨ o.monitorRevision < 1 ∨
      o.agentConfigRevision < 1 ∨ o.probeType = "" ∨ o.canonicalPayload = []
  · rw [if_pos hfields]
    refine ⟨(fun h => by cases h), fun ⟨h, _⟩ => ?_⟩
    obtain ⟨h1, h2, h3, h4, h5, h6⟩ := h
    rcases hfields with h | h | h | h | h | h
    · exact absurd h h1
    · exact absurd h h2
    · omega
    · omega
    · exact absurd h h5
    · exact absurd h h6
  · rw [if_neg hfields]
    simp only [not_or, not_lt] at hfields
    have hvalid : Enqueueable o := ⟨hfields.1, hfields.2.1, hfields.2.2.1,
      hfields.2.2.2.1, hfields.2.2.2.2.1, hfields.2.2.2.2.2⟩
    by_cases hlimits : limits.maxCount < 1 ∨ limits.maxBytes < 1
    · rw [if_pos hlimits]
      exact ⟨(fun h => by cases h), fun h => absurd hlimits (by omega)⟩
    · rw [if_neg hlimits]
      have hone : 1 ≤ limits.maxCount ∧ 1 ≤ limits.maxBytes := by omega
      dsimp only
      unfold observationAlreadyQueued
      rw [hkey]
      cases hfind : s.findPending o.key with
      | none =>
        show ite _ _ _ = _ ↔ _
        split
        · next hfull =>
            refine ⟨(fun h => by cases h), fun ⟨_, _, _, h⟩ => ?_⟩
            rcases h with ⟨row, hrow, _⟩ | ⟨_, hcount, hbytes, _⟩
            · cases hrow
            · rcases hfull with hfull | hfull
              · omega
              · exact absurd hbytes (not_le.mpr hfull)
        · next hroom =>
            rw [not_or, not_lt, not_lt] at hroom
            refine ⟨fun h => ⟨hvalid, hone.1, hone.2,
              .inr ⟨rfl, hroom.1, hroom.2, (Except.ok.inj h).symm⟩⟩, fun ⟨_, _, _, h⟩ => ?_⟩
            rcases h with ⟨row, hrow, _⟩ | ⟨_, _, _, rfl⟩
            · cases hrow
            · rfl
      | some row =>
        dsimp only
        by_cases hpayload : row.canonicalPayload = o.canonicalPayload
        · rw [if_pos (show row.canonicalPayload = (o.withTimes clock).canonicalPayload
            from hpayload)]
          refine ⟨fun h => ⟨hvalid, hone.1, hone.2,
            .inl ⟨row, rfl, hpayload, (Except.ok.inj h).symm⟩⟩, fun ⟨_, _, _, h⟩ => ?_⟩
          rcases h with ⟨_, _, _, rfl⟩ | ⟨hnone, _⟩
          · rfl
          · cases hnone
        · rw [if_neg (show ¬row.canonicalPayload = (o.withTimes clock).canonicalPayload
            from hpayload)]
          refine ⟨(fun h => by cases h), fun ⟨_, _, _, h⟩ => ?_⟩
          rcases h with ⟨row', hrow', hpayload', _⟩ | ⟨hnone, _⟩
          · cases hrow'
            exact absurd hpayload' hpayload
          · cases hnone

/-- An observation that was enqueued is pending; the queue grows by it unless
it was there. -/
theorem enqueueObservation_ok {o : Observation} {limits : QueueLimits}
    {clock : ℤ} (h : enqueueObservation s o limits clock = .ok s') :
    Pending s' o.key o.canonicalPayload ∧ (s' = s ∨ ∃ row : Observation, row.key = o.key ∧
        row.canonicalPayload = o.canonicalPayload ∧ (∀ r ∈ s.pending, r.key ≠ o.key) ∧
        s' = { s with pending := s.pending ++ [row] }) := by
  obtain ⟨_, _, _, ⟨row, hfind, hpayload, rfl⟩ | ⟨hfind, _, _, rfl⟩⟩ :=
    enqueueObservation_eq_ok.mp h
  · obtain ⟨hrow, hkey⟩ := findPending_eq_some hfind
    exact ⟨⟨row, hrow, hkey, hpayload⟩, .inl rfl⟩
  · exact ⟨⟨(o.withTimes clock).inserted, by simp, rfl, rfl⟩,
      .inr ⟨(o.withTimes clock).inserted, rfl, rfl, findPending_eq_none.mp hfind, rfl⟩⟩

theorem quarantineObservation_keeps
    (hnodup : (s.pending.map Observation.key).Nodup) {o : Observation} {code details : String}
    (h : quarantineObservation s o code details now = .ok s') : Keeps P s s' := by
  unfold quarantineObservation at h
  split at h
  · cases h
  · split at h
    · cases h
    · next row hfind =>
        obtain ⟨hrow, hkey⟩ := findPending_eq_some hfind
        split at h
        · cases h
        · next s₁ hinsert =>
            cases h
            refine reject_keeps hinsert hkey fun payload hpending => ?_
            exact pending_unique hnodup ⟨row, hrow, hkey, rfl⟩ hpending

/-- One acknowledgement, if what is pending under its key is what was sent. -/
theorem applyAcknowledgement_keeps {o : Observation} {a : ObservationAcknowledgement}
    (hrow : ∀ payload, Pending s o.key payload → payload = o.canonicalPayload)
    (hdone : a.disposition = dispositionAccepted ∨
      a.disposition = dispositionDuplicate → P o.canonicalPayload)
    (h : applyAcknowledgement now s o a = some s') : Keeps P s s' := by
  unfold applyAcknowledgement at h
  split at h
  · next hdisposition =>
      cases h
      refine deletePending_keeps fun payload hpending => .inr ?_
      rw [hrow payload hpending]
      exact hdone hdisposition
  · split at h
    · split at h
      · cases h
        refine mapPending_keeps (fun row => ?_) fun row => ?_
        · split <;> rfl
        · split <;> rfl
      · obtain ⟨s₁, hinsert, rfl⟩ := Option.map_eq_some_iff.mp h
        exact reject_keeps hinsert rfl hrow
    · cases h
      exact Keeps.refl s

theorem applyLoop_keeps {batch : List Observation} {acks : List ObservationAcknowledgement}
    (hrow : ∀ o ∈ batch, ∀ payload, Pending s o.key payload → payload = o.canonicalPayload)
    (hdone : ∀ o a, (o, a) ∈ batch.zip acks → a.disposition = dispositionAccepted ∨
        a.disposition = dispositionDuplicate → P o.canonicalPayload)
    (h : applyLoop now batch acks s = some s') : Keeps P s s' := by
  induction batch generalizing acks s with
  | nil =>
    cases h
    exact Keeps.refl _
  | cons o batch ih =>
    cases acks with
    | nil =>
      cases h
      exact Keeps.refl _
    | cons a acks =>
      obtain ⟨s₁, hone, hrest⟩ := Option.bind_eq_some_iff.mp h
      have hkeeps := applyAcknowledgement_keeps (hrow o (by simp))
        (hdone o a (by simp)) hone
      refine hkeeps.trans (ih (fun o' ho' payload hpending => ?_)
        (fun o' a' hmem => hdone o' a' (by simp [hmem])) hrest)
      exact hrow o' (by simp [ho']) payload (hkeeps.pending _ _ hpending)

theorem applyAcknowledgements_keeps {batch : List Observation}
    {acks : List ObservationAcknowledgement}
    (hrow : ∀ o ∈ batch, ∀ payload, Pending s o.key payload → payload = o.canonicalPayload)
    (hdone : ∀ o a, (o, a) ∈ batch.zip acks → a.disposition = dispositionAccepted ∨
        a.disposition = dispositionDuplicate → P o.canonicalPayload)
    (h : applyAcknowledgements s batch acks now = .ok s') : Keeps P s s' := by
  unfold applyAcknowledgements at h
  split at h
  · cases h
  · split at h
    · cases h
    · next s₁ hloop =>
        cases h
        have hkeeps := applyLoop_keeps hrow hdone hloop
        exact ⟨hkeeps.held, hkeeps.pending, hkeeps.keys⟩

/-! ## Batches -/

theorem mem_readyObservations {limit : ℕ} {ready : List Observation}
    (h : readyObservations s now limit = .ok ready) {o : Observation}
    (ho : o ∈ ready) : o ∈ s.pending := by
  unfold readyObservations at h
  split at h
  · cases h
  · cases h
    have ho := List.mem_of_mem_take ho
    rw [List.mem_insertionSort] at ho
    exact (List.mem_filter.mp ho).1

/-- The rows that are ready have distinct keys, as the pending ones have. -/
theorem readyObservations_nodup {limit : ℕ} {ready : List Observation}
    (hkeys : (s.pending.map Observation.key).Nodup)
    (h : readyObservations s now limit = .ok ready) : (ready.map Observation.key).Nodup := by
  unfold readyObservations at h
  split at h
  · cases h
  · cases h
    refine List.Nodup.sublist ((List.take_sublist _ _).map _) ?_
    refine ((List.perm_insertionSort _ _).map Observation.key).nodup_iff.mpr ?_
    exact List.Nodup.sublist (List.filter_sublist.map _) hkeys

/-- A batch that is sent was selected from the rows that are ready. -/
theorem startUpload_inv {raw : RawJson} {batchId : String} {batch : Batch}
    (h : startUpload raw s now batchId = .send batch) :
    ∃ first rest, readyObservations s now (defaultMaxBatchObservations + 1) = .ok (first :: rest) ∧
      selectRows raw defaultMaxBatchObservations defaultMaxBatchBytes
        first.agentConfigRevision batchId [] (first :: rest) = .ok batch.observations ∧
      batch.observations ≠ [] ∧
      batch.upload = ⟨protocolVersion, 1, first.agentConfigRevision, batchId,
        batch.observations.map Observation.canonicalPayload⟩ := by
  unfold startUpload at h
  split at h
  · cases h
  · split at h
    · cases h
    · cases h
    · cases h
    · cases h
    · next hbuild =>
        split at h
        · cases h
        · next hne =>
            cases h
            unfold buildBatch at hbuild
            split at hbuild
            · cases hbuild
            · split at hbuild
              · cases hbuild
              · cases hbuild
              · next first rest hready =>
                  split at hbuild
                  · cases hbuild
                  · next selected hselect =>
                      cases hbuild
                      exact ⟨first, rest, hready, hselect, hne, rfl⟩

/-- A batch that is sent: its rows are pending, its texts are theirs, and it
has the id that was drawn. -/
theorem startUpload_send {raw : RawJson} {batchId : String} {batch : Batch}
    (h : startUpload raw s now batchId = .send batch) : (∀ o ∈ batch.observations, o ∈ s.pending) ∧
      batch.upload.observations = batch.observations.map Observation.canonicalPayload ∧
      batch.upload.batchId = batchId := by
  obtain ⟨first, rest, hready, hselect, _, hupload⟩ := startUpload_inv h
  rw [hupload]
  exact ⟨fun o ho => mem_readyObservations hready ((selectRows_isPrefix hselect).subset ho),
    rfl, rfl⟩

end Bifrostnms.Proofs
