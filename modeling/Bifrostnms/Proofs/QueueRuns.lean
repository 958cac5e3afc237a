import Bifrostnms.Lib.Runs
import Bifrostnms.Proofs.QueueTransactions
import Mathlib.Algebra.Order.BigOperators.Group.List

/-!
# The queue over sequences of calls

A call of the queue changes its tables in one of two ways (`perform_change`). It
settles rows: some pending rows go, none comes or changes its payload, and a new
rejected row has no pending row under its key (`Settled`). Or it appends one row
under a key that is not pending, if there is room.

So the queue stays within fixed limits and payloads never change
(`queue_bounded`). That no key is in both tables is another matter:
`EnqueueObservation` looks for the identity among the pending rows alone. It
holds in a run exactly if no identity that was rejected is enqueued again
(`queue_disjoint`), and it is what the primary key of the rejected rows needs for
a batch to be settled.
-/

namespace Bifrostnms.Proofs

open Bifrostnms.Lib Bifrostnms.Agent

variable {s s' s'' : Store} {o : Observation} {now : ℤ}

/-! ## What a call changes -/

/-- The identity of a row, and its payload. -/
def slot (row : Observation) : (String × String) × List Char :=
  (row.key, row.canonicalPayload)

/-- Pending rows may go; a new rejected row is not pending. -/
structure Settled (s s' : Store) : Prop where
  pending : (s'.pending.map slot).Sublist (s.pending.map slot)
  rejected : ∀ row ∈ s'.rejected, row ∈ s.rejected ∨ ∀ r ∈ s'.pending, r.key ≠ row.key

theorem Settled.mem (h : Settled s s') {row : Observation} (hrow : row ∈ s'.pending) :
    ∃ r ∈ s.pending, r.key = row.key ∧ r.canonicalPayload = row.canonicalPayload := by
  obtain ⟨r, hr, hslot⟩ := List.mem_map.mp (h.pending.subset (List.mem_map_of_mem hrow))
  exact ⟨r, hr, congrArg Prod.fst hslot, congrArg Prod.snd hslot⟩

theorem Settled.refl (s : Store) : Settled s s :=
  ⟨List.Sublist.refl _, fun _ h => .inl h⟩

theorem Settled.trans (h₁ : Settled s s') (h₂ : Settled s' s'') : Settled s s'' := by
  refine ⟨h₂.pending.trans h₁.pending, fun row hrow => ?_⟩
  rcases h₂.rejected row hrow with hrow | hgone
  · rcases h₁.rejected row hrow with hrow | hgone
    · exact .inl hrow
    · refine .inr fun r hr => ?_
      obtain ⟨r', hr', hkey, -⟩ := h₂.mem hr
      exact hkey ▸ hgone r' hr'
  · exact .inr hgone

theorem settled_deletePending (key : String × String) : Settled s (s.deletePending key) :=
  ⟨List.filter_sublist.map _, fun _ h => .inl h⟩

theorem settled_reject {row : RejectedObservation} {key : String × String}
    (hinsert : s.insertRejected row = some s') (hkey : row.key = key) :
    Settled s (s'.deletePending key) := by
  obtain rfl := insertRejected_eq_some hinsert
  refine ⟨List.filter_sublist.map _, fun r hr => ?_⟩
  rcases List.mem_append.mp hr with hr | hr
  · exact .inl hr
  · rw [List.mem_singleton.mp hr, hkey]
    exact .inr fun p hp => of_decide_eq_true (List.mem_filter.mp hp).2

theorem settled_retry (key : String × String) (a : ObservationAcknowledgement) :
    Settled s { s with pending := s.pending.map fun row =>
      if row.key = key then row.retried a now else row } := by
  refine ⟨?_, fun _ h => .inl h⟩
  have hslot : (slot ∘ fun row : Observation =>
      if row.key = key then row.retried a now else row) = slot := by
    funext row
    show slot (ite _ _ _) = slot row
    split <;> rfl
  rw [List.map_map, hslot]

theorem settled_applyAcknowledgement {a : ObservationAcknowledgement}
    (h : applyAcknowledgement now s o a = some s') : Settled s s' := by
  unfold applyAcknowledgement at h
  split at h
  · cases h
    exact settled_deletePending _
  · split at h
    · split at h
      · cases h
        exact settled_retry _ _
      · obtain ⟨t, hinsert, rfl⟩ := Option.map_eq_some_iff.mp h
        exact settled_reject hinsert rfl
    · cases h
      exact Settled.refl s

theorem settled_applyLoop {batch : List Observation} {acks : List ObservationAcknowledgement}
    (h : applyLoop now batch acks s = some s') : Settled s s' := by
  induction batch generalizing acks s with
  | nil =>
    cases h
    exact Settled.refl _
  | cons o batch ih =>
    cases acks with
    | nil =>
      cases h
      exact Settled.refl _
    | cons a acks =>
      obtain ⟨t, hone, hrest⟩ := Option.bind_eq_some_iff.mp h
      exact (settled_applyAcknowledgement hone).trans (ih hrest)

theorem settled_applyAcknowledgements {batch : List Observation}
    {acks : List ObservationAcknowledgement}
    (h : applyAcknowledgements s batch acks now = .ok s') : Settled s s' := by
  unfold applyAcknowledgements at h
  split at h
  · cases h
  · split at h
    · cases h
    · next t hloop =>
        cases h
        obtain ⟨hpending, hrejected⟩ := settled_applyLoop hloop
        exact ⟨hpending, hrejected⟩

theorem settled_quarantineObservation {code details : String}
    (h : quarantineObservation s o code details now = .ok s') : Settled s s' := by
  unfold quarantineObservation at h
  split at h
  · cases h
  · split at h
    · cases h
    · next row hfind =>
        split at h
        · cases h
        · next t hinsert =>
            cases h
            exact settled_reject hinsert (findPending_eq_some hfind).2

/-- The call appends a row for a new observation. -/
structure Inserted (s : Store) (e : QueueEvent) (o : Observation) (limits : QueueLimits)
    (clock : ℤ) : Prop where
  call : e.call = .enqueue o limits clock
  done : s.perform e = (.ok (), { s with pending := s.pending ++ [(o.withTimes clock).inserted] })
  valid : Enqueueable o
  fresh : ∀ row ∈ s.pending, row.key ≠ o.key
  count : (s.pending.length : ℤ) + 1 ≤ limits.maxCount
  bytes : pendingBytes s + payloadSize o.canonicalPayload ≤ limits.maxBytes
  limits_pos : 1 ≤ limits.maxCount ∧ 1 ≤ limits.maxBytes

theorem perform_change (s : Store) (e : QueueEvent) :
    Settled s (s.perform e).2 ∨ ∃ o limits clock, Inserted s e o limits clock := by
  obtain ⟨message, hperform⟩ | ⟨s', hperform, heffect⟩ := perform_cases s e
  · rw [hperform]
    exact .inl (Settled.refl s)
  · cases hcall : e.call with
    | enqueue o limits clock =>
      rw [hcall] at heffect
      obtain ⟨hvalid, hcount, hbytes, ⟨_, _, _, rfl⟩ | ⟨hfind, hroom, hsize, rfl⟩⟩ :=
        enqueueObservation_eq_ok.mp heffect
      · rw [hperform]
        exact .inl (Settled.refl _)
      · exact .inr ⟨o, limits, clock, hcall, hperform, hvalid,
          findPending_eq_none.mp hfind, hroom, hsize, hcount, hbytes⟩
    | applyAcknowledgements batch acks now =>
      rw [hcall] at heffect
      rw [hperform]
      exact .inl (settled_applyAcknowledgements heffect)
    | quarantine o code details now =>
      rw [hcall] at heffect
      rw [hperform]
      exact .inl (settled_quarantineObservation heffect)

/-! ## Every run -/

/-- The primary key, and that no payload is empty. -/
structure SoundQueue (s : Store) : Prop where
  keys : (s.pending.map Observation.key).Nodup
  payloads : ∀ row ∈ s.pending, row.canonicalPayload ≠ []

theorem Settled.keys (h : Settled s s') :
    (s'.pending.map Observation.key).Sublist (s.pending.map Observation.key) := by
  have hkeys := h.pending.map Prod.fst
  rw [List.map_map, List.map_map] at hkeys
  exact hkeys

theorem SoundQueue.perform (h : SoundQueue s) (e : QueueEvent) : SoundQueue (s.perform e).2 := by
  obtain hsettled | ⟨o, limits, clock, hinserted⟩ := perform_change s e
  · refine ⟨h.keys.sublist hsettled.keys, fun row hrow => ?_⟩
    obtain ⟨r, hr, -, hpayload⟩ := hsettled.mem hrow
    exact hpayload ▸ h.payloads r hr
  · rw [hinserted.done]
    constructor
    · show ((s.pending ++ [(o.withTimes clock).inserted]).map Observation.key).Nodup
      rw [List.map_append, List.map_singleton, ← List.concat_eq_append, List.nodup_concat]
      refine ⟨fun hmem => ?_, h.keys⟩
      obtain ⟨row, hrow, hkey⟩ := List.mem_map.mp hmem
      exact hinserted.fresh row hrow hkey
    · intro row hrow
      rcases List.mem_append.mp hrow with hrow | hrow
      · exact h.payloads row hrow
      · rw [List.mem_singleton.mp hrow]
        exact hinserted.valid.canonicalPayload

theorem soundQueue_empty : SoundQueue {} :=
  ⟨List.nodup_nil, fun _ h => absurd h List.not_mem_nil⟩

theorem soundQueue_run {calls : List QueueEvent}
    (hrun : runSteps queueStep calls {} = some s) : SoundQueue s :=
  runSteps_preserves (fun h hstep => Option.some.inj hstep ▸ h.perform _)
    soundQueue_empty hrun

/-- A payload stays as it is while its identity is pending. -/
theorem payload_unchanged (h : SoundQueue s) (e : QueueEvent) {key : String × String}
    {payload payload' : List Char} (hpending : Pending s key payload)
    (hpending' : Pending (s.perform e).2 key payload') : payload' = payload := by
  obtain ⟨row, hrow, hkey, rfl⟩ := hpending'
  obtain hsettled | ⟨o, limits, clock, hinserted⟩ := perform_change s e
  · obtain ⟨r, hr, hrkey, hpayload⟩ := hsettled.mem hrow
    exact pending_unique h.keys hpending ⟨r, hr, hrkey.trans hkey, hpayload⟩
  · rw [hinserted.done] at hrow
    obtain ⟨r, hr, hrkey, rfl⟩ := hpending
    rcases List.mem_append.mp hrow with hrow | hrow
    · exact pending_unique h.keys ⟨r, hr, hrkey, rfl⟩ ⟨row, hrow, hkey, rfl⟩
    · rw [List.mem_singleton.mp hrow] at hkey
      exact absurd (hrkey.trans hkey.symm) (hinserted.fresh r hr)

/-! ## Limits -/

/-- The queue is within the limits, or empty. -/
def Within (limits : QueueLimits) (s : Store) : Prop :=
  s.pending = [] ∨ (s.pending.length : ℤ) ≤ limits.maxCount ∧
    pendingBytes s ≤ limits.maxBytes ∧ 1 ≤ limits.maxCount ∧ 1 ≤ limits.maxBytes

theorem Settled.pendingBytes_le (h : Settled s s') : pendingBytes s' ≤ pendingBytes s := by
  have hsizes := h.pending.map fun p => (payloadSize p.2 : ℤ)
  rw [List.map_map, List.map_map] at hsizes
  refine hsizes.sum_le_sum fun x hx => ?_
  obtain ⟨row, -, rfl⟩ := List.mem_map.mp hx
  exact Int.natCast_nonneg _

theorem Within.perform {limits : QueueLimits} (h : Within limits s) {e : QueueEvent}
    (hlimits : ∀ o l clock, e.call = .enqueue o l clock → l = limits) :
    Within limits (s.perform e).2 := by
  obtain hsettled | ⟨o, l, clock, hinserted⟩ := perform_change s e
  · rcases h with hnil | ⟨hcount, hbytes, hpos⟩
    · have hsublist := hsettled.pending
      rw [hnil, List.map_nil, List.sublist_nil, List.map_eq_nil_iff] at hsublist
      exact .inl hsublist
    · have hlength := hsettled.pending.length_le
      rw [List.length_map, List.length_map] at hlength
      have hless := hsettled.pendingBytes_le
      exact .inr ⟨by omega, by omega, hpos⟩
  · obtain rfl := hlimits o l clock hinserted.call
    have hlength := hinserted.count
    have hsize := hinserted.bytes
    rw [hinserted.done]
    refine .inr ⟨?_, ?_, hinserted.limits_pos⟩
    · show ((s.pending ++ [(o.withTimes clock).inserted]).length : ℤ) ≤ _
      rw [List.length_append, List.length_singleton]
      omega
    · have happend : pendingBytes
          { s with pending := s.pending ++ [(o.withTimes clock).inserted] } =
          pendingBytes s + payloadSize o.canonicalPayload := by
        unfold pendingBytes
        rw [List.map_append, List.sum_append, List.map_singleton, List.sum_singleton]
        rfl
      rw [happend]
      exact hsize

/-- For every sequence of calls from an empty store, with one pair of limits: the
queue is within the limits, a payload does not change while it is pending, an
observation that is pending can be enqueued again, and a call that returns an
error leaves both tables as they were. -/
theorem queue_bounded (limits : QueueLimits) (calls : List QueueEvent) (s : Store)
    (hlimits : ∀ e ∈ calls, ∀ o l clock, e.call = .enqueue o l clock → l = limits)
    (hrun : runSteps queueStep calls {} = some s) :
    (0 ≤ limits.maxCount → (s.pending.length : ℤ) ≤ limits.maxCount) ∧
    (0 ≤ limits.maxBytes → pendingBytes s ≤ limits.maxBytes) ∧
    (limits.maxCount < 1 ∨ limits.maxBytes < 1 → s.pending = []) ∧
    (∀ e key payload payload', Pending s key payload →
      Pending (s.perform e).2 key payload' → payload' = payload) ∧
    (∀ o clock, Enqueueable o → Pending s o.key o.canonicalPayload →
      s.perform ⟨.enqueue o limits clock, []⟩ = (.ok (), s)) ∧
    (∀ e message, (s.perform e).1 = .error message →
      (s.perform e).2.pending = s.pending ∧ (s.perform e).2.rejected = s.rejected) := by
  have hsound := soundQueue_run hrun
  have hmeets : Meets queueStep (fun _ e => ∀ o l clock,
      e.call = .enqueue o l clock → l = limits) calls {} := by
    clear hrun hsound
    generalize ({} : Store) = start
    induction calls generalizing start with
    | nil => trivial
    | cons e calls ih =>
      exact ⟨hlimits e List.mem_cons_self, fun t _ =>
        ih (fun e' he' => hlimits e' (List.mem_cons_of_mem e he')) t⟩
  have hwithin : Within limits s :=
    runSteps_invariant (fun h hcall hstep => Option.some.inj hstep ▸ h.perform hcall)
      (.inl rfl) hmeets hrun
  refine ⟨fun h0 => ?_, fun h0 => ?_, fun hless => ?_, fun e key payload payload' =>
    payload_unchanged hsound e, fun o clock hvalid hpending => ?_, fun e message herror => ?_⟩
  · rcases hwithin with hnil | ⟨hcount, -⟩
    · rw [hnil]
      exact h0
    · exact hcount
  · rcases hwithin with hnil | ⟨-, hbytes, -⟩
    · unfold pendingBytes
      rw [hnil]
      exact h0
    · exact hbytes
  · rcases hwithin with hnil | ⟨-, -, hpos⟩
    · exact hnil
    · omega
  · obtain ⟨row, hrow, hkey, hpayload⟩ := hpending
    have hpos : 1 ≤ limits.maxCount ∧ 1 ≤ limits.maxBytes := by
      rcases hwithin with hnil | ⟨-, -, hpos⟩
      · rw [hnil] at hrow
        cases hrow
      · exact hpos
    cases hfind : s.findPending o.key with
    | none => exact absurd hkey (findPending_eq_none.mp hfind row hrow)
    | some r =>
      obtain ⟨hr, hrkey⟩ := findPending_eq_some hfind
      have hsame : r.canonicalPayload = o.canonicalPayload :=
        pending_unique hsound.keys ⟨row, hrow, hkey, hpayload⟩ ⟨r, hr, hrkey, rfl⟩
      exact perform_ok trivial (enqueueObservation_eq_ok.mpr
        ⟨hvalid, hpos.1, hpos.2, .inl ⟨r, hfind, hsame, rfl⟩⟩)
  · obtain ⟨_, hperform⟩ | ⟨s', hperform, -⟩ := perform_cases s e
    · rw [hperform]
      exact ⟨rfl, rfl⟩
    · rw [hperform] at herror
      cases herror

/-- An observation as the engine records it. -/
def sampleObservation : Observation where
  scheduledAt := 0
  observationId := "o1"
  monitorId := "m1"
  monitorRevision := 1
  agentConfigRevision := 1
  probeType := "tcp"
  canonicalPayload := ['[', ']']
  createdAt := 0

theorem enqueueable_sampleObservation : Enqueueable sampleObservation :=
  ⟨by decide, by decide, by decide, by decide, by decide, by decide⟩

/-- A queue with room for one observation: it can be enqueued again. -/
theorem queue_bounded_full :
    ∃ s, runSteps queueStep [⟨.enqueue sampleObservation ⟨1, 2⟩ 0, []⟩] {} = some s ∧
      s.pending.length = 1 ∧ s.perform ⟨.enqueue sampleObservation ⟨1, 2⟩ 0, []⟩ = (.ok (), s) := by
  have hbounded := queue_bounded ⟨1, 2⟩ [⟨.enqueue sampleObservation ⟨1, 2⟩ 0, []⟩]
    { pending := [(sampleObservation.withTimes 0).inserted] }
    (fun e he o l clock hcall => by
      rw [List.mem_singleton.mp he] at hcall
      cases hcall
      rfl) rfl
  exact ⟨_, rfl, rfl, hbounded.2.2.2.2.1 sampleObservation 0 enqueueable_sampleObservation
    ⟨_, List.mem_singleton.mpr rfl, rfl, rfl⟩⟩

/-! ## Two tables -/

/-- No identity is in both tables. -/
def NoOverlap (s : Store) : Prop :=
  ∀ row ∈ s.pending, ∀ r ∈ s.rejected, row.key ≠ r.key

/-- `ApplyAcknowledgements` commits for every batch that is ready and every
acknowledgement of it that is accepted. -/
def SettlesBatches (s : Store) : Prop :=
  ∀ now limit batch acks now', readyObservations s now limit = .ok batch →
    validateAcknowledgements batch acks = true →
    (s.perform ⟨.applyAcknowledgements batch acks now', []⟩).1 = .ok ()

/-- `QuarantineObservation` commits for every pending row. -/
def QuarantinesRows (s : Store) : Prop :=
  ∀ row ∈ s.pending, ∀ code details now, code ≠ "" →
    payloadSize details.toList ≤ maxRejectionDetailsBytes →
    (s.perform ⟨.quarantine row code details now, []⟩).1 = .ok ()

/-- An observation that is enqueued is not among the rejected ones, or the call
is refused. -/
def freshIdentity (s : Store) (e : QueueEvent) : Bool :=
  match e.call with
  | .enqueue o _ _ =>
    !(s.rejected.any fun row => row.key == o.key) || !(s.perform e).1.isOk
  | _ => true

theorem insertRejected_of_fresh (h : ∀ r ∈ s.rejected, r.key ≠ o.key)
    (payload : List Char) (code details : String) (now : ℤ) :
    s.insertRejected ⟨o.scheduledAt, o.observationId, payload, code, details, now⟩ =
      some { s with rejected := s.rejected ++
        [⟨o.scheduledAt, o.observationId, payload, code, details, now⟩] } := by
  have hfresh : ¬(s.rejected.any fun r => r.key == o.key) = true := by
    rw [List.any_eq_true]
    intro ⟨r, hr, hkey⟩
    exact h r hr (beq_iff_eq.mp hkey)
  exact if_neg hfresh

/-- One acknowledgement of a row that is not rejected is applied, and only its
own key may be rejected after it. -/
theorem applyAcknowledgement_of_fresh (now : ℤ) (a : ObservationAcknowledgement)
    (h : ∀ r ∈ s.rejected, r.key ≠ o.key) : ∃ s', applyAcknowledgement now s o a = some s' ∧
      ∀ r ∈ s'.rejected, r ∈ s.rejected ∨ r.key = o.key := by
  unfold applyAcknowledgement
  split
  · exact ⟨_, rfl, fun r hr => .inl hr⟩
  · split
    · split
      · exact ⟨_, rfl, fun r hr => .inl hr⟩
      · rw [insertRejected_of_fresh h]
        refine ⟨_, rfl, fun r hr => ?_⟩
        rcases List.mem_append.mp hr with hr | hr
        · exact .inl hr
        · rw [List.mem_singleton.mp hr]
          exact .inr rfl
    · exact ⟨s, rfl, fun r hr => .inl hr⟩

theorem applyLoop_of_fresh (now : ℤ) {batch : List Observation}
    (acks : List ObservationAcknowledgement) (hkeys : (batch.map Observation.key).Nodup)
    (h : ∀ o ∈ batch, ∀ r ∈ s.rejected, r.key ≠ o.key) :
    ∃ s', applyLoop now batch acks s = some s' := by
  induction batch generalizing acks s with
  | nil => exact ⟨s, rfl⟩
  | cons o batch ih =>
    cases acks with
    | nil => exact ⟨s, rfl⟩
    | cons a acks =>
      obtain ⟨hnew, hkeys⟩ := List.nodup_cons.mp hkeys
      obtain ⟨t, hone, hrejected⟩ :=
        applyAcknowledgement_of_fresh now a (h o List.mem_cons_self)
      obtain ⟨s', hrest⟩ := ih (s := t) acks hkeys fun o' ho' r hr => by
        rcases hrejected r hr with hr | hkey
        · exact h o' (List.mem_cons_of_mem o ho') r hr
        · rw [hkey]
          exact fun heq => hnew (heq ▸ List.mem_map_of_mem ho')
      exact ⟨s', Option.bind_eq_some_iff.mpr ⟨t, hone, hrest⟩⟩

theorem NoOverlap.settlesBatches (h : NoOverlap s) (hsound : SoundQueue s) : SettlesBatches s := by
  intro now limit batch acks now' hready hvalid
  have hmem : ∀ o ∈ batch, o ∈ s.pending := fun o ho => mem_readyObservations hready ho
  obtain ⟨t, hloop⟩ := applyLoop_of_fresh (s := s) now' acks
    (readyObservations_nodup hsound.keys hready)
    fun o ho r hr heq => h o (hmem o ho) r hr heq.symm
  have heffect : ∃ s', applyAcknowledgements s batch acks now' = .ok s' := by
    unfold applyAcknowledgements
    rw [hvalid, if_neg (by decide), hloop]
    exact ⟨_, rfl⟩
  obtain ⟨s', heffect⟩ := heffect
  have hpayloads : HasPayloads s (.applyAcknowledgements batch acks now') :=
    fun o ho => hsound.payloads o (hmem o ho)
  rw [perform_ok hpayloads heffect]

theorem NoOverlap.quarantinesRows (h : NoOverlap s) (hsound : SoundQueue s) :
    QuarantinesRows s := by
  intro row hrow code details now hcode hdetails
  have heffect : ∃ s', quarantineObservation s row code details now = .ok s' := by
    unfold quarantineObservation
    rw [if_neg (not_or.mpr ⟨hcode, not_lt.mpr hdetails⟩)]
    cases hfind : s.findPending row.key with
    | none => exact absurd rfl (findPending_eq_none.mp hfind row hrow)
    | some r =>
      obtain ⟨hr, hkey⟩ := findPending_eq_some hfind
      dsimp only
      have hfresh : ∀ p ∈ s.rejected, p.key ≠ r.key := fun p hp heq => h r hr p hp heq.symm
      rw [insertRejected_of_fresh hfresh]
      exact ⟨_, rfl⟩
  obtain ⟨s', heffect⟩ := heffect
  have hpayloads : HasPayloads s (.quarantine row code details now) := hsound.payloads
  rw [perform_ok hpayloads heffect]

theorem NoOverlap.settled (h : NoOverlap s) (hsettled : Settled s s') : NoOverlap s' := by
  intro row hrow r hr heq
  rcases hsettled.rejected r hr with hr | hgone
  · obtain ⟨row', hrow', hkey, -⟩ := hsettled.mem hrow
    exact h row' hrow' r hr (hkey.trans heq)
  · exact hgone row hrow heq

/-- From disjoint tables a call leaves disjoint tables exactly if it meets the
condition. -/
theorem noOverlap_perform (h : NoOverlap s) (e : QueueEvent) :
    NoOverlap (s.perform e).2 ↔ freshIdentity s e = true := by
  obtain hsettled | ⟨o, limits, clock, hinserted⟩ := perform_change s e
  · refine iff_of_true (h.settled hsettled) ?_
    unfold freshIdentity
    cases hcall : e.call with
    | applyAcknowledgements batch acks now => rfl
    | quarantine o code details now => rfl
    | enqueue o limits clock =>
      obtain ⟨message, hperform⟩ | ⟨s', hperform, heffect⟩ := perform_cases s e
      · rw [hperform]
        exact Bool.or_true _
      · -- it has inserted nothing, so the row was pending and so not rejected
        rw [hcall] at heffect
        obtain ⟨row, hrow, hkey, -⟩ := (enqueueObservation_ok heffect).1
        rw [hperform] at hsettled
        obtain ⟨r, hr, hrkey, -⟩ := hsettled.mem hrow
        have hfresh : (s.rejected.any fun row => row.key == o.key) = false := by
          rw [List.any_eq_false]
          intro p hp hpkey
          exact h r hr p hp ((hrkey.trans hkey).trans (beq_iff_eq.mp hpkey).symm)
        dsimp only
        rw [hfresh]
        rfl
  · have hcondition : freshIdentity s e = true ↔ ∀ r ∈ s.rejected, r.key ≠ o.key := by
      unfold freshIdentity
      rw [hinserted.call, hinserted.done]
      simp [Except.isOk, Except.toBool]
    rw [hcondition, hinserted.done]
    constructor
    · intro hdisjoint r hr heq
      exact hdisjoint (o.withTimes clock).inserted
        (List.mem_append_right _ (List.mem_singleton.mpr rfl)) r hr heq.symm
    · intro hfresh row hrow r hr heq
      rcases List.mem_append.mp hrow with hrow | hrow
      · exact h row hrow r hr heq
      · rw [List.mem_singleton.mp hrow] at heq
        exact hfresh r hr heq.symm

/-- In every run, each state on the way has disjoint tables (and then settles
every batch and quarantines every row) exactly if no rejected identity is
enqueued again. -/
theorem queue_disjoint_from (hsound : SoundQueue s) (h : NoOverlap s) (calls : List QueueEvent) :
    (∀ before rest t, calls = before ++ rest → runSteps queueStep before s = some t →
      NoOverlap t ∧ SettlesBatches t ∧ QuarantinesRows t) ↔
    Meets queueStep (fun s e => freshIdentity s e = true) calls s := by
  induction calls generalizing s with
  | nil =>
    refine iff_of_true (fun before rest t hsplit hrun => ?_) trivial
    obtain ⟨rfl, -⟩ := List.append_eq_nil_iff.mp hsplit.symm
    cases hrun
    exact ⟨h, h.settlesBatches hsound, h.quarantinesRows hsound⟩
  | cons e calls ih =>
    have hstep : queueStep s e = some (s.perform e).2 := rfl
    constructor
    · intro hall
      have hnext := (hall [e] calls (s.perform e).2 rfl rfl).1
      refine ⟨(noOverlap_perform h e).mp hnext, fun t ht => ?_⟩
      rw [hstep, Option.some.injEq] at ht
      rw [← ht]
      refine (ih (hsound.perform e) hnext).mp fun before rest t hsplit hrun => ?_
      exact hall (e :: before) rest t (by rw [hsplit, List.cons_append])
        (runSteps_cons.mpr ⟨_, hstep, hrun⟩)
    · intro hmeets before rest t hsplit hrun
      have hnext := (noOverlap_perform h e).mpr hmeets.1
      cases before with
      | nil =>
        cases hrun
        exact ⟨h, h.settlesBatches hsound, h.quarantinesRows hsound⟩
      | cons e' before =>
        obtain ⟨rfl, hrest⟩ := List.cons.inj hsplit
        obtain ⟨t', ht', hrun⟩ := runSteps_cons.mp hrun
        rw [hstep, Option.some.injEq] at ht'
        rw [← ht'] at hrun
        exact (ih (hsound.perform e) hnext).mpr (hmeets.2 _ hstep) before rest t hrest hrun

theorem queue_disjoint (calls : List QueueEvent) :
    (∀ before rest s, calls = before ++ rest → runSteps queueStep before {} = some s →
      NoOverlap s ∧ SettlesBatches s ∧ QuarantinesRows s) ↔
    Meets queueStep (fun s e => freshIdentity s e = true) calls {} :=
  queue_disjoint_from soundQueue_empty
    (fun _ h => absurd h List.not_mem_nil) calls

/-- An observation is quarantined and recorded again. -/
def recordedAgain : List QueueEvent :=
  [⟨.enqueue sampleObservation ⟨10, 1000⟩ 0, []⟩,
    ⟨.quarantine sampleObservation "local_payload_too_large" "" 0, []⟩,
    ⟨.enqueue sampleObservation ⟨10, 1000⟩ 0, []⟩]

/-- The answer of the control plane to the batch with it. -/
def permanentRejection : ObservationAcknowledgement where
  scheduledAt := 0
  observationId := "o1"
  disposition := "rejected"
  code := "invalid"
  retryable := false

/-- The store after it. -/
def overlappingStore : Store where
  pending := [(sampleObservation.withTimes 0).inserted]
  rejected := [⟨0, "o1", ['[', ']'], "local_payload_too_large", "", 0⟩]

theorem queue_overlaps : ∃ s, runSteps queueStep recordedAgain {} = some s ∧ ¬NoOverlap s ∧
      ¬SettlesBatches s ∧ ¬QuarantinesRows s := by
  refine ⟨overlappingStore, rfl, fun h => ?_, fun h => ?_, fun h => ?_⟩
  · exact h _ (List.mem_singleton.mpr rfl) _ (List.mem_singleton.mpr rfl) rfl
  · have hok := h 0 1 overlappingStore.pending [permanentRejection] 0 rfl rfl
    cases hok
  · have hok := h _ (List.mem_singleton.mpr rfl) "local_invalid_payload" "" 0 (by decide)
      (by decide)
    cases hok

end Bifrostnms.Proofs
