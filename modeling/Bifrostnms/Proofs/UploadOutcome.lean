import Bifrostnms.Proofs.Queue

/-!
# One upload against any answer

The control plane is not trusted here: a request may be answered with anything.
An upload that sends a batch ends in one of two ways. Either the answer speaks
for every row of the batch, in order, and the tables are then exactly what it
says (`settledRow`, `rejectedRow`); or the tables are as they were, and one
more failure is counted.

The loop over the acknowledgements writes one row after the other, and a
statement that fails undoes all of them. That the loop has the effect of one
simultaneous update rests on the keys: the rows of a batch have distinct ones,
so an acknowledgement never meets a row that another has written.
-/

namespace Bifrostnms.Proofs

open Bifrostnms.Lib Bifrostnms.Agent

/-! ## What an answer asks for -/

/-- What the answers say about the row of a key. -/
def answerFor (answers : List (Observation × ObservationAcknowledgement))
    (key : String × String) : Option ObservationAcknowledgement :=
  (answers.find? fun p => p.1.key == key).map Prod.snd

/-- What becomes of a pending row: without an answer it stays as it is, one to
be tried again gains an attempt, and any other leaves. -/
def settledRow (now : ℤ) (row : Observation) :
    Option ObservationAcknowledgement → Option Observation
  | none => some row
  | some a =>
    if a.disposition = dispositionRejected ∧ a.retryable = true then
      some (row.retried a now)
    else none

/-- The row of an observation that is rejected for good, with its payload. -/
def rejectedRow (now : ℤ) (p : Observation × ObservationAcknowledgement) :
    Option RejectedObservation :=
  if p.2.disposition = dispositionRejected ∧ p.2.retryable = false then
    some ⟨p.1.scheduledAt, p.1.observationId, p.1.canonicalPayload, p.2.code, p.2.details, now⟩
  else none

/-! ## The loop over the acknowledgements -/

/-- One of the three dispositions. -/
def Known (a : ObservationAcknowledgement) : Prop :=
  a.disposition = dispositionAccepted ∨
    a.disposition = dispositionDuplicate ∨ a.disposition = dispositionRejected

variable {s s' : Store} {now : ℤ}

theorem answerFor_cons (o : Observation) (a : ObservationAcknowledgement)
    (answers : List (Observation × ObservationAcknowledgement))
    (key : String × String) : answerFor ((o, a) :: answers) key =
      if o.key = key then some a else answerFor answers key := by
  unfold answerFor
  rw [List.find?_cons]
  by_cases h : o.key = key
  · rw [if_pos h, beq_iff_eq.mpr h]
    rfl
  · rw [if_neg h, beq_eq_false_iff_ne.mpr h]

theorem answerFor_eq_none {batch : List Observation}
    {acks : List ObservationAcknowledgement} {key : String × String}
    (h : key ∉ batch.map Observation.key) : answerFor (batch.zip acks) key = none := by
  rw [answerFor, Option.map_eq_none_iff, List.find?_eq_none]
  intro p hp heq
  have hmem := (List.of_mem_zip hp).1
  exact h (List.mem_map.mpr ⟨p.1, hmem, beq_iff_eq.mp heq⟩)

/-- One acknowledgement settles the row of its key and no other. -/
theorem applyAcknowledgement_settles {o : Observation}
    {a : ObservationAcknowledgement} (hknown : Known a)
    (h : applyAcknowledgement now s o a = some s') : s'.pending = s.pending.filterMap (fun row =>
        if o.key = row.key then settledRow now row (some a) else some row) ∧
      s'.rejected = s.rejected ++ (rejectedRow now (o, a)).toList := by
  have hdelete : ∀ t : Store, t.pending = s.pending → (∀ row, settledRow now row (some a) = none) →
      (t.deletePending o.key).pending = s.pending.filterMap (fun row =>
        if o.key = row.key then settledRow now row (some a) else some row) := by
    intro t ht hnone
    show t.pending.filter _ = _
    rw [ht, ← List.filterMap_eq_filter]
    refine List.filterMap_congr fun row _ => ?_
    rw [hnone row, Option.guard]
    by_cases hkey : o.key = row.key
    · rw [if_pos hkey, if_neg]
      rw [decide_eq_true_eq]
      exact fun hne => hne hkey.symm
    · rw [if_neg hkey, if_pos]
      exact decide_eq_true fun heq => hkey heq.symm
  unfold applyAcknowledgement at h
  split at h
  · next hdone =>
      cases h
      have hne : a.disposition ≠ dispositionRejected := by
        rcases hdone with hd | hd <;> rw [hd] <;> decide
      refine ⟨hdelete s rfl fun row => if_neg fun hr => hne hr.1, ?_⟩
      rw [rejectedRow, if_neg fun hr => hne hr.1]
      exact (List.append_nil _).symm
  · next hdone =>
      have hrejected : a.disposition = dispositionRejected := by
        rcases hknown with hd | hd | hd
        · exact absurd (.inl hd) hdone
        · exact absurd (.inr hd) hdone
        · exact hd
      rw [if_pos hrejected] at h
      split at h
      · next hretry =>
          cases h
          refine ⟨?_, ?_⟩
          · show s.pending.map _ = _
            rw [← List.filterMap_eq_map]
            refine List.filterMap_congr fun row _ => ?_
            by_cases hkey : o.key = row.key
            · rw [if_pos hkey, settledRow, if_pos ⟨hrejected, hretry⟩]
              exact congrArg some (if_pos hkey.symm)
            · rw [if_neg hkey]
              exact congrArg some (if_neg fun heq => hkey heq.symm)
          · rw [rejectedRow, if_neg fun hr => by rw [hretry] at hr; cases hr.2]
            exact (List.append_nil _).symm
      · next hretry =>
          obtain ⟨t, hinsert, rfl⟩ := Option.map_eq_some_iff.mp h
          have ht := insertRejected_eq_some hinsert
          refine ⟨hdelete t (by rw [ht]) fun row => if_neg fun hr =>
            hretry hr.2, ?_⟩
          show t.rejected = _
          rw [ht, rejectedRow, if_pos ⟨hrejected, Bool.eq_false_iff.mpr hretry⟩]
          rfl

theorem key_settledRow {row row' : Observation} {a : Option ObservationAcknowledgement}
    (h : settledRow now row a = some row') : row'.key = row.key := by
  cases a with
  | none =>
    cases h
    rfl
  | some a =>
    dsimp only [settledRow] at h
    split_ifs at h
    cases h
    rfl

/-- The loop settles every row by the answer it has. -/
theorem applyLoop_settles {batch : List Observation} {acks : List ObservationAcknowledgement}
    (hnodup : (batch.map Observation.key).Nodup) (hknown : ∀ a ∈ acks, Known a)
    (h : applyLoop now batch acks s = some s') : s'.pending = s.pending.filterMap (fun row =>
        settledRow now row (answerFor (batch.zip acks) row.key)) ∧ s'.rejected = s.rejected ++
        (batch.zip acks).filterMap (rejectedRow now) := by
  induction batch generalizing acks s with
  | nil =>
    cases h
    exact ⟨(List.filterMap_some).symm, (List.append_nil _).symm⟩
  | cons o batch ih =>
    cases acks with
    | nil =>
      cases h
      exact ⟨(List.filterMap_some).symm, (List.append_nil _).symm⟩
    | cons a acks =>
      obtain ⟨t, hone, hrest⟩ := Option.bind_eq_some_iff.mp h
      rw [List.map_cons, List.nodup_cons] at hnodup
      rw [List.forall_mem_cons] at hknown
      obtain ⟨hpending, hrejected⟩ :=
        applyAcknowledgement_settles hknown.1 hone
      obtain ⟨hpending', hrejected'⟩ := ih hnodup.2 hknown.2 hrest
      refine ⟨?_, ?_⟩
      · rw [hpending', hpending, List.filterMap_filterMap, List.zip_cons_cons]
        refine List.filterMap_congr fun row _ => ?_
        rw [answerFor_cons]
        by_cases hkey : o.key = row.key
        · -- the rest of the batch has no answer for this row
          rw [if_pos hkey, if_pos hkey]
          cases hset : settledRow now row (some a) with
          | none => rfl
          | some row' =>
            have hsame := key_settledRow hset
            show settledRow now row' (answerFor _ row'.key) = some row'
            rw [answerFor_eq_none (hsame ▸ hkey ▸ hnodup.1)]
            rfl
        · rw [if_neg hkey, if_neg hkey]
          rfl
      · rw [hrejected', hrejected, List.zip_cons_cons, List.filterMap_cons, List.append_assoc]
        cases rejectedRow now (o, a) <;> rfl

/-! ## Trusted answers -/

theorem trusted_spec {o : Observation} {a : ObservationAcknowledgement} (h : trusted o a = true) :
    truncateMicro a.scheduledAt = truncateMicro o.scheduledAt ∧ a.observationId = o.observationId ∧
      ((a.disposition = dispositionAccepted ∨ a.disposition = dispositionDuplicate) ∧ a.code = "" ∧
            a.retryable = false ∨ a.disposition = dispositionRejected ∧ a.code ≠ "") := by
  unfold trusted at h
  rw [Bool.and_eq_true, Bool.and_eq_true, decide_eq_true_eq, decide_eq_true_eq] at h
  obtain ⟨⟨htime, hid⟩, hrest⟩ := h
  refine ⟨htime, hid, ?_⟩
  split_ifs at hrest with hdone hrejected
  · rw [Bool.and_eq_true, decide_eq_true_eq, Bool.not_eq_true'] at hrest
    exact .inl ⟨hdone, hrest⟩
  · rw [Bool.and_eq_true, Bool.and_eq_true, decide_eq_true_eq] at hrest
    exact .inr ⟨hrejected, hrest.1.1⟩

theorem known_of_trusted {o : Observation} {a : ObservationAcknowledgement}
    (h : trusted o a = true) : Known a := by
  rcases (trusted_spec h).2.2 with ⟨hd | hd, _⟩ | hd
  · exact .inl hd
  · exact .inr (.inl hd)
  · exact .inr (.inr hd.1)

theorem known_of_forall₂ {batch : List Observation} {acks : List ObservationAcknowledgement}
    (h : List.Forall₂ (fun o a => trusted o a = true) batch acks) : ∀ a ∈ acks, Known a := by
  induction h with
  | nil => exact fun _ ha => by cases ha
  | cons hone _ ih =>
    exact List.forall_mem_cons.mpr ⟨known_of_trusted hone, ih⟩

theorem forall₂_of_allTrusted {seen : List (String × String)}
    {batch : List Observation} {acks : List ObservationAcknowledgement}
    (hlength : batch.length = acks.length) (h : allTrusted seen batch acks = true) :
    List.Forall₂ (fun o a => trusted o a = true) batch acks := by
  induction batch generalizing seen acks with
  | nil =>
    cases acks with
    | nil => exact .nil
    | cons => cases hlength
  | cons o batch ih =>
    cases acks with
    | nil => cases hlength
    | cons a acks =>
      rw [allTrusted, Bool.and_eq_true, Bool.and_eq_true] at h
      exact .cons h.1.2 (ih (Nat.succ.inj hlength) h.2)

/-- Acknowledgements are applied as a whole, or not at all. -/
theorem applyAcknowledgements_settles {batch : List Observation}
    {acks : List ObservationAcknowledgement} (hnodup : (batch.map Observation.key).Nodup)
    (h : applyAcknowledgements s batch acks now = .ok s') :
    List.Forall₂ (fun o a => trusted o a = true) batch acks ∧
      s'.pending = s.pending.filterMap (fun row =>
        settledRow now row (answerFor (batch.zip acks) row.key)) ∧
      s'.rejected = s.rejected ++ (batch.zip acks).filterMap (rejectedRow now) ∧
      s'.synchronization.consecutiveFailureCount = 0 := by
  unfold applyAcknowledgements at h
  split at h
  · cases h
  · next hvalid =>
      rw [Bool.not_eq_true, Bool.not_eq_false', validateAcknowledgements,
        Bool.and_eq_true, Bool.and_eq_true, decide_eq_true_eq] at hvalid
      obtain ⟨⟨_, hlength⟩, htrusted⟩ := hvalid
      rw [decide_eq_true_eq] at hlength
      have hall := forall₂_of_allTrusted hlength htrusted
      split at h
      · cases h
      · next t hloop =>
          cases h
          obtain ⟨hpending, hrejected⟩ :=
            applyLoop_settles hnodup (known_of_forall₂ hall) hloop
          exact ⟨hall, hpending, hrejected, rfl⟩

/-! ## One upload -/

theorem startUpload_nodup {raw : RawJson} {batchId : String} {batch : Batch}
    (hkeys : (s.pending.map Observation.key).Nodup)
    (h : startUpload raw s now batchId = .send batch) :
    (batch.observations.map Observation.key).Nodup := by
  obtain ⟨first, rest, hready, hselect, _⟩ := startUpload_inv h
  exact (readyObservations_nodup hkeys hready).sublist
    ((selectRows_isPrefix hselect).sublist.map _)

/-- The tables are as they were and one more failure is counted. -/
def Failed (s s' : Store) : Prop :=
  s'.pending = s.pending ∧ s'.rejected = s.rejected ∧ s'.synchronization.consecutiveFailureCount =
      s.synchronization.consecutiveFailureCount + 1

theorem recordFailure_failed (clock : UploadClock) (failureCount : ℕ) (server : ℤ) (s : Store) :
    Failed s (recordFailure clock failureCount server s) :=
  ⟨rfl, rfl, rfl⟩

/-- JSON texts are taken as they are. -/
def plainJson : RawJson := ⟨fun _ => true, id⟩

def queuedObservation (id : String) : Observation where
  scheduledAt := 60 * second
  observationId := id
  monitorId := "m"
  monitorRevision := 1
  agentConfigRevision := 1
  probeType := "tcp"
  canonicalPayload := "null".toList
  createdAt := 60 * second
  nextAttemptAt := 60 * second

def steadyClock (now : ℤ) : UploadClock := ⟨now, now, fun _ => 0, 0⟩

end Bifrostnms.Proofs
