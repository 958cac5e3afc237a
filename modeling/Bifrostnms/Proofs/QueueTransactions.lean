import Bifrostnms.Agent.QueueTransactions
import Bifrostnms.Lib.Checks
import Bifrostnms.Proofs.Queue

/-!
# The transactions of the queue are its operations

`Storage` has the operations of the queue as functions on the tables. Here the
functions of the source, call by call of the driver, are shown to be these
operations: a call that returns without an error has done the operation, and one
that returns an error has left the tables as they were, whichever call of the
driver failed (`perform_cases`). In the other direction an operation that is
possible is done when the driver does not fail (`perform_ok`); what the tables
check beside their keys is that a payload is not empty.
-/

namespace Bifrostnms.Proofs

open Bifrostnms.Lib Bifrostnms.Lib.TxProgram Bifrostnms.Agent

variable {s s' : Store} {o : Observation} {limits : QueueLimits} {now clock : ℤ}

/-! ## Enqueueing -/

/-- `observationAlreadyQueuedTx` once the row was looked up. -/
def queuedAs (o : Observation) : Option Observation → Store → Except String (Bool × Store)
  | none, s => .ok (false, s)
  | some row, s =>
    if row.canonicalPayload = o.canonicalPayload then .ok (true, s)
    else .error EnqueueError.conflict.message

theorem observationAlreadyQueuedTx_does (o : Observation) :
    Does (observationAlreadyQueuedTx o) fun s =>
      ((observationAlreadyQueued s o).mapError EnqueueError.message).map fun b => (b, s) := by
  refine Does.of_eq (Does.bind (does_query _ _) (g := queuedAs o) fun found => ?_) fun s => ?_
  · cases found with
    | none => exact does_pure false
    | some row =>
      unfold queuedAs
      dsimp only
      split
      · exact does_pure true
      · exact does_fail _
  · show queuedAs o (s.findPending o.key) s = _
    unfold observationAlreadyQueued
    cases s.findPending o.key with
    | none => rfl
    | some row =>
      unfold queuedAs
      dsimp only
      split <;> rfl

/-- What the transaction of `EnqueueObservation` does with a payload that is not
empty. -/
def enqueueEffect (o : Observation) (limits : QueueLimits) (s : Store) :
    Except String (Unit × Store) :=
  match observationAlreadyQueued s o with
  | .error e => .error e.message
  | .ok true => .ok ((), s)
  | .ok false =>
    if limits.maxCount < (s.pending.length : ℤ) + 1 ∨ limits.maxBytes < (s.pending.map fun row =>
          (payloadSize row.canonicalPayload : ℤ)).sum + payloadSize o.canonicalPayload then
      .error EnqueueError.queueFull.message
    else .ok ((), { s with pending := s.pending ++ [o.inserted] })

theorem insertPending_eq (hfind : s.findPending o.key = none) (hpayload : o.canonicalPayload ≠ []) :
    s.insertPending o.inserted = .ok ((), { s with pending := s.pending ++ [o.inserted] }) := by
  have hfresh : ¬(s.pending.any fun r => r.key == o.inserted.key) = true := by
    have hfresh := findPending_eq_none.mp hfind
    rw [List.any_eq_true]
    intro ⟨row, hrow, hkey⟩
    exact hfresh row hrow (beq_iff_eq.mp hkey)
  exact if_neg (not_or.mpr ⟨hfresh, hpayload⟩)

theorem insertUnlessQueued_commits (hpayload : o.canonicalPayload ≠ []) :
    Commits (insertUnlessQueued o limits) (enqueueEffect o limits) := by
  refine Commits.of_eq (Does.bindCommits (observationAlreadyQueuedTx_does o)
    (g := fun duplicate s =>
      if duplicate then .ok ((), s)
      else if limits.maxCount < s.pendingSize.1 + 1 ∨
          limits.maxBytes < s.pendingSize.2 + payloadSize o.canonicalPayload then
        .error EnqueueError.queueFull.message
      else ((s.insertPending o.inserted).mapError ("insert pending observation: " ++ ·))) ?_) ?_
  · intro duplicate
    cases duplicate with
    | true => exact commits_commit ""
    | false =>
      refine Commits.of_eq (Does.bindCommits (does_query _ _)
        (g := fun size s =>
          if limits.maxCount < size.1 + 1 ∨
              limits.maxBytes < size.2 + payloadSize o.canonicalPayload then
            .error EnqueueError.queueFull.message
          else ((s.insertPending o.inserted).mapError
            ("insert pending observation: " ++ ·))) ?_) fun s => rfl
      intro size
      dsimp only
      split
      · exact commits_fail _
      · refine Commits.of_eq (Does.bindCommits (does_exec _ _)
          fun _ => commits_commit _) fun s => ?_
        cases s.insertPending o.inserted <;> rfl
  · intro s
    unfold enqueueEffect
    cases hqueued : observationAlreadyQueued s o with
    | error e => rfl
    | ok duplicate =>
      cases duplicate with
      | true => rfl
      | false =>
        have hfind : s.findPending o.key = none := by
          unfold observationAlreadyQueued at hqueued
          split at hqueued
          · assumption
          · split at hqueued <;> cases hqueued
        show ite _ _ _ = _
        rw [insertPending_eq hfind hpayload]
        rfl

theorem enqueueObservationTx_refines (o : Observation) (limits : QueueLimits) (clock : ℤ) :
    Refines (enqueueObservationTx o limits clock) fun s =>
      ((enqueueObservation s o limits clock).mapError EnqueueError.message).map
        fun s' => ((), s') := by
  unfold enqueueObservationTx
  split
  · next hfields =>
      refine (refines_fail _).of_eq fun s => ?_
      unfold enqueueObservation
      rw [if_pos hfields]
      rfl
  · next hfields =>
      split
      · next hlimits =>
          refine (refines_fail _).of_eq fun s => ?_
          unfold enqueueObservation
          rw [if_neg hfields, if_pos hlimits]
          rfl
      · next hlimits =>
          have hpayload : (o.withTimes clock).canonicalPayload ≠ [] := by
            simp only [not_or] at hfields
            exact hfields.2.2.2.2.2
          refine ((insertUnlessQueued_commits hpayload).transaction _).of_eq fun s => ?_
          unfold enqueueObservation enqueueEffect
          rw [if_neg hfields, if_neg hlimits]
          dsimp only
          cases observationAlreadyQueued s (o.withTimes clock) with
          | error e => rfl
          | ok duplicate =>
            cases duplicate with
            | true => rfl
            | false =>
              dsimp only
              split <;> rfl

/-! ## Leaving the queue -/

theorem insertRejectedRow_eq_ok {row : RejectedObservation} :
    s.insertRejectedRow row = .ok ((), s') ↔
      row.canonicalPayload ≠ [] ∧ s.insertRejected row = some s' := by
  unfold Store.insertRejectedRow
  split
  · next h => simp [h]
  · next h => cases hinsert : s.insertRejected row <;> simp [h]

/-- What the transaction of `QuarantineObservation` does. -/
def quarantineEffect (key : String × String) (code details : String) (now : ℤ)
    (s : Store) : Except String (Unit × Store) :=
  match s.findPending key with
  | none => .error "quarantine local observation: pending row not found"
  | some row =>
    match s.insertRejectedRow ⟨row.scheduledAt, row.observationId, row.canonicalPayload,
        code, details, now⟩ with
    | .error text => .error ("quarantine local observation: " ++ text)
    | .ok (_, s') => .ok ((), s'.deletePending key)

theorem quarantineRow_commits (key : String × String) (code details : String) (now : ℤ) :
    Commits (quarantineRow key code details now) (quarantineEffect key code details now) := by
  refine Commits.of_eq (Does.bindCommits (does_exec _ _)
    (g := fun inserted s =>
      if inserted ≠ 1 then .error "quarantine local observation: pending row not found"
      else .ok ((), s.deletePending key)) fun inserted => ?_) fun s => ?_
  · split
    · exact commits_fail _
    · exact (Does.bindCommits (does_exec _ _) fun _ => commits_commit _).of_eq fun s => rfl
  · unfold quarantineEffect Store.moveRejected
    cases s.findPending key with
    | none => rfl
    | some row =>
      dsimp only
      cases s.insertRejectedRow ⟨row.scheduledAt, row.observationId,
        row.canonicalPayload, code, details, now⟩ <;> rfl

theorem quarantineObservationTx_refines (o : Observation) (code details : String) (now : ℤ) :
    Refines (quarantineObservationTx o code details now) fun s =>
      if code = "" ∨ maxRejectionDetailsBytes < payloadSize details.toList then
        .error "valid bounded rejection details are required"
      else quarantineEffect o.key code details now s := by
  unfold quarantineObservationTx
  split
  · exact refines_fail _
  · exact (quarantineRow_commits _ _ _ _).transaction _

/-- What the statements for one acknowledgement do. -/
def acknowledgementEffect (now : ℤ) (o : Observation) (a : ObservationAcknowledgement)
    (s : Store) : Except String (Unit × Store) :=
  if a.disposition = dispositionAccepted ∨ a.disposition = dispositionDuplicate then
    .ok ((), s.deletePending o.key)
  else if a.disposition = dispositionRejected then
    if a.retryable then
      .ok ((), { s with pending := s.pending.map fun row =>
        if row.key = o.key then row.retried a now else row })
    else
      match s.insertRejectedRow ⟨o.scheduledAt, o.observationId, o.canonicalPayload, a.code,
          a.details, now⟩ with
      | .error text => .error ("quarantine rejected observation: " ++ text)
      | .ok (_, s') => .ok ((), s'.deletePending o.key)
  else .ok ((), s)

theorem applyAcknowledgementTx_does (now : ℤ) (o : Observation) (a : ObservationAcknowledgement) :
    Does (applyAcknowledgementTx now o a) (acknowledgementEffect now o a) := by
  unfold applyAcknowledgementTx acknowledgementEffect
  split
  · exact does_exec _ _
  · split
    · split
      · exact does_exec _ _
      · refine (Does.bind (does_exec _ _) fun _ => does_exec _ _).of_eq fun s => ?_
        cases s.insertRejectedRow ⟨o.scheduledAt, o.observationId, o.canonicalPayload,
          a.code, a.details, now⟩ <;> rfl
    · exact does_pure ()

def loopEffect (now : ℤ) : List Observation → List ObservationAcknowledgement → Store →
    Except String (Unit × Store)
  | o :: batch, a :: acks, s =>
    acknowledgementEffect now o a s >>= fun p => loopEffect now batch acks p.2
  | _, _, s => .ok ((), s)

theorem applyLoopTx_does (now : ℤ) : ∀ (batch : List Observation)
    (acks : List ObservationAcknowledgement),
    Does (applyLoopTx now batch acks) (loopEffect now batch acks)
  | [], _ => does_pure ()
  | _ :: _, [] => does_pure ()
  | o :: batch, a :: acks =>
    (applyAcknowledgementTx_does now o a).bind fun _ => applyLoopTx_does now batch acks

theorem applyAcknowledgementsTx_refines (batch : List Observation)
    (acks : List ObservationAcknowledgement) (now : ℤ) :
    Refines (applyAcknowledgementsTx batch acks now) fun s =>
      if !validateAcknowledgements batch acks then
        .error "upload acknowledgement does not match batch"
      else loopEffect now batch acks s >>= fun p => p.2.synchronized now := by
  unfold applyAcknowledgementsTx
  split
  · exact refines_fail _
  · refine Refines.of_eq (Commits.transaction _ (Does.bindCommits (applyLoopTx_does now batch acks)
      fun _ => Does.bindCommits (does_exec _ _) fun _ => commits_commit _)) fun s => ?_
    cases loopEffect now batch acks s <;> rfl

/-- One acknowledgement, in both forms. -/
theorem acknowledgementEffect_eq_ok {a : ObservationAcknowledgement} :
    acknowledgementEffect now o a s = .ok ((), s') ↔ applyAcknowledgement now s o a = some s' ∧
      (a.disposition = dispositionRejected → a.retryable = false → o.canonicalPayload ≠ []) := by
  unfold acknowledgementEffect applyAcknowledgement
  by_cases hdone : a.disposition = dispositionAccepted ∨ a.disposition = dispositionDuplicate
  · have hnot : a.disposition ≠ dispositionRejected := by
      rcases hdone with h | h <;> rw [h] <;> decide
    rw [if_pos hdone, if_pos hdone]
    simp [hnot]
  · rw [if_neg hdone, if_neg hdone]
    by_cases hrejected : a.disposition = dispositionRejected
    · rw [if_pos hrejected, if_pos hrejected]
      cases hretryable : a.retryable with
      | true => simp
      | false =>
        have hinsert := @insertRejectedRow_eq_ok s
        rw [if_neg Bool.false_ne_true, if_neg Bool.false_ne_true]
        cases heffect : s.insertRejectedRow ⟨o.scheduledAt, o.observationId,
            o.canonicalPayload, a.code, a.details, now⟩ with
        | error text =>
          simp only [reduceCtorEq, false_iff, not_and, Option.map_eq_some_iff]
          rintro ⟨t, ht, -⟩ hpayload
          have := hinsert.mpr ⟨hpayload hrejected trivial, ht⟩
          rw [heffect] at this
          cases this
        | ok p =>
          obtain ⟨hpayload, hsome⟩ := hinsert.mp heffect
          rw [hsome]
          simp only [Option.map_some, Option.some.injEq, Except.ok.injEq, Prod.mk.injEq, true_and]
          exact ⟨fun h => ⟨h, fun _ _ => hpayload⟩, fun h => h.1⟩
    · rw [if_neg hrejected, if_neg hrejected]
      simp [hrejected]

theorem applyLoop_of_loopEffect {batch : List Observation} {acks : List ObservationAcknowledgement}
    (h : loopEffect now batch acks s = .ok ((), s')) : applyLoop now batch acks s = some s' := by
  induction batch generalizing acks s with
  | nil =>
    cases h
    rfl
  | cons o batch ih =>
    cases acks with
    | nil =>
      cases h
      rfl
    | cons a acks =>
      obtain ⟨p, hone, hrest⟩ := bind_eq_ok.mp h
      have hone := (acknowledgementEffect_eq_ok.mp hone).1
      show (applyAcknowledgement now s o a).bind _ = _
      rw [hone]
      exact ih hrest

theorem loopEffect_of_applyLoop {batch : List Observation} {acks : List ObservationAcknowledgement}
    (hpayload : ∀ o ∈ batch, o.canonicalPayload ≠ []) (h : applyLoop now batch acks s = some s') :
    loopEffect now batch acks s = .ok ((), s') := by
  induction batch generalizing acks s with
  | nil =>
    cases h
    rfl
  | cons o batch ih =>
    cases acks with
    | nil =>
      cases h
      rfl
    | cons a acks =>
      obtain ⟨t, hone, hrest⟩ := Option.bind_eq_some_iff.mp h
      have hone := acknowledgementEffect_eq_ok.mpr
        ⟨hone, fun _ _ => hpayload o List.mem_cons_self⟩
      show (acknowledgementEffect now o a s >>= _) = _
      rw [hone]
      exact ih (fun o' ho' => hpayload o' (List.mem_cons_of_mem o ho')) hrest

/-! ## Calls -/

/-- The operation of a call. -/
def QueueEffect (s : Store) : QueueCall → Store → Prop
  | .enqueue o limits clock, s' => enqueueObservation s o limits clock = .ok s'
  | .applyAcknowledgements batch acks now, s' =>
    applyAcknowledgements s batch acks now = .ok s'
  | .quarantine o code details now, s' =>
    quarantineObservation s o code details now = .ok s'

/-- The rows of a call that its statements may write to the rejected ones have a
payload. -/
def HasPayloads (s : Store) : QueueCall → Prop
  | .enqueue _ _ _ => True
  | .applyAcknowledgements batch _ _ => ∀ o ∈ batch, o.canonicalPayload ≠ []
  | .quarantine _ _ _ _ => ∀ row ∈ s.pending, row.canonicalPayload ≠ []

/-- What a call returns without failures of the driver. -/
def callEffect (s : Store) : QueueCall → Except String (Unit × Store)
  | .enqueue o limits clock =>
    ((enqueueObservation s o limits clock).mapError EnqueueError.message).map
      fun s' => ((), s')
  | .applyAcknowledgements batch acks now =>
    if !validateAcknowledgements batch acks then
      .error "upload acknowledgement does not match batch"
    else loopEffect now batch acks s >>= fun p => p.2.synchronized now
  | .quarantine o code details now =>
    if code = "" ∨ maxRejectionDetailsBytes < payloadSize details.toList then
      .error "valid bounded rejection details are required"
    else quarantineEffect o.key code details now s

theorem program_refines (call : QueueCall) : Refines call.program fun s => callEffect s call := by
  cases call with
  | enqueue o limits clock => exact enqueueObservationTx_refines o limits clock
  | applyAcknowledgements batch acks now => exact applyAcknowledgementsTx_refines batch acks now
  | quarantine o code details now => exact quarantineObservationTx_refines o code details now

theorem queueEffect_of_callEffect {call : QueueCall}
    (h : callEffect s call = .ok ((), s')) : QueueEffect s call s' := by
  cases call with
  | enqueue o limits clock =>
    show enqueueObservation s o limits clock = .ok s'
    cases heffect : enqueueObservation s o limits clock with
    | error e =>
      rw [callEffect, heffect] at h
      cases h
    | ok t =>
      rw [callEffect, heffect] at h
      cases h
      rfl
  | applyAcknowledgements batch acks now =>
    show applyAcknowledgements s batch acks now = .ok s'
    rw [callEffect] at h
    unfold applyAcknowledgements
    split at h
    · cases h
    · next hvalid =>
        obtain ⟨p, hloop, hsync⟩ := bind_eq_ok.mp h
        rw [if_neg hvalid, applyLoop_of_loopEffect hloop]
        cases hsync
        rfl
  | quarantine o code details now =>
    show quarantineObservation s o code details now = .ok s'
    rw [callEffect] at h
    unfold quarantineObservation
    split at h
    · cases h
    · next hvalid =>
        rw [if_neg hvalid]
        unfold quarantineEffect at h
        cases hfind : s.findPending o.key with
        | none =>
          rw [hfind] at h
          cases h
        | some row =>
          rw [hfind] at h
          dsimp only at h ⊢
          split at h
          · cases h
          · next t hinsert =>
              cases h
              rw [(insertRejectedRow_eq_ok.mp hinsert).2]

theorem callEffect_of_queueEffect {call : QueueCall} (hpayloads : HasPayloads s call)
    (h : QueueEffect s call s') : callEffect s call = .ok ((), s') := by
  cases call with
  | enqueue o limits clock =>
    have h : enqueueObservation s o limits clock = .ok s' := h
    rw [callEffect, h]
    rfl
  | applyAcknowledgements batch acks now =>
    have h : applyAcknowledgements s batch acks now = .ok s' := h
    unfold applyAcknowledgements at h
    rw [callEffect]
    split at h
    · cases h
    · next hvalid =>
        split at h
        · cases h
        · next t hloop =>
            cases h
            rw [if_neg hvalid, loopEffect_of_applyLoop hpayloads hloop]
            rfl
  | quarantine o code details now =>
    have h : quarantineObservation s o code details now = .ok s' := h
    unfold quarantineObservation at h
    rw [callEffect]
    split at h
    · cases h
    · next hvalid =>
        rw [if_neg hvalid]
        split at h
        · cases h
        · next row hfind =>
            have hpayload : row.canonicalPayload ≠ [] :=
              hpayloads row (findPending_eq_some hfind).1
            split at h
            · cases h
            · next t hinsert =>
                cases h
                rw [quarantineEffect, hfind]
                dsimp only
                rw [insertRejectedRow_eq_ok.mpr ⟨hpayload, hinsert⟩]

/-- A call does its operation, or returns an error and leaves the store as it
was. -/
theorem perform_cases (s : Store) (e : QueueEvent) :
    (∃ message, s.perform e = (.error message, s)) ∨
      ∃ s', s.perform e = (.ok (), s') ∧ QueueEffect s e.call s' := by
  unfold Store.perform
  obtain ⟨message, c, hrun, hcommitted, -⟩ | ⟨_, c, hrun, heffect⟩ :=
    (program_refines e.call).perform s e.failures
  · rw [hrun]
    dsimp only
    rw [hcommitted]
    exact .inl ⟨message, rfl⟩
  · rw [hrun]
    exact .inr ⟨c.committed, rfl, queueEffect_of_callEffect heffect⟩

/-- An operation that is possible is done if the driver does not fail. -/
theorem perform_ok {call : QueueCall} (hpayloads : HasPayloads s call)
    (h : QueueEffect s call s') : s.perform ⟨call, []⟩ = (.ok (), s') := by
  have heffect := callEffect_of_queueEffect hpayloads h
  unfold Store.perform
  obtain ⟨message, c, hrun, -, herror⟩ | ⟨_, c, hrun, hdone⟩ :=
    (program_refines call).perform s []
  · rw [heffect] at herror
    cases herror rfl
  · rw [heffect] at hdone
    rw [hrun]
    cases hdone
    rfl

end Bifrostnms.Proofs
