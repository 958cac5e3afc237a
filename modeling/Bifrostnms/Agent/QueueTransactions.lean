import Bifrostnms.Agent.Storage
import Bifrostnms.Lib.Transaction

/-!
# The transactions of the queue (`storage/observations.go`,
`storage/acknowledgements.go`)

The three functions that change the queue, call by call of the driver, with the
texts that errors are wrapped with. Any call may fail. A statement may also fail
by a constraint of its table: the primary keys, and that a payload is not empty.
-/

namespace Bifrostnms.Agent

open Bifrostnms.Lib Bifrostnms.Lib.TxProgram

/-- The text of the driver for a violated constraint. -/
def constraintFailed : String := "constraint failed"

/-! ## Enqueueing -/

/-- `INSERT INTO pending_observations`. -/
def Store.insertPending (row : Observation) (s : Store) : Except String (Unit × Store) :=
  if s.pending.any (fun r => r.key == row.key) ∨ row.canonicalPayload = [] then
    .error constraintFailed
  else .ok ((), { s with pending := s.pending ++ [row] })

/-- `SELECT COUNT(*), COALESCE(SUM(payload_size_bytes), 0)` -/
def Store.pendingSize (s : Store) : ℤ × ℤ :=
  (s.pending.length, (s.pending.map fun row => (payloadSize row.canonicalPayload : ℤ)).sum)

def observationAlreadyQueuedTx (o : Observation) : TxProgram Store Bool := do
  let found ← query "check pending observation identity: " fun s => s.findPending o.key
  match found with
  | none => pure false
  | some row =>
    if row.canonicalPayload = o.canonicalPayload then pure true
    else fail EnqueueError.conflict.message

/-- The transaction of `EnqueueObservation`. -/
def insertUnlessQueued (o : Observation) (limits : QueueLimits) : TxProgram Store Unit := do
  let duplicate ← observationAlreadyQueuedTx o
  if duplicate then commit ""
  else do
    let (count, size) ← query "read pending queue size: " Store.pendingSize
    if limits.maxCount < count + 1 ∨ limits.maxBytes < size + payloadSize o.canonicalPayload then
      fail EnqueueError.queueFull.message
    else do
      exec "insert pending observation: " (Store.insertPending o.inserted)
      commit "commit observation enqueue: "

/-- `EnqueueObservation`. -/
def enqueueObservationTx (observation : Observation) (limits : QueueLimits) (clock : ℤ) :
    TxProgram Store Unit :=
  if observation.observationId = "" ∨ observation.monitorId = "" ∨
      observation.monitorRevision < 1 ∨ observation.agentConfigRevision < 1 ∨
      observation.probeType = "" ∨ observation.canonicalPayload = [] then
    fail EnqueueError.fields.message
  else if limits.maxCount < 1 ∨ limits.maxBytes < 1 then fail EnqueueError.limits.message
  else transaction "begin observation enqueue: "
    (insertUnlessQueued (observation.withTimes clock) limits)

/-! ## Leaving the queue -/

/-- `INSERT INTO rejected_observations`. -/
def Store.insertRejectedRow (row : RejectedObservation) (s : Store) :
    Except String (Unit × Store) :=
  if row.canonicalPayload = [] then .error constraintFailed
  else
    match s.insertRejected row with
    | none => .error constraintFailed
    | some s' => .ok ((), s')

/-- `DELETE FROM pending_observations` -/
def Store.deletePendingRow (key : String × String) (s : Store) :
    Except String (Unit × Store) := .ok ((), s.deletePending key)

/-- `INSERT INTO rejected_observations … SELECT … FROM pending_observations`, with the
number of rows. -/
def Store.moveRejected (key : String × String) (code details : String) (now : ℤ)
    (s : Store) : Except String (ℕ × Store) :=
  match s.findPending key with
  | none => .ok (0, s)
  | some row => (s.insertRejectedRow ⟨row.scheduledAt, row.observationId,
      row.canonicalPayload, code, details, now⟩).map fun p => (1, p.2)

/-- The transaction of `QuarantineObservation`. -/
def quarantineRow (key : String × String) (code details : String) (now : ℤ) :
    TxProgram Store Unit := do
  let inserted ← exec "quarantine local observation: "
    (Store.moveRejected key code details now)
  if inserted ≠ 1 then fail "quarantine local observation: pending row not found"
  else do
    exec "remove locally quarantined observation: " (Store.deletePendingRow key)
    commit "commit local observation quarantine: "

/-- `QuarantineObservation`. -/
def quarantineObservationTx (observation : Observation) (code details : String)
    (now : ℤ) : TxProgram Store Unit :=
  if code = "" ∨ maxRejectionDetailsBytes < payloadSize details.toList then
    fail "valid bounded rejection details are required"
  else transaction "begin local observation quarantine: "
    (quarantineRow observation.key code details now)

/-- `UPDATE pending_observations` for a retry. -/
def Store.retryPending (key : String × String) (a : ObservationAcknowledgement) (now : ℤ)
    (s : Store) : Except String (Unit × Store) :=
  .ok ((), { s with pending := s.pending.map fun row =>
    if row.key = key then row.retried a now else row })

/-- The body of the loop of `ApplyAcknowledgements`. -/
def applyAcknowledgementTx (now : ℤ) (o : Observation) (a : ObservationAcknowledgement) :
    TxProgram Store Unit :=
  if a.disposition = dispositionAccepted ∨ a.disposition = dispositionDuplicate then
    exec "delete acknowledged observation: " (Store.deletePendingRow o.key)
  else if a.disposition = dispositionRejected then
    if a.retryable then
      exec "schedule observation retry: " (Store.retryPending o.key a now)
    else do
      exec "quarantine rejected observation: " (Store.insertRejectedRow
        ⟨o.scheduledAt, o.observationId, o.canonicalPayload, a.code, a.details, now⟩)
      exec "remove quarantined observation: " (Store.deletePendingRow o.key)
  else pure ()

def applyLoopTx (now : ℤ) : List Observation → List ObservationAcknowledgement →
    TxProgram Store Unit
  | o :: batch, a :: acknowledgements => do
      applyAcknowledgementTx now o a
      applyLoopTx now batch acknowledgements
  | _, _ => pure ()

/-- `UPDATE synchronization_state` after an upload. -/
def Store.synchronized (now : ℤ) (s : Store) : Except String (Unit × Store) :=
  .ok ((), { s with synchronization :=
    { lastSuccessfulContactAt := some now
      lastSuccessfulUploadAt := some now
      consecutiveFailureCount := 0
      serverBackoffUntil := none } })

/-- The transaction of `ApplyAcknowledgements`. -/
def settleBatch (now : ℤ) (batch : List Observation)
    (acknowledgements : List ObservationAcknowledgement) : TxProgram Store Unit := do
  applyLoopTx now batch acknowledgements
  exec "update synchronization success: " (Store.synchronized now)
  commit "commit acknowledgement cleanup: "

/-- `ApplyAcknowledgements`. -/
def applyAcknowledgementsTx (batch : List Observation)
    (acknowledgements : List ObservationAcknowledgement) (now : ℤ) : TxProgram Store Unit :=
  if !validateAcknowledgements batch acknowledgements then
    fail "upload acknowledgement does not match batch"
  else transaction "begin acknowledgement cleanup: " (settleBatch now batch acknowledgements)

/-! ## Calls -/

inductive QueueCall where
  | enqueue (observation : Observation) (limits : QueueLimits) (clock : ℤ)
  | applyAcknowledgements (batch : List Observation)
      (acknowledgements : List ObservationAcknowledgement) (now : ℤ)
  | quarantine (observation : Observation) (code details : String) (now : ℤ)

def QueueCall.program : QueueCall → TxProgram Store Unit
  | .enqueue observation limits clock => enqueueObservationTx observation limits clock
  | .applyAcknowledgements batch acknowledgements now =>
    applyAcknowledgementsTx batch acknowledgements now
  | .quarantine observation code details now =>
    quarantineObservationTx observation code details now

/-- A call, and what fails of the driver in it. -/
structure QueueEvent where
  call : QueueCall
  failures : List (Option String) := []

/-- What the call returns, and the store it leaves. -/
def Store.perform (s : Store) (e : QueueEvent) : Except String Unit × Store :=
  let (result, c) := e.call.program { committed := s, failures := e.failures }
  (result, c.committed)

/-- A call is always possible. -/
def queueStep (s : Store) (e : QueueEvent) : Option Store := some (s.perform e).2

end Bifrostnms.Agent
