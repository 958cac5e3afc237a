import Bifrostnms.Agent.Scheduler
import Mathlib.Data.List.Sort

/-!
# The observation queue (`storage/observations.go`, `storage/acknowledgements.go`)

The agent keeps every observation in `pending_observations` until the control
plane has answered for it; what was refused for good moves to
`rejected_observations`. A time is stored as text, so rows are found and
compared by their texts (`formatTime`); a stored time is read back unchanged.
Each operation is one SQLite transaction: it returns the tables it leaves
behind, or an error, and then the tables are as before.
-/

namespace Bifrostnms.Agent

open Bifrostnms.Lib

/-- The text of a stored time. -/
def formatTime (t : ℤ) : String := String.ofList (rfc3339Nano t)

/-- An observation, and the row of `pending_observations` it is stored in. -/
structure Observation where
  scheduledAt : ℤ
  observationId : String
  monitorId : String
  monitorRevision : ℤ
  agentConfigRevision : ℤ
  probeType : String
  canonicalPayload : List Char
  createdAt : ℤ
  attemptCount : ℕ := 0
  nextAttemptAt : ℤ := zeroTime
  lastAttemptAt : Option ℤ := none
  lastErrorCode : Option String := none

/-- The primary key of both tables. -/
def Observation.key (o : Observation) : String × String :=
  (formatTime o.scheduledAt, o.observationId)

/-- The length of a payload in bytes. -/
def payloadSize (payload : List Char) : ℕ := (utf8 payload).length

/-- A row of `rejected_observations`. -/
structure RejectedObservation where
  scheduledAt : ℤ
  observationId : String
  canonicalPayload : List Char
  rejectionCode : String
  rejectionDetails : String
  rejectedAt : ℤ

def RejectedObservation.key (r : RejectedObservation) : String × String :=
  (formatTime r.scheduledAt, r.observationId)

/-- The row of `synchronization_state`. -/
structure SynchronizationState where
  lastSuccessfulContactAt : Option ℤ := none
  lastSuccessfulUploadAt : Option ℤ := none
  consecutiveFailureCount : ℕ := 0
  serverBackoffUntil : Option ℤ := none

structure Store where
  pending : List Observation := []
  rejected : List RejectedObservation := []
  synchronization : SynchronizationState := {}

structure QueueLimits where
  maxCount : ℤ
  maxBytes : ℤ

/-! ## Enqueueing -/

inductive EnqueueError where
  | fields
  | limits
  | conflict
  | queueFull
deriving DecidableEq

def EnqueueError.message : EnqueueError → String
  | .fields => "observation fields are required"
  | .limits => "positive queue limits are required"
  | .conflict => "observation identity has different content"
  | .queueFull => "pending observation queue limit reached"

/-- The defaults for a creation time and a first attempt that are not set. -/
def Observation.withTimes (o : Observation) (clock : ℤ) : Observation :=
  let createdAt := if o.createdAt = zeroTime then clock else o.createdAt
  { o with
    createdAt := createdAt
    nextAttemptAt :=
      if o.nextAttemptAt = zeroTime then createdAt else o.nextAttemptAt }

def Store.findPending (s : Store) (key : String × String) : Option Observation :=
  s.pending.find? fun row => row.key == key

/-- `observationAlreadyQueued`. -/
def observationAlreadyQueued (s : Store) (o : Observation) : Except EnqueueError Bool :=
  match s.findPending o.key with
  | none => .ok false
  | some row =>
    if row.canonicalPayload = o.canonicalPayload then .ok true
    else .error .conflict

/-- The columns of a new row; the others have their defaults. -/
def Observation.inserted (o : Observation) : Observation :=
  { o with lastAttemptAt := none, lastErrorCode := none }

/-- `EnqueueObservation`. -/
def enqueueObservation (s : Store) (observation : Observation)
    (limits : QueueLimits) (clock : ℤ) : Except EnqueueError Store :=
  if observation.observationId = "" ∨ observation.monitorId = "" ∨
      observation.monitorRevision < 1 ∨ observation.agentConfigRevision < 1 ∨
      observation.probeType = "" ∨ observation.canonicalPayload = [] then
    .error .fields
  else if limits.maxCount < 1 ∨ limits.maxBytes < 1 then .error .limits
  else
    let o := observation.withTimes clock
    match observationAlreadyQueued s o with
    | .error e => .error e
    | .ok true => .ok s
    | .ok false =>
      let count : ℤ := s.pending.length
      let size : ℤ := (s.pending.map fun row =>
        (payloadSize row.canonicalPayload : ℤ)).sum
      if limits.maxCount < count + 1 ∨ limits.maxBytes < size + payloadSize o.canonicalPayload then
        .error .queueFull
      else .ok { s with pending := s.pending ++ [o.inserted] }

/-- `Truncate(time.Microsecond)`. -/
def truncateMicro (t : ℤ) : ℤ := t - t % 1000

/-- What `RecordExecution` encodes: its times cut to microseconds. -/
def Execution.truncated (e : Execution) : Execution :=
  { e with
    request := { e.request with
      scheduledAt := truncateMicro e.request.scheduledAt }
    result := { e.result with
      startedAt := truncateMicro e.result.startedAt
      finishedAt := truncateMicro e.result.finishedAt } }

/-- The observation that `RecordExecution` hands to the queue. -/
def recordedObservation (e : Execution) (payload : List Char) (createdAt : ℤ) : Observation where
  scheduledAt := e.request.scheduledAt
  observationId := e.request.observationId
  monitorId := e.request.monitorId
  monitorRevision := e.request.monitorRevision
  agentConfigRevision := e.request.agentConfigRevision
  probeType := e.probeType
  canonicalPayload := payload
  createdAt := createdAt

/-- `Engine.RecordExecution`. -/
def recordExecution (s : Store) (limits : QueueLimits) (execution : Execution)
    (createdAt clock : ℤ) : Except String Store :=
  let e := execution.truncated
  match encodeObservation e.probeType e.request e.result none with
  | .error err => .error ("encode completed probe execution: " ++ err)
  | .ok payload =>
    match enqueueObservation s (recordedObservation e payload createdAt)
        limits clock with
    | .error err => .error err.message
    | .ok s' => .ok s'

/-! ## Reading the queue -/

/-- `ORDER BY scheduled_at, observation_id`, on texts. -/
def rowLe (a b : Observation) : Bool :=
  let ta := formatTime a.scheduledAt
  let tb := formatTime b.scheduledAt
  if ta = tb then utf8Le a.observationId b.observationId else utf8Le ta tb

/-- `ReadyObservations`. -/
def readyObservations (s : Store) (now : ℤ) (limit : ℕ) : Except String (List Observation) :=
  if limit < 1 then .error "positive batch limit is required"
  else .ok (((s.pending.filter fun row =>
    utf8Le (formatTime row.nextAttemptAt) (formatTime now)).insertionSort
      (fun a b => rowLe a b = true)).take limit)

/-! ## Leaving the queue -/

def maxRejectionDetailsBytes : ℕ := 2 * 1024

def Store.deletePending (s : Store) (key : String × String) : Store :=
  { s with pending := s.pending.filter fun row => row.key ≠ key }

/-- `INSERT INTO rejected_observations`; `none` if the key is taken. -/
def Store.insertRejected (s : Store) (row : RejectedObservation) : Option Store :=
  if s.rejected.any fun r => r.key == row.key then none
  else some { s with rejected := s.rejected ++ [row] }

/-- `QuarantineObservation`. -/
def quarantineObservation (s : Store) (observation : Observation)
    (code details : String) (now : ℤ) : Except String Store :=
  if code = "" ∨ maxRejectionDetailsBytes < payloadSize details.toList then
    .error "valid bounded rejection details are required"
  else
    match s.findPending observation.key with
    | none => .error "quarantine local observation: pending row not found"
    | some row =>
      match s.insertRejected ⟨row.scheduledAt, row.observationId,
          row.canonicalPayload, code, details, now⟩ with
      | none => .error "quarantine local observation"
      | some s' => .ok (s'.deletePending observation.key)

structure ObservationAcknowledgement where
  scheduledAt : ℤ
  observationId : String
  disposition : String
  code : String
  retryable : Bool
  details : String := ""
  nextAttemptAt : ℤ := zeroTime

def dispositionAccepted : String := "accepted"

def dispositionDuplicate : String := "duplicate"

def dispositionRejected : String := "rejected"

/-- What `validateAcknowledgements` asks of an acknowledgement, next to the
observation at its index. -/
def trusted (o : Observation) (a : ObservationAcknowledgement) : Bool :=
  truncateMicro a.scheduledAt = truncateMicro o.scheduledAt && a.observationId = o.observationId &&
    (if a.disposition = dispositionAccepted ∨ a.disposition = dispositionDuplicate then
      a.code = "" && !a.retryable
    else if a.disposition = dispositionRejected then
      a.code ≠ "" && payloadSize a.details.toList ≤ maxRejectionDetailsBytes &&
        !(a.retryable && a.nextAttemptAt = zeroTime)
    else false)

/-- The loop of `validateAcknowledgements`, with the identities it has
seen. -/
def allTrusted : List (String × String) → List Observation → List ObservationAcknowledgement → Bool
  | seen, o :: batch, a :: acknowledgements =>
    (formatTime a.scheduledAt, a.observationId) ∉ seen && trusted o a &&
      allTrusted ((formatTime a.scheduledAt, a.observationId) :: seen) batch
        acknowledgements
  | _, _, _ => true

/-- `validateAcknowledgements`. -/
def validateAcknowledgements (batch : List Observation)
    (acknowledgements : List ObservationAcknowledgement) : Bool :=
  batch ≠ [] && batch.length = acknowledgements.length && allTrusted [] batch acknowledgements

/-- The row of an observation that is to be tried again. -/
def Observation.retried (row : Observation) (a : ObservationAcknowledgement)
    (now : ℤ) : Observation :=
  { row with
    attemptCount := row.attemptCount + 1
    nextAttemptAt := a.nextAttemptAt
    lastAttemptAt := some now
    lastErrorCode := some a.code }

/-- The body of the loop of `ApplyAcknowledgements`; `none` if a statement
fails. -/
def applyAcknowledgement (now : ℤ) (s : Store) (o : Observation)
    (a : ObservationAcknowledgement) : Option Store :=
  if a.disposition = dispositionAccepted ∨ a.disposition = dispositionDuplicate then
    some (s.deletePending o.key)
  else if a.disposition = dispositionRejected then
    if a.retryable then
      some { s with pending := s.pending.map fun row =>
        if row.key = o.key then row.retried a now else row }
    else
      (s.insertRejected ⟨o.scheduledAt, o.observationId, o.canonicalPayload,
        a.code, a.details, now⟩).map fun s' => s'.deletePending o.key
  else some s

def applyLoop (now : ℤ) : List Observation → List ObservationAcknowledgement → Store → Option Store
  | o :: batch, a :: acknowledgements, s =>
    (applyAcknowledgement now s o a).bind fun s' =>
      applyLoop now batch acknowledgements s'
  | _, _, s => some s

inductive AcknowledgementError where
  | untrusted
  | statement
deriving DecidableEq

/-- `ApplyAcknowledgements`. -/
def applyAcknowledgements (s : Store) (batch : List Observation)
    (acknowledgements : List ObservationAcknowledgement) (now : ℤ) :
    Except AcknowledgementError Store :=
  if !validateAcknowledgements batch acknowledgements then .error .untrusted
  else
    match applyLoop now batch acknowledgements s with
    | none => .error .statement
    | some s' => .ok { s' with synchronization :=
        { lastSuccessfulContactAt := some now
          lastSuccessfulUploadAt := some now
          consecutiveFailureCount := 0
          serverBackoffUntil := none } }

/-- `RecordSynchronizationFailure`. -/
def recordSynchronizationFailure (s : Store) (backoffUntil : ℤ) : Store :=
  { s with synchronization := { s.synchronization with
    consecutiveFailureCount := s.synchronization.consecutiveFailureCount + 1
    serverBackoffUntil := some backoffUntil } }

end Bifrostnms.Agent
