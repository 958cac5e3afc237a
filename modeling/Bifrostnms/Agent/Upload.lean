import Bifrostnms.Agent.Storage

/-!
# Uploading observations (`synchronization/upload.go`, `synchronization/client.go`)

`UploadOnce` builds a batch from the rows that are ready, sends it, and
settles the rows by the answer. A row that cannot be sent at all is moved to
the rejected ones instead. Between the request and the answer other goroutines
use the store, so the two halves are separate functions: `startUpload` up to
the request, `handleResponse` from the decoded answer on; `uploadOnce` is the
whole call when nothing comes between. What `RetryDelay` draws at random is an
argument.
-/

namespace Bifrostnms.Agent

open Bifrostnms.Lib

def protocolVersion : ℤ := 1

structure ObservationUpload where
  protocolVersion : ℤ
  resultSchemaVersion : ℤ
  agentConfigRevision : ℤ
  batchId : String
  observations : List (List Char)

structure ObservationResult where
  scheduledAt : ℤ
  observationId : String
  disposition : String
  code : String
  retryable : Bool

structure ObservationUploadResponse where
  protocolVersion : ℤ
  batchId : String
  results : List ObservationResult
  retryAfterSeconds : Option ℤ

/-- `newBatchID`, from sixteen random bytes: the version and the variant are
set. -/
def newBatchId (random : Uuid) : Uuid where
  bytes := random.bytes.mapIdx fun index b =>
    if index = 6 then (b &&& 0x0f) ||| 0x40
    else if index = 8 then (b &&& 0x3f) ||| 0x80
    else b
  length_eq := by rw [List.length_mapIdx, random.length_eq]

/-- What `encoding/json` does with a raw message: whether it is valid, and
the text it is written with. -/
structure RawJson where
  valid : List Char → Bool
  compact : List Char → List Char

/-- `json.Marshal` of an upload. -/
def uploadText (raw : RawJson) (u : ObservationUpload) : List Char :=
  '{' :: (JsonText.quote JsonText.goEscape "protocol_version" ++
    ':' :: (JsonText.intText u.protocolVersion ++
    ',' :: (JsonText.quote JsonText.goEscape "result_schema_version" ++
    ':' :: (JsonText.intText u.resultSchemaVersion ++
    ',' :: (JsonText.quote JsonText.goEscape "agent_config_revision" ++
    ':' :: (JsonText.intText u.agentConfigRevision ++
    ',' :: (JsonText.quote JsonText.goEscape "batch_id" ++
    ':' :: (JsonText.quote JsonText.goEscape u.batchId ++
    ',' :: (JsonText.quote JsonText.goEscape "observations" ++
    ':' :: '[' :: (List.intercalate [','] (u.observations.map raw.compact) ++
    [']', '\x7d']))))))))))

/-! ## Building a batch -/

def defaultMaxBatchObservations : ℕ := 500

def defaultMaxBatchBytes : ℕ := 2 ^ 20

structure Batch where
  upload : ObservationUpload
  observations : List Observation

inductive BuildError where
  | limits
  | invalid (o : Observation)
  | oversized (o : Observation)

/-- The loop of `BuildBatch`, with the rows selected so far. -/
def selectRows (raw : RawJson) (maxObservations maxBytes : ℕ)
    (revision : ℤ) (batchId : String) : List Observation → List Observation →
    Except BuildError (List Observation)
  | selected, [] => .ok selected
  | selected, o :: ready =>
    if selected.length = maxObservations ∨ o.agentConfigRevision ≠ revision then .ok selected
    else if !raw.valid o.canonicalPayload then .error (.invalid o)
    else
      let candidate := uploadText raw ⟨protocolVersion, 1, revision, batchId,
        (selected ++ [o]).map Observation.canonicalPayload⟩
      if maxBytes < payloadSize candidate then
        if selected = [] then .error (.oversized o) else .ok selected
      else selectRows raw maxObservations maxBytes revision batchId
        (selected ++ [o]) ready

/-- `BuildBatch`; `none` if nothing is ready. -/
def buildBatch (raw : RawJson) (s : Store) (now : ℤ)
    (maxObservations maxBytes : ℕ) (batchId : String) : Except BuildError (Option Batch) :=
  if maxObservations < 1 ∨ maxBytes < 1 then .error .limits
  else
    match readyObservations s now (maxObservations + 1) with
    | .error _ => .error .limits
    | .ok [] => .ok none
    | .ok (first :: rest) =>
      match selectRows raw maxObservations maxBytes first.agentConfigRevision
          batchId [] (first :: rest) with
      | .error e => .error e
      | .ok selected => .ok (some
          ⟨⟨protocolVersion, 1, first.agentConfigRevision, batchId,
            selected.map Observation.canonicalPayload⟩, selected⟩)

/-- A batch with its encoding, and the three values of the loop of `BuildBatch`
on the way to it. -/
structure EncodedBatch extends Batch where
  body : List Char

/-- The loop of `BuildBatch` as it is written: a row is appended to the upload,
and taken back if the upload is then too large. -/
def batchLoop (raw : RawJson) (maxObservations maxBytes : ℕ) :
    EncodedBatch → List Observation → Except BuildError EncodedBatch
  | b, [] => .ok b
  | b, o :: ready =>
    if b.observations.length = maxObservations ∨
        o.agentConfigRevision ≠ b.upload.agentConfigRevision then .ok b
    else if !raw.valid o.canonicalPayload then .error (.invalid o)
    else
      let upload := { b.upload with
        observations := b.upload.observations ++ [o.canonicalPayload] }
      let candidate := uploadText raw upload
      if maxBytes < payloadSize candidate then
        let upload := { upload with observations := upload.observations.dropLast }
        if b.observations = [] then .error (.oversized o) else .ok { b with upload := upload }
      else batchLoop raw maxObservations maxBytes
        ⟨⟨upload, b.observations ++ [o]⟩, candidate⟩ ready

/-- `BuildBatch` from the rows that are ready. -/
def assembleBatch (raw : RawJson) (maxObservations maxBytes : ℕ) (batchId : String) :
    List Observation → Except BuildError (Option EncodedBatch)
  | [] => .ok none
  | first :: rest =>
    (batchLoop raw maxObservations maxBytes
      ⟨⟨⟨protocolVersion, 1, first.agentConfigRevision, batchId, []⟩, []⟩, []⟩
      (first :: rest)).map some

/-- `BuildBatch`, with the encoding. -/
def encodedBatch (raw : RawJson) (s : Store) (now : ℤ)
    (maxObservations maxBytes : ℕ) (batchId : String) : Except BuildError (Option EncodedBatch) :=
  if maxObservations < 1 ∨ maxBytes < 1 then .error .limits
  else
    match readyObservations s now (maxObservations + 1) with
    | .error _ => .error .limits
    | .ok ready => assembleBatch raw maxObservations maxBytes batchId ready

/-! ## One upload -/

/-- What `UploadOnce` does before it waits for an answer. -/
inductive UploadStart where
  | backoff
  | noReadyData
  | failed
  | quarantine (o : Observation) (code details : String)
  | send (batch : Batch)

/-- `UploadOnce` up to the request. -/
def startUpload (raw : RawJson) (s : Store) (now : ℤ) (batchId : String) : UploadStart :=
  if s.synchronization.serverBackoffUntil.any fun t => now < t then .backoff
  else
    match buildBatch raw s now defaultMaxBatchObservations defaultMaxBatchBytes
        batchId with
    | .error (.oversized o) => .quarantine o "local_payload_too_large"
        "serialized upload exceeds 1 MiB"
    | .error (.invalid o) => .quarantine o "local_invalid_payload"
        "stored observation is not valid JSON"
    | .error .limits => .failed
    | .ok none => .noReadyData
    | .ok (some batch) =>
      if batch.observations = [] then .noReadyData else .send batch

/-- The acknowledgements of an answer; the delay of a retry is drawn for each
result. -/
def acknowledgements (now : ℤ) (delay : ℕ → ℤ) (batch : List Observation)
    (results : List ObservationResult) : List ObservationAcknowledgement :=
  results.mapIdx fun index r =>
    { scheduledAt := r.scheduledAt
      observationId := r.observationId
      disposition := r.disposition
      code := r.code
      retryable := r.retryable
      nextAttemptAt :=
        if r.retryable ∧ index < batch.length then now + delay index
        else zeroTime }

/-- `UploadOnce` from the decoded answer on. -/
def handleResponse (s : Store) (batch : Batch)
    (response : ObservationUploadResponse) (now : ℤ) (delay : ℕ → ℤ) :
    Except AcknowledgementError Store :=
  if response.protocolVersion ≠ protocolVersion ∨ response.batchId ≠ batch.upload.batchId then
    .error .untrusted
  else applyAcknowledgements s batch.observations
    (acknowledgements now delay batch.observations response.results) now

/-! ## The whole call -/

def initialRetryDelay : ℤ := second

def maximumRetryDelay : ℤ := 300 * second

/-- `RetryDelay`, where `drawn` is the random part of the longest delay. -/
def retryDelay (failureCount : ℕ) (serverRetryAfter drawn : ℤ) : ℤ :=
  let exponent := min (failureCount - 1) 30
  let maximum := min (initialRetryDelay * 2 ^ exponent) maximumRetryDelay
  let delay := max 0 (min drawn maximum)
  min (if serverRetryAfter > delay then serverRetryAfter else delay)
    maximumRetryDelay

/-- What comes back for a request. `response` is the decoded body, `none` if it
does not decode; `trailing` says that more follows it. -/
inductive HttpOutcome where
  | transport
  | answered (statusCode retryAfter : ℤ)
      (response : Option ObservationUploadResponse) (trailing : Bool)

/-- The clock and the random draws of one call. -/
structure UploadClock where
  now : ℤ
  failedAt : ℤ
  draw : ℕ → ℤ
  failureDraw : ℤ

def serverDelay (response : ObservationUploadResponse) : ℤ :=
  match response.retryAfterSeconds with
  | none => 0
  | some seconds => (seconds * second).bmod (2 ^ 64)

/-- The delays of the retries that an answer asks for. -/
def retryDelays (clock : UploadClock) (batch : List Observation)
    (response : ObservationUploadResponse) (index : ℕ) : ℤ :=
  match batch[index]? with
  | none => 0
  | some o => retryDelay (o.attemptCount + 1) (serverDelay response)
      (clock.draw index)

/-- `recordFailure`. -/
def recordFailure (clock : UploadClock) (failureCount : ℕ) (server : ℤ) (s : Store) : Store :=
  recordSynchronizationFailure s (clock.failedAt +
    retryDelay (failureCount + 1) server clock.failureDraw)

/-- `UploadOnce` from the outcome of the request on; the failure count is the
one that was read at the start. -/
def finishUpload (clock : UploadClock) (failureCount : ℕ) (batch : Batch)
    (outcome : HttpOutcome) (s : Store) : Store :=
  match outcome with
  | .transport => recordFailure clock failureCount 0 s
  | .answered status retryAfter response trailing =>
    if status < 200 ∨ 300 ≤ status then
      recordFailure clock failureCount retryAfter s
    else
      match response with
      | none => recordFailure clock failureCount 0 s
      | some response =>
        if trailing then recordFailure clock failureCount 0 s
        else if response.protocolVersion ≠ protocolVersion ∨
            response.batchId ≠ batch.upload.batchId then
          recordFailure clock failureCount 0 s
        else
          match applyAcknowledgements s batch.observations
              (acknowledgements clock.now
                (retryDelays clock batch.observations response)
                batch.observations response.results) clock.now with
          | .ok s' => s'
          | .error _ =>
            recordFailure clock failureCount (serverDelay response) s

/-- `UploadOnce`, when no other goroutine uses the store meanwhile. The request
gets the outcome that `server` has for its batch. -/
def uploadOnce (raw : RawJson) (clock : UploadClock) (batchId : String)
    (server : Batch → HttpOutcome) (s : Store) : Store :=
  match startUpload raw s clock.now batchId with
  | .backoff | .noReadyData | .failed => s
  | .quarantine o code details =>
    match quarantineObservation s o code details clock.now with
    | .ok s' => s'
    | .error _ => s
  | .send batch => finishUpload clock
      s.synchronization.consecutiveFailureCount batch (server batch) s

end Bifrostnms.Agent
