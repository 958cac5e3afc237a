import Bifrostnms.Agent.Upload
import Bifrostnms.Backend.Observations

/-!
# One agent, the network and the control plane

The agent records executions and uploads them; the control plane ingests the
uploads and answers. A request or an answer that was sent stays in the network
for good: it may be delivered late, more than once or never. The agent can
stop between any two of its transactions, which loses what it held in memory
and nothing else, and a statement of either database can fail, which undoes
its transaction.

The control plane reads a request with its web framework: `RequestReader` says
what that is trusted with, namely that the time and the id of an observation
are those the agent wrote. Its snapshots and its clock may be anything at each
request.
-/

namespace Bifrostnms

open Bifrostnms.Lib Bifrostnms.Backend Bifrostnms.Agent

/-- How the control plane reads the texts of a request. -/
structure RequestReader where
  uuid : String → Option Uuid
  uuid_text : ∀ u : Uuid, uuid u.text = some u
  decode : List Char → Option AgentObservation
  decode_time : ∀ {probeType : String} {request : Request} {result : Result}
    {offset : Option ℤ} {payload : List Char} {o : AgentObservation},
    encodeObservation probeType request result offset = .ok payload → decode payload = some o →
      readUtc (rfc3339Micro request.scheduledAt) = some o.scheduledAt
  decode_id : ∀ {probeType : String} {request : Request} {result : Result}
    {offset : Option ℤ} {payload : List Char} {o : AgentObservation},
    encodeObservation probeType request result offset = .ok payload → decode payload = some o →
      uuid request.observationId = some o.observationId

/-! ## The control plane -/

def dispositionText : Disposition → String
  | .accepted => dispositionAccepted
  | .duplicate => dispositionDuplicate
  | .rejected => dispositionRejected

/-- A result as the agent decodes it. -/
def resultOf (r : AgentObservationResult) : Agent.ObservationResult where
  scheduledAt := r.scheduledAt.instant * 1000
  observationId := r.observationId.text
  disposition := dispositionText r.disposition
  code := r.code.getD ""
  retryable := r.retryable

/-- The request as the endpoint gets it, if the schema accepts it. -/
def readUpload (reader : RequestReader) (u : ObservationUpload) :
    Option AgentObservationUpload := do
  let batchId ← reader.uuid u.batchId
  let observations ← u.observations.mapM reader.decode
  let upload : AgentObservationUpload := ⟨u.protocolVersion,
    u.resultSchemaVersion, u.agentConfigRevision, batchId, observations⟩
  if upload.valid then some upload else none

/-- `upload_observations`: the answer, unless the request is refused or
raises, and the tables. -/
def uploadObservations (reader : RequestReader) (inet : String → Bool)
    (sha256 : List UInt8 → List UInt8) (snapshots : List StoredSnapshot)
    (now : ℤ) (authentication : Authentication) (u : ObservationUpload)
    (db : Database) : Option ObservationUploadResponse × Database :=
  match readUpload reader u with
  | none => (none, db)
  | some upload =>
    if upload.protocolVersion ≠ 1 ∨ upload.resultSchemaVersion ≠ 1 then
      (none, db)
    else
      match ingestObservations inet sha256 snapshots now authentication upload
          db with
      | (.error _, db') => (none, db')
      | (.ok rs, db') =>
        (some ⟨1, upload.batchId.text, rs.map resultOf, none⟩, db')

/-! ## The whole system -/

/-- Where `UploadOnce` is; it runs in one goroutine. -/
inductive UploadPhase where
  | idle
  | quarantining (o : Observation) (code details : String) (now : ℤ)
  | waiting (batch : Batch) (now : ℤ)
  | failing

/-- The two databases, the messages sent so far and the upload that is under
way. `enqueued` is what `RecordExecution` has put into the queue with
success. -/
structure System where
  store : Store := {}
  phase : UploadPhase := .idle
  requests : List ObservationUpload := []
  responses : List ObservationUploadResponse := []
  server : Database := {}
  enqueued : List Observation := []

/-- What is fixed for a run: the libraries, the hash and the agent. -/
structure Environment where
  raw : RawJson
  reader : RequestReader
  sha256 : List UInt8 → List UInt8
  authentication : Authentication

/-- The text of an execution in the queue. -/
def executionPayload (e : Execution) : Except String (List Char) :=
  encodeObservation e.truncated.probeType e.truncated.request
    e.truncated.result none

/-- One step of the agent or of the control plane. -/
inductive Step (env : Environment) : System → System → Prop where
  /-- `RecordExecution` returns without an error for a run of the
  scheduler. -/
  | record {s : System} (e : Execution) (a : Assignment) (t : ℤ)
      (limits : QueueLimits) (createdAt clock : ℤ) (payload : List Char)
      (store : Store) (hrun : e.request = startRequest env.sha256 a t)
      (hpayload : executionPayload e = .ok payload)
      (hstore : recordExecution s.store limits e createdAt clock = .ok store) : Step env s { s with
        store := store
        enqueued := s.enqueued ++ [recordedObservation e.truncated payload createdAt] }
  /-- `UploadOnce` sends a batch under an id that was not used before. -/
  | send {s : System} (now : ℤ) (random : Uuid) (batch : Batch)
      (hidle : s.phase = .idle)
      (hfresh : ∀ r ∈ s.requests, r.batchId ≠ (newBatchId random).text)
      (hstart : startUpload env.raw s.store now (newBatchId random).text = .send batch) :
      Step env s { s with
        phase := .waiting batch now
        requests := s.requests ++ [batch.upload] }
  /-- `UploadOnce` finds a row that cannot be sent. -/
  | findUnsendable {s : System} (now : ℤ) (random : Uuid) (o : Observation)
      (code details : String) (hidle : s.phase = .idle)
      (hstart : startUpload env.raw s.store now (newBatchId random).text =
        .quarantine o code details) :
      Step env s { s with phase := .quarantining o code details now }
  | quarantine {s : System} (o : Observation) (code details : String) (now : ℤ)
      (store : Store) (hphase : s.phase = .quarantining o code details now)
      (hstore : quarantineObservation s.store o code details now = .ok store) :
      Step env s { s with store := store, phase := .idle }
  /-- The control plane handles a request that was sent at any time. -/
  | serve {s : System} (u : ObservationUpload) (inet : String → Bool)
      (snapshots : List StoredSnapshot) (now : ℤ) (hsent : u ∈ s.requests) : Step env s { s with
        server := (uploadObservations env.reader inet env.sha256 snapshots now
          env.authentication u s.server).2
        responses := s.responses ++ (uploadObservations env.reader inet
          env.sha256 snapshots now env.authentication u s.server).1.toList }
  /-- The agent gets an answer that was sent at any time, and settles its
  batch. -/
  | receive {s : System} (batch : Batch) (now : ℤ)
      (response : ObservationUploadResponse) (delay : ℕ → ℤ) (store : Store)
      (hphase : s.phase = .waiting batch now)
      (hsent : response ∈ s.responses)
      (hstore : handleResponse s.store batch response now delay = .ok store) :
      Step env s { s with store := store, phase := .idle }
  /-- There is no answer, it is an error or it cannot be used. -/
  | fail {s : System} (batch : Batch) (now : ℤ)
      (hphase : s.phase = .waiting batch now) : Step env s { s with phase := .failing }
  | recordFailure {s : System} (backoffUntil : ℤ)
      (hphase : s.phase = .failing) : Step env s { s with
        store := recordSynchronizationFailure s.store backoffUntil
        phase := .idle }
  /-- The process stops and starts again, or `UploadOnce` returns because a
  statement failed. -/
  | crash {s : System} : Step env s { s with phase := .idle }

/-- The states that a run from empty databases can reach. -/
def Reached (env : Environment) (s : System) : Prop :=
  Relation.ReflTransGen (Step env) {} s

end Bifrostnms
