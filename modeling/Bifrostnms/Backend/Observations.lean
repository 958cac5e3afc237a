import Bifrostnms.Backend.ObservationTables
import Bifrostnms.Protocol

/-!
# Ingesting observations (`agents/observations.py`)

One upload is handled in request order: an item that does not belong to the
configuration it names, or is too old or too far in the future, is rejected;
any other is inserted into `observations` unless its identity is there
already, and its typed result goes into the table of its probe type.

A database error raises and leaves the transaction, which then rolls back:
every step returns the tables as it left them together with its outcome, and
`inTransaction` drops the tables of a failed body.
-/

namespace Bifrostnms.Backend

open Bifrostnms.Lib Bifrostnms.Protocol

/-- What `ingest_observations` can raise: a violated constraint of a table,
a result of another probe type, or a revision that is not a `BIGINT`. -/
inductive IngestError where
  | constraint (table : Option ProbeType)
  | unique (table : ProbeType)
  | keyError
  | revision
deriving DecidableEq

/-! ## Statements -/

/-- A step of a transaction: its outcome, and the tables as it left them. -/
abbrev Tx (α : Type) := Database → Except IngestError α × Database

/-- `in_transaction`: a body that raises changes nothing. -/
def inTransaction {α : Type} (body : Tx α) : Tx α := fun db =>
  match body db with
  | (.ok a, db') => (.ok a, db')
  | (.error e, _) => (.error e, db)

def Database.findCommon (db : Database) (k : Identity) : Option CommonRow :=
  db.observations.find? fun r => r.identity == k

/-- `_insert_common`. The constraints are checked before the conflict. -/
def insertCommon (ctx : IngestContext) (o : AgentObservation) : Tx Bool :=
  fun db =>
    if !observationsTable.admits ctx.inet (commonValues ctx o) then
      (.error (.constraint none), db)
    else if (db.findCommon o.identity).isSome then (.ok false, db)
    else (.ok true, { db with observations := db.observations ++ [commonRow ctx o] })

/-- `_existing_hash`. -/
def existingHash (db : Database) (o : AgentObservation) : Option String :=
  (db.findCommon o.identity).map CommonRow.canonicalPayloadHash

/-- `_insert_typed_result`. -/
def insertTypedResult (ctx : IngestContext) (o : AgentObservation) : Tx Unit :=
  fun db =>
    match o.result with
    | none => (.ok (), db)
    | some result =>
      if result.probeType ≠ o.probeType then (.error .keyError, db)
      else if !(typedTable o.probeType).admits ctx.inet
          (typedValues ctx o result) then
        (.error (.constraint (some o.probeType)), db)
      else if db.results.any fun r =>
          r.result.probeType == o.probeType && r.identity == o.identity then
        (.error (.unique o.probeType), db)
      else (.ok (), { db with results := db.results ++ [typedRow ctx o result] })

/-! ## One item -/

inductive Disposition where
  | accepted | duplicate | rejected
deriving DecidableEq

structure AgentObservationResult where
  scheduledAt : DateTime
  observationId : Uuid
  disposition : Disposition
  code : Option String := none
  retryable : Bool := false
deriving DecidableEq

/-- `_rejected`. -/
def rejected (o : AgentObservation) (code : String)
    (retryable : Bool := false) : AgentObservationResult where
  scheduledAt := o.scheduledAt
  observationId := o.observationId
  disposition := .rejected
  code := some code
  retryable := retryable

/-- Thirty days and five minutes, in microseconds. -/
def maximumObservationAge : ℤ := 30 * 86400 * 1000000

def maximumFutureSkew : ℤ := 300 * 1000000

/-- `configured.get(str(monitor_id))`: a later entry of the snapshot replaces
an earlier one. -/
def configuredMonitor (monitors : List MonitorConfiguration) (id : Uuid) :
    Option MonitorConfiguration :=
  monitors.reverse.find? fun m => m.monitorId == id.text

/-- The code of the check that turns an item away before anything is
inserted. -/
def rejection (monitors : List MonitorConfiguration) (now : ℤ)
    (o : AgentObservation) : Option String :=
  match configuredMonitor monitors o.monitorId with
  | none => some "monitor_not_in_configuration"
  | some m =>
    if m.probeType ≠ o.probeType.text then
      some "monitor_not_in_configuration"
    else if m.monitorRevision ≠ o.monitorRevision then
      some "monitor_revision_mismatch"
    else if o.scheduledAt.instant < now - maximumObservationAge then
      some "observation_too_old"
    else if o.scheduledAt.instant > now + maximumFutureSkew then
      some "observation_in_future"
    else none

/-- The body of the loop. -/
def ingestOne (ctx : IngestContext) (monitors : List MonitorConfiguration)
    (now : ℤ) (o : AgentObservation) : Tx AgentObservationResult := fun db =>
  match rejection monitors now o with
  | some code => (.ok (rejected o code), db)
  | none =>
    match insertCommon ctx o db with
    | (.error e, db') => (.error e, db')
    | (.ok false, db') =>
      if existingHash db' o = some (canonicalHash ctx.sha256 o) then
        (.ok ⟨o.scheduledAt, o.observationId, .duplicate, none, false⟩, db')
      else (.ok (rejected o "idempotency_conflict"), db')
    | (.ok true, db') =>
      match insertTypedResult ctx o db' with
      | (.error e, db'') => (.error e, db'')
      | (.ok (), db'') =>
        (.ok ⟨o.scheduledAt, o.observationId, .accepted, none, false⟩, db'')

/-- The loop over the observations of an upload. -/
def ingestLoop (ctx : IngestContext) (monitors : List MonitorConfiguration)
    (now : ℤ) : List AgentObservation → Tx (List AgentObservationResult)
  | [] => fun db => (.ok [], db)
  | o :: os => fun db =>
    match ingestOne ctx monitors now o db with
    | (.error e, db') => (.error e, db')
    | (.ok r, db') =>
      match ingestLoop ctx monitors now os db' with
      | (.error e, db'') => (.error e, db'')
      | (.ok rs, db'') => (.ok (r :: rs), db'')

/-! ## One upload -/

/-- A row of the snapshot table. -/
structure StoredSnapshot where
  realmId : Uuid
  agentId : Uuid
  revision : ℤ
  monitors : List MonitorConfiguration

/-- The query for the snapshot; its parameter is bound to a `BIGINT`. -/
def findSnapshot (snapshots : List StoredSnapshot)
    (authentication : Authentication) (revision : ℤ) : Except IngestError (Option StoredSnapshot) :=
  if Sql.fits 64 revision then
    .ok (snapshots.find? fun s => s.realmId == authentication.realmId &&
      s.agentId == authentication.agentId && s.revision == revision)
  else .error .revision

/-- `ingest_observations`. -/
def ingestObservations (inet : String → Bool) (sha256 : List UInt8 → List UInt8)
    (snapshots : List StoredSnapshot) (now : ℤ)
    (authentication : Authentication) (upload : AgentObservationUpload) :
    Tx (List AgentObservationResult) := fun db =>
  match findSnapshot snapshots authentication upload.agentConfigRevision with
  | .error e => (.error e, db)
  | .ok none => (.ok (upload.observations.map fun o =>
    rejected o "configuration_revision_unavailable" true), db)
  | .ok (some snapshot) =>
    inTransaction (ingestLoop
      ⟨inet, sha256, authentication, upload.agentConfigRevision⟩
      snapshot.monitors now upload.observations) db

end Bifrostnms.Backend
