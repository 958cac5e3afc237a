import Bifrostnms.Backend.Observations

/-!
# What one upload does to the observation tables

`ingestOne_cases` says once what the body of the loop can do when it does
not raise: insert the item's rows under a new identity, find the identity
taken by a row with the same or with another content hash, or turn the item
away before looking. `Ingested` chains these cases over a batch, and every
statement about an upload is an induction over it.

The rows an upload adds are exactly those of the items it answers
`accepted`, in request order (`Ingested.rows`), no two of them under one
identity (`Ingested.fresh`); and an identity that was answered `accepted` or
`duplicate` is in the table from then on (`Ingested.present`), so no later
upload inserts it again. `ingestObservations_returns` puts this together for
the transaction.
-/

namespace Bifrostnms.Proofs

open Bifrostnms.Lib Bifrostnms.Protocol Bifrostnms.Backend

variable {ctx : IngestContext} {monitors : List MonitorConfiguration} {now : ℤ}

/-! ## One item -/

/-- The typed row of an item, if it carries a result. -/
def typedRows (ctx : IngestContext) (o : AgentObservation) : List TypedRow :=
  (o.result.map (typedRow ctx o)).toList

theorem mem_typedRows {o : AgentObservation} {row : TypedRow}
    (h : row ∈ typedRows ctx o) : row.identity = o.identity := by
  simp only [typedRows, Option.mem_toList, Option.map_eq_some_iff] at h
  obtain ⟨result, -, rfl⟩ := h
  rfl

/-- The tables with the rows of an item. -/
def insertRows (ctx : IngestContext) (db : Database) (o : AgentObservation) : Database where
  observations := db.observations ++ [commonRow ctx o]
  results := db.results ++ typedRows ctx o

/-- What one item can do to the tables, and how it is answered. -/
inductive Handled (ctx : IngestContext) (monitors : List MonitorConfiguration)
    (now : ℤ) (o : AgentObservation) (db : Database) :
    AgentObservationResult → Database → Prop where
  | accepted (hr : rejection monitors now o = none)
      (hnew : db.findCommon o.identity = none) : Handled ctx monitors now o db
        ⟨o.scheduledAt, o.observationId, .accepted, none, false⟩
        (insertRows ctx db o)
  | duplicate (row : CommonRow) (hr : rejection monitors now o = none)
      (hrow : db.findCommon o.identity = some row)
      (hhash : row.canonicalPayloadHash = canonicalHash ctx.sha256 o) :
      Handled ctx monitors now o db
        ⟨o.scheduledAt, o.observationId, .duplicate, none, false⟩ db
  | conflict (row : CommonRow) (hr : rejection monitors now o = none)
      (hrow : db.findCommon o.identity = some row)
      (hhash : row.canonicalPayloadHash ≠ canonicalHash ctx.sha256 o) :
      Handled ctx monitors now o db (rejected o "idempotency_conflict") db
  | turnedAway (code : String) (hr : rejection monitors now o = some code) :
      Handled ctx monitors now o db (rejected o code) db

theorem insertCommon_ok {o : AgentObservation} {db db' : Database} {b : Bool}
    (h : insertCommon ctx o db = (.ok b, db')) :
    (b = false ∧ db' = db ∧ ∃ row, db.findCommon o.identity = some row) ∨
      (b = true ∧ db.findCommon o.identity = none ∧
        db' = { db with observations := db.observations ++ [commonRow ctx o] }) := by
  unfold insertCommon at h
  split at h
  · cases h
  · split at h
    · next hfound =>
        cases h
        exact .inl ⟨rfl, rfl, Option.isSome_iff_exists.mp hfound⟩
    · next hfound =>
        cases h
        exact .inr ⟨rfl, by simpa using hfound, rfl⟩

theorem insertTypedResult_ok {o : AgentObservation} {db db' : Database}
    (h : insertTypedResult ctx o db = (.ok (), db')) :
    db' = { db with results := db.results ++ typedRows ctx o } := by
  unfold insertTypedResult at h
  split at h
  · next hresult =>
      cases h
      simp [typedRows, hresult]
  · next result hresult =>
      split at h
      · cases h
      · split at h
        · cases h
        · split at h
          · cases h
          · cases h
            simp [typedRows, hresult]

theorem ingestOne_cases {o : AgentObservation} {db db' : Database} {r : AgentObservationResult}
    (h : ingestOne ctx monitors now o db = (.ok r, db')) : Handled ctx monitors now o db r db' := by
  unfold ingestOne at h
  split at h
  · next code hr =>
      cases h
      exact .turnedAway code hr
  · next hr =>
      split at h
      · cases h
      · next db₁ hcommon =>
          rcases insertCommon_ok hcommon with ⟨-, rfl, row, hrow⟩ | ⟨hb, -⟩
          · have hhash : existingHash db₁ o = some row.canonicalPayloadHash := by
              rw [existingHash, hrow]
              rfl
            split at h
            · next heq =>
                cases h
                rw [hhash, Option.some.injEq] at heq
                exact .duplicate row hr hrow heq
            · next hne =>
                cases h
                rw [hhash, Option.some.injEq] at hne
                exact .conflict row hr hrow hne
          · cases hb
      · next db₁ hcommon =>
          rcases insertCommon_ok hcommon with ⟨hb, -⟩ | ⟨-, hnew, rfl⟩
          · cases hb
          · split at h
            · cases h
            · next db₂ htyped =>
                cases h
                rw [insertTypedResult_ok htyped]
                exact .accepted hr hnew

/-! ## A batch -/

/-- The items of a batch handled one after the other. -/
inductive Ingested (ctx : IngestContext) (monitors : List MonitorConfiguration) (now : ℤ) :
    List AgentObservation → Database → List AgentObservationResult → Database → Prop where
  | nil {db : Database} : Ingested ctx monitors now [] db [] db
  | cons {o : AgentObservation} {os : List AgentObservation}
      {db db₁ db' : Database} {r : AgentObservationResult}
      {rs : List AgentObservationResult}
      (hone : Handled ctx monitors now o db r db₁)
      (hrest : Ingested ctx monitors now os db₁ rs db') :
      Ingested ctx monitors now (o :: os) db (r :: rs) db'

theorem ingestLoop_ok {os : List AgentObservation} {db db' : Database}
    {rs : List AgentObservationResult} (h : ingestLoop ctx monitors now os db = (.ok rs, db')) :
    Ingested ctx monitors now os db rs db' := by
  induction os generalizing db rs with
  | nil =>
    cases h
    exact .nil
  | cons o os ih =>
    simp only [ingestLoop] at h
    split at h
    · cases h
    · next r db₁ hone =>
        split at h
        · cases h
        · next rs' db₂ hrest =>
            cases h
            exact .cons (ingestOne_cases hone) (ih hrest)

/-- The items answered `accepted`. -/
def acceptedItems : List AgentObservation → List AgentObservationResult → List AgentObservation
  | o :: os, r :: rs =>
    if r.disposition = .accepted then o :: acceptedItems os rs
    else acceptedItems os rs
  | _, _ => []

variable {os : List AgentObservation} {rs : List AgentObservationResult}
  {db db' : Database}

/-- There is one answer for each item, in order and under its identity. -/
theorem Ingested.identities (h : Ingested ctx monitors now os db rs db') :
    rs.map (fun r => (r.scheduledAt, r.observationId)) =
      os.map fun o => (o.scheduledAt, o.observationId) := by
  induction h with
  | nil => rfl
  | cons hone _ ih =>
    rw [List.map_cons, List.map_cons, ih]
    cases hone <;> rfl

/-- The tables grow by the rows of the accepted items and nothing else. -/
theorem Ingested.rows (h : Ingested ctx monitors now os db rs db') : db'.observations =
        db.observations ++ (acceptedItems os rs).map (commonRow ctx) ∧ db'.results =
        db.results ++ (acceptedItems os rs).flatMap (typedRows ctx) := by
  induction h with
  | nil => simp [acceptedItems]
  | cons hone _ ih =>
    obtain ⟨h1, h2⟩ := ih
    rw [h1, h2]
    cases hone with
    | accepted => simp [acceptedItems, insertRows]
    | duplicate | conflict | turnedAway => simp [acceptedItems, rejected]

theorem findCommon_eq_none {k : Identity} : db.findCommon k = none ↔
    ∀ row ∈ db.observations, row.identity ≠ k := by
  simp [Database.findCommon]

theorem findCommon_eq_some {k : Identity} {row : CommonRow} (h : db.findCommon k = some row) :
    row ∈ db.observations ∧ row.identity = k := by
  refine ⟨List.mem_of_find?_eq_some h, ?_⟩
  have h := List.find?_some h
  exact beq_iff_eq.mp h

/-- No accepted item's identity was in the table before, and no two accepted
items of a batch have the same one. -/
theorem Ingested.fresh (h : Ingested ctx monitors now os db rs db') :
    (∀ o ∈ acceptedItems os rs, db.findCommon o.identity = none) ∧
      ((acceptedItems os rs).map AgentObservation.identity).Nodup := by
  induction h with
  | nil => simp [acceptedItems]
  | cons hone _ ih =>
    cases hone with
    | accepted hr hnew =>
      obtain ⟨h1, h2⟩ := ih
      simp only [acceptedItems, if_pos, List.map_cons, List.nodup_cons, List.forall_mem_cons]
      -- The identities of the rest are absent from a table that already
      -- holds this item's row.
      have hrest : ∀ o' ∈ acceptedItems _ _, _ := fun o' ho' =>
        findCommon_eq_none.mp (h1 o' ho')
      refine ⟨⟨hnew, fun o' ho' => ?_⟩, fun hmem => ?_, h2⟩
      · refine findCommon_eq_none.mpr fun row hrow => ?_
        exact hrest o' ho' row (List.mem_append_left _ hrow)
      · obtain ⟨o', ho', heq⟩ := List.mem_map.mp hmem
        exact hrest o' ho' (commonRow ctx _) (by simp [insertRows]) heq.symm
    | duplicate | conflict | turnedAway =>
      simpa [acceptedItems, rejected] using ih

/-- Rows are only ever added at the end. -/
theorem Ingested.grows (h : Ingested ctx monitors now os db rs db') :
    db.observations <+: db'.observations ∧ db.results <+: db'.results := by
  obtain ⟨h1, h2⟩ := h.rows
  exact ⟨⟨_, h1.symm⟩, ⟨_, h2.symm⟩⟩

/-- After a batch, an item that was not rejected has a row under its
identity with its content hash. -/
theorem Ingested.present (h : Ingested ctx monitors now os db rs db')
    {o : AgentObservation} {r : AgentObservationResult}
    (hmem : (o, r) ∈ os.zip rs) (hr : r.disposition ≠ .rejected) :
    ∃ row ∈ db'.observations, row.identity = o.identity ∧
      row.canonicalPayloadHash = canonicalHash ctx.sha256 o := by
  induction h with
  | nil => cases hmem
  | cons hone hrest ih =>
    rw [List.zip_cons_cons, List.mem_cons] at hmem
    rcases hmem with heq | hmem
    · cases heq
      cases hone with
      | accepted =>
        refine ⟨commonRow ctx o, ?_, rfl, rfl⟩
        exact hrest.grows.1.subset (by simp [insertRows])
      | duplicate row _ hrow hhash =>
        obtain ⟨hm, hid⟩ := findCommon_eq_some hrow
        exact ⟨row, hrest.grows.1.subset hm, hid, hhash⟩
      | conflict | turnedAway => exact absurd rfl hr
    · exact ih hmem

/-! ## An upload -/

section Upload

variable {inet : String → Bool} {sha256 : List UInt8 → List UInt8}
  {snapshots : List StoredSnapshot} {authentication : Authentication}
  {upload : AgentObservationUpload}

/-- An upload that returns either found no snapshot and rejected every item,
or handled its items one after the other. -/
theorem ingestObservations_ok
    (h : ingestObservations inet sha256 snapshots now authentication upload db = (.ok rs, db')) :
    (db' = db ∧ rs = upload.observations.map fun o =>
        rejected o "configuration_revision_unavailable" true) ∨ ∃ snapshot ∈ snapshots, Ingested
        ⟨inet, sha256, authentication, upload.agentConfigRevision⟩
        snapshot.monitors now upload.observations db rs db' := by
  unfold ingestObservations at h
  split at h
  · cases h
  · cases h
    exact .inl ⟨rfl, rfl⟩
  · next snapshot hfound =>
      unfold findSnapshot at hfound
      split at hfound
      · refine .inr ⟨snapshot, List.mem_of_find?_eq_some (Except.ok.inj hfound), ?_⟩
        unfold inTransaction at h
        split at h
        · next hloop =>
            cases h
            exact ingestLoop_ok hloop
        · cases h
      · cases hfound

/-- An upload that raises is rolled back. -/
theorem ingestObservations_error {e : IngestError}
    (h : ingestObservations inet sha256 snapshots now authentication upload db =
      (.error e, db')) : db' = db := by
  unfold ingestObservations at h
  split at h
  · cases h
    rfl
  · cases h
  · unfold inTransaction at h
    split at h
    · cases h
    · cases h
      rfl

theorem acceptedItems_rejected {code : String} {retryable : Bool} (os : List AgentObservation) :
    acceptedItems os (os.map fun o => rejected o code retryable) = [] := by
  induction os with
  | nil => rfl
  | cons o os ih => simpa [acceptedItems, rejected] using ih

/-- What an upload that returns adds, and to which tables. -/
structure Recorded (ctx : IngestContext) (os : List AgentObservation)
    (rs : List AgentObservationResult) (db db' : Database) : Prop where
  /-- One answer for each item, in request order. -/
  identities : rs.map (fun r => (r.scheduledAt, r.observationId)) =
    os.map fun o => (o.scheduledAt, o.observationId)
  /-- The common rows of the accepted items are added, and no other. -/
  observations : db'.observations = db.observations ++ (acceptedItems os rs).map (commonRow ctx)
  /-- So are their typed rows, one for each result that is there. -/
  results : db'.results = db.results ++ (acceptedItems os rs).flatMap (typedRows ctx)
  /-- An accepted identity was not stored before. -/
  new : ∀ o ∈ acceptedItems os rs, ∀ row ∈ db.observations, row.identity ≠ o.identity
  /-- An identity is accepted at most once in a batch. -/
  once : ((acceptedItems os rs).map AgentObservation.identity).Nodup
  /-- An identity that was not rejected is stored afterwards. -/
  present : ∀ o r, (o, r) ∈ os.zip rs → r.disposition ≠ .rejected →
    ∃ row ∈ db'.observations, row.identity = o.identity

theorem recorded_of_ok
    (h : ingestObservations inet sha256 snapshots now authentication upload db = (.ok rs, db')) :
    Recorded ⟨inet, sha256, authentication, upload.agentConfigRevision⟩
      upload.observations rs db db' := by
  rcases ingestObservations_ok h with ⟨rfl, rfl⟩ | ⟨snapshot, -, h⟩
  · refine ⟨?_, ?_, ?_, ?_, ?_, ?_⟩
    · simp [rejected]
    · simp [acceptedItems_rejected]
    · simp [acceptedItems_rejected]
    · simp [acceptedItems_rejected]
    · simp [acceptedItems_rejected]
    · intro o r hmem hr
      obtain ⟨o', -, rfl⟩ := List.mem_map.mp (List.of_mem_zip hmem).2
      exact absurd rfl hr
  · refine ⟨h.identities, h.rows.1, h.rows.2, fun o ho => ?_, h.fresh.2, fun o r hmem hr => ?_⟩
    · exact findCommon_eq_none.mp (h.fresh.1 o ho)
    · obtain ⟨row, hrow, hid, -⟩ := h.present hmem hr
      exact ⟨row, hrow, hid⟩

/-- An upload adds no row under an identity that the table has. -/
theorem no_new_row {outcome : Except IngestError (List AgentObservationResult)} {k : Identity}
    (h : ingestObservations inet sha256 snapshots now authentication upload db =
      (outcome, db')) (hk : ∃ row ∈ db.observations, row.identity = k) :
    ∃ rows typed, db'.observations = db.observations ++ rows ∧ db'.results = db.results ++ typed ∧
      (∀ row ∈ rows, row.identity ≠ k) ∧ ∀ row ∈ typed, row.identity ≠ k := by
  cases outcome with
  | error e =>
    rw [ingestObservations_error h]
    exact ⟨[], [], by simp, by simp, by simp, by simp⟩
  | ok rs =>
    have hrec := recorded_of_ok h
    obtain ⟨old, hold, hid⟩ := hk
    refine ⟨_, _, hrec.observations, hrec.results, fun row hrow => ?_, fun row hrow => ?_⟩
    · obtain ⟨o, ho, rfl⟩ := List.mem_map.mp hrow
      exact fun heq => hrec.new o ho old hold (hid.trans heq.symm)
    · obtain ⟨o, ho, hrow⟩ := List.mem_flatMap.mp hrow
      exact fun heq => hrec.new o ho old hold
        (hid.trans (heq.symm.trans (mem_typedRows hrow)))

/-- `ingest_observations` on any tables: what it records when it returns,
that a later run of the same upload adds nothing for an item that was
accepted or a duplicate, and that it changes nothing when it raises. -/
theorem ingestObservations_returns :
    (∀ rs db', ingestObservations inet sha256 snapshots now authentication
        upload db = (.ok rs, db') →
      Recorded ⟨inet, sha256, authentication, upload.agentConfigRevision⟩
        upload.observations rs db db' ∧ ∀ snapshots₂ now₂ db₂ outcome db₃,
        db'.observations <+: db₂.observations → now ≤ now₂ →
        ingestObservations inet sha256 snapshots₂ now₂ authentication upload
          db₂ = (outcome, db₃) → ∀ o r, (o, r) ∈ upload.observations.zip rs →
          r.disposition ≠ .rejected → ∃ rows typed, db₃.observations = db₂.observations ++ rows ∧
            db₃.results = db₂.results ++ typed ∧ (∀ row ∈ rows, row.identity ≠ o.identity) ∧
            ∀ row ∈ typed, row.identity ≠ o.identity) ∧
    ∀ e db', ingestObservations inet sha256 snapshots now authentication
      upload db = (.error e, db') → db' = db := by
  refine ⟨fun rs db' h => ?_, fun e db' h => ingestObservations_error h⟩
  have hrec := recorded_of_ok h
  refine ⟨hrec, fun snapshots₂ now₂ db₂ outcome db₃ hlater _ hagain o r hmem hr => ?_⟩
  obtain ⟨row, hrow, hid⟩ := hrec.present o r hmem hr
  exact no_new_row hagain ⟨row, hlater.subset hrow, hid⟩

end Upload

/-! An upload of one failed execution into empty tables. -/

def sampleTime (us : ℤ) (h : 0 ≤ us ∧ us ≤ 1000000000000000) : DateTime where
  instant := us
  offset := 0
  offset_lt := offset_lt_utc
  local_ge := by unfold minInstant; omega
  local_le := by unfold maxInstant; omega

def failedObservation : AgentObservation where
  scheduledAt := sampleTime 1000000 (by decide)
  observationId := .ofByte 5
  monitorId := .ofByte 1
  monitorRevision := 1
  probeType := .tcp
  startedAt := sampleTime 1000000 (by decide)
  finishedAt := sampleTime 2000000 (by decide)
  executionStatus := .failed
  assessment := .unknown
  errorCategory := some .timeout

def failedUpload : AgentObservationUpload :=
  ⟨1, 1, 1, Uuid.ofByte 6, [failedObservation]⟩

def tcpSnapshot : StoredSnapshot where
  realmId := .ofByte 4
  agentId := .ofByte 3
  revision := 1
  monitors := [⟨(Uuid.ofByte 1).text, (Uuid.ofByte 2).text, 1,
    "router.example", "tcp", 1, 30, 5, "skip", .obj []⟩]

/-- A hash of 32 bytes. -/
def shortHash (bytes : List UInt8) : List UInt8 :=
  (bytes ++ List.replicate 32 0).take 32

theorem ingestObservations_failedUpload : ∃ rs db',
    ingestObservations (fun _ => false) shortHash [tcpSnapshot] 3000000
      ⟨Uuid.ofByte 4, Uuid.ofByte 3⟩ failedUpload {} = (.ok rs, db') ∧
    rs.map (·.disposition) = [.accepted] ∧
    Recorded ⟨fun _ => false, shortHash, ⟨Uuid.ofByte 4, Uuid.ofByte 3⟩, 1⟩
      [failedObservation] rs {} db' := by
  have hreturns : ingestObservations (fun _ => false) shortHash [tcpSnapshot]
      3000000 ⟨Uuid.ofByte 4, Uuid.ofByte 3⟩ failedUpload {} = (.ok _, _) := rfl
  exact ⟨_, _, hreturns, rfl, (ingestObservations_returns.1 _ _ hreturns).1⟩

end Bifrostnms.Proofs
