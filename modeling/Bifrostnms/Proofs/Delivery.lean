import Bifrostnms.Delivery
import Bifrostnms.Lib.Checks
import Bifrostnms.Proofs.IngestConstraints
import Bifrostnms.Proofs.ObservationIdentity
import Bifrostnms.Proofs.Queue

/-!
# No observation is lost

Every payload that was put into the queue is pending, rejected or stored by
the control plane, whatever messages are lost, delayed or repeated and
wherever the agent stops. The invariant that carries this (`Invariant`) ties
the two databases together through the messages: an answer in the network
names a request in the network, and what it calls accepted or duplicate is
stored (`Invariant.answered`). Since batch ids are not used twice, an answer
that the agent accepts is one to the batch it waits for; and since the rows of
that batch stay pending while it waits, what it then deletes is what it sent.

On the other side a row is never changed and no identity is stored twice. The
typed row of an identity is there exactly if the observation has a result, for
every observation with the stored content hash: equal hashes are equal texts,
and these agree on whether the result is `null` (`result_of_hash_eq`).
-/

namespace Bifrostnms.Proofs

open Bifrostnms.Lib Bifrostnms.Protocol Bifrostnms.Backend Bifrostnms.Agent

/-! ## What the content hash determines -/

/-- In the canonical order the result is the twelfth member. -/
theorem sortKeys_modelDump (o : AgentObservation) :
    ∃ before after : List (String × Json DumpNum), before.length = 11 ∧
      o.modelDump.sortKeys codePointLe = .obj (before ++ ("result",
        (dumpOption Backend.ObservationResult.modelDump o.result).sortKeys
          codePointLe) :: after) :=
  ⟨[_, _, _, _, _, _, _, _, _, _, _], [_, _], rfl, rfl⟩

/-- The dump of a result is an object. -/
theorem sortKeys_result (r : Backend.ObservationResult) :
    ∃ kvs, r.modelDump.sortKeys codePointLe = .obj kvs := by
  cases r <;> exact ⟨_, rfl⟩

theorem result_of_hash_eq {sha256 : List UInt8 → List UInt8}
    (hsha : Function.Injective sha256) {o o' : AgentObservation}
    (h : canonicalHash sha256 o = canonicalHash sha256 o') :
    o.result.isSome = o'.result.isSome := by
  have htext := utf8_inj.mp (hsha (hexText_inj (String.ofList_inj.mp h)))
  obtain ⟨before, after, hlen, heq⟩ := sortKeys_modelDump o
  obtain ⟨before', after', hlen', heq'⟩ := sortKeys_modelDump o'
  rw [heq, heq', Json.encode_eq_iff, Json.Aligned] at htext
  have haligned := Json.aligned_at (hlen.trans hlen'.symm) htext
  cases hr : o.result with
  | none =>
    cases hr' : o'.result with
    | none => rfl
    | some r' =>
      obtain ⟨kvs, hkvs⟩ := sortKeys_result r'
      rw [hr, hr', dumpOption, dumpOption, hkvs, Json.sortKeys] at haligned
      simp [Json.Aligned] at haligned
  | some r =>
    cases hr' : o'.result with
    | none =>
      obtain ⟨kvs, hkvs⟩ := sortKeys_result r
      rw [hr, hr', dumpOption, dumpOption, hkvs, Json.sortKeys] at haligned
      simp [Json.Aligned] at haligned
    | some r' => rfl

/-! ## The control plane -/

/-- Tables whose rows were all written for observations in `Q`. -/
structure Stocked (sha256 : List UInt8 → List UInt8)
    (Q : AgentObservation → Prop) (db : Database) : Prop where
  /-- No identity is stored twice. -/
  unique : (db.observations.map CommonRow.identity).Nodup
  /-- A typed row belongs to a common row. -/
  consistent : Consistent db
  typedUnique : (db.results.map TypedRow.identity).Nodup
  /-- A row has the hash of its observation, and a typed row if that has a
  result. -/
  backed : ∀ row ∈ db.observations, ∃ o, Q o ∧ o.identity = row.identity ∧
    canonicalHash sha256 o = row.canonicalPayloadHash ∧
    ((∃ typed ∈ db.results, typed.identity = row.identity) ↔ o.result.isSome = true)

variable {ctx : IngestContext} {monitors : List MonitorConfiguration} {now : ℤ}
  {Q : AgentObservation → Prop} {db db' : Database}

theorem stocked_empty {sha256 : List UInt8 → List UInt8} : Stocked sha256 Q {} := by
  refine ⟨List.nodup_nil, ?_, List.nodup_nil, ?_⟩
  · intro typed h
    cases h
  · intro row h
    cases h

theorem exists_typedRows (ctx : IngestContext) {o : AgentObservation} :
    (∃ typed ∈ typedRows ctx o, typed.identity = o.identity) ↔ o.result.isSome = true := by
  cases hr : o.result with
  | none => simp [typedRows, hr]
  | some result => simp [typedRows, hr, typedRow, TypedRow.identity, AgentObservation.identity]

theorem insertRows_stocked {o : AgentObservation} (h : Stocked ctx.sha256 Q db) (ho : Q o)
    (hnew : db.findCommon o.identity = none) : Stocked ctx.sha256 Q (insertRows ctx db o) := by
  have hold := findCommon_eq_none.mp hnew
  have htyped : ∀ typed ∈ db.results, typed.identity ≠ o.identity := by
    intro typed hmem heq
    obtain ⟨row, hrow, hid⟩ := h.consistent typed hmem
    exact hold row hrow (hid.trans heq)
  refine ⟨?_, consistent_insertRows h.consistent, ?_, fun row hrow => ?_⟩
  · rw [insertRows, List.map_append, List.nodup_append]
    refine ⟨h.unique, by simp, fun k hk k' hk' heq => ?_⟩
    obtain ⟨row, hrow, rfl⟩ := List.mem_map.mp hk
    rw [List.map_singleton, List.mem_singleton] at hk'
    exact hold row hrow (heq.trans hk')
  · rw [insertRows, List.map_append, List.nodup_append]
    refine ⟨h.typedUnique, ?_, fun k hk k' hk' heq => ?_⟩
    · cases hr : o.result with
      | none => simp [typedRows, hr]
      | some result => simp [typedRows, hr]
    · obtain ⟨typed, hmem, rfl⟩ := List.mem_map.mp hk
      obtain ⟨typed', hmem', rfl⟩ := List.mem_map.mp hk'
      exact htyped typed hmem (heq.trans (mem_typedRows hmem'))
  · rcases List.mem_append.mp hrow with hrow | hrow
    · obtain ⟨o', ho', hid, hhash, hresult⟩ := h.backed row hrow
      refine ⟨o', ho', hid, hhash, Iff.trans ⟨?_, ?_⟩ hresult⟩
      · rintro ⟨typed, hmem, heq⟩
        rcases List.mem_append.mp hmem with hmem | hmem
        · exact ⟨typed, hmem, heq⟩
        · exact absurd (heq.symm.trans (mem_typedRows hmem)) (hold row hrow)
      · rintro ⟨typed, hmem, heq⟩
        exact ⟨typed, List.mem_append_left _ hmem, heq⟩
    · rw [List.mem_singleton.mp hrow]
      refine ⟨o, ho, rfl, rfl, Iff.trans ⟨?_, ?_⟩ (exists_typedRows ctx)⟩
      · rintro ⟨typed, hmem, heq⟩
        rcases List.mem_append.mp hmem with hmem | hmem
        · exact absurd heq (htyped typed hmem)
        · exact ⟨typed, hmem, heq⟩
      · rintro ⟨typed, hmem, heq⟩
        exact ⟨typed, List.mem_append_right _ hmem, heq⟩

theorem Ingested.stocked {os : List AgentObservation} {rs : List AgentObservationResult}
    (h : Ingested ctx monitors now os db rs db') (hos : ∀ o ∈ os, Q o)
    (hdb : Stocked ctx.sha256 Q db) : Stocked ctx.sha256 Q db' := by
  induction h with
  | nil => exact hdb
  | cons hone _ ih =>
    refine ih (fun o ho => hos o (by simp [ho])) ?_
    cases hone with
    | accepted _ hnew => exact insertRows_stocked hdb (hos _ (by simp)) hnew
    | duplicate | conflict | turnedAway => exact hdb

theorem Stocked.mono {sha256 : List UInt8 → List UInt8}
    {Q' : AgentObservation → Prop} (h : Stocked sha256 Q db)
    (hQ : ∀ o, Q o → Q' o) : Stocked sha256 Q' db := by
  refine ⟨h.unique, h.consistent, h.typedUnique, fun row hrow => ?_⟩
  obtain ⟨o, ho, hrest⟩ := h.backed row hrow
  exact ⟨o, hQ o ho, hrest⟩

/-- The payload is stored: the row of its identity has its content hash. -/
def OnServer (env : Environment) (db : Database) (payload : List Char) : Prop :=
  ∃ o, env.reader.decode payload = some o ∧ ∃ row ∈ db.observations, row.identity = o.identity ∧
      row.canonicalPayloadHash = canonicalHash env.sha256 o

/-- The answer is to a request in `requests`, and every payload that it calls
accepted or duplicate is stored. -/
def Truthful (env : Environment) (requests : List ObservationUpload)
    (db : Database) (response : ObservationUploadResponse) : Prop :=
  ∃ u ∈ requests, response.batchId = u.batchId ∧
    ∀ payload r, (payload, r) ∈ u.observations.zip response.results →
      r.disposition = dispositionAccepted ∨
        r.disposition = dispositionDuplicate → OnServer env db payload

variable {env : Environment}

theorem OnServer.grows {payload : List Char} (h : OnServer env db payload)
    (hgrows : db.observations <+: db'.observations) : OnServer env db' payload := by
  obtain ⟨o, ho, row, hrow, hrest⟩ := h
  exact ⟨o, ho, row, hgrows.subset hrow, hrest⟩

theorem Truthful.grows {requests requests' : List ObservationUpload}
    {response : ObservationUploadResponse}
    (h : Truthful env requests db response) (hsub : requests ⊆ requests')
    (hgrows : db.observations <+: db'.observations) : Truthful env requests' db' response := by
  obtain ⟨u, hu, hid, hstored⟩ := h
  exact ⟨u, hsub hu, hid, fun payload r hmem hr =>
    (hstored payload r hmem hr).grows hgrows⟩

theorem readUpload_eq_some {reader : RequestReader} {u : ObservationUpload}
    {upload : AgentObservationUpload} (h : readUpload reader u = some upload) :
    reader.uuid u.batchId = some upload.batchId ∧
      u.observations.map reader.decode = upload.observations.map some := by
  simp only [readUpload, Option.bind_eq_bind, Option.bind_eq_some_iff] at h
  obtain ⟨batchId, hid, observations, hobservations, h⟩ := h
  split at h
  · cases h
    exact ⟨hid, mapM_eq_some.mp hobservations⟩
  · cases h

/-- A request is refused without effect, or ingested and answered. -/
theorem uploadObservations_cases {reader : RequestReader}
    {inet : String → Bool} {sha256 : List UInt8 → List UInt8}
    {snapshots : List StoredSnapshot} {authentication : Authentication}
    {u : ObservationUpload} {answer : Option ObservationUploadResponse}
    (h : uploadObservations reader inet sha256 snapshots now authentication u
      db = (answer, db')) : (answer = none ∧ db' = db) ∨ ∃ upload rs,
      readUpload reader u = some upload ∧
      ingestObservations inet sha256 snapshots now authentication upload db = (.ok rs, db') ∧
      answer = some ⟨1, upload.batchId.text, rs.map resultOf, none⟩ := by
  unfold uploadObservations at h
  split at h
  · cases h
    exact .inl ⟨rfl, rfl⟩
  · next upload hread =>
      split at h
      · cases h
        exact .inl ⟨rfl, rfl⟩
      · split at h
        · next hrun =>
            cases h
            exact .inl ⟨rfl, ingestObservations_error hrun⟩
        · next rs _ hrun =>
            cases h
            exact .inr ⟨upload, rs, hread, hrun, rfl⟩

theorem disposition_ne_rejected {d : Disposition} (h : dispositionText d = dispositionAccepted ∨
      dispositionText d = dispositionDuplicate) : d ≠ .rejected := by
  intro hd
  subst hd
  exact absurd h (by decide)

/-- What an upload that returns says of its items: those it does not reject
are stored. -/
theorem ingest_present {inet : String → Bool}
    {sha256 : List UInt8 → List UInt8} {snapshots : List StoredSnapshot} {authentication : Authentication}
    {upload : AgentObservationUpload} {rs : List AgentObservationResult}
    (h : ingestObservations inet sha256 snapshots now authentication upload
      db = (.ok rs, db')) : ∀ o r, (o, r) ∈ upload.observations.zip rs → r.disposition ≠ .rejected →
      ∃ row ∈ db'.observations, row.identity = o.identity ∧
        row.canonicalPayloadHash = canonicalHash sha256 o := by
  intro o r hmem hr
  rcases ingestObservations_ok h with ⟨-, rfl⟩ | ⟨snapshot, -, hrun⟩
  · obtain ⟨o', -, rfl⟩ := List.mem_map.mp (List.of_mem_zip hmem).2
    exact absurd rfl hr
  · exact hrun.present hmem hr

/-! ## The whole system -/

/-- The id of a run is the text of a UUID. -/
theorem newObservationId_text {sha256 : List UInt8 → List UInt8}
    (hlen : ∀ bytes, 16 ≤ (sha256 bytes).length) (monitorId : String) (t : ℤ) :
    ∃ u : Uuid, newObservationId sha256 monitorId t = u.text := by
  unfold newObservationId
  have h := hlen (utf8 (monitorId.toList ++ '/' :: rfc3339Nano t))
  generalize sha256 (utf8 (monitorId.toList ++ '/' :: rfc3339Nano t)) = d at h
  refine ⟨⟨d.take 16, by rw [List.length_take]; omega⟩, ?_⟩
  simp only [Uuid.text, Uuid.chars, List.take_take, List.drop_take]
  rfl

/-- An observation whose payload is the text of a run with its time and
id. -/
def Written (e : Observation) : Prop :=
  ∃ probeType request result,
    encodeObservation probeType request result none = .ok e.canonicalPayload ∧
    request.scheduledAt = e.scheduledAt ∧ request.observationId = e.observationId ∧
    ∃ u : Uuid, e.observationId = u.text

/-- The observations that the control plane can read from the queue. -/
def Readable (env : Environment) (enqueued : List Observation) (o : AgentObservation) : Prop :=
  ∃ e ∈ enqueued, env.reader.decode e.canonicalPayload = some o

/-- The payload is in one of the three places. -/
def Somewhere (env : Environment) (s : System) (e : Observation) : Prop :=
  Pending s.store e.key e.canonicalPayload ∨ Rejected s.store e.key e.canonicalPayload ∨
    OnServer env s.server e.canonicalPayload

structure Invariant (env : Environment) (s : System) : Prop where
  written : ∀ e ∈ s.enqueued, Written e
  /-- The primary key of the queue. -/
  keys : (s.store.pending.map Observation.key).Nodup
  /-- Nothing is pending or sent that was not enqueued. -/
  known : ∀ key payload, Pending s.store key payload →
    ∃ e ∈ s.enqueued, e.canonicalPayload = payload
  sent : ∀ u ∈ s.requests, ∀ payload ∈ u.observations,
    ∃ e ∈ s.enqueued, e.canonicalPayload = payload
  /-- A batch id is used once, and is the text of a UUID. -/
  ids : (s.requests.map ObservationUpload.batchId).Nodup
  idTexts : ∀ u ∈ s.requests, ∃ b : Uuid, u.batchId = b.text
  /-- While an answer is awaited, the rows of the batch are pending. -/
  waiting : ∀ batch now, s.phase = .waiting batch now → batch.upload ∈ s.requests ∧
    batch.upload.observations = batch.observations.map Observation.canonicalPayload ∧
    ∀ o ∈ batch.observations, Pending s.store o.key o.canonicalPayload
  answered : ∀ r ∈ s.responses, Truthful env s.requests s.server r
  stocked : Stocked env.sha256 (Readable env s.enqueued) s.server
  somewhere : ∀ e ∈ s.enqueued, Somewhere env s e

variable {s s' : System}

theorem invariant_init : Invariant env {} where
  written := fun _ h => by cases h
  keys := List.nodup_nil
  known := fun _ _ ⟨_, h, _⟩ => by cases h
  sent := fun _ h => by cases h
  ids := List.nodup_nil
  idTexts := fun _ h => by cases h
  waiting := fun _ _ h => by cases h
  answered := fun _ h => by cases h
  stocked := stocked_empty
  somewhere := fun _ h => by cases h

/-- A step of the agent that only settles rows, and leaves `UploadOnce`. -/
theorem Invariant.settle (h : Invariant env s) {store : Store}
    (hkeeps : Keeps (OnServer env s.server) s.store store) {phase : UploadPhase}
    (hphase : ∀ batch now, phase ≠ .waiting batch now) :
    Invariant env { s with store := store, phase := phase } where
  written := h.written
  keys := h.keys.sublist hkeeps.keys
  known := fun key payload hp => h.known key payload (hkeeps.pending _ _ hp)
  sent := h.sent
  ids := h.ids
  idTexts := h.idTexts
  waiting := fun batch now hwaiting => absurd hwaiting (hphase batch now)
  answered := h.answered
  stocked := h.stocked
  somewhere := fun e he => by
    rcases h.somewhere e he with hp | hr | hs
    · exact hkeeps.held _ _ (.inl hp)
    · exact hkeeps.held _ _ (.inr hr)
    · exact .inr (.inr hs)

theorem recordExecution_ok {store store' : Store} {limits : QueueLimits}
    {e : Execution} {createdAt clock : ℤ} {payload : List Char}
    (hpayload : executionPayload e = .ok payload)
    (h : recordExecution store limits e createdAt clock = .ok store') : enqueueObservation store
      (recordedObservation e.truncated payload createdAt) limits clock = .ok store' := by
  unfold executionPayload at hpayload
  unfold recordExecution at h
  dsimp only at h
  rw [hpayload] at h
  dsimp only at h
  split at h
  · cases h
  · next hstore =>
      cases h
      exact hstore

/-- A recorded execution is pending, and nothing else is lost: a row is added
only under a key that no row has. -/
theorem Invariant.record (h : Invariant env s) {e : Observation}
    (hwritten : Written e) {limits : QueueLimits} {clock : ℤ} {store : Store}
    (hstore : enqueueObservation s.store e limits clock = .ok store) : Invariant env
      { s with store := store, enqueued := s.enqueued ++ [e] } := by
  obtain ⟨hpending, hcases⟩ := enqueueObservation_ok hstore
  have hmono : ∀ {payload}, (∃ e' ∈ s.enqueued, e'.canonicalPayload = payload) →
      ∃ e' ∈ s.enqueued ++ [e], e'.canonicalPayload = payload :=
    fun ⟨e', he', hp⟩ => ⟨e', List.mem_append_left _ he', hp⟩
  -- What was pending stays so, and what is pending was or is the new row.
  have hkept : ∀ key payload, Pending s.store key payload → Pending store key payload := by
    intro key payload ⟨row, hrow, hp⟩
    rcases hcases with rfl | ⟨new, -, -, -, rfl⟩
    · exact ⟨row, hrow, hp⟩
    · exact ⟨row, List.mem_append_left _ hrow, hp⟩
  have hrejected : store.rejected = s.store.rejected := by
    rcases hcases with rfl | ⟨new, -, -, -, rfl⟩ <;> rfl
  refine ⟨?_, ?_, ?_, fun u hu p hp => hmono (h.sent u hu p hp), h.ids,
    h.idTexts, ?_, h.answered, ?_, ?_⟩
  · intro e' he'
    rcases List.mem_append.mp he' with he' | he'
    · exact h.written e' he'
    · exact List.mem_singleton.mp he' ▸ hwritten
  · rcases hcases with rfl | ⟨new, hkey, -, hfresh, rfl⟩
    · exact h.keys
    · rw [List.map_append, List.nodup_append]
      refine ⟨h.keys, by simp, fun k hk k' hk' heq => ?_⟩
      obtain ⟨row, hrow, rfl⟩ := List.mem_map.mp hk
      rw [List.map_singleton, List.mem_singleton] at hk'
      exact hfresh row hrow (heq.trans (hk'.trans hkey))
  · intro key payload hp
    rcases hcases with rfl | ⟨new, -, hnew, -, rfl⟩
    · exact hmono (h.known key payload hp)
    · obtain ⟨row, hrow, hk, hrowp⟩ := hp
      rcases List.mem_append.mp hrow with hrow | hrow
      · exact hmono (h.known key payload ⟨row, hrow, hk, hrowp⟩)
      · rw [List.mem_singleton.mp hrow] at hrowp
        exact ⟨e, by simp, hnew.symm.trans hrowp⟩
  · intro batch now hwaiting
    obtain ⟨hsent, htexts, hrows⟩ := h.waiting batch now hwaiting
    exact ⟨hsent, htexts, fun o ho => hkept _ _ (hrows o ho)⟩
  · exact h.stocked.mono fun o ⟨e', he', hd⟩ =>
      ⟨e', List.mem_append_left _ he', hd⟩
  · intro e' he'
    rcases List.mem_append.mp he' with he' | he'
    · rcases h.somewhere e' he' with hp | ⟨row, hrow, hr⟩ | hs
      · exact .inl (hkept _ _ hp)
      · exact .inr (.inl ⟨row, hrejected ▸ hrow, hr⟩)
      · exact .inr (.inr hs)
    · rw [List.mem_singleton.mp he']
      exact .inl hpending

theorem Invariant.send (h : Invariant env s) {now : ℤ} {b : Uuid}
    {batch : Batch} (hfresh : ∀ r ∈ s.requests, r.batchId ≠ b.text)
    (hstart : startUpload env.raw s.store now b.text = .send batch) : Invariant env { s with
      phase := .waiting batch now
      requests := s.requests ++ [batch.upload] } := by
  obtain ⟨hrows, htexts, hid⟩ := startUpload_send hstart
  have hpending : ∀ o ∈ batch.observations, Pending s.store o.key o.canonicalPayload := fun o ho =>
    ⟨o, hrows o ho, rfl, rfl⟩
  refine ⟨h.written, h.keys, h.known, ?_, ?_, ?_, ?_, ?_, h.stocked, h.somewhere⟩
  · intro u hu payload hp
    rcases List.mem_append.mp hu with hu | hu
    · exact h.sent u hu payload hp
    · rw [List.mem_singleton.mp hu, htexts] at hp
      obtain ⟨o, ho, rfl⟩ := List.mem_map.mp hp
      exact h.known _ _ (hpending o ho)
  · rw [List.map_append, List.nodup_append]
    refine ⟨h.ids, by simp, fun k hk k' hk' heq => ?_⟩
    obtain ⟨u, hu, rfl⟩ := List.mem_map.mp hk
    rw [List.map_singleton, List.mem_singleton] at hk'
    exact hfresh u hu (heq.trans (hk'.trans hid))
  · intro u hu
    rcases List.mem_append.mp hu with hu | hu
    · exact h.idTexts u hu
    · exact ⟨b, List.mem_singleton.mp hu ▸ hid⟩
  · intro batch' now' hwaiting
    cases hwaiting
    exact ⟨by simp, htexts, hpending⟩
  · intro r hr
    exact (h.answered r hr).grows (List.subset_append_left _ _)
      (List.prefix_refl _)

theorem zip_payloads {payloads : List (List Char)}
    {observations : List AgentObservation} {rs : List AgentObservationResult}
    {decode : List Char → Option AgentObservation}
    (hdecode : payloads.map decode = observations.map some) {payload : List Char}
    {r : Agent.ObservationResult} (hmem : (payload, r) ∈ payloads.zip (rs.map resultOf)) :
    ∃ o r', decode payload = some o ∧ (o, r') ∈ observations.zip rs ∧ r = resultOf r' := by
  induction payloads generalizing observations rs with
  | nil => cases hmem
  | cons p payloads ih =>
    cases observations with
    | nil => cases hdecode
    | cons o observations =>
      cases rs with
      | nil => cases hmem
      | cons r' rs =>
        rw [List.map_cons, List.map_cons, List.cons.injEq] at hdecode
        rw [List.map_cons, List.zip_cons_cons, List.mem_cons] at hmem
        rcases hmem with heq | hmem
        · cases heq
          exact ⟨o, r', hdecode.1, by simp, rfl⟩
        · obtain ⟨o', r'', hd, hz, hr⟩ := ih hdecode.2 hmem
          exact ⟨o', r'', hd, List.mem_cons_of_mem _ hz, hr⟩

/-- A request that was sent, handled at any time. -/
theorem Invariant.serve (h : Invariant env s) {u : ObservationUpload}
    (hsent : u ∈ s.requests) {inet : String → Bool}
    {snapshots : List StoredSnapshot} {answer : Option ObservationUploadResponse}
    (hrun : uploadObservations env.reader inet env.sha256 snapshots now
      env.authentication u s.server = (answer, db')) : Invariant env { s with
      server := db', responses := s.responses ++ answer.toList } ∧
    s.server.observations <+: db'.observations ∧ s.server.results <+: db'.results := by
  rcases uploadObservations_cases hrun with
    ⟨rfl, rfl⟩ | ⟨upload, rs, hread, hingest, rfl⟩
  · refine ⟨?_, List.prefix_refl _, List.prefix_refl _⟩
    rw [Option.toList_none, List.append_nil]
    exact h
  · obtain ⟨hbatch, hdecode⟩ := readUpload_eq_some hread
    have hrec := recorded_of_ok hingest
    have hgrows : s.server.observations <+: db'.observations :=
      ⟨_, hrec.observations.symm⟩
    refine ⟨?_, hgrows, ⟨_, hrec.results.symm⟩⟩
    refine ⟨h.written, h.keys, h.known, h.sent, h.ids, h.idTexts, h.waiting, ?_, ?_, ?_⟩
    · intro response hresponse
      rcases List.mem_append.mp hresponse with hresponse | hresponse
      · exact (h.answered response hresponse).grows (List.Subset.refl _) hgrows
      · rw [Option.toList_some, List.mem_singleton] at hresponse
        subst hresponse
        refine ⟨u, hsent, ?_, fun payload r hmem hdisposition => ?_⟩
        · obtain ⟨b, hb⟩ := h.idTexts u hsent
          rw [hb, env.reader.uuid_text] at hbatch
          rw [hb, Option.some.inj hbatch]
        · obtain ⟨o, r', hd, hz, rfl⟩ := zip_payloads hdecode hmem
          obtain ⟨row, hrow, hrest⟩ := ingest_present hingest o r'
            hz (disposition_ne_rejected hdisposition)
          exact ⟨o, hd, row, hrow, hrest⟩
    · have hreadable : ∀ o ∈ upload.observations, Readable env s.enqueued o := by
        intro o ho
        have hsome : some o ∈ u.observations.map env.reader.decode := by
          rw [hdecode]
          exact List.mem_map_of_mem ho
        obtain ⟨payload, hpayload, hd⟩ := List.mem_map.mp hsome
        obtain ⟨e, he, rfl⟩ := h.sent u hsent payload hpayload
        exact ⟨e, he, hd⟩
      rcases ingestObservations_ok hingest with ⟨rfl, -⟩ | ⟨snapshot, -, hi⟩
      · exact h.stocked
      · exact hi.stocked hreadable h.stocked
    · intro e he
      rcases h.somewhere e he with hp | hr | hs
      · exact .inl hp
      · exact .inr (.inl hr)
      · exact .inr (.inr (hs.grows hgrows))

/-- An acknowledgement has the disposition of the result at its index. -/
theorem zip_acknowledgements {now : ℤ} {delay : ℕ → ℤ}
    {batch : List Observation} {results : List Agent.ObservationResult}
    {o : Observation} {a : ObservationAcknowledgement}
    (hmem : (o, a) ∈ batch.zip (acknowledgements now delay batch results)) :
    ∃ r, (o.canonicalPayload, r) ∈ (batch.map Observation.canonicalPayload).zip results ∧
      a.disposition = r.disposition := by
  obtain ⟨i, hi⟩ := List.mem_iff_getElem?.mp hmem
  obtain ⟨ho, ha⟩ := List.getElem?_zip_eq_some.mp hi
  rw [acknowledgements, List.getElem?_mapIdx, Option.map_eq_some_iff] at ha
  obtain ⟨r, hr, rfl⟩ := ha
  refine ⟨r, List.mem_iff_getElem?.mpr ⟨i, ?_⟩, rfl⟩
  exact List.getElem?_zip_eq_some.mpr ⟨by rw [List.getElem?_map, ho]; rfl, hr⟩

/-- The answer to the batch, from any time: what it makes the agent delete is
what the agent sent, and is stored. -/
theorem Invariant.receive (h : Invariant env s) {batch : Batch} {now : ℤ}
    {response : ObservationUploadResponse} {delay : ℕ → ℤ} {store : Store}
    (hphase : s.phase = .waiting batch now) (hsent : response ∈ s.responses)
    (hstore : handleResponse s.store batch response now delay = .ok store) :
    Invariant env { s with store := store, phase := .idle } := by
  obtain ⟨hrequest, htexts, hrows⟩ := h.waiting batch now hphase
  obtain ⟨u, hu, hid, hstored⟩ := h.answered response hsent
  unfold handleResponse at hstore
  split at hstore
  · cases hstore
  · next hmatch =>
      rw [not_or, not_not, not_not] at hmatch
      have hsame : u = batch.upload :=
        List.inj_on_of_nodup_map h.ids hu hrequest
          (hid.symm.trans hmatch.2)
      refine h.settle (applyAcknowledgements_keeps (fun o ho payload hp =>
        pending_unique h.keys (hrows o ho) hp) ?_ hstore) (by simp)
      intro o a hmem hdisposition
      obtain ⟨r, hr, hdisp⟩ := zip_acknowledgements hmem
      rw [← htexts, ← hsame] at hr
      exact hstored _ r hr (hdisp ▸ hdisposition)

theorem step_invariant (hlen : ∀ bytes, 16 ≤ (env.sha256 bytes).length)
    (hstep : Step env s s') (h : Invariant env s) : Invariant env s' := by
  cases hstep with
  | record e a t limits createdAt clock payload store hrun hpayload hstore =>
    have hid : ∃ u : Uuid, e.request.observationId = u.text := by
      rw [hrun]
      exact newObservationId_text hlen a.monitorId t
    have hwritten : Written
        (recordedObservation e.truncated payload createdAt) :=
      ⟨_, _, _, hpayload, rfl, rfl, hid⟩
    exact h.record hwritten (recordExecution_ok hpayload hstore)
  | send now random batch hidle hfresh hstart => exact h.send hfresh hstart
  | findUnsendable | fail => exact h.settle (Keeps.refl _) (by simp)
  | quarantine o code details now store hphase hstore =>
    exact h.settle (quarantineObservation_keeps h.keys hstore) (by simp)
  | serve u inet snapshots now hsent => exact (h.serve hsent rfl).1
  | receive batch now response delay store hphase hsent hstore =>
    exact h.receive hphase hsent hstore
  | recordFailure backoffUntil hphase =>
    have hkeeps : Keeps (OnServer env s.server) s.store
        (recordSynchronizationFailure s.store backoffUntil) :=
      ⟨(Keeps.refl s.store).held, fun _ _ hp => hp, List.Sublist.refl _⟩
    exact h.settle hkeeps (by simp)
  | crash => exact h.settle (Keeps.refl _) (by simp)

theorem reached_invariant (hlen : ∀ bytes, 16 ≤ (env.sha256 bytes).length)
    (h : Reached env s) : Invariant env s := by
  induction h with
  | refl => exact invariant_init
  | tail _ hstep ih => exact step_invariant hlen hstep ih

/-- The observation is stored: there is a row under its time and its id with
the content hash of what the control plane reads from its payload. -/
def StoredOn (env : Environment) (db : Database) (e : Observation) : Prop :=
  ∃ o row, env.reader.decode e.canonicalPayload = some o ∧
    row ∈ db.observations ∧ row.scheduledAt = e.scheduledAt / 1000 ∧
    row.observationId.text = e.observationId ∧ row.canonicalPayloadHash = canonicalHash env.sha256 o

theorem storedOn_of_onServer {e : Observation} (hwritten : Written e)
    (h : OnServer env db e.canonicalPayload) : StoredOn env db e := by
  obtain ⟨o, hdecode, row, hrow, hid, hhash⟩ := h
  obtain ⟨probeType, request, result, hpayload, htime, hrequest, u, hu⟩ :=
    hwritten
  have hinstant : o.scheduledAt.instant = e.scheduledAt / 1000 := by
    have hread := env.reader.decode_time hpayload hdecode
    rw [readUtc_rfc3339Micro, htime] at hread
    exact DateTime.instant_of_ofInstant hread
  have hobservation : o.observationId = u := by
    have hread := env.reader.decode_id hpayload hdecode
    rw [hrequest, hu, env.reader.uuid_text] at hread
    exact (Option.some.inj hread).symm
  obtain ⟨hrowTime, hrowId⟩ := Prod.mk.injEq _ _ _ _ ▸ hid
  refine ⟨o, row, hdecode, hrow, hrowTime.trans hinstant, ?_, hhash⟩
  rw [hrowId, hobservation, hu]

/-- The tables of the control plane only grow. -/
theorem step_grows (h : Invariant env s) (hstep : Step env s s') :
    s.server.observations <+: s'.server.observations ∧ s.server.results <+: s'.server.results := by
  cases hstep with
  | serve u inet snapshots now hsent => exact (h.serve hsent rfl).2
  | record | send | findUnsendable | quarantine | receive | fail
  | recordFailure | crash => exact ⟨List.prefix_refl _, List.prefix_refl _⟩

/-- In every state that a run reaches: what was enqueued is pending, rejected
or stored; no identity has two common or two typed rows; the next step changes
no stored row; and the rows are those of enqueued observations, with a typed row exactly
if the observation of that content has a result. -/
theorem observations_delivered (hsha : Function.Injective env.sha256)
    (hlen : ∀ bytes, 16 ≤ (env.sha256 bytes).length) (h : Reached env s) :
    (∀ e ∈ s.enqueued, Pending s.store e.key e.canonicalPayload ∨
      Rejected s.store e.key e.canonicalPayload ∨ StoredOn env s.server e) ∧
    (s.server.observations.map CommonRow.identity).Nodup ∧
    (s.server.results.map TypedRow.identity).Nodup ∧ (∀ s', Step env s s' →
      s.server.observations <+: s'.server.observations ∧ s.server.results <+: s'.server.results) ∧
    ∀ row ∈ s.server.observations, (∃ o, Readable env s.enqueued o ∧ o.identity = row.identity ∧
        canonicalHash env.sha256 o = row.canonicalPayloadHash) ∧
      ∀ o, canonicalHash env.sha256 o = row.canonicalPayloadHash →
        ((∃ typed ∈ s.server.results, typed.identity = row.identity) ↔ o.result.isSome = true) := by
  have hinv := reached_invariant hlen h
  refine ⟨fun e he => ?_, hinv.stocked.unique, hinv.stocked.typedUnique,
    fun s' => step_grows hinv, fun row hrow => ?_⟩
  · rcases hinv.somewhere e he with hp | hr | hs
    · exact .inl hp
    · exact .inr (.inl hr)
    · exact .inr (.inr (storedOn_of_onServer (hinv.written e he) hs))
  · obtain ⟨o, hread, hid, hhash, hresult⟩ := hinv.stocked.backed row hrow
    refine ⟨⟨o, hread, hid, hhash⟩, fun o' hhash' => ?_⟩
    rw [hresult, result_of_hash_eq hsha (hhash.trans hhash'.symm)]

/-! A run of one execution: it is recorded, sent and handled, and the answer
is lost. The control plane here reads the one text that was sent. -/

/-- A hash that can be undone. -/
def paddedHash (bytes : List UInt8) : List UInt8 :=
  bytes ++ List.replicate 16 0

def timedOutResult : Result where
  startedAt := second
  finishedAt := 2 * second
  executionStatus := executionFailed
  assessment := assessmentUnknown
  errorCategory := some "timeout"

def timedOutExecution : Execution where
  probeType := "tcp"
  request := startRequest paddedHash sharedAssignment second
  result := timedOutResult

def timedOutPayload : List Char :=
  (observationEnvelope "tcp" timedOutExecution.truncated.request
    timedOutExecution.truncated.result none).encode JsonText.goEncoder

/-- What the control plane makes of it. -/
def timedOutObservation : AgentObservation := { failedObservation with
  observationId :=
    ⟨[48, 49, 48, 49, 48, 49, 48, 49, 45, 48, 49, 48, 49, 45, 48, 49], rfl⟩ }

theorem envelope_of_encode {probeType : String} {request : Request}
    {result : Result} {offset : Option ℤ} (h : encodeObservation probeType request result offset =
      .ok timedOutPayload) : rfc3339Micro request.scheduledAt = rfc3339Micro second ∧
      request.observationId = timedOutObservation.observationId.text := by
  unfold encodeObservation at h
  split at h
  · cases h
  · split at h
    · cases h
    · have htext := Json.encode_eq_iff.mp (Except.ok.inj h)
      simp only [observationEnvelope, Json.Aligned, Json.AlignedMembers] at htext
      exact ⟨String.ofList_inj.mp (JsonText.quote_goEscape_inj htext.2.1),
        JsonText.quote_goEscape_inj htext.2.2.2.1⟩

open Classical in
/-- The UUID of a canonical text. -/
noncomputable def uuidOfText (s : String) : Option Uuid :=
  if h : ∃ u : Uuid, u.text = s then some h.choose else none

theorem uuidOfText_text (u : Uuid) : uuidOfText u.text = some u := by
  have h : ∃ v : Uuid, v.text = u.text := ⟨u, rfl⟩
  rw [uuidOfText, dif_pos h, Uuid.text_inj.mp h.choose_spec]

noncomputable def oneTextReader : RequestReader where
  uuid := uuidOfText
  uuid_text := uuidOfText_text
  decode payload :=
    if payload = timedOutPayload then some timedOutObservation else none
  decode_time := by
    intro probeType request result offset payload o hencode hdecode
    split at hdecode
    · next hpayload =>
        cases hdecode
        rw [(envelope_of_encode (hpayload ▸ hencode)).1, readUtc_rfc3339Micro]
        rfl
    · cases hdecode
  decode_id := by
    intro probeType request result offset payload o hencode hdecode
    split at hdecode
    · next hpayload =>
        cases hdecode
        rw [(envelope_of_encode (hpayload ▸ hencode)).2]
        exact uuidOfText_text _
    · cases hdecode

noncomputable def oneTextEnvironment : Environment where
  raw := ⟨fun _ => true, id⟩
  reader := oneTextReader
  sha256 := paddedHash
  authentication := ⟨Uuid.ofByte 4, Uuid.ofByte 3⟩

/-- The execution in the queue. -/
def timedOutRow : Observation :=
  { recordedObservation timedOutExecution.truncated timedOutPayload
      (3 * second) with nextAttemptAt := 3 * second }

def timedOutBatch : Batch :=
  ⟨⟨1, 1, 1, (newBatchId (Uuid.ofByte 6)).text, [timedOutPayload]⟩, [timedOutRow]⟩

theorem executionPayload_timedOut : executionPayload timedOutExecution = .ok timedOutPayload := rfl

def recordedSystem : System where
  store := { pending := [timedOutRow] }
  enqueued := [recordedObservation timedOutExecution.truncated timedOutPayload
    (3 * second)]

def sentSystem : System := { recordedSystem with
  phase := .waiting timedOutBatch (4 * second)
  requests := [timedOutBatch.upload] }

set_option maxRecDepth 20000 in
theorem reached_sentSystem : Reached oneTextEnvironment sentSystem := by
  have hstore : recordExecution {} ⟨1000000, 2 ^ 30⟩ timedOutExecution
      (3 * second) 0 = .ok { pending := [timedOutRow] } := rfl
  have hstart : startUpload oneTextEnvironment.raw { pending := [timedOutRow] }
      (4 * second) (newBatchId (Uuid.ofByte 6)).text = .send timedOutBatch :=
    rfl
  have hrecord : Step oneTextEnvironment {} recordedSystem :=
    .record timedOutExecution sharedAssignment second ⟨1000000, 2 ^ 30⟩
      (3 * second) 0 timedOutPayload { pending := [timedOutRow] } rfl
      executionPayload_timedOut hstore
  have hsend : Step oneTextEnvironment recordedSystem sentSystem :=
    .send (4 * second) (Uuid.ofByte 6) timedOutBatch rfl
      (fun _ h => by cases h) hstart
  exact .tail (.single hrecord) hsend

theorem observations_delivered_timedOut :
    ∃ s, Reached oneTextEnvironment s ∧ s.enqueued = recordedSystem.enqueued ∧ s.phase = .failing ∧
      ∀ e ∈ s.enqueued, Pending s.store e.key e.canonicalPayload ∨
        Rejected s.store e.key e.canonicalPayload ∨ StoredOn oneTextEnvironment s.server e := by
  have hsha : Function.Injective oneTextEnvironment.sha256 :=
    fun _ _ h => List.append_cancel_right h
  have hlen : ∀ bytes, 16 ≤ (oneTextEnvironment.sha256 bytes).length := by
    intro bytes
    show 16 ≤ (bytes ++ List.replicate 16 0).length
    simp
  -- The request is handled, and its answer is lost.
  have hserve : Step oneTextEnvironment sentSystem _ :=
    .serve timedOutBatch.upload (fun _ => false) [tcpSnapshot] 5000000
      List.mem_cons_self
  have hreached := (reached_sentSystem.tail hserve).tail
    (.fail timedOutBatch (4 * second) rfl)
  exact ⟨_, hreached, rfl, rfl, (observations_delivered hsha hlen hreached).1⟩

end Bifrostnms.Proofs
