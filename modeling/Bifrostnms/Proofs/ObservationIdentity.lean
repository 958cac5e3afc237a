import Bifrostnms.Agent.Scheduler
import Bifrostnms.Proofs.Ingest

/-!
# Whose row an answer is about

The id of an observation is a hash of its monitor and its scheduled time. The
agent is not in it, and neither the unique key of the observations nor the
lookup of the stored hash asks for the agent or the realm. Two agents that run
one monitor therefore write to one row whenever their due times fall on the
same instant, which the jitter does not prevent: it is a function of the
monitor alone.

What does hold is that every row was written for the agent whose upload it
came with (`Stored`). So as long as no two agents upload executions of one
identity, every answer is about a row of the agent that gets it
(`ingest_attributed`); and where they do, the second agent is told
`duplicate` or `idempotency_conflict` for a row of the first
(`ingest_shared_identity`).
-/

namespace Bifrostnms.Proofs

open Bifrostnms.Lib Bifrostnms.Protocol Bifrostnms.Backend Bifrostnms.Agent

/-- An observation that a scheduler run produced: its time is the scheduled
one in microseconds, its id that of the run. -/
structure ExecutedObservation (sha256 : List UInt8 → List UInt8) where
  observation : AgentObservation
  scheduledAt : ℤ
  instant_eq : observation.scheduledAt.instant = scheduledAt / 1000
  id_eq : observation.observationId.text =
    newObservationId sha256 observation.monitorId.text scheduledAt

/-- An upload of executions, and when and by whom it is made. -/
structure ExecutionUpload (sha256 : List UInt8 → List UInt8) where
  authentication : Authentication
  snapshots : List StoredSnapshot
  now : ℤ
  agentConfigRevision : ℤ
  batchId : Uuid
  executions : List (ExecutedObservation sha256)

variable {inet : String → Bool} {sha256 : List UInt8 → List UInt8}

/-- What identifies an execution: the monitor and the time it was due. -/
def ExecutedObservation.key (e : ExecutedObservation sha256) : ℤ × String :=
  (e.scheduledAt / 1000, newObservationId sha256 e.observation.monitorId.text e.scheduledAt)

theorem ExecutedObservation.key_eq {e f : ExecutedObservation sha256} :
    e.key = f.key ↔ e.observation.identity = f.observation.identity := by
  unfold ExecutedObservation.key AgentObservation.identity
  rw [← e.id_eq, ← f.id_eq, ← e.instant_eq, ← f.instant_eq, Prod.mk.injEq,
    Prod.mk.injEq, Uuid.text_inj]

def ExecutionUpload.request (u : ExecutionUpload sha256) : AgentObservationUpload :=
  ⟨1, 1, u.agentConfigRevision, u.batchId, u.executions.map (·.observation)⟩

/-- The control plane handles an upload. -/
def ExecutionUpload.ingest (inet : String → Bool) (u : ExecutionUpload sha256) :
    Tx (List AgentObservationResult) :=
  ingestObservations inet sha256 u.snapshots u.now u.authentication u.request

/-- The tables after a sequence of uploads. -/
def ingestAll (inet : String → Bool) (us : List (ExecutionUpload sha256))
    (db : Database) : Database :=
  us.foldl (fun db u => (u.ingest inet db).2) db

/-- The agent a row belongs to. -/
def rowOwner (row : CommonRow) : Authentication :=
  ⟨row.realmId, row.agentId⟩

/-! ## Where the rows come from -/

/-- The row was written for an execution of one of the uploads. -/
def Stored (us : List (ExecutionUpload sha256)) (row : CommonRow) : Prop :=
  ∃ u ∈ us, rowOwner row = u.authentication ∧
    ∃ e ∈ u.executions, row.identity = e.observation.identity

theorem Stored.mono {us vs : List (ExecutionUpload sha256)} {row : CommonRow}
    (h : Stored us row) (hsub : us ⊆ vs) : Stored vs row := by
  obtain ⟨u, hu, hrow⟩ := h
  exact ⟨u, hsub hu, hrow⟩

theorem mem_of_mem_acceptedItems {os : List AgentObservation}
    {rs : List AgentObservationResult} {o : AgentObservation}
    (h : o ∈ acceptedItems os rs) : o ∈ os := by
  induction os generalizing rs with
  | nil => cases h
  | cons o' os ih =>
    cases rs with
    | nil => cases h
    | cons r rs =>
      rw [acceptedItems] at h
      split at h
      · rcases List.mem_cons.mp h with rfl | h
        · exact List.mem_cons_self
        · exact List.mem_cons_of_mem _ (ih h)
      · exact List.mem_cons_of_mem _ (ih h)

/-- An upload adds rows for its own executions only. -/
theorem ingest_stored {us : List (ExecutionUpload sha256)}
    {u : ExecutionUpload sha256} {db : Database} (h : ∀ row ∈ db.observations, Stored us row) :
    ∀ row ∈ (u.ingest inet db).2.observations, Stored (us ++ [u]) row := by
  intro row hrow
  have hold : ∀ row ∈ db.observations, Stored (us ++ [u]) row :=
    fun row hrow => (h row hrow).mono (List.subset_append_left us [u])
  generalize hrun : u.ingest inet db = out at hrow
  obtain ⟨outcome, db'⟩ := out
  cases outcome with
  | error e =>
    rw [ingestObservations_error hrun] at hrow
    exact hold row hrow
  | ok rs =>
    rw [(recorded_of_ok hrun).observations, List.mem_append] at hrow
    rcases hrow with hrow | hrow
    · exact hold row hrow
    · obtain ⟨o, ho, rfl⟩ := List.mem_map.mp hrow
      obtain ⟨e, he, rfl⟩ := List.mem_map.mp (mem_of_mem_acceptedItems ho)
      exact ⟨u, by simp, rfl, e, he, rfl⟩

theorem ingestAll_stored (us : List (ExecutionUpload sha256)) :
    ∀ row ∈ (ingestAll inet us {}).observations, Stored us row := by
  induction us using List.reverseRecOn with
  | nil =>
    intro row hrow
    cases hrow
  | append_singleton us u ih =>
    rw [ingestAll, List.foldl_append]
    exact ingest_stored ih

/-! ## Whose rows the answers are about -/

/-- No two agents upload executions with the same time and id. -/
def Separate (us : List (ExecutionUpload sha256)) : Prop :=
  ∀ u ∈ us, ∀ v ∈ us, u.authentication ≠ v.authentication →
    ∀ e ∈ u.executions, ∀ f ∈ v.executions, e.key ≠ f.key

/-- Every answer of an upload is about a row of the agent that made it: an
item that was accepted or a duplicate has one, and a conflict is with no
other agent's. -/
def Attributed (inet : String → Bool) (u : ExecutionUpload sha256) (db : Database) : Prop :=
  ∀ rs db', u.ingest inet db = (.ok rs, db') → ∀ e r, (e, r) ∈ u.executions.zip rs →
      (r.disposition = .accepted ∨ r.disposition = .duplicate →
        (∃ row ∈ db'.observations, row.identity = e.observation.identity) ∧
        ∀ row ∈ db'.observations, row.identity = e.observation.identity →
          rowOwner row = u.authentication) ∧ (r.code = some "idempotency_conflict" →
        ∀ row ∈ db'.observations, row.identity = e.observation.identity →
          row.agentId = u.authentication.agentId)

/-- In a run without a shared identity, the rows of an agent's executions are
its own. -/
theorem owner_of_separate {us : List (ExecutionUpload sha256)}
    (hsep : Separate us) {u : ExecutionUpload sha256} (hu : u ∈ us)
    {e : ExecutedObservation sha256} (he : e ∈ u.executions) {row : CommonRow}
    (hrow : Stored us row) (hid : row.identity = e.observation.identity) :
    rowOwner row = u.authentication := by
  obtain ⟨v, hv, howner, f, hf, hkey⟩ := hrow
  rw [howner]
  by_contra hne
  refine hsep u hu v hv (Ne.symm hne) e he f hf ?_
  exact ExecutedObservation.key_eq.mpr (hid.symm.trans hkey)

/-- From empty tables, every upload of a run in which no two agents share an
identity is answered about its own agent's rows. -/
theorem ingest_attributed {before after : List (ExecutionUpload sha256)}
    {u : ExecutionUpload sha256} (hsep : Separate (before ++ u :: after)) :
    Attributed inet u (ingestAll inet before {}) := by
  intro rs db' hrun e r hmem
  have hu : u ∈ before ++ u :: after := by simp
  have he : e ∈ u.executions := (List.of_mem_zip hmem).1
  have hstored : ∀ row ∈ db'.observations, Stored (before ++ u :: after) row := by
    intro row hrow
    have hrow' : row ∈ (u.ingest inet (ingestAll inet before {})).2.observations := by
      rw [hrun]
      exact hrow
    refine (ingest_stored (ingestAll_stored before) row hrow').mono ?_
    intro v hv
    rcases List.mem_append.mp hv with hv | hv
    · exact List.mem_append_left _ hv
    · exact List.mem_append_right _ (List.mem_singleton.mp hv ▸ List.mem_cons_self)
  have howner : ∀ row ∈ db'.observations, row.identity = e.observation.identity →
        rowOwner row = u.authentication := fun row hrow hid =>
    owner_of_separate hsep hu he (hstored row hrow) hid
  refine ⟨fun hdisposition => ⟨?_, howner⟩, fun _ row hrow hid => ?_⟩
  · have hr : r.disposition ≠ .rejected := by
      rcases hdisposition with h | h <;> simp [h]
    have hzip : (e.observation, r) ∈ u.request.observations.zip rs := by
      rw [ExecutionUpload.request, List.zip_map_left]
      exact List.mem_map.mpr ⟨(e, r), hmem, rfl⟩
    exact (recorded_of_ok hrun).present e.observation r hzip hr
  · exact congrArg Authentication.agentId (howner row hrow hid)

/-! Two agents of one realm load one monitor at the same instant: their first
runs are due at the same time, and only the first upload gets a row. -/

/-- A hash of 32 of the bytes: in the text of a failed execution they hold the
error category, in that of a scheduled run the seconds. -/
def windowHash (bytes : List UInt8) : List UInt8 :=
  (bytes.drop 53 ++ List.replicate 32 0).take 32

def sharedAssignment : Assignment where
  probeType := "tcp"
  configurationSchemaVersion := 1
  agentConfigRevision := 1
  monitorId := (Uuid.ofByte 1).text
  monitorRevision := 1
  targetId := (Uuid.ofByte 2).text
  targetAddress := "router.example"
  interval := 30 * second
  timeout := 5 * second
  configuration := ['{', '}']

/-- A registry with one probe type, whose configurations are not looked at. -/
def tcpRegistry : Registry := fun probeType =>
  if probeType = "tcp" then some ⟨1, 1, fun _ => .ok ()⟩ else none

/-- When a run of the shared monitor is first due, if it is loaded at one
second. -/
def sharedDue : ℤ := second

/-- The id of that run. -/
def sharedId : Uuid :=
  ⟨[58, 48, 49, 90, 0, 0, 0, 0, 0, 0, 0, 0, 0, 0, 0, 0], by decide⟩

def sharedExecution (category : ErrorCategory) : ExecutedObservation windowHash where
  observation := { failedObservation with
    observationId := sharedId
    errorCategory := some category }
  scheduledAt := sharedDue
  instant_eq := rfl
  id_eq := by
    show sharedId.text = newObservationId windowHash (Uuid.ofByte 1).text sharedDue
    decide

/-- The upload of the agent with the given number. -/
def sharedUpload (agent : UInt8) (category : ErrorCategory) : ExecutionUpload windowHash where
  authentication := ⟨Uuid.ofByte 4, Uuid.ofByte agent⟩
  snapshots := [{ tcpSnapshot with agentId := Uuid.ofByte agent }]
  now := 3000000
  agentConfigRevision := 1
  batchId := Uuid.ofByte 6
  executions := [sharedExecution category]

/-- The tables after the first agent's upload. -/
def sharedTables : Database :=
  ingestAll (fun _ => false) [sharedUpload 3 .timeout] {}

theorem ingest_shared_identity : (reconcile windowHash tcpRegistry [sharedAssignment] second
      (fun _ => none)).1 = .ok [⟨sharedAssignment, sharedDue⟩] ∧
    ¬ Attributed (fun _ => false) (sharedUpload 7 .timeout) sharedTables ∧
    ¬ Attributed (fun _ => false) (sharedUpload 7 .connection) sharedTables := by
  refine ⟨rfl, fun h => ?_, fun h => ?_⟩
  · have hrun : (sharedUpload 7 .timeout).ingest (fun _ => false)
        sharedTables = (.ok [⟨sampleTime 1000000 (by decide), sharedId,
          .duplicate, none, false⟩], sharedTables) := rfl
    have hanswer := (h _ _ hrun (sharedExecution .timeout) _
      List.mem_cons_self).1 (.inr rfl)
    exact absurd (hanswer.2 _ List.mem_cons_self rfl) (by decide)
  · have hrun : (sharedUpload 7 .connection).ingest (fun _ => false)
        sharedTables = (.ok [⟨sampleTime 1000000 (by decide), sharedId,
          .rejected, some "idempotency_conflict", false⟩], sharedTables) := rfl
    have hanswer := (h _ _ hrun (sharedExecution .connection) _
      List.mem_cons_self).2 rfl
    exact absurd (hanswer _ List.mem_cons_self rfl) (by decide)

theorem ingest_attributed_same_agent :
    Attributed (fun _ => false) (sharedUpload 3 .connection) sharedTables := by
  have hsep : Separate ([sharedUpload 3 .timeout] ++ sharedUpload 3 .connection :: []) := by
    intro u hu v hv hne
    simp only [List.cons_append, List.nil_append, List.mem_cons,
      List.not_mem_nil, or_false] at hu hv
    rcases hu with rfl | rfl <;> rcases hv with rfl | rfl <;>
      exact absurd rfl hne
  exact ingest_attributed hsep

end Bifrostnms.Proofs
