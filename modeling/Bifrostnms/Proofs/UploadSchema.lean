import Bifrostnms.Proofs.Delivery
import Bifrostnms.Proofs.ObservationReader
import Bifrostnms.Proofs.Workers

/-!
# Which executions the control plane can read

The agent checks a result (`Result.validate`) before it stores it, and the control
plane checks the observation that comes out of it (`AgentObservation.valid`). The
two checks were written apart. They agree on the status, the assessment, the
category, the message and on when there is a typed result; they do not agree on the
times, since nothing on the agent compares the start of a probe with the time it
was scheduled for, and the wall clock may be set back in between.
-/

namespace Bifrostnms.Proofs

open Bifrostnms.Lib Bifrostnms.Backend Bifrostnms.Agent

/-! ## Envelopes -/

/-- The fields of an envelope as the control plane reads them. -/
theorem readObservation_envelope (uuid : String → Option Uuid) (probeType : String)
    (request : Request) (result : Result) :
    readObservation uuid (observationEnvelope probeType request result none) =
      Option.filter AgentObservation.valid do return {
        scheduledAt := ← DateTime.ofInstant (request.scheduledAt / 1000)
        observationId := ← uuid request.observationId
        monitorId := ← uuid request.monitorId
        monitorRevision := request.monitorRevision
        probeType := ← [ProbeType.icmp, .http, .tcp, .dns, .tls].find? fun t =>
          t.text = probeType
        startedAt := ← DateTime.ofInstant (result.startedAt / 1000)
        finishedAt := ← DateTime.ofInstant (result.finishedAt / 1000)
        executionStatus := ← [ExecutionStatus.completed, .failed].find? fun s =>
          s.text = result.executionStatus
        assessment := ← [Assessment.healthy, .unhealthy, .unknown].find? fun a =>
          a.text = result.assessment
        errorCategory := ← readOptional (readLiteral ErrorCategory.text
          [.timeout, .resolution, .connection, .tls, .protocol, .assertion, .permission,
            .invalidConfiguration, .resourceLimit, .internal])
          (observationEnvelope probeType request result none) "error_category"
        errorCode := if result.errorCode ≠ "" then some result.errorCode else none
        errorMessage :=
          if result.errorMessage ≠ "" then some result.errorMessage else none
        result := ← readOptional readUnion
          (observationEnvelope probeType request result none) "result" } := by
  have htime (name : String) (ns : ℤ) (h : (observationEnvelope probeType request result
      none).members.lookup name = some (.str (String.ofList (rfc3339Micro ns)))) :
      readField readTime (observationEnvelope probeType request result none) name =
        DateTime.ofInstant (ns / 1000) := by
    rw [readField_of_lookup name h, readTime, String.toList_ofList, readUtc_rfc3339Micro]
  unfold readObservation
  rw [htime "scheduled_at" _ rfl, htime "started_at" _ rfl, htime "finished_at" _ rfl,
    readField_of_lookup "observation_id" rfl, readField_of_lookup "monitor_id" rfl,
    readField_of_lookup "monitor_revision" rfl, readField_of_lookup "probe_type" rfl,
    readField_of_lookup "execution_status" rfl, readField_of_lookup "assessment" rfl,
    readOptional_nullable "error_code" _ rfl, readOptional_nullable "error_message" _ rfl,
    readOptional_of_null "agent_clock_offset_ms" rfl]
  rfl

/-- What the agent's own check leaves of a result. -/
structure ValidResult (r : Result) : Prop where
  times : r.startedAt ≤ r.finishedAt
  assessment : r.assessment ∈ [assessmentHealthy, assessmentUnhealthy, assessmentUnknown]
  outcome : r.executionStatus = executionFailed ∧ r.probeResult = none ∨
    r.executionStatus = executionCompleted ∧ r.probeResult.isSome
  message : (utf8 r.errorMessage.toList).length ≤ maximumErrorMessageBytes
  category : ∀ c ∈ r.errorCategory, c ∈ errorCategories

theorem validResult {r : Result} (h : r.validate = .ok ()) : ValidResult r := by
  unfold Result.validate at h
  split_ifs at h with htimes hstatus hassessment _ hfailed hcompleted hmessage _ hcategory
  refine ⟨by omega, by simpa using hassessment, ?_, by omega, ?_⟩
  · simp only [List.mem_cons, List.not_mem_nil, or_false] at hstatus
    rcases hstatus with hstatus | hstatus
    · refine .inr ⟨hstatus, ?_⟩
      cases hresult : r.probeResult with
      | none => exact (hcompleted ⟨hstatus, by rw [hresult]; rfl⟩).elim
      | some j => rfl
    · refine .inl ⟨hstatus, ?_⟩
      cases hresult : r.probeResult with
      | none => rfl
      | some j => exact (hfailed ⟨hstatus, by rw [hresult]; rfl⟩).elim
  · intro c hc
    by_contra hnot
    rw [Option.mem_def.mp hc, Option.any_some] at hcategory
    exact hcategory (decide_eq_true hnot)

theorem find?_executionStatus {r : Result} (h : ValidResult r) :
    ([ExecutionStatus.completed, .failed].find? fun s => s.text = r.executionStatus) =
      some (if r.probeResult.isSome then .completed else .failed) := by
  rcases h.outcome with ⟨hstatus, hresult⟩ | ⟨hstatus, hresult⟩
  · rw [hstatus, hresult]
    rfl
  · rw [hstatus, hresult]
    rfl

theorem find?_assessment {r : Result} (h : ValidResult r) :
    ∃ a, ([Assessment.healthy, .unhealthy, .unknown].find? fun a =>
      a.text = r.assessment) = some a := by
  have hmem := h.assessment
  simp only [List.mem_cons, List.not_mem_nil, or_false] at hmem
  rcases hmem with heq | heq | heq <;> rw [heq] <;> exact ⟨_, rfl⟩

theorem readLiteral_category {c : String} (h : c ∈ errorCategories) :
    ∃ category, readLiteral ErrorCategory.text
      [.timeout, .resolution, .connection, .tls, .protocol, .assertion, .permission,
        .invalidConfiguration, .resourceLimit, .internal] (.str c) = some category := by
  simp only [errorCategories, List.mem_cons, List.not_mem_nil, or_false] at h
  rcases h with rfl | rfl | rfl | rfl | rfl | rfl | rfl | rfl | rfl | rfl <;>
    exact ⟨_, rfl⟩

theorem readOptional_category {r : Result} (h : ValidResult r) (probeType : String)
    (request : Request) : ∃ category, readOptional (readLiteral ErrorCategory.text
      [.timeout, .resolution, .connection, .tls, .protocol, .assertion, .permission,
        .invalidConfiguration, .resourceLimit, .internal])
      (observationEnvelope probeType request r none) "error_category" = some category := by
  cases hcategory : r.errorCategory with
  | none =>
    refine ⟨none, readOptional_of_null "error_category" ?_⟩
    rw [observationEnvelope, hcategory]
    rfl
  | some c =>
    obtain ⟨category, hread⟩ := readLiteral_category (h.category c hcategory)
    refine ⟨some category, readOptional_of_lookup "error_category" rfl ?_ hread⟩
    rw [observationEnvelope, hcategory]
    rfl

/-- The typed result is read as one of its probe type, if there is one. -/
theorem readOptional_result {r : Result} {t : ProbeType}
    (htyped : ∀ j ∈ r.probeResult, TypedDocument t j) (probeType : String) (request : Request) :
    ∃ result, readOptional readUnion (observationEnvelope probeType request r none)
        "result" = some result ∧ result.all Backend.ObservationResult.valid = true ∧
      result.map Backend.ObservationResult.probeType =
        if r.probeResult.isSome then some t else none := by
  cases hresult : r.probeResult with
  | none =>
    refine ⟨none, readOptional_of_null "result" ?_, rfl, rfl⟩
    rw [observationEnvelope, hresult]
    rfl
  | some j =>
    obtain ⟨hfields, haccepted⟩ := htyped j hresult
    obtain ⟨o, hread⟩ := Option.isSome_iff_exists.mp haccepted
    obtain ⟨hvalid, htype⟩ := readResult_valid hread
    refine ⟨some o, readOptional_of_lookup "result" rfl ?_
      (readUnion_typed hfields hread), hvalid, congrArg some htype⟩
    rw [observationEnvelope, hresult]
    rfl

/-- What the checks of an observation come to for one with the outcome of a valid
result. -/
theorem valid_iff {o : AgentObservation} {r : Result} (hr : ValidResult r)
    (hrevision : 1 ≤ o.monitorRevision)
    (hcode : o.errorCode = if r.errorCode ≠ "" then some r.errorCode else none)
    (hmessage : o.errorMessage = if r.errorMessage ≠ "" then some r.errorMessage else none)
    (hstatus : o.executionStatus = if r.probeResult.isSome then .completed else .failed)
    (hresult : o.result.all Backend.ObservationResult.valid = true)
    (htype : o.result.map Backend.ObservationResult.probeType =
      if r.probeResult.isSome then some o.probeType else none) :
    o.valid = true ↔ r.errorCode.length ≤ 120 ∧ o.scheduledAt.instant ≤ o.startedAt.instant ∧
      o.startedAt.instant ≤ o.finishedAt.instant := by
  have hbytes : r.errorMessage.length ≤ 500 :=
    (length_le_length_utf8 r.errorMessage.toList).trans hr.message
  have hmessage' : o.errorMessage.all (sized 0 500) = true := by
    rw [hmessage]
    split_ifs
    · simpa [sized] using hbytes
    · rfl
  have hcode' : o.errorCode.all (sized 0 120) = true ↔ r.errorCode.length ≤ 120 := by
    rw [hcode]
    split_ifs with hne
    · simp [sized]
    · rw [not_not.mp hne]
      simp
  simp only [AgentObservation.valid, Bool.and_eq_true, hmessage', hresult, hcode',
    decide_eq_true_eq, hrevision, true_and, and_true, and_assoc]
  refine and_congr_right fun _ => and_congr_right fun _ => and_iff_left ?_
  rw [hstatus]
  split_ifs at htype ⊢
  · simp [htype]
  · simpa using htype

/-- When the control plane reads the envelope of a valid result. -/
theorem isSome_readObservation_iff {uuid : String → Option Uuid} {t : ProbeType}
    {request : Request} {r : Result} (hr : ValidResult r)
    (hid : (uuid request.observationId).isSome) (hrevision : 1 ≤ request.monitorRevision)
    (htyped : ∀ j ∈ r.probeResult, TypedDocument t j) :
    (readObservation uuid (observationEnvelope t.text request r none)).isSome ↔
      (uuid request.monitorId).isSome ∧ r.errorCode.length ≤ 120 ∧
        request.scheduledAt / 1000 ≤ r.startedAt / 1000 ∧
        minInstant ≤ request.scheduledAt / 1000 ∧ r.finishedAt / 1000 ≤ maxInstant := by
  obtain ⟨u, hid⟩ := Option.isSome_iff_exists.mp hid
  obtain ⟨assessment, hassessment⟩ := find?_assessment hr
  obtain ⟨category, hcategory⟩ := readOptional_category hr t.text request
  obtain ⟨result, hread, hvalid, htype⟩ := readOptional_result htyped t.text request
  have htimes := hr.times
  have hprobe : ([ProbeType.icmp, .http, .tcp, .dns, .tls].find? fun t' =>
      t'.text = t.text) = some t := by
    cases t <;> rfl
  rw [readObservation_envelope, hprobe, hid, find?_executionStatus hr, hassessment,
    hcategory, hread, Option.isSome_filter]
  constructor
  · intro h
    cases h₀ : DateTime.ofInstant (request.scheduledAt / 1000) with
    | none =>
      rw [h₀] at h
      cases h
    | some d₀ =>
    cases hmonitor : uuid request.monitorId with
    | none =>
      rw [h₀, hmonitor] at h
      cases h
    | some m =>
    cases h₁ : DateTime.ofInstant (r.startedAt / 1000) with
    | none =>
      rw [h₀, h₁, hmonitor] at h
      cases h
    | some d₁ =>
    cases h₂ : DateTime.ofInstant (r.finishedAt / 1000) with
    | none =>
      rw [h₀, h₁, h₂, hmonitor] at h
      cases h
    | some d₂ =>
    rw [hmonitor, h₀, h₁, h₂] at h
    obtain ⟨hcode, hstart, -⟩ := (valid_iff hr hrevision rfl rfl rfl hvalid htype).mp h
    replace hstart : d₀.instant ≤ d₁.instant := hstart
    rw [DateTime.instant_of_ofInstant h₀, DateTime.instant_of_ofInstant h₁] at hstart
    have hmin := (isSome_ofInstant.mp (Option.isSome_iff_exists.mpr ⟨d₀, h₀⟩)).1
    have hmax := (isSome_ofInstant.mp (Option.isSome_iff_exists.mpr ⟨d₂, h₂⟩)).2
    exact ⟨rfl, hcode, hstart, hmin, hmax⟩
  · rintro ⟨hmonitor, hcode, hstart, hmin, hmax⟩
    obtain ⟨m, hmonitor⟩ := Option.isSome_iff_exists.mp hmonitor
    have hinstant (us : ℤ) (h : minInstant ≤ us) (h' : us ≤ maxInstant) :
        ∃ d, DateTime.ofInstant us = some d :=
      Option.isSome_iff_exists.mp (isSome_ofInstant.mpr ⟨h, h'⟩)
    obtain ⟨d₀, h₀⟩ := hinstant (request.scheduledAt / 1000) hmin (by omega)
    obtain ⟨d₁, h₁⟩ := hinstant (r.startedAt / 1000) (by omega) (by omega)
    obtain ⟨d₂, h₂⟩ := hinstant (r.finishedAt / 1000) (by omega) (by omega)
    rw [hmonitor, h₀, h₁, h₂]
    refine (valid_iff hr hrevision rfl rfl rfl hvalid htype).mpr ⟨hcode, ?_⟩
    show d₀.instant ≤ d₁.instant ∧ d₁.instant ≤ d₂.instant
    rw [DateTime.instant_of_ofInstant h₀, DateTime.instant_of_ofInstant h₁,
      DateTime.instant_of_ofInstant h₂]
    omega

/-! ## Recorded executions -/

/-- The document of the payload that `RecordExecution` stores. -/
def recordedDocument (e : Execution) : Document :=
  observationEnvelope e.truncated.probeType e.truncated.request e.truncated.result none

/-- The monitor has a UUID, the error code is short, and the times are those of a
calendar and of a clock that was not set back before the probe began. -/
def Uploadable (uuid : String → Option Uuid) (e : Execution) : Prop :=
  (uuid e.request.monitorId).isSome ∧ e.result.errorCode.length ≤ 120 ∧
    truncateMicro e.request.scheduledAt ≤ truncateMicro e.result.startedAt ∧
    minInstant * 1000 ≤ e.request.scheduledAt ∧ e.result.finishedAt < (maxInstant + 1) * 1000

/-- `RecordExecution` stores the text of the document, of a result that passed the
agent's check with its times cut. -/
theorem recordExecution_stores {store store' : Store} {limits : QueueLimits}
    {e : Execution} {createdAt clock : ℤ}
    (h : recordExecution store limits e createdAt clock = .ok store') :
    (∃ key, Pending store' key ((recordedDocument e).encode JsonText.goEncoder)) ∧
      1 ≤ e.request.monitorRevision ∧ ValidResult e.truncated.result := by
  cases hpayload : executionPayload e with
  | error err =>
    unfold executionPayload at hpayload
    unfold recordExecution at h
    dsimp only at h
    rw [hpayload] at h
    cases h
  | ok payload =>
    have hstored := (enqueueObservation_ok (recordExecution_ok hpayload h)).1
    unfold executionPayload encodeObservation at hpayload
    split_ifs at hpayload with hidentity
    split at hpayload
    · cases hpayload
    · next hvalid =>
        cases hpayload
        have hrevision : ¬e.request.monitorRevision < 1 := fun hlt =>
          hidentity (.inr (.inr (.inr (.inl hlt))))
        exact ⟨⟨_, hstored⟩, by omega, validResult hvalid⟩

theorem isSome_recordedDocument_iff {uuid : String → Option Uuid} {e : Execution}
    (hid : (uuid e.request.observationId).isSome) {t : ProbeType} (htype : e.probeType = t.text)
    (htyped : ∀ j ∈ e.result.probeResult, TypedDocument t j)
    (hrevision : 1 ≤ e.request.monitorRevision) (hvalid : ValidResult e.truncated.result) :
    (readObservation uuid (recordedDocument e)).isSome ↔ Uploadable uuid e := by
  have hread : (readObservation uuid (observationEnvelope t.text e.truncated.request
      e.truncated.result none)).isSome ↔ _ :=
    isSome_readObservation_iff hvalid hid hrevision htyped
  rw [recordedDocument]
  show (readObservation uuid (observationEnvelope e.probeType _ _ none)).isSome ↔ _
  rw [htype, hread]
  show _ ∧ _ ∧ truncateMicro e.request.scheduledAt / 1000 ≤
    truncateMicro e.result.startedAt / 1000 ∧
    minInstant ≤ truncateMicro e.request.scheduledAt / 1000 ∧
    truncateMicro e.result.finishedAt / 1000 ≤ maxInstant ↔ _
  unfold Uploadable truncateMicro
  refine and_congr Iff.rfl (and_congr Iff.rfl ?_)
  omega

/-- After every interleaving: what `RecordExecution` stores of an emitted execution,
whose typed result the model of its probe type accepts, is read by the control plane
exactly if the execution is uploadable. -/
theorem recorded_accepted_iff {ctx : SchedulerContext} {rows : ScheduleRows}
    {events : List SchedulerEvent} {s : SchedulerState}
    (hrun : runEvents ctx events (newScheduler rows) = some s)
    {uuid : String → Option Uuid} (huuid : ∀ u : Uuid, uuid u.text = some u)
    (hlen : ∀ bytes, 16 ≤ (ctx.sha256 bytes).length) {run : ℕ} {e : Execution}
    (he : (run, e) ∈ s.sent) {t : ProbeType} (htype : e.probeType = t.text)
    (htyped : ∀ j ∈ e.result.probeResult, TypedDocument t j) {store store' : Store}
    {limits : QueueLimits} {createdAt clock : ℤ}
    (hrecord : recordExecution store limits e createdAt clock = .ok store') :
    (∃ key, Pending store' key ((recordedDocument e).encode JsonText.goEncoder)) ∧
      ((readObservation uuid (recordedDocument e)).isSome ↔ Uploadable uuid e) := by
  obtain ⟨hstored, hrevision, hvalid⟩ := recordExecution_stores hrecord
  refine ⟨hstored, isSome_recordedDocument_iff ?_ htype htyped hrevision hvalid⟩
  -- The id is that of the run, whose digest has the bytes of a UUID.
  obtain ⟨r, -, horigin⟩ :=
    (runEvents_runInvariant (newScheduler_invariant ctx rows) hrun).origin _ he
  obtain ⟨u, hu⟩ := newObservationId_text hlen r.assignment.monitorId r.scheduledAt
  have hobservation : e.request.observationId = u.text :=
    (congrArg (fun e : Execution => e.request.observationId) horigin).trans hu
  rw [hobservation, huuid]
  rfl

/-! ## A clock that is set back

A connection that is measured in 30 ms, once by a clock that goes on and once by a
clock that is set back by a second after the tick. -/

def uuidContext : SchedulerContext :=
  { soloContext with sha256 := fun _ => List.replicate 16 0 }

def uuidAssignment : Assignment := soloAssignment (Uuid.ofByte 1).text 1

/-- A port is open. -/
def connectedResult (startedAt : ℤ) : Result where
  startedAt := startedAt
  finishedAt := startedAt + 30000000
  executionStatus := executionCompleted
  assessment := assessmentHealthy
  probeResult := some (.obj [("port", .num (.int 443)), ("address_used", .null),
    ("connect_ms", .num (.float64 (JsonText.decimalOfInt 30)))])

/-- The run that is due at noon ends with this result. -/
def noonEvents (startedAt : ℤ) : List SchedulerEvent :=
  installEvents [uuidAssignment] noonTime ++ [.tickBegin noonTime] ++
    startEvents uuidAssignment.monitorId ++
    [.probeEnd 0 (.returned (connectedResult startedAt)) noonTime noonTime noonTime, .resultSend 0]

def noonExecution (startedAt : ℤ) : Execution :=
  runExecution uuidContext.sha256 uuidAssignment noonTime (connectedResult startedAt)

theorem typedDocument_connected (startedAt : ℤ) :
    ∀ j ∈ (noonExecution startedAt).result.probeResult, TypedDocument .tcp j := by
  intro j hj
  obtain rfl := Option.some.inj hj
  refine ⟨rfl, ?_⟩
  have hms : nonNegative (.finite (JsonText.decimalOfInt 30)) = true :=
    nonNegative_finite rfl
  rw [readResult, Option.isSome_map, readTcpResult, readField_of_lookup "port" rfl,
    readOptional_nullable "address_used" none rfl,
    readOptional_float "connect_ms" (some (JsonText.decimalOfInt 30)) rfl, Option.isSome_filter]
  show (true && true && nonNegative (.finite (JsonText.decimalOfInt 30))) = true
  rw [hms]
  rfl

theorem exists_of_isOk {ε α : Type} {x : Except ε α} (h : x.isOk = true) : ∃ a, x = .ok a := by
  cases x with
  | error e => cases h
  | ok a => exact ⟨a, rfl⟩

theorem sent_noonEvents : ∃ s, runEvents uuidContext (noonEvents noonTime)
    (newScheduler fun _ => none) = some s ∧ (0, noonExecution noonTime) ∈ s.sent := by
  have hsent : (runEvents uuidContext (noonEvents noonTime)
      (newScheduler fun _ => none)).map SchedulerState.sent =
        some [(0, noonExecution noonTime)] := by
    with_unfolding_all rfl
  obtain ⟨s, hs, hsent⟩ := Option.map_eq_some_iff.mp hsent
  refine ⟨s, hs, ?_⟩
  rw [hsent]
  exact List.mem_singleton_self _

/-- By a clock that goes on the payload is accepted. -/
theorem recorded_accepted_noon : ∃ store',
    recordExecution {} ⟨10, 10000⟩ (noonExecution noonTime) 0 0 = .ok store' ∧
      (readObservation uuidOfText (recordedDocument (noonExecution noonTime))).isSome := by
  obtain ⟨s, hs, hsent⟩ := sent_noonEvents
  have hok : (recordExecution {} ⟨10, 10000⟩ (noonExecution noonTime) 0 0).isOk = true := by
    decide +kernel
  obtain ⟨store', hrecord⟩ := exists_of_isOk hok
  refine ⟨store', hrecord, (recorded_accepted_iff hs uuidOfText_text
    (fun _ => show 16 ≤ (List.replicate 16 (0 : UInt8)).length by decide)
    hsent rfl (typedDocument_connected _) hrecord).2.mpr ?_⟩
  refine ⟨?_, by decide, by decide, by decide, by decide⟩
  exact Option.isSome_iff_exists.mpr ⟨_, uuidOfText_text (Uuid.ofByte 1)⟩

/-- By a clock that was set back by a second between the tick and the probe, the
payload is stored and then rejected. -/
theorem recorded_rejected_setBack : ∃ s store',
    runEvents uuidContext (noonEvents (noonTime - second)) (newScheduler fun _ => none) = some s ∧
      (0, noonExecution (noonTime - second)) ∈ s.sent ∧
      (∀ j ∈ (noonExecution (noonTime - second)).result.probeResult, TypedDocument .tcp j) ∧
      recordExecution {} ⟨10, 10000⟩ (noonExecution (noonTime - second)) 0 0 = .ok store' ∧
      (∃ key, Pending store' key ((recordedDocument
        (noonExecution (noonTime - second))).encode JsonText.goEncoder)) ∧
      readObservation uuidOfText
        (recordedDocument (noonExecution (noonTime - second))) = none := by
  have hsent : (runEvents uuidContext (noonEvents (noonTime - second))
      (newScheduler fun _ => none)).map SchedulerState.sent =
        some [(0, noonExecution (noonTime - second))] := by
    with_unfolding_all rfl
  obtain ⟨s, hs, hsent⟩ := Option.map_eq_some_iff.mp hsent
  have hok : (recordExecution {} ⟨10, 10000⟩ (noonExecution (noonTime - second))
      0 0).isOk = true := by
    decide +kernel
  obtain ⟨store', hrecord⟩ := exists_of_isOk hok
  obtain ⟨hstored, hrevision, hvalid⟩ := recordExecution_stores hrecord
  refine ⟨s, store', hs, ?_, typedDocument_connected _, hrecord, hstored, ?_⟩
  · rw [hsent]
    exact List.mem_singleton_self _
  have hiff : (readObservation uuidOfText
      (recordedDocument (noonExecution (noonTime - second)))).isSome ↔ _ :=
    isSome_recordedDocument_iff
      (Option.isSome_iff_exists.mpr ⟨_, uuidOfText_text (Uuid.ofByte 0)⟩) rfl
      (typedDocument_connected _) hrevision hvalid
  rw [← Option.not_isSome_iff_eq_none, hiff]
  rintro ⟨-, -, hstart, -⟩
  revert hstart
  decide

end Bifrostnms.Proofs
