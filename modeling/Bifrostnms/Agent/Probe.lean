import Bifrostnms.Lib.Text
import Bifrostnms.Lib.Time

/-!
# Probes and what they report (`probe/probe.go`, `probe/observation.go`)

A probe is asked for one run by a `Request` and answers with a `Result`. The
enumerations of the source are string types, so a probe can return any text
in them, and `Result.validate` is what keeps the others out. A registry finds
the implementation of a probe type; which configurations an implementation
accepts and which results it returns is left open. A configuration is a raw
JSON text.

`encodeObservation` writes the text of a run that is stored and uploaded. Its
times have at most six digits of fraction, the precision that the control
plane keeps.
-/

namespace Bifrostnms.Agent

open Bifrostnms.Lib

/-- The zero `time.Time`: the beginning of year 1, in nanoseconds. -/
def zeroTime : ℤ := -62135596800000000000

/-! ## Requests and results -/

structure Request where
  observationId : String
  scheduledAt : ℤ
  agentConfigRevision : ℤ
  monitorId : String
  monitorRevision : ℤ
  targetId : String
  targetAddress : String
  timeout : ℤ
  configuration : List Char

def executionCompleted : String := "completed"

def executionFailed : String := "failed"

def assessmentHealthy : String := "healthy"

def assessmentUnhealthy : String := "unhealthy"

def assessmentUnknown : String := "unknown"

def errorInternal : String := "internal"

def errorCategories : List String := [
  "timeout", "resolution", "connection", "tls", "protocol", "assertion",
  "permission", "invalid_configuration", "resource_limit", errorInternal]

structure Result where
  startedAt : ℤ
  finishedAt : ℤ
  executionStatus : String
  assessment : String
  errorCategory : Option String := none
  errorCode : String := ""
  errorMessage : String := ""
  probeResult : Option (Json GoNum) := none
  diagnosticError : String := ""

def maximumErrorMessageBytes : ℕ := 500

/-- `Result.Validate`. -/
def Result.validate (r : Result) : Except String Unit :=
  if r.startedAt = zeroTime ∨ r.finishedAt < r.startedAt then
    .error "probe result timestamps are invalid"
  else if r.executionStatus ∉ [executionCompleted, executionFailed] then
    .error "probe execution status is invalid"
  else if r.assessment ∉
      [assessmentHealthy, assessmentUnhealthy, assessmentUnknown] then
    .error "probe assessment is invalid"
  else if r.executionStatus = executionFailed ∧ r.assessment ≠ assessmentUnknown then
    .error "failed probe execution must have unknown assessment"
  else if r.executionStatus = executionFailed ∧ r.probeResult.isSome then
    .error "failed probe execution cannot include a typed result"
  else if r.executionStatus = executionCompleted ∧ r.probeResult.isNone then
    .error "completed probe execution requires a typed result"
  else if maximumErrorMessageBytes < (utf8 r.errorMessage.toList).length then
    .error "probe error message exceeds the safe bound"
  else if r.errorCategory = none ∧ (r.errorCode ≠ "" ∨ r.errorMessage ≠ "") then
    .error "probe error details require an error category"
  else if r.errorCategory.any (· ∉ errorCategories) then
    .error "probe error category is invalid"
  else .ok ()

/-! ## The registry -/

/-- What the registry reads from an implementation. -/
structure Probe where
  configurationSchemaVersion : UInt32
  resultSchemaVersion : UInt32
  validate : List Char → Except String Unit

/-- The implementation of each registered probe type. -/
abbrev Registry := String → Option Probe

/-- `%q` of a text without special characters. -/
def quoted (s : String) : String := "\"" ++ s ++ "\""

/-- `Registry.Validate`. -/
def Registry.validate (registry : Registry) (probeType : String)
    (configurationSchemaVersion : UInt32) (raw : List Char) : Except String Unit :=
  match registry probeType with
  | none => .error ("probe type " ++ quoted probeType ++ " is unsupported")
  | some implementation =>
    if implementation.configurationSchemaVersion ≠ configurationSchemaVersion then
      .error ("probe " ++ quoted probeType ++ " configuration schema " ++
        toString configurationSchemaVersion ++ " is unsupported")
    else
      match implementation.validate raw with
      | .error e => .error ("validate probe " ++ quoted probeType ++ " configuration: " ++ e)
      | .ok () => .ok ()

/-! ## The text of an observation -/

/-- An optional text is left out by a `null`. -/
def nullable : Option String → Json GoNum
  | none => .null
  | some s => .str s

/-- A pointer field of a typed result. -/
def pointer {α : Type} (write : α → Json GoNum) : Option α → Json GoNum
  | none => .null
  | some a => write a

/-- A duration in milliseconds as a double. It is taken to be exact, as it is for the
durations of a probe, which are far below `10^15` nanoseconds. -/
def durationMs (duration : ℤ) : Decimal :=
  (JsonText.decimalOfInt duration).scale (-6)

/-- `json.Marshal` of the envelope, in the order of its fields. -/
def observationEnvelope (probeType : String) (request : Request)
    (result : Result) (agentClockOffsetMs : Option ℤ) : Json GoNum := .obj [
  ("scheduled_at", .str (String.ofList (rfc3339Micro request.scheduledAt))),
  ("observation_id", .str request.observationId), ("monitor_id", .str request.monitorId),
  ("monitor_revision", .num (.int request.monitorRevision)), ("probe_type", .str probeType),
  ("started_at", .str (String.ofList (rfc3339Micro result.startedAt))),
  ("finished_at", .str (String.ofList (rfc3339Micro result.finishedAt))),
  ("execution_status", .str result.executionStatus), ("assessment", .str result.assessment),
  ("error_category", nullable result.errorCategory), ("error_code",
    nullable (if result.errorCode ≠ "" then some result.errorCode else none)),
  ("error_message", nullable
    (if result.errorMessage ≠ "" then some result.errorMessage else none)),
  ("agent_clock_offset_ms", match agentClockOffsetMs with
    | none => .null
    | some ms => .num (.int ms)), ("result", result.probeResult.getD .null)]

/-- `EncodeObservation`. -/
def encodeObservation (probeType : String) (request : Request)
    (result : Result) (agentClockOffsetMs : Option ℤ) : Except String (List Char) :=
  if probeType = "" ∨ request.observationId = "" ∨ request.monitorId = "" ∨
      request.monitorRevision < 1 ∨ request.agentConfigRevision < 1 then
    .error "observation identity is incomplete"
  else
    match result.validate with
    | .error e => .error ("validate observation result: " ++ e)
    | .ok () => .ok ((observationEnvelope probeType request result
        agentClockOffsetMs).encode JsonText.goEncoder)

end Bifrostnms.Agent
