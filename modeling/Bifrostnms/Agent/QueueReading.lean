import Bifrostnms.Agent.Storage
import Bifrostnms.Lib.TimeOrder

/-!
# Reading stored times (`storage/observations.go`)

What the agent reads from the queue: the rows that are ready, with their times parsed
again, and the statistics of the queue. SQLite has compared the texts of the times by
then. The texts are those that `formatTime` wrote, and the error has the text that the
package puts before that of the `time` package.
-/

namespace Bifrostnms.Agent

open Bifrostnms.Lib

def parseTime (value : String) : Except String ℤ :=
  match readNano value.toList with
  | some parsed => .ok parsed
  | none => .error "parse stored time"

/-- `scanObservation`. -/
def scanObservation (row : Observation) : Except String Observation := do
  let scheduledAt ← parseTime (formatTime row.scheduledAt)
  let createdAt ← parseTime (formatTime row.createdAt)
  let nextAttemptAt ← parseTime (formatTime row.nextAttemptAt)
  let lastAttemptAt ← row.lastAttemptAt.mapM fun t => parseTime (formatTime t)
  return { row with
    scheduledAt := scheduledAt
    createdAt := createdAt
    nextAttemptAt := nextAttemptAt
    lastAttemptAt := lastAttemptAt }

/-- `ReadyObservations` with the loop that scans the rows. -/
def scannedObservations (s : Store) (now : ℤ) (limit : ℕ) : Except String (List Observation) := do
  (← readyObservations s now limit).mapM scanObservation

/-- `MIN` of a column of texts. -/
def minText : List String → Option String
  | [] => none
  | t :: ts => some (ts.foldl (fun m u => if utf8Le m u then m else u) t)

structure QueueStats where
  pendingCount : ℕ
  pendingBytes : ℕ
  oldestPendingAt : Option ℤ
  rejectedCount : ℕ
  rejectedBytes : ℕ

/-- `QueueStats`. -/
def queueStats (s : Store) : Except String QueueStats := do
  let oldest ← (minText (s.pending.map fun row => formatTime row.scheduledAt)).mapM parseTime
  return {
    pendingCount := s.pending.length
    pendingBytes := (s.pending.map fun row => payloadSize row.canonicalPayload).sum
    oldestPendingAt := oldest
    rejectedCount := s.rejected.length
    rejectedBytes := (s.rejected.map fun row => payloadSize row.canonicalPayload).sum }

end Bifrostnms.Agent
