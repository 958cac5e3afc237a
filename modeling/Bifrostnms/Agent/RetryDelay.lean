import Bifrostnms.Agent.Upload
import Mathlib.Algebra.Order.Floor.Ring
import Mathlib.Data.Rat.Floor

/-!
# How long the agent waits (`synchronization/upload.go`, `synchronization/client.go`)

`RetryDelay` with its random fraction, and the two ways in which a server asks
for a delay: the field `retry_after_seconds` of an answer, multiplied in 64 bits,
and the header `Retry-After`, read by `time.ParseDuration`. The product with the
fraction is exact.
-/

namespace Bifrostnms.Agent

open Bifrostnms.Lib Bifrostnms.Lib.JsonText

/-- The longest delay after a number of failures. -/
def backoffMaximum (failureCount : ℤ) : ℤ :=
  let failureCount := if failureCount < 1 then 1 else failureCount
  let exponent := min (failureCount - 1) 30
  min (initialRetryDelay * 2 ^ exponent.toNat) maximumRetryDelay

/-- `RetryDelay`. -/
def retryDelayOf (failureCount serverRetryAfter : ℤ) (randomFraction : ℚ) : ℤ :=
  let randomFraction := if randomFraction < 0 then 0 else randomFraction
  let randomFraction := if 1 < randomFraction then 1 else randomFraction
  let delay := ⌊(backoffMaximum failureCount : ℚ) * randomFraction⌋
  let delay := if serverRetryAfter > delay then serverRetryAfter else delay
  min delay maximumRetryDelay

/-! ## What the server asks for -/

/-- `leadingInt` of a text of digits; `none` is an overflow. -/
def leadingInt : ℕ → List Char → Option ℕ
  | x, [] => some x
  | x, c :: l => do
      let digit ← readDigit c
      if 2 ^ 63 / 10 < x then none
      else if 2 ^ 63 < x * 10 + digit then none
      else leadingInt (x * 10 + digit) l

/-- `time.ParseDuration(value + "s")`, for a decimal number. -/
def parseSeconds (value : List Char) : Option ℤ := do
  guard (value ≠ [])
  let v ← leadingInt 0 value
  if 2 ^ 63 / 1000000000 < v then none
  else if 2 ^ 63 - 1 < v * 1000000000 then none
  else some (v * 1000000000)

/-- `retryAfter`, for a header that is a decimal number. -/
def retryAfter (header : List Char) : ℤ := (parseSeconds header).getD 0

/-- Where the guidance stands. -/
inductive GuidanceSource where
  | retryAfterSeconds
  | header

/-- The delay that the agent takes from a guidance of `seconds`. -/
def GuidanceSource.delay (seconds : ℤ) : GuidanceSource → ℤ
  | .retryAfterSeconds => (seconds * second).bmod (2 ^ 64)
  | .header => retryAfter (intText seconds)

end Bifrostnms.Agent
