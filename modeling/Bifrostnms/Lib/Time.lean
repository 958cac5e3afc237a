import Bifrostnms.Lib.JsonText

/-!
# Instants, zones and their texts

A Python `datetime` with a zone is an instant together with an offset: two
of them are equal when their instants are, and print differently when their
offsets differ. Its local fields are limited to the years 1 to 9999, so an
instant near either end exists in some zones and not in UTC. A Go `time.Time`
is an instant in nanoseconds, of any year.

The calendar is the proleptic Gregorian one that both languages use, counted
from the first of March so that the leap day comes last. `daysFromCivil`
inverts it, and the reader of UTC timestamps built on that finds the instant
again that Go printed, to the microsecond (`readUtc_rfc3339Micro`).
-/

namespace Bifrostnms.Lib

open JsonText

/-- Microseconds from 1970 to the beginning of year 1. -/
def minInstant : ℤ := -62135596800000000

/-- Microseconds from 1970 to the last microsecond of year 9999. -/
def maxInstant : ℤ := 253402300799999999

/-- A `datetime` with a zone: microseconds since 1970 in UTC, and the offset
of the zone in seconds. -/
structure DateTime where
  instant : ℤ
  offset : ℤ
  offset_lt : offset.natAbs < 86400
  local_ge : minInstant ≤ instant + offset * 1000000
  local_le : instant + offset * 1000000 ≤ maxInstant
deriving DecidableEq

theorem offset_lt_utc : (0 : ℤ).natAbs < 86400 := by decide

/-- `astimezone(utc)` does not overflow. -/
def DateTime.inUtc (t : DateTime) : Bool :=
  minInstant ≤ t.instant ∧ t.instant ≤ maxInstant

/-- The `datetime` of an instant in UTC, if there is one. -/
def DateTime.ofInstant (us : ℤ) : Option DateTime :=
  if h : minInstant ≤ us ∧ us ≤ maxInstant then
    some ⟨us, 0, offset_lt_utc, by omega, by omega⟩
  else none

theorem DateTime.instant_of_ofInstant {us : ℤ} {t : DateTime}
    (h : DateTime.ofInstant us = some t) : t.instant = us := by
  unfold DateTime.ofInstant at h
  split at h
  · cases h
    rfl
  · cases h

theorem isSome_ofInstant {us : ℤ} :
    (DateTime.ofInstant us).isSome ↔ minInstant ≤ us ∧ us ≤ maxInstant := by
  unfold DateTime.ofInstant
  split
  · next h => simp [h]
  · next h => simp [h]

/-! ## The calendar -/

structure Date where
  year : ℤ
  month : ℤ
  day : ℤ
deriving DecidableEq

/-- The date of a day of a year that begins in March. -/
def marchDate (year day : ℤ) : Date :=
  let m := (5 * day + 2) / 153
  if m < 10 then ⟨year, m + 3, day - (153 * m + 2) / 5 + 1⟩
  else ⟨year + 1, m - 9, day - (153 * m + 2) / 5 + 1⟩

/-- The date of a day counted from 1970. -/
def civil (days : ℤ) : Date :=
  let z := days + 719468
  let century := min (z % 146097 / 36524) 3
  let d := z % 146097 - 36524 * century
  let year := min (d % 1461 / 365) 3
  marchDate (z / 146097 * 400 + century * 100 + d / 1461 * 4 + year)
    (d % 1461 - 365 * year)

/-- Days from 1970 to a day of a year that begins in March. -/
def marchDays (year day : ℤ) : ℤ :=
  year / 400 * 146097 + year % 400 * 365 + year % 400 / 4 -
    year % 400 / 100 + day - 719468

/-- Days from 1970 to a date. -/
def daysFromCivil (d : Date) : ℤ :=
  if d.month ≤ 2 then
    marchDays (d.year - 1) ((153 * (d.month + 9) + 2) / 5 + d.day - 1)
  else marchDays d.year ((153 * (d.month - 3) + 2) / 5 + d.day - 1)

theorem daysFromCivil_marchDate {year day : ℤ} (h0 : 0 ≤ day) (h1 : day < 366) :
    daysFromCivil (marchDate year day) = marchDays year day := by
  unfold marchDate
  dsimp only
  split
  · rw [daysFromCivil, if_neg (by dsimp only; omega)]
    congr 1
    dsimp only
    omega
  · rw [daysFromCivil, if_pos (by dsimp only; omega)]
    congr 1
    · dsimp only
      omega
    · dsimp only
      omega

/-- A date has a month, a day of at most 31, and at most two digits each. -/
theorem marchDate_bounds {year day : ℤ} (h0 : 0 ≤ day) (h1 : day < 366) :
    1 ≤ (marchDate year day).month ∧ (marchDate year day).month ≤ 12 ∧
      1 ≤ (marchDate year day).day ∧ (marchDate year day).day ≤ 31 := by
  unfold marchDate
  dsimp only
  split
  · dsimp only
    omega
  · dsimp only
    omega

/-- The years of a cycle of 400, by their number in it. -/
theorem marchDays_cycle {cycle k : ℤ} (h0 : 0 ≤ k) (h1 : k < 400) (day : ℤ) :
    marchDays (cycle * 400 + k) day =
      cycle * 146097 + k * 365 + k / 4 - k / 100 + day - 719468 := by
  have hmod : (cycle * 400 + k) % 400 = k := by omega
  have hdiv : (cycle * 400 + k) / 400 = cycle := by omega
  rw [marchDays, hmod, hdiv]

/-- A day falls on some day of some year that begins in March. The last day of 366 is in
the last of four years, and in the last four of a century only if that is the last of the
cycle. -/
theorem civil_parts (days : ℤ) : ∃ cycle century four year day,
    (0 ≤ century ∧ century ≤ 3) ∧ (0 ≤ four ∧ four ≤ 24) ∧ (0 ≤ year ∧ year ≤ 3) ∧
    0 ≤ day ∧ (day < 365 ∨ day = 365 ∧ year = 3 ∧ (four < 24 ∨ century = 3)) ∧
    civil days = marchDate (cycle * 400 + (century * 100 + four * 4 + year)) day ∧
    marchDays (cycle * 400 + (century * 100 + four * 4 + year)) day = days := by
  generalize hz : days + 719468 = z
  generalize hc : min (z % 146097 / 36524) 3 = century
  generalize hd : z % 146097 - 36524 * century = d
  generalize hy : min (d % 1461 / 365) 3 = year
  have hcentury : 0 ≤ century ∧ century ≤ 3 := by omega
  have hd' : 0 ≤ d ∧ (d < 36524 ∨ d = 36524 ∧ century = 3) := by omega
  have hyear : 0 ≤ year ∧ year ≤ 3 := by omega
  have hday : 0 ≤ d % 1461 - 365 * year ∧
      (d % 1461 - 365 * year < 365 ∨ d % 1461 = 1460 ∧ year = 3) := by omega
  refine ⟨z / 146097, century, d / 1461, year, d % 1461 - 365 * year, hcentury, by omega,
    hyear, hday.1, by omega, ?_, ?_⟩
  · simp only [civil, hz, hc, hd, hy]
    congr 1
    omega
  · generalize hq : d / 1461 = four at *
    have hfour : (century * 100 + four * 4 + year) / 4 = century * 25 + four := by omega
    have hhundred : (century * 100 + four * 4 + year) / 100 = century := by omega
    rw [marchDays_cycle (by omega) (by omega), hfour, hhundred]
    omega

theorem civil_eq (days : ℤ) : ∃ year day, 0 ≤ day ∧ day < 366 ∧
    civil days = marchDate year day ∧ marchDays year day = days := by
  obtain ⟨cycle, century, four, year, day, -, -, -, h0, hday, heq, hdays⟩ := civil_parts days
  exact ⟨_, day, h0, by omega, heq, hdays⟩

theorem daysFromCivil_civil (days : ℤ) : daysFromCivil (civil days) = days := by
  obtain ⟨year, day, h0, h1, heq, hdays⟩ := civil_eq days
  rw [heq, daysFromCivil_marchDate h0 h1, hdays]

theorem civil_bounds (days : ℤ) : 1 ≤ (civil days).month ∧ (civil days).month ≤ 12 ∧
      1 ≤ (civil days).day ∧ (civil days).day ≤ 31 := by
  obtain ⟨year, day, h0, h1, heq, -⟩ := civil_eq days
  rw [heq]
  exact marchDate_bounds h0 h1

/-- Day 2932897 is the first of the year 10000, and day -719528 the first of
the year 0. -/
theorem year_bounds (days : ℤ) : (10000 ≤ (civil days).year → 2932897 ≤ days) ∧
      ((civil days).year < 0 → days < -719528) := by
  have hbounds := civil_bounds days
  have hdays := daysFromCivil_civil days
  generalize civil days = d at *
  unfold daysFromCivil marchDays at hdays
  split at hdays
  · omega
  · omega

/-! ## Digits -/

/-- The last `width` digits of a number. -/
def fixed : ℕ → ℕ → List Char
  | 0, _ => []
  | width + 1, n => fixed width (n / 10) ++ [Nat.digitChar (n % 10)]

/-- A number of exactly `width` digits, and what follows it. -/
def number (width : ℕ) (l : List Char) : Option (ℕ × List Char) :=
  if width ≤ l.length then
    (readNat (l.take width)).map fun n => (n, l.drop width)
  else none

/-- A given character, and what follows it. -/
def expect (c : Char) : List Char → Option (List Char)
  | [] => none
  | d :: l => if d = c then some l else none

theorem length_fixed (width n : ℕ) : (fixed width n).length = width := by
  induction width generalizing n with
  | zero => rfl
  | succ width ih => rw [fixed, List.length_append, ih, List.length_singleton]

theorem fixed_zero (width : ℕ) : fixed width 0 = zeros width := by
  induction width with
  | zero => rfl
  | succ width ih =>
    rw [fixed, Nat.zero_div, ih, zeros, zeros, List.replicate_succ']
    rfl

theorem readNat_fixed (width n : ℕ) : readNat (fixed width n) = some (n % 10 ^ width) := by
  induction width generalizing n with
  | zero => simp [fixed, readNat, Nat.mod_one]
  | succ width ih =>
    have ih := ih (n / 10)
    unfold readNat at ih ⊢
    have hdigit : n % 10 < 10 := Nat.mod_lt _ (by decide)
    rw [fixed, List.foldlM_append, ih]
    simp only [Option.bind_eq_bind, Option.bind_some, List.foldlM_cons,
      List.foldlM_nil, readDigit_digitChar hdigit, Option.map_some, Option.pure_def]
    congr 1
    rw [pow_succ', Nat.mod_mul]
    omega

theorem number_fixed {w n : ℕ} (hn : n < 10 ^ w) (l : List Char) :
    number w (fixed w n ++ l) = some (n, l) := by
  have hlen := length_fixed w n
  rw [number, if_pos (by simp [hlen]), List.take_left' hlen,
    List.drop_left' hlen, readNat_fixed, Nat.mod_eq_of_lt hn]
  rfl

theorem expect_cons (c : Char) (l : List Char) : expect c (c :: l) = some l := by
  simp [expect]

/-! ## Texts -/

/-- A year in at least four digits. -/
def yearText (y : ℤ) : List Char :=
  signed (decide (y < 0))
    (if y.natAbs < 10000 then fixed 4 y.natAbs else natText y.natAbs)

/-- `YYYY-MM-DDThh:mm:ss` of a count of seconds. -/
def secondsText (seconds : ℤ) : List Char :=
  let date := civil (seconds / 86400)
  let s := (seconds % 86400).toNat
  yearText date.year ++ '-' :: (fixed 2 date.month.toNat ++
    '-' :: (fixed 2 date.day.toNat ++ 'T' :: (fixed 2 (s / 3600) ++
      ':' :: (fixed 2 (s / 60 % 60) ++ ':' :: fixed 2 (s % 60)))))

/-- `Z`, or the sign, hours and minutes of an offset. -/
def offsetText (offset : ℤ) : List Char :=
  if offset = 0 then ['Z']
  else (if offset < 0 then '-' else '+') :: (fixed 2 (offset.natAbs / 3600) ++
      ':' :: fixed 2 (offset.natAbs / 60 % 60))

/-- A `datetime` in `model_dump(mode="json")`: six digits of fraction, or
none. -/
def DateTime.isoformat (t : DateTime) : List Char :=
  let us := t.instant + t.offset * 1000000
  let fraction := (us % 1000000).toNat
  secondsText (us / 1000000) ++ (if fraction = 0 then [] else '.' :: fixed 6 fraction) ++
      offsetText t.offset

/-- A fraction without its trailing zeros. -/
def trimZeros (l : List Char) : List Char :=
  (l.reverse.dropWhile (· == '0')).reverse

/-- A fraction of `width` digits, left out when it is zero. -/
def fractionText (width n : ℕ) : List Char :=
  if n = 0 then [] else '.' :: trimZeros (fixed width n)

/-- `time.RFC3339Nano` of an instant in nanoseconds, in UTC. -/
def rfc3339Nano (ns : ℤ) : List Char :=
  secondsText (ns / 1000000000) ++ (fractionText 9 (ns % 1000000000).toNat ++ ['Z'])

/-- The same with at most six digits of fraction. -/
def rfc3339Micro (ns : ℤ) : List Char :=
  secondsText (ns / 1000000000) ++ (fractionText 6 (ns % 1000000000 / 1000).toNat ++ ['Z'])

example : String.ofList (rfc3339Nano 1752573600120000000) = "2025-07-15T10:00:00.12Z" := by decide

/-! ## Reading a timestamp in UTC -/

/-- The microseconds of a fraction, up to the `Z`. -/
def readFraction : List Char → Option ℕ
  | [] => none
  | c :: l =>
    if c = 'Z' then if l = [] then some 0 else none
    else if c = '.' then
      let digits := l.takeWhile (· ≠ 'Z')
      if l.dropWhile (· ≠ 'Z') = ['Z'] ∧ digits ≠ [] then
        readNat ((digits ++ zeros 6).take 6)
      else none
    else none

/-- A fraction of `width` digits, up to the `Z`. -/
def readDigits (width : ℕ) : List Char → Option ℕ
  | [] => none
  | c :: l =>
    if c = 'Z' then if l = [] then some 0 else none
    else if c = '.' then
      let digits := l.takeWhile (· ≠ 'Z')
      if l.dropWhile (· ≠ 'Z') = ['Z'] ∧ digits ≠ [] then
        readNat ((digits ++ zeros width).take width)
      else none
    else none

theorem readFraction_eq : readFraction = readDigits 6 := by
  funext l
  cases l <;> rfl

def readDate (l : List Char) : Option (Date × List Char) := do
  let (year, l) ← number 4 l
  let l ← expect '-' l
  let (month, l) ← number 2 l
  let l ← expect '-' l
  let (day, l) ← number 2 l
  let date : Date := ⟨year, month, day⟩
  if civil (daysFromCivil date) = date then some (date, l) else none

/-- The seconds of a time of day. -/
def readClock (l : List Char) : Option (ℕ × List Char) := do
  let (hour, l) ← number 2 l
  let l ← expect ':' l
  let (minute, l) ← number 2 l
  let l ← expect ':' l
  let (second, l) ← number 2 l
  if hour < 24 ∧ minute < 60 ∧ second < 60 then
    some (hour * 3600 + minute * 60 + second, l)
  else none

def readUtc (l : List Char) : Option DateTime := do
  let (date, l) ← readDate l
  let l ← expect 'T' l
  let (seconds, l) ← readClock l
  let fraction ← readFraction l
  DateTime.ofInstant
    ((daysFromCivil date * 86400 + seconds) * 1000000 + fraction)

theorem trimZeros_append (l : List Char) :
    trimZeros l ++ zeros (l.length - (trimZeros l).length) = l := by
  have hsplit : l.reverse.takeWhile (· == '0') ++ (trimZeros l).reverse = l.reverse := by
    rw [trimZeros, List.reverse_reverse, List.takeWhile_append_dropWhile]
  have hzeros : l.reverse.takeWhile (· == '0') = zeros (l.reverse.takeWhile (· == '0')).length := by
    refine List.eq_replicate_of_mem fun c hc => ?_
    have hc := List.mem_takeWhile_imp hc
    exact beq_iff_eq.mp hc
  have hlen := congrArg List.length hsplit
  rw [List.length_append, List.length_reverse, List.length_reverse] at hlen
  have hcount : (l.reverse.takeWhile (· == '0')).length =
      l.length - (trimZeros l).length := by omega
  have hl := congrArg List.reverse hsplit
  rw [List.reverse_append, List.reverse_reverse, List.reverse_reverse, hzeros,
    hcount, zeros, List.reverse_replicate] at hl
  exact hl

theorem mem_fixed {width n : ℕ} {c : Char} (h : c ∈ fixed width n) : c ≠ 'Z' := by
  induction width generalizing n with
  | zero => cases h
  | succ width ih =>
    rcases List.mem_append.mp h with h | h
    · exact ih h
    · have hdigit : n % 10 < 10 := Nat.mod_lt _ (by decide)
      rw [List.mem_singleton.mp h]
      exact digitChar_ne_of_lt hdigit (by decide)

theorem readDigits_fractionText {width n : ℕ} (hn : n < 10 ^ width) :
    readDigits width (fractionText width n ++ ['Z']) = some n := by
  unfold fractionText
  split
  · next h =>
      subst h
      rfl
  · next h =>
      have hpad := trimZeros_append (fixed width n)
      rw [length_fixed] at hpad
      have hmem : ∀ c ∈ trimZeros (fixed width n), c ≠ 'Z' := fun c hc =>
        mem_fixed (hpad ▸ List.mem_append_left _ hc)
      have hread := readNat_fixed width n
      rw [Nat.mod_eq_of_lt hn] at hread
      have hne : trimZeros (fixed width n) ≠ [] := by
        intro hnil
        rw [hnil, List.nil_append, List.length_nil] at hpad
        rw [← hpad, Nat.sub_zero, ← fixed_zero, readNat_fixed, Nat.zero_mod] at hread
        exact h (Option.some.inj hread).symm
      have hlen : (trimZeros (fixed width n)).length ≤ width := by
        have := congrArg List.length hpad
        rw [List.length_append, length_fixed] at this
        omega
      have htake : (trimZeros (fixed width n) ++ zeros width).take width = fixed width n := by
        rw [List.take_append, List.take_of_length_le hlen, zeros,
          List.take_replicate, Nat.min_eq_left (by omega)]
        exact hpad
      rw [List.cons_append, readDigits, if_neg (by decide), if_pos rfl,
        List.takeWhile_append_of_pos (by simpa using hmem),
        List.dropWhile_append_of_pos (by simpa using hmem)]
      simp [hne, htake, hread]

theorem readFraction_fractionText {n : ℕ} (hn : n < 1000000) :
    readFraction (fractionText 6 n ++ ['Z']) = some n :=
  (congrFun readFraction_eq _).trans (readDigits_fractionText hn)

theorem length_natText_ge {n : ℕ} (hn : 10000 ≤ n) : 4 < (natText n).length := by
  rw [length_natText n (by omega)]
  exact (Nat.lt_digits_length_iff (by decide) n).mpr hn

/-- A year that is not written in four digits is not read. -/
theorem number_yearText {y : ℤ} (hy : y < 0 ∨ 10000 ≤ y) (l : List Char) :
    ((number 4 (yearText y ++ '-' :: l)).bind fun p => expect '-' p.2) = none := by
  rcases hy with hy | hy
  · -- The first of the four characters is the sign.
    have hsign : yearText y = '-' :: (yearText y).tail := by
      simp [yearText, signed, hy]
    rw [hsign, number]
    split
    · simp [readNat, readDigit]
    · rfl
  · -- A fifth digit stands where the month's dash should.
    have htext : yearText y = natText y.natAbs := by
      rw [yearText, if_neg (by omega)]
      simp [signed, show ¬ y < 0 by omega]
    have hlen := length_natText_ge (n := y.natAbs) (by omega)
    obtain ⟨c, rest, hdrop⟩ : ∃ c rest, (natText y.natAbs).drop 4 = c :: rest :=
      List.exists_cons_of_length_pos (by rw [List.length_drop]; omega)
    have hc : c ≠ '-' := by
      intro hc
      refine not_mem_natText (n := y.natAbs) (c := '-') (by decide) ?_
      refine List.mem_of_mem_drop (i := 4) ?_
      rw [hdrop, hc]
      exact List.mem_cons_self
    rw [htext, number, List.drop_append_of_le_length (by omega), hdrop]
    split
    · cases readNat _ with
      | none => rfl
      | some n => simp [expect, hc]
    · rfl

theorem readDate_eq_none {y : ℤ} (hy : y < 0 ∨ 10000 ≤ y) (l : List Char) :
    readDate (yearText y ++ '-' :: l) = none := by
  have hstop := number_yearText hy l
  rw [readDate]
  cases hnumber : number 4 (yearText y ++ '-' :: l) with
  | none => rfl
  | some p =>
    rw [hnumber, Option.bind_some] at hstop
    simp only [Option.bind_eq_bind, Option.bind_some, hstop]
    rfl

theorem readDate_civil {days : ℤ} (h0 : 0 ≤ (civil days).year)
    (h1 : (civil days).year < 10000) (l : List Char) : readDate (yearText (civil days).year ++
      '-' :: (fixed 2 (civil days).month.toNat ++ '-' :: (fixed 2 (civil days).day.toNat ++ l))) =
      some (civil days, l) := by
  have hbounds := civil_bounds days
  have hdays := daysFromCivil_civil days
  have htext : yearText (civil days).year = fixed 4 (civil days).year.natAbs := by
    rw [yearText, if_pos (by omega)]
    simp [signed, h0]
  have hdate : (⟨((civil days).year.natAbs : ℤ), ((civil days).month.toNat : ℤ),
      ((civil days).day.toNat : ℤ)⟩ : Date) = civil days := by
    rw [Date.mk.injEq]
    omega
  rw [readDate, htext, number_fixed (by omega)]
  simp only [Option.bind_eq_bind, Option.bind_some, expect_cons]
  rw [number_fixed (by omega)]
  simp only [Option.bind_some, expect_cons]
  rw [number_fixed (by omega)]
  simp only [Option.bind_some]
  rw [hdate, hdays, if_pos rfl]

theorem readClock_fixed {s : ℕ} (hs : s < 86400) (l : List Char) :
    readClock (fixed 2 (s / 3600) ++ ':' :: (fixed 2 (s / 60 % 60) ++
      ':' :: (fixed 2 (s % 60) ++ l))) = some (s, l) := by
  rw [readClock, number_fixed (by omega)]
  simp only [Option.bind_eq_bind, Option.bind_some, expect_cons]
  rw [number_fixed (by omega)]
  simp only [Option.bind_some, expect_cons]
  rw [number_fixed (by omega)]
  simp only [Option.bind_some]
  rw [if_pos (by omega)]
  congr 2
  omega

/-- What Go prints is read back to the microsecond, and is not read when
Python has no such year. -/
theorem readUtc_rfc3339Micro (ns : ℤ) :
    readUtc (rfc3339Micro ns) = DateTime.ofInstant (ns / 1000) := by
  have hyear := year_bounds (ns / 1000000000 / 86400)
  have hdays := daysFromCivil_civil (ns / 1000000000 / 86400)
  simp only [rfc3339Micro, secondsText, List.append_assoc, List.cons_append]
  by_cases hy : (civil (ns / 1000000000 / 86400)).year < 0 ∨
      10000 ≤ (civil (ns / 1000000000 / 86400)).year
  · have hnone : DateTime.ofInstant (ns / 1000) = none := by
      unfold DateTime.ofInstant minInstant maxInstant
      exact dif_neg (by omega)
    rw [hnone, readUtc, readDate_eq_none hy]
    rfl
  · rw [readUtc, readDate_civil (by omega) (by omega)]
    simp only [Option.bind_eq_bind, Option.bind_some, expect_cons]
    rw [readClock_fixed (by omega)]
    simp only [Option.bind_some]
    rw [readFraction_fractionText (by omega), Option.bind_some, hdays]
    congr 1
    omega

end Bifrostnms.Lib
