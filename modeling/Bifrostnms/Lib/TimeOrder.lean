import Bifrostnms.Lib.Text
import Bifrostnms.Lib.Time

/-!
# The order of timestamps as texts

`time.RFC3339Nano` prints the seconds of a year of four digits in fixed columns, so their
texts are ordered as they are (`lt_secondsText_iff`). The fraction has no fixed width: its
trailing zeros are left out, and all of it if it is zero. The `Z` that follows is greater
than a digit and than the full stop, so of two fractions of one second that agree as far
as the shorter one goes, the shorter one is printed after the longer one, which is the
later instant. There is no other difference between the two orders
(`lt_rfc3339Nano_iff`).

Go reads such a text again if the year has four digits (`readNano_rfc3339Nano`).
-/

namespace Bifrostnms.Lib

open JsonText

/-! ## Dates -/

theorem marchDays_add (year day : ℤ) : marchDays year day = marchDays year 0 + day := by
  unfold marchDays
  omega

theorem marchDays_lt_succ (year : ℤ) : marchDays year 0 + 365 ≤ marchDays (year + 1) 0 := by
  unfold marchDays
  omega

theorem marchDays_mono {y y' : ℤ} (h : y ≤ y') : marchDays y 0 ≤ marchDays y' 0 := by
  induction y', h using Int.leInduction with
  | base => exact le_rfl
  | succ y' _ ih =>
    have hsucc := marchDays_lt_succ y'
    omega

/-- The last day of a year of 366 days is the day before the next year. -/
theorem marchDays_next (cycle : ℤ) {century four year day : ℤ}
    (hcentury : 0 ≤ century ∧ century ≤ 3) (hfour : 0 ≤ four ∧ four ≤ 24)
    (hyear : 0 ≤ year ∧ year ≤ 3)
    (hday : day < 365 ∨ day = 365 ∧ year = 3 ∧ (four < 24 ∨ century = 3)) :
    marchDays (cycle * 400 + (century * 100 + four * 4 + year)) day <
      marchDays (cycle * 400 + (century * 100 + four * 4 + year) + 1) 0 := by
  generalize hk : century * 100 + four * 4 + year = k
  rw [marchDays_cycle (by omega) (by omega)]
  by_cases hlast : k = 399
  · have hnext : cycle * 400 + k + 1 = (cycle + 1) * 400 + 0 := by omega
    rw [hnext, marchDays_cycle le_rfl (by omega)]
    omega
  · have hnext : cycle * 400 + k + 1 = cycle * 400 + (k + 1) := by omega
    rw [hnext, marchDays_cycle (by omega) (by omega)]
    omega

/-- The day of `civil_eq` is a day of that year. -/
theorem civil_eq_within (days : ℤ) : ∃ year day, 0 ≤ day ∧ day < 366 ∧
    civil days = marchDate year day ∧ marchDays year day = days ∧
      days < marchDays (year + 1) 0 := by
  obtain ⟨cycle, century, four, year, day, hcentury, hfour, hyear, h0, hday, heq, hdays⟩ :=
    civil_parts days
  have hnext := marchDays_next cycle hcentury hfour hyear hday
  rw [hdays] at hnext
  exact ⟨_, day, h0, by omega, heq, hdays, hnext⟩

/-- The order of dates. -/
def Date.Before (d e : Date) : Prop :=
  d.year < e.year ∨ d.year = e.year ∧ (d.month < e.month ∨ d.month = e.month ∧ d.day < e.day)

theorem marchDate_before_of_year {year year' day day' : ℤ} (h : year < year')
    (h0 : 0 ≤ day) (h1 : day < 366) (h0' : 0 ≤ day') :
    (marchDate year day).Before (marchDate year' day') := by
  unfold marchDate Date.Before
  dsimp only
  split <;> split <;> dsimp only <;> omega

theorem marchDate_before_of_day {year day day' : ℤ} (h : day < day') :
    (marchDate year day).Before (marchDate year day') := by
  unfold marchDate Date.Before
  dsimp only
  split <;> split <;> dsimp only <;> omega

/-- Dates are ordered as their days. -/
theorem civil_before {a b : ℤ} (h : a < b) : (civil a).Before (civil b) := by
  obtain ⟨year, day, h0, h1, heq, hdays, hnext⟩ := civil_eq_within a
  obtain ⟨year', day', h0', h1', heq', hdays', hnext'⟩ := civil_eq_within b
  rw [marchDays_add] at hdays hdays'
  rw [heq, heq']
  rcases lt_trichotomy year year' with hlt | rfl | hgt
  · exact marchDate_before_of_year hlt h0 h1 h0'
  · exact marchDate_before_of_day (by omega)
  · have hmono := marchDays_mono (show year' + 1 ≤ year by omega)
    omega

theorem civil_before_iff {a b : ℤ} : (civil a).Before (civil b) ↔ a < b := by
  refine ⟨fun h => ?_, civil_before⟩
  rcases lt_trichotomy a b with hlt | rfl | hgt
  · exact hlt
  · unfold Date.Before at h
    omega
  · have hback := civil_before hgt
    unfold Date.Before at h hback
    omega

/-! ## Texts -/

/-- The codes of a text, which texts are compared by. -/
def codes (l : List Char) : List ℕ := l.map Char.toNat

theorem codes_cons_lt {c d : Char} {x y : List Char} :
    codes (c :: x) < codes (d :: y) ↔ c.toNat < d.toNat ∨ c.toNat = d.toNat ∧
      codes x < codes y := List.cons_lt_cons_iff

theorem codes_same_lt {c : Char} {x y : List Char} :
    codes (c :: x) < codes (c :: y) ↔ codes x < codes y := by
  rw [codes_cons_lt]
  simp

theorem toNat_digitChar {d : ℕ} (hd : d < 10) : (Nat.digitChar d).toNat = 48 + d := by
  interval_cases d <;> rfl

/-- Numbers in fixed columns are compared first. -/
theorem codes_fixed_lt {w m n : ℕ} (hm : m < 10 ^ w) (hn : n < 10 ^ w) {x y : List Char} :
    codes (fixed w m ++ x) < codes (fixed w n ++ y) ↔ m < n ∨ m = n ∧ codes x < codes y := by
  induction w generalizing m n x y with
  | zero =>
    have hm' : m = 0 := by omega
    have hn' : n = 0 := by omega
    rw [hm', hn']
    simp [fixed]
  | succ w ih =>
    rw [pow_succ] at hm hn
    rw [fixed, fixed, List.append_assoc, List.append_assoc, ih (by omega) (by omega),
      List.singleton_append, List.singleton_append, codes_cons_lt,
      toNat_digitChar (Nat.mod_lt _ (by decide)), toNat_digitChar (Nat.mod_lt _ (by decide))]
    by_cases htail : codes x < codes y
    · simp only [htail, and_true]
      omega
    · simp only [htail, and_false, or_false]
      omega

theorem yearText_fixed {y : ℤ} (h0 : 0 ≤ y) (h1 : y < 10000) : yearText y = fixed 4 y.toNat := by
  have habs : y.natAbs = y.toNat := by omega
  rw [yearText, if_pos (by omega), habs]
  simp [signed, h0]

/-- The columns of a date. -/
theorem codes_date_lt {a b : ℤ} (ha : 0 ≤ (civil a).year ∧ (civil a).year < 10000)
    (hb : 0 ≤ (civil b).year ∧ (civil b).year < 10000) {x y : List Char} :
    codes (yearText (civil a).year ++ '-' :: (fixed 2 (civil a).month.toNat ++
        '-' :: (fixed 2 (civil a).day.toNat ++ x))) <
      codes (yearText (civil b).year ++ '-' :: (fixed 2 (civil b).month.toNat ++
        '-' :: (fixed 2 (civil b).day.toNat ++ y))) ↔ a < b ∨ a = b ∧ codes x < codes y := by
  have habounds := civil_bounds a
  have hbbounds := civil_bounds b
  rw [yearText_fixed ha.1 ha.2, yearText_fixed hb.1 hb.2,
    codes_fixed_lt (by omega) (by omega), codes_same_lt,
    codes_fixed_lt (by omega) (by omega), codes_same_lt, codes_fixed_lt (by omega) (by omega)]
  rcases lt_trichotomy a b with hlt | rfl | hgt
  · have hbefore := civil_before hlt
    unfold Date.Before at hbefore
    refine iff_of_true ?_ (.inl hlt)
    omega
  · simp
  · have hbefore := civil_before hgt
    unfold Date.Before at hbefore
    refine iff_of_false ?_ (by omega)
    omega

/-- The columns of a time of day. -/
theorem codes_clock_lt {s t : ℕ} (hs : s < 86400) (ht : t < 86400) {x y : List Char} :
    codes (fixed 2 (s / 3600) ++ ':' :: (fixed 2 (s / 60 % 60) ++ ':' :: (fixed 2 (s % 60) ++ x))) <
      codes (fixed 2 (t / 3600) ++ ':' :: (fixed 2 (t / 60 % 60) ++
        ':' :: (fixed 2 (t % 60) ++ y))) ↔ s < t ∨ s = t ∧ codes x < codes y := by
  rw [codes_fixed_lt (by omega) (by omega), codes_same_lt,
    codes_fixed_lt (by omega) (by omega), codes_same_lt, codes_fixed_lt (by omega) (by omega)]
  rcases lt_trichotomy s t with hlt | rfl | hgt
  · refine iff_of_true ?_ (.inl hlt)
    omega
  · simp
  · refine iff_of_false ?_ (by omega)
    omega

/-- The seconds of a year of four digits are compared as they are. -/
theorem lt_secondsText_iff {a b : ℤ}
    (ha : 0 ≤ (civil (a / 86400)).year ∧ (civil (a / 86400)).year < 10000)
    (hb : 0 ≤ (civil (b / 86400)).year ∧ (civil (b / 86400)).year < 10000) {x y : List Char} :
    codes (secondsText a ++ x) < codes (secondsText b ++ y) ↔
      a < b ∨ a = b ∧ codes x < codes y := by
  simp only [secondsText, List.append_assoc, List.cons_append]
  rw [codes_date_lt ha hb, codes_same_lt, codes_clock_lt (by omega) (by omega)]
  by_cases htail : codes x < codes y
  · simp only [htail, and_true]
    omega
  · simp only [htail, and_false, or_false]
    omega

/-! ## Years -/

/-- An instant, in nanoseconds, of a year from 0 to 9999. -/
def FourDigitYear (ns : ℤ) : Prop :=
  -62167219200000000000 ≤ ns ∧ ns < 253402300800000000000

theorem fourDigitYear_iff {ns : ℤ} : FourDigitYear ns ↔ 0 ≤ (civil (ns / 1000000000 / 86400)).year ∧
      (civil (ns / 1000000000 / 86400)).year < 10000 := by
  have hbounds := civil_bounds (ns / 1000000000 / 86400)
  have hyears := year_bounds (ns / 1000000000 / 86400)
  have hfirst : (civil (ns / 1000000000 / 86400)).Before (civil (-719528)) ↔
      ns / 1000000000 / 86400 < -719528 := civil_before_iff
  have hlast : (civil (ns / 1000000000 / 86400)).Before (civil 2932897) ↔
      ns / 1000000000 / 86400 < 2932897 := civil_before_iff
  have hzero : civil (-719528) = ⟨0, 1, 1⟩ := by decide
  have hten : civil 2932897 = ⟨10000, 1, 1⟩ := by decide
  rw [hzero] at hfirst
  rw [hten] at hlast
  unfold Date.Before at hfirst hlast
  unfold FourDigitYear
  dsimp only at hfirst hlast
  omega

/-! ## Fractions -/

/-- The digits of a fraction as they are printed. -/
def fractionDigits (n : ℕ) : List Char := trimZeros (fixed 9 n)

theorem fractionDigits_append (n : ℕ) :
    fractionDigits n ++ zeros (9 - (fractionDigits n).length) = fixed 9 n := by
  have happend := trimZeros_append (fixed 9 n)
  rwa [length_fixed] at happend

theorem fractionDigits_eq_nil_iff {n : ℕ} (hn : n < 10 ^ 9) : fractionDigits n = [] ↔ n = 0 := by
  constructor
  · intro hnil
    have happend := fractionDigits_append n
    have hread := readNat_fixed 9 n
    rw [hnil, List.nil_append, List.length_nil, Nat.sub_zero, ← fixed_zero] at happend
    rw [← happend, readNat_fixed, Nat.zero_mod, Nat.mod_eq_of_lt hn] at hread
    exact (Option.some.inj hread).symm
  · rintro rfl
    decide

theorem toNat_mem_fixed {w n : ℕ} {c : Char} (h : c ∈ fixed w n) : 48 ≤ c.toNat ∧ c.toNat < 58 := by
  induction w generalizing n with
  | zero => cases h
  | succ w ih =>
    rcases List.mem_append.mp h with h | h
    · exact ih h
    · have hdigit : n % 10 < 10 := Nat.mod_lt _ (by decide)
      rw [List.mem_singleton.mp h, toNat_digitChar hdigit]
      omega

theorem mem_fractionDigits {n : ℕ} {c : Char} (h : c ∈ fractionDigits n) :
    48 ≤ c.toNat ∧ c.toNat < 58 := by
  refine toNat_mem_fixed (w := 9) (n := n) ?_
  rw [← fractionDigits_append]
  exact List.mem_append_left _ h

/-- Digits that are not zeros make a text greater. -/
theorem not_codes_lt_zeros {r : List Char} (h : ∀ c ∈ r, 48 ≤ c.toNat) :
    ¬ codes r < codes (zeros r.length) := by
  induction r with
  | nil => exact lt_irrefl (codes [])
  | cons c r ih =>
    rw [List.length_cons, zeros, List.replicate_succ, ← zeros, codes_cons_lt]
    have hc := h c List.mem_cons_self
    have hzero : '0'.toNat = 48 := rfl
    rintro (hlt | ⟨-, hlt⟩)
    · omega
    · exact ih (fun d hd => h d (List.mem_cons_of_mem _ hd)) hlt

theorem codes_append_lt {p x y : List Char} :
    codes (p ++ x) < codes (p ++ y) ↔ codes x < codes y := by
  induction p with
  | nil => rfl
  | cons c p ih => rw [List.cons_append, List.cons_append, codes_same_lt, ih]

/-- Of two texts that differ before either ends, what follows does not matter. -/
theorem codes_append_lt_iff {p q x y : List Char} (hpq : ¬ p <+: q) (hqp : ¬ q <+: p) :
    codes (p ++ x) < codes (q ++ y) ↔ codes p < codes q := by
  induction p generalizing q with
  | nil => exact absurd List.nil_prefix hpq
  | cons c p ih =>
    cases q with
    | nil => exact absurd List.nil_prefix hqp
    | cons d q =>
      rw [List.cons_append, List.cons_append, codes_cons_lt, codes_cons_lt]
      by_cases hcd : c = d
      · subst hcd
        rw [List.cons_prefix_cons] at hpq hqp
        rw [ih (fun h => hpq ⟨rfl, h⟩) (fun h => hqp ⟨rfl, h⟩)]
      · have hne : c.toNat ≠ d.toNat := fun h => hcd (Char.toNat_inj.mp h)
        simp only [hne, false_and, or_false]

section Fractions

variable {m n : ℕ}

/-- Fractions are ordered as their nine digits. -/
theorem codes_fixed_lt_iff (hm : m < 10 ^ 9) (hn : n < 10 ^ 9) :
    codes (fixed 9 m) < codes (fixed 9 n) ↔ m < n := by
  have h := codes_fixed_lt hm hn (x := []) (y := [])
  rw [List.append_nil, List.append_nil] at h
  rw [h]
  simp [codes]

/-- A longer fraction is greater. -/
theorem lt_of_prefix (hm : m < 10 ^ 9) (hn : n < 10 ^ 9) (hne : m ≠ n)
    (h : fractionDigits m <+: fractionDigits n) : m < n := by
  obtain ⟨r, hr⟩ := h
  have hnm : ¬ n < m := by
    rw [← codes_fixed_lt_iff hn hm, ← fractionDigits_append m, ← fractionDigits_append n,
      ← hr, List.append_assoc, codes_append_lt]
    have hlength := congrArg List.length (fractionDigits_append n)
    rw [← hr, List.length_append, length_fixed, zeros, List.length_replicate,
      List.length_append] at hlength
    have hzeros : 9 - (fractionDigits m).length =
        (r ++ zeros (9 - (fractionDigits m ++ r).length)).length := by
      rw [List.length_append, zeros, List.length_replicate, List.length_append]
      omega
    rw [hzeros]
    refine not_codes_lt_zeros fun c hc => ?_
    refine (toNat_mem_fixed (w := 9) (n := n) ?_).1
    rw [← fractionDigits_append n, ← hr, List.append_assoc]
    exact List.mem_append_right _ hc
  omega

theorem fractionText_of_pos (hn : n ≠ 0) : fractionText 9 n = '.' :: fractionDigits n :=
  if_neg hn

/-- Where the shorter fraction has ended, its `Z` is greater than the digit of the other. -/
theorem codes_fraction_lt_of_prefix (hm : m < 10 ^ 9) (hn : n < 10 ^ 9) (hne : m ≠ n)
    (h : fractionDigits m <+: fractionDigits n) :
    codes (fractionText 9 n ++ ['Z']) < codes (fractionText 9 m ++ ['Z']) := by
  have hlt := lt_of_prefix hm hn hne h
  rw [fractionText_of_pos (show n ≠ 0 by omega), List.cons_append]
  by_cases hzero : m = 0
  · rw [hzero, fractionText, if_pos rfl, List.nil_append, codes_cons_lt]
    exact .inl (by decide)
  · obtain ⟨r, hr⟩ := h
    rw [fractionText_of_pos hzero, List.cons_append, codes_same_lt, ← hr, List.append_assoc,
      codes_append_lt]
    cases r with
    | nil =>
      rw [List.append_nil] at hr
      have hfixed := fractionDigits_append m
      rw [hr, fractionDigits_append] at hfixed
      have hm' := readNat_fixed 9 m
      rw [← hfixed, readNat_fixed, Nat.mod_eq_of_lt hm, Nat.mod_eq_of_lt hn] at hm'
      exact absurd (Option.some.inj hm').symm hne
    | cons c r =>
      have hc := (mem_fractionDigits (n := n) (c := c) (by rw [← hr]; simp)).2
      have hz : 'Z'.toNat = 90 := rfl
      rw [List.cons_append, codes_cons_lt]
      exact .inl (by omega)

theorem codes_fraction_lt_of_not_prefix (hm : m < 10 ^ 9) (hn : n < 10 ^ 9)
    (hmn : ¬ fractionDigits m <+: fractionDigits n)
    (hnm : ¬ fractionDigits n <+: fractionDigits m) :
    codes (fractionText 9 m ++ ['Z']) < codes (fractionText 9 n ++ ['Z']) ↔ m < n := by
  have hm0 : m ≠ 0 := fun h => hmn ((fractionDigits_eq_nil_iff hm).mpr h ▸ List.nil_prefix)
  have hn0 : n ≠ 0 := fun h => hnm ((fractionDigits_eq_nil_iff hn).mpr h ▸ List.nil_prefix)
  rw [fractionText_of_pos hm0, fractionText_of_pos hn0, List.cons_append, List.cons_append,
    codes_same_lt, codes_append_lt_iff hmn hnm, ← codes_fixed_lt_iff hm hn,
    ← fractionDigits_append m, ← fractionDigits_append n, codes_append_lt_iff hmn hnm]

end Fractions

/-- Two instants of one second, one of which has the first digits of the other's fraction
and no more. -/
def Shortened (a b : ℤ) : Prop :=
  a ≠ b ∧ a / 1000000000 = b / 1000000000 ∧
    (fractionDigits (a % 1000000000).toNat <+: fractionDigits (b % 1000000000).toNat ∨
      fractionDigits (b % 1000000000).toNat <+: fractionDigits (a % 1000000000).toNat)

instance (a b : ℤ) : Decidable (Shortened a b) :=
  inferInstanceAs (Decidable (_ ∧ _ ∧ _))

theorem Shortened.symm {a b : ℤ} (h : Shortened a b) : Shortened b a :=
  ⟨h.1.symm, h.2.1.symm, h.2.2.symm⟩

/-- Texts of a year of four digits are ordered as their instants, and the other way round
if one is shortened. -/
theorem lt_rfc3339Nano_iff {a b : ℤ} (ha : FourDigitYear a) (hb : FourDigitYear b) :
    codes (rfc3339Nano a) < codes (rfc3339Nano b) ↔ if Shortened a b then b < a else a < b := by
  rw [rfc3339Nano, rfc3339Nano,
    lt_secondsText_iff (fourDigitYear_iff.mp ha) (fourDigitYear_iff.mp hb)]
  by_cases hsecond : a / 1000000000 = b / 1000000000
  · have hm : (a % 1000000000).toNat < 10 ^ 9 := by omega
    have hn : (b % 1000000000).toNat < 10 ^ 9 := by omega
    by_cases hab : a = b
    · subst hab
      have hself : ¬ Shortened a a := fun h => h.1 rfl
      simp [hself]
    · have hne : (a % 1000000000).toNat ≠ (b % 1000000000).toNat := by omega
      by_cases hmn : fractionDigits (a % 1000000000).toNat <+: fractionDigits (b % 1000000000).toNat
      · have hlt := lt_of_prefix hm hn hne hmn
        have htext := codes_fraction_lt_of_prefix hm hn hne hmn
        rw [if_pos ⟨hab, hsecond, .inl hmn⟩]
        refine iff_of_false ?_ (by omega)
        rintro (hlt' | ⟨-, hlt'⟩)
        · omega
        · exact lt_asymm htext hlt'
      · by_cases hnm : fractionDigits (b % 1000000000).toNat <+:
            fractionDigits (a % 1000000000).toNat
        · have hlt := lt_of_prefix hn hm hne.symm hnm
          have htext := codes_fraction_lt_of_prefix hn hm hne.symm hnm
          rw [if_pos ⟨hab, hsecond, .inr hnm⟩]
          exact iff_of_true (.inr ⟨hsecond, htext⟩) (by omega)
        · have hnot : ¬ Shortened a b := fun h => h.2.2.elim hmn hnm
          rw [if_neg hnot, codes_fraction_lt_of_not_prefix hm hn hmn hnm]
          omega
  · have hnot : ¬ Shortened a b := fun h => hsecond h.2.1
    rw [if_neg hnot]
    simp only [hsecond, false_and, or_false]
    omega

/-! ## Reading -/

/-- A text of RFC 3339 in UTC, to the nanosecond. -/
def readNano (l : List Char) : Option ℤ := do
  let (date, l) ← readDate l
  let l ← expect 'T' l
  let (seconds, l) ← readClock l
  let fraction ← readDigits 9 l
  some ((daysFromCivil date * 86400 + seconds) * 1000000000 + fraction)

instance (ns : ℤ) : Decidable (FourDigitYear ns) :=
  inferInstanceAs (Decidable (_ ∧ _))

/-- What is printed is read again, if the year has four digits. -/
theorem readNano_rfc3339Nano (ns : ℤ) :
    readNano (rfc3339Nano ns) = if FourDigitYear ns then some ns else none := by
  have hdays := daysFromCivil_civil (ns / 1000000000 / 86400)
  by_cases hyear : FourDigitYear ns
  · obtain ⟨h0, h1⟩ := fourDigitYear_iff.mp hyear
    rw [if_pos hyear]
    simp only [rfc3339Nano, secondsText, List.append_assoc, List.cons_append]
    rw [readNano, readDate_civil h0 h1]
    simp only [Option.bind_eq_bind, Option.bind_some, expect_cons]
    rw [readClock_fixed (by omega)]
    simp only [Option.bind_some]
    rw [readDigits_fractionText (by omega), Option.bind_some, hdays]
    congr 1
    omega
  · rw [if_neg hyear]
    rw [fourDigitYear_iff] at hyear
    simp only [rfc3339Nano, secondsText, List.append_assoc, List.cons_append]
    rw [readNano, readDate_eq_none (by omega)]
    rfl

/-! ## Bytes -/

theorem ascii_secondsText {seconds : ℤ}
    (h : 0 ≤ (civil (seconds / 86400)).year ∧ (civil (seconds / 86400)).year < 10000) :
    ∀ c ∈ secondsText seconds, c.toNat < 128 := by
  have hfixed : ∀ w n, ∀ c ∈ fixed w n, c.toNat < 128 := fun w n c hc => by
    have hrange := toNat_mem_fixed hc
    omega
  intro c hc
  simp only [secondsText, yearText_fixed h.1 h.2, List.mem_append, List.mem_cons] at hc
  rcases hc with hc | rfl | hc | rfl | hc | rfl | hc | rfl | hc | rfl | hc
  all_goals first | exact hfixed _ _ _ hc | decide

theorem ascii_rfc3339Nano {ns : ℤ} (h : FourDigitYear ns) :
    ∀ c ∈ rfc3339Nano ns, c.toNat < 128 := by
  intro c hc
  rcases List.mem_append.mp hc with hc | hc
  · exact ascii_secondsText (fourDigitYear_iff.mp h) c hc
  · rcases List.mem_append.mp hc with hc | hc
    · unfold fractionText at hc
      split at hc
      · cases hc
      · rcases List.mem_cons.mp hc with rfl | hc
        · decide
        · have hrange := mem_fractionDigits hc
          omega
    · rw [List.mem_singleton.mp hc]
      decide

/-- How SQLite compares two such texts. -/
theorem utf8Le_rfc3339Nano {a b : ℤ} (ha : FourDigitYear a) (hb : FourDigitYear b) :
    utf8Le (String.ofList (rfc3339Nano a)) (String.ofList (rfc3339Nano b)) = true ↔
      if Shortened a b then b ≤ a else a ≤ b := by
  rw [utf8Le, decide_eq_true_iff, String.toList_ofList, String.toList_ofList,
    utf8_ascii (ascii_rfc3339Nano ha), utf8_ascii (ascii_rfc3339Nano hb), ← not_lt]
  have hlt := lt_rfc3339Nano_iff hb ha
  rw [codes, codes] at hlt
  rw [hlt]
  by_cases h : Shortened a b
  · rw [if_pos h, if_pos h.symm, not_lt]
  · rw [if_neg h, if_neg (mt Shortened.symm h), not_lt]

end Bifrostnms.Lib
