import Mathlib.Data.List.TakeWhile
import Mathlib.Algebra.Order.Field.Rat
import Mathlib.Data.Nat.Digits.Lemmas
import Mathlib.Tactic.IntervalCases
import Bifrostnms.Lib.Json
import Bifrostnms.Lib.Text

/-!
# How two standard libraries write JSON leaves

Python's `json.dumps` (with `ensure_ascii`, its default) and Go's
`encoding/json` (with HTML escaping, its default) write the same document
differently in two places. Python escapes everything outside printable
ASCII and leaves `<`, `>` and `&` alone; Go escapes those three and U+2028
and U+2029, and copies every other character. And where both print a double
in the shortest form that reads back, they choose between fixed and
scientific notation at different magnitudes, Python marks a whole number
with `.0`, and the exponents are padded differently.

A finite double is represented here by that shortest form, which both
libraries compute; only the layout differs. `pyFloat_eq_goFloat` and
`pyString_eq_goString` say exactly where the two agree.
-/

namespace Bifrostnms.Lib

/-- A finite double by its shortest decimal: the significant digits
`d₁ … dₖ`, with no zero at either end, and the exponent of `d₁`, so that
the value is `d₁.d₂…dₖ · 10^exp`. Zero has no digits. -/
structure Decimal where
  neg : Bool
  digits : List ℕ
  exp : ℤ
  digits_lt : ∀ d ∈ digits, d < 10
  head_ne : digits.head? ≠ some 0
  last_ne : digits.getLast? ≠ some 0
  zero_exp : digits = [] → exp = 0

/-- The number a decimal stands for. -/
def Decimal.value (d : Decimal) : ℚ :=
  (if d.neg then -1 else 1) * (Nat.ofDigits 10 d.digits.reverse : ℚ) *
    10 ^ (d.exp + 1 - d.digits.length)

theorem Decimal.value_nonneg {d : Decimal} (h : d.neg = false) : 0 ≤ d.value := by
  have hdigits : 0 ≤ Nat.ofDigits (10 : ℚ) d.digits.reverse := by
    have hcast := Nat.coe_ofDigits ℚ 10 d.digits.reverse
    rw [Nat.cast_ofNat] at hcast
    rw [← hcast]
    exact Nat.cast_nonneg _
  unfold Decimal.value
  rw [h, if_neg Bool.false_ne_true, one_mul]
  exact mul_nonneg hdigits (zpow_nonneg (by decide) _)

/-- The number times a power of ten. -/
def Decimal.scale (d : Decimal) (k : ℤ) : Decimal :=
  { d with
    exp := if d.digits = [] then 0 else d.exp + k
    zero_exp := fun h => if_pos h }

/-- A number of a JSON document: an integer, or a double. Python keeps the
two apart; Go's `any` reads both as a double. -/
inductive JsonNum where
  | int (n : ℤ)
  | float (d : Decimal)

/-- A number handed to Go's encoder. -/
inductive GoNum where
  | int (n : ℤ)
  | float64 (d : Decimal)

namespace JsonText

/-! ## Numbers -/

def digitsText (ds : List ℕ) : List Char := ds.map Nat.digitChar

def zeros (n : ℕ) : List Char := List.replicate n '0'

def readDigit (c : Char) : Option ℕ :=
  if '0' ≤ c ∧ c ≤ '9' then some (c.toNat - 48) else none

/-- The number that a sequence of digits stands for. -/
def readNat (l : List Char) : Option ℕ :=
  l.foldlM (fun n c => (readDigit c).map fun d => 10 * n + d) 0

/-- A natural number in base ten. -/
def natText (n : ℕ) : List Char :=
  if n = 0 then ['0'] else digitsText (Nat.digits 10 n).reverse

def signed (neg : Bool) (text : List Char) : List Char :=
  if neg then '-' :: text else text

def intText (n : ℤ) : List Char := signed (decide (n < 0)) (natText n.natAbs)

/-- The integer that a number literal stands for, if it is one. -/
def readInt : List Char → Option ℤ
  | '-' :: l => (readNat l).map fun n => -(n : ℤ)
  | l => (readNat l).map fun n => (n : ℤ)

/-- The digits with the point where the exponent puts it, and no point in a
whole number. -/
def fixedText (ds : List ℕ) (exp : ℤ) : List Char :=
  if exp < 0 then '0' :: '.' :: (zeros (-exp - 1).toNat ++ digitsText ds)
  else if ds.length ≤ exp.toNat + 1 then
    digitsText ds ++ zeros (exp.toNat + 1 - ds.length)
  else
    digitsText (ds.take (exp.toNat + 1)) ++ '.' :: digitsText (ds.drop (exp.toNat + 1))

/-- The digits with the point after the first one. -/
def mantissa (ds : List ℕ) : List Char :=
  match ds with
  | [] => []
  | [d] => [Nat.digitChar d]
  | d :: ds => Nat.digitChar d :: '.' :: digitsText ds

/-- An exponent of at least `width` digits. -/
def exponentText (width : ℕ) (exp : ℤ) : List Char :=
  'e' :: (if exp < 0 then '-' else '+') ::
    (zeros (width - (natText exp.natAbs).length) ++ natText exp.natAbs)

/-- `float.__repr__`, which `json.dumps` uses: scientific below `1e-4` and
from `1e16` on, and `.0` after a whole number. -/
def pyFloat (d : Decimal) : List Char :=
  signed d.neg
    (if d.digits = [] then ['0', '.', '0']
    else if d.exp < -4 ∨ 16 ≤ d.exp then mantissa d.digits ++ exponentText 2 d.exp
    else if (d.digits.length : ℤ) ≤ d.exp + 1 then
      fixedText d.digits d.exp ++ ['.', '0']
    else fixedText d.digits d.exp)

/-- The float encoder of `encoding/json`: scientific below `1e-6` and from
`1e21` on, with `e-09` cleaned up to `e-9`. -/
def goFloat (d : Decimal) : List Char :=
  signed d.neg
    (if d.digits = [] then ['0']
    else if d.exp < -6 then mantissa d.digits ++ exponentText 1 d.exp
    else if 21 ≤ d.exp then mantissa d.digits ++ exponentText 2 d.exp
    else fixedText d.digits d.exp)

def pyNum : JsonNum → List Char
  | .int n => intText n
  | .float d => pyFloat d

def goNum : GoNum → List Char
  | .int n => intText n
  | .float64 d => goFloat d

/-! ## Strings -/

/-- Four hexadecimal digits in lower case. -/
def hex4 (n : ℕ) : List Char :=
  [Nat.digitChar (n / 4096 % 16), Nat.digitChar (n / 256 % 16),
    Nat.digitChar (n / 16 % 16), Nat.digitChar (n % 16)]

def unicodeEscape (n : ℕ) : List Char := '\\' :: 'u' :: hex4 n

/-- The five control characters with a short escape, the quote and the
backslash: both libraries write them alike. -/
def shortEscape (c : Char) : Option (List Char) :=
  if c = '"' then some ['\\', '"']
  else if c = '\\' then some ['\\', '\\']
  else if c.toNat = 8 then some ['\\', 'b']
  else if c.toNat = 9 then some ['\\', 't']
  else if c.toNat = 10 then some ['\\', 'n']
  else if c.toNat = 12 then some ['\\', 'f']
  else if c.toNat = 13 then some ['\\', 'r']
  else none

/-- `json.dumps` with `ensure_ascii`: characters beyond the basic plane
become a surrogate pair. -/
def pyEscape (c : Char) : List Char :=
  match shortEscape c with
  | some e => e
  | none =>
    if 32 ≤ c.toNat ∧ c.toNat ≤ 126 then [c]
    else if c.toNat < 65536 then unicodeEscape c.toNat
    else unicodeEscape (55296 + (c.toNat - 65536) / 1024) ++
      unicodeEscape (56320 + (c.toNat - 65536) % 1024)

/-- `encoding/json` with HTML escaping. -/
def goEscape (c : Char) : List Char :=
  match shortEscape c with
  | some e => e
  | none =>
    if c.toNat < 32 ∨ c = '<' ∨ c = '>' ∨ c = '&' ∨ c.toNat = 8232 ∨
        c.toNat = 8233 then unicodeEscape c.toNat
    else [c]

def quote (escape : Char → List Char) (s : String) : List Char :=
  '"' :: (s.toList.flatMap escape ++ ['"'])

/-- A character both libraries write alike: ASCII below DEL other than the
three that HTML escaping touches, or one of the two line separators. -/
def portableChar (c : Char) : Bool :=
  (c.toNat < 127 && c != '<' && c != '>' && c != '&') || c.toNat == 8232 || c.toNat == 8233

/-- A double both libraries write alike. -/
def portableFloat (d : Decimal) : Bool :=
  d.digits ≠ [] ∧ ((-4 ≤ d.exp ∧ d.exp < 16 ∧ d.exp + 1 < d.digits.length) ∨
      d.exp ≤ -10 ∨ 21 ≤ d.exp)

/-! ## Both are JSON encoders -/

theorem digitChar_plain (d : ℕ) : Json.isDelim (Nat.digitChar d) = false ∧
    Nat.digitChar d ≠ '"' ∧ Nat.digitChar d ≠ '\\' := by
  rcases Nat.lt_or_ge d 16 with hd | hd
  · interval_cases d <;> decide
  · rw [Nat.digitChar_eq_star.mpr hd]
    decide

theorem digitChar_ne_of_lt {d : ℕ} (hd : d < 10) {c : Char}
    (hc : c.isDigit = false) : Nat.digitChar d ≠ c := by
  intro h
  rw [← h, Nat.isDigit_digitChar, decide_eq_false_iff_not] at hc
  exact hc hd

theorem digitChar_start {d : ℕ} (hd : d < 10) :
    Nat.digitChar d ∉ ['n', 't', 'f', '"', '[', '{'] := by
  interval_cases d <;> decide

theorem digitsText_inner (ds : List ℕ) : ∀ c ∈ digitsText ds, Json.isDelim c = false := by
  intro c hc
  obtain ⟨d, _, rfl⟩ := List.mem_map.mp hc
  exact (digitChar_plain d).1

theorem zeros_inner (n : ℕ) : ∀ c ∈ zeros n, Json.isDelim c = false := by
  intro c hc
  rw [List.eq_of_mem_replicate hc]
  rfl

/-- A text that starts with a decimal digit and holds no delimiter. -/
def Numeral (l : List Char) : Prop :=
  (∃ d cs, d < 10 ∧ l = Nat.digitChar d :: cs) ∧ ∀ c ∈ l, Json.isDelim c = false

theorem Numeral.token {l : List Char} (h : Numeral l) : Json.Token l := by
  obtain ⟨⟨d, cs, hd, rfl⟩, hi⟩ := h
  exact ⟨⟨_, _, rfl, digitChar_start hd⟩, hi⟩

theorem Numeral.append {l m : List Char} (h : Numeral l)
    (hm : ∀ c ∈ m, Json.isDelim c = false) : Numeral (l ++ m) := by
  obtain ⟨⟨d, cs, hd, rfl⟩, hi⟩ := h
  refine ⟨⟨d, cs ++ m, hd, rfl⟩, fun c hc => ?_⟩
  exact (List.mem_append.mp hc).elim (hi c) (hm c)

theorem Numeral.signed {l : List Char} (h : Numeral l) (neg : Bool) :
    Json.Token (signed neg l) := by
  cases neg with
  | false => exact h.token
  | true =>
    refine ⟨⟨'-', l, rfl, by decide⟩, fun c hc => ?_⟩
    rcases List.mem_cons.mp hc with rfl | hc
    · decide
    · exact h.2 c hc

theorem numeral_natText (n : ℕ) : Numeral (natText n) := by
  unfold natText
  split
  · exact ⟨⟨0, [], by omega, rfl⟩, by simp [Json.isDelim]⟩
  · next hn =>
      refine ⟨?_, digitsText_inner _⟩
      cases hds : (Nat.digits 10 n).reverse with
      | nil => simp [Nat.digits_eq_nil_iff_eq_zero, hn] at hds
      | cons d ds =>
        have hmem : d ∈ Nat.digits 10 n := by
          rw [← List.mem_reverse, hds]; simp
        exact ⟨d, digitsText ds, Nat.digits_lt_base (by omega) hmem, rfl⟩

theorem exponentText_inner (width : ℕ) (exp : ℤ) :
    ∀ c ∈ exponentText width exp, Json.isDelim c = false := by
  intro c hc
  simp only [exponentText, List.mem_cons, List.mem_append] at hc
  rcases hc with rfl | rfl | hc | hc
  · rfl
  · split <;> rfl
  · exact zeros_inner _ c hc
  · exact (numeral_natText _).2 c hc

theorem Decimal.head_lt {d : Decimal} (h : d.digits ≠ []) :
    ∃ a ds, d.digits = a :: ds ∧ a < 10 ∧ a ≠ 0 := by
  cases hd : d.digits with
  | nil => exact absurd hd h
  | cons a ds =>
    refine ⟨a, ds, rfl, d.digits_lt a (by simp [hd]), ?_⟩
    have := d.head_ne
    simpa [hd] using this

theorem numeral_mantissa {d : Decimal} (h : d.digits ≠ []) : Numeral (mantissa d.digits) := by
  obtain ⟨a, ds, hd, ha, _⟩ := Decimal.head_lt h
  rw [hd]
  cases ds with
  | nil =>
    refine ⟨⟨a, [], ha, rfl⟩, ?_⟩
    simp [mantissa, (digitChar_plain a).1]
  | cons b ds =>
    refine ⟨⟨a, '.' :: digitsText (b :: ds), ha, rfl⟩, fun c hc => ?_⟩
    simp only [mantissa, List.mem_cons] at hc
    rcases hc with rfl | rfl | hc
    · exact (digitChar_plain a).1
    · rfl
    · exact digitsText_inner _ c hc

theorem numeral_fixedText {d : Decimal} (h : d.digits ≠ []) :
    Numeral (fixedText d.digits d.exp) := by
  obtain ⟨a, ds, hd, ha, _⟩ := Decimal.head_lt h
  unfold fixedText
  split
  · refine ⟨⟨0, _, by omega, rfl⟩, fun c hc => ?_⟩
    simp only [List.mem_cons, List.mem_append] at hc
    rcases hc with rfl | rfl | hc | hc
    · rfl
    · rfl
    · exact zeros_inner _ c hc
    · exact digitsText_inner _ c hc
  · have hhead : ∀ n : ℕ, Numeral (digitsText (d.digits.take (n + 1))) := by
      intro n
      exact ⟨⟨a, digitsText (ds.take n), ha, by rw [hd]; rfl⟩, digitsText_inner _⟩
    split
    · next hlen =>
        have := (hhead d.exp.toNat).append (zeros_inner (d.exp.toNat + 1 - d.digits.length))
        rwa [List.take_of_length_le hlen] at this
    · refine (hhead _).append fun c hc => ?_
      rcases List.mem_cons.mp hc with rfl | hc
      · rfl
      · exact digitsText_inner _ c hc

theorem numeral_zero {m : List Char} (hm : ∀ c ∈ m, Json.isDelim c = false) :
    Numeral ('0' :: m) := by
  refine ⟨⟨0, m, by omega, rfl⟩, fun c hc => ?_⟩
  rcases List.mem_cons.mp hc with rfl | hc
  · rfl
  · exact hm c hc

theorem token_pyNum (n : JsonNum) : Json.Token (pyNum n) := by
  match n with
  | .int n => exact (numeral_natText _).signed _
  | .float d =>
    show Json.Token (pyFloat d)
    unfold pyFloat
    apply Numeral.signed
    split
    · exact numeral_zero (by simp [Json.isDelim])
    · next hd =>
        split
        · exact (numeral_mantissa hd).append (exponentText_inner _ _)
        · split
          · exact (numeral_fixedText hd).append (by simp [Json.isDelim])
          · exact numeral_fixedText hd

theorem token_goNum (n : GoNum) : Json.Token (goNum n) := by
  match n with
  | .int n => exact (numeral_natText _).signed _
  | .float64 d =>
    show Json.Token (goFloat d)
    unfold goFloat
    apply Numeral.signed
    split
    · exact numeral_zero (by simp)
    · next hd =>
        split
        · exact (numeral_mantissa hd).append (exponentText_inner _ _)
        · split
          · exact (numeral_mantissa hd).append (exponentText_inner _ _)
          · exact numeral_fixedText hd

/-! Escapes are made of plain characters and backslash pairs, so a quoted
string is a literal whatever the escape function does to each character. -/

theorem body_hex4 (n : ℕ) : Json.Body (hex4 n) := by
  have h : ∀ d : ℕ, ∀ {cs : List Char}, Json.Body cs →
      Json.Body (Nat.digitChar d :: cs) := fun d _ hcs =>
    .plain (digitChar_plain d).2.1 (digitChar_plain d).2.2 hcs
  exact h _ (h _ (h _ (h _ .nil)))

theorem body_unicodeEscape (n : ℕ) : Json.Body (unicodeEscape n) :=
  .escape (body_hex4 n)

theorem body_shortEscape {c : Char} {e : List Char} (h : shortEscape c = some e) : Json.Body e := by
  unfold shortEscape at h
  repeat' split at h
  all_goals first
    | (injection h with h; subst h; exact .escape .nil)
    | cases h

theorem body_single {c : Char} (h : shortEscape c = none) : Json.Body [c] := by
  refine .plain ?_ ?_ .nil <;> rintro rfl <;> exact absurd h (by decide)

theorem body_pyEscape (c : Char) : Json.Body (pyEscape c) := by
  unfold pyEscape
  split
  · next h => exact body_shortEscape h
  · next h =>
      split
      · exact body_single h
      · split
        · exact body_unicodeEscape _
        · exact (body_unicodeEscape _).append (body_unicodeEscape _)

theorem body_goEscape (c : Char) : Json.Body (goEscape c) := by
  unfold goEscape
  split
  · next h => exact body_shortEscape h
  · next h =>
      split
      · exact body_unicodeEscape _
      · exact body_single h

theorem literal_quote {escape : Char → List Char} (h : ∀ c, Json.Body (escape c)) (s : String) :
    Json.Literal (quote escape s) := by
  refine ⟨s.toList.flatMap escape, ?_, rfl⟩
  induction s.toList with
  | nil => exact .nil
  | cons c cs ih => exact (h c).append ih

/-- `json.dumps` with default escaping. -/
def pyEncoder : Json.Encoder JsonNum where
  str := quote pyEscape
  num := pyNum
  str_literal := literal_quote body_pyEscape
  num_token := token_pyNum

/-- `json.Marshal`. -/
def goEncoder : Json.Encoder GoNum where
  str := quote goEscape
  num := goNum
  str_literal := literal_quote body_goEscape
  num_token := token_goNum

/-! ## Where the two agree on a string -/

theorem pyEscape_eq_goEscape {c : Char} (h : portableChar c = true) : pyEscape c = goEscape c := by
  unfold pyEscape goEscape
  split
  · rfl
  · simp only [portableChar, Bool.or_eq_true, Bool.and_eq_true, bne_iff_ne,
      decide_eq_true_eq, beq_iff_eq] at h
    rcases h with (⟨⟨⟨hc, hlt⟩, hgt⟩, hamp⟩ | hc) | hc
    · rcases Nat.lt_or_ge c.toNat 32 with h32 | h32
      · rw [if_neg (by omega), if_pos (by omega), if_pos (.inl h32)]
      · rw [if_pos (by omega), if_neg]
        simp only [hlt, hgt, hamp, false_or, not_or]
        omega
    · rw [if_neg (by omega), if_pos (by omega), if_pos (by simp [hc])]
    · rw [if_neg (by omega), if_pos (by omega), if_pos (by simp [hc])]

theorem portableChar_eq_false {c : Char} : portableChar c = false ↔
    (127 ≤ c.toNat ∧ c.toNat ≠ 8232 ∧ c.toNat ≠ 8233) ∨ c = '<' ∨ c = '>' ∨ c = '&' := by
  have hlt : c = '<' → c.toNat = 60 := by rintro rfl; rfl
  have hgt : c = '>' → c.toNat = 62 := by rintro rfl; rfl
  have hamp : c = '&' → c.toNat = 38 := by rintro rfl; rfl
  rw [← Bool.not_eq_true, portableChar]
  simp only [Bool.or_eq_true, Bool.and_eq_true, bne_iff_ne, decide_eq_true_eq, beq_iff_eq]
  constructor
  · intro h
    by_cases h1 : c = '<'
    · exact .inr (.inl h1)
    · by_cases h2 : c = '>'
      · exact .inr (.inr (.inl h2))
      · by_cases h3 : c = '&'
        · exact .inr (.inr (.inr h3))
        · simp only [not_or, not_and, not_not] at h
          refine .inl ⟨?_, h.1.2, h.2⟩
          by_contra hc
          exact h3 (h.1.1 ⟨⟨by omega, h1⟩, h2⟩)
  · rintro (⟨h1, h2, h3⟩ | h | h | h) hp
    · rcases hp with (⟨⟨⟨h, -⟩, -⟩, -⟩ | h) | h <;> omega
    · have := hlt h
      rcases hp with (⟨⟨⟨-, hn⟩, -⟩, -⟩ | hn) | hn
      · exact hn h
      · omega
      · omega
    · have := hgt h
      rcases hp with (⟨⟨-, hn⟩, -⟩ | hn) | hn
      · exact hn h
      · omega
      · omega
    · have := hamp h
      rcases hp with (⟨-, hn⟩ | hn) | hn
      · exact hn h
      · omega
      · omega

theorem shortEscape_eq_none {c : Char} (hc : 127 ≤ c.toNat) : shortEscape c = none := by
  have hq : c ≠ '"' := by rintro rfl; exact absurd hc (by decide)
  have hb : c ≠ '\\' := by rintro rfl; exact absurd hc (by decide)
  unfold shortEscape
  rw [if_neg hq, if_neg hb, if_neg (by omega), if_neg (by omega),
    if_neg (by omega), if_neg (by omega), if_neg (by omega)]

/-- Where the two escapes differ they differ in their first character: one
of them is a backslash and the other is not. -/
theorem escape_heads_ne {c : Char} (h : portableChar c = false) :
    ∃ a as b bs, pyEscape c = a :: as ∧ goEscape c = b :: bs ∧ a ≠ b := by
  rcases portableChar_eq_false.mp h with ⟨hc, h1, h2⟩ | rfl | rfl | rfl
  · have hb : '\\' ≠ c := by rintro rfl; exact absurd hc (by decide)
    have hlt : c ≠ '<' := by rintro rfl; exact absurd hc (by decide)
    have hgt : c ≠ '>' := by rintro rfl; exact absurd hc (by decide)
    have hamp : c ≠ '&' := by rintro rfl; exact absurd hc (by decide)
    have hgo : goEscape c = [c] := by
      simp only [goEscape, shortEscape_eq_none hc]
      rw [if_neg]
      simp only [hlt, hgt, hamp, h1, h2, or_false]
      omega
    have hpy : ∃ as, pyEscape c = '\\' :: as := by
      simp only [pyEscape, shortEscape_eq_none hc]
      rw [if_neg (by omega)]
      split
      · exact ⟨_, rfl⟩
      · exact ⟨_, rfl⟩
    obtain ⟨as, has⟩ := hpy
    exact ⟨_, as, _, [], has, hgo, hb⟩
  · exact ⟨_, _, _, _, rfl, rfl, by decide⟩
  · exact ⟨_, _, _, _, rfl, rfl, by decide⟩
  · exact ⟨_, _, _, _, rfl, rfl, by decide⟩

theorem flatMap_escape_eq {cs : List Char} {r : List Char}
    (h : cs.flatMap pyEscape ++ r = cs.flatMap goEscape ++ r) :
    ∀ c ∈ cs, portableChar c = true := by
  induction cs with
  | nil => simp
  | cons c cs ih =>
    simp only [List.flatMap_cons, List.append_assoc] at h
    have hc : portableChar c = true := by
      by_contra hp
      rw [Bool.not_eq_true] at hp
      obtain ⟨a, as, b, bs, ha, hb, hne⟩ := escape_heads_ne hp
      rw [ha, hb] at h
      simp only [List.cons_append, List.cons.injEq] at h
      exact hne h.1
    rw [pyEscape_eq_goEscape hc] at h
    have hcs := ih (List.append_cancel_left h)
    intro c' hc'
    rcases List.mem_cons.mp hc' with rfl | hc'
    · exact hc
    · exact hcs c' hc'

/-- The two libraries write a string alike exactly when they write each of
its characters alike. -/
theorem pyString_eq_goString {s : String} : pyEncoder.str s = goEncoder.str s ↔
      ∀ c ∈ s.toList, portableChar c = true := by
  show quote pyEscape s = quote goEscape s ↔ _
  unfold quote
  constructor
  · intro h
    simp only [List.cons.injEq, true_and] at h
    exact flatMap_escape_eq h
  · intro h
    have heq : s.toList.flatMap pyEscape = s.toList.flatMap goEscape := by
      simp only [List.flatMap_def]
      rw [List.map_congr_left fun c hc => pyEscape_eq_goEscape (h c hc)]
    rw [heq]

/-! ## Where the two agree on a number

The two layouts are told apart by the letter `e`, which only scientific
notation has, by the leading zero of a small number in fixed notation, and
by length. -/

theorem not_mem_digitsText {ds : List ℕ} (h : ∀ d ∈ ds, d < 10) {c : Char}
    (hc : c.isDigit = false) : c ∉ digitsText ds := by
  intro hm
  obtain ⟨d, hd, he⟩ := List.mem_map.mp hm
  exact digitChar_ne_of_lt (h d hd) hc he

theorem not_mem_zeros {n : ℕ} {c : Char} (hc : c.isDigit = false) : c ∉ zeros n := by
  intro hm
  rw [List.eq_of_mem_replicate hm] at hc
  exact absurd hc (by decide)

theorem not_mem_natText {n : ℕ} {c : Char} (hc : c.isDigit = false) : c ∉ natText n := by
  unfold natText
  split
  · intro h
    rw [List.mem_singleton.mp h] at hc
    exact absurd hc (by decide)
  · refine not_mem_digitsText (fun d hd => ?_) hc
    exact Nat.digits_lt_base (by omega) (List.mem_reverse.mp hd)

theorem readDigit_digitChar {d : ℕ} (hd : d < 10) : readDigit (Nat.digitChar d) = some d := by
  interval_cases d <;> rfl

/-- Digits are read from the most significant one on. -/
theorem readNat_digitsText {ds : List ℕ} (h : ∀ d ∈ ds, d < 10) :
    readNat (digitsText ds.reverse) = some (Nat.ofDigits 10 ds) := by
  induction ds with
  | nil => rfl
  | cons d ds ih =>
    have ih := ih fun d' hd' => h d' (List.mem_cons_of_mem _ hd')
    unfold readNat at ih ⊢
    rw [List.reverse_cons, digitsText, List.map_append, ← digitsText, List.foldlM_append, ih]
    simp only [Option.bind_eq_bind, Option.bind_some, List.map_cons,
      List.map_nil, List.foldlM_cons, List.foldlM_nil,
      readDigit_digitChar (h d List.mem_cons_self), Option.map_some,
      Option.pure_def, Nat.ofDigits_cons]
    rw [Nat.add_comm]

theorem readNat_natText (n : ℕ) : readNat (natText n) = some n := by
  unfold natText
  split
  · next h =>
      subst h
      rfl
  · rw [readNat_digitsText fun d hd => Nat.digits_lt_base (by omega) hd, Nat.ofDigits_digits]

theorem readInt_natText (n : ℕ) : readInt (natText n) = some (n : ℤ) := by
  have hread : readInt (natText n) = (readNat (natText n)).map fun k => (k : ℤ) := by
    unfold readInt
    split
    · next l hl =>
        refine absurd ?_ (not_mem_natText (n := n) (c := '-') (by decide))
        rw [hl]
        exact List.mem_cons_self
    · rfl
  rw [hread, readNat_natText]
  rfl

theorem readInt_intText (n : ℤ) : readInt (intText n) = some n := by
  unfold intText
  by_cases hn : n < 0
  · have hread : readInt ('-' :: natText n.natAbs) =
        (readNat (natText n.natAbs)).map fun k => -(k : ℤ) := rfl
    rw [decide_eq_true hn, signed, if_pos rfl, hread, readNat_natText]
    refine congrArg some ?_
    show -(n.natAbs : ℤ) = n
    omega
  · rw [decide_eq_false hn, signed, if_neg Bool.false_ne_true, readInt_natText]
    refine congrArg some ?_
    show (n.natAbs : ℤ) = n
    omega

theorem e_not_mem_fixedText {ds : List ℕ} {exp : ℤ} (h : ∀ d ∈ ds, d < 10) :
    'e' ∉ fixedText ds exp := by
  have he : ('e' : Char).isDigit = false := by decide
  have htake : 'e' ∉ digitsText (ds.take (exp.toNat + 1)) :=
    not_mem_digitsText (fun d hd => h d (List.mem_of_mem_take hd)) he
  have hdrop : 'e' ∉ digitsText (ds.drop (exp.toNat + 1)) :=
    not_mem_digitsText (fun d hd => h d (List.mem_of_mem_drop hd)) he
  have hz : ∀ n, 'e' ∉ zeros n := fun n => not_mem_zeros he
  unfold fixedText
  split
  · simp [hz, not_mem_digitsText h he]
  · split
    · simp [hz, not_mem_digitsText h he]
    · simp [htake, hdrop]

theorem e_mem_exponentText (width : ℕ) (exp : ℤ) (l : List Char) :
    'e' ∈ l ++ exponentText width exp := by
  simp [exponentText]

theorem length_natText (n : ℕ) (hn : n ≠ 0) : (natText n).length = (Nat.digits 10 n).length := by
  simp [natText, hn, digitsText]

theorem signed_inj {neg : Bool} {a b : List Char} : signed neg a = signed neg b ↔ a = b := by
  cases neg <;> simp [signed]

/-- Padding an exponent to two digits changes it exactly when it has one. -/
theorem exponentText_one_eq_two {exp : ℤ} (h : exp ≠ 0) :
    exponentText 2 exp = exponentText 1 exp ↔ 10 ≤ exp.natAbs := by
  have hn : exp.natAbs ≠ 0 := by omega
  have hlen := length_natText _ hn
  have hpos : (Nat.digits 10 exp.natAbs).length ≠ 0 := by
    simpa [Nat.digits_eq_nil_iff_eq_zero] using hn
  have hiff : (Nat.digits 10 exp.natAbs).length ≤ 1 ↔ exp.natAbs < 10 ^ 1 :=
    Nat.digits_length_le_iff (by omega) _
  constructor
  · intro he
    have := congrArg List.length he
    simp [exponentText, zeros] at this
    omega
  · intro he
    have hz : 2 - (natText exp.natAbs).length = 0 := by omega
    have hz' : 1 - (natText exp.natAbs).length = 0 := by omega
    simp [exponentText, hz, hz']

/-- The two libraries write a double alike exactly on `portableFloat`. -/
theorem pyFloat_eq_goFloat {d : Decimal} : pyFloat d = goFloat d ↔ portableFloat d = true := by
  unfold pyFloat goFloat
  rw [signed_inj, portableFloat, decide_eq_true_iff]
  by_cases hd : d.digits = []
  · simp [hd]
  rw [if_neg hd, if_neg hd]
  have hfix : 'e' ∉ fixedText d.digits d.exp := e_not_mem_fixedText d.digits_lt
  by_cases hsmall : d.exp < -6
  · rw [if_pos (by omega), if_pos hsmall, List.append_cancel_left_eq,
      exponentText_one_eq_two (by omega)]
    constructor
    · intro h
      exact ⟨hd, .inr (.inl (by omega))⟩
    · rintro ⟨-, h⟩
      omega
  rw [if_neg hsmall]
  by_cases hlarge : 21 ≤ d.exp
  · rw [if_pos (by omega), if_pos hlarge]
    exact ⟨fun _ => ⟨hd, .inr (.inr hlarge)⟩, fun _ => rfl⟩
  rw [if_neg hlarge]
  by_cases hsci : d.exp < -4 ∨ 16 ≤ d.exp
  · rw [if_pos hsci]
    constructor
    · intro h
      exact absurd (h ▸ e_mem_exponentText 2 d.exp _) hfix
    · rintro ⟨-, h⟩
      omega
  rw [if_neg hsci]
  by_cases hlen : (d.digits.length : ℤ) ≤ d.exp + 1
  · rw [if_pos hlen]
    constructor
    · intro h
      simpa using congrArg List.length h
    · rintro ⟨-, h⟩
      omega
  · rw [if_neg hlen]
    exact ⟨fun _ => ⟨hd, .inl ⟨by omega, by omega, by omega⟩⟩, fun _ => rfl⟩

/-! Integers reach the second encoder as doubles. On the integers whose own
digits are the shortest form, all of those up to `2^53` among them, the
double is `Decimal.ofInt`. -/

theorem head?_dropWhile_ne (ds : List ℕ) : (ds.dropWhile (· == 0)).head? ≠ some 0 := by
  intro h
  have := List.head?_dropWhile_not (· == 0) ds
  rw [h] at this
  exact absurd this (by decide)

theorem getLast?_digits_ne (n : ℕ) : (Nat.digits 10 n).getLast? ≠ some 0 := by
  by_cases hn : n = 0
  · simp [hn]
  · have hne : Nat.digits 10 n ≠ [] := Nat.digits_ne_nil_iff_ne_zero.mpr hn
    rw [List.getLast?_eq_some_getLast hne, ne_eq, Option.some.injEq]
    exact Nat.getLast_digit_ne_zero 10 hn

/-- `Nat.digits` has the least significant digit first, so the zeros at the
front are the trailing zeros of the number. -/
theorem digits_split (n : ℕ) : ∃ k, Nat.digits 10 n =
      List.replicate k 0 ++ (Nat.digits 10 n).dropWhile (· == 0) := by
  refine ⟨((Nat.digits 10 n).takeWhile (· == 0)).length, ?_⟩
  have hz : ∀ d ∈ (Nat.digits 10 n).takeWhile (· == 0), d = 0 := by
    intro d hd
    have hd := List.mem_takeWhile_imp hd
    exact beq_iff_eq.mp hd
  rw [← List.eq_replicate_of_mem hz]
  exact List.takeWhile_append_dropWhile.symm

theorem dropWhile_digits_getLast? (n : ℕ) :
    ((Nat.digits 10 n).dropWhile (· == 0)).getLast? ≠ some 0 := by
  intro hz
  obtain ⟨k, hk⟩ := digits_split n
  have h := getLast?_digits_ne n
  rw [hk, List.getLast?_append, hz] at h
  exact h rfl

theorem dropWhile_digits_eq_nil {n : ℕ}
    (h : (Nat.digits 10 n).dropWhile (· == 0) = []) : n = 0 := by
  obtain ⟨k, hk⟩ := digits_split n
  rw [h, List.append_nil] at hk
  rw [← Nat.ofDigits_digits 10 n, hk, Nat.ofDigits_replicate_zero]

/-- The double an integer is read as. It is taken to be the integer itself,
which a double holds up to `2^53`; the integers of a stored configuration are
far smaller, or stand for a double. -/
def decimalOfInt (n : ℤ) : Decimal where
  neg := decide (n < 0)
  digits := ((Nat.digits 10 n.natAbs).dropWhile (· == 0)).reverse
  exp := ((Nat.digits 10 n.natAbs).length - 1 : ℕ)
  digits_lt := by
    intro d hd
    rw [List.mem_reverse] at hd
    have hmem := (List.dropWhile_sublist _).subset hd
    exact Nat.digits_lt_base (by omega) hmem
  head_ne := by
    rw [List.head?_reverse]
    exact dropWhile_digits_getLast? _
  last_ne := by
    rw [List.getLast?_reverse]
    exact head?_dropWhile_ne _
  zero_exp := by
    intro h
    have hn := dropWhile_digits_eq_nil (List.reverse_eq_nil_iff.mp h)
    simp [hn]

/-- The double of an integer has its value. -/
theorem value_decimalOfInt (n : ℤ) : (decimalOfInt n).value = n := by
  by_cases hn : n = 0
  · subst hn
    simp [decimalOfInt, Decimal.value, Nat.ofDigits]
  obtain ⟨k, hk⟩ := digits_split n.natAbs
  have hpos : 0 < (Nat.digits 10 n.natAbs).length :=
    List.length_pos_iff.mpr (Nat.digits_ne_nil_iff_ne_zero.mpr (by omega))
  have hreverse : (decimalOfInt n).digits.reverse =
      (Nat.digits 10 n.natAbs).dropWhile (· == 0) := List.reverse_reverse _
  have hlength : (decimalOfInt n).digits.length =
      ((Nat.digits 10 n.natAbs).dropWhile (· == 0)).length := List.length_reverse
  generalize (Nat.digits 10 n.natAbs).dropWhile (· == 0) = rest at hk hreverse hlength
  have hsum := congrArg List.length hk
  rw [List.length_append, List.length_replicate] at hsum
  have hexp : (decimalOfInt n).exp + 1 - (decimalOfInt n).digits.length = k := by
    show (((Nat.digits 10 n.natAbs).length - 1 : ℕ) : ℤ) + 1 - _ = k
    omega
  have hdigits := congrArg (Nat.ofDigits (10 : ℕ)) hk
  rw [Nat.ofDigits_digits, Nat.ofDigits_append, Nat.ofDigits_replicate_zero,
    List.length_replicate, zero_add] at hdigits
  have habs : Nat.ofDigits (10 : ℚ) rest * 10 ^ k = (n.natAbs : ℤ) := by
    rw [Int.cast_natCast, hdigits, Nat.cast_mul, Nat.cast_pow, Nat.coe_ofDigits,
      Nat.cast_ofNat, mul_comm]
  have hsign : (decimalOfInt n).neg = decide (n < 0) := rfl
  rw [Decimal.value, hreverse, hexp, zpow_natCast, mul_assoc, habs, hsign]
  by_cases hneg : n < 0
  · rw [if_pos (decide_eq_true hneg), show (n.natAbs : ℤ) = -n by omega, Int.cast_neg,
      neg_one_mul, neg_neg]
  · rw [if_neg (by rwa [decide_eq_true_eq]), show (n.natAbs : ℤ) = n by omega, one_mul]

theorem fixedText_decimalOfInt {n : ℤ} (hn : n ≠ 0) :
    fixedText (decimalOfInt n).digits (decimalOfInt n).exp = natText n.natAbs := by
  have hn' : n.natAbs ≠ 0 := by omega
  have hpos : Nat.digits 10 n.natAbs ≠ [] :=
    Nat.digits_ne_nil_iff_ne_zero.mpr hn'
  have hlen := List.length_pos_iff.mpr hpos
  obtain ⟨k, hk⟩ := digits_split n.natAbs
  have hsum := congrArg List.length hk
  simp only [List.length_append, List.length_replicate] at hsum
  have hpad : (Nat.digits 10 n.natAbs).length - 1 + 1 -
      ((Nat.digits 10 n.natAbs).dropWhile (· == 0)).length = k := by omega
  unfold fixedText natText
  simp only [decimalOfInt, Int.toNat_natCast, List.length_reverse]
  rw [if_neg (by omega), if_pos (by omega), if_neg hn', hpad]
  conv_rhs => rw [hk]
  simp [digitsText, zeros, Nat.digitChar]

/-- An integer below `10^21` is written alike by both, and no larger one
is. -/
theorem intText_eq_goFloat {n : ℤ} : intText n = goFloat (decimalOfInt n) ↔ n.natAbs < 10 ^ 21 := by
  unfold intText goFloat
  rw [show (decimalOfInt n).neg = decide (n < 0) from rfl, signed_inj]
  by_cases hn : n = 0
  · subst hn
    simp [natText, decimalOfInt]
  have hn' : n.natAbs ≠ 0 := by omega
  have hd : (decimalOfInt n).digits ≠ [] := fun h =>
    hn' (dropWhile_digits_eq_nil (List.reverse_eq_nil_iff.mp h))
  have hexp : (decimalOfInt n).exp = ((Nat.digits 10 n.natAbs).length - 1 : ℕ) := rfl
  have hlen : (Nat.digits 10 n.natAbs).length ≤ 21 ↔ n.natAbs < 10 ^ 21 :=
    Nat.digits_length_le_iff (by omega) _
  rw [if_neg hd, if_neg (by omega), ← hlen, fixedText_decimalOfInt hn]
  by_cases hlarge : 21 ≤ (decimalOfInt n).exp
  · rw [if_pos hlarge]
    constructor
    · intro h
      refine absurd (h ▸ e_mem_exponentText 2 _ _) ?_
      exact not_mem_natText (by decide)
    · intro h
      omega
  · rw [if_neg hlarge]
    exact ⟨fun _ => by omega, fun _ => rfl⟩

/-- The number the agent's decoder makes of a number in a document. -/
def readFloat64 : JsonNum → Decimal
  | .int n => decimalOfInt n
  | .float d => d

/-- A number both libraries write alike once the second has read it back. -/
def portableNum : JsonNum → Bool
  | .int n => n.natAbs < 10 ^ 21
  | .float d => portableFloat d

theorem pyNum_eq_goNum {n : JsonNum} : pyEncoder.num n = goEncoder.num (.float64 (readFloat64 n)) ↔
      portableNum n = true := by
  cases n with
  | int n =>
    rw [portableNum, decide_eq_true_iff]
    exact intText_eq_goFloat
  | float d => exact pyFloat_eq_goFloat

/-! ## A text and its tree

A text that is kept and read again is the same as its tree with the numbers
left as they are written: Go's encoder writes no two strings alike. -/

/-- A number as it is written. -/
abbrev NumText := {l : List Char // Json.Token l}

/-- The encoder of trees whose numbers are already texts. -/
def textEncoder : Json.Encoder NumText where
  str := quote goEscape
  num := Subtype.val
  str_literal := literal_quote body_goEscape
  num_token := Subtype.property

def numText (n : GoNum) : NumText := ⟨goNum n, token_goNum n⟩

theorem encode_numText (v : Json GoNum) :
    (v.mapNum numText).encode textEncoder = v.encode goEncoder := by
  have h : Json.Aligned goEncoder textEncoder v (v.mapNum numText) :=
    Json.aligned_mapNum.mpr ⟨fun _ _ => rfl, fun _ _ => rfl⟩
  exact (Json.encode_eq_of_aligned h).symm

theorem hex4_inj {m n : ℕ} (hm : m < 65536) (hn : n < 65536) (h : hex4 m = hex4 n) : m = n := by
  simp only [hex4, List.cons.injEq, and_true] at h
  have h3 := digitChar_inj (by omega) (by omega) h.1
  have h2 := digitChar_inj (by omega) (by omega) h.2.1
  have h1 := digitChar_inj (by omega) (by omega) h.2.2.1
  have h0 := digitChar_inj (by omega) (by omega) h.2.2.2
  omega

/-- The character a short escape stands for. -/
def readShort (c : Char) : Char :=
  if c = 'b' then Char.ofNat 8
  else if c = 't' then Char.ofNat 9
  else if c = 'n' then Char.ofNat 10
  else if c = 'f' then Char.ofNat 12
  else if c = 'r' then Char.ofNat 13
  else c

theorem shortEscape_eq_some {c : Char} {e : List Char} (h : shortEscape c = some e) :
    ∃ x, x ≠ 'u' ∧ e = ['\\', x] ∧ readShort x = c := by
  have hof : ∀ n, c.toNat = n → Char.ofNat n = c := by
    intro n hn
    rw [← hn, Char.ofNat_toNat]
  unfold shortEscape at h
  split at h
  · next hc => cases h; subst hc; exact ⟨_, by decide, rfl, rfl⟩
  split at h
  · next hc => cases h; subst hc; exact ⟨_, by decide, rfl, rfl⟩
  split at h
  · next hc => cases h; exact ⟨_, by decide, rfl, hof 8 hc⟩
  split at h
  · next hc => cases h; exact ⟨_, by decide, rfl, hof 9 hc⟩
  split at h
  · next hc => cases h; exact ⟨_, by decide, rfl, hof 10 hc⟩
  split at h
  · next hc => cases h; exact ⟨_, by decide, rfl, hof 12 hc⟩
  split at h
  · next hc => cases h; exact ⟨_, by decide, rfl, hof 13 hc⟩
  cases h

/-- The three ways in which a character is written. -/
theorem goEscape_cases (c : Char) : (∃ x, x ≠ 'u' ∧ goEscape c = ['\\', x] ∧ readShort x = c) ∨
      (goEscape c = unicodeEscape c.toNat ∧ c.toNat < 65536) ∨ (goEscape c = [c] ∧ c ≠ '\\') := by
  unfold goEscape
  split
  · next e he =>
      obtain ⟨x, hx, rfl, hc⟩ := shortEscape_eq_some he
      exact .inl ⟨x, hx, rfl, hc⟩
  · next hnone =>
      split
      · next hc =>
          refine .inr (.inl ⟨rfl, ?_⟩)
          rcases hc with h | rfl | rfl | rfl | h | h
          · omega
          · decide
          · decide
          · decide
          · omega
          · omega
      · refine .inr (.inr ⟨rfl, ?_⟩)
        intro hc
        subst hc
        cases hnone

/-- The first escape of a text can be cut off. -/
theorem goEscape_cut {c d : Char} {r s : List Char}
    (h : goEscape c ++ r = goEscape d ++ s) : c = d ∧ r = s := by
  rcases goEscape_cases c with ⟨x, hx, hc, rfl⟩ | ⟨hc, hlt⟩ | ⟨hc, hne⟩ <;>
    rcases goEscape_cases d with ⟨y, hy, hd, rfl⟩ | ⟨hd, hlt'⟩ | ⟨hd, hne'⟩ <;>
    rw [hc, hd] at h
  · simp only [List.cons_append, List.nil_append, List.cons.injEq, true_and] at h
    exact ⟨congrArg readShort h.1, h.2⟩
  · simp only [unicodeEscape, List.cons_append, List.nil_append, List.cons.injEq, true_and] at h
    exact absurd h.1 hx
  · simp only [List.cons_append, List.nil_append, List.cons.injEq] at h
    exact absurd h.1.symm hne'
  · simp only [unicodeEscape, List.cons_append, List.nil_append, List.cons.injEq, true_and] at h
    exact absurd h.1.symm hy
  · simp only [unicodeEscape, List.cons_append, List.cons.injEq, true_and] at h
    obtain ⟨hhex, hrest⟩ := List.append_inj h rfl
    exact ⟨Char.toNat_inj.mp (hex4_inj hlt hlt' hhex), hrest⟩
  · simp only [unicodeEscape, List.cons_append, List.nil_append, List.cons.injEq] at h
    exact absurd h.1.symm hne'
  · simp only [List.cons_append, List.nil_append, List.cons.injEq] at h
    exact absurd h.1 hne
  · simp only [unicodeEscape, List.cons_append, List.nil_append, List.cons.injEq] at h
    exact absurd h.1 hne
  · simp only [List.cons_append, List.nil_append, List.cons.injEq] at h
    exact h

theorem goEscape_ne_nil (c : Char) : goEscape c ≠ [] := by
  intro h
  rcases goEscape_cases c with ⟨x, _, hc, _⟩ | ⟨hc, _⟩ | ⟨hc, _⟩ <;>
    · rw [hc] at h
      cases h

theorem flatMap_goEscape_inj {l m : List Char}
    (h : l.flatMap goEscape = m.flatMap goEscape) : l = m := by
  induction l generalizing m with
  | nil =>
    cases m with
    | nil => rfl
    | cons d m =>
      rw [List.flatMap_nil, List.flatMap_cons] at h
      exact absurd (List.append_eq_nil_iff.mp h.symm).1 (goEscape_ne_nil d)
  | cons c l ih =>
    cases m with
    | nil =>
      rw [List.flatMap_nil, List.flatMap_cons] at h
      exact absurd (List.append_eq_nil_iff.mp h).1 (goEscape_ne_nil c)
    | cons d m =>
      rw [List.flatMap_cons, List.flatMap_cons] at h
      obtain ⟨rfl, hrest⟩ := goEscape_cut h
      rw [ih hrest]

theorem quote_goEscape_inj : Function.Injective (quote goEscape) := by
  intro s t h
  simp only [quote, List.cons.injEq, true_and] at h
  exact String.toList_inj.mp (flatMap_goEscape_inj (List.append_cancel_right h))

/-- Two trees with the same text are the same. -/
theorem textEncoder_inj {v w : Json NumText}
    (h : v.encode textEncoder = w.encode textEncoder) : v = w :=
  Json.encode_inj quote_goEscape_inj Subtype.val_injective h

end JsonText

end Bifrostnms.Lib
