import Bifrostnms.Lib.Text
import Bifrostnms.Lib.Time

/-!
# Column types, checks and what a table admits

The part of SQL that decides whether one row may be inserted: each parameter
must be a value of its column's type, `NOT NULL` columns must have a value,
and no `CHECK` may be false. A check over a null is unknown, which is not
false, so checks are evaluated in three-valued logic (`Option Bool`, with
`none` for unknown).

A double has the two orders that meet here: IEEE, where no comparison with
a NaN holds, and PostgreSQL's, where NaN is the greatest value.

Which texts denote network addresses is left to a parameter.
-/

namespace Bifrostnms.Lib

inductive Double where
  | finite (d : Decimal)
  | infinity (neg : Bool)
  | nan

/-- The IEEE comparison `x < q`. -/
def Double.lt : Double → ℚ → Bool
  | .finite d, q => d.value < q
  | .infinity neg, _ => neg
  | .nan, _ => false

/-- The IEEE comparison `x > q`. -/
def Double.gt : Double → ℚ → Bool
  | .finite d, q => q < d.value
  | .infinity neg, _ => !neg
  | .nan, _ => false

def Double.isNan : Double → Bool
  | .nan => true
  | _ => false

namespace Sql

/-- PostgreSQL's `x >= q`. -/
def doubleGe (x : Double) (q : ℚ) : Bool := x.isNan || !x.lt q

/-- PostgreSQL's `x <= q`. -/
def doubleLe (x : Double) (q : ℚ) : Bool := !x.isNan && !x.gt q

/-- A query parameter. -/
inductive Value where
  | null
  | int (n : ℤ)
  | double (x : Double)
  | bool (b : Bool)
  | text (s : String)
  | uuid (u : Uuid)
  | timestamp (t : DateTime)
  | doubles (xs : List Double)
  | json (v : Json JsonNum)

def Value.isNull : Value → Bool
  | .null => true
  | _ => false

/-- An optional parameter. -/
def Value.ofOption {α : Type} (f : α → Value) : Option α → Value
  | none => .null
  | some a => f a

@[simp] theorem isNull_int (n : ℤ) : (Value.int n).isNull = false := rfl

@[simp] theorem isNull_double (x : Double) : (Value.double x).isNull = false := rfl

@[simp] theorem isNull_bool (b : Bool) : (Value.bool b).isNull = false := rfl

@[simp] theorem isNull_text (s : String) : (Value.text s).isNull = false := rfl

@[simp] theorem isNull_uuid (u : Uuid) : (Value.uuid u).isNull = false := rfl

@[simp] theorem isNull_timestamp (t : DateTime) : (Value.timestamp t).isNull = false := rfl

@[simp] theorem isNull_doubles (xs : List Double) : (Value.doubles xs).isNull = false := rfl

@[simp] theorem isNull_json (v : Json JsonNum) : (Value.json v).isNull = false := rfl

@[simp] theorem isNull_none {α : Type} (f : α → Value) :
    (Value.ofOption f none).isNull = true := rfl

@[simp] theorem isNull_some {α : Type} (f : α → Value) (a : α) :
    (Value.ofOption f (some a)).isNull = (f a).isNull := rfl

inductive ColumnType where
  | integer
  | bigint
  | doublePrecision
  | boolean
  | varchar (length : ℕ)
  | uuid
  | timestamptz
  | inet
  | jsonb
  | doubleArray

/-- No text value may hold a NUL. -/
def noNul (s : String) : Bool := s.toList.all fun c => c.toNat != 0

def fits (bits : ℕ) (n : ℤ) : Bool := -2 ^ (bits - 1) ≤ n ∧ n < 2 ^ (bits - 1)

/-- Whether a parameter can be bound to a column of a type. -/
def ColumnType.accepts (inet : String → Bool) : ColumnType → Value → Bool
  | _, .null => true
  | .integer, .int n => fits 32 n
  | .bigint, .int n => fits 64 n
  | .doublePrecision, .double _ => true
  | .boolean, .bool _ => true
  | .varchar length, .text s => s.length ≤ length && noNul s
  | .uuid, .uuid _ => true
  | .timestamptz, .timestamp t => t.inUtc
  | .inet, .text s => inet s
  | .jsonb, .json v => v.strings.all noNul
  | .doubleArray, .doubles _ => true
  | _, _ => false

@[simp] theorem accepts_null (inet : String → Bool) (t : ColumnType) :
    t.accepts inet .null = true := by
  cases t <;> rfl

@[simp] theorem accepts_ofOption {α : Type} (inet : String → Bool)
    (t : ColumnType) (f : α → Value) (o : Option α) :
    t.accepts inet (.ofOption f o) = o.all fun a => t.accepts inet (f a) := by
  cases o with
  | none => exact accepts_null inet t
  | some a => rfl

@[simp] theorem accepts_integer (inet : String → Bool) (n : ℤ) :
    ColumnType.integer.accepts inet (.int n) = fits 32 n := rfl

@[simp] theorem accepts_bigint (inet : String → Bool) (n : ℤ) :
    ColumnType.bigint.accepts inet (.int n) = fits 64 n := rfl

@[simp] theorem accepts_doublePrecision (inet : String → Bool) (x : Double) :
    ColumnType.doublePrecision.accepts inet (.double x) = true := rfl

@[simp] theorem accepts_boolean (inet : String → Bool) (b : Bool) :
    ColumnType.boolean.accepts inet (.bool b) = true := rfl

@[simp] theorem accepts_varchar (inet : String → Bool) (n : ℕ) (s : String) :
    (ColumnType.varchar n).accepts inet (.text s) = (decide (s.length ≤ n) && noNul s) := rfl

@[simp] theorem accepts_uuid (inet : String → Bool) (u : Uuid) :
    ColumnType.uuid.accepts inet (.uuid u) = true := rfl

@[simp] theorem accepts_timestamptz (inet : String → Bool) (t : DateTime) :
    ColumnType.timestamptz.accepts inet (.timestamp t) = t.inUtc := rfl

@[simp] theorem accepts_inet (inet : String → Bool) (s : String) :
    ColumnType.inet.accepts inet (.text s) = inet s := rfl

@[simp] theorem accepts_jsonb (inet : String → Bool) (v : Json JsonNum) :
    ColumnType.jsonb.accepts inet (.json v) = v.strings.all noNul := rfl

@[simp] theorem accepts_doubleArray (inet : String → Bool)
    (xs : List Double) : ColumnType.doubleArray.accepts inet (.doubles xs) = true := rfl

structure Column where
  name : String
  type : ColumnType
  notNull : Bool

abbrev Row := List (String × Value)

def get (r : Row) (name : String) : Value := (r.lookup name).getD .null

/-- A `CHECK`; `none` is unknown. -/
abbrev Check := Row → Option Bool

def isNull (c : String) : Check := fun r => some (get r c).isNull

def and3 : Option Bool → Option Bool → Option Bool
  | some false, _ => some false
  | _, some false => some false
  | some true, some true => some true
  | _, _ => none

def or3 : Option Bool → Option Bool → Option Bool
  | some true, _ => some true
  | _, some true => some true
  | some false, some false => some false
  | _, _ => none

def both (p q : Check) : Check := fun r => and3 (p r) (q r)

def either (p q : Check) : Check := fun r => or3 (p r) (q r)

/-- `c >= n` for a constant. -/
def atLeast (c : String) (n : ℤ) : Check := fun r =>
  match get r c with
  | .int m => some (n ≤ m)
  | .double x => some (doubleGe x n)
  | _ => none

/-- `c <= n` for a constant. -/
def atMost (c : String) (n : ℤ) : Check := fun r =>
  match get r c with
  | .int m => some (m ≤ n)
  | .double x => some (doubleLe x n)
  | _ => none

/-- `c BETWEEN low AND high`. -/
def between (c : String) (low high : ℤ) : Check :=
  both (atLeast c low) (atMost c high)

/-- `c >= d` for two columns. -/
def notBefore (c d : String) : Check := fun r =>
  match get r c, get r d with
  | .int m, .int n => some (n ≤ m)
  | .timestamp t, .timestamp u => some (u.instant ≤ t.instant)
  | _, _ => none

/-- `c IN (…)`. -/
def oneOf (c : String) (names : List String) : Check := fun r =>
  match get r c with
  | .text s => some (names.contains s)
  | _ => none

/-- `cardinality(c) = d`. -/
def cardinality (c d : String) : Check := fun r =>
  match get r c, get r d with
  | .doubles xs, .int n => some ((xs.length : ℤ) = n)
  | _, _ => none

/-- `jsonb_typeof(c) = 'array'`. -/
def isArray (c : String) : Check := fun r =>
  match get r c with
  | .json (.arr _) => some true
  | .json _ => some false
  | _ => none

/-- A check is violated only when it is false. -/
def holds (check : Check) (r : Row) : Bool := check r != some false

@[simp] theorem holds_both (p q : Check) (r : Row) :
    holds (both p q) r = (holds p r && holds q r) := by
  unfold holds both
  rcases p r with _ | _ | _ <;> rcases q r with _ | _ | _ <;> rfl

@[simp] theorem holds_either (p q : Check) (r : Row) :
    holds (either p q) r = (holds p r || holds q r) := by
  unfold holds either
  rcases p r with _ | _ | _ <;> rcases q r with _ | _ | _ <;> rfl

/-! What a check comes to when its columns have values of the right kind. -/

section Evaluation

variable {r : Row} {c d : String}

theorem holds_some (b : Bool) : (some b != some false) = b := by
  cases b <;> rfl

theorem holds_oneOf {s : String} {names : List String}
    (h : get r c = .text s) : holds (oneOf c names) r = names.contains s := by
  rw [holds, oneOf, h]
  exact holds_some _

theorem holds_atLeast_int {n m : ℤ} (h : get r c = .int m) :
    holds (atLeast c n) r = decide (n ≤ m) := by
  rw [holds, atLeast, h]
  exact holds_some _

theorem holds_atLeast_double {n : ℤ} {x : Double} (h : get r c = .double x) :
    holds (atLeast c n) r = doubleGe x n := by
  rw [holds, atLeast, h]
  exact holds_some _

theorem holds_atMost_int {n m : ℤ} (h : get r c = .int m) :
    holds (atMost c n) r = decide (m ≤ n) := by
  rw [holds, atMost, h]
  exact holds_some _

theorem holds_atMost_double {n : ℤ} {x : Double} (h : get r c = .double x) :
    holds (atMost c n) r = doubleLe x n := by
  rw [holds, atMost, h]
  exact holds_some _

theorem holds_notBefore_int {m n : ℤ} (h : get r c = .int m)
    (h' : get r d = .int n) : holds (notBefore c d) r = decide (n ≤ m) := by
  rw [holds, notBefore, h, h']
  exact holds_some _

theorem holds_notBefore_timestamp {t u : DateTime}
    (h : get r c = .timestamp t) (h' : get r d = .timestamp u) :
    holds (notBefore c d) r = decide (u.instant ≤ t.instant) := by
  rw [holds, notBefore, h, h']
  exact holds_some _

theorem holds_cardinality {xs : List Double} {n : ℤ}
    (h : get r c = .doubles xs) (h' : get r d = .int n) :
    holds (cardinality c d) r = decide ((xs.length : ℤ) = n) := by
  rw [holds, cardinality, h, h']
  exact holds_some _

theorem get_of_some {α : Type} {f : α → Value} {o : Option α} {a : α}
    (h : get r c = .ofOption f o) (ho : o = some a) : get r c = f a := by
  rw [h, ho]
  rfl

/-- `c IS NULL OR …` over an optional column asks nothing of a null. -/
theorem holds_isNull_or {α : Type} {f : α → Value} {o : Option α} {p : Check}
    (h : get r c = .ofOption f o) (hp : ∀ a, o = some a → holds p r = true) :
    (holds (isNull c) r || holds p r) = true := by
  cases o with
  | none =>
    rw [holds, isNull, h]
    rfl
  | some a => rw [hp a rfl, Bool.or_true]

end Evaluation

structure Table where
  columns : List Column
  checks : List Check

/-- The row violates no type, `NOT NULL` or `CHECK` constraint. -/
def Table.admits (inet : String → Bool) (t : Table) (r : Row) : Bool :=
  t.columns.all (fun c => c.type.accepts inet (get r c.name) &&
    !(c.notNull && (get r c.name).isNull)) && t.checks.all fun check => holds check r

end Sql

end Bifrostnms.Lib
