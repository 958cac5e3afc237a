import Mathlib.Data.List.Sort
import Mathlib.Data.List.Pairwise
import Mathlib.Data.List.Perm.Basic

/-!
# Answers of a query

A table is a bag of rows, and so is what a query selects before `ORDER BY`.
The keys of an `ORDER BY` may tie, and then any order of the tied rows is an
answer; with a `LIMIT` even other rows are. So the answers of an ordered query
are a set of lists (`Arranged`), and they depend on the bag of rows alone.
-/

namespace Bifrostnms.Lib

variable {α β : Type}

/-- A total order of keys, as `ORDER BY` uses it. -/
structure SortKey (α : Type) where
  le : α → α → Bool
  total : ∀ a b, le a b || le b a
  trans : ∀ {a b c}, le a b → le b c → le a c

namespace SortKey

/-- Order by a column. -/
def column (key : SortKey β) (f : α → β) : SortKey α where
  le a b := key.le (f a) (f b)
  total a b := key.total (f a) (f b)
  trans := key.trans

/-- A further key, for the rows that tie in the first. -/
def andThen (key next : SortKey α) : SortKey α where
  le a b := key.le a b && (!key.le b a || next.le a b)
  total a b := by
    have hkey := key.total a b
    have hnext := next.total a b
    cases hab : key.le a b <;> cases hba : key.le b a <;> simp_all
  trans {a b c} hab hbc := by
    simp only [Bool.and_eq_true, Bool.or_eq_true, Bool.not_eq_true'] at hab hbc ⊢
    obtain ⟨hab, hnab⟩ := hab
    obtain ⟨hbc, hnbc⟩ := hbc
    refine ⟨key.trans hab hbc, ?_⟩
    cases hca : key.le c a with
    | false => exact .inl rfl
    | true =>
      -- All three tie in the first key.
      have hba : key.le b a = true := key.trans hbc hca
      have hcb : key.le c b = true := key.trans hca hab
      rw [hba] at hnab
      rw [hcb] at hnbc
      exact .inr (next.trans (hnab.resolve_left Bool.noConfusion)
        (hnbc.resolve_left Bool.noConfusion))

/-- Order by a number. -/
def number (α : Type) [LinearOrder α] : SortKey α where
  le a b := a ≤ b
  total a b := by
    rw [Bool.or_eq_true, decide_eq_true_eq, decide_eq_true_eq]
    exact le_total a b
  trans hab hbc := by
    rw [decide_eq_true_eq] at hab hbc ⊢
    exact hab.trans hbc

end SortKey

/-- The rows in an order that the key allows. -/
def Arranged (key : SortKey α) (rows answer : List α) : Prop :=
  answer.Perm rows ∧ answer.Pairwise fun a b => key.le a b

theorem exists_arranged (key : SortKey α) (rows : List α) : ∃ answer, Arranged key rows answer := by
  have htrans : ∀ a b c, key.le a b → key.le b c → key.le a c :=
    fun _ _ _ => key.trans
  exact ⟨rows.mergeSort key.le, List.mergeSort_perm rows key.le,
    List.pairwise_mergeSort htrans key.total rows⟩

/-- A row joined with its partners, or with nulls. -/
def withPartners (a : α) : List β → List (α × Option β)
  | [] => [(a, none)]
  | partners => partners.map fun b => (a, some b)

/-- `LEFT JOIN`. -/
def leftJoin (on : α → β → Bool) (left : List α) (right : List β) : List (α × Option β) :=
  left.flatMap fun a => withPartners a (right.filter (on a))

/-- With at most one partner each, a join keeps the rows. -/
theorem leftJoin_eq_map {on : α → β → Bool} {left : List α} {right : List β}
    (h : ∀ a, (right.filter (on a)).length ≤ 1) :
    leftJoin on left right = left.map fun a => (a, right.find? (on a)) := by
  have hone : ∀ a, withPartners a (right.filter (on a)) = [(a, right.find? (on a))] := by
    intro a
    rw [← List.head?_filter]
    match hrows : right.filter (on a) with
    | [] | [_] => rfl
    | _ :: _ :: _ => exact absurd (hrows ▸ h a) (by simp)
  rw [leftJoin, List.map_eq_flatMap]
  exact congrArg (List.flatMap · left) (funext hone)

/-! ## Sorting by two relations -/

section Sorting

variable {r t : α → α → Prop} [DecidableRel r] [DecidableRel t]

theorem orderedInsert_congr {a : α} {l : List α} (h : ∀ b ∈ l, r a b ↔ t a b) :
    l.orderedInsert r a = l.orderedInsert t a := by
  induction l with
  | nil => rfl
  | cons b l ih =>
    rw [List.forall_mem_cons] at h
    rw [List.orderedInsert, List.orderedInsert, ih h.2]
    by_cases hab : r a b
    · rw [if_pos hab, if_pos (h.1.mp hab)]
    · rw [if_neg hab, if_neg (mt h.1.mpr hab)]

/-- Two relations that agree on the elements of a list sort it in the same way. -/
theorem insertionSort_congr {l : List α} (h : ∀ a ∈ l, ∀ b ∈ l, r a b ↔ t a b) :
    l.insertionSort r = l.insertionSort t := by
  induction l with
  | nil => rfl
  | cons a l ih =>
    have hl : l.insertionSort r = l.insertionSort t := ih fun b hb c hc =>
      h b (List.mem_cons_of_mem a hb) c (List.mem_cons_of_mem a hc)
    rw [List.insertionSort_cons, List.insertionSort_cons, hl]
    refine orderedInsert_congr fun b hb => ?_
    have hmem := (List.perm_insertionSort t l).mem_iff.mp hb
    exact h a List.mem_cons_self b (List.mem_cons_of_mem a hmem)

theorem SortKey.pairwise_insertionSort (key : SortKey α) (l : List α) :
    (l.insertionSort fun a b => key.le a b = true).Pairwise fun a b => key.le a b = true := by
  have : Std.Total fun a b => key.le a b = true :=
    ⟨fun a b => Bool.or_eq_true _ _ ▸ key.total a b⟩
  have : IsTrans α fun a b => key.le a b = true := ⟨fun _ _ _ => key.trans⟩
  exact List.pairwise_insertionSort _ _

/-- Two keys that sort a list in the same way do not put two of its elements in opposite
orders. -/
theorem SortKey.agree_of_insertionSort_eq {key key' : SortKey α} {l : List α}
    (h : (l.insertionSort fun a b => key.le a b = true) =
      l.insertionSort fun a b => key'.le a b = true) {a b : α} (ha : a ∈ l) (hb : b ∈ l)
    (hne : a ≠ b) :
    (key.le a b = true ∧ key'.le a b = true) ∨ (key.le b a = true ∧ key'.le b a = true) := by
  have hpair := key.pairwise_insertionSort l
  have hpair' := key'.pairwise_insertionSort l
  rw [← h] at hpair'
  have hmem := fun c => (List.perm_insertionSort (fun a b => key.le a b = true) l).mem_iff
    (a := c)
  have hboth : (l.insertionSort fun a b => key.le a b = true).Pairwise fun a b =>
      (key.le a b = true ∧ key'.le a b = true) ∨ (key.le b a = true ∧ key'.le b a = true) :=
    (hpair.and hpair').imp Or.inl
  have : Std.Symm fun a b => (key.le a b = true ∧ key'.le a b = true) ∨
      (key.le b a = true ∧ key'.le b a = true) := ⟨fun _ _ => Or.symm⟩
  exact List.Pairwise.forall hboth ((hmem a).mpr ha) ((hmem b).mpr hb) hne

end Sorting

end Bifrostnms.Lib
