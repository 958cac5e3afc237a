import Mathlib.Data.List.Nodup

/-!
# Tables with a unique key

The rows of a table in the order they were inserted, with the constraint that
no two rows have the same key. An insert whose key is taken fails and leaves
the table as it is; an update keeps the keys.
-/

namespace Bifrostnms.Lib

structure Table {ρ κ : Type} (key : ρ → κ) where
  rows : List ρ := []
  unique : (rows.map key).Nodup := by exact List.nodup_nil

namespace Table

variable {ρ κ : Type} {key : ρ → κ}

section Operations

variable [DecidableEq κ]

def find? (t : Table key) (k : κ) : Option ρ :=
  t.rows.find? fun r => key r = k

def has (t : Table key) (k : κ) : Bool :=
  t.rows.any fun r => key r = k

theorem has_eq_true {t : Table key} {k : κ} : t.has k = true ↔ ∃ r ∈ t.rows, key r = k := by
  simp [has]

def insert (t : Table key) (r : ρ) : Table key :=
  if h : t.has (key r) = true then t
  else ⟨t.rows ++ [r], by
    rw [List.map_append]
    refine t.unique.append (List.nodup_singleton _) ?_
    intro k hk hr
    obtain ⟨r', hr', rfl⟩ := List.mem_map.mp hk
    exact h (has_eq_true.mpr ⟨r', hr', by simpa using hr⟩)⟩

end Operations

def update (t : Table key) (f : ρ → ρ) (hf : ∀ r, key (f r) = key r) : Table key where
  rows := t.rows.map f
  unique := by
    rw [List.map_map, show key ∘ f = key from funext hf]
    exact t.unique

def delete (t : Table key) (p : ρ → Bool) : Table key where
  rows := t.rows.filter fun r => !p r
  unique := t.unique.sublist ((List.filter_sublist).map key)

variable {t : Table key} {k : κ} {r s : ρ}

theorem eq_of_key (hr : r ∈ t.rows) (hs : s ∈ t.rows) (h : key r = key s) : r = s :=
  List.inj_on_of_nodup_map t.unique hr hs h

theorem mem_delete {p : ρ → Bool} : r ∈ (t.delete p).rows ↔ r ∈ t.rows ∧ p r = false := by
  simp [delete]

theorem mem_update {f : ρ → ρ} {hf : ∀ r, key (f r) = key r} :
    r ∈ (t.update f hf).rows ↔ ∃ s ∈ t.rows, f s = r :=
  List.mem_map

/-- Rows with another key are as before. -/
theorem mem_update_of_ne {f : ρ → ρ} {hf : ∀ r, key (f r) = key r}
    (hother : ∀ r, key r ≠ k → f r = r) (h : key s ≠ k) :
    s ∈ (t.update f hf).rows ↔ s ∈ t.rows := by
  rw [mem_update]
  constructor
  · rintro ⟨r, hr, rfl⟩
    rw [hf] at h
    rwa [hother r h]
  · intro hs
    exact ⟨s, hs, hother s h⟩

variable [DecidableEq κ]

theorem find?_eq_some : t.find? k = some r ↔ r ∈ t.rows ∧ key r = k := by
  constructor
  · intro h
    exact ⟨List.mem_of_find?_eq_some h, by simpa using List.find?_some h⟩
  · rintro ⟨hr, rfl⟩
    cases h : t.find? (key r) with
    | none =>
      have hne := List.find?_eq_none.mp h r hr
      exact absurd (decide_eq_true rfl) hne
    | some s =>
      have hs := List.mem_of_find?_eq_some h
      have hkey : key s = key r := by simpa using List.find?_some h
      rw [eq_of_key hs hr hkey]

theorem find?_eq_none : t.find? k = none ↔ t.has k = false := by
  rw [find?, List.find?_eq_none, ← Bool.not_eq_true, has_eq_true]
  simp

theorem has_delete : (t.delete fun r => key r = k).has k = false := by
  rw [← Bool.not_eq_true, has_eq_true]
  rintro ⟨r, hr, hkey⟩
  rw [mem_delete, decide_eq_false_iff_not] at hr
  exact hr.2 hkey

theorem insert_of_has (h : t.has (key r) = true) : t.insert r = t := dif_pos h

theorem rows_insert (h : t.has (key r) = false) : (t.insert r).rows = t.rows ++ [r] := by
  unfold insert
  rw [dif_neg (by simp [h])]

/-- A row whose key is taken is not added. -/
theorem mem_insert : s ∈ (t.insert r).rows ↔ s ∈ t.rows ∨ (s = r ∧ t.has (key r) = false) := by
  cases h : t.has (key r) with
  | true =>
    rw [insert_of_has h]
    simp
  | false =>
    rw [rows_insert h]
    simp

theorem find?_insert_of_some (h : t.find? k = some s) : (t.insert r).find? k = some s := by
  rw [find?_eq_some] at h ⊢
  exact ⟨mem_insert.mpr (.inl h.1), h.2⟩

theorem find?_of_find?_insert (h : (t.insert r).find? k = some s) : t.find? k = some s ∨ s = r := by
  rw [find?_eq_some, mem_insert] at h
  obtain ⟨hs | ⟨rfl, -⟩, hkey⟩ := h
  · exact .inl (find?_eq_some.mpr ⟨hs, hkey⟩)
  · exact .inr rfl

theorem find?_of_find?_delete {p : ρ → Bool} (h : (t.delete p).find? k = some s) :
    t.find? k = some s := by
  rw [find?_eq_some, mem_delete] at h
  exact find?_eq_some.mpr ⟨h.1.1, h.2⟩

/-! Rows with another key -/

theorem mem_insert_of_ne (h : key s ≠ key r) : s ∈ (t.insert r).rows ↔ s ∈ t.rows := by
  rw [mem_insert]
  refine or_iff_left fun hnew => h ?_
  rw [hnew.1]

theorem mem_delete_of_ne (h : key s ≠ k) : s ∈ (t.delete fun r => key r = k).rows ↔ s ∈ t.rows := by
  rw [mem_delete, decide_eq_false_iff_not]
  exact and_iff_left h

theorem find?_update (f : ρ → ρ) (hf : ∀ r, key (f r) = key r) :
    (t.update f hf).find? k = (t.find? k).map f := by
  unfold find? update
  rw [List.find?_map]
  congr 1
  have hkey : ((fun r => decide (key r = k)) ∘ f) =
      fun r => decide (key r = k) := funext fun r => by simp [hf]
  rw [hkey]

/-! What is found after a row was written -/

/-- Rows that an update does not make fail the test: it has left them alone. -/
theorem exists_of_any_find?_update {p : ρ → Bool} {q : ρ → Prop} [DecidablePred q]
    {f : ρ → ρ} (hf : ∀ r, key (if q r then f r else r) = key r)
    (h : ((t.update (fun r => if q r then f r else r) hf).find? k).any p = true)
    (hp : ∀ r, p (f r) = false) : ∃ r, t.find? k = some r ∧ ¬ q r ∧ p r = true := by
  rw [find?_update, Option.any_map, Option.any_eq_true] at h
  obtain ⟨r, hr, hany⟩ := h
  by_cases hq : q r
  · rw [if_pos hq, hp r] at hany
    cases hany
  · rw [if_neg hq] at hany
    exact ⟨r, hr, hq, hany⟩

theorem any_find?_insert {p : ρ → Bool} (hnew : t.has (key r) = false)
    (hp : p r = true) : ((t.insert r).find? (key r)).any p = true := by
  rw [find?_eq_some.mpr ⟨mem_insert.mpr (.inr ⟨rfl, hnew⟩), rfl⟩]
  exact hp

theorem any_find?_update {p : ρ → Bool} (f : ρ → ρ)
    (hf : ∀ r, key (f r) = key r) (hhas : t.has k = true) (hp : ∀ r, key r = k → p (f r) = true) :
    ((t.update f hf).find? k).any p = true := by
  obtain ⟨r, hr, hkey⟩ := has_eq_true.mp hhas
  rw [find?_update, find?_eq_some.mpr ⟨hr, hkey⟩]
  exact hp r hkey

end Table

end Bifrostnms.Lib
