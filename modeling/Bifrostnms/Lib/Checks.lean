import Mathlib.Init

/-!
# Sequences of checks

Fallible code is a sequence of checks that stops at the first failure. The
lemmas here take such a sequence apart when it succeeded: a bind, a loop of
checks, and a loop that collects results.
-/

namespace Bifrostnms.Lib

variable {ε α β : Type}

theorem bind_eq_ok {x : Except ε α} {f : α → Except ε β} {b : β} :
    (x >>= f) = .ok b ↔ ∃ a, x = .ok a ∧ f a = .ok b := by
  cases x with
  | error e => simp [bind, Except.bind]
  | ok a => simp [bind, Except.bind]

theorem map_eq_ok {x : Except ε α} {f : α → β} {b : β} :
    x.map f = .ok b ↔ ∃ a, x = .ok a ∧ f a = b := by
  cases x with
  | error e => simp [Except.map]
  | ok a => simp [Except.map]

theorem ite_error_eq_ok {p : Prop} [Decidable p] {e : ε} {x : Except ε α} {a : α} :
    (if p then .error e else x) = .ok a ↔ ¬ p ∧ x = .ok a := by
  by_cases hp : p
  · simp [hp]
  · simp [hp]

/-- A check that throws in the middle of a sequence. -/
theorem ite_throw_eq_ok {p : Prop} [Decidable p] {e : ε} {f : β → Except ε α}
    {x : Except ε α} {a : α} : (if p then throw e >>= f else x) = .ok a ↔ ¬ p ∧ x = .ok a := by
  by_cases hp : p
  · simp [hp, throw, throwThe, MonadExceptOf.throw, bind, Except.bind]
  · simp [hp]

theorem forM_eq_ok {f : α → Except ε Unit} {l : List α} {u : Unit} :
    l.forM f = .ok u ↔ ∀ a ∈ l, f a = .ok () := by
  induction l with
  | nil => simp [List.forM, pure, Except.pure]
  | cons a l ih =>
    show (f a >>= fun _ => l.forM f) = .ok u ↔ _
    rw [bind_eq_ok, List.forall_mem_cons, ← ih]
    exact ⟨fun ⟨(), h⟩ => h, fun h => ⟨(), h⟩⟩

theorem optionForM_eq_ok {f : α → Except ε Unit} {o : Option α} {u : Unit} :
    o.forM f = .ok u ↔ ∀ a ∈ o, f a = .ok () := by
  cases o with
  | none => simp [pure, Except.pure]
  | some a => simp

theorem optionMapM_eq_ok {f : α → Except ε β} {o : Option α} {r : Option β} :
    o.mapM f = .ok r ↔ o.map f = r.map .ok := by
  cases o with
  | none => cases r <;> simp [pure, Except.pure]
  | some a =>
    show (f a).map some = .ok r ↔ some (f a) = r.map .ok
    rw [map_eq_ok]
    cases r <;> simp

/-- A loop that collects results succeeds when every step does, and returns
what the steps return. -/
theorem mapM_eq_ok {f : α → Except ε β} {l : List α} {bs : List β} :
    l.mapM f = .ok bs ↔ l.map f = bs.map .ok := by
  induction l generalizing bs with
  | nil => cases bs <;> simp [pure, Except.pure]
  | cons a l ih =>
    rw [List.mapM_cons, bind_eq_ok]
    simp only [bind_eq_ok, ih, pure, Except.pure, Except.ok.injEq]
    cases bs with
    | nil => simp
    | cons b bs => simp

/-- A loop over steps that return what they are given, or fail. -/
theorem mapM_checked_eq_ok {f : α → Except ε α} {p : α → Prop}
    (hf : ∀ {a b}, f a = .ok b ↔ p a ∧ a = b) {l l' : List α} :
    l.mapM f = .ok l' ↔ (∀ a ∈ l, p a) ∧ l = l' := by
  induction l generalizing l' with
  | nil => cases l' <;> simp [pure, Except.pure]
  | cons a l ih =>
    simp only [List.mapM_cons, bind_eq_ok, hf, ih, pure, Except.pure, Except.ok.injEq,
      List.forall_mem_cons]
    constructor
    · rintro ⟨_, ⟨h, rfl⟩, _, ⟨hl, rfl⟩, rfl⟩
      exact ⟨⟨h, hl⟩, rfl⟩
    · rintro ⟨⟨h, hl⟩, rfl⟩
      exact ⟨a, ⟨h, rfl⟩, l, ⟨hl, rfl⟩, rfl⟩

theorem mapM_eq_some {f : α → Option β} {l : List α} {bs : List β} :
    l.mapM f = some bs ↔ l.map f = bs.map some := by
  induction l generalizing bs with
  | nil => cases bs <;> simp
  | cons a l ih =>
    rw [List.mapM_cons]
    simp only [Option.bind_eq_bind, Option.bind_eq_some_iff, ih, Option.pure_def, Option.some.injEq]
    cases bs with
    | nil => simp
    | cons b bs => simp

theorem isSome_mapM {f : α → Option β} {l : List α} :
    (l.mapM f).isSome ↔ ∀ a ∈ l, (f a).isSome := by
  induction l with
  | nil => simp
  | cons a l ih =>
    rw [List.mapM_cons, List.forall_mem_cons, ← ih]
    cases f a with
    | none => simp
    | some b => cases l.mapM f <;> simp

/-- Every result of a loop was returned by one of its steps. -/
theorem mem_of_mapM_eq_some {f : α → Option β} {l : List α} {bs : List β}
    (h : l.mapM f = some bs) {b : β} (hb : b ∈ bs) : ∃ a ∈ l, f a = some b := by
  have hmem : some b ∈ l.map f := by
    rw [mapM_eq_some.mp h]
    exact List.mem_map_of_mem hb
  exact List.mem_map.mp hmem

theorem mem_mapM_of_mem {f : α → Option β} {l : List α} {bs : List β}
    (h : l.mapM f = some bs) {a : α} {b : β} (ha : a ∈ l) (hb : f a = some b) : b ∈ bs := by
  have hmem : f a ∈ bs.map some := by
    rw [← mapM_eq_some.mp h]
    exact List.mem_map_of_mem ha
  rw [hb] at hmem
  obtain ⟨_, hmem, heq⟩ := List.mem_map.mp hmem
  exact Option.some.inj heq ▸ hmem

theorem length_of_mapM_eq_some {f : α → Option β} {l : List α} {bs : List β}
    (h : l.mapM f = some bs) : bs.length = l.length := by
  have hlen := congrArg List.length (mapM_eq_some.mp h)
  rwa [List.length_map, List.length_map, eq_comm] at hlen

/-! ## Errors of a kind -/

/-- The errors of a computation are all of a kind. -/
def FailsWith (P : ε → Prop) (x : Except ε α) : Prop := ∀ e, x = .error e → P e

variable {P : ε → Prop}

theorem FailsWith.pure (a : α) : FailsWith P (.ok a) := fun _ h => by cases h

theorem FailsWith.bind {x : Except ε α} {f : α → Except ε β} (hx : FailsWith P x)
    (hf : ∀ a, FailsWith P (f a)) : FailsWith P (x >>= f) := by
  cases x with
  | error e =>
    intro e' h
    have hsame : Except.error e = (Except.error e' : Except ε β) := h
    cases hsame
    exact hx e rfl
  | ok a => exact hf a

theorem FailsWith.forM {f : α → Except ε Unit} (h : ∀ a, FailsWith P (f a)) (l : List α) :
    FailsWith P (l.forM f) := by
  induction l with
  | nil => exact .pure ()
  | cons a l ih => exact .bind (h a) fun _ => ih

theorem FailsWith.optionForM {f : α → Except ε Unit} (h : ∀ a, FailsWith P (f a))
    (o : Option α) : FailsWith P (o.forM f) := by
  cases o with
  | none => exact .pure ()
  | some a => exact h a

theorem FailsWith.optionMapM {f : α → Except ε β} (h : ∀ a, FailsWith P (f a))
    (o : Option α) : FailsWith P (o.mapM f) := by
  cases o with
  | none => exact .pure none
  | some a => exact .bind (h a) fun b => .pure (some b)

end Bifrostnms.Lib
