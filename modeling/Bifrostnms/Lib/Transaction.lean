import Mathlib.Logic.Basic

/-!
# Transactions over a database

A connection has the committed tables and, in a transaction, a working copy.
A program is a sequence of calls of the driver, each of which may fail (the
context is cancelled, the disk is full); it returns a value or an error text.
A statement may also fail by a constraint.

What such a program is for is a function on the tables (`Refines`): when it
returns a value, the tables are those of the function; when it returns an error,
the committed tables are as before; and without a failure of the driver the
function gives the same error. The rules follow the programs: a part of a
transaction works on the copy (`Does`), and the last part commits (`Commits`).
-/

namespace Bifrostnms.Lib

variable {σ α β : Type}

structure Connection (σ : Type) where
  committed : σ
  working : Option σ := none
  /-- The failures of the next calls; then there are none. -/
  failures : List (Option String) := []

/-- A program that uses a connection. -/
def TxProgram (σ α : Type) : Type := Connection σ → Except String α × Connection σ

namespace TxProgram

def fail (message : String) : TxProgram σ α := fun c => (.error message, c)

def andThen (m : TxProgram σ α) (k : α → TxProgram σ β) : TxProgram σ β := fun c =>
  match m c with
  | (.ok a, c') => k a c'
  | (.error e, c') => (.error e, c')

instance : Monad (TxProgram σ) where
  pure a := fun c => (.ok a, c)
  bind := andThen

/-- A call of the driver, and the text that its error is wrapped with. -/
def call (wrap : String) (f : Connection σ → Except String α × Connection σ) :
    TxProgram σ α := fun c =>
  match c.failures with
  | some text :: rest => (.error (wrap ++ text), { c with failures := rest })
  | none :: rest => f { c with failures := rest }
  | [] => f c

def begin (wrap : String) : TxProgram σ Unit :=
  call wrap fun c => (.ok (), { c with working := some c.committed })

/-- A `SELECT`. -/
def query (wrap : String) (f : σ → α) : TxProgram σ α :=
  call wrap fun c => (.ok (f (c.working.getD c.committed)), c)

/-- A statement in a transaction; one that violates a constraint changes
nothing. -/
def exec (wrap : String) (statement : σ → Except String (α × σ)) : TxProgram σ α :=
  call wrap fun c =>
    match statement (c.working.getD c.committed) with
    | .error text => (.error (wrap ++ text), c)
    | .ok (a, w) => (.ok a, { c with working := some w })

def commit (wrap : String) : TxProgram σ Unit :=
  call wrap fun c =>
    (.ok (), { c with committed := c.working.getD c.committed, working := none })

/-- A transaction with a deferred rollback. -/
def transaction (wrap : String) (body : TxProgram σ α) : TxProgram σ α :=
  (begin wrap).andThen fun _ c =>
    let (result, c') := body c
    (result, { c' with working := none })

/-! ## What programs do -/

/-- The program works on the copy. -/
def Does (m : TxProgram σ α) (f : σ → Except String (α × σ)) : Prop :=
  ∀ c w, c.working = some w → (∃ e c', m c = (.error e, c') ∧ c'.committed = c.committed ∧
      (c.failures = [] → f w = .error e)) ∨
    ∃ a w' c', m c = (.ok a, c') ∧ f w = .ok (a, w') ∧ c'.working = some w' ∧
      c'.committed = c.committed ∧ (c.failures = [] → c'.failures = [])

/-- The program ends a transaction: with a value it has committed. -/
def Commits (m : TxProgram σ α) (f : σ → Except String (α × σ)) : Prop :=
  ∀ c w, c.working = some w → (∃ e c', m c = (.error e, c') ∧ c'.committed = c.committed ∧
      (c.failures = [] → f w = .error e)) ∨ ∃ a c', m c = (.ok a, c') ∧ f w = .ok (a, c'.committed)

/-- The program, from a connection without a transaction, is one step of the
tables, or an error and no step. -/
def Refines (m : TxProgram σ α) (f : σ → Except String (α × σ)) : Prop :=
  ∀ c, c.working = none → (∃ e c', m c = (.error e, c') ∧ c'.committed = c.committed ∧
      (c.failures = [] → f c.committed = .error e)) ∨
    ∃ a c', m c = (.ok a, c') ∧ f c.committed = .ok (a, c'.committed)

section Rules

variable {wrap : String} {m : TxProgram σ α} {k : α → TxProgram σ β}
  {f : σ → Except String (α × σ)} {g : α → σ → Except String (β × σ)}

/-- A call either fails, with the tables as they are, or does its work. -/
theorem call_cases (wrap : String) (work : Connection σ → Except String α × Connection σ)
    (c : Connection σ) : (∃ e c', call wrap work c = (.error e, c') ∧ c'.committed = c.committed ∧
      c.failures ≠ []) ∨ ∃ c', call wrap work c = work c' ∧ c'.committed = c.committed ∧
      c'.working = c.working ∧ (c.failures = [] → c'.failures = []) := by
  unfold call
  split
  · next h => exact .inl ⟨_, _, rfl, rfl, by simp [h]⟩
  · next h => exact .inr ⟨_, rfl, rfl, rfl, by simp [h]⟩
  · exact .inr ⟨c, rfl, rfl, rfl, id⟩

theorem Does.of_eq {f' : σ → Except String (α × σ)} (h : Does m f)
    (heq : ∀ w, f w = f' w) : Does m f' := funext heq ▸ h

theorem Commits.of_eq {f' : σ → Except String (α × σ)} (h : Commits m f)
    (heq : ∀ w, f w = f' w) : Commits m f' := funext heq ▸ h

theorem Refines.of_eq {f' : σ → Except String (α × σ)} (h : Refines m f)
    (heq : ∀ w, f w = f' w) : Refines m f' := funext heq ▸ h

theorem does_pure (a : α) : Does (pure a : TxProgram σ α) fun w => .ok (a, w) := by
  intro c w hw
  exact .inr ⟨a, w, c, rfl, rfl, hw, rfl, id⟩

theorem does_fail (message : String) :
    Does (fail message : TxProgram σ α) fun _ => .error message := by
  intro c w _
  exact .inl ⟨message, c, rfl, rfl, fun _ => rfl⟩

theorem does_query (wrap : String) (read : σ → α) :
    Does (query wrap read) fun w => .ok (read w, w) := by
  intro c w hw
  obtain ⟨e, c', hcall, hcommitted, hfailed⟩ | ⟨c', hcall, hcommitted, hworking, hrest⟩ :=
    call_cases wrap (fun c => (Except.ok (read (c.working.getD c.committed)), c)) c
  · exact .inl ⟨e, c', hcall, hcommitted, fun h => absurd h hfailed⟩
  · rw [hw] at hworking
    refine .inr ⟨read w, w, c', ?_, rfl, hworking, hcommitted, hrest⟩
    refine hcall.trans ?_
    rw [hworking]
    rfl

theorem does_exec (wrap : String) (statement : σ → Except String (α × σ)) :
    Does (exec wrap statement) fun w => (statement w).mapError (wrap ++ ·) := by
  intro c w hw
  obtain ⟨e, c', hcall, hcommitted, hfailed⟩ | ⟨c', hcall, hcommitted, hworking, hrest⟩ :=
    call_cases wrap (fun c =>
      match statement (c.working.getD c.committed) with
      | .error text => (Except.error (wrap ++ text), c)
      | .ok (a, w) => (.ok a, { c with working := some w })) c
  · exact .inl ⟨e, c', hcall, hcommitted, fun h => absurd h hfailed⟩
  · have hget : c'.working.getD c'.committed = w := by
      rw [hworking, hw]
      rfl
    unfold exec
    rw [hcall, hget]
    dsimp only
    cases statement w with
    | error text => exact .inl ⟨_, c', rfl, hcommitted, fun _ => rfl⟩
    | ok p => exact .inr ⟨p.1, p.2, _, rfl, rfl, rfl, hcommitted, hrest⟩

theorem commits_commit (wrap : String) :
    Commits (commit wrap : TxProgram σ Unit) fun w => .ok ((), w) := by
  intro c w hw
  obtain ⟨e, c', hcall, hcommitted, hfailed⟩ | ⟨c', hcall, hcommitted, hworking, -⟩ :=
    call_cases wrap (fun c => (Except.ok (),
      { c with committed := c.working.getD c.committed, working := none })) c
  · exact .inl ⟨e, c', hcall, hcommitted, fun h => absurd h hfailed⟩
  · refine .inr ⟨(), _, hcall, ?_⟩
    rw [hworking, hw]
    rfl

theorem commits_fail (message : String) :
    Commits (fail message : TxProgram σ α) fun _ => .error message := by
  intro c w _
  exact .inl ⟨message, c, rfl, rfl, fun _ => rfl⟩

theorem Does.bind (hm : Does m f) (hk : ∀ a, Does (k a) (g a)) :
    Does (m >>= k) fun w => f w >>= fun p => g p.1 p.2 := by
  intro c w hw
  show (∃ e c', m.andThen k c = _ ∧ _) ∨ ∃ a w' c', m.andThen k c = _ ∧ _
  unfold andThen
  dsimp only
  obtain ⟨e, c', hrun, hcommitted, herror⟩ | ⟨a, w', c', hrun, hf, hworking, hcommitted, hrest⟩ :=
    hm c w hw
  · rw [hrun]
    refine .inl ⟨e, c', rfl, hcommitted, fun h => ?_⟩
    rw [herror h]
    rfl
  · rw [hrun, hf]
    obtain ⟨e, c'', hrun', hcommitted', herror⟩ |
      ⟨b, w'', c'', hrun', hg, hworking', hcommitted', hrest'⟩ := hk a c' w' hworking
    · exact .inl ⟨e, c'', hrun', hcommitted'.trans hcommitted, fun h => herror (hrest h)⟩
    · exact .inr ⟨b, w'', c'', hrun', hg, hworking', hcommitted'.trans hcommitted,
        fun h => hrest' (hrest h)⟩

theorem Does.bindCommits (hm : Does m f) (hk : ∀ a, Commits (k a) (g a)) :
    Commits (m >>= k) fun w => f w >>= fun p => g p.1 p.2 := by
  intro c w hw
  show (∃ e c', m.andThen k c = _ ∧ _) ∨ ∃ a c', m.andThen k c = _ ∧ _
  unfold andThen
  dsimp only
  obtain ⟨e, c', hrun, hcommitted, herror⟩ | ⟨a, w', c', hrun, hf, hworking, hcommitted, hrest⟩ :=
    hm c w hw
  · rw [hrun]
    refine .inl ⟨e, c', rfl, hcommitted, fun h => ?_⟩
    rw [herror h]
    rfl
  · rw [hrun, hf]
    obtain ⟨e, c'', hrun', hcommitted', herror⟩ | ⟨b, c'', hrun', hg⟩ := hk a c' w' hworking
    · exact .inl ⟨e, c'', hrun', hcommitted'.trans hcommitted, fun h => herror (hrest h)⟩
    · exact .inr ⟨b, c'', hrun', hg⟩

theorem refines_fail (message : String) :
    Refines (fail message : TxProgram σ α) fun _ => .error message := by
  intro c _
  exact .inl ⟨message, c, rfl, rfl, fun _ => rfl⟩

theorem Commits.transaction (wrap : String) (hm : Commits m f) :
    Refines (transaction wrap m) f := by
  intro c _
  unfold TxProgram.transaction andThen
  obtain ⟨e, c', hcall, hcommitted, hfailed⟩ | ⟨c', hcall, hcommitted, -, hrest⟩ :=
    call_cases wrap (fun c => (Except.ok (), { c with working := some c.committed })) c
  · rw [show begin wrap c = _ from hcall]
    exact .inl ⟨e, c', rfl, hcommitted, fun h => absurd h hfailed⟩
  · rw [show begin wrap c = _ from hcall]
    dsimp only
    obtain ⟨e, c'', hrun, hcommitted', herror⟩ | ⟨a, c'', hrun, hf⟩ :=
      hm { c' with working := some c'.committed } c'.committed rfl
    · rw [hrun]
      refine .inl ⟨e, _, rfl, hcommitted'.trans hcommitted, fun h => ?_⟩
      rw [← hcommitted]
      exact herror (hrest h)
    · rw [hrun]
      refine .inr ⟨a, _, rfl, ?_⟩
      rw [← hcommitted]
      exact hf

/-- What a refinement says of a program that starts on committed tables: an
error keeps them, a value is the function's. -/
theorem Refines.perform (h : Refines m f) (s : σ) (failures : List (Option String)) :
    (∃ e c', m { committed := s, failures := failures } = (.error e, c') ∧
      c'.committed = s ∧ (failures = [] → f s = .error e)) ∨
    ∃ a c', m { committed := s, failures := failures } = (.ok a, c') ∧
      f s = .ok (a, c'.committed) :=
  h { committed := s, failures := failures } rfl

end Rules

end TxProgram

end Bifrostnms.Lib
