import Mathlib.Data.List.Basic

/-!
# Runs of a step function

A system is given by what one event does to a state, or that the event cannot
happen there. A run is a list of events that can all happen, one after the
other. Some properties hold in every run; others only in the runs whose events
each meet a condition on the state they happen in. `runSteps_invariant` is the
rule for both: what every such event preserves holds wherever the run ends, and
a run may be cut at any event, so it holds in every state on the way.
-/

namespace Bifrostnms.Lib

variable {σ ε : Type*}

/-- The state after a list of events, if they can happen. -/
def runSteps (step : σ → ε → Option σ) : List ε → σ → Option σ
  | [], s => some s
  | e :: es, s => (step s e).bind (runSteps step es)

/-- Every event of the run meets the condition where it happens. -/
def Meets (step : σ → ε → Option σ) (condition : σ → ε → Prop) : List ε → σ → Prop
  | [], _ => True
  | e :: es, s => condition s e ∧ ∀ s', step s e = some s' → Meets step condition es s'

/-- The run, if every event of it meets the condition. -/
def checkedRun (step : σ → ε → Option σ) (condition : σ → ε → Prop)
    [∀ s e, Decidable (condition s e)] : List ε → σ → Option σ
  | [], s => some s
  | e :: es, s =>
    if condition s e then (step s e).bind (checkedRun step condition es)
    else none

variable {step : σ → ε → Option σ} {condition : σ → ε → Prop}

theorem runSteps_cons {e : ε} {es : List ε} {s s' : σ} : runSteps step (e :: es) s = some s' ↔
      ∃ t, step s e = some t ∧ runSteps step es t = some s' :=
  Option.bind_eq_some_iff

theorem meets_of_checkedRun [∀ s e, Decidable (condition s e)] {es : List ε}
    {s s' : σ} (h : checkedRun step condition es s = some s') :
    Meets step condition es s ∧ runSteps step es s = some s' := by
  induction es generalizing s with
  | nil => exact ⟨trivial, h⟩
  | cons e es ih =>
    rw [checkedRun] at h
    split at h
    · next hcondition =>
        obtain ⟨t, hstep, hrest⟩ := Option.bind_eq_some_iff.mp h
        obtain ⟨hmeets, hrun⟩ := ih hrest
        refine ⟨⟨hcondition, fun t' ht' => ?_⟩, runSteps_cons.mpr ⟨t, hstep, hrun⟩⟩
        rw [hstep, Option.some.injEq] at ht'
        exact ht' ▸ hmeets
    · cases h

/-- One evaluation gives a run, its condition and a fact about its end. -/
theorem exists_of_checkedRun [∀ s e, Decidable (condition s e)] {es : List ε}
    {s : σ} {p : σ → Bool} (h : (checkedRun step condition es s).any p = true) :
    ∃ s', Meets step condition es s ∧ runSteps step es s = some s' ∧ p s' = true := by
  obtain ⟨s', hs', hp⟩ := (Option.any_eq_true _ _).mp h
  obtain ⟨hmeets, hrun⟩ := meets_of_checkedRun hs'
  exact ⟨s', hmeets, hrun, hp⟩

/-- A condition on the events alone may be added. -/
theorem Meets.and_of_forall {p : ε → Prop} {es : List ε} {s : σ}
    (h : Meets step condition es s) (hp : ∀ e ∈ es, p e) :
    Meets step (fun s e => condition s e ∧ p e) es s := by
  induction es generalizing s with
  | nil => exact trivial
  | cons e es ih =>
    exact ⟨⟨h.1, hp e List.mem_cons_self⟩, fun t ht =>
      ih (h.2 t ht) fun e' he' => hp e' (List.mem_cons_of_mem e he')⟩

/-- What every event that meets the condition preserves holds after a run of
such events. -/
theorem runSteps_invariant {P : σ → Prop}
    (hP : ∀ {s e s'}, P s → condition s e → step s e = some s' → P s')
    {es : List ε} {s s' : σ} (hs : P s) (hmeets : Meets step condition es s)
    (hrun : runSteps step es s = some s') : P s' := by
  induction es generalizing s with
  | nil =>
    cases hrun
    exact hs
  | cons e es ih =>
    obtain ⟨t, hstep, hrest⟩ := runSteps_cons.mp hrun
    exact ih (hP hs hmeets.1 hstep) (hmeets.2 t hstep) hrest

/-- Without a condition. -/
theorem runSteps_preserves {P : σ → Prop} (hP : ∀ {s e s'}, P s → step s e = some s' → P s')
    {es : List ε} {s s' : σ} (hs : P s) (hrun : runSteps step es s = some s') : P s' := by
  induction es generalizing s with
  | nil =>
    cases hrun
    exact hs
  | cons e es ih =>
    obtain ⟨t, hstep, hrest⟩ := runSteps_cons.mp hrun
    exact ih (hP hs hstep) hrest

/-- A property that an event breaks exactly if it does not meet the condition, and that
no event restores, holds after a run exactly if all its events meet the condition. -/
theorem runSteps_iff_meets {I P : σ → Prop} (hI : ∀ {s e s'}, I s → step s e = some s' → I s')
    (hP : ∀ {s e s'}, I s → step s e = some s' → (P s' ↔ P s ∧ condition s e))
    {es : List ε} {s s' : σ} (hs : I s) (hrun : runSteps step es s = some s') :
    P s' ↔ P s ∧ Meets step condition es s := by
  induction es generalizing s with
  | nil =>
    cases hrun
    exact (and_iff_left trivial).symm
  | cons e es ih =>
    obtain ⟨t, hstep, hrest⟩ := runSteps_cons.mp hrun
    rw [ih (hI hs hstep) hrest, hP hs hstep, and_assoc]
    refine and_congr_right fun _ => and_congr_right fun _ => ?_
    constructor
    · intro hmeets t' ht'
      rw [hstep, Option.some.injEq] at ht'
      exact ht' ▸ hmeets
    · intro hmeets
      exact hmeets t hstep

end Bifrostnms.Lib
