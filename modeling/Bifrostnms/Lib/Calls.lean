import Mathlib.Data.List.Basic

/-!
# Calls that run at the same time

The calls of a system are a list: a new call is appended, and a step of a call replaces
the entry at its place. A property of the entries by their place is kept by both if it
holds of the new entry (`forall_set`, `forall_append`).

A statement of a call may be executed without an answer, or not reach the database
(`StatementFate`).
-/

namespace Bifrostnms.Lib

/-- What happens to a statement. -/
inductive StatementFate where
  | answered
  | notExecuted
  | answerLost
deriving DecidableEq

variable {φ : Type}

theorem forall_set {P : ℕ → φ → Prop} {l : List φ} {i : ℕ} {a : φ}
    (h : ∀ j x, l[j]? = some x → P j x) (ha : P i a) : ∀ j x, (l.set i a)[j]? = some x → P j x := by
  intro j x hx
  rw [List.getElem?_set] at hx
  split at hx
  · next hij =>
      subst hij
      split at hx
      · exact Option.some.inj hx ▸ ha
      · cases hx
  · exact h j x hx

theorem forall_append {P : ℕ → φ → Prop} {l : List φ} {a : φ}
    (h : ∀ j x, l[j]? = some x → P j x) (ha : P l.length a) :
    ∀ j x, (l ++ [a])[j]? = some x → P j x := by
  intro j x hx
  rw [List.getElem?_append] at hx
  split at hx
  · exact h j x hx
  · next hlt =>
      obtain ⟨hj, rfl⟩ : j - l.length = 0 ∧ a = x := by
        rw [List.getElem?_singleton] at hx
        split at hx
        · next hzero => exact ⟨hzero, Option.some.inj hx⟩
        · cases hx
      obtain rfl : j = l.length := by omega
      exact ha

/-- The entry at a place after another one was replaced, or this one. -/
theorem getElem?_set_cases {l : List φ} {i j : ℕ} {a x : φ} (h : (l.set i a)[j]? = some x) :
    j = i ∧ x = a ∨ j ≠ i ∧ l[j]? = some x := by
  by_cases hij : j = i
  · subst hij
    rw [List.getElem?_set_self'] at h
    obtain ⟨y, -, rfl⟩ := Option.map_eq_some_iff.mp h
    exact .inl ⟨rfl, rfl⟩
  · rw [List.getElem?_set_ne (Ne.symm hij)] at h
    exact .inr ⟨hij, h⟩

end Bifrostnms.Lib
