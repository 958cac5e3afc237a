import Mathlib.Algebra.Order.Floor.Semiring
import Mathlib.Algebra.Order.Field.Basic
import Mathlib.Tactic.Linarith
import Mathlib.Tactic.Ring

/-!
# Linear interpolation

A sequence is given at the natural numbers, and between two neighbours it is
taken to be a line. Between a value and the next the line stays between the two
(`interpolate_mem`), so a sequence that never decreases has an interpolation
that never decreases (`interpolate_mono`).
-/

namespace Bifrostnms.Lib

variable {K : Type*} [Field K] [LinearOrder K] [IsStrictOrderedRing K] [FloorSemiring K]

/-- The value at a position between the numbers. -/
def interpolate (f : ℕ → K) (position : K) : K :=
  f ⌊position⌋₊ + (f (⌊position⌋₊ + 1) - f ⌊position⌋₊) * (position - ⌊position⌋₊)

variable {f : ℕ → K} {p q : K}

theorem interpolate_natCast (f : ℕ → K) (n : ℕ) : interpolate f n = f n := by
  simp [interpolate]

theorem interpolate_mem (hf : Monotone f) (h0 : 0 ≤ p) :
    f ⌊p⌋₊ ≤ interpolate f p ∧ interpolate f p ≤ f (⌊p⌋₊ + 1) := by
  have hstep : 0 ≤ f (⌊p⌋₊ + 1) - f ⌊p⌋₊ := sub_nonneg.mpr (hf (Nat.le_succ _))
  have hlow : 0 ≤ p - ⌊p⌋₊ := sub_nonneg.mpr (Nat.floor_le h0)
  have hhigh : p - ⌊p⌋₊ ≤ 1 := by
    have := Nat.lt_floor_add_one p
    linarith
  constructor
  · have := mul_nonneg hstep hlow
    unfold interpolate
    linarith
  · have := mul_le_of_le_one_right hstep hhigh
    unfold interpolate
    linarith

theorem interpolate_mono (hf : Monotone f) (h0 : 0 ≤ p) (h : p ≤ q) :
    interpolate f p ≤ interpolate f q := by
  obtain hsame | hless := (Nat.floor_mono h).eq_or_lt
  · -- on one line
    have hstep : 0 ≤ f (⌊q⌋₊ + 1) - f ⌊q⌋₊ := sub_nonneg.mpr (hf (Nat.le_succ _))
    unfold interpolate
    rw [hsame]
    have := mul_le_mul_of_nonneg_left (sub_le_sub_right h (⌊q⌋₊ : K)) hstep
    linarith
  · calc interpolate f p ≤ f (⌊p⌋₊ + 1) := (interpolate_mem hf h0).2
      _ ≤ f ⌊q⌋₊ := hf hless
      _ ≤ interpolate f q := (interpolate_mem hf (h0.trans h)).1

end Bifrostnms.Lib
