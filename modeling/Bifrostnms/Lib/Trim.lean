import Mathlib.Data.List.DropRight

/-!
# Trimming and replacing

Two things that normalizers of texts do, over any type of characters. `trim` takes what
satisfies a predicate off both ends of a list: it leaves a list alone exactly if neither
end satisfies the predicate (`trim_eq_self_iff`). `Replaced R l m` says that `m` is `l`
with a piece in the place of each character, which need not be the same piece each time
nor one character long. What is known of the pieces is then known of the ends of `m` and
of its length.
-/

namespace Bifrostnms.Lib

variable {α β : Type}

/-! ## Trimming -/

def trim (p : α → Bool) (l : List α) : List α := (l.dropWhile p).rdropWhile p

section Trim

variable {p : α → Bool} {l m : List α}

/-- A prefix that is not empty begins with the same character. -/
theorem head?_eq_of_isPrefix (h : m <+: l) (hne : m ≠ []) : m.head? = l.head? := by
  obtain ⟨rest, rfl⟩ := h
  cases m with
  | nil => exact absurd rfl hne
  | cons a m => rfl

theorem trim_isPrefix : trim p l <+: l.dropWhile p := List.rdropWhile_prefix p _

/-- What is left of a trimmed list, or of the front of it, begins with a character that
stays. -/
theorem head?_of_prefix_trim (h : m <+: trim p l) {a : α} (ha : m.head? = some a) :
    p a = false := by
  have hne : m ≠ [] := by
    rintro rfl
    cases ha
  rw [head?_eq_of_isPrefix (h.trans trim_isPrefix) hne] at ha
  have hnot := List.head?_dropWhile_not p l
  rw [ha] at hnot
  exact hnot

theorem length_trim_le : (trim p l).length ≤ l.length :=
  (List.rdropWhile_prefix p _).length_le.trans (List.dropWhile_suffix p).length_le

theorem trim_eq_self_of_length_le (h : l.length ≤ (trim p l).length) : trim p l = l := by
  have hback : trim p l <+: l.dropWhile p := trim_isPrefix
  have hfront : l.dropWhile p <:+ l := List.dropWhile_suffix p
  have hlength := hfront.length_le
  rw [hback.eq_of_length_le (hlength.trans h), hfront.eq_of_length_le (h.trans hback.length_le)]

theorem rdropWhile_eq_self_iff_getLast? :
    l.rdropWhile p = l ↔ ∀ a, l.getLast? = some a → p a = false := by
  rw [List.rdropWhile_eq_self_iff]
  constructor
  · intro h a ha
    obtain ⟨hne, hlast⟩ := List.mem_getLast?_eq_getLast ha
    have hnot := h hne
    rw [← hlast, Bool.not_eq_true] at hnot
    exact hnot
  · intro h hne
    rw [Bool.not_eq_true]
    exact h _ (List.getLast?_eq_some_getLast hne)

theorem trim_eq_self_iff (hhead : ∀ a, l.head? = some a → p a = false) :
    trim p l = l ↔ ∀ a, l.getLast? = some a → p a = false := by
  have hfront : l.dropWhile p = l := by
    cases l with
    | nil => rfl
    | cons a l => exact List.dropWhile_cons_of_neg (by rw [hhead a rfl]; exact Bool.false_ne_true)
  rw [trim, hfront, rdropWhile_eq_self_iff_getLast?]

theorem trim_eq_self (h : ∀ a ∈ l, p a = false) : trim p l = l :=
  (trim_eq_self_iff fun a ha => h a (List.mem_of_head? ha)).mpr
    fun a ha => h a (List.mem_of_getLast? ha)

end Trim

/-! ## Replacing -/

/-- The second list is the first with a piece in the place of each character. -/
inductive Replaced (R : α → List β → Prop) : List α → List β → Prop
  | nil : Replaced R [] []
  | cons {a : α} {piece : List β} {l : List α} {m : List β} (hpiece : R a piece)
      (hrest : Replaced R l m) : Replaced R (a :: l) (piece ++ m)

namespace Replaced

variable {R : α → List β → Prop} {l l' : List α} {m : List β}

theorem of_map {f : α → β} (h : ∀ a, R a [f a]) (l : List α) : Replaced R l (l.map f) := by
  induction l with
  | nil => exact .nil
  | cons a l ih => exact .cons (h a) ih

/-- Where every piece is the image of its character. -/
theorem eq_map {f : α → β} (h : Replaced R l m)
    (hpiece : ∀ a ∈ l, ∀ piece, R a piece → piece = [f a]) : m = l.map f := by
  induction h with
  | nil => rfl
  | cons ha _ ih =>
    obtain ⟨hhead, htail⟩ := List.forall_mem_cons.mp hpiece
    rw [hhead _ ha, ih htail, List.map_cons, List.singleton_append]

theorem head_piece {a : α} (h : Replaced R (a :: l) m) : ∃ piece, R a piece ∧ piece <+: m := by
  cases h with
  | cons hpiece hrest => exact ⟨_, hpiece, List.prefix_append _ _⟩

theorem last_piece {a : α} (h : Replaced R (l ++ [a]) m) : ∃ piece, R a piece ∧ piece <:+ m := by
  induction l generalizing m with
  | nil =>
    cases h with
    | cons hpiece hrest =>
      cases hrest
      rw [List.append_nil]
      exact ⟨_, hpiece, List.suffix_refl _⟩
  | cons b l ih =>
    cases h with
    | cons hpiece hrest =>
      obtain ⟨piece, hR, hsuffix⟩ := ih hrest
      exact ⟨piece, hR, hsuffix.trans (List.suffix_append _ _)⟩

/-- Where the pieces of the characters that occur are single characters. -/
theorem length_eq {P : β → Prop} (h : Replaced R l m) (hm : ∀ b ∈ m, P b)
    (hpiece : ∀ a piece, R a piece → (∀ b ∈ piece, P b) → piece.length = 1) :
    m.length = l.length := by
  induction h with
  | nil => rfl
  | cons ha _ ih =>
    obtain ⟨hhead, htail⟩ := List.forall_mem_append.mp hm
    rw [List.length_append, hpiece _ _ ha hhead, ih htail, List.length_cons, Nat.add_comm]

end Replaced

end Bifrostnms.Lib
