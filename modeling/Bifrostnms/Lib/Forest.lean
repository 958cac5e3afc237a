import Mathlib.Data.Set.Card

/-!
# Forests by parent links

A parent function gives every element the one it hangs under, if any. What is above an
element is found by following it a number of times (`nthParent`); the links are acyclic
if nothing is above itself. In that case the elements above `a` are as many as the steps
that can be made from it, so a bound on their number is an equation about one walk
(`encard_ancestors_lt_iff`).

An element that is hung under another one takes everything below it along. A walk in the
new forest is a walk in the old one until it first comes to that element
(`nthParent_update`). So no cycle arises unless the new parent was below it
(`AcyclicLinks.update`), and the depths add up (`nthParent_update_eq_none`).
-/

namespace Bifrostnms.Lib

variable {α : Type*}

/-- What is found after so many steps. -/
def nthParent (parent : α → Option α) : ℕ → α → Option α
  | 0, a => some a
  | n + 1, a => (parent a).bind (nthParent parent n)

/-- `a` is above `b`. -/
def IsAncestor (parent : α → Option α) (a b : α) : Prop :=
  ∃ n, nthParent parent (n + 1) b = some a

def AcyclicLinks (parent : α → Option α) : Prop := ∀ a, ¬IsAncestor parent a a

def ancestors (parent : α → Option α) (a : α) : Set α := {b | IsAncestor parent b a}

variable {parent : α → Option α} {a b : α}

theorem nthParent_add (m n : ℕ) :
    nthParent parent (m + n) a = (nthParent parent m a).bind (nthParent parent n) := by
  induction m generalizing a with
  | zero => rw [Nat.zero_add, nthParent, Option.bind_some]
  | succ m ih =>
    rw [Nat.succ_add, nthParent, nthParent, Option.bind_assoc]
    exact Option.bind_congr fun c _ => ih

theorem nthParent_of_add {m n : ℕ} (h : nthParent parent (m + n) a = some b) :
    ∃ c, nthParent parent m a = some c ∧ nthParent parent n c = some b := by
  rw [nthParent_add] at h
  exact Option.bind_eq_some_iff.mp h

/-- Once a walk has ended, it stays so. -/
theorem nthParent_eq_none_of_le {m n : ℕ} (h : nthParent parent m a = none) (hle : m ≤ n) :
    nthParent parent n a = none := by
  obtain ⟨k, rfl⟩ := Nat.exists_eq_add_of_le hle
  rw [nthParent_add, h, Option.bind_none]

theorem isAncestor_of_nthParent {n : ℕ} (h : nthParent parent n b = some a) (hn : 0 < n) :
    IsAncestor parent a b := by
  obtain ⟨m, rfl⟩ : ∃ m, n = m + 1 := ⟨n - 1, by omega⟩
  exact ⟨m, h⟩

/-- The last step to an ancestor. -/
theorem IsAncestor.exists_child (h : IsAncestor parent a b) : ∃ c, parent c = some a := by
  obtain ⟨n, hn⟩ := h
  obtain ⟨c, -, hc⟩ := nthParent_of_add hn
  rw [nthParent] at hc
  obtain ⟨d, hd, hlast⟩ := Option.bind_eq_some_iff.mp hc
  obtain rfl := Option.some.inj hlast
  exact ⟨c, hd⟩

/-! ## Counting ancestors -/

theorem AcyclicLinks.nthParent_inj (h : AcyclicLinks parent) {m n : ℕ}
    (hm : nthParent parent m a = some b) (hn : nthParent parent n a = some b) : m = n := by
  by_contra hne
  wlog hlt : m < n generalizing m n
  · exact this hn hm (Ne.symm hne) (by omega)
  obtain ⟨k, rfl⟩ := Nat.exists_eq_add_of_lt hlt
  rw [Nat.add_assoc, nthParent_add, hm, Option.bind_some] at hn
  exact h b ⟨k, hn⟩

theorem some_image_ancestors :
    some '' ancestors parent a = {o | o.isSome ∧ ∃ n, nthParent parent (n + 1) a = o} := by
  ext o
  constructor
  · rintro ⟨b, ⟨n, hn⟩, rfl⟩
    exact ⟨rfl, n, hn⟩
  · rintro ⟨hsome, n, hn⟩
    obtain ⟨b, rfl⟩ := Option.isSome_iff_exists.mp hsome
    exact ⟨b, ⟨n, hn⟩, rfl⟩

/-- There are fewer than `n` ancestors exactly if a walk of `n` steps ends before. -/
theorem encard_ancestors_lt_iff (h : AcyclicLinks parent) (n : ℕ) :
    (ancestors parent a).encard < n ↔ nthParent parent n a = none := by
  -- The walk is a function of the number of steps, and one-to-one as far as it goes.
  let walk : ℕ → Option α := fun i => nthParent parent (i + 1) a
  have hcard : (some '' ancestors parent a).encard = (ancestors parent a).encard :=
    (Option.some_injective α).encard_image _
  have hrange (k : ℕ) : (Set.Iio k).encard = k := by
    rw [← Finset.coe_range, Set.encard_coe_eq_coe_finsetCard, Finset.card_range]
  rw [← hcard]
  constructor
  · intro hlt
    by_contra hsome
    have hwalk : ∀ i < n, (walk i).isSome := by
      intro i hi
      rw [Option.isSome_iff_ne_none]
      exact fun hnone => hsome (nthParent_eq_none_of_le hnone hi)
    have hinj : Set.InjOn walk (Set.Iio n) := by
      intro i hi j _ hij
      obtain ⟨b, hb⟩ := Option.isSome_iff_exists.mp (hwalk i hi)
      have heq := h.nthParent_inj hb (hij.symm.trans hb)
      omega
    have hsub : walk '' Set.Iio n ⊆ some '' ancestors parent a := by
      rw [some_image_ancestors]
      rintro _ ⟨i, hi, rfl⟩
      exact ⟨hwalk i hi, i, rfl⟩
    have hle := Set.encard_le_encard hsub
    rw [hinj.encard_image, hrange] at hle
    exact absurd hlt (not_lt.mpr hle)
  · intro hnone
    obtain ⟨m, rfl⟩ : ∃ m, n = m + 1 := by
      cases n with
      | zero => cases hnone
      | succ m => exact ⟨m, rfl⟩
    have hsub : some '' ancestors parent a ⊆ walk '' Set.Iio m := by
      rw [some_image_ancestors]
      rintro o ⟨hsome, i, rfl⟩
      refine ⟨i, ?_, rfl⟩
      by_contra hge
      rw [nthParent_eq_none_of_le hnone (by simp at hge; omega)] at hsome
      cases hsome
    calc (some '' ancestors parent a).encard
        ≤ (walk '' Set.Iio m).encard := Set.encard_le_encard hsub
      _ ≤ (Set.Iio m).encard := Set.encard_image_le _ _
      _ = m := hrange m
      _ < (m + 1 : ℕ) := by exact_mod_cast Nat.lt_succ_self m

/-! ## Hanging an element under another one -/

section Update

variable [DecidableEq α] {g : α} {p : Option α}

/-- A walk after `g` was hung under `p` is one before, or it comes to `g`. -/
theorem nthParent_update {n : ℕ} (h : nthParent (Function.update parent g p) n a = some b) :
    nthParent parent n a = some b ∨ ∃ m < n, nthParent parent m a = some g ∧
      nthParent (Function.update parent g p) (n - m) g = some b := by
  induction n generalizing a with
  | zero => exact .inl h
  | succ n ih =>
    by_cases ha : a = g
    · subst ha
      exact .inr ⟨0, Nat.succ_pos n, rfl, h⟩
    · rw [nthParent, Function.update_of_ne ha] at h
      obtain ⟨c, hc, hrest⟩ := Option.bind_eq_some_iff.mp h
      rcases ih hrest with hold | ⟨m, hm, hg, hafter⟩
      · exact .inl (by rw [nthParent, hc, Option.bind_some, hold])
      · refine .inr ⟨m + 1, by omega, ?_, ?_⟩
        · rw [nthParent, hc, Option.bind_some, hg]
        · rwa [Nat.succ_sub_succ]

/-- Above the new parent nothing changes. -/
theorem nthParent_update_of_not_below (hp : ∀ q ∈ p, q ≠ g ∧ ¬IsAncestor parent g q)
    {q : α} (hq : q ∈ p) {n : ℕ} (h : nthParent (Function.update parent g p) n q = some b) :
    nthParent parent n q = some b := by
  rcases nthParent_update h with hold | ⟨m, -, hm, -⟩
  · exact hold
  · exfalso
    obtain ⟨hne, hbelow⟩ := hp q hq
    cases m with
    | zero => exact hne (Option.some.inj hm)
    | succ m => exact hbelow ⟨m, hm⟩

/-- The links stay acyclic if `g` is hung under nothing that is below it. -/
theorem AcyclicLinks.update (h : AcyclicLinks parent)
    (hp : ∀ q ∈ p, q ≠ g ∧ ¬IsAncestor parent g q) : AcyclicLinks (Function.update parent g p) := by
  -- A cycle at `g` begins with the new link, and closes above the new parent.
  have hg : ¬IsAncestor (Function.update parent g p) g g := by
    rintro ⟨n, hn⟩
    rw [nthParent, Function.update_self] at hn
    obtain ⟨q, hq, hback⟩ := Option.bind_eq_some_iff.mp hn
    have hold := nthParent_update_of_not_below hp hq hback
    obtain ⟨hne, hbelow⟩ := hp q hq
    cases n with
    | zero => exact hne (Option.some.inj hold)
    | succ n => exact hbelow ⟨n, hold⟩
  rintro a ⟨n, hn⟩
  rcases nthParent_update hn with hold | ⟨m, hm, hbefore, hafter⟩
  · exact h a ⟨n, hold⟩
  · -- The walk comes to `g` for the first time before, so it is the same walk.
    refine hg (isAncestor_of_nthParent (n := n + 1 - m + m) ?_ (by omega))
    rw [nthParent_add, hafter, Option.bind_some]
    obtain ⟨c, hc, -⟩ := nthParent_of_add (show nthParent _ (m + (n + 1 - m)) a = some a by
      rwa [Nat.add_sub_cancel' (Nat.le_of_lt hm)])
    rcases nthParent_update hc with hold | ⟨k, hk, hearlier, -⟩
    · obtain rfl := Option.some.inj (hbefore.symm.trans hold)
      exact hc
    · exact absurd (h.nthParent_inj hbefore hearlier) (by omega)

/-- The depth of what is below `g`: the steps to `g`, the new link and the walk above. -/
theorem nthParent_update_eq_none {n : ℕ} (hold : nthParent parent n a = none)
    (hp : ∀ q ∈ p, q ≠ g ∧ ¬IsAncestor parent g q)
    (hdepth : ∀ m, nthParent parent m a = some g → m < n ∧
      ∀ q ∈ p, nthParent parent (n - m - 1) q = none) :
    nthParent (Function.update parent g p) n a = none := by
  rw [Option.eq_none_iff_forall_ne_some]
  intro b hb
  rcases nthParent_update hb with hsame | ⟨m, hm, hg, hafter⟩
  · rw [hold] at hsame
    cases hsame
  · obtain ⟨k, hk⟩ : ∃ k, n - m = k + 1 := ⟨n - m - 1, by omega⟩
    rw [hk, nthParent, Function.update_self] at hafter
    obtain ⟨q, hq, hrest⟩ := Option.bind_eq_some_iff.mp hafter
    have hnone := (hdepth m hg).2 q hq
    rw [hk, Nat.add_sub_cancel, nthParent_update_of_not_below hp hq hrest] at hnone
    cases hnone

end Update

end Bifrostnms.Lib
