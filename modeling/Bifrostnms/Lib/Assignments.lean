import Mathlib.Data.List.Basic
import Mathlib.Logic.Function.Basic

/-!
# Assignments to a map, one after the other

A loop that sets `key e` to `value e` for every entry `e` of a list. A later
assignment to a key hides an earlier one, so the order of the entries is
irrelevant exactly if entries with one key have one value
(`assignAll_perm_iff`).
-/

namespace Bifrostnms.Lib

variable {ι α β : Type*} [DecidableEq α] {key : ι → α} {value : ι → β}

def assignAll (key : ι → α) (value : ι → β) (f : α → β) (l : List ι) : α → β :=
  l.foldl (fun f e => Function.update f (key e) (value e)) f

/-- The last assignment is seen. -/
theorem assignAll_concat_self (f : α → β) (l : List ι) (e : ι) :
    assignAll key value f (l ++ [e]) (key e) = value e := by
  unfold assignAll
  rw [List.foldl_append, List.foldl_cons, List.foldl_nil, Function.update_self]

/-- Entries with one key have one value. -/
def Agree (key : ι → α) (value : ι → β) (l : List ι) : Prop :=
  ∀ a ∈ l, ∀ b ∈ l, key a = key b → value a = value b

instance [DecidableEq β] (l : List ι) : Decidable (Agree key value l) :=
  inferInstanceAs (Decidable (∀ a ∈ l, ∀ b ∈ l, key a = key b → value a = value b))

theorem assignAll_eq_of_perm {l l' : List ι} (hperm : l.Perm l') (h : Agree key value l)
    (f : α → β) : assignAll key value f l = assignAll key value f l' := by
  refine hperm.foldl_eq' ?_ f
  intro a ha b hb g
  by_cases hkey : key a = key b
  · rw [hkey, h a ha b hb hkey]
  · exact Function.update_comm hkey _ _ _

theorem assignAll_perm_iff (f : α → β) (l : List ι) :
    (∀ first second, first.Perm l → second.Perm l →
      assignAll key value f first = assignAll key value f second) ↔ Agree key value l := by
  classical
  constructor
  · intro h a ha b hb hkey
    -- Each of the two entries can be the last one.
    have hlast (e : ι) (he : e ∈ l) : (l.erase e ++ [e]).Perm l :=
      List.perm_append_comm.trans (List.perm_cons_erase he).symm
    have heq := congrFun (h _ _ (hlast a ha) (hlast b hb)) (key a)
    rwa [assignAll_concat_self, hkey, assignAll_concat_self] at heq
  · intro h first second hfirst hsecond
    rw [← assignAll_eq_of_perm hfirst.symm h, ← assignAll_eq_of_perm hsecond.symm h]

end Bifrostnms.Lib
