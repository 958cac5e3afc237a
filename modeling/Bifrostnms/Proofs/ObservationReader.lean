import Bifrostnms.Agent.Probe
import Bifrostnms.Backend.ObservationReader

/-!
# Reading what the agent writes

An optional field of the wire protocol is a pointer on the agent, and is read back
as what it points to (`readOptional_pointer`). The result of an observation is read
through a union of five models, one for each probe type. A document with the fields
of one of them is read as a result of that type (`readUnion_typed`): another model
may accept it too, but with fewer fields.

What a probe has to see to is that a completed result is one that the model of its type
accepts (`ResultAccepted`).
-/

namespace Bifrostnms.Proofs

open Bifrostnms.Lib Bifrostnms.Backend Bifrostnms.Agent

/-! ## Pointers -/

section Pointers

variable {α β : Type} {read : Document → Option β} {write : α → Document} {value : α → β}
  {j : Document}

theorem readOptional_pointer (name : String) (o : Option α) (hnull : read .null = none)
    (hread : ∀ a, read (write a) = some (value a))
    (h : j.members.lookup name = some (pointer write o)) :
    readOptional read j name = some (o.map value) := by
  cases o with
  | none => exact readOptional_of_null name h
  | some a => exact readOptional_of_lookup name hnull h (hread a)

theorem readOptional_float (name : String) (o : Option Decimal)
    (h : j.members.lookup name = some (pointer (fun d => .num (.float64 d)) o)) :
    readOptional readFloat j name = some (o.map .finite) :=
  readOptional_pointer name o rfl (fun _ => rfl) h

theorem readOptional_int (name : String) (o : Option ℤ)
    (h : j.members.lookup name = some (pointer (fun n => .num (.int n)) o)) :
    readOptional readInt j name = some o := by
  have hread : readOptional readInt j name = some (o.map id) :=
    readOptional_pointer name o rfl (fun _ => rfl) h
  rwa [Option.map_id] at hread

theorem readOptional_bool (name : String) (o : Option Bool)
    (h : j.members.lookup name = some (pointer .bool o)) :
    readOptional readBool j name = some o := by
  have hread : readOptional readBool j name = some (o.map id) :=
    readOptional_pointer name o rfl (fun _ => rfl) h
  rwa [Option.map_id] at hread

theorem readOptional_nullable (name : String) (o : Option String)
    (h : j.members.lookup name = some (Agent.nullable o)) :
    readOptional readStr j name = some o := by
  cases o with
  | none => exact readOptional_of_null name h
  | some s => exact readOptional_of_lookup name rfl h rfl

end Pointers

/-! ## The union of results -/

/-- A document with the fields of a probe type that its model accepts. -/
def TypedDocument (t : ProbeType) (j : Document) : Prop :=
  j.members.map Prod.fst = resultFields t ∧ (readResult j t).isSome

theorem isSome_lookup {α : Type} {kvs : List (String × α)} {name : String} :
    (kvs.lookup name).isSome = decide (name ∈ kvs.map Prod.fst) := by
  induction kvs with
  | nil => rfl
  | cons kv kvs ih =>
    obtain ⟨k, v⟩ := kv
    rw [List.lookup_cons]
    by_cases hname : name = k
    · simp [hname]
    · rw [beq_false_of_ne hname]
      simp [ih, hname]

/-- No other model has as many of the fields. -/
theorem fieldsSet_lt {t t' : ProbeType} {j : Document}
    (h : j.members.map Prod.fst = resultFields t) (hne : t' ≠ t) :
    fieldsSet j t' < fieldsSet j t := by
  simp only [fieldsSet, isSome_lookup, h]
  revert hne
  cases t <;> cases t' <;> decide

/-- The member with the most fields wins, wherever it stands. -/
theorem foldl_betterMember {best member : ℕ × Backend.ObservationResult}
    {members : List (ℕ × Backend.ObservationResult)} (hmem : best ∈ member :: members)
    (hbest : ∀ m ∈ member :: members, m = best ∨ m.1 < best.1) :
    members.foldl betterMember member = best := by
  induction members generalizing member with
  | nil => exact (List.mem_singleton.mp hmem).symm
  | cons next rest ih =>
    have hmember := hbest member List.mem_cons_self
    have hnext := hbest next (List.mem_cons_of_mem _ List.mem_cons_self)
    rw [List.foldl_cons]
    refine ih ?_ fun m hm => ?_
    · unfold betterMember
      rcases List.mem_cons.mp hmem with rfl | hmem
      · have hstays : ¬best.1 < next.1 := by
          rcases hnext with rfl | hlt <;> omega
        rw [if_neg hstays]
        exact List.mem_cons_self
      · rcases List.mem_cons.mp hmem with rfl | hmem
        · split_ifs with hlt
          · exact List.mem_cons_self
          · rcases hmember with rfl | hlt'
            · exact List.mem_cons_self
            · exact (hlt hlt').elim
        · exact List.mem_cons_of_mem _ hmem
    · rcases List.mem_cons.mp hm with rfl | hm
      · unfold betterMember
        split_ifs
        · exact hnext
        · exact hmember
      · exact hbest m (List.mem_cons_of_mem _ (List.mem_cons_of_mem _ hm))

theorem readUnion_typed {t : ProbeType} {j : Document} {r : Backend.ObservationResult}
    (hfields : j.members.map Prod.fst = resultFields t)
    (hread : readResult j t = some r) : readUnion j = some r := by
  have hmem : (fieldsSet j t, r) ∈ [ProbeType.icmp, .http, .tcp, .dns, .tls].filterMap
      fun t => (readResult j t).map fun r => (fieldsSet j t, r) := by
    refine List.mem_filterMap.mpr ⟨t, by cases t <;> decide, ?_⟩
    rw [hread, Option.map_some]
  have hbest : ∀ m ∈ [ProbeType.icmp, .http, .tcp, .dns, .tls].filterMap
      fun t => (readResult j t).map fun r => (fieldsSet j t, r),
      m = (fieldsSet j t, r) ∨ m.1 < fieldsSet j t := by
    intro m hm
    obtain ⟨t', -, hm⟩ := List.mem_filterMap.mp hm
    obtain ⟨r', hread', rfl⟩ := Option.map_eq_some_iff.mp hm
    by_cases hne : t' = t
    · subst hne
      rw [hread, Option.some.injEq] at hread'
      exact .inl (by rw [hread'])
    · exact .inr (fieldsSet_lt hfields hne)
  unfold readUnion
  split
  · next hnil =>
      rw [hnil] at hmem
      cases hmem
  · next hcons =>
      rw [hcons] at hmem hbest
      rw [foldl_betterMember hmem hbest]

theorem readResult_valid {t : ProbeType} {j : Document} {r : Backend.ObservationResult}
    (h : readResult j t = some r) : r.valid = true ∧ r.probeType = t := by
  cases t <;> obtain ⟨r, hr, rfl⟩ := Option.map_eq_some_iff.mp h <;>
    exact ⟨(Option.filter_eq_some_iff.mp hr).2, rfl⟩

/-! ## Results of probes -/

/-- A completed result is one that the control plane reads. -/
def ResultAccepted {α : Type} (read : Document → Option α) (r : Agent.Result) : Prop :=
  r.executionStatus = executionCompleted → ∃ j, r.probeResult = some j ∧ (read j).isSome

section ResultAccepted

variable {α : Type} {read : Document → Option α} {r : Agent.Result}

theorem resultAccepted_of_failed (h : r.executionStatus = executionFailed) :
    ResultAccepted read r := by
  intro hcompleted
  rw [h] at hcompleted
  exact absurd hcompleted (by decide)

theorem resultAccepted_iff {j : Document} (hstatus : r.executionStatus = executionCompleted)
    (hresult : r.probeResult = some j) : ResultAccepted read r ↔ (read j).isSome := by
  rw [ResultAccepted, hresult]
  constructor
  · intro h
    obtain ⟨j', hj, hread⟩ := h hstatus
    rwa [Option.some.inj hj]
  · exact fun h _ => ⟨j, rfl, h⟩

end ResultAccepted

theorem durationMs_neg (elapsed : ℕ) : (durationMs elapsed).neg = false := by
  show decide ((elapsed : ℤ) < 0) = false
  exact decide_eq_false (by omega)

theorem all_nonNegative {o : Option Decimal} (h : ∀ d ∈ o, d.neg = false) :
    (o.map Double.finite).all nonNegative = true := by
  cases o with
  | none => rfl
  | some d => exact nonNegative_finite (h d rfl)

end Bifrostnms.Proofs
