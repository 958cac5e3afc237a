import Bifrostnms.Backend.GroupHierarchy
import Bifrostnms.Lib.Runs

/-!
# Group hierarchies

One request at a time, the hierarchies stay acyclic and inside their realms, and the walk
of the parent check is exact (`walk_ok_iff`): it looks at the new parent and at 63 rows
above it, so it accepts the parents with at most 63 ancestors, as long as the moved group
is not one of them.

The check is on the rows it has read, and nothing keeps them until the group is saved. Two
moves at the same time can each hang a group under the other (`moves_form_cycle`). If the
check would still accept when a move is saved, no cycle arises (`moves_acyclic`).

The depth is only bounded for the group that is moved. The groups below it come along
unseen, and the creation of a group checks nothing (`depth_exceeded`). If the new depths are
within the bound at every step, they stay there (`depth_bounded`).
-/

namespace Bifrostnms.Proofs

open Bifrostnms.Lib Bifrostnms.Backend

/-! ## Parent links -/

/-- The parent of a group, by their ids. -/
def parentOf (t : Hierarchy) (id : Uuid) : Option Uuid := (t.find? id).bind (·.parentId)

section Links

variable {t : Hierarchy} {r : GroupRow} {id : Uuid} {parentId : Option Uuid}

theorem parentOf_row (h : r ∈ t.rows) : parentOf t r.id = r.parentId := by
  rw [parentOf, Table.find?_eq_some.mpr ⟨h, rfl⟩, Option.bind_some]

theorem row_of_parentOf {p : Uuid} (h : parentOf t id = some p) :
    ∃ r ∈ t.rows, r.id = id ∧ r.parentId = some p := by
  obtain ⟨r, hfind, hp⟩ := Option.bind_eq_some_iff.mp h
  obtain ⟨hr, hid⟩ := Table.find?_eq_some.mp hfind
  exact ⟨r, hr, hid, hp⟩

theorem parentOf_setParent (hrow : ∀ p ∈ parentId, t.has id = true) :
    parentOf (t.setParent id parentId) = Function.update (parentOf t) id parentId := by
  funext id'
  rw [parentOf, Hierarchy.setParent, Table.find?_update]
  by_cases hid : id' = id
  · subst hid
    rw [Function.update_self]
    cases hfind : t.find? id' with
    | some r =>
      rw [Option.map_some, Option.bind_some, if_pos (Table.find?_eq_some.mp hfind).2]
    | none =>
      rw [Option.map_none, Option.bind_none]
      cases parentId with
      | none => rfl
      | some p =>
        rw [Table.find?_eq_none, hrow p rfl] at hfind
        cases hfind
  · rw [Function.update_of_ne hid, parentOf]
    cases hfind : t.find? id' with
    | none => rfl
    | some r =>
      have hkey := (Table.find?_eq_some.mp hfind).2
      rw [Option.map_some, Option.bind_some, Option.bind_some, if_neg (hkey ▸ hid)]

theorem parentOf_archive : parentOf (t.archive id) = parentOf t := by
  funext id'
  rw [parentOf, Hierarchy.archive, Table.find?_update, parentOf]
  cases t.find? id' with
  | none => rfl
  | some r =>
    rw [Option.map_some, Option.bind_some, Option.bind_some]
    split_ifs <;> rfl

theorem parentOf_insert (hnew : t.has r.id = false) :
    parentOf (t.insert r) = Function.update (parentOf t) r.id r.parentId := by
  funext id
  by_cases hid : id = r.id
  · subst hid
    rw [Function.update_self, parentOf_row (Table.mem_insert.mpr (.inr ⟨rfl, hnew⟩))]
  · rw [Function.update_of_ne hid, parentOf, parentOf]
    cases hfind : t.find? id with
    | some r' => rw [Table.find?_insert_of_some hfind]
    | none =>
      cases hafter : (t.insert r).find? id with
      | none => rfl
      | some r' =>
        rcases Table.find?_of_find?_insert hafter with hbefore | rfl
        · rw [hfind] at hbefore
          cases hbefore
        · exact absurd (Table.find?_eq_some.mp hafter).2.symm hid

end Links

/-! ## Sound hierarchies -/

/-- Parents exist in the realm of their groups, and nothing is above itself. -/
structure SoundHierarchy (t : Hierarchy) : Prop where
  closed : ∀ r ∈ t.rows, ∀ p ∈ r.parentId, ∃ q ∈ t.rows, q.id = p ∧ q.realmId = r.realmId
  acyclic : AcyclicLinks (parentOf t)

namespace SoundHierarchy

variable {t : Hierarchy} {g p r : GroupRow}

theorem empty : SoundHierarchy {} where
  closed := fun r hr => by cases hr
  acyclic := by
    rintro a ⟨n, hn⟩
    cases hn

/-- A new id is above nothing. -/
theorem not_isAncestor_new (h : SoundHierarchy t) {id q : Uuid} (hnew : t.has id = false) :
    ¬IsAncestor (parentOf t) id q := by
  intro hancestor
  obtain ⟨c, hc⟩ := hancestor.exists_child
  obtain ⟨r, hr, -, hparent⟩ := row_of_parentOf hc
  obtain ⟨row, hrow, hid, -⟩ := h.closed r hr id hparent
  rw [Table.has_eq_true.mpr ⟨row, hrow, hid⟩] at hnew
  cases hnew

theorem insert (h : SoundHierarchy t) (hnew : t.has r.id = false)
    (hparent : ∀ q ∈ r.parentId, ∃ row ∈ t.rows, row.id = q ∧ row.realmId = r.realmId) :
    SoundHierarchy (t.insert r) where
  closed := by
    intro r' hr' q hq
    rcases Table.mem_insert.mp hr' with hold | ⟨rfl, -⟩
    · obtain ⟨row, hrow, hid⟩ := h.closed r' hold q hq
      exact ⟨row, Table.mem_insert.mpr (.inl hrow), hid⟩
    · obtain ⟨row, hrow, hid⟩ := hparent q hq
      exact ⟨row, Table.mem_insert.mpr (.inl hrow), hid⟩
  acyclic := by
    rw [parentOf_insert hnew]
    refine h.acyclic.update fun q hq => ⟨?_, h.not_isAncestor_new hnew⟩
    rintro rfl
    obtain ⟨row, hrow, hid, -⟩ := hparent r.id hq
    rw [Table.has_eq_true.mpr ⟨row, hrow, hid⟩] at hnew
    cases hnew

/-- An update that keeps the realms, and whose parents are groups of them. -/
theorem closed_update {f : GroupRow → GroupRow} {hf : ∀ r, (f r).id = r.id}
    (hrealm : ∀ r, (f r).realmId = r.realmId) (hparent : ∀ r ∈ t.rows, ∀ p ∈ (f r).parentId,
      ∃ q ∈ t.rows, q.id = p ∧ q.realmId = r.realmId) :
    ∀ r ∈ (t.update f hf).rows, ∀ p ∈ r.parentId,
      ∃ q ∈ (t.update f hf).rows, q.id = p ∧ q.realmId = r.realmId := by
  intro r hr p hp
  obtain ⟨r', hr', rfl⟩ := Table.mem_update.mp hr
  obtain ⟨q, hq, rfl, hqrealm⟩ := hparent r' hr' p hp
  refine ⟨f q, Table.mem_update.mpr ⟨q, hq, rfl⟩, hf q, ?_⟩
  rw [hrealm, hrealm, hqrealm]

theorem archive (h : SoundHierarchy t) (id : Uuid) : SoundHierarchy (t.archive id) where
  closed := by
    refine closed_update (fun r => by split_ifs <;> rfl) fun r hr p hp => h.closed r hr p ?_
    split_ifs at hp <;> exact hp
  acyclic := by
    rw [parentOf_archive]
    exact h.acyclic

theorem setParent (h : SoundHierarchy t) {id : Uuid} {parentId : Option Uuid}
    (hparent : ∀ q ∈ parentId, ∃ g ∈ t.rows, g.id = id ∧
      ∃ p ∈ t.rows, p.id = q ∧ p.realmId = g.realmId)
    (hbelow : ∀ q ∈ parentId, q ≠ id ∧ ¬IsAncestor (parentOf t) id q) :
    SoundHierarchy (t.setParent id parentId) where
  closed := by
    refine closed_update (fun r => by split_ifs <;> rfl) fun r hr q hq => ?_
    by_cases hid : r.id = id
    · rw [if_pos hid] at hq
      obtain ⟨g, hg, hgid, hrow⟩ := hparent q hq
      rwa [Table.eq_of_key hr hg (hid.trans hgid.symm)]
    · rw [if_neg hid] at hq
      exact h.closed r hr q hq
  acyclic := by
    rw [parentOf_setParent]
    · exact h.acyclic.update hbelow
    · intro q hq
      obtain ⟨g, hg, hgid, -⟩ := hparent q hq
      exact Table.has_eq_true.mpr ⟨g, hg, hgid⟩

end SoundHierarchy

/-! ## The parent check -/

section Check

variable {kind : GroupKind} {t : Hierarchy} {g p c : GroupRow}

theorem isAncestor_iff {id q a : Uuid} (h : parentOf t id = some q) :
    IsAncestor (parentOf t) a id ↔ q = a ∨ IsAncestor (parentOf t) a q := by
  constructor
  · rintro ⟨n, hn⟩
    rw [nthParent, h, Option.bind_some] at hn
    cases n with
    | zero => exact .inl (Option.some.inj hn)
    | succ n => exact .inr ⟨n, hn⟩
  · rintro (rfl | ⟨n, hn⟩)
    · exact ⟨0, by rw [nthParent, h, Option.bind_some, nthParent]⟩
    · exact ⟨n + 1, by rw [nthParent, h, Option.bind_some, hn]⟩

/-- The walk of so many rounds accepts a row exactly if it comes to the top in fewer steps
and does not meet the group. -/
theorem walk_ok_iff (ht : SoundHierarchy t) (hc : c ∈ t.rows) (hrealm : c.realmId = g.realmId)
    (left : ℕ) : t.walk kind g left (some c) = .ok () ↔
      nthParent (parentOf t) left c.id = none ∧ ¬IsAncestor (parentOf t) g.id c.id := by
  induction left generalizing c with
  | zero =>
    refine iff_of_false (fun h => ?_) fun h => ?_
    · cases h
    · cases h.1
  | succ left ih =>
    have hparent := parentOf_row hc
    rw [Hierarchy.walk, climb, nthParent, hparent]
    cases hp : c.parentId with
    | none =>
      refine iff_of_true rfl ⟨rfl, ?_⟩
      rintro ⟨n, hn⟩
      rw [nthParent, hparent, hp] at hn
      cases hn
    | some q =>
      rw [isAncestor_iff (hparent.trans hp), Option.bind_some]
      dsimp only
      by_cases hq : q = g.id
      · rw [if_pos hq]
        refine iff_of_false (fun h => ?_) fun h => h.2 (.inl hq)
        cases h
      · obtain ⟨row, hrow, rfl, hrowRealm⟩ := ht.closed c hc q hp
        have hload : t.load g row.id = some row := by
          rw [Hierarchy.load, Table.find?_eq_some.mpr ⟨hrow, rfl⟩, Option.filter_some,
            if_pos (decide_eq_true (hrowRealm.trans hrealm))]
        rw [if_neg hq]
        dsimp only
        rw [hload, ih hrow (hrowRealm.trans hrealm), or_iff_right hq]

theorem requireParent_ok_iff : requireParent g p = .ok () ↔
    p.realmId = g.realmId ∧ g.archived = false ∧ p.archived = false ∧ p.id ≠ g.id := by
  unfold requireParent
  split_ifs with hrealm harchived hid
  · exact iff_of_false (fun h => by cases h) fun h => hrealm h.1
  · refine iff_of_false (fun h => by cases h) fun h => ?_
    rcases harchived with hg | hp
    · rw [h.2.1] at hg
      cases hg
    · rw [h.2.2.1] at hp
      cases hp
  · exact iff_of_false (fun h => by cases h) fun h => h.2.2.2 hid
  · rw [not_or, Bool.not_eq_true, Bool.not_eq_true] at harchived
    exact iff_of_true rfl ⟨not_not.mp hrealm, harchived.1, harchived.2, hid⟩

/-- What the check accepts. -/
structure AllowedParent (t : Hierarchy) (g p : GroupRow) : Prop where
  active : g.archived = false ∧ p.archived = false
  realm : p.realmId = g.realmId
  other : p.id ≠ g.id
  notBelow : ¬IsAncestor (parentOf t) g.id p.id
  depth : (ancestors (parentOf t) p.id).encard < 64

theorem assertGroupParent_ok_iff (ht : SoundHierarchy t) (hp : p ∈ t.rows) :
    assertGroupParent kind t g (some p) = .ok () ↔ AllowedParent t g p := by
  have hdepth := encard_ancestors_lt_iff (a := p.id) ht.acyclic 64
  rw [assertGroupParent]
  cases hrequire : requireParent g p with
  | error e =>
    refine iff_of_false (fun h => by cases h) fun h => ?_
    rw [requireParent_ok_iff.mpr ⟨h.realm, h.active.1, h.active.2, h.other⟩] at hrequire
    cases hrequire
  | ok _ =>
    obtain ⟨hrealm, hg, hpa, hother⟩ := requireParent_ok_iff.mp hrequire
    dsimp only
    rw [walk_ok_iff ht hp hrealm]
    constructor
    · rintro ⟨hnone, hbelow⟩
      exact ⟨⟨hg, hpa⟩, hrealm, hother, hbelow, hdepth.mpr hnone⟩
    · exact fun h => ⟨hdepth.mp h.depth, h.notBelow⟩

end Check

/-! ## One request at a time -/

section Requests

variable {kind : GroupKind} {t : Hierarchy} {g : GroupRow} {parent : Option GroupRow}
  {parentId : Option Uuid}

theorem loadParent_eq_some (h : t.loadParent parentId = some parent) :
    parent.map (·.id) = parentId ∧ ∀ p ∈ parent, p ∈ t.rows := by
  cases parentId with
  | none =>
    obtain rfl := Option.some.inj h
    exact ⟨rfl, fun p hp => by cases hp⟩
  | some id =>
    obtain ⟨p, hfind, rfl⟩ := Option.map_eq_some_iff.mp h
    obtain ⟨hp, rfl⟩ := Table.find?_eq_some.mp hfind
    refine ⟨rfl, fun p' hp' => ?_⟩
    obtain rfl := Option.some.inj hp'
    exact hp

/-- A move that is saved while the check accepts it. -/
theorem SoundHierarchy.move (ht : SoundHierarchy t) (hg : g ∈ t.rows)
    (hrows : ∀ p ∈ parent, p ∈ t.rows) (hok : assertGroupParent kind t g parent = .ok ()) :
    SoundHierarchy (t.setParent g.id (parent.map (·.id))) := by
  have hallowed : ∀ p ∈ parent, AllowedParent t g p := by
    rintro p rfl
    exact (assertGroupParent_ok_iff ht (hrows p rfl)).mp hok
  refine ht.setParent ?_ ?_
  · intro q hq
    obtain ⟨p, hp, rfl⟩ := Option.map_eq_some_iff.mp hq
    exact ⟨g, hg, rfl, p, hrows p hp, rfl, (hallowed p hp).realm⟩
  · intro q hq
    obtain ⟨p, hp, rfl⟩ := Option.map_eq_some_iff.mp hq
    exact ⟨(hallowed p hp).other, (hallowed p hp).notBelow⟩

theorem moveGroup_of_error {e : GroupError} (h : (moveGroup kind t g parent).2 = .error e) :
    (moveGroup kind t g parent).1 = t := by
  unfold moveGroup at h ⊢
  cases hcheck : assertGroupParent kind t g parent with
  | error e' => rfl
  | ok _ =>
    rw [hcheck] at h
    cases h

theorem SoundHierarchy.moveGroup (ht : SoundHierarchy t) (hg : g ∈ t.rows)
    (hrows : ∀ p ∈ parent, p ∈ t.rows) : SoundHierarchy (moveGroup kind t g parent).1 := by
  unfold Backend.moveGroup
  cases hcheck : assertGroupParent kind t g parent with
  | error e => exact ht
  | ok _ => exact ht.move hg hrows hcheck

/-- A creation adds a group, or nothing. -/
theorem createGroup_cases (t : Hierarchy) (id realmId : Uuid) (parentId : Option Uuid) :
    (createGroup t id realmId parentId).1 = t ∨ (createGroup t id realmId parentId).1 =
          t.insert { id := id, realmId := realmId, parentId := parentId } ∧
        (createGroup t id realmId parentId).2 = .ok () ∧
        ∀ q ∈ parentId, ∃ p ∈ t.rows, p.id = q ∧ p.realmId = realmId := by
  cases parentId with
  | none => exact .inr ⟨rfl, rfl, fun q hq => by cases hq⟩
  | some q =>
    rw [createGroup]
    cases hfind : (t.find? q).filter fun p => p.realmId = realmId && !p.archived with
    | none => exact .inl rfl
    | some p =>
      obtain ⟨hrow, hp⟩ := Option.filter_eq_some_iff.mp hfind
      obtain ⟨hmem, rfl⟩ := Table.find?_eq_some.mp hrow
      rw [Bool.and_eq_true, decide_eq_true_eq] at hp
      refine .inr ⟨rfl, rfl, fun q hq => ?_⟩
      obtain rfl := Option.some.inj hq
      exact ⟨p, hmem, rfl, hp.1⟩

theorem SoundHierarchy.createGroup (ht : SoundHierarchy t) {id : Uuid}
    (hnew : t.has id = false) (realmId : Uuid) (parentId : Option Uuid) :
    SoundHierarchy (createGroup t id realmId parentId).1 := by
  rcases createGroup_cases t id realmId parentId with hsame | ⟨hinsert, -, hparent⟩
  · rwa [hsame]
  · rw [hinsert]
    exact ht.insert hnew hparent

end Requests

/-- A move is of the groups that are stored. -/
theorem move_step {s s' : Hierarchies} {kind : GroupKind} {groupId : Uuid}
    {parentId : Option Uuid} (h : s.step (.move kind groupId parentId) = some s') :
    ∃ g parent, (s kind).find? groupId = some g ∧ (s kind).loadParent parentId = some parent ∧
      s' = Function.update s kind (moveGroup kind (s kind) g parent).1 := by
  rw [Hierarchies.step] at h
  cases hg : (s kind).find? groupId with
  | none =>
    rw [hg] at h
    cases h
  | some g =>
    cases hp : (s kind).loadParent parentId with
    | none =>
      rw [hg, hp] at h
      cases h
    | some parent =>
      rw [hg, hp] at h
      exact ⟨g, parent, rfl, rfl, (Option.some.inj h).symm⟩

theorem sound_update {s : Hierarchies} (hs : ∀ k, SoundHierarchy (s k)) {kind : GroupKind}
    {t : Hierarchy} (ht : SoundHierarchy t) (k : GroupKind) :
    SoundHierarchy (Function.update s kind t k) :=
  (Function.forall_update_iff s fun _ => SoundHierarchy).mpr ⟨ht, fun k _ => hs k⟩ k

theorem hierarchies_step {s s' : Hierarchies} {e : GroupEvent}
    (hs : ∀ k, SoundHierarchy (s k)) (hstep : s.step e = some s') : ∀ k, SoundHierarchy (s' k) := by
  cases e with
  | create kind id realmId parentId =>
    rw [Hierarchies.step] at hstep
    split_ifs at hstep with hnew
    obtain rfl := Option.some.inj hstep
    rw [Bool.not_eq_true] at hnew
    exact sound_update hs ((hs kind).createGroup hnew realmId parentId)
  | move kind groupId parentId =>
    obtain ⟨g, parent, hg, hparent, rfl⟩ := move_step hstep
    exact sound_update hs ((hs kind).moveGroup (Table.find?_eq_some.mp hg).1
      (loadParent_eq_some hparent).2)
  | archive kind id =>
    obtain rfl := Option.some.inj hstep
    exact sound_update hs ((hs kind).archive id)

theorem sound_of_run {events : List GroupEvent} {s : Hierarchies}
    (hrun : runSteps Hierarchies.step events (fun _ => {}) = some s) (kind : GroupKind) :
    SoundHierarchy (s kind) :=
  runSteps_preserves (P := fun s => ∀ k, SoundHierarchy (s k)) hierarchies_step
    (fun _ => .empty) hrun kind

/-- After any creations, moves and archivings, one at a time: no cycle, parents in the
realm of their groups, an exact check, and rejected moves change nothing. -/
theorem hierarchies_exact {events : List GroupEvent} {s : Hierarchies}
    (hrun : runSteps Hierarchies.step events (fun _ => {}) = some s) (kind : GroupKind) :
    AcyclicLinks (parentOf (s kind)) ∧ (∀ g ∈ (s kind).rows, ∀ id ∈ g.parentId,
        ∃ p ∈ (s kind).rows, p.id = id ∧ p.realmId = g.realmId) ∧
      (∀ g ∈ (s kind).rows, ∀ p ∈ (s kind).rows,
        assertGroupParent kind (s kind) g (some p) = .ok () ↔ AllowedParent (s kind) g p) ∧
      ∀ g ∈ (s kind).rows, ∀ parent e, (moveGroup kind (s kind) g parent).2 = .error e →
        (moveGroup kind (s kind) g parent).1 = s kind := by
  have hs := sound_of_run hrun kind
  exact ⟨hs.acyclic, hs.closed, fun g _ p hp => assertGroupParent_ok_iff hs hp,
    fun g _ parent e => moveGroup_of_error⟩

/-- Three groups, of which one is moved under another and one is archived. -/
def groupsMoved : List GroupEvent :=
  [.create .agent (.ofByte 1) (.ofByte 9) none, .create .agent (.ofByte 2) (.ofByte 9) none,
    .create .agent (.ofByte 3) (.ofByte 9) (some (.ofByte 2)),
    .move .agent (.ofByte 2) (some (.ofByte 1)), .archive .agent (.ofByte 3)]

theorem hierarchies_exact_moved : ∃ s,
    runSteps Hierarchies.step groupsMoved (fun _ => {}) = some s ∧
      parentOf (s .agent) (.ofByte 2) = some (.ofByte 1) ∧ AcyclicLinks (parentOf (s .agent)) ∧
      ∀ g ∈ (s .agent).rows, ∀ p ∈ (s .agent).rows,
        assertGroupParent .agent (s .agent) g (some p) = .ok () ↔ AllowedParent (s .agent) g p := by
  obtain ⟨s, hrun, hmoved⟩ := (Option.any_eq_true _ _).mp
    (show (runSteps Hierarchies.step groupsMoved (fun _ => {})).any
      (fun s => parentOf (s .agent) (.ofByte 2) == some (.ofByte 1)) = true by decide +kernel)
  have hexact := hierarchies_exact hrun .agent
  exact ⟨s, hrun, beq_iff_eq.mp hmoved, hexact.1, hexact.2.2.1⟩

/-! ## Moves at the same time -/

section Traffic

variable {call : MoveCall} {t : Hierarchy} {phase : MovePhase} {next : MovePhase × Hierarchy}

/-- Only the save changes the groups. -/
theorem moveCall_step_cases (h : call.step t phase = some next) :
    next.2 = t ∨ ∃ groupId parentId, phase = .save groupId parentId ∧
      next.2 = t.setParent groupId parentId := by
  cases phase with
  | loadGroup =>
    obtain ⟨g, -, rfl⟩ := Option.map_eq_some_iff.mp h
    exact .inl rfl
  | loadParent g =>
    obtain ⟨p, -, rfl⟩ := Option.map_eq_some_iff.mp h
    exact .inl rfl
  | walk g p left id =>
    obtain rfl := Option.some.inj h
    exact .inl rfl
  | save groupId parentId =>
    obtain rfl := Option.some.inj h
    exact .inr ⟨groupId, parentId, rfl, rfl⟩
  | returned outcome => cases h

/-- The check, made again on the rows as they are at the time of the save, accepts. -/
def acceptsAgain (s : GroupTraffic) : GroupTrafficEvent → Bool
  | .statement index =>
    match s.calls[index]? with
    | some (call, .save groupId (some parentId)) =>
      ((s.groups call.kind).find? groupId).any fun group =>
        ((s.groups call.kind).find? parentId).any fun parent =>
          (assertGroupParent call.kind (s.groups call.kind) group (some parent)).isOk
    | _ => true
  | _ => true

theorem isOk_unit {e : Except GroupError Unit} (h : e.isOk = true) : e = .ok () := by
  cases e with
  | error _ => cases h
  | ok _ => rfl

theorem SoundHierarchy.save (ht : SoundHierarchy t) {kind : GroupKind} {groupId parentId : Uuid}
    (hagain : ((t.find? groupId).any fun group => (t.find? parentId).any fun parent =>
      (assertGroupParent kind t group (some parent)).isOk) = true) :
    SoundHierarchy (t.setParent groupId (some parentId)) := by
  obtain ⟨g, hg, hrest⟩ := (Option.any_eq_true _ _).mp hagain
  obtain ⟨p, hp, hok⟩ := (Option.any_eq_true _ _).mp hrest
  obtain ⟨hgrow, rfl⟩ := Table.find?_eq_some.mp hg
  obtain ⟨hprow, rfl⟩ := Table.find?_eq_some.mp hp
  have hrows : ∀ q ∈ some p, q ∈ t.rows := by
    intro q hq
    obtain rfl := Option.some.inj hq
    exact hprow
  exact ht.move hgrow hrows (isOk_unit hok)

theorem traffic_step {s s' : GroupTraffic} {e : GroupTrafficEvent}
    (hs : ∀ k, SoundHierarchy (s.groups k)) (hagain : acceptsAgain s e = true)
    (hstep : s.step e = some s') : ∀ k, SoundHierarchy (s'.groups k) := by
  cases e with
  | call call =>
    obtain rfl := Option.some.inj hstep
    exact hs
  | create kind id realmId parentId =>
    obtain ⟨groups, hgroups, rfl⟩ := Option.map_eq_some_iff.mp hstep
    exact hierarchies_step hs hgroups
  | archive kind id =>
    rw [GroupTraffic.step] at hstep
    obtain ⟨groups, hgroups, rfl⟩ := Option.map_eq_some_iff.mp hstep
    exact hierarchies_step hs hgroups
  | statement index =>
    rw [GroupTraffic.step] at hstep
    rw [acceptsAgain] at hagain
    cases hget : s.calls[index]? with
    | none =>
      rw [hget] at hstep
      cases hstep
    | some x =>
      obtain ⟨call, phase⟩ := x
      rw [hget] at hstep hagain
      obtain ⟨next, hnext, rfl⟩ := Option.map_eq_some_iff.mp hstep
      refine sound_update hs ?_
      rcases moveCall_step_cases hnext with hsame | ⟨groupId, parentId, rfl, hsave⟩
      · rw [hsame]
        exact hs call.kind
      · rw [hsave]
        cases parentId with
        | none =>
          exact (hs call.kind).setParent (fun q hq => by cases hq) fun q hq => by cases hq
        | some parentId => exact (hs call.kind).save hagain

/-- If every save would pass the check again, no interleaving makes a cycle. -/
theorem moves_acyclic {events : List GroupTrafficEvent} {s : GroupTraffic}
    (hmeets : Meets GroupTraffic.step (fun s e => acceptsAgain s e = true) events {})
    (hrun : runSteps GroupTraffic.step events {} = some s) (kind : GroupKind) :
    AcyclicLinks (parentOf (s.groups kind)) :=
  (runSteps_invariant (P := fun s : GroupTraffic => ∀ k, SoundHierarchy (s.groups k))
    traffic_step (fun _ => .empty) hmeets hrun kind).acyclic

/-- Two groups, and moves of each under the other. -/
def movesAcross : List GroupTrafficEvent :=
  [.create .agent (.ofByte 1) (.ofByte 9) none, .create .agent (.ofByte 2) (.ofByte 9) none,
    .call ⟨.agent, .ofByte 1, some (.ofByte 2)⟩, .call ⟨.agent, .ofByte 2, some (.ofByte 1)⟩]

/-- One after the other, the second move is rejected. -/
theorem moves_acyclic_inTurn : ∃ s, Meets GroupTraffic.step (fun s e => acceptsAgain s e = true)
      (movesAcross ++ [0, 0, 0, 1, 1].map .statement) {} ∧
    runSteps GroupTraffic.step (movesAcross ++ [0, 0, 0, 1, 1].map .statement) {} = some s ∧
      parentOf (s.groups .agent) (.ofByte 1) = some (.ofByte 2) ∧
      AcyclicLinks (parentOf (s.groups .agent)) := by
  obtain ⟨s, hmeets, hrun, hmoved⟩ := exists_of_checkedRun
    (p := fun s => parentOf (s.groups .agent) (.ofByte 1) == some (.ofByte 2))
    (show (checkedRun GroupTraffic.step (fun s e => acceptsAgain s e = true)
      (movesAcross ++ [0, 0, 0, 1, 1].map .statement) {}).any _ = true by decide +kernel)
  exact ⟨s, hmeets, hrun, beq_iff_eq.mp hmoved, moves_acyclic hmeets hrun .agent⟩

/-- At the same time, both are saved, and each group is above itself. -/
theorem moves_form_cycle : ∃ s,
    runSteps GroupTraffic.step (movesAcross ++ [0, 1, 0, 1, 0, 1].map .statement) {} = some s ∧
      IsAncestor (parentOf (s.groups .agent)) (.ofByte 1) (.ofByte 1) ∧
      ¬AcyclicLinks (parentOf (s.groups .agent)) := by
  obtain ⟨s, hrun, hcycle⟩ := (Option.any_eq_true _ _).mp
    (show (runSteps GroupTraffic.step (movesAcross ++ [0, 1, 0, 1, 0, 1].map .statement) {}).any
      (fun s => nthParent (parentOf (s.groups .agent)) 2 (.ofByte 1) == some (.ofByte 1)) = true
      by decide +kernel)
  have habove : IsAncestor (parentOf (s.groups .agent)) (.ofByte 1) (.ofByte 1) :=
    ⟨1, beq_iff_eq.mp hcycle⟩
  exact ⟨s, hrun, habove, fun h => h _ habove⟩

end Traffic

/-! ## Depth -/

section Depth

variable {t : Hierarchy} {s s' : Hierarchies}

/-- Hung under `p`, nothing at `g` or below it gets more than 64 ancestors. -/
def depthBelow (t : Hierarchy) (g p : Uuid) : Bool :=
  t.rows.all fun r => (List.range 65).all fun n =>
    nthParent (parentOf t) n r.id != some g || (nthParent (parentOf t) (64 - n) p).isNone

/-- A creation has a parent with fewer than 64 ancestors, and a move has room for all that
is below the group, unless they are rejected. -/
def keepsDepth (s : Hierarchies) : GroupEvent → Bool
  | .create kind id realmId (some p) =>
    !(createGroup (s kind) id realmId (some p)).2.isOk ||
      (nthParent (parentOf (s kind)) 64 p).isNone
  | .move kind g (some p) =>
    ((s kind).find? g).all fun group => ((s kind).find? p).all fun parent =>
      !(moveGroup kind (s kind) group (some parent)).2.isOk || depthBelow (s kind) g p
  | _ => true

/-- Nothing has more than 64 ancestors, by the walk from it. -/
def DepthBounded (t : Hierarchy) : Prop := ∀ a, nthParent (parentOf t) 65 a = none

theorem DepthBounded.insert (hdepth : DepthBounded t) (ht : SoundHierarchy t) {r : GroupRow}
    (hnew : t.has r.id = false) (hrow : ∀ p ∈ r.parentId, t.has p = true)
    (hparent : ∀ p ∈ r.parentId, nthParent (parentOf t) 64 p = none) :
    DepthBounded (t.insert r) := by
  intro a
  rw [parentOf_insert hnew]
  refine nthParent_update_eq_none (hdepth a) ?_ fun m hm => ?_
  · intro q hq
    refine ⟨?_, ht.not_isAncestor_new hnew⟩
    rintro rfl
    rw [hrow _ hq] at hnew
    cases hnew
  · cases m with
    | zero => exact ⟨by omega, hparent⟩
    | succ m => exact absurd ⟨m, hm⟩ (ht.not_isAncestor_new hnew)

theorem DepthBounded.setParent (hdepth : DepthBounded t) {g : Uuid} {parentId : Option Uuid}
    (hrow : t.has g = true) (hbelow : ∀ q ∈ parentId, q ≠ g ∧ ¬IsAncestor (parentOf t) g q)
    (hkeeps : ∀ q ∈ parentId, depthBelow t g q = true) : DepthBounded (t.setParent g parentId) := by
  intro a
  rw [parentOf_setParent fun _ _ => hrow]
  refine nthParent_update_eq_none (hdepth a) hbelow fun m hm => ?_
  have hlt : m < 65 := by
    by_contra hge
    rw [nthParent_eq_none_of_le (hdepth a) (by omega)] at hm
    cases hm
  refine ⟨hlt, fun q hq => ?_⟩
  -- The walk from `a` to `g` begins at a group: at `g` itself, or where it has a parent.
  obtain ⟨r, hr, rfl⟩ : ∃ r ∈ t.rows, r.id = a := by
    cases m with
    | zero =>
      obtain rfl := Option.some.inj hm
      exact Table.has_eq_true.mp hrow
    | succ m =>
      obtain ⟨p, hp, -⟩ := Option.bind_eq_some_iff.mp hm
      obtain ⟨r, hr, hid, -⟩ := row_of_parentOf hp
      exact ⟨r, hr, hid⟩
  have hroom := List.all_eq_true.mp (List.all_eq_true.mp (hkeeps q hq) r hr) m
    (List.mem_range.mpr hlt)
  rw [hm, bne_self_eq_false, Bool.false_or, Option.isNone_iff_eq_none] at hroom
  rwa [show 65 - m - 1 = 64 - m by omega]

theorem DepthBounded.archive (hdepth : DepthBounded t) (id : Uuid) :
    DepthBounded (t.archive id) := by
  intro a
  rw [parentOf_archive]
  exact hdepth a

theorem depth_step {e : GroupEvent}
    (hs : ∀ k, SoundHierarchy (s k) ∧ DepthBounded (s k)) (hkeeps : keepsDepth s e = true)
    (hstep : s.step e = some s') : ∀ k, SoundHierarchy (s' k) ∧ DepthBounded (s' k) := by
  have hsound := hierarchies_step (fun k => (hs k).1) hstep
  suffices hdepth : ∀ k, DepthBounded (s' k) from fun k => ⟨hsound k, hdepth k⟩
  have hupdate {kind : GroupKind} {t : Hierarchy} (ht : DepthBounded t) :
      ∀ k, DepthBounded (Function.update s kind t k) :=
    (Function.forall_update_iff s fun _ => DepthBounded).mpr ⟨ht, fun k _ => (hs k).2⟩
  cases e with
  | create kind id realmId parentId =>
    rw [Hierarchies.step] at hstep
    split_ifs at hstep with hnew
    obtain rfl := Option.some.inj hstep
    rw [Bool.not_eq_true] at hnew
    refine hupdate ?_
    rcases createGroup_cases (s kind) id realmId parentId with hsame | ⟨hinsert, hok, hparent⟩
    · rw [hsame]
      exact (hs kind).2
    · rw [hinsert]
      refine (hs kind).2.insert (hs kind).1 hnew ?_ ?_
      · intro p hp
        obtain ⟨row, hrow, hid, -⟩ := hparent p hp
        exact Table.has_eq_true.mpr ⟨row, hrow, hid⟩
      · intro p hp
        obtain rfl : parentId = some p := hp
        rw [keepsDepth, hok] at hkeeps
        exact Option.isNone_iff_eq_none.mp hkeeps
  | move kind groupId parentId =>
    obtain ⟨g, parent, hg, hparent, rfl⟩ := move_step hstep
    refine hupdate ?_
    obtain ⟨hgrow, rfl⟩ := Table.find?_eq_some.mp hg
    obtain ⟨hid, hrows⟩ := loadParent_eq_some hparent
    cases hcheck : assertGroupParent kind (s kind) g parent with
    | error e =>
      rw [moveGroup, hcheck]
      exact (hs kind).2
    | ok _ =>
      rw [moveGroup, hcheck]
      refine (hs kind).2.setParent (Table.has_eq_true.mpr ⟨g, hgrow, rfl⟩) ?_ ?_
      · intro q hq
        obtain ⟨p, rfl, rfl⟩ := Option.map_eq_some_iff.mp hq
        have hallowed := (assertGroupParent_ok_iff (hs kind).1 (hrows p rfl)).mp hcheck
        exact ⟨hallowed.other, hallowed.notBelow⟩
      · intro q hq
        obtain ⟨p, rfl, rfl⟩ := Option.map_eq_some_iff.mp hq
        have hfind := Table.find?_eq_some.mpr ⟨hrows p rfl, rfl⟩
        rw [Option.map_some] at hid
        obtain rfl := hid
        rw [keepsDepth, hg, Option.all_some, hfind, Option.all_some, moveGroup, hcheck]
          at hkeeps
        exact hkeeps
  | archive kind id =>
    obtain rfl := Option.some.inj hstep
    exact hupdate ((hs kind).2.archive id)

/-- If every step keeps within the bound what it hangs elsewhere, every group has at most
64 ancestors. -/
theorem depth_bounded {events : List GroupEvent}
    (hmeets : Meets Hierarchies.step (fun s e => keepsDepth s e = true) events fun _ => {})
    (hrun : runSteps Hierarchies.step events (fun _ => {}) = some s) (kind : GroupKind) :
    ∀ g ∈ (s kind).rows, (ancestors (parentOf (s kind)) g.id).encard ≤ maxGroupDepth := by
  intro g _
  obtain ⟨hsound, hdepth⟩ := runSteps_invariant
    (P := fun s => ∀ k, SoundHierarchy (s k) ∧ DepthBounded (s k)) depth_step
    (fun _ => ⟨.empty, fun _ => rfl⟩) hmeets hrun kind
  have hlt := (encard_ancestors_lt_iff hsound.acyclic 65).mpr (hdepth g.id)
  exact ENat.lt_natCast_add_one_iff.mp hlt

theorem depth_bounded_moved : ∃ s,
    Meets Hierarchies.step (fun s e => keepsDepth s e = true) groupsMoved (fun _ => {}) ∧
    runSteps Hierarchies.step groupsMoved (fun _ => {}) = some s ∧ (s .agent).rows.length = 3 ∧
      ∀ g ∈ (s .agent).rows, (ancestors (parentOf (s .agent)) g.id).encard ≤ maxGroupDepth := by
  obtain ⟨s, hmeets, hrun, hlength⟩ := exists_of_checkedRun
    (p := fun s : Hierarchies => (s .agent).rows.length == 3)
    (show (checkedRun Hierarchies.step (fun s e => keepsDepth s e = true)
      groupsMoved (fun _ => {})).any _ = true by decide +kernel)
  exact ⟨s, hmeets, hrun, beq_iff_eq.mp hlength, depth_bounded hmeets hrun .agent⟩

/-- Groups in a chain, each created under the one before. -/
def chain (n : ℕ) : List GroupEvent :=
  (List.range n).map fun i => .create .agent (.ofByte (.ofNat i)) (.ofByte 0)
    (if i = 0 then none else some (.ofByte (.ofNat (i - 1))))

/-- Two groups, one under the other, beside a chain of 64; the upper one is moved under the
end of the chain. -/
def moveBelowChain : List GroupEvent :=
  chain 64 ++ [.create .agent (.ofByte 100) (.ofByte 0) none,
    .create .agent (.ofByte 101) (.ofByte 0) (some (.ofByte 100)),
    .move .agent (.ofByte 100) (some (.ofByte 63))]

theorem exceeds_of_run {events : List GroupEvent} (last : Uuid)
    (h : ((runSteps Hierarchies.step events fun _ => {}).any fun s =>
      (s .agent).has last && (nthParent (parentOf (s .agent)) 65 last).isSome) = true) :
    ∃ s, runSteps Hierarchies.step events (fun _ => {}) = some s ∧ ∃ g ∈ (s .agent).rows,
        maxGroupDepth < (ancestors (parentOf (s .agent)) g.id).encard := by
  obtain ⟨s, hrun, hlast⟩ := (Option.any_eq_true _ _).mp h
  rw [Bool.and_eq_true] at hlast
  obtain ⟨g, hg, rfl⟩ := Table.has_eq_true.mp hlast.1
  refine ⟨s, hrun, g, hg, lt_of_not_ge fun hle => ?_⟩
  have hlt : (ancestors (parentOf (s .agent)) g.id).encard < (65 : ℕ) :=
    ENat.lt_natCast_add_one_iff.mpr hle
  rw [(encard_ancestors_lt_iff (sound_of_run hrun .agent).acyclic 65).mp hlt] at hlast
  cases hlast.2

/-- A chain of 66 creations, and a move of a group with another one below it, each give a
group 65 ancestors. -/
theorem depth_exceeded : (∃ s, runSteps Hierarchies.step (chain 66) (fun _ => {}) = some s ∧
      ∃ g ∈ (s .agent).rows, maxGroupDepth < (ancestors (parentOf (s .agent)) g.id).encard) ∧
    ∃ s, runSteps Hierarchies.step moveBelowChain (fun _ => {}) = some s ∧
      ∃ g ∈ (s .agent).rows, maxGroupDepth < (ancestors (parentOf (s .agent)) g.id).encard :=
  ⟨exceeds_of_run (.ofByte 65) (by decide +kernel),
    exceeds_of_run (.ofByte 101) (by decide +kernel)⟩

end Depth

end Bifrostnms.Proofs
