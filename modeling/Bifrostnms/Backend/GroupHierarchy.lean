import Bifrostnms.Lib.Forest
import Bifrostnms.Lib.Table
import Bifrostnms.Lib.Text

/-!
# Group hierarchies (`monitoring/domain.py`, `api/monitoring.py`)

Agent groups and target groups have parents of their own kind. A group is created under
a parent or without one, and moved under another parent or to the top. Before a move,
the code walks up from the new parent, one row at a time, and gives up after
`MAX_GROUP_DEPTH` of them.

The functions for the two kinds of groups differ in the text of one error. A group is
loaded by the caller; names are left out, and `archived_at` is kept as whether it is set.
-/

namespace Bifrostnms.Backend

open Bifrostnms.Lib

def maxGroupDepth : ℕ := 64

inductive GroupKind where
  | agent | target
deriving DecidableEq

def GroupKind.title : GroupKind → String
  | .agent => "Agent"
  | .target => "Target"

structure GroupRow where
  id : Uuid
  realmId : Uuid
  parentId : Option Uuid := none
  archived : Bool := false

/-- The groups of one kind. -/
abbrev Hierarchy := Table GroupRow.id

inductive GroupError where
  /-- `RealmBoundaryError` -/
  | parentRealm
  /-- `ResourceStateError` -/
  | archived
  /-- `HierarchyError`, as are the next two. -/
  | ownParent
  | descendant
  | tooDeep (kind : GroupKind)
  /-- `HTTPException(404)` -/
  | parentNotFound
deriving DecidableEq

def GroupError.message : GroupError → String
  | .parentRealm => "A group parent must belong to the same realm"
  | .archived => "Archived resources cannot be changed or assigned"
  | .ownParent => "A group cannot be its own parent"
  | .descendant => "A group cannot be moved below one of its descendants"
  | .tooDeep kind =>
    kind.title ++ " group hierarchy exceeds " ++ toString maxGroupDepth ++ " levels"
  | .parentNotFound => "Parent not found"

/-! ## The parent check -/

/-- What is checked before the walk. -/
def requireParent (group parent : GroupRow) : Except GroupError Unit :=
  if parent.realmId ≠ group.realmId then .error .parentRealm
  else if group.archived ∨ parent.archived then .error .archived
  else if parent.id = group.id then .error .ownParent
  else .ok ()

/-- The tests of one round of the walk: the row to load for the next one, if the walk
does not end here. -/
def climb (group : GroupRow) : Option GroupRow → Except GroupError (Option Uuid)
  | none => .ok none
  | some current =>
    match current.parentId with
    | none => .ok none
    | some parentId =>
      if parentId = group.id then .error .descendant else .ok (some parentId)

/-- The next row of the walk. -/
def Hierarchy.load (t : Hierarchy) (group : GroupRow) (id : Uuid) : Option GroupRow :=
  (t.find? id).filter (·.realmId = group.realmId)

/-- The loop, with the rounds that are left. -/
def Hierarchy.walk (kind : GroupKind) (t : Hierarchy) (group : GroupRow) :
    ℕ → Option GroupRow → Except GroupError Unit
  | 0, _ => .error (.tooDeep kind)
  | left + 1, current =>
    match climb group current with
    | .error e => .error e
    | .ok none => .ok ()
    | .ok (some id) => t.walk kind group left (t.load group id)

def assertGroupParent (kind : GroupKind) (t : Hierarchy) (group : GroupRow) :
    Option GroupRow → Except GroupError Unit
  | none => .ok ()
  | some parent =>
    match requireParent group parent with
    | .error e => .error e
    | .ok () => t.walk kind group maxGroupDepth (some parent)

/-- `_assert_agent_group_parent` -/
def assertAgentGroupParent := assertGroupParent .agent

/-- `_assert_target_group_parent` -/
def assertTargetGroupParent := assertGroupParent .target

/-! ## Moves and creations -/

/-- `save(update_fields=["parent_id", "updated_at"])` -/
def Hierarchy.setParent (t : Hierarchy) (id : Uuid) (parentId : Option Uuid) : Hierarchy :=
  t.update (fun r => if r.id = id then { r with parentId := parentId } else r)
    (by intro r; split <;> rfl)

def moveGroup (kind : GroupKind) (t : Hierarchy) (group : GroupRow)
    (parent : Option GroupRow) : Hierarchy × Except GroupError Unit :=
  match assertGroupParent kind t group parent with
  | .error e => (t, .error e)
  | .ok () => (t.setParent group.id (parent.map (·.id)), .ok ())

def moveAgentGroup := moveGroup .agent

def moveTargetGroup := moveGroup .target

/-- `create_agent_group` and `create_target_group`, with the id that is drawn. -/
def createGroup (t : Hierarchy) (id realmId : Uuid) :
    Option Uuid → Hierarchy × Except GroupError Unit
  | none => (t.insert { id := id, realmId := realmId }, .ok ())
  | some parentId =>
    match (t.find? parentId).filter fun p => p.realmId = realmId && !p.archived with
    | none => (t, .error .parentNotFound)
    | some parent =>
      (t.insert { id := id, realmId := realmId, parentId := some parent.id }, .ok ())

def Hierarchy.archive (t : Hierarchy) (id : Uuid) : Hierarchy :=
  t.update (fun r => if r.id = id then { r with archived := true } else r)
    (by intro r; split <;> rfl)

/-! ## One at a time -/

/-- The agent groups and the target groups. -/
abbrev Hierarchies := GroupKind → Hierarchy

inductive GroupEvent where
  | create (kind : GroupKind) (id realmId : Uuid) (parentId : Option Uuid)
  /-- A move of a group that was just loaded, as its parent was. -/
  | move (kind : GroupKind) (groupId : Uuid) (parentId : Option Uuid)
  | archive (kind : GroupKind) (id : Uuid)

/-- The rows of an optional id, unless there is none with it. -/
def Hierarchy.loadParent (t : Hierarchy) : Option Uuid → Option (Option GroupRow)
  | none => some none
  | some id => (t.find? id).map some

/-- One request. An id that was drawn before is not drawn again. -/
def Hierarchies.step (s : Hierarchies) : GroupEvent → Option Hierarchies
  | .create kind id realmId parentId =>
    if (s kind).has id then none
    else some (Function.update s kind (createGroup (s kind) id realmId parentId).1)
  | .move kind groupId parentId =>
    match (s kind).find? groupId, (s kind).loadParent parentId with
    | some group, some parent =>
      some (Function.update s kind (moveGroup kind (s kind) group parent).1)
    | _, _ => none
  | .archive kind id => some (Function.update s kind ((s kind).archive id))

/-! ## At the same time -/

structure MoveCall where
  kind : GroupKind
  groupId : Uuid
  parentId : Option Uuid

/-- A call, by the statement it executes next. -/
inductive MovePhase where
  | loadGroup
  | loadParent (group : GroupRow)
  /-- The walk loads its next row. -/
  | walk (group parent : GroupRow) (left : ℕ) (id : Uuid)
  | save (groupId : Uuid) (parentId : Option Uuid)
  | returned (outcome : Except GroupError Unit)

/-- The next round of the walk. -/
def MovePhase.afterLoad (kind : GroupKind) (group parent : GroupRow) :
    ℕ → Option GroupRow → MovePhase
  | 0, _ => .returned (.error (.tooDeep kind))
  | left + 1, current =>
    match climb group current with
    | .error e => .returned (.error e)
    | .ok none => .save group.id (some parent.id)
    | .ok (some id) => .walk group parent left id

/-- The check begins. -/
def MovePhase.check (kind : GroupKind) (group : GroupRow) : Option GroupRow → MovePhase
  | none => .save group.id none
  | some parent =>
    match requireParent group parent with
    | .error e => .returned (.error e)
    | .ok () => .afterLoad kind group parent maxGroupDepth (some parent)

/-- The next statement of a call. -/
def MoveCall.step (call : MoveCall) (t : Hierarchy) : MovePhase → Option (MovePhase × Hierarchy)
  | .loadGroup => (t.find? call.groupId).map fun group => (.loadParent group, t)
  | .loadParent group => (t.loadParent call.parentId).map fun parent =>
    (.check call.kind group parent, t)
  | .walk group parent left id =>
    some (.afterLoad call.kind group parent left (t.load group id), t)
  | .save groupId parentId => some (.returned (.ok ()), t.setParent groupId parentId)
  | .returned _ => none

structure GroupTraffic where
  groups : Hierarchies := fun _ => {}
  calls : List (MoveCall × MovePhase) := []

inductive GroupTrafficEvent where
  | call (call : MoveCall)
  /-- The next statement of a call. -/
  | statement (index : ℕ)
  /-- A creation, or the archiving of a group. -/
  | create (kind : GroupKind) (id realmId : Uuid) (parentId : Option Uuid)
  | archive (kind : GroupKind) (id : Uuid)

def GroupTraffic.step (s : GroupTraffic) : GroupTrafficEvent → Option GroupTraffic
  | .call call => some { s with calls := s.calls ++ [(call, .loadGroup)] }
  | .statement index =>
    match s.calls[index]? with
    | none => none
    | some (call, phase) =>
      (call.step (s.groups call.kind) phase).map fun next =>
        { groups := Function.update s.groups call.kind next.2
          calls := s.calls.set index (call, next.1) }
  | .create kind id realmId parentId =>
    (s.groups.step (.create kind id realmId parentId)).map fun groups =>
      { s with groups := groups }
  | .archive kind id =>
    (s.groups.step (.archive kind id)).map fun groups => { s with groups := groups }

end Bifrostnms.Backend
