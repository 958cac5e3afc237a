import Bifrostnms.Lib.Checks
import Bifrostnms.Lib.JsonText
import Bifrostnms.Lib.Text

/-!
# Decoding JSON into Go variables

What `encoding/json` stores when it decodes a document into a variable, with unknown
fields disallowed. A decoder is given what the variable holds, because `null` leaves a
variable as it is, unless it is a pointer, a slice or a map. The fields of a struct are
found by the names of the members, in the order of the document, exactly if there is
such a field and up to letter case otherwise.

An error is `none`; its text is not kept. Integers that a `float64` cannot hold are
taken as they are.

When a document has one member for each field, in the order of the fields, decoding it
is decoding the fields one after the other (`decodeStruct_inOrder`).
-/

namespace Bifrostnms.Lib.GoJson

/-- What is stored for a document in a variable that holds a value. -/
abbrev Decoder (α : Type) := Json JsonNum → α → Option α

variable {α σ : Type}

/-! ## Scalars -/

def decodeBool : Decoder Bool
  | .null, old => some old
  | .bool b, _ => some b
  | _, _ => none

def decodeString : Decoder String
  | .null, old => some old
  | .str s, _ => some s
  | _, _ => none

/-- An integer type with its range. A literal with a point or an exponent is none. -/
def decodeInteger (low high : ℤ) : Decoder ℤ
  | .null, old => some old
  | .num (.int n), _ => if low ≤ n ∧ n ≤ high then some n else none
  | _, _ => none

/-- `int`, of 64 bits. -/
def decodeInt : Decoder ℤ := decodeInteger (-2 ^ 63) (2 ^ 63 - 1)

def decodeUint32 (document : Json JsonNum) (old : ℕ) : Option ℕ :=
  (decodeInteger 0 (2 ^ 32 - 1) document old).map Int.toNat

def decodeFloat64 : Decoder Decimal
  | .null, old => some old
  | .num n, _ => some (JsonText.readFloat64 n)
  | _, _ => none

@[simp] theorem decodeBool_bool (b old : Bool) : decodeBool (.bool b) old = some b := rfl

@[simp] theorem decodeString_str (s old : String) : decodeString (.str s) old = some s :=
  rfl

theorem decodeInt_int {n : ℤ} (old : ℤ) (h : -2 ^ 63 ≤ n ∧ n ≤ 2 ^ 63 - 1) :
    decodeInt (.num (.int n)) old = some n := by
  rw [decodeInt, decodeInteger, if_pos h]

/-! ## Pointers, slices and maps -/

/-- A pointer to a variable that is `zero` when it is allocated. -/
def decodePointer (decode : Decoder α) (zero : α) : Decoder (Option α)
  | .null, _ => some none
  | document, old => (decode document (old.getD zero)).map some

def decodeSlice (decode : Decoder α) (zero : α) : Decoder (List α)
  | .null, _ => some []
  | .arr items, _ => items.mapM fun item => decode item zero
  | _, _ => none

/-- The members of a map after an assignment. -/
def assign (m : List (String × α)) (key : String) (a : α) : List (String × α) :=
  m.filter (fun member => member.1 ≠ key) ++ [(key, a)]

def decodeMap (decode : Decoder α) (zero : α) : Decoder (List (String × α))
  | .null, _ => some []
  | .obj members, old =>
    members.foldlM (fun m member => (decode member.2 zero).map (assign m member.1)) old
  | _, _ => none

/-- A slice of what was encoded item by item. -/
theorem decodeSlice_map {β : Type} {decode : Decoder α} {zero : α} {encode : β → Json JsonNum}
    {get : β → α} {items : List β} (old : List α)
    (h : ∀ b ∈ items, decode (encode b) zero = some (get b)) :
    decodeSlice decode zero (.arr (items.map encode)) old = some (items.map get) := by
  show (items.map encode).mapM (fun item => decode item zero) = _
  rw [mapM_eq_some, List.map_map, List.map_map]
  exact List.map_congr_left h

/-- A map whose members have different keys is decoded to its members. -/
theorem decodeMap_members {decode : Decoder α} {zero : α} {encode : α → Json JsonNum}
    {members : List (String × α)} (h : ∀ a old, decode (encode a) old = some a)
    (hkeys : (members.map Prod.fst).Nodup) :
    decodeMap decode zero (.obj (members.map fun member => (member.1, encode member.2))) [] =
      some members := by
  -- What was assigned before has other keys than what is left.
  have hrun : ∀ before : List (String × α), ((before ++ members).map Prod.fst).Nodup →
      (members.map fun member => (member.1, encode member.2)).foldlM
        (fun m member => (decode member.2 zero).map (assign m member.1)) before =
        some (before ++ members) := by
    clear hkeys
    induction members with
    | nil =>
      intro before _
      rw [List.append_nil]
      rfl
    | cons member members ih =>
      intro before hkeys
      have hassign : assign before member.1 member.2 = before ++ [member] := by
        rw [assign, List.filter_eq_self.mpr]
        intro other hother
        rw [List.map_append, List.map_cons, List.nodup_append] at hkeys
        have hne := hkeys.2.2 other.1 (List.mem_map_of_mem hother) member.1
          List.mem_cons_self
        exact decide_eq_true hne
      rw [List.map_cons, List.foldlM_cons, h, Option.map_some, Option.bind_eq_bind,
        Option.bind_some, hassign, ih (before ++ [member])]
      · rw [List.append_assoc, List.singleton_append]
      · rwa [List.append_assoc, List.singleton_append]
  exact hrun [] hkeys

/-! ## Structs -/

structure StructField (σ : Type) where
  name : String
  decode : Decoder σ

/-- A field of a struct by the decoder of its type. -/
def StructField.of (name : String) (decode : Decoder α) (get : σ → α) (set : σ → α → σ) :
    StructField σ :=
  ⟨name, fun document s => (decode document (get s)).map (set s)⟩

def findField (fields : List (StructField σ)) (name : String) : Option (StructField σ) :=
  (fields.find? fun field => field.name = name).or
    (fields.find? fun field => equalFold field.name.toList name.toList)

/-- The members of an object, one after the other. -/
def decodeMembers (fields : List (StructField σ)) : List (String × Json JsonNum) → σ → Option σ
  | [], s => some s
  | (name, document) :: members, s =>
    (findField fields name).bind fun field =>
      (field.decode document s).bind (decodeMembers fields members)

def decodeStruct (fields : List (StructField σ)) : Decoder σ
  | .null, old => some old
  | .obj members, old => decodeMembers fields members old
  | _, _ => none

/-- Documents for fields, one after the other. -/
def decodeFields : List (StructField σ × Json JsonNum) → σ → Option σ
  | [], s => some s
  | (field, document) :: rest, s => (field.decode document s).bind (decodeFields rest)

theorem decodeFields_of {name : String} {decode : Decoder α} {get : σ → α} {set : σ → α → σ}
    {document : Json JsonNum} {rest : List (StructField σ × Json JsonNum)} {s s' : σ} {a : α}
    (hvalue : decode document (get s) = some a) (hrest : decodeFields rest (set s a) = some s') :
    decodeFields ((.of name decode get set, document) :: rest) s = some s' := by
  show ((decode document (get s)).map (set s)).bind (decodeFields rest) = some s'
  rw [hvalue, Option.map_some, Option.bind_some, hrest]

theorem findField_name {fields : List (StructField σ)} (hnames : (fields.map StructField.name).Nodup)
    {field : StructField σ} (h : field ∈ fields) : findField fields field.name = some field := by
  have hfind : (fields.find? fun other => other.name = field.name) = some field := by
    induction fields with
    | nil => cases h
    | cons other fields ih =>
      rw [List.map_cons, List.nodup_cons] at hnames
      rcases List.mem_cons.mp h with rfl | hmem
      · exact List.find?_cons_of_pos (decide_eq_true rfl)
      · have hne : other.name ≠ field.name := fun heq =>
          hnames.1 (heq ▸ List.mem_map_of_mem hmem)
        rw [List.find?_cons_of_neg (by rwa [decide_eq_true_eq]), ih hnames.2 hmem]
  rw [findField, hfind, Option.some_or]

theorem decodeStruct_inOrder {fields : List (StructField σ)} {document : Json JsonNum} {s : σ}
    (values : List (Json JsonNum)) (hnames : (fields.map StructField.name).Nodup)
    (hdocument : document = .obj ((fields.zip values).map fun entry => (entry.1.name, entry.2))) :
    decodeStruct fields document s = decodeFields (fields.zip values) s := by
  have hrun : ∀ (rest : List (StructField σ × Json JsonNum)) (s : σ),
      (∀ entry ∈ rest, entry.1 ∈ fields) →
      decodeMembers fields (rest.map fun entry => (entry.1.name, entry.2)) s =
        decodeFields rest s := by
    intro rest
    induction rest with
    | nil => exact fun _ _ => rfl
    | cons entry rest ih =>
      intro s hfields
      obtain ⟨hentry, hrest⟩ := List.forall_mem_cons.mp hfields
      rw [List.map_cons, decodeMembers, decodeFields, findField_name hnames hentry,
        Option.bind_some]
      exact congrArg _ (funext fun s => ih s hrest)
  rw [hdocument]
  exact hrun _ s fun entry hentry => (List.of_mem_zip hentry).1

end Bifrostnms.Lib.GoJson
