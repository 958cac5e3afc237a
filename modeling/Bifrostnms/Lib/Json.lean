import Mathlib.Tactic.Tauto

/-!
# JSON texts and the trees behind them

A compact JSON text is fixed by its tree and by how an encoder writes the
two kinds of leaf: strings and numbers. This file keeps the tree and bundles
the leaf writers with what makes them JSON: a string literal is closed by
its own quote, and a number starts like one and holds no delimiter.

Those two facts are all a reader needs to cut a text back into its pieces,
and the file draws the consequence once (`encode_eq_iff`): two encoders, on
two trees, write the same text exactly when the trees have the same shape
and every leaf is written alike. One direction is congruence. The other is
the interesting one, since a shorter leaf on one side could in principle be
made up for further right; it cannot, because the two texts stay aligned
until the first leaf they write differently.

Comparing two canonicalizers on one document is the case of a tree and its
own renumbering (`aligned_mapNum`); that a canonical text determines its
document is the case of one encoder (`encode_inj`).
-/

namespace Bifrostnms.Lib

/-- A JSON value over numbers `ν`. Objects keep their members in the order
they were built; `sortKeys` orders them. -/
inductive Json (ν : Type) where
  | null
  | bool (b : Bool)
  | num (n : ν)
  | str (s : String)
  | arr (xs : List (Json ν))
  | obj (kvs : List (String × Json ν))

namespace Json

/-! ## Literals, tokens and delimiters -/

/-- The inside of a string literal: escapes are a backslash and the
character it escapes, and a bare quote does not occur. -/
inductive Body : List Char → Prop where
  | nil : Body []
  | plain {c : Char} {cs : List Char} (hq : c ≠ '"') (hb : c ≠ '\\')
      (h : Body cs) : Body (c :: cs)
  | escape {c : Char} {cs : List Char} (h : Body cs) : Body ('\\' :: c :: cs)

/-- A string literal with its quotes. -/
def Literal (l : List Char) : Prop := ∃ b, Body b ∧ l = '"' :: (b ++ ['"'])

theorem Body.append {a b : List Char} (ha : Body a) (hb : Body b) : Body (a ++ b) := by
  induction ha with
  | nil => exact hb
  | plain hq hs _ ih => exact .plain hq hs ih
  | escape _ ih => exact .escape ih

/-- The characters that may follow a value. -/
def isDelim (c : Char) : Bool := c == ',' || c == ']' || c == '}'

/-- The rest of a text after a value: nothing, or a delimiter. -/
def AtDelim : List Char → Prop
  | [] => True
  | c :: _ => isDelim c = true

/-- The text of a number: it begins like no other kind of value, and no
delimiter occurs in it. -/
structure Token (l : List Char) : Prop where
  head : ∃ c cs, l = c :: cs ∧ c ∉ ['n', 't', 'f', '"', '[', '{']
  inner : ∀ c ∈ l, isDelim c = false

/-- How an encoder writes the leaves. -/
structure Encoder (ν : Type) where
  str : String → List Char
  num : ν → List Char
  str_literal : ∀ s, Literal (str s)
  num_token : ∀ n, Token (num n)

variable {ν μ : Type}

mutual

/-- The text of a tree with no white space, as a list of characters. -/
def encode (E : Encoder ν) : Json ν → List Char
  | .null => ['n', 'u', 'l', 'l']
  | .bool true => ['t', 'r', 'u', 'e']
  | .bool false => ['f', 'a', 'l', 's', 'e']
  | .num n => E.num n
  | .str s => E.str s
  | .arr [] => ['[', ']']
  | .arr (x :: xs) => '[' :: (encode E x ++ encodeItems E xs)
  | .obj [] => ['{', '}']
  | .obj ((k, v) :: kvs) =>
    '{' :: (E.str k ++ ':' :: (encode E v ++ encodeMembers E kvs))

/-- What follows the first item of an array, closing bracket included. -/
def encodeItems (E : Encoder ν) : List (Json ν) → List Char
  | [] => [']']
  | x :: xs => ',' :: (encode E x ++ encodeItems E xs)

/-- What follows the first member of an object, closing brace included. -/
def encodeMembers (E : Encoder ν) : List (String × Json ν) → List Char
  | [] => ['}']
  | (k, v) :: kvs =>
    ',' :: (E.str k ++ ':' :: (encode E v ++ encodeMembers E kvs))

end

mutual

/-- Every string of a tree, member names included. -/
def strings : Json ν → List String
  | .null => []
  | .bool _ => []
  | .num _ => []
  | .str s => [s]
  | .arr xs => stringsItems xs
  | .obj kvs => stringsMembers kvs

def stringsItems : List (Json ν) → List String
  | [] => []
  | x :: xs => strings x ++ stringsItems xs

def stringsMembers : List (String × Json ν) → List String
  | [] => []
  | (k, v) :: kvs => k :: (strings v ++ stringsMembers kvs)

end

mutual

/-- Every number of a tree. -/
def numbers : Json ν → List ν
  | .null => []
  | .bool _ => []
  | .num n => [n]
  | .str _ => []
  | .arr xs => numbersItems xs
  | .obj kvs => numbersMembers kvs

def numbersItems : List (Json ν) → List ν
  | [] => []
  | x :: xs => numbers x ++ numbersItems xs

def numbersMembers : List (String × Json ν) → List ν
  | [] => []
  | (_, v) :: kvs => numbers v ++ numbersMembers kvs

end

mutual

/-- Every member name of a tree. -/
def keys : Json ν → List String
  | .null => []
  | .bool _ => []
  | .num _ => []
  | .str _ => []
  | .arr xs => keysItems xs
  | .obj kvs => keysMembers kvs

def keysItems : List (Json ν) → List String
  | [] => []
  | x :: xs => keys x ++ keysItems xs

def keysMembers : List (String × Json ν) → List String
  | [] => []
  | (k, v) :: kvs => k :: (keys v ++ keysMembers kvs)

end

mutual

/-- The same tree over other numbers. -/
def mapNum (f : ν → μ) : Json ν → Json μ
  | .null => .null
  | .bool b => .bool b
  | .num n => .num (f n)
  | .str s => .str s
  | .arr xs => .arr (mapNumItems f xs)
  | .obj kvs => .obj (mapNumMembers f kvs)

def mapNumItems (f : ν → μ) : List (Json ν) → List (Json μ)
  | [] => []
  | x :: xs => mapNum f x :: mapNumItems f xs

def mapNumMembers (f : ν → μ) : List (String × Json ν) → List (String × Json μ)
  | [] => []
  | (k, v) :: kvs => (k, mapNum f v) :: mapNumMembers f kvs

end

/-- Put a member in front of the first one its name does not exceed. -/
def insertMember (le : String → String → Bool) (k : String) (v : Json ν) :
    List (String × Json ν) → List (String × Json ν)
  | [] => [(k, v)]
  | (k', v') :: kvs =>
    if le k k' then (k, v) :: (k', v') :: kvs
    else (k', v') :: insertMember le k v kvs

mutual

/-- Order the members of every object by name. -/
def sortKeys (le : String → String → Bool) : Json ν → Json ν
  | .null => .null
  | .bool b => .bool b
  | .num n => .num n
  | .str s => .str s
  | .arr xs => .arr (sortKeysItems le xs)
  | .obj kvs => .obj (sortKeysMembers le kvs)

def sortKeysItems (le : String → String → Bool) : List (Json ν) → List (Json ν)
  | [] => []
  | x :: xs => sortKeys le x :: sortKeysItems le xs

def sortKeysMembers (le : String → String → Bool) : List (String × Json ν) → List (String × Json ν)
  | [] => []
  | (k, v) :: kvs => insertMember le k (sortKeys le v) (sortKeysMembers le kvs)

end

/-! ## Cutting a text into its pieces -/

theorem body_cut {a b r r' : List Char} (ha : Body a) (hb : Body b)
    (h : a ++ '"' :: r = b ++ '"' :: r') : a = b ∧ r = r' := by
  induction ha generalizing b with
  | nil =>
    cases hb with
    | nil => injection h with _ h; exact ⟨rfl, h⟩
    | plain hq _ _ => injection h with h _; exact absurd h.symm hq
    | escape _ => injection h with h _; exact absurd h (by decide)
  | plain hq hs _ ih =>
    cases hb with
    | nil => injection h with h _; exact absurd h hq
    | plain _ _ hb =>
      injection h with hc h
      obtain ⟨h1, h2⟩ := ih hb h
      exact ⟨by rw [hc, h1], h2⟩
    | escape _ => injection h with h _; exact absurd h hs
  | escape _ ih =>
    cases hb with
    | nil => injection h with h _; exact absurd h (by decide)
    | plain _ hs _ => injection h with h _; exact absurd h.symm hs
    | escape hb =>
      injection h with _ h
      injection h with hc h
      obtain ⟨h1, h2⟩ := ih hb h
      exact ⟨by rw [hc, h1], h2⟩

/-- A text starts with at most one string literal. -/
theorem literal_cut {a b r r' : List Char} (ha : Literal a) (hb : Literal b)
    (h : a ++ r = b ++ r') : a = b ∧ r = r' := by
  obtain ⟨x, hx, rfl⟩ := ha
  obtain ⟨y, hy, rfl⟩ := hb
  simp only [List.cons_append, List.append_assoc, List.nil_append] at h
  injection h with _ h
  obtain ⟨h1, h2⟩ := body_cut hx hy h
  exact ⟨by rw [h1], h2⟩

/-- Two delimiter-free prefixes of one text that both run up to a delimiter
are the same prefix. -/
theorem token_cut {a b r r' : List Char}
    (ha : ∀ c ∈ a, isDelim c = false) (hb : ∀ c ∈ b, isDelim c = false)
    (hr : AtDelim r) (hr' : AtDelim r') (h : a ++ r = b ++ r') : a = b ∧ r = r' := by
  induction a generalizing b with
  | nil =>
    cases b with
    | nil => exact ⟨rfl, h⟩
    | cons y ys =>
      have hy := hb y (by simp)
      rw [List.nil_append] at h
      rw [h] at hr
      exact absurd hr (by simp [AtDelim, hy])
  | cons x xs ih =>
    have hx := ha x (by simp)
    cases b with
    | nil =>
      rw [List.nil_append] at h
      rw [← h] at hr'
      exact absurd hr' (by simp [AtDelim, hx])
    | cons y ys =>
      injection h with hxy htail
      obtain ⟨h1, h2⟩ := ih (fun c hc => ha c (by simp [hc]))
        (fun c hc => hb c (by simp [hc])) htail
      exact ⟨by rw [hxy, h1], h2⟩

theorem encodeItems_atDelim (E : Encoder ν) (xs : List (Json ν))
    (r : List Char) : AtDelim (encodeItems E xs ++ r) := by
  cases xs with
  | nil => rw [encodeItems]; rfl
  | cons x xs => rw [encodeItems]; rfl

theorem encodeMembers_atDelim (E : Encoder ν) (kvs : List (String × Json ν))
    (r : List Char) : AtDelim (encodeMembers E kvs ++ r) := by
  cases kvs with
  | nil => rw [encodeMembers]; rfl
  | cons kv kvs => obtain ⟨k, v⟩ := kv; rw [encodeMembers]; rfl

/-! ## Aligned trees -/

mutual

/-- Same shape, and every leaf written alike by the two encoders. -/
def Aligned (E : Encoder ν) (F : Encoder μ) : Json ν → Json μ → Prop
  | .null, .null => True
  | .bool b, .bool c => b = c
  | .num n, .num m => E.num n = F.num m
  | .str s, .str t => E.str s = F.str t
  | .arr xs, .arr ys => AlignedItems E F xs ys
  | .obj kvs, .obj lvs => AlignedMembers E F kvs lvs
  | _, _ => False

def AlignedItems (E : Encoder ν) (F : Encoder μ) : List (Json ν) → List (Json μ) → Prop
  | [], [] => True
  | x :: xs, y :: ys => Aligned E F x y ∧ AlignedItems E F xs ys
  | _, _ => False

def AlignedMembers (E : Encoder ν) (F : Encoder μ) :
    List (String × Json ν) → List (String × Json μ) → Prop
  | [], [] => True
  | (k, v) :: kvs, (l, w) :: lvs =>
    E.str k = F.str l ∧ Aligned E F v w ∧ AlignedMembers E F kvs lvs
  | _, _ => False

end

mutual

theorem encode_eq_of_aligned {E : Encoder ν} {F : Encoder μ} {v : Json ν}
    {w : Json μ} (h : Aligned E F v w) : encode E v = encode F w := by
  match v, w with
  | .null, .null => rw [encode, encode]
  | .bool b, .bool c =>
    rw [Aligned] at h
    subst h
    cases b <;> rw [encode, encode]
  | .num n, .num m => rw [Aligned] at h; rw [encode, encode, h]
  | .str s, .str t => rw [Aligned] at h; rw [encode, encode, h]
  | .arr [], .arr [] => rw [encode, encode]
  | .arr (x :: xs), .arr (y :: ys) =>
    rw [Aligned, AlignedItems] at h
    rw [encode, encode, encode_eq_of_aligned h.1, encodeItems_eq_of_aligned h.2]
  | .arr [], .arr (_ :: _) | .arr (_ :: _), .arr [] =>
    rw [Aligned, AlignedItems] at h
    · exact h.elim
    · simp
    · simp
  | .obj [], .obj [] => rw [encode, encode]
  | .obj ((k, v) :: kvs), .obj ((l, w) :: lvs) =>
    rw [Aligned, AlignedMembers] at h
    rw [encode, encode, h.1, encode_eq_of_aligned h.2.1, encodeMembers_eq_of_aligned h.2.2]
  | .obj [], .obj (_ :: _) | .obj (_ :: _), .obj [] =>
    rw [Aligned, AlignedMembers] at h
    · exact h.elim
    · simp
    · simp

theorem encodeItems_eq_of_aligned {E : Encoder ν} {F : Encoder μ}
    {xs : List (Json ν)} {ys : List (Json μ)} (h : AlignedItems E F xs ys) :
    encodeItems E xs = encodeItems F ys := by
  match xs, ys with
  | [], [] => rw [encodeItems, encodeItems]
  | x :: xs, y :: ys =>
    rw [AlignedItems] at h
    rw [encodeItems, encodeItems, encode_eq_of_aligned h.1, encodeItems_eq_of_aligned h.2]
  | [], _ :: _ => simp [AlignedItems] at h
  | _ :: _, [] => simp [AlignedItems] at h

theorem encodeMembers_eq_of_aligned {E : Encoder ν} {F : Encoder μ}
    {kvs : List (String × Json ν)} {lvs : List (String × Json μ)} (h : AlignedMembers E F kvs lvs) :
    encodeMembers E kvs = encodeMembers F lvs := by
  match kvs, lvs with
  | [], [] => rw [encodeMembers, encodeMembers]
  | (k, v) :: kvs, (l, w) :: lvs =>
    rw [AlignedMembers] at h
    rw [encodeMembers, encodeMembers, h.1, encode_eq_of_aligned h.2.1,
      encodeMembers_eq_of_aligned h.2.2]
  | [], _ :: _ => simp [AlignedMembers] at h
  | _ :: _, [] => simp [AlignedMembers] at h

end

/-- What the first character of a value tells: its kind, and for a boolean
its value. Everything else starts a number. -/
inductive Kind where
  | null | bool (b : Bool) | num | str | arr | obj
  deriving DecidableEq

def kind : Json ν → Kind
  | .null => .null
  | .bool b => .bool b
  | .num _ => .num
  | .str _ => .str
  | .arr _ => .arr
  | .obj _ => .obj

def kindOfChar (c : Char) : Kind :=
  if c = 'n' then .null
  else if c = 't' then .bool true
  else if c = 'f' then .bool false
  else if c = '"' then .str
  else if c = '[' then .arr
  else if c = '{' then .obj
  else .num

theorem encode_head (E : Encoder ν) (v : Json ν) :
    ∃ c cs, encode E v = c :: cs ∧ kindOfChar c = kind v ∧ isDelim c = false := by
  match v with
  | .null => exact ⟨_, _, by rw [encode], rfl, rfl⟩
  | .bool true => exact ⟨_, _, by rw [encode], rfl, rfl⟩
  | .bool false => exact ⟨_, _, by rw [encode], rfl, rfl⟩
  | .num n =>
    obtain ⟨⟨c, cs, hl, hc⟩, hd⟩ := E.num_token n
    refine ⟨c, cs, by rw [encode, hl], ?_, hd c (by simp [hl])⟩
    simp only [List.mem_cons, List.not_mem_nil, or_false, not_or] at hc
    simp [kindOfChar, kind, hc]
  | .str s =>
    obtain ⟨b, _, hl⟩ := E.str_literal s
    exact ⟨_, _, by rw [encode, hl], rfl, rfl⟩
  | .arr [] => exact ⟨_, _, by rw [encode], rfl, rfl⟩
  | .arr (_ :: _) => exact ⟨_, _, by rw [encode], rfl, rfl⟩
  | .obj [] => exact ⟨_, _, by rw [encode], rfl, rfl⟩
  | .obj ((_, _) :: _) => exact ⟨_, _, by rw [encode], rfl, rfl⟩

theorem kind_eq_of_encode {E : Encoder ν} {F : Encoder μ} {v : Json ν}
    {w : Json μ} {r r' : List Char} (h : encode E v ++ r = encode F w ++ r') : kind v = kind w := by
  obtain ⟨c, cs, hv, hk, _⟩ := encode_head E v
  obtain ⟨d, ds, hw, hl, _⟩ := encode_head F w
  rw [hv, hw] at h
  injection h with hcd _
  rw [← hk, ← hl, hcd]

/-- An empty array is not the beginning of a longer one. -/
theorem encode_ne_close {E : Encoder ν} {v : Json ν} {s r : List Char}
    (h : ']' :: r = encode E v ++ s) : False := by
  obtain ⟨c, cs, hv, _, hd⟩ := encode_head E v
  rw [hv] at h
  injection h with hc _
  rw [← hc] at hd
  exact absurd hd (by decide)

/-- An empty object is not the beginning of a longer one. -/
theorem str_ne_close {E : Encoder ν} {k : String} {s r : List Char}
    (h : '}' :: r = E.str k ++ s) : False := by
  obtain ⟨b, _, hl⟩ := E.str_literal k
  rw [hl] at h
  injection h with hc _
  exact absurd hc (by decide)

mutual

/-- Two texts that agree so far agree on the whole value that comes next,
and go on alike. The induction is on the first tree; the kinds settle which
constructor the second one has. -/
theorem encode_cut {E : Encoder ν} {F : Encoder μ} {v : Json ν} {w : Json μ}
    {r r' : List Char} (hr : AtDelim r) (hr' : AtDelim r')
    (h : encode E v ++ r = encode F w ++ r') : Aligned E F v w ∧ r = r' := by
  have hk := kind_eq_of_encode h
  match v, w with
  | .null, .null =>
    rw [encode, encode] at h
    exact ⟨by rw [Aligned]; trivial, List.append_cancel_left h⟩
  | .bool b, .bool c =>
    have hbc : b = c := by simpa [kind] using hk
    subst hbc
    rw [encode_eq_of_aligned (F := F) (w := .bool b) (by rw [Aligned])] at h
    exact ⟨by rw [Aligned], List.append_cancel_left h⟩
  | .num n, .num m =>
    rw [encode, encode] at h
    rw [Aligned]
    exact token_cut (E.num_token n).inner (F.num_token m).inner hr hr' h
  | .str s, .str t =>
    rw [encode, encode] at h
    rw [Aligned]
    exact literal_cut (E.str_literal s) (F.str_literal t) h
  | .arr [], .arr [] =>
    rw [encode, encode] at h
    exact ⟨by rw [Aligned, AlignedItems]; trivial, List.append_cancel_left h⟩
  | .arr [], .arr (y :: ys) =>
    rw [encode, encode] at h
    simp only [List.cons_append, List.nil_append, List.append_assoc, List.cons.injEq, true_and] at h
    exact (encode_ne_close h).elim
  | .arr (x :: xs), .arr [] =>
    rw [encode, encode] at h
    simp only [List.cons_append, List.nil_append, List.append_assoc, List.cons.injEq, true_and] at h
    exact (encode_ne_close h.symm).elim
  | .arr (x :: xs), .arr (y :: ys) =>
    rw [encode, encode] at h
    simp only [List.cons_append, List.append_assoc, List.cons.injEq, true_and] at h
    obtain ⟨h1, h2⟩ := encode_cut (encodeItems_atDelim E xs r)
      (encodeItems_atDelim F ys r') h
    obtain ⟨h3, h4⟩ := encodeItems_cut hr hr' h2
    exact ⟨by rw [Aligned, AlignedItems]; exact ⟨h1, h3⟩, h4⟩
  | .obj [], .obj [] =>
    rw [encode, encode] at h
    exact ⟨by rw [Aligned, AlignedMembers]; trivial, List.append_cancel_left h⟩
  | .obj [], .obj ((l, w) :: lvs) =>
    rw [encode, encode] at h
    simp only [List.cons_append, List.nil_append, List.append_assoc, List.cons.injEq, true_and] at h
    exact (str_ne_close h).elim
  | .obj ((k, v) :: kvs), .obj [] =>
    rw [encode, encode] at h
    simp only [List.cons_append, List.nil_append, List.append_assoc, List.cons.injEq, true_and] at h
    exact (str_ne_close h.symm).elim
  | .obj ((k, v) :: kvs), .obj ((l, w) :: lvs) =>
    rw [encode, encode] at h
    simp only [List.cons_append, List.append_assoc, List.cons.injEq, true_and] at h
    obtain ⟨h1, h2⟩ := literal_cut (E.str_literal k) (F.str_literal l) h
    obtain ⟨h3, h4⟩ := encode_cut (encodeMembers_atDelim E kvs r)
      (encodeMembers_atDelim F lvs r') (List.cons.inj h2).2
    obtain ⟨h5, h6⟩ := encodeMembers_cut hr hr' h4
    exact ⟨by rw [Aligned, AlignedMembers]; exact ⟨h1, h3, h5⟩, h6⟩

theorem encodeItems_cut {E : Encoder ν} {F : Encoder μ} {xs : List (Json ν)}
    {ys : List (Json μ)} {r r' : List Char} (hr : AtDelim r) (hr' : AtDelim r')
    (h : encodeItems E xs ++ r = encodeItems F ys ++ r') : AlignedItems E F xs ys ∧ r = r' := by
  match xs, ys with
  | [], [] =>
    rw [encodeItems, encodeItems] at h
    exact ⟨by rw [AlignedItems]; trivial, List.append_cancel_left h⟩
  | [], _ :: _ | _ :: _, [] =>
    rw [encodeItems, encodeItems] at h
    injection h with h _
    exact absurd h (by decide)
  | x :: xs, y :: ys =>
    rw [encodeItems, encodeItems] at h
    simp only [List.cons_append, List.append_assoc, List.cons.injEq, true_and] at h
    obtain ⟨h1, h2⟩ := encode_cut (encodeItems_atDelim E xs r)
      (encodeItems_atDelim F ys r') h
    obtain ⟨h3, h4⟩ := encodeItems_cut hr hr' h2
    exact ⟨by rw [AlignedItems]; exact ⟨h1, h3⟩, h4⟩

theorem encodeMembers_cut {E : Encoder ν} {F : Encoder μ}
    {kvs : List (String × Json ν)} {lvs : List (String × Json μ)}
    {r r' : List Char} (hr : AtDelim r) (hr' : AtDelim r')
    (h : encodeMembers E kvs ++ r = encodeMembers F lvs ++ r') :
    AlignedMembers E F kvs lvs ∧ r = r' := by
  match kvs, lvs with
  | [], [] =>
    rw [encodeMembers, encodeMembers] at h
    exact ⟨by rw [AlignedMembers]; trivial, List.append_cancel_left h⟩
  | [], (_, _) :: _ | (_, _) :: _, [] =>
    rw [encodeMembers, encodeMembers] at h
    injection h with h _
    exact absurd h (by decide)
  | (k, v) :: kvs, (l, w) :: lvs =>
    rw [encodeMembers, encodeMembers] at h
    simp only [List.cons_append, List.append_assoc, List.cons.injEq, true_and] at h
    obtain ⟨h1, h2⟩ := literal_cut (E.str_literal k) (F.str_literal l) h
    obtain ⟨h3, h4⟩ := encode_cut (encodeMembers_atDelim E kvs r)
      (encodeMembers_atDelim F lvs r') (List.cons.inj h2).2
    obtain ⟨h5, h6⟩ := encodeMembers_cut hr hr' h4
    exact ⟨by rw [AlignedMembers]; exact ⟨h1, h3, h5⟩, h6⟩

end

/-- Two texts are equal exactly when the trees are aligned. -/
theorem encode_eq_iff {E : Encoder ν} {F : Encoder μ} {v : Json ν}
    {w : Json μ} : encode E v = encode F w ↔ Aligned E F v w := by
  constructor
  · intro h
    have h' : encode E v ++ [] = encode F w ++ [] := by rw [h]
    exact (encode_cut (show AtDelim [] from trivial)
      (show AtDelim [] from trivial) h').1
  · exact encode_eq_of_aligned

/-- Members at the same place of aligned objects are aligned. -/
theorem aligned_at {E : Encoder ν} {F : Encoder μ} {before after : List (String × Json ν)}
    {before' after' : List (String × Json μ)} {k l : String} {v : Json ν}
    {w : Json μ} (hlen : before.length = before'.length)
    (h : AlignedMembers E F (before ++ (k, v) :: after)
      (before' ++ (l, w) :: after')) : Aligned E F v w := by
  induction before generalizing before' with
  | nil =>
    cases before' with
    | nil =>
      rw [List.nil_append, List.nil_append, AlignedMembers] at h
      exact h.2.1
    | cons m before' => cases hlen
  | cons m before ih =>
    cases before' with
    | nil => cases hlen
    | cons m' before' =>
      rw [List.cons_append, List.cons_append, AlignedMembers] at h
      exact ih (Nat.succ.inj hlen) h.2.2

/-! ## One document under two encoders -/

mutual

theorem aligned_mapNum_of {E : Encoder ν} {F : Encoder μ} {f : ν → μ}
    {v : Json ν} (hs : ∀ s ∈ strings v, E.str s = F.str s)
    (hn : ∀ n ∈ numbers v, E.num n = F.num (f n)) : Aligned E F v (mapNum f v) := by
  match v with
  | .null => rw [mapNum, Aligned]; trivial
  | .bool b => rw [mapNum, Aligned]
  | .num n => rw [mapNum, Aligned]; exact hn n (by simp [numbers])
  | .str s => rw [mapNum, Aligned]; exact hs s (by simp [strings])
  | .arr xs =>
    rw [mapNum, Aligned]
    rw [strings] at hs
    rw [numbers] at hn
    exact alignedItems_mapNum_of hs hn
  | .obj kvs =>
    rw [mapNum, Aligned]
    rw [strings] at hs
    rw [numbers] at hn
    exact alignedMembers_mapNum_of hs hn

theorem alignedItems_mapNum_of {E : Encoder ν} {F : Encoder μ} {f : ν → μ}
    {xs : List (Json ν)} (hs : ∀ s ∈ stringsItems xs, E.str s = F.str s)
    (hn : ∀ n ∈ numbersItems xs, E.num n = F.num (f n)) :
    AlignedItems E F xs (mapNumItems f xs) := by
  match xs with
  | [] => rw [mapNumItems, AlignedItems]; trivial
  | x :: xs =>
    simp only [stringsItems, numbersItems, List.mem_append] at hs hn
    rw [mapNumItems, AlignedItems]
    exact ⟨aligned_mapNum_of (fun s h => hs s (.inl h)) (fun n h => hn n (.inl h)),
      alignedItems_mapNum_of (fun s h => hs s (.inr h))
        (fun n h => hn n (.inr h))⟩

theorem alignedMembers_mapNum_of {E : Encoder ν} {F : Encoder μ} {f : ν → μ}
    {kvs : List (String × Json ν)} (hs : ∀ s ∈ stringsMembers kvs, E.str s = F.str s)
    (hn : ∀ n ∈ numbersMembers kvs, E.num n = F.num (f n)) :
    AlignedMembers E F kvs (mapNumMembers f kvs) := by
  match kvs with
  | [] => rw [mapNumMembers, AlignedMembers]; trivial
  | (k, v) :: kvs =>
    simp only [stringsMembers, numbersMembers, List.mem_append, List.mem_cons] at hs hn
    rw [mapNumMembers, AlignedMembers]
    exact ⟨hs k (.inl rfl), aligned_mapNum_of (fun s h => hs s (.inr (.inl h)))
        (fun n h => hn n (.inl h)), alignedMembers_mapNum_of (fun s h => hs s (.inr (.inr h)))
        (fun n h => hn n (.inr h))⟩

end

mutual

theorem leaves_of_aligned_mapNum {E : Encoder ν} {F : Encoder μ} {f : ν → μ}
    {v : Json ν} (h : Aligned E F v (mapNum f v)) : (∀ s ∈ strings v, E.str s = F.str s) ∧
      ∀ n ∈ numbers v, E.num n = F.num (f n) := by
  match v with
  | .null => simp [strings, numbers]
  | .bool b => simp [strings, numbers]
  | .num n => rw [mapNum, Aligned] at h; simpa [strings, numbers] using h
  | .str s => rw [mapNum, Aligned] at h; simpa [strings, numbers] using h
  | .arr xs =>
    rw [mapNum, Aligned] at h
    rw [strings, numbers]
    exact leaves_of_alignedItems_mapNum h
  | .obj kvs =>
    rw [mapNum, Aligned] at h
    rw [strings, numbers]
    exact leaves_of_alignedMembers_mapNum h

theorem leaves_of_alignedItems_mapNum {E : Encoder ν} {F : Encoder μ}
    {f : ν → μ} {xs : List (Json ν)} (h : AlignedItems E F xs (mapNumItems f xs)) :
    (∀ s ∈ stringsItems xs, E.str s = F.str s) ∧ ∀ n ∈ numbersItems xs, E.num n = F.num (f n) := by
  match xs with
  | [] => simp [stringsItems, numbersItems]
  | x :: xs =>
    rw [mapNumItems, AlignedItems] at h
    obtain ⟨h1, h2⟩ := leaves_of_aligned_mapNum h.1
    obtain ⟨h3, h4⟩ := leaves_of_alignedItems_mapNum h.2
    simp only [stringsItems, numbersItems, List.mem_append]
    exact ⟨fun s hs => hs.elim (h1 s) (h3 s), fun n hn => hn.elim (h2 n) (h4 n)⟩

theorem leaves_of_alignedMembers_mapNum {E : Encoder ν} {F : Encoder μ}
    {f : ν → μ} {kvs : List (String × Json ν)} (h : AlignedMembers E F kvs (mapNumMembers f kvs)) :
    (∀ s ∈ stringsMembers kvs, E.str s = F.str s) ∧
      ∀ n ∈ numbersMembers kvs, E.num n = F.num (f n) := by
  match kvs with
  | [] => simp [stringsMembers, numbersMembers]
  | (k, v) :: kvs =>
    rw [mapNumMembers, AlignedMembers] at h
    obtain ⟨h1, h2⟩ := leaves_of_aligned_mapNum h.2.1
    obtain ⟨h3, h4⟩ := leaves_of_alignedMembers_mapNum h.2.2
    simp only [stringsMembers, numbersMembers, List.mem_append, List.mem_cons]
    refine ⟨?_, fun n hn => hn.elim (h2 n) (h4 n)⟩
    rintro s (rfl | hs | hs)
    · exact h.1
    · exact h1 s hs
    · exact h3 s hs

end

/-- A tree and its renumbering are aligned exactly when every string and
every number of the tree is written alike. -/
theorem aligned_mapNum {E : Encoder ν} {F : Encoder μ} {f : ν → μ}
    {v : Json ν} : Aligned E F v (mapNum f v) ↔ (∀ s ∈ strings v, E.str s = F.str s) ∧
        ∀ n ∈ numbers v, E.num n = F.num (f n) :=
  ⟨leaves_of_aligned_mapNum, fun h => aligned_mapNum_of h.1 h.2⟩

/-- Two arrays built item by item are aligned when their items are. -/
theorem alignedItems_map {α : Type} {E : Encoder ν} {F : Encoder μ}
    {f : α → Json ν} {g : α → Json μ} {l : List α} :
    AlignedItems E F (l.map f) (l.map g) ↔ ∀ a ∈ l, Aligned E F (f a) (g a) := by
  induction l with
  | nil => simp [AlignedItems]
  | cons a l ih =>
    rw [List.map_cons, List.map_cons, AlignedItems, ih, List.forall_mem_cons]

/-! ## One encoder on two documents -/

mutual

theorem eq_of_aligned {E : Encoder ν} (hs : Function.Injective E.str)
    (hn : Function.Injective E.num) {v w : Json ν} (h : Aligned E E v w) : v = w := by
  match v, w with
  | .null, .null => rfl
  | .bool b, .bool c => rw [Aligned] at h; rw [h]
  | .num n, .num m => rw [Aligned] at h; rw [hn h]
  | .str s, .str t => rw [Aligned] at h; rw [hs h]
  | .arr xs, .arr ys => rw [Aligned] at h; rw [eq_of_alignedItems hs hn h]
  | .obj kvs, .obj lvs => rw [Aligned] at h; rw [eq_of_alignedMembers hs hn h]

theorem eq_of_alignedItems {E : Encoder ν} (hs : Function.Injective E.str)
    (hn : Function.Injective E.num) {xs ys : List (Json ν)}
    (h : AlignedItems E E xs ys) : xs = ys := by
  match xs, ys with
  | [], [] => rfl
  | x :: xs, y :: ys =>
    rw [AlignedItems] at h
    rw [eq_of_aligned hs hn h.1, eq_of_alignedItems hs hn h.2]

theorem eq_of_alignedMembers {E : Encoder ν} (hs : Function.Injective E.str)
    (hn : Function.Injective E.num) {kvs lvs : List (String × Json ν)}
    (h : AlignedMembers E E kvs lvs) : kvs = lvs := by
  match kvs, lvs with
  | [], [] => rfl
  | (k, v) :: kvs, (l, w) :: lvs =>
    rw [AlignedMembers] at h
    rw [hs h.1, eq_of_aligned hs hn h.2.1, eq_of_alignedMembers hs hn h.2.2]

end

/-- A text determines the tree it was written from. -/
theorem encode_inj {E : Encoder ν} (hs : Function.Injective E.str)
    (hn : Function.Injective E.num) {v w : Json ν} (h : encode E v = encode E w) : v = w :=
  eq_of_aligned hs hn (encode_eq_iff.mp h)

/-! ## Ordering the members

Ordering neither adds nor drops a leaf, commutes with renumbering, and does
not depend on the order relation beyond what it says about the names that
occur. -/

theorem insertMember_congr {le le' : String → String → Bool} {k : String}
    {v : Json ν} {kvs : List (String × Json ν)} (h : ∀ kv ∈ kvs, le k kv.1 = le' k kv.1) :
    insertMember le k v kvs = insertMember le' k v kvs := by
  induction kvs with
  | nil => rfl
  | cons kv kvs ih =>
    obtain ⟨k', v'⟩ := kv
    rw [insertMember, insertMember, h (k', v') (by simp), ih (fun kv hkv => h kv (by simp [hkv]))]

theorem mem_insertMember {le : String → String → Bool} {k : String}
    {v : Json ν} {kvs : List (String × Json ν)} {kv : String × Json ν} :
    kv ∈ insertMember le k v kvs ↔ kv = (k, v) ∨ kv ∈ kvs := by
  induction kvs with
  | nil => simp [insertMember]
  | cons kw kvs ih =>
    obtain ⟨k', v'⟩ := kw
    rw [insertMember]
    split
    · simp
    · simp only [List.mem_cons, ih]
      exact ⟨fun h => h.elim (fun h => .inr (.inl h))
          (fun h => h.elim .inl (fun h => .inr (.inr h))), fun h => h.elim (fun h => .inr (.inl h))
          (fun h => h.elim .inl (fun h => .inr (.inr h)))⟩

/-- The names of a sorted member list are names of the list. -/
theorem fst_mem_sortKeysMembers {le : String → String → Bool}
    {kvs : List (String × Json ν)} {kv : String × Json ν}
    (h : kv ∈ sortKeysMembers le kvs) : kv.1 ∈ keysMembers kvs := by
  induction kvs with
  | nil => rw [sortKeysMembers] at h; cases h
  | cons kw kvs ih =>
    obtain ⟨k, v⟩ := kw
    rw [sortKeysMembers] at h
    rw [keysMembers]
    rcases mem_insertMember.mp h with rfl | h
    · simp
    · simp [ih h]

mutual

theorem sortKeys_congr {le le' : String → String → Bool} {v : Json ν}
    (h : ∀ a ∈ keys v, ∀ b ∈ keys v, le a b = le' a b) : sortKeys le v = sortKeys le' v := by
  match v with
  | .null | .bool _ | .num _ | .str _ => rw [sortKeys, sortKeys]
  | .arr xs =>
    rw [keys] at h
    rw [sortKeys, sortKeys, sortKeysItems_congr h]
  | .obj kvs =>
    rw [keys] at h
    rw [sortKeys, sortKeys, sortKeysMembers_congr h]

theorem sortKeysItems_congr {le le' : String → String → Bool} {xs : List (Json ν)}
    (h : ∀ a ∈ keysItems xs, ∀ b ∈ keysItems xs, le a b = le' a b) :
    sortKeysItems le xs = sortKeysItems le' xs := by
  match xs with
  | [] => rw [sortKeysItems, sortKeysItems]
  | x :: xs =>
    simp only [keysItems, List.mem_append] at h
    rw [sortKeysItems, sortKeysItems, sortKeys_congr (fun a ha b hb => h a (.inl ha) b (.inl hb)),
      sortKeysItems_congr (fun a ha b hb => h a (.inr ha) b (.inr hb))]

theorem sortKeysMembers_congr {le le' : String → String → Bool} {kvs : List (String × Json ν)}
    (h : ∀ a ∈ keysMembers kvs, ∀ b ∈ keysMembers kvs, le a b = le' a b) :
    sortKeysMembers le kvs = sortKeysMembers le' kvs := by
  match kvs with
  | [] => rw [sortKeysMembers, sortKeysMembers]
  | (k, v) :: kvs =>
    simp only [keysMembers, List.mem_append, List.mem_cons] at h
    have hv : sortKeys le v = sortKeys le' v :=
      sortKeys_congr fun a ha b hb => h a (.inr (.inl ha)) b (.inr (.inl hb))
    have hkvs : sortKeysMembers le kvs = sortKeysMembers le' kvs :=
      sortKeysMembers_congr fun a ha b hb =>
        h a (.inr (.inr ha)) b (.inr (.inr hb))
    rw [sortKeysMembers, sortKeysMembers, hv, hkvs]
    exact insertMember_congr fun kv hkv =>
      h k (.inl rfl) kv.1 (.inr (.inr (fst_mem_sortKeysMembers hkv)))

end

mutual

theorem keys_mapNum {f : ν → μ} (v : Json ν) : keys (mapNum f v) = keys v := by
  match v with
  | .null | .bool _ | .num _ | .str _ => rfl
  | .arr xs => exact keysItems_mapNum xs
  | .obj kvs => exact keysMembers_mapNum kvs

theorem keysItems_mapNum {f : ν → μ} (xs : List (Json ν)) :
    keysItems (mapNumItems f xs) = keysItems xs := by
  match xs with
  | [] => rfl
  | x :: xs =>
    rw [mapNumItems, keysItems, keysItems, keys_mapNum x, keysItems_mapNum xs]

theorem keysMembers_mapNum {f : ν → μ} (kvs : List (String × Json ν)) :
    keysMembers (mapNumMembers f kvs) = keysMembers kvs := by
  match kvs with
  | [] => rfl
  | (k, v) :: kvs =>
    rw [mapNumMembers, keysMembers, keysMembers, keys_mapNum v, keysMembers_mapNum kvs]

end

theorem sortKeysItems_eq_map (le : String → String → Bool)
    (xs : List (Json ν)) : sortKeysItems le xs = xs.map (sortKeys le) := by
  induction xs with
  | nil => rfl
  | cons x xs ih => rw [sortKeysItems, ih, List.map_cons]

theorem mapNumItems_eq_map (f : ν → μ) (xs : List (Json ν)) :
    mapNumItems f xs = xs.map (mapNum f) := by
  induction xs with
  | nil => rfl
  | cons x xs ih => rw [mapNumItems, ih, List.map_cons]

theorem mapNumMembers_insertMember {le : String → String → Bool} {f : ν → μ}
    {k : String} {v : Json ν} {kvs : List (String × Json ν)} :
    mapNumMembers f (insertMember le k v kvs) =
      insertMember le k (mapNum f v) (mapNumMembers f kvs) := by
  induction kvs with
  | nil => simp [insertMember, mapNumMembers]
  | cons kw kvs ih =>
    obtain ⟨k', v'⟩ := kw
    rw [insertMember, mapNumMembers, insertMember]
    split
    · rw [mapNumMembers, mapNumMembers]
    · rw [mapNumMembers, ih]

mutual

theorem mapNum_sortKeys {le : String → String → Bool} {f : ν → μ}
    {v : Json ν} : mapNum f (sortKeys le v) = sortKeys le (mapNum f v) := by
  match v with
  | .null | .bool _ | .num _ | .str _ =>
    simp only [sortKeys, mapNum]
  | .arr xs => rw [sortKeys, mapNum, mapNum, sortKeys, mapNumItems_sortKeys]
  | .obj kvs => rw [sortKeys, mapNum, mapNum, sortKeys, mapNumMembers_sortKeys]

theorem mapNumItems_sortKeys {le : String → String → Bool} {f : ν → μ} {xs : List (Json ν)} :
    mapNumItems f (sortKeysItems le xs) = sortKeysItems le (mapNumItems f xs) := by
  match xs with
  | [] => simp only [sortKeysItems, mapNumItems]
  | x :: xs =>
    rw [sortKeysItems, mapNumItems, mapNumItems, sortKeysItems,
      mapNum_sortKeys, mapNumItems_sortKeys]

theorem mapNumMembers_sortKeys {le : String → String → Bool} {f : ν → μ}
    {kvs : List (String × Json ν)} : mapNumMembers f (sortKeysMembers le kvs) =
      sortKeysMembers le (mapNumMembers f kvs) := by
  match kvs with
  | [] => simp only [sortKeysMembers, mapNumMembers]
  | (k, v) :: kvs =>
    rw [sortKeysMembers, mapNumMembers_insertMember, mapNumMembers,
      sortKeysMembers, mapNum_sortKeys, mapNumMembers_sortKeys]

end

theorem mem_stringsMembers_insertMember {le : String → String → Bool}
    {k s : String} {v : Json ν} {kvs : List (String × Json ν)} :
    s ∈ stringsMembers (insertMember le k v kvs) ↔
      s = k ∨ s ∈ strings v ∨ s ∈ stringsMembers kvs := by
  induction kvs with
  | nil => simp [insertMember, stringsMembers]
  | cons kw kvs ih =>
    obtain ⟨k', v'⟩ := kw
    rw [insertMember]
    split
    · simp [stringsMembers]
    · simp only [stringsMembers, List.mem_cons, List.mem_append, ih]
      tauto

theorem mem_numbersMembers_insertMember {le : String → String → Bool}
    {k : String} {n : ν} {v : Json ν} {kvs : List (String × Json ν)} :
    n ∈ numbersMembers (insertMember le k v kvs) ↔ n ∈ numbers v ∨ n ∈ numbersMembers kvs := by
  induction kvs with
  | nil => simp [insertMember, numbersMembers]
  | cons kw kvs ih =>
    obtain ⟨k', v'⟩ := kw
    rw [insertMember]
    split
    · simp [numbersMembers]
    · simp only [numbersMembers, List.mem_append, ih]
      tauto

mutual

theorem mem_strings_sortKeys {le : String → String → Bool} {s : String}
    {v : Json ν} : s ∈ strings (sortKeys le v) ↔ s ∈ strings v := by
  match v with
  | .null | .bool _ | .num _ | .str _ => rw [sortKeys]
  | .arr xs => rw [sortKeys, strings, strings, mem_stringsItems_sortKeys]
  | .obj kvs => rw [sortKeys, strings, strings, mem_stringsMembers_sortKeys]

theorem mem_stringsItems_sortKeys {le : String → String → Bool} {s : String} {xs : List (Json ν)} :
    s ∈ stringsItems (sortKeysItems le xs) ↔ s ∈ stringsItems xs := by
  match xs with
  | [] => rw [sortKeysItems]
  | x :: xs =>
    rw [sortKeysItems, stringsItems, stringsItems, List.mem_append,
      List.mem_append, mem_strings_sortKeys, mem_stringsItems_sortKeys]

theorem mem_stringsMembers_sortKeys {le : String → String → Bool} {s : String}
    {kvs : List (String × Json ν)} :
    s ∈ stringsMembers (sortKeysMembers le kvs) ↔ s ∈ stringsMembers kvs := by
  match kvs with
  | [] => rw [sortKeysMembers]
  | (k, v) :: kvs =>
    rw [sortKeysMembers, mem_stringsMembers_insertMember, stringsMembers,
      List.mem_cons, List.mem_append, mem_strings_sortKeys, mem_stringsMembers_sortKeys]

end

mutual

theorem mem_numbers_sortKeys {le : String → String → Bool} {n : ν}
    {v : Json ν} : n ∈ numbers (sortKeys le v) ↔ n ∈ numbers v := by
  match v with
  | .null | .bool _ | .num _ | .str _ => rw [sortKeys]
  | .arr xs => rw [sortKeys, numbers, numbers, mem_numbersItems_sortKeys]
  | .obj kvs => rw [sortKeys, numbers, numbers, mem_numbersMembers_sortKeys]

theorem mem_numbersItems_sortKeys {le : String → String → Bool} {n : ν} {xs : List (Json ν)} :
    n ∈ numbersItems (sortKeysItems le xs) ↔ n ∈ numbersItems xs := by
  match xs with
  | [] => rw [sortKeysItems]
  | x :: xs =>
    rw [sortKeysItems, numbersItems, numbersItems, List.mem_append,
      List.mem_append, mem_numbers_sortKeys, mem_numbersItems_sortKeys]

theorem mem_numbersMembers_sortKeys {le : String → String → Bool} {n : ν}
    {kvs : List (String × Json ν)} :
    n ∈ numbersMembers (sortKeysMembers le kvs) ↔ n ∈ numbersMembers kvs := by
  match kvs with
  | [] => rw [sortKeysMembers]
  | (k, v) :: kvs =>
    rw [sortKeysMembers, mem_numbersMembers_insertMember, numbersMembers,
      List.mem_append, mem_numbers_sortKeys, mem_numbersMembers_sortKeys]

end

/-! ## Looking up a member -/

/-- The members of an object. -/
def members : Json ν → List (String × Json ν)
  | .obj kvs => kvs
  | _ => []

theorem lookup_mapNumMembers {f : ν → μ} (name : String) (kvs : List (String × Json ν)) :
    (mapNumMembers f kvs).lookup name = (kvs.lookup name).map (mapNum f) := by
  induction kvs with
  | nil => rfl
  | cons kv kvs ih =>
    obtain ⟨k, v⟩ := kv
    rw [mapNumMembers, List.lookup_cons, List.lookup_cons, ih]
    cases name == k <;> rfl

theorem lookup_insertMember {le : String → String → Bool} {name k : String}
    {v : Json ν} {kvs : List (String × Json ν)} (h : k ∉ kvs.map Prod.fst) :
    (insertMember le k v kvs).lookup name = ((k, v) :: kvs).lookup name := by
  induction kvs with
  | nil => rfl
  | cons kv kvs ih =>
    obtain ⟨k', v'⟩ := kv
    rw [List.map_cons, List.mem_cons, not_or] at h
    rw [insertMember]
    split
    · rfl
    · rw [List.lookup_cons, ih h.2, List.lookup_cons, List.lookup_cons, List.lookup_cons]
      -- The name cannot be that of both members.
      cases hk : name == k with
      | false => rfl
      | true =>
        cases hk' : name == k' with
        | false => rfl
        | true =>
          exact absurd ((beq_iff_eq.mp hk).symm.trans (beq_iff_eq.mp hk'))
            h.1

theorem map_fst_sortKeysMembers {le : String → String → Bool} {name : String}
    {kvs : List (String × Json ν)} :
    name ∈ (sortKeysMembers le kvs).map Prod.fst ↔ name ∈ kvs.map Prod.fst := by
  induction kvs with
  | nil => rfl
  | cons kv kvs ih =>
    obtain ⟨k, v⟩ := kv
    rw [List.mem_map] at ih ⊢
    simp only [sortKeysMembers, mem_insertMember, List.map_cons, List.mem_cons, ← ih]
    refine ⟨?_, ?_⟩
    · intro h
      obtain ⟨kv, rfl | hkv, rfl⟩ := h
      · exact .inl rfl
      · exact .inr ⟨kv, hkv, rfl⟩
    · intro h
      rcases h with rfl | ⟨kv, hkv, rfl⟩
      · exact ⟨_, .inl rfl, rfl⟩
      · exact ⟨kv, .inr hkv, rfl⟩

/-- Ordering distinct names does not change what a name stands for. -/
theorem lookup_sortKeysMembers {le : String → String → Bool} (name : String)
    {kvs : List (String × Json ν)} (h : (kvs.map Prod.fst).Nodup) :
    (sortKeysMembers le kvs).lookup name = (kvs.lookup name).map (sortKeys le) := by
  induction kvs with
  | nil => rfl
  | cons kv kvs ih =>
    obtain ⟨k, v⟩ := kv
    rw [List.map_cons, List.nodup_cons] at h
    rw [sortKeysMembers, lookup_insertMember (map_fst_sortKeysMembers.not.mpr h.1),
      List.lookup_cons, List.lookup_cons, ih h.2]
    cases name == k <;> rfl

/-! ## Numbers that stay and names that differ -/

mutual

theorem mapNum_id (v : Json ν) : v.mapNum id = v := by
  match v with
  | .null | .bool _ | .num _ | .str _ => rfl
  | .arr xs => rw [mapNum, mapNumItems_id xs]
  | .obj kvs => rw [mapNum, mapNumMembers_id kvs]

theorem mapNumItems_id (xs : List (Json ν)) : mapNumItems id xs = xs := by
  match xs with
  | [] => rfl
  | x :: xs => rw [mapNumItems, mapNum_id x, mapNumItems_id xs]

theorem mapNumMembers_id (kvs : List (String × Json ν)) : mapNumMembers id kvs = kvs := by
  match kvs with
  | [] => rfl
  | (k, v) :: kvs => rw [mapNumMembers, mapNum_id v, mapNumMembers_id kvs]

end

mutual

/-- No object has a name twice. -/
def Distinct : Json ν → Prop
  | .arr xs => DistinctItems xs
  | .obj kvs => (kvs.map Prod.fst).Nodup ∧ DistinctMembers kvs
  | _ => True

def DistinctItems : List (Json ν) → Prop
  | [] => True
  | x :: xs => Distinct x ∧ DistinctItems xs

def DistinctMembers : List (String × Json ν) → Prop
  | [] => True
  | (_, v) :: kvs => Distinct v ∧ DistinctMembers kvs

end

theorem distinctItems_iff {xs : List (Json ν)} : DistinctItems xs ↔ ∀ x ∈ xs, x.Distinct := by
  induction xs with
  | nil => simp [DistinctItems]
  | cons x xs ih => rw [DistinctItems, List.forall_mem_cons, ih]

theorem distinctMembers_iff {kvs : List (String × Json ν)} :
    DistinctMembers kvs ↔ ∀ kv ∈ kvs, kv.2.Distinct := by
  induction kvs with
  | nil => simp [DistinctMembers]
  | cons kv kvs ih => rw [DistinctMembers, List.forall_mem_cons, ih]

theorem length_mapNumMembers {f : ν → μ} (kvs : List (String × Json ν)) :
    (mapNumMembers f kvs).length = kvs.length := by
  induction kvs with
  | nil => rfl
  | cons kv kvs ih =>
    obtain ⟨k, v⟩ := kv
    rw [mapNumMembers, List.length_cons, List.length_cons, ih]

/-- A member of an object is what its name stands for. -/
theorem lookup_of_mem {kvs : List (String × Json ν)} (h : (kvs.map Prod.fst).Nodup)
    {k : String} {v : Json ν} (hm : (k, v) ∈ kvs) : kvs.lookup k = some v := by
  induction kvs with
  | nil => cases hm
  | cons kv kvs ih =>
    obtain ⟨k', v'⟩ := kv
    rw [List.map_cons, List.nodup_cons] at h
    rw [List.lookup_cons]
    rcases List.mem_cons.mp hm with heq | htail
    · cases heq
      rw [beq_self_eq_true]
    · have hne : k ≠ k' := by
        rintro rfl
        exact h.1 (List.mem_map.mpr ⟨_, htail, rfl⟩)
      rw [beq_false_of_ne hne]
      exact ih h.2 htail

end Json

end Bifrostnms.Lib
