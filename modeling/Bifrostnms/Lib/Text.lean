import Mathlib.Data.Char
import Mathlib.Data.List.Lex
import Mathlib.Tactic.IntervalCases

/-!
# Bytes, hexadecimal text and the order of keys

What two programs in two languages share about text is its UTF-8 bytes. This
file keeps the little that a comparison of them needs: the encoding and its
injectivity, lower-case hexadecimal and the text of a UUID, comparison up to
letter case, and the two orders in which object keys are sorted, by code
point and by encoded byte, which agree on ASCII (`utf8Le_eq_codePointLe`).
-/

namespace Bifrostnms.Lib

/-! ## UTF-8 -/

/-- The bytes of a text. -/
def utf8 (l : List Char) : List UInt8 := l.flatMap String.utf8EncodeChar

theorem utf8_append (l m : List Char) : utf8 (l ++ m) = utf8 l ++ utf8 m :=
  List.flatMap_append

theorem utf8_inj {l m : List Char} : utf8 l = utf8 m ↔ l = m := by
  constructor
  · intro h
    have hb : l.utf8Encode = m.utf8Encode := congrArg List.toByteArray h
    rw [← String.toByteArray_ofList, ← String.toByteArray_ofList,
      String.toByteArray_inj, String.ofList_inj] at hb
    exact hb
  · exact congrArg utf8

/-- No text has more characters than bytes. -/
theorem length_le_length_utf8 (l : List Char) : l.length ≤ (utf8 l).length := by
  induction l with
  | nil => exact Nat.le_refl _
  | cons c l ih =>
    have hchar : 1 ≤ (String.utf8EncodeChar c).length := by
      rw [String.length_utf8EncodeChar]
      exact c.utf8Size_pos
    rw [utf8] at ih ⊢
    rw [List.flatMap_cons, List.length_append, List.length_cons]
    omega

/-! ## The order of keys -/

/-- The order of code points, in which `sorted` puts strings. -/
def codePointLe (a b : String) : Bool :=
  a.toList.map Char.toNat ≤ b.toList.map Char.toNat

/-- The order of bytes, in which `encoding/json` puts map keys. -/
def utf8Le (a b : String) : Bool :=
  (utf8 a.toList).map UInt8.toNat ≤ (utf8 b.toList).map UInt8.toNat

def isAscii (s : String) : Bool := s.toList.all fun c => c.toNat < 128

theorem utf8_ascii {l : List Char} (h : ∀ c ∈ l, c.toNat < 128) :
    (utf8 l).map UInt8.toNat = l.map Char.toNat := by
  induction l with
  | nil => rfl
  | cons c l ih =>
    have hc : c.toNat < 128 := h c (by simp)
    have hone : String.utf8EncodeChar c = [UInt8.ofNat c.toNat] := by
      unfold String.utf8EncodeChar
      exact if_pos (Nat.lt_succ_iff.mp hc)
    have hval : (UInt8.ofNat c.toNat).toNat = c.toNat :=
      UInt8.toNat_ofNat_of_lt (by
        have : UInt8.size = 256 := rfl
        omega)
    have ih := ih fun c' hc' => h c' (by simp [hc'])
    rw [utf8] at ih ⊢
    simp [hone, hval, ih]

theorem length_utf8_ascii {l : List Char} (h : ∀ c ∈ l, c.toNat < 128) :
    (utf8 l).length = l.length := by
  have hlen := congrArg List.length (utf8_ascii h)
  rwa [List.length_map, List.length_map] at hlen

theorem toNat_lt_of_isAlphanum {c : Char} (h : c.isAlphanum = true) : c.toNat < 128 := by
  replace h : ((decide ('A'.val ≤ c.val ∧ c.val ≤ 'Z'.val) ||
      decide ('a'.val ≤ c.val) && decide (c.val ≤ 'z'.val)) ||
      decide ('0'.val ≤ c.val) && decide (c.val ≤ '9'.val)) = true := h
  simp only [Bool.or_eq_true, Bool.and_eq_true, decide_eq_true_eq, UInt32.le_iff_toNat_le] at h
  have hval : c.toNat = c.val.toNat := rfl
  have hZ : 'Z'.val.toNat = 90 := rfl
  have hz : 'z'.val.toNat = 122 := rfl
  have h9 : '9'.val.toNat = 57 := rfl
  omega

theorem utf8Le_eq_codePointLe {a b : String} (ha : isAscii a = true)
    (hb : isAscii b = true) : utf8Le a b = codePointLe a b := by
  simp only [isAscii, List.all_eq_true, decide_eq_true_eq] at ha hb
  unfold utf8Le codePointLe
  rw [utf8_ascii ha, utf8_ascii hb]

theorem utf8Le_total (a b : String) : utf8Le a b = true ∨ utf8Le b a = true := by
  rw [utf8Le, utf8Le, decide_eq_true_iff, decide_eq_true_iff]
  exact le_total _ _

theorem utf8Le_trans {a b c : String} (hab : utf8Le a b = true) (hbc : utf8Le b c = true) :
    utf8Le a c = true := by
  rw [utf8Le, decide_eq_true_iff] at hab hbc ⊢
  exact hab.trans hbc

theorem utf8Le_antisymm {a b : String} (hab : utf8Le a b = true) (hba : utf8Le b a = true) :
    a = b := by
  rw [utf8Le, decide_eq_true_iff] at hab hba
  have hbytes : utf8 a.toList = utf8 b.toList :=
    List.map_injective_iff.mpr (fun _ _ => UInt8.toNat_inj.mp) (le_antisymm hab hba)
  exact String.toList_inj.mp (utf8_inj.mp hbytes)

/-! ## Hexadecimal -/

def hexByte (b : UInt8) : List Char :=
  [Nat.digitChar (b.toNat / 16), Nat.digitChar (b.toNat % 16)]

/-- Lower-case hexadecimal, two digits a byte. -/
def hexText (bs : List UInt8) : List Char := bs.flatMap hexByte

theorem digitChar_inj {m n : ℕ} (hm : m < 16) (hn : n < 16)
    (h : Nat.digitChar m = Nat.digitChar n) : m = n := by
  interval_cases m <;> interval_cases n <;> first | rfl | exact absurd h (by decide)

theorem hexText_inj {as bs : List UInt8} (h : hexText as = hexText bs) : as = bs := by
  induction as generalizing bs with
  | nil =>
    cases bs with
    | nil => rfl
    | cons b bs => exact absurd h (by simp [hexText, hexByte])
  | cons a as ih =>
    cases bs with
    | nil => exact absurd h (by simp [hexText, hexByte])
    | cons b bs =>
      simp only [hexText, List.flatMap_cons, hexByte, List.cons_append,
        List.nil_append, List.cons.injEq] at h
      have ha := a.toNat_lt
      have hb := b.toNat_lt
      have hq := digitChar_inj (by omega) (by omega) h.1
      have hr := digitChar_inj (by omega) (by omega) h.2.1
      have hab : a = b := UInt8.toNat_inj.mp (by omega)
      rw [hab, ih h.2.2]

/-- A character of a hexadecimal text. -/
def isHex (c : Char) : Prop := ∃ n < 16, c = Nat.digitChar n

theorem isHex_of_mem_hexText {bs : List UInt8} {c : Char} (h : c ∈ hexText bs) : isHex c := by
  obtain ⟨b, _, hc⟩ := List.mem_flatMap.mp h
  have hb := b.toNat_lt
  simp only [hexByte, List.mem_cons, List.not_mem_nil, or_false] at hc
  rcases hc with rfl | rfl
  · exact ⟨_, by omega, rfl⟩
  · exact ⟨_, by omega, rfl⟩

/-! ## UUIDs -/

/-- Sixteen bytes. -/
structure Uuid where
  bytes : List UInt8
  length_eq : bytes.length = 16
deriving DecidableEq

/-- The UUID that repeats one byte. -/
def Uuid.ofByte (n : UInt8) : Uuid := ⟨List.replicate 16 n, by simp⟩

/-- The canonical text, in groups of 8, 4, 4, 4 and 12 digits. -/
def Uuid.chars (u : Uuid) : List Char :=
  hexText (u.bytes.take 4) ++ '-' :: (hexText ((u.bytes.drop 4).take 2) ++
    '-' :: (hexText ((u.bytes.drop 6).take 2) ++ '-' :: (hexText ((u.bytes.drop 8).take 2) ++
        '-' :: hexText (u.bytes.drop 10))))

def Uuid.text (u : Uuid) : String := String.ofList u.chars

theorem Uuid.mem_chars {u : Uuid} {c : Char} (h : c ∈ u.chars) : isHex c ∨ c = '-' := by
  simp only [Uuid.chars, List.mem_append, List.mem_cons] at h
  rcases h with h | h | h | h | h | h | h | h | h
  all_goals first
    | exact .inr h
    | exact .inl (isHex_of_mem_hexText h)

theorem length_hexText (bs : List UInt8) : (hexText bs).length = 2 * bs.length := by
  induction bs with
  | nil => rfl
  | cons b bs ih =>
    rw [hexText, List.flatMap_cons, List.length_append, ← hexText, ih, hexByte, List.length_cons]
    simp
    omega

theorem Uuid.length_chars (u : Uuid) : u.chars.length = 36 := by
  have := u.length_eq
  simp only [Uuid.chars, List.length_append, List.length_cons, length_hexText,
    List.length_take, List.length_drop]
  omega

/-- Groups of equal length are compared one by one. -/
theorem hexText_group {as bs : List UInt8} {r r' : List Char} (hlen : as.length = bs.length)
    (h : hexText as ++ '-' :: r = hexText bs ++ '-' :: r') : as = bs ∧ r = r' := by
  have hlen' : (hexText as).length = (hexText bs).length := by
    rw [length_hexText, length_hexText, hlen]
  obtain ⟨h1, h2⟩ := List.append_inj h hlen'
  exact ⟨hexText_inj h1, (List.cons.inj h2).2⟩

theorem Uuid.text_inj {u v : Uuid} : u.text = v.text ↔ u = v := by
  constructor
  · intro h
    have h := String.ofList_inj.mp h
    obtain ⟨a, ha⟩ := u
    obtain ⟨b, hb⟩ := v
    simp only [Uuid.chars] at h
    obtain ⟨h1, h⟩ := hexText_group (by simp [ha, hb]) h
    obtain ⟨h2, h⟩ := hexText_group (by simp [ha, hb]) h
    obtain ⟨h3, h⟩ := hexText_group (by simp [ha, hb]) h
    obtain ⟨h4, h⟩ := hexText_group (by simp [ha, hb]) h
    have h5 := hexText_inj h
    have hsplit : ∀ l : List UInt8, l = l.take 4 ++ ((l.drop 4).take 2 ++
        ((l.drop 6).take 2 ++ ((l.drop 8).take 2 ++ l.drop 10))) := by
      intro l
      have hcut : ∀ n k, (l.drop n).take k ++ l.drop (n + k) = l.drop n := by
        intro n k
        rw [← List.drop_drop]
        exact List.take_append_drop k (l.drop n)
      rw [hcut 8 2, hcut 6 2, hcut 4 2, List.take_append_drop]
    have hab : a = b := by
      rw [hsplit a, hsplit b, h1, h2, h3, h4, h5]
    simp [hab]
  · exact congrArg Uuid.text

/-! ## Comparison up to letter case -/

theorem toLower_of_le {c : Char} (h : 128 ≤ c.toNat) : c.toLower = c := by
  refine dif_neg ?_
  rintro ⟨-, hle⟩
  have hval : c.val.toNat ≤ 90 := UInt32.le_iff_toNat_le.mp hle
  exact absurd (h.trans hval) (by decide)

theorem toUpper_of_le {c : Char} (h : 128 ≤ c.toNat) : c.toUpper = c := by
  refine dif_neg ?_
  rintro ⟨-, hle⟩
  have hval : c.val.toNat ≤ 122 := UInt32.le_iff_toNat_le.mp hle
  exact absurd (h.trans hval) (by decide)

/-- What holds of the ASCII characters, one by one. -/
theorem forall_ascii {P : Char → Prop} (h : ∀ n < 128, P (Char.ofNat n)) {c : Char}
    (hc : c.toNat < 128) : P c :=
  Char.ofNat_toNat c ▸ h c.toNat hc

/-- And of all others. -/
theorem forall_char {P : Char → Prop} (hascii : ∀ n < 128, P (Char.ofNat n))
    (hother : ∀ c, 128 ≤ c.toNat → P c) (c : Char) : P c := by
  by_cases hc : c.toNat < 128
  · exact forall_ascii hascii hc
  · exact hother c (not_lt.mp hc)

theorem toLower_toUpper (c : Char) : c.toUpper.toLower = c.toLower := by
  refine forall_char (P := fun c => c.toUpper.toLower = c.toLower) (by decide) ?_ c
  intro c hc
  rw [toUpper_of_le hc]

theorem toLower_toLower (c : Char) : c.toLower.toLower = c.toLower := by
  refine forall_char (P := fun c => c.toLower.toLower = c.toLower) (by decide) ?_ c
  intro c hc
  rw [toLower_of_le hc, toLower_of_le hc]

/-- The lower-case letter a character folds to; besides the capitals, the
long s and the Kelvin sign fold to ASCII letters. -/
def foldChar (c : Char) : Char :=
  if c.toNat = 383 then 's'
  else if c.toNat = 8490 then 'k'
  else c.toLower

/-- `strings.EqualFold` on a text whose letters are ASCII. -/
def equalFold (a b : List Char) : Bool := a.map foldChar = b.map foldChar

theorem foldChar_hex {c : Char} (h : isHex c) : foldChar c = c := by
  obtain ⟨n, hn, rfl⟩ := h
  interval_cases n <;> decide

theorem map_foldChar_hex (bs : List UInt8) : (hexText bs).map foldChar = hexText bs := by
  conv_rhs => rw [← List.map_id (hexText bs)]
  exact List.map_congr_left fun c hc => foldChar_hex (isHex_of_mem_hexText hc)

/-- Two digests that differ are told apart after any common text. -/
theorem equalFold_hexText {p : List Char} {as bs : List UInt8} :
    equalFold (p ++ hexText as) (p ++ hexText bs) = true ↔ as = bs := by
  unfold equalFold
  rw [decide_eq_true_iff, List.map_append, List.map_append,
    map_foldChar_hex, map_foldChar_hex, List.append_cancel_left_eq]
  exact ⟨hexText_inj, congrArg hexText⟩

end Bifrostnms.Lib
