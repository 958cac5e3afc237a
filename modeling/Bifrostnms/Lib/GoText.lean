import Bifrostnms.Lib.Text

/-!
# Go strings

A Go string is a list of bytes that need not be UTF-8. Ranging over it, mapping it
and encoding it as JSON all read it rune by rune, and a byte that begins no valid
encoding is read as U+FFFD (`runes`). So there are at most as many runes as bytes,
valid text is read back (`runes_utf8`), and an ASCII byte at the end is a rune of its
own whatever stands before it (`runes_concat`).
-/

namespace Bifrostnms.Lib

/-! ## Runes -/

/-- The character at the front of the bytes, if they begin with a valid encoding. -/
def decodeRune (bytes : List UInt8) : Option Char :=
  bytes.toByteArray.utf8DecodeChar? 0

theorem decodeRune_encode (c : Char) (rest : List UInt8) :
    decodeRune (String.utf8EncodeChar c ++ rest) = some c := by
  rw [decodeRune, List.toByteArray_append]
  exact ByteArray.utf8DecodeChar?_utf8EncodeChar_append

theorem encode_of_decodeRune {bytes : List UInt8} {c : Char} (h : decodeRune bytes = some c) :
    bytes = String.utf8EncodeChar c ++ bytes.drop c.utf8Size := by
  obtain ⟨l, hl⟩ := ByteArray.exists_of_utf8DecodeChar?_eq_some h
  have hlist := congrArg (fun b : ByteArray => b.data.toList) hl
  simp only [List.data_toByteArray, ByteArray.data_append, Array.toList_append] at hlist
  have hdrop : bytes.drop c.utf8Size = l.data.toList := by
    rw [hlist, ← String.length_utf8EncodeChar, List.drop_left]
  rw [hdrop]
  exact hlist

/-- The runes of a string. -/
def runes : List UInt8 → List Char
  | [] => []
  | b :: bs =>
    match decodeRune (b :: bs) with
    | some c => c :: runes ((b :: bs).drop c.utf8Size)
    | none => '\uFFFD' :: runes bs
termination_by bytes => bytes.length
decreasing_by
  · have hsize := c.utf8Size_pos
    rw [List.length_drop, List.length_cons]
    omega
  · exact Nat.lt_succ_self _

theorem runes_encode (c : Char) (rest : List UInt8) :
    runes (String.utf8EncodeChar c ++ rest) = c :: runes rest := by
  have hdecode := decodeRune_encode c rest
  have hdrop : (String.utf8EncodeChar c ++ rest).drop c.utf8Size = rest := by
    rw [← String.length_utf8EncodeChar, List.drop_left]
  cases hbytes : String.utf8EncodeChar c ++ rest with
  | nil =>
    have hlen := congrArg List.length hbytes
    rw [List.length_append, String.length_utf8EncodeChar, List.length_nil] at hlen
    have hsize := c.utf8Size_pos
    omega
  | cons b bs =>
    rw [hbytes] at hdecode hdrop
    rw [runes, hdecode]
    simp only [hdrop]

theorem runes_utf8 (cs : List Char) : runes (utf8 cs) = cs := by
  induction cs with
  | nil => rw [utf8, List.flatMap_nil, runes]
  | cons c cs ih =>
    rw [utf8] at ih ⊢
    rw [List.flatMap_cons, runes_encode, ih]

theorem length_runes_le (bytes : List UInt8) : (runes bytes).length ≤ bytes.length := by
  fun_induction runes bytes with
  | case1 => exact Nat.le_refl _
  | case2 b bs c hc ih =>
    have hsize := c.utf8Size_pos
    rw [List.length_drop, List.length_cons] at ih
    rw [List.length_cons, List.length_cons]
    omega
  | case3 b bs hnone ih =>
    rw [List.length_cons, List.length_cons]
    omega

theorem runes_eq_nil_iff {bytes : List UInt8} : runes bytes = [] ↔ bytes = [] := by
  constructor
  · intro h
    fun_cases runes bytes with
    | case1 => rfl
    | case2 b bs c hc =>
      rw [runes, hc] at h
      cases h
    | case3 b bs hnone =>
      rw [runes, hnone] at h
      cases h
  · rintro rfl
    rw [runes]

theorem utf8_ne_nil {l : List Char} (h : l ≠ []) : utf8 l ≠ [] := by
  rw [ne_eq, ← runes_eq_nil_iff, runes_utf8]
  exact h

/-- The bytes of a character after the first are not ASCII. -/
theorem le_last_of_encode {c : Char} {bytes : List UInt8} {b : UInt8}
    (h : String.utf8EncodeChar c = bytes ++ [b]) (hne : bytes ≠ []) : 128 ≤ b.toNat := by
  have hcontinuation (n : ℕ) : 128 ≤ (UInt8.ofNat (n % 64 + 128)).toNat := by
    rw [UInt8.toNat_ofNat_of_lt' (by show _ < 256; omega)]
    omega
  have hlast : (String.utf8EncodeChar c).getLast? = some b := by
    rw [h, List.getLast?_concat]
  have hlen : 1 < (String.utf8EncodeChar c).length := by
    rw [h, List.length_append, List.length_singleton]
    exact Nat.lt_add_of_pos_left (List.length_pos_iff.mpr hne)
  unfold String.utf8EncodeChar at hlast hlen
  dsimp only at hlast hlen
  split_ifs at hlast hlen
  · exact (Nat.lt_irrefl 1 hlen).elim
  · obtain rfl := Option.some.inj hlast
    exact hcontinuation _
  · obtain rfl := Option.some.inj hlast
    exact hcontinuation _
  · obtain rfl := Option.some.inj hlast
    exact hcontinuation _

/-- An ASCII byte after bytes that begin no character does not complete one. -/
theorem decodeRune_concat_none {bytes : List UInt8} {b : UInt8} (hb : b.toNat < 128)
    (hne : bytes ≠ []) (h : decodeRune bytes = none) : decodeRune (bytes ++ [b]) = none := by
  cases hdecode : decodeRune (bytes ++ [b]) with
  | none => rfl
  | some c =>
    have henc := encode_of_decodeRune hdecode
    rcases List.eq_nil_or_concat ((bytes ++ [b]).drop c.utf8Size) with hrest | ⟨rest, x, hrest⟩
    · rw [hrest, List.append_nil] at henc
      have hlast := le_last_of_encode henc.symm hne
      omega
    · rw [hrest, List.concat_eq_append, ← List.append_assoc] at henc
      obtain ⟨hfront, -⟩ := List.append_inj' henc rfl
      rw [hfront, decodeRune_encode] at h
      cases h

/-- An ASCII byte at the end is a rune of its own. -/
theorem runes_concat (bytes : List UInt8) {b : UInt8} (hb : b.toNat < 128) :
    runes (bytes ++ [b]) = runes bytes ++ runes [b] := by
  fun_induction runes bytes with
  | case1 => rfl
  | case2 b' bs c hc ih =>
    have henc := congrArg (· ++ [b]) (encode_of_decodeRune hc)
    simp only [List.append_assoc] at henc
    rw [henc, runes_encode, ih, List.cons_append]
  | case3 b' bs hnone ih =>
    rw [List.cons_append, runes, ← List.cons_append,
      decodeRune_concat_none hb (List.cons_ne_nil _ _) hnone]
    simp only [ih, List.cons_append]

/-- The text that a string is encoded as in JSON. -/
def goText (s : List UInt8) : String := String.ofList (runes s)

theorem length_goText_le (s : List UInt8) : (goText s).length ≤ s.length := by
  rw [goText, String.length_ofList]
  exact length_runes_le s

theorem length_goText_pos {s : List UInt8} : 1 ≤ (goText s).length ↔ s ≠ [] := by
  rw [goText, String.length_ofList, Nat.one_le_iff_ne_zero, ne_eq, List.length_eq_zero_iff,
    runes_eq_nil_iff]

/-! ## The functions of `strings` -/

/-- `strings.TrimSuffix`. -/
def trimSuffix {α : Type} [BEq α] (s suffix : List α) : List α :=
  if suffix.isSuffixOf s then s.take (s.length - suffix.length) else s

theorem trimSuffix_append {α : Type} [BEq α] [LawfulBEq α] (s suffix : List α) :
    trimSuffix (s ++ suffix) suffix = s := by
  have hsuffix : suffix.isSuffixOf (s ++ suffix) = true :=
    List.isSuffixOf_iff_suffix.mpr (List.suffix_append s suffix)
  rw [trimSuffix, if_pos hsuffix, List.length_append, Nat.add_sub_cancel, List.take_left]

theorem length_trimSuffix_le {α : Type} [BEq α] (s suffix : List α) :
    (trimSuffix s suffix).length ≤ s.length := by
  rw [trimSuffix]
  split
  · exact (List.take_prefix _ _).length_le
  · exact Nat.le_refl _

theorem trimSuffix_eq_self {α : Type} [BEq α] [LawfulBEq α] {s : List α} {a : α}
    (h : s.getLast? ≠ some a) : trimSuffix s [a] = s := by
  refine if_neg fun hsuffix => h ?_
  obtain ⟨t, rfl⟩ := List.isSuffixOf_iff_suffix.mp hsuffix
  exact List.getLast?_concat

/-- `unicode.IsSpace`. -/
def isGoSpace (c : Char) : Bool :=
  c ∈ ['\t', '\n', '\u000B', '\u000C', '\r', ' ', '\u0085', '\u00A0', '\u1680', '\u2028',
    '\u2029', '\u202F', '\u205F', '\u3000'] ∨ '\u2000' ≤ c ∧ c ≤ '\u200A'

/-- `strings.TrimSpace` of valid text. -/
def trimSpace (s : List Char) : List Char :=
  ((s.dropWhile isGoSpace).reverse.dropWhile isGoSpace).reverse

/-- The case mappings of `unicode`. -/
structure CaseMapping where
  lower : Char → Char
  upper : Char → Char
  lower_ascii : ∀ c, c.toNat < 128 → lower c = c.toLower
  upper_ascii : ∀ c, c.toNat < 128 → upper c = c.toUpper

/-- The mapping of ASCII letters alone. -/
def asciiMapping : CaseMapping where
  lower := Char.toLower
  upper := Char.toUpper
  lower_ascii := fun _ _ => rfl
  upper_ascii := fun _ _ => rfl

/-- `strings.ToLower`. -/
def toLower (unicode : CaseMapping) (s : List UInt8) : List UInt8 :=
  utf8 ((runes s).map unicode.lower)

end Bifrostnms.Lib
