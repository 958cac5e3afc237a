import Bifrostnms.Lib.GoText
import Bifrostnms.Lib.Ip
import Bifrostnms.Lib.Trim
import Bifrostnms.Proofs.ProbeConfiguration

/-!
# Normalized names

The server normalizes a name with `strip`, `rstrip(".")` and `lower`, and the agent with
`TrimSpace`, `TrimSuffix` and `ToLower`. What Python's functions do beyond ASCII comes from
the Unicode tables; what is needed of it is assumed (`LawfulText`): `strip` takes white
space off both ends, and `lower` puts one or more characters in the place of each, which
are not changed when they are lowered once more.

A normalized name then begins with no white space and ends with no full stop, and it
consists of characters that lowering leaves alone. It may still end with white space, which
stood before the full stops, and it may be longer than the name that was given.
-/

namespace Bifrostnms.Proofs

open Bifrostnms.Lib Bifrostnms.Backend

/-! ## Python's text functions -/

/-- `str.isspace`. Python has the four separators of ASCII beside what Go has. -/
def isPySpace (c : Char) : Bool := isGoSpace c || 28 ≤ c.toNat && c.toNat ≤ 31

theorem isGoSpace_of_isPySpace {c : Char} (h : isPySpace c = false) : isGoSpace c = false := by
  rw [isPySpace, Bool.or_eq_false_iff] at h
  exact h.1

/-- What `lower` can put in the place of a character. -/
structure LowerPiece (c : Char) (piece : List Char) : Prop where
  ne_nil : piece ≠ []
  ascii : c.toNat < 128 → piece = [c.toLower]
  nonspace : isPySpace c = false → ∀ d ∈ piece, isPySpace d = false
  dot : '.' ∈ piece → c = '.'
  /-- The only longer one has a combining dot. -/
  single : (∀ d ∈ piece, d.toNat < 128) → piece.length = 1

/-- What is assumed of the standard library. -/
structure LawfulText (txt : PyText) : Prop where
  strip : ∀ s, (txt.strip s).toList = trim isPySpace s.toList
  lower : ∀ s, Replaced LowerPiece s.toList (txt.lower s).toList
  lower_lowered : ∀ s, (∀ c ∈ s.toList, ∃ t, c ∈ (txt.lower t).toList) → txt.lower s = s
  upper : ∀ s, (∀ c ∈ s.toList, c.toNat < 128) → (txt.upper s).toList = s.toList.map Char.toUpper

/-- Text functions that know the letters of ASCII, and the addresses that Go knows. -/
def asciiText : PyText where
  strip s := String.ofList (trim isPySpace s.toList)
  lower s := String.ofList (s.toList.map Char.toLower)
  upper s := String.ofList (s.toList.map Char.toUpper)
  ipAddress s := parseIp s.toList

theorem lowerPiece_toLower (c : Char) : LowerPiece c [c.toLower] where
  ne_nil := List.cons_ne_nil _ _
  ascii _ := rfl
  nonspace := by
    rw [List.forall_mem_singleton]
    refine forall_char (P := fun c => isPySpace c = false → isPySpace c.toLower = false)
      (by decide) (fun c hc h => ?_) c
    rwa [toLower_of_le hc]
  dot := by
    rw [List.mem_singleton]
    refine forall_char (P := fun c => '.' = c.toLower → c = '.') (by decide)
      (fun c hc h => ?_) c
    rw [toLower_of_le hc] at h
    exact h.symm
  single _ := rfl

theorem asciiText_lawful : LawfulText asciiText where
  strip s := String.toList_ofList
  lower s := by
    rw [asciiText, String.toList_ofList]
    exact Replaced.of_map lowerPiece_toLower s.toList
  lower_lowered s h := by
    rw [← String.toList_inj, asciiText, String.toList_ofList]
    conv_rhs => rw [← List.map_id s.toList]
    refine List.map_congr_left fun c hc => ?_
    obtain ⟨t, ht⟩ := h c hc
    rw [asciiText, String.toList_ofList] at ht
    obtain ⟨d, -, rfl⟩ := List.mem_map.mp ht
    exact toLower_toLower d
  upper s _ := String.toList_ofList

/-! ## Response codes -/

/-- The allowed response codes consist of capital letters. -/
theorem isUpper_of_allowed {code : String} (h : code ∈ allowedResponseCodes) {c : Char}
    (hc : c ∈ code.toList) : c.isUpper = true := by
  have hall : allowedResponseCodes.all (fun code => code.toList.all Char.isUpper) = true := rfl
  exact List.all_eq_true.mp (List.all_eq_true.mp hall code h) c hc

theorem capital_of_allowed {code : String} (h : code ∈ allowedResponseCodes) {c : Char}
    (hc : c ∈ code.toList) : c.toNat < 128 ∧ isPySpace c = false ∧ c.toUpper = c := by
  have hupper := isUpper_of_allowed h hc
  have hascii : c.toNat < 128 := by
    refine toNat_lt_of_isAlphanum ?_
    show ((c.isUpper || c.isLower) || c.isDigit) = true
    rw [hupper, Bool.true_or, Bool.true_or]
  refine ⟨hascii, forall_ascii (P := fun c => c.isUpper = true →
    isPySpace c = false ∧ c.toUpper = c) ?_ hascii hupper⟩
  decide

/-! ## Names -/

/-- The name before it is lowered. -/
def strippedName (txt : PyText) (value : String) : List Char :=
  rstripDots (txt.strip value).toList

section Names

variable {txt : PyText} (laws : LawfulText txt) (value : String)

include laws

theorem replaced_normalizedName :
    Replaced LowerPiece (strippedName txt value) (normalizedName txt value).toList := by
  have hlower := laws.lower (String.ofList (strippedName txt value))
  rwa [String.toList_ofList] at hlower

theorem strippedName_isPrefix : strippedName txt value <+: trim isPySpace value.toList := by
  rw [← laws.strip]
  exact List.rdropWhile_prefix _ _

/-- No white space at the front. -/
theorem head?_normalizedName {c : Char}
    (h : (normalizedName txt value).toList.head? = some c) : isPySpace c = false := by
  have hreplaced := replaced_normalizedName laws value
  have hpre := strippedName_isPrefix laws value
  generalize strippedName txt value = name at hreplaced hpre
  cases name with
  | nil =>
    generalize (normalizedName txt value).toList = n at h hreplaced
    cases hreplaced
    cases h
  | cons a rest =>
    have hspace : isPySpace a = false := head?_of_prefix_trim hpre rfl
    obtain ⟨piece, hpiece, hfront⟩ := hreplaced.head_piece
    rw [← head?_eq_of_isPrefix hfront hpiece.ne_nil] at h
    exact hpiece.nonspace hspace c (List.mem_of_head? h)

/-- No full stop at the end. -/
theorem getLast?_normalizedName : (normalizedName txt value).toList.getLast? ≠ some '.' := by
  intro h
  have hreplaced := replaced_normalizedName laws value
  have hlast : ∀ a, (strippedName txt value).getLast? = some a → (a == '.') = false := by
    refine rdropWhile_eq_self_iff_getLast?.mp ?_
    exact List.rdropWhile_idempotent _ _
  generalize strippedName txt value = name at hreplaced hlast
  rcases List.eq_nil_or_concat' name with rfl | ⟨rest, a, rfl⟩
  · generalize (normalizedName txt value).toList = n at h hreplaced
    cases hreplaced
    cases h
  · obtain ⟨piece, hpiece, rest', hsuffix⟩ := hreplaced.last_piece
    rw [← hsuffix, List.getLast?_append_of_ne_nil _ hpiece.ne_nil] at h
    have hdot := hpiece.dot (List.mem_of_getLast? h)
    have hne := hlast a List.getLast?_concat
    rw [hdot] at hne
    cases hne

/-- A lowered letter of ASCII is a small one. -/
theorem toLower_of_mem_normalizedName {c : Char} (hc : c ∈ (normalizedName txt value).toList)
    (hascii : c.toNat < 128) : c.toLower = c := by
  have hfixed : txt.lower (String.ofList [c]) = String.ofList [c] := by
    refine laws.lower_lowered _ fun d hd => ?_
    rw [String.toList_ofList, List.mem_singleton] at hd
    exact ⟨_, hd ▸ hc⟩
  have hmap := (laws.lower (String.ofList [c])).eq_map (f := Char.toLower)
    fun d hd piece hpiece => hpiece.ascii (by
      rw [String.toList_ofList, List.mem_singleton] at hd
      rwa [hd])
  rw [hfixed, String.toList_ofList] at hmap
  exact (List.singleton_inj.mp hmap).symm

/-- A normalized name is not longer than the name, if it is ASCII. -/
theorem length_normalizedName_le
    (hascii : ∀ c ∈ (normalizedName txt value).toList, c.toNat < 128) :
    (normalizedName txt value).length ≤ value.length := by
  have hlength := (replaced_normalizedName laws value).length_eq hascii
    fun _ _ hpiece => hpiece.single
  calc (normalizedName txt value).toList.length = (strippedName txt value).length := hlength
    _ ≤ (trim isPySpace value.toList).length := (strippedName_isPrefix laws value).length_le
    _ ≤ value.toList.length := length_trim_le

/-- Lowering leaves the rest of a lowered name alone. -/
theorem normalizedName_of_lowered {n : String} (h : ∀ c ∈ n.toList, ∃ t, c ∈ (txt.lower t).toList) :
    normalizedName txt n = String.ofList (strippedName txt n) := by
  refine laws.lower_lowered _ fun c hc => ?_
  rw [String.toList_ofList] at hc
  have hpre := (strippedName_isPrefix laws n).trans trim_isPrefix
  exact h c ((List.dropWhile_suffix _).subset (hpre.subset hc))

/-- Normalizing a normalized name changes it exactly if it ends with white space. -/
theorem normalizedName_idempotent_iff :
    normalizedName txt (normalizedName txt value) = normalizedName txt value ↔
      ∀ c, (normalizedName txt value).toList.getLast? = some c → isPySpace c = false := by
  have hhead := fun c => @head?_normalizedName txt laws value c
  have hdot := getLast?_normalizedName laws value
  have hlowered : ∀ c ∈ (normalizedName txt value).toList,
      ∃ t, c ∈ (txt.lower t).toList := fun c hc => ⟨_, hc⟩
  generalize normalizedName txt value = n at hhead hdot hlowered ⊢
  have hstripped : strippedName txt n = rstripDots (trim isPySpace n.toList) := by
    rw [strippedName, laws.strip]
  rw [normalizedName_of_lowered laws hlowered, ← trim_eq_self_iff hhead, hstripped, ← String.toList_inj, String.toList_ofList]
  constructor
  · intro h
    refine trim_eq_self_of_length_le ?_
    have hle : (rstripDots (trim isPySpace n.toList)).length ≤
        (trim isPySpace n.toList).length := (List.rdropWhile_prefix _ _).length_le
    rwa [h] at hle
  · intro h
    rw [h]
    refine rdropWhile_eq_self_iff_getLast?.mpr fun c hc => ?_
    rw [beq_eq_false_iff_ne]
    rintro rfl
    exact hdot hc

/-- A response code that is allowed is normalized. -/
theorem normalizedCode_of_allowed {code : String} (h : code ∈ allowedResponseCodes) :
    normalizedCode txt code = code := by
  have hchar := fun c hc => capital_of_allowed h (c := c) hc
  have hstrip : txt.strip code = code := by
    rw [← String.toList_inj, laws.strip, trim_eq_self fun c hc => (hchar c hc).2.1]
  rw [normalizedCode, hstrip, ← String.toList_inj, laws.upper code fun c hc => (hchar c hc).1]
  conv_rhs => rw [← List.map_id code.toList]
  exact List.map_congr_left fun c hc => (hchar c hc).2.2

end Names

/-! ## Labels -/

theorem hostnameLabel_eq (l : List Char) : hostnameLabel l = validLabel l := by
  by_cases hchars : (l.all fun c => c.isAlphanum || c == '-') = true
  · have hascii : ∀ c ∈ l, c.toNat < 128 := by
      intro c hc
      have hone := List.all_eq_true.mp hchars c hc
      refine toNat_lt_of_hostnameChar ?_
      rw [hostnameChar, hone, Bool.true_or]
    rw [hostnameLabel, validLabel, hchars, length_utf8_ascii hascii, Bool.eq_iff_iff]
    simp only [Bool.and_true, Bool.and_eq_true, Bool.not_eq_true',
      List.isEmpty_eq_false_iff, bne_iff_ne, decide_eq_true_eq, ne_eq]
  · rw [hostnameLabel, validLabel, Bool.eq_false_iff.mpr hchars, Bool.and_false, Bool.and_false]

theorem hostnameLabels_eq (l : List Char) : hostnameLabels l = (l.splitOn '.').all validLabel := by
  rw [hostnameLabels, funext hostnameLabel_eq]

end Bifrostnms.Proofs
