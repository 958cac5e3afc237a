import Bifrostnms.Lib.Text

/-!
# Texts of hosts

Which texts Go reads as an IP address (`net.ParseIP`), and the text it prints for one
(`IP.String`). An accepted text has 2 to 45 characters (`length_of_parseIp`), which
is what other programs count on. Last, the labels of a host name.
-/

namespace Bifrostnms.Lib

/-! ## Reading -/

/-- `parseIPv4Fields`, with the octet that is being read, its digits so far, and the
number of octets before it. -/
def parseIpv4Fields (val digLen pos : ℕ) : List Char → Bool
  | [] => pos == 3
  | c :: cs =>
    if c.isDigit then
      -- A leading zero.
      if digLen = 1 ∧ val = 0 then false
      else
        let val := val * 10 + (c.toNat - '0'.toNat)
        if 255 < val then false else parseIpv4Fields val (digLen + 1) pos cs
    else if c = '.' then
      if digLen = 0 ∨ cs = [] ∨ pos = 3 then false
      else parseIpv4Fields 0 0 (pos + 1) cs
    else false

def isHexDigit (c : Char) : Bool :=
  c.isDigit || 'a' ≤ c && c ≤ 'f' || 'A' ≤ c && c ≤ 'F'

/-- Groups are left out exactly if there is an ellipsis. -/
def ellipsisFits (left : ℕ) (ellipsis : Bool) : Bool :=
  if left = 0 then !ellipsis else ellipsis

/-- The loop of `parseIPv6`, with the number of groups that are left. -/
def parseIpv6Groups : ℕ → Bool → List Char → Bool
  | 0, ellipsis, s => s.isEmpty && !ellipsis
  | left + 1, ellipsis, s =>
    let off := (s.takeWhile isHexDigit).length
    if off = 0 ∨ 4 < off then false
    else
      match s.dropWhile isHexDigit with
      | [] => ellipsisFits left ellipsis
      -- The last two groups may be an IPv4 address.
      | '.' :: _ => (ellipsis || left == 1) && 1 ≤ left && parseIpv4Fields 0 0 0 s &&
          ellipsisFits (left - 1) ellipsis
      | [':'] => false
      | [':', ':'] => !ellipsis && ellipsisFits left true
      | ':' :: ':' :: cs => !ellipsis && parseIpv6Groups left true cs
      | ':' :: cs => parseIpv6Groups left ellipsis cs
      | _ => false

def parseIpv6 : List Char → Bool
  | [':', ':'] => true
  | ':' :: ':' :: cs => parseIpv6Groups 8 true cs
  | s => parseIpv6Groups 8 false s

/-- Whether `net.ParseIP` accepts the text. An address with a zone is not accepted. -/
def parseIp (s : List Char) : Bool :=
  match s.find? fun c => c = '.' ∨ c = ':' ∨ c = '%' with
  | some '.' => parseIpv4Fields 0 0 0 s
  | some ':' => parseIpv6 s
  | _ => false

theorem parseIpv4Fields_length {val digLen pos : ℕ} {s : List Char}
    (hval : digLen = 0 ∨ digLen = 1 ∨ digLen = 2 ∧ 10 ≤ val ∨ digLen = 3 ∧ 100 ≤ val)
    (h : parseIpv4Fields val digLen pos s = true) :
    3 ≤ s.length + pos ∧ s.length + digLen + 4 * pos ≤ 15 := by
  induction s generalizing val digLen pos with
  | nil =>
    rw [parseIpv4Fields, beq_iff_eq] at h
    rw [List.length_nil]
    omega
  | cons c cs ih =>
    rw [parseIpv4Fields] at h
    dsimp only at h
    rw [List.length_cons]
    split_ifs at h with _ hzero hlarge _ hdot
    · have hnext := ih (by omega) h
      omega
    · have hnext := ih (.inl rfl) h
      omega

theorem length_eq_takeWhile_add {p : Char → Bool} (s : List Char) :
    s.length = (s.takeWhile p).length + (s.dropWhile p).length := by
  rw [← List.length_append, List.takeWhile_append_dropWhile]

theorem ellipsisFits_cases {left : ℕ} {ellipsis : Bool} (h : ellipsisFits left ellipsis = true) :
    left = 0 ∧ ellipsis = false ∨ 1 ≤ left ∧ ellipsis = true := by
  unfold ellipsisFits at h
  split_ifs at h with hleft
  · exact .inl ⟨hleft, Bool.not_eq_true' _ ▸ h⟩
  · exact .inr ⟨Nat.one_le_iff_ne_zero.mpr hleft, h⟩

/-- A group has at most four digits and a colon, an IPv4 address in the place of the
last two at most 15 characters; an ellipsis stands for at least one group. -/
theorem parseIpv6Groups_length_le {left : ℕ} {ellipsis : Bool} {s : List Char}
    (h : parseIpv6Groups left ellipsis s = true) :
    s.length ≤ 5 * left + if ellipsis then 0 else 5 := by
  induction left generalizing ellipsis s with
  | zero =>
    rw [parseIpv6Groups, Bool.and_eq_true, List.isEmpty_iff] at h
    rw [h.1]
    exact Nat.zero_le _
  | succ left ih =>
    have hlen := length_eq_takeWhile_add (p := isHexDigit) s
    unfold parseIpv6Groups at h
    dsimp only at h
    split_ifs at h with hoff
    split at h
    · next hrest =>
        rw [hrest, List.length_nil] at hlen
        omega
    · simp only [Bool.and_eq_true, decide_eq_true_eq] at h
      obtain ⟨⟨⟨_, hroom⟩, hfields⟩, hfits⟩ := h
      have hfour := parseIpv4Fields_length (.inl rfl) hfields
      rcases ellipsisFits_cases hfits with ⟨_, rfl⟩ | ⟨_, rfl⟩
      · rw [if_neg Bool.false_ne_true]
        omega
      · omega
    · cases h
    · next hrest =>
        rw [hrest] at hlen
        simp only [List.length_cons, List.length_nil] at hlen
        rw [Bool.and_eq_true, Bool.not_eq_true'] at h
        rw [h.1, if_neg Bool.false_ne_true]
        omega
    · next cs _ hrest =>
        rw [hrest] at hlen
        simp only [List.length_cons] at hlen
        rw [Bool.and_eq_true, Bool.not_eq_true'] at h
        have hnext := ih h.2
        rw [if_pos rfl] at hnext
        rw [h.1, if_neg Bool.false_ne_true]
        omega
    · next cs _ _ _ hrest =>
        rw [hrest] at hlen
        simp only [List.length_cons] at hlen
        have hnext := ih h
        omega
    · cases h

/-- Without an ellipsis something follows the first group. -/
theorem length_of_parseIpv6Groups {left : ℕ} {s : List Char}
    (h : parseIpv6Groups (left + 2) false s = true) : 2 ≤ s.length := by
  have hlen := length_eq_takeWhile_add (p := isHexDigit) s
  unfold parseIpv6Groups at h
  dsimp only at h
  split_ifs at h with hoff
  cases hrest : s.dropWhile isHexDigit with
  | nil =>
    rw [hrest] at h
    cases h
  | cons c cs =>
    rw [hrest, List.length_cons] at hlen
    omega

theorem length_of_parseIp {s : List Char} (h : parseIp s = true) :
    2 ≤ s.length ∧ s.length ≤ 45 := by
  unfold parseIp at h
  split at h
  · have hfour := parseIpv4Fields_length (.inl rfl) h
    omega
  · unfold parseIpv6 at h
    split at h
    · decide
    · have hmax := parseIpv6Groups_length_le h
      simp only [List.length_cons, if_true] at hmax ⊢
      omega
    · have hmax := parseIpv6Groups_length_le h
      have hmin := length_of_parseIpv6Groups h
      rw [if_neg Bool.false_ne_true] at hmax
      omega
  · cases h

/-! ## Printing -/

/-- A dotted IPv4 address. -/
def ipv4Text (bytes : List UInt8) : List Char :=
  List.intercalate ['.'] (bytes.map fun b => (toString b.toNat).toList)

/-- The 16-bit groups of an IPv6 address. -/
def ipv6Groups : List UInt8 → List ℕ
  | high :: low :: rest => (high.toNat * 256 + low.toNat) :: ipv6Groups rest
  | _ => []

/-- Where the first of the longest runs of two or more zero groups begins and ends. -/
def zeroRun (groups : List ℕ) : ℕ × ℕ :=
  (List.range 8).foldl (fun best i =>
    let l := ((groups.drop i).takeWhile (· == 0)).length
    if 2 ≤ l ∧ best.2 - best.1 < l then (i, i + l) else best) (255, 255)

/-- The text of an IPv6 address, with `::` for the run of zeros. -/
def ipv6Text (bytes : List UInt8) : List Char :=
  let groups := ipv6Groups bytes
  let text := fun gs : List ℕ => List.intercalate [':'] (gs.map (Nat.toDigits 16))
  let (zeroStart, zeroEnd) := zeroRun groups
  if zeroStart = 255 then text groups
  else text (groups.take zeroStart) ++ "::".toList ++ text (groups.drop zeroEnd)

/-- `IP.String`. -/
def ipText (bytes : List UInt8) : List Char :=
  if bytes = [] then "<nil>".toList
  else if bytes.length = 4 then ipv4Text bytes
  else if bytes.length = 16 then
    -- An IPv4 address inside an IPv6 address is printed as such.
    if bytes.take 12 = List.replicate 10 0 ++ [255, 255] then ipv4Text (bytes.drop 12)
    else ipv6Text bytes
  else '?' :: hexText bytes

theorem intercalate_ne_nil {c : Char} {texts : List (List Char)} (h : 2 ≤ texts.length) :
    List.intercalate [c] texts ≠ [] := by
  match texts, h with
  | a :: b :: rest, _ => simp [List.intercalate, List.intersperse]

theorem ipText_ne_nil (bytes : List UInt8) : ipText bytes ≠ [] := by
  unfold ipText
  split_ifs with _ hfour hsixteen
  · decide
  · refine intercalate_ne_nil ?_
    rw [List.length_map]
    omega
  · refine intercalate_ne_nil ?_
    rw [List.length_map, List.length_drop]
    omega
  · unfold ipv6Text
    dsimp only
    split_ifs
    · match bytes, hsixteen with
      | _ :: _ :: _ :: _ :: rest, _ =>
        refine intercalate_ne_nil ?_
        rw [List.length_map, ipv6Groups, ipv6Groups, List.length_cons, List.length_cons]
        omega
    · simp
  · exact List.cons_ne_nil _ _

example : ipText [192, 0, 2, 1] = "192.0.2.1".toList := by decide

example : ipText ([0x20, 0x01, 0x0d, 0xb8] ++ List.replicate 11 0 ++ [1]) =
    "2001:db8::1".toList := by decide

/-! ## Host names -/

/-- A label of letters, digits and inner hyphens. -/
def validLabel (label : List Char) : Bool :=
  label ≠ [] && (utf8 label).length ≤ 63 && label.head? ≠ some '-' &&
    label.getLast? ≠ some '-' && label.all fun c => c.isAlphanum || c == '-'

/-- A character of a text is a separator or stands in one of the pieces. -/
theorem mem_splitOn (sep : Char) {c : Char} {l : List Char} (h : c ∈ l) :
    c = sep ∨ ∃ piece ∈ l.splitOn sep, c ∈ piece := by
  induction l with
  | nil => cases h
  | cons a l ih =>
    rw [List.splitOn_cons_eq_if_modifyHead]
    split
    · next hsep =>
        rcases List.mem_cons.mp h with rfl | h
        · exact .inl (eq_of_beq hsep)
        · rcases ih h with hc | ⟨piece, hpiece, hc⟩
          · exact .inl hc
          · exact .inr ⟨piece, List.mem_cons_of_mem _ hpiece, hc⟩
    · obtain ⟨head, tail, hsplit⟩ :=
        List.exists_cons_of_ne_nil (List.splitOn_ne_nil sep l)
      rw [hsplit] at ih ⊢
      rw [List.modifyHead_cons]
      rcases List.mem_cons.mp h with rfl | h
      · exact .inr ⟨_, List.mem_cons_self, List.mem_cons_self⟩
      · rcases ih h with hc | ⟨piece, hpiece, hc⟩
        · exact .inl hc
        · rcases List.mem_cons.mp hpiece with rfl | hpiece
          · exact .inr ⟨_, List.mem_cons_self, List.mem_cons_of_mem _ hc⟩
          · exact .inr ⟨piece, List.mem_cons_of_mem _ hpiece, hc⟩

/-- A character of a host name. -/
def hostnameChar (c : Char) : Bool := c.isAlphanum || c == '-' || c == '.'

theorem toNat_lt_of_hostnameChar {c : Char} (h : hostnameChar c = true) : c.toNat < 128 := by
  simp only [hostnameChar, Bool.or_eq_true, beq_iff_eq] at h
  rcases h with (h | rfl) | rfl
  · exact toNat_lt_of_isAlphanum h
  · decide
  · decide

/-- Labels consist of characters of host names, and so does a text of them. -/
theorem hostnameChar_of_labels {l : List Char}
    (h : (l.splitOn '.').all validLabel = true) : ∀ c ∈ l, hostnameChar c = true := by
  intro c hc
  rcases mem_splitOn '.' hc with rfl | ⟨label, hlabel, hc⟩
  · rfl
  · have hvalid := List.all_eq_true.mp h label hlabel
    rw [validLabel, Bool.and_eq_true, List.all_eq_true] at hvalid
    rw [hostnameChar, hvalid.2 c hc, Bool.true_or]

/-- No label is empty, so a full stop is followed by another label. -/
theorem not_labels_concat (l : List Char) : ((l ++ ['.']).splitOn '.').all validLabel = false := by
  rw [List.splitOn_append_cons_self, List.splitOn_nil, List.all_append]
  exact Bool.and_false _

end Bifrostnms.Lib
