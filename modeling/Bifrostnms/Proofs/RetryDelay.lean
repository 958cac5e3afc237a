import Bifrostnms.Agent.RetryDelay

/-!
# Guidance that overflows

The delay is clamped to five minutes from above, always. From below it is at
least what the server asks for only as long as that fits a `time.Duration`, which
is some 292 years of nanoseconds. Beyond that `retry_after_seconds` wraps around,
to any value, and the header is not parsed, which counts as no guidance. The
delay is then the random one, and that is five minutes only when the backoff has
grown to five minutes and the fraction is one (`retryDelay_guidance_iff`).
-/

namespace Bifrostnms.Proofs

open Bifrostnms.Lib Bifrostnms.Lib.JsonText Bifrostnms.Agent

/-! ## Parsing the header -/

/-- `readNat` with digits that were read before. -/
theorem le_of_readFrom {l : List Char} {x v : ℕ}
    (h : l.foldlM (fun n c => (readDigit c).map fun d => 10 * n + d) x = some v) : x ≤ v := by
  induction l generalizing x with
  | nil => exact (Option.some.inj h).le
  | cons c l ih =>
    obtain ⟨y, hy, hrest⟩ := Option.bind_eq_some_iff.mp h
    obtain ⟨d, -, rfl⟩ := Option.map_eq_some_iff.mp hy
    have := ih hrest
    omega

/-- A number that fits 64 bits is read. -/
theorem leadingInt_of_readFrom {l : List Char} {x v : ℕ} (hv : v < 2 ^ 63)
    (h : l.foldlM (fun n c => (readDigit c).map fun d => 10 * n + d) x = some v) :
    leadingInt x l = some v := by
  induction l generalizing x with
  | nil => exact h
  | cons c l ih =>
    obtain ⟨y, hy, hrest⟩ := Option.bind_eq_some_iff.mp h
    obtain ⟨d, hd, rfl⟩ := Option.map_eq_some_iff.mp hy
    have hle := le_of_readFrom hrest
    rw [leadingInt, hd]
    show ite _ _ (ite _ _ _) = _
    rw [if_neg (by omega), if_neg (by omega), Nat.mul_comm x 10]
    exact ih hrest

theorem retryAfter_intText {seconds : ℤ} (h1 : 1 ≤ seconds) (h63 : seconds < 2 ^ 63) :
    retryAfter (intText seconds) = if seconds ≤ 9223372036 then seconds * 1000000000 else 0 := by
  obtain ⟨n, rfl⟩ : ∃ n : ℕ, seconds = n := ⟨seconds.toNat, by omega⟩
  have htext : intText (n : ℤ) = natText n := by
    unfold intText signed
    rw [decide_eq_false (by omega : ¬(n : ℤ) < 0), Int.natAbs_natCast]
    rfl
  have hread : leadingInt 0 (natText n) = some n :=
    leadingInt_of_readFrom (by omega) (readNat_natText n)
  have hne : natText n ≠ [] := by
    intro hnil
    rw [hnil] at hread
    have hzero : 0 = n := Option.some.inj hread
    omega
  have hparse : parseSeconds (natText n) = if 2 ^ 63 / 1000000000 < n then none
      else if 2 ^ 63 - 1 < n * 1000000000 then none
      else some ((n : ℤ) * 1000000000) := by
    unfold parseSeconds
    rw [hread]
    simp [hne]
  unfold retryAfter
  rw [htext, hparse]
  by_cases hfits : (n : ℤ) ≤ 9223372036
  · rw [if_pos hfits, if_neg (by omega), if_neg (by omega), Option.getD_some]
  · rw [if_neg hfits, if_pos (by omega), Option.getD_none]

/-! ## The random delay -/

theorem maximumRetryDelay_eq : maximumRetryDelay = 300000000000 := rfl

theorem backoffMaximum_bounds (failureCount : ℤ) :
    0 ≤ backoffMaximum failureCount ∧ backoffMaximum failureCount ≤ maximumRetryDelay := by
  unfold backoffMaximum
  refine ⟨le_min ?_ (by decide), min_le_right _ _⟩
  exact mul_nonneg (by decide) (pow_nonneg (by decide) _)

/-- The backoff reaches five minutes at the tenth failure: 256 seconds are less,
512 are more. -/
theorem backoffMaximum_eq_iff (failureCount : ℤ) :
    backoffMaximum failureCount = maximumRetryDelay ↔ 10 ≤ failureCount := by
  have hsecond : initialRetryDelay = 1000000000 := rfl
  unfold backoffMaximum
  dsimp only
  rw [min_eq_right_iff, maximumRetryDelay_eq, hsecond]
  constructor
  · intro h
    by_contra hless
    have hexponent : (min ((if failureCount < 1 then 1 else failureCount) - 1) 30).toNat ≤ 8 := by
      split <;> omega
    have hpow : (2 : ℤ) ^ (min ((if failureCount < 1 then 1 else failureCount) - 1) 30).toNat ≤
        2 ^ 8 := pow_le_pow_right₀ (by decide) hexponent
    omega
  · intro hten
    have hexponent : 9 ≤ (min ((if failureCount < 1 then 1 else failureCount) - 1) 30).toNat := by
      split <;> omega
    have hpow : (2 : ℤ) ^ 9 ≤
        2 ^ (min ((if failureCount < 1 then 1 else failureCount) - 1) 30).toNat :=
      pow_le_pow_right₀ (by decide) hexponent
    omega

variable {failureCount server : ℤ} {fraction : ℚ}

/-- The random part is five minutes only at the end of the backoff. -/
theorem maximum_le_drawn_iff (failureCount : ℤ) (h0 : 0 ≤ fraction) (h1 : fraction ≤ 1) :
    maximumRetryDelay ≤ ⌊(backoffMaximum failureCount : ℚ) * fraction⌋ ↔
      10 ≤ failureCount ∧ fraction = 1 := by
  obtain ⟨hnonneg, hle⟩ := backoffMaximum_bounds failureCount
  have hnonneg' : (0 : ℚ) ≤ backoffMaximum failureCount := by exact_mod_cast hnonneg
  rw [Int.le_floor]
  constructor
  · intro h
    have hproduct : (backoffMaximum failureCount : ℚ) * fraction ≤ backoffMaximum failureCount :=
      mul_le_of_le_one_right hnonneg' h1
    have hmaximum : backoffMaximum failureCount = maximumRetryDelay := by
      have : (maximumRetryDelay : ℚ) ≤ backoffMaximum failureCount := h.trans hproduct
      exact le_antisymm hle (by exact_mod_cast this)
    refine ⟨(backoffMaximum_eq_iff failureCount).mp hmaximum, le_antisymm h1 ?_⟩
    rw [hmaximum] at h
    have hpos : (0 : ℚ) < maximumRetryDelay := by exact_mod_cast (by decide : 0 < maximumRetryDelay)
    exact (le_mul_iff_one_le_right hpos).mp h
  · rintro ⟨hten, rfl⟩
    rw [(backoffMaximum_eq_iff failureCount).mpr hten, mul_one]

theorem retryDelayOf_eq (h0 : 0 ≤ fraction) (h1 : fraction ≤ 1) :
    retryDelayOf failureCount server fraction =
      min (max ⌊(backoffMaximum failureCount : ℚ) * fraction⌋ server) maximumRetryDelay := by
  unfold retryDelayOf
  dsimp only
  rw [if_neg (not_lt.mpr h0), if_neg (not_lt.mpr h1)]
  congr 1
  split <;> omega

/-! ## Guidance -/

/-- When the agent waits as long as it is asked to: the guidance fits a duration,
or what it has become is still five minutes, or the random delay is. -/
def Heeded (failureCount : ℤ) (fraction : ℚ) (seconds : ℤ) : GuidanceSource → Prop
  | .retryAfterSeconds => seconds ≤ 9223372036 ∨
      300000000000 ≤ (seconds * 1000000000).bmod (2 ^ 64) ∨ 10 ≤ failureCount ∧ fraction = 1
  | .header => seconds ≤ 9223372036 ∨ 10 ≤ failureCount ∧ fraction = 1

theorem delay_of_fits {seconds : ℤ} (h1 : 1 ≤ seconds) (hfits : seconds ≤ 9223372036)
    (source : GuidanceSource) : source.delay seconds = seconds * 1000000000 := by
  cases source with
  | retryAfterSeconds =>
    show (seconds * 1000000000).bmod (2 ^ 64) = _
    exact Int.bmod_eq_of_le (by omega) (by omega)
  | header =>
    show retryAfter (intText seconds) = _
    rw [retryAfter_intText h1 (by omega), if_pos hfits]

/-- For every failure count, fraction and guidance of a positive 64-bit number of
seconds, in the answer or in the header: the delay is at most five minutes, and
at least the smaller of the guidance and five minutes exactly if the condition
holds. -/
theorem retryDelay_guidance_iff (failureCount : ℤ) (fraction : ℚ) (seconds : ℤ)
    (source : GuidanceSource) (h0 : 0 ≤ fraction)
    (h1 : fraction ≤ 1) (hpos : 1 ≤ seconds) (h63 : seconds < 2 ^ 63) :
    (min (seconds * second) maximumRetryDelay ≤
        retryDelayOf failureCount (source.delay seconds) fraction ∧
      retryDelayOf failureCount (source.delay seconds) fraction ≤ maximumRetryDelay) ↔
    Heeded failureCount fraction seconds source := by
  have hdrawn := maximum_le_drawn_iff failureCount h0 h1
  have hsecond : second = 1000000000 := rfl
  rw [retryDelayOf_eq h0 h1, and_iff_left (min_le_right _ _), hsecond]
  generalize ⌊(backoffMaximum failureCount : ℚ) * fraction⌋ = drawn at hdrawn
  rw [maximumRetryDelay_eq] at hdrawn ⊢
  by_cases hfits : seconds ≤ 9223372036
  · rw [delay_of_fits hpos hfits]
    refine iff_of_true (by omega) ?_
    cases source with
    | retryAfterSeconds => exact .inl hfits
    | header => exact .inl hfits
  · cases source with
    | retryAfterSeconds =>
      show _ ↔ seconds ≤ 9223372036 ∨ _ ∨ _
      rw [← hdrawn]
      show min _ _ ≤ min (max drawn ((seconds * 1000000000).bmod (2 ^ 64))) _ ↔ _
      omega
    | header =>
      show _ ↔ seconds ≤ 9223372036 ∨ _
      rw [← hdrawn]
      show min _ _ ≤ min (max drawn (retryAfter (intText seconds))) _ ↔ _
      rw [retryAfter_intText hpos h63, if_neg hfits]
      omega

theorem retryDelay_guidance_minute :
    60000000000 ≤ retryDelayOf 1 (GuidanceSource.header.delay 60) 0 := by
  have hfollowed := (retryDelay_guidance_iff 1 0 60 .header (by decide) (by decide) (by decide)
    (by decide)).mpr (.inl (by decide))
  exact le_trans (by decide) hfollowed.1

/-- A guidance of 293 years is ignored in both forms: the agent need not wait at
all. -/
theorem retryDelay_guidance_ignored : ¬min (9223372037 * second) maximumRetryDelay ≤
        retryDelayOf 1 (GuidanceSource.retryAfterSeconds.delay 9223372037) 0 ∧
      ¬min (9223372037 * second) maximumRetryDelay ≤
        retryDelayOf 1 (GuidanceSource.header.delay 9223372037) 0 := by
  constructor
  · decide +kernel
  · decide +kernel

end Bifrostnms.Proofs
