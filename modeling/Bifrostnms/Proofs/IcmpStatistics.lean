import Bifrostnms.Agent.IcmpProbe
import Bifrostnms.Lib.Interpolation
import Mathlib.Algebra.BigOperators.Group.List.Basic
import Mathlib.Algebra.Order.BigOperators.Group.List
import Mathlib.Data.Int.ConditionallyCompleteOrder
import Mathlib.Data.List.GetD
import Mathlib.Tactic.FieldSimp
import Mathlib.Tactic.Linarith

/-!
# The statistics of an ICMP result

The least sample, the median, the 95th percentile and the greatest sample are
one function of the sorted samples: the interpolation between its entries, at
four fractions of the way from the first to the last (`quantile`). The order
between them is the order of the fractions, and a permutation of the samples has
the same sorted list. The average lies between the first and the last because
each sample does, and the jitter is a mean of distances, none of which is longer
than from the least sample to the greatest (`calculateResult_statistics`).
-/

namespace Bifrostnms.Proofs

open Bifrostnms.Lib Bifrostnms.Agent

/-! ## Quantiles -/

/-- An entry of a list, and the last one beyond the end. -/
def sortedEntry (sorted : List ℚ) (i : ℕ) : ℚ := sorted.getD (min i (sorted.length - 1)) 0

/-- The interpolation at a fraction of the way from the least sample to the
greatest. -/
def quantile (samples : List ℚ) (fraction : ℚ) : ℚ :=
  interpolate (sortedEntry (samples.insertionSort (· ≤ ·)))
    (((samples.length : ℚ) - 1) * fraction)

section Quantiles

variable {sorted samples samples' : List ℚ} {fraction : ℚ}

theorem getElem?_eq_entry {i : ℕ} (h : i < sorted.length) :
    sorted[i]? = some (sortedEntry sorted i) := by
  have hmin : min i (sorted.length - 1) = i := by omega
  unfold sortedEntry
  rw [hmin, List.getElem?_eq_getElem h, List.getD_eq_getElem sorted 0 h]

theorem sortedEntry_mono (hsorted : sorted.Pairwise (· ≤ ·)) : Monotone (sortedEntry sorted) := by
  intro i j hij
  obtain rfl | hne := eq_or_ne sorted []
  · simp [sortedEntry]
  · have hlength := List.length_pos_iff.mpr hne
    have hi : min i (sorted.length - 1) < sorted.length := by omega
    have hj : min j (sorted.length - 1) < sorted.length := by omega
    unfold sortedEntry
    rw [List.getD_eq_getElem sorted 0 hi, List.getD_eq_getElem sorted 0 hj]
    obtain heq | hlt := (min_le_min_right (sorted.length - 1) hij).eq_or_lt
    · simp only [heq, le_refl]
    · exact List.pairwise_iff_getElem.mp hsorted _ _ hi hj hlt

/-- Where the fraction falls exactly on an sortedEntry, the code does not interpolate;
the weight would be zero. -/
theorem percentile_eq_interpolate (hne : sorted ≠ []) (h0 : 0 ≤ fraction) (h1 : fraction ≤ 1) :
    percentile sorted fraction =
      some (interpolate (sortedEntry sorted) (((sorted.length : ℚ) - 1) * fraction)) := by
  have hpos : 1 ≤ sorted.length := List.length_pos_iff.mpr hne
  have hlast : (0 : ℚ) ≤ (sorted.length : ℚ) - 1 := by
    have : (1 : ℚ) ≤ sorted.length := by exact_mod_cast hpos
    linarith
  obtain ⟨position, hposition⟩ : ∃ position,
      position = ((sorted.length : ℚ) - 1) * fraction := ⟨_, rfl⟩
  have hp0 : 0 ≤ position := hposition ▸ mul_nonneg hlast h0
  have hp1 : position ≤ (sorted.length : ℚ) - 1 :=
    hposition ▸ mul_le_of_le_one_right hlast h1
  have hceil : ⌈position⌉ ≤ (sorted.length : ℤ) - 1 := by
    rw [Int.ceil_le]
    push_cast
    exact hp1
  have hfloor0 : 0 ≤ ⌊position⌋ := Int.floor_nonneg.mpr hp0
  have hfloor : ⌊position⌋ ≤ ⌈position⌉ := Int.floor_le_ceil position
  have hnext : ⌈position⌉ ≤ ⌊position⌋ + 1 := Int.ceil_le_floor_add_one position
  have hlower : sorted[⌊position⌋.toNat]? = some (sortedEntry sorted ⌊position⌋.toNat) :=
    getElem?_eq_entry (by omega)
  unfold percentile interpolate
  rw [← hposition, ← Int.floor_toNat]
  dsimp only
  split
  · next hsame =>
      have hexact : (⌊position⌋.toNat : ℚ) = position := by
        have hfloorCast : ((⌊position⌋.toNat : ℕ) : ℚ) = (⌊position⌋ : ℚ) := by
          exact_mod_cast Int.toNat_of_nonneg hfloor0
        have hequal : ⌊position⌋ = ⌈position⌉ := by omega
        refine le_antisymm ?_ ?_
        · rw [hfloorCast]
          exact Int.floor_le position
        · rw [hfloorCast, hequal]
          exact Int.le_ceil position
      rw [hlower, hexact, sub_self, mul_zero, add_zero]
  · have hupper : ⌈position⌉.toNat = ⌊position⌋.toNat + 1 := by omega
    rw [hupper, hlower, getElem?_eq_entry (by omega)]
    rfl

theorem percentile_eq_quantile (hne : samples ≠ []) (h0 : 0 ≤ fraction) (h1 : fraction ≤ 1) :
    percentile (samples.insertionSort (· ≤ ·)) fraction = some (quantile samples fraction) := by
  have hsortedNe : samples.insertionSort (· ≤ ·) ≠ [] := by
    intro hnil
    have hperm := List.perm_insertionSort (· ≤ ·) samples
    rw [hnil, List.nil_perm] at hperm
    exact hne hperm
  rw [percentile_eq_interpolate hsortedNe h0 h1, List.length_insertionSort]
  rfl

theorem quantile_mono (hne : samples ≠ []) {f g : ℚ} (h0 : 0 ≤ f) (h : f ≤ g) :
    quantile samples f ≤ quantile samples g := by
  have hpos : (1 : ℚ) ≤ samples.length := by
    exact_mod_cast List.length_pos_iff.mpr hne
  refine interpolate_mono (sortedEntry_mono (List.pairwise_insertionSort _ _))
    (mul_nonneg (by linarith) h0) ?_
  exact mul_le_mul_of_nonneg_left h (by linarith)

theorem quantile_perm (h : samples'.Perm samples) :
    quantile samples' fraction = quantile samples fraction := by
  have hsorted : samples'.insertionSort (· ≤ ·) = samples.insertionSort (· ≤ ·) :=
    List.Perm.eq_of_sortedLE List.sortedLE_insertionSort List.sortedLE_insertionSort
      (((List.perm_insertionSort _ _).trans h).trans (List.perm_insertionSort _ _).symm)
  unfold quantile
  rw [hsorted, h.length_eq]

theorem quantile_zero : quantile samples 0 = sortedEntry (samples.insertionSort (· ≤ ·)) 0 := by
  unfold quantile
  rw [mul_zero]
  exact_mod_cast interpolate_natCast (sortedEntry (samples.insertionSort (· ≤ ·))) 0

theorem quantile_one (hne : samples ≠ []) : quantile samples 1 =
    sortedEntry (samples.insertionSort (· ≤ ·)) (samples.length - 1) := by
  have hlength := List.length_pos_iff.mpr hne
  have hcast : ((samples.length : ℚ) - 1) * 1 = ((samples.length - 1 : ℕ) : ℚ) := by
    rw [Nat.cast_sub hlength, Nat.cast_one, mul_one]
  unfold quantile
  rw [hcast, interpolate_natCast]

/-- The samples lie between the least and the greatest. -/
theorem quantile_bounds {x : ℚ} (hx : x ∈ samples) :
    quantile samples 0 ≤ x ∧ x ≤ quantile samples 1 := by
  obtain ⟨i, hi, rfl⟩ := List.mem_iff_getElem.mp ((List.mem_insertionSort (· ≤ ·)).mpr hx)
  have hmono := sortedEntry_mono (List.pairwise_insertionSort (· ≤ ·) samples)
  have hentry : (samples.insertionSort (· ≤ ·))[i] =
      sortedEntry (samples.insertionSort (· ≤ ·)) i :=
    Option.some.inj ((List.getElem?_eq_getElem hi).symm.trans (getElem?_eq_entry hi))
  rw [List.length_insertionSort] at hi
  rw [hentry, quantile_zero, quantile_one (List.ne_nil_of_mem hx)]
  exact ⟨hmono (Nat.zero_le i), hmono (by omega)⟩

theorem head?_eq_quantile (hne : samples ≠ []) :
    (samples.insertionSort (· ≤ ·)).head? = some (quantile samples 0) := by
  have hlength := List.length_pos_iff.mpr hne
  rw [List.head?_eq_getElem?, quantile_zero]
  exact getElem?_eq_entry (by rw [List.length_insertionSort]; exact hlength)

theorem getLast?_eq_quantile (hne : samples ≠ []) :
    (samples.insertionSort (· ≤ ·)).getLast? = some (quantile samples 1) := by
  have hlength := List.length_pos_iff.mpr hne
  rw [List.getLast?_eq_getElem?, List.length_insertionSort, quantile_one hne]
  exact getElem?_eq_entry (by rw [List.length_insertionSort]; omega)

end Quantiles

/-! ## Averages -/

section Averages

variable {samples : List ℚ}

theorem average_bounds (hne : samples ≠ []) : quantile samples 0 ≤ samples.sum / samples.length ∧
      samples.sum / samples.length ≤ quantile samples 1 := by
  have hpos : (0 : ℚ) < samples.length := by
    exact_mod_cast List.length_pos_iff.mpr hne
  constructor
  · rw [le_div_iff₀ hpos, mul_comm, ← nsmul_eq_mul]
    exact List.card_nsmul_le_sum samples _ fun x hx => (quantile_bounds hx).1
  · rw [div_le_iff₀ hpos, mul_comm, ← nsmul_eq_mul]
    exact List.sum_le_card_nsmul samples _ fun x hx => (quantile_bounds hx).2

theorem differences_nonneg : ∀ samples : List ℚ, 0 ≤ differences samples
  | [] | [_] => le_refl 0
  | _ :: y :: rest => add_nonneg (abs_nonneg _) (differences_nonneg (y :: rest))

/-- One distance for each neighbour, and none is longer than the range. -/
theorem differences_le {low high : ℚ} : ∀ {x : ℚ} {samples : List ℚ},
    (∀ y ∈ x :: samples, low ≤ y ∧ y ≤ high) →
      differences (x :: samples) ≤ samples.length * (high - low)
  | _, [], _ => by simp [differences]
  | x, y :: samples, h => by
      have hx := h x (by simp)
      have hy := h y (by simp)
      have hstep : |y - x| ≤ high - low := by
        rw [abs_le]
        constructor <;> linarith [hx.1, hx.2, hy.1, hy.2]
      have hrest := differences_le fun z hz => h z (List.mem_cons_of_mem x hz)
      rw [differences, List.length_cons, Nat.cast_succ]
      linarith

theorem jitter_bounds (hseveral : 1 < samples.length) :
    0 ≤ differences samples / ((samples.length : ℚ) - 1) ∧
      differences samples / ((samples.length : ℚ) - 1) ≤
        quantile samples 1 - quantile samples 0 := by
  have hpos : (0 : ℚ) < (samples.length : ℚ) - 1 := by
    have : (1 : ℚ) < samples.length := by exact_mod_cast hseveral
    linarith
  refine ⟨div_nonneg (differences_nonneg samples) hpos.le, ?_⟩
  cases samples with
  | nil => cases hseveral
  | cons x rest =>
    have hbound : differences (x :: rest) ≤
        rest.length * (quantile (x :: rest) 1 - quantile (x :: rest) 0) :=
      differences_le fun y hy => quantile_bounds hy
    have hlength : (((x :: rest).length : ℕ) : ℚ) - 1 = rest.length := by
      rw [List.length_cons, Nat.cast_succ]
      ring
    rw [div_le_iff₀ hpos, hlength, mul_comm]
    exact hbound

theorem packetLoss_bounds {packetsSent : ℤ} {received : ℕ} (h1 : 1 ≤ packetsSent)
    (hle : (received : ℤ) ≤ packetsSent) : 0 ≤ 100 * ((packetsSent : ℚ) - received) / packetsSent ∧
      100 * ((packetsSent : ℚ) - received) / packetsSent ≤ 100 := by
  have hsent : (0 : ℚ) < packetsSent := by exact_mod_cast (by omega : 0 < packetsSent)
  have hreceived : (received : ℚ) ≤ packetsSent := by exact_mod_cast hle
  have h0 : (0 : ℚ) ≤ received := Nat.cast_nonneg received
  constructor
  · exact div_nonneg (by linarith) hsent.le
  · rw [div_le_iff₀ hsent]
    linarith

end Averages

/-! ## Results -/

/-- What `CalculateResult` checks. -/
structure SampleCounts (packetsSent : ℤ) (samples : List ℚ) : Prop where
  sent : 1 ≤ packetsSent
  sent_le : packetsSent ≤ maximumPacketCount
  received : (samples.length : ℤ) ≤ packetsSent
  nonneg : ∀ x ∈ samples, 0 ≤ x

/-- A statistic, which there is for samples only. -/
def ofSamples (samples : List ℚ) (x : ℚ) : Option ℚ :=
  if samples = [] then none else some x

/-- What `CalculateResult` returns. -/
def statistics (packetsSent : ℤ) (samples : List ℚ) : IcmpResult where
  packetsSent := packetsSent
  packetsReceived := samples.length
  packetLossPercent := 100 * ((packetsSent : ℚ) - samples.length) / packetsSent
  minimumRttMs := ofSamples samples (quantile samples 0)
  averageRttMs := ofSamples samples (samples.sum / samples.length)
  medianRttMs := ofSamples samples (quantile samples (1 / 2))
  maximumRttMs := ofSamples samples (quantile samples 1)
  p95RttMs := ofSamples samples (quantile samples (19 / 20))
  jitterMs :=
    if 1 < samples.length then
      some (differences samples / ((samples.length : ℚ) - 1))
    else none
  rttSamplesMs := samples

variable {packetsSent : ℤ} {samples : List ℚ}

theorem calculateResult_of (h : SampleCounts packetsSent samples) :
    calculateResult packetsSent samples = .ok (statistics packetsSent samples) := by
  have hcounts : ¬(packetsSent < 1 ∨ maximumPacketCount < packetsSent ∨
      packetsSent < samples.length) := by
    have := h.sent
    have := h.sent_le
    have := h.received
    omega
  have hnonneg : ¬samples.any (· < 0) = true := by simpa using h.nonneg
  unfold calculateResult
  rw [if_neg hcounts, if_neg hnonneg]
  dsimp only
  split
  · next hnil =>
      subst hnil
      rfl
  · next hne =>
      rw [head?_eq_quantile hne, getLast?_eq_quantile hne,
        percentile_eq_quantile hne (by norm_num) (by norm_num),
        percentile_eq_quantile hne (by norm_num) (by norm_num),
        (List.perm_insertionSort (· ≤ ·) samples).sum_eq, List.length_insertionSort]
      simp only [statistics, ofSamples, if_neg hne]

theorem calculateResult_eq_ok {r : IcmpResult} : calculateResult packetsSent samples = .ok r ↔
      SampleCounts packetsSent samples ∧ r = statistics packetsSent samples := by
  constructor
  · intro h
    have hcounts : SampleCounts packetsSent samples := by
      unfold calculateResult at h
      split at h
      · cases h
      · next hbounds =>
          split at h
          · cases h
          · next hnonneg => exact ⟨by omega, by omega, by omega, by simpa using hnonneg⟩
    rw [calculateResult_of hcounts] at h
    exact ⟨hcounts, (Except.ok.inj h).symm⟩
  · rintro ⟨hcounts, rfl⟩
    exact calculateResult_of hcounts

theorem SampleCounts.perm (h : SampleCounts packetsSent samples) {samples' : List ℚ}
    (hperm : samples'.Perm samples) : SampleCounts packetsSent samples' where
  sent := h.sent
  sent_le := h.sent_le
  received := by
    rw [hperm.length_eq]
    exact h.received
  nonneg x hx := h.nonneg x (hperm.mem_iff.mp hx)

theorem ofSamples_perm {samples' : List ℚ} (hperm : samples'.Perm samples) (x : ℚ) :
    ofSamples samples' x = ofSamples samples x := by
  unfold ofSamples
  obtain rfl | hne := eq_or_ne samples []
  · rw [List.perm_nil.mp hperm]
  · rw [if_neg hne, if_neg fun hnil => hne ?_]
    rw [hnil, List.nil_perm] at hperm
    exact hperm

/-- For every packet count and list of samples that `CalculateResult` accepts,
the statistics are in order, the loss is a percentage, and all but the jitter
depend on the samples and not on their order. -/
theorem calculateResult_statistics (packetsSent : ℤ) (samples : List ℚ) (r : IcmpResult)
    (h : calculateResult packetsSent samples = .ok r) :
    (samples ≠ [] → ∃ minimum average median p95 maximum,
      r.minimumRttMs = some minimum ∧ r.averageRttMs = some average ∧
      r.medianRttMs = some median ∧ r.p95RttMs = some p95 ∧ r.maximumRttMs = some maximum ∧
      minimum ≤ median ∧ median ≤ p95 ∧ p95 ≤ maximum ∧ minimum ≤ average ∧ average ≤ maximum ∧
      (2 ≤ samples.length → ∃ jitter, r.jitterMs = some jitter ∧
        0 ≤ jitter ∧ jitter ≤ maximum - minimum)) ∧
    r.packetsSent = packetsSent ∧ r.packetsReceived = samples.length ∧
    r.packetLossPercent = 100 * ((r.packetsSent : ℚ) - r.packetsReceived) / r.packetsSent ∧
    0 ≤ r.packetLossPercent ∧ r.packetLossPercent ≤ 100 ∧ (∀ samples', samples'.Perm samples → ∃ r',
      calculateResult packetsSent samples' = .ok r' ∧
      r'.minimumRttMs = r.minimumRttMs ∧ r'.averageRttMs = r.averageRttMs ∧
      r'.medianRttMs = r.medianRttMs ∧ r'.p95RttMs = r.p95RttMs ∧
      r'.maximumRttMs = r.maximumRttMs ∧ r'.packetLossPercent = r.packetLossPercent) ∧
    r.rttSamplesMs = samples := by
  obtain ⟨hcounts, rfl⟩ := calculateResult_eq_ok.mp h
  obtain ⟨hloss0, hloss100⟩ := packetLoss_bounds hcounts.sent hcounts.received
  refine ⟨fun hne => ?_, rfl, rfl, by simp [statistics], hloss0, hloss100,
    fun samples' hperm => ?_, rfl⟩
  · have hsome : ∀ x, ofSamples samples x = some x := fun x => if_neg hne
    obtain ⟨haverage0, haverage1⟩ := average_bounds hne
    refine ⟨_, _, _, _, _, hsome _, hsome _, hsome _, hsome _, hsome _,
      quantile_mono hne (by norm_num) (by norm_num), quantile_mono hne (by norm_num) (by norm_num),
      quantile_mono hne (by norm_num) (by norm_num), haverage0, haverage1,
      fun hseveral => ⟨_, if_pos hseveral, jitter_bounds hseveral⟩⟩
  · refine ⟨_, calculateResult_of (hcounts.perm hperm), ?_⟩
    simp only [statistics, quantile_perm hperm, ofSamples_perm hperm, hperm.sum_eq,
      hperm.length_eq, and_self]

theorem calculateResult_statistics_sample :
    ∃ r, calculateResult 5 [4, 1, 3, 2] = .ok r ∧ r.medianRttMs = some (5 / 2) ∧
      r.rttSamplesMs = [4, 1, 3, 2] ∧ 0 ≤ r.packetLossPercent := by
  have hresult : calculateResult 5 [4, 1, 3, 2] = .ok (statistics 5 [4, 1, 3, 2]) :=
    calculateResult_of ⟨by decide, by decide, by decide, by decide⟩
  obtain ⟨-, -, -, -, hloss, -, -, hsamples⟩ := calculateResult_statistics _ _ _ hresult
  exact ⟨_, hresult, by decide +kernel, hsamples, hloss⟩

end Bifrostnms.Proofs
