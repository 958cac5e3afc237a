import Bifrostnms.Agent.QueueReading
import Bifrostnms.Lib.Checks
import Bifrostnms.Lib.Query

/-!
# The order of the queue

SQLite compares the times of the queue as texts. The rows that are ready, their order and
the oldest time are those of the instants exactly if the texts that are compared are
ordered as their instants, and the times that are returned can be parsed (`Orderly`). For
years of four digits the only texts that are not are those of one second of which one is
the shorter form of the other (`Shortened`).
-/

namespace Bifrostnms.Proofs

open Bifrostnms.Lib Bifrostnms.Agent

/-! ## Two times -/

/-- The text of a time is not after the text of another exactly if it is not later. -/
def InOrder (a b : ℤ) : Prop :=
  if FourDigitYear a ∧ FourDigitYear b then ¬ Shortened a b
  else (utf8Le (formatTime a) (formatTime b) = true ↔ a ≤ b)

theorem inOrder_iff {a b : ℤ} :
    InOrder a b ↔ (utf8Le (formatTime a) (formatTime b) = true ↔ a ≤ b) := by
  rw [InOrder]
  split
  · next hyears =>
      rw [formatTime, formatTime, utf8Le_rfc3339Nano hyears.1 hyears.2]
      by_cases hshort : Shortened a b
      · rw [if_pos hshort]
        have hne := hshort.1
        refine iff_of_false (fun h => h hshort) fun h => ?_
        omega
      · rw [if_neg hshort]
        exact iff_of_true hshort Iff.rfl
  · exact Iff.rfl

theorem parseTime_formatTime (t : ℤ) : parseTime (formatTime t) =
      if FourDigitYear t then .ok t else .error "parse stored time" := by
  rw [parseTime, formatTime, String.toList_ofList, readNano_rfc3339Nano]
  by_cases h : FourDigitYear t
  · rw [if_pos h, if_pos h]
  · rw [if_neg h, if_neg h]

theorem parseTime_eq_ok {t u : ℤ} : parseTime (formatTime t) = .ok u ↔ FourDigitYear t ∧ t = u := by
  rw [parseTime_formatTime]
  by_cases h : FourDigitYear t
  · simp [h]
  · simp [h]

/-! ## Rows -/

/-- The times of a row that `scanObservation` parses. -/
structure ReadableTimes (row : Observation) : Prop where
  scheduledAt : FourDigitYear row.scheduledAt
  createdAt : FourDigitYear row.createdAt
  nextAttemptAt : FourDigitYear row.nextAttemptAt
  lastAttemptAt : ∀ t ∈ row.lastAttemptAt, FourDigitYear t

theorem optionParseTime_eq_ok {o r : Option ℤ} :
    (o.mapM fun t => parseTime (formatTime t)) = .ok r ↔ (∀ t ∈ o, FourDigitYear t) ∧ o = r := by
  rw [optionMapM_eq_ok]
  cases o <;> cases r <;> simp [parseTime_eq_ok]

theorem scanObservation_eq_ok {row row' : Observation} :
    scanObservation row = .ok row' ↔ ReadableTimes row ∧ row = row' := by
  simp only [scanObservation, bind_eq_ok, parseTime_eq_ok, optionParseTime_eq_ok, pure,
    Except.pure, Except.ok.injEq]
  constructor
  · rintro ⟨_, ⟨h1, rfl⟩, _, ⟨h2, rfl⟩, _, ⟨h3, rfl⟩, _, ⟨h4, rfl⟩, rfl⟩
    exact ⟨⟨h1, h2, h3, h4⟩, rfl⟩
  · rintro ⟨h, rfl⟩
    exact ⟨_, ⟨h.scheduledAt, rfl⟩, _, ⟨h.createdAt, rfl⟩, _, ⟨h.nextAttemptAt, rfl⟩, _,
      ⟨h.lastAttemptAt, rfl⟩, rfl⟩

theorem mapM_scanObservation {rows rows' : List Observation} :
    rows.mapM scanObservation = .ok rows' ↔ (∀ row ∈ rows, ReadableTimes row) ∧ rows = rows' :=
  mapM_checked_eq_ok scanObservation_eq_ok

/-! ## Sorting -/

/-- The order of instants, and then of identities. -/
def instantLe (a b : Observation) : Bool :=
  a.scheduledAt < b.scheduledAt ||
    (a.scheduledAt = b.scheduledAt && utf8Le a.observationId b.observationId)

theorem formatTime_inj {a b : ℤ} (ha : FourDigitYear a) (h : formatTime a = formatTime b) :
    a = b := by
  have hparse := parseTime_eq_ok.mpr ⟨ha, rfl⟩
  rw [h] at hparse
  exact (parseTime_eq_ok.mp hparse).2.symm

section Rows

variable {a b : Observation} (ha : FourDigitYear a.scheduledAt)
  (hb : FourDigitYear b.scheduledAt)

include ha hb

/-- Rows of different times are ordered by the texts of these. -/
theorem rowLe_of_ne (hne : a.scheduledAt ≠ b.scheduledAt) :
    rowLe a b = true ↔ if Shortened a.scheduledAt b.scheduledAt then
      b.scheduledAt ≤ a.scheduledAt else a.scheduledAt ≤ b.scheduledAt := by
  have htext : formatTime a.scheduledAt ≠ formatTime b.scheduledAt :=
    fun h => hne (formatTime_inj ha h)
  show (if formatTime a.scheduledAt = formatTime b.scheduledAt then _ else _) = true ↔ _
  rw [if_neg htext, formatTime, formatTime, utf8Le_rfc3339Nano ha hb]

/-- Two rows are ordered as their instants, unless one time is shortened. -/
theorem rowLe_iff (hshort : ¬ Shortened a.scheduledAt b.scheduledAt) :
    rowLe a b = true ↔ instantLe a b = true := by
  rw [instantLe, Bool.or_eq_true, Bool.and_eq_true, decide_eq_true_iff, decide_eq_true_iff]
  by_cases heq : a.scheduledAt = b.scheduledAt
  · show (if formatTime a.scheduledAt = formatTime b.scheduledAt then _ else _) = true ↔ _
    rw [if_pos (congrArg formatTime heq)]
    simp [heq]
  · rw [rowLe_of_ne ha hb heq, if_neg hshort]
    simp only [heq, false_and, or_false]
    omega

end Rows

/-! ## The ready rows -/

/-- What `ReadyObservations` is meant to return. -/
def dueObservations (s : Store) (now : ℤ) : List Observation :=
  (s.pending.filter fun row => row.nextAttemptAt ≤ now).insertionSort
    fun a b => instantLe a b = true

/-- What it selects, in the order of the query. -/
def selectedObservations (s : Store) (now : ℤ) : List Observation :=
  (s.pending.filter fun row =>
    utf8Le (formatTime row.nextAttemptAt) (formatTime now)).insertionSort
    fun a b => rowLe a b = true

theorem scannedObservations_eq {s : Store} {now : ℤ} {limit : ℕ} (h : 1 ≤ limit) :
    scannedObservations s now limit =
      ((selectedObservations s now).take limit).mapM scanObservation := by
  rw [scannedObservations, readyObservations, if_neg (by omega)]
  rfl

/-- All the limits together ask for the whole lists. -/
theorem scannedObservations_iff {s : Store} {now : ℤ} :
    (∀ limit, 1 ≤ limit → scannedObservations s now limit =
        .ok ((dueObservations s now).take limit)) ↔
      (∀ row ∈ selectedObservations s now, ReadableTimes row) ∧
        selectedObservations s now = dueObservations s now := by
  constructor
  · intro h
    have hall := h ((selectedObservations s now).length + (dueObservations s now).length + 1)
      (by omega)
    rw [scannedObservations_eq (by omega), mapM_scanObservation,
      List.take_of_length_le (by omega), List.take_of_length_le (by omega)] at hall
    exact hall
  · rintro ⟨hread, heq⟩ limit hlimit
    rw [scannedObservations_eq hlimit, mapM_scanObservation, heq]
    refine ⟨fun row hrow => hread row ?_, rfl⟩
    rw [heq]
    exact List.mem_of_mem_take hrow

theorem mem_selectedObservations {s : Store} {now : ℤ} {row : Observation} :
    row ∈ selectedObservations s now ↔ row ∈ s.pending ∧
      utf8Le (formatTime row.nextAttemptAt) (formatTime now) = true := by
  rw [selectedObservations, (List.perm_insertionSort _ _).mem_iff, List.mem_filter]

theorem mem_dueObservations {s : Store} {now : ℤ} {row : Observation} :
    row ∈ dueObservations s now ↔ row ∈ s.pending ∧ row.nextAttemptAt ≤ now := by
  rw [dueObservations, (List.perm_insertionSort _ _).mem_iff, List.mem_filter, decide_eq_true_iff]

/-- `ORDER BY` a column of texts. -/
def textKey : SortKey String where
  le := utf8Le
  total a b := by
    rw [Bool.or_eq_true]
    exact utf8Le_total a b
  trans := utf8Le_trans

def rowKey : SortKey Observation :=
  (textKey.column fun row => formatTime row.scheduledAt).andThen
    (textKey.column Observation.observationId)

def instantKey : SortKey Observation :=
  ((SortKey.number ℤ).column Observation.scheduledAt).andThen
    (textKey.column Observation.observationId)

section Texts

variable {ρ : Type} {f g : ρ → String}

/-- `ORDER BY` two columns of texts. -/
theorem textOrder_eq : (fun a b => if f a = f b then utf8Le (g a) (g b) else utf8Le (f a) (f b)) =
    ((textKey.column f).andThen (textKey.column g)).le := by
  funext a b
  simp only [SortKey.andThen, SortKey.column, textKey]
  by_cases heq : f a = f b
  · have hself : utf8Le (f b) (f b) = true := (utf8Le_total _ _).elim id id
    rw [if_pos heq, heq, hself, Bool.true_and, Bool.not_true, Bool.false_or]
  · rw [if_neg heq]
    cases hab : utf8Le (f a) (f b) with
    | false => rw [Bool.false_and]
    | true =>
      have hba : utf8Le (f b) (f a) = false :=
        Bool.eq_false_iff.mpr fun hba => heq (utf8Le_antisymm hab hba)
      rw [hba, Bool.not_false, Bool.true_or, Bool.and_true]

end Texts

theorem rowLe_eq : rowLe = rowKey.le := textOrder_eq

theorem instantLe_eq : instantLe = instantKey.le := by
  funext a b
  simp only [instantLe, instantKey, SortKey.andThen, SortKey.column, SortKey.number, textKey]
  rcases lt_trichotomy a.scheduledAt b.scheduledAt with hlt | heq | hgt
  · simp [hlt, hlt.le]
  · simp [heq]
  · simp [hgt.not_gt, hgt.ne', hgt.not_ge]

/-! ## The condition -/

/-- The times are ordered as texts as they are as instants, where it matters, and the
times that are returned can be parsed. -/
structure Orderly (s : Store) (now : ℤ) : Prop where
  attempts : ∀ row ∈ s.pending, InOrder row.nextAttemptAt now
  readable : ∀ row ∈ s.pending, row.nextAttemptAt ≤ now → ReadableTimes row
  scheduled : ∀ a ∈ s.pending, ∀ b ∈ s.pending, a.nextAttemptAt ≤ now →
    b.nextAttemptAt ≤ now → ¬ Shortened a.scheduledAt b.scheduledAt
  oldest : ∀ row ∈ s.pending, (∀ other ∈ s.pending, row.scheduledAt ≤ other.scheduledAt) →
    FourDigitYear row.scheduledAt ∧ ∀ other ∈ s.pending, InOrder row.scheduledAt other.scheduledAt

section Ready

variable {s : Store} {now : ℤ}

/-- The same rows are selected exactly if their texts say so. -/
theorem filter_eq_iff : (∀ row, row ∈ selectedObservations s now ↔ row ∈ dueObservations s now) ↔
      ∀ row ∈ s.pending, InOrder row.nextAttemptAt now := by
  simp only [mem_selectedObservations, mem_dueObservations, inOrder_iff]
  constructor
  · intro h row hrow
    have hmem := h row
    simp only [hrow, true_and] at hmem
    exact hmem
  · intro h row
    exact and_congr_right fun hrow => h row hrow

/-- With the right rows, the texts sort them in the right order exactly if no two of their
times are shortened. -/
theorem sorted_eq_iff {rows : List Observation} (hread : ∀ row ∈ rows, ReadableTimes row) :
    ((rows.insertionSort fun a b => rowLe a b = true) =
        rows.insertionSort fun a b => instantLe a b = true) ↔
      ∀ a ∈ rows, ∀ b ∈ rows, ¬ Shortened a.scheduledAt b.scheduledAt := by
  constructor
  · rw [rowLe_eq, instantLe_eq]
    intro h a ha b hb hshort
    have hne : a ≠ b := fun heq => hshort.1 (congrArg Observation.scheduledAt heq)
    have hagree := SortKey.agree_of_insertionSort_eq h ha hb hne
    rw [← rowLe_eq, ← instantLe_eq] at hagree
    have hya := (hread a ha).scheduledAt
    have hyb := (hread b hb).scheduledAt
    have htime := hshort.1
    rw [rowLe_of_ne hya hyb htime, if_pos hshort, rowLe_of_ne hyb hya htime.symm,
      if_pos hshort.symm] at hagree
    simp only [instantLe, Bool.or_eq_true, Bool.and_eq_true, decide_eq_true_iff] at hagree
    omega
  · intro h
    exact insertionSort_congr fun a ha b hb =>
      rowLe_iff (hread a ha).scheduledAt (hread b hb).scheduledAt (h a ha b hb)

theorem ready_iff : ((∀ row ∈ selectedObservations s now, ReadableTimes row) ∧
        selectedObservations s now = dueObservations s now) ↔
      (∀ row ∈ s.pending, InOrder row.nextAttemptAt now) ∧
      (∀ row ∈ s.pending, row.nextAttemptAt ≤ now → ReadableTimes row) ∧
      ∀ a ∈ s.pending, ∀ b ∈ s.pending, a.nextAttemptAt ≤ now → b.nextAttemptAt ≤ now →
        ¬ Shortened a.scheduledAt b.scheduledAt := by
  have hfilter : (∀ row ∈ s.pending, InOrder row.nextAttemptAt now) → (s.pending.filter fun row =>
          utf8Le (formatTime row.nextAttemptAt) (formatTime now)) =
        s.pending.filter fun row => row.nextAttemptAt ≤ now := by
    intro h
    refine List.filter_congr fun row hrow => ?_
    rw [Bool.eq_iff_iff, decide_eq_true_iff]
    exact inOrder_iff.mp (h row hrow)
  have hread : (∀ row ∈ s.pending.filter fun row => row.nextAttemptAt ≤ now, ReadableTimes row) ↔
      ∀ row ∈ s.pending, row.nextAttemptAt ≤ now → ReadableTimes row := by
    simp only [List.mem_filter, decide_eq_true_iff, and_imp]
  have hsorted := fun hrows => @sorted_eq_iff
    (s.pending.filter fun row => row.nextAttemptAt ≤ now) hrows
  simp only [List.mem_filter, decide_eq_true_iff, and_imp] at hsorted
  constructor
  · rintro ⟨hselected, heq⟩
    have hattempts := filter_eq_iff.mp fun row => by rw [heq]
    have hrows : ∀ row ∈ s.pending, row.nextAttemptAt ≤ now → ReadableTimes row := by
      intro row hrow hdue
      refine hselected row ?_
      rw [heq, mem_dueObservations]
      exact ⟨hrow, hdue⟩
    rw [selectedObservations, dueObservations, hfilter hattempts, hsorted hrows] at heq
    exact ⟨hattempts, hrows, fun a ha b hb hda hdb => heq a ha hda b hb hdb⟩
  · rintro ⟨hattempts, hrows, hscheduled⟩
    have heq : selectedObservations s now = dueObservations s now := by
      rw [selectedObservations, dueObservations, hfilter hattempts, hsorted hrows]
      exact fun a ha hda b hb hdb => hscheduled a ha b hb hda hdb
    refine ⟨fun row hrow => ?_, heq⟩
    rw [heq, mem_dueObservations] at hrow
    exact hrows row hrow.1 hrow.2

end Ready

/-! ## The oldest time -/

theorem foldl_min (t : String) (ts : List String) :
    ts.foldl (fun m u => if utf8Le m u then m else u) t ∈ t :: ts ∧
      ∀ u ∈ t :: ts, utf8Le (ts.foldl (fun m u => if utf8Le m u then m else u) t) u = true := by
  induction ts generalizing t with
  | nil =>
    exact ⟨List.mem_singleton_self t, List.forall_mem_singleton.mpr
      ((utf8Le_total t t).elim id id)⟩
  | cons u ts ih =>
    rw [List.foldl_cons]
    -- The smaller of the first two goes on.
    by_cases htu : utf8Le t u = true
    · rw [if_pos htu]
      obtain ⟨hmem, hle⟩ := ih t
      have hmt := hle t List.mem_cons_self
      refine ⟨?_, List.forall_mem_cons.mpr ⟨hmt, List.forall_mem_cons.mpr
        ⟨utf8Le_trans hmt htu, fun v hv => hle v (List.mem_cons_of_mem t hv)⟩⟩⟩
      rcases List.mem_cons.mp hmem with heq | hmem
      · rw [heq]
        exact List.mem_cons_self
      · exact List.mem_cons_of_mem t (List.mem_cons_of_mem u hmem)
    · rw [if_neg htu]
      obtain ⟨hmem, hle⟩ := ih u
      have hmu := hle u List.mem_cons_self
      have hut := (utf8Le_total t u).resolve_left htu
      exact ⟨List.mem_cons_of_mem t hmem, List.forall_mem_cons.mpr ⟨utf8Le_trans hmu hut, hle⟩⟩

theorem minText_spec {ts : List String} {m : String} (h : minText ts = some m) :
    m ∈ ts ∧ ∀ t ∈ ts, utf8Le m t = true := by
  cases ts with
  | nil => cases h
  | cons t ts =>
    cases h
    exact foldl_min t ts

theorem queueStats_eq_ok {s : Store} {oldest : Option ℤ} :
    (∃ stats, queueStats s = .ok stats ∧ stats.oldestPendingAt = oldest) ↔
      (minText (s.pending.map fun row => formatTime row.scheduledAt)).mapM parseTime =
        .ok oldest := by
  rw [queueStats]
  constructor
  · rintro ⟨stats, h, rfl⟩
    obtain ⟨oldest, holdest, hstats⟩ := bind_eq_ok.mp h
    cases hstats
    exact holdest
  · intro h
    rw [h]
    exact ⟨_, rfl, rfl⟩

section Earliest

variable {s : Store} {first : Observation} (hfirst : first ∈ s.pending)

include hfirst

/-- Some row is the earliest. -/
theorem exists_earliest : ∃ row ∈ s.pending,
    ∀ other ∈ s.pending, row.scheduledAt ≤ other.scheduledAt := by
  have hsome : (s.pending.map Observation.scheduledAt).min?.isSome = true := by
    rw [List.isSome_min?_iff]
    exact List.ne_nil_of_mem (List.mem_map.mpr ⟨first, hfirst, rfl⟩)
  obtain ⟨earliest, hearliest⟩ := Option.isSome_iff_exists.mp hsome
  obtain ⟨hmem, hle⟩ := List.min?_eq_some_iff.mp hearliest
  obtain ⟨row, hrow, rfl⟩ := List.mem_map.mp hmem
  exact ⟨row, hrow, List.forall_mem_map.mp hle⟩

theorem parse_earliest_iff : (some (formatTime first.scheduledAt)).mapM parseTime =
        .ok (s.pending.map Observation.scheduledAt).min? ↔ FourDigitYear first.scheduledAt ∧
        ∀ other ∈ s.pending, first.scheduledAt ≤ other.scheduledAt := by
  rw [optionMapM_eq_ok, Option.map_some]
  constructor
  · intro h
    obtain ⟨earliest, hearliest, hparse⟩ := Option.map_eq_some_iff.mp h.symm
    obtain ⟨hyear, rfl⟩ := parseTime_eq_ok.mp hparse.symm
    exact ⟨hyear, List.forall_mem_map.mp (List.min?_eq_some_iff.mp hearliest).2⟩
  · rintro ⟨hyear, hle⟩
    have hearliest : (s.pending.map Observation.scheduledAt).min? = some first.scheduledAt :=
      List.min?_eq_some_iff.mpr ⟨List.mem_map.mpr ⟨first, hfirst, rfl⟩, List.forall_mem_map.mpr hle⟩
    rw [hearliest, parseTime_eq_ok.mpr ⟨hyear, rfl⟩]
    rfl

end Earliest

/-- The minimum of the texts is the text of the earliest time. -/
theorem oldest_iff {s : Store} : (∃ stats, queueStats s = .ok stats ∧
        stats.oldestPendingAt = (s.pending.map Observation.scheduledAt).min?) ↔
      ∀ row ∈ s.pending, (∀ other ∈ s.pending, row.scheduledAt ≤ other.scheduledAt) →
        FourDigitYear row.scheduledAt ∧
          ∀ other ∈ s.pending, InOrder row.scheduledAt other.scheduledAt := by
  rw [queueStats_eq_ok]
  cases hmin : minText (s.pending.map fun row => formatTime row.scheduledAt) with
  | none =>
    have hnil : s.pending = [] := by
      cases hpending : s.pending with
      | nil => rfl
      | cons row rows =>
        rw [hpending] at hmin
        cases hmin
    rw [hnil]
    simp [pure, Except.pure]
  | some m =>
    obtain ⟨hmem, hle⟩ := minText_spec hmin
    obtain ⟨first, hfirst, rfl⟩ := List.mem_map.mp hmem
    rw [List.forall_mem_map] at hle
    have hmapM : (some (formatTime first.scheduledAt)).mapM parseTime =
        .ok (s.pending.map Observation.scheduledAt).min? ↔ FourDigitYear first.scheduledAt ∧
          ∀ other ∈ s.pending, first.scheduledAt ≤ other.scheduledAt :=
      parse_earliest_iff hfirst
    rw [hmapM]
    constructor
    · rintro ⟨hyear, hearliest⟩ row hrow hrowle
      have heq : row.scheduledAt = first.scheduledAt :=
        le_antisymm (hrowle first hfirst) (hearliest row hrow)
      rw [heq]
      exact ⟨hyear, fun other hother => inOrder_iff.mpr
        (iff_of_true (hle other hother) (hearliest other hother))⟩
    · intro h
      obtain ⟨row, hrow, hrowle⟩ := exists_earliest hfirst
      obtain ⟨hyear, horder⟩ := h row hrow hrowle
      have htext : formatTime row.scheduledAt = formatTime first.scheduledAt :=
        utf8Le_antisymm ((inOrder_iff.mp (horder first hfirst)).mpr (hrowle first hfirst))
          (hle row hrow)
      rw [← formatTime_inj hyear htext]
      exact ⟨hyear, hrowle⟩

/-- `ReadyObservations` returns the first rows that are due, by their instants, for every
limit, and `QueueStats` the earliest time, exactly if the queue is orderly. -/
theorem queue_order_iff (s : Store) (now : ℤ) :
    ((∀ limit, 1 ≤ limit → scannedObservations s now limit =
        .ok ((dueObservations s now).take limit)) ∧ ∃ stats, queueStats s = .ok stats ∧
        stats.oldestPendingAt = (s.pending.map Observation.scheduledAt).min?) ↔ Orderly s now := by
  rw [scannedObservations_iff, ready_iff, oldest_iff]
  constructor
  · rintro ⟨⟨hattempts, hreadable, hscheduled⟩, holdest⟩
    exact ⟨hattempts, hreadable, hscheduled, holdest⟩
  · rintro ⟨hattempts, hreadable, hscheduled, holdest⟩
    exact ⟨⟨hattempts, hreadable, hscheduled⟩, holdest⟩

/-- An observation that was scheduled and is due at given times. -/
def timedObservation (scheduledAt nextAttemptAt : ℤ) (id : String) : Observation where
  scheduledAt := scheduledAt
  observationId := id
  monitorId := "m"
  monitorRevision := 1
  agentConfigRevision := 1
  probeType := "icmp"
  canonicalPayload := ['x']
  createdAt := scheduledAt
  nextAttemptAt := nextAttemptAt

/-- Two observations, one scheduled at a full second and one half a second later. -/
def halfSecondStore : Store where
  pending := [timedObservation 1786885200000000000 0 "first",
    timedObservation 1786885200500000000 0 "second"]

/-- The later one is returned first and reported as the oldest. And an observation that is
due at a full second is not returned half a second later. -/
theorem queue_disordered : (scannedObservations halfSecondStore 1786885260000000000 1).map
        (List.map Observation.observationId) = .ok ["second"] ∧
      ((dueObservations halfSecondStore 1786885260000000000).take 1).map
        Observation.observationId = ["first"] ∧
      (queueStats halfSecondStore).map QueueStats.oldestPendingAt = .ok (some 1786885200500000000) ∧
      scannedObservations { pending := [timedObservation 1786885200000000000
        1786885200000000000 "first"] } 1786885200500000000 1 = .ok [] := by
  refine ⟨?_, ?_, ?_, ?_⟩
  · decide +kernel
  · decide +kernel
  · decide +kernel
  · rfl

end Bifrostnms.Proofs
