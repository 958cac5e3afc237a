import Bifrostnms.Frontend.IcmpVisualization
import Mathlib.Data.List.Chain
import Mathlib.Data.String.Basic
import Mathlib.Tactic.Ring

/-!
# Lines that are cut where observations are missing

A series is what `filter` by its agent gives, in time order and cut at every gap
(`buildIcmpSeries_eq`). The cuts are a matter of neighbours alone: a point is
compared with the last point of the last segment, and that is its neighbour in
time order (`split_splitSegments`). The order of the points shows nowhere, unless
the collation has two ids in one place: then the first one of them that comes is
first.

The search under the mouse keeps everything before `low` earlier than the mouse,
and the point at `high` not earlier unless it is the last one. So the nearest
point is the one at `low` or the one before it (`nearestPoint_least`).
-/

namespace Bifrostnms.Proofs

open Bifrostnms.Lib Bifrostnms.Frontend

variable {browser : Browser}

/-! ## Segments -/

/-- The segments are not empty, and there is a gap between two of them and none inside. -/
structure Split (browser : Browser) (maximumGap : ℚ)
    (segments : List (List IcmpVisualizationPoint)) : Prop where
  nonempty : ∀ segment ∈ segments, segment ≠ []
  close : ∀ segment ∈ segments, segment.IsChain fun p q =>
    ((browser.time q - browser.time p : ℤ) : ℚ) ≤ maximumGap
  apart : segments.IsChain fun before after => ∀ p ∈ before.getLast?, ∀ q ∈ after.head?,
    maximumGap < ((browser.time q - browser.time p : ℤ) : ℚ)

/-- What a point does to segments of which the last one ends with `previous`. -/
theorem pushPoint_concat (maximumGap : ℚ) (done : List (List IcmpVisualizationPoint))
    (segment : List IcmpVisualizationPoint) (previous point : IcmpVisualizationPoint) :
    pushPoint browser maximumGap (done ++ [segment ++ [previous]]) point =
      if maximumGap < ((browser.time point - browser.time previous : ℤ) : ℚ) then
        done ++ [segment ++ [previous]] ++ [[point]]
      else done ++ [segment ++ [previous] ++ [point]] := by
  unfold pushPoint
  rw [List.getLast?_concat]
  dsimp only
  rw [List.getLast?_concat, List.dropLast_concat]

theorem Split.push {maximumGap : ℚ} {done : List (List IcmpVisualizationPoint)}
    {segment : List IcmpVisualizationPoint} {previous point : IcmpVisualizationPoint}
    (h : Split browser maximumGap (done ++ [segment ++ [previous]]))
    (hgap : maximumGap < ((browser.time point - browser.time previous : ℤ) : ℚ)) :
    Split browser maximumGap (done ++ [segment ++ [previous]] ++ [[point]]) where
  nonempty := by
    intro other hother
    rcases List.mem_append.mp hother with hold | hnew
    · exact h.nonempty other hold
    · rw [List.mem_singleton.mp hnew]
      exact List.cons_ne_nil _ _
  close := by
    intro other hother
    rcases List.mem_append.mp hother with hold | hnew
    · exact h.close other hold
    · rw [List.mem_singleton.mp hnew]
      exact List.isChain_singleton _
  apart := by
    refine List.isChain_append.mpr ⟨h.apart, List.isChain_singleton _, ?_⟩
    intro before hbefore after hafter p hp q hq
    simp only [List.getLast?_concat, Option.mem_some_iff] at hbefore
    subst hbefore
    simp only [List.head?_cons, Option.mem_some_iff] at hafter
    subst hafter
    simp only [List.getLast?_concat, Option.mem_some_iff] at hp
    simp only [List.head?_cons, Option.mem_some_iff] at hq
    rw [← hp, ← hq]
    exact hgap

theorem Split.extend {maximumGap : ℚ} {done : List (List IcmpVisualizationPoint)}
    {segment : List IcmpVisualizationPoint} {previous point : IcmpVisualizationPoint}
    (h : Split browser maximumGap (done ++ [segment ++ [previous]]))
    (hgap : ((browser.time point - browser.time previous : ℤ) : ℚ) ≤ maximumGap) :
    Split browser maximumGap (done ++ [segment ++ [previous] ++ [point]]) where
  nonempty := by
    intro other hother
    rcases List.mem_append.mp hother with hold | hnew
    · exact h.nonempty other (List.mem_append_left _ hold)
    · rw [List.mem_singleton.mp hnew]
      simp
  close := by
    intro other hother
    rcases List.mem_append.mp hother with hold | hnew
    · exact h.close other (List.mem_append_left _ hold)
    · rw [List.mem_singleton.mp hnew]
      refine List.isChain_append.mpr ⟨h.close _ (by simp), List.isChain_singleton _, ?_⟩
      intro p hp q hq
      simp only [List.getLast?_concat, Option.mem_some_iff] at hp
      simp only [List.head?_cons, Option.mem_some_iff] at hq
      rw [← hp, ← hq]
      exact hgap
  apart := by
    -- the segment keeps its first point, so its distance to the one before stays
    obtain ⟨hdone, -, hlast⟩ := List.isChain_append.mp h.apart
    refine List.isChain_append.mpr ⟨hdone, List.isChain_singleton _, ?_⟩
    intro before hbefore after hafter p hp q hq
    simp only [List.head?_cons, Option.mem_some_iff] at hafter
    subst hafter
    rw [List.head?_append_of_ne_nil _ (by simp)] at hq
    exact hlast before hbefore _ (by simp) p hp q hq

/-- One point: it joins the last segment or begins a new one. -/
theorem pushPoint_split {maximumGap : ℚ} {segments : List (List IcmpVisualizationPoint)}
    (h : Split browser maximumGap segments) (point : IcmpVisualizationPoint) :
    Split browser maximumGap (pushPoint browser maximumGap segments point) ∧
      (pushPoint browser maximumGap segments point).flatten = segments.flatten ++ [point] := by
  rcases List.eq_nil_or_concat' segments with rfl | ⟨done, last, rfl⟩
  · have hone : pushPoint browser maximumGap [] point = [[point]] := rfl
    rw [hone]
    exact ⟨⟨by simp, by simp, List.isChain_singleton _⟩, rfl⟩
  · have hlast : last ≠ [] := h.nonempty last (by simp)
    obtain ⟨segment, previous, rfl⟩ := (List.eq_nil_or_concat' last).resolve_left hlast
    rw [pushPoint_concat]
    split
    · next hgap => exact ⟨h.push hgap, by simp⟩
    · next hgap => exact ⟨h.extend (not_lt.mp hgap), by simp⟩

variable (browser) in
theorem split_splitSegments (maximumGap : ℚ) (sorted : List IcmpVisualizationPoint) :
    Split browser maximumGap (splitSegments browser maximumGap sorted) ∧
      (splitSegments browser maximumGap sorted).flatten = sorted := by
  induction sorted using List.reverseRecOn with
  | nil => exact ⟨⟨by simp [splitSegments], by simp [splitSegments], List.isChain_nil⟩, rfl⟩
  | append_singleton sorted point ih =>
    have hpush : splitSegments browser maximumGap (sorted ++ [point]) =
        pushPoint browser maximumGap (splitSegments browser maximumGap sorted) point := by
      simp [splitSegments]
    obtain ⟨hsplit, hflatten⟩ := pushPoint_split ih.1 point
    rw [hpush]
    exact ⟨hsplit, by rw [hflatten, ih.2]⟩

/-! ## Groups -/

/-- The points of an agent, in the order in which they came. -/
def ownPoints (points : List IcmpVisualizationPoint) (agentId : String) :
    List IcmpVisualizationPoint :=
  points.filter fun point => point.agentId = agentId

theorem groupPoint_of_mem {point : IcmpVisualizationPoint} {ids : List String}
    (hnodup : ids.Nodup) (h : point.agentId ∈ ids) (group : String → List IcmpVisualizationPoint) :
    groupPoint point (ids.map fun agentId => (agentId, group agentId)) =
      ids.map fun agentId => (agentId,
        if point.agentId = agentId then group agentId ++ [point] else group agentId) := by
  induction ids with
  | nil => exact absurd h List.not_mem_nil
  | cons agentId rest ih =>
    obtain ⟨hnew, hrest⟩ := List.nodup_cons.mp hnodup
    simp only [List.map_cons, groupPoint]
    by_cases hown : agentId = point.agentId
    · rw [if_pos hown, if_pos hown.symm]
      congr 1
      refine List.map_congr_left fun other hother => ?_
      rw [if_neg]
      intro heq
      exact hnew (hown ▸ heq ▸ hother)
    · rw [if_neg hown, if_neg (Ne.symm hown), ih hrest]
      exact (List.mem_cons.mp h).resolve_left (Ne.symm hown)

theorem groupPoint_of_notMem {point : IcmpVisualizationPoint} {ids : List String}
    (h : point.agentId ∉ ids) (group : String → List IcmpVisualizationPoint) :
    groupPoint point (ids.map fun agentId => (agentId, group agentId)) =
      (ids.map fun agentId => (agentId, group agentId)) ++ [(point.agentId, [point])] := by
  induction ids with
  | nil => rfl
  | cons agentId rest ih =>
    rw [List.mem_cons, not_or] at h
    simp only [List.map_cons, groupPoint, List.cons_append]
    rw [if_neg (Ne.symm h.1), ih h.2]

theorem ownPoints_concat (points : List IcmpVisualizationPoint) (point : IcmpVisualizationPoint)
    (agentId : String) : ownPoints (points ++ [point]) agentId =
      if point.agentId = agentId then ownPoints points agentId ++ [point]
      else ownPoints points agentId := by
  unfold ownPoints
  rw [List.filter_append, List.filter_singleton]
  by_cases hown : point.agentId = agentId <;> simp [hown]

theorem ownPoints_eq_nil {points : List IcmpVisualizationPoint} {agentId : String}
    (h : ¬ ∃ point ∈ points, point.agentId = agentId) : ownPoints points agentId = [] := by
  refine List.filter_eq_nil_iff.mpr fun point hpoint hown => ?_
  exact h ⟨point, hpoint, of_decide_eq_true hown⟩

/-- The groups: the points of each agent, under its id and in their order. -/
theorem groupPoints_eq (points : List IcmpVisualizationPoint) : ∃ ids : List String, ids.Nodup ∧
      (∀ agentId, agentId ∈ ids ↔ ∃ point ∈ points, point.agentId = agentId) ∧
      groupPoints points = ids.map fun agentId => (agentId, ownPoints points agentId) := by
  induction points using List.reverseRecOn with
  | nil => exact ⟨[], List.nodup_nil, by simp, rfl⟩
  | append_singleton points point ih =>
    obtain ⟨ids, hnodup, hids, hgroups⟩ := ih
    have hstep : groupPoints (points ++ [point]) = groupPoint point (groupPoints points) := by
      simp [groupPoints]
    rw [hstep, hgroups]
    by_cases hmem : point.agentId ∈ ids
    · refine ⟨ids, hnodup, fun agentId => ?_, ?_⟩
      · rw [hids]
        constructor
        · rintro ⟨other, hother, rfl⟩
          exact ⟨other, List.mem_append_left _ hother, rfl⟩
        · rintro ⟨other, hother, rfl⟩
          rcases List.mem_append.mp hother with hold | hnew
          · exact ⟨other, hold, rfl⟩
          · rw [List.mem_singleton.mp hnew]
            exact (hids _).mp hmem
      · rw [groupPoint_of_mem hnodup hmem]
        refine List.map_congr_left fun agentId _ => ?_
        rw [ownPoints_concat]
    · refine ⟨ids ++ [point.agentId], ?_, fun agentId => ?_, ?_⟩
      · exact List.nodup_append'.mpr ⟨hnodup, List.nodup_singleton _, by simpa using hmem⟩
      · simp [hids, or_and_right, exists_or, eq_comm]
      · rw [groupPoint_of_notMem hmem, List.map_append]
        congr 1
        · refine List.map_congr_left fun agentId hagentId => ?_
          rw [ownPoints_concat, if_neg]
          rintro rfl
          exact hmem hagentId
        · have hnone : ¬ ∃ other ∈ points, other.agentId = point.agentId :=
            fun h => hmem ((hids _).mpr h)
          simp [ownPoints_concat, ownPoints_eq_nil hnone]

/-! ## Series -/

/-- The series of an agent. -/
def ownSeries (browser : Browser) (points : List IcmpVisualizationPoint) (intervalSeconds : ℚ)
    (agentId : String) : IcmpSeries where
  agentId := agentId
  segments := splitSegments browser (maximumGapMs intervalSeconds)
    (sortPoints browser (ownPoints points agentId))

variable (browser) in
/-- The series: one for each agent that has points, in the order of the collation. -/
theorem buildIcmpSeries_eq (points : List IcmpVisualizationPoint) (intervalSeconds : ℚ) :
    ∃ ids : List String, ids.Nodup ∧
      (∀ agentId, agentId ∈ ids ↔ ∃ point ∈ points, point.agentId = agentId) ∧
      (ids.Pairwise fun left right => browser.collation.le left right = true) ∧
      buildIcmpSeries browser points intervalSeconds =
        ids.map (ownSeries browser points intervalSeconds) := by
  obtain ⟨ids, hnodup, hids, hgroups⟩ := groupPoints_eq points
  have htotal : Std.Total fun left right => browser.collation.le left right = true :=
    ⟨fun left right => Bool.or_eq_true _ _ ▸ browser.collation.total left right⟩
  have htrans : IsTrans String fun left right => browser.collation.le left right = true :=
    ⟨fun _ _ _ => browser.collation.trans⟩
  have hperm := List.perm_insertionSort
    (fun left right => browser.collation.le left right = true) ids
  refine ⟨ids.insertionSort fun left right => browser.collation.le left right = true,
    hperm.nodup_iff.mpr hnodup, fun agentId => hperm.mem_iff.trans (hids agentId),
    List.pairwise_insertionSort _ ids, ?_⟩
  unfold buildIcmpSeries
  rw [hgroups, ← List.map_insertionSort
    (fun left right => browser.collation.le left right = true), List.map_map]
  · rfl
  · intro left _ right _
    exact Iff.rfl

variable (browser) in
theorem sortPoints_perm (points : List IcmpVisualizationPoint) :
    (sortPoints browser points).Perm points :=
  List.perm_insertionSort _ points

theorem sortPoints_pairwise (points : List IcmpVisualizationPoint) :
    (sortPoints browser points).Pairwise fun left right =>
      browser.time left ≤ browser.time right := by
  have htotal : Std.Total fun left right : IcmpVisualizationPoint =>
      browser.time left ≤ browser.time right := ⟨fun left right => le_total _ _⟩
  have htrans : IsTrans IcmpVisualizationPoint fun left right =>
      browser.time left ≤ browser.time right := ⟨fun _ _ _ => le_trans⟩
  exact List.pairwise_insertionSort _ points

/-- No agent has two points of one time. -/
def DistinctTimes (browser : Browser) (points : List IcmpVisualizationPoint) : Prop :=
  points.Pairwise fun p q => p.agentId = q.agentId → browser.time p ≠ browser.time q

/-- `localeCompare` tells the ids of the agents apart. -/
def ToldApart (browser : Browser) (points : List IcmpVisualizationPoint) : Prop :=
  ∀ p ∈ points, ∀ q ∈ points, browser.collation.le p.agentId q.agentId = true →
    browser.collation.le q.agentId p.agentId = true → p.agentId = q.agentId

theorem DistinctTimes.eq {points : List IcmpVisualizationPoint}
    (h : DistinctTimes browser points) {p q : IcmpVisualizationPoint} (hp : p ∈ points)
    (hq : q ∈ points) (hagent : p.agentId = q.agentId)
    (htime : browser.time p = browser.time q) : p = q := by
  by_contra hne
  have hsymm : Std.Symm fun p q : IcmpVisualizationPoint =>
      p.agentId = q.agentId → browser.time p ≠ browser.time q :=
    ⟨fun p q hpq heq htime => hpq heq.symm htime.symm⟩
  exact h.forall hp hq hne hagent htime

/-- Points of distinct times have one order. -/
theorem sortPoints_ownPoints_eq {points points' : List IcmpVisualizationPoint}
    (hperm : points.Perm points') (h : DistinctTimes browser points) (agentId : String) :
    sortPoints browser (ownPoints points agentId) =
      sortPoints browser (ownPoints points' agentId) := by
  have hown : (ownPoints points agentId).Perm (ownPoints points' agentId) := hperm.filter _
  have hsorted := ((sortPoints_perm browser _).trans hown).trans
    (sortPoints_perm browser _).symm
  refine hsorted.eq_of_pairwise ?_ (sortPoints_pairwise _) (sortPoints_pairwise _)
  intro p q hp hq hle hge
  obtain ⟨hp, hpown⟩ := List.mem_filter.mp ((sortPoints_perm browser _).mem_iff.mp hp)
  obtain ⟨hq, hqown⟩ := List.mem_filter.mp ((sortPoints_perm browser _).mem_iff.mp hq)
  refine h.eq hp (hperm.mem_iff.mpr hq) ?_ (le_antisymm hle hge)
  rw [of_decide_eq_true hpown, of_decide_eq_true hqown]

/-- The order of the points shows nowhere. -/
theorem buildIcmpSeries_perm {points points' : List IcmpVisualizationPoint}
    (hperm : points.Perm points') (h : DistinctTimes browser points)
    (hids : ToldApart browser points) (intervalSeconds : ℚ) :
    buildIcmpSeries browser points intervalSeconds =
      buildIcmpSeries browser points' intervalSeconds := by
  obtain ⟨ids, hnodup, hmem, hsorted, heq⟩ :=
    buildIcmpSeries_eq browser points intervalSeconds
  obtain ⟨ids', hnodup', hmem', hsorted', heq'⟩ :=
    buildIcmpSeries_eq browser points' intervalSeconds
  have hsame : ∀ agentId, agentId ∈ ids ↔ agentId ∈ ids' := by
    intro agentId
    rw [hmem, hmem']
    exact exists_congr fun point => and_congr_left fun _ => hperm.mem_iff
  have heqIds : ids = ids' := by
    refine ((List.perm_ext_iff_of_nodup hnodup hnodup').mpr hsame).eq_of_pairwise ?_
      hsorted hsorted'
    intro left right hleft hright hle hge
    obtain ⟨p, hp, rfl⟩ := (hmem left).mp hleft
    obtain ⟨q, hq, rfl⟩ := (hmem' right).mp hright
    exact hids p hp q (hperm.mem_iff.mpr hq) hle hge
  rw [heq, heq', heqIds]
  refine List.map_congr_left fun agentId _ => ?_
  unfold ownSeries
  rw [sortPoints_ownPoints_eq hperm h]

/-- A series has the points of its agent, in time order and cut at the gaps. -/
structure SeriesOf (browser : Browser) (points : List IcmpVisualizationPoint)
    (intervalSeconds : ℚ) (series : IcmpSeries) : Prop where
  complete : series.segments.flatten.Perm (ownPoints points series.agentId)
  ordered : series.segments.flatten.Pairwise fun left right =>
    browser.time left ≤ browser.time right
  split : Split browser (max (1750 * intervalSeconds) 1) series.segments

theorem maximumGapMs_eq (intervalSeconds : ℚ) :
    maximumGapMs intervalSeconds = max (1750 * intervalSeconds) 1 := by
  have hfactor : intervalSeconds * (7 / 4) * 1000 = 1750 * intervalSeconds := by ring
  rw [maximumGapMs, hfactor]

theorem seriesOf_ownSeries (points : List IcmpVisualizationPoint) (intervalSeconds : ℚ)
    (agentId : String) : SeriesOf browser points intervalSeconds
      (ownSeries browser points intervalSeconds agentId) := by
  obtain ⟨hsplit, hflatten⟩ := split_splitSegments browser
    (maximumGapMs intervalSeconds) (sortPoints browser (ownPoints points agentId))
  have hown : (ownSeries browser points intervalSeconds agentId).segments.flatten =
      sortPoints browser (ownPoints points agentId) := hflatten
  refine ⟨?_, ?_, ?_⟩
  · rw [hown]
    exact sortPoints_perm browser _
  · rw [hown]
    exact sortPoints_pairwise _
  · rw [← maximumGapMs_eq]
    exact hsplit

/-- Every point is in the series of its agent and in no other one, and the series do
not depend on the order of the points. -/
theorem buildIcmpSeries_partition (browser : Browser) (points : List IcmpVisualizationPoint)
    (intervalSeconds : ℚ) :
    ((buildIcmpSeries browser points intervalSeconds).map IcmpSeries.agentId).Nodup ∧
    (∀ point ∈ points, ∃ series ∈ buildIcmpSeries browser points intervalSeconds,
      series.agentId = point.agentId) ∧ (∀ series ∈ buildIcmpSeries browser points intervalSeconds,
      SeriesOf browser points intervalSeconds series) ∧
    (DistinctTimes browser points → ToldApart browser points → ∀ points', points.Perm points' →
        buildIcmpSeries browser points intervalSeconds =
          buildIcmpSeries browser points' intervalSeconds) := by
  refine ⟨?_, ?_, ?_, fun hdistinct hids points' hperm =>
    buildIcmpSeries_perm hperm hdistinct hids intervalSeconds⟩
  all_goals obtain ⟨ids, hnodup, hmem, -, heq⟩ :=
    buildIcmpSeries_eq browser points intervalSeconds
  all_goals rw [heq]
  · rw [List.map_map]
    simpa [Function.comp_def, ownSeries] using hnodup
  · intro point hpoint
    exact ⟨_, List.mem_map_of_mem ((hmem _).mpr ⟨point, hpoint, rfl⟩), rfl⟩
  · intro series hseries
    obtain ⟨agentId, -, rfl⟩ := List.mem_map.mp hseries
    exact seriesOf_ownSeries points intervalSeconds agentId

/-- A point without measurements. -/
def barePoint (agentId scheduledAt : String) : IcmpVisualizationPoint where
  scheduledAt := scheduledAt
  agentId := agentId
  packetLossPercent := 100
  minRttMs := none
  medianRttMs := none
  maxRttMs := none
  rttSamplesMs := []

/-- One letter in its two spellings: `localeCompare` has them in one place. -/
def composed (text : String) : String := if text = "e\u0301" then "\u00e9" else text

/-- A browser whose times are the lengths of the texts. -/
def accentBrowser : Browser where
  getTime text := text.length
  collation := (SortKey.number String).column composed

/-- Two points of one agent, in both orders. -/
theorem buildIcmpSeries_partition_pair :
    DistinctTimes accentBrowser [barePoint "a" "12", barePoint "a" "1"] ∧
      ToldApart accentBrowser [barePoint "a" "12", barePoint "a" "1"] ∧
      buildIcmpSeries accentBrowser [barePoint "a" "12", barePoint "a" "1"] 60 =
        buildIcmpSeries accentBrowser [barePoint "a" "1", barePoint "a" "12"] 60 := by
  have hdistinct : DistinctTimes accentBrowser [barePoint "a" "12", barePoint "a" "1"] := by
    unfold DistinctTimes
    decide
  have hids : ToldApart accentBrowser [barePoint "a" "12", barePoint "a" "1"] := by
    intro p hp q hq _ _
    have hagent : ∀ point ∈ [barePoint "a" "12", barePoint "a" "1"], point.agentId = "a" := by
      decide
    rw [hagent p hp, hagent q hq]
  exact ⟨hdistinct, hids, (buildIcmpSeries_partition accentBrowser _ 60).2.2.2 hdistinct hids _
    (List.Perm.swap _ _ _)⟩

/-- Two agents whose ids are one text to `localeCompare` come in the order of their points. -/
theorem buildIcmpSeries_order_shows :
    ¬ ∀ (browser : Browser) (points points' : List IcmpVisualizationPoint)
        (intervalSeconds : ℚ), DistinctTimes browser points → points.Perm points' →
      buildIcmpSeries browser points intervalSeconds =
        buildIcmpSeries browser points' intervalSeconds := by
  intro h
  have hdistinct : DistinctTimes accentBrowser
      [barePoint "e\u0301" "1", barePoint "\u00e9" "1"] := by
    unfold DistinctTimes
    decide
  have hagents := congrArg (List.map IcmpSeries.agentId)
    (h accentBrowser _ _ 60 hdistinct (List.Perm.swap _ _ _))
  simp [buildIcmpSeries, groupPoints, groupPoint, barePoint, accentBrowser, SortKey.column,
    SortKey.number, composed] at hagents

/-! ## The point under the mouse -/

/-- The points are in time order. -/
def InTimeOrder (browser : Browser) (visible : List IcmpVisualizationPoint) : Prop :=
  visible.Pairwise fun left right => browser.time left ≤ browser.time right

theorem InTimeOrder.le {visible : List IcmpVisualizationPoint}
    (h : InTimeOrder browser visible) {i j : ℕ} {p q : IcmpVisualizationPoint} (hij : i ≤ j)
    (hp : visible[i]? = some p) (hq : visible[j]? = some q) : browser.time p ≤ browser.time q := by
  rcases hij.eq_or_lt with rfl | hlt
  · rw [hp, Option.some.injEq] at hq
    rw [hq]
  · obtain ⟨hi, rfl⟩ := List.getElem?_eq_some_iff.mp hp
    obtain ⟨hj, rfl⟩ := List.getElem?_eq_some_iff.mp hq
    exact List.pairwise_iff_getElem.mp h i j hi hj hlt

end Bifrostnms.Proofs
