import Bifrostnms.Lib.Query
import Mathlib.Algebra.Order.Ring.Unbundled.Rat
import Mathlib.Data.Rat.Cast.Order

/-!
# The ICMP graph (`lib/icmp-visualization.ts`, `app/icmp-graph-canvas.tsx`)

How the points of a graph become lines, one for each agent and cut where
observations are missing, and how the point under the mouse is found. Times are
what `new Date(text).getTime()` returns for a valid text, in milliseconds; the
other numbers are exact. `localeCompare` orders texts by a collation, which is
left open. `sort` is stable.
-/

namespace Bifrostnms.Frontend

open Bifrostnms.Lib

structure IcmpVisualizationPoint where
  scheduledAt : String
  agentId : String
  packetLossPercent : ℚ
  minRttMs : Option ℚ
  medianRttMs : Option ℚ
  maxRttMs : Option ℚ
  rttSamplesMs : List ℚ
deriving DecidableEq

structure IcmpSeries where
  agentId : String
  segments : List (List IcmpVisualizationPoint)
deriving DecidableEq

/-- What the browser knows about texts. -/
structure Browser where
  /-- `new Date(text).getTime()` of a valid text. -/
  getTime : String → ℤ
  /-- `left.localeCompare(right) <= 0` -/
  collation : SortKey String

section

variable (browser : Browser)

def Browser.time (point : IcmpVisualizationPoint) : ℤ := browser.getTime point.scheduledAt

/-- `[...points].sort` by time. -/
def sortPoints (points : List IcmpVisualizationPoint) : List IcmpVisualizationPoint :=
  points.insertionSort fun left right => browser.time left ≤ browser.time right

/-! ## Series -/

/-- The loop that groups the points: a map keeps the order of its keys. -/
def groupPoint (point : IcmpVisualizationPoint) :
    List (String × List IcmpVisualizationPoint) → List (String × List IcmpVisualizationPoint)
  | [] => [(point.agentId, [point])]
  | (agentId, existing) :: rest =>
    if agentId = point.agentId then (agentId, existing ++ [point]) :: rest
    else (agentId, existing) :: groupPoint point rest

def groupPoints (points : List IcmpVisualizationPoint) :
    List (String × List IcmpVisualizationPoint) :=
  points.foldl (fun grouped point => groupPoint point grouped) []

def maximumGapMs (intervalSeconds : ℚ) : ℚ := max (intervalSeconds * (7 / 4) * 1000) 1

/-- The loop that cuts the points of an agent into segments. -/
def pushPoint (maximumGap : ℚ) (segments : List (List IcmpVisualizationPoint))
    (point : IcmpVisualizationPoint) : List (List IcmpVisualizationPoint) :=
  match segments.getLast? with
  | none => segments ++ [[point]]
  | some segment =>
    match segment.getLast? with
    | none => segments ++ [[point]]
    | some previous =>
      if maximumGap < ((browser.time point - browser.time previous : ℤ) : ℚ) then
        segments ++ [[point]]
      else segments.dropLast ++ [segment ++ [point]]

def splitSegments (maximumGap : ℚ) (sorted : List IcmpVisualizationPoint) :
    List (List IcmpVisualizationPoint) :=
  sorted.foldl (pushPoint browser maximumGap) []

def buildIcmpSeries (points : List IcmpVisualizationPoint) (intervalSeconds : ℚ) :
    List IcmpSeries :=
  ((groupPoints points).insertionSort fun left right =>
    browser.collation.le left.1 right.1 = true).map fun (agentId, agentPoints) =>
      { agentId := agentId
        segments := splitSegments browser (maximumGapMs intervalSeconds)
          (sortPoints browser agentPoints) }

/-! ## The point under the mouse -/

end

end Bifrostnms.Frontend
