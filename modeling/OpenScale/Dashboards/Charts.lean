import Mathlib.Algebra.Order.Floor.Ring
import OpenScale.Library.JsArray
import OpenScale.Library.TransitionSystem

/-! `useChartZoom` and the two charts that use it: `TrendChart`, which reads the ends of the drag
band from its coordinates, and `BarChart`, which has it in percent. The component renders after each
event and runs its effect before the next one. The heights of the points and the hover tooltip are
left out. -/

namespace OpenScale.Dashboards

open OpenScale.Library

section Hook

variable {Point : Type}

/-- The `finish` that waits for a mouseup, by the values that it closes over. -/
structure Finish where
  dragStartLocal : Option Int
  dragEndLocal : Option Int
  baseOffset : Int

structure ChartZoom (Point : Type) where
  points : List Point
  zoomRange : Option (Int × Int)
  dragStartLocal : Option Int
  dragEndLocal : Option Int
  listener : Option Finish

namespace ChartZoom

variable (zoom : ChartZoom Point)

def clamped : Option (Int × Int) :=
  zoom.zoomRange.map fun range =>
    (max 0 (min range.1 (zoom.points.length - 2)), min range.2 (zoom.points.length - 1))

def displayPoints : List Point :=
  match zoom.clamped with
  | some range => JsArray.slice zoom.points range.1 (range.2 + 1)
  | none => zoom.points

def baseOffset : Int := (zoom.clamped.map Prod.fst).getD 0

def isZoomed : Bool := zoom.clamped.isSome

def isDragging : Bool := zoom.dragStartLocal.isSome

def startDrag (localIndex : Int) : ChartZoom Point :=
  { zoom with dragStartLocal := some localIndex, dragEndLocal := some localIndex }

def updateDrag (localIndex : Int) : ChartZoom Point := { zoom with dragEndLocal := some localIndex }

def reset : ChartZoom Point := { zoom with zoomRange := none }

def dragLocalRange : Option (Int × Int) :=
  match zoom.dragStartLocal, zoom.dragEndLocal with
  | some start, some stop => some (min start stop, max start stop)
  | _, _ => none

def magnification : Rat :=
  if zoom.isZoomed then zoom.points.length / zoom.displayPoints.length else 1

def zoomLabel (labelOf : Point → String) : Except JsError (Option String) :=
  match zoom.clamped with
  | none => .ok none
  | some range => do
    let first ← JsArray.get zoom.points range.1
    let last ← JsArray.get zoom.points range.2
    return some (labelOf first ++ " – " ++ labelOf last ++ " · " ++
      fixed 1 zoom.magnification ++ "x (" ++
      toString zoom.displayPoints.length ++ "/" ++ toString zoom.points.length ++ ")")

/-- `finish`, as the render at hand would subscribe it. -/
def subscription : Option Finish :=
  if zoom.dragStartLocal = none then none
  else some ⟨zoom.dragStartLocal, zoom.dragEndLocal, zoom.baseOffset⟩

/-- The effect runs only if a drag value is not what it was at the render before. -/
def effect (before : ChartZoom Point) : ChartZoom Point :=
  if zoom.dragStartLocal = before.dragStartLocal ∧ zoom.dragEndLocal = before.dragEndLocal then zoom
  else { zoom with listener := zoom.subscription }

end ChartZoom

def Finish.call (finish : Finish) (zoom : ChartZoom Point) : ChartZoom Point :=
  { zoom with
    zoomRange :=
      match finish.dragStartLocal, finish.dragEndLocal with
      | some start, some stop =>
        if 1 ≤ |stop - start| then some (finish.baseOffset + min start stop,
          finish.baseOffset + max start stop)
        else zoom.zoomRange
      | _, _ => zoom.zoomRange
    dragStartLocal := none
    dragEndLocal := none }

end Hook

section Charts

variable {Point : Type}

inductive ChartKind where
  | trend
  | bar
  deriving DecidableEq

namespace ChartKind

/-- Shorter series get the text "Not enough data yet." instead of a chart. -/
def draws (chart : ChartKind) (points : List Point) : Bool :=
  match chart with
  | trend => 2 ≤ points.length
  | bar => 1 ≤ points.length

/-- Where the mouse is, as an index of what is displayed. -/
def indexAt (chart : ChartKind) (displayPoints : List Point) (relX : Rat) : Int :=
  max 0 (min ((displayPoints.length : Int) - 1)
    (match chart with
    | trend => (relX * (displayPoints.length - 1) + 1 / 2).floor
    | bar => (relX * displayPoints.length).floor))

end ChartKind

def viewBoxWidth : Rat := 560

def coords (displayPoints : List Point) : List Rat :=
  let step := if 1 < displayPoints.length then viewBoxWidth / (displayPoints.length - 1)
    else viewBoxWidth
  (List.range displayPoints.length).map fun index => index * step

def dragBand (chart : ChartKind) (zoom : ChartZoom Point) : Except JsError (Option (Rat × Rat)) :=
  match zoom.dragLocalRange with
  | none => .ok none
  | some range =>
    match chart with
    | .trend => do
      let left ← JsArray.get (coords zoom.displayPoints) range.1
      let right ← JsArray.get (coords zoom.displayPoints) range.2
      return some (left, right)
    | .bar =>
      .ok (some (range.1 / zoom.displayPoints.length * 100,
        (range.2 + 1) / zoom.displayPoints.length * 100))

structure ChartView (Point : Type) where
  zoomLabel : Option String
  displayPoints : List Point
  dragBand : Option (Rat × Rat)
  deriving DecidableEq

/-- A render: the hook first, the chart only if there is enough data. -/
def render (chart : ChartKind) (labelOf : Point → String) (zoom : ChartZoom Point) :
    Except JsError (Option (ChartView Point)) := do
  let label ← zoom.zoomLabel labelOf
  if chart.draws zoom.points then
    let band ← dragBand chart zoom
    return some ⟨label, zoom.displayPoints, band⟩
  else return none

inductive ChartEvent (Point : Type) where
  | mouseDown (relX : Rat)
  | mouseMove (relX : Rat)
  | mouseUp
  | resetClick
  | refetch (points : List Point)

/-- What an event makes of the state. All but the mouseup of the window come from the chart or from
its parent. -/
def update (chart : ChartKind) (zoom : ChartZoom Point) : ChartEvent Point → ChartZoom Point
  | .mouseDown relX =>
    if chart.draws zoom.points then zoom.startDrag (chart.indexAt zoom.displayPoints relX) else zoom
  | .mouseMove relX =>
    if chart.draws zoom.points && zoom.isDragging then
      zoom.updateDrag (chart.indexAt zoom.displayPoints relX)
    else zoom
  | .mouseUp => zoom.listener.elim zoom fun finish => finish.call zoom
  | .resetClick => if chart.draws zoom.points && zoom.isZoomed then zoom.reset else zoom
  | .refetch points => { zoom with points := points }

def next (chart : ChartKind) (zoom : ChartZoom Point) (event : ChartEvent Point) :
    ChartZoom Point :=
  (update chart zoom event).effect zoom

def mounted (points : List Point) : ChartZoom Point := ⟨points, none, none, none, none⟩

def charting (chart : ChartKind) (points : List Point) :
    TransitionSystem (ChartZoom Point) (ChartEvent Point) where
  init := mounted points
  step zoom event := some (next chart zoom event)

end Charts

end OpenScale.Dashboards
