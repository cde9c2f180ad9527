import OpenScale.Dashboards.Charts

/-! The zoom of a chart: which window of the points it shows, whatever has become of them, and when
a render reads past an end. -/

namespace OpenScale.Dashboards

open OpenScale.Library

variable {Point : Type} {chart : ChartKind} {labelOf : Point → String}
  {zoom after : ChartZoom Point}

section Definitions

/-- A drag from one position to another over what is displayed, and where it ends. -/
def dragged (chart : ChartKind) (zoom : ChartZoom Point) (relX : Rat) (moves : List Rat) :
    ChartZoom Point :=
  next chart
    (moves.foldl (fun zoom relX => next chart zoom (.mouseMove relX))
      (next chart zoom (.mouseDown relX)))
    .mouseUp

/-- The display is a window on the points, with two of them if there are two, and a drag narrows it
to what it was drawn over. -/
structure Windowed (chart : ChartKind) (zoom : ChartZoom Point) : Prop where
  contiguous : ∃ front back, zoom.points = front ++ zoom.displayPoints ++ back
  atLeastTwo : 2 ≤ zoom.points.length → 2 ≤ zoom.displayPoints.length
  zooms : ∀ (relX : Rat) (moves : List Rat) (start stop : Int),
    chart.indexAt zoom.displayPoints relX = start →
    chart.indexAt zoom.displayPoints (moves.getLastD relX) = stop → start ≠ stop →
    (dragged chart zoom relX moves).displayPoints =
      zoom.displayPoints.extract (min start stop).toNat ((max start stop).toNat + 1)

/-- And no render reads past an end. -/
structure Contained (chart : ChartKind) (labelOf : Point → String) (zoom : ChartZoom Point) : Prop
    extends Windowed chart zoom where
  reads : ∃ view, render chart labelOf zoom = .ok view

def shown (zoomRange : Option (Int × Int)) (length : Int) : Int :=
  match zoomRange with
  | none => length
  | some range => min (range.2 - range.1 + 1) (max 2 (length - range.1))

/-- A zoom needs a point, and a drag over a `TrendChart` needs its two ends. -/
def Covers (chart : ChartKind) (zoom : ChartZoom Point) (points : List Point) : Prop :=
  (zoom.zoomRange ≠ none → points ≠ []) ∧
    (chart = .trend → 2 ≤ points.length → ∀ position : Int,
      zoom.dragStartLocal = some position ∨ zoom.dragEndLocal = some position →
        position < shown zoom.zoomRange points.length)

/-- New points have what the zoom and the drag need, and over an empty series no drag of a step or
more ends. -/
def Fits (chart : ChartKind) (zoom : ChartZoom Point) : ChartEvent Point → Prop
  | .refetch points => Covers chart zoom points
  | .mouseUp => zoom.points = [] → zoom.dragStartLocal = zoom.dragEndLocal
  | _ => True

structure ChartZoom.Sound (zoom : ChartZoom Point) : Prop where
  ordered : ∀ range ∈ zoom.zoomRange, 0 ≤ range.1 ∧ range.1 < range.2
  drag : (zoom.dragStartLocal = none ∧ zoom.dragEndLocal = none ∧ zoom.listener = none) ∨
    ∃ start stop base : Int, 0 ≤ start ∧ 0 ≤ stop ∧ 0 ≤ base ∧ zoom.dragStartLocal = some start ∧
      zoom.dragEndLocal = some stop ∧ zoom.listener = some ⟨some start, some stop, base⟩

end Definitions

section Window

/-- The display as a part of the points, however they have changed since the zoom. -/
theorem displayed (sound : zoom.Sound) : ∃ start stop : Nat, start ≤ stop ∧
    stop ≤ zoom.points.length ∧
    zoom.displayPoints = zoom.points.extract start stop ∧ zoom.baseOffset = start ∧
    (2 ≤ zoom.points.length → start + 2 ≤ stop ∧
      (stop : Int) - start = shown zoom.zoomRange zoom.points.length) := by
  cases zoomed : zoom.zoomRange with
  | none =>
    have unclamped : zoom.clamped = none := by rw [ChartZoom.clamped, zoomed, Option.map_none]
    refine ⟨0, zoom.points.length, Nat.zero_le _, Nat.le_refl _, ?_, ?_, fun many => ⟨by omega, ?_⟩⟩
    · rw [ChartZoom.displayPoints, unclamped]
      simp
    · rw [ChartZoom.baseOffset, unclamped]
      rfl
    · rw [shown]
      omega
  | some range =>
    obtain ⟨front, later⟩ := sound.ordered range zoomed
    have clamped : zoom.clamped = some (max 0 (min range.1 (zoom.points.length - 2)),
        min range.2 (zoom.points.length - 1)) := by
      rw [ChartZoom.clamped, zoomed, Option.map_some]
    refine ⟨(max 0 (min range.1 (zoom.points.length - 2))).toNat,
      (min range.2 (zoom.points.length - 1) + 1).toNat,
      by omega, by omega, ?_, ?_, fun many => ⟨by omega, ?_⟩⟩
    · rw [ChartZoom.displayPoints, clamped]
      exact JsArray.slice_eq_extract (by omega) (by omega)
    · rw [ChartZoom.baseOffset, clamped, Option.map_some, Option.getD_some]
      omega
    · rw [shown]
      omega

theorem length_displayPoints (sound : zoom.Sound) (many : 2 ≤ zoom.points.length) :
    (zoom.displayPoints.length : Int) = shown zoom.zoomRange zoom.points.length ∧
    2 ≤ zoom.displayPoints.length := by
  obtain ⟨start, stop, ordered, inside, part, _, size⟩ := displayed sound
  obtain ⟨two, same⟩ := size many
  rw [part, JsArray.length_extract, Nat.min_eq_left inside]
  omega

theorem contiguous (sound : zoom.Sound) :
    ∃ front back, zoom.points = front ++ zoom.displayPoints ++ back := by
  obtain ⟨start, stop, ordered, _, part, _⟩ := displayed sound
  rw [part]
  exact JsArray.exists_around zoom.points ordered

end Window

section Reads

theorem zoomLabel_ok (sound : zoom.Sound) :
    (∃ label, zoom.zoomLabel labelOf = .ok label) ↔ (zoom.zoomRange ≠ none → zoom.points ≠ []) := by
  cases zoomed : zoom.zoomRange with
  | none => simp [ChartZoom.zoomLabel, ChartZoom.clamped, zoomed]
  | some range =>
    obtain ⟨front, later⟩ := sound.ordered range zoomed
    have clamped : zoom.clamped = some (max 0 (min range.1 (zoom.points.length - 2)),
        min range.2 (zoom.points.length - 1)) := by
      rw [ChartZoom.clamped, zoomed, Option.map_some]
    have some_ : zoom.points ≠ [] ↔ 0 < zoom.points.length := List.length_pos_iff.symm
    rw [ChartZoom.zoomLabel, clamped, some_]
    constructor
    · rintro ⟨label, made⟩ _
      obtain ⟨first, found, _⟩ := bind_eq_ok.mp made
      obtain ⟨_, inside⟩ := JsArray.get_ok.mp ⟨first, found⟩
      omega
    · intro present
      have points := present (Option.some_ne_none range)
      obtain ⟨first, firstFound⟩ :=
        (@JsArray.get_ok _ zoom.points (max 0 (min range.1 (zoom.points.length - 2)))).mpr
        ⟨by omega, by omega⟩
      obtain ⟨last, lastFound⟩ :=
        (@JsArray.get_ok _ zoom.points (min range.2 (zoom.points.length - 1))).mpr
        ⟨by omega, by omega⟩
      exact ⟨_, bind_eq_ok.mpr ⟨first, firstFound, bind_eq_ok.mpr ⟨last, lastFound, rfl⟩⟩⟩

theorem length_coords (displayPoints : List Point) :
    (coords displayPoints).length = displayPoints.length := by
  simp [coords]

/-- Only a `TrendChart` reads its display for the band. -/
theorem dragBand_ok (sound : zoom.Sound) : (∃ band, dragBand chart zoom = .ok band) ↔
    (chart = .trend → ∀ position : Int, zoom.dragStartLocal = some position ∨
      zoom.dragEndLocal = some position → position < zoom.displayPoints.length) := by
  rcases sound.drag with ⟨idle, also, _⟩ | ⟨start, stop, base, front, later, _, started, ended, _⟩
  · simp [dragBand, ChartZoom.dragLocalRange, idle, also]
  · have range : zoom.dragLocalRange = some (min start stop, max start stop) := by
      simp only [ChartZoom.dragLocalRange, started, ended]
    cases chart with
    | bar => simp [dragBand, range]
    | trend =>
      rw [dragBand, range, started, ended]
      constructor
      · rintro ⟨band, made⟩ _ position known
        obtain ⟨left, leftFound, made⟩ := bind_eq_ok.mp made
        obtain ⟨right, rightFound, _⟩ := bind_eq_ok.mp made
        obtain ⟨_, inside⟩ := JsArray.get_ok.mp ⟨right, rightFound⟩
        rw [length_coords] at inside
        rcases known with same | same
        · cases same
          omega
        · cases same
          omega
      · intro inside
        have first := inside rfl start (.inl rfl)
        have last := inside rfl stop (.inr rfl)
        obtain ⟨left, leftFound⟩ :=
          (@JsArray.get_ok _ (coords zoom.displayPoints) (min start stop)).mpr
          ⟨by omega, by rw [length_coords]; omega⟩
        obtain ⟨right, rightFound⟩ :=
          (@JsArray.get_ok _ (coords zoom.displayPoints) (max start stop)).mpr
          ⟨by omega, by rw [length_coords]; omega⟩
        exact ⟨_, bind_eq_ok.mpr ⟨left, leftFound, bind_eq_ok.mpr ⟨right, rightFound, rfl⟩⟩⟩

/-- A render fails exactly where its points do not cover the zoom and the drag. -/
theorem render_ok (sound : zoom.Sound) :
    (∃ view, render chart labelOf zoom = .ok view) ↔ Covers chart zoom zoom.points := by
  have band : (chart.draws zoom.points = true → ∃ band, dragBand chart zoom = .ok band) ↔
      (chart = .trend → 2 ≤ zoom.points.length → ∀ position : Int,
        zoom.dragStartLocal = some position ∨ zoom.dragEndLocal = some position →
          position < shown zoom.zoomRange zoom.points.length) := by
    rw [dragBand_ok sound]
    cases chart with
    | bar => simp
    | trend =>
      simp only [ChartKind.draws, decide_eq_true_eq, true_imp_iff]
      refine forall_congr' fun many => ?_
      rw [(length_displayPoints sound many).1]
  rw [Covers, ← zoomLabel_ok sound, ← band]
  constructor
  · rintro ⟨view, made⟩
    obtain ⟨label, labelled, made⟩ := bind_eq_ok.mp made
    refine ⟨⟨label, labelled⟩, fun drawn => ?_⟩
    rw [if_pos drawn] at made
    obtain ⟨band, found, _⟩ := bind_eq_ok.mp made
    exact ⟨band, found⟩
  · rintro ⟨⟨label, labelled⟩, banded⟩
    by_cases drawn : chart.draws zoom.points = true
    · obtain ⟨band, found⟩ := banded drawn
      refine ⟨some ⟨label, zoom.displayPoints, band⟩, bind_eq_ok.mpr ⟨label, labelled, ?_⟩⟩
      rw [if_pos drawn]
      exact bind_eq_ok.mpr ⟨band, found, rfl⟩
    · refine ⟨none, bind_eq_ok.mpr ⟨label, labelled, ?_⟩⟩
      rw [if_neg drawn]
      rfl

end Reads

section Steps

@[simp] theorem effect_points : (after.effect zoom).points = after.points := by
  unfold ChartZoom.effect
  split <;> rfl

@[simp] theorem effect_zoomRange : (after.effect zoom).zoomRange = after.zoomRange := by
  unfold ChartZoom.effect
  split <;> rfl

@[simp] theorem effect_dragStartLocal :
    (after.effect zoom).dragStartLocal = after.dragStartLocal := by
  unfold ChartZoom.effect
  split <;> rfl

@[simp] theorem effect_dragEndLocal : (after.effect zoom).dragEndLocal = after.dragEndLocal := by
  unfold ChartZoom.effect
  split <;> rfl

theorem covers_effect {points : List Point} : Covers chart (after.effect zoom) points ↔
    Covers chart after points := by
  simp [Covers]

theorem indexAt_nonneg {displayPoints : List Point} {relX : Rat} :
    0 ≤ chart.indexAt displayPoints relX :=
  le_max_left ..

theorem indexAt_lt {displayPoints : List Point} {relX : Rat} (some_ : 0 < displayPoints.length) :
    chart.indexAt displayPoints relX < displayPoints.length := by
  unfold ChartKind.indexAt
  omega

theorem baseOffset_nonneg (zoom : ChartZoom Point) : 0 ≤ zoom.baseOffset := by
  cases zoomed : zoom.zoomRange with
  | none => simp [ChartZoom.baseOffset, ChartZoom.clamped, zoomed]
  | some range => simp [ChartZoom.baseOffset, ChartZoom.clamped, zoomed]

/-- The listener is that of the last render at which a drag value had changed. -/
theorem sound_effect (sound : zoom.Sound) (kept : after.listener = zoom.listener)
    (ordered : ∀ range ∈ after.zoomRange, 0 ≤ range.1 ∧ range.1 < range.2)
    (drag : (after.dragStartLocal = none ∧ after.dragEndLocal = none) ∨
      ∃ start stop : Int, 0 ≤ start ∧ 0 ≤ stop ∧
      after.dragStartLocal = some start ∧
      after.dragEndLocal = some stop) : (after.effect zoom).Sound := by
  refine ⟨by rwa [effect_zoomRange], ?_⟩
  rw [effect_dragStartLocal, effect_dragEndLocal]
  by_cases same : after.dragStartLocal = zoom.dragStartLocal ∧
    after.dragEndLocal = zoom.dragEndLocal
  · rw [ChartZoom.effect, if_pos same, same.1, same.2, kept]
    exact sound.drag
  · rw [ChartZoom.effect, if_neg same]
    rcases drag with ⟨idle, also⟩ | ⟨start, stop, front, later, started, ended⟩
    · exact .inl ⟨idle, also, by simp [ChartZoom.subscription, idle]⟩
    · refine .inr ⟨start, stop, after.baseOffset, front, later, baseOffset_nonneg after,
        started, ended, ?_⟩
      simp [ChartZoom.subscription, started, ended]

theorem drag_values (sound : zoom.Sound) : (zoom.dragStartLocal = none ∧ zoom.dragEndLocal = none) ∨
    ∃ start stop : Int, 0 ≤ start ∧ 0 ≤ stop ∧ zoom.dragStartLocal = some start ∧
    zoom.dragEndLocal = some stop := by
  rcases sound.drag with ⟨idle, also, _⟩ | ⟨start, stop, _, front, later, _, started, ended, _⟩
  · exact .inl ⟨idle, also⟩
  · exact .inr ⟨start, stop, front, later, started, ended⟩

theorem call_zoomRange {start stop base : Int} :
    (Finish.call ⟨some start, some stop, base⟩ zoom).zoomRange =
    if start = stop then zoom.zoomRange
    else some (base + min start stop, base + max start stop) := by
  change (if 1 ≤ |stop - start| then _ else _) = _
  by_cases same : start = stop
  · rw [if_pos same, if_neg (by simp [same])]
  · rw [if_neg same, if_pos (Int.one_le_abs (sub_ne_zero.mpr (Ne.symm same)))]

theorem sound_next (sound : zoom.Sound) (event : ChartEvent Point) :
    (next chart zoom event).Sound := by
  have unchanged : (zoom.effect zoom).Sound :=
    sound_effect sound rfl sound.ordered (drag_values sound)
  cases event with
  | mouseDown relX =>
    simp only [next, update]
    split
    · exact sound_effect sound rfl sound.ordered
        (.inr ⟨_, _, indexAt_nonneg, indexAt_nonneg, rfl, rfl⟩)
    · exact unchanged
  | mouseMove relX =>
    simp only [next, update]
    split
    next moved =>
      rcases drag_values sound with ⟨idle, _⟩ | ⟨start, stop, front, _, started, _⟩
      · simp [ChartZoom.isDragging, idle] at moved
      · exact sound_effect sound rfl sound.ordered
          (.inr ⟨start, _, front, indexAt_nonneg, started, rfl⟩)
    · exact unchanged
  | mouseUp =>
    rcases sound.drag with ⟨_, _, idle⟩ | ⟨start, stop, base, front, later, nonneg, _, _, listens⟩
    · rw [next, update, idle]
      exact unchanged
    · rw [next, update, listens]
      refine sound_effect sound rfl (fun range zoomed => ?_) (.inl ⟨rfl, rfl⟩)
      rw [Option.elim_some, call_zoomRange] at zoomed
      split at zoomed
      · exact sound.ordered range zoomed
      next apart =>
        cases zoomed
        constructor
        · change 0 ≤ base + min start stop
          omega
        · change base + min start stop < base + max start stop
          omega
  | resetClick =>
    simp only [next, update]
    split
    · exact sound_effect sound rfl nofun (@drag_values _ zoom sound)
    · exact unchanged
  | refetch points => exact sound_effect sound rfl sound.ordered (@drag_values _ zoom sound)

theorem shown_le {length : Int} (sound : zoom.Sound) (many : 2 ≤ length) :
    shown zoom.zoomRange length ≤ length := by
  cases zoomed : zoom.zoomRange with
  | none => exact le_refl length
  | some range =>
    have front := (sound.ordered range zoomed).1
    rw [shown]
    omega

/-- The end of a drag needs a point for the zoom that it makes. -/
theorem covers_call {start stop base : Int} (covered : zoom.zoomRange ≠ none → zoom.points ≠ []) :
    Covers chart (Finish.call ⟨some start, some stop, base⟩ zoom) zoom.points ↔
    (zoom.points = [] → start = stop) := by
  have idle : ∀ position : Int,
      ¬ ((Finish.call ⟨some start, some stop, base⟩ zoom).dragStartLocal = some position ∨
      (Finish.call ⟨some start, some stop, base⟩ zoom).dragEndLocal = some position) := by
    rintro position (known | known) <;> cases known
  refine (and_iff_left fun _ _ position known => absurd known (idle position)).trans ?_
  rw [call_zoomRange]
  by_cases still : start = stop
  · rw [if_pos still]
    exact iff_of_true covered fun _ => still
  · rw [if_neg still]
    exact ⟨fun needed none_ => absurd none_ (needed (Option.some_ne_none _)), fun fits _ none_ =>
      still (fits none_)⟩

theorem covers_next (sound : zoom.Sound) (covers : Covers chart zoom zoom.points)
    (event : ChartEvent Point) :
    Covers chart (next chart zoom event) (next chart zoom event).points ↔
    Fits chart zoom event := by
  rw [next, covers_effect, effect_points]
  have inside {relX : Rat} (drawn : chart.draws zoom.points = true) (trend : chart = .trend) :
      chart.indexAt zoom.displayPoints relX < shown zoom.zoomRange zoom.points.length := by
    subst trend
    have many : 2 ≤ zoom.points.length := of_decide_eq_true drawn
    obtain ⟨size, two⟩ := length_displayPoints sound many
    exact size ▸ indexAt_lt (by omega)
  cases event with
  | mouseDown relX =>
    refine iff_of_true ?_ trivial
    rw [update]
    split
    next drawn =>
      refine ⟨covers.1, fun trend _ position known => ?_⟩
      rcases known with same | same
      · exact Option.some.inj same ▸ inside drawn trend
      · exact Option.some.inj same ▸ inside drawn trend
    · exact covers
  | mouseMove relX =>
    refine iff_of_true ?_ trivial
    rw [update]
    split
    next moved =>
      have drawn := (Bool.and_eq_true_iff.mp moved).1
      refine ⟨covers.1, fun trend many position known => ?_⟩
      rcases known with same | same
      · exact covers.2 trend many position (.inl same)
      · exact Option.some.inj same ▸ inside drawn trend
    · exact covers
  | mouseUp =>
    rcases sound.drag with ⟨idle, also, listens⟩ | ⟨start, stop, base, _, _, _,
      started, ended, listens⟩
    · rw [update, listens]
      exact iff_of_true covers fun _ => idle.trans also.symm
    · rw [update, listens, Option.elim_some, Fits, started, ended, Option.some.injEq]
      exact covers_call covers.1
  | resetClick =>
    refine iff_of_true ?_ trivial
    rw [update]
    split
    · refine ⟨fun zoomed => absurd rfl zoomed, fun trend many position known => ?_⟩
      exact lt_of_lt_of_le (covers.2 trend many position known)
        (shown_le sound (Int.ofNat_le.mpr many))
    · exact covers
  | refetch points => exact Iff.rfl

end Steps

section Drags

/-- Between the mousedown and the mouseup of a drag over the display of `zoom`. -/
structure Dragging (zoom : ChartZoom Point) (start stop : Int) (after : ChartZoom Point) :
    Prop where
  points : after.points = zoom.points
  zoomRange : after.zoomRange = zoom.zoomRange
  started : after.dragStartLocal = some start
  ended : after.dragEndLocal = some stop
  /-- A listener from an earlier drag is only left where nothing has moved yet. -/
  listens : start ≠ stop → after.listener = some ⟨some start, some stop, zoom.baseOffset⟩

theorem Dragging.clamped {start stop : Int} (dragging : Dragging zoom start stop after) :
    after.clamped = zoom.clamped := by
  rw [ChartZoom.clamped, ChartZoom.clamped, dragging.points, dragging.zoomRange]

theorem Dragging.displayPoints {start stop : Int} (dragging : Dragging zoom start stop after) :
    after.displayPoints = zoom.displayPoints := by
  rw [ChartZoom.displayPoints, ChartZoom.displayPoints, dragging.clamped, dragging.points]

theorem dragging_mouseDown {relX : Rat} (drawn : chart.draws zoom.points = true) :
    Dragging zoom (chart.indexAt zoom.displayPoints relX) (chart.indexAt zoom.displayPoints relX)
      (next chart zoom (.mouseDown relX)) := by
  rw [next, update, if_pos drawn]
  exact ⟨by simp [ChartZoom.startDrag], by simp [ChartZoom.startDrag],
    by simp [ChartZoom.startDrag],
    by simp [ChartZoom.startDrag], fun apart => absurd rfl apart⟩

theorem dragging_mouseMove {start stop : Int} {relX : Rat} (drawn : chart.draws zoom.points = true)
    (dragging : Dragging zoom start stop after) :
    Dragging zoom start (chart.indexAt zoom.displayPoints relX)
      (next chart after (.mouseMove relX)) := by
  have moved : (chart.draws after.points && after.isDragging) = true := by
    simp [dragging.points, drawn, ChartZoom.isDragging, dragging.started]
  rw [next, update, if_pos moved, dragging.displayPoints]
  refine ⟨?_, ?_, ?_, ?_, fun apart => ?_⟩
  · rw [effect_points]
    exact dragging.points
  · rw [effect_zoomRange]
    exact dragging.zoomRange
  · rw [effect_dragStartLocal]
    exact dragging.started
  · rw [effect_dragEndLocal]
    rfl
  · by_cases same : stop = chart.indexAt zoom.displayPoints relX
    · have unmoved : after.updateDrag (chart.indexAt zoom.displayPoints relX) = after := by
        rw [ChartZoom.updateDrag, ← same, ← dragging.ended]
      rw [unmoved, ChartZoom.effect, if_pos ⟨rfl, rfl⟩, dragging.listens (same ▸ apart), same]
    · rw [ChartZoom.effect, if_neg fun unmoved =>
        same (Option.some.inj (dragging.ended.symm.trans unmoved.2.symm))]
      have base : (after.updateDrag (chart.indexAt zoom.displayPoints relX)).baseOffset =
          zoom.baseOffset :=
        congrArg (fun range => (Option.map Prod.fst range).getD 0) dragging.clamped
      change ChartZoom.subscription _ = _
      rw [ChartZoom.subscription, base]
      simp [ChartZoom.updateDrag, dragging.started]

theorem dragging_moves {start stop : Int} {moves : List Rat}
    (drawn : chart.draws zoom.points = true) (dragging : Dragging zoom start stop after) :
    Dragging zoom start ((moves.getLast?.map (chart.indexAt zoom.displayPoints)).getD stop)
      (moves.foldl (fun zoom relX => next chart zoom (.mouseMove relX)) after) := by
  induction moves generalizing stop after with
  | nil => exact dragging
  | cons relX moves ih =>
    have last := ih (@dragging_mouseMove _ _ _ _ _ _ relX drawn dragging)
    rw [List.foldl_cons, List.getLast?_cons]
    cases found : moves.getLast? with
    | none =>
      rw [found] at last
      exact last
    | some other =>
      rw [found] at last
      exact last

/-- Two positions need two points, so there is a chart to drag over. -/
theorem draws_of_ne {relX other : Rat} (sound : zoom.Sound)
    (apart : chart.indexAt zoom.displayPoints relX ≠ chart.indexAt zoom.displayPoints other) :
    chart.draws zoom.points = true := by
  have many : 2 ≤ zoom.displayPoints.length := by
    by_contra few
    refine apart ?_
    unfold ChartKind.indexAt
    omega
  obtain ⟨start, stop, _, inside, part, _⟩ := displayed sound
  rw [part, JsArray.length_extract] at many
  cases chart with
  | trend => exact decide_eq_true (by omega : 2 ≤ zoom.points.length)
  | bar => exact decide_eq_true (by omega : 1 ≤ zoom.points.length)

/-- A zoom to positions of the display shows what is there, as long as the points stay. -/
theorem displayPoints_zoomed {first last : Nat} (sound : zoom.Sound) (apart : first < last)
    (inside : last < zoom.displayPoints.length) (points : after.points = zoom.points)
    (zoomed : after.zoomRange = some (zoom.baseOffset + first, zoom.baseOffset + last)) :
    after.displayPoints = zoom.displayPoints.extract first (last + 1) := by
  obtain ⟨start, stop, ordered, within, part, base, _⟩ := displayed sound
  rw [part, JsArray.length_extract] at inside
  have clamped : after.clamped = some ((start + first : Int), (start + last : Int)) := by
    rw [ChartZoom.clamped, zoomed, Option.map_some, points, base]
    congr 2
    · omega
    · omega
  rw [ChartZoom.displayPoints, clamped, points, part, JsArray.extract_extract (by omega)]
  exact JsArray.slice_eq_extract (by omega) (by omega)

theorem dragged_displayPoints {relX : Rat} {moves : List Rat} {start stop : Int}
    (sound : zoom.Sound) (started : chart.indexAt zoom.displayPoints relX = start)
    (ended : chart.indexAt zoom.displayPoints (moves.getLastD relX) = stop) (apart : start ≠ stop) :
    (dragged chart zoom relX moves).displayPoints =
      zoom.displayPoints.extract (min start stop).toNat ((max start stop).toNat + 1) := by
  subst started ended
  have drawn := draws_of_ne sound apart
  have dragging := @dragging_moves _ _ _ _ _ _ moves drawn (@dragging_mouseDown _ _ _ relX drawn)
  have last :
      (moves.getLast?.map (chart.indexAt zoom.displayPoints)).getD
        (chart.indexAt zoom.displayPoints relX) =
      chart.indexAt zoom.displayPoints (moves.getLastD relX) := by
    rw [List.getLastD_eq_getLast?, Option.getD_map]
  rw [last] at dragging
  have some_ : 0 < zoom.displayPoints.length := by
    by_contra none_
    refine apart ?_
    unfold ChartKind.indexAt
    omega
  have front := @indexAt_nonneg _ chart zoom.displayPoints relX
  have back := @indexAt_nonneg _ chart zoom.displayPoints (moves.getLastD relX)
  have inside := @indexAt_lt _ chart zoom.displayPoints relX some_
  have within := @indexAt_lt _ chart zoom.displayPoints (moves.getLastD relX) some_
  rw [dragged]
  refine displayPoints_zoomed sound (by omega) (by omega) ?_ ?_
  · rw [next, effect_points, update, dragging.listens apart]
    exact dragging.points
  · rw [next, effect_zoomRange, update, dragging.listens apart, Option.elim_some,
      call_zoomRange, if_neg apart, Int.toNat_of_nonneg (by omega), Int.toNat_of_nonneg (by omega)]

end Drags

section Runs

variable {points : List Point} {events : List (ChartEvent Point)}

theorem sound_mounted (points : List Point) : (mounted points).Sound :=
  ⟨nofun, .inl ⟨rfl, rfl, rfl⟩⟩

theorem covers_mounted (chart : ChartKind) (points : List Point) :
    Covers chart (mounted points) points := by
  refine ⟨fun zoomed => absurd rfl zoomed, fun _ _ position known => ?_⟩
  rcases known with same | same <;> cases same

theorem windowed (sound : zoom.Sound) : Windowed chart zoom :=
  ⟨contiguous sound, fun many => (length_displayPoints sound many).2,
    fun _ _ _ _ started ended apart => dragged_displayPoints sound started ended apart⟩

theorem contained_iff_covers (sound : zoom.Sound) :
    Contained chart labelOf zoom ↔ Covers chart zoom zoom.points := by
  rw [← @render_ok _ _ labelOf _ sound]
  exact ⟨Contained.reads, fun reads => ⟨windowed sound, reads⟩⟩

theorem windowed_throughout (sound : zoom.Sound) :
    (charting chart points).Throughout (fun _ _ after => Windowed chart after) zoom events := by
  induction events generalizing zoom with
  | nil => trivial
  | cons event events ih =>
    have kept := @sound_next _ chart zoom sound event
    exact ⟨next chart zoom event, rfl, windowed kept, ih kept⟩

/-- The display is a window in every run, and a run reads past no end exactly if all its events are
fit. -/
theorem contained_iff_fits (chart : ChartKind) (labelOf : Point → String) (points : List Point)
    (events : List (ChartEvent Point)) :
    Contained chart labelOf (mounted points) ∧
      (charting chart points).Throughout (fun _ _ after => Windowed chart after)
        (mounted points) events ∧
      ((charting chart points).Throughout (fun _ _ after => Contained chart labelOf after)
        (mounted points) events ↔
        (charting chart points).Throughout (fun before event _ => Fits chart before event)
          (mounted points) events) := by
  have sound := sound_mounted points
  have covers := covers_mounted chart points
  refine ⟨(contained_iff_covers sound).mpr covers, windowed_throughout sound, ?_⟩
  -- as long as all events are fit the points cover the zoom and the drag, so that the next one can
  -- be judged
  have start : (mounted points).Sound ∧ Covers chart (mounted points) (mounted points).points :=
    ⟨sound, covers⟩
  refine @TransitionSystem.throughout_congr _ _ _ _ _
    (fun zoom : ChartZoom Point => zoom.Sound ∧ Covers chart zoom zoom.points) events _ start
    fun zoom event after here taken => ?_
  cases taken
  have kept := @sound_next _ chart zoom here.1 event
  have fits := covers_next here.1 here.2 event
  rw [contained_iff_covers kept, fits]
  exact ⟨Iff.rfl, fun fit => ⟨kept, fit⟩⟩

def emptied : List (ChartEvent String) := [.mouseDown 0, .mouseMove (1 / 2), .mouseUp, .refetch []]

theorem empty_refetch_throws : ¬ ∀ (points : List String) (events : List (ChartEvent String)),
    (charting .bar points).Throughout (fun _ _ after => Contained .bar id after)
    (mounted points) events := by
  intro contained
  obtain ⟨_, ⟨⟩, _, _, ⟨⟩, _, _, ⟨⟩, _, _, ⟨⟩, last, _⟩ := contained ["a", "b", "c"] emptied
  obtain ⟨view, drawn⟩ := last.reads
  have thrown : (render .bar id (emptied.foldl (next .bar) (mounted ["a", "b", "c"]))).toOption =
      none := by
    decide +kernel
  rw [show render .bar id (emptied.foldl (next .bar) (mounted ["a", "b", "c"])) =
    .ok view from drawn] at thrown
  cases thrown

end Runs

end OpenScale.Dashboards
