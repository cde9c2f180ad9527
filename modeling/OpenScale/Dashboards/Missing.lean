import OpenScale.Dashboards.Screen

/-! Which figures may be missing without a crash, and without a number in their place. -/

namespace OpenScale.Dashboards

open OpenScale.Library

def Chart.tip? (chart : Chart) (i : Nat) : Option String :=
  match chart with
  | .notEnough => none
  | .trend tips _ _ => tips[i]?
  | .bars tips => tips[i]?

/-- No tooltip of a missing point shows a number. -/
def TipsHonest (points : List (Option Rat)) (chart : Chart) : Prop :=
  ∀ i, points[i]? = some none → ∀ tip, chart.tip? i = some tip → tip = dash

/-- The labels of the lowest and of the highest point show no number where that point is a missing
one, which is drawn at zero. -/
def LabelsHonest (points : List (Option Rat)) (chart : Chart) : Prop :=
  none ∈ points → ∀ tips low high, chart = .trend tips low high →
    ((∀ value, some value ∈ points → 0 ≤ value) → low = dash) ∧
      ((∀ value, some value ∈ points → value ≤ 0) → high = dash)

structure ChartHonest (points : List (Option Rat)) (chart : Chart) : Prop where
  tips : TipsHonest points chart
  labels : LabelsHonest points chart

def NoneKnown (values : List (Option Rat)) : Prop := values ≠ [] ∧ ∀ value ∈ values, value = none

section Fields

variable (data : DashboardsOverview)

def revenues : List (Option Rat) := data.dailyRevenue.map (·.totalRevenue)
def dailyFares : List (Option Rat) := data.dailyRevenue.map (·.avgFare)
def hourlyFares : List (Option Rat) := data.hourlyDemand.map (·.avgFare)
def surcharges : List (Option Rat) := data.congestion.map (·.totalCongestionSurcharge)
def tripPcts : List (Option Rat) := data.congestion.map (·.congestionTripPct)
def averages : List (Option Rat) := data.etlHealth.map (·.avgDurationSeconds)

end Fields

/-- The headline, the averages and the latest figures of the model. -/
structure QualityHonest (metrics : List TrainMetricPoint) (panel : ModelPanel) : Prop where
  headline : (metrics.map (·.r2)).getLast?.join = none → ∀ text, panel.value = some text →
    text = dash
  errors : ChartHonest (metrics.map (·.mae)) panel.chart
  mae : (metrics.map (·.mae)).getLast?.join = none → panel.mae = none
  rmse : (metrics.map (·.rmse)).getLast?.join = none → panel.rmse = none
  r2 : (metrics.map (·.r2)).getLast?.join = none → panel.r2 = none

/-- Each headline and each average without a value is shown as missing. -/
structure Honest (data : DashboardsOverview) (board : Dashboard) : Prop where
  revenue : NoneKnown (revenues data) → board.dailyRevenue.value = dash
  lastFare : (dailyFares data).getLast?.join = none → board.avgFareTrend.value = dash
  fares : ChartHonest (dailyFares data) board.avgFareTrend.chart
  firstFare : (hourlyFares data).head?.join = none → board.avgFareByHour.value = dash
  fareBars : ChartHonest (hourlyFares data) board.avgFareByHour.chart
  surcharge : NoneKnown (surcharges data) → board.congestionSurcharge.value = dash
  lastTrips : (tripPcts data).getLast?.join = none → board.congestionTrips.value = dash
  quality : QualityHonest data.modelMetrics board.modelQuality
  durations : ∀ i : Nat, (averages data)[i]? = some none → ∀ row, board.etlHealth[i]? = some row →
    row.average = dash ++ " avg"

def ShowsMissing (data : DashboardsOverview) : Prop :=
  ∃ screen, dashboardsScreen data = .ok screen ∧ ∀ board, screen = .charts board → Honest data board

/-- A formatter that knows undefined, fails at null, and writes each number with more than a
dash. -/
structure Fragile (format : JsNumber → Except JsError String) : Prop where
  undefined : format .undefined = .ok dash
  null : format .null = .error .typeError
  number : ∀ value, ∃ text, format (.number value) = .ok text ∧ text ≠ dash

section Formats

variable {text : Rat → String} {format : JsNumber → Except JsError String}
  {field : Option (Option Rat)}

theorem abbreviated_ok (value : Rat) {small : Except JsError String} {short : String}
    (ok : small = .ok short) : ∃ text, abbreviated (.number value) small = .ok text := by
  subst ok
  rw [abbreviated]
  dsimp only [JsNumber.toNumber]
  split
  · exact ⟨_, rfl⟩
  · split
    · exact ⟨_, rfl⟩
    · exact ⟨_, rfl⟩

theorem dollar_ne_dash (text : String) : "$" ++ text ≠ dash := by
  intro same
  have letters := congrArg (fun s => s.toList.head?) same
  simp [dash] at letters

theorem percent_ne_dash (text : String) : text ++ "%" ≠ dash := by
  intro same
  have letters := congrArg (fun s => s.toList.getLast?) same
  simp [dash] at letters

theorem fragile_currency : Fragile formatCurrency where
  undefined := rfl
  null := by
    have small : ¬ (1000000 : Rat) ≤ |0| ∧ ¬ (1000 : Rat) ≤ |0| := by simp
    rw [formatCurrency, if_neg (by simp), abbreviated]
    dsimp only [JsNumber.toNumber]
    rw [if_neg small.1, if_neg small.2]
    rfl
  number value := by
    obtain ⟨text, short⟩ := abbreviated_ok value (rfl : (JsNumber.number value).toFixed 2 = .ok _)
    refine ⟨"$" ++ text, ?_, dollar_ne_dash text⟩
    rw [formatCurrency, if_neg (by simp), short]
    rfl

theorem fragile_percent : Fragile formatPercent where
  undefined := rfl
  null := rfl
  number _ := ⟨_, rfl, percent_ne_dash _⟩

theorem formatCount_number (value : Rat) : ∃ text, formatCount (.number value) = .ok text := by
  obtain ⟨text, short⟩ :=
    abbreviated_ok value (rfl : (JsNumber.number value).toLocaleString = .ok _)
  exact ⟨_, by rw [formatCount, if_neg (by simp), short]⟩

theorem Fragile.headline_iff (fragile : Fragile format) :
    (∃ text, format (.ofOptional field) = .ok text ∧ (field.join = none → text = dash)) ↔
    field ≠ some none := by
  rcases field with _ | _ | value
  · simp [JsNumber.ofOptional, fragile.undefined]
  · simp [JsNumber.ofOptional, JsNumber.ofNullable, fragile.null]
  · obtain ⟨text, ok, _⟩ := fragile.number value
    simp [JsNumber.ofOptional, JsNumber.ofNullable, ok]

theorem trendChart_ok (good : ∀ value, format (.number value) = .ok (text value))
    (values : List Rat) :
    ∃ chart, trendChart format values = .ok chart ∧
      ∀ i, chart.tip? i = if 2 ≤ values.length then values[i]?.map text else none := by
  match values with
  | [] => exact ⟨_, rfl, fun i => rfl⟩
  | [only] => exact ⟨_, rfl, fun i => rfl⟩
  | first :: second :: rest =>
    have tips :=
      mapM_ok (f := fun value => format (.number value)) (g := text) (first :: second :: rest)
      fun value _ => good value
    refine ⟨.trend ((first :: second :: rest).map text) (text ((second :: rest).foldl min first))
      (text ((second :: rest).foldl max first)), ?_, fun i => ?_⟩
    · rw [trendChart, tips, good, good]
      rfl
    · rw [Chart.tip?, List.getElem?_map, if_pos (by simp)]

theorem barChart_ok (good : ∀ value, format (.number value) = .ok (text value))
    (values : List Rat) :
    ∃ chart, barChart format values = .ok chart ∧ ∀ i, chart.tip? i = values[i]?.map text := by
  cases values with
  | nil => exact ⟨_, rfl, fun i => rfl⟩
  | cons first rest =>
    have tips := mapM_ok (f := fun value => format (.number value)) (g := text) (first :: rest)
      fun value _ => good value
    refine ⟨.bars ((first :: rest).map text), ?_, fun i => ?_⟩
    · rw [barChart, tips]
      · rfl
      · simp
    · rw [Chart.tip?, List.getElem?_map]

theorem chartPanel_ok {title : String} {value : Except JsError String}
    {chart : Except JsError Chart}
    {panel : ChartPanel} : chartPanel title value chart = .ok panel ↔
      value = .ok panel.value ∧ chart = .ok panel.chart ∧ panel.title = title := by
  constructor
  · intro made
    obtain ⟨_, valued, rest⟩ := bind_eq_ok.mp made
    obtain ⟨_, charted, rest⟩ := bind_eq_ok.mp rest
    obtain rfl := Except.ok.inj rest
    exact ⟨valued, charted, rfl⟩
  · rintro ⟨rfl, rfl, rfl⟩
    rfl

end Formats

section Panels

variable {format : JsNumber → Except JsError String} {title : String}

/-- The values that a chart draws, with zero for what is missing. -/
def drawn (points : List (Option Rat)) : List Rat :=
  points.map fun point => (JsNumber.ofNullable point).orElse 0

theorem honest_of_known {points : List (Option Rat)} (known : none ∉ points) (chart : Chart) :
    ChartHonest points chart where
  tips _ missing := absurd (List.mem_of_getElem? missing) known
  labels missing := absurd missing known

theorem Fragile.trend_iff (fragile : Fragile format) (points : List (Option Rat)) :
    (∃ panel,
      chartPanel title (format (.ofOptional points.getLast?)) (trendChart format (drawn points)) =
        .ok panel ∧ (points.getLast?.join = none → panel.value = dash) ∧
        ChartHonest points panel.chart) ↔ none ∉ points := by
  choose text good differs using fragile.number
  obtain ⟨chart, made, tips⟩ := trendChart_ok good (drawn points)
  constructor
  · rintro ⟨panel, shown, last, honest⟩ missing
    obtain ⟨value, made', _⟩ := chartPanel_ok.mp shown
    obtain rfl := Except.ok.inj (made.symm.trans made')
    have known := fragile.headline_iff.mp ⟨_, value, last⟩
    obtain ⟨i, inside, point⟩ := List.getElem_of_mem missing
    have found : points[i]? = some none := by rw [List.getElem?_eq_getElem inside, point]
    by_cases single : 2 ≤ points.length
    · refine differs 0 (honest.tips i found (text 0) ?_)
      rw [tips, drawn, List.length_map, if_pos single, List.getElem?_map, found]
      rfl
    · refine known ?_
      rw [List.getLast?_eq_getElem?, show points.length - 1 = i by omega, found]
  · intro known
    obtain ⟨value, shown, last⟩ := fragile.headline_iff.mpr
      (fun missing => known (List.mem_of_getLast? missing) : points.getLast? ≠ some none)
    refine ⟨⟨title, value, chart⟩, chartPanel_ok.mpr ⟨shown, made, rfl⟩, last, ?_⟩
    exact honest_of_known known chart

theorem Fragile.bars_iff (fragile : Fragile format) (points : List (Option Rat)) :
    (∃ panel,
      chartPanel title (format (.ofOptional points.head?)) (barChart format (drawn points)) =
        .ok panel ∧ (points.head?.join = none → panel.value = dash) ∧
        ChartHonest points panel.chart) ↔
      none ∉ points := by
  choose text good differs using fragile.number
  obtain ⟨chart, made, tips⟩ := barChart_ok good (drawn points)
  constructor
  · rintro ⟨panel, shown, _, honest⟩ missing
    obtain ⟨_, made', _⟩ := chartPanel_ok.mp shown
    obtain rfl := Except.ok.inj (made.symm.trans made')
    obtain ⟨i, inside, point⟩ := List.getElem_of_mem missing
    have found : points[i]? = some none := by rw [List.getElem?_eq_getElem inside, point]
    refine differs 0 (honest.tips i found (text 0) ?_)
    rw [tips, drawn, List.getElem?_map, found]
    rfl
  · intro known
    obtain ⟨value, shown, first⟩ := fragile.headline_iff.mpr
      (fun missing => known (List.mem_of_head? missing) : points.head? ≠ some none)
    refine ⟨⟨title, value, chart⟩, chartPanel_ok.mpr ⟨shown, made, rfl⟩, first, ?_⟩
    exact honest_of_known known chart

theorem Fragile.sum_iff (fragile : Fragile format) (total : Rat) (values : List Rat)
    (nothing : Prop) :
    (∃ panel, chartPanel title (format (.number total)) (trendChart format values) = .ok panel ∧
      (nothing → panel.value = dash)) ↔ ¬ nothing := by
  choose text good differs using fragile.number
  obtain ⟨chart, made, _⟩ := trendChart_ok good values
  constructor
  · rintro ⟨panel, shown, honest⟩ unknown
    obtain ⟨value, _⟩ := chartPanel_ok.mp shown
    rw [honest unknown, good] at value
    exact differs total (Except.ok.inj value)
  · intro known
    exact ⟨⟨title, text total, chart⟩, chartPanel_ok.mpr ⟨good total, made, rfl⟩, fun unknown =>
      absurd unknown known⟩

theorem Fragile.last_iff (fragile : Fragile format) (field : Option (Option Rat))
    (values : List Rat) :
    (∃ panel, chartPanel title (format (.ofOptional field)) (trendChart format values) = .ok panel ∧
      (field.join = none → panel.value = dash)) ↔ field ≠ some none := by
  choose text good _ using fragile.number
  obtain ⟨chart, made, _⟩ := trendChart_ok good values
  rw [← fragile.headline_iff]
  constructor
  · rintro ⟨panel, shown, honest⟩
    exact ⟨panel.value, (chartPanel_ok.mp shown).1, honest⟩
  · rintro ⟨value, shown, honest⟩
    exact ⟨⟨title, value, chart⟩, chartPanel_ok.mpr ⟨shown, made, rfl⟩, honest⟩

theorem counts_ok (total : Rat) {chart : Except JsError Chart} {drawn : Chart}
    (made : chart = .ok drawn) :
    ∃ panel, chartPanel title (formatCount (.number total)) chart = .ok panel := by
  obtain ⟨text, shown⟩ := formatCount_number total
  exact ⟨⟨title, text, drawn⟩, chartPanel_ok.mpr ⟨shown, made, rfl⟩⟩

end Panels

theorem modelHeadline_iff (field : Option (Option Rat)) :
    (∃ value, modelHeadline (.ofOptional field) = .ok value ∧
      (field.join = none → ∀ text, value = some text → text = dash)) ↔ field ≠ some none := by
  rcases field with _ | _ | score
  · simp [modelHeadline, JsNumber.ofOptional]
  · simp [modelHeadline, JsNumber.ofOptional, JsNumber.ofNullable, JsNumber.toFixed, Except.map]
  · simp [modelHeadline, JsNumber.ofOptional, JsNumber.ofNullable, JsNumber.toFixed, Except.map]

theorem toFixed?_missing {field : Option (Option Rat)} (missing : field.join = none)
    (digits : Nat) : (JsNumber.ofOptional field).toFixed? digits = none := by
  rcases field with _ | _ | value
  · rfl
  · rfl
  · cases missing

/-- How the chart of the model labels its points. -/
def maeText (value : Rat) : String := "MAE $" ++ fixed 2 value

theorem maeText_ne_dash (value : Rat) : maeText value ≠ dash := by
  intro same
  have letters := congrArg (fun s => s.toList.head?) same
  simp [maeText, dash] at letters

/-- Each part of the panel is made on its own; a chart of one point is not drawn. -/
theorem modelQualityPanel_ok {metrics : List TrainMetricPoint} {panel : ModelPanel} :
    modelQualityPanel metrics = .ok panel ↔
      modelHeadline (.ofOptional (metrics.getLast?.map (·.r2))) = .ok panel.value ∧
      trendChart (fun v => (v.toFixed 2).map fun text => "MAE $" ++ text)
        (drawn (metrics.map (·.mae))) = .ok panel.chart ∧
      panel.mae = (JsNumber.ofOptional (metrics.getLast?.map (·.mae))).toFixed? 2 ∧
      panel.rmse = (JsNumber.ofOptional (metrics.getLast?.map (·.rmse))).toFixed? 2 ∧
      panel.r2 = if metrics.length < 2 then none
        else (JsNumber.ofOptional (metrics.getLast?.map (·.r2))).toFixed? 3 := by
  obtain ⟨value, chart, mae, rmse, r2⟩ := panel
  have points : metrics.map (fun metric => (JsNumber.ofNullable metric.mae).orElse 0) =
      drawn (metrics.map (·.mae)) := by
    rw [drawn, List.map_map]
    rfl
  rw [modelQualityPanel, points]
  by_cases short : metrics.length < 2
  · have none_ : trendChart (fun v => (v.toFixed 2).map fun text => "MAE $" ++ text)
        (drawn (metrics.map (·.mae))) = .ok .notEnough := by
      match metrics, short with
      | [], _ => rfl
      | [only], _ => rfl
    rw [none_, if_pos short]
    cases modelHeadline (.ofOptional (metrics.getLast?.map (·.r2))) with
    | error err => exact ⟨nofun, nofun⟩
    | ok headline =>
      simp only [bind, Except.bind, pure, Except.pure, Except.ok.injEq, ModelPanel.mk.injEq,
        if_pos short]
      tauto
  · rw [if_neg short]
    cases modelHeadline (.ofOptional (metrics.getLast?.map (·.r2))) with
    | error err => exact ⟨nofun, nofun⟩
    | ok headline =>
      cases trendChart (fun v => (v.toFixed 2).map fun text => "MAE $" ++ text)
          (drawn (metrics.map (·.mae))) with
      | error err =>
        simp only [bind, Except.bind, if_neg short]
        exact ⟨nofun, nofun⟩
      | ok made =>
        simp only [bind, Except.bind, pure, Except.pure, Except.ok.injEq, ModelPanel.mk.injEq,
          if_neg short]
        tauto

/-- The headline must not be null, nor any point of a chart that is drawn. -/
theorem modelQuality_iff (metrics : List TrainMetricPoint) :
    (∃ panel, modelQualityPanel metrics = .ok panel ∧ QualityHonest metrics panel) ↔
      (metrics.map (·.r2)).getLast? ≠ some none ∧
      (2 ≤ metrics.length → none ∉ metrics.map (·.mae)) := by
  obtain ⟨chart, made, tips⟩ := @trendChart_ok maeText
    (fun v => (v.toFixed 2).map fun text => "MAE $" ++ text) (fun _ => rfl)
    (drawn (metrics.map (·.mae)))
  rw [List.getLast?_map, ← modelHeadline_iff]
  constructor
  · rintro ⟨panel, shown, honest⟩
    obtain ⟨headline, made', _⟩ := modelQualityPanel_ok.mp shown
    obtain rfl := Except.ok.inj (made.symm.trans made')
    refine ⟨⟨panel.value, headline, ?_⟩, fun several missing => ?_⟩
    · rw [← List.getLast?_map]
      exact honest.headline
    · obtain ⟨i, inside, point⟩ := List.getElem_of_mem missing
      have found : (metrics.map (·.mae))[i]? = some none := by
        rw [List.getElem?_eq_getElem inside, point]
      refine maeText_ne_dash 0 (honest.errors.tips i found (maeText 0) ?_)
      rw [tips, drawn, List.length_map, List.length_map, if_pos several, List.getElem?_map, found]
      rfl
  · rintro ⟨⟨value, headline, honest⟩, known⟩
    have latest (score : TrainMetricPoint → Option Rat) (digits : Nat)
        (missing : (metrics.map score).getLast?.join = none) :
        (JsNumber.ofOptional (metrics.getLast?.map score)).toFixed? digits = none :=
      toFixed?_missing (by rwa [← List.getLast?_map]) digits
    refine ⟨⟨value, chart, _, _, _⟩, modelQualityPanel_ok.mpr ⟨headline, made, rfl, rfl, rfl⟩,
      ⟨?_, ?_, latest _ 2, latest _ 2, fun missing => ?_⟩⟩
    · rw [List.getLast?_map]
      exact honest
    · by_cases several : 2 ≤ metrics.length
      · exact honest_of_known (known several) chart
      · have nothing : chart = .notEnough := by
          match metrics, several with
          | [], _ => exact (Except.ok.inj made).symm
          | [only], _ => exact (Except.ok.inj made).symm
          | first :: second :: rest, few => exact absurd (Nat.le_add_left 2 rest.length) few
        rw [nothing]
        exact ⟨fun _ _ _ shown => (nomatch shown), fun _ _ _ _ same => (nomatch same)⟩
    · by_cases short : metrics.length < 2
      · exact if_pos short
      · exact (if_neg short).trans (latest _ 3 missing)

def averageText (field : Option Rat) : String :=
  let rounded := (field.getD 0 + 1 / 2).floor
  if rounded < 60 then toString rounded ++ "s"
  else toString (rounded / 60) ++ "m " ++ toString (rounded % 60) ++ "s"

theorem formatDurationSeconds_nullable (field : Option Rat) :
    formatDurationSeconds (.ofNullable field) = .ok (averageText field) := by
  cases field with
  | none => decide +kernel
  | some seconds =>
    rw [formatDurationSeconds, if_neg (by simp [JsNumber.ofNullable]), averageText]
    dsimp only [JsNumber.ofNullable, JsNumber.toNumber, Option.getD]
    split
    · rfl
    · rfl

theorem etlHealth_iff (health : List JobTypeHealth) :
    (∃ rows, health.mapM etlHealthRow = .ok rows ∧
      ∀ i : Nat, (health.map (·.avgDurationSeconds))[i]? = some none → ∀ row, rows[i]? = some row →
        row.average = dash ++ " avg") ↔ none ∉ health.map (·.avgDurationSeconds) := by
  have each : health.mapM etlHealthRow = .ok (health.map fun h =>
      ⟨h.jobType, averageText h.avgDurationSeconds ++ " avg", h.succeeded, h.partialRuns,
        h.failed⟩) := by
    refine mapM_ok health fun h _ => ?_
    rw [etlHealthRow, formatDurationSeconds_nullable]
    rfl
  constructor
  · rintro ⟨rows, made, honest⟩ missing
    obtain rfl := Except.ok.inj (each.symm.trans made)
    obtain ⟨i, inside, field⟩ := List.getElem_of_mem missing
    rw [List.length_map] at inside
    rw [List.getElem_map] at field
    have shown :=
      honest i (by rw [List.getElem?_map, List.getElem?_eq_getElem inside, Option.map_some, field])
        _
      (by rw [List.getElem?_map, List.getElem?_eq_getElem inside, Option.map_some])
    rw [field] at shown
    have zero : averageText none ++ " avg" ≠ dash ++ " avg" := by decide +kernel
    exact zero shown
  · intro known
    exact ⟨_, each, fun i missing => absurd (List.mem_of_getElem? missing) known⟩

structure Renders (data : DashboardsOverview) (board : Dashboard) : Prop where
  dailyRevenue : dailyRevenuePanel data = .ok board.dailyRevenue
  dailyTripVolume : dailyTripVolumePanel data = .ok board.dailyTripVolume
  avgFareTrend : avgFareTrendPanel data = .ok board.avgFareTrend
  demandByHour : demandByHourPanel data = .ok board.demandByHour
  avgFareByHour : avgFareByHourPanel data = .ok board.avgFareByHour
  congestionSurcharge : congestionSurchargePanel data = .ok board.congestionSurcharge
  congestionTrips : congestionTripsPanel data = .ok board.congestionTrips
  modelQuality : modelQualityPanel data.modelMetrics = .ok board.modelQuality
  topZones : barChart formatCount (data.topZones.map fun z => (z.tripCount : Rat)) =
    .ok board.topZones
  etlHealth : data.etlHealth.mapM etlHealthRow = .ok board.etlHealth

theorem renders_iff {data : DashboardsOverview} (gold : hasAnyGoldData data = true)
    (screen : Screen) :
    dashboardsScreen data = .ok screen ↔ ∃ board, screen = .charts board ∧ Renders data board := by
  rw [dashboardsScreen, gold, if_neg (by decide)]
  constructor
  · intro shown
    obtain ⟨_, revenue, shown⟩ := bind_eq_ok.mp shown
    obtain ⟨_, volume, shown⟩ := bind_eq_ok.mp shown
    obtain ⟨_, fares, shown⟩ := bind_eq_ok.mp shown
    obtain ⟨_, demand, shown⟩ := bind_eq_ok.mp shown
    obtain ⟨_, bars, shown⟩ := bind_eq_ok.mp shown
    obtain ⟨_, surcharge, shown⟩ := bind_eq_ok.mp shown
    obtain ⟨_, trips, shown⟩ := bind_eq_ok.mp shown
    obtain ⟨_, quality, shown⟩ := bind_eq_ok.mp shown
    obtain ⟨_, zones, shown⟩ := bind_eq_ok.mp shown
    obtain ⟨_, health, shown⟩ := bind_eq_ok.mp shown
    obtain rfl := Except.ok.inj shown
    exact ⟨_, rfl, revenue, volume, fares, demand, bars, surcharge, trips, quality, zones, health⟩
  · rintro ⟨board, rfl, renders⟩
    rw [renders.dailyRevenue, renders.dailyTripVolume, renders.avgFareTrend, renders.demandByHour,
      renders.avgFareByHour, renders.congestionSurcharge, renders.congestionTrips,
      renders.modelQuality, renders.topZones, renders.etlHealth]
    rfl

/-- No figure is missing where the screen has no text for it. -/
structure Complete (data : DashboardsOverview) : Prop where
  revenue : ¬ NoneKnown (revenues data)
  dailyFares : none ∉ dailyFares data
  hourlyFares : none ∉ hourlyFares data
  surcharge : ¬ NoneKnown (surcharges data)
  lastTrips : (tripPcts data).getLast? ≠ some none
  lastScore : (data.modelMetrics.map (·.r2)).getLast? ≠ some none
  errors : 2 ≤ data.modelMetrics.length → none ∉ data.modelMetrics.map (·.mae)
  averages : none ∉ averages data

variable (data : DashboardsOverview)

theorem dailyRevenuePanel_iff : (∃ panel, dailyRevenuePanel data = .ok panel ∧
    (NoneKnown (revenues data) → panel.value = dash)) ↔ ¬ NoneKnown (revenues data) :=
  fragile_currency.sum_iff _ _ _

theorem congestionSurchargePanel_iff : (∃ panel, congestionSurchargePanel data = .ok panel ∧
    (NoneKnown (surcharges data) → panel.value = dash)) ↔ ¬ NoneKnown (surcharges data) :=
  fragile_currency.sum_iff _ _ _

theorem avgFareTrendPanel_iff : (∃ panel, avgFareTrendPanel data = .ok panel ∧
    ((dailyFares data).getLast?.join = none → panel.value = dash) ∧
      ChartHonest (dailyFares data) panel.chart) ↔
      none ∉ dailyFares data := by
  have same : avgFareTrendPanel data = chartPanel "Avg fare trend"
      (formatCurrency (.ofOptional (dailyFares data).getLast?))
        (trendChart formatCurrency (drawn (dailyFares data))) := by
    rw [avgFareTrendPanel, drawn, dailyFares, List.getLast?_map, List.map_map]
    rfl
  rw [same]
  exact fragile_currency.trend_iff _

theorem avgFareByHourPanel_iff : (∃ panel, avgFareByHourPanel data = .ok panel ∧
    ((hourlyFares data).head?.join = none → panel.value = dash) ∧
      ChartHonest (hourlyFares data) panel.chart) ↔
      none ∉ hourlyFares data := by
  have same : avgFareByHourPanel data = chartPanel "Avg fare by hour"
      (formatCurrency (.ofOptional (hourlyFares data).head?))
        (barChart formatCurrency (drawn (hourlyFares data))) := by
    rw [avgFareByHourPanel, drawn, hourlyFares, List.head?_map, List.map_map]
    rfl
  rw [same]
  exact fragile_currency.bars_iff _

theorem congestionTripsPanel_iff : (∃ panel, congestionTripsPanel data = .ok panel ∧
    ((tripPcts data).getLast?.join = none → panel.value = dash)) ↔
    (tripPcts data).getLast? ≠ some none := by
  rw [congestionTripsPanel, tripPcts, List.getLast?_map]
  exact fragile_percent.last_iff _ _

theorem counts_shown : (∃ panel, dailyTripVolumePanel data = .ok panel) ∧
    (∃ panel, demandByHourPanel data = .ok panel) ∧
    ∃ chart, barChart formatCount (data.topZones.map fun z => (z.tripCount : Rat)) = .ok chart := by
  choose text good using formatCount_number
  obtain ⟨_, volume, _⟩ := trendChart_ok good (data.dailyRevenue.map fun d => (d.tripCount : Rat))
  obtain ⟨_, demand, _⟩ := barChart_ok good (data.hourlyDemand.map fun h => (h.tripCount : Rat))
  obtain ⟨chart, zones, _⟩ := barChart_ok good (data.topZones.map fun z => (z.tripCount : Rat))
  exact ⟨counts_ok _ volume, counts_ok _ demand, chart, zones⟩

/-- The screen is shown, without a number for a missing figure, exactly when there is no Gold data
at all or none of the figures is missing whose text treats null as a number. -/
theorem shows_missing_iff (data : DashboardsOverview) :
    ShowsMissing data ↔ hasAnyGoldData data = false ∨ Complete data := by
  by_cases gold : hasAnyGoldData data = true
  · rw [or_iff_right (by simp [gold])]
    constructor
    · rintro ⟨screen, shown, honest⟩
      obtain ⟨board, rfl, renders⟩ := (renders_iff gold screen).mp shown
      have honest := honest board rfl
      have quality :=
        (modelQuality_iff data.modelMetrics).mp ⟨_, renders.modelQuality, honest.quality⟩
      exact ⟨(dailyRevenuePanel_iff data).mp ⟨_, renders.dailyRevenue, honest.revenue⟩,
        (avgFareTrendPanel_iff data).mp ⟨_, renders.avgFareTrend, honest.lastFare, honest.fares⟩,
        (avgFareByHourPanel_iff data).mp ⟨_, renders.avgFareByHour, honest.firstFare,
          honest.fareBars⟩,
        (congestionSurchargePanel_iff data).mp ⟨_, renders.congestionSurcharge, honest.surcharge⟩,
        (congestionTripsPanel_iff data).mp ⟨_, renders.congestionTrips, honest.lastTrips⟩,
        quality.1, quality.2,
        (etlHealth_iff data.etlHealth).mp ⟨_, renders.etlHealth, honest.durations⟩⟩
    · intro complete
      obtain ⟨revenue, revenueShown, honestRevenue⟩ :=
        (dailyRevenuePanel_iff data).mpr complete.revenue
      obtain ⟨fares, faresShown, honestLast, honestFares⟩ :=
        (avgFareTrendPanel_iff data).mpr complete.dailyFares
      obtain ⟨bars, barsShown, honestFirst, honestBars⟩ :=
        (avgFareByHourPanel_iff data).mpr complete.hourlyFares
      obtain ⟨surcharge, surchargeShown, honestSurcharge⟩ :=
        (congestionSurchargePanel_iff data).mpr complete.surcharge
      obtain ⟨trips, tripsShown, honestTrips⟩ :=
        (congestionTripsPanel_iff data).mpr complete.lastTrips
      obtain ⟨quality, qualityShown, honestQuality⟩ :=
        (modelQuality_iff data.modelMetrics).mpr ⟨complete.lastScore, complete.errors⟩
      obtain ⟨health, healthShown, honestDurations⟩ :=
        (etlHealth_iff data.etlHealth).mpr complete.averages
      obtain ⟨⟨volume, volumeShown⟩, ⟨demand, demandShown⟩, zones, zonesShown⟩ := counts_shown data
      let board : Dashboard :=
        ⟨revenue, volume, fares, demand, bars, surcharge, trips, quality, zones, health⟩
      have renders : Renders data board :=
        ⟨revenueShown, volumeShown, faresShown, demandShown, barsShown,
        surchargeShown, tripsShown, qualityShown, zonesShown, healthShown⟩
      refine ⟨.charts board, (renders_iff gold _).mpr ⟨board, rfl, renders⟩, fun other same => ?_⟩
      obtain rfl := Screen.charts.inj same
      exact ⟨honestRevenue, honestLast, honestFares, honestFirst, honestBars,
        honestSurcharge, honestTrips, honestQuality, honestDurations⟩
  · rw [Bool.not_eq_true] at gold
    refine iff_of_true ⟨.noGoldData, ?_, fun board same => ?_⟩ (.inl gold)
    · rw [dashboardsScreen, gold]
      rfl
    · cases same

def fareless : DashboardsOverview where
  dailyRevenue := [⟨3, some 40, none⟩]
  hourlyDemand := []
  topZones := []
  congestion := []
  modelMetrics := []
  etlHealth := []

theorem fareless_crashes : ¬ ∀ data, ShowsMissing data := by
  intro shows
  obtain ⟨screen, shown, _⟩ := shows fareless
  obtain ⟨board, rfl, renders⟩ := (renders_iff rfl screen).mp shown
  obtain ⟨value, _⟩ := chartPanel_ok.mp renders.avgFareTrend
  have failed := fragile_currency.null.symm.trans value
  cases failed

end OpenScale.Dashboards
