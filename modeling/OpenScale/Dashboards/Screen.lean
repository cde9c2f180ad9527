import OpenScale.Library.JsNumber

/-! The dashboards: what the control-plane encodes, with null for each nil pointer, and the figures
that `DashboardsScreen` shows of it. The labels of dates and hours are left out. -/

namespace OpenScale.Dashboards

open OpenScale.Library

structure DailyRevenuePoint where
  tripCount : Int
  totalRevenue : Option Rat
  avgFare : Option Rat

structure HourlyDemandPoint where
  tripCount : Int
  avgFare : Option Rat

structure ZoneStat where
  zoneId : Int
  tripCount : Int

structure CongestionPoint where
  totalCongestionSurcharge : Option Rat
  congestionTripPct : Option Rat

structure TrainMetricPoint where
  mae : Option Rat
  rmse : Option Rat
  r2 : Option Rat

structure JobTypeHealth where
  jobType : String
  succeeded : Int
  partialRuns : Int
  failed : Int
  avgDurationSeconds : Option Rat
  deriving DecidableEq

structure DashboardsOverview where
  dailyRevenue : List DailyRevenuePoint
  hourlyDemand : List HourlyDemandPoint
  topZones : List ZoneStat
  congestion : List CongestionPoint
  modelMetrics : List TrainMetricPoint
  etlHealth : List JobTypeHealth

def dash : String := "—"

/-- The steps of a thousand and of a million, which both of the next two take. -/
def abbreviated (value : JsNumber) (small : Except JsError String) : Except JsError String :=
  match value.toNumber with
  | none => small
  | some n =>
    if 1000000 ≤ |n| then .ok (fixed 1 (n / 1000000) ++ "M")
    else if 1000 ≤ |n| then .ok (fixed 1 (n / 1000) ++ "K")
    else small

def formatCurrency (value : JsNumber) : Except JsError String :=
  if value = .undefined then .ok dash
  else (abbreviated value (value.toFixed 2)).map fun text => "$" ++ text

def formatCount (value : JsNumber) : Except JsError String :=
  if value = .undefined then .ok dash else abbreviated value value.toLocaleString

def formatPercent (value : JsNumber) : Except JsError String :=
  if value = .undefined then .ok dash else (value.toFixed 1).map fun text => text ++ "%"

def formatDurationSeconds (seconds : JsNumber) : Except JsError String :=
  if seconds = .undefined then .ok dash
  else
    match seconds.toNumber with
    | none => .ok "NaNm NaNs"
    | some n =>
      let rounded := (n + 1 / 2).floor
      if rounded < 60 then .ok (toString rounded ++ "s")
      else .ok (toString (rounded / 60) ++ "m " ++ toString (rounded % 60) ++ "s")

def sum (values : List JsNumber) : Rat := (values.map (·.orElse 0)).sum

inductive Chart where
  | notEnough
  /-- The tooltips of the points, and the labels of the lowest and the highest. -/
  | trend (tips : List String) (low high : String)
  | bars (tips : List String)

def trendChart (valueFormatter : JsNumber → Except JsError String) (values : List Rat) :
    Except JsError Chart :=
  match values with
  | first :: second :: rest => do
    let tips ← (first :: second :: rest).mapM fun value => valueFormatter (.number value)
    let low ← valueFormatter (.number ((second :: rest).foldl min first))
    let high ← valueFormatter (.number ((second :: rest).foldl max first))
    return .trend tips low high
  | _ => return .notEnough

def barChart (valueFormatter : JsNumber → Except JsError String) (values : List Rat) :
    Except JsError Chart :=
  match values with
  | [] => return .notEnough
  | values => do
    let tips ← values.mapM fun value => valueFormatter (.number value)
    return .bars tips

structure ChartPanel where
  title : String
  value : String
  chart : Chart

def chartPanel (title : String) (value : Except JsError String) (chart : Except JsError Chart) :
    Except JsError ChartPanel := do
  let value ← value
  let chart ← chart
  return ⟨title, value, chart⟩

/-- The panel of the model: its headline may be left out, and so may each of its figures. -/
structure ModelPanel where
  value : Option String
  chart : Chart
  mae : Option String
  rmse : Option String
  r2 : Option String

structure HealthRow where
  jobType : String
  average : String
  succeeded : Int
  partialRuns : Int
  failed : Int

structure Dashboard where
  dailyRevenue : ChartPanel
  dailyTripVolume : ChartPanel
  avgFareTrend : ChartPanel
  demandByHour : ChartPanel
  avgFareByHour : ChartPanel
  congestionSurcharge : ChartPanel
  congestionTrips : ChartPanel
  modelQuality : ModelPanel
  topZones : Chart
  etlHealth : List HealthRow

inductive Screen where
  | noGoldData
  | charts (dashboard : Dashboard)

def etlHealthRow (health : JobTypeHealth) : Except JsError HealthRow := do
  let average ← formatDurationSeconds (.ofNullable health.avgDurationSeconds)
  return ⟨health.jobType, average ++ " avg", health.succeeded, health.partialRuns, health.failed⟩

/-- The headline of the model's panel: a score that is null is not undefined. -/
def modelHeadline (r2 : JsNumber) : Except JsError (Option String) :=
  if r2 ≠ .undefined then (r2.toFixed 2).map fun text => some ("R² " ++ text) else .ok none

def modelQualityPanel (metrics : List TrainMetricPoint) : Except JsError ModelPanel := do
  let latest := metrics.getLast?
  let r2 := JsNumber.ofOptional (latest.map (·.r2))
  let mae := (JsNumber.ofOptional (latest.map (·.mae))).toFixed? 2
  let rmse := (JsNumber.ofOptional (latest.map (·.rmse))).toFixed? 2
  let value ← modelHeadline r2
  if metrics.length < 2 then
    return ⟨value, .notEnough, mae, rmse, none⟩
  else do
    let chart ← trendChart (fun v => (v.toFixed 2).map fun text => "MAE $" ++ text)
      (metrics.map fun metric => (JsNumber.ofNullable metric.mae).orElse 0)
    return ⟨value, chart, mae, rmse, r2.toFixed? 3⟩

section Panels

variable (data : DashboardsOverview)

def dailyRevenuePanel : Except JsError ChartPanel :=
  chartPanel "Daily revenue"
    (formatCurrency (.number (sum (data.dailyRevenue.map fun d => .ofNullable d.totalRevenue))))
    (trendChart formatCurrency (data.dailyRevenue.map fun d =>
      (JsNumber.ofNullable d.totalRevenue).orElse 0))

def dailyTripVolumePanel : Except JsError ChartPanel :=
  chartPanel "Daily trip volume"
    (formatCount (.number (sum (data.dailyRevenue.map fun d => .number d.tripCount))))
    (trendChart formatCount (data.dailyRevenue.map fun d => (d.tripCount : Rat)))

def avgFareTrendPanel : Except JsError ChartPanel :=
  chartPanel "Avg fare trend"
    (formatCurrency (.ofOptional (data.dailyRevenue.getLast?.map (·.avgFare))))
    (trendChart formatCurrency (data.dailyRevenue.map fun d =>
      (JsNumber.ofNullable d.avgFare).orElse 0))

def demandByHourPanel : Except JsError ChartPanel :=
  chartPanel "Demand by hour of day"
    (formatCount (.number (sum (data.hourlyDemand.map fun h => .number h.tripCount))))
    (barChart formatCount (data.hourlyDemand.map fun h => (h.tripCount : Rat)))

def avgFareByHourPanel : Except JsError ChartPanel :=
  chartPanel "Avg fare by hour"
    (formatCurrency (.ofOptional (data.hourlyDemand.head?.map (·.avgFare))))
    (barChart formatCurrency (data.hourlyDemand.map fun h =>
      (JsNumber.ofNullable h.avgFare).orElse 0))

def congestionSurchargePanel : Except JsError ChartPanel :=
  chartPanel "Congestion surcharge trend"
    (formatCurrency
      (.number (sum (data.congestion.map fun c => .ofNullable c.totalCongestionSurcharge))))
    (trendChart formatCurrency
      (data.congestion.map fun c => (JsNumber.ofNullable c.totalCongestionSurcharge).orElse 0))

def congestionTripsPanel : Except JsError ChartPanel :=
  chartPanel "% trips with congestion pricing"
    (formatPercent (.ofOptional (data.congestion.getLast?.map (·.congestionTripPct))))
    (trendChart formatPercent (data.congestion.map fun c =>
      (JsNumber.ofNullable c.congestionTripPct).orElse 0))

def hasAnyGoldData : Bool :=
  0 < data.dailyRevenue.length || 0 < data.hourlyDemand.length || 0 < data.topZones.length

def dashboardsScreen : Except JsError Screen :=
  if !hasAnyGoldData data then .ok .noGoldData
  else do
    let dailyRevenue ← dailyRevenuePanel data
    let dailyTripVolume ← dailyTripVolumePanel data
    let avgFareTrend ← avgFareTrendPanel data
    let demandByHour ← demandByHourPanel data
    let avgFareByHour ← avgFareByHourPanel data
    let congestionSurcharge ← congestionSurchargePanel data
    let congestionTrips ← congestionTripsPanel data
    let modelQuality ← modelQualityPanel data.modelMetrics
    let topZones ← barChart formatCount (data.topZones.map fun z => (z.tripCount : Rat))
    let etlHealth ← data.etlHealth.mapM etlHealthRow
    return .charts ⟨dailyRevenue, dailyTripVolume, avgFareTrend, demandByHour, avgFareByHour,
      congestionSurcharge, congestionTrips, modelQuality, topZones, etlHealth⟩

end Panels

end OpenScale.Dashboards
