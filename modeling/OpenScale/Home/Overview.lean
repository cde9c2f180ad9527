import OpenScale.Home.Trend
import OpenScale.Pipelines.Rules

/-! The query of the home screen: the mock overview, with what the control-plane answers laid over
it. -/

namespace OpenScale.Home

open OpenScale.Library OpenScale.Dashboards OpenScale.Pipelines

section Overview

structure PipelineRunSummary where
  id : String
  jobName : String
  startedAt : String
  durationLabel : String
  status : Signal
  rowsProcessed : Option Int

def toRunSummary (clock : Clock) (run : JobRun) : PipelineRunSummary where
  id := run.id
  jobName := run.jobType
  startedAt := formatRunTime clock run.startedAt
  durationLabel := formatRunDuration clock run.startedAt run.finishedAt run.state
  status := deriveRunStatus run.state
  rowsProcessed := run.rowsProcessed

structure HomeStat where
  id : String
  label : String
  value : String

structure ApiHomeStats where
  silverRowsProcessed : Option Rat
  monthsIngested : Int
  fareModelMae : Option Rat
  revenueTrend14d : List DailyRevenuePoint

/-- The gauges are passed on as they are. -/
structure HomeOverview (Gauge : Type) where
  gauges : List Gauge
  revenueTrend : RevenueTrend
  stats : List HomeStat
  recentRuns : List PipelineRunSummary

def goldTableCount : String := "4"

def toHomeStats (stats : ApiHomeStats) : Except JsError (List HomeStat) := do
  let silverRows ← match stats.silverRowsProcessed with
    | some rows => formatCount (.number rows)
    | none => .ok dash
  let fareMae := match stats.fareModelMae with
    | some mae => "$" ++ fixed 2 mae
    | none => dash
  return [⟨"silver-rows", "Silver rows processed", silverRows⟩,
    ⟨"months", "months ingested", toString stats.monthsIngested⟩,
    ⟨"gold-tables", "Gold tables", goldTableCount⟩,
    ⟨"fare-mae", "fare model MAE", fareMae⟩]

variable {Gauge : Type}

/-- `queryFn`, on what the mock and the two requests come to. -/
def homeOverview (clock : Clock) (overview : HomeOverview Gauge)
    (fetchRuns : Except JsError RunsPage)
    (fetchHomeStats : Except JsError ApiHomeStats) : Except JsError (HomeOverview Gauge) := do
  let page := match fetchRuns with
    | .ok page => page
    | .error _ => ⟨[], false⟩
  let overview' :=
    if 0 < page.runs.length then { overview with recentRuns := page.runs.map (toRunSummary clock) }
    else overview
  match fetchHomeStats with
  | .error _ => return overview'
  | .ok homeStats =>
    let stats ← toHomeStats homeStats
    let revenueTrend ← toRevenueTrend homeStats.revenueTrend14d overview.revenueTrend
    return { overview' with stats := stats, revenueTrend := revenueTrend }

/-- What the screen shows, apart from the gauges. -/
def HomeOverview.shown (overview : HomeOverview Gauge) :
    List PipelineRunSummary × List HomeStat × RevenueTrend :=
  (overview.recentRuns, overview.stats, overview.revenueTrend)

/-- With these answers to both requests, what is shown does not depend on the mock. -/
def Unmocked (Gauge : Type) (clock : Clock) (page : RunsPage) (homeStats : ApiHomeStats) : Prop :=
  ∀ mock other : HomeOverview Gauge,
    (homeOverview clock mock (.ok page) (.ok homeStats)).map HomeOverview.shown =
    (homeOverview clock other (.ok page) (.ok homeStats)).map HomeOverview.shown

end Overview

section Mock

variable {Gauge : Type} {clock : Clock} {page : RunsPage} {homeStats : ApiHomeStats}

theorem toHomeStats_ok (homeStats : ApiHomeStats) : ∃ stats, toHomeStats homeStats = .ok stats := by
  cases silver : homeStats.silverRowsProcessed with
  | none => exact ⟨_, by rw [toHomeStats, silver]; rfl⟩
  | some rows =>
    obtain ⟨text, counted⟩ := formatCount_number rows
    exact ⟨_, by rw [toHomeStats, silver]; exact bind_eq_ok.mpr ⟨text, counted, rfl⟩⟩

theorem shown_eq (clock : Clock) (page : RunsPage) (homeStats : ApiHomeStats) : ∃ stats trend,
    ∀ mock : HomeOverview Gauge,
    (homeOverview clock mock (.ok page) (.ok homeStats)).map HomeOverview.shown =
      .ok (if 0 < page.runs.length then page.runs.map (toRunSummary clock)
        else mock.recentRuns, stats,
        if homeStats.revenueTrend14d.length < 2 then mock.revenueTrend else trend) := by
  obtain ⟨stats, made⟩ := toHomeStats_ok homeStats
  obtain ⟨total, reported⟩ := toRevenueTrend_eq homeStats.revenueTrend14d
  let trend : RevenueTrend := ⟨revenues homeStats.revenueTrend14d, total,
    changeLabel (changePct (revenues homeStats.revenueTrend14d))⟩
  refine ⟨stats, trend, fun mock => ?_⟩
  simp only [homeOverview, made, reported, bind, Except.bind, pure, Except.pure, Except.map,
    HomeOverview.shown]
  split <;> rfl

def blank : HomeOverview Gauge := ⟨[], ⟨[], "", ""⟩, [], []⟩

def populated : HomeOverview Gauge :=
  ⟨[], ⟨[82, 90], "$412.8K", "▲ 4.2%"⟩, [⟨"months", "months ingested", "40"⟩],
    [⟨"r1", "run_gold", "09:41:02", "41s", .good, none⟩]⟩

theorem runs_of_unmocked (unmocked : Unmocked Gauge clock page homeStats) : page.runs ≠ [] := by
  intro empty
  obtain ⟨stats, trend, shown⟩ := @shown_eq Gauge clock page homeStats
  have same := unmocked blank populated
  rw [shown, shown, empty] at same
  have runs := congrArg Prod.fst (Except.ok.inj same)
  cases runs

theorem days_of_unmocked (unmocked : Unmocked Gauge clock page homeStats) :
    2 ≤ homeStats.revenueTrend14d.length := by
  by_contra enough
  have few : homeStats.revenueTrend14d.length < 2 := by omega
  obtain ⟨stats, trend, shown⟩ := @shown_eq Gauge clock page homeStats
  have same := unmocked blank populated
  simp only [shown, if_pos few] at same
  have labels : "" = "$412.8K" := congrArg (fun shown => shown.2.2.totalLabel) (Except.ok.inj same)
  exact absurd labels (by decide)

/-- Runs are laid over those of the mock if there are any, and a trend if it has two days. -/
theorem unmocked_iff (Gauge : Type) (clock : Clock) (page : RunsPage) (homeStats : ApiHomeStats) :
    Unmocked Gauge clock page homeStats ↔
    page.runs ≠ [] ∧ 2 ≤ homeStats.revenueTrend14d.length := by
  constructor
  · exact fun unmocked => ⟨runs_of_unmocked unmocked, days_of_unmocked unmocked⟩
  · rintro ⟨runs, days⟩ mock other
    obtain ⟨stats, trend, shown⟩ := @shown_eq Gauge clock page homeStats
    have some_ := List.length_pos_iff.mpr runs
    rw [shown, shown, if_pos some_, if_pos some_, if_neg (by omega), if_neg (by omega)]

theorem empty_page_shows_mock : ¬ ∀ clock page homeStats, Unmocked Unit clock page homeStats := by
  intro unmocked
  let clock : Clock := ⟨0, fun _ => none, id⟩
  exact runs_of_unmocked (unmocked clock ⟨[], false⟩ ⟨none, 0, none, [day 10, day 20]⟩) rfl

end Mock

end OpenScale.Home
