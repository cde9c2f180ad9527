import Mathlib.Algebra.Order.BigOperators.Group.List
import Mathlib.Tactic.Linarith
import Mathlib.Tactic.Positivity
import Mathlib.Tactic.Ring
import OpenScale.Dashboards.Missing

/-! The revenue trend of the home screen: the last days that `HomeStats` sends, and what
`toRevenueTrend` says of their two halves. Numbers are exact. -/

namespace OpenScale.Home

open OpenScale.Library OpenScale.Dashboards

section Trend

def revenueTrend14d (dailyRevenue : List DailyRevenuePoint) : List DailyRevenuePoint :=
  if 14 < dailyRevenue.length then dailyRevenue.drop (dailyRevenue.length - 14) else dailyRevenue

structure RevenueTrend where
  values : List Rat
  totalLabel : String
  changeLabel : String

def mid (values : List Rat) : Nat := values.length / 2

def firstHalf (values : List Rat) : List Rat := values.take (mid values)

def secondHalf (values : List Rat) : List Rat := values.drop (mid values)

def changePct (values : List Rat) : Rat :=
  if (firstHalf values).sum ≠ 0 then
    ((secondHalf values).sum - (firstHalf values).sum) / (firstHalf values).sum * 100
  else 0

def changeLabel (changePct : Rat) : String :=
  (if 0 ≤ changePct then "▲" else "▼") ++ " " ++ fixed 1 |changePct| ++ "%"

/-- A day without a figure counts as one without revenue. -/
def revenues (points : List DailyRevenuePoint) : List Rat :=
  points.map fun point => (JsNumber.ofNullable point.totalRevenue).orElse 0

def toRevenueTrend (points : List DailyRevenuePoint) (fallback : RevenueTrend) :
    Except JsError RevenueTrend :=
  let values := revenues points
  if values.length < 2 then .ok fallback
  else do
    let totalLabel ← formatCurrency (.number values.sum)
    return ⟨values, totalLabel, changeLabel (changePct values)⟩

end Trend

section Direction

def mean (days : List Rat) : Rat := days.sum / days.length

/-- The change goes the way of the daily means. -/
structure RightWay (values : List Rat) : Prop where
  up : 0 < changePct values ↔ mean (firstHalf values) < mean (secondHalf values)
  level : changePct values = 0 ↔ mean (secondHalf values) = mean (firstHalf values)
  down : changePct values < 0 ↔ mean (secondHalf values) < mean (firstHalf values)

variable {values : List Rat}

theorem length_firstHalf (values : List Rat) : (firstHalf values).length = values.length / 2 := by
  rw [firstHalf, mid, List.length_take]
  omega

theorem length_secondHalf (values : List Rat) :
    (secondHalf values).length = (values.length + 1) / 2 := by
  rw [secondHalf, mid, List.length_drop]
  omega

/-- The percentage has the sign of the difference of the sums. -/
theorem changePct_sign (earned : 0 < (firstHalf values).sum) :
    (0 < changePct values ↔ (firstHalf values).sum < (secondHalf values).sum) ∧
      (changePct values = 0 ↔ (secondHalf values).sum = (firstHalf values).sum) ∧
        (changePct values < 0 ↔ (secondHalf values).sum < (firstHalf values).sum) := by
  have change : changePct values =
      ((secondHalf values).sum - (firstHalf values).sum) * (100 / (firstHalf values).sum) := by
    rw [changePct, if_pos earned.ne']
    ring
  have scale : 0 < 100 / (firstHalf values).sum := by positivity
  rw [change]
  refine ⟨?_, ?_, ?_⟩
  · rw [mul_pos_iff_of_pos_right scale, sub_pos]
  · rw [mul_eq_zero_iff_right scale.ne', sub_eq_zero]
  · rw [← neg_pos, ← neg_mul, mul_pos_iff_of_pos_right scale, neg_sub, sub_pos]

/-- The means compare as the sums do when each is taken as often as the other half has days. -/
theorem mean_lt_mean {days others : List Rat} (some_ : 0 < days.length) (also : 0 < others.length) :
    mean days < mean others ↔ (others.length : Rat) * days.sum < days.length * others.sum := by
  have positive : (0 : Rat) < days.length := Nat.cast_pos.mpr some_
  have alsoPositive : (0 : Rat) < others.length := Nat.cast_pos.mpr also
  rw [mean, mean, div_lt_div_iff₀ positive alsoPositive, mul_comm days.sum, mul_comm others.sum]

/-- The halves compared with the earlier one's sum taken once more if the days are odd in number. -/
theorem rightWay_iff_sums (two : 2 ≤ values.length) (earned : 0 < (firstHalf values).sum) :
    RightWay values ↔
      ((firstHalf values).sum < (secondHalf values).sum ↔
        (secondHalf values).length * (firstHalf values).sum < (firstHalf values).length *
        (secondHalf values).sum) ∧ ((secondHalf values).sum < (firstHalf values).sum ↔
        (firstHalf values).length * (secondHalf values).sum < (secondHalf values).length *
        (firstHalf values).sum) := by
  have early : 0 < (firstHalf values).length := by
    rw [length_firstHalf]
    omega
  have late : 0 < (secondHalf values).length := by
    rw [length_secondHalf]
    omega
  obtain ⟨up, level, down⟩ := changePct_sign earned
  rw [← up, ← down, ← mean_lt_mean early late, ← mean_lt_mean late early]
  constructor
  · exact fun right => ⟨right.up, right.down⟩
  · rintro ⟨rises, falls⟩
    refine ⟨rises, ?_, falls⟩
    -- what neither rises nor falls is level
    rw [le_antisymm_iff, ← not_lt, ← not_lt, rises, falls, not_lt, not_lt, ← le_antisymm_iff]

/-- With a day more in the later half the sums go the way of the means only if they fall, or if the
means rise. -/
theorem rightWay_iff (two : 2 ≤ values.length) (earned : 0 < (firstHalf values).sum) :
    RightWay values ↔ Even values.length ∨ (secondHalf values).sum < (firstHalf values).sum ∨
      (secondHalf values).length * (firstHalf values).sum < (firstHalf values).length *
      (secondHalf values).sum := by
  rw [rightWay_iff_sums two earned]
  have positive : (0 : Rat) < (firstHalf values).length := by
    rw [length_firstHalf, Nat.cast_pos]
    omega
  rcases Nat.even_or_odd values.length with even | odd
  · have same : ((secondHalf values).length : Rat) = (firstHalf values).length := by
      rw [length_firstHalf, length_secondHalf, Nat.cast_inj]
      obtain ⟨half, halves⟩ := even
      omega
    rw [same, mul_lt_mul_iff_right₀ positive, mul_lt_mul_iff_right₀ positive]
    exact iff_of_true ⟨Iff.rfl, Iff.rfl⟩ (.inl even)
  · have longer : ((secondHalf values).length : Rat) = (firstHalf values).length + 1 := by
      rw [length_firstHalf, length_secondHalf, ← Nat.cast_add_one, Nat.cast_inj]
      obtain ⟨half, halves⟩ := odd
      omega
    rw [longer, or_iff_right (Nat.not_even_iff_odd.mpr odd), add_one_mul]
    constructor
    · rintro ⟨rises, falls⟩
      by_contra neither
      obtain ⟨notLess, notMore⟩ := not_or.mp neither
      -- then the sums are level as the means are, which the additional day rules out
      have level : (secondHalf values).sum = (firstHalf values).sum :=
        le_antisymm (not_lt.mp fun more => notMore (rises.mp more)) (not_lt.mp notLess)
      have balanced := not_lt.mp fun fewer => notLess (falls.mpr fewer)
      rw [level] at balanced
      linarith
    · rintro (less | more)
      · have scaled := mul_lt_mul_of_pos_left less positive
        exact ⟨iff_of_false (by linarith) (by linarith), iff_of_true less (by linarith)⟩
      · have rises : (firstHalf values).sum < (secondHalf values).sum := by
          by_contra falls
          have scaled := mul_le_mul_of_nonneg_left (not_lt.mp falls) positive.le
          linarith
        exact ⟨iff_of_true rises more, iff_of_false (by linarith) (by linarith)⟩

end Direction

section Label

variable {points : List DailyRevenuePoint}

theorem toRevenueTrend_eq (points : List DailyRevenuePoint) : ∃ totalLabel, ∀ fallback,
    toRevenueTrend points fallback = .ok (if points.length < 2 then fallback else
      ⟨revenues points, totalLabel, changeLabel (changePct (revenues points))⟩) := by
  obtain ⟨text, total, _⟩ := fragile_currency.number (revenues points).sum
  refine ⟨text, fun fallback => ?_⟩
  have days : (revenues points).length = points.length := List.length_map _
  rw [toRevenueTrend, days]
  by_cases few : points.length < 2
  · rw [if_pos few, if_pos few]
  · rw [if_neg few, if_neg few]
    exact bind_eq_ok.mpr ⟨text, total, rfl⟩

theorem toRevenueTrend_changeLabel (two : 2 ≤ points.length) (fallback : RevenueTrend) :
    ∃ trend, toRevenueTrend points fallback = .ok trend ∧
      trend.changeLabel = changeLabel (changePct (revenues points)) := by
  obtain ⟨totalLabel, reported⟩ := toRevenueTrend_eq points
  exact ⟨_, (reported fallback).trans (by rw [if_neg (by omega)]), rfl⟩

/-- Once there are two weeks of days, the window has halves of the same length. -/
theorem rightWay_of_full {dailyRevenue : List DailyRevenuePoint} (full : 14 ≤ dailyRevenue.length)
    (earned : 0 < (firstHalf (revenues (revenueTrend14d dailyRevenue))).sum) :
    RightWay (revenues (revenueTrend14d dailyRevenue)) := by
  have days : (revenues (revenueTrend14d dailyRevenue)).length = 14 := by
    rw [revenues, List.length_map, revenueTrend14d]
    split
    · rw [List.length_drop]
      omega
    · omega
  exact (rightWay_iff (by omega) earned).mpr (.inl (by rw [days]; decide))

/-- The arrow is that of the change, and points the right way if the days are even in number. -/
theorem trend_rightWay_iff (points : List DailyRevenuePoint) (two : 2 ≤ points.length)
    (earned : 0 < (firstHalf (revenues points)).sum) :
    (∀ fallback, ∃ trend, toRevenueTrend points fallback = .ok trend ∧
      trend.changeLabel = changeLabel (changePct (revenues points))) ∧
    (RightWay (revenues points) ↔
      Even points.length ∨ (secondHalf (revenues points)).sum < (firstHalf (revenues points)).sum ∨
        (secondHalf (revenues points)).length * (firstHalf (revenues points)).sum <
          (firstHalf (revenues points)).length * (secondHalf (revenues points)).sum) := by
  refine ⟨toRevenueTrend_changeLabel two, ?_⟩
  have days : (revenues points).length = points.length := List.length_map _
  rw [rightWay_iff (days ▸ two) earned, days]

def day (revenue : Rat) : DailyRevenuePoint := ⟨1, some revenue, none⟩

theorem trend_rightWay_iff_rising : RightWay (revenues [day 10, day 30, day 40]) :=
  (trend_rightWay_iff [day 10, day 30, day 40] (by decide) (by decide +kernel)).2.mpr
    (.inr (.inr (by decide +kernel)))

theorem constant_trend_rises : ¬ ∀ points, 2 ≤ points.length →
    0 < (firstHalf (revenues points)).sum → RightWay (revenues points) := by
  intro right
  have level := (right [day 10, day 10, day 10] (by decide) (by decide +kernel)).level
  exact absurd (level.mpr (by decide +kernel)) (by decide +kernel)

end Label

end OpenScale.Home
