import Mathlib.Algebra.Order.Ring.Int
import Mathlib.Order.SuccPred.Basic
import Mathlib.Order.Monotone.Basic

/-! The proleptic Gregorian calendar: days, years and hours, counted from the start of
1970, and months, counted from that of year 0. Division of integers rounds down here. -/

namespace OpenScale.Library.Calendar

def firstDay (year : Int) : Int :=
  365 * (year - 1970) + (year - 1) / 4 - (year - 1) / 100 + (year - 1) / 400 - 477

/-- The year of a day: 400 years have 146097 days, so a first guess is at most one off. -/
def yearOf (day : Int) : Int :=
  let year := 1970 + day * 400 / 146097
  if day < firstDay year then year - 1 else if firstDay (year + 1) ≤ day then year + 1 else year

def dayOf (time : Int) : Int := time / 86400000000

def hourOf (time : Int) : Int := time / 3600000000 % 24

theorem yearOf_spec (day : Int) :
    firstDay (yearOf day) ≤ day ∧ day < firstDay (yearOf day + 1) := by
  unfold yearOf
  generalize guess : 1970 + day * 400 / 146097 = year
  dsimp only
  split
  · rename_i late
    rw [Int.sub_add_cancel]
    refine ⟨?_, late⟩
    unfold firstDay at late ⊢
    omega
  · rename_i begun
    split
    · rename_i over_
      refine ⟨over_, ?_⟩
      unfold firstDay at over_ ⊢
      omega
    · rename_i inside
      exact ⟨Int.not_lt.mp begun, Int.not_le.mp inside⟩

def isLeap (year : Int) : Bool := year % 4 = 0 && (year % 100 ≠ 0 || year % 400 = 0)

/-- The days of a year before one of its months; those before month 13 are all of them. -/
def daysBefore (year month : Int) : Int :=
  (367 * month - 362) / 12 - (if month ≤ 2 then 0 else if isLeap year then 1 else 2)

/-- The first day of a month, by its number: month `k % 12 + 1` of year `k / 12`. -/
def monthStart (k : Int) : Int := firstDay (k / 12) + daysBefore (k / 12) (k % 12 + 1)

def monthOf (day : Int) : Int :=
  let year := yearOf day
  let prior := day - firstDay year
  let correction := if prior < daysBefore year 3 then 0 else if isLeap year then 1 else 2
  12 * year + (12 * (prior + correction) + 373) / 367 - 1

theorem firstDay_succ (year : Int) : firstDay (year + 1) = firstDay year + daysBefore year 13 := by
  unfold firstDay daysBefore isLeap
  split
  · omega
  · split
    · rename_i leap
      simp only [Bool.and_eq_true, Bool.or_eq_true, decide_eq_true_eq] at leap
      omega
    · rename_i common
      simp only [Bool.and_eq_true, Bool.or_eq_true, decide_eq_true_eq] at common
      omega

theorem daysBefore_lt_succ {year month : Int} (first : 1 ≤ month) (last : month ≤ 12) :
    daysBefore year month < daysBefore year (month + 1) := by
  unfold daysBefore
  cases isLeap year <;> simp only [if_true, Bool.false_eq_true, if_false] <;>
    split <;> split <;> omega

/-- The month after one is the next of its year, which after December begins the next year. -/
theorem monthStart_succ (k : Int) :
    monthStart (k + 1) = firstDay (k / 12) + daysBefore (k / 12) (k % 12 + 1 + 1) := by
  unfold monthStart
  by_cases december : k % 12 = 11
  · have year : (k + 1) / 12 = k / 12 + 1 := by omega
    have january : (k + 1) % 12 = 0 := by omega
    have none : daysBefore (k / 12 + 1) (0 + 1) = 0 := rfl
    rw [year, january, firstDay_succ, none, december]
    exact Int.add_zero _
  · have year : (k + 1) / 12 = k / 12 := by omega
    have month : (k + 1) % 12 = k % 12 + 1 := by omega
    rw [year, month]

theorem monthStart_lt_succ (k : Int) : monthStart k < monthStart (k + 1) := by
  have below := @daysBefore_lt_succ (k / 12) (k % 12 + 1) (by omega) (by omega)
  rw [monthStart_succ, monthStart]
  omega

theorem monthStart_lt_iff {k l : Int} : monthStart k < monthStart l ↔ k < l :=
  (strictMono_int_of_lt_succ monthStart_lt_succ).lt_iff_lt

theorem month_spec {year prior : Int} (begun : 0 ≤ prior)
    (unfinished : prior < daysBefore year 13) :
    let correction := if prior < daysBefore year 3 then 0 else if isLeap year then 1 else 2
    let month := (12 * (prior + correction) + 373) / 367
    1 ≤ month ∧ month ≤ 12 ∧ daysBefore year month ≤ prior ∧
    prior < daysBefore year (month + 1) := by
  have last : daysBefore year 13 = if isLeap year then 366 else 365 := by
    unfold daysBefore
    cases isLeap year <;> rfl
  have march : daysBefore year 3 = if isLeap year then 60 else 59 := by
    unfold daysBefore
    cases isLeap year <;> rfl
  rw [last] at unfinished
  rw [march]
  unfold daysBefore
  cases leap : isLeap year <;>
    simp only [leap, if_true, Bool.false_eq_true, if_false] at unfinished ⊢
  all_goals
    split
    · refine ⟨by omega, by omega, ?_, ?_⟩ <;> split <;> omega
    · refine ⟨by omega, by omega, ?_, ?_⟩ <;> split <;> omega

theorem monthOf_spec (day : Int) :
    monthStart (monthOf day) ≤ day ∧ day < monthStart (monthOf day + 1) := by
  obtain ⟨begun, unfinished⟩ := yearOf_spec day
  rw [firstDay_succ] at unfinished
  obtain ⟨first, last, start, stop⟩ :=
    @month_spec (yearOf day) (day - firstDay (yearOf day)) (by omega) (by omega)
  unfold monthOf
  dsimp only
  generalize (12 * (day - firstDay (yearOf day) + _) + 373) / 367 = month at *
  have year : (12 * yearOf day + month - 1) / 12 = yearOf day := by omega
  have rest : (12 * yearOf day + month - 1) % 12 + 1 = month := by omega
  rw [monthStart_succ, monthStart, year, rest]
  omega

theorem monthOf_eq {day k : Int} (begun : monthStart k ≤ day)
    (unfinished : day < monthStart (k + 1)) : monthOf day = k := by
  obtain ⟨start, stop⟩ := monthOf_spec day
  have later := monthStart_lt_iff.mp (start.trans_lt unfinished)
  have earlier := monthStart_lt_iff.mp (begun.trans_lt stop)
  omega

end OpenScale.Library.Calendar
