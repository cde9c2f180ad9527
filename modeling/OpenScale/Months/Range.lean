import Mathlib.Data.List.Nodup
import OpenScale.Library.Calendar
import OpenScale.Worker.Abandon

/-! The months from one to another, as the control-plane expands them (it adds months to an instant)
and as the worker does (it carries a year and a month). -/

namespace OpenScale.Months

open OpenScale.Library OpenScale.Library.Calendar OpenScale.Worker

-- A `time.Time` is the number of seconds since the start of 1970, in UTC.
namespace Instant

/-- `time.Date`, with the time of day in seconds. A month outside its year is one of another
year. -/
def ofDate (year month day clock : Int) : Int :=
  86400 * (monthStart (12 * year + month - 1) + day - 1) + clock

/-- `t.Date()` -/
def date (t : Int) : Int × Int × Int :=
  let k := monthOf (t / 86400)
  (k / 12, k % 12 + 1, t / 86400 - monthStart k + 1)

def addDate (t : Int) (years months days : Int) : Int :=
  let (year, month, day) := date t
  ofDate (year + years) (month + months) (day + days) (t % 86400)

def appendInt (value : Int) (width : Nat) : List Char :=
  let digits := Nat.toDigits 10 value.natAbs
  (if value < 0 then ['-'] else []) ++ List.replicate (width - digits.length) '0' ++ digits

/-- `t.Format("2006-01")` -/
def format (t : Int) : String :=
  let (year, month, _) := date t
  String.ofList (appendInt year 4 ++ '-' :: appendInt month 2)

theorem addDate_month (t : Int) :
    addDate t 0 1 0 =
    t + 86400 * (monthStart (monthOf (t / 86400) + 1) - monthStart (monthOf (t / 86400))) := by
  simp only [addDate, date, ofDate]
  have same : 12 * (monthOf (t / 86400) / 12 + 0) + (monthOf (t / 86400) % 12 + 1 + 1) - 1 =
      monthOf (t / 86400) + 1 := by omega
  rw [same]
  omega

theorem lt_addDate_month (t : Int) : t < addDate t 0 1 0 := by
  have later := monthStart_lt_succ (monthOf (t / 86400))
  rw [addDate_month]
  omega

end Instant

open Instant

/-- The year and the month of a text that `time.Parse` accepts for the layout `2006-01`: four
digits, a hyphen and two digits, which name a month. -/
def readMonth (value : List Char) : Option (Nat × Nat) :=
  let year := value.take 4
  let month := value.drop 5
  if year.length = 4 ∧ year.all Char.isDigit ∧ value[4]? = some '-' ∧ month.length = 2 ∧
  month.all Char.isDigit ∧
      1 ≤ Python.digitsValue month ∧ Python.digitsValue month ≤ 12 then
    some (Python.digitsValue year, Python.digitsValue month)
  else none

/-- `time.Parse("2006-01", value)` -/
def parse (value : String) : Option Int :=
  (readMonth value.toList).map fun (year, month) => ofDate year month 1 0

def monthsThrough (endT t : Int) : List String :=
  if endT < t then [] else format t :: monthsThrough endT (addDate t 0 1 0)
termination_by (endT + 1 - t).toNat
decreasing_by
  have later := lt_addDate_month t
  omega

def expandMonthRange (start finish : String) : List String :=
  match parse start, parse finish with
  | some startT, some endT => if endT < startT then [] else monthsThrough endT startT
  | _, _ => []

def monthsBetween (k last : Int) : List Int :=
  (List.range (last + 1 - k).toNat).map fun i : Nat => k + (i : Int)

theorem monthsBetween_nil {k last : Int} (over_ : last < k) : monthsBetween k last = [] := by
  have none : (last + 1 - k).toNat = 0 := by omega
  rw [monthsBetween, none]
  rfl

theorem monthsBetween_cons {k last : Int} (inside : k ≤ last) :
    monthsBetween k last = k :: monthsBetween (k + 1) last := by
  have one : (last + 1 - k).toNat = (last + 1 - (k + 1)).toNat + 1 := by omega
  rw [monthsBetween, one, List.range_succ_eq_map, List.map_cons, List.map_map, monthsBetween]
  congr 1
  · exact Int.add_zero k
  · refine List.map_congr_left fun i _ => ?_
    simp only [Function.comp_apply, Nat.succ_eq_add_one, Int.natCast_add]
    omega

def monthTime (k : Int) : Int := 86400 * monthStart k

theorem ofDate_eq (year month : Int) :
    ofDate year month 1 0 = monthTime (12 * year + month - 1) := by
  unfold ofDate monthTime
  omega

theorem monthOf_monthTime (k : Int) : monthOf (monthTime k / 86400) = k := by
  have day : monthTime k / 86400 = monthStart k := Int.mul_ediv_cancel_left _ (by decide)
  rw [day]
  exact monthOf_eq le_rfl (monthStart_lt_succ k)

theorem addDate_monthTime (k : Int) : addDate (monthTime k) 0 1 0 = monthTime (k + 1) := by
  rw [addDate_month, monthOf_monthTime]
  unfold monthTime
  omega

theorem monthTime_lt {k last : Int} : monthTime last < monthTime k ↔ last < k := by
  have order : monthStart last < monthStart k ↔ last < k := monthStart_lt_iff
  unfold monthTime
  omega

theorem monthsThrough_eq (k last : Int) :
    monthsThrough (monthTime last) (monthTime k) = (monthsBetween k last).map fun k =>
      format (monthTime k) := by
  induction n : (last + 1 - k).toNat generalizing k with
  | zero =>
    have over_ : last < k := by omega
    rw [monthsThrough, if_pos (monthTime_lt.mpr over_), monthsBetween_nil over_, List.map_nil]
  | succ n ih =>
    have inside : k ≤ last := by omega
    rw [monthsThrough, if_neg (mt monthTime_lt.mp (by omega)), addDate_monthTime,
      ih (k + 1) (by omega), monthsBetween_cons inside, List.map_cons]

theorem monthsFrom_eq {y m endYear endMonth : Int} (first : 1 ≤ m) (last : m ≤ 12)
    (endFirst : 1 ≤ endMonth) (endLast : endMonth ≤ 12) :
    monthsFrom y m endYear endMonth =
      (monthsBetween (12 * y + m - 1) (12 * endYear + endMonth - 1)).map fun k =>
        (k / 12, k % 12 + 1) := by
  induction n : (12 * endYear + endMonth - (12 * y + m - 1)).toNat generalizing y m with
  | zero =>
    rw [monthsFrom, if_neg (by omega), monthsBetween_nil (by omega), List.map_nil]
  | succ n ih =>
    have year : (12 * y + m - 1) / 12 = y := by omega
    have month : (12 * y + m - 1) % 12 + 1 = m := by omega
    rw [monthsFrom, if_pos (by omega), monthsBetween_cons (by omega), List.map_cons, year, month]
    congr 1
    split
    · rw [ih (by omega) (by omega) (by omega)]
      congr 2
      omega
    · rw [ih (by omega) (by omega) (by omega)]
      congr 2
      omega

section Texts

variable {value : List Char} {year month : Nat}

/-- What `time.Parse` accepts: four digits, a hyphen, two digits. -/
theorem readMonth_spec (read : readMonth value = some (year, month)) :
    ∃ front back : List Char, value = front ++ '-' :: back ∧ (∀ c ∈ front, c.isDigit = true) ∧
      (∀ c ∈ back, c.isDigit = true) ∧ front.length = 4 ∧ back.length = 2 ∧
      Python.digitsValue front = year ∧ Python.digitsValue back = month ∧ 1 ≤ month ∧
      month ≤ 12 := by
  obtain ⟨⟨four, front, hyphen, two, back, first, last⟩, same⟩ :=
    Option.ite_none_right_eq_some.mp read
  obtain ⟨rfl, rfl⟩ := Prod.mk.inj (Option.some.inj same)
  refine ⟨value.take 4, value.drop 5, ?_, List.all_eq_true.mp front, List.all_eq_true.mp back,
    four, two, rfl, rfl, first, last⟩
  obtain ⟨here, found⟩ := List.getElem?_eq_some_iff.mp hyphen
  rw [← found, ← List.drop_eq_getElem_cons here, List.take_append_drop]

theorem unpackPair_of_readMonth (builtins : Python.Builtins)
    (read : readMonth value = some (year, month)) :
    unpackPair builtins (Python.splitOn '-' value) = .ok (year, month) := by
  obtain ⟨front, back, rfl, frontDigits, backDigits, four, two, rfl, rfl, _⟩ := readMonth_spec read
  have apart : ∀ text : List Char, (∀ c ∈ text, c.isDigit = true) → '-' ∉ text := by
    intro text digits member
    exact absurd (digits '-' member) (by decide)
  rw [Python.splitOn_append (apart front frontDigits),
    Python.splitOn_of_notMem (apart back backDigits), unpackPair,
    Python.intOfText_digits builtins (List.ne_nil_of_length_pos (by omega)) (by omega) frontDigits,
    Python.intOfText_digits builtins (List.ne_nil_of_length_pos (by omega)) (by omega) backDigits]
  rfl

theorem parse_of_readMonth {text : String} (read : readMonth text.toList = some (year, month)) :
    parse text = some (monthTime (12 * year + month - 1)) := by
  rw [parse, read, Option.map_some]
  exact congrArg some (ofDate_eq year month)

end Texts

theorem appendInt_eq {value : Int} (natural : 0 ≤ value) (width : Nat) :
    (Python.zeroPadded width value).toList = appendInt value width := by
  have positive : ¬value < 0 := by omega
  simp [Python.zeroPadded, appendInt, positive, Nat.repr]

theorem format_monthTime {k : Int} (natural : 0 ≤ k) :
    format (monthTime k) = periodName (k / 12) (k % 12 + 1) := by
  apply String.toList_injective
  simp only [format, date, monthOf_monthTime, periodName, String.toList_append,
    String.toList_ofList,
    appendInt_eq (show 0 ≤ k / 12 by omega), appendInt_eq (show 0 ≤ k % 12 + 1 by omega)]
  simp

def nextMonth (month : Int × Int) : Int × Int :=
  if month.2 = 12 then (month.1 + 1, 1) else (month.1, month.2 + 1)

/-- From the first month to the last, in steps of one calendar month. -/
structure Runs (months : List (Int × Int)) (first last : Int × Int) : Prop where
  head : months.head? = some first
  ends : months.getLast? = some last
  steps : months.IsChain fun earlier later => later = nextMonth earlier
  distinct : months.Nodup
  count : (months.length : Int) = (last.1 * 12 + last.2) - (first.1 * 12 + first.2) + 1

def monthAt (k : Int) : Int × Int := (k / 12, k % 12 + 1)

theorem monthAt_injective : Function.Injective monthAt := by
  intro k l same
  obtain ⟨year, month⟩ := Prod.mk.inj same
  omega

theorem monthAt_of {y m : Int} (first : 1 ≤ m) (last : m ≤ 12) :
    monthAt (12 * y + m - 1) = (y, m) := by
  unfold monthAt
  congr 1 <;> omega

theorem monthAt_succ (k : Int) : monthAt (k + 1) = nextMonth (monthAt k) := by
  unfold monthAt nextMonth
  dsimp only
  split
  · congr 1 <;> omega
  · congr 1 <;> omega

theorem mem_monthsBetween {k last other : Int} : other ∈ monthsBetween k last ↔
    k ≤ other ∧ other ≤ last := by
  simp only [monthsBetween, List.mem_map, List.mem_range]
  constructor
  · rintro ⟨i, below, rfl⟩
    omega
  · rintro ⟨above, below⟩
    exact ⟨(other - k).toNat, by omega, by omega⟩

theorem runs_monthsBetween {k last : Int} (inside : k ≤ last) :
    Runs ((monthsBetween k last).map monthAt) (monthAt k) (monthAt last) := by
  have length : (monthsBetween k last).length = (last + 1 - k).toNat := by simp [monthsBetween]
  refine ⟨?_, ?_, ?_, ?_, ?_⟩
  · rw [monthsBetween_cons inside]
    rfl
  · have most : (last + 1 - k).toNat = (last - k).toNat + 1 := by omega
    rw [monthsBetween, most, List.range_succ, List.map_append, List.map_append]
    simp only [List.map_cons, List.map_nil, List.getLast?_concat, Option.some.injEq]
    congr 1
    omega
  · induction n : (last + 1 - k).toNat generalizing k with
    | zero => omega
    | succ n ih =>
      by_cases final : k = last
      · rw [monthsBetween_cons inside, monthsBetween_nil (by omega)]
        exact .singleton _
      · have rest := @ih (k + 1) (by omega) (by simp [monthsBetween]) (by omega)
        rw [monthsBetween_cons inside, List.map_cons]
        rw [monthsBetween_cons (by omega : k + 1 ≤ last), List.map_cons] at rest ⊢
        exact .cons_cons (monthAt_succ k) rest
  · refine List.Nodup.map monthAt_injective ?_
    exact List.Nodup.map (fun i j same => by omega) List.nodup_range
  · rw [List.length_map, length]
    simp only [monthAt]
    omega

section Agreement

variable {start finish : String} {startYear startMonth endYear endMonth : Nat}

theorem expandMonthRange_of_readMonth
    (startRead : readMonth start.toList = some (startYear, startMonth))
    (endRead : readMonth finish.toList = some (endYear, endMonth)) :
    expandMonthRange start finish =
      (monthsBetween (12 * startYear + startMonth - 1) (12 * endYear + endMonth - 1)).map fun k =>
        format (monthTime k) := by
  simp only [expandMonthRange, parse_of_readMonth startRead, parse_of_readMonth endRead,
    ← monthsThrough_eq]
  split
  · rename_i before
    rw [monthsThrough, if_pos before]
  · rfl

theorem monthRange_of_readMonth (builtins : Python.Builtins)
    (startRead : readMonth start.toList = some (startYear, startMonth))
    (endRead : readMonth finish.toList = some (endYear, endMonth)) :
    monthRange builtins (.string start) (.string finish) =
      .ok
        ((monthsBetween (12 * startYear + startMonth - 1) (12 * endYear + endMonth - 1)).map
          monthAt) := by
  obtain ⟨_, _, _, _, _, _, _, _, _, first, last⟩ := readMonth_spec startRead
  obtain ⟨_, _, _, _, _, _, _, _, _, endFirst, endLast⟩ := readMonth_spec endRead
  simp only [monthRange, Python.split, bind, Except.bind,
    unpackPair_of_readMonth builtins startRead,
    unpackPair_of_readMonth builtins endRead, pure, Except.pure]
  rw [monthsFrom_eq (by omega) (by omega) (by omega) (by omega)]
  rfl

/-- On texts that `time.Parse` accepts, the worker's range ends, and it is that of the
control-plane: every month from the first to the last, and none when the last comes before the
first. -/
theorem monthRange_eq_expandMonthRange (builtins : Python.Builtins) (start finish : String)
    (startYear startMonth endYear endMonth : Nat)
    (startRead : readMonth start.toList = some (startYear, startMonth))
    (endRead : readMonth finish.toList = some (endYear, endMonth)) :
    ∃ months startT endT, parse start = some startT ∧ parse finish = some endT ∧
      monthRange builtins (.string start) (.string finish) = .ok months ∧
      (months.map fun month => periodName month.1 month.2) = expandMonthRange start finish ∧
      (months = [] ↔ endT < startT) ∧
      (¬endT < startT → Runs months (startYear, startMonth) (endYear, endMonth)) := by
  obtain ⟨_, _, _, _, _, _, _, _, _, first, last⟩ := readMonth_spec startRead
  obtain ⟨_, _, _, _, _, _, _, _, _, endFirst, endLast⟩ := readMonth_spec endRead
  have firstMonth := @monthAt_of startYear startMonth (by omega) (by omega)
  have lastMonth := @monthAt_of endYear endMonth (by omega) (by omega)
  have natural : (0 : Int) ≤ 12 * startYear + startMonth - 1 := by omega
  have worker := monthRange_of_readMonth builtins startRead endRead
  have expanded := expandMonthRange_of_readMonth startRead endRead
  have begins := parse_of_readMonth startRead
  have finishes := parse_of_readMonth endRead
  rw [← firstMonth, ← lastMonth]
  generalize 12 * (startYear : Int) + startMonth - 1 = k at *
  generalize 12 * (endYear : Int) + endMonth - 1 = final at *
  refine ⟨_, _, _, begins, finishes, worker, ?_, ?_, ?_⟩
  · rw [expanded, List.map_map]
    refine List.map_congr_left fun other member => ?_
    have above := (mem_monthsBetween.mp member).1
    exact (format_monthTime (natural.trans above)).symm
  · rw [monthTime_lt, List.map_eq_nil_iff]
    constructor
    · intro none
      by_contra inside
      rw [monthsBetween_cons (by omega)] at none
      cases none
    · exact monthsBetween_nil
  · intro inside
    exact runs_monthsBetween (by rw [monthTime_lt] at inside; omega)

theorem monthRange_eq_expandMonthRange_winter :
    ∃ months startT endT, parse "2023-11" = some startT ∧ parse "2024-02" = some endT ∧
      monthRange emptyLake.builtins (.string "2023-11") (.string "2024-02") = .ok months ∧
      (months.map fun month => periodName month.1 month.2) = expandMonthRange "2023-11" "2024-02" ∧
      ¬endT < startT ∧ Runs months (2023, 11) (2024, 2) := by
  obtain ⟨months, startT, endT, begins, finishes, worker, same, none_, runs⟩ :=
    monthRange_eq_expandMonthRange emptyLake.builtins "2023-11" "2024-02" 2023 11 2024 2
      (by decide) (by decide)
  have expanded :=
    @expandMonthRange_of_readMonth "2023-11" "2024-02" 2023 11 2024 2 (by decide) (by decide)
  have later : ¬endT < startT := by
    intro earlier
    rw [none_.mpr earlier, expanded] at same
    exact absurd same (by decide)
  exact ⟨months, startT, endT, begins, finishes, worker, same, later, runs later⟩

end Agreement

end OpenScale.Months
