import OpenScale.Lake.Gold
import OpenScale.Lake.Rules

/-! The aggregates agree with Silver and with each other. Their keys and dates are in order
because of what the validator lets through. -/

namespace OpenScale.Lake

open OpenScale.Library

section Silver

variable {bronze : Bronze} {trip : SilverTrip}

/-- A row of Silver has a pickup time, and a flag that says whether its year is that of its
month. -/
theorem mem_silverTrips (member : trip ∈ bronze.silverTrips) : ∃ month ∈ bronze.months, ∃ pickup,
    trip.tpepPickupDatetime = some pickup ∧
      (trip.flagPickupYearMismatch = false →
        Calendar.yearOf (Calendar.dayOf pickup) = month.1.1) := by
  obtain ⟨month, processed, inside⟩ := List.mem_flatMap.mp member
  obtain ⟨row, kept, rfl⟩ := List.mem_map.mp inside
  rw [kept_eq] at kept
  have clean : row.tpepPickupDatetime.isNone = false :=
    (firstCategory_eq_none_iff row).mp (mem_fiber.mp kept).2 .slv001
  obtain ⟨pickup, known⟩ : ∃ pickup, row.tpepPickupDatetime = some pickup := by
    cases known : row.tpepPickupDatetime with
    | none => simp [known] at clean
    | some pickup => exact ⟨pickup, rfl⟩
  refine ⟨month, processed, pickup, known, ?_⟩
  intro agrees
  have year : row.tpepPickupDatetime.year = some month.1.1 := by simpa [flag] using agrees
  rw [known] at year
  exact Option.some.inj year

theorem pickupHour_ne_none (member : trip ∈ bronze.silverTrips) : pickupHour trip ≠ none := by
  obtain ⟨_, _, pickup, known, _⟩ := mem_silverTrips member
  simp [pickupHour, known]

theorem pickupDate_ne_none (member : trip ∈ bronze.silverTrips) : pickupDate trip ≠ none := by
  obtain ⟨_, _, pickup, known, _⟩ := mem_silverTrips member
  simp [pickupDate, known]

end Silver

section Counts

variable (spark : Spark) (df : List SilverTrip)

theorem listed_perm {Key Row : Type} [DecidableEq Key] {key : SilverTrip → Key}
    {make : Key × List SilverTrip → Row}
    {order : Row → Row → Bool} {rowKey : Row → Key} {count : Row → Nat}
    (made : ∀ group, (rowKey (make group), count (make group)) = (group.1, group.2.length)) :
    ((List.mergeSort ((groupBy key df).map make) order).map fun row => (rowKey row, count row)).Perm
        (countBy key df) := by
  refine ((List.mergeSort_perm _ _).map _).trans ?_
  rw [List.map_map, countBy]
  exact .of_eq (List.map_congr_left fun group _ => made group)

theorem hourlyDemand_perm :
    ((HourlyDemand.build spark df).map fun row => (row.pickupHour, row.tripCount)).Perm
        (countBy pickupHour df) :=
  listed_perm df fun _ => rfl

theorem zoneStats_perm :
    ((ZoneStats.build spark df).map fun row => (row.puLocationId, row.tripCount)).Perm
        (countBy pickupZone df) :=
  listed_perm df fun _ => rfl

theorem dailyRevenue_perm : ((DailyRevenue.build spark df).map fun row =>
    (row.pickupDate, row.tripCount)).Perm
    (countBy pickupDate (inYear df)) :=
  listed_perm (inYear df) fun _ => rfl

theorem congestionMetrics_perm :
    ((CongestionMetrics.build spark df).map fun row => (row.pickupDate, row.tripCount)).Perm
      (countBy pickupDate (inYear df)) :=
  listed_perm (inYear df) fun _ => rfl

theorem features_eq : ((buildFeatures spark df).map fun row =>
    ((row.puLocationId, row.pickupHour), row.tripCount)) =
    countBy (fun trip => (pickupZone trip, pickupHour trip)) df := by
  rw [buildFeatures, List.map_map]
  rfl

/-- The features summed over zones count the rows by hour. -/
theorem sumBy_pickupHour : (sumBy ZoneHourFeatures.pickupHour ZoneHourFeatures.tripCount
    (buildFeatures spark df)).Perm
    (countBy pickupHour df) := by
  have summed := countBy_perm_sumBy (fun trip => (pickupZone trip, pickupHour trip)) Prod.snd df
  rw [← features_eq spark, sumBy_map] at summed
  exact summed.symm

/-- The features summed over hours count the rows by zone. -/
theorem sumBy_puLocationId : (sumBy ZoneHourFeatures.puLocationId ZoneHourFeatures.tripCount
    (buildFeatures spark df)).Perm
    (countBy pickupZone df) := by
  have summed := countBy_perm_sumBy (fun trip => (pickupZone trip, pickupHour trip)) Prod.fst df
  rw [← features_eq spark, sumBy_map] at summed
  exact summed.symm

end Counts

section Listed

variable {df : List SilverTrip} {Key Row : Type} [DecidableEq Key] {key : SilverTrip → Key}
    {rows : List Row} {row : Row}
variable {rowKey : Row → Key} {count : Row → Nat}

theorem exists_trip (counts : (rows.map fun row => (rowKey row, count row)).Perm (countBy key df))
    (member : row ∈ rows) :
    ∃ trip ∈ df, key trip = rowKey row := by
  have counted : (rowKey row, count row) ∈ countBy key df :=
    counts.mem_iff.mp (List.mem_map_of_mem member)
  exact List.mem_map.mp (mem_countBy.mp counted).1

theorem sum_of_perm (counts : (rows.map fun row => (rowKey row, count row)).Perm (countBy key df)) :
    (rows.map count).sum = df.length := by
  rw [← sum_countBy_all key df, ← (counts.map Prod.snd).sum_eq, List.map_map]
  rfl

end Listed

section Percent

theorem congestionTripPct_mem {part whole : Nat} (le : part ≤ whole) (positive : 0 < whole) :
    ∃ pct, congestionTripPct part whole = some (exact pct) ∧ 0 ≤ pct ∧ pct ≤ 100 := by
  refine ⟨toDouble (toDouble (toDouble part / toDouble whole) * 100), if_neg positive.ne', ?_⟩
  have none_ : (0 : ℚ) ∈ binary64.representable := by
    exact_mod_cast isDouble_int (n := 0) (by decide)
  have one : (1 : ℚ) ∈ binary64.representable := by exact_mod_cast isDouble_int (n := 1) (by decide)
  have hundred : (100 : ℚ) ∈ binary64.representable := by
    exact_mod_cast isDouble_int (n := 100) (by decide)
  exact binary64.percent_mem none_ one hundred (Nat.cast_nonneg part) (Nat.cast_le.mpr le)

theorem mem_congestionMetrics {spark : Spark} {df : List SilverTrip} {row : CongestionMetrics}
    (member : row ∈ CongestionMetrics.build spark df) : row.tripsWithCongestion ≤ row.tripCount ∧
      0 < row.tripCount ∧
      row.congestionTripPct = congestionTripPct row.tripsWithCongestion row.tripCount := by
  obtain ⟨group, inside, rfl⟩ := List.mem_map.mp ((List.mergeSort_perm _ _).mem_iff.mp member)
  exact ⟨List.countP_le_length, group_nonempty inside, rfl⟩

end Percent

structure Reconciled (spark : Spark) (bronze : Bronze) : Prop where
  hours : ∀ row ∈ HourlyDemand.build spark bronze.silverTrips, row.pickupHour ≠ none
  zones : ∀ row ∈ ZoneStats.build spark bronze.silverTrips, row.puLocationId ≠ none
  dates : ∀ row ∈ DailyRevenue.build spark bronze.silverTrips, row.pickupDate ≠ none
  congestionDates : ∀ row ∈ CongestionMetrics.build spark bronze.silverTrips, row.pickupDate ≠ none
  featureKeys : ∀ row ∈ buildFeatures spark bronze.silverTrips, row.puLocationId ≠ none ∧
    row.pickupHour ≠ none
  hourlyTotal : ((HourlyDemand.build spark bronze.silverTrips).map HourlyDemand.tripCount).sum =
    bronze.silverTrips.length
  zoneTotal : ((ZoneStats.build spark bronze.silverTrips).map ZoneStats.tripCount).sum =
    bronze.silverTrips.length
  featureTotal : ((buildFeatures spark bronze.silverTrips).map ZoneHourFeatures.tripCount).sum =
    bronze.silverTrips.length
  /-- Summing the features over zones. -/
  perHour : (sumBy ZoneHourFeatures.pickupHour ZoneHourFeatures.tripCount
    (buildFeatures spark bronze.silverTrips)).Perm
    ((HourlyDemand.build spark bronze.silverTrips).map fun row => (row.pickupHour, row.tripCount))
  /-- Summing the features over hours. -/
  perZone : (sumBy ZoneHourFeatures.puLocationId ZoneHourFeatures.tripCount
    (buildFeatures spark bronze.silverTrips)).Perm
    ((ZoneStats.build spark bronze.silverTrips).map fun row => (row.puLocationId, row.tripCount))
  perDate : ((DailyRevenue.build spark bronze.silverTrips).map fun row =>
    (row.pickupDate, row.tripCount)).Perm
    ((CongestionMetrics.build spark bronze.silverTrips).map fun row =>
      (row.pickupDate, row.tripCount))
  dailyTotal : ((DailyRevenue.build spark bronze.silverTrips).map DailyRevenue.tripCount).sum =
    bronze.silverTrips.countP fun trip => !trip.flagPickupYearMismatch
  reportingYear : ∀ row ∈ DailyRevenue.build spark bronze.silverTrips,
    ∃ month ∈ bronze.months, ∃ day,
    row.pickupDate = some day ∧ Calendar.firstDay month.1.1 ≤ day ∧
    day < Calendar.firstDay (month.1.1 + 1)
  congestion : ∀ row ∈ CongestionMetrics.build spark bronze.silverTrips,
    row.tripsWithCongestion ≤ row.tripCount ∧ 0 < row.tripCount ∧
      ∃ pct, row.congestionTripPct = some (exact pct) ∧ 0 ≤ pct ∧ pct ≤ 100

/-- Gold and the features conserve the rows of Silver and agree with each other. -/
theorem aggregates_reconcile (spark : Spark) (bronze : Bronze) : Reconciled spark bronze where
  hours := by
    intro row member
    obtain ⟨trip, inside, same⟩ := exists_trip (hourlyDemand_perm spark _) member
    exact same ▸ pickupHour_ne_none inside
  zones := by
    intro row member
    obtain ⟨trip, _, same⟩ := exists_trip (zoneStats_perm spark _) member
    exact same ▸ Option.some_ne_none trip.puLocationId
  dates := by
    intro row member
    obtain ⟨trip, inside, same⟩ := exists_trip (dailyRevenue_perm spark _) member
    exact same ▸ pickupDate_ne_none (List.mem_filter.mp inside).1
  congestionDates := by
    intro row member
    obtain ⟨trip, inside, same⟩ := exists_trip (congestionMetrics_perm spark _) member
    exact same ▸ pickupDate_ne_none (List.mem_filter.mp inside).1
  featureKeys := by
    intro row member
    obtain ⟨trip, inside, same⟩ := exists_trip (.of_eq (features_eq spark _)) member
    obtain ⟨zone, hour⟩ := Prod.mk.inj same
    exact ⟨zone ▸ Option.some_ne_none trip.puLocationId, hour ▸ pickupHour_ne_none inside⟩
  hourlyTotal := sum_of_perm (hourlyDemand_perm spark _)
  zoneTotal := sum_of_perm (zoneStats_perm spark _)
  featureTotal := sum_of_perm (.of_eq (features_eq spark _))
  perHour := (sumBy_pickupHour spark _).trans (hourlyDemand_perm spark _).symm
  perZone := (sumBy_puLocationId spark _).trans (zoneStats_perm spark _).symm
  perDate := (dailyRevenue_perm spark _).trans (congestionMetrics_perm spark _).symm
  dailyTotal := by
    rw [sum_of_perm (dailyRevenue_perm spark _), inYear, List.countP_eq_length_filter]
  reportingYear := by
    intro row member
    obtain ⟨trip, inside, same⟩ := exists_trip (dailyRevenue_perm spark _) member
    obtain ⟨stored, agrees⟩ := List.mem_filter.mp inside
    obtain ⟨month, processed, pickup, known, year⟩ := mem_silverTrips stored
    refine ⟨month, processed, Calendar.dayOf pickup, ?_, ?_⟩
    · rw [← same, pickupDate, known]
      rfl
    · rw [← year (by simpa using agrees)]
      exact Calendar.yearOf_spec _
  congestion := by
    intro row member
    obtain ⟨le, positive, share⟩ := mem_congestionMetrics member
    exact ⟨le, positive, share ▸ congestionTripPct_mem le positive⟩

end OpenScale.Lake
