import OpenScale.Lake.Trips
import OpenScale.Library.Grouping
import OpenScale.Worker.Services

/-! `process_period`: one Bronze month becomes the trips of Silver, five quarantine files
and a report. -/

namespace OpenScale.Lake

open OpenScale.Library

section Masks

variable (trip : Trip)

/-- `dropoff <= pickup`, which is false where one is missing. -/
def dropoffAtMostPickup : Bool :=
  match trip.tpepDropoffDatetime, trip.tpepPickupDatetime with
  | some dropoff, some pickup => dropoff ≤ pickup
  | _, _ => false

def invalidTimestamp : Bool :=
  trip.tpepPickupDatetime.isNone || trip.tpepDropoffDatetime.isNone || dropoffAtMostPickup trip

def negativeDistance : Bool := trip.tripDistance.isBelow 0

def maxTripDistanceMiles : ℚ := 100

def distanceOutlier : Bool := trip.tripDistance.isAbove maxTripDistanceMiles

def invalidPassengerCount : Bool := trip.passengerCount.isAtMost 0

def negativeFare : Bool := trip.fareAmount.isBelow 0

def negativeTotal : Bool := trip.totalAmount.isBelow 0

def catTimestamps : Bool := invalidTimestamp trip

def catDistance : Bool := (negativeDistance trip || distanceOutlier trip) && !catTimestamps trip

def catPassenger : Bool := invalidPassengerCount trip && !catTimestamps trip && !catDistance trip

def catFare : Bool :=
  negativeFare trip && !catTimestamps trip && !catDistance trip && !catPassenger trip

def catTotal : Bool :=
  negativeTotal trip && !catTimestamps trip && !catDistance trip && !catPassenger trip &&
    !catFare trip

def excludedMask : Bool :=
  catTimestamps trip || catDistance trip || catPassenger trip || catFare trip || catTotal trip

def rejectMask : Bool := catTimestamps trip || (catDistance trip && negativeDistance trip)

def quarantineMask : Bool := excludedMask trip && !rejectMask trip

/-- The flags. A missing year is not equal to any, and not less than any. -/
def flag (year : Int) : SilverTrip :=
  { trip with
    flagPickupYearMismatch := trip.tpepPickupDatetime.year != some year
    flagDropoffYearMismatch := trip.tpepDropoffDatetime.year.any fun dropoff => dropoff < year }

end Masks

/-- The missing values of a column. -/
def missing {Value : Type} (column : Trip → Option Value) (df : List Trip) : Nat :=
    df.countP fun trip => (column trip).isNone

def missingValueCounts (df : List Trip) : List (String × Nat) :=
  [("passenger_count", missing Trip.passengerCount df), ("RatecodeID", missing Trip.ratecodeId df),
    ("store_and_fwd_flag", missing Trip.storeAndFwdFlag df),
    ("congestion_surcharge", missing Trip.congestionSurcharge df),
      ("Airport_fee", missing Trip.airportFee df)]

/-- `duplicated().sum()`: the rows that are equal to an earlier one. -/
def duplicated (df : List Trip) : Nat := df.length - df.dedup.length

structure Report where
  period : String
  recordsProcessed : Nat
  recordsAccepted : Nat
  recordsRejected : Nat
  recordsQuarantined : Nat
  duplicateRecords : Nat
  invalidTimestamps : Nat
  negativeFares : Nat
  invalidPassengerCounts : Nat
  distanceOutliers : Nat
  negativeTotalAmounts : Nat
  recordsFlaggedPickupYearMismatch : Nat
  recordsFlaggedDropoffYearMismatch : Nat
  missingValueCounts : List (String × Nat)

def lakePath (parts : List String) : String :=
  "s3://" ++ "/".intercalate ("openscale-lake" :: parts)

def period (year month : Int) : String :=
  Python.zeroPadded 4 year ++ "_" ++ Python.zeroPadded 2 month

def silverPath (year month : Int) : String := lakePath
    ["silver", "trips", "silver_trips_" ++ period year month ++ ".parquet"]

def quarantinePath (name : String) (year month : Int) : String :=
  lakePath ["silver", "quarantine", name ++ "_" ++ period year month ++ ".parquet"]

structure Processed where
  trips : String × List SilverTrip
  quarantine : List (String × List Trip)
  report : Report

def processPeriod (year month : Int) (df : List Trip) : Processed :=
  let accepted := (df.filter fun trip => !excludedMask trip).map fun trip => flag trip year
  let quarantineFrames :=
    [("invalid_timestamps", df.filter catTimestamps), ("distance_outliers", df.filter catDistance),
      ("invalid_passenger_count", df.filter catPassenger), ("negative_fares", df.filter catFare),
      ("negative_total_amounts", df.filter catTotal)]
  { trips := (silverPath year month, accepted)
    quarantine := quarantineFrames.map fun (name, frame) => (quarantinePath name year month, frame)
    report :=
      { period := Python.zeroPadded 4 year ++ "-" ++ Python.zeroPadded 2 month
        recordsProcessed := df.length
        recordsAccepted := accepted.length
        recordsRejected := df.countP rejectMask
        recordsQuarantined := df.countP quarantineMask
        duplicateRecords := duplicated df
        invalidTimestamps := df.countP catTimestamps
        negativeFares := df.countP catFare
        invalidPassengerCounts := df.countP catPassenger
        distanceOutliers := df.countP catDistance
        negativeTotalAmounts := df.countP catTotal
        recordsFlaggedPickupYearMismatch := accepted.countP SilverTrip.flagPickupYearMismatch
        recordsFlaggedDropoffYearMismatch := accepted.countP SilverTrip.flagDropoffYearMismatch
        missingValueCounts := missingValueCounts df } }

/-- The report as the Silver job sees it. -/
def Report.qualityReport (report : Report) : Worker.QualityReport where
  dict := .object
    [("period", .string report.period), ("records_processed", .number report.recordsProcessed 0),
      ("records_accepted", .number report.recordsAccepted 0),
        ("records_rejected", .number report.recordsRejected 0),
      ("records_quarantined", .number report.recordsQuarantined 0),
      ("duplicate_records", .number report.duplicateRecords 0),
      ("invalid_timestamps", .number report.invalidTimestamps 0),
        ("negative_fares", .number report.negativeFares 0),
      ("invalid_passenger_counts", .number report.invalidPassengerCounts 0),
      ("distance_outliers", .number report.distanceOutliers 0),
      ("negative_total_amounts", .number report.negativeTotalAmounts 0),
      ("records_flagged_pickup_year_mismatch", .number report.recordsFlaggedPickupYearMismatch 0),
      ("records_flagged_dropoff_year_mismatch", .number report.recordsFlaggedDropoffYearMismatch 0),
      ("missing_value_counts", .object (report.missingValueCounts.map fun (column, count) =>
        (column, .number count 0)))]
  recordsProcessed := report.recordsProcessed

end OpenScale.Lake
