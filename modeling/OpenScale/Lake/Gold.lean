import OpenScale.Lake.Silver
import OpenScale.Library.Rounding

/-! The aggregates over Silver: the four Gold tables and the zone by hour features. -/

namespace OpenScale.Lake

open OpenScale.Library

structure Bronze where
  months : List ((Int × Int) × List Trip)
  distinct : (months.map Prod.fst).Nodup

/-- What `load_silver_trips` reads after the validator ran over every month. -/
def Bronze.silverTrips (bronze : Bronze) : List SilverTrip :=
  bronze.months.flatMap fun month => (processPeriod month.1.1 month.1.2 month.2).trips.2

/-- The sum and the average of a column without its nulls. Doubles are added in whatever order. -/
structure Spark where
  sum : List Float64 → Float64
  avg : List Float64 → Float64

section Columns

variable (trip : SilverTrip)

def pickupHour : Option Int := trip.tpepPickupDatetime.map Calendar.hourOf

def pickupDate : Option Int := trip.tpepPickupDatetime.map Calendar.dayOf

/-- The zone is an int32 in Bronze, which has no nulls. -/
def pickupZone : Option Int := some trip.puLocationId

def hasCongestion : Bool := exact 0 < trip.congestionSurcharge.getD (exact 0)

end Columns

/-- Nulls come first. -/
def ascending : Option Int → Option Int → Bool
  | none, _ => true
  | some _, none => false
  | some a, some b => a ≤ b

def orderBy {Row : Type} (key : Row → Option Int) (rows : List Row) : List Row :=
  rows.mergeSort fun first second => ascending (key first) (key second)

variable (spark : Spark) (df : List SilverTrip)

structure HourlyDemand where
  pickupHour : Option Int
  tripCount : Nat
  avgFare : Float64
  avgTripDistance : Float64
  avgPassengerCount : Float64

def HourlyDemand.build : List HourlyDemand :=
  orderBy HourlyDemand.pickupHour <| (groupBy Lake.pickupHour df).map fun (hour, trips) =>
    { pickupHour := hour
      tripCount := trips.length
      avgFare := spark.avg (trips.map fun trip => trip.fareAmount)
      avgTripDistance := spark.avg (trips.map fun trip => trip.tripDistance)
      avgPassengerCount := spark.avg (trips.map fun trip => trip.passengerCount) }

structure ZoneStats where
  puLocationId : Option Int
  tripCount : Nat
  totalRevenue : Float64
  avgFare : Float64
  avgTripDistance : Float64
  avgTip : Float64

def ZoneStats.build : List ZoneStats :=
  List.mergeSort ((groupBy pickupZone df).map fun (zone, trips) =>
    { puLocationId := zone
      tripCount := trips.length
      totalRevenue := spark.sum (trips.map fun trip => trip.totalAmount)
      avgFare := spark.avg (trips.map fun trip => trip.fareAmount)
      avgTripDistance := spark.avg (trips.map fun trip => trip.tripDistance)
      avgTip := spark.avg (trips.map fun trip => trip.tipAmount) }) fun first second =>
        second.tripCount ≤ first.tripCount

structure DailyRevenue where
  pickupDate : Option Int
  tripCount : Nat
  totalRevenue : Float64
  totalFare : Float64
  totalTips : Float64
  avgFare : Float64

/-- Pickups outside the reporting year do not count. -/
def inYear : List SilverTrip := df.filter fun trip => !trip.flagPickupYearMismatch

def DailyRevenue.build : List DailyRevenue :=
  orderBy DailyRevenue.pickupDate <| (groupBy Lake.pickupDate (inYear df)).map fun (date, trips) =>
    { pickupDate := date
      tripCount := trips.length
      totalRevenue := spark.sum (trips.map fun trip => trip.totalAmount)
      totalFare := spark.sum (trips.map fun trip => trip.fareAmount)
      totalTips := spark.sum (trips.map fun trip => trip.tipAmount)
      avgFare := spark.avg (trips.map fun trip => trip.fareAmount) }

structure CongestionMetrics where
  pickupDate : Option Int
  tripCount : Nat
  tripsWithCongestion : Nat
  totalCongestionSurcharge : Float64
  congestionTripPct : Float64

/-- The quotient of two longs is one of doubles, and null over zero. -/
def congestionTripPct (tripsWithCongestion tripCount : Nat) : Float64 :=
  if tripCount = 0 then none
  else some (exact (toDouble (toDouble (toDouble tripsWithCongestion / toDouble tripCount) * 100)))

def CongestionMetrics.build : List CongestionMetrics :=
  orderBy CongestionMetrics.pickupDate <|
    (groupBy Lake.pickupDate (inYear df)).map fun (date, trips) =>
    { pickupDate := date
      tripCount := trips.length
      tripsWithCongestion := trips.countP hasCongestion
      totalCongestionSurcharge := spark.sum (trips.map fun trip => trip.congestionSurcharge)
      congestionTripPct := Lake.congestionTripPct (trips.countP hasCongestion) trips.length }

structure ZoneHourFeatures where
  puLocationId : Option Int
  pickupHour : Option Int
  tripCount : Nat
  avgFare : Float64
  avgTripDistance : Float64
  avgTip : Float64
  avgPassengerCount : Float64

def buildFeatures : List ZoneHourFeatures :=
  (groupBy (fun trip => (pickupZone trip, pickupHour trip)) df).map fun (key, trips) =>
    { puLocationId := key.1
      pickupHour := key.2
      tripCount := trips.length
      avgFare := spark.avg (trips.map fun trip => trip.fareAmount)
      avgTripDistance := spark.avg (trips.map fun trip => trip.tripDistance)
      avgTip := spark.avg (trips.map fun trip => trip.tipAmount)
      avgPassengerCount := spark.avg (trips.map fun trip => trip.passengerCount) }

end OpenScale.Lake
