import Mathlib
import OpenScale.Library.Calendar

/-! The trips of the lake: a row of a Bronze month, with the columns and types that the
schema of the ingestion asks for, and of a Silver month. -/

namespace OpenScale.Lake

open OpenScale.Library

/-- A float64. NaN is none: in a column it stands for a missing value, and Parquet keeps
it as a null. -/
abbrev Float64 := Option (WithBot (WithTop ℚ))

/-- A datetime64[us], in microseconds from the start of 1970. NaT is none. -/
abbrev Datetime := Option Int

/-- A finite number among the floats. -/
def exact (value : ℚ) : WithBot (WithTop ℚ) := ((value : WithTop ℚ) : WithBot (WithTop ℚ))

/-- A comparison with NaN is false. -/
def Float64.isBelow (value : Float64) (bound : ℚ) : Bool :=
  value.any fun value => value < exact bound

def Float64.isAtMost (value : Float64) (bound : ℚ) : Bool :=
  value.any fun value => value ≤ exact bound

def Float64.isAbove (value : Float64) (bound : ℚ) : Bool :=
  value.any fun value => exact bound < value

/-- A row of Bronze: `EXPECTED_COLUMNS`. -/
structure Trip where
  vendorId : Int
  tpepPickupDatetime : Datetime
  tpepDropoffDatetime : Datetime
  passengerCount : Float64
  tripDistance : Float64
  ratecodeId : Float64
  storeAndFwdFlag : Option String
  puLocationId : Int
  doLocationId : Int
  paymentType : Int
  fareAmount : Float64
  extra : Float64
  mtaTax : Float64
  tipAmount : Float64
  tollsAmount : Float64
  improvementSurcharge : Float64
  totalAmount : Float64
  congestionSurcharge : Float64
  airportFee : Float64
  deriving DecidableEq

structure SilverTrip extends Trip where
  flagPickupYearMismatch : Bool
  flagDropoffYearMismatch : Bool
  deriving DecidableEq

/-- `dt.year`. -/
def Datetime.year (time : Datetime) : Option Int :=
  time.map fun time => Calendar.yearOf (Calendar.dayOf time)

end OpenScale.Lake
