import Mathlib.Algebra.BigOperators.Group.List.Basic
import Mathlib.Algebra.Order.Field.Rat

/-! The window accumulator: what `add` collects, and the aggregate that `flush` makes of it. Amounts
are exact, and a clock reading is any number of nanoseconds. -/

namespace OpenScale.Streaming

structure TripEvent where
  pickupAt : String
  dropoffAt : String
  puLocationId : Int
  doLocationId : Int
  passengerCount : Rat
  tripDistance : Rat
  fareAmount : Rat
  tipAmount : Rat
  totalAmount : Rat
  paymentType : Rat
  deriving DecidableEq

/-- Nanoseconds. -/
abbrev Time := Int

structure WindowAggregate where
  tripCount : Nat
  messagesPerSecond : Rat
  totalRevenue : Rat
  avgFare : Rat
  avgDistance : Rat
  windowEndedAt : Time
  deriving DecidableEq

/-- Exactly one of the two is set, and the type says which. -/
inductive Frame where
  | trip (event : TripEvent)
  | window (aggregate : WindowAggregate)
  deriving DecidableEq

def Frame.type : Frame → String
  | trip _ => "trip"
  | window _ => "window"

structure WindowAccumulator where
  count : Nat
  totalRevenue : Rat
  totalFare : Rat
  totalDistance : Rat
  windowStart : Time

def newWindowAccumulator (now : Time) : WindowAccumulator := ⟨0, 0, 0, 0, now⟩

def WindowAccumulator.add (w : WindowAccumulator) (trip : TripEvent) : WindowAccumulator :=
  { w with
    count := w.count + 1
    totalRevenue := w.totalRevenue + trip.totalAmount
    totalFare := w.totalFare + trip.fareAmount
    totalDistance := w.totalDistance + trip.tripDistance }

/-- `Time.Sub`: a duration has 64 bits, and longer ones are cut. -/
def sub (now start : Time) : Int := max (-2 ^ 63) (min (2 ^ 63 - 1) (now - start))

/-- A division, which there is none of by zero. -/
def quotient? (a b : Rat) : Option Rat := if b = 0 then none else some (a / b)

/-- The seconds that a window took, and a millisecond where the clock has not moved on. -/
def elapsed (now start : Time) : Rat :=
  let seconds := (sub now start : Rat) / 1000000000
  if seconds ≤ 0 then 1 / 1000 else seconds

/-- The average of a window, which stays zero where there is nothing to divide by. -/
def average? (total : Rat) (count : Nat) : Option Rat :=
  if 0 < count then quotient? total count else some 0

def WindowAccumulator.flush (w : WindowAccumulator) (now : Time) :
    Option (WindowAggregate × WindowAccumulator) := do
  let messagesPerSecond ← quotient? w.count (elapsed now w.windowStart)
  let avgFare ← average? w.totalFare w.count
  let avgDistance ← average? w.totalDistance w.count
  return (⟨w.count, messagesPerSecond, w.totalRevenue, avgFare, avgDistance, now⟩,
    newWindowAccumulator now)

structure Collected (w : WindowAccumulator) (trips : List TripEvent) : Prop where
  count : w.count = trips.length
  revenue : w.totalRevenue = (trips.map (·.totalAmount)).sum
  fare : w.totalFare = (trips.map (·.fareAmount)).sum
  distance : w.totalDistance = (trips.map (·.tripDistance)).sum

structure Summarises (aggregate : WindowAggregate) (trips : List TripEvent) : Prop where
  tripCount : aggregate.tripCount = trips.length
  totalRevenue : aggregate.totalRevenue = (trips.map (·.totalAmount)).sum
  avgFare : aggregate.avgFare * aggregate.tripCount = (trips.map (·.fareAmount)).sum
  avgDistance : aggregate.avgDistance * aggregate.tripCount = (trips.map (·.tripDistance)).sum

variable {w : WindowAccumulator} {trips : List TripEvent}

theorem collected_new (now : Time) : Collected (newWindowAccumulator now) [] := ⟨rfl, rfl, rfl, rfl⟩

theorem sum_snoc (amount : TripEvent → Rat) (trips : List TripEvent) (trip : TripEvent) :
    ((trips ++ [trip]).map amount).sum = (trips.map amount).sum + amount trip := by
  rw [List.map_append, List.sum_append, List.map_singleton, List.sum_singleton]

theorem Collected.add (collected : Collected w trips) (trip : TripEvent) :
    Collected (w.add trip) (trips ++ [trip]) := by
  refine ⟨?_, ?_, ?_, ?_⟩
  · rw [List.length_append, ← collected.count]
    rfl
  · rw [sum_snoc, ← collected.revenue]
    rfl
  · rw [sum_snoc, ← collected.fare]
    rfl
  · rw [sum_snoc, ← collected.distance]
    rfl

theorem elapsed_pos (now start : Time) : 0 < elapsed now start := by
  unfold elapsed
  dsimp only
  split
  · decide +kernel
  next positive => exact not_le.mp positive

theorem quotient?_of_ne {b : Rat} (divides : b ≠ 0) (a : Rat) : quotient? a b = some (a / b) :=
  if_neg divides

theorem average?_some {total : Rat} {count : Nat} (empty : count = 0 → total = 0) :
    ∃ average, average? total count = some average ∧ average * count = total := by
  rcases Nat.eq_zero_or_pos count with none_ | some_
  · subst none_
    exact ⟨0, rfl, by rw [empty rfl, zero_mul]⟩
  · have divides : (count : Rat) ≠ 0 := by
      rw [Nat.cast_ne_zero]
      exact some_.ne'
    exact ⟨total / count, by rw [average?, if_pos some_, quotient?_of_ne divides],
      div_mul_cancel₀ total divides⟩

theorem Collected.empty (collected : Collected w trips) (none_ : w.count = 0) :
    w.totalFare = 0 ∧ w.totalDistance = 0 := by
  obtain rfl := List.length_eq_zero_iff.mp (collected.count.symm.trans none_)
  exact ⟨collected.fare, collected.distance⟩

theorem Collected.flush (collected : Collected w trips) (now : Time) :
    ∃ aggregate, w.flush now = some (aggregate, newWindowAccumulator now) ∧
    Summarises aggregate trips := by
  obtain ⟨avgFare, fare, fareTotal⟩ := average?_some fun none_ => (collected.empty none_).1
  obtain ⟨avgDistance, distance, distanceTotal⟩ :=
    average?_some fun none_ => (collected.empty none_).2
  have rate := quotient?_of_ne (elapsed_pos now w.windowStart).ne' w.count
  refine ⟨⟨w.count, w.count / elapsed now w.windowStart, w.totalRevenue, avgFare, avgDistance, now⟩,
    ?_,
    collected.count, collected.revenue, fareTotal.trans collected.fare,
    distanceTotal.trans collected.distance⟩
  simp only [WindowAccumulator.flush, rate, fare, distance]
  rfl

end OpenScale.Streaming
