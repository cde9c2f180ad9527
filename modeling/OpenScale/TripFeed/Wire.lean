import OpenScale.LiveFeed.Connection
import OpenScale.Streaming.Window

/-! A frame on the wire: the text that the stream handler writes of it, and what the browser hands
to the screen when that text arrives. -/

namespace OpenScale.TripFeed

open OpenScale.Library OpenScale.LiveFeed

/-- How Go writes a `float64`, as the digits and the power of ten, and a time. -/
structure Format where
  float64 : Rat → Int × Int
  rfc3339 : Streaming.Time → String

variable (format : Format)

def Format.float (value : Rat) : Json := .number (format.float64 value).1 (format.float64 value).2

def marshalTrip (trip : Streaming.TripEvent) : Json :=
  .object
    [("tpep_pickup_datetime", .string trip.pickupAt),
      ("tpep_dropoff_datetime", .string trip.dropoffAt),
      ("PULocationID", .number trip.puLocationId 0), ("DOLocationID", .number trip.doLocationId 0),
      ("passenger_count", format.float trip.passengerCount),
      ("trip_distance", format.float trip.tripDistance),
      ("fare_amount", format.float trip.fareAmount), ("tip_amount", format.float trip.tipAmount),
      ("total_amount", format.float trip.totalAmount),
      ("payment_type", format.float trip.paymentType)]

def marshalWindow (window : Streaming.WindowAggregate) : Json :=
  .object
    [("tripCount", .number window.tripCount 0),
      ("messagesPerSecond", format.float window.messagesPerSecond),
      ("totalRevenue", format.float window.totalRevenue), ("avgFare", format.float window.avgFare),
      ("avgDistance", format.float window.avgDistance),
      ("windowEndedAt", .string (format.rfc3339 window.windowEndedAt))]

/-- The one of the two that is not set is left out. -/
def marshalFrame (frame : Streaming.Frame) : Json :=
  match frame with
  | .trip event => .object [("type", .string frame.type), ("trip", marshalTrip format event)]
  | .window aggregate =>
    .object [("type", .string frame.type), ("window", marshalWindow format aggregate)]

/-- The text of `write`. -/
def frameText (frame : Streaming.Frame) : List Char := (marshalFrame format frame).write

/-- What is read of a `float64`. -/
def Format.shown (value : Rat) : Decoded :=
  .number (.ofDecimal (format.float64 value).1 (format.float64 value).2)

/-- A trip as the screen has it. -/
def shownTrip (trip : Streaming.TripEvent) : TripEvent where
  pickupAt := some (.string trip.pickupAt)
  dropoffAt := some (.string trip.dropoffAt)
  pickupLocationId := some (.number (.ofDecimal trip.puLocationId 0))
  dropoffLocationId := some (.number (.ofDecimal trip.doLocationId 0))
  passengerCount := some (format.shown trip.passengerCount)
  tripDistanceMiles := some (format.shown trip.tripDistance)
  fareAmount := some (format.shown trip.fareAmount)
  tipAmount := some (format.shown trip.tipAmount)
  totalAmount := some (format.shown trip.totalAmount)
  paymentType := some (format.shown trip.paymentType)

def shownWindow (window : Streaming.WindowAggregate) : WindowAggregate where
  tripCount := some (.number (.ofDecimal window.tripCount 0))
  messagesPerSecond := some (format.shown window.messagesPerSecond)
  totalRevenue := some (format.shown window.totalRevenue)
  avgFare := some (format.shown window.avgFare)
  avgDistanceMiles := some (format.shown window.avgDistance)
  windowEndedAt := some (.string (format.rfc3339 window.windowEndedAt))

def shownFrame : Streaming.Frame → StreamFrame
  | .trip event => .trip (shownTrip format event)
  | .window aggregate => .window (shownWindow format aggregate)

theorem ofJson_float (value : Rat) : Decoded.ofJson (format.float value) = format.shown value := rfl

theorem mapTrip_marshalTrip (trip : Streaming.TripEvent) :
    mapTrip (some (.ofJson (marshalTrip format trip))) = some (shownTrip format trip) := by
  simp [mapTrip, marshalTrip, reader, Decoded.ofJson, Decoded.ofFields, Decoded.property,
    List.lookup, shownTrip, ofJson_float]

theorem mapWindow_marshalWindow (window : Streaming.WindowAggregate) :
    mapWindow (some (.ofJson (marshalWindow format window))) = some
      (shownWindow format window) := by
  simp [mapWindow, marshalWindow, reader, Decoded.ofJson, Decoded.ofFields,
    Decoded.property, List.lookup, shownWindow, ofJson_float]

/-- Whatever it carries, a frame gets to the screen with each of its values in its own property. -/
theorem frameOf_frameText (frame : Streaming.Frame) :
    frameOf (frameText format frame) = some (shownFrame format frame) := by
  unfold frameOf frameText
  rw [Decoded.parse_write, Option.bind_eq_bind, Option.bind_some]
  cases frame with
  | trip event =>
    have body : (Decoded.ofJson (marshalFrame format (.trip event))).property "trip" =
        some (.ofJson (marshalTrip format event)) := rfl
    have isTrip : isType (.ofJson (marshalFrame format (.trip event))) "trip" = true := rfl
    rw [if_pos isTrip, body, mapTrip_marshalTrip]
    rfl
  | window aggregate =>
    have body : (Decoded.ofJson (marshalFrame format (.window aggregate))).property "window" =
        some (.ofJson (marshalWindow format aggregate)) := rfl
    have type : (Decoded.ofJson (marshalFrame format (.window aggregate))).property "type" =
        some (.string "window") := rfl
    have noTrip : ¬ isType (.ofJson (marshalFrame format (.window aggregate))) "trip" = true := by
      simp [isType, type]
    have isWindow : isType (.ofJson (marshalFrame format (.window aggregate))) "window" =
        true := rfl
    rw [if_neg noTrip, if_pos isWindow, body, mapWindow_marshalWindow]
    rfl

end OpenScale.TripFeed
