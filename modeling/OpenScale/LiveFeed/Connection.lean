import OpenScale.Query.Wire
import OpenScale.Library.TransitionSystem

/-! `httpStreamingGateway.connect` and the hook that calls it: one WebSocket after another, a timer
between two of them, and four variables that the handlers of all of them share. -/

namespace OpenScale.LiveFeed

open OpenScale.Library

/-- A property of a wire object. `none` is undefined. -/
abbrev Property := Option Decoded

structure TripEvent where
  pickupAt : Property
  dropoffAt : Property
  pickupLocationId : Property
  dropoffLocationId : Property
  passengerCount : Property
  tripDistanceMiles : Property
  fareAmount : Property
  tipAmount : Property
  totalAmount : Property
  paymentType : Property

structure WindowAggregate where
  tripCount : Property
  messagesPerSecond : Property
  totalRevenue : Property
  avgFare : Property
  avgDistanceMiles : Property
  windowEndedAt : Property

inductive StreamFrame where
  | trip (trip : TripEvent)
  | window (window : WindowAggregate)

/-- The properties of an object. Reading one throws where there is no object: undefined and null. -/
def reader : Property → Option (String → Property)
  | none => none
  | some .null => none
  | some value => some (value.property)

def mapTrip (api : Property) : Option TripEvent :=
  (reader api).map fun read =>
    { pickupAt := read "tpep_pickup_datetime"
      dropoffAt := read "tpep_dropoff_datetime"
      pickupLocationId := read "PULocationID"
      dropoffLocationId := read "DOLocationID"
      passengerCount := read "passenger_count"
      tripDistanceMiles := read "trip_distance"
      fareAmount := read "fare_amount"
      tipAmount := read "tip_amount"
      totalAmount := read "total_amount"
      paymentType := read "payment_type" }

def mapWindow (api : Property) : Option WindowAggregate :=
  (reader api).map fun read =>
    { tripCount := read "tripCount"
      messagesPerSecond := read "messagesPerSecond"
      totalRevenue := read "totalRevenue"
      avgFare := read "avgFare"
      avgDistanceMiles := read "avgDistance"
      windowEndedAt := read "windowEndedAt" }

/-- `data.type === text` -/
def isType (data : Decoded) (text : String) : Bool :=
  match data.property "type" with
  | some (.string type) => type = text
  | _ => false

/-- The frame that `onmessage` hands over, if it gets that far. A binary message has the text
`[object Blob]`. -/
def frameOf (text : List Char) : Option StreamFrame := do
  let data ← Decoded.parse text
  if isType data "trip" then (mapTrip (data.property "trip")).map .trip
  else if isType data "window" then (mapWindow (data.property "window")).map .window
  else none

inductive ConnectionStatus where
  | connecting
  | live
  | disconnected
deriving DecidableEq

inductive Callback where
  | onFrame (frame : StreamFrame)
  | onStatusChange (status : ConnectionStatus)

inductive ReadyState where
  | connecting
  | opened
  | closing
  | closed
deriving DecidableEq

/-- What the event loop runs, each to its end. Sockets and timers have the numbers of their
making. -/
inductive Event where
  | opened (socket : Nat)
  | message (socket : Nat) (text : List Char)
  | error (socket : Nat)
  | closed (socket : Nat)
  | timeout (timer : Nat)
  | dispose

structure State where
  /-- Every socket that was made. -/
  sockets : List ReadyState
  /-- The timers that have not fired, each with its delay. -/
  timers : List (Nat × Nat)
  nextTimer : Nat
  socket : Option Nat
  closed : Bool
  attempt : Nat
  reconnectTimer : Option Nat
  /-- The callbacks that were made, the last one last. -/
  calls : List Callback
  /-- What has happened, the last event first. -/
  history : List Event

def reconnectBaseDelayMs : Nat := 1000
def reconnectMaxDelayMs : Nat := 15000

/-- `open` -/
def openSocket (s : State) : State :=
  if s.closed then s
  else { s with
    calls := s.calls ++ [.onStatusChange .connecting]
    sockets := s.sockets ++ [.connecting]
    socket := some s.sockets.length }

def scheduleReconnect (s : State) : State :=
  if s.closed then s
  else { s with
    timers :=
      s.timers ++ [(s.nextTimer, min (reconnectBaseDelayMs * 2 ^ s.attempt) reconnectMaxDelayMs)]
    reconnectTimer := some s.nextTimer
    nextTimer := s.nextTimer + 1
    attempt := s.attempt + 1 }

/-- `close()` does nothing to a socket that is closing or closed. -/
def ReadyState.close : ReadyState → ReadyState
  | .closed => .closed
  | _ => .closing

/-- `socket?.close()` -/
def closeSocket (s : State) : State :=
  match s.socket with
  | none => s
  | some i => { s with sockets := s.sockets.modify i ReadyState.close }

def clearReconnectTimer (s : State) : State :=
  match s.reconnectTimer with
  | none => s
  | some timer => { s with timers := s.timers.filter fun pending => pending.1 != timer }

def onOpen (s : State) : State :=
  { s with attempt := 0, calls := s.calls ++ [.onStatusChange .live] }

def onMessage (text : List Char) (s : State) : State :=
  match frameOf text with
  | none => s
  | some frame => { s with calls := s.calls ++ [.onFrame frame] }

def onClose (s : State) : State :=
  if s.closed then s
  else scheduleReconnect { s with calls := s.calls ++ [.onStatusChange .disconnected] }

/-- The function that `connect` returns. -/
def disconnect (s : State) : State :=
  closeSocket (clearReconnectTimer { s with closed := true })

/-- What the browser has done to the socket when its handler starts. -/
def become (s : State) (i : Nat) (state : ReadyState) : State :=
  { s with sockets := s.sockets.set i state }

/-- A socket opens once; it has messages while it is open; after an error, and after `close()`, it
has to close, with or without an error before that. -/
def handle (s : State) : Event → Option State
  | .opened i =>
    if s.sockets[i]? = some .connecting then some (onOpen (become s i .opened)) else none
  | .message i text => if s.sockets[i]? = some .opened then some (onMessage text s) else none
  | .error i =>
    match s.sockets[i]? with
    | none | some .closed => none
    | some _ => some (closeSocket (become s i .closing))
  | .closed i =>
    match s.sockets[i]? with
    | none | some .closed => none
    | some _ => some (onClose (become s i .closed))
  | .timeout timer =>
    if timer ∈ s.timers.map Prod.fst then
      some (openSocket { s with timers := s.timers.filter fun pending => pending.1 != timer })
    else none
  | .dispose => some (disconnect s)

def State.record (s : State) (event : Event) : State := { s with history := event :: s.history }

def step (s : State) (event : Event) : Option State :=
  (handle s event).map fun next => next.record event

/-- The variables of `connect`, before its call of `open`. -/
def declared : State := ⟨[], [], 1, none, false, 0, none, [], []⟩

def connect : TransitionSystem State Event := ⟨openSocket declared, step⟩

structure LiveTripStream where
  status : ConnectionStatus
  trips : List TripEvent
  latestWindow : Option WindowAggregate
  windowHistory : List WindowAggregate

def maxTrips : Nat := 20
def maxWindowHistory : Nat := 30

/-- `slice(-n)` -/
def takeLast {α : Type} (n : Nat) (items : List α) : List α := items.drop (items.length - n)

def LiveTripStream.apply (hook : LiveTripStream) : Callback → LiveTripStream
  | .onFrame (.trip trip) => { hook with trips := (trip :: hook.trips).take maxTrips }
  | .onFrame (.window window) => { hook with
      latestWindow := some window
      windowHistory := takeLast maxWindowHistory (hook.windowHistory ++ [window]) }
  | .onStatusChange status => { hook with status := status }

def State.useLiveTripStream (s : State) : LiveTripStream :=
  s.calls.foldl LiveTripStream.apply ⟨.connecting, [], none, []⟩

def Callback.trip? : Callback → Option TripEvent
  | .onFrame (.trip trip) => some trip
  | _ => none

def Callback.window? : Callback → Option WindowAggregate
  | .onFrame (.window window) => some window
  | _ => none

theorem takeLast_concat {α : Type} (n : Nat) (items : List α) (item : α) :
    takeLast n (takeLast n items ++ [item]) = takeLast n (items ++ [item]) := by
  simp only [takeLast, List.length_append, List.length_drop, List.length_singleton]
  by_cases long : n ≤ items.length
  · have kept : items.length - (items.length - n) = n := by omega
    rw [kept, ← List.drop_append_of_le_length (by omega), List.drop_drop]
    congr 1
    omega
  · have all : items.length - n = 0 := by omega
    simp [all]

/-- The screen shows the latest trips, newest first, and the latest windows, newest last. -/
theorem useLiveTripStream_latest (s : State) :
    s.useLiveTripStream.trips = (s.calls.filterMap Callback.trip?).reverse.take maxTrips ∧
      s.useLiveTripStream.windowHistory =
      takeLast maxWindowHistory (s.calls.filterMap Callback.window?) := by
  unfold State.useLiveTripStream
  generalize s.calls = calls
  induction calls using List.reverseRecOn with
  | nil => exact ⟨rfl, rfl⟩
  | append_singleton calls call ih =>
    rw [List.foldl_concat]
    cases call with
    | onStatusChange status =>
      simpa [LiveTripStream.apply, List.filterMap_cons, Callback.trip?, Callback.window?] using ih
    | onFrame frame =>
      cases frame with
      | trip trip =>
        refine ⟨?_, by simpa [LiveTripStream.apply, List.filterMap_cons,
          Callback.window?] using ih.2⟩
        simp [LiveTripStream.apply, Callback.trip?, ih.1, maxTrips, List.take_take]
      | window window =>
        refine ⟨by simpa [LiveTripStream.apply, List.filterMap_cons, Callback.trip?] using ih.1, ?_⟩
        simp [LiveTripStream.apply, Callback.window?, ih.2, takeLast_concat]

end OpenScale.LiveFeed
