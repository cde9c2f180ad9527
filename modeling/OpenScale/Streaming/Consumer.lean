import OpenScale.Streaming.Window

/-! The consumer's event loop: ticks flush the window, messages that can be read are added to it and
broadcast, and nothing that goes wrong ends the loop. -/

namespace OpenScale.Streaming

/-- What the loop selects on. A message is its bytes. -/
inductive Received where
  | ctxDone
  | tick (now : Time)
  | message (value : List UInt8)
  | readerError (text : String)

/-- The frames that `Run` broadcasts; none where it would divide by zero. Malformed messages are
those that `unmarshal` makes nothing of. -/
def loop (unmarshal : List UInt8 → Option TripEvent) (window : WindowAccumulator) :
    List Received → Option (List Frame)
  | [] => some []
  | .ctxDone :: _ => some []
  | .tick now :: events => do
    let (aggregate, next) ← window.flush now
    let frames ← loop unmarshal next events
    return .window aggregate :: frames
  | .message value :: events =>
    match unmarshal value with
    | none => loop unmarshal window events
    | some trip => do
      let frames ← loop unmarshal (window.add trip) events
      return .trip trip :: frames
  | .readerError _ :: events => loop unmarshal window events

/-- `Run`, from the moment at which it makes its window. -/
def run (unmarshal : List UInt8 → Option TripEvent) (start : Time) (events : List Received) :
    Option (List Frame) :=
  loop unmarshal (newWindowAccumulator start) events

def trips : List Frame → List TripEvent
  | [] => []
  | .trip event :: frames => event :: trips frames
  | .window _ :: frames => trips frames

/-- The window frames, each with the trips that were broadcast since the one before it, or since the
start; `open_` are those before the first of the frames. -/
def windows : List TripEvent → List Frame → List (WindowAggregate × List TripEvent)
  | _, [] => []
  | open_, .trip event :: frames => windows (open_ ++ [event]) frames
  | open_, .window aggregate :: frames => (aggregate, open_) :: windows [] frames

/-- The trips since the last window frame. -/
def openTrips : List TripEvent → List Frame → List TripEvent
  | open_, [] => open_
  | open_, .trip event :: frames => openTrips (open_ ++ [event]) frames
  | _, .window _ :: frames => openTrips [] frames

/-- Each trip belongs to one window, or to the one that is not closed yet. -/
theorem windows_partition (open_ : List TripEvent) (frames : List Frame) :
    ((windows open_ frames).map Prod.snd).flatten ++ openTrips open_ frames =
    open_ ++ trips frames := by
  induction frames generalizing open_ with
  | nil => rw [windows, openTrips, trips, List.append_nil]; rfl
  | cons frame frames ih =>
    cases frame with
    | trip event => rw [windows, openTrips, trips, ih, List.append_assoc, List.singleton_append]
    | window aggregate =>
      rw [windows, openTrips, trips, List.map_cons, List.flatten_cons, List.append_assoc, ih,
        List.nil_append]

variable (unmarshal : List UInt8 → Option TripEvent) {window : WindowAccumulator}
  {collected : List TripEvent}

theorem loop_summarises (holds : Collected window collected) (events : List Received) :
    ∃ frames, loop unmarshal window events = some frames ∧
      ∀ entry ∈ windows collected frames, Summarises entry.1 entry.2 := by
  induction events generalizing window collected with
  | nil => exact ⟨[], rfl, nofun⟩
  | cons event events ih =>
    cases event with
    | ctxDone => exact ⟨[], rfl, nofun⟩
    | tick now =>
      obtain ⟨aggregate, flushed, summarises⟩ := holds.flush now
      obtain ⟨frames, ran, each⟩ := ih (collected_new now)
      refine ⟨.window aggregate :: frames, ?_, List.forall_mem_cons.mpr ⟨summarises, each⟩⟩
      simp only [loop, flushed, ran, bind, Option.bind, pure]
    | message value =>
      cases read : unmarshal value with
      | none =>
        obtain ⟨frames, ran, each⟩ := ih holds
        exact ⟨frames, by rw [loop, read]; exact ran, each⟩
      | some trip =>
        obtain ⟨frames, ran, each⟩ := ih (holds.add trip)
        refine ⟨.trip trip :: frames, ?_, each⟩
        simp only [loop, read, ran, bind, Option.bind, pure]
    | readerError text =>
      obtain ⟨frames, ran, each⟩ := ih holds
      exact ⟨frames, ran, each⟩

/-- The loop never divides by zero. Each window frame sums up the trips that were broadcast since
the one before it, and each trip is in one window, or after the last. -/
theorem windows_conserve_trips (start : Time) (events : List Received) :
    ∃ frames, run unmarshal start events = some frames ∧
      (∀ entry ∈ windows [] frames, Summarises entry.1 entry.2) ∧
      ((windows [] frames).map Prod.snd).flatten ++ openTrips [] frames = trips frames := by
  obtain ⟨frames, ran, each⟩ := loop_summarises unmarshal (collected_new start) events
  exact ⟨frames, ran, each, windows_partition [] frames⟩

end OpenScale.Streaming
