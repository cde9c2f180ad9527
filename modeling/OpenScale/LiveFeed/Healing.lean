import OpenScale.LiveFeed.Connection

/-! The connection heals itself: which of a socket and a timer it has in each of its phases, and
what a message, a failure and the disposer can do. -/

namespace OpenScale.LiveFeed

open OpenScale.Library

def isText : Property → Bool
  | some (.string _) => true
  | _ => false

def isNumber : Property → Bool
  | some (.number _) => true
  | _ => false

/-- An object with these properties. -/
def hasShape (texts numbers : List String) (api : Decoded) : Bool :=
  texts.all (fun name => isText (api.property name)) &&
    numbers.all (fun name => isNumber (api.property name))

/-- `ApiTripEvent` -/
def isTripEvent : Decoded → Bool :=
  hasShape ["tpep_pickup_datetime", "tpep_dropoff_datetime"]
    ["PULocationID", "DOLocationID", "passenger_count", "trip_distance",
      "fare_amount", "tip_amount", "total_amount", "payment_type"]

/-- `ApiWindowAggregate` -/
def isWindowAggregate : Decoded → Bool :=
  hasShape ["windowEndedAt"] ["tripCount", "messagesPerSecond", "totalRevenue",
    "avgFare", "avgDistance"]

/-- `ApiFrame` -/
def isFrame (data : Decoded) : Bool :=
  (isType data "trip" && (data.property "trip").any isTripEvent) ||
    (isType data "window" && (data.property "window").any isWindowAggregate)

def wellFormed (text : List Char) : Bool := (Decoded.parse text).any isFrame

/-- What a payload has under the name that its type gives. -/
def bodyOf (data : Decoded) : Property :=
  if isType data "trip" then data.property "trip"
  else if isType data "window" then data.property "window"
  else none

def isMissing : Property → Bool
  | none | some .null => true
  | some _ => false

/-- No JSON text, or one of another type, or one whose body is missing or null. -/
def bodiless (text : List Char) : Bool := isMissing ((Decoded.parse text).bind bodyOf)

def failures : List Event → Nat
  | [] => 0
  | .opened _ :: _ => 0
  | .closed _ :: older => failures older + 1
  | _ :: older => failures older

def State.Disposed (s : State) : Prop := .dispose ∈ s.history

def State.unclosed (s : State) : Nat := s.sockets.countP (· ≠ .closed)

structure Healthy (s : State) : Prop where
  oneSocket : s.unclosed ≤ 1
  oneTimer : s.timers.length ≤ 1
  neverBoth : s.unclosed = 0 ∨ s.timers.length = 0
  alive : ¬s.Disposed → s.unclosed = 1 ∨ s.timers.length = 1

/-- A failure schedules the next attempt, and after disposal nothing is made and nobody is
called. -/
structure Steady (s : State) (event : Event) (next : State) : Prop where
  delay : ∀ i, event = .closed i → ¬s.Disposed →
    next.timers.map Prod.snd = [min (1000 * 2 ^ (failures next.history - 1)) 15000]
  silent : next.Disposed → next.sockets.length = s.sockets.length ∧ next.calls = s.calls

def SkipsMalformed (s : State) (event : Event) (next : State) : Prop :=
  ∀ i text, event = .message i text → ¬wellFormed text → next = s.record event

variable {s next : State} {n : Nat} {last : ReadyState} {event : Event} {text : List Char}

theorem reader_eq_none {api : Property} : reader api = none ↔ isMissing api := by
  cases api with
  | none => simp [reader, isMissing]
  | some value => cases value <;> simp [reader, isMissing]

theorem frameOf_eq_none : frameOf text = none ↔ bodiless text := by
  unfold frameOf bodiless
  cases Decoded.parse text with
  | none => simp [isMissing]
  | some data =>
    simp only [bind, Option.bind_some, bodyOf]
    split
    · simp only [mapTrip, Option.map_eq_none_iff, reader_eq_none]
    · split
      · simp only [mapWindow, Option.map_eq_none_iff, reader_eq_none]
      · simp [isMissing]

inductive Phase (s : State) (last : ReadyState) : Prop where
  | connected (running : s.closed = false) (unclosed : last ≠ .closed) (timers : s.timers = [])
  | waiting (running : s.closed = false) (ended : last = .closed) (timer delay : Nat)
      (timers : s.timers = [(timer, delay)]) (pending : s.reconnectTimer = some timer)
  | disposed (finished : s.closed = true) (ending : last = .closing ∨ last = .closed)
      (timers : s.timers = [])

/-- Only the last socket can be unclosed, and the handlers mean that one. -/
structure Invariant (s : State) (n : Nat) (last : ReadyState) : Prop where
  sockets : s.sockets = List.replicate n .closed ++ [last]
  current : s.socket = some n
  attempt : s.closed = false → s.attempt = failures s.history
  disposed : s.closed = true ↔ s.Disposed
  phase : Phase s last

def Sound (s : State) : Prop := ∃ n last, Invariant s n last

theorem Invariant.unclosed_eq (invariant : Invariant s n last) :
    s.unclosed = if last = .closed then 0 else 1 := by
  rw [State.unclosed, invariant.sockets, List.countP_append, List.countP_replicate]
  cases last <;> rfl

theorem Invariant.healthy (invariant : Invariant s n last) : Healthy s := by
  have count := invariant.unclosed_eq
  rcases invariant.phase with ⟨running, unclosed, timers⟩ | ⟨running, ended, timer,
    delay, timers, _⟩ |
    ⟨finished, _, timers⟩
  · rw [if_neg unclosed] at count
    refine ⟨by omega, by simp [timers], .inr (by simp [timers]), fun _ => .inl count⟩
  · rw [if_pos ended] at count
    refine ⟨by omega, by simp [timers], .inl count, fun _ => .inr (by simp [timers])⟩
  · refine ⟨by split at count <;> omega, by simp [timers], .inr (by simp [timers]),
      fun running => ?_⟩
    exact absurd (invariant.disposed.mp finished) running

theorem Invariant.at_last (invariant : Invariant s n last) {i : Nat} {state : ReadyState}
    (found : s.sockets[i]? = some state) (unclosed : state ≠ .closed) : i = n ∧ state = last := by
  rw [invariant.sockets, List.getElem?_append, List.length_replicate] at found
  split at found
  · rename_i earlier
    rw [List.getElem?_replicate, if_pos earlier] at found
    exact absurd (Option.some.inj found).symm unclosed
  · obtain ⟨here, same⟩ := List.getElem?_eq_some_iff.mp found
    simp only [List.length_singleton] at here
    have at_end : i = n := by omega
    subst at_end
    exact ⟨rfl, by simpa using same.symm⟩

theorem Invariant.become (invariant : Invariant s n last) (state : ReadyState) :
    (become s n state).sockets = List.replicate n .closed ++ [state] := by
  simp [LiveFeed.become, invariant.sockets]

theorem modify_last {α : Type} (front : List α) (item : α) (f : α → α) :
    (front ++ [item]).modify front.length f = front ++ [f item] := by
  induction front with
  | nil => rfl
  | cons first front ih =>
    rw [List.cons_append, List.length_cons, List.modify_succ_cons, ih, List.cons_append]

theorem closeSocket_of_current (sockets : s.sockets = List.replicate n .closed ++ [last])
    (current : s.socket = some n) :
    closeSocket s = { s with sockets := List.replicate n .closed ++ [last.close] } := by
  have closed := modify_last (List.replicate n .closed) last ReadyState.close
  rw [List.length_replicate] at closed
  simp only [closeSocket, current, sockets, closed]

theorem sound_connect : Sound connect.init :=
  ⟨0, .connecting, rfl, rfl, fun _ => rfl, by simp [connect, openSocket, declared, State.Disposed],
    .connected rfl (by decide) rfl⟩

theorem disposed_record (s : State) (event : Event) :
    (s.record event).Disposed ↔ event = .dispose ∨ s.Disposed := by
  simp [State.Disposed, State.record, eq_comm]

theorem Invariant.still (invariant : Invariant s n last) (other : event ≠ .dispose) :
    s.closed = true ↔ (s.record event).Disposed :=
  (invariant.disposed.trans (or_iff_right other).symm).trans (disposed_record s event).symm

theorem Phase.transfer (phase : Phase s last) (closed : next.closed = s.closed)
    (timers : next.timers = s.timers) (pending : next.reconnectTimer = s.reconnectTimer) :
    Phase next last := by
  rcases phase with ⟨running, unclosed, none⟩ | ⟨running, ended, timer, delay, one, mine⟩ |
    ⟨finished, ending, none⟩
  · exact .connected (closed.trans running) unclosed (timers.trans none)
  · exact .waiting (closed.trans running) ended timer delay (timers.trans one) (pending.trans mine)
  · exact .disposed (closed.trans finished) ending (timers.trans none)

theorem Invariant.onOpen (invariant : Invariant s n .connecting) (i : Nat) :
    Invariant ((onOpen (LiveFeed.become s n .opened)).record (.opened i)) n .opened where
  sockets := invariant.become .opened
  current := invariant.current
  attempt _ := rfl
  disposed := invariant.still nofun
  phase := by
    rcases invariant.phase with ⟨running, _, timers⟩ | ⟨_, ended, _⟩ | ⟨_, ending, _⟩
    · exact .connected running (by decide) timers
    · cases ended
    · rcases ending with ending | ending <;> cases ending

theorem onMessage_eq (text : List Char) (s : State) :
    ∃ calls, LiveFeed.onMessage text s = { s with calls := calls } := by
  unfold onMessage
  cases frameOf text with
  | none => exact ⟨s.calls, rfl⟩
  | some frame => exact ⟨_, rfl⟩

theorem Invariant.onMessage (invariant : Invariant s n last) (i : Nat) (text : List Char) :
    Invariant ((onMessage text s).record (.message i text)) n last := by
  obtain ⟨calls, same⟩ := onMessage_eq text s
  rw [same]
  exact
    { sockets := invariant.sockets
      current := invariant.current
      attempt := invariant.attempt
      disposed := invariant.still nofun
      phase := invariant.phase.transfer rfl rfl rfl }

theorem Invariant.onError (invariant : Invariant s n last) (unclosed : last ≠ .closed) (i : Nat) :
    Invariant ((closeSocket (LiveFeed.become s n .closing)).record (.error i)) n .closing := by
  rw [closeSocket_of_current (invariant.become .closing) invariant.current]
  refine ⟨rfl, invariant.current, invariant.attempt, invariant.still nofun, ?_⟩
  rcases invariant.phase with ⟨running, _, timers⟩ | ⟨_, ended, _⟩ | ⟨finished, _, timers⟩
  · exact .connected running (by decide) timers
  · exact absurd ended unclosed
  · exact .disposed finished (.inl rfl) timers

/-- A failure while the connection is wanted. -/
theorem onClose_running (running : s.closed = false) (timers : s.timers = []) :
    LiveFeed.onClose (LiveFeed.become s n .closed) =
      { LiveFeed.become s n .closed with
        calls := s.calls ++ [.onStatusChange .disconnected]
        timers := [(s.nextTimer, min (1000 * 2 ^ s.attempt) 15000)]
        reconnectTimer := some s.nextTimer
        nextTimer := s.nextTimer + 1
        attempt := s.attempt + 1 } := by
  simp [LiveFeed.onClose, LiveFeed.become, scheduleReconnect, running, timers, reconnectBaseDelayMs,
    reconnectMaxDelayMs]

theorem onClose_finished (finished : s.closed = true) :
    LiveFeed.onClose (LiveFeed.become s n .closed) = LiveFeed.become s n .closed := by
  simp [LiveFeed.onClose, LiveFeed.become, finished]

theorem Invariant.onClose (invariant : Invariant s n last) (unclosed : last ≠ .closed) (i : Nat) :
    Invariant ((onClose (LiveFeed.become s n .closed)).record (.closed i)) n .closed := by
  have still : s.closed = true ↔ (s.record (.closed i)).Disposed := invariant.still nofun
  rcases invariant.phase with ⟨running, _, timers⟩ | ⟨_, ended, _⟩ | ⟨finished, _, timers⟩
  · rw [onClose_running running timers]
    refine ⟨invariant.become .closed, invariant.current, fun _ => ?_, still, ?_⟩
    · exact congrArg (· + 1) (invariant.attempt running)
    · exact .waiting running rfl _ _ rfl rfl
  · exact absurd ended unclosed
  · rw [onClose_finished finished]
    refine ⟨invariant.become .closed, invariant.current, fun running => ?_,
      still, .disposed finished (.inr rfl) timers⟩
    exact absurd (finished.symm.trans running) nofun

theorem Invariant.onTimeout (invariant : Invariant s n last) {timer : Nat}
    (fired : timer ∈ s.timers.map Prod.fst) :
    Invariant
      ((openSocket { s with timers := s.timers.filter fun pending => pending.1 != timer }).record
      (.timeout timer)) (n + 1) .connecting := by
  rcases invariant.phase with ⟨_, _, timers⟩ | ⟨running, ended, _, delay, timers,
    _⟩ | ⟨_, _, timers⟩
  · simp [timers] at fired
  · rw [timers, List.map_singleton, List.mem_singleton] at fired
    subst fired
    have opens : openSocket { s with timers := s.timers.filter fun pending => pending.1 != timer } =
        { s with
          timers := []
          calls := s.calls ++ [.onStatusChange .connecting]
          sockets := List.replicate (n + 1) .closed ++ [.connecting]
          socket := some (n + 1) } := by
      simp [openSocket, running, timers, invariant.sockets, ended, List.replicate_succ']
    rw [opens]
    exact ⟨rfl, rfl, invariant.attempt, invariant.still nofun, .connected running (by decide) rfl⟩
  · simp [timers] at fired

theorem Invariant.disconnect (invariant : Invariant s n last) :
    LiveFeed.disconnect s =
      { s with
        closed := true
        timers := []
        sockets := List.replicate n .closed ++ [last.close] } := by
  have cleared : clearReconnectTimer { s with closed := true } =
    { s with closed := true, timers := [] } := by
    rcases invariant.phase with ⟨_, _, timers⟩ | ⟨_, _, timer, delay, timers,
      pending⟩ | ⟨_, _, timers⟩
    · cases s.reconnectTimer <;> simp only [clearReconnectTimer, timers, List.filter_nil]
    · simp [clearReconnectTimer, pending, timers]
    · cases s.reconnectTimer <;> simp only [clearReconnectTimer, timers, List.filter_nil]
  rw [LiveFeed.disconnect, cleared]
  exact closeSocket_of_current invariant.sockets invariant.current

theorem Invariant.onDispose (invariant : Invariant s n last) :
    Invariant ((LiveFeed.disconnect s).record .dispose) n last.close := by
  rw [invariant.disconnect]
  refine ⟨rfl, invariant.current, nofun, ?_, .disposed rfl ?_ rfl⟩
  · exact iff_of_true rfl ((disposed_record _ _).mpr (.inl rfl))
  · cases last with
    | closed => exact .inr rfl
    | _ => exact .inl rfl

/-- What the event of a socket needs. -/
theorem handled_unclosed {i : Nat} {result : State}
    (handled : (match s.sockets[i]? with
      | none | some .closed => none
      | some _ => some result) = some next) :
    ∃ state, s.sockets[i]? = some state ∧ state ≠ .closed ∧ next = result := by
  cases found : s.sockets[i]? with
  | none => simp [found] at handled
  | some state => cases state <;> simp_all

/-- What `handle` does, for the last socket alone. -/
inductive Acts (s : State) (n : Nat) (last : ReadyState) : Event → State → Prop where
  | opened (connecting : last = .connecting) :
    Acts s n last (.opened n) (onOpen (become s n .opened))
  | message (text : List Char) (opened : last = .opened) :
      Acts s n last (.message n text) (onMessage text s)
  | error (unclosed : last ≠ .closed) : Acts s n last (.error n) (closeSocket (become s n .closing))
  | closed (unclosed : last ≠ .closed) : Acts s n last (.closed n) (onClose (become s n .closed))
  | timeout {timer : Nat} (fired : timer ∈ s.timers.map Prod.fst) : Acts s n last (.timeout timer)
      (openSocket { s with timers := s.timers.filter fun pending => pending.1 != timer })
  | dispose : Acts s n last .dispose (disconnect s)

theorem Acts.history (acts : Acts s n last event next) : next.history = s.history := by
  cases acts with
  | opened _ => rfl
  | message text _ =>
    obtain ⟨calls, same⟩ := onMessage_eq text s
    rw [same]
  | error _ =>
    unfold closeSocket
    split <;> rfl
  | closed _ =>
    unfold onClose scheduleReconnect
    split <;> rfl
  | timeout _ =>
    unfold openSocket
    split <;> rfl
  | dispose =>
    unfold disconnect closeSocket clearReconnectTimer
    split <;> split <;> rfl

theorem Invariant.acts (invariant : Invariant s n last) (handled : handle s event = some next) :
    Acts s n last event next := by
  cases event with
  | opened i =>
    obtain ⟨found, same⟩ := Option.ite_none_right_eq_some.mp handled
    obtain ⟨rfl, rfl⟩ := invariant.at_last found nofun
    cases same
    exact .opened rfl
  | message i text =>
    obtain ⟨found, same⟩ := Option.ite_none_right_eq_some.mp handled
    obtain ⟨rfl, rfl⟩ := invariant.at_last found nofun
    cases same
    exact .message text rfl
  | error i =>
    obtain ⟨state, found, unclosed, rfl⟩ := handled_unclosed handled
    obtain ⟨rfl, rfl⟩ := invariant.at_last found unclosed
    exact .error unclosed
  | closed i =>
    obtain ⟨state, found, unclosed, rfl⟩ := handled_unclosed handled
    obtain ⟨rfl, rfl⟩ := invariant.at_last found unclosed
    exact .closed unclosed
  | timeout timer =>
    obtain ⟨fired, same⟩ := Option.ite_none_right_eq_some.mp handled
    cases same
    exact .timeout fired
  | dispose =>
    cases handled
    exact .dispose

theorem sound_step (sound : Sound s) (taken : step s event = some next) : Sound next := by
  obtain ⟨n, last, invariant⟩ := sound
  obtain ⟨after, handled, rfl⟩ := Option.map_eq_some_iff.mp taken
  cases invariant.acts handled with
  | opened connecting =>
    subst connecting
    exact ⟨n, .opened, invariant.onOpen n⟩
  | message text _ => exact ⟨n, last, invariant.onMessage n text⟩
  | error unclosed => exact ⟨n, .closing, invariant.onError unclosed n⟩
  | closed unclosed => exact ⟨n, .closed, invariant.onClose unclosed n⟩
  | timeout fired => exact ⟨n + 1, .connecting, invariant.onTimeout fired⟩
  | dispose => exact ⟨n, last.close, invariant.onDispose⟩

/-- Disposed: no socket opens, none is heard, and no timer fires. -/
theorem Invariant.silent (invariant : Invariant s n last) (finished : s.Disposed) :
    s.closed = true ∧ s.timers = [] ∧ (last = .closing ∨ last = .closed) := by
  have closed := invariant.disposed.mpr finished
  rcases invariant.phase with ⟨running, _⟩ | ⟨running, _⟩ | ⟨_, ending, timers⟩
  · exact absurd (closed.symm.trans running) nofun
  · exact absurd (closed.symm.trans running) nofun
  · exact ⟨closed, timers, ending⟩

theorem steady_step (sound : Sound s) (taken : step s event = some next) : Steady s event next := by
  obtain ⟨n, last, invariant⟩ := sound
  obtain ⟨after, handled, rfl⟩ := Option.map_eq_some_iff.mp taken
  have acts := invariant.acts handled
  constructor
  · rintro i rfl running
    cases acts with
    | closed unclosed =>
      have open_ : s.closed = false := by
        rw [← Bool.not_eq_true, invariant.disposed]
        exact running
      have idle : s.timers = [] := by
        rcases invariant.phase with ⟨_, _, timers⟩ | ⟨_, ended, _⟩ | ⟨_, _, timers⟩
        · exact timers
        · exact absurd ended unclosed
        · exact timers
      rw [onClose_running open_ idle, invariant.attempt open_]
      rfl
  · intro finished
    rcases (disposed_record after event).mp finished with rfl | before
    · cases acts
      rw [invariant.disconnect, invariant.sockets]
      exact ⟨by simp [State.record], rfl⟩
    · rw [State.Disposed, acts.history] at before
      obtain ⟨closed, timers, ending⟩ := invariant.silent before
      cases acts with
      | opened connecting => rcases ending with rfl | rfl <;> cases connecting
      | message text opened => rcases ending with rfl | rfl <;> cases opened
      | error unclosed =>
        rw [closeSocket_of_current (invariant.become .closing) invariant.current, invariant.sockets]
        exact ⟨by simp [State.record], rfl⟩
      | closed unclosed =>
        rw [onClose_finished closed]
        exact ⟨List.length_set, rfl⟩
      | timeout fired => simp [timers] at fired
      | dispose =>
        rw [invariant.disconnect, invariant.sockets]
        exact ⟨by simp [State.record], rfl⟩

theorem skipsMalformed_iff {i : Nat} (taken : step s (.message i text) = some next) :
    SkipsMalformed s (.message i text) next ↔ wellFormed text ∨ bodiless text := by
  obtain ⟨after, handled, rfl⟩ := Option.map_eq_some_iff.mp taken
  obtain ⟨_, same⟩ := Option.ite_none_right_eq_some.mp handled
  cases same
  rw [← frameOf_eq_none]
  constructor
  · intro skips
    by_cases shaped : wellFormed text = true
    · exact .inl shaped
    · have unchanged := congrArg State.calls (skips i text rfl shaped)
      change (onMessage text s).calls = s.calls at unchanged
      cases passed : frameOf text with
      | none => exact .inr rfl
      | some frame => simp [onMessage, passed] at unchanged
  · rintro (shaped | passed) j other ⟨⟩ malformed
    · exact absurd shaped malformed
    · simp only [onMessage, passed]

/-- A payload that is a frame, or that `onmessage` makes nothing of. -/
def Event.Fit (event : Event) : Prop :=
  ∀ i text, event = .message i text → wellFormed text ∨ bodiless text

structure Holds (s : State) (event : Event) (next : State) : Prop where
  healthy : Healthy next
  steady : Steady s event next
  skips : SkipsMalformed s event next

theorem holds_iff_fit (sound : Sound s) (taken : step s event = some next) :
    Holds s event next ↔ event.Fit := by
  obtain ⟨n, last, invariant⟩ := sound_step sound taken
  have rest := steady_step sound taken
  constructor
  · rintro holds i text rfl
    exact (skipsMalformed_iff taken).mp holds.skips
  · intro fit
    refine ⟨invariant.healthy, rest, ?_⟩
    rintro i text rfl
    exact (skipsMalformed_iff taken).mpr (fit i text rfl) i text rfl

/-- The connection is a single socket that heals itself in every run, and it skips what is malformed
in exactly those runs whose messages either are frames or have no body. -/
theorem heals_iff_fit (events : List Event)
    (run : (connect.replay (fun _ _ => True) connect.init events).isSome) :
    Healthy connect.init ∧
      connect.Throughout (fun s event next => Healthy next ∧
        Steady s event next) connect.init events ∧
      (connect.Throughout Holds connect.init events ↔ ∀ event ∈ events, event.Fit) := by
  obtain ⟨n, last, invariant⟩ := sound_connect
  refine ⟨invariant.healthy, ?_, ?_⟩
  · refine (@TransitionSystem.throughout_iff _ _ _ _ _ Sound events
      (fun _ => True) run sound_connect ?_).mpr
      fun _ _ => trivial
    intro state event next sound taken
    obtain ⟨n, last, after⟩ := sound_step sound taken
    exact ⟨⟨n, last, after⟩, iff_of_true ⟨after.healthy, steady_step sound taken⟩ trivial⟩
  · refine TransitionSystem.throughout_iff run sound_connect ?_
    intro state event next sound taken
    exact ⟨sound_step sound taken, holds_iff_fit sound taken⟩

/-- A connection that works, fails twice and comes back before it is disposed of. -/
theorem heals_iff_fit_again :
    let events : List Event :=
      [.opened 0, .message 0 "ping".toList, .error 0, .closed 0, .timeout 1, .closed 1,
        .timeout 2, .opened 2, .dispose, .closed 2]
    Healthy connect.init ∧
      connect.Throughout (fun s event next => Healthy next ∧
        Steady s event next) connect.init events ∧
      (connect.Throughout Holds connect.init events ↔ ∀ event ∈ events, event.Fit) :=
  heals_iff_fit _ (by decide +kernel)

/-- The text of a trip frame whose trip is an empty object. -/
def emptyTrip : List Char := "\x7b\"type\":\"trip\",\"trip\":\x7b\x7d\x7d".toList

/-- A trip without its properties is passed on: a trip of nothing but undefined. -/
theorem empty_trip_passes :
    let events : List Event := [.opened 0, .message 0 emptyTrip]
    (connect.replay (fun _ _ => True) connect.init events).isSome ∧
      ¬connect.Throughout Holds connect.init events := by
  refine ⟨by decide +kernel, ?_⟩
  rintro ⟨first, opened, _, second, heard, holds, _⟩
  have fit := (skipsMalformed_iff heard).mp holds.skips
  have shapeless : wellFormed emptyTrip = false := by decide +kernel
  have embodied : bodiless emptyTrip = false := by decide +kernel
  simp [shapeless, embodied] at fit

end OpenScale.LiveFeed
