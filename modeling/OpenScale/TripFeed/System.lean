import Mathlib.Logic.Function.Basic
import OpenScale.LiveFeed.Healing
import OpenScale.Replay.Expiry
import OpenScale.Streaming.Consumer
import OpenScale.Streaming.Delivery
import OpenScale.TripFeed.Wire

/-! The way of a trip to the screen: the replay jobs of the worker, the partition of the topic that
the consumer reads, the hub, one handler for each WebSocket of a tab, and the tab. Other tabs share
the hub. -/

namespace OpenScale.TripFeed

open OpenScale.Library OpenScale.Streaming

/-- How far a handler is with its connection. A write that fails lets it only leave. -/
inductive Handler where
  | pending
  | accepted
  | relaying (ch : Nat)
  | failed (ch : Nat)
  | gone (ch : Nat)
  deriving DecidableEq

def Handler.channel? : Handler → Option Nat
  | pending | accepted => none
  | relaying ch | failed ch | gone ch => some ch

/-- The frames that a handler has written, and how many of them have arrived. -/
structure Link where
  handler : Handler
  sent : List Frame
  arrived : Nat

def Link.fresh : Link := ⟨.pending, [], 0⟩

/-- The frames that the tab has read off a connection. -/
def Link.seen (link : Link) : List Frame := link.sent.take link.arrived

structure State where
  earlier : List (List Replay.Trip)
  plan : Replay.Plan
  job : Replay.State
  /-- The partition, from the offset on at which the reader started. -/
  log : List Replay.Trip
  position : Nat
  /-- What the loop of the consumer has selected. -/
  selected : List Received
  window : WindowAccumulator
  hub : Hub Frame
  links : Nat → Link
  feed : LiveFeed.State

inductive Event where
  /-- A step of the job. What it sends reaches the partition, or another one, or is lost. -/
  | replay (event : Replay.Event) (kept : Bool)
  /-- The worker takes the next replay job. -/
  | next (plan : Replay.Plan)
  | select (received : Received) (order : List Nat)
  | accept (socket : Nat)
  | subscribe (socket : Nat)
  | write (socket : Nat) (succeeds : Bool)
  | leave (socket : Nat)
  | tab (event : LiveFeed.Event)
  | others (event : Streaming.Event Frame)

/-- One round of the consumer's loop: what it broadcasts, and its window. -/
def round (unmarshal : List UInt8 → Option TripEvent) (window : WindowAccumulator) :
    Received → Option (List Frame × WindowAccumulator)
  | .ctxDone | .readerError _ => some ([], window)
  | .tick now => (window.flush now).map fun flushed => ([.window flushed.1], flushed.2)
  | .message value =>
    match unmarshal value with
    | none => some ([], window)
    | some trip => some ([.trip trip], window.add trip)

/-- The value of the message for a trip. -/
def value (trip : Replay.Trip) : List UInt8 := trip.record.toUTF8.toList

/-- The reader's position after the loop selected this. The context of `Run` ends with the
process. -/
def State.read (s : State) : Received → Option Nat
  | .message bytes =>
    if (s.log[s.position]?).map value = some bytes then some (s.position + 1) else none
  | .ctxDone => none
  | _ => some s.position

def State.setLink (s : State) (socket : Nat) (link : Link) : State :=
  { s with links := Function.update s.links socket link }

def upcoming (hub : Hub Frame) (ch : Nat) : Option Frame :=
  ((hub.subscribers[ch]?).bind fun sub => sub.channel.receive).map Prod.fst

/-- The connections after an event of the tab. A socket opens once its request is accepted, and
hears what was written, in that order. -/
def State.arrive (format : Format) (s : State) : LiveFeed.Event → Option State
  | .opened socket => if (s.links socket).handler = .pending then none else some s
  | .message socket text =>
    let link := s.links socket
    if (link.sent[link.arrived]?).map (frameText format) = some text then
      some (s.setLink socket { link with arrived := link.arrived + 1 })
    else none
  | _ => some s

/-- None of the tab's handlers has this channel. -/
def State.Foreign (s : State) (ch : Nat) : Prop :=
  ∀ socket < s.feed.sockets.length, (s.links socket).handler.channel? ≠ some ch

instance (s : State) (ch : Nat) : Decidable (s.Foreign ch) :=
  inferInstanceAs (Decidable (∀ socket < s.feed.sockets.length,
    (s.links socket).handler.channel? ≠ some ch))

/-- What other handlers do to the hub. -/
def State.othersMay (s : State) : Streaming.Event Frame → Prop
  | .subscribe => True
  | .unsubscribe ch | .receive ch => s.Foreign ch
  | .broadcast _ _ => False

instance (s : State) : (event : Streaming.Event Frame) → Decidable (s.othersMay event)
  | .subscribe => inferInstanceAs (Decidable True)
  | .unsubscribe ch | .receive ch => inferInstanceAs (Decidable (s.Foreign ch))
  | .broadcast _ _ => inferInstanceAs (Decidable False)

variable (unmarshal : List UInt8 → Option TripEvent) (format : Format)

/-- The hub after a round of the loop, which broadcasts one frame at most. -/
def relay (hub : Hub Frame) (order : List Nat) : List Frame → Option (Hub Frame)
  | [] => some hub
  | frame :: _ => Streaming.step hub (.broadcast frame order)

def step (s : State) : Event → Option State
  | .replay event kept =>
    (Replay.step s.plan s.job event).map fun job =>
      { s with
        job := job
        log := if kept then s.log ++ job.world.topic.drop s.job.world.topic.length else s.log }
  | .next plan =>
    if s.job.place.isOver then
      some { s with earlier := s.earlier ++ [s.job.world.topic], plan := plan, job := Replay.init }
    else none
  | .select received order => do
    let position ← s.read received
    let (frames, window) ← round unmarshal s.window received
    let hub ← relay s.hub order frames
    return { s with
      position := position
      selected := s.selected ++ [received]
      window := window
      hub := hub }
  | .accept socket =>
    if socket < s.feed.sockets.length ∧ (s.links socket).handler = .pending then
      some (s.setLink socket { s.links socket with handler := .accepted })
    else none
  | .subscribe socket =>
    if (s.links socket).handler = .accepted then do
      let hub ← Streaming.step s.hub .subscribe
      return { s with hub := hub }.setLink socket
        { s.links socket with handler := .relaying s.hub.subscribers.length }
    else none
  | .write socket succeeds =>
    let link := s.links socket
    match link.handler with
    | .relaying ch => do
      let frame ← upcoming s.hub ch
      let hub ← Streaming.step s.hub (.receive ch)
      return { s with hub := hub }.setLink socket
        (if succeeds then { link with sent := link.sent ++ [frame] }
          else { link with handler := .failed ch })
    | _ => none
  | .leave socket =>
    let link := s.links socket
    match link.handler with
    | .relaying ch | .failed ch => do
      let hub ← Streaming.step s.hub (.unsubscribe ch)
      return { s with hub := hub }.setLink socket { link with handler := .gone ch }
    | _ => none
  | .tab event => do
    let arrived ← s.arrive format event
    let feed ← LiveFeed.step s.feed event
    return { arrived with feed := feed }
  | .others event =>
    if s.othersMay event then (Streaming.step s.hub event).map fun hub =>
      { s with hub := hub } else none

/-- The consumer has its place at the end of the partition, and the tab has just been opened. -/
def init (plan : Replay.Plan) (start : Time) : State where
  earlier := []
  plan := plan
  job := Replay.init
  log := []
  position := 0
  selected := []
  window := newWindowAccumulator start
  hub := newStreamHub Frame
  links _ := .fresh
  feed := LiveFeed.connect.init

def system (plan : Replay.Plan) (start : Time) : TransitionSystem State Event :=
  ⟨init plan start, step unmarshal format⟩

/-- What the replay jobs have sent, the one that is on included. -/
def State.runs (s : State) : List (List Replay.Trip) := s.earlier ++ [s.job.world.topic]

end OpenScale.TripFeed
