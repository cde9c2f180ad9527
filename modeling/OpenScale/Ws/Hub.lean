import OpenScale.Library.Channel
import OpenScale.Library.TransitionSystem
import OpenScale.Ws.Calls

/-! The job hub. Each critical section, each send of Run and each receive is one step. -/

namespace OpenScale.Ws

open OpenScale.Library OpenScale.Library.GoSlice

structure JobEvent where
  jobId : String
  type : String
  status : String
  line : String
  sentAt : String

/-- The capacity of a subscriber's channel. -/
def bufferSize : Nat := 16

structure Subscriber where
  jobId : String
  channel : Channel JobEvent bufferSize
  received : List JobEvent
  /-- Each event that Run tried to send, and whether the buffer was full then. -/
  offered : List (JobEvent × Bool)

/-- The events for which there was room. -/
def Subscriber.accepted (sub : Subscriber) : List JobEvent :=
  (sub.offered.filter fun offer => !offer.2).map Prod.fst

/-- An event, the calls that came before its snapshot, and the channels that it has been offered
to. -/
structure Round where
  event : JobEvent
  calls : List Call
  offered : List Chan

/-- The channels that were registered for its job id at its snapshot. -/
def Round.targets (round : Round) : List Chan := (registered round.calls round.event.jobId).map some

/-- The loop over the snapshot, before its iteration `next`. -/
structure Sending where
  round : Round
  subs : Slice
  next : Nat

/-- Channels are numbered in the order in which they are made. `calls`, `events` and `finished` are
history variables: the calls so far, the events that Run has taken, and those that it is through
with. -/
structure Hub where
  registry : Registry
  subscribers : List Subscriber
  sending : Option Sending
  panicked : Bool
  calls : List Call
  events : List JobEvent
  finished : List Round

def newHub : Hub := ⟨.empty, [], none, false, [], [], []⟩

inductive Action where
  | subscribe (jobId : String)
  | unsubscribe (ch : Nat)
  | take (event : JobEvent)
  | offer
  | handled
  | receive (ch : Nat)

namespace Hub

variable (spare : Nat → Nat → Nat) (hub : Hub)

def subscribe (jobId : String) : Hub :=
  let ch := hub.subscribers.length
  { hub with
    registry := hub.registry.subscribe spare jobId ch
    subscribers := hub.subscribers ++ [⟨jobId, .make JobEvent bufferSize, [], []⟩]
    calls := hub.calls ++ [.subscribe jobId ch] }

/-- It is called once for each subscription. -/
def unsubscribe (ch : Nat) : Option Hub :=
  match hub.subscribers[ch]? with
  | none => none
  | some sub =>
    if .unsubscribe ch ∈ hub.calls then none
    else
      match sub.channel.close with
      | none => some { hub with panicked := true }
      | some channel =>
        some { hub with
          registry := hub.registry.unsubscribe spare sub.jobId ch
          subscribers := hub.subscribers.set ch { sub with channel := channel }
          calls := hub.calls ++ [.unsubscribe ch] }

def take (event : JobEvent) : Option Hub :=
  match hub.sending with
  | some _ => none
  | none =>
    let copied := hub.registry.snapshot spare event.jobId
    some { hub with
      registry := copied.1
      sending := some ⟨⟨event, hub.calls, []⟩, copied.2, 0⟩
      events := hub.events ++ [event] }

def advance (sending : Sending) (ch : Chan) : Hub :=
  { hub with sending := some { sending with
      round := { sending.round with offered := sending.round.offered ++ [ch] }
      next := sending.next + 1 } }

/-- The select of one iteration. A send on a nil channel is never ready. -/
def offer (sending : Sending) (ch : Chan) : Option Hub :=
  match ch with
  | none => some (hub.advance sending none)
  | some c =>
    match hub.subscribers[c]? with
    | none => none
    | some sub =>
      match sub.channel.trySend sending.round.event with
      | none => some { hub with panicked := true }
      | some channel =>
        some { hub.advance sending (some c) with
          subscribers := hub.subscribers.set c
            { sub with
              channel := channel
              offered := sub.offered ++ [(sending.round.event, sub.channel.isFull)] } }

def receive (ch : Nat) : Option Hub :=
  match hub.subscribers[ch]? with
  | none => none
  | some sub =>
    match sub.channel.receive with
    -- a receive from a closed channel tells its reader so, and takes nothing
    | none => none
    | some (event, channel) =>
      some { hub with
        subscribers := hub.subscribers.set ch
          { sub with channel := channel, received := sub.received ++ [event] } }

end Hub

/-- Run reads its snapshot from the heap at each iteration. A panic ends the process. -/
def step (spare : Nat → Nat → Nat) (hub : Hub) (action : Action) : Option Hub :=
  if hub.panicked then none
  else
    match action with
    | .subscribe jobId => some (hub.subscribe spare jobId)
    | .unsubscribe ch => hub.unsubscribe spare ch
    | .take event => hub.take spare event
    | .offer => do
      let sending ← hub.sending
      let ch ← (read hub.registry.heap sending.subs)[sending.next]?
      hub.offer sending ch
    | .handled =>
      match hub.sending with
      | none => none
      | some sending =>
        if sending.next < sending.subs.length then none
        else some { hub with sending := none, finished := hub.finished ++ [sending.round] }
    | .receive ch => hub.receive ch

def system (spare : Nat → Nat → Nat) : TransitionSystem Hub Action := ⟨newHub, step spare⟩

end OpenScale.Ws
