import OpenScale.Library.Channel
import OpenScale.Library.TransitionSystem

/-! The stream hub: one channel for each subscriber, and a broadcast that never waits for one of
them. Each critical section is one step; receives come in between. -/

namespace OpenScale.Streaming

open OpenScale.Library

universe u

def bufferSize : Nat := 32

inductive Panic where
  | sendOnClosed
  | closeOfClosed
  deriving DecidableEq

/-- A subscriber's channel, and what became of the frames on their way to it. -/
structure Subscriber (Frame : Type u) where
  channel : Channel Frame bufferSize
  received : List Frame
  /-- Each frame that the hub tried to send, and whether the buffer was full then. -/
  offered : List (Frame × Bool)
  /-- How many frames had been broadcast when it subscribed, and when it unsubscribed. -/
  since : Nat
  ended : Option Nat

/-- Channels are numbered in the order in which they are made. -/
structure Hub (Frame : Type u) where
  subs : List Nat
  subscribers : List (Subscriber Frame)
  broadcasts : List Frame
  panicked : Option Panic

def newStreamHub (Frame : Type u) : Hub Frame := ⟨[], [], [], none⟩

inductive Event (Frame : Type u) where
  | subscribe
  | unsubscribe (ch : Nat)
  /-- The loop over the map takes the channels in some order. -/
  | broadcast (frame : Frame) (order : List Nat)
  | receive (ch : Nat)

variable {Frame : Type u}

def Subscriber.fresh (since : Nat) : Subscriber Frame :=
  ⟨.make Frame bufferSize, [], [], since, none⟩

def send (frame : Frame) (subscribers : List (Subscriber Frame)) (ch : Nat) :
    Option (List (Subscriber Frame)) :=
  match subscribers[ch]? with
  | none => some subscribers
  | some sub =>
    match sub.channel.trySend frame with
    | none => none
    | some channel =>
      some (subscribers.set ch
        { sub with channel := channel, offered := sub.offered ++ [(frame, sub.channel.isFull)] })

def sendAll (frame : Frame) : List Nat → List (Subscriber Frame) → Option (List (Subscriber Frame))
  | [], subscribers => some subscribers
  | ch :: order, subscribers => (send frame subscribers ch).bind (sendAll frame order)

def step (hub : Hub Frame) : Event Frame → Option (Hub Frame)
  | .subscribe =>
    if hub.panicked ≠ none then none
    else some { hub with
      subs := hub.subs ++ [hub.subscribers.length]
      subscribers := hub.subscribers ++ [.fresh hub.broadcasts.length] }
  | .unsubscribe ch =>
    match hub.panicked, hub.subscribers[ch]? with
    | none, some sub =>
      if ch ∈ hub.subs then
        match sub.channel.close with
        | none => some { hub with panicked := some .closeOfClosed }
        | some channel =>
          some { hub with
            subs := hub.subs.erase ch
            subscribers := hub.subscribers.set ch
              { sub with channel := channel, ended := some hub.broadcasts.length } }
      else some hub
    | _, _ => none
  | .broadcast frame order =>
    if hub.panicked = none ∧ order.Perm hub.subs then
      match sendAll frame order hub.subscribers with
      | none => some { hub with panicked := some .sendOnClosed }
      | some subscribers =>
        some { hub with subscribers := subscribers, broadcasts := hub.broadcasts ++ [frame] }
    else none
  | .receive ch =>
    match hub.panicked, hub.subscribers[ch]? with
    | none, some sub =>
      match sub.channel.receive with
      | some (frame, channel) =>
        some { hub with
          subscribers := hub.subscribers.set ch
            { sub with channel := channel, received := sub.received ++ [frame] } }
      -- a receive from a closed channel tells its reader so, and takes nothing
      | none => if sub.channel.closed then some hub else none
    | _, _ => none

def system (Frame : Type u) : TransitionSystem (Hub Frame) (Event Frame) :=
  ⟨newStreamHub Frame, step⟩

/-- What was broadcast from one moment on, up to another if there is one. -/
def between (broadcasts : List Frame) (since : Nat) : Option Nat → List Frame
  | none => broadcasts.drop since
  | some n => (broadcasts.take n).drop since

/-- The frames that were broadcast while the subscriber was in the map. -/
def Hub.whileSubscribed (hub : Hub Frame) (sub : Subscriber Frame) : List Frame :=
  between hub.broadcasts sub.since sub.ended

/-- The frames for which there was room. -/
def Subscriber.accepted (sub : Subscriber Frame) : List Frame :=
  (sub.offered.filter fun offer => !offer.2).map Prod.fst

end OpenScale.Streaming
