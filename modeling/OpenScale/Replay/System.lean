import Mathlib.Data.List.Perm.Basic
import Mathlib.Data.Rat.Defs
import OpenScale.Library.TransitionSystem
import OpenScale.Worker.JobModules

/-! One execution of the replay job beside the control commands for it: the control
hash in Redis with its time to live, the topic in Kafka, and the place in the code that
the job has reached. Every call to Redis or Kafka is one step, and so is every command. -/

namespace OpenScale.Replay

open OpenScale.Library OpenScale.Library.Python OpenScale.Jobs OpenScale.Worker

section Commands

inductive Command where
  | pause
  | resume
  | cancel
  | setSpeed (multiplier : Nat)
  deriving DecidableEq, Repr

def validSpeedMultipliers : List ℚ := [1, 2, 3, 5, 10]

/-- The commands of `Control`, by the request. -/
def control (action : String) (speedMultiplier : Option ℚ) : Except String Command :=
  if action = "pause" then .ok .pause
  else if action = "resume" then .ok .resume
  else if action = "cancel" then .ok .cancel
  else if action = "setSpeed" then
    match speedMultiplier with
    | some multiplier =>
      if validSpeedMultipliers.contains multiplier then .ok (.setSpeed multiplier.num.toNat)
      else .error "speedMultiplier must be one of 1, 2, 3, 5, 10"
    | none => .error "speedMultiplier must be one of 1, 2, 3, 5, 10"
  else .error "unknown action"

/-- The field that a command writes, and its value. -/
def Command.field : Command → String × String
  | pause => ("paused", "true")
  | resume => ("paused", "false")
  | cancel => ("cancelled", "true")
  | setSpeed multiplier => ("speed", toString multiplier)

/-- What the send loop reads from a control hash. -/
structure Settings where
  paused : Bool
  cancelled : Bool
  speed : String
  deriving DecidableEq, Repr

def defaults : Settings := ⟨false, false, "1"⟩

/-- What a control hash makes the send loop do. -/
def settings (state : ControlState) : Settings :=
  ⟨isSet state "paused", isSet state "cancelled", speedText state⟩

def Settings.accept (settings : Settings) : Command → Settings
  | .pause => { settings with paused := true }
  | .resume => { settings with paused := false }
  | .cancel => { settings with cancelled := true }
  | .setSpeed multiplier => { settings with speed := toString multiplier }

/-- The last command for each setting, or its default. -/
def lastAccepted (commands : List Command) : Settings := commands.foldl Settings.accept defaults

end Commands

section World

def hset (state : ControlState) (field value : String) : ControlState :=
  state.filter (fun entry => entry.1 != field) ++ [(field, value)]

def hsetnx (state : ControlState) (field value : String) : ControlState :=
  if (state.lookup field).isSome then state else state ++ [(field, value)]

/-- Days of a timestamp in microseconds. -/
def toDate (timestamp : Int) : Int := timestamp / 86400000000

/-- A Silver trip: its pickup time, and its row as it is sent. -/
structure Trip where
  pickup : Int
  record : String
  deriving DecidableEq, Repr

/-- What Redis and Kafka hold. The hash exists while it has fields; `deadline` is when
Redis removes it. `commands` are the accepted commands, and `refreshing` counts those
whose `EXPIRE` is still to come. -/
structure World where
  hash : ControlState
  deadline : Option Nat
  now : Nat
  commands : List Command
  refreshing : Nat
  topic : List Trip

/-- `EXPIRE`, which does nothing without a hash. -/
def World.expire (world : World) : World :=
  if world.hash.isEmpty then world
  else { world with deadline := some (world.now + controlKeyTtlSeconds) }

def World.delete (world : World) : World := { world with hash := [], deadline := none }

/-- The hash has reached its deadline, after so much more time. -/
def World.expires (world : World) (seconds : Nat) : Bool :=
  world.deadline.any fun deadline => deadline ≤ world.now + seconds

def World.wait (world : World) (seconds : Nat) : World :=
  let later := { world with now := world.now + seconds }
  if world.expires seconds then later.delete else later

def World.command (world : World) (command : Command) : World :=
  { world with
    hash := hset world.hash command.field.1 command.field.2
    commands := world.commands ++ [command]
    refreshing := world.refreshing + 1 }

end World

inductive Place where
  | queued
  /-- The fields that are still to be initialised. -/
  | initialising (fields : List (String × String))
  | expiring
  | loading
  /-- The next call reads the hash, before a trip or again while paused. -/
  | polling (paused : Bool)
  /-- The hash was read before the next trip, and lets it be sent. -/
  | sending (state : ControlState)
  | flushing
  | deleting
  | cancelling
  | returned (status : Status) (rowsProcessed : Option Nat)
  /-- An exception outside of the try block. -/
  | raised

def Place.isOver : Place → Bool
  | returned _ _ | raised => true
  | _ => false

/-- `day` is what `_load_day` returned, and `rest` the trips that are still to be sent. -/
structure State where
  world : World
  place : Place
  day : List Trip
  rest : List Trip

/-- What the job is about. `date` is the date that the params ask for, as the comparison
with it casts it: a text that is no date equals none. -/
structure Plan where
  silver : List Trip
  date : Option (Option Int)
  limit : Nat

/-- The date of `_load_day`: the latest one unless the params give one. -/
def Plan.pickupDate (plan : Plan) : Option (Option Int) :=
  match plan.date with
  | some date => some date
  | none => ((plan.silver.map fun trip => toDate trip.pickup).max?).map some

def Plan.dayTrips (plan : Plan) (date : Option Int) : List Trip :=
  plan.silver.filter fun trip => some (toDate trip.pickup) == date

/-- What `sort_values` can make of the trips of the date: equal times come in any order. -/
def Plan.IsDay (plan : Plan) (day : List Trip) : Prop :=
  ∃ date ∈ plan.pickupDate, day.Perm (plan.dayTrips date) ∧ day.Pairwise fun a b =>
    a.pickup ≤ b.pickup

instance (plan : Plan) (day : List Trip) : Decidable (plan.IsDay day) :=
  inferInstanceAs (Decidable (∃ date ∈ plan.pickupDate,
    day.Perm (plan.dayTrips date) ∧ day.Pairwise fun a b => a.pickup ≤ b.pickup))

inductive Event where
  /-- A control request, up to its `HSET`. -/
  | control (action : String) (speedMultiplier : Option ℚ)
  /-- Its `EXPIRE`. -/
  | refresh
  | wait (seconds : Nat)
  /-- The worker takes the job. -/
  | start
  | hsetnx
  | expire
  | load (day : List Trip)
  | poll
  | send
  | flush
  | delete
  /-- The next call of the job raises instead. -/
  | raise

def Event.isWorker : Event → Bool
  | control _ _ | refresh | wait _ => false
  | _ => true

def initialFields : List (String × String) :=
  [("paused", "false"), ("speed", "1"), ("cancelled", "false")]

/-- Where the job is after it read the hash. -/
def afterPoll (state : ControlState) : Place :=
  if isSet state "cancelled" then .cancelling
  else if isSet state "paused" then .polling true
  else .sending state

/-- `sent or None`. -/
def sentOrNone (sent : Nat) : Option Nat := if sent = 0 then none else some sent

variable (plan : Plan) (state : State)

/-- The worker performs its next call, and goes on. -/
def State.goes (world : World) (place : Place) : State :=
  { state with world := world, place := place }

def step : Event → Option State
  | .control action speedMultiplier =>
    match control action speedMultiplier with
    | .ok command => some { state with world := state.world.command command }
    | .error _ => none
  | .refresh =>
    if 0 < state.world.refreshing then
      some
        { state with world := { state.world.expire with refreshing := state.world.refreshing - 1 } }
    else none
  | .wait seconds => some { state with world := state.world.wait seconds }
  | .start =>
    match state.place with
    | .queued => some (state.goes state.world (.initialising initialFields))
    | _ => none
  | .hsetnx =>
    match state.place with
    | .initialising ((field, value) :: fields) =>
      some (state.goes { state.world with hash := hsetnx state.world.hash field value }
        (if fields.isEmpty then .expiring else .initialising fields))
    | _ => none
  | .expire =>
    match state.place with
    | .expiring => some (state.goes state.world.expire .loading)
    | _ => none
  | .load day =>
    match state.place with
    | .loading =>
      if plan.IsDay day then
        some { state with
          place := if (day.take plan.limit).isEmpty then .returned .succeeded (some 0)
            else .polling false
          day := day
          rest := day.take plan.limit }
      else none
    | _ => none
  | .poll =>
    match state.place with
    | .polling _ => some (state.goes state.world (afterPoll state.world.hash))
    | _ => none
  | .send =>
    match state.place, state.rest with
    | .sending _, trip :: rest => some { state with
        world := { state.world with topic := state.world.topic ++ [trip] }
        place := if rest.isEmpty then .flushing else .polling false
        rest := rest }
    | _, _ => none
  | .flush =>
    match state.place with
    | .flushing => some (state.goes state.world .deleting)
    | _ => none
  | .delete =>
    match state.place with
    | .deleting =>
      some (state.goes state.world.delete (.returned .succeeded (some state.world.topic.length)))
    | .cancelling =>
      some
        (state.goes state.world.delete (.returned .cancelled (sentOrNone state.world.topic.length)))
    | _ => none
  | .raise =>
    match state.place with
    | .initialising _ | .expiring | .deleting => some (state.goes state.world .raised)
    | .loading | .polling _ | .sending _ | .flushing | .cancelling =>
      some (state.goes state.world (.returned .failed (sentOrNone state.world.topic.length)))
    | .queued | .returned _ _ | .raised => none

def init : State where
  world := ⟨[], none, 0, [], 0, []⟩
  place := .queued
  day := []
  rest := []

def system : TransitionSystem State Event := ⟨init, step plan⟩

end OpenScale.Replay
