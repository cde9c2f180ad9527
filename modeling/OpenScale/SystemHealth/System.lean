import Mathlib.Logic.Function.Basic
import OpenScale.Library.TransitionSystem
import OpenScale.SystemHealth.Rules

/-! A tab that polls the system health beside requests to start, stop and restart containers. The
handlers inspect one container after another, while Docker goes on; answers arrive in any order. -/

namespace OpenScale.SystemHealth

open OpenScale.Library

/-- What an inspection of a container finds, by the container's name. -/
abbrev Docker := String → Inspection

inductive Action where
  | start
  | stop
  | restart
  deriving DecidableEq

/-- A request for the summary: when it was made, counted in changes of Docker, and what was checked
so far. -/
structure Poll where
  asked : Nat
  checked : List ServiceHealth

inductive Stage where
  | requested
  /-- Docker has done it, at this time. -/
  | done (svc : WatchedService) (at_ : Nat)
  | answered (updated : ServiceHealth) (at_ : Nat)
  | refused
  | settled

structure Call where
  id : String
  action : Action
  stage : Stage

structure State where
  docker : Docker
  /-- What Docker was before, in order. -/
  past : List Docker
  /-- The inspections that got no answer in time: when, and of which container. -/
  unanswered : List (Nat × String)
  /-- The cached summary, and for each service the time of the request that its entry answers. -/
  data : Option Summary
  fresh : String → Nat
  poll : Option Poll
  calls : List Call
  /-- What was asked of Docker. -/
  commands : List (Action × String)

def State.history (s : State) : List Docker := s.past ++ [s.docker]

def State.now (s : State) : Nat := s.past.length

inductive Event where
  /-- Docker changes, by itself or for an action. -/
  | change (docker : Docker)
  | poll
  /-- The handler checks its next container. Past the deadline there is no answer. -/
  | inspect (inTime : Bool) (latency : String)
  | arrive
  | lose
  | act (id : String) (action : Action)
  | perform (call : Nat) (succeeds : Bool)
  | checkOne (call : Nat) (inTime : Bool) (latency : String)
  /-- `onSuccess` or not, and `onSettled`. -/
  | settle (call : Nat)

def inspection (docker : Docker) (svc : WatchedService) (inTime : Bool) : Inspection :=
  if inTime then docker svc.containerName else none

def State.note (s : State) (svc : WatchedService) (inTime : Bool) : State :=
  if inTime then s else { s with unanswered := s.unanswered ++ [(s.now, svc.containerName)] }

/-- The updater of `setQueryData`. -/
def patch (updated : ServiceHealth) (current : Summary) : Summary :=
  let services := current.services.map fun service =>
    if service.id == updated.id then updated else service
  ⟨services, Frontend.deriveOverallStatus services⟩

/-- `invalidateQueries`: another request takes the place of one that is on its way, unless there is
no data yet. -/
def State.invalidate (s : State) : State :=
  match s.data, s.poll with
  | none, some _ => s
  | _, _ => { s with poll := some ⟨s.now, []⟩ }

def State.setStage (s : State) (call : Nat) (stage : Stage) : State :=
  { s with calls := s.calls.modify call fun made => { made with stage := stage } }

def step (s : State) : Event → Option State
  | .change docker => some { s with docker := docker, past := s.past ++ [s.docker] }
  | .poll => if s.poll.isNone then some { s with poll := some ⟨s.now, []⟩ } else none
  | .inspect inTime latency => do
    let poll ← s.poll
    let svc ← watchedServices[poll.checked.length]?
    let checked := poll.checked ++ [check svc (inspection s.docker svc inTime) latency]
    return { s.note svc inTime with poll := some { poll with checked := checked } }
  | .arrive => do
    let poll ← s.poll
    if poll.checked.length = watchedServices.length then
      some { s with
        data := some ⟨poll.checked, deriveOverallStatus poll.checked⟩
        fresh := fun _ => poll.asked
        poll := none }
    else none
  | .lose => if s.poll.isSome then some { s with poll := none } else none
  | .act id action => some { s with calls := s.calls ++ [⟨id, action, .requested⟩] }
  | .perform call succeeds =>
    match s.calls[call]? with
    | some ⟨id, action, .requested⟩ =>
      match findWatchedService id with
      | none => some (s.setStage call .refused)
      | some svc =>
        let asked := { s with commands := s.commands ++ [(action, svc.containerName)] }
        some (asked.setStage call (if succeeds then .done svc s.now else .refused))
    | _ => none
  | .checkOne call inTime latency =>
    match s.calls[call]? with
    | some ⟨_, _, .done svc at_⟩ =>
      some
        ((s.note svc inTime).setStage call
          (.answered (check svc (inspection s.docker svc inTime) latency) at_))
    | _ => none
  | .settle call =>
    match s.calls[call]? with
    | some ⟨_, _, .answered updated at_⟩ =>
      let patched := { s with
        data := s.data.map (patch updated)
        fresh := Function.update s.fresh updated.id at_ }
      some (patched.setStage call .settled).invalidate
    | some ⟨_, _, .refused⟩ => some (s.setStage call .settled).invalidate
    | _ => none

def init (docker : Docker) : State where
  docker := docker
  past := []
  unanswered := []
  data := none
  fresh _ := 0
  poll := none
  calls := []
  commands := []

def system (docker : Docker) : TransitionSystem State Event := ⟨init docker, step⟩

end OpenScale.SystemHealth
