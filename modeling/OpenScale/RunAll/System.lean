import OpenScale.Library.TransitionSystem
import OpenScale.Query.Wire
import OpenScale.Relay.System

/-! Run All of the frontend: `useRunAllJobs`, and the sockets it waits on. A step is one
turn of the event loop, with the continuations that it settles. -/

namespace OpenScale.RunAll

open OpenScale.Library OpenScale.Jobs

/-- `PIPELINE_ORDER`. -/
def pipelineOrder : List String := ["ingest", "silver", "gold", "features", "train"]

/-- `RunAllState`. -/
inductive Phase where
  | idle
  | running (stepIndex : Nat)
  | stopped (stepIndex : Nat) (jobType : String) (finalState : Status)
  | done

/-- What `waitForRunTerminal` takes the state from: a plain run has no `type`. None when it
is undefined, or when the handler throws. -/
def stateOf (data : Decoded) : Option Decoded :=
  match data.property "type" with
  | some (.string type) => if type = "status" then data.property "status" else none
  | some _ => none
  | none => data.property "status"

/-- `TERMINAL_STATES.includes(state)`. -/
def includes (state : Decoded) : Option Status :=
  match state with
  | .string text => Relay.terminalStates.find? fun status => status.text = text
  | _ => none

/-- The state that a message on a socket resolves the promise with. -/
def terminalState (text : List Char) : Option Status := do
  let data ← Decoded.parse text
  let state ← stateOf data
  includes state

/-- A call of `triggerRun`, the run it returned, and the messages on the socket of that run. -/
structure Stage where
  jobType : String
  params : List (String × String)
  run : Option JobId
  messages : List (List Char)

/-- The first terminal status that a message carried. -/
def Stage.firstTerminal (stage : Stage) : Option Status := stage.messages.findSome? terminalState

inductive Await where
  /-- `triggerRun` has not answered yet. -/
  | trigger
  /-- The socket is open. -/
  | terminal
  /-- The socket was closed by the other side, and the promise is never settled. -/
  | forever
  /-- A rejection made `runAll` throw. -/
  | thrown
  | returned
  deriving DecidableEq

def Await.isPending : Await → Bool
  | .trigger | .terminal => true
  | _ => false

structure Invocation where
  range : List (String × String)
  /-- The stages whose runs have ended. -/
  past : List Stage
  current : Stage
  await : Await

structure State where
  phase : Phase
  selectedRunId : Option JobId
  invocations : List Invocation

inductive Event where
  | runAll (range : List (String × String))
  | triggered (i : Nat) (run : JobId)
  | triggerErr (i : Nat)
  | message (i : Nat) (text : List Char)
  | socketErr (i : Nat)
  /-- The server or the network closes the socket. -/
  | socketClosed (i : Nat)
  /-- `DONE_RESET_DELAY_MS` after the last stage. -/
  | doneReset
  | reset

/-- `triggerRun({ jobType, params })`. -/
def trigger (range : List (String × String)) (jobType : String) : Stage where
  jobType := jobType
  params := if jobType = "ingest" then range else []
  run := none
  messages := []

variable (state : State)

def State.set (i : Nat) (invocation : Invocation) : State :=
  { state with invocations := state.invocations.set i invocation }

def isStopping (finalState : Status) : Bool := finalState == .failed || finalState == .cancelled

/-- The loop goes on from the end of a run. -/
def State.conclude (i : Nat) (invocation : Invocation) (finalState : Status) : State :=
  let stepIndex := invocation.past.length
  if isStopping finalState then
    { state.set i { invocation with await := .returned } with
      phase := .stopped stepIndex invocation.current.jobType finalState }
  else
    match pipelineOrder[stepIndex + 1]? with
    | some jobType =>
      { state.set i { invocation with
          past := invocation.past ++ [invocation.current]
          current := trigger invocation.range jobType
          await := .trigger } with
        phase := .running (stepIndex + 1) }
    | none => { state.set i { invocation with await := .returned } with phase := .done }

/-- `socket.onmessage`. -/
def State.onMessage (i : Nat) (invocation : Invocation) (text : List Char) : State :=
  let seen := { invocation with
    current := { invocation.current with messages := invocation.current.messages ++ [text] } }
  match terminalState text with
  | some finalState => state.conclude i seen finalState
  | none => state.set i seen

def step : Event → Option State
  | .runAll range =>
    pipelineOrder.head?.map fun jobType =>
      { state with
        phase := .running 0
        invocations := state.invocations ++ [⟨range, [], trigger range jobType, .trigger⟩] }
  | .triggered i run =>
    match state.invocations[i]? with
    | some ⟨range, past, current, .trigger⟩ =>
      some { state.set i ⟨range, past, { current with run := some run }, .terminal⟩ with
        selectedRunId := some run }
    | _ => none
  | .triggerErr i =>
    match state.invocations[i]? with
    | some ⟨range, past, current, .trigger⟩ => some (state.set i ⟨range, past, current, .thrown⟩)
    | _ => none
  | .message i text =>
    match state.invocations[i]? with
    | some ⟨range, past, current, .terminal⟩ =>
      some (state.onMessage i ⟨range, past, current, .terminal⟩ text)
    | _ => none
  | .socketErr i =>
    match state.invocations[i]? with
    | some ⟨range, past, current, .terminal⟩ => some (state.set i ⟨range, past, current, .thrown⟩)
    | _ => none
  | .socketClosed i =>
    match state.invocations[i]? with
    | some ⟨range, past, current, .terminal⟩ => some (state.set i ⟨range, past, current, .forever⟩)
    | _ => none
  | .doneReset =>
    match state.phase with
    | .done => some { state with phase := .idle }
    | _ => none
  | .reset => some { state with phase := .idle }

def init : State := ⟨.idle, none, []⟩

def system : TransitionSystem State Event := ⟨init, step⟩

end OpenScale.RunAll
