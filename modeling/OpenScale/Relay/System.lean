import Mathlib.Logic.Function.Basic
import OpenScale.Library.TransitionSystem
import OpenScale.Jobs.Table

/-! How the end of a run gets to those who watch it: the writes to the job table,
the events about them on Redis Pub/Sub, the hub of the control-plane, and the
WebSocket connections. Every transaction, publish, send on a channel and write to
a connection is one step. -/

namespace OpenScale.Relay

open OpenScale.Library OpenScale.Jobs

abbrev ConnId := Nat

inductive Frame where
  /-- The run, as the lookup at connect time found it. -/
  | run (status : Status)
  | event (event : JobEvent)

/-- The state that `waitForRunTerminal` reads from a frame. -/
def Frame.state? : Frame → Option Status
  | .run status => some status
  | .event published => published.status?

/-- `TERMINAL_STATES` of the frontend. -/
def terminalStates : List Status := [.succeeded, .partialSuccess, .failed, .cancelled]

def isFinal (status : Status) : Bool := terminalStates.contains status

/-- `isTerminal` of the WebSocket handler. -/
def isTerminal (status : Status) : Bool :=
  status == .succeeded || status == .partialSuccess || status == .failed

/-- What `waitForRunTerminal` resolves to, after these frames. -/
def waitForRunTerminal (frames : List Frame) : Option Status :=
  (frames.filterMap Frame.state?).find? isFinal

inductive Phase where
  | absent
  | accepted
  /-- `GetJobRun` returned; the first frame is next. -/
  | looked (status : Status)
  /-- The first frame is sent; `Subscribe` is next. -/
  | greeted
  /-- In the relay loop, perhaps with an event that is received and not yet sent. -/
  | relaying (received : Option JobEvent)
  /-- Closing after a terminal event, and still subscribed. -/
  | leaving
  | closed

/-- One connection. `dropped` and `missed` are history variables: the events that its
full buffer refused, and those that the hub took up between its lookup and its
subscription. -/
structure Connection where
  jobId : JobId
  phase : Phase
  buffer : List JobEvent
  sent : List Frame
  dropped : List JobEvent
  missed : List JobEvent

def Connection.absent : Connection := ⟨0, .absent, [], [], [], []⟩

def Connection.isJoining (connection : Connection) : Bool :=
  match connection.phase with
  | .looked _ | .greeted => true
  | _ => false

def bufferSize : Nat := 16

inductive Hub where
  | idle
  /-- Sending an event to the subscribers that are left of its snapshot. -/
  | sending (event : JobEvent) (targets : List ConnId)
  /-- It sent on a closed channel, which ends the whole process. -/
  | panicked

/-- A transaction on the job table, by the control-plane or the worker. -/
inductive Write where
  | insertJobRun (id : JobId) (jobType : String) (params : Json) (now : Time)
  | markRunning (id : JobId) (now : Time)
  | markTerminal (id : JobId) (status : Status) (report : Report) (now : Time)
  | markFailed (id : JobId) (errMsg : String) (now : Time)
  | cancelActiveRuns (now : Time)
  | clearTerminalRuns

/-- What a transaction leaves: the table, the status events that its writer publishes
next, and the runs that it ended without any event to follow. -/
structure Written where
  jobRuns : JobRuns
  owed : List (JobId × Status)
  silent : List JobId

def Write.apply (table : JobRuns) : Write → Written
  | insertJobRun id jobType params now =>
    ⟨(Jobs.insertJobRun id jobType params now table).getD table, [], []⟩
  | markRunning id now => ⟨table.exec (Jobs.markRunning id now),
      if 0 < table.rowcount (Jobs.markRunning id now) then [(id, .running)] else [], []⟩
  | markTerminal id status report now =>
    ⟨table.exec (Jobs.markTerminal id status report now), [(id, status)], []⟩
  | markFailed id errMsg now => ⟨table.exec (Jobs.markFailed id errMsg now), [], [id]⟩
  | cancelActiveRuns now =>
    let (after, cancelled) := Jobs.cancelActiveRuns now table
    ⟨after, cancelled.map fun c => (c.run.id, .cancelled), []⟩
  | clearTerminalRuns => ⟨table.exec Jobs.clearTerminalRuns, [], []⟩

/-- `owed` are the status events whose writers did not publish them yet; `silent` is a
history variable: the runs that were ended by a write no event tells of. -/
structure State where
  jobRuns : JobRuns
  owed : List (JobId × Status)
  silent : List JobId
  published : List JobEvent
  hub : Hub
  subscribers : List ConnId
  connections : ConnId → Connection

inductive Event where
  | write (write : Write)
  /-- A writer publishes a status event that it owes. -/
  | publish (index : Nat) (sentAt : String)
  /-- It fails to, and does not try again. -/
  | publishErr (index : Nat)
  | log (id : JobId) (line sentAt : String)
  /-- `Hub.Run` takes the next event, and a snapshot of its subscribers. -/
  | take
  /-- It sends to the next one, unless that one's buffer is full. -/
  | offer
  | handled
  | accept (conn : ConnId) (id : JobId)
  | lookup (conn : ConnId)
  | greet (conn : ConnId)
  | subscribe (conn : ConnId)
  | receive (conn : ConnId)
  | forward (conn : ConnId)
  /-- The handler returns: the client left, a write failed, or the run is over. -/
  | leave (conn : ConnId)

variable (state : State)

def State.setConnection (conn : ConnId) (connection : Connection) : State :=
  { state with connections := Function.update state.connections conn connection }

def State.move (conn : ConnId) (phase : Phase) : State :=
  state.setConnection conn { state.connections conn with phase := phase }

/-- The event reaches the hub while these connections are on their way to subscribe. -/
def State.markMissed (event : JobEvent) : State :=
  { state with connections := fun conn =>
      let connection := state.connections conn
      if connection.isJoining && connection.jobId == event.jobId then
        { connection with missed := connection.missed ++ [event] }
      else connection }

def Connection.push (connection : Connection) (event : JobEvent) : Connection :=
  if connection.buffer.length < bufferSize then
    { connection with buffer := connection.buffer ++ [event] }
  else { connection with dropped := connection.dropped ++ [event] }

@[simp] theorem Connection.push_phase (connection : Connection) (event : JobEvent) :
    (connection.push event).phase = connection.phase := by
  unfold push
  split <;> rfl

@[simp] theorem Connection.push_jobId (connection : Connection) (event : JobEvent) :
    (connection.push event).jobId = connection.jobId := by
  unfold push
  split <;> rfl

/-- The process is gone, and every connection with it. -/
def State.panic : State :=
  { state with
    hub := .panicked
    connections := fun conn => { state.connections conn with phase := .closed } }

def State.offer (event : JobEvent) (conn : ConnId) (targets : List ConnId) : State :=
  match (state.connections conn).phase with
  | .closed => state.panic
  | _ =>
    { state.setConnection conn ((state.connections conn).push event) with
      hub := .sending event targets }

def step : Event → Option State
  | .write write =>
    let written := write.apply state.jobRuns
    some { state with
      jobRuns := written.jobRuns
      owed := state.owed ++ written.owed
      silent := state.silent ++ written.silent }
  | .publish index sentAt => (state.owed[index]?).map fun (id, status) =>
      { state with
        owed := state.owed.eraseIdx index
        published := state.published ++ [⟨id, .status status, sentAt⟩] }
  | .publishErr index => (state.owed[index]?).map fun (id, status) =>
      { state with
        owed := state.owed.eraseIdx index
        silent := if isFinal status then state.silent ++ [id] else state.silent }
  | .log id line sentAt =>
    some { state with published := state.published ++ [⟨id, .log line, sentAt⟩] }
  | .take =>
    match state.hub, state.published with
    | .idle, event :: rest =>
      some { state.markMissed event with
        published := rest
        hub := .sending event (state.subscribers.filter fun conn =>
          (state.connections conn).jobId == event.jobId) }
    | _, _ => none
  | .offer =>
    match state.hub with
    | .sending event (conn :: targets) => some (state.offer event conn targets)
    | _ => none
  | .handled =>
    match state.hub with
    | .sending _ [] => some { state with hub := .idle }
    | _ => none
  | .accept conn id =>
    match state.hub, (state.connections conn).phase with
    | .panicked, _ => none
    | _, .absent => some (state.setConnection conn ⟨id, .accepted, [], [], [], []⟩)
    | _, _ => none
  | .lookup conn =>
    match (state.connections conn).phase with
    | .accepted =>
      some (state.move conn (match getJobRun (state.connections conn).jobId state.jobRuns with
      | some run => .looked run.status
      | none => .closed))
    | _ => none
  | .greet conn =>
    match (state.connections conn).phase with
    | .looked status => some (state.setConnection conn { state.connections conn with
        phase := if isTerminal status then .closed else .greeted
        sent := (state.connections conn).sent ++ [.run status] })
    | _ => none
  | .subscribe conn =>
    match (state.connections conn).phase with
    | .greeted =>
      some { state.move conn (.relaying none) with subscribers := state.subscribers ++ [conn] }
    | _ => none
  | .receive conn =>
    match (state.connections conn).phase, (state.connections conn).buffer with
    | .relaying none, event :: rest => some (state.setConnection conn { state.connections conn with
        phase := .relaying (some event)
        buffer := rest })
    | _, _ => none
  | .forward conn =>
    match (state.connections conn).phase with
    | .relaying (some event) => some (state.setConnection conn { state.connections conn with
        phase := if event.status?.any isTerminal then .leaving else .relaying none
        sent := (state.connections conn).sent ++ [.event event] })
    | _ => none
  | .leave conn =>
    match (state.connections conn).phase with
    | .accepted | .looked _ | .greeted => some (state.move conn .closed)
    | .relaying _ | .leaving =>
      some { state.move conn .closed with subscribers := state.subscribers.erase conn }
    | .absent | .closed => none

def init : State where
  jobRuns := KeyedTable.empty JobRun.id
  owed := []
  silent := []
  published := []
  hub := .idle
  subscribers := []
  connections := fun _ => .absent

def system : TransitionSystem State Event := ⟨init, step⟩

end OpenScale.Relay
