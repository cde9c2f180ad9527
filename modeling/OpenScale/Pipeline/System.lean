import OpenScale.Library.TransitionSystem
import OpenScale.Library.GroupStream
import OpenScale.Jobs.Table

/-! The job queue as one transition system: any number of Run, CancelAll and
ClearRuns requests of the control-plane, the request stream, and the worker
container. Every Postgres transaction is one step, every Redis command is one
step, and the worker may raise, crash or be restarted between any two steps. -/

namespace OpenScale.Pipeline

open OpenScale.Library OpenScale.Jobs

/-- The payload of a stream entry. -/
structure Message where
  jobId : JobId
  jobType : String
  params : Json
  submittedAt : Time

inductive Phase where
  | encoding
  | enqueuing
  | failing
  | finished
  deriving DecidableEq

/-- A Run request and the run it created. `issued` is the payload it sent to Redis, if any. -/
structure Submission where
  id : JobId
  jobType : String
  submittedAt : Time
  known : isKnownJobType jobType = true
  issued : Option Json
  phase : Phase

def Submission.message? (submission : Submission) : Option Message :=
  submission.issued.map fun params =>
    ⟨submission.id, submission.jobType, params, submission.submittedAt⟩

/-- A CancelAll request whose cancel transaction committed. `claimedBefore` is a
history variable: the runs that the worker had claimed by then. -/
structure CancelAll where
  cancelled : List CancelledRun
  claimedBefore : List JobId
  pending : Bool

def CancelAll.hadRunning (request : CancelAll) : Bool :=
  request.cancelled.any CancelledRun.wasRunning

/-- Where the worker process is; `entry` is the stream entry it has to acknowledge. -/
inductive Worker where
  /-- No process: the container is stopped or restarting. -/
  | down
  /-- Before `ensure_consumer_group`. -/
  | starting
  /-- In the loop, about to read. -/
  | idle
  /-- In `handle_message`, before its first transaction. -/
  | holding (entry : Nat) (message : Message)
  /-- `mark_running` returned True; the handler is not called yet. -/
  | marked (entry : Nat) (message : Message)
  | executing (entry : Nat) (message : Message)
  /-- The handler returned; `mark_terminal` is next. -/
  | closing (entry : Nat) (message : Message) (status : Status) (report : Report)
  /-- `handle_message` is over, normally or by an exception. -/
  | acking (entry : Nat) (raised : Bool)

def Worker.inFlight? : Worker → Option Message
  | marked _ message | executing _ message | closing _ message _ _ => some message
  | _ => none

def Worker.message? : Worker → Option Message
  | holding _ message | marked _ message | executing _ message | closing _ message _ _ =>
    some message
  | _ => none

/-- `claimed`, `started` and `markedFailed` are history variables: the runs for which
`mark_running` returned True, those whose handler was called, and those that MarkFailed
was executed for, oldest first. -/
structure State where
  jobRuns : JobRuns
  submissions : List Submission
  requests : GroupStream Message
  cancels : List CancelAll
  worker : Worker
  claimed : List JobId
  started : List JobId
  markedFailed : List JobId

def State.submitted (state : State) : List JobId := state.submissions.map Submission.id

def State.submission? (state : State) (id : JobId) : Option Submission :=
  state.submissions.find? fun submission => submission.id == id

def State.setSubmission (state : State) (id : JobId) (change : Submission → Submission) : State :=
  { state with submissions := state.submissions.map fun submission =>
      if submission.id == id then change submission else submission }

def State.setPhase (state : State) (id : JobId) (phase : Phase) : State :=
  state.setSubmission id fun submission => { submission with phase := phase }

inductive ControlEvent where
  /-- `InsertJobRun` commits. -/
  | submit (id : JobId) (jobType : String) (params : Json) (now : Time)
  /-- The params are re-encoded and `EnqueueJob` issues its XADD. -/
  | send (id : JobId) (params : Json)
  /-- `json.Marshal` reports an error. -/
  | encodeErr (id : JobId)
  /-- Redis executes the XADD: again for a retry, and perhaps after the caller gave up. -/
  | xadd (id : JobId)
  | enqueueOk (id : JobId)
  | enqueueErr (id : JobId)
  | markFailed (id : JobId) (errMsg : String) (now : Time)
  /-- Run ends early: a panic, a lost reply, a MarkFailed that failed, a crash. -/
  | abandon (id : JobId)
  | cancelActiveRuns (now : Time)
  | restartWorker (request : Nat)
  /-- CancelAll ends with no restart: none was needed, or it failed. -/
  | cancelEnds (request : Nat)
  | clearRuns

inductive WorkerEvent where
  | boot
  | ensureGroup
  | readNew
  /-- An entry of the stream is delivered once more. -/
  | redeliver (entry : Nat)
  | markRunning (now : Time)
  /-- The job type has no handler: the run is marked failed. -/
  | rejectUnknown (now : Time)
  | startHandler
  | handlerReturns (status : Status) (report : Report)
  | markTerminal (now : Time)
  /-- An exception leaves `handle_message`. -/
  | raise
  | ack
  | crash

inductive Event where
  | control (event : ControlEvent)
  | worker (event : WorkerEvent)

def enabled (guard : Prop) [Decidable guard] (next : State) : Option State :=
  if guard then some next else none

@[simp] theorem enabled_eq_some {guard : Prop} [Decidable guard] {next state : State} :
    enabled guard next = some state ↔ guard ∧ next = state := by
  unfold enabled
  split <;> simp_all

/-- A step of the Run request of one run, enabled in one phase. -/
def State.inPhase (state : State) (id : JobId) (phase : Phase) (next : State) : Option State :=
  enabled ((state.submission? id).any fun submission => submission.phase == phase) next

def State.endCancel (state : State) (request : Nat) : State :=
  { state with cancels := state.cancels.modify request fun cancel =>
    { cancel with pending := false } }

/-- What the worker reports of a run whose type has no handler. -/
def unknownJobType (jobType : String) : Report :=
  ⟨none, some ("unknown job_type: " ++ jobType), "", none, none⟩

def controlStep (state : State) : ControlEvent → Option State
  | .submit id jobType params now =>
    if known : isKnownJobType jobType = true then
      if id ∈ state.submitted then none
      else (insertJobRun id jobType params now state.jobRuns).map fun table =>
        { state with
          jobRuns := table
          submissions := state.submissions ++ [⟨id, jobType, now, known, none, .encoding⟩] }
    else none
  | .send id params =>
    state.inPhase id .encoding <| state.setSubmission id fun submission =>
      { submission with issued := some params, phase := .enqueuing }
  | .encodeErr id => state.inPhase id .encoding (state.setPhase id .failing)
  | .xadd id =>
    ((state.submission? id).bind Submission.message?).map fun message =>
      { state with requests := state.requests.add message }
  | .enqueueOk id =>
    if state.requests.entries.any fun message => message.jobId == id then
      state.inPhase id .enqueuing (state.setPhase id .finished)
    else none
  | .enqueueErr id => state.inPhase id .enqueuing (state.setPhase id .failing)
  | .markFailed id errMsg now =>
    state.inPhase id .failing
      { state.setPhase id .finished with
        jobRuns := state.jobRuns.exec (markFailed id errMsg now)
        markedFailed := state.markedFailed ++ [id] }
  | .abandon id => some (state.setPhase id .finished)
  | .cancelActiveRuns now =>
    let (table, cancelled) := Jobs.cancelActiveRuns now state.jobRuns
    some { state with
      jobRuns := table
      cancels := state.cancels ++ [⟨cancelled, state.claimed, true⟩] }
  | .restartWorker request =>
    enabled ((state.cancels[request]?).any fun cancel => cancel.pending && cancel.hadRunning)
      { state.endCancel request with worker := .down }
  | .cancelEnds request => some (state.endCancel request)
  | .clearRuns => some { state with jobRuns := state.jobRuns.exec clearTerminalRuns }

def workerStep (state : State) : WorkerEvent → Option State
  | .boot =>
    match state.worker with
    | .down => some { state with worker := .starting }
    | _ => none
  | .ensureGroup =>
    match state.worker with
    | .starting => some { state with worker := .idle, requests := state.requests.createGroup }
    | _ => none
  | .readNew =>
    match state.worker with
    | .idle => state.requests.readNew.map fun (entry, message, rest) =>
      { state with worker := .holding entry message, requests := rest }
    | _ => none
  | .redeliver entry =>
    match state.worker with
    | .idle => (state.requests.entries[entry]?).map fun message =>
      { state with worker := .holding entry message }
    | _ => none
  | .markRunning now =>
    match state.worker with
    | .holding entry message =>
      if (handlerOf message.jobType).isNone then none
      else if 0 < state.jobRuns.rowcount (markRunning message.jobId now) then
        some { state with
          jobRuns := state.jobRuns.exec (markRunning message.jobId now)
          worker := .marked entry message
          claimed := state.claimed ++ [message.jobId] }
      else some { state with worker := .acking entry false }
    | _ => none
  | .rejectUnknown now =>
    match state.worker with
    | .holding entry message =>
      enabled ((handlerOf message.jobType).isNone)
        { state with
          jobRuns := state.jobRuns.exec
            (markTerminal message.jobId .failed (unknownJobType message.jobType) now)
          worker := .acking entry false }
    | _ => none
  | .startHandler =>
    match state.worker with
    | .marked entry message =>
      some { state with
        worker := .executing entry message
        started := state.started ++ [message.jobId] }
    | _ => none
  | .handlerReturns status report =>
    match state.worker with
    | .executing entry message =>
      enabled status.isTerminal { state with worker := .closing entry message status report }
    | _ => none
  | .markTerminal now =>
    match state.worker with
    | .closing entry message status report =>
      some { state with
        jobRuns := state.jobRuns.exec (markTerminal message.jobId status report now)
        worker := .acking entry false }
    | _ => none
  | .raise =>
    match state.worker with
    | .holding entry _ | .marked entry _ | .executing entry _ | .closing entry _ _ _
    | .acking entry _ => some { state with worker := .acking entry true }
    | _ => none
  | .ack =>
    match state.worker with
    -- An exception goes on out of `main`, past the XACK of the `finally` block.
    | .acking entry raised =>
      some { state with
        worker := if raised then .down else .idle
        requests := state.requests.ack entry }
    | _ => none
  | .crash => some { state with worker := .down }

def init : State where
  jobRuns := KeyedTable.empty JobRun.id
  submissions := []
  requests := GroupStream.empty
  cancels := []
  worker := .down
  claimed := []
  started := []
  markedFailed := []

def system : TransitionSystem State Event where
  init := init
  step state
    | .control event => controlStep state event
    | .worker event => workerStep state event

end OpenScale.Pipeline
