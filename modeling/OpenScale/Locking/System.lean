import OpenScale.Library.TransitionSystem
import OpenScale.Library.LockedStatements
import OpenScale.Jobs.Table

/-! The transactions on `control_plane.job_runs`, statement by statement and row
by row. Any number of them run at once, and `now()` is when a transaction began. -/

namespace OpenScale.Locking

open OpenScale.Library OpenScale.Library.ReadCommitted OpenScale.Jobs

/-- The functions that write to the table, with their arguments. The id of an
inserted run is the one that Postgres generates for it. -/
inductive Procedure where
  | insertJobRun (id : JobId) (jobType : String) (params : Json)
  | markRunning (id : JobId)
  | markTerminal (id : JobId) (status : Status) (report : Report)
  | markFailed (id : JobId) (errMsg : String)
  | clearTerminalRuns
  | cancelActiveRuns

inductive Stage where
  | begun
  | executing
  /-- In the second statement of `CancelActiveRuns`, with the rows of the first. -/
  | updating (active : List JobRun)

structure Session where
  procedure : Procedure
  /-- `now()`. -/
  now : Time
  stage : Stage

abbrev RunTransaction := Transaction JobRun.id

/-- `inserted`, `marked` and `started` are history variables: the runs whose
insert committed, those whose `mark_running` committed with a row updated, and
those whose handler was called. -/
structure State where
  store : Store JobRun.id
  sessions : Nat → Option Session
  clock : Time
  inserted : List JobId
  marked : List JobId
  started : List JobId

inductive Event where
  | tick (elapsed : Time)
  | beginTx (t : Nat) (procedure : Procedure)
  /-- The first statement starts and takes its snapshot. -/
  | execute (t : Nat)
  /-- The running statement gets to one row of its snapshot. -/
  | visit (t : Nat) (id : JobId)
  /-- `CancelActiveRuns` has its active rows and starts the second statement. -/
  | update (t : Nat)
  | commit (t : Nat)
  | abort (t : Nat)
  | startHandler (id : JobId)

/-- The first statement of a procedure; the insert has none that looks at rows. -/
def Procedure.statement (now : Time) : Procedure → Option RunStatement
  | insertJobRun .. => none
  | markRunning id => some (Jobs.markRunning id now)
  | markTerminal id status report => some (Jobs.markTerminal id status report now)
  | markFailed id errMsg => some (Jobs.markFailed id errMsg now)
  | clearTerminalRuns => some Jobs.clearTerminalRuns
  | cancelActiveRuns => some selectActive

/-- The id that a commit of this procedure adds to the table. -/
def Procedure.inserts : Procedure → List JobId
  | insertJobRun id _ _ => [id]
  | _ => []

/-- The run that `mark_running` reports as claimed: `cur.rowcount > 0`. -/
def Session.claims (session : Session) (transaction : RunTransaction) : List JobId :=
  match session.procedure with
  | .markRunning id => if transaction.hits.isEmpty then [] else [id]
  | _ => []

/-- What `CancelActiveRuns` returns when its transaction commits. -/
def Session.reply (session : Session) (transaction : RunTransaction) : List CancelledRun :=
  match session.stage with
  | .updating active => pairCancelled (wasRunning active) (transaction.hits.filterMap Prod.snd)
  | _ => []

/-- `CancelActiveRuns` commits after its first statement only if that found no row. -/
def Session.ready (session : Session) (transaction : RunTransaction) : Bool :=
  match session.procedure, session.stage with
  | _, .begun => false
  | .cancelActiveRuns, .executing => transaction.hits.isEmpty
  | _, _ => true

/-- A run is claimed and failed only after its insert, and finished only after it was claimed. -/
def State.mayBegin (state : State) : Procedure → Bool
  | .markRunning id | .markFailed id _ => state.inserted.contains id
  | .markTerminal id status _ => state.marked.contains id && status.isTerminal
  | _ => true

def State.setSession (state : State) (t : Nat) (session : Option Session) : State :=
  { state with sessions := fun u => if u = t then session else state.sessions u }

/-- Start the first statement, or the insert. -/
def Session.run (session : Session) (store : Store JobRun.id) (t : Nat) : Store JobRun.id :=
  match session.procedure, session.procedure.statement session.now with
  | _, some statement => store.execute t statement
  | .insertJobRun id jobType params, none =>
    store.insert t (JobRun.submitted id jobType params session.now)
  | _, none => store

def step (state : State) : Event → Option State
  | .tick elapsed => some { state with clock := state.clock + elapsed }
  | .beginTx t procedure =>
    if (state.sessions t).isNone && state.mayBegin procedure then
      some (state.setSession t (some ⟨procedure, state.clock, .begun⟩))
    else none
  | .execute t =>
    match state.sessions t with
    | some ⟨procedure, now, .begun⟩ =>
      some ({ state with store := Session.run ⟨procedure, now, .begun⟩ state.store t }.setSession t
        (some ⟨procedure, now, .executing⟩))
    | _ => none
  | .visit t id => (state.store.visit t id).map fun store => { state with store := store }
  | .update t =>
    match state.sessions t with
    | some ⟨.cancelActiveRuns, now, .executing⟩ =>
      let transaction := state.store.transactions t
      let active := transaction.hits.map Prod.fst
      if transaction.todo.isEmpty && !active.isEmpty then
        some ({ state with
          store := state.store.execute t (updateCancelled (active.map JobRun.id) now) }.setSession t
            (some ⟨.cancelActiveRuns, now, .updating active⟩))
      else none
    | _ => none
  | .commit t =>
    match state.sessions t with
    | some session =>
      let transaction := state.store.transactions t
      -- Postgres never generates an id twice.
      if session.ready transaction && session.procedure.inserts.all (!state.inserted.contains ·)
        then
        (state.store.commit t).map fun store =>
          { state.setSession t none with
            store := store
            inserted := state.inserted ++ session.procedure.inserts
            marked := state.marked ++ session.claims transaction }
      else none
    | none => none
  | .abort t =>
    match state.sessions t with
    | some _ => some ({ state with store := state.store.abort t }.setSession t none)
    | none => none
  | .startHandler id =>
    if state.marked.contains id then some { state with started := state.started ++ [id] } else none

def init : State where
  store := Store.init
  sessions _ := none
  clock := 0
  inserted := []
  marked := []
  started := []

def system : TransitionSystem State Event := ⟨init, step⟩

variable {s : State} {t u : Nat}

@[simp] theorem setSession_self (session : Option Session) :
    (s.setSession t session).sessions t = session := by
  simp [State.setSession]

theorem setSession_other {session : Option Session} (other : u ≠ t) :
    (s.setSession t session).sessions u = s.sessions u := by
  simp [State.setSession, other]

@[simp] theorem setSession_store (session : Option Session) :
    (s.setSession t session).store = s.store := rfl

end OpenScale.Locking
