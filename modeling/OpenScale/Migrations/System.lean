import Mathlib.Data.List.Sort
import Mathlib.Data.String.Basic
import OpenScale.Library.TransitionSystem

/-! Startups of the control-plane that migrate one database, each at its own pace. Every statement
can fail and every startup can end at any point; what it leaves behind is an open transaction, which
the server rolls back in the end, or commits where the COMMIT had been sent. -/

namespace OpenScale.Migrations

open OpenScale.Library

structure Entry where
  name : String
  isDir : Bool

/-- The embedded directory of one build, where different entries have different names. A name stands
for the SQL in its file, so two builds have the same file where they have the same name. -/
structure Files where
  entries : List Entry
  distinct : (entries.map Entry.name).Nodup

def Entry.isMigration (entry : Entry) : Bool :=
  !entry.isDir && ".sql".toList.isSuffixOf entry.name.toList

/-- The names that `Migrate` goes through, in ascending order. -/
def Files.names (files : Files) : List String :=
  ((files.entries.filter Entry.isMigration).map Entry.name).insertionSort (· ≤ ·)

/-- The statement that comes next, with the files that are still to come after the one at hand. -/
inductive Phase where
  | creatingTable
  | creatingSchema
  | creatingTableAgain
  | checking (name : String) (rest : List String)
  | beginning (name : String) (rest : List String)
  | applying (name : String) (rest : List String)
  | recording (name : String) (rest : List String)
  | committing (name : String) (rest : List String)
  /-- Whether `Migrate` has returned nil. -/
  | returned (ok : Bool)
  | crashed
  deriving DecidableEq

structure Tx where
  /-- The file whose SQL has run in it. -/
  executed : Option String
  /-- The version that it has inserted. -/
  recorded : Option String
  /-- Its COMMIT was sent, and the answer did not arrive. -/
  commitSent : Bool
  deriving DecidableEq

structure Startup where
  files : Files
  phase : Phase
  tx : Option Tx
  /-- The files whose SQL this startup has run. -/
  ran : List String

structure Database where
  schema : Bool
  table : Bool
  versions : List String
  /-- The files whose SQL was committed, once for each time. -/
  committed : List String
  deriving DecidableEq

structure State where
  db : Database
  startups : List Startup

inductive Action where
  | succeed
  | fail
  /-- A statement outside transactions takes effect, and its answer does not arrive. -/
  | lost
  | crash
  /-- The server commits although nobody waits for it any more. -/
  | lateCommit
  /-- The server rolls back what nobody will commit any more. -/
  | rollback

inductive Event where
  | start (files : Files)
  | act (i : Nat) (action : Action)

def loopHead : List String → Phase
  | [] => .returned true
  | name :: rest => .checking name rest

def Startup.recorded (startup : Startup) : Option String := startup.tx.bind Tx.recorded

/-- The effects of a transaction, all at once. -/
def Database.commit (db : Database) (tx : Tx) : Database :=
  { db with
    versions := db.versions ++ tx.recorded.toList
    committed := db.committed ++ tx.executed.toList }

/-- The statement at hand succeeds. The primary key lets no version in that is there, and makes an
insert wait while the same version is in an open transaction. -/
def Startup.succeed (startup : Startup) (db : Database) (held : String → Bool) :
    Option (Database × Startup) :=
  match startup.phase, startup.tx with
  | .creatingTable, _ | .creatingTableAgain, _ =>
    if db.schema then
      some ({ db with table := true }, { startup with phase := loopHead startup.files.names })
    else none
  | .creatingSchema, _ =>
    some ({ db with schema := true }, { startup with phase := .creatingTableAgain })
  | .checking name rest, _ =>
    if !db.table then none
    else if name ∈ db.versions then some (db, { startup with phase := loopHead rest })
    else some (db, { startup with phase := .beginning name rest })
  | .beginning name rest, _ =>
    some (db, { startup with phase := .applying name rest, tx := some ⟨none, none, false⟩ })
  | .applying name rest, some tx =>
    some (db, { startup with
      phase := .recording name rest
      tx := some { tx with executed := some name }
      ran := startup.ran ++ [name] })
  | .recording name rest, some tx =>
    if name ∈ db.versions ∨ held name = true then none
    else some (db, { startup with
      phase := .committing name rest
      tx := some { tx with recorded := some name } })
  | .committing _ rest, some tx =>
    some (db.commit tx, { startup with phase := loopHead rest, tx := none })
  | _, _ => none

/-- The statement at hand gives an error: only that of the first CREATE TABLE is not the end. -/
def Startup.fail (startup : Startup) : Option Startup :=
  match startup.phase with
  | .creatingTable => some { startup with phase := .creatingSchema }
  | .committing _ _ =>
    some { startup with
      phase := .returned false
      tx := startup.tx.map fun tx => { tx with commitSent := true } }
  | .returned _ | .crashed => none
  | _ => some { startup with phase := .returned false }

def Startup.crash (startup : Startup) : Option Startup :=
  match startup.phase with
  | .committing _ _ =>
    some { startup with phase := .crashed, tx := startup.tx.map fun tx =>
      { tx with commitSent := true } }
  | .returned _ | .crashed => none
  | _ => some { startup with phase := .crashed }

def Phase.isOver : Phase → Bool
  | returned _ | crashed => true
  | _ => false

def Startup.act (startup : Startup) (db : Database) (held : String → Bool) :
    Action → Option (Database × Startup)
  | .succeed => startup.succeed db held
  | .fail => startup.fail.map fun next => (db, next)
  | .lost =>
    match startup.phase with
    | .creatingTable | .creatingTableAgain =>
      if db.schema then startup.fail.map fun next => ({ db with table := true }, next) else none
    | .creatingSchema => startup.fail.map fun next => ({ db with schema := true }, next)
    | _ => none
  | .crash => startup.crash.map fun next => (db, next)
  | .lateCommit =>
    match startup.tx with
    | some tx =>
      if startup.phase.isOver && tx.commitSent then some (db.commit tx, { startup with tx := none })
      else none
    | none => none
  | .rollback =>
    if startup.phase.isOver && startup.tx.isSome then some (db, { startup with tx := none })
    else none

def State.held (s : State) (name : String) : Bool :=
  s.startups.any fun startup => startup.recorded == some name

def step (s : State) : Event → Option State
  | .start files => some { s with startups := s.startups ++ [⟨files, .creatingTable, none, []⟩] }
  | .act i action =>
    match s.startups[i]? with
    | none => none
    | some startup =>
      (startup.act s.db s.held action).map fun (db, next) => ⟨db, s.startups.set i next⟩

def init : State := ⟨⟨false, false, [], []⟩, []⟩

def system : TransitionSystem State Event := ⟨init, step⟩

end OpenScale.Migrations
