import OpenScale.Library.Json

/-! The job-run domain: what one row of `control_plane.job_runs` holds, and the
catalog of triggerable job types. -/

namespace OpenScale.Jobs

open OpenScale.Library

/-- A run's UUID. Only equality of ids matters. -/
abbrev JobId := Nat

abbrev Time := Nat

/-- The lifecycle states, by the texts that the status column holds. -/
def statusTexts : List String :=
  ["queued", "running", "succeeded", "partial", "failed", "cancelled"]

inductive Status where
  | queued
  | running
  | succeeded
  | partialSuccess
  | failed
  | cancelled
  /-- The column is plain text without a check: a job can report anything else as well. -/
  | other (text : String) (unlisted : text ∉ statusTexts)
  deriving DecidableEq, Repr

def Status.text : Status → String
  | queued => "queued"
  | running => "running"
  | succeeded => "succeeded"
  | partialSuccess => "partial"
  | failed => "failed"
  | cancelled => "cancelled"
  | other text _ => text

theorem Status.text_injective {first second : Status} (same : first.text = second.text) :
    first = second := by
  cases first <;> cases second <;> simp_all only [Status.text, String.reduceEq, reduceCtorEq]
  -- one of the six texts against an unlisted one
  all_goals
    rename_i unlisted
    exact absurd (by decide) (same ▸ unlisted)

/-- `status IN ('queued', 'running')`. -/
def Status.isActive : Status → Bool
  | queued | running => true
  | _ => false

/-- `status NOT IN ('queued', 'running')`. -/
def Status.isTerminal (status : Status) : Bool := !status.isActive

structure JobRun where
  id : JobId
  jobType : String
  params : Json
  status : Status
  submittedAt : Time
  startedAt : Option Time
  finishedAt : Option Time
  error : Option String
  logOutput : Option String
  exitCode : Option Int
  rowsProcessed : Option Int
  metrics : Option Json

/-- The row that `INSERT INTO job_runs (job_type, params)` creates: every other
column takes its default. -/
def JobRun.submitted (id : JobId) (jobType : String) (params : Json) (now : Time) : JobRun where
  id := id
  jobType := jobType
  params := params
  status := .queued
  submittedAt := now
  startedAt := none
  finishedAt := none
  error := none
  logOutput := none
  exitCode := none
  rowsProcessed := none
  metrics := none

inductive EventBody where
  | status (status : Status)
  | log (line : String)

structure JobEvent where
  jobId : JobId
  body : EventBody
  sentAt : String

def JobEvent.status? (event : JobEvent) : Option Status :=
  match event.body with
  | .status status => some status
  | .log _ => none

/-- The types of `jobs.Catalog`, in its order. -/
def catalog : List String := ["ingest", "silver", "gold", "features", "train", "replay", "reset"]

def isKnownJobType (jobType : String) : Bool := catalog.contains jobType

inductive Job where
  | ingest
  | silver
  | gold
  | features
  | train
  | reset
  | replay
  deriving DecidableEq, Repr

/-- `JOB_TABLE` of the worker, in its order. -/
def jobTable : List (String × Job) :=
  [("ingest", .ingest), ("silver", .silver), ("gold", .gold), ("features", .features),
    ("train", .train), ("reset", .reset), ("replay", .replay)]

def handlerOf (jobType : String) : Option Job := jobTable.lookup jobType

/-- Every type the control-plane accepts has a handler in the worker. -/
theorem handlerOf_known {jobType : String} (known : isKnownJobType jobType = true) :
    (handlerOf jobType).isSome = true := by
  have member : jobType ∈ catalog := List.contains_iff_mem.mp known
  have complete : ∀ listed ∈ catalog, (handlerOf listed).isSome = true := by decide
  exact complete jobType member

@[simp] theorem Status.isTerminal_iff {status : Status} :
    status.isTerminal = true ↔ status ≠ .queued ∧ status ≠ .running := by
  cases status <;> simp [isTerminal, isActive]

@[simp] theorem Status.isActive_iff {status : Status} :
    status.isActive = true ↔ status = .queued ∨ status = .running := by
  cases status <;> simp [isActive]

end OpenScale.Jobs
