import OpenScale.Dashboards.Screen
import OpenScale.Jobs.Run

/-! The runs of jobs as the frontend has them, and how it words them. Of a run only what the screens
show is here. -/

namespace OpenScale.Pipelines

open OpenScale.Dashboards

structure JobRun where
  id : String
  jobType : String
  state : Jobs.Status
  submittedAt : String
  startedAt : Option String
  finishedAt : Option String
  rowsProcessed : Option Int

structure RunsPage where
  runs : List JobRun
  hasMore : Bool

/-- `Date`: the time at hand, the time that a text stands for (none is NaN), and how a text is
shown. -/
structure Clock where
  now : Int
  getTime : String → Option Int
  toLocaleTimeString : String → String

inductive Signal where
  | good
  | warn
  | crit

def deriveRunStatus : Jobs.Status → Signal
  | .succeeded => .good
  | .failed => .crit
  | _ => .warn

/-- The empty text counts as missing. -/
def present (iso : Option String) : Option String := iso.filter fun text => text ≠ ""

def formatRunTime (clock : Clock) (iso : Option String) : String :=
  ((present iso).map clock.toLocaleTimeString).getD dash

def secondsLabel (endMs startMs : Option Int) : String :=
  match endMs, startMs with
  | some endMs, some startMs =>
    let seconds := max 0 ((endMs - startMs + 500) / 1000)
    if seconds < 60 then toString seconds ++ "s"
    else toString (seconds / 60) ++ "m " ++ toString (seconds % 60) ++ "s"
  | _, _ => "NaNm NaNs"

def formatRunDuration (clock : Clock) (startedAt finishedAt : Option String) (state : Jobs.Status) :
    String :=
  match present startedAt, present finishedAt with
  | none, _ => if state = .queued then "(queued)" else dash
  | some started, none => secondsLabel (some clock.now) (clock.getTime started) ++ " (running)"
  | some started, some finished => secondsLabel (clock.getTime finished) (clock.getTime started)

/-- Undefined for a state that is none of the six. -/
def stateLabel : Jobs.Status → Option String
  | .succeeded => some "success"
  | .partialSuccess => some "partial"
  | .failed => some "failed"
  | .running => some "running"
  | .queued => some "queued"
  | .cancelled => some "cancelled"
  | .other .. => none

end OpenScale.Pipelines
