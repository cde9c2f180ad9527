import OpenScale.Library.KeyedTable
import OpenScale.Jobs.Run

/-! The statements that the control-plane and the worker run on
`control_plane.job_runs`. `now` is the start of the enclosing transaction. -/

namespace OpenScale.Jobs

open OpenScale.Library

abbrev JobRuns := KeyedTable JobRun.id

abbrev RunStatement := Statement JobRun.id

structure Report where
  exitCode : Option Int
  error : Option String
  logOutput : String
  rowsProcessed : Option Int
  metrics : Option Json

def JobRun.start (now : Time) (run : JobRun) : JobRun :=
  { run with status := .running, startedAt := some now }

def JobRun.finish (status : Status) (report : Report) (now : Time) (run : JobRun) : JobRun :=
  { run with
    status := status
    finishedAt := some now
    exitCode := report.exitCode
    error := report.error
    logOutput := some report.logOutput
    rowsProcessed := report.rowsProcessed
    metrics := report.metrics }

def JobRun.fail (errMsg : String) (now : Time) (run : JobRun) : JobRun :=
  { run with status := .failed, finishedAt := some now, error := some errMsg }

def JobRun.cancel (now : Time) (run : JobRun) : JobRun :=
  { run with status := .cancelled, finishedAt := some now, error := some "Cancelled by user" }

@[simp] theorem JobRun.start_id (now : Time) (run : JobRun) : (run.start now).id = run.id := rfl

@[simp] theorem JobRun.finish_id (status : Status) (report : Report) (now : Time) (run : JobRun) :
    (run.finish status report now).id = run.id := rfl

@[simp] theorem JobRun.fail_id (errMsg : String) (now : Time) (run : JobRun) :
    (run.fail errMsg now).id = run.id := rfl

@[simp] theorem JobRun.cancel_id (now : Time) (run : JobRun) : (run.cancel now).id = run.id := rfl

@[simp] theorem JobRun.start_status (now : Time) (run : JobRun) :
    (run.start now).status = .running := rfl

@[simp] theorem JobRun.finish_status (status : Status) (report : Report) (now : Time)
    (run : JobRun) : (run.finish status report now).status = status := rfl

@[simp] theorem JobRun.fail_status (errMsg : String) (now : Time) (run : JobRun) :
    (run.fail errMsg now).status = .failed := rfl

@[simp] theorem JobRun.cancel_status (now : Time) (run : JobRun) :
    (run.cancel now).status = .cancelled := rfl

/-- Only a run that is still queued can start. -/
def markRunning (id : JobId) (now : Time) : RunStatement where
  selects run := run.id == id && run.status == .queued
  change := .write (JobRun.start now) (JobRun.start_id now)

/-- The row is chosen by its id alone, whatever its status is. -/
def markTerminal (id : JobId) (status : Status) (report : Report) (now : Time) : RunStatement where
  selects run := run.id == id
  change := .write (JobRun.finish status report now) (JobRun.finish_id status report now)

/-- The row is chosen by its id alone, whatever its status is. -/
def markFailed (id : JobId) (errMsg : String) (now : Time) : RunStatement where
  selects run := run.id == id
  change := .write (JobRun.fail errMsg now) (JobRun.fail_id errMsg now)

def clearTerminalRuns : RunStatement where
  selects run := !run.status.isActive
  change := .delete

/-- The first statement of `CancelActiveRuns`: SELECT ... FOR UPDATE. -/
def selectActive : RunStatement where
  selects run := run.status.isActive
  change := .keep

/-- The second statement of `CancelActiveRuns`: UPDATE ... WHERE id = ANY(ids). -/
def updateCancelled (ids : List JobId) (now : Time) : RunStatement where
  selects run := ids.contains run.id
  change := .write (JobRun.cancel now) (JobRun.cancel_id now)

structure CancelledRun where
  run : JobRun
  wasRunning : Bool

/-- The map `wasRunning`, filled from the rows of the first statement. -/
def wasRunning (active : List JobRun) : List (JobId × Bool) :=
  active.map fun run => (run.id, run.status == .running)

/-- Pair the rows of the second statement with the map; an absent id reads as false. -/
def pairCancelled (marks : List (JobId × Bool)) (updated : List JobRun) : List CancelledRun :=
  updated.map fun run => ⟨run, (marks.lookup run.id).getD false⟩

/-- `CancelActiveRuns` when nothing else touches the table meanwhile. -/
def cancelActiveRuns (now : Time) (table : JobRuns) : JobRuns × List CancelledRun :=
  let active := table.returning selectActive
  if active.isEmpty then (table, [])
  else
    let update := updateCancelled (active.map JobRun.id) now
    (table.exec update, pairCancelled (wasRunning active) (table.returning update))

/-- `InsertJobRun`; the primary key refuses an id that is in use. -/
def insertJobRun (id : JobId) (jobType : String) (params : Json) (now : Time) (table : JobRuns) :
    Option JobRuns :=
  table.insert (JobRun.submitted id jobType params now)

def getJobRun (id : JobId) (table : JobRuns) : Option JobRun := table.find? id

variable {table : JobRuns} {run : JobRun} {id : JobId} {now : Time}

theorem mem_markRunning : run ∈ table.exec (markRunning id now) ↔
    (run ∈ table ∧ ¬ (run.id = id ∧ run.status = .queued)) ∨
      ∃ old ∈ table, old.id = id ∧ old.status = .queued ∧ run = old.start now := by
  simp [KeyedTable.mem_exec, markRunning, and_assoc, eq_comm (a := run)]

theorem mem_markTerminal {status : Status} {report : Report} :
    run ∈ table.exec (markTerminal id status report now) ↔
      (run ∈ table ∧ run.id ≠ id) ∨
        ∃ old ∈ table, old.id = id ∧ run = old.finish status report now := by
  simp [KeyedTable.mem_exec, markTerminal, eq_comm (a := run)]

theorem mem_markFailed {errMsg : String} : run ∈ table.exec (markFailed id errMsg now) ↔
    (run ∈ table ∧ run.id ≠ id) ∨ ∃ old ∈ table, old.id = id ∧ run = old.fail errMsg now := by
  simp [KeyedTable.mem_exec, markFailed, eq_comm (a := run)]

theorem mem_clearTerminalRuns :
    run ∈ table.exec clearTerminalRuns ↔ run ∈ table ∧ run.status.isActive = true := by
  simp [KeyedTable.mem_exec, clearTerminalRuns]

theorem mem_selectActive :
    run ∈ table.returning selectActive ↔ run ∈ table ∧ run.status.isActive = true := by
  simp [KeyedTable.mem_returning, selectActive]

theorem cancelled_reported (present : run ∈ table) (active : run.status.isActive = true) :
    ∃ cancelled ∈ (cancelActiveRuns now table).2, cancelled.run = run.cancel now := by
  have chosen : run ∈ table.returning selectActive := mem_selectActive.mpr ⟨present, active⟩
  have some_ : (table.returning selectActive).isEmpty = false := by
    cases rows : table.returning selectActive with
    | nil => simp [rows] at chosen
    | cons _ _ => rfl
  have listed : run.cancel now ∈ table.returning
      (updateCancelled ((table.returning selectActive).map JobRun.id) now) := by
    apply KeyedTable.mem_returning.mpr
    refine ⟨run, present, ?_, rfl⟩
    exact List.contains_iff_mem.mpr (List.mem_map.mpr ⟨run, chosen, rfl⟩)
  unfold cancelActiveRuns
  simp only [some_, Bool.false_eq_true, if_false]
  exact ⟨_, List.mem_map.mpr ⟨_, listed, rfl⟩, rfl⟩

theorem mem_cancelActiveRuns : run ∈ (cancelActiveRuns now table).1 ↔
    (run ∈ table ∧ run.status.isActive = false) ∨
      ∃ old ∈ table, old.status.isActive = true ∧ run = old.cancel now := by
  have chosen : ∀ old ∈ table, ((table.returning selectActive).map JobRun.id).contains old.id =
      old.status.isActive := by
    intro old member
    apply Bool.eq_iff_iff.mpr
    simp only [List.contains_iff_mem, List.mem_map, mem_selectActive]
    constructor
    · intro membership
      obtain ⟨other, ⟨present, active⟩, same⟩ := membership
      rw [← KeyedTable.same_row present member same]
      exact active
    · intro active
      exact ⟨old, ⟨member, active⟩, rfl⟩
  unfold cancelActiveRuns
  by_cases empty : (table.returning selectActive).isEmpty = true
  · have idle : ∀ old ∈ table, old.status.isActive = false := by
      intro old member
      by_contra active
      have listed := mem_selectActive.mpr ⟨member, by simpa using active⟩
      simp [List.isEmpty_iff.mp empty] at listed
    rw [if_pos empty]
    constructor
    · intro member
      exact .inl ⟨member, idle run member⟩
    · intro membership
      rcases membership with ⟨member, _⟩ | ⟨old, member, active, _⟩
      · exact member
      · simp [idle old member] at active
  · rw [if_neg empty, KeyedTable.mem_exec]
    constructor
    · intro membership
      rcases membership with ⟨member, passed⟩ | ⟨old, member, selected, left⟩
      · exact .inl ⟨member, (chosen run member).symm.trans passed⟩
      · exact .inr ⟨old, member, (chosen old member).symm.trans selected,
          (Option.some.inj left).symm⟩
    · intro membership
      rcases membership with ⟨member, passed⟩ | ⟨old, member, active, rfl⟩
      · exact .inl ⟨member, (chosen run member).trans passed⟩
      · exact .inr ⟨old, member, (chosen old member).trans active, rfl⟩

end OpenScale.Jobs
