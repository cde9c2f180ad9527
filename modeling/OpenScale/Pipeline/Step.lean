import OpenScale.Pipeline.System

/-! What one step of the queue can do: to the rows, to the request stream, and to
the worker. Later proofs use these facts and do not unfold the step again. -/

namespace OpenScale.Pipeline

open OpenScale.Library OpenScale.Jobs

variable {s s' : State} {event : Event} {run : JobRun} {id : JobId}

theorem submission?_eq_some {submission : Submission} (found : s.submission? id = some submission) :
    submission ∈ s.submissions ∧ submission.id = id :=
  ⟨List.mem_of_find?_eq_some found, by simpa using List.find?_some found⟩

theorem mem_submitted {submission : Submission} (member : submission ∈ s.submissions) :
    submission.id ∈ s.submitted :=
  List.mem_map.mpr ⟨submission, member, rfl⟩

@[simp] theorem inPhase_eq_some {phase : Phase} {next : State} :
    s.inPhase id phase next = some s' ↔
      (s.submission? id).any (fun submission => submission.phase == phase) = true ∧ next = s' := by
  simp [State.inPhase]

theorem submitted_setSubmission {change : Submission → Submission}
    (keeps : ∀ submission, (change submission).id = submission.id) :
    (s.setSubmission id change).submitted = s.submitted := by
  simp only [State.submitted, State.setSubmission, List.map_map]
  apply List.map_congr_left
  intro submission _
  simp only [Function.comp]
  split
  · exact keeps submission
  · rfl

theorem submission_message {submission : Submission} {message : Message}
    (sent : submission.message? = some message) :
    message.jobId = submission.id ∧ message.jobType = submission.jobType := by
  obtain ⟨_, _, rfl⟩ := Option.map_eq_some_iff.mp sent
  exact ⟨rfl, rfl⟩

inductive Controls (s : State) : ControlEvent → State → Prop where
  | submit {id : JobId} {jobType : String} {params : Json} {now : Time} {table : JobRuns}
      (known : isKnownJobType jobType = true) (fresh : id ∉ s.submitted)
      (inserted : insertJobRun id jobType params now s.jobRuns = some table) :
      Controls s (.submit id jobType params now) { s with
        jobRuns := table
        submissions := s.submissions ++ [⟨id, jobType, now, known, none, .encoding⟩] }
  | send {id : JobId} {params : Json} {submission : Submission} (found : s.submission? id =
    some submission)
      (encoding : submission.phase = .encoding) :
      Controls s (.send id params) (s.setSubmission id fun submission =>
        { submission with issued := some params, phase := .enqueuing })
  | encodeErr {id : JobId} {submission : Submission} (found : s.submission? id = some submission)
      (encoding : submission.phase = .encoding) :
      Controls s (.encodeErr id) (s.setPhase id .failing)
  | xadd {id : JobId} {submission : Submission} {message : Message} (found : s.submission? id =
    some submission)
      (sent : submission.message? = some message) :
      Controls s (.xadd id) { s with requests := s.requests.add message }
  | enqueueOk {id : JobId} {submission : Submission} (found : s.submission? id = some submission)
      (enqueuing : submission.phase = .enqueuing)
      (added : ∃ message ∈ s.requests.entries, message.jobId = id) :
      Controls s (.enqueueOk id) (s.setPhase id .finished)
  | enqueueErr {id : JobId} {submission : Submission} (found : s.submission? id = some submission)
      (enqueuing : submission.phase = .enqueuing) :
      Controls s (.enqueueErr id) (s.setPhase id .failing)
  | markFailed {id : JobId} {errMsg : String} {now : Time} {submission : Submission}
      (found : s.submission? id = some submission) (failing : submission.phase = .failing) :
      Controls s (.markFailed id errMsg now) { s.setPhase id .finished with
        jobRuns := s.jobRuns.exec (Jobs.markFailed id errMsg now)
        markedFailed := s.markedFailed ++ [id] }
  | abandon {id : JobId} : Controls s (.abandon id) (s.setPhase id .finished)
  | cancelActiveRuns {now : Time} : Controls s (.cancelActiveRuns now) { s with
      jobRuns := (Jobs.cancelActiveRuns now s.jobRuns).1
      cancels := s.cancels ++ [⟨(Jobs.cancelActiveRuns now s.jobRuns).2, s.claimed, true⟩] }
  | restartWorker {request : Nat} {cancel : CancelAll} (open_ : s.cancels[request]? = some cancel)
      (pending : cancel.pending = true) (needed : cancel.hadRunning = true) :
      Controls s (.restartWorker request) { s.endCancel request with worker := .down }
  | cancelEnds {request : Nat} : Controls s (.cancelEnds request) (s.endCancel request)
  | clearRuns : Controls s .clearRuns { s with jobRuns := s.jobRuns.exec clearTerminalRuns }

theorem inPhase_submission {phase : Phase} {next : State}
    (taken : s.inPhase id phase next = some s') :
    (∃ submission, s.submission? id = some submission ∧ submission.phase = phase) ∧ next = s' := by
  obtain ⟨there, same⟩ := inPhase_eq_some.mp taken
  obtain ⟨submission, found, phase_⟩ := (Option.any_eq_true _ _).mp there
  exact ⟨⟨submission, found, by simpa using phase_⟩, same⟩

theorem controls {event : ControlEvent} (taken : system.step s (.control event) = some s') :
    Controls s event s' := by
  simp only [system] at taken
  cases event with
  | submit id jobType params now =>
    simp only [controlStep] at taken
    split at taken
    · rename_i known
      split at taken
      · cases taken
      · rename_i fresh
        obtain ⟨table, inserted, rfl⟩ := Option.map_eq_some_iff.mp taken
        exact .submit known fresh inserted
    · cases taken
  | send id params =>
    obtain ⟨⟨_, found, encoding⟩, rfl⟩ := inPhase_submission taken
    exact .send found encoding
  | encodeErr id =>
    obtain ⟨⟨_, found, encoding⟩, rfl⟩ := inPhase_submission taken
    exact .encodeErr found encoding
  | xadd id =>
    obtain ⟨message, issued, rfl⟩ := Option.map_eq_some_iff.mp taken
    obtain ⟨submission, found, sent⟩ := Option.bind_eq_some_iff.mp issued
    exact .xadd found sent
  | enqueueOk id =>
    simp only [controlStep] at taken
    split at taken
    · rename_i listed
      obtain ⟨⟨_, found, enqueuing⟩, rfl⟩ := inPhase_submission taken
      exact .enqueueOk found enqueuing (by simpa using listed)
    · cases taken
  | enqueueErr id =>
    obtain ⟨⟨_, found, enqueuing⟩, rfl⟩ := inPhase_submission taken
    exact .enqueueErr found enqueuing
  | markFailed id errMsg now =>
    obtain ⟨⟨_, found, failing⟩, rfl⟩ := inPhase_submission taken
    exact .markFailed found failing
  | restartWorker request =>
    obtain ⟨guard, rfl⟩ := enabled_eq_some.mp taken
    obtain ⟨cancel, open_, both⟩ := (Option.any_eq_true _ _).mp guard
    simp only [Bool.and_eq_true] at both
    exact .restartWorker open_ both.1 both.2
  | abandon id =>
    cases taken
    exact .abandon
  | cancelActiveRuns now =>
    cases taken
    exact .cancelActiveRuns
  | cancelEnds request =>
    cases taken
    exact .cancelEnds
  | clearRuns =>
    cases taken
    exact .clearRuns

theorem Controls.step {event : ControlEvent} (moved : Controls s event s') :
    system.step s (.control event) = some s' := by
  cases moved with
  | submit known fresh inserted => simp [system, controlStep, known, fresh, inserted]
  | send found here | encodeErr found here | enqueueErr found here | markFailed found here =>
    exact inPhase_eq_some.mpr ⟨by simp [found, here], rfl⟩
  | xadd found sent => simp [system, controlStep, found, sent]
  | enqueueOk found enqueuing added =>
    have listed : (s.requests.entries.any fun message => message.jobId == _) = true :=
      List.any_eq_true.mpr (by simpa using added)
    exact (if_pos listed).trans (inPhase_eq_some.mpr ⟨by simp [found, enqueuing], rfl⟩)
  | restartWorker open_ pending needed =>
    exact enabled_eq_some.mpr ⟨by simp [open_, pending, needed], rfl⟩
  | abandon | cancelActiveRuns | cancelEnds | clearRuns => rfl

theorem Controls.leads {event : ControlEvent} (moved : Controls s event s') : system.Leads s s' :=
  TransitionSystem.leads_of_step moved.step

/-- The entry that the loop body is working on. -/
def Worker.entry? : Worker → Option Nat
  | holding entry _ | marked entry _ | executing entry _ | closing entry _ _ _ | acking entry _ =>
    some entry
  | _ => none

inductive Works (s : State) : WorkerEvent → State → Prop where
  | boot (down : s.worker = .down) : Works s .boot { s with worker := .starting }
  | ensureGroup (starting : s.worker = .starting) :
      Works s .ensureGroup { s with worker := .idle, requests := s.requests.createGroup }
  | readNew {entry : Nat} {message : Message} {rest : GroupStream Message} (idle : s.worker = .idle)
      (read : s.requests.readNew = some (entry, message, rest)) :
      Works s .readNew { s with worker := .holding entry message, requests := rest }
  | redeliver {entry : Nat} {message : Message} (idle : s.worker = .idle)
      (listed : s.requests.entries[entry]? = some message) :
      Works s (.redeliver entry) { s with worker := .holding entry message }
  | claim {entry : Nat} {message : Message} {now : Time} (holding : s.worker =
    .holding entry message)
      (known : (handlerOf message.jobType).isSome = true)
      (matched : 0 < s.jobRuns.rowcount (markRunning message.jobId now)) :
      Works s (.markRunning now) { s with
        jobRuns := s.jobRuns.exec (markRunning message.jobId now)
        worker := .marked entry message
        claimed := s.claimed ++ [message.jobId] }
  /-- The run is not queued: a second delivery, or a run that was cancelled. -/
  | skip {entry : Nat} {message : Message} {now : Time} (holding : s.worker =
    .holding entry message)
      (known : (handlerOf message.jobType).isSome = true)
      (unmatched : ¬ 0 < s.jobRuns.rowcount (markRunning message.jobId now)) :
      Works s (.markRunning now) { s with worker := .acking entry false }
  | rejectUnknown {entry : Nat} {message : Message} {now : Time} (holding : s.worker =
    .holding entry message)
      (unknown : handlerOf message.jobType = none) :
      Works s (.rejectUnknown now) { s with
        jobRuns := s.jobRuns.exec
          (markTerminal message.jobId .failed (unknownJobType message.jobType) now)
        worker := .acking entry false }
  | startHandler {entry : Nat} {message : Message} (marked : s.worker = .marked entry message) :
      Works s .startHandler { s with
        worker := .executing entry message
        started := s.started ++ [message.jobId] }
  | handlerReturns {entry : Nat} {message : Message} {status : Status} {report : Report}
      (executing : s.worker = .executing entry message) (terminal : status.isTerminal = true) :
      Works s (.handlerReturns status report)
        { s with worker := .closing entry message status report }
  | markTerminal {entry : Nat} {message : Message} {status : Status} {report : Report} {now : Time}
      (closing : s.worker = .closing entry message status report) :
      Works s (.markTerminal now) { s with
        jobRuns := s.jobRuns.exec (Jobs.markTerminal message.jobId status report now)
        worker := .acking entry false }
  | raise {entry : Nat} (attends : s.worker.entry? = some entry) :
      Works s .raise { s with worker := .acking entry true }
  | ack {entry : Nat} {raised : Bool} (acking : s.worker = .acking entry raised) :
      Works s .ack { s with
        worker := if raised then .down else .idle
        requests := s.requests.ack entry }
  | crash : Works s .crash { s with worker := .down }

theorem works {event : WorkerEvent} (taken : system.step s (.worker event) = some s') :
    Works s event s' := by
  simp only [system] at taken
  cases event with
  | boot =>
    simp only [workerStep] at taken
    split at taken
    · rename_i down
      cases taken
      exact .boot down
    · cases taken
  | ensureGroup =>
    simp only [workerStep] at taken
    split at taken
    · rename_i starting
      cases taken
      exact .ensureGroup starting
    · cases taken
  | readNew =>
    simp only [workerStep] at taken
    split at taken
    · rename_i idle
      obtain ⟨⟨entry, message, rest⟩, read, rfl⟩ := Option.map_eq_some_iff.mp taken
      exact .readNew idle read
    · cases taken
  | redeliver =>
    simp only [workerStep] at taken
    split at taken
    · rename_i idle
      obtain ⟨message, listed, rfl⟩ := Option.map_eq_some_iff.mp taken
      exact .redeliver idle listed
    · cases taken
  | markRunning now =>
    simp only [workerStep] at taken
    split at taken
    · rename_i entry message holding
      split at taken
      · cases taken
      · rename_i known
        have known : (handlerOf message.jobType).isSome = true := by
          simpa [Option.isSome_iff_ne_none] using known
        split at taken
        · rename_i matched
          cases taken
          exact .claim holding known matched
        · rename_i unmatched
          cases taken
          exact .skip holding known unmatched
    · cases taken
  | rejectUnknown now =>
    simp only [workerStep] at taken
    split at taken
    · rename_i entry message holding
      obtain ⟨unknown, rfl⟩ := enabled_eq_some.mp taken
      exact .rejectUnknown holding (Option.isNone_iff_eq_none.mp unknown)
    · cases taken
  | startHandler =>
    simp only [workerStep] at taken
    split at taken
    · rename_i entry message marked
      cases taken
      exact .startHandler marked
    · cases taken
  | handlerReturns status report =>
    simp only [workerStep] at taken
    split at taken
    · rename_i entry message executing
      obtain ⟨terminal, rfl⟩ := enabled_eq_some.mp taken
      exact .handlerReturns executing terminal
    · cases taken
  | markTerminal now =>
    simp only [workerStep] at taken
    split at taken
    · rename_i entry message status report closing
      cases taken
      exact .markTerminal closing
    · cases taken
  | raise =>
    simp only [workerStep] at taken
    split at taken <;> cases taken
    all_goals
      rename_i here
      exact .raise (by rw [here]; rfl)
  | ack =>
    simp only [workerStep] at taken
    split at taken
    · rename_i entry raised acking
      cases taken
      exact .ack acking
    · cases taken
  | crash =>
    cases taken
    exact .crash

theorem Works.step {event : WorkerEvent} (moved : Works s event s') :
    system.step s (.worker event) = some s' := by
  cases moved with
  | boot here | ensureGroup here | startHandler here | markTerminal here | ack here =>
    simp [system, workerStep, here]
  | readNew idle read => simp [system, workerStep, idle, read]
  | redeliver idle listed => simp [system, workerStep, idle, listed]
  | claim holding known matched | skip holding known matched =>
    simp [system, workerStep, holding, Option.isSome_iff_ne_none.mp known, matched]
  | rejectUnknown holding unknown => simp [system, workerStep, holding, unknown]
  | handlerReturns executing terminal =>
    simp only [system, workerStep, executing]
    exact enabled_eq_some.mpr ⟨terminal, rfl⟩
  | raise attends =>
    simp only [system, workerStep]
    unfold Worker.entry? at attends
    split at attends <;> simp_all
  | crash => rfl

theorem Works.leads {event : WorkerEvent} (moved : Works s event s') : system.Leads s s' :=
  TransitionSystem.leads_of_step moved.step

def Writes (s : State) : Event → JobRun → JobRun → Prop
  | .worker (.markRunning now), old, new =>
    ∃ entry message, s.worker = .holding entry message ∧ old.id = message.jobId ∧
      old.status = .queued ∧ new = old.start now
  | .worker (.markTerminal now), old, new =>
    ∃ entry message status report, s.worker = .closing entry message status report ∧
      old.id = message.jobId ∧ new = old.finish status report now
  | .worker (.rejectUnknown now), old, new =>
    ∃ entry message, s.worker = .holding entry message ∧ old.id = message.jobId ∧
      new = old.finish .failed (unknownJobType message.jobType) now
  | .control (.markFailed id errMsg now), old, new => old.id = id ∧ new = old.fail errMsg now
  | .control (.cancelActiveRuns now), old, new => old.status.isActive = true ∧ new = old.cancel now
  | _, _, _ => False

theorem Writes.cases {old new : JobRun} (writes : Writes s event old new) : new.id = old.id ∧
    ((∃ now entry message, event = .worker (.markRunning now) ∧ s.worker = .holding entry message ∧
        old.id = message.jobId ∧ old.status = .queued ∧ new.status = .running) ∨
      (∃ now entry message status report, event = .worker (.markTerminal now) ∧
        s.worker = .closing entry message status report ∧ old.id = message.jobId ∧
        new.status = status) ∨
      (∃ now entry message, event = .worker (.rejectUnknown now) ∧
        s.worker = .holding entry message ∧ old.id = message.jobId ∧ new.status = .failed) ∨
      (∃ errMsg now, event = .control (.markFailed old.id errMsg now) ∧ new.status = .failed) ∨
      (∃ now, event = .control (.cancelActiveRuns now) ∧ old.status.isActive = true ∧
        new.status = .cancelled)) := by
  match event with
  | .worker (.markRunning now) =>
    obtain ⟨entry, message, holding, own, queued, rfl⟩ := writes
    exact ⟨rfl, .inl ⟨now, entry, message, rfl, holding, own, queued, rfl⟩⟩
  | .worker (.markTerminal now) =>
    obtain ⟨entry, message, status, report, closing, own, rfl⟩ := writes
    exact ⟨rfl, .inr (.inl ⟨now, entry, message, status, report, rfl, closing, own, rfl⟩)⟩
  | .worker (.rejectUnknown now) =>
    obtain ⟨entry, message, holding, own, rfl⟩ := writes
    exact ⟨rfl, .inr (.inr (.inl ⟨now, entry, message, rfl, holding, own, rfl⟩))⟩
  | .control (.markFailed id errMsg now) =>
    obtain ⟨rfl, rfl⟩ := writes
    exact ⟨rfl, .inr (.inr (.inr (.inl ⟨errMsg, now, rfl, rfl⟩)))⟩
  | .control (.cancelActiveRuns now) =>
    obtain ⟨active, rfl⟩ := writes
    exact ⟨rfl, .inr (.inr (.inr (.inr ⟨now, rfl, active, rfl⟩)))⟩

def Inserts : Event → JobRun → Prop
  | .control (.submit id jobType params now), run => run = JobRun.submitted id jobType params now
  | _, _ => False

def Deletes : Event → JobRun → Prop
  | .control .clearRuns, run => run.status.isActive = false
  | _, _ => False

theorem submit_fresh {jobType : String} {params : Json} {now : Time}
    (taken : system.step s (.control (.submit id jobType params now)) = some s') :
    id ∉ s.submitted ∧ isKnownJobType jobType = true ∧ s'.submitted = s.submitted ++ [id] := by
  cases controls taken with
  | submit known fresh => exact ⟨fresh, known, by simp [State.submitted]⟩

theorem mem_step (taken : system.step s event = some s') : run ∈ s'.jobRuns ↔
    (run ∈ s.jobRuns ∧ ¬ Deletes event run ∧ ∀ new, ¬ Writes s event run new) ∨
      (∃ old ∈ s.jobRuns, Writes s event old run) ∨ Inserts event run := by
  cases event with
  | control event =>
    cases controls taken with
    | submit _ _ inserted => simp [Writes, Inserts, Deletes, KeyedTable.mem_insert inserted]
    | markFailed => simp [mem_markFailed, Writes, Inserts, Deletes]
    | cancelActiveRuns =>
      simp [mem_cancelActiveRuns, Writes, Inserts, Deletes, -Status.isActive_iff]
    | clearRuns => simp [mem_clearTerminalRuns, Writes, Inserts, Deletes]
    | _ => simp [Writes, Inserts, Deletes, State.setPhase, State.setSubmission, State.endCancel]
  | worker event =>
    cases works taken with
    | claim holding =>
      simp only [mem_markRunning, Writes, Inserts, Deletes, holding, Worker.holding.injEq]
      grind
    | @skip entry message now holding _ unmatched =>
      -- no row is queued under this id, so the statement wrote none
      have unqueued : ∀ old ∈ s.jobRuns, old.id = message.jobId → old.status ≠ .queued := by
        intro old member own queued
        refine unmatched (KeyedTable.rowcount_pos.mpr ⟨old, member, ?_⟩)
        simp [markRunning, own, queued]
      simp only [Writes, Inserts, Deletes, holding, Worker.holding.injEq]
      grind
    | rejectUnknown holding => simp [mem_markTerminal, Writes, Inserts, Deletes, holding]
    | markTerminal closing => simp [mem_markTerminal, Writes, Inserts, Deletes, closing]
    | _ => simp [Writes, Inserts, Deletes]

theorem row_cases (taken : system.step s event = some s') (member : run ∈ s'.jobRuns) :
    (run ∈ s.jobRuns ∧ ∀ new, ¬ Writes s event run new) ∨
      (∃ old ∈ s.jobRuns, Writes s event old run) ∨ (run.id ∉ s.submitted ∧ Inserts event run) := by
  rcases (mem_step taken).mp member with ⟨kept, _, unwritten⟩ | written | inserted
  · exact .inl ⟨kept, unwritten⟩
  · exact .inr (.inl written)
  · refine .inr (.inr ⟨?_, inserted⟩)
    match event with
    | .control (.submit id jobType params now) =>
      cases inserted
      exact (submit_fresh taken).1

theorem row_stays (taken : system.step s event = some s') (member : run ∈ s.jobRuns) :
    (run ∈ s'.jobRuns ∧ ∀ new, ¬ Writes s event run new) ∨
      (∃ new ∈ s'.jobRuns, Writes s event run new) ∨ Deletes event run := by
  by_cases deleted : Deletes event run
  · exact .inr (.inr deleted)
  by_cases written : ∃ new, Writes s event run new
  · obtain ⟨new, writes⟩ := written
    exact .inr (.inl ⟨new, (mem_step taken).mpr (.inr (.inl ⟨run, member, writes⟩)), writes⟩)
  · push Not at written
    exact .inl ⟨(mem_step taken).mpr (.inl ⟨member, deleted, written⟩), written⟩

inductive Move (s s' : State) : Event → Prop where
  | stays {event : ControlEvent} (worker : s'.worker = s.worker) (claimed : s'.claimed = s.claimed)
      (started : s'.started = s.started) : Move s s' (.control event)
  | killed {request : Nat} (worker : s'.worker.message? = none) (claimed : s'.claimed = s.claimed)
      (started : s'.started = s.started) : Move s s' (.control (.restartWorker request))
  | drops {event : WorkerEvent} (worker : s'.worker.message? = none)
    (claimed : s'.claimed = s.claimed)
      (started : s'.started = s.started) : Move s s' (.worker event)
  | takes {event : WorkerEvent} {entry : Nat} {message : Message} (idle : s.worker = .idle)
      (worker : s'.worker = .holding entry message) (listed : message ∈ s.requests.entries)
      (claimed : s'.claimed = s.claimed) (started : s'.started = s.started) :
      Move s s' (.worker event)
  | claims {entry : Nat} {message : Message} {now : Time} (holding : s.worker =
    .holding entry message)
      (worker : s'.worker = .marked entry message)
      (queued : ∃ run ∈ s.jobRuns, run.id = message.jobId ∧ run.status = .queued)
      (claimed : s'.claimed = s.claimed ++ [message.jobId]) (started : s'.started = s.started) :
      Move s s' (.worker (.markRunning now))
  | starts {entry : Nat} {message : Message} (marked : s.worker = .marked entry message)
      (worker : s'.worker = .executing entry message) (claimed : s'.claimed = s.claimed)
      (started : s'.started = s.started ++ [message.jobId]) : Move s s' (.worker .startHandler)
  | returns {entry : Nat} {message : Message} {status : Status} {report : Report}
      (executing : s.worker = .executing entry message)
      (worker : s'.worker = .closing entry message status report)
      (terminal : status.isTerminal = true) (claimed : s'.claimed = s.claimed)
      (started : s'.started = s.started) : Move s s' (.worker (.handlerReturns status report))

theorem step_move (taken : system.step s event = some s') : Move s s' event := by
  cases event with
  | control event =>
    cases controls taken with
    | restartWorker => exact .killed rfl rfl rfl
    | _ => exact .stays rfl rfl rfl
  | worker event =>
    cases works taken with
    | readNew idle read =>
      have oldest := (GroupStream.readNew_eq_some read).1
      exact .takes idle rfl (GroupStream.undelivered_subset (oldest ▸ List.mem_cons_self)) rfl rfl
    | redeliver idle listed => exact .takes idle rfl (List.mem_of_getElem? listed) rfl rfl
    | claim holding _ matched =>
      obtain ⟨run, member, selected⟩ := KeyedTable.rowcount_pos.mp matched
      exact .claims holding rfl ⟨run, member, by simpa [markRunning] using selected⟩ rfl rfl
    | startHandler marked => exact .starts marked rfl rfl rfl
    | handlerReturns executing terminal => exact .returns executing rfl terminal rfl rfl
    | @ack entry raised =>
      refine .drops ?_ rfl rfl
      cases raised <;> rfl
    | _ => exact .drops rfl rfl rfl

theorem claimed_step (taken : system.step s event = some s') (member : id ∈ s'.claimed) :
    id ∈ s.claimed ∨ ∃ run ∈ s.jobRuns, run.id = id ∧ run.status = .queued ∧
      ∃ entry message now, event = .worker (.markRunning now) ∧
        s.worker = .holding entry message ∧ message.jobId = id := by
  cases step_move taken with
  | stays _ claimed | killed _ claimed | drops _ claimed | takes _ _ _ claimed | starts _ _ claimed
  | returns _ _ _ claimed => exact .inl (claimed ▸ member)
  | claims holding _ queued claimed =>
    rw [claimed, List.mem_append, List.mem_singleton] at member
    rcases member with old | rfl
    · exact .inl old
    · obtain ⟨run, present, own, status⟩ := queued
      exact .inr ⟨run, present, own, status, _, _, _, rfl, holding, rfl⟩

inductive Traffic (s s' : State) : Event → Prop where
  | same {event : Event} (requests : s'.requests = s.requests) : Traffic s s' event
  | added {id : JobId} {submission : Submission} {message : Message}
      (member : submission ∈ s.submissions) (own : submission.id = id)
      (sent : submission.message? = some message) (requests : s'.requests =
        s.requests.add message) : Traffic s s' (.control (.xadd id))
  | created (starting : s.worker = .starting) (requests : s'.requests = s.requests.createGroup) :
      Traffic s s' (.worker .ensureGroup)
  | read {entry : Nat} {message : Message}
      (taken : s.requests.readNew = some (entry, message, s'.requests))
      (worker : s'.worker = .holding entry message) : Traffic s s' (.worker .readNew)
  | acked {entry : Nat} {raised : Bool} (acking : s.worker = .acking entry raised)
      (requests : s'.requests = s.requests.ack entry) : Traffic s s' (.worker .ack)

theorem step_traffic (taken : system.step s event = some s') : Traffic s s' event := by
  cases event with
  | control event =>
    cases controls taken with
    | xadd found sent =>
      obtain ⟨member, own⟩ := submission?_eq_some found
      exact .added member own sent rfl
    | _ => exact .same rfl
  | worker event =>
    cases works taken with
    | ensureGroup starting => exact .created starting rfl
    | readNew _ read => exact .read read rfl
    | ack acking => exact .acked acking rfl
    | _ => exact .same rfl

theorem entries_step (taken : system.step s event = some s') {message : Message}
    (listed : message ∈ s'.requests.entries) : message ∈ s.requests.entries ∨
      ∃ submission ∈ s.submissions, submission.message? = some message ∧
        event = .control (.xadd submission.id) := by
  cases step_traffic taken with
  | same requests => exact .inl (requests ▸ listed)
  | added member own sent requests =>
    rw [requests, GroupStream.entries_add, List.mem_append, List.mem_singleton] at listed
    rcases listed with old | rfl
    · exact .inl old
    · exact .inr ⟨_, member, sent, own ▸ rfl⟩
  | created _ requests =>
    rw [requests, GroupStream.entries_createGroup] at listed
    exact .inl listed
  | read read _ => exact .inl ((GroupStream.readNew_eq_some read).2.1 ▸ listed)
  | acked _ requests =>
    rw [requests, GroupStream.entries_ack] at listed
    exact .inl listed

theorem entries_grow (taken : system.step s event = some s') {message : Message}
    (listed : message ∈ s.requests.entries) : message ∈ s'.requests.entries := by
  cases step_traffic taken with
  | same requests => exact requests ▸ listed
  | added _ _ _ requests =>
    rw [requests, GroupStream.entries_add]
    exact List.mem_append_left _ listed
  | created _ requests =>
    rw [requests, GroupStream.entries_createGroup]
    exact listed
  | read read _ =>
    rw [(GroupStream.readNew_eq_some read).2.1]
    exact listed
  | acked _ requests =>
    rw [requests, GroupStream.entries_ack]
    exact listed

theorem worker_keeps {event : WorkerEvent} (taken : system.step s (.worker event) = some s') :
    s'.submissions = s.submissions ∧ s'.cancels = s.cancels ∧ s'.markedFailed = s.markedFailed := by
  cases works taken <;> exact ⟨rfl, rfl, rfl⟩

theorem submitted_step (taken : system.step s event = some s') : s'.submitted = s.submitted ∨
    ∃ id jobType params now, event = .control (.submit id jobType params now) ∧
      s'.submitted = s.submitted ++ [id] := by
  cases event with
  | control event =>
    cases controls taken with
    | @submit id jobType params now =>
      exact .inr ⟨id, jobType, params, now, rfl, by simp [State.submitted]⟩
    | send | encodeErr | enqueueOk | enqueueErr | markFailed | abandon =>
      exact .inl (submitted_setSubmission fun _ => rfl)
    | xadd | cancelActiveRuns | restartWorker | cancelEnds | clearRuns => exact .inl rfl
  | worker event => exact .inl (congrArg (List.map Submission.id) (worker_keeps taken).1)

theorem submitted_grow (taken : system.step s event = some s') (member : id ∈ s.submitted) :
    id ∈ s'.submitted := by
  rcases submitted_step taken with same | ⟨_, _, _, _, _, grown⟩
  · exact same ▸ member
  · rw [grown]
    exact List.mem_append_left _ member

end OpenScale.Pipeline
