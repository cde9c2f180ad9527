import OpenScale.Pipeline.Delivery

/-! The run in flight, while everything else goes on: a cancel leaves its row
cancelled, a MarkFailed leaves it failed, and neither ends its handler. -/

namespace OpenScale.Pipeline

open OpenScale.Library OpenScale.Jobs

variable {s t : State} {event : Event} {run : JobRun} {message : Message} {id : JobId}

/-- A cancel transaction committed after `mark_running` claimed this run. -/
def CancelledSince (s : State) (id : JobId) : Prop :=
  ∃ cancel ∈ s.cancels, id ∈ cancel.claimedBefore

instance (s : State) (id : JobId) : Decidable (CancelledSince s id) :=
  inferInstanceAs (Decidable (∃ cancel ∈ s.cancels, id ∈ cancel.claimedBefore))

/-- The runs that each cancel request found claimed, in the order of the requests. -/
def State.claimedBefore (state : State) : List (List JobId) :=
  state.cancels.map CancelAll.claimedBefore

theorem cancelledSince_iff : CancelledSince s id ↔ ∃ claimed ∈ s.claimedBefore, id ∈ claimed := by
  simp [CancelledSince, State.claimedBefore]

theorem claimedBefore_endCancel (request : Nat) :
    (s.endCancel request).claimedBefore = s.claimedBefore := by
  simp only [State.claimedBefore, State.endCancel]
  apply List.ext_getElem?
  intro position
  rw [List.getElem?_map, List.getElem?_map, List.getElem?_modify]
  cases s.cancels[position]? with
  | none => rfl
  | some cancel =>
    simp only [Option.map_eq_map, Option.map_some]
    split <;> rfl

/-- Only a cancel transaction makes a claimed run one that was cancelled since. -/
theorem cancelledSince_step (taken : system.step s event = some t) : CancelledSince t id ↔
    CancelledSince s id ∨ ((∃ now, event = .control (.cancelActiveRuns now)) ∧ id ∈ s.claimed) := by
  suffices grown : t.claimedBefore = s.claimedBefore ∧
      (∀ now, event ≠ .control (.cancelActiveRuns now)) ∨
      (∃ now, event = .control (.cancelActiveRuns now)) ∧
      t.claimedBefore = s.claimedBefore ++ [s.claimed] by
    rw [cancelledSince_iff, cancelledSince_iff]
    rcases grown with ⟨same, other⟩ | ⟨cancel, grown⟩
    · simp [same, other]
    · simp [grown, cancel, or_and_right, exists_or]
  cases event with
  | control event =>
    cases controls taken with
    | @cancelActiveRuns now => exact .inr ⟨⟨now, rfl⟩, by simp [State.claimedBefore]⟩
    | @restartWorker request | @cancelEnds request =>
      exact .inl ⟨claimedBefore_endCancel request, by simp⟩
    | _ => exact .inl ⟨rfl, by simp⟩
  | worker event =>
    have same := (worker_keeps taken).2.1
    exact .inl ⟨congrArg (List.map CancelAll.claimedBefore) same, by simp⟩

theorem markedFailed_step (taken : system.step s event = some t) : id ∈ t.markedFailed ↔
    id ∈ s.markedFailed ∨ ∃ errMsg now, event = .control (.markFailed id errMsg now) := by
  cases event with
  | control event =>
    cases controls taken with
    | markFailed => simp [eq_comm]
    | _ => simp [State.setPhase, State.setSubmission, State.endCancel]
  | worker event =>
    rw [(worker_keeps taken).2.2]
    simp

theorem markFailed_submitted {errMsg : String} {now : Time}
    (taken : system.step s (.control (.markFailed id errMsg now)) = some t) : id ∈ s.submitted := by
  cases controls taken with
  | markFailed found =>
    obtain ⟨member, own⟩ := submission?_eq_some found
    exact own ▸ mem_submitted member

/-- The row of a claimed run in flight: running until a cancel commits or MarkFailed
is executed for it; and then, while it is still there, failed if MarkFailed was. -/
structure InFlightRow (s : State) (id : JobId) : Prop where
  failed : id ∈ s.markedFailed → ∀ run ∈ s.jobRuns, run.id = id → run.status = .failed
  cancelled : id ∉ s.markedFailed → CancelledSince s id →
    ∀ run ∈ s.jobRuns, run.id = id → run.status = .cancelled
  running : id ∉ s.markedFailed → ¬ CancelledSince s id →
    ∃ run ∈ s.jobRuns, run.id = id ∧ run.status = .running

structure InFlight (s : State) : Prop where
  claimed : ∀ id, CancelledSince s id → id ∈ s.claimed
  submitted : ∀ id ∈ s.markedFailed, id ∈ s.submitted
  unqueued : ∀ run ∈ s.jobRuns, run.id ∈ s.markedFailed → run.status ≠ .queued
  row : ∀ message ∈ s.worker.inFlight?, InFlightRow s message.jobId

theorem InFlight.claimed_step (now : InFlight s) (taken : system.step s event = some t)
    (since : CancelledSince t id) : id ∈ t.claimed := by
  have earlier : id ∈ s.claimed := by
    rcases (cancelledSince_step taken).mp since with before | ⟨_, listed⟩
    · exact now.claimed id before
    · exact listed
  cases step_move taken with
  | stays _ same | killed _ same | drops _ same | takes _ _ _ same | starts _ _ same
  | returns _ _ _ same => exact same ▸ earlier
  | claims _ _ _ grown =>
    rw [grown]
    exact List.mem_append_left _ earlier

theorem InFlight.submitted_step (now : InFlight s) (taken : system.step s event = some t)
    (marked : id ∈ t.markedFailed) : id ∈ t.submitted := by
  apply submitted_grow taken
  rcases (markedFailed_step taken).mp marked with before | ⟨errMsg, now_, rfl⟩
  · exact now.submitted id before
  · exact markFailed_submitted taken

theorem InFlight.unqueued_step (now : InFlight s) (valid : Invariant s)
    (taken : system.step s event = some t) (member : run ∈ t.jobRuns)
    (marked : run.id ∈ t.markedFailed) : run.status ≠ .queued := by
  intro queued
  rcases (markedFailed_step taken).mp marked with before | ⟨errMsg, now_, rfl⟩
  · rcases valid.queued_step taken member queued with ⟨kept, _⟩ | ⟨fresh, _⟩
    · exact now.unqueued run kept before queued
    · exact fresh (now.submitted _ before)
  · rcases valid.queued_step taken member queued with ⟨_, unwritten⟩ | ⟨_, inserts⟩
    · exact unwritten _ ⟨rfl, rfl⟩
    · cases inserts

theorem Writes.control {event : ControlEvent} {old new : JobRun}
    (writes : Writes s (.control event) old new) :
    ((∃ errMsg now, event = .markFailed old.id errMsg now) ∧ new.status = .failed) ∨
      ((∃ now, event = .cancelActiveRuns now) ∧ old.status.isActive = true ∧
        new.status = .cancelled) := by
  match event with
  | .markFailed id errMsg now =>
    obtain ⟨rfl, rfl⟩ := writes
    exact .inl ⟨⟨errMsg, now, rfl⟩, rfl⟩
  | .cancelActiveRuns now =>
    obtain ⟨active, rfl⟩ := writes
    exact .inr ⟨⟨now, rfl⟩, active, rfl⟩

theorem Deletes.status (deletes : Deletes event run) : run.status ≠ .running := by
  intro running
  match event with
  | .control .clearRuns =>
    have ended : run.status.isActive = false := deletes
    rw [running] at ended
    cases ended

section ControlStep

variable {event : ControlEvent} (row : InFlightRow s id)
  (taken : system.step s (.control event) = some t)

include row taken

theorem InFlightRow.failed_step (known : id ∈ s.submitted) (marked : id ∈ t.markedFailed)
    (member : run ∈ t.jobRuns) (own : run.id = id) : run.status = .failed := by
  rcases row_cases taken member with ⟨kept, unwritten⟩ | ⟨old, before, writes⟩ | ⟨fresh, _⟩
  · rcases (markedFailed_step taken).mp marked with earlier | ⟨errMsg, now, same⟩
    · exact row.failed earlier run kept own
    · rw [same] at unwritten
      exact absurd ⟨own, rfl⟩ (unwritten (run.fail errMsg now))
  · rcases writes.control with ⟨_, became⟩ | ⟨⟨now, cancel⟩, active, _⟩
    · exact became
    · rcases (markedFailed_step taken).mp marked with earlier | ⟨_, _, same⟩
      · rw [row.failed earlier old before (writes.cases.1.symm.trans own)] at active
        cases active
      · cases cancel.symm.trans (Event.control.inj same)
  · exact absurd known (own ▸ fresh)

theorem InFlightRow.cancelled_step (known : id ∈ s.submitted) (unmarked : id ∉ t.markedFailed)
    (since : CancelledSince t id) (member : run ∈ t.jobRuns) (own : run.id = id) :
    run.status = .cancelled := by
  have unmarked_ : id ∉ s.markedFailed :=
    fun before => unmarked ((markedFailed_step taken).mpr (.inl before))
  rcases row_cases taken member with ⟨kept, unwritten⟩ | ⟨old, _, writes⟩ | ⟨fresh, _⟩
  · by_cases before : CancelledSince s id
    · exact row.cancelled unmarked_ before run kept own
    · obtain ⟨busy, present, same, running⟩ := row.running unmarked_ before
      have one := KeyedTable.same_row kept present (own.trans same.symm)
      rcases (cancelledSince_step taken).mp since with already | ⟨⟨now, cancel⟩, _⟩
      · exact absurd already before
      · rw [cancel] at unwritten
        exact absurd ⟨by rw [one, running]; rfl, rfl⟩ (unwritten (run.cancel now))
  · rcases writes.control with ⟨⟨errMsg, now, failed⟩, _⟩ | ⟨_, _, became⟩
    · rw [writes.cases.1.symm.trans own] at failed
      exact absurd
        ((markedFailed_step taken).mpr (.inr ⟨errMsg, now, congrArg Event.control failed⟩))
        unmarked
    · exact became
  · exact absurd known (own ▸ fresh)

theorem InFlightRow.running_step (claimed : id ∈ s.claimed) (unmarked : id ∉ t.markedFailed)
    (spared : ¬ CancelledSince t id) : ∃ run ∈ t.jobRuns, run.id = id ∧ run.status = .running := by
  have unmarked_ : id ∉ s.markedFailed :=
    fun before => unmarked ((markedFailed_step taken).mpr (.inl before))
  have before : ¬ CancelledSince s id :=
    fun since => spared ((cancelledSince_step taken).mpr (.inl since))
  obtain ⟨run, member, own, running⟩ := row.running unmarked_ before
  rcases row_stays taken member with ⟨kept, _⟩ | ⟨new, _, writes⟩ | deletes
  · exact ⟨run, kept, own, running⟩
  · rcases writes.control with ⟨⟨errMsg, now, failed⟩, _⟩ | ⟨⟨now, cancel⟩, _⟩
    · rw [own] at failed
      exact absurd
        ((markedFailed_step taken).mpr (.inr ⟨errMsg, now, congrArg Event.control failed⟩))
        unmarked
    · exact absurd ((cancelledSince_step taken).mpr
        (.inr ⟨⟨now, congrArg Event.control cancel⟩, claimed⟩)) spared
  · exact absurd running deletes.status

theorem InFlightRow.control_step (known : id ∈ s.submitted) (claimed : id ∈ s.claimed) :
    InFlightRow t id where
  failed marked _ member own := row.failed_step taken known marked member own
  cancelled unmarked since _ member own := row.cancelled_step taken known unmarked since member own
  running := row.running_step taken claimed

end ControlStep

theorem InFlightRow.worker_step {event : WorkerEvent} (row : InFlightRow s id)
    (taken : system.step s (.worker event) = some t)
    (silent : ∀ old new, ¬ Writes s (.worker event) old new) : InFlightRow t id := by
  have same : CancelledSince t id ↔ CancelledSince s id := by
    simp [cancelledSince_step taken]
  have marks : id ∈ t.markedFailed ↔ id ∈ s.markedFailed := by
    simp [markedFailed_step taken]
  have rows : ∀ run, run ∈ t.jobRuns ↔ run ∈ s.jobRuns := by
    intro run
    simp [mem_step taken, silent, Deletes, Inserts]
  refine ⟨?_, ?_, ?_⟩
  · intro marked run member own
    exact row.failed (marks.mp marked) run ((rows run).mp member) own
  · intro unmarked since run member own
    exact row.cancelled (fun marked => unmarked (marks.mpr marked)) (same.mp since) run
      ((rows run).mp member) own
  · intro unmarked spared
    obtain ⟨run, member, own, running⟩ := row.running (fun marked => unmarked (marks.mpr marked))
      fun since => spared (same.mpr since)
    exact ⟨run, (rows run).mpr member, own, running⟩

theorem InFlight.step (valid : Invariant s) (now : InFlight s)
    (taken : system.step s event = some t) : InFlight t where
  claimed _ := now.claimed_step taken
  submitted _ := now.submitted_step taken
  unqueued _ := now.unqueued_step valid taken
  row := by
    intro message busy
    cases step_busy taken busy with
    | stays before =>
      have claimed := valid.inFlight message before
      exact (now.row message before).control_step taken (valid.submitted _ claimed) claimed
    | claims holding queued =>
      obtain ⟨run, member, own, waiting⟩ := queued
      have unclaimed : message.jobId ∉ s.claimed :=
        fun claimed => valid.left run member (own ▸ claimed) waiting
      have uncancelled : ¬ CancelledSince t message.jobId := by
        intro since
        rcases (cancelledSince_step taken).mp since with before | ⟨⟨_, cancel⟩, _⟩
        · exact unclaimed (now.claimed _ before)
        · cases cancel
      have unmarked : message.jobId ∉ t.markedFailed := by
        intro marked
        rcases (markedFailed_step taken).mp marked with before | ⟨_, _, failed⟩
        · exact now.unqueued run member (own ▸ before) waiting
        · cases failed
      refine ⟨fun marked => absurd marked unmarked, fun _ since => absurd since uncancelled,
        fun _ _ => ?_⟩
      rcases row_stays taken member with ⟨_, unwritten⟩ | ⟨new, present, writes⟩ | deletes
      · exact absurd ⟨_, _, holding, own, waiting, rfl⟩ (unwritten _)
      · obtain ⟨_, _, _, _, _, rfl⟩ := writes
        exact ⟨_, present, own, rfl⟩
      · cases deletes
    | starts before | returns before =>
      exact (now.row message before).worker_step taken fun _ _ writes => writes

theorem reachable_inFlight (reachable : system.Reachable s) : InFlight s := by
  have both : Invariant s ∧ InFlight s := by
    induction reachable with
    | refl =>
      refine ⟨.init, ⟨?_, ?_, ?_, ?_⟩⟩
      · simp [CancelledSince, system, init]
      · simp [system, init]
      · simp [system, init]
      · simp [system, init, Worker.inFlight?]
    | snoc _ _ taken ih =>
      obtain ⟨valid, now⟩ := ih
      exact ⟨valid.step taken, now.step valid taken⟩
  exact both.2

/-- The run that the step from `s` to `t` leaves without a worker is a cancelled one. -/
def InterruptsCancelled (s t : State) : Prop :=
  ∀ message ∈ s.worker.inFlight?, ∀ run ∈ t.jobRuns, run.id = message.jobId →
    run.status = .cancelled

/-- The restart of a CancelAll is harmless exactly when some cancel committed after
the run that it interrupts was claimed, and MarkFailed was not executed for that run;
or the row of that run is gone. -/
theorem restart_interrupts_cancelled_iff (s t : State) (request : Nat)
    (reachable : system.Reachable s)
    (taken : system.step s (.control (.restartWorker request)) = some t) :
    InterruptsCancelled s t ↔ ∀ message ∈ s.worker.inFlight?,
      (∃ run ∈ s.jobRuns, run.id = message.jobId) →
        CancelledSince s message.jobId ∧ message.jobId ∉ s.markedFailed := by
  have rows := (stop_step taken trivial).1
  have now := reachable_inFlight reachable
  constructor
  · rintro harmless message busy ⟨run, member, own⟩
    have cancelled := harmless message busy run (rows ▸ member) own
    have unmarked : message.jobId ∉ s.markedFailed := by
      intro marked
      have failed := (now.row message busy).failed marked run member own
      simp [failed] at cancelled
    refine ⟨?_, unmarked⟩
    by_contra uncancelled
    obtain ⟨busyRun, present, same, running⟩ := (now.row message busy).running unmarked uncancelled
    have one := KeyedTable.same_row member present (own.trans same.symm)
    simp [one, running] at cancelled
  · intro since message busy run member own
    obtain ⟨cancel, unmarked⟩ := since message busy ⟨run, rows ▸ member, own⟩
    exact (now.row message busy).cancelled unmarked cancel run (rows ▸ member) own

/-- A cancel of the run that is executing, and the restart that follows. -/
theorem restart_interrupts_cancelled_iff_cancelled : ∃ s, s.statuses = [(0, .cancelled)] ∧
    (s.worker.inFlight?.map Message.jobId) = some 0 ∧
    ∃ t, system.step s (.control (.restartWorker 0)) = some t ∧ InterruptsCancelled s t := by
  have replayed : (system.replay (fun _ _ => True) init
      (untilExecuting ++ [.control (.cancelActiveRuns 3)])).map (fun s => (s.statuses,
        s.worker.inFlight?.map Message.jobId, decide (CancelledSince s 0 ∧ 0 ∉ s.markedFailed),
        (system.step s (.control (.restartWorker 0))).isSome)) =
      some ([(0, .cancelled)], some 0, true, true) := by decide
  obtain ⟨s, reachable, shown⟩ := TransitionSystem.reaches_of_replay replayed
  simp only [Prod.mk.injEq, decide_eq_true_eq] at shown
  obtain ⟨statuses, busy, since, enabled⟩ := shown
  obtain ⟨t, taken⟩ := Option.isSome_iff_exists.mp enabled
  refine ⟨s, statuses, busy, t, taken,
    (restart_interrupts_cancelled_iff s t 0 reachable taken).mpr ?_⟩
  intro message held _
  have own : message.jobId = 0 := by simpa [Option.mem_def.mp held] using busy
  exact own ▸ since

/-- The cancelled run ends by itself, and the worker goes on with a run that came later. -/
def nextRunStarted : List Event :=
  untilExecuting ++ [.control (.cancelActiveRuns 3)] ++ finishing ++
    [.worker .ack, .control (.submit 1 "gold" (.object []) 5), .control (.send 1 (.object [])),
      .control (.xadd 1), .worker .readNew, .worker (.markRunning 6), .worker .startHandler]

theorem restart_interrupts_next_run : ¬ ∀ s t request, system.Reachable s →
    system.step s (.control (.restartWorker request)) = some t → InterruptsCancelled s t := by
  intro harmless
  have replayed : (system.replay (fun _ _ => True) init nextRunStarted).map (fun s => (s.statuses,
      s.worker.inFlight?.map Message.jobId, (system.step s (.control (.restartWorker 0))).isSome)) =
        some ([(0, .succeeded), (1, .running)], some 1, true) := by decide
  obtain ⟨s, reachable, shown⟩ := TransitionSystem.reaches_of_replay replayed
  simp only [Prod.mk.injEq] at shown
  obtain ⟨statuses, busy, enabled⟩ := shown
  obtain ⟨t, taken⟩ := Option.isSome_iff_exists.mp enabled
  obtain ⟨message, held, own⟩ := Option.map_eq_some_iff.mp busy
  obtain ⟨run, member, same, running⟩ : ∃ run ∈ s.jobRuns, run.id = 1 ∧ run.status = .running :=
    mem_statuses (by simp [statuses])
  have rows := (stop_step taken trivial).1
  have cancelled :=
    harmless s t 0 reachable taken message held run (rows ▸ member) (same.trans own.symm)
  simp [running] at cancelled

/-- The step from `s` to `t` does not delete the row of the run that is executing. -/
def KeepsExecuting (s t : State) : Prop :=
  ∀ entry message, s.worker = .executing entry message →
    ∀ run ∈ s.jobRuns, run.id = message.jobId → ∃ later ∈ t.jobRuns, later.id = run.id

/-- Clearing the history keeps the row of the executing run exactly when no cancel
committed since that run was claimed, and MarkFailed was not executed for it. -/
theorem clear_keeps_executing_iff (s t : State) (reachable : system.Reachable s)
    (taken : system.step s (.control .clearRuns) = some t) :
    KeepsExecuting s t ↔ ∀ entry message, s.worker = .executing entry message →
      (∃ run ∈ s.jobRuns, run.id = message.jobId) →
        ¬ CancelledSince s message.jobId ∧ message.jobId ∉ s.markedFailed := by
  have row : ∀ entry message, s.worker = .executing entry message →
      InFlightRow s message.jobId := by
    intro entry message executing
    exact (reachable_inFlight reachable).row message (by rw [executing]; exact rfl)
  have rows : ∀ run, run ∈ t.jobRuns ↔ run ∈ s.jobRuns ∧ run.status.isActive = true := by
    intro run
    simp [mem_step taken, Deletes, Writes, Inserts, -Status.isActive_iff]
  constructor
  · rintro keeps entry message executing ⟨run, member, own⟩
    obtain ⟨later, present, same⟩ := keeps entry message executing run member own
    obtain ⟨kept, active⟩ := (rows later).mp present
    have unmarked : message.jobId ∉ s.markedFailed := by
      intro marked
      have failed := (row entry message executing).failed marked later kept (same.trans own)
      simp [failed] at active
    refine ⟨fun since => ?_, unmarked⟩
    have cancelled :=
      (row entry message executing).cancelled unmarked since later kept (same.trans own)
    simp [cancelled] at active
  · intro spared entry message executing run member own
    obtain ⟨uncancelled, unmarked⟩ := spared entry message executing ⟨run, member, own⟩
    obtain ⟨busy, present, same, running⟩ :=
      (row entry message executing).running unmarked uncancelled
    exact ⟨busy, (rows busy).mpr ⟨present, by simp [running]⟩, same.trans own.symm⟩

theorem clear_keeps_executing_iff_running : ∃ s t, s.statuses = [(0, .running)] ∧
    system.step s (.control .clearRuns) = some t ∧ KeepsExecuting s t := by
  have replayed : (system.replay (fun _ _ => True) init untilExecuting).map (fun s => (s.statuses,
      s.worker.inFlight?.map Message.jobId, decide (¬ CancelledSince s 0 ∧ 0 ∉ s.markedFailed))) =
        some ([(0, .running)], some 0, true) := by decide
  obtain ⟨s, reachable, shown⟩ := TransitionSystem.reaches_of_replay replayed
  simp only [Prod.mk.injEq, decide_eq_true_eq] at shown
  obtain ⟨statuses, busy, spared⟩ := shown
  refine ⟨s, _, statuses, rfl, (clear_keeps_executing_iff s _ reachable rfl).mpr ?_⟩
  intro entry message executing _
  have own : message.jobId = 0 := by simpa [executing, Worker.inFlight?] using busy
  exact own ▸ spared

/-- The run is cancelled, the restart of the worker fails, and the history is cleared. -/
theorem clear_deletes_executing : ¬ ∀ s t, system.Reachable s →
    system.step s (.control .clearRuns) = some t → KeepsExecuting s t := by
  intro keeps
  have replayed : (system.replay (fun _ _ => True) init (untilExecuting ++
      [.control (.cancelActiveRuns 3), .control (.cancelEnds 0)])).map
      (fun s => (s.statuses, s.worker)) = some ([(0, .cancelled)],
        .executing 0 ⟨0, "gold", .object [], 1⟩) := rfl
  obtain ⟨s, reachable, shown⟩ := TransitionSystem.reaches_of_replay replayed
  simp only [Prod.mk.injEq] at shown
  obtain ⟨statuses, executing⟩ := shown
  obtain ⟨run, member, own, cancelled⟩ : ∃ run ∈ s.jobRuns, run.id = 0 ∧ run.status = .cancelled :=
    mem_statuses (by simp [statuses])
  obtain ⟨later, present, same⟩ := keeps s _ reachable rfl 0 _ executing run member own
  obtain ⟨kept, active⟩ := mem_clearTerminalRuns.mp present
  have one := KeyedTable.same_row kept member same
  simp [one, cancelled] at active

end OpenScale.Pipeline
