import OpenScale.Pipeline.Step

/-! What holds in every state that the queue can reach. -/

namespace OpenScale.Pipeline

open OpenScale.Library OpenScale.Jobs

variable {s s' : State} {event : Event} {run : JobRun} {message : Message}

structure Invariant (s : State) : Prop where
  rows : ∀ run ∈ s.jobRuns, run.id ∈ s.submitted
  sent : ∀ message ∈ s.requests.entries,
    message.jobId ∈ s.submitted ∧ isKnownJobType message.jobType = true
  held : ∀ message, s.worker.message? = some message → message ∈ s.requests.entries
  /-- A claimed run never is queued again. -/
  left : ∀ run ∈ s.jobRuns, run.id ∈ s.claimed → run.status ≠ .queued
  submitted : ∀ id ∈ s.claimed, id ∈ s.submitted
  claimedOnce : s.claimed.Nodup
  inFlight : ∀ message, s.worker.inFlight? = some message → message.jobId ∈ s.claimed
  started : ∀ id ∈ s.started, id ∈ s.claimed
  startedOnce : s.started.Nodup
  fresh : ∀ entry message, s.worker = .marked entry message → message.jobId ∉ s.started
  closing : ∀ entry message status report, s.worker = .closing entry message status report →
    status.isTerminal = true
  /-- The row of a run in flight is running, or cancelled, or failed by its own Run request. -/
  status : ∀ message, s.worker.inFlight? = some message → ∀ run ∈ s.jobRuns,
    run.id = message.jobId → run.status = .running ∨ run.status = .cancelled ∨ run.status = .failed

theorem not_inFlight {worker : Worker} (free : worker.message? = none) :
    worker.inFlight? = none := by
  cases worker <;> first | rfl | cases free

/-- How a message comes to be in flight after a step. -/
inductive Busy (s s' : State) (message : Message) : Event → Prop where
  | stays {event : ControlEvent} (before : s.worker.inFlight? = some message)
    (claimed : s'.claimed = s.claimed) :
      Busy s s' message (.control event)
  | claims {entry : Nat} {now : Time} (holding : s.worker = .holding entry message)
      (queued : ∃ run ∈ s.jobRuns, run.id = message.jobId ∧ run.status = .queued)
      (claimed : s'.claimed = s.claimed ++ [message.jobId]) :
      Busy s s' message (.worker (.markRunning now))
  | starts (before : s.worker.inFlight? = some message) (claimed : s'.claimed = s.claimed) :
      Busy s s' message (.worker .startHandler)
  | returns {status : Status} {report : Report} (before : s.worker.inFlight? = some message)
      (claimed : s'.claimed = s.claimed) :
      Busy s s' message (.worker (.handlerReturns status report))

theorem step_busy (taken : system.step s event = some s')
    (busy : s'.worker.inFlight? = some message) :
    Busy s s' message event := by
  cases step_move taken with
  | stays worker claimed => exact .stays (worker ▸ busy) claimed
  | killed worker | drops worker =>
    rw [not_inFlight worker] at busy
    cases busy
  | takes _ worker =>
    rw [worker] at busy
    cases busy
  | claims holding worker queued claimed =>
    rw [worker] at busy
    cases busy
    exact .claims holding queued claimed
  | starts marked worker claimed =>
    rw [worker] at busy
    exact .starts (by rw [marked]; exact busy) claimed
  | returns executing worker _ claimed =>
    rw [worker] at busy
    exact .returns (by rw [executing]; exact busy) claimed

theorem Invariant.init : Invariant Pipeline.init where
  rows := by simp [Pipeline.init]
  sent := by simp [Pipeline.init, GroupStream.empty]
  held := by simp [Pipeline.init, Worker.message?]
  left := by simp [Pipeline.init]
  submitted := by simp [Pipeline.init]
  claimedOnce := List.nodup_nil
  inFlight := by simp [Pipeline.init, Worker.inFlight?]
  started := by simp [Pipeline.init]
  startedOnce := List.nodup_nil
  fresh := by simp [Pipeline.init]
  closing := by simp [Pipeline.init]
  status := by simp [Pipeline.init, Worker.inFlight?]

theorem control_status {event : ControlEvent} (valid : Invariant s)
    (taken : system.step s (.control event) = some s') (busy : s.worker.inFlight? = some message)
    (member : run ∈ s'.jobRuns) (own : run.id = message.jobId) :
    run.status = .running ∨ run.status = .cancelled ∨ run.status = .failed := by
  rcases row_cases taken member with ⟨kept, _⟩ | ⟨old, _, writes⟩ | ⟨fresh, _⟩
  · exact valid.status message busy run kept own
  · obtain ⟨_, ⟨_, _, _, claim, _⟩ | ⟨_, _, _, _, _, close, _⟩ | ⟨_, _, _, reject, _⟩ |
      ⟨_, _, _, became⟩ | ⟨_, _, _, became⟩⟩ := writes.cases
    · cases claim
    · cases close
    · cases reject
    · exact .inr (.inr became)
    · exact .inr (.inl became)
  · exact absurd (valid.submitted _ (valid.inFlight message busy)) (own ▸ fresh)

namespace Invariant

variable (valid : Invariant s) (taken : system.step s event = some s')

include valid taken

theorem rows_step (member : run ∈ s'.jobRuns) : run.id ∈ s'.submitted := by
  rcases row_cases taken member with ⟨kept, _⟩ | ⟨old, present, writes⟩ | ⟨_, inserts⟩
  · exact submitted_grow taken (valid.rows run kept)
  · rw [writes.cases.1]
    exact submitted_grow taken (valid.rows old present)
  · match event with
    | .control (.submit id jobType params now) =>
      cases inserts
      rw [(submit_fresh taken).2.2]
      exact List.mem_append_right _ (List.mem_singleton_self _)

theorem sent_step (listed : message ∈ s'.requests.entries) :
    message.jobId ∈ s'.submitted ∧ isKnownJobType message.jobType = true := by
  rcases entries_step taken listed with old | ⟨submission, member, sent, _⟩
  · exact ⟨submitted_grow taken (valid.sent message old).1, (valid.sent message old).2⟩
  · obtain ⟨own, type⟩ := submission_message sent
    rw [own, type]
    exact ⟨submitted_grow taken (mem_submitted member), submission.known⟩

theorem held_step (busy : s'.worker.message? = some message) : message ∈ s'.requests.entries := by
  apply entries_grow taken
  cases step_move taken with
  | stays worker => exact valid.held message (worker ▸ busy)
  | killed worker | drops worker =>
    rw [worker] at busy
    cases busy
  | takes _ worker listed =>
    rw [worker] at busy
    cases busy
    exact listed
  | claims holding worker =>
    rw [worker] at busy
    exact valid.held message (by rw [holding]; exact busy)
  | starts marked worker =>
    rw [worker] at busy
    exact valid.held message (by rw [marked]; exact busy)
  | returns executing worker =>
    rw [worker] at busy
    exact valid.held message (by rw [executing]; exact busy)

/-- A row is queued only because it was, and no writer chose it, or because it is new. -/
theorem queued_step (member : run ∈ s'.jobRuns) (queued : run.status = .queued) :
    (run ∈ s.jobRuns ∧ ∀ new, ¬ Writes s event run new) ∨
      (run.id ∉ s.submitted ∧ Inserts event run) := by
  rcases row_cases taken member with kept | ⟨old, _, writes⟩ | inserted
  · exact .inl kept
  · exfalso
    obtain ⟨_, ⟨_, _, _, _, _, _, _, became⟩ | ⟨_, _, _, status, _, _, closing, _, became⟩ |
      ⟨_, _, _, _, _, _, became⟩ | ⟨_, _, _, became⟩ | ⟨_, _, _, became⟩⟩ := writes.cases
    · simp [became] at queued
    · have terminal := valid.closing _ _ _ _ closing
      rw [← became, queued] at terminal
      cases terminal
    · simp [became] at queued
    · simp [became] at queued
    · simp [became] at queued
  · exact .inr inserted

theorem left_step (member : run ∈ s'.jobRuns) (claimed : run.id ∈ s'.claimed) :
    run.status ≠ .queued := by
  intro queued
  rcases claimed_step taken claimed with
    before | ⟨old, present, own, waiting, entry, message, now, rfl, holding, same⟩
  · rcases queued_step valid taken member queued with ⟨kept, _⟩ | ⟨fresh, _⟩
    · exact valid.left run kept before queued
    · exact fresh (valid.submitted _ before)
  · rcases queued_step valid taken member queued with ⟨kept, unwritten⟩ | ⟨fresh, _⟩
    · exact unwritten _ ⟨entry, message, holding, same.symm, queued, rfl⟩
    · exact fresh (own ▸ valid.rows old present)

theorem submitted_claimed_step {id : JobId} (member : id ∈ s'.claimed) : id ∈ s'.submitted := by
  apply submitted_grow taken
  rcases claimed_step taken member with before | ⟨run, present, rfl, _⟩
  · exact valid.submitted id before
  · exact valid.rows run present

theorem claimedOnce_step : s'.claimed.Nodup := by
  cases step_move taken with
  | stays _ claimed | killed _ claimed | drops _ claimed | takes _ _ _ claimed | starts _ _ claimed
  | returns _ _ _ claimed => exact claimed ▸ valid.claimedOnce
  | claims _ _ queued claimed =>
    obtain ⟨run, present, own, status⟩ := queued
    rw [claimed, List.nodup_append]
    refine ⟨valid.claimedOnce, by simp, ?_⟩
    rintro id before other same rfl
    rw [List.mem_singleton.mp same, ← own] at before
    exact valid.left run present before status

theorem inFlight_step (busy : s'.worker.inFlight? = some message) : message.jobId ∈ s'.claimed := by
  cases step_busy taken busy with
  | stays before claimed | starts before claimed | returns before claimed =>
    rw [claimed]
    exact valid.inFlight message before
  | claims _ _ claimed =>
    rw [claimed]
    exact List.mem_append_right _ (List.mem_singleton_self _)

theorem started_step {id : JobId} (member : id ∈ s'.started) : id ∈ s'.claimed := by
  cases step_move taken with
  | stays _ claimed started | killed _ claimed started | drops _ claimed started
  | takes _ _ _ claimed started
  | returns _ _ _ claimed started =>
    rw [claimed]
    exact valid.started id (started ▸ member)
  | claims _ _ _ claimed started =>
    rw [claimed]
    exact List.mem_append_left _ (valid.started id (started ▸ member))
  | starts marked _ claimed started =>
    rw [claimed]
    rw [started, List.mem_append, List.mem_singleton] at member
    rcases member with before | rfl
    · exact valid.started id before
    · exact valid.inFlight _ (by rw [marked]; rfl)

theorem startedOnce_step : s'.started.Nodup := by
  cases step_move taken with
  | stays _ _ started | killed _ _ started | drops _ _ started | takes _ _ _ _ started
  | claims _ _ _ _ started
  | returns _ _ _ _ started => exact started ▸ valid.startedOnce
  | starts marked _ _ started =>
    rw [started, List.nodup_append]
    refine ⟨valid.startedOnce, by simp, ?_⟩
    rintro id before other same rfl
    rw [List.mem_singleton.mp same] at before
    exact valid.fresh _ _ marked before

theorem fresh_step {entry : Nat} (marked : s'.worker = .marked entry message) :
    message.jobId ∉ s'.started := by
  cases step_move taken with
  | stays worker _ started =>
    rw [started]
    exact valid.fresh entry message (worker ▸ marked)
  | killed worker | drops worker =>
    rw [marked] at worker
    cases worker
  | takes _ worker | starts _ worker | returns _ worker =>
    rw [marked] at worker
    cases worker
  | claims _ worker queued claimed started =>
    rw [marked] at worker
    cases worker
    obtain ⟨run, present, own, status⟩ := queued
    rw [started, ← own]
    intro before
    exact valid.left run present (valid.started _ before) status

theorem closing_step {entry : Nat} {status : Status} {report : Report}
    (closing : s'.worker = .closing entry message status report) : status.isTerminal = true := by
  cases step_move taken with
  | stays worker => exact valid.closing entry message status report (worker ▸ closing)
  | killed worker | drops worker =>
    rw [closing] at worker
    cases worker
  | takes _ worker | claims _ worker | starts _ worker =>
    rw [closing] at worker
    cases worker
  | returns _ worker terminal =>
    rw [closing] at worker
    cases worker
    exact terminal

theorem status_step (busy : s'.worker.inFlight? = some message) (member : run ∈ s'.jobRuns)
    (own : run.id = message.jobId) :
    run.status = .running ∨ run.status = .cancelled ∨ run.status = .failed := by
  cases step_busy taken busy with
  | stays before => exact control_status valid taken before member own
  | claims holding queued =>
    obtain ⟨waiting, present, same, status⟩ := queued
    rcases row_cases taken member with ⟨kept, unwritten⟩ | ⟨old, _, _, _, _, _, _,
      rfl⟩ | ⟨_, inserts⟩
    · have one := KeyedTable.same_row kept present (own.trans same.symm)
      exact absurd ⟨_, _, holding, own, one ▸ status, rfl⟩ (unwritten _)
    · exact .inl rfl
    · cases inserts
  | starts before | returns before =>
    rcases row_cases taken member with ⟨kept, _⟩ | ⟨_, _, writes⟩ | ⟨_, inserts⟩
    · exact valid.status message before run kept own
    · cases writes
    · cases inserts

theorem step : Invariant s' where
  rows _ := rows_step valid taken
  sent _ := sent_step valid taken
  held _ := held_step valid taken
  left _ := left_step valid taken
  submitted _ := submitted_claimed_step valid taken
  claimedOnce := claimedOnce_step valid taken
  inFlight _ := inFlight_step valid taken
  started _ := started_step valid taken
  startedOnce := startedOnce_step valid taken
  fresh _ _ := fresh_step valid taken
  closing _ _ _ _ := closing_step valid taken
  status _ busy _ := status_step valid taken busy

omit taken in
theorem path {admitted : State → Event → Prop} (run : system.Path admitted s s') : Invariant s' :=
  run.preserves (fun _ _ _ before _ taken => step before taken) valid

end Invariant

theorem reachable_invariant (reachable : system.Reachable s) : Invariant s :=
  Invariant.init.path reachable

end OpenScale.Pipeline
