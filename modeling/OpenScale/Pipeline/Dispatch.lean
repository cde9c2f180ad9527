import OpenScale.Pipeline.Terminal

/-! Dispatch of a run to its handler: the conditional UPDATE of `mark_running`
is what makes it happen at most once. -/

namespace OpenScale.Pipeline

open OpenScale.Library OpenScale.Jobs

variable {s t u : State} {event : Event} {run : JobRun} {id : JobId}

/-- At some step before `s`, `mark_running` executed for this run and found its row queued. -/
def ClaimedFromQueued (s : State) (id : JobId) : Prop :=
  ∃ before after now entry message, system.Reachable before ∧
    system.step before (.worker (.markRunning now)) = some after ∧ system.Leads after s ∧
    before.worker = .holding entry message ∧ message.jobId = id ∧
    ∃ run ∈ before.jobRuns, run.id = id ∧ run.status = .queued

theorem claimed_from_queued (reachable : system.Reachable s) (claimed : id ∈ s.claimed) :
    ClaimedFromQueued s id := by
  induction reachable with
  | refl => cases claimed
  | snoc path _ taken ih =>
    rcases claimed_step taken claimed with
      earlier | ⟨run, member, own, queued, entry, message, now, rfl, holding, same⟩
    · obtain ⟨before, after, now, entry, message, reached, claim, rest, facts⟩ := ih earlier
      exact ⟨before, after, now, entry, message, reached, claim, rest.snoc trivial taken, facts⟩
    · exact ⟨_, _, now, entry, message, path, taken, .refl, holding, same, run, member, own, queued⟩

/-- The run can no longer be claimed, and the worker is not about to start it. -/
structure Unclaimable (s : State) (id : JobId) : Prop where
  known : id ∈ s.submitted
  left : ∀ run ∈ s.jobRuns, run.id = id → run.status ≠ .queued
  unmarked : ∀ entry message, s.worker = .marked entry message → message.jobId ≠ id

theorem Unclaimable.step (valid : Invariant s) (off : Unclaimable s id)
    (taken : system.step s event = some t) : Unclaimable t id where
  known := submitted_grow taken off.known
  left := by
    intro run member own queued
    rcases valid.queued_step taken member queued with ⟨kept, _⟩ | ⟨fresh, _⟩
    · exact off.left run kept own queued
    · exact fresh (own ▸ off.known)
  unmarked := by
    intro entry message marked same
    cases step_move taken with
    | stays worker => exact off.unmarked entry message (worker ▸ marked) same
    | killed worker | drops worker =>
      rw [marked] at worker
      cases worker
    | takes _ worker | starts _ worker | returns _ worker =>
      rw [marked] at worker
      cases worker
    | claims _ worker queued =>
      rw [marked] at worker
      cases worker
      obtain ⟨run, member, own, waiting⟩ := queued
      exact off.left run member (own.trans same) waiting

theorem Unclaimable.started (off : Unclaimable s id) (taken : system.step s event = some t)
    (started : id ∈ t.started) : id ∈ s.started := by
  cases step_move taken with
  | stays _ _ same | killed _ _ same | drops _ _ same | takes _ _ _ _ same | claims _ _ _ _ same
  | returns _ _ _ _ same => exact same ▸ started
  | starts marked _ _ grown =>
    rw [grown, List.mem_append, List.mem_singleton] at started
    rcases started with before | rfl
    · exact before
    · exact absurd rfl (off.unmarked _ _ marked)

theorem Unclaimable.never_starts (valid : Invariant s) (off : Unclaimable s id)
    (path : system.Leads s u) : id ∈ u.started → id ∈ s.started := by
  have whole : Invariant u ∧ Unclaimable u id ∧ (id ∈ u.started → id ∈ s.started) := by
    induction path with
    | refl => exact ⟨valid, off, fun here => here⟩
    | snoc _ _ taken ih =>
      obtain ⟨valid, off, before⟩ := ih
      exact ⟨valid.step taken, off.step valid taken, fun now => before (off.started taken now)⟩
  exact whole.2.2

theorem unclaimable_of_missed (valid : Invariant s) {entry : Nat} {message : Message} {now : Time}
    (holding : s.worker = .holding entry message) (member : run ∈ s.jobRuns)
    (own : run.id = message.jobId) (left : run.status ≠ .queued)
    (taken : system.step s (.worker (.markRunning now)) = some t) :
    Unclaimable t message.jobId where
  known := own ▸ submitted_grow taken (valid.rows run member)
  left := by
    intro later present same queued
    rcases valid.queued_step taken present queued with ⟨kept, _⟩ | ⟨_, inserts⟩
    · have one := KeyedTable.same_row kept member (same.trans own.symm)
      exact left (one ▸ queued)
    · cases inserts
  unmarked := by
    intro _ other marked _
    cases step_move taken with
    | drops worker =>
      rw [marked] at worker
      cases worker
    | takes _ worker =>
      rw [marked] at worker
      cases worker
    | claims held _ queued =>
      cases holding.symm.trans held
      obtain ⟨waiting, present, same, status⟩ := queued
      have one := KeyedTable.same_row member present (own.trans same.symm)
      exact left (one ▸ status)

theorem markRunning_started {now : Time}
    (taken : system.step s (.worker (.markRunning now)) = some t) : t.started = s.started := by
  cases step_move taken with
  | drops _ _ same | takes _ _ _ _ same | claims _ _ _ _ same => exact same

/-- No handler is called twice for one run; every call goes back to a `mark_running`
that found the row queued; and once `mark_running` has found the row cancelled
or failed, the handler of that run is not called any more. -/
theorem handler_started_at_most_once (reachable : system.Reachable s) :
    s.started.Nodup ∧ (∀ id ∈ s.started, ClaimedFromQueued s id) ∧
    ∀ entry message now t u, s.worker = .holding entry message →
      (∃ run ∈ s.jobRuns, run.id = message.jobId ∧
        (run.status = .cancelled ∨ run.status = .failed)) →
      system.step s (.worker (.markRunning now)) = some t → system.Leads t u →
      message.jobId ∈ u.started → message.jobId ∈ s.started := by
  have valid := reachable_invariant reachable
  refine ⟨valid.startedOnce, ?_, ?_⟩
  · intro id started
    exact claimed_from_queued reachable (valid.started id started)
  · rintro entry message now t u holding ⟨run, member, own, ended⟩ taken path started
    have left : run.status ≠ .queued := by
      rcases ended with status | status <;> simp [status]
    have off := unclaimable_of_missed valid holding member own left taken
    have before := off.never_starts (valid.step taken) path started
    exact markRunning_started taken ▸ before

def cancelledBeforeRead : List Event :=
  [.worker .boot, .worker .ensureGroup, .control (.submit 0 "gold" (.object []) 1),
    .control (.send 0 (.object [])), .control (.xadd 0), .control (.enqueueErr 0),
    .control (.cancelActiveRuns 2), .worker .readNew]

theorem handler_started_at_most_once_cancelled : ∃ s, system.Reachable s ∧
    s.statuses = [(0, .cancelled)] ∧ s.worker = .holding 0 ⟨0, "gold", .object [], 1⟩ ∧
    ∀ t u, system.step s (.worker (.markRunning 3)) = some t → system.Leads t u →
    0 ∉ u.started := by
  have replayed : (system.replay (fun _ _ => True) init cancelledBeforeRead).map
      (fun s => (s.statuses, s.started, s.worker)) =
        some ([(0, .cancelled)], [], .holding 0 ⟨0, "gold", .object [], 1⟩) := rfl
  obtain ⟨s, reachable, shown⟩ := TransitionSystem.reaches_of_replay replayed
  obtain ⟨statuses, started, holding⟩ : s.statuses = [(0, .cancelled)] ∧ s.started = [] ∧
    s.worker = .holding 0 ⟨0, "gold", .object [], 1⟩ := by simpa using shown
  refine ⟨s, reachable, statuses, holding, fun t u taken path here => ?_⟩
  obtain ⟨run, member, own, cancelled⟩ :=
    mem_statuses (statuses ▸ List.mem_singleton_self (0, Status.cancelled))
  have before := (handler_started_at_most_once reachable).2.2 0 _ 3 t u holding
    ⟨run, member, own, .inl cancelled⟩ taken path here
  simp [started] at before

end OpenScale.Pipeline
