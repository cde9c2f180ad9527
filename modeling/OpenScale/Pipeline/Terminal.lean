import OpenScale.Pipeline.Invariant

/-! Terminal statuses. `mark_running` and `CancelActiveRuns` look at the status
they overwrite; `mark_terminal` and `MarkFailed` do not. -/

namespace OpenScale.Pipeline

open OpenScale.Library OpenScale.Jobs

variable {s t : State} {event : Event} {run : JobRun}

/-- Of the rows terminal in the first state, those still there in the second have their status. -/
def TerminalAbsorbs (s t : State) : Prop :=
  ∀ run ∈ s.jobRuns, run.status.isTerminal = true →
    ∀ later ∈ t.jobRuns, later.id = run.id → later.status = run.status

/-- The run whose row the step is about to overwrite by id alone, and the status it brings. -/
def overwrites (s : State) : Event → Option (JobId × Status)
  | .worker (.markTerminal _) =>
    match s.worker with
    | .closing _ message status _ => some (message.jobId, status)
    | _ => none
  | .worker (.rejectUnknown _) =>
    match s.worker with
    | .holding _ message => some (message.jobId, .failed)
    | _ => none
  | .control (.markFailed id _ _) => some (id, .failed)
  | _ => none

/-- A row that is overwritten by id is not terminal yet, or has that very status. -/
def SparesTerminal (s : State) (event : Event) : Prop :=
  ∀ chosen ∈ overwrites s event, ∀ run ∈ s.jobRuns.rows,
    run.id = chosen.1 → run.status.isTerminal = true → run.status = chosen.2

instance (s : State) (event : Event) : Decidable (SparesTerminal s event) :=
  inferInstanceAs (Decidable (∀ chosen ∈ overwrites s event, ∀ run ∈ s.jobRuns.rows,
    run.id = chosen.1 → run.status.isTerminal = true → run.status = chosen.2))

theorem Writes.terminal {old new : JobRun} (writes : Writes s event old new)
    (terminal : old.status.isTerminal = true) : overwrites s event = some (old.id, new.status) := by
  obtain ⟨queued, running⟩ := Status.isTerminal_iff.mp terminal
  obtain ⟨_, ⟨_, _, _, _, _, _, waiting, _⟩ | ⟨_, _, _, _, _, rfl, closing, own, rfl⟩ |
    ⟨_, _, _, rfl, holding, own, became⟩ | ⟨_, _, rfl, became⟩ | ⟨_, _, active, _⟩⟩ := writes.cases
  · exact absurd waiting queued
  · simp [overwrites, closing, own]
  · simp [overwrites, holding, own, became]
  · simp [overwrites, became]
  · rcases Status.isActive_iff.mp active with waiting | busy
    · exact absurd waiting queued
    · exact absurd busy running

theorem overwrites_writes {status : Status} (chosen : overwrites s event = some (run.id, status)) :
    ∃ new, Writes s event run new ∧ new.status = status := by
  match event with
  | .worker (.markTerminal now) =>
    simp only [overwrites] at chosen
    split at chosen
    · rename_i entry message brought report closing
      obtain ⟨own, rfl⟩ := Prod.mk.inj (Option.some.inj chosen)
      exact ⟨_, ⟨entry, message, brought, report, closing, own.symm, rfl⟩, rfl⟩
    · cases chosen
  | .worker (.rejectUnknown now) =>
    simp only [overwrites] at chosen
    split at chosen
    · rename_i entry message holding
      obtain ⟨own, rfl⟩ := Prod.mk.inj (Option.some.inj chosen)
      exact ⟨_, ⟨entry, message, holding, own.symm, rfl⟩, rfl⟩
    · cases chosen
  | .control (.markFailed id errMsg now) =>
    cases chosen
    exact ⟨_, ⟨rfl, rfl⟩, rfl⟩

theorem step_absorbs_iff (valid : Invariant s) (taken : system.step s event = some t) :
    TerminalAbsorbs s t ↔ SparesTerminal s event := by
  constructor
  · rintro absorbs ⟨id, status⟩ chosen run member rfl terminal
    obtain ⟨new, writes, brought⟩ := overwrites_writes chosen
    have written : new ∈ t.jobRuns := (mem_step taken).mpr (.inr (.inl ⟨run, member, writes⟩))
    exact (absorbs run member terminal new written writes.cases.1).symm.trans brought
  · intro spares run member terminal later present same
    rcases row_cases taken present with ⟨kept, _⟩ | ⟨old, before, writes⟩ | ⟨fresh, _⟩
    · rw [KeyedTable.same_row kept member same]
    · have one : old = run :=
        KeyedTable.same_row before member (writes.cases.1.symm.trans same)
      subst one
      exact (spares _ (writes.terminal terminal) old member rfl terminal).symm
    · exact absurd (valid.rows run member) (same ▸ fresh)

/-- What a run of sparing steps keeps of one terminal row: its id stays taken,
and its row, while there is one, has the same status. -/
theorem SparesTerminal.keeps {first last : State} (valid : Invariant first)
    (path : system.Path SparesTerminal first last) (member : run ∈ first.jobRuns)
    (terminal : run.status.isTerminal = true) :
    run.id ∈ last.submitted ∧ ∀ later ∈ last.jobRuns, later.id = run.id →
    later.status = run.status := by
  induction path with
  | refl =>
    refine ⟨valid.rows run member, fun later present same => ?_⟩
    rw [KeyedTable.same_row present member same]
  | snoc path spares taken ih =>
    obtain ⟨known, absorbed⟩ := ih
    refine ⟨submitted_grow taken known, fun later present same => ?_⟩
    rcases row_cases taken present with ⟨kept, _⟩ | ⟨old, before, writes⟩ | ⟨fresh, _⟩
    · exact absorbed later kept same
    · have own : old.id = run.id := writes.cases.1.symm.trans same
      have status := absorbed old before own
      have chosen := writes.terminal (status ▸ terminal)
      exact (spares _ chosen old before rfl (status ▸ terminal)).symm.trans status
    · exact absurd known (same ▸ fresh)

/-- In a run whose overwrites by id spare the terminal rows, terminal statuses
absorb; and a step that does not spare them changes a terminal status. -/
theorem terminal_absorbing_iff_spared (s t : State) (reachable : system.Reachable s) :
    (system.Path SparesTerminal s t → TerminalAbsorbs s t) ∧
    ∀ event, system.step s event = some t → (TerminalAbsorbs s t ↔ SparesTerminal s event) := by
  have valid := reachable_invariant reachable
  refine ⟨?_, ?_⟩
  · intro path run member terminal later present same
    exact (SparesTerminal.keeps valid path member terminal).2 later present same
  · intro event taken
    exact step_absorbs_iff valid taken

def State.statuses (state : State) : List (JobId × Status) :=
  state.jobRuns.rows.map fun run => (run.id, run.status)

theorem mem_statuses {id : JobId} {status : Status} (listed : (id, status) ∈ s.statuses) :
    ∃ run ∈ s.jobRuns, run.id = id ∧ run.status = status := by
  obtain ⟨run, member, same⟩ := List.mem_map.mp listed
  cases same
  exact ⟨run, member, rfl, rfl⟩

def untilExecuting : List Event :=
  [.worker .boot, .worker .ensureGroup, .control (.submit 0 "gold" (.object []) 1),
    .control (.send 0 (.object [])), .control (.xadd 0), .control (.enqueueOk 0),
    .worker .readNew, .worker (.markRunning 2), .worker .startHandler]

def finishing : List Event :=
  [.worker (.handlerReturns .succeeded ⟨some 0, none, "", none, none⟩), .worker (.markTerminal 4)]

theorem terminal_absorbing_iff_spared_finished : ∃ s t, system.Reachable s ∧
    s.statuses = [(0, .succeeded)] ∧ t.statuses = [(0, .succeeded)] ∧ TerminalAbsorbs s t := by
  have halfway : (system.replay SparesTerminal init (untilExecuting ++ finishing)).map
      State.statuses = some [(0, .succeeded)] := by decide
  have whole : (system.replay SparesTerminal init (untilExecuting ++ finishing ++
      [.control (.cancelActiveRuns 5)])).map State.statuses = some [(0, .succeeded)] := by decide
  obtain ⟨s, t, front, before, back, after⟩ := TransitionSystem.passes_of_replay halfway whole
  exact ⟨s, t, front.leads, before, after, (terminal_absorbing_iff_spared s t front.leads).1 back⟩

theorem cancelled_run_becomes_succeeded :
    ¬ ∀ s t, system.Reachable s → system.Leads s t → TerminalAbsorbs s t := by
  intro absorbing
  have halfway : (system.replay (fun _ _ => True) init (untilExecuting ++
      [.control (.cancelActiveRuns 3)])).map State.statuses = some [(0, .cancelled)] := by decide
  have whole : (system.replay (fun _ _ => True) init (untilExecuting ++
      [.control (.cancelActiveRuns 3)] ++ finishing)).map State.statuses =
        some [(0, .succeeded)] := by decide
  obtain ⟨s, t, reachable, before, path, after⟩ := TransitionSystem.passes_of_replay halfway whole
  obtain ⟨run, member, own, cancelled⟩ :=
    mem_statuses (before ▸ List.mem_singleton_self (0, Status.cancelled))
  obtain ⟨later, present, same, succeeded⟩ :=
    mem_statuses (after ▸ List.mem_singleton_self (0, Status.succeeded))
  have unchanged := absorbing s t reachable path run member (by rw [cancelled]; rfl) later present
    (same.trans own.symm)
  rw [cancelled, succeeded] at unchanged
  cases unchanged

end OpenScale.Pipeline
