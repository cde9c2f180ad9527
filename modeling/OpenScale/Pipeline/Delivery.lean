import OpenScale.Pipeline.Dispatch

/-! Delivery of the messages of queued runs. An entry that was delivered is never
read again, and one that is older than the consumer group never was readable. -/

namespace OpenScale.Pipeline

open OpenScale.Library OpenScale.Jobs

variable {s t : State} {event : Event} {run : JobRun} {id : JobId}

/-- The group can still be served a message of this run. -/
def State.readable (state : State) (id : JobId) : Bool :=
  state.requests.undelivered.any fun message => message.jobId == id

/-- The live worker has a message of this run and has not reached `mark_running`. -/
def State.holds (state : State) (id : JobId) : Bool :=
  match state.worker with
  | .holding _ message => message.jobId == id
  | _ => false

/-- Every queued run whose message is on the stream will still be looked at. -/
def NoneLost (s : State) : Prop :=
  ∀ run ∈ s.jobRuns, run.status = .queued →
    (∃ message ∈ s.requests.entries, message.jobId = run.id) →
      s.readable run.id = true ∨ s.holds run.id = true

/-- The run whose last message gets out of reach with this step: the message is
added before the group exists, or the worker that holds it stops. -/
def strands (s : State) : Event → Option JobId
  | .control (.xadd id) => if s.requests.group.isNone && !s.holds id then some id else none
  | .control (.restartWorker _) | .worker .crash | .worker .raise =>
    match s.worker with
    | .holding _ message => if s.readable message.jobId then none else some message.jobId
    | _ => none
  | _ => none

/-- A run whose message gets out of reach is not queued any more. -/
def StrandsNone (s : State) (event : Event) : Prop :=
  ∀ id ∈ strands s event, ∀ run ∈ s.jobRuns.rows, run.id = id → run.status ≠ .queued

instance (s : State) (event : Event) : Decidable (StrandsNone s event) :=
  inferInstanceAs (Decidable (∀ id ∈ strands s event, ∀ run ∈ s.jobRuns.rows,
    run.id = id → run.status ≠ .queued))

theorem readable_iff : s.readable id = true ↔
    ∃ message ∈ s.requests.undelivered, message.jobId = id := by
  simp [State.readable]

theorem holds_iff : s.holds id = true ↔
    ∃ entry message, s.worker = .holding entry message ∧ message.jobId = id := by
  unfold State.holds
  split
  · rename_i entry message holding
    simp [holding]
  · rename_i other
    simp only [Bool.false_eq_true, false_iff]
    rintro ⟨entry, message, holding, _⟩
    exact other entry message holding

/-- The steps that take its message from the worker before `mark_running`. -/
def Stops : Event → Prop
  | .control (.restartWorker _) | .worker .crash | .worker .raise => True
  | _ => False

theorem Stops.cases (stops : Stops event) :
    (∃ request, event = .control (.restartWorker request)) ∨ event = .worker .crash ∨
        event = .worker .raise := by
  cases event with
  | control event =>
    cases event with
    | restartWorker request => exact .inl ⟨request, rfl⟩
    | _ => exact stops.elim
  | worker event =>
    cases event with
    | crash => exact .inr (.inl rfl)
    | raise => exact .inr (.inr rfl)
    | _ => exact stops.elim

theorem strands_of_stops (stops : Stops event) : strands s event =
    match s.worker with
    | .holding _ message => if s.readable message.jobId then none else some message.jobId
    | _ => none := by
  obtain ⟨request, rfl⟩ | rfl | rfl := stops.cases
  · rfl
  · rfl
  · rfl

theorem stop_step (taken : system.step s event = some t) (stops : Stops event) :
    t.jobRuns = s.jobRuns ∧ t.requests = s.requests ∧ t.worker.message? = none := by
  obtain ⟨request, rfl⟩ | rfl | rfl := stops.cases
  · cases controls taken
    exact ⟨rfl, rfl, rfl⟩
  · cases works taken
    exact ⟨rfl, rfl, rfl⟩
  · cases works taken
    exact ⟨rfl, rfl, rfl⟩

theorem xadd_step (taken : system.step s (.control (.xadd id)) = some t) :
    ∃ message, t = { s with requests := s.requests.add message } ∧ message.jobId = id := by
  cases controls taken with
  | xadd found sent =>
    exact ⟨_, rfl, (submission_message sent).1.trans (submission?_eq_some found).2⟩

theorem holding_step {entry : Nat} {message : Message} (taken : system.step s event = some t)
    (holding : s.worker = .holding entry message) : t.worker = .holding entry message ∨
      (∃ now, event = .worker (.markRunning now)) ∨ (∃ now, event = .worker (.rejectUnknown now)) ∨
      Stops event := by
  cases event with
  | control event =>
    cases step_move taken with
    | stays worker => exact .inl (worker ▸ holding)
    | killed => exact .inr (.inr (.inr trivial))
  | worker event =>
    cases works taken with
    | @claim _ _ now | @skip _ _ now => exact .inr (.inl ⟨now, rfl⟩)
    | @rejectUnknown _ _ now => exact .inr (.inr (.inl ⟨now, rfl⟩))
    | crash | raise => exact .inr (.inr (.inr trivial))
    | boot here | ensureGroup here | readNew here | redeliver here | startHandler here
    | handlerReturns here | markTerminal here | ack here =>
      rw [holding] at here
      cases here

theorem readable_step (taken : system.step s event = some t) (readable : s.readable id = true) :
    t.readable id = true ∨ t.holds id = true := by
  obtain ⟨message, listed, own⟩ := readable_iff.mp readable
  cases step_traffic taken with
  | same requests => exact .inl (readable_iff.mpr ⟨message, requests ▸ listed, own⟩)
  | added _ _ _ requests =>
    refine .inl (readable_iff.mpr ⟨message, ?_, own⟩)
    rw [requests]
    by_cases present : s.requests.group = none
    · simp [GroupStream.undelivered, present] at listed
    · rw [GroupStream.undelivered_add present]
      exact List.mem_append_left _ listed
  | created _ requests =>
    refine .inl (readable_iff.mpr ⟨message, ?_, own⟩)
    rw [requests, GroupStream.undelivered_createGroup]
    exact listed
  | read read worker =>
    rw [(GroupStream.readNew_eq_some read).1] at listed
    rcases List.mem_cons.mp listed with rfl | rest
    · exact .inr (holds_iff.mpr ⟨_, _, worker, own⟩)
    · exact .inl (readable_iff.mpr ⟨message, rest, own⟩)
  | acked _ requests =>
    refine .inl (readable_iff.mpr ⟨message, ?_, own⟩)
    rw [requests, GroupStream.undelivered_ack]
    exact listed

/-- A held message is held still or readable again, unless the step strands its run. -/
theorem holds_step (taken : system.step s event = some t) (spared : StrandsNone s event)
    (member : run ∈ s.jobRuns) (queued : run.status = .queued)
    (unwritten : ∀ new, ¬ Writes s event run new) (holds : s.holds run.id = true) :
    t.readable run.id = true ∨ t.holds run.id = true := by
  obtain ⟨entry, message, holding, own⟩ := holds_iff.mp holds
  rcases holding_step taken holding with still | ⟨now, rfl⟩ | ⟨now, rfl⟩ | stops
  · exact .inr (holds_iff.mpr ⟨entry, message, still, own⟩)
  · exact absurd ⟨entry, message, holding, own.symm, queued, rfl⟩ (unwritten _)
  · exact absurd ⟨entry, message, holding, own.symm, rfl⟩ (unwritten _)
  · by_cases copy : s.readable run.id = true
    · exact readable_step taken copy
    · have stranded : strands s event = some run.id := by
        rw [strands_of_stops stops, holding]
        simp [own, copy]
      exact absurd queued (spared _ stranded run member rfl)

theorem noneLost_step (valid : Invariant s) (taken : system.step s event = some t)
    (spared : StrandsNone s event) (none_ : NoneLost s) : NoneLost t := by
  rintro run member queued ⟨message, listed, own⟩
  rcases valid.queued_step taken member queued with ⟨kept, unwritten⟩ | ⟨fresh, inserts⟩
  · rcases entries_step taken listed with old | ⟨submission, _, sent, rfl⟩
    · rcases none_ run kept queued ⟨message, old, own⟩ with readable | holds
      · exact readable_step taken readable
      · exact holds_step taken spared kept queued unwritten holds
    · have same : submission.id = run.id := (submission_message sent).1.symm.trans own
      by_cases holds : s.holds run.id = true
      · exact holds_step taken spared kept queued unwritten holds
      by_cases present : s.requests.group = none
      · have stranded : strands s (.control (.xadd submission.id)) = some run.id := by
          simp [strands, present, same, holds]
        exact absurd queued (spared _ stranded run kept rfl)
      · obtain ⟨added, rfl, at_id⟩ := xadd_step taken
        refine .inl (readable_iff.mpr ⟨added, ?_, at_id.trans same⟩)
        change added ∈ (s.requests.add added).undelivered
        rw [GroupStream.undelivered_add present]
        exact List.mem_append_right _ (List.mem_singleton_self _)
  · rcases entries_step taken listed with old | ⟨_, _, _, rfl⟩
    · exact absurd (valid.sent message old).1 (own ▸ fresh)
    · cases inserts

theorem stranded_lost (valid : Invariant s) (taken : system.step s event = some t)
    (stranded : strands s event = some run.id) (member : run ∈ s.jobRuns)
    (queued : run.status = .queued) : ¬ NoneLost t := by
  intro none_
  by_cases stops : Stops event
  · obtain ⟨rows, requests, dropped⟩ := stop_step taken stops
    obtain ⟨entry, message, holding, own, copies⟩ : ∃ entry message,
        s.worker = .holding entry message ∧ message.jobId = run.id ∧ s.readable run.id = false := by
      rw [strands_of_stops stops] at stranded
      split at stranded
      · rename_i entry message holding
        split at stranded
        · cases stranded
        · rename_i alone
          have own : message.jobId = run.id := Option.some.inj stranded
          exact ⟨entry, message, holding, own, by simpa [own] using alone⟩
      · cases stranded
    have listed : message ∈ t.requests.entries :=
      requests ▸ valid.held message (by rw [holding]; rfl)
    rcases none_ run (rows ▸ member) queued ⟨message, listed, own⟩ with readable | holds
    · have same : t.readable run.id = s.readable run.id := by
        unfold State.readable
        rw [requests]
      rw [same, copies] at readable
      cases readable
    · obtain ⟨_, _, still, _⟩ := holds_iff.mp holds
      rw [still] at dropped
      cases dropped
  · obtain ⟨id, rfl⟩ : ∃ id, event = .control (.xadd id) := by
      match event with
      | .control (.xadd id) => exact ⟨id, rfl⟩
      | .control (.restartWorker _) | .worker .crash | .worker .raise => exact absurd trivial stops
    obtain ⟨absent, idle, rfl⟩ : s.requests.group = none ∧ s.holds id = false ∧ id = run.id := by
      simp only [strands] at stranded
      split at stranded
      · rename_i both
        simp only [Bool.and_eq_true, Option.isNone_iff_eq_none, Bool.not_eq_eq_eq_not,
          Bool.not_true] at both
        exact ⟨both.1, both.2, Option.some.inj stranded⟩
      · cases stranded
    obtain ⟨added, rfl, own⟩ := xadd_step taken
    have listed : added ∈ (s.requests.add added).entries := by simp
    rcases none_ run member queued ⟨added, listed, own⟩ with readable | holds
    · obtain ⟨_, listed, _⟩ := readable_iff.mp readable
      change _ ∈ (s.requests.add added).undelivered at listed
      rw [GroupStream.undelivered_add_none absent] at listed
      cases listed
    · exact absurd (idle.symm.trans holds) (by simp)

/-- In a run whose steps strand no queued run, no run is lost; and a step that
strands one loses it. -/
theorem none_lost_iff_none_stranded (s : State) :
    (system.Path StrandsNone system.init s → NoneLost s) ∧
    (system.Reachable s → NoneLost s → ∀ event t, system.step s event = some t →
      (NoneLost t ↔ StrandsNone s event)) := by
  refine ⟨?_, ?_⟩
  · intro path
    have both : Invariant s ∧ NoneLost s := by
      induction path with
      | refl => exact ⟨.init, by simp [NoneLost, system, init]⟩
      | snoc _ spared taken ih =>
        obtain ⟨valid, none_⟩ := ih
        exact ⟨valid.step taken, noneLost_step valid taken spared none_⟩
    exact both.2
  · intro reachable none_ event t taken
    have valid := reachable_invariant reachable
    constructor
    · rintro safe id stranded run member rfl queued
      exact stranded_lost valid taken stranded member queued safe
    · intro spared
      exact noneLost_step valid taken spared none_

def enqueued : List Event :=
  [.worker .boot, .worker .ensureGroup, .control (.submit 0 "gold" (.object []) 1),
    .control (.send 0 (.object [])), .control (.xadd 0)]

theorem none_lost_iff_none_stranded_enqueued : ∃ s, system.Reachable s ∧
    s.statuses = [(0, .queued)] ∧ NoneLost s := by
  have replayed : (system.replay StrandsNone init enqueued).map State.statuses =
      some [(0, .queued)] := by decide
  obtain ⟨s, path, statuses⟩ := TransitionSystem.reaches_of_replay replayed
  exact ⟨s, path.leads, statuses, (none_lost_iff_none_stranded s).1 path⟩

/-- The first run is submitted before the worker has ever started. -/
def submittedFirst : List Event :=
  [.control (.submit 0 "gold" (.object []) 1), .control (.send 0 (.object [])),
    .control (.xadd 0), .control (.enqueueOk 0), .worker .boot, .worker .ensureGroup]

theorem run_submitted_first_lost : ¬ ∀ s, system.Reachable s → NoneLost s := by
  intro safe
  have replayed : (system.replay (fun _ _ => True) init submittedFirst).map
      (fun s => (s.statuses, s.requests.entries.map Message.jobId, s.readable 0, s.holds 0)) =
        some ([(0, .queued)], [0], false, false) := by decide
  obtain ⟨s, reachable, shown⟩ := TransitionSystem.reaches_of_replay replayed
  obtain ⟨statuses, entries, unreadable, unheld⟩ : s.statuses = [(0, .queued)] ∧
      s.requests.entries.map Message.jobId = [0] ∧ s.readable 0 = false ∧ s.holds 0 = false := by
    simpa using shown
  obtain ⟨run, member, own, queued⟩ :=
    mem_statuses (statuses ▸ List.mem_singleton_self (0, Status.queued))
  obtain ⟨message, listed, same⟩ := List.mem_map.mp (entries ▸ List.mem_singleton_self 0)
  have served := safe s reachable run member queued ⟨message, listed, same.trans own.symm⟩
  simp [own, unreadable, unheld] at served

end OpenScale.Pipeline
