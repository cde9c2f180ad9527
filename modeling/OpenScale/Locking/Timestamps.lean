import OpenScale.Locking.Cancel

/-! Status and timestamps of a run. A transaction stamps a row with its own start,
which may lie before what the row already says when the row lock is free at last. -/

namespace OpenScale.Locking

open OpenScale.Library OpenScale.Library.ReadCommitted OpenScale.Jobs

variable {s s' : State} {event : Event} {t : Nat} {run old new : JobRun} {id : JobId}
variable {session : Session} {now : Time}

structure Coherent (run : JobRun) : Prop where
  queued : run.status = .queued → run.startedAt = none ∧ run.finishedAt = none
  running : run.status = .running → run.startedAt ≠ none ∧ run.finishedAt = none
  terminal : run.status.isTerminal = true → run.finishedAt ≠ none
  started : ∀ started ∈ run.startedAt, run.submittedAt ≤ started
  finished : ∀ finished ∈ run.finishedAt, run.submittedAt ≤ finished
  ordered : ∀ started ∈ run.startedAt, ∀ finished ∈ run.finishedAt, started ≤ finished

def AllCoherent (s : State) : Prop := ∀ run ∈ s.store.committed, Coherent run

/-- The run was submitted and started by then. -/
def StampedBy (now : Time) (run : JobRun) : Prop :=
  run.submittedAt ≤ now ∧ ∀ started ∈ run.startedAt, started ≤ now

instance (now : Time) (run : JobRun) : Decidable (StampedBy now run) :=
  inferInstanceAs (Decidable (run.submittedAt ≤ now ∧ ∀ started ∈ run.startedAt, started ≤ now))

/-- The writers that stamp a row whatever transactions came before theirs. -/
def Procedure.stampsAny : Procedure → Bool
  | markFailed .. | cancelActiveRuns => true
  | _ => false

/-- A MarkFailed or CancelActiveRuns that commits began no earlier than each row
it writes was submitted and started. -/
def OnTime (s : State) : Event → Prop
  | .commit t => ∀ session ∈ s.sessions t, session.procedure.stampsAny = true →
      ∀ own ∈ (s.store.transactions t).held, StampedBy session.now own.base
  | _ => True

instance (s : State) : (event : Event) → Decidable (OnTime s event)
  | .commit t => inferInstanceAs (Decidable (∀ session ∈ s.sessions t,
      session.procedure.stampsAny = true →
        ∀ own ∈ (s.store.transactions t).held, StampedBy session.now own.base))
  | .tick _ | .beginTx .. | .execute _ | .visit .. | .update _ | .abort _ | .startHandler _ =>
    inferInstanceAs (Decidable True)

structure EndedAt (now : Time) (old new : JobRun) : Prop where
  terminal : new.status.isTerminal = true
  submitted : new.submittedAt = old.submittedAt
  started : new.startedAt = old.startedAt
  finished : new.finishedAt = some now

theorem coherent_submitted (jobType : String) (params : Json) :
    Coherent (JobRun.submitted id jobType params now) := by
  constructor <;> simp [JobRun.submitted]

theorem coherent_start (coherent : Coherent old) (queued : old.status = .queued)
    (submitted : old.submittedAt ≤ now) : Coherent (old.start now) := by
  have blank := (coherent.queued queued).2
  constructor <;> simp [JobRun.start, blank, submitted]

theorem coherent_ended (coherent : Coherent old) (ended : EndedAt now old new) :
    Coherent new ↔ StampedBy now old := by
  obtain ⟨terminal, submitted, started, finished⟩ := ended
  obtain ⟨unqueued, unrunning⟩ := Status.isTerminal_iff.mp terminal
  constructor
  · intro valid
    refine ⟨?_, fun start here => ?_⟩
    · have after := valid.finished now finished
      rwa [submitted] at after
    · exact valid.ordered start (started ▸ here) now finished
  · rintro ⟨after, later⟩
    refine ⟨?_, ?_, ?_, ?_, ?_, ?_⟩
    · exact fun queued => absurd queued unqueued
    · exact fun running => absurd running unrunning
    · simp [finished]
    · rw [submitted, started]
      exact coherent.started
    · rw [submitted, finished]
      rintro _ ⟨⟩
      exact after
    · rw [started, finished]
      rintro start here _ ⟨⟩
      exact later start here

/-- The rewrites that end a run. -/
theorem Rewrites.ends (rewrites : Rewrites session old new)
    (possible : s.mayBegin session.procedure = true) :
    (∃ id, session.procedure = .markRunning id ∧ old.id = id ∧ old.status = .queued ∧
      new = old.start session.now) ∨ EndedAt session.now old new := by
  obtain ⟨procedure, now, stage⟩ := session
  cases procedure with
  | markRunning id =>
    obtain ⟨same, queued, rfl⟩ := rewrites
    exact .inl ⟨id, rfl, same, queued, rfl⟩
  | markTerminal id status report =>
    obtain ⟨_, rfl⟩ := rewrites
    simp only [State.mayBegin, Bool.and_eq_true] at possible
    exact .inr ⟨possible.2, rfl, rfl, rfl⟩
  | markFailed | cancelActiveRuns =>
    obtain ⟨_, rfl⟩ := rewrites
    exact .inr ⟨rfl, rfl, rfl, rfl⟩
  | insertJobRun | clearTerminalRuns => exact rewrites.elim

/-- What the stamps of the rows say about the clock and about the open transactions
of the worker, which begin after what they follow has committed. -/
structure Timely (s : State) : Prop where
  past : ∀ run ∈ s.store.committed, StampedBy s.clock run
  claim : ∀ t session id, s.sessions t = some session → session.procedure = .markRunning id →
    ∀ run ∈ s.store.committed, run.id = id → run.submittedAt ≤ session.now
  finish : ∀ t session id status report, s.sessions t = some session →
    session.procedure = .markTerminal id status report →
      ∀ run ∈ s.store.committed, run.id = id → StampedBy session.now run

theorem StampedBy.mono {later : Time} (stamped : StampedBy now run) (after : now ≤ later) :
    StampedBy later run :=
  ⟨Nat.le_trans stamped.1 after, fun started here => Nat.le_trans (stamped.2 started here) after⟩

/-- A row of the new table is as old as its version before the step, or has just been
started, or inserted under a fresh id. -/
theorem stamp_step (valid : Valid s) (taken : system.step s event = some s')
    (member : run ∈ s'.store.committed) :
    (∃ old ∈ s.store.committed, old.id = run.id ∧ run.submittedAt = old.submittedAt ∧
      (run.startedAt = old.startedAt ∨
        ∃ start ≤ s.clock, old.status = .queued ∧ run.startedAt = some start)) ∨
    (run.id ∉ s.inserted ∧ StampedBy s.clock run) := by
  rcases quiet_step taken with ⟨t, rfl⟩ | ⟨committed, _⟩
  · obtain ⟨session, store, opened, _⟩ := commit_eq_some taken
    obtain ⟨past, possible⟩ := valid.past t session opened
    rcases commit_rows valid taken opened member with
      ⟨kept, _⟩ | ⟨own, _, base, _, rewrites⟩ | ⟨_, _, _, submitted, fresh⟩
    · exact .inl ⟨run, kept, rfl, rfl, .inl rfl⟩
    · refine .inl ⟨own.base, base, rewrites.same_id.symm, ?_⟩
      rcases rewrites.ends possible with ⟨_, _, _, queued, rfl⟩ | ⟨_, submitted, started, _⟩
      · exact ⟨rfl, .inr ⟨session.now, past, queued, rfl⟩⟩
      · exact ⟨submitted, .inl started⟩
    · refine .inr ⟨fresh, ?_⟩
      rw [submitted]
      exact ⟨past, by simp [JobRun.submitted]⟩
  · exact .inl ⟨run, committed ▸ member, rfl, rfl, .inl rfl⟩

theorem Timely.step (valid : Valid s) (timely : Timely s) (taken : system.step s event = some s') :
    Timely s' where
  past := by
    intro run member
    refine StampedBy.mono ?_ (grow_step taken).1
    rcases stamp_step valid taken member with
      ⟨old, before, _, submitted, started | ⟨start, past, _, started⟩⟩ | ⟨_, stamped⟩
    · have stamped := timely.past old before
      exact ⟨submitted ▸ stamped.1, started ▸ stamped.2⟩
    · refine ⟨submitted ▸ (timely.past old before).1, ?_⟩
      rw [started]
      rintro _ ⟨⟩
      exact past
    · exact stamped
  claim := by
    intro t session id opened claims run member own
    have known : id ∈ s.inserted → ∃ old ∈ s.store.committed, old.id = id ∧
        run.submittedAt = old.submittedAt := by
      intro inserted
      rcases stamp_step valid taken member with ⟨old, before, same, submitted, _⟩ | ⟨fresh, _⟩
      · exact ⟨old, before, same.trans own, submitted⟩
      · exact absurd (own ▸ inserted) fresh
    rcases session_step taken opened with ⟨before, earlier, procedure, now⟩ | ⟨possible, now⟩
    · rw [claims] at procedure
      have inserted : id ∈ s.inserted := by
        have possible := (valid.past t before earlier).2
        rw [procedure] at possible
        exact List.contains_iff_mem.mp possible
      obtain ⟨old, present, same, submitted⟩ := known inserted
      rw [submitted, ← now]
      exact timely.claim t before id earlier procedure old present same
    · rw [claims] at possible
      obtain ⟨old, present, _, submitted⟩ := known (List.contains_iff_mem.mp possible)
      rw [submitted, now]
      exact (timely.past old present).1
  finish := by
    intro t session id status report opened finishes run member own
    have known : id ∈ s.marked → ∃ old ∈ s.store.committed, old.id = id ∧
        run.submittedAt = old.submittedAt ∧ run.startedAt = old.startedAt := by
      intro marked
      rcases stamp_step valid taken member with
        ⟨old, before, same, submitted, started | ⟨_, _, queued, _⟩⟩ | ⟨fresh, _⟩
      · exact ⟨old, before, same.trans own, submitted, started⟩
      · exact absurd queued (valid.left old before (same.trans own ▸ marked))
      · exact absurd (valid.marked id marked) (own ▸ fresh)
    rcases session_step taken opened with ⟨before, earlier, procedure, now⟩ | ⟨possible, now⟩
    · rw [finishes] at procedure
      have marked : id ∈ s.marked := by
        have possible := (valid.past t before earlier).2
        rw [procedure] at possible
        simp only [State.mayBegin, Bool.and_eq_true, List.contains_iff_mem] at possible
        exact possible.1
      obtain ⟨old, present, same, submitted, started⟩ := known marked
      have stamped := timely.finish t before id status report earlier procedure old present same
      rw [now] at stamped
      exact ⟨submitted ▸ stamped.1, started ▸ stamped.2⟩
    · rw [finishes] at possible
      simp only [State.mayBegin, Bool.and_eq_true, List.contains_iff_mem] at possible
      obtain ⟨old, present, _, submitted, started⟩ := known possible.1
      have stamped := timely.past old present
      rw [← now] at stamped
      exact ⟨submitted ▸ stamped.1, started ▸ stamped.2⟩

theorem Timely.stamped (timely : Timely s) (opened : s.sessions t = some session)
    (worker : session.procedure.stampsAny = false) (rewrites : Rewrites session old new)
    (present : old ∈ s.store.committed) (ended : EndedAt session.now old new) :
    StampedBy session.now old := by
  obtain ⟨procedure, now, stage⟩ := session
  cases procedure with
  | markTerminal id status report =>
    exact timely.finish t _ id status report opened rfl old present rewrites.1
  | markRunning id =>
    obtain ⟨_, _, rfl⟩ := rewrites
    cases ended.terminal
  | markFailed | cancelActiveRuns => cases worker
  | insertJobRun | clearTerminalRuns => exact rewrites.elim

theorem coherent_step (valid : Valid s) (timely : Timely s) (coherent : AllCoherent s)
    (onTime : OnTime s event) (taken : system.step s event = some s') : AllCoherent s' := by
  intro run member
  rcases quiet_step taken with ⟨t, rfl⟩ | ⟨committed, _⟩
  · obtain ⟨session, store, opened, _⟩ := commit_eq_some taken
    have possible := (valid.past t session opened).2
    rcases commit_rows valid taken opened member with
      ⟨kept, _⟩ | ⟨own, held, base, _, rewrites⟩ | ⟨jobType, params, _, submitted, _⟩
    · exact coherent run kept
    · rcases rewrites.ends possible with ⟨id, claims, own_id, queued, rfl⟩ | ended
      · have submitted := timely.claim t session id opened claims own.base base own_id
        exact coherent_start (coherent own.base base) queued submitted
      · refine (coherent_ended (coherent own.base base) ended).mpr ?_
        by_cases any : session.procedure.stampsAny = true
        · exact onTime session opened any own held
        · exact timely.stamped opened (by simpa using any) rewrites base ended
    · exact submitted ▸ coherent_submitted jobType params
  · exact coherent run (committed ▸ member)

/-- A row held by one of the writers that stamp any row is in the new table, ended. -/
theorem any_held_ended (valid : Valid s) (taken : system.step s (.commit t) = some s')
    (opened : s.sessions t = some session) (any : session.procedure.stampsAny = true)
    {own : Held JobRun.id} (held : own ∈ (s.store.transactions t).held) :
    ∃ new ∈ s'.store.committed, EndedAt session.now own.base new := by
  obtain ⟨session', store, opened', committed, ready, _, rfl⟩ := commit_eq_some taken
  cases opened.symm.trans opened'
  have fits : Fits (some session) (s.store.transactions t) := opened ▸ valid.fits t
  have present : ∀ new, own.version = some new → new ∈ store.committed := fun new left =>
    (Store.mem_commit valid.store committed).mpr (.inr (.inl ⟨own, held, left⟩))
  obtain ⟨procedure, now, stage⟩ := session
  cases procedure with
  | cancelActiveRuns =>
    have left := (cancel_held fits rfl ready (Store.commit_cases committed).1 own held).2
    exact ⟨_, present _ left, rfl, rfl, rfl, rfl⟩
  | markFailed id errMsg =>
    cases stage with
    | begun => cases ready
    | executing =>
      obtain ⟨_, _, ⟨⟩, applies⟩ := fits
      exact ⟨_, present _ (applies.version held), rfl, rfl, rfl, rfl⟩
    | updating => exact fits.elim
  | insertJobRun | markRunning | markTerminal | clearTerminalRuns => cases any

theorem on_time_of_coherent (valid : Valid s) (coherent : AllCoherent s)
    (taken : system.step s event = some s') (after : AllCoherent s') : OnTime s event := by
  cases event with
  | commit t =>
    intro session opened any own held
    obtain ⟨new, present, ended⟩ := any_held_ended valid taken opened any held
    exact (coherent_ended (coherent own.base (valid.store.based t own held)) ended).mp
      (after new present)
  | tick | beginTx | execute | visit | update | abort | startHandler => trivial

theorem Timely.init : Timely Locking.init where
  past := by simp [Locking.init, Store.init]
  claim := by simp [Locking.init]
  finish := by simp [Locking.init]

theorem reachable_timely (reachable : system.Reachable s) : Valid s ∧ Timely s := by
  induction reachable with
  | refl => exact ⟨.init, .init⟩
  | snoc _ _ taken ih =>
    obtain ⟨valid, timely⟩ := ih
    exact ⟨valid.step taken, timely.step valid taken⟩

/-- In a run whose MarkFailed and CancelActiveRuns commit on time, every row stays
coherent; and one that is late leaves a row that is not. -/
theorem timestamps_coherent_iff_on_time (s : State) :
    (system.Path OnTime system.init s → AllCoherent s) ∧
    (system.Reachable s → AllCoherent s → ∀ event t, system.step s event = some t →
      (AllCoherent t ↔ OnTime s event)) := by
  refine ⟨?_, ?_⟩
  · intro path
    induction path with
    | refl => simp [AllCoherent, system, init, Store.init]
    | snoc path onTime taken ih =>
      obtain ⟨valid, timely⟩ := reachable_timely path.leads
      exact coherent_step valid timely ih onTime taken
  · intro reachable coherent event t taken
    obtain ⟨valid, timely⟩ := reachable_timely reachable
    constructor
    · exact on_time_of_coherent valid coherent taken
    · exact fun onTime => coherent_step valid timely coherent onTime taken

def State.stamps (state : State) : List (Status × Option Time × Option Time) :=
  state.store.committed.rows.map fun run => (run.status, run.startedAt, run.finishedAt)

def cancelAfterClaim : List Event :=
  insertRun 0 0 ++ [.tick 1, .beginTx 1 (.markRunning 0), .execute 1, .visit 1 0,
    .commit 1, .tick 1,
    .beginTx 2 .cancelActiveRuns, .execute 2, .visit 2 0, .update 2, .visit 2 0, .commit 2]

theorem timestamps_coherent_iff_on_time_cancelled : ∃ s, system.Reachable s ∧
    s.stamps = [(.cancelled, some 1, some 2)] ∧ AllCoherent s := by
  have replayed : (system.replay OnTime init cancelAfterClaim).map State.stamps =
      some [(.cancelled, some 1, some 2)] := by decide
  obtain ⟨s, path, stamps⟩ := TransitionSystem.reaches_of_replay replayed
  exact ⟨s, path.leads, stamps, (timestamps_coherent_iff_on_time s).1 path⟩

def cancelWaitsForClaim : List Event :=
  insertRun 0 0 ++ [.beginTx 2 .cancelActiveRuns, .tick 1, .beginTx 1 (.markRunning 0), .execute 1,
    .visit 1 0, .execute 2, .commit 1, .visit 2 0, .update 2, .visit 2 0, .commit 2]

theorem cancel_finishes_before_start : ¬ ∀ s, system.Reachable s → AllCoherent s := by
  intro coherent
  have replayed : (system.replay (fun _ _ => True) init cancelWaitsForClaim).map State.stamps =
      some [(.cancelled, some 1, some 0)] := by decide
  obtain ⟨s, reachable, stamps⟩ := TransitionSystem.reaches_of_replay replayed
  obtain ⟨run, member, shown⟩ : ∃ run ∈ s.store.committed.rows, _ = _ :=
    List.mem_map.mp (stamps ▸ List.mem_singleton_self (Status.cancelled, some 1, some 0))
  simp only [Prod.mk.injEq] at shown
  obtain ⟨_, started, finished⟩ := shown
  have ordered : 1 ≤ 0 := (coherent s reachable run member).ordered 1 started 0 finished
  omega

end OpenScale.Locking
