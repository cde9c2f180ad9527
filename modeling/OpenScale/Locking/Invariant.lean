import OpenScale.Locking.Step

/-! What the open transactions hold, and what their commits can do to a row. -/

namespace OpenScale.Locking

open OpenScale.Library OpenScale.Library.ReadCommitted OpenScale.Jobs

variable {s s' : State} {event : Event} {t u : Nat} {run : JobRun} {id : JobId}
variable {session : Session} {transaction : RunTransaction}

structure Updating (now : Time) (active : List JobRun) (transaction : RunTransaction) : Prop where
  reapplies : Reapplies (updateCancelled (active.map JobRun.id) now) transaction
  locked : active = transaction.held.map Held.base
  active : ∀ run ∈ active, run.status.isActive = true
  inserts : transaction.inserted = none

/-- What a transaction holds, by how far its procedure is. -/
def Fits : Option Session → RunTransaction → Prop
  | none, transaction | some ⟨_, _, .begun⟩, transaction => transaction = .idle
  | some ⟨.insertJobRun id jobType params, now, .executing⟩, transaction =>
    transaction =
      { Transaction.idle with inserted := some (JobRun.submitted id jobType params now) }
  | some ⟨procedure, now, .executing⟩, transaction =>
    transaction.inserted = none ∧
      ∃ statement, procedure.statement now = some statement ∧ Applies statement transaction
  | some ⟨.cancelActiveRuns, now, .updating active⟩, transaction => Updating now active transaction
  | some ⟨_, _, .updating _⟩, _ => False

structure Valid (s : State) : Prop where
  store : s.store.Consistent
  fits : ∀ t, Fits (s.sessions t) (s.store.transactions t)
  past : ∀ t session, s.sessions t = some session →
    session.now ≤ s.clock ∧ s.mayBegin session.procedure = true
  rows : ∀ run ∈ s.store.committed, run.id ∈ s.inserted
  left : ∀ run ∈ s.store.committed, run.id ∈ s.marked → run.status ≠ .queued
  marked : ∀ id ∈ s.marked, id ∈ s.inserted
  started : ∀ id ∈ s.started, id ∈ s.marked

theorem Valid.init : Valid Locking.init where
  store := Store.Consistent.init
  fits _ := rfl
  past := by simp [Locking.init]
  rows := by simp [Locking.init, Store.init]
  left := by simp [Locking.init]
  marked := by simp [Locking.init]
  started := by simp [Locking.init]

/-- The rewrites of a row that a commit performs. -/
def Rewrites (session : Session) (old new : JobRun) : Prop :=
  match session.procedure with
  | .markRunning id => old.id = id ∧ old.status = .queued ∧ new = old.start session.now
  | .markTerminal id status report => old.id = id ∧ new = old.finish status report session.now
  | .markFailed id errMsg => old.id = id ∧ new = old.fail errMsg session.now
  | .cancelActiveRuns => old.status.isActive = true ∧ new = old.cancel session.now
  | _ => False

/-- When it can commit, a transaction leaves each row it holds rewritten by its
procedure, or deleted. -/
theorem held_rewrites (fits : Fits (some session) transaction)
    (ready : session.ready transaction = true) (visited : transaction.todo = [])
    {own : Held JobRun.id} (member : own ∈ transaction.held) (left : own.version = some run) :
    Rewrites session own.base run := by
  obtain ⟨procedure, now, stage⟩ := session
  cases stage with
  | begun => cases procedure <;> cases ready
  | executing =>
    cases procedure with
    | insertJobRun =>
      have alone : transaction = _ := fits
      rw [alone] at member
      cases member
    | cancelActiveRuns =>
      obtain ⟨_, _, ⟨⟩, applies⟩ := fits
      have none_ : transaction.hits = [] := List.isEmpty_iff.mp ready
      rw [applies.hits, List.map_eq_nil_iff] at none_
      rw [none_] at member
      cases member
    | markRunning id =>
      obtain ⟨_, _, ⟨⟩, applies⟩ := fits
      have selected : (own.base.id == id && own.base.status == .queued) = true :=
        applies.selected own member
      simp only [Bool.and_eq_true, beq_iff_eq] at selected
      exact ⟨selected.1, selected.2,
        (Option.some.inj ((applies.version member).symm.trans left)).symm⟩
    | markTerminal id | markFailed id =>
      obtain ⟨_, _, ⟨⟩, applies⟩ := fits
      have selected : (own.base.id == id) = true := applies.selected own member
      exact ⟨beq_iff_eq.mp selected,
        (Option.some.inj ((applies.version member).symm.trans left)).symm⟩
    | clearTerminalRuns =>
      obtain ⟨_, _, ⟨⟩, applies⟩ := fits
      cases (applies.version member).symm.trans left
  | updating active =>
    cases procedure with
    | cancelActiveRuns =>
      have updating : Updating now active transaction := fits
      have version := updating.reapplies.visited own member (by simp [visited])
      refine ⟨updating.active own.base ?_, (Option.some.inj (version.symm.trans left)).symm⟩
      rw [updating.locked]
      exact List.mem_map_of_mem member
    | _ => exact fits.elim

theorem inserted_submitted (fits : Fits (some session) transaction)
    (inserted : transaction.inserted = some run) : ∃ jobType params,
      session.procedure = .insertJobRun run.id jobType params ∧
        run = JobRun.submitted run.id jobType params session.now := by
  obtain ⟨procedure, now, stage⟩ := session
  cases stage with
  | begun =>
    have idle : transaction = .idle := fits
    rw [idle] at inserted
    cases inserted
  | executing =>
    cases procedure with
    | insertJobRun id jobType params =>
      have alone : transaction = _ := fits
      rw [alone] at inserted
      cases inserted
      exact ⟨jobType, params, rfl, rfl⟩
    | _ => cases fits.1.symm.trans inserted
  | updating active =>
    cases procedure with
    | cancelActiveRuns =>
      have updating : Updating now active transaction := fits
      cases updating.inserts.symm.trans inserted
    | _ => exact fits.elim

/-- The rows after a commit: not locked by the transaction, rewritten by its
procedure, or inserted under a new id. -/
theorem commit_rows (valid : Valid s) (taken : system.step s (.commit t) = some s')
    (opened : s.sessions t = some session) (member : run ∈ s'.store.committed) :
    (run ∈ s.store.committed ∧
      ∀ own ∈ (s.store.transactions t).held, own.base.id ≠ run.id) ∨
    (∃ own ∈ (s.store.transactions t).held, own.base ∈ s.store.committed ∧
      own.version = some run ∧ Rewrites session own.base run) ∨
    ∃ jobType params, session.procedure = .insertJobRun run.id jobType params ∧
      run = JobRun.submitted run.id jobType params session.now ∧ run.id ∉ s.inserted := by
  obtain ⟨session', store, opened', committed, ready, fresh, rfl⟩ := commit_eq_some taken
  cases opened.symm.trans opened'
  have fits : Fits (some session) (s.store.transactions t) := opened ▸ valid.fits t
  rcases (Store.mem_commit valid.store committed).mp member with kept | ⟨own, held, left⟩ | inserted
  · exact .inl kept
  · have visited := (Store.commit_cases committed).1
    exact .inr (.inl ⟨own, held, valid.store.based t own held, left,
      held_rewrites fits ready visited held left⟩)
  · obtain ⟨jobType, params, insert, same⟩ := inserted_submitted fits inserted
    refine .inr (.inr ⟨jobType, params, insert, same, fresh run.id ?_⟩)
    rw [insert]
    exact List.mem_singleton_self _

theorem run_fits {store : Store JobRun.id} {procedure : Procedure} {now : Time}
    (idle : store.transactions t = .idle) : Fits (some ⟨procedure, now, .executing⟩)
      ((Session.run ⟨procedure, now, .begun⟩ store t).transactions t) := by
  have fresh : ∀ statement : RunStatement,
      ((store.execute t statement).transactions t).inserted = none ∧
        Applies statement ((store.execute t statement).transactions t) := by
    intro statement
    refine ⟨?_, .execute idle⟩
    simp [Store.execute, idle, Transaction.idle]
  cases procedure with
  | insertJobRun id jobType params =>
    change (store.insert t _).transactions t = _
    rw [Store.insert, Store.set_self, idle]
  | _ => exact ⟨(fresh _).1, _, rfl, (fresh _).2⟩

theorem visit_fits {store : Store JobRun.id} (valid : s.store.Consistent)
    (fits : Fits (s.sessions t) (s.store.transactions t))
    (visited : s.store.visit t id = some store) : Fits (s.sessions t) (store.transactions t) := by
  obtain ⟨statement, running, _⟩ := Store.visit_cases visited
  have inserts := Store.visit_inserted visited
  have busy : s.store.transactions t ≠ .idle := by
    intro idle
    rw [idle] at running
    cases running
  cases opened : s.sessions t with
  | none =>
    rw [opened] at fits
    exact absurd fits busy
  | some session =>
    rw [opened] at fits
    obtain ⟨procedure, now, stage⟩ := session
    cases stage with
    | begun =>
      have idle : s.store.transactions t = .idle := fits
      exact absurd idle busy
    | executing =>
      cases procedure with
      | insertJobRun =>
        have alone : s.store.transactions t = _ := fits
        rw [alone] at running
        cases running
      | _ =>
        obtain ⟨none_, statement, same, applies⟩ := fits
        exact ⟨inserts.trans none_, statement, same, applies.visit visited⟩
    | updating active =>
      cases procedure with
      | cancelActiveRuns =>
        have updating : Updating now active (s.store.transactions t) := fits
        have reapplies := updating.reapplies
        exact ⟨reapplies.visit valid visited,
          updating.locked.trans (reapplies.visit_bases visited).symm, updating.active,
          inserts.trans updating.inserts⟩
      | _ => exact fits.elim

/-- The second statement of `CancelActiveRuns` selects exactly the rows of the first. -/
theorem update_fits {now : Time} (valid : s.store.Consistent)
    (fits : Fits (some ⟨.cancelActiveRuns, now, .executing⟩) (s.store.transactions t)) :
    Updating now ((s.store.transactions t).hits.map Prod.fst) ((s.store.execute t
      (updateCancelled (((s.store.transactions t).hits.map Prod.fst).map JobRun.id)
        now)).transactions
          t) := by
  obtain ⟨none_, _, ⟨⟩, applies⟩ := fits
  have bases : (s.store.transactions t).hits.map Prod.fst =
      (s.store.transactions t).held.map Held.base := by
    rw [applies.hits, List.map_map]
    rfl
  rw [bases]
  refine ⟨?_, ?_, ?_, ?_⟩
  · refine Reapplies.execute valid applies (fun _ => rfl) ?_
    intro row
    simp [updateCancelled]
  · simp [Store.execute]
  · intro run listed
    obtain ⟨own, member, rfl⟩ := List.mem_map.mp listed
    exact applies.selected own member
  · simpa [Store.execute] using none_

theorem Valid.fits_one (valid : Valid s) (sessions : ∀ u, u ≠ t → s'.sessions u = s.sessions u)
    (transactions : ∀ u, u ≠ t → s'.store.transactions u = s.store.transactions u)
    (own : Fits (s'.sessions t) (s'.store.transactions t)) (u : Nat) :
    Fits (s'.sessions u) (s'.store.transactions u) := by
  by_cases mine : u = t
  · exact mine ▸ own
  · rw [sessions u mine, transactions u mine]
    exact valid.fits u

theorem Valid.fits_step (valid : Valid s) (taken : system.step s event = some s') :
    ∀ u, Fits (s'.sessions u) (s'.store.transactions u) := by
  cases moves taken with
  | tick | startHandler => exact valid.fits
  | @beginTx t procedure free =>
    refine valid.fits_one (fun _ => setSession_other) (fun _ _ => rfl) ?_
    have fits := valid.fits t
    rw [free] at fits
    rw [setSession_self]
    exact fits
  | @execute t procedure now begun =>
    refine valid.fits_one (fun _ => setSession_other) (fun _ => run_other _) ?_
    have fits := valid.fits t
    rw [begun] at fits
    rw [setSession_self]
    exact run_fits fits
  | @visit t id store visited =>
    have fits : Fits (s.sessions t) (store.transactions t) :=
      visit_fits valid.store (valid.fits t) visited
    exact valid.fits_one (fun _ _ => rfl) (fun _ => Store.visit_other visited) fits
  | @update t now executing =>
    refine valid.fits_one (fun _ => setSession_other) (fun _ => Store.execute_other) ?_
    have fits := valid.fits t
    rw [executing] at fits
    rw [setSession_self]
    exact update_fits valid.store fits
  | @commit t session store opened committed =>
    obtain ⟨_, table, rfl, _⟩ := Store.commit_cases committed
    refine valid.fits_one (fun _ => setSession_other) (fun _ => Store.finish_other) ?_
    change Fits ((s.setSession t none).sessions t) ((s.store.finish t table).transactions t)
    rw [setSession_self, Store.finish_self]
    rfl
  | @abort t session opened =>
    refine valid.fits_one (fun _ => setSession_other) (fun _ => Store.finish_other) ?_
    rw [setSession_self, setSession_store]
    change Fits none ((s.store.finish t _).transactions t)
    rw [Store.finish_self]
    rfl

theorem claims_queued (fits : Fits (some session) transaction)
    (claimed : id ∈ session.claims transaction) :
    ∃ own ∈ transaction.held, own.base.id = id ∧ own.base.status = .queued := by
  obtain ⟨procedure, now, stage⟩ := session
  cases procedure with
  | markRunning own_id =>
    simp only [Session.claims] at claimed
    split at claimed
    · cases claimed
    rename_i some_
    cases List.mem_singleton.mp claimed
    cases stage with
    | begun =>
      have idle : transaction = .idle := fits
      simp [idle, Transaction.idle] at some_
    | executing =>
      obtain ⟨_, _, ⟨⟩, applies⟩ := fits
      obtain ⟨own, member⟩ : ∃ own, own ∈ transaction.held := by
        apply List.exists_mem_of_ne_nil
        intro empty
        rw [applies.hits, empty] at some_
        exact some_ rfl
      have selected : (own.base.id == id && own.base.status == .queued) = true :=
        applies.selected own member
      simp only [Bool.and_eq_true, beq_iff_eq] at selected
      exact ⟨own, member, selected⟩
    | updating => exact fits.elim
  | _ => cases claimed

theorem Rewrites.same_id {old new : JobRun} (rewrites : Rewrites session old new) :
    new.id = old.id := by
  obtain ⟨procedure, now, stage⟩ := session
  cases procedure with
  | markRunning | markTerminal | markFailed | cancelActiveRuns =>
    simp only [Rewrites] at rewrites
    grind [JobRun.start_id, JobRun.finish_id, JobRun.fail_id, JobRun.cancel_id]
  | insertJobRun | clearTerminalRuns => exact rewrites.elim

theorem Rewrites.leaves {old new : JobRun} (rewrites : Rewrites session old new)
    (possible : s.mayBegin session.procedure = true) : new.status ≠ .queued := by
  obtain ⟨procedure, now, stage⟩ := session
  cases procedure with
  | markTerminal id status report =>
    obtain ⟨_, rfl⟩ := rewrites
    simp only [State.mayBegin, Bool.and_eq_true] at possible
    exact (Status.isTerminal_iff.mp possible.2).1
  | markRunning =>
    obtain ⟨_, _, rfl⟩ := rewrites
    simp
  | markFailed | cancelActiveRuns =>
    obtain ⟨_, rfl⟩ := rewrites
    simp
  | insertJobRun | clearTerminalRuns => exact rewrites.elim

namespace Valid

variable (valid : Valid s) (taken : system.step s event = some s')

include valid taken

theorem past_step (opened : s'.sessions t = some session) :
    session.now ≤ s'.clock ∧ s'.mayBegin session.procedure = true := by
  have later := (grow_step taken).1
  rcases session_step taken opened with ⟨before, earlier, procedure, now⟩ | ⟨possible, now⟩
  · obtain ⟨past, possible⟩ := valid.past t before earlier
    rw [procedure] at possible
    exact ⟨now ▸ Nat.le_trans past later, mayBegin_grow taken possible⟩
  · exact ⟨now ▸ later, mayBegin_grow taken possible⟩

theorem rows_step (member : run ∈ s'.store.committed) : run.id ∈ s'.inserted := by
  have grown := (grow_step taken).2.1
  rcases quiet_step taken with ⟨t, rfl⟩ | ⟨committed, _⟩
  · obtain ⟨session, store, opened, _, _, _, same⟩ := commit_eq_some taken
    rcases commit_rows valid taken opened member with
      ⟨kept, _⟩ | ⟨own, _, base, _, rewrites⟩ | ⟨jobType, params, insert, _⟩
    · exact grown _ (valid.rows run kept)
    · exact grown _ (rewrites.same_id ▸ valid.rows own.base base)
    · rw [same]
      change run.id ∈ s.inserted ++ session.procedure.inserts
      rw [insert]
      exact List.mem_append_right _ (List.mem_singleton_self _)
  · exact grown _ (valid.rows run (committed ▸ member))

theorem claim_step (claimed : id ∈ s'.marked) : id ∈ s.marked ∨ ∃ t session own,
    event = .commit t ∧ s.sessions t = some session ∧ session.procedure = .markRunning id ∧
      own ∈ (s.store.transactions t).held ∧ own.base ∈ s.store.committed ∧ own.base.id = id ∧
        own.base.status = .queued := by
  rcases quiet_step taken with ⟨t, rfl⟩ | ⟨_, _, marked⟩
  · obtain ⟨session, store, opened, _, _, _, rfl⟩ := commit_eq_some taken
    rcases List.mem_append.mp claimed with before | now
    · exact .inl before
    · have fits : Fits (some session) (s.store.transactions t) := opened ▸ valid.fits t
      obtain ⟨own, held, same, queued⟩ := claims_queued fits now
      refine .inr ⟨t, session, own, rfl, opened, ?_, held, valid.store.based t own held,
        same, queued⟩
      simp only [Session.claims] at now
      split at now
      · rename_i claimed_id procedure
        split at now
        · cases now
        · rw [procedure, List.mem_singleton.mp now]
      · cases now
  · exact .inl (marked ▸ claimed)

theorem left_step (member : run ∈ s'.store.committed) (claimed : run.id ∈ s'.marked) :
    run.status ≠ .queued := by
  rcases quiet_step taken with ⟨t, rfl⟩ | ⟨committed, _, marked⟩
  · obtain ⟨session, store, opened, _⟩ := commit_eq_some taken
    rcases commit_rows valid taken opened member with
      ⟨kept, unlocked⟩ | ⟨own, _, _, _, rewrites⟩ | ⟨_, _, insert, _, fresh⟩
    · rcases claim_step valid taken claimed with before | ⟨_, _, own, ⟨⟩, _, _, held, _, same, _⟩
      · exact valid.left run kept before
      · exact absurd same (unlocked own held)
    · exact rewrites.leaves (valid.past t session opened).2
    · rcases claim_step valid taken claimed with before | ⟨_, _, own, ⟨⟩, _, _, _, base, same, _⟩
      · exact absurd (valid.marked _ before) fresh
      · exact absurd (valid.rows own.base base) (same ▸ fresh)
  · exact valid.left run (committed ▸ member) (marked ▸ claimed)

theorem marked_step (claimed : id ∈ s'.marked) : id ∈ s'.inserted := by
  apply (grow_step taken).2.1
  rcases claim_step valid taken claimed with before | ⟨_, _, own, _, _, _, _, base, rfl, _⟩
  · exact valid.marked id before
  · exact valid.rows own.base base

theorem started_step (started : id ∈ s'.started) : id ∈ s'.marked := by
  apply (grow_step taken).2.2
  rcases start_step taken started with before | now
  · exact valid.started id before
  · exact now

theorem step : Valid s' where
  store := consistent_step valid.store taken
  fits := fits_step valid taken
  past _ _ := past_step valid taken
  rows _ := rows_step valid taken
  left _ := left_step valid taken
  marked _ := marked_step valid taken
  started _ := started_step valid taken

end Valid

theorem reachable_valid (reachable : system.Reachable s) : Valid s :=
  reachable.preserves (fun _ _ _ before _ taken => before.step taken) Valid.init

end OpenScale.Locking
