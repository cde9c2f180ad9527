import OpenScale.Locking.Invariant

/-! `CancelActiveRuns` among the other transactions: what it returns, what it
changes, and what can still happen to the runs it returned. -/

namespace OpenScale.Locking

open OpenScale.Library OpenScale.Library.ReadCommitted OpenScale.Jobs

variable {s s' u : State} {event : Event} {t : Nat} {run : JobRun} {id : JobId}
variable {session : Session} {transaction : RunTransaction} {now : Time} {active : List JobRun}

theorem lookup_wasRunning (unique : (active.map JobRun.id).Nodup) (listed : run ∈ active) :
    (wasRunning active).lookup run.id = some (run.status == .running) := by
  induction active with
  | nil => cases listed
  | cons head rest ih =>
    rw [List.map_cons, List.nodup_cons] at unique
    simp only [wasRunning, List.map_cons, List.lookup_cons]
    rcases List.mem_cons.mp listed with rfl | later
    · simp
    · have other : run.id ≠ head.id := by
        intro same
        exact unique.1 (same ▸ List.mem_map_of_mem later)
      rw [beq_false_of_ne other]
      exact ih unique.2 later

section Updated

variable (updating : Updating now active transaction) (visited : transaction.todo = [])

include updating visited

theorem updated_hits : ∀ hit, hit ∈ transaction.hits ↔
    ∃ own ∈ transaction.held, hit = (own.base, some (own.base.cancel now)) := by
  intro hit
  rw [updating.reapplies.hits, visited]
  simp [updateCancelled]

theorem updated_rows : transaction.hits.filterMap Prod.snd =
    transaction.hits.map fun hit => hit.1.cancel now := by
  rw [← List.filterMap_eq_map]
  apply List.filterMap_congr
  intro hit listed
  obtain ⟨own, _, rfl⟩ := (updated_hits updating visited hit).mp listed
  rfl

/-- The reply pairs each locked row, cancelled, with whether it was running. -/
theorem mem_reply {procedure : Procedure} {cancelled : CancelledRun}
    (single : (transaction.held.map fun own => own.base.id).Nodup) :
    cancelled ∈ Session.reply ⟨procedure, now, .updating active⟩ transaction ↔
      ∃ own ∈ transaction.held, cancelled = ⟨own.base.cancel now, own.base.status == .running⟩ := by
  have unique : (active.map JobRun.id).Nodup := by
    rw [updating.locked, List.map_map]
    exact single
  have answer : ∀ own ∈ transaction.held,
      ((wasRunning active).lookup own.base.id).getD false = (own.base.status == .running) := by
    intro own member
    have listed : own.base ∈ active := by
      rw [updating.locked]
      exact List.mem_map_of_mem member
    rw [lookup_wasRunning unique listed]
    rfl
  simp only [Session.reply, pairCancelled, updated_rows updating visited,
    List.map_map, List.mem_map, Function.comp]
  constructor
  · intro membership
    obtain ⟨hit, listed, rfl⟩ := membership
    obtain ⟨own, member, rfl⟩ := (updated_hits updating visited hit).mp listed
    exact ⟨own, member, by simp [answer own member]⟩
  · intro membership
    obtain ⟨own, member, rfl⟩ := membership
    refine ⟨_, (updated_hits updating visited _).mpr ⟨own, member, rfl⟩, ?_⟩
    simp [answer own member]

theorem reply_once {procedure : Procedure} :
    ((Session.reply ⟨procedure, now, .updating active⟩ transaction).map fun c =>
      c.run.id).Nodup := by
  have ids : (Session.reply ⟨procedure, now, .updating active⟩ transaction).map (fun c =>
      c.run.id) = transaction.hits.map fun hit => hit.1.id := by
    simp only [Session.reply, pairCancelled, updated_rows updating visited, List.map_map]
    rfl
  rw [ids]
  exact updating.reapplies.once

end Updated

/-- When `CancelActiveRuns` commits, each row it holds was active and is cancelled now. -/
theorem cancel_held (fits : Fits (some session) transaction)
    (cancel : session.procedure = .cancelActiveRuns) (ready : session.ready transaction = true)
    (visited : transaction.todo = []) : ∀ own ∈ transaction.held,
      own.base.status.isActive = true ∧ own.version = some (own.base.cancel session.now) := by
  obtain ⟨procedure, now, stage⟩ := session
  cases cancel
  cases stage with
  | begun => cases ready
  | executing =>
    obtain ⟨_, _, ⟨⟩, applies⟩ := fits
    have none_ : transaction.hits = [] := List.isEmpty_iff.mp ready
    rw [applies.hits, List.map_eq_nil_iff] at none_
    simp [none_]
  | updating active =>
    have updating : Updating now active transaction := fits
    intro own member
    refine ⟨updating.active own.base ?_, updating.reapplies.visited own member (by simp [visited])⟩
    rw [updating.locked]
    exact List.mem_map_of_mem member

/-- Its reply is about exactly the rows it holds, each once. -/
theorem cancel_reply (fits : Fits (some session) transaction)
    (cancel : session.procedure = .cancelActiveRuns) (ready : session.ready transaction = true)
    (visited : transaction.todo = [])
    (single : (transaction.held.map fun own => own.base.id).Nodup) :
    ((session.reply transaction).map fun c => c.run.id).Nodup ∧
    ∀ c, c ∈ session.reply transaction ↔ ∃ own ∈ transaction.held,
      c = ⟨own.base.cancel session.now, own.base.status == .running⟩ := by
  obtain ⟨procedure, now, stage⟩ := session
  cases cancel
  cases stage with
  | begun => cases ready
  | executing =>
    obtain ⟨_, _, ⟨⟩, applies⟩ := fits
    have none_ : transaction.hits = [] := List.isEmpty_iff.mp ready
    rw [applies.hits, List.map_eq_nil_iff] at none_
    simp [Session.reply, none_]
  | updating active =>
    have updating : Updating now active transaction := fits
    exact ⟨reply_once updating visited, fun _ => mem_reply updating visited single⟩

theorem cancel_rows (run : JobRun) (valid : Valid s) (opened : s.sessions t = some session)
    (cancel : session.procedure = .cancelActiveRuns) (taken : system.step s (.commit t) = some s') :
    run ∈ s'.store.committed ↔ (run ∈ s.store.committed ∧
        ∀ own ∈ (s.store.transactions t).held, own.base.id ≠ run.id) ∨
      ∃ own ∈ (s.store.transactions t).held, run = own.base.cancel session.now := by
  obtain ⟨session', store, opened', committed, ready, _, rfl⟩ := commit_eq_some taken
  cases opened.symm.trans opened'
  have fits : Fits (some session) (s.store.transactions t) := opened ▸ valid.fits t
  have held := cancel_held fits cancel ready (Store.commit_cases committed).1
  have inserts : (s.store.transactions t).inserted ≠ some run := by
    intro inserted
    obtain ⟨_, _, insert, _⟩ := inserted_submitted fits inserted
    rw [cancel] at insert
    cases insert
  change run ∈ store.committed ↔ _
  rw [Store.mem_commit valid.store committed]
  constructor
  · intro membership
    rcases membership with kept | ⟨own, member, left⟩ | inserted
    · exact .inl kept
    · exact .inr ⟨own, member, (Option.some.inj ((held own member).2.symm.trans left)).symm⟩
    · exact absurd inserted inserts
  · intro membership
    rcases membership with kept | ⟨own, member, rfl⟩
    · exact .inl kept
    · exact .inr (.inl ⟨own, member, (held own member).2⟩)

structure Unclaimable (s : State) (id : JobId) : Prop where
  known : id ∈ s.inserted
  unmarked : id ∉ s.marked
  left : ∀ run ∈ s.store.committed, run.id = id → run.status ≠ .queued

theorem Unclaimable.step (valid : Valid s) (off : Unclaimable s id)
    (taken : system.step s event = some s') : Unclaimable s' id where
  known := (grow_step taken).2.1 id off.known
  unmarked := by
    intro claimed
    rcases valid.claim_step taken claimed with before | ⟨_, _, own, _, _, _, _, base, same, queued⟩
    · exact off.unmarked before
    · exact off.left own.base base same queued
  left := by
    intro run member own_id
    rcases quiet_step taken with ⟨t, rfl⟩ | ⟨committed, _⟩
    · obtain ⟨session, store, opened, _⟩ := commit_eq_some taken
      rcases commit_rows valid taken opened member with
        ⟨kept, _⟩ | ⟨_, _, _, _, rewrites⟩ | ⟨_, _, _, _, fresh⟩
      · exact off.left run kept own_id
      · exact rewrites.leaves (valid.past t session opened).2
      · exact absurd off.known (own_id ▸ fresh)
    · exact off.left run (committed ▸ member) own_id

theorem Unclaimable.never_starts (valid : Valid s) (off : Unclaimable s id)
    (path : system.Leads s u) : id ∉ u.started := by
  have whole : Valid u ∧ Unclaimable u id := by
    induction path with
    | refl => exact ⟨valid, off⟩
    | snoc _ _ taken ih =>
      obtain ⟨valid, off⟩ := ih
      exact ⟨valid.step taken, off.step valid taken⟩
  exact fun started => whole.2.unmarked (whole.1.started id started)

/-- A run that was locked before it was claimed cannot be claimed after the commit. -/
theorem unclaimable_of_cancel {own : Held JobRun.id} (valid : Valid s)
    (opened : s.sessions t = some session)
    (cancel : session.procedure = .cancelActiveRuns) (taken : system.step s (.commit t) = some s')
    (member : own ∈ (s.store.transactions t).held) (queued : own.base.status = .queued) :
    Unclaimable s' own.base.id := by
  have base := valid.store.based t own member
  have unmarked : own.base.id ∉ s.marked := fun claimed => valid.left own.base base claimed queued
  refine ⟨(grow_step taken).2.1 _ (valid.rows own.base base), ?_, ?_⟩
  · intro claimed
    rcases valid.claim_step taken claimed with before | ⟨_, _, _, ⟨⟩, other, procedure, _⟩
    · exact unmarked before
    · cases opened.symm.trans other
      rw [cancel] at procedure
      cases procedure
  · intro run present same
    rcases (cancel_rows run valid opened cancel taken).mp present with ⟨_, unlocked⟩ | ⟨_, _, rfl⟩
    · exact absurd same.symm (unlocked own member)
    · simp

/-- The commit of a `CancelActiveRuns`, whatever ran beside it. Its reply lists
once each row that it moved from queued or running to cancelled, and no other;
`wasRunning` tells which of them were running when they were locked; no other
row changes; and if none was running, no handler of a returned run was or is
ever called. -/
theorem cancelActiveRuns_exact (reachable : system.Reachable s)
    (opened : s.sessions t = some session) (cancel : session.procedure = .cancelActiveRuns)
    (taken : system.step s (.commit t) = some s') :
    ((session.reply (s.store.transactions t)).map fun c => c.run.id).Nodup ∧
    (∀ run, (∃ c ∈ session.reply (s.store.transactions t), c.run = run) ↔
      run ∈ s'.store.committed ∧
        ∃ old ∈ s.store.committed, old.status.isActive = true ∧ run = old.cancel session.now) ∧
    (∀ c ∈ session.reply (s.store.transactions t), ∃ own ∈ (s.store.transactions t).held,
      own.base.id = c.run.id ∧ (c.wasRunning = true ↔ own.base.status = .running)) ∧
    (∀ run, (∀ c ∈ session.reply (s.store.transactions t), c.run.id ≠ run.id) →
      (run ∈ s'.store.committed ↔ run ∈ s.store.committed)) ∧
    (∀ run ∈ s.store.committed, run.status.isTerminal = true → run ∈ s'.store.committed) ∧
    ((session.reply (s.store.transactions t)).any CancelledRun.wasRunning = false →
      ∀ u, system.Leads s' u → ∀ c ∈ session.reply (s.store.transactions t),
        c.run.id ∉ u.started) := by
  have valid := reachable_valid reachable
  obtain ⟨session', store, opened', committed, ready, _⟩ := commit_eq_some taken
  cases opened.symm.trans opened'
  have fits : Fits (some session) (s.store.transactions t) := opened ▸ valid.fits t
  have visited := (Store.commit_cases committed).1
  have held := cancel_held fits cancel ready visited
  obtain ⟨once, listed⟩ := cancel_reply fits cancel ready visited (valid.store.single t)
  have rows := fun run => cancel_rows run valid opened cancel taken
  refine ⟨once, ?_, ?_, ?_, ?_, ?_⟩
  · intro run
    constructor
    · intro returned
      obtain ⟨c, reply, rfl⟩ := returned
      obtain ⟨own, member, rfl⟩ := (listed c).mp reply
      exact ⟨(rows _).mpr (.inr ⟨own, member, rfl⟩), own.base, valid.store.based t own member,
        (held own member).1, rfl⟩
    · intro membership
      obtain ⟨present, old, before, active, rfl⟩ := membership
      rcases (rows _).mp present with ⟨kept, _⟩ | ⟨own, member, same⟩
      · have one : old.cancel session.now = old := KeyedTable.same_row kept before rfl
        rw [← one] at active
        cases active
      · exact ⟨_, (listed _).mpr ⟨own, member, rfl⟩, same.symm⟩
  · intro c reply
    obtain ⟨own, member, rfl⟩ := (listed c).mp reply
    exact ⟨own, member, rfl, by simp⟩
  · intro run unlisted
    rw [rows run]
    constructor
    · intro membership
      rcases membership with ⟨kept, _⟩ | ⟨own, member, rfl⟩
      · exact kept
      · exact absurd rfl (unlisted _ ((listed _).mpr ⟨own, member, rfl⟩))
    · intro present
      refine .inl ⟨present, fun own member same => ?_⟩
      exact unlisted _ ((listed _).mpr ⟨own, member, rfl⟩) same
  · intro run present terminal
    refine (rows run).mpr (.inl ⟨present, fun own member same => ?_⟩)
    have one : own.base = run := KeyedTable.same_row (valid.store.based t own member) present same
    have active := (held own member).1
    rw [one] at active
    simp [Status.isTerminal, active] at terminal
  · intro noneRunning u path c reply
    obtain ⟨own, member, rfl⟩ := (listed c).mp reply
    have queued : own.base.status = .queued := by
      have still : (own.base.status == .running) = false := by
        simpa using List.any_eq_false.mp noneRunning _ reply
      rcases Status.isActive_iff.mp (held own member).1 with waiting | running
      · exact waiting
      · simp [running] at still
    have off := unclaimable_of_cancel valid opened cancel taken member queued
    exact off.never_starts (valid.step taken) path

def insertRun (t : Nat) (id : JobId) : List Event :=
  [.beginTx t (.insertJobRun id "gold" (.object [])), .execute t, .commit t]

/-- Two runs are queued. While the second is about to be claimed, both are cancelled. -/
def cancelBeforeClaim : List Event :=
  insertRun 0 0 ++ insertRun 0 1 ++
    [.beginTx 1 (.markRunning 1), .beginTx 2 .cancelActiveRuns, .execute 2, .visit 2 0, .visit 2 1,
      .execute 1, .update 2, .visit 2 1, .visit 2 0]

def State.replyOf (state : State) (t : Nat) : Option (List (JobId × Bool)) :=
  match state.sessions t with
  | some ⟨.cancelActiveRuns, now, stage⟩ =>
    some ((Session.reply ⟨.cancelActiveRuns, now, stage⟩ (state.store.transactions t)).map
      fun c => (c.run.id, c.wasRunning))
  | _ => none

theorem cancelActiveRuns_exact_queued : ∃ s s', system.Reachable s ∧
    s.replyOf 2 = some [(1, false), (0, false)] ∧ system.step s (.commit 2) = some s' ∧
    ∀ u, system.Leads s' u → 0 ∉ u.started ∧ 1 ∉ u.started := by
  have replayed : (system.replay (fun _ _ => True) init cancelBeforeClaim).map
      (fun s => (s.replyOf 2, (system.step s (.commit 2)).isSome)) =
        some (some [(1, false), (0, false)], true) := by decide
  obtain ⟨s, reachable, shown⟩ := TransitionSystem.reaches_of_replay replayed
  obtain ⟨reply, enabled⟩ := Prod.mk.inj shown
  obtain ⟨s', taken⟩ := Option.isSome_iff_exists.mp enabled
  refine ⟨s, s', reachable, reply, taken, fun u path => ?_⟩
  unfold State.replyOf at reply
  split at reply
  · rename_i now stage opened
    have pairs := Option.some.inj reply
    have noneRunning : (Session.reply ⟨.cancelActiveRuns, now, stage⟩
        (s.store.transactions 2)).any CancelledRun.wasRunning = false := by
      rw [List.any_eq_false]
      intro c listed
      have pair : (c.run.id, c.wasRunning) ∈ [(1, false), (0, false)] :=
        pairs ▸ List.mem_map.mpr ⟨c, listed, rfl⟩
      simp only [List.mem_cons, Prod.mk.injEq, List.not_mem_nil, or_false] at pair
      rcases pair with ⟨_, mark⟩ | ⟨_, mark⟩ <;> simp [mark]
    have never := (cancelActiveRuns_exact reachable opened rfl taken).2.2.2.2.2 noneRunning u path
    have absent : ∀ id, (id, false) ∈ [(1, false), (0, false)] → id ∉ u.started := by
      intro id member
      rw [← pairs] at member
      obtain ⟨c, listed, same⟩ := List.mem_map.mp member
      rw [← (Prod.mk.inj same).1]
      exact never c listed
    exact ⟨absent 0 (by simp), absent 1 (by simp)⟩
  · cases reply

end OpenScale.Locking
