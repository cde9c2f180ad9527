import OpenScale.Locking.System

/-! What one step of the transactions can do: to the store, to the open sessions, and
to the history. Later proofs use these facts and do not unfold the step again. -/

namespace OpenScale.Locking

open OpenScale.Library OpenScale.Library.ReadCommitted OpenScale.Jobs

variable {s s' : State} {event : Event} {t u : Nat} {id : JobId} {session : Session}

inductive Moves (s : State) : Event → State → Prop where
  | tick {elapsed : Time} : Moves s (.tick elapsed) { s with clock := s.clock + elapsed }
  | beginTx {t : Nat} {procedure : Procedure} (free : s.sessions t = none)
      (possible : s.mayBegin procedure = true) :
      Moves s (.beginTx t procedure) (s.setSession t (some ⟨procedure, s.clock, .begun⟩))
  | execute {t : Nat} {procedure : Procedure} {now : Time}
      (begun : s.sessions t = some ⟨procedure, now, .begun⟩) :
      Moves s (.execute t) ({ s with
        store := Session.run ⟨procedure, now, .begun⟩ s.store t }.setSession t
          (some ⟨procedure, now, .executing⟩))
  | visit {t : Nat} {id : JobId} {store : Store JobRun.id} (visited : s.store.visit t id =
    some store) :
      Moves s (.visit t id) { s with store := store }
  | update {t : Nat} {now : Time} (executing : s.sessions t =
    some ⟨.cancelActiveRuns, now, .executing⟩)
      (visited : (s.store.transactions t).todo = [])
      (found : (s.store.transactions t).hits.map Prod.fst ≠ []) :
      Moves s (.update t) ({ s with
        store := s.store.execute t
          (updateCancelled (((s.store.transactions t).hits.map Prod.fst).map JobRun.id) now)
            }.setSession t
          (some ⟨.cancelActiveRuns, now, .updating ((s.store.transactions t).hits.map Prod.fst)⟩))
  | commit {t : Nat} {session : Session} {store : Store JobRun.id}
    (opened : s.sessions t = some session)
      (committed : s.store.commit t = some store)
        (ready : session.ready (s.store.transactions t) = true)
      (fresh : ∀ id ∈ session.procedure.inserts, id ∉ s.inserted) :
      Moves s (.commit t) { s.setSession t none with
        store := store
        inserted := s.inserted ++ session.procedure.inserts
        marked := s.marked ++ session.claims (s.store.transactions t) }
  | abort {t : Nat} {session : Session} (opened : s.sessions t = some session) :
      Moves s (.abort t) ({ s with store := s.store.abort t }.setSession t none)
  | startHandler {id : JobId} (marked : id ∈ s.marked) :
      Moves s (.startHandler id) { s with started := s.started ++ [id] }

theorem moves (taken : system.step s event = some s') : Moves s event s' := by
  simp only [system] at taken
  cases event with
  | tick elapsed =>
    cases taken
    exact .tick
  | beginTx t procedure =>
    simp only [step] at taken
    split at taken
    · rename_i guard
      cases taken
      simp only [Bool.and_eq_true, Option.isNone_iff_eq_none] at guard
      exact .beginTx guard.1 guard.2
    · cases taken
  | execute t =>
    simp only [step] at taken
    split at taken
    · rename_i procedure now begun
      cases taken
      exact .execute begun
    · cases taken
  | visit t id =>
    obtain ⟨store, visited, rfl⟩ := Option.map_eq_some_iff.mp taken
    exact .visit visited
  | update t =>
    simp only [step] at taken
    split at taken
    · rename_i now executing
      split at taken
      · rename_i guard
        cases taken
        simp only [Bool.and_eq_true, List.isEmpty_iff, Bool.not_eq_eq_eq_not, Bool.not_true,
          List.isEmpty_eq_false_iff] at guard
        exact .update executing guard.1 guard.2
      · cases taken
    · cases taken
  | commit t =>
    simp only [step] at taken
    split at taken
    · rename_i session opened
      split at taken
      · rename_i guard
        simp only [Bool.and_eq_true, List.all_eq_true, Bool.not_eq_eq_eq_not, Bool.not_true,
          List.contains_eq_mem, decide_eq_false_iff_not] at guard
        obtain ⟨store, committed, rfl⟩ := Option.map_eq_some_iff.mp taken
        exact .commit opened committed guard.1 guard.2
      · cases taken
    · cases taken
  | abort t =>
    simp only [step] at taken
    split at taken
    · rename_i session opened
      cases taken
      exact .abort opened
    · cases taken
  | startHandler id =>
    simp only [step] at taken
    split at taken
    · rename_i marked
      cases taken
      exact .startHandler (List.contains_iff_mem.mp marked)
    · cases taken

theorem commit_eq_some (taken : system.step s (.commit t) = some s') :
    ∃ session store, s.sessions t = some session ∧ s.store.commit t = some store ∧
      session.ready (s.store.transactions t) = true ∧
      (∀ id ∈ session.procedure.inserts, id ∉ s.inserted) ∧
      s' = { s.setSession t none with
        store := store
        inserted := s.inserted ++ session.procedure.inserts
        marked := s.marked ++ session.claims (s.store.transactions t) } := by
  cases moves taken with
  | commit opened committed ready fresh => exact ⟨_, _, opened, committed, ready, fresh, rfl⟩

theorem run_other (store : Store JobRun.id) (other : u ≠ t) :
    (session.run store t).transactions u = store.transactions u := by
  obtain ⟨procedure, now, stage⟩ := session
  cases procedure <;> exact Store.set_other other

@[simp] theorem run_committed (store : Store JobRun.id) :
    (session.run store t).committed = store.committed := by
  obtain ⟨procedure, now, stage⟩ := session
  cases procedure <;> rfl

theorem run_consistent {store : Store JobRun.id} (valid : store.Consistent) :
    (session.run store t).Consistent := by
  obtain ⟨procedure, now, stage⟩ := session
  cases procedure with
  | insertJobRun => exact valid.insert _
  | _ => exact valid.execute _

theorem quiet_step (taken : system.step s event = some s') :
    (∃ t, event = .commit t) ∨ (s'.store.committed = s.store.committed ∧
      s'.inserted = s.inserted ∧ s'.marked = s.marked) := by
  cases moves taken with
  | @commit t => exact .inl ⟨t, rfl⟩
  | execute => exact .inr ⟨run_committed _, rfl, rfl⟩
  | visit visited => exact .inr ⟨Store.visit_committed visited, rfl, rfl⟩
  | tick | beginTx | update | abort | startHandler => exact .inr ⟨rfl, rfl, rfl⟩

theorem consistent_step (valid : s.store.Consistent) (taken : system.step s event = some s') :
    s'.store.Consistent := by
  cases moves taken with
  | execute => exact run_consistent valid
  | visit visited => exact valid.visit visited
  | update => exact valid.execute _
  | commit _ committed => exact valid.commit committed
  | abort => exact valid.abort
  | tick | beginTx | startHandler => exact valid

theorem session_step (taken : system.step s event = some s')
    (opened : s'.sessions t = some session) :
    (∃ before, s.sessions t = some before ∧ before.procedure = session.procedure ∧
      before.now = session.now) ∨
      (s.mayBegin session.procedure = true ∧ session.now = s.clock) := by
  -- a step that sets one session leaves the others
  have set : ∀ {v : Nat} {new : Option Session}, (s.setSession v new).sessions t = some session →
      t = v ∧ new = some session ∨ s.sessions t = some session := by
    intro v new here
    by_cases mine : t = v
    · subst t
      exact .inl ⟨rfl, (setSession_self new).symm.trans here⟩
    · exact .inr ((setSession_other mine).symm.trans here)
  cases moves taken with
  | tick | visit | startHandler => exact .inl ⟨session, opened, rfl, rfl⟩
  | beginTx _ possible =>
    rcases set opened with ⟨rfl, same⟩ | before
    · cases same
      exact .inr ⟨possible, rfl⟩
    · exact .inl ⟨session, before, rfl, rfl⟩
  | execute earlier | update earlier =>
    rcases set opened with ⟨rfl, same⟩ | before
    · cases same
      exact .inl ⟨_, earlier, rfl, rfl⟩
    · exact .inl ⟨session, before, rfl, rfl⟩
  | commit | abort =>
    rcases set opened with ⟨_, same⟩ | before
    · cases same
    · exact .inl ⟨session, before, rfl, rfl⟩

theorem grow_step (taken : system.step s event = some s') :
    s.clock ≤ s'.clock ∧ (∀ id ∈ s.inserted, id ∈ s'.inserted) ∧
    (∀ id ∈ s.marked, id ∈ s'.marked) := by
  cases moves taken with
  | tick => exact ⟨Nat.le_add_right _ _, fun _ same => same, fun _ same => same⟩
  | commit =>
    exact ⟨Nat.le_refl _, fun _ => List.mem_append_left _, fun _ => List.mem_append_left _⟩
  | _ => exact ⟨Nat.le_refl _, fun _ same => same, fun _ same => same⟩

theorem start_step (taken : system.step s event = some s') (started : id ∈ s'.started) :
    id ∈ s.started ∨ id ∈ s.marked := by
  cases moves taken with
  | startHandler marked =>
    rcases List.mem_append.mp started with before | now
    · exact .inl before
    · exact .inr (List.mem_singleton.mp now ▸ marked)
  | _ => exact .inl started

theorem mayBegin_grow (taken : system.step s event = some s') {procedure : Procedure}
    (possible : s.mayBegin procedure = true) : s'.mayBegin procedure = true := by
  obtain ⟨_, inserted, marked⟩ := grow_step taken
  cases procedure with
  | markRunning id | markFailed id =>
    simp only [State.mayBegin, List.contains_iff_mem] at possible ⊢
    exact inserted id possible
  | markTerminal id =>
    simp only [State.mayBegin, Bool.and_eq_true, List.contains_iff_mem] at possible ⊢
    exact ⟨marked id possible.1, possible.2⟩
  | insertJobRun | clearTerminalRuns | cancelActiveRuns => rfl

end OpenScale.Locking
