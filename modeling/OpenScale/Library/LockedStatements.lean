import OpenScale.Library.ReadCommitted

/-! What a transaction has locked while it runs its first statement, and while it
runs a second one over the rows that the first one locked. -/

namespace OpenScale.Library.ReadCommitted

universe u v

variable {Row : Type u} {Key : Type v} {key : Row → Key}

/-- The first statement of a transaction: it holds the rows that matched so far,
each as it found it, with the statement applied once. -/
structure Applies (statement : Statement key) (transaction : Transaction key) : Prop where
  running : transaction.statement = some statement
  single : transaction.todo.Nodup
  passed : ∀ own ∈ transaction.held, key own.base ∉ transaction.todo
  selected : ∀ own ∈ transaction.held, statement.selects own.base = true
  applied : ∀ own ∈ transaction.held, own.change = statement.change
  hits : transaction.hits = transaction.held.map fun own => (own.base, own.version)

/-- A later statement over rows that are all locked, and unchanged so far: the
rows that it has visited are changed, the others are not. -/
structure Reapplies (statement : Statement key) (transaction : Transaction key) : Prop where
  running : transaction.statement = some statement
  single : transaction.todo.Nodup
  locked : ∀ k ∈ transaction.todo, ∃ own ∈ transaction.held, key own.base = k
  selected : ∀ own ∈ transaction.held, statement.selects own.base = true
  waiting : ∀ own ∈ transaction.held, key own.base ∈ transaction.todo → own.version = some own.base
  visited : ∀ own ∈ transaction.held, key own.base ∉ transaction.todo →
    own.version = statement.change.apply own.base
  hits : ∀ hit, hit ∈ transaction.hits ↔ ∃ own ∈ transaction.held,
    key own.base ∉ transaction.todo ∧ hit = (own.base, statement.change.apply own.base)
  once : (transaction.hits.map fun hit => key hit.1).Nodup

variable [DecidableEq Key] {store store' : Store key} {statement second : Statement key}
variable {t : Nat} {k : Key} {row : Row} {held : List (Held key)} {own : Held key}
  {change : Change key}

theorem hold_fresh (fresh : ∀ own ∈ held, key own.base ≠ key row) :
    hold held row change = held ++ [⟨row, change⟩] := by
  have absent : (held.any fun own => decide (key own.base = key row)) = false := by
    simpa using fresh
  simp [hold, absent]

theorem mem_hold_other (member : own ∈ held) (other : key own.base ≠ key row) :
    own ∈ hold held row change := by
  unfold hold
  split
  · exact List.mem_map.mpr ⟨own, member, by simp [other]⟩
  · exact List.mem_append_left _ member

theorem mem_hold_same (member : own ∈ held) (same : key own.base = key row) :
    { own with change := own.change.andThen change } ∈ hold held row change := by
  have present : (held.any fun own => decide (key own.base = key row)) = true :=
    List.any_eq_true.mpr ⟨own, member, by simp [same]⟩
  simp only [hold, present, if_true]
  exact List.mem_map.mpr ⟨own, member, by simp [same]⟩

theorem hold_bases (present : ∃ own ∈ held, key own.base = key row) :
    (hold held row change).map Held.base = held.map Held.base := by
  have locked : (held.any fun own => decide (key own.base = key row)) = true := by
    obtain ⟨own, member, same⟩ := present
    exact List.any_eq_true.mpr ⟨own, member, by simp [same]⟩
  simp only [hold, locked, if_true, List.map_map]
  apply List.map_congr_left
  intro own _
  simp only [Function.comp]
  split <;> rfl

/-- A transaction sees its own version of a row that it has locked. -/
theorem visible_held (valid : store.Consistent) (member : own ∈ (store.transactions t).held) :
    store.visible t (key own.base) = own.version := by
  have present : store.committed.find? (key own.base) = some own.base :=
    KeyedTable.find?_eq_some.mpr ⟨valid.based t own member, rfl⟩
  rw [Store.visible, present]
  exact pending_own (valid.single t) member rfl

theorem execute_todo : ((store.execute t statement).transactions t).todo =
    ((store.committed.rewrite (pending (store.transactions t).held)).rows.filter
      statement.selects).map key := by
  simp [Store.execute, KeyedTable.rewrite]

theorem execute_single : ((store.execute t statement).transactions t).todo.Nodup := by
  rw [execute_todo]
  exact (store.committed.rewrite _).unique.sublist (List.filter_sublist.map key)

theorem Applies.execute (idle : store.transactions t = .idle) :
    Applies statement ((store.execute t statement).transactions t) := by
  have held : ((store.execute t statement).transactions t).held = [] := by
    simp [Store.execute, idle, Transaction.idle]
  refine ⟨by simp [Store.execute], execute_single, ?_, ?_, ?_, ?_⟩
  · simp [held]
  · simp [held]
  · simp [held]
  · rw [held]
    simp [Store.execute]

theorem Applies.visit (applies : Applies statement (store.transactions t))
    (visited : store.visit t k = some store') : Applies statement (store'.transactions t) := by
  obtain ⟨statement', running, listed, _, ⟨rfl, _⟩ | ⟨row, seen, selected, rfl⟩⟩ :=
    Store.visit_cases visited
  · rw [Store.skip, Store.set_self]
    refine ⟨applies.running, applies.single.erase k, ?_, applies.selected,
      applies.applied, applies.hits⟩
    intro own member still
    exact applies.passed own member (List.mem_of_mem_erase still)
  · have at_k : key row = k := (Store.visible_eq_some seen).1
    cases running.symm.trans applies.running
    -- a row still to visit is not locked yet, so the lock is a fresh one
    have fresh : ∀ own ∈ (store.transactions t).held, key own.base ≠ key row := by
      intro own member same
      exact applies.passed own member (same.trans at_k ▸ listed)
    rw [Store.lock_self, hold_fresh fresh]
    refine ⟨applies.running, applies.single.erase k, ?_, ?_, ?_, ?_⟩
    · intro own member still
      rcases List.mem_append.mp member with old | new
      · exact applies.passed own old (List.mem_of_mem_erase still)
      · cases List.mem_singleton.mp new
        rw [at_k] at still
        exact absurd still (List.Nodup.not_mem_erase applies.single)
    · intro own member
      rcases List.mem_append.mp member with old | new
      · exact applies.selected own old
      · cases List.mem_singleton.mp new
        exact selected
    · intro own member
      rcases List.mem_append.mp member with old | new
      · exact applies.applied own old
      · cases List.mem_singleton.mp new
        rfl
    · rw [List.map_append, ← applies.hits]
      rfl

omit [DecidableEq Key] in
theorem Applies.version {transaction : Transaction key} (applies : Applies statement transaction)
    (member : own ∈ transaction.held) :
    own.version = statement.change.apply own.base := by
  rw [Held.version, applies.applied own member]

/-- A second statement that selects exactly the rows locked by a first one that
left them unchanged. -/
theorem Reapplies.execute (valid : store.Consistent)
    (first : Applies statement (store.transactions t))
    (kept : ∀ row, statement.change.apply row = some row)
    (selects : ∀ row, second.selects row = true ↔
      ∃ own ∈ (store.transactions t).held, key own.base = key row) :
    Reapplies second ((store.execute t second).transactions t) := by
  have held : ((store.execute t second).transactions t).held = (store.transactions t).held := by
    simp [Store.execute]
  have version : ∀ own ∈ (store.transactions t).held, own.version = some own.base := by
    intro own member
    rw [first.version member, kept]
  have todo : ∀ k, k ∈ ((store.execute t second).transactions t).todo ↔
      ∃ own ∈ (store.transactions t).held, key own.base = k := by
    intro k
    rw [execute_todo]
    constructor
    · intro listed
      obtain ⟨row, present, rfl⟩ := List.mem_map.mp listed
      exact (selects row).mp (List.mem_filter.mp present).2
    · intro membership
      obtain ⟨own, member, rfl⟩ := membership
      have present : own.base ∈ store.committed.rewrite (pending (store.transactions t).held) :=
        (Store.mem_rewrite_pending valid).mpr (.inr ⟨own, member, version own member⟩)
      have selected : second.selects own.base = true := (selects own.base).mpr ⟨own, member, rfl⟩
      exact List.mem_map.mpr ⟨own.base, List.mem_filter.mpr ⟨present, selected⟩, rfl⟩
  refine ⟨by simp [Store.execute], execute_single, ?_, ?_, ?_, ?_, ?_, ?_⟩
  · intro k listed
    rw [held]
    exact (todo k).mp listed
  · intro own member
    exact (selects own.base).mpr ⟨own, held ▸ member, rfl⟩
  · intro own member _
    exact version own (held ▸ member)
  · intro own member passed
    exact absurd ((todo _).mpr ⟨own, held ▸ member, rfl⟩) passed
  · intro hit
    constructor
    · intro listed
      simp [Store.execute] at listed
    · intro membership
      obtain ⟨own, member, passed, _⟩ := membership
      exact absurd ((todo _).mpr ⟨own, held ▸ member, rfl⟩) passed
  · simp [Store.execute]

theorem Reapplies.visit_bases (reapplies : Reapplies statement (store.transactions t))
    (visited : store.visit t k = some store') :
    (store'.transactions t).held.map Held.base = (store.transactions t).held.map Held.base := by
  obtain ⟨_, _, listed, _, ⟨rfl, _⟩ | ⟨row, seen, _, rfl⟩⟩ := Store.visit_cases visited
  · rw [Store.skip, Store.set_self]
  · rw [Store.lock_self]
    obtain ⟨own, member, at_k⟩ := reapplies.locked k listed
    exact hold_bases ⟨own, member, at_k.trans (Store.visible_eq_some seen).1.symm⟩

theorem hold_cases (single : (held.map fun own => key own.base).Nodup) {mine : Held key}
    (member : mine ∈ held) (unchanged : mine.version = some mine.base)
    (present : own ∈ hold held mine.base change) :
    (own ∈ held ∧ key own.base ≠ key mine.base) ∨
      (own.base = mine.base ∧ own.version = change.apply mine.base) := by
  rcases mem_hold present with other | ⟨_, fresh⟩ | ⟨other, old, same, rfl⟩
  · exact .inl other
  · exact absurd rfl (fresh mine member)
  · have one : other = mine := List.inj_on_of_nodup_map single old member same
    subst one
    have applied : other.change.apply other.base = some other.base := unchanged
    refine .inr ⟨rfl, ?_⟩
    simp [Held.version, applied]

theorem Reapplies.visit (valid : store.Consistent)
    (reapplies : Reapplies statement (store.transactions t))
    (visited : store.visit t k = some store') : Reapplies statement (store'.transactions t) := by
  obtain ⟨statement', running, listed, _, outcome⟩ := Store.visit_cases visited
  cases running.symm.trans reapplies.running
  obtain ⟨mine, member, rfl⟩ := reapplies.locked k listed
  have unchanged := reapplies.waiting mine member listed
  have seen : store.visible t (key mine.base) = some mine.base := by
    rw [visible_held valid member, unchanged]
  rcases outcome with ⟨_, unmatched⟩ | ⟨row, found, _, rfl⟩
  · have mismatch := unmatched mine.base seen
    rw [reapplies.selected mine member] at mismatch
    cases mismatch
  · cases found.symm.trans seen
    have cases_ : ∀ own ∈ hold (store.transactions t).held mine.base statement.change,
        (own ∈ (store.transactions t).held ∧ key own.base ≠ key mine.base) ∨
          (own.base = mine.base ∧ own.version = statement.change.apply mine.base) :=
      fun _ => hold_cases (valid.single t) member unchanged
    have erased : ∀ k, k ∈ (store.transactions t).todo.erase (key mine.base) ↔
        k ≠ key mine.base ∧ k ∈ (store.transactions t).todo :=
          fun _ => reapplies.single.mem_erase_iff
    rw [Store.lock_self]
    refine ⟨reapplies.running, reapplies.single.erase _, ?_, ?_, ?_, ?_, ?_, ?_⟩
    · intro k left
      obtain ⟨other, waiting⟩ := (erased k).mp left
      obtain ⟨own, old, rfl⟩ := reapplies.locked k waiting
      exact ⟨own, mem_hold_other old other, rfl⟩
    · intro own present
      rcases cases_ own present with ⟨old, _⟩ | ⟨same, _⟩
      · exact reapplies.selected own old
      · exact same ▸ reapplies.selected mine member
    · intro own present left
      rcases cases_ own present with ⟨old, _⟩ | ⟨same, _⟩
      · exact reapplies.waiting own old ((erased _).mp left).2
      · exact absurd (congrArg key same) ((erased _).mp left).1
    · intro own present passed
      rcases cases_ own present with ⟨old, other⟩ | ⟨same, version⟩
      · exact reapplies.visited own old fun waiting => passed ((erased _).mpr ⟨other, waiting⟩)
      · exact same ▸ version
    · intro hit
      simp only [List.mem_append, List.mem_singleton]
      constructor
      · intro membership
        rcases membership with before | rfl
        · obtain ⟨own, old, passed, rfl⟩ := (reapplies.hits hit).mp before
          have other : key own.base ≠ key mine.base := fun same => passed (same ▸ listed)
          exact ⟨own, mem_hold_other old other, fun left => passed ((erased _).mp left).2, rfl⟩
        · exact ⟨_, mem_hold_same member rfl, fun left => ((erased _).mp left).1 rfl, rfl⟩
      · intro membership
        obtain ⟨own, present, passed, rfl⟩ := membership
        rcases cases_ own present with ⟨old, other⟩ | ⟨same, _⟩
        · refine .inl ((reapplies.hits _).mpr ⟨own, old, ?_, rfl⟩)
          exact fun waiting => passed ((erased _).mpr ⟨other, waiting⟩)
        · exact .inr (by rw [same])
    · rw [List.map_append, List.nodup_append]
      refine ⟨reapplies.once, by simp, ?_⟩
      rintro k before other new rfl
      obtain ⟨hit, earlier, rfl⟩ := List.mem_map.mp before
      obtain ⟨own, old, passed, rfl⟩ := (reapplies.hits hit).mp earlier
      have same : key own.base = key mine.base := List.mem_singleton.mp new
      exact passed (same ▸ listed)

end OpenScale.Library.ReadCommitted
