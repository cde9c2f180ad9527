import OpenScale.Library.KeyedTable

/-! Transactions at READ COMMITTED over one keyed table. A statement selects
rows on its own snapshot, then visits them one at a time. It waits while
another transaction holds the row's lock, looks at the row as it is when the
lock is free, and takes the lock only if the row still matches. Locks last
until the transaction ends. -/

namespace OpenScale.Library.ReadCommitted

universe u v

variable {Row : Type u} {Key : Type v}

/-- A locked row: the committed version the lock was taken on, and what the
statements of the transaction have made of it so far. -/
structure Held (key : Row → Key) where
  base : Row
  change : Change key

/-- The version a commit would leave; `none` deletes the row. -/
def Held.version {key : Row → Key} (own : Held key) : Option Row := own.change.apply own.base

structure Transaction (key : Row → Key) where
  statement : Option (Statement key)
  /-- Rows of the statement's snapshot that it has not visited. -/
  todo : List Key
  /-- Rows the statement matched, as it found them and as it left them. -/
  hits : List (Row × Option Row)
  held : List (Held key)
  inserted : Option Row

def Transaction.idle {key : Row → Key} : Transaction key := ⟨none, [], [], [], none⟩

structure Store (key : Row → Key) where
  committed : KeyedTable key
  transactions : Nat → Transaction key
  locks : Key → Option Nat

namespace Store

variable {key : Row → Key} {store : Store key} {t u : Nat}

def init : Store key := ⟨KeyedTable.empty key, fun _ => .idle, fun _ => none⟩

def set (store : Store key) (t : Nat) (transaction : Transaction key) : Store key :=
  { store with transactions := fun u => if u = t then transaction else store.transactions u }

/-- The transaction is over: its locks are free. -/
def finish (store : Store key) (t : Nat) (committed : KeyedTable key) : Store key where
  committed := committed
  transactions u := if u = t then .idle else store.transactions u
  locks l := if store.locks l = some t then none else store.locks l

def abort (store : Store key) (t : Nat) : Store key := store.finish t store.committed

/-- INSERT. The row stays invisible to the others until the commit. -/
def insert (store : Store key) (t : Nat) (row : Row) : Store key :=
  store.set t { store.transactions t with inserted := some row }

@[simp] theorem set_committed (transaction : Transaction key) :
    (store.set t transaction).committed = store.committed := rfl

@[simp] theorem set_locks (transaction : Transaction key) :
    (store.set t transaction).locks = store.locks := rfl

@[simp] theorem set_self (transaction : Transaction key) :
    (store.set t transaction).transactions t = transaction := by
  simp [set]

theorem set_other {transaction : Transaction key} (other : u ≠ t) :
    (store.set t transaction).transactions u = store.transactions u := by
  simp [set, other]

@[simp] theorem finish_committed (committed : KeyedTable key) :
    (store.finish t committed).committed = committed := rfl

@[simp] theorem finish_self (committed : KeyedTable key) :
    (store.finish t committed).transactions t = .idle := by
  simp [finish]

theorem finish_other {committed : KeyedTable key} (other : u ≠ t) :
    (store.finish t committed).transactions u = store.transactions u := by
  simp [finish, other]

/-- What row locking guarantees: one owner per row, and a locked row stays as it was locked. -/
structure Consistent (store : Store key) : Prop where
  owner : ∀ t, ∀ own ∈ (store.transactions t).held, store.locks (key own.base) = some t
  based : ∀ t, ∀ own ∈ (store.transactions t).held, own.base ∈ store.committed
  single : ∀ t, ((store.transactions t).held.map fun own => key own.base).Nodup

theorem Consistent.init : Consistent (init : Store key) where
  owner := by simp [Store.init, Transaction.idle]
  based := by simp [Store.init, Transaction.idle]
  single := by simp [Store.init, Transaction.idle]

theorem Consistent.exclusive (valid : Consistent store) {own other : Held key}
    (first : own ∈ (store.transactions t).held) (second : other ∈ (store.transactions u).held)
    (same : key own.base = key other.base) : t = u := by
  have mine := valid.owner t own first
  have theirs := valid.owner u other second
  rw [same] at mine
  exact Option.some.inj (mine.symm.trans theirs)

theorem Consistent.set (valid : Consistent store) {transaction : Transaction key}
    (same : transaction.held = (store.transactions t).held) :
    Consistent (store.set t transaction) := by
  have held : ∀ u, ((store.set t transaction).transactions u).held =
      (store.transactions u).held := by
    intro u
    by_cases mine : u = t
    · subst u
      rw [set_self, same]
    · rw [set_other mine]
  refine ⟨?_, ?_, ?_⟩
  · intro u own member
    exact valid.owner u own (held u ▸ member)
  · intro u own member
    exact valid.based u own (held u ▸ member)
  · intro u
    rw [held u]
    exact valid.single u

theorem Consistent.finish (valid : Consistent store) {table : KeyedTable key}
    (kept : ∀ u, u ≠ t → ∀ own ∈ (store.transactions u).held, own.base ∈ table) :
    Consistent (store.finish t table) := by
  have mine : ∀ u own, own ∈ ((store.finish t table).transactions u).held →
      u ≠ t ∧ own ∈ (store.transactions u).held := by
    intro u own member
    by_cases self : u = t
    · subst u
      rw [finish_self] at member
      cases member
    · exact ⟨self, finish_other self ▸ member⟩
  refine ⟨?_, ?_, ?_⟩
  · intro u own member
    obtain ⟨other, held⟩ := mine u own member
    have theirs := valid.owner u own held
    simp [Store.finish, theirs, other]
  · intro u own member
    obtain ⟨other, held⟩ := mine u own member
    exact kept u other own held
  · intro u
    by_cases self : u = t
    · subst u
      simp [Transaction.idle]
    · rw [finish_other self]
      exact valid.single u

theorem Consistent.abort (valid : Consistent store) : Consistent (store.abort t) :=
  valid.finish fun u _ own held => valid.based u own held

theorem Consistent.insert (valid : Consistent store) (row : Row) :
    Consistent (store.insert t row) := valid.set rfl

end Store

variable {key : Row → Key} [DecidableEq Key]

/-- What committing a list of held rows does to the table. -/
def pending (held : List (Held key)) : Change key where
  apply row :=
    match held.find? fun own => key own.base = key row with
    | some own => own.change.apply row
    | none => some row
  keeps := by
    intro row left applied
    split at applied
    · rename_i own _
      exact own.change.keeps applied
    · cases applied
      rfl

/-- One more statement on a row of the transaction, or the first one. -/
def hold (held : List (Held key)) (row : Row) (change : Change key) : List (Held key) :=
  if held.any fun own => key own.base = key row then
    held.map fun own =>
      if key own.base = key row then { own with change := own.change.andThen change } else own
  else held ++ [⟨row, change⟩]

section Pending

variable {held : List (Held key)} {own : Held key} {row : Row} {change : Change key}

theorem pending_free (free : ∀ own ∈ held, key own.base ≠ key row) :
    (pending held).apply row = some row := by
  have absent : (held.find? fun own => key own.base = key row) = none := by
    rw [List.find?_eq_none]
    intro own member
    simpa using free own member
  simp [pending, absent]

theorem pending_own (single : (held.map fun own => key own.base).Nodup) (member : own ∈ held)
    (same : key own.base = key row) : (pending held).apply row = own.change.apply row := by
  cases found : held.find? fun own => key own.base = key row with
  | none =>
    have absent := List.find?_eq_none.mp found own member
    simp [same] at absent
  | some other =>
    have match_ : key other.base = key row := by simpa using List.find?_some found
    have one : other = own :=
      List.inj_on_of_nodup_map single (List.mem_of_find?_eq_some found) member
        (match_.trans same.symm)
    simp [pending, found, one]

theorem mem_hold (member : own ∈ hold held row change) :
    (own ∈ held ∧ key own.base ≠ key row) ∨
    (own = ⟨row, change⟩ ∧ ∀ other ∈ held, key other.base ≠ key row) ∨
    (∃ other ∈ held, key other.base = key row ∧
      own = { other with change := other.change.andThen change }) := by
  unfold hold at member
  split at member
  · obtain ⟨other, present, same⟩ := List.mem_map.mp member
    split at same
    · rename_i matches_
      exact .inr (.inr ⟨other, present, matches_, same.symm⟩)
    · rename_i different
      exact .inl ⟨same ▸ present, same ▸ different⟩
  · rename_i none_
    have free : ∀ other ∈ held, key other.base ≠ key row := by simpa using none_
    rcases List.mem_append.mp member with old | new
    · exact .inl ⟨old, free own old⟩
    · exact .inr (.inl ⟨List.mem_singleton.mp new, free⟩)

theorem hold_keys : ((hold held row change).map fun own => key own.base) =
    if held.any fun own => key own.base = key row then held.map fun own => key own.base
    else (held.map fun own => key own.base) ++ [key row] := by
  unfold hold
  split
  · rw [List.map_map]
    apply List.map_congr_left
    intro own _
    simp only [Function.comp]
    split <;> rfl
  · simp

theorem hold_single (single : (held.map fun own => key own.base).Nodup) :
    ((hold held row change).map fun own => key own.base).Nodup := by
  rw [hold_keys]
  split
  · exact single
  · rename_i none_
    rw [List.nodup_append]
    refine ⟨single, by simp, ?_⟩
    rintro k old _ new rfl
    obtain ⟨own, member, rfl⟩ := List.mem_map.mp old
    have free : ∀ own ∈ held, key own.base ≠ key row := by simpa using none_
    exact free own member (List.mem_singleton.mp new)

end Pending

namespace Store

/-- The row as the transaction sees it now: its own version, else the committed one. -/
def visible (store : Store key) (t : Nat) (k : Key) : Option Row :=
  (store.committed.find? k).bind (pending (store.transactions t).held).apply

/-- Start a statement: its snapshot fixes which rows it will visit. -/
def execute (store : Store key) (t : Nat) (statement : Statement key) : Store key :=
  let own := (pending (store.transactions t).held).apply
  store.set t { store.transactions t with
    statement := some statement
    hits := []
    todo := ((store.committed.rows.filterMap own).filter statement.selects).map key }

theorem execute_other {store : Store key} {t u : Nat} {statement : Statement key} (other : u ≠ t) :
    (store.execute t statement).transactions u = store.transactions u := set_other other

/-- The row is gone or no longer matches: the statement passes it by. -/
def skip (store : Store key) (t : Nat) (k : Key) : Store key :=
  store.set t { store.transactions t with todo := (store.transactions t).todo.erase k }

/-- The row matches: lock it and apply the statement to the version found. -/
def lock (store : Store key) (t : Nat) (k : Key) (row : Row) (change : Change key) : Store key :=
  { store.set t { store.transactions t with
      todo := (store.transactions t).todo.erase k
      hits := (store.transactions t).hits ++ [(row, change.apply row)]
      held := hold (store.transactions t).held row change } with
    locks := fun l => if l = k then some t else store.locks l }

/-- Visit one row. Not enabled while another transaction holds the row's lock. -/
def visit (store : Store key) (t : Nat) (k : Key) : Option (Store key) :=
  match (store.transactions t).statement with
  | none => none
  | some statement =>
    if k ∈ (store.transactions t).todo ∧ (store.locks k = none ∨ store.locks k = some t) then
      match store.visible t k with
      | none => some (store.skip t k)
      | some row =>
        some (if statement.selects row then store.lock t k row statement.change else store.skip t k)
    else none

/-- Commit, once the running statement has visited every row of its snapshot. An
insert whose key is taken cannot commit. -/
def commit (store : Store key) (t : Nat) : Option (Store key) :=
  let changed := store.committed.rewrite (pending (store.transactions t).held)
  if (store.transactions t).todo = [] then
    match (store.transactions t).inserted with
    | none => some (store.finish t changed)
    | some row => (changed.insert row).map (store.finish t)
  else none

variable {store store' : Store key} {t u : Nat} {k : Key} {row : Row} {change : Change key}

theorem visible_eq_some (found : store.visible t k = some row) :
    key row = k ∧ ∃ base ∈ store.committed, key base = k ∧
      (pending (store.transactions t).held).apply base = some row := by
  obtain ⟨base, present, seen⟩ := Option.bind_eq_some_iff.mp found
  obtain ⟨member, same⟩ := KeyedTable.find?_eq_some.mp present
  exact ⟨((pending _).keeps seen).trans same, base, member, same, seen⟩

/-- Everything a visit can do: skip a row that is gone or no longer matches, or
lock the row as it is now and apply the statement to it. -/
theorem visit_cases (visited : store.visit t k = some store') :
    ∃ statement, (store.transactions t).statement = some statement ∧
      k ∈ (store.transactions t).todo ∧ (store.locks k = none ∨ store.locks k = some t) ∧
      ((store' = store.skip t k ∧ ∀ row, store.visible t k = some row →
        statement.selects row = false) ∨
        ∃ row, store.visible t k = some row ∧ statement.selects row = true ∧
          store' = store.lock t k row statement.change) := by
  unfold visit at visited
  split at visited
  · cases visited
  rename_i statement running
  split at visited
  · rename_i enabled
    refine ⟨statement, running, enabled.1, enabled.2, ?_⟩
    cases seen : store.visible t k with
    | none =>
      rw [seen] at visited
      cases visited
      exact .inl ⟨rfl, by simp⟩
    | some row =>
      rw [seen] at visited
      by_cases selected : statement.selects row = true
      · simp only [selected, if_true] at visited
        cases visited
        exact .inr ⟨row, rfl, selected, rfl⟩
      · simp only [selected] at visited
        cases visited
        exact .inl ⟨rfl, by simpa using selected⟩
  · cases visited

theorem visit_committed (visited : store.visit t k = some store') :
    store'.committed = store.committed := by
  obtain ⟨_, _, _, _, ⟨rfl, _⟩ | ⟨_, _, _, rfl⟩⟩ := visit_cases visited <;> rfl

theorem visit_other (visited : store.visit t k = some store') (other : u ≠ t) :
    store'.transactions u = store.transactions u := by
  obtain ⟨_, _, _, _, ⟨rfl, _⟩ | ⟨_, _, _, rfl⟩⟩ := visit_cases visited <;> exact set_other other

theorem Consistent.execute (valid : Consistent store) (statement : Statement key) :
    Consistent (store.execute t statement) := valid.set rfl

theorem Consistent.skip (valid : Consistent store) : Consistent (store.skip t k) := valid.set rfl

theorem visible_base (found : store.visible t k = some row)
    (free : ∀ own ∈ (store.transactions t).held, key own.base ≠ key row) :
    row ∈ store.committed := by
  obtain ⟨same, base, member, at_k, seen⟩ := visible_eq_some found
  have untouched : (pending (store.transactions t).held).apply base = some base :=
    pending_free (by rw [at_k, ← same]; exact free)
  cases untouched.symm.trans seen
  exact member

@[simp] theorem lock_self : (store.lock t k row change).transactions t =
    { store.transactions t with
      todo := (store.transactions t).todo.erase k
      hits := (store.transactions t).hits ++ [(row, change.apply row)]
      held := hold (store.transactions t).held row change } := set_self _

theorem lock_other (other : u ≠ t) :
    (store.lock t k row change).transactions u = store.transactions u := set_other other

@[simp] theorem lock_locks (l : Key) : (store.lock t k row change).locks l =
    if l = k then some t else store.locks l := rfl

theorem visit_inserted (visited : store.visit t k = some store') :
    (store'.transactions t).inserted = (store.transactions t).inserted := by
  obtain ⟨_, _, _, _, ⟨rfl, _⟩ | ⟨_, _, _, rfl⟩⟩ := visit_cases visited
  · simp [skip]
  · simp

theorem Consistent.lock (valid : Consistent store) (seen : store.visible t k = some row)
    (free : store.locks k = none ∨ store.locks k = some t) :
    Consistent (store.lock t k row change) := by
  have at_k := (visible_eq_some seen).1
  refine ⟨?_, ?_, ?_⟩
  · intro u own member
    by_cases mine : u = t
    · subst u
      rw [lock_self] at member
      rcases mem_hold member with ⟨old, different⟩ | ⟨rfl, _⟩ | ⟨other, old, same, rfl⟩
      · simpa [at_k ▸ different] using valid.owner t own old
      · simp [at_k]
      · simp [same, at_k]
    · rw [lock_other mine] at member
      have theirs := valid.owner u own member
      have different : key own.base ≠ k := by
        intro same
        rw [same] at theirs
        rcases free with none_ | held
        · simp [none_] at theirs
        · exact mine (Option.some.inj (theirs.symm.trans held))
      simpa [different] using theirs
  · intro u own member
    by_cases mine : u = t
    · subst u
      rw [lock_self] at member
      rcases mem_hold member with ⟨old, _⟩ | ⟨rfl, fresh⟩ | ⟨other, old, _, rfl⟩
      · exact valid.based t own old
      · have base : row ∈ store.committed := visible_base seen fresh
        exact base
      · exact valid.based t other old
    · rw [lock_other mine] at member
      exact valid.based u own member
  · intro u
    by_cases mine : u = t
    · subst u
      rw [lock_self]
      exact hold_single (valid.single t)
    · rw [lock_other mine]
      exact valid.single u

theorem Consistent.visit (valid : Consistent store) (visited : store.visit t k = some store') :
    Consistent store' := by
  obtain ⟨_, _, _, free, ⟨rfl, _⟩ | ⟨_, seen, _, rfl⟩⟩ := visit_cases visited
  · exact valid.skip
  · exact valid.lock seen free

theorem commit_cases (committed : store.commit t = some store') :
    (store.transactions t).todo = [] ∧
      ∃ table, store' = store.finish t table ∧
        ((store.transactions t).inserted = none ∧
            table = store.committed.rewrite (pending (store.transactions t).held) ∨
          ∃ row, (store.transactions t).inserted = some row ∧
            (store.committed.rewrite (pending (store.transactions t).held)).insert row =
            some table) := by
  unfold commit at committed
  split at committed
  · rename_i visited
    refine ⟨visited, ?_⟩
    split at committed
    · rename_i none_
      cases committed
      exact ⟨_, rfl, .inl ⟨none_, rfl⟩⟩
    · rename_i row some_
      obtain ⟨table, grown, rfl⟩ := Option.map_eq_some_iff.mp committed
      exact ⟨table, rfl, .inr ⟨row, some_, grown⟩⟩
  · cases committed

/-- The rows a transaction's locks leave: untouched rows, and its own versions. -/
theorem mem_rewrite_pending (valid : Consistent store) :
    row ∈ store.committed.rewrite (pending (store.transactions t).held) ↔
      (row ∈ store.committed ∧ ∀ own ∈ (store.transactions t).held, key own.base ≠ key row) ∨
        ∃ own ∈ (store.transactions t).held, own.version = some row := by
  rw [KeyedTable.mem_rewrite]
  constructor
  · intro membership
    obtain ⟨old, member, left⟩ := membership
    by_cases locked : ∃ own ∈ (store.transactions t).held, key own.base = key old
    · obtain ⟨own, held, same⟩ := locked
      have one : own.base = old := KeyedTable.same_row (valid.based t own held) member same
      rw [pending_own (valid.single t) held same, ← one] at left
      exact .inr ⟨own, held, left⟩
    · push Not at locked
      rw [pending_free locked] at left
      cases left
      exact .inl ⟨member, locked⟩
  · intro membership
    rcases membership with ⟨member, free⟩ | ⟨own, held, left⟩
    · exact ⟨row, member, pending_free free⟩
    · exact ⟨own.base,
        valid.based t own held, by rw [pending_own (valid.single t) held rfl]; exact left⟩

/-- The table after a commit: what the locks leave, and the inserted row. -/
theorem mem_commit (valid : Consistent store) (committed : store.commit t = some store') :
    row ∈ store'.committed ↔
      (row ∈ store.committed ∧ ∀ own ∈ (store.transactions t).held, key own.base ≠ key row) ∨
        (∃ own ∈ (store.transactions t).held, own.version = some row) ∨
        (store.transactions t).inserted = some row := by
  obtain ⟨_, table, rfl, ⟨none_, rfl⟩ | ⟨new, some_, grown⟩⟩ := commit_cases committed
  · rw [finish_committed, mem_rewrite_pending valid]
    simp [none_]
  · rw [finish_committed, KeyedTable.mem_insert grown, mem_rewrite_pending valid, some_, or_assoc,
      Option.some.injEq, eq_comm (a := row)]

theorem commit_keeps_base (valid : Consistent store) (committed : store.commit t = some store')
    (other : u ≠ t) {own : Held key} (held : own ∈ (store.transactions u).held) :
    own.base ∈ store'.committed := by
  rw [mem_commit valid committed]
  refine .inl ⟨valid.based u own held, ?_⟩
  intro mine member same
  exact other (valid.exclusive held member same.symm)

theorem Consistent.commit (valid : Consistent store) (committed : store.commit t = some store') :
    Consistent store' := by
  have kept : ∀ u, u ≠ t → ∀ own ∈ (store.transactions u).held, own.base ∈ store'.committed :=
    fun _ other _ held => commit_keeps_base valid committed other held
  obtain ⟨_, table, rfl, _⟩ := commit_cases committed
  exact valid.finish kept

end Store

end OpenScale.Library.ReadCommitted
