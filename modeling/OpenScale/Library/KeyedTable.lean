import Mathlib.Data.List.Nodup

/-! Tables with a primary key, and the row operations of SQL over them. The
uniqueness of the key is a field, so no operation can produce a table without it. -/

namespace OpenScale.Library

universe u v

variable {Row : Type u} {Key : Type v} {key : Row → Key}

/-- What a statement makes of a row: a new version, or nothing. It never writes the key. -/
structure Change (key : Row → Key) where
  apply : Row → Option Row
  keeps : ∀ {row left}, apply row = some left → key left = key row

namespace Change

/-- SELECT ... FOR UPDATE: the row is left as it is. -/
def keep : Change key := ⟨some, by rintro _ _ ⟨⟩; rfl⟩

/-- UPDATE ... SET. -/
def write (assign : Row → Row) (keeps : ∀ row, key (assign row) = key row) : Change key :=
  ⟨fun row => some (assign row), by rintro row _ ⟨⟩; exact keeps row⟩

/-- DELETE. -/
def delete : Change key := ⟨fun _ => none, by rintro _ _ ⟨⟩⟩

/-- WHERE: the rows that are not selected stay. -/
def onlyWhere (selects : Row → Bool) (change : Change key) : Change key where
  apply row := if selects row then change.apply row else some row
  keeps := by
    intro row left applied
    split at applied
    · exact change.keeps applied
    · cases applied
      rfl

/-- Two statements of one transaction on the same row. -/
def andThen (first second : Change key) : Change key where
  apply row := (first.apply row).bind second.apply
  keeps := by
    intro row left applied
    obtain ⟨middle, before, after⟩ := Option.bind_eq_some_iff.mp applied
    exact (second.keeps after).trans (first.keeps before)

@[simp] theorem keep_apply (row : Row) : (keep : Change key).apply row = some row := rfl

@[simp] theorem write_apply {assign : Row → Row} {keeps : ∀ row, key (assign row) = key row}
    (row : Row) : (write assign keeps).apply row = some (assign row) := rfl

@[simp] theorem delete_apply (row : Row) : (delete : Change key).apply row = none := rfl

@[simp] theorem onlyWhere_apply (selects : Row → Bool) (change : Change key) (row : Row) :
    (change.onlyWhere selects).apply row = if selects row then change.apply row else some row := rfl

@[simp] theorem andThen_apply (first second : Change key) (row : Row) :
    (first.andThen second).apply row = (first.apply row).bind second.apply := rfl

end Change

/-- An UPDATE, a DELETE or a SELECT ... FOR UPDATE. -/
structure Statement (key : Row → Key) where
  selects : Row → Bool
  change : Change key

/-- Rows in storage order, no two of them with the same key. -/
structure KeyedTable (key : Row → Key) where
  rows : List Row
  unique : (rows.map key).Nodup

namespace KeyedTable

variable {row other : Row} {k : Key} {table : KeyedTable key}

instance : Membership Row (KeyedTable key) where
  mem table row := row ∈ table.rows

@[simp] theorem mem_rows : row ∈ table.rows ↔ row ∈ table := Iff.rfl

def empty (key : Row → Key) : KeyedTable key := ⟨[], List.nodup_nil⟩

@[simp] theorem not_mem_empty : row ∉ empty key := List.not_mem_nil

theorem same_row (first : row ∈ table) (second : other ∈ table) (same : key row = key other) :
    row = other :=
  List.inj_on_of_nodup_map table.unique first second same

/-- UPDATE and DELETE: every row becomes what the change leaves of it. -/
def rewrite (table : KeyedTable key) (change : Change key) : KeyedTable key where
  rows := table.rows.filterMap change.apply
  unique := by
    have kept : ∀ rows : List Row,
        ((rows.filterMap change.apply).map key).Sublist (rows.map key) := by
      intro rows
      induction rows with
      | nil => exact List.Sublist.refl _
      | cons row rows ih =>
        cases left : change.apply row with
        | none => simpa [left] using ih.cons (key row)
        | some next => simpa [left, change.keeps left] using ih
    exact table.unique.sublist (kept table.rows)

theorem mem_rewrite {change : Change key} :
    row ∈ table.rewrite change ↔ ∃ old ∈ table, change.apply old = some row :=
  List.mem_filterMap

def exec (table : KeyedTable key) (statement : Statement key) : KeyedTable key :=
  table.rewrite (statement.change.onlyWhere statement.selects)

theorem mem_exec {statement : Statement key} : row ∈ table.exec statement ↔
    (row ∈ table ∧ statement.selects row = false) ∨
      ∃ old ∈ table, statement.selects old = true ∧ statement.change.apply old = some row := by
  rw [exec, mem_rewrite]
  constructor
  · intro membership
    obtain ⟨old, member, left⟩ := membership
    by_cases selected : statement.selects old = true
    · exact .inr ⟨old, member, selected, by simpa [selected] using left⟩
    · have same : old = row := by simpa [selected] using left
      subst same
      exact .inl ⟨member, by simpa using selected⟩
  · intro membership
    rcases membership with ⟨member, passed⟩ | ⟨old, member, selected, left⟩
    · exact ⟨row, member, by simp [passed]⟩
    · exact ⟨old, member, by simpa [selected] using left⟩

/-- A statement that deletes nothing leaves each row in its place, as it is or written. -/
theorem forall₂_exec {statement : Statement key} {related : Row → Row → Prop}
    (left : ∀ row, related row row) (written : ∀ row ∈ table, statement.selects row = true →
      ∃ new, statement.change.apply row = some new ∧ related row new) :
    List.Forall₂ related table.rows (table.exec statement).rows := by
  have each : ∀ row ∈ table.rows, ∃ new,
      (statement.change.onlyWhere statement.selects).apply row = some new ∧ related row new := by
    intro row member
    by_cases selected : statement.selects row = true
    · obtain ⟨new, changed, fits⟩ := written row member selected
      exact ⟨new, by simp [selected, changed], fits⟩
    · exact ⟨row, by simp [selected], left row⟩
  have whole : ∀ rows : List Row, (∀ row ∈ rows, row ∈ table.rows) →
      List.Forall₂ related rows
        (rows.filterMap (statement.change.onlyWhere statement.selects).apply) := by
    intro rows inside
    induction rows with
    | nil => exact .nil
    | cons row rows ih =>
      obtain ⟨new, changed, fits⟩ := each row (inside row List.mem_cons_self)
      rw [List.filterMap_cons_some changed]
      exact .cons fits (ih fun other member => inside other (List.mem_cons_of_mem _ member))
  exact whole table.rows fun _ member => member

def rowcount (table : KeyedTable key) (statement : Statement key) : Nat :=
  table.rows.countP statement.selects

theorem rowcount_pos {statement : Statement key} :
    0 < table.rowcount statement ↔ ∃ row ∈ table, statement.selects row = true :=
  List.countP_pos_iff

theorem exec_unmatched {statement : Statement key} (unmatched : ¬ 0 < table.rowcount statement) :
    table.exec statement = table := by
  have passed : ∀ row ∈ table.rows, statement.selects row = false := by
    intro row member
    by_contra selected
    exact unmatched (rowcount_pos.mpr ⟨row, member, by simpa using selected⟩)
  have same : table.rows.filterMap (statement.change.onlyWhere statement.selects).apply =
      table.rows := by
    rw [List.filterMap_congr (g := some) fun row member => by simp [passed row member]]
    exact List.filterMap_some
  obtain ⟨rows, unique⟩ := table
  exact KeyedTable.mk.injEq .. ▸ same

/-- RETURNING: the new versions of the matched rows. -/
def returning (table : KeyedTable key) (statement : Statement key) : List Row :=
  (table.rows.filter statement.selects).filterMap statement.change.apply

theorem mem_returning {statement : Statement key} : row ∈ table.returning statement ↔
    ∃ old ∈ table, statement.selects old = true ∧ statement.change.apply old = some row := by
  simp [returning, and_assoc]

variable [DecidableEq Key]

/-- INSERT, refused when the key is taken. -/
def insert (table : KeyedTable key) (row : Row) : Option (KeyedTable key) :=
  if fresh : key row ∈ table.rows.map key then none
  else some ⟨table.rows ++ [row], by
    rw [List.map_append, List.nodup_append]
    refine ⟨table.unique, by simp, ?_⟩
    rintro k old _ new rfl
    exact fresh (List.mem_singleton.mp new ▸ old)⟩

theorem insert_fresh {new : Row} (fresh : ∀ row ∈ table, key row ≠ key new) :
    ∃ grown, table.insert new = some grown := by
  have unused : key new ∉ table.rows.map key := by
    intro used
    obtain ⟨row, member, same⟩ := List.mem_map.mp used
    exact fresh row member same
  exact ⟨_, dif_neg unused⟩

theorem mem_insert {grown : KeyedTable key} {new : Row} (inserted : table.insert new = some grown) :
    row ∈ grown ↔ row ∈ table ∨ row = new := by
  unfold insert at inserted
  split at inserted
  · cases inserted
  · cases inserted
    change row ∈ table.rows ++ [new] ↔ _
    simp

theorem rows_insert {grown : KeyedTable key} {new : Row}
    (inserted : table.insert new = some grown) : grown.rows = table.rows ++ [new] := by
  unfold insert at inserted
  split at inserted
  · cases inserted
  · cases inserted
    rfl

/-- SELECT by key. -/
def find? (table : KeyedTable key) (k : Key) : Option Row :=
  table.rows.find? fun row => key row = k

theorem find?_eq_some : table.find? k = some row ↔ row ∈ table ∧ key row = k := by
  constructor
  · intro found
    exact ⟨List.mem_of_find?_eq_some found, by simpa using List.find?_some found⟩
  · intro membership
    obtain ⟨member, rfl⟩ := membership
    cases found : table.find? (key row) with
    | none =>
      have absent := List.find?_eq_none.mp found row member
      simp at absent
    | some other =>
      have same : key other = key row := by simpa using List.find?_some found
      rw [same_row (List.mem_of_find?_eq_some found) member same]

end KeyedTable

end OpenScale.Library
