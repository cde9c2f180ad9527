import OpenScale.Library.Fallible

/-! What a query answers to a loop over its rows: it can fail at once, at any row, or after the last
one. -/

namespace OpenScale.Library

structure Answer (Row : Type) where
  query : Except String Unit
  /-- What `Scan` makes of each row that `Next` finds. -/
  rows : List (Except String Row)
  err : Except String Unit

namespace Answer

variable {Row State : Type}

/-- The loop, with what is said of a query that fails and of a row that cannot be scanned. -/
def collect (answer : Answer Row) (querying scanning : String) (step : State → Row → State)
    (start : State) : Except String State := do
  answer.query.mapError (querying ++ ": " ++ ·)
  let last ← answer.rows.foldlM
      (fun state row => do return step state (← row.mapError (scanning ++ ": " ++ ·))) start
  answer.err
  return last

/-- These rows, and no failure. -/
structure Returns (answer : Answer Row) (rows : List Row) : Prop where
  query : answer.query = .ok ()
  rows : answer.rows = rows.map .ok
  err : answer.err = .ok ()

def of (rows : List Row) : Answer Row := ⟨.ok (), rows.map .ok, .ok ()⟩

theorem of_returns (rows : List Row) : (of rows).Returns rows := ⟨rfl, rfl, rfl⟩

theorem Returns.unique {answer : Answer Row} {rows others : List Row} (one : answer.Returns rows)
    (other : answer.Returns others) : rows = others :=
  List.map_injective_iff.mpr (fun _ _ same => Except.ok.inj same) (one.rows.symm.trans other.rows)

theorem foldlM_eq_ok {scanning : String} {step : State → Row → State} {start last : State}
    {scanned : List (Except String Row)} :
    scanned.foldlM
      (fun state row => do return step state (← row.mapError (scanning ++ ": " ++ ·))) start =
      .ok last ↔
      ∃ rows : List Row, scanned = rows.map .ok ∧ rows.foldl step start = last := by
  induction scanned generalizing start with
  | nil =>
    constructor
    · intro done
      cases done
      exact ⟨[], rfl, rfl⟩
    · rintro ⟨rows, none_, rfl⟩
      rw [List.map_eq_nil_iff.mp none_.symm]
      rfl
  | cons row scanned ih =>
    rw [List.foldlM_cons]
    cases row with
    | error error =>
      constructor
      · intro done
        cases done
      · rintro ⟨rows, same, _⟩
        cases rows <;> cases same
    | ok row =>
      refine (@ih (step start row)).trans ?_
      constructor
      · rintro ⟨rows, rfl, rfl⟩
        exact ⟨row :: rows, rfl, rfl⟩
      · rintro ⟨rows, same, rfl⟩
        cases rows with
        | nil => cases same
        | cons first rows =>
          obtain ⟨rfl, rfl⟩ : row = first ∧ scanned = rows.map .ok := by simpa using same
          exact ⟨rows, rfl, rfl⟩

/-- The loop gets to its end when nothing fails, and has seen all rows then. -/
theorem collect_eq_ok {answer : Answer Row} {querying scanning : String}
    {step : State → Row → State}
    {start last : State} : answer.collect querying scanning step start = .ok last ↔
      ∃ rows, answer.Returns rows ∧ rows.foldl step start = last := by
  constructor
  · intro done
    obtain ⟨_, queried, done⟩ := bind_eq_ok.mp done
    obtain ⟨state, folded, done⟩ := bind_eq_ok.mp done
    obtain ⟨_, ended, same⟩ := bind_eq_ok.mp done
    cases same
    obtain ⟨rows, scanned, rfl⟩ := foldlM_eq_ok.mp folded
    exact ⟨rows, ⟨mapError_eq_ok.mp queried, scanned, ended⟩, rfl⟩
  · rintro ⟨rows, returns, rfl⟩
    refine bind_eq_ok.mpr ⟨(), mapError_eq_ok.mpr returns.query,
      bind_eq_ok.mpr ⟨rows.foldl step start, ?_, ?_⟩⟩
    · exact foldlM_eq_ok.mpr ⟨rows, returns.rows, rfl⟩
    · exact bind_eq_ok.mpr ⟨(), returns.err, rfl⟩

end Answer

end OpenScale.Library
