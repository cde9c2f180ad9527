import OpenScale.Library.Csv
import OpenScale.Library.JsValue

/-! The export button of the results table: the CSV text that the frontend builds, and what a reader
of RFC 4180 gets from it. -/

namespace OpenScale.Query

open OpenScale.Library

/-- None when it is undefined. -/
abbrev Cell := Option JsValue

/-- `String` of a value that is neither missing nor an object. -/
def stringOf : JsValue → JsString
  | .bool value => jsText (if value then "true" else "false")
  | .number value => utf16 value.toText
  | .string text => text
  | value => value.stringify

def csvCellValue : Cell → JsString
  | none => []
  | some .null => []
  | some (.array items) => (JsValue.array items).stringify
  | some (.object fields) => (JsValue.object fields).stringify
  | some value => stringOf value

/-- `/[",\r\n]/` -/
def hasSpecial (field : JsString) : Bool := field.any fun unit => [34, 44, 13, 10].contains unit

/-- `replace(/"/g, '""')` -/
def doubleQuotes (field : JsString) : JsString :=
  field.flatMap fun unit => if unit = 34 then [34, 34] else [unit]

def escapeCsvField (field : JsString) : JsString :=
  if hasSpecial field then 34 :: (doubleQuotes field ++ [34]) else field

def buildCsv (columns : List JsString) (rows : List (List Cell)) : JsString :=
  let lines := rows.foldl
    (fun lines row =>
      lines ++ [[44].intercalate (row.map fun cell => escapeCsvField (csvCellValue cell))])
    [[44].intercalate (columns.map escapeCsvField)]
  [13, 10].intercalate lines

/-- The comma, the quote and the line break in code units. -/
def rfc4180 : CsvAlphabet Nat := ⟨44, 34, 13, 10, by decide⟩

def exported (columns : List JsString) (rows : List (List Cell)) : List (Csv.Record Nat) :=
  columns :: rows.map fun row => row.map csvCellValue

def isEmptyCell : Cell → Bool
  | none => true
  | some .null => true
  | some (.string text) => text.isEmpty
  | some _ => false

/-- There is one column, and its last cell is blank. -/
def EndsBlank (columns : List JsString) (rows : List (List Cell)) : Prop :=
  columns.length = 1 ∧ ∃ row, rows.getLast? = some row ∧ row.all isEmptyCell

theorem escapeCsvField_eq : escapeCsvField = Csv.escape rfc4180 := by
  funext field
  have special : hasSpecial field = field.any (Csv.isSpecial rfc4180) := by
    refine congrArg field.any (funext fun unit => Bool.eq_iff_iff.mpr ?_)
    change [34, 44, 13, 10].contains unit = true ↔
      (decide (unit = 44) || decide (unit = 34) || decide (unit = 13) || decide (unit = 10)) = true
    simp only [List.contains_iff_mem, List.mem_cons, List.not_mem_nil, Bool.or_eq_true,
      decide_eq_true_eq]
    tauto
  have doubled : doubleQuotes field = Csv.double rfc4180 field := by
    refine congrArg (List.flatMap · field) (funext fun unit => ?_)
    split
    next quotes => simp [quotes, rfc4180]
    next other => simp [other, rfc4180]
  rw [escapeCsvField, Csv.escape, special, doubled]
  rfl

theorem buildCsv_eq_write (columns : List JsString) (rows : List (List Cell)) :
    buildCsv columns rows = Csv.write rfc4180 (exported columns rows) := by
  have lines : ∀ (rows : List (List Cell)) (before : List JsString),
      rows.foldl (fun lines row =>
        lines ++ [[44].intercalate (row.map fun cell => escapeCsvField (csvCellValue cell))])
          before =
        before ++ (rows.map fun row => row.map csvCellValue).map (Csv.writeRecord rfc4180) := by
    intro rows
    induction rows with
    | nil => intro before; simp
    | cons row rows ih =>
      intro before
      rw [List.foldl_cons, ih, List.append_assoc]
      simp [Csv.writeRecord, escapeCsvField_eq, rfc4180, Function.comp_def]
  rw [buildCsv, lines, exported, Csv.write, List.map_cons, escapeCsvField_eq]
  rfl

theorem csvCellValue_eq_nil (cell : Cell) : csvCellValue cell = [] ↔ isEmptyCell cell = true := by
  match cell with
  | none => simp [csvCellValue, isEmptyCell]
  | some .null => simp [csvCellValue, isEmptyCell]
  | some (.bool value) =>
    cases value <;> simp [csvCellValue, isEmptyCell, stringOf, jsText, utf16_ne_nil]
  | some (.number value) =>
    simp [csvCellValue, isEmptyCell, stringOf, utf16_ne_nil (toText_ne_nil value)]
  | some (.string text) => simp [csvCellValue, isEmptyCell, stringOf]
  | some (.array items) => simp [csvCellValue, isEmptyCell, JsValue.stringify, utf16_ne_nil]
  | some (.object fields) => simp [csvCellValue, isEmptyCell, JsValue.stringify, utf16_ne_nil]

/-- A last row is lost when all that it writes is one empty field. -/
theorem endsBlank_concat {columns : List JsString} {row : List Cell}
    (whole : row.length = columns.length)
    (rows : List (List Cell)) : EndsBlank columns (rows ++ [row]) ↔
    row.map csvCellValue = [[]] := by
  rw [EndsBlank, List.getLast?_concat, ← whole]
  constructor
  · rintro ⟨single, _, ⟨⟩, blank⟩
    obtain ⟨cell, rfl⟩ := List.length_eq_one_iff.mp single
    rw [List.map_singleton, (csvCellValue_eq_nil cell).mpr (by simpa using blank)]
  · intro empty
    obtain ⟨cell, rfl, value⟩ := List.map_eq_singleton_iff.mp empty
    exact ⟨rfl, _, rfl, by simpa using (csvCellValue_eq_nil cell).mp value⟩

/-- What is exported is read back, unless the text ends with the line break before an empty
record. -/
theorem export_lossless_iff (columns : List JsString) (rows : List (List Cell))
    (named : columns ≠ []) (whole : ∀ row ∈ rows, row.length = columns.length) :
    Csv.read rfc4180 (buildCsv columns rows) = some (exported columns rows) ↔
    ¬ EndsBlank columns rows := by
  have filled : ∀ record ∈ exported columns rows, record ≠ [] := by
    intro record member
    rcases List.mem_cons.mp member with rfl | member
    · exact named
    · obtain ⟨row, inRows, rfl⟩ := List.mem_map.mp member
      have some_ := List.length_pos_iff.mpr named
      rw [← List.length_pos_iff, List.length_map, whole row inRows]
      exact some_
  rw [buildCsv_eq_write]
  rcases List.eq_nil_or_concat' rows with rfl | ⟨rows, row, rfl⟩
  · have alone := @Csv.read_write _ _ rfc4180 [] columns (by simpa using named)
    rw [exported, List.map_nil, ← List.nil_append [columns], alone]
    simp [EndsBlank]
  · have split : exported columns (rows ++ [row]) = exported columns rows ++
        [row.map csvCellValue] := by
      simp [exported]
    rw [split, Csv.read_write _ _ (split ▸ filled), endsBlank_concat (whole row (by simp))]
    by_cases empty : row.map csvCellValue = [[]]
    · simp [empty, exported]
    · simp [empty]

theorem export_lossless_iff_blankBetween :
    Csv.read rfc4180 (buildCsv [jsText "a"] [[some .null], [some (.string (jsText "x,\""))]]) =
      some (exported [jsText "a"] [[some .null], [some (.string (jsText "x,\""))]]) := by
  refine (export_lossless_iff _ _ (by decide) (by simp)).mpr ?_
  rintro ⟨_, row, last, blank⟩
  cases last
  revert blank
  decide

theorem blank_row_lost : ¬ ∀ (columns : List JsString) (rows : List (List Cell)), columns ≠ [] →
    (∀ row ∈ rows, row.length = columns.length) →
    Csv.read rfc4180 (buildCsv columns rows) = some (exported columns rows) := by
  intro lossless
  have kept := lossless [jsText "a"] [[some .null]] (by decide) (by simp)
  have lost : Csv.read rfc4180 (buildCsv [jsText "a"] [[some .null]]) = some [[jsText "a"]] := by
    decide
  rw [lost] at kept
  exact absurd kept (by simp [exported])

end OpenScale.Query
