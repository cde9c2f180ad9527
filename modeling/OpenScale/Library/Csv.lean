import Mathlib.Data.List.Basic

/-! Comma-separated values as RFC 4180 has them: records between line breaks, fields between commas,
and quoted fields in which a quote is doubled. The reader is an automaton over any alphabet. -/

namespace OpenScale.Library

universe u

/-- The four symbols that mean something. -/
structure CsvAlphabet (Symbol : Type u) where
  comma : Symbol
  quote : Symbol
  cr : Symbol
  lf : Symbol
  distinct : [comma, quote, cr, lf].Nodup

namespace Csv

variable {Symbol : Type u} [DecidableEq Symbol] (alphabet : CsvAlphabet Symbol)

abbrev Record (Symbol : Type u) := List (List Symbol)

def isSpecial (c : Symbol) : Bool :=
  c = alphabet.comma || c = alphabet.quote || c = alphabet.cr || c = alphabet.lf

/-- Every quote twice. -/
def double (field : List Symbol) : List Symbol :=
  field.flatMap fun c => if c = alphabet.quote then [c, c] else [c]

/-- A field as it is written: quoted if it holds a special symbol. -/
def escape (field : List Symbol) : List Symbol :=
  if field.any (isSpecial alphabet) then alphabet.quote ::
    (double alphabet field ++ [alphabet.quote]) else field

def writeRecord (record : Record Symbol) : List Symbol :=
  [alphabet.comma].intercalate (record.map (escape alphabet))

/-- A line break between two records. -/
def write (records : List (Record Symbol)) : List Symbol :=
  [alphabet.cr, alphabet.lf].intercalate (records.map (writeRecord alphabet))

/-- Where the reader is in a field. -/
inductive Place where
  | start
  | plain
  | quoted
  /-- After a quote that ends the field, unless it is doubled. -/
  | closed
  /-- After a carriage return. -/
  | ended
  deriving DecidableEq

structure Reader (Symbol : Type u) where
  place : Place
  /-- The field that is being read, the fields of its record before it, and the records before
  that. -/
  field : List Symbol
  record : Record Symbol
  records : List (Record Symbol)

/-- What may follow a field. -/
def delimit (reader : Reader Symbol) (c : Symbol) : Option (Reader Symbol) :=
  if c = alphabet.comma then some ⟨.start, [], reader.record ++ [reader.field], reader.records⟩
  else if c = alphabet.cr then some { reader with place := .ended }
  else none

def readPlain (reader : Reader Symbol) (c : Symbol) : Option (Reader Symbol) :=
  if isSpecial alphabet c then delimit alphabet reader c
  else some { reader with place := .plain, field := reader.field ++ [c] }

def readSymbol (reader : Reader Symbol) (c : Symbol) : Option (Reader Symbol) :=
  match reader.place with
  | .start => if c = alphabet.quote then some { reader with place := .quoted }
  else readPlain alphabet reader c
  | .plain => readPlain alphabet reader c
  | .quoted =>
    if c = alphabet.quote then some { reader with place := .closed }
    else some { reader with field := reader.field ++ [c] }
  | .closed =>
    if c = alphabet.quote then some { reader with place := .quoted, field := reader.field ++ [c] }
    else delimit alphabet reader c
  | .ended =>
    if c = alphabet.lf then
      some ⟨.start, [], [], reader.records ++ [reader.record ++ [reader.field]]⟩ else none

/-- The end of the text. A line break before it is that of the last record. -/
def finish (reader : Reader Symbol) : Option (List (Record Symbol)) :=
  match reader.place with
  | .start =>
    if reader.record = [] ∧ reader.records ≠ [] then some reader.records
    else some (reader.records ++ [reader.record ++ [reader.field]])
  | .plain | .closed => some (reader.records ++ [reader.record ++ [reader.field]])
  | .quoted | .ended => none

def readFrom (reader : Reader Symbol) (text : List Symbol) : Option (Reader Symbol) :=
  text.foldlM (readSymbol alphabet) reader

/-- The records of a text; none when it is not well formed. -/
def read (text : List Symbol) : Option (List (Record Symbol)) :=
  (readFrom alphabet ⟨.start, [], [], []⟩ text).bind finish

variable {alphabet} {reader : Reader Symbol} {field : List Symbol} {record : Record Symbol}
variable {records : List (Record Symbol)}

theorem readFrom_append (front back : List Symbol) : readFrom alphabet reader (front ++ back) =
    (readFrom alphabet reader front).bind fun reader => readFrom alphabet reader back := by
  rw [readFrom, List.foldlM_append]
  rfl

theorem readFrom_cons (c : Symbol) (text : List Symbol) : readFrom alphabet reader (c :: text) =
    (readSymbol alphabet reader c).bind fun reader => readFrom alphabet reader text := by
  rw [readFrom, List.foldlM_cons]
  rfl

omit [DecidableEq Symbol] in
theorem apart (alphabet : CsvAlphabet Symbol) : alphabet.comma ≠ alphabet.quote ∧
    alphabet.cr ≠ alphabet.quote ∧ alphabet.cr ≠ alphabet.comma := by
  have distinct := alphabet.distinct
  simp only [List.nodup_cons, List.mem_cons, not_or, List.not_mem_nil] at distinct
  exact ⟨distinct.1.1, Ne.symm distinct.2.1.1, Ne.symm distinct.1.2.1⟩

/-- Between its quotes a field is read as it was before the quotes in it were doubled. -/
theorem readFrom_double (field before : List Symbol) :
    readFrom alphabet ⟨.quoted, before, record, records⟩ (double alphabet field) =
      some ⟨.quoted, before ++ field, record, records⟩ := by
  induction field generalizing before with
  | nil => simp [double, readFrom]
  | cons c field ih =>
    have later := (ih (before ++ [c])).trans (by rw [List.append_assoc, List.singleton_append])
    rw [double, List.flatMap_cons]
    by_cases quotes : c = alphabet.quote
    · rw [if_pos quotes, List.cons_append, List.singleton_append, readFrom_cons]
      simp only [readSymbol, if_pos quotes, Option.bind_some]
      rw [readFrom_cons]
      simp only [readSymbol, if_pos quotes, Option.bind_some]
      exact later
    · rw [if_neg quotes, List.singleton_append, readFrom_cons]
      simp only [readSymbol, if_neg quotes, Option.bind_some]
      exact later

theorem readSymbol_plain {place : Place} {c : Symbol} (outside : place = .start ∨ place = .plain)
    (ordinary : isSpecial alphabet c = false) (before : List Symbol) :
    readSymbol alphabet ⟨place, before, record, records⟩ c = some
      ⟨.plain, before ++ [c], record, records⟩ := by
  have unquoted : c ≠ alphabet.quote := by
    rintro rfl
    simp [isSpecial] at ordinary
  rcases outside with rfl | rfl
  · simp [readSymbol, readPlain, unquoted, ordinary]
  · simp [readSymbol, readPlain, ordinary]

theorem readFrom_plain (ordinary : ∀ c ∈ field, isSpecial alphabet c = false)
    (before : List Symbol) : readFrom alphabet ⟨.plain, before, record, records⟩ field =
      some ⟨.plain, before ++ field, record, records⟩ := by
  induction field generalizing before with
  | nil => simp [readFrom]
  | cons c field ih =>
    rw [readFrom_cons, readSymbol_plain (.inr rfl) (ordinary c (List.mem_cons_self ..)),
      Option.bind_some]
    refine (ih (fun other member => ordinary other (List.mem_cons_of_mem c member))
      (before ++ [c])).trans ?_
    rw [List.append_assoc, List.singleton_append]

def after (alphabet : CsvAlphabet Symbol) (field : List Symbol) : Place :=
  if field.any (isSpecial alphabet) then .closed else if field = [] then .start else .plain

theorem readFrom_escape (field : List Symbol) :
    readFrom alphabet ⟨.start, [], record, records⟩ (escape alphabet field) =
      some ⟨after alphabet field, field, record, records⟩ := by
  unfold escape after
  split
  · rw [readFrom_cons]
    simp only [readSymbol, if_true, Option.bind_some]
    rw [readFrom_append, readFrom_double, Option.bind_some, readFrom_cons]
    simp [readSymbol, readFrom]
  next ordinary =>
    cases field with
    | nil => rfl
    | cons c field =>
      have each : ∀ other ∈ c :: field, isSpecial alphabet other = false := by simpa using ordinary
      rw [readFrom_cons, readSymbol_plain (.inl rfl) (each c (List.mem_cons_self ..)),
        Option.bind_some,
        readFrom_plain fun other member => each other (List.mem_cons_of_mem c member)]
      rfl

/-- A symbol that may follow a field does, wherever the field has left the reader. -/
theorem readSymbol_after {c : Symbol} (special : isSpecial alphabet c = true)
    (unquoted : c ≠ alphabet.quote)
    (field : List Symbol) : readSymbol alphabet ⟨after alphabet field, field, record, records⟩ c =
      delimit alphabet ⟨after alphabet field, field, record, records⟩ c := by
  unfold after
  split
  · simp [readSymbol, unquoted]
  split
  · simp [readSymbol, readPlain, unquoted, special]
  · simp [readSymbol, readPlain, special]

theorem readFrom_record (front : Record Symbol) (last : List Symbol) (before : Record Symbol) :
    readFrom alphabet ⟨.start, [], before, records⟩ (writeRecord alphabet (front ++ [last])) =
      some ⟨after alphabet last, last, before ++ front, records⟩ := by
  induction front generalizing before with
  | nil => simpa [writeRecord] using readFrom_escape last
  | cons field front ih =>
    have delimited : readSymbol alphabet ⟨after alphabet field, field, before,
        records⟩ alphabet.comma = some ⟨.start, [], before ++ [field], records⟩ := by
      rw [readSymbol_after (by simp [isSpecial]) (apart alphabet).1]
      exact if_pos rfl
    have rest : (front ++ [last]).map (escape alphabet) ≠ [] := by simp
    rw [List.cons_append, writeRecord, List.map_cons, List.intercalate_cons_of_ne_nil rest,
      List.append_assoc,
      readFrom_append, readFrom_escape, Option.bind_some, List.singleton_append,
      readFrom_cons, delimited, Option.bind_some]
    refine (ih (before ++ [field])).trans ?_
    rw [List.append_assoc, List.singleton_append]

theorem readFrom_write (front : List (Record Symbol)) (filled : ∀ record ∈ front, record ≠ [])
    (init : Record Symbol) (last : List Symbol) (before : List (Record Symbol)) :
    readFrom alphabet ⟨.start, [], [], before⟩ (write alphabet (front ++ [init ++ [last]])) =
      some ⟨after alphabet last, last, init, before ++ front⟩ := by
  induction front generalizing before with
  | nil => simpa [write] using readFrom_record init last []
  | cons record front ih =>
    obtain ⟨fields, field, rfl⟩ :=
      List.eq_nil_or_concat' record |>.resolve_left (filled record (by simp))
    have broken : readSymbol alphabet ⟨after alphabet field, field, fields, before⟩ alphabet.cr =
        some ⟨.ended, field, fields, before⟩ := by
      rw [readSymbol_after (by simp [isSpecial]) (apart alphabet).2.1, delimit,
        if_neg (apart alphabet).2.2, if_pos rfl]
    have rest : (front ++ [init ++ [last]]).map (writeRecord alphabet) ≠ [] := by simp
    rw [List.cons_append, write, List.map_cons, List.intercalate_cons_of_ne_nil rest,
      List.append_assoc,
      readFrom_append, readFrom_record, Option.bind_some, List.nil_append, List.cons_append,
      readFrom_cons, broken, Option.bind_some, List.singleton_append, readFrom_cons]
    simp only [readSymbol, if_true, Option.bind_some]
    refine (ih (fun record member => filled record (List.mem_cons_of_mem _ member)) _).trans ?_
    rw [List.append_assoc, List.singleton_append]

theorem finish_after (field : List Symbol) (init : Record Symbol) :
    finish ⟨after alphabet field, field, init, records⟩ =
      some (if records ≠ [] ∧ init ++ [field] = [[]] then records
        else records ++ [init ++ [field]]) := by
  have lone : init ++ [field] = [[]] ↔ init = [] ∧ field = [] := by cases init <;> simp
  unfold after
  split
  · have filled : field ≠ [] := by rintro rfl; simp_all
    simp [finish, lone, filled]
  split
  next empty => simp [finish, empty, and_comm, apply_ite some]
  next filled => simp [finish, lone, filled]

/-- The records come back, but for an empty last one: the line break before it is taken for that of
the record before. -/
theorem read_write (front : List (Record Symbol)) (last : Record Symbol)
    (filled : ∀ record ∈ front ++ [last], record ≠ []) :
    read alphabet (write alphabet (front ++ [last])) =
      some (if front ≠ [] ∧ last = [[]] then front else front ++ [last]) := by
  obtain ⟨init, field, rfl⟩ := List.eq_nil_or_concat' last |>.resolve_left (filled last (by simp))
  have earlier : ∀ record ∈ front, record ≠ [] := fun record member =>
    filled record (List.mem_append_left _ member)
  rw [read, readFrom_write front earlier, Option.bind_some, List.nil_append, finish_after]

end Csv

end OpenScale.Library
