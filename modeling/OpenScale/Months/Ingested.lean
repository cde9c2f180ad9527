import Mathlib.Data.Set.Card
import OpenScale.ControlPlane.Submit
import OpenScale.Months.Range
import OpenScale.Worker.Fated

/-! The months-ingested figure: what the control-plane counts from the params of the ingest runs,
and what those runs have written. -/

namespace OpenScale.Months

open OpenScale.Library OpenScale.Jobs OpenScale.Worker Instant

/-- `foldRune` of `encoding/json`, as far as ASCII is concerned: the other letters fold among
themselves. -/
def foldRune (c : Char) : Char :=
  if 'a' ≤ c ∧ c ≤ 'z' then Char.ofNat (c.toNat - 32)
  else if c.toNat = 0x17F then 'S'
  else if c.toNat = 0x212A then 'K'
  else c

def foldName (name : String) : List Char := name.toList.map foldRune

/-- A text field of the struct. Every field of the object that folds to its name is assigned to it;
null leaves it as it was, and another value is an error. -/
def decodeField (name : String) (fields : List (String × Json)) : Option String :=
  fields.foldl (fun read field =>
    if foldName field.1 = foldName name then
      match field.2 with
      | .string text => read.map fun _ => text
      | .null => read
      | _ => none
    else read) (some "")

/-- `json.Unmarshal` of the params: Start and End. -/
def decodeParams : Json → Option (String × String)
  | .null => some ("", "")
  | .object fields => do return (← decodeField "start" fields, ← decodeField "end" fields)
  | _ => none

/-- The rows that the query selects. -/
def isCounted (row : JobRun) : Bool :=
  row.jobType == "ingest" && (row.status == .succeeded || row.status == .partialSuccess)

/-- The months of one row; none when its params are malformed. -/
def monthsOf (params : Json) : List String :=
  match decodeParams params with
  | none => []
  | some (start, finish) => expandMonthRange start finish

/-- The loop of `IngestedMonthsCount`, with the map that it fills. -/
def collectMonths (months : Finset String) (rows : List JobRun) : Finset String :=
  rows.foldl (fun months row =>
    (monthsOf row.params).foldl (fun months m => insert m months) months) months

def ingestedMonthsCount (rows : List JobRun) : Nat := (collectMonths ∅ (rows.filter isCounted)).card

/-- The services with a ledger beside them: the months whose upload has come back. -/
def watched {Outside : Type} (services : Services Outside) :
    Services (List (Int × Int) × Outside) :=
  { services.beside (List (Int × Int)) with
    upload := fun df year month => do
      let path ← (services.upload df year month).outer
      Program.modify fun (ledger, outside) => (ledger ++ [(year, month)], outside)
      return path }

/-- An ingest run that has returned and is recorded, with what it has written. -/
structure IngestRun where
  row : JobRun
  Outside : Type
  services : Services Outside
  onLogLine : OnLogLine Outside
  outside : Outside
  after : Outside
  /-- The params as the worker got them: those of the row, and the run's own id. -/
  params : Json
  result : Result
  /-- The months that it reported OK: their Bronze objects are written. -/
  months : List (Int × Int)
  isIngest : row.jobType = "ingest"
  passed : ∀ name text, name ≠ "job_id" →
    (Python.get row.params name = .ok (.string text) ↔ Python.get params name = .ok (.string text))
  ran : ingest (watched services) params (fun line => (onLogLine line).outer) ([], outside) =
    (.returned result, (months, after))
  recorded : row.status = result.status

/-- The counted rows of the table are those of the counted runs. -/
def IsHistory (rows : List JobRun) (runs : List IngestRun) : Prop :=
  (rows.filter isCounted).Perm ((runs.map IngestRun.row).filter isCounted)

/-- The months for which a counted run reported an OK period. -/
def reported (runs : List IngestRun) : Set (Int × Int) :=
  {month | ∃ run ∈ runs, isCounted run.row ∧ month ∈ run.months}

structure InRange (start finish : String) (month : Int × Int) : Prop where
  bounds : ∃ startYear startMonth endYear endMonth,
    readMonth start.toList = some (startYear, startMonth) ∧
    readMonth finish.toList = some (endYear, endMonth) ∧
    startYear * 12 + startMonth ≤ month.1 * 12 + month.2 ∧
    month.1 * 12 + month.2 ≤ endYear * 12 + endMonth
  isMonth : 1 ≤ month.2 ∧ month.2 ≤ 12

/-- The months that the params of a counted row cover. -/
def covered (rows : List JobRun) : Set (Int × Int) :=
  {month | ∃ row ∈ rows, isCounted row ∧ ∃ start finish,
    decodeParams row.params = some (start, finish) ∧ InRange start finish month}

section Params

open OpenScale.ControlPlane

variable {fields raw map : List (String × Json)} {name other text : String} {value : Json}

theorem field?_setField (fields : List (String × Json)) (name : String) (value : Json) :
    Json.field? (Json.setField fields name value) other =
      if other = name then some value else Json.field? fields other := by
  rw [Json.field?, Json.setField, List.reverse_append, List.reverse_singleton,
    List.singleton_append, List.lookup_cons]
  by_cases same : other = name
  · rw [if_pos same, beq_iff_eq.mpr same]
  · rw [if_neg same, beq_false_of_ne same, ← List.filter_reverse, Json.field?]
    generalize fields.reverse = fields
    induction fields with
    | nil => rfl
    | cons field fields ih =>
      obtain ⟨key, json⟩ := field
      by_cases gone : key = name
      · rw [List.filter_cons_of_neg (by simp [gone]), List.lookup_cons, gone, beq_false_of_ne same]
        exact ih
      · rw [List.filter_cons_of_pos (by simp [gone]), List.lookup_cons, List.lookup_cons]
        cases other == key with
        | true => rfl
        | false => exact ih

/-- Later fields of a name win, as they do in the reader. -/
theorem field?_foldl_setField (fields map : List (String × Json)) :
    Json.field? (fields.foldl (fun map field => Json.setField map field.1 field.2) map) other =
      (Json.field? fields other).or (Json.field? map other) := by
  induction fields generalizing map with
  | nil => rfl
  | cons field fields ih =>
    obtain ⟨key, json⟩ := field
    rw [List.foldl_cons, ih, field?_setField]
    simp only [Json.field?, List.reverse_cons, List.lookup_append, Option.or_assoc]
    congr 1
    by_cases same : other = key
    · subst same
      rw [if_pos rfl, List.lookup_cons_self, Option.some_or]
    · rw [if_neg same, List.lookup_cons, beq_false_of_ne same, List.lookup_nil, Option.none_or]

/-- Reading the numbers as doubles leaves the texts. -/
theorem field?_mapFields {convert : Int → Int → Option (Int × Int)}
    (read : Json.mapFields convert raw = some fields) :
    Json.field? fields other = some (.string text) ↔
    Json.field? raw other = some (.string text) := by
  have alike : List.Forall₂ (fun field given => field.1 = given.1 ∧
      (field.2 = .string text ↔ given.2 = .string text)) fields raw := by
    induction raw generalizing fields with
    | nil =>
      cases read
      exact .nil
    | cons given raw ih =>
      obtain ⟨key, json⟩ := given
      simp only [Json.mapFields, bind, Option.bind_eq_some_iff] at read
      obtain ⟨converted, first, rest, later, same⟩ := read
      cases same
      refine .cons ⟨rfl, ?_⟩ (ih later)
      cases json with
      | null | bool | string =>
        cases first
        exact Iff.rfl
      | number | array | object =>
        obtain ⟨_, _, rfl⟩ := Option.map_eq_some_iff.mp first
        exact iff_of_false nofun nofun
  have reversed := List.rel_reverse alike
  rw [Json.field?, Json.field?]
  generalize fields.reverse = fields at *
  generalize raw.reverse = raw at *
  clear read alike
  induction reversed with
  | nil => rfl
  | @cons field given _ _ head _ ih =>
    rw [List.lookup_cons, List.lookup_cons, head.1]
    cases other == given.1 with
    | true => simpa using head.2
    | false => exact ih

theorem get_enqueued {float64 : Int → Int → Option (Int × Int)} {body : List Char}
    (stored : Json.read 10000 body = some (.object raw))
    (decoded : unmarshalMap float64 body = some (some map))
    (apart : name ≠ "job_id") :
    Python.get (.object raw) name = .ok (.string text) ↔
      Python.get (.object (Json.setField map "job_id" value)) name = .ok (.string text) := by
  have found (fields : List (String × Json)) : Python.get (.object fields) name =
      .ok (.string text) ↔ Json.field? fields name = some (.string text) := by
    rw [Python.get]
    cases Json.field? fields name <;> simp
  simp only [unmarshalMap, stored, Option.map_eq_some_iff] at decoded
  obtain ⟨fields, converted, same⟩ := decoded
  cases same
  rw [found, found, field?_setField, if_neg apart, field?_foldl_setField,
    ← field?_mapFields converted]
  cases Json.field? fields name <;> simp [Json.field?]

end Params

section Uploads

variable {Outside : Type} {services : Services Outside} {months : List (Int × Int)}

/-- Every month of the ledger is one of these. -/
def Within (months : List (Int × Int)) (state : List (Int × Int) × Outside) : Prop :=
  ∀ month ∈ state.1, month ∈ months

theorem ingestPeriod_within {year month : Int} (asked : (year, month) ∈ months)
    (fetchFromTlc : Bool) :
    (ingestPeriod (watched services) fetchFromTlc year month).Maintains (Within months) := by
  have aside {Value : Type} {task : Task Outside Value} :
      (task.outer : Program (List (Int × Int) × Outside) _ _).Maintains (Within months) :=
        fun _ start => start
  refine .bind (Python.rescueOnly_maintains ?_ fun error => .pure) fun fetched => ?_
  · cases fetchFromTlc with
    | true => exact .bind aside fun _ => .pure
    | false => exact .bind aside fun _ => .pure
  · cases fetched with
    | inl result => exact .pure
    | inr rawPath =>
      refine .bind aside fun df =>
        .bind (Python.rescueOnly_maintains (.bind aside fun _ => .pure) fun _ => .pure)
        fun rejected => ?_
      cases rejected with
      | some result => exact .pure
      | none =>
        refine .bind (.bind aside fun path => .bind ?_ fun _ => .pure) fun _ => .pure
        intro state within other member
        rcases List.mem_append.mp member with before | uploaded
        · exact within other before
        · exact List.mem_singleton.mp uploaded ▸ asked

theorem ingest_within {params : Json} {onLogLine : OnLogLine Outside}
    (asked : ingestPeriods services.builtins params = .ok (some months)) (outside : Outside) :
    Within months
      (ingest (watched services) params (fun line => (onLogLine line).outer) ([], outside)).2 := by
  have reports (line : String) :
      ((onLogLine line).outer : Program (List (Int × Int) × Outside) _ _).Maintains
        (Within months) :=
    fun _ start => start
  have same : ingest (watched services) params (fun line => (onLogLine line).outer) =
      tryJob (fun line => (onLogLine line).outer) (⟨0, 0, []⟩ : IngestLocals)
        (fun locals => Python.orNone locals.rowsProcessed)
        (ingestAll (watched services) (fun line => (onLogLine line).outer) (some months))
        fun _ => ingestResult := by
    funext state
    exact Program.bind_returned
      (by rw [show (watched services).builtins = services.builtins from rfl, asked]; rfl)
  rw [same]
  refine tryJob_maintains reports ?_
    (fun _ => .bind (.bind (fun _ start => start) fun _ => .pure) fun frame => ?_)
    ([], outside) nofun
  · unfold ingestAll
    dsimp only
    rw [Program.outer_pure_bind]
    refine .bind (.forEach fun month asked => ?_) fun _ => .pure
    exact .bind (.outer (ingestPeriod_within asked true)) fun result =>
      .bind (log_maintains reports _) fun _ state start => start
  · dsimp only
    split
    · exact ends_maintains
    · split
      · exact ends_maintains
      · exact ends_maintains

end Uploads

section Names

variable {start finish : String} {month other : Int × Int} {rows : List JobRun} {name : String}

/-- `%04d-%02d` -/
def nameOf (month : Int × Int) : String := periodName month.1 month.2

theorem digitsValue_appendInt {value : Int} (natural : 0 ≤ value) (width : Nat) :
    (Python.digitsValue (appendInt value width) : Int) = value := by
  have zeros (n : Nat) (digits : List Char) :
      Python.digitsValue (List.replicate n '0' ++ digits) = Python.digitsValue digits := by
    induction n with
    | zero => rfl
    | succ n ih => exact ih
  have positive : ¬value < 0 := by omega
  have digits : Nat.ofDigitChars 10 (Nat.toDigits 10 value.natAbs) 0 = value.natAbs :=
    Nat.ofDigitChars_toDigits (by decide) le_rfl
  change Python.digitsValue (Nat.toDigits 10 value.natAbs) = value.natAbs at digits
  rw [appendInt, if_neg positive, List.nil_append, zeros, digits]
  omega

theorem hyphen_notMem_appendInt {value : Int} (natural : 0 ≤ value) (width : Nat) :
    '-' ∉ appendInt value width := by
  have positive : ¬value < 0 := by omega
  rw [appendInt, if_neg positive, List.nil_append, List.mem_append]
  rintro (zero | digit)
  · exact absurd (List.eq_of_mem_replicate zero) (by decide)
  · exact absurd (Nat.isDigit_of_mem_toDigits (by decide) (by decide) digit) (by decide)

theorem nameOf_injective (year : 0 ≤ month.1) (first : 0 ≤ month.2) (otherYear : 0 ≤ other.1)
    (otherFirst : 0 ≤ other.2) (same : nameOf month = nameOf other) : month = other := by
  have texts := congrArg String.toList same
  have parts (month : Int × Int) (year : 0 ≤ month.1) (first : 0 ≤ month.2) :
      Python.splitOn '-' (nameOf month).toList = [appendInt month.1 4, appendInt month.2 2] := by
    have text : (nameOf month).toList = appendInt month.1 4 ++ '-' :: appendInt month.2 2 := by
      simp [nameOf, periodName, appendInt_eq year, appendInt_eq first]
    rw [text, Python.splitOn_append (hyphen_notMem_appendInt year 4),
      Python.splitOn_of_notMem (hyphen_notMem_appendInt first 2)]
  have split := congrArg (Python.splitOn '-') texts
  rw [parts month year first, parts other otherYear otherFirst] at split
  obtain ⟨years, months⟩ := List.cons.inj split
  have sameYear := digitsValue_appendInt year 4
  have sameMonth := digitsValue_appendInt first 2
  rw [years, digitsValue_appendInt otherYear 4] at sameYear
  rw [(List.cons.inj months).1, digitsValue_appendInt otherFirst 2] at sameMonth
  exact Prod.ext sameYear.symm sameMonth.symm

theorem InRange.natural (inRange : InRange start finish month) : 0 ≤ month.1 ∧ 0 ≤ month.2 := by
  obtain ⟨startYear, startMonth, endYear, endMonth, startRead, _, above, below⟩ := inRange.bounds
  obtain ⟨_, _, _, _, _, _, _, _, _, one, twelve⟩ := readMonth_spec startRead
  obtain ⟨first, last⟩ := inRange.isMonth
  omega

theorem mem_expandMonthRange : name ∈ expandMonthRange start finish ↔
    ∃ month, InRange start finish month ∧ nameOf month = name := by
  cases startRead : readMonth start.toList with
  | none =>
    have none : expandMonthRange start finish = [] := by simp [expandMonthRange, parse, startRead]
    rw [none]
    refine iff_of_false List.not_mem_nil ?_
    rintro ⟨month, ⟨⟨_, _, _, _, read, _⟩, _⟩, _⟩
    rw [startRead] at read
    cases read
  | some first =>
    cases endRead : readMonth finish.toList with
    | none =>
      have none : expandMonthRange start finish = [] := by
        simp [expandMonthRange, parse, startRead, endRead]
      rw [none]
      refine iff_of_false List.not_mem_nil ?_
      rintro ⟨month, ⟨⟨_, _, _, _, _, read, _⟩, _⟩, _⟩
      rw [endRead] at read
      cases read
    | some last =>
      obtain ⟨_, _, _, _, _, _, _, _, _, one, twelve⟩ := readMonth_spec startRead
      rw [expandMonthRange_of_readMonth startRead endRead, List.mem_map]
      constructor
      · rintro ⟨k, member, rfl⟩
        obtain ⟨above, below⟩ := mem_monthsBetween.mp member
        refine ⟨monthAt k, ⟨⟨_, _, _, _, startRead, endRead, ?_⟩, ?_⟩,
          (format_monthTime (by omega)).symm⟩
        · simp only [monthAt]
          omega
        · simp only [monthAt]
          omega
      · rintro ⟨month, ⟨⟨_, _, _, _, read, readEnd, above, below⟩, isMonth⟩, rfl⟩
        rw [startRead] at read
        rw [endRead] at readEnd
        cases read
        cases readEnd
        refine ⟨12 * month.1 + month.2 - 1, mem_monthsBetween.mpr (by omega), ?_⟩
        rw [format_monthTime (by omega), nameOf]
        congr 1 <;> omega

theorem mem_inserted (names : List String) (months : Finset String) :
    name ∈ names.foldl (fun months m => insert m months) months ↔ name ∈ months ∨ name ∈ names := by
  induction names generalizing months with
  | nil => simp
  | cons first names ih =>
    rw [List.foldl_cons, ih, Finset.mem_insert, List.mem_cons, or_assoc, or_left_comm]

theorem mem_collectMonths (rows : List JobRun) (months : Finset String) :
    name ∈ collectMonths months rows ↔
    name ∈ months ∨ ∃ row ∈ rows, name ∈ monthsOf row.params := by
  unfold collectMonths
  induction rows generalizing months with
  | nil => simp
  | cons row rows ih => rw [List.foldl_cons, ih, mem_inserted, List.exists_mem_cons_iff, or_assoc]

theorem mem_monthsOf {params : Json} : name ∈ monthsOf params ↔ ∃ start finish,
    decodeParams params = some (start, finish) ∧ ∃ month, InRange start finish month ∧
    nameOf month = name := by
  unfold monthsOf
  cases decodeParams params with
  | none => simp
  | some range => simp [mem_expandMonthRange, Prod.ext_iff]

theorem covered_natural (member : month ∈ covered rows) : 0 ≤ month.1 ∧ 0 ≤ month.2 := by
  obtain ⟨_, _, _, _, _, _, inRange⟩ := member
  exact inRange.natural

theorem ingestedMonthsCount_eq :
    (covered rows).Finite ∧ ingestedMonthsCount rows = (covered rows).ncard := by
  have injective : Set.InjOn nameOf (covered rows) := by
    intro month member other otherMember same
    obtain ⟨year, first⟩ := covered_natural member
    obtain ⟨otherYear, otherFirst⟩ := covered_natural otherMember
    exact nameOf_injective year first otherYear otherFirst same
  have names : (collectMonths ∅ (rows.filter isCounted) : Set String) = nameOf '' covered rows := by
    ext name
    simp only [Finset.mem_coe, mem_collectMonths, Finset.notMem_empty, false_or,
      List.mem_filter, mem_monthsOf, Set.mem_image, covered, Set.mem_ofPred_eq]
    constructor
    · rintro ⟨row, ⟨member, counted⟩, start, finish, decoded, month, inRange, same⟩
      exact ⟨month, ⟨row, member, counted, start, finish, decoded, inRange⟩, same⟩
    · rintro ⟨month, ⟨row, member, counted, start, finish, decoded, inRange⟩, same⟩
      exact ⟨row, ⟨member, counted⟩, start, finish, decoded, month, inRange, same⟩
  constructor
  · refine Set.Finite.of_finite_image ?_ injective
    rw [← names]
    exact Finset.finite_toSet _
  · rw [← injective.ncard_image, ← names, Set.ncard_coe_finset]
    rfl

end Names

section Figure

variable {fields : List (String × Json)} {name text : String} {rows : List JobRun}
  {runs : List IngestRun}
variable {run : IngestRun}

/-- One text under a name, and nothing else that the control-plane takes for it. -/
structure Given (fields : List (String × Json)) (name text : String) : Prop where
  value : Json.field? fields name = some (.string text)
  only : ∀ field ∈ fields, foldName field.1 = foldName name → field.1 = name
  isMonth : (readMonth text.toList).isSome

/-- The run was asked for a range of months, from one `YYYY-MM` to another. -/
def Ranged (params : Json) : Prop := ∃ fields start finish, params = .object fields ∧
  (fields.map Prod.fst).Nodup ∧ Given fields "start" start ∧ Given fields "end" finish

theorem decodeField_given (distinct : (fields.map Prod.fst).Nodup)
    (given : Given fields name text) : decodeField name fields = some text := by
  have value := given.value
  have only : ∀ field ∈ fields.reverse, foldName field.1 = foldName name → field.1 = name :=
    fun field member => given.only field (List.mem_reverse.mp member)
  have unique : (fields.reverse.map Prod.fst).Nodup := by
    rw [List.map_reverse]
    exact List.nodup_reverse.mpr distinct
  rw [Json.field?] at value
  rw [decodeField, List.foldl_eq_foldr_reverse]
  generalize fields.reverse = fields at *
  -- a list without a field of this name leaves the zero value
  have zero (others : List (String × Json))
      (apart : ∀ field ∈ others, foldName field.1 ≠ foldName name) :
      others.foldr (fun field read =>
        if foldName field.1 = foldName name then
          match field.2 with
          | .string text => read.map fun _ => text
          | .null => read
          | _ => none
        else read) (some "") = some "" := by
    induction others with
    | nil => rfl
    | cons field others ih =>
      obtain ⟨first, rest⟩ := List.forall_mem_cons.mp apart
      rw [List.foldr_cons, if_neg first, ih rest]
  induction fields with
  | nil => cases value
  | cons field fields ih =>
    obtain ⟨key, json⟩ := field
    obtain ⟨new, unique⟩ := List.nodup_cons.mp unique
    obtain ⟨first, others⟩ := List.forall_mem_cons.mp only
    rw [List.foldr_cons]
    by_cases same : name = key
    · subst same
      rw [List.lookup_cons_self] at value
      cases value
      rw [if_pos rfl, zero fields fun other member folded => new ?_]
      · rfl
      · exact List.mem_map.mpr ⟨other, member, others other member folded⟩
    · rw [List.lookup_cons, beq_false_of_ne same] at value
      rw [if_neg fun folded => same (first folded).symm, ih value others unique]

theorem get_given (given : Given fields name text) :
    Python.get (.object fields) name = .ok (.string text) := by
  rw [Python.get, given.value]
  rfl

theorem truthy_of_readMonth {month : Nat × Nat} (read : readMonth text.toList = some month) :
    Python.truthy (.string text) = true := by
  have inked : text ≠ "" := by
    rintro rfl
    cases read
  simpa [Python.truthy] using inked

theorem ingestPeriods_of_readMonth (builtins : Python.Builtins) {params : Json}
    {start finish : String}
    {startYear startMonth endYear endMonth : Nat}
    (gotStart : Python.get params "start" = .ok (.string start))
    (gotEnd : Python.get params "end" = .ok (.string finish))
    (startRead : readMonth start.toList = some (startYear, startMonth))
    (endRead : readMonth finish.toList = some (endYear, endMonth)) :
    ingestPeriods builtins params =
      .ok
        (some
          ((monthsBetween (12 * startYear + startMonth - 1) (12 * endYear + endMonth - 1)).map
            monthAt)) := by
  simp only [ingestPeriods, gotStart, gotEnd, bind, Except.bind, truthy_of_readMonth startRead,
    truthy_of_readMonth endRead, Bool.and_self, if_true,
    monthRange_of_readMonth _ startRead endRead]
  rfl

theorem months_covered (ranged : Ranged run.row.params) (month : Int × Int)
    (member : month ∈ run.months) :
    ∃ start finish, decodeParams run.row.params = some (start, finish) ∧
    InRange start finish month := by
  obtain ⟨fields, start, finish, object, distinct, givenStart, givenEnd⟩ := ranged
  obtain ⟨⟨startYear, startMonth⟩, startRead⟩ := Option.isSome_iff_exists.mp givenStart.isMonth
  obtain ⟨⟨endYear, endMonth⟩, endRead⟩ := Option.isSome_iff_exists.mp givenEnd.isMonth
  have decoded : decodeParams run.row.params = some (start, finish) := by
    rw [object, decodeParams, decodeField_given distinct givenStart,
      decodeField_given distinct givenEnd]
    rfl
  refine ⟨start, finish, decoded, ?_⟩
  have gotStart := (run.passed "start" start (by decide)).mp (object ▸ get_given givenStart)
  have gotEnd := (run.passed "end" finish (by decide)).mp (object ▸ get_given givenEnd)
  have within := @ingest_within _ _ _ _ run.onLogLine
    (ingestPeriods_of_readMonth run.services.builtins gotStart gotEnd startRead endRead) run.outside
  rw [run.ran] at within
  obtain ⟨k, inside, rfl⟩ := List.mem_map.mp (within month member)
  obtain ⟨above, below⟩ := mem_monthsBetween.mp inside
  refine ⟨⟨_, _, _, _, startRead, endRead, ?_⟩, ?_⟩
  · simp only [monthAt]
    omega
  · simp only [monthAt]
    omega

theorem reported_subset (history : IsHistory rows runs)
    (ranged : ∀ run ∈ runs, isCounted run.row → Ranged run.row.params) :
    reported runs ⊆ covered rows := by
  rintro month ⟨run, member, counted, uploaded⟩
  have listed : run.row ∈ (runs.map IngestRun.row).filter isCounted :=
    List.mem_filter.mpr ⟨List.mem_map_of_mem member, counted⟩
  obtain ⟨present, _⟩ := List.mem_filter.mp (history.mem_iff.mpr listed)
  exact ⟨run.row, present, counted, months_covered (ranged run member counted) month uploaded⟩

/-- The figure counts the months that the counted runs were asked for. Where each was asked for a
range, these include all that are reported OK, and the figure is that of the reported ones exactly
when there are no others. -/
theorem months_ingested (rows : List JobRun) (runs : List IngestRun)
    (history : IsHistory rows runs) : ingestedMonthsCount rows = (covered rows).ncard ∧
      ((∀ run ∈ runs, isCounted run.row → Ranged run.row.params) →
        reported runs ⊆ covered rows ∧ (reported runs).ncard ≤ ingestedMonthsCount rows ∧
          (ingestedMonthsCount rows = (reported runs).ncard ↔ covered rows ⊆ reported runs)) := by
  obtain ⟨finite, count⟩ := @ingestedMonthsCount_eq rows
  refine ⟨count, fun ranged => ?_⟩
  have subset := reported_subset history ranged
  refine ⟨subset, count ▸ Set.ncard_le_ncard subset finite, ?_⟩
  rw [count]
  constructor
  · intro same
    exact (Set.eq_of_subset_of_ncard_le subset same.le finite).symm.subset
  · intro all
    rw [Set.Subset.antisymm all subset]

section Partial

def januaries : Services Unit :=
  { emptyLake with
    download := fun _ month =>
      if month = 1 then pure "2024-01.parquet"
      else raiseError "DownloadError" "No TLC data published"
    readParquet := fun _ => pure ⟨0, 3⟩ }

def twoMonths : Json := .object [("start", .string "2024-01"), ("end", .string "2024-02")]

theorem twoMonths_ranged : Ranged twoMonths :=
  ⟨_, "2024-01", "2024-02", rfl, by decide, ⟨rfl, by decide, by decide⟩,
    ⟨rfl, by decide, by decide⟩⟩

def partialRun : IngestRun where
  row := { JobRun.submitted 0 "ingest" twoMonths 0 with status := .partialSuccess }
  Outside := Unit
  services := januaries
  onLogLine _ := pure ⟨⟩
  outside := ()
  after := ()
  params := twoMonths
  result :=
    ⟨.partialSuccess, some "2024-02: UNAVAILABLE (No TLC data published)", ["\x7b\x7d", "\x7b\x7d"],
      some 3, none⟩
  months := [(2024, 1)]
  isIngest := rfl
  passed _ _ _ := Iff.rfl
  ran := by
    have asked : ingestPeriods januaries.builtins twoMonths = .ok (some [(2024, 1), (2024, 2)]) :=
      @ingestPeriods_of_readMonth januaries.builtins _ "2024-01" "2024-02" 2024 1 2024 2 rfl rfl
        (by decide) (by decide)
    unfold ingest
    rw [show (watched januaries).builtins = januaries.builtins from rfl, asked]
    rfl
  recorded := rfl

theorem unavailable_month_counted :
    ¬∀ (rows : List JobRun) (runs : List IngestRun), IsHistory rows runs →
    ingestedMonthsCount rows = (reported runs).ncard := by
  intro all
  have figure := all [partialRun.row] [partialRun] (.refl _)
  have expanded : expandMonthRange "2024-01" "2024-02" = ["2024-01", "2024-02"] :=
    (@expandMonthRange_of_readMonth "2024-01" "2024-02" 2024 1 2024 2 (by decide) (by decide)).trans
      (by decide)
  have two : ingestedMonthsCount [partialRun.row] = 2 := by
    have months : monthsOf partialRun.row.params = ["2024-01", "2024-02"] := expanded
    simp only [ingestedMonthsCount, show [partialRun.row].filter isCounted =
      [partialRun.row] from rfl, collectMonths, List.foldl_cons, List.foldl_nil, months]
    decide
  have one : reported [partialRun] = {(2024, 1)} := by
    ext month
    constructor
    · rintro ⟨run, member, _, uploaded⟩
      cases List.mem_singleton.mp member
      exact List.mem_singleton.mp uploaded
    · rintro rfl
      exact ⟨partialRun, List.mem_singleton_self _, rfl, List.mem_singleton_self _⟩
  rw [two, one, Set.ncard_singleton] at figure
  cases figure

theorem months_ingested_partial :
    ingestedMonthsCount [partialRun.row] = (covered [partialRun.row]).ncard ∧
      reported [partialRun] ⊆ covered [partialRun.row] ∧
        (reported [partialRun]).ncard ≤ ingestedMonthsCount [partialRun.row] ∧
          (ingestedMonthsCount [partialRun.row] = (reported [partialRun]).ncard ↔
            covered [partialRun.row] ⊆ reported [partialRun]) := by
  obtain ⟨count, agrees⟩ := months_ingested [partialRun.row] [partialRun] (.refl _)
  refine ⟨count, agrees fun run member _ => ?_⟩
  cases List.mem_singleton.mp member
  exact twoMonths_ranged

end Partial

end Figure

end OpenScale.Months
