import OpenScale.Query.Wire

/-! Which results of a query reach the frontend. Fields that are empty are left out, and a
value that cannot be marshalled leaves the whole body empty. -/

namespace OpenScale.Query

open OpenScale.Library

section Meaning

/-- The bytes that pairs of hexadecimal digits spell. -/
def hexBytes? : List Char → Option (List Nat)
  | [] => some []
  | high :: low :: rest => do
    return (16 * (← Json.hexValue high) + (← Json.hexValue low)) :: (← hexBytes? rest)
  | _ => none

/-- Hexadecimal digits in groups of 8, 4, 4, 4 and 12. -/
def SpellsUUID (text : String) (bytes : Vector UInt8 16) : Prop :=
  let groups := text.toList.splitOn '-'
  groups.map List.length = [8, 4, 4, 4, 12] ∧
  hexBytes? groups.flatten = some (bytes.toList.map UInt8.toNat)

def Float64.number? : Float64 → Option Double
  | .finite value _ _ _ => some (.finite value)
  | .nonFinite => none

def Float32.number? : Float32 → Option Double
  | .finite value _ _ => some (.finite value)
  | .nonFinite => none

/-- The double that the shortest decimal is read as. -/
def Float32.readAs : Float32 → Option Double
  | .finite _ mantissa exponent => some (.ofDecimal mantissa exponent)
  | .nonFinite => none

mutual

/-- The frontend has this value: numbers are compared as numbers, and a uuid is a text. -/
def Value.ArrivesAs : Value → Decoded → Prop
  | .nil, .null => True
  | .bool value, .bool value' => value' = value
  | .int value, .number value' => value' = .finite value
  | .float8 value, .number value' => some value' = value.number?
  | .float4 value, .number value' => some value' = value.number?
  | .string text, .string text' => text' = text
  | .uuid bytes, .string text => SpellsUUID text bytes
  | .slice items, .array items' => ItemsArriveAs items items'
  | .map fields, .object fields' => FieldsArriveAs fields fields'
  | .marshaler marshalled, value' => ∃ json, marshalled = some json ∧ Decoded.Denotes json value'
  | _, _ => False

def ItemsArriveAs : List Value → List Decoded → Prop
  | [], [] => True
  | item :: items, item' :: items' => item.ArrivesAs item' ∧ ItemsArriveAs items items'
  | _, _ => False

def FieldsArriveAs : List (String × Value) → List (String × Decoded) → Prop
  | [], [] => True
  | (name, value) :: fields, (name', value') :: fields' =>
    name' = name ∧ value.ArrivesAs value' ∧ FieldsArriveAs fields fields'
  | _, _ => False

end

mutual

/-- No float that is not finite, no number that is not a double, no single whose decimal is read
as another number, no marshaller that fails, and no uuid. -/
def Value.Plain : Value → Prop
  | .int value => Decoded.Representable value 0
  | .float8 value => value.number?.isSome
  | .float4 value => value.readAs.isSome ∧ value.readAs = value.number?
  | .uuid _ => False
  | .slice items => PlainItems items
  | .map fields => PlainFields fields
  | .marshaler marshalled => ∃ json, marshalled = some json ∧ Decoded.Exact json
  | _ => True

def PlainItems : List Value → Prop
  | [] => True
  | item :: items => item.Plain ∧ PlainItems items

def PlainFields : List (String × Value) → Prop
  | [] => True
  | (_, value) :: fields => value.Plain ∧ PlainFields fields

end

/-- A column may be a uuid, but not an array of them. -/
def Value.Carried : Value → Prop
  | .uuid _ => True
  | value => value.Plain

end Meaning

section Values

theorem hexBytes_hexByte (byte : UInt8) (rest : List Char) :
    hexBytes? (hexByte byte ++ rest) = (hexBytes? rest).map (byte.toNat :: ·) := by
  have small := byte.toNat_lt
  have whole : 16 * (byte.toNat / 16) + byte.toNat % 16 = byte.toNat := Nat.div_add_mod ..
  rw [hexByte, List.cons_append, List.cons_append, List.nil_append, hexBytes?,
    Json.hexValue_digitChar (by omega), Json.hexValue_digitChar (by omega), Option.bind_eq_bind,
    Option.bind_some, Option.bind_eq_bind, Option.bind_some, whole]
  cases hexBytes? rest <;> rfl

theorem hexBytes_flatMap (bytes : List UInt8) :
    hexBytes? (bytes.flatMap hexByte) = some (bytes.map UInt8.toNat) := by
  induction bytes with
  | nil => rfl
  | cons byte bytes ih =>
    rw [List.flatMap_cons, hexBytes_hexByte, ih, Option.map_some, List.map_cons]

theorem length_flatMap_hexByte (bytes : List UInt8) :
    (bytes.flatMap hexByte).length = 2 * bytes.length := by
  induction bytes with
  | nil => rfl
  | cons byte bytes ih =>
    rw [List.flatMap_cons, List.length_append, ih, List.length_cons]
    simp only [hexByte, List.length_cons, List.length_nil]
    omega

theorem hyphen_notMem_hexByte (bytes : List UInt8) : '-' ∉ bytes.flatMap hexByte := by
  have digit : ∀ n < 16, Nat.digitChar n ≠ '-' := by decide
  intro member
  obtain ⟨byte, _, here⟩ := List.mem_flatMap.mp member
  have small := byte.toNat_lt
  rcases List.mem_cons.mp here with high | low
  · exact digit _ (by omega) high.symm
  · exact digit _ (by omega) (List.mem_singleton.mp low).symm

theorem spells_formatUUID (bytes : Vector UInt8 16) : SpellsUUID (formatUUID bytes) bytes := by
  have sixteen : bytes.toList.length = 16 := by simp
  obtain ⟨list, same⟩ : ∃ list, bytes.toList = list := ⟨_, rfl⟩
  rw [same] at sixteen
  let parts :=
    [list.take 4, (list.drop 4).take 2, (list.drop 6).take 2, (list.drop 8).take 2, list.drop 10]
  let groups := parts.map fun part => part.flatMap hexByte
  have whole : parts.flatten = list := by
    have after (n m : Nat) : (list.drop n).take m ++ list.drop (n + m) = list.drop n := by
      rw [← List.drop_drop, List.take_append_drop]
    simp only [parts, List.flatten_cons, List.flatten_nil, List.append_nil]
    rw [after 8 2, after 6 2, after 4 2, List.take_append_drop]
  have text : (formatUUID bytes).toList.splitOn '-' = groups := by
    have written : (formatUUID bytes).toList = List.intercalate ['-'] groups := by
      simp [formatUUID, same, groups, parts, List.intercalate]
    rw [written]
    refine List.splitOn_intercalate _ (fun group member => ?_) (by simp [groups, parts])
    obtain ⟨part, _, rfl⟩ := List.mem_map.mp member
    exact hyphen_notMem_hexByte part
  have flat : groups.flatten = parts.flatten.flatMap hexByte := by
    rw [List.flatMap_def, List.map_flatten, List.flatten_flatten, List.map_map]
    rfl
  constructor
  · rw [text]
    simp only [groups, parts, List.map_cons, List.map_nil, length_flatMap_hexByte, List.length_take,
      List.length_drop, sixteen]
    rfl
  · rw [text, flat, whole, hexBytes_flatMap, same]

theorem ofJson_marshalDecimal (mantissa exponent : Int) :
    Decoded.ofJson (marshalDecimal mantissa exponent) = .number (.ofDecimal mantissa exponent) := by
  unfold marshalDecimal
  split
  · rename_i short
    obtain ⟨places, rfl⟩ := Int.eq_ofNat_of_zero_le short.1
    simp [Decoded.ofJson, Double.ofDecimal]
  · rfl

/-- What the frontend reads of a value is that value. -/
def Value.Survives (value : Value) : Prop :=
  ∃ json, value.marshal = some json ∧ value.ArrivesAs (Decoded.ofJson json)

theorem survives_of_marshal {value : Value} {json : Json} (marshalled : value.marshal = some json) :
    value.Survives ↔ value.ArrivesAs (Decoded.ofJson json) := by
  rw [Value.Survives, marshalled]
  exact ⟨fun ⟨_, same, arrives⟩ => Option.some.inj same ▸ arrives, fun arrives =>
    ⟨json, rfl, arrives⟩⟩

theorem int_survives (value : Int) : (Value.int value).Survives ↔ (Value.int value).Plain := by
  have exact_ := @Decoded.ofDecimal_exact_iff value 0
  rw [zpow_zero, mul_one] at exact_
  rw [survives_of_marshal (by rw [Value.marshal]), Decoded.ofJson, Value.ArrivesAs, Value.Plain]
  exact exact_

theorem float8_survives (value : Float64) : (Value.float8 value).Survives ↔
    (Value.float8 value).Plain := by
  cases value with
  | finite value mantissa exponent shortest =>
    refine iff_of_true ⟨_, rfl, ?_⟩ rfl
    rw [ofJson_marshalDecimal]
    exact congrArg some shortest
  | nonFinite => exact iff_of_false (fun ⟨_, marshalled, _⟩ => nomatch marshalled) nofun

theorem float4_survives (value : Float32) : (Value.float4 value).Survives ↔
    (Value.float4 value).Plain := by
  cases value with
  | finite value mantissa exponent =>
    rw [survives_of_marshal (by rw [Value.marshal, Float32.marshal]), ofJson_marshalDecimal,
      Value.ArrivesAs, Value.Plain]
    exact (and_iff_right rfl).symm
  | nonFinite => exact iff_of_false (fun ⟨_, marshalled, _⟩ => nomatch marshalled) nofun

theorem uuid_lost (bytes : Vector UInt8 16) : ¬ (Value.uuid bytes).Survives := by
  rintro ⟨json, marshalled, arrives⟩
  cases marshalled
  exact arrives

theorem marshaler_survives (marshalled : Option Json) :
    (Value.marshaler marshalled).Survives ↔ (Value.marshaler marshalled).Plain := by
  cases marshalled with
  | none => exact iff_of_false (fun ⟨_, marshalled, _⟩ => nomatch marshalled) nofun
  | some json =>
    rw [survives_of_marshal (by rw [Value.marshal]), Value.ArrivesAs, Value.Plain]
    exact exists_congr fun json' => and_congr_right fun same =>
      Option.some.inj same ▸ Decoded.denotes_ofJson json

def ItemsSurvive (items : List Value) : Prop :=
  ∃ jsons, marshalItems items = some jsons ∧ ItemsArriveAs items (Decoded.ofItems jsons)

def FieldsSurvive (fields : List (String × Value)) : Prop :=
  ∃ jsons, marshalFields fields = some jsons ∧ FieldsArriveAs fields (Decoded.ofFields jsons)

theorem slice_survives (items : List Value) : (Value.slice items).Survives ↔
    ItemsSurvive items := by
  constructor
  · rintro ⟨json, marshalled, arrives⟩
    rw [Value.marshal, Option.map_eq_some_iff] at marshalled
    obtain ⟨jsons, found, rfl⟩ := marshalled
    exact ⟨jsons, found, arrives⟩
  · rintro ⟨jsons, found, arrives⟩
    exact ⟨.array jsons, by rw [Value.marshal, found, Option.map_some], arrives⟩

theorem map_survives (fields : List (String × Value)) : (Value.map fields).Survives ↔
    FieldsSurvive fields := by
  constructor
  · rintro ⟨json, marshalled, arrives⟩
    rw [Value.marshal, Option.map_eq_some_iff] at marshalled
    obtain ⟨jsons, found, rfl⟩ := marshalled
    exact ⟨jsons, found, arrives⟩
  · rintro ⟨jsons, found, arrives⟩
    exact ⟨.object jsons, by rw [Value.marshal, found, Option.map_some], arrives⟩

theorem itemsSurvive_cons (item : Value) (items : List Value) :
    ItemsSurvive (item :: items) ↔ item.Survives ∧ ItemsSurvive items := by
  constructor
  · rintro ⟨jsons, marshalled, arrives⟩
    rw [marshalItems] at marshalled
    obtain ⟨json, first, marshalled⟩ := Option.bind_eq_some_iff.mp marshalled
    obtain ⟨others, rest, same⟩ := Option.bind_eq_some_iff.mp marshalled
    cases same
    exact ⟨⟨json, first, arrives.1⟩, others, rest, arrives.2⟩
  · rintro ⟨⟨json, first, arrives⟩, others, rest, arrive⟩
    exact ⟨json :: others, by rw [marshalItems, first, rest]; rfl, arrives, arrive⟩

theorem fieldsSurvive_cons (name : String) (value : Value) (fields : List (String × Value)) :
    FieldsSurvive ((name, value) :: fields) ↔ value.Survives ∧ FieldsSurvive fields := by
  constructor
  · rintro ⟨jsons, marshalled, arrives⟩
    rw [marshalFields] at marshalled
    obtain ⟨json, first, marshalled⟩ := Option.bind_eq_some_iff.mp marshalled
    obtain ⟨others, rest, same⟩ := Option.bind_eq_some_iff.mp marshalled
    cases same
    exact ⟨⟨json, first, arrives.2.1⟩, others, rest, arrives.2.2⟩
  · rintro ⟨⟨json, first, arrives⟩, others, rest, arrive⟩
    exact ⟨(name, json) :: others, by rw [marshalFields, first, rest]; rfl, rfl, arrives, arrive⟩

mutual

theorem survives_iff_plain : ∀ value : Value, value.Survives ↔ value.Plain
  | .nil => iff_of_true ⟨_, rfl, trivial⟩ trivial
  | .bool _ => iff_of_true ⟨_, rfl, rfl⟩ trivial
  | .int value => int_survives value
  | .float8 value => float8_survives value
  | .float4 value => float4_survives value
  | .string _ => iff_of_true ⟨_, rfl, rfl⟩ trivial
  | .uuid bytes => iff_of_false (uuid_lost bytes) not_false
  | .slice items => (slice_survives items).trans (itemsSurvive_iff_plain items)
  | .map fields => (map_survives fields).trans (fieldsSurvive_iff_plain fields)
  | .marshaler marshalled => marshaler_survives marshalled

theorem itemsSurvive_iff_plain : ∀ items : List Value, ItemsSurvive items ↔ PlainItems items
  | [] => iff_of_true ⟨_, rfl, trivial⟩ trivial
  | item :: items =>
    (itemsSurvive_cons item items).trans
      (and_congr (survives_iff_plain item) (itemsSurvive_iff_plain items))

theorem fieldsSurvive_iff_plain : ∀ fields : List (String × Value), FieldsSurvive fields ↔
    PlainFields fields
  | [] => iff_of_true ⟨_, rfl, trivial⟩ trivial
  | (name, value) :: fields =>
    (fieldsSurvive_cons name value fields).trans
      (and_congr (survives_iff_plain value) (fieldsSurvive_iff_plain fields))

end

theorem arrives_iff_carried (value : Value) :
    (∃ json, (normalizeQueryValue value).marshal = some json ∧
      value.ArrivesAs (Decoded.ofJson json)) ↔ value.Carried := by
  cases value with
  | uuid bytes => exact iff_of_true ⟨_, rfl, spells_formatUUID bytes⟩ trivial
  | _ => exact survives_iff_plain _

theorem rowArrives_iff (values : List Value) :
    (∃ jsons, marshalItems (values.map normalizeQueryValue) = some jsons ∧
      ItemsArriveAs values (Decoded.ofItems jsons)) ↔ ∀ value ∈ values, value.Carried := by
  induction values with
  | nil => exact iff_of_true ⟨_, rfl, trivial⟩ nofun
  | cons value values ih =>
    rw [List.forall_mem_cons, ← arrives_iff_carried value, ← ih, List.map_cons, marshalItems]
    cases (normalizeQueryValue value).marshal <;>
      cases marshalItems (values.map normalizeQueryValue) <;>
      simp [Decoded.ofItems, ItemsArriveAs]

end Values

def errorOf {α : Type} : Except String α → Option String
  | .error message => some message
  | .ok _ => none

def valuesOf : Except String (List Value) → List Value
  | .error _ => []
  | .ok values => values

/-- The first call that fails, as the query reports it. Rows beyond the cap are not read. -/
def Postgres.failure (postgres : Postgres) : Option String :=
  ((errorOf postgres.beginTx).map ("db: begin read-only tx: " ++ ·)).or <|
    (errorOf postgres.query).or <|
    ((postgres.rows.take maxQueryRows).findSome? errorOf).or <| (errorOf postgres.err).or <|
      (errorOf postgres.commit).map ("db: commit read-only tx: " ++ ·)

/-- Why a query fails: the gate rejects it, or a call does. -/
def failure (sql : List Char) (postgres : Postgres) : Option String :=
  match validateReadOnlySQL sql with
  | (reason, false) => some reason
  | (_, true) => postgres.failure

def columnsOf (postgres : Postgres) : List String :=
  match postgres.query with
  | .ok columns => columns
  | .error _ => []

def readOf (postgres : Postgres) : List (List Value) :=
  (postgres.rows.take maxQueryRows).map valuesOf

section Rows

theorem readRows_eq (maxRows : Nat) (result : QueryResult)
    (rows : List (Except String (List Value)))
    (fits : result.rows.length ≤ maxRows) (whole : result.truncated = false) :
    readRows maxRows result rows =
      match (rows.take (maxRows - result.rows.length)).findSome? errorOf with
      | some message => .error message
      | none => .ok
          { result with
            rows := result.rows ++
              ((rows.take (maxRows - result.rows.length)).map valuesOf).map fun values =>
                values.map normalizeQueryValue
            truncated := decide (maxRows - result.rows.length < rows.length) } := by
  induction rows generalizing result with
  | nil =>
    obtain ⟨columns, rows, truncated⟩ := result
    cases whole
    simp [readRows]
  | cons row rest ih =>
    rw [readRows]
    split
    · rename_i full
      have none_ : maxRows - result.rows.length = 0 := by omega
      simp [none_]
    · rename_i room
      obtain ⟨left, more⟩ : ∃ left, maxRows - result.rows.length = left + 1 :=
        ⟨_, (Nat.succ_pred (by omega)).symm⟩
      have later : maxRows - (result.rows.length + 1) = left := by omega
      cases row with
      | error message => simp [more, errorOf, bind, Except.bind, List.findSome?_cons]
      | ok values =>
        have step := ih { result with rows := result.rows ++ [values.map normalizeQueryValue] }
          (by simp only [List.length_append, List.length_singleton]; omega) whole
        simp only [List.length_append, List.length_singleton, later] at step
        simp only [bind, Except.bind, step, more, List.take_succ_cons, List.findSome?_cons, errorOf,
          List.map_cons, valuesOf]
        cases (rest.take left).findSome? errorOf with
        | some message => rfl
        | none => simp

theorem runReadOnlyQuery_eq (postgres : Postgres) : runReadOnlyQuery postgres maxQueryRows =
    match postgres.failure with
    | some message => .error message
    | none =>
      .ok ⟨columnsOf postgres, (readOf postgres).map fun values => values.map normalizeQueryValue,
        decide (maxQueryRows < postgres.rows.length)⟩ := by
  obtain ⟨beginTx, query, rows, err, commit⟩ := postgres
  unfold runReadOnlyQuery Postgres.failure
  cases beginTx with
  | error message => rfl
  | ok _ =>
    cases query with
    | error message => rfl
    | ok columns =>
      have read := readRows_eq maxQueryRows ⟨columns, [], false⟩ rows (Nat.zero_le _) rfl
      simp only [List.length_nil, Nat.sub_zero, List.nil_append] at read
      simp only [bind, Except.bind, Except.mapError, read, errorOf, Option.map_none, Option.none_or]
      cases (rows.take maxQueryRows).findSome? errorOf with
      | some message => rfl
      | none =>
        cases err with
        | error message => rfl
        | ok _ =>
          cases commit with
          | error message => rfl
          | ok _ => rfl

end Rows

def RowsArriveAs (rows : List (List Value)) (rows' : List Decoded) : Prop :=
  rows.Forall₂ (fun values row => ∃ cells, row = .array cells ∧ ItemsArriveAs values cells) rows'

/-- The result that the frontend has is the result of the query. -/
structure Arrives (postgres : Postgres) (result : Decoded) : Prop where
  columns : result.property "columns" = some (.array ((columnsOf postgres).map .string))
  rows : ∃ rows, result.property "rows" = some (.array rows) ∧ RowsArriveAs (readOf postgres) rows ∧
    result.property "rowCount" = some (.number (.finite rows.length))
  truncated : result.property "truncated" =
    some (.bool (decide (maxQueryRows < postgres.rows.length)))

/-- The frontend decodes an error exactly when the query failed, and else its result. -/
def Survives (sql : List Char) (postgres : Postgres) (durationMs : Int) : Prop :=
  ∃ result, apiPost (run (some sql) postgres durationMs) = some result ∧
    (isQueryError result = true ↔ (failure sql postgres).isSome = true) ∧
    (failure sql postgres = none → Arrives postgres result)

/-- A failure has a message, and a success has a column, a row, and only values that arrive in the
rows that are read. -/
def Carried (sql : List Char) (postgres : Postgres) : Prop :=
  match failure sql postgres with
  | some message => message ≠ ""
  | none => columnsOf postgres ≠ [] ∧ postgres.rows ≠ [] ∧
      ∀ values ∈ readOf postgres, ∀ value ∈ values, value.Carried

section Wire

variable {sql : List Char} {postgres : Postgres} {response : QueryResponse} {rows : List Json}

theorem apiPost_encode (response : QueryResponse) :
    apiPost (encode response) = response.marshal.map Decoded.ofJson := by
  unfold encode
  cases response.marshal with
  | none => rfl
  | some json =>
    have newline : ∀ c ∈ ['\n'], Json.isSpace c = true := by simp [Json.isSpace]
    exact Decoded.parse_write_append json newline

theorem marshal_eq_some (marshalled : marshalRows response.rows = some rows) :
    response.marshal = some
    (.object
      (omitempty response.columns.isEmpty "columns" (.array (response.columns.map .string)) ++
      omitempty response.rows.isEmpty "rows" (.array rows) ++
      [("rowCount", .number response.rowCount 0), ("durationMs", .number response.durationMs 0),
        ("truncated", .bool response.truncated)] ++
      omitempty response.error.isEmpty "error" (.string response.error))) := by
  simp [QueryResponse.marshal, marshalled]

theorem property_marshal {json : Json} (marshalled : marshalRows response.rows = some rows)
    (written : response.marshal = some json) :
    json.property "columns" =
        (if response.columns.isEmpty then none else some (.array (response.columns.map .string))) ∧
      json.property "rows" = (if response.rows.isEmpty then none else some (.array rows)) ∧
      json.property "rowCount" = some (.number response.rowCount 0) ∧
      json.property "truncated" = some (.bool response.truncated) ∧
      isQueryError (Decoded.ofJson json) = !response.error.isEmpty := by
  rw [marshal_eq_some marshalled] at written
  cases written
  rw [isQueryError, Decoded.property_ofJson, Option.isSome_map]
  cases response.columns.isEmpty <;> cases response.rows.isEmpty <;>
    cases response.error.isEmpty <;>
    exact ⟨rfl, rfl, rfl, rfl, rfl⟩

theorem rowsArrive_iff (rows : List (List Value)) :
    (∃ jsons, marshalRows (rows.map fun values => values.map normalizeQueryValue) = some jsons ∧
      RowsArriveAs rows (Decoded.ofItems jsons)) ↔
      ∀ values ∈ rows, ∀ value ∈ values, value.Carried := by
  induction rows with
  | nil => exact iff_of_true ⟨_, rfl, .nil⟩ nofun
  | cons values rows ih =>
    rw [List.forall_mem_cons, ← rowArrives_iff, ← ih]
    constructor
    · rintro ⟨jsons, marshalled, arrive⟩
      rw [List.map_cons, marshalRows, List.mapM_cons] at marshalled
      obtain ⟨json, first, marshalled⟩ := Option.bind_eq_some_iff.mp marshalled
      obtain ⟨others, rest, same⟩ := Option.bind_eq_some_iff.mp marshalled
      cases same
      obtain ⟨cells, found, rfl⟩ := Option.map_eq_some_iff.mp first
      cases arrive with
      | cons head tail =>
        obtain ⟨_, same, arrives⟩ := head
        cases same
        exact ⟨⟨cells, found, arrives⟩, others, rest, tail⟩
    · rintro ⟨⟨cells, found, arrives⟩, others, rest, arrive⟩
      refine ⟨.array cells :: others, ?_, .cons ⟨_, rfl, arrives⟩ arrive⟩
      rw [marshalRows] at rest ⊢
      rw [List.map_cons, List.mapM_cons, rest, found]
      rfl

theorem run_failure {message : String} (failed : failure sql postgres = some message)
    (durationMs : Int) : run (some sql) postgres durationMs = encode { error := message } := by
  have returned := runReadOnlyQuery_eq postgres
  unfold failure at failed
  unfold run
  split at failed
  · rename_i reason rejected
    cases failed
    simp [rejected]
  · rename_i reason accepted
    rw [failed] at returned
    simp [accepted, returned]

theorem survives_failure {message : String} {durationMs : Int}
    (failed : failure sql postgres = some message) :
    Survives sql postgres durationMs ↔ message ≠ "" := by
  have decoded := apiPost_encode { error := message }
  have none_ : marshalRows ({ error := message } : QueryResponse).rows = some [] := rfl
  rw [marshal_eq_some none_, Option.map_some] at decoded
  have told := (property_marshal none_ (marshal_eq_some none_)).2.2.2.2
  unfold Survives
  rw [run_failure failed, decoded, failed]
  constructor
  · intro survives
    obtain ⟨result, same, error, _⟩ := survives
    cases same
    have kept := error.mpr rfl
    rw [told] at kept
    rintro rfl
    cases kept
  · intro nonempty
    refine ⟨_, rfl, ?_, nofun⟩
    have kept : message.isEmpty = false := by simp [nonempty]
    rw [told, kept]
    exact ⟨fun _ => rfl, fun _ => rfl⟩

def successOf (postgres : Postgres) (durationMs : Int) : QueryResponse where
  columns := columnsOf postgres
  rows := (readOf postgres).map fun values => values.map normalizeQueryValue
  rowCount := (readOf postgres).length
  durationMs := durationMs
  truncated := decide (maxQueryRows < postgres.rows.length)

theorem reason_ne_empty {reason : String} (rejected : validateReadOnlySQL sql = (reason, false)) :
    reason ≠ "" := by
  unfold validateReadOnlySQL at rejected
  split at rejected
  · cases rejected
    decide
  split at rejected
  · cases rejected
    decide
  split at rejected
  · cases rejected
    decide
  · cases rejected

theorem rejection_survives (rejected : ¬ Accepted sql) (postgres : Postgres) (durationMs : Int) :
    Survives sql postgres durationMs := by
  have answer : validateReadOnlySQL sql = ((validateReadOnlySQL sql).1, false) :=
    Prod.ext rfl (Bool.eq_false_iff.mpr rejected)
  have failed : failure sql postgres = some (validateReadOnlySQL sql).1 := by
    unfold failure
    rw [answer]
  exact (survives_failure failed).mpr (reason_ne_empty answer)

theorem run_success (succeeded : failure sql postgres = none) (durationMs : Int) :
    run (some sql) postgres durationMs = encode (successOf postgres durationMs) := by
  have returned := runReadOnlyQuery_eq postgres
  unfold failure at succeeded
  unfold run
  split at succeeded
  · cases succeeded
  · rename_i reason accepted
    rw [succeeded] at returned
    simp [accepted, returned, successOf]

theorem survives_success {durationMs : Int} (succeeded : failure sql postgres = none) :
    Survives sql postgres durationMs ↔ Carried sql postgres := by
  have read : readOf postgres = [] ↔ postgres.rows = [] := by
    simp [readOf, maxQueryRows]
  have few : (readOf postgres).length ≤ maxQueryRows := by
    rw [readOf, List.length_map]
    exact List.length_take_le ..
  unfold Survives Carried
  rw [run_success succeeded, apiPost_encode, succeeded]
  constructor
  · rintro ⟨result, decoded, _, arrives⟩
    obtain ⟨json, written, rfl⟩ := Option.map_eq_some_iff.mp decoded
    obtain ⟨columns, ⟨rows, found, arrive, _⟩, _⟩ := arrives rfl
    rw [Decoded.property_ofJson] at columns found
    obtain ⟨jsons, marshalled, _⟩ := Option.bind_eq_some_iff.mp written
    obtain ⟨columns', found', _⟩ := property_marshal marshalled written
    have someColumn : columnsOf postgres ≠ [] := by
      intro none_
      have empty : (successOf postgres durationMs).columns = [] := none_
      rw [columns', empty] at columns
      cases columns
    have someRow : postgres.rows ≠ [] := by
      intro none_
      have empty : (successOf postgres durationMs).rows = [] := by simp [successOf, read.mpr none_]
      rw [found', empty] at found
      cases found
    refine ⟨someColumn, someRow, (rowsArrive_iff _).mp ⟨jsons, marshalled, ?_⟩⟩
    rw [found', if_neg (by simp [successOf, read, someRow])] at found
    cases found
    exact arrive
  · rintro ⟨columns, rows, values⟩
    obtain ⟨jsons, marshalled, arrive⟩ := (rowsArrive_iff _).mpr values
    have written : marshalRows (successOf postgres durationMs).rows = some jsons := marshalled
    have filled : (readOf postgres).isEmpty = false := by simp [read, rows]
    have counted := arrive.length_eq
    have exact_ : Double.ofDecimal ((readOf postgres).length : Int) 0 =
        .finite (readOf postgres).length :=
      Double.ofDecimal_int (by rw [Nat.abs_cast]; exact_mod_cast few.trans (by decide))
    obtain ⟨columns', rows', rowCount, truncated, error⟩ :=
      property_marshal written (marshal_eq_some written)
    refine ⟨_, congrArg _ (marshal_eq_some written), ?_, fun _ => ⟨?_, ⟨_, ?_, arrive, ?_⟩, ?_⟩⟩
    · rw [error]
      exact ⟨nofun, nofun⟩
    · rw [Decoded.property_ofJson, columns', if_neg (by simpa [successOf] using columns),
        Option.map_some, Decoded.ofJson, Decoded.ofItems_eq, List.map_map]
      rfl
    · rw [Decoded.property_ofJson, rows', if_neg (by simp [successOf, filled])]
      rfl
    · rw [Decoded.property_ofJson, rowCount, Option.map_some, Decoded.ofJson, ← counted]
      exact congrArg _ (congrArg _ exact_)
    · rw [Decoded.property_ofJson, truncated]
      rfl

/-- A query survives the wire exactly when it is carried whole. -/
theorem query_survives_iff (sql : List Char) (postgres : Postgres) (durationMs : Int) :
    Survives sql postgres durationMs ↔ Carried sql postgres := by
  cases failed : failure sql postgres with
  | some message =>
    rw [survives_failure failed]
    simp [Carried, failed]
  | none => exact survives_success failed

def noRows : Postgres := ⟨.ok (), .ok ["id"], [], .ok (), .ok ()⟩

theorem empty_result_lost : ¬ ∀ sql postgres durationMs, Survives sql postgres durationMs := by
  intro survives
  obtain ⟨result, decoded, _, arrives⟩ := survives "select id from t".toList noRows 0
  have succeeded : failure "select id from t".toList noRows = none := by decide
  obtain ⟨rows, found, _⟩ := (arrives succeeded).rows
  have none_ : marshalRows (successOf noRows 0).rows = some [] := rfl
  rw [run_success succeeded, apiPost_encode] at decoded
  obtain ⟨json, written, rfl⟩ := Option.map_eq_some_iff.mp decoded
  rw [Decoded.property_ofJson, (property_marshal none_ written).2.1] at found
  cases found

end Wire

end OpenScale.Query
