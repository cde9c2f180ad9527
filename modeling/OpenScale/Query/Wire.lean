import OpenScale.Library.JsonParse
import OpenScale.Query.Gate

/-! A query on its way to the screen: the loop that caps its rows, the response that the
handler encodes, and what the frontend decodes. -/

namespace OpenScale.Query

open OpenScale.Library

/-- A double, with the shortest decimal that is read as it: `mantissa * 10 ^ exponent`. -/
inductive Float64 where
  | finite (value : ℚ) (mantissa exponent : Int) (shortest : Double.ofDecimal mantissa exponent =
    .finite value)
  | nonFinite

/-- The shortest decimal of a single need not be read as the double of the same value. -/
inductive Float32 where
  | finite (value : ℚ) (mantissa exponent : Int)
  | nonFinite

/-- A value that pgx returns. Where its type has a marshaller of its own (times, numerics,
intervals, byte slices), it is what that makes of it; none when that fails. The fields of a
map are in the order of their keys. -/
inductive Value where
  | nil
  | bool (value : Bool)
  | int (value : Int)
  | float8 (value : Float64)
  | float4 (value : Float32)
  | string (text : String)
  | uuid (bytes : Vector UInt8 16)
  | slice (items : List Value)
  | map (fields : List (String × Value))
  | marshaler (marshalled : Option Json)

def hexByte (byte : UInt8) : List Char :=
  [Nat.digitChar (byte.toNat / 16), Nat.digitChar (byte.toNat % 16)]

def formatUUID (src : Vector UInt8 16) : String :=
  let encode (bytes : List UInt8) : List Char := bytes.flatMap hexByte
  let bytes := src.toList
  String.ofList (encode (bytes.take 4) ++ '-' :: encode ((bytes.drop 4).take 2) ++ '-' :: encode
    ((bytes.drop 6).take 2) ++
    '-' :: encode ((bytes.drop 8).take 2) ++ '-' :: encode (bytes.drop 10))

def normalizeQueryValue : Value → Value
  | .uuid src => .string (formatUUID src)
  | value => value

/-- No exponent below 1e21. -/
def marshalDecimal (mantissa exponent : Int) : Json :=
  if 0 ≤ exponent ∧ (Nat.toDigits 10 mantissa.natAbs).length + exponent ≤ 21 then
    .number (mantissa * 10 ^ exponent.toNat) 0
  else .number mantissa exponent

def Float64.marshal : Float64 → Option Json
  | .finite _ mantissa exponent _ => some (marshalDecimal mantissa exponent)
  | .nonFinite => none

def Float32.marshal : Float32 → Option Json
  | .finite _ mantissa exponent => some (marshalDecimal mantissa exponent)
  | .nonFinite => none

mutual

/-- What `encoding/json` makes of a value. -/
def Value.marshal : Value → Option Json
  | .nil => some .null
  | .bool value => some (.bool value)
  | .int value => some (.number value 0)
  | .float8 value => value.marshal
  | .float4 value => value.marshal
  | .string text => some (.string text)
  | .uuid bytes => some (.array (bytes.toList.map fun byte => .number byte.toNat 0))
  | .slice items => (marshalItems items).map .array
  | .map fields => (marshalFields fields).map .object
  | .marshaler marshalled => marshalled

def marshalItems : List Value → Option (List Json)
  | [] => some []
  | item :: items => do return (← item.marshal) :: (← marshalItems items)

def marshalFields : List (String × Value) → Option (List (String × Json))
  | [] => some []
  | (name, value) :: fields => do return (name, ← value.marshal) :: (← marshalFields fields)

end

/-- What pgx answers to the calls of `RunReadOnlyQuery`, in their order. -/
structure Postgres where
  beginTx : Except String Unit
  query : Except String (List String)
  /-- What `Values` answers for each row that `Next` finds. -/
  rows : List (Except String (List Value))
  err : Except String Unit
  commit : Except String Unit

structure QueryResult where
  columns : List String
  rows : List (List Value)
  truncated : Bool

def readRows (maxRows : Nat) (result : QueryResult) : List (Except String (List Value)) →
  Except String QueryResult
  | [] => .ok result
  | row :: rest =>
    if maxRows ≤ result.rows.length then .ok { result with truncated := true }
    else do
      let values ← row
      readRows maxRows { result with rows := result.rows ++ [values.map normalizeQueryValue] } rest

def runReadOnlyQuery (postgres : Postgres) (maxRows : Nat) : Except String QueryResult := do
  postgres.beginTx.mapError ("db: begin read-only tx: " ++ ·)
  let columns ← postgres.query
  let result ← readRows maxRows ⟨columns, [], false⟩ postgres.rows
  postgres.err
  postgres.commit.mapError ("db: commit read-only tx: " ++ ·)
  return result

def maxQueryRows : Nat := 500

structure QueryResponse where
  columns : List String := []
  rows : List (List Value) := []
  rowCount : Nat := 0
  durationMs : Int := 0
  truncated : Bool := false
  error : String := ""

def marshalRows (rows : List (List Value)) : Option (List Json) :=
    rows.mapM fun row => (marshalItems row).map .array

/-- A field that is left out when it is empty. -/
def omitempty (isEmpty : Bool) (name : String) (value : Json) : List (String × Json) :=
  if isEmpty then [] else [(name, value)]

def QueryResponse.marshal (response : QueryResponse) : Option Json := do
  let rows ← marshalRows response.rows
  return .object
    (omitempty response.columns.isEmpty "columns" (.array (response.columns.map .string)) ++
    omitempty response.rows.isEmpty "rows" (.array rows) ++
    [("rowCount", .number response.rowCount 0), ("durationMs", .number response.durationMs 0),
      ("truncated", .bool response.truncated)] ++
    omitempty response.error.isEmpty "error" (.string response.error))

structure HttpResponse where
  status : Nat
  body : List Char

/-- `Encode` writes nothing when the value cannot be marshalled, and its error is dropped. -/
def encode (response : QueryResponse) : HttpResponse :=
  match response.marshal with
  | some json => ⟨200, json.write ++ ['\n']⟩
  | none => ⟨200, []⟩

/-- `Run`, for a request whose body may be malformed. -/
def run (request : Option (List Char)) (postgres : Postgres) (durationMs : Int) : HttpResponse :=
  match request with
  | none => ⟨400, "invalid request body\n".toList⟩
  | some sql =>
    match validateReadOnlySQL sql with
    | (reason, false) => encode { error := reason }
    | (_, true) =>
      match runReadOnlyQuery postgres maxQueryRows with
      | .error err => encode { error := err }
      | .ok result => encode
          { columns := result.columns
            rows := result.rows
            rowCount := result.rows.length
            durationMs := durationMs
            truncated := result.truncated }

/-- `apiPost`. None when it throws. -/
def apiPost (response : HttpResponse) : Option Decoded :=
  if 200 ≤ response.status ∧ response.status < 300 then Decoded.parse response.body else none

def isQueryError (result : Decoded) : Bool := (result.property "error").isSome

end OpenScale.Query
