import OpenScale.Lake.Trips
import OpenScale.Library.Fallible
import OpenScale.Library.Python

/-! `schema_validator`: the gate between a raw file and Bronze. It passes exactly those data frames
whose rows can be read as trips, whatever other columns they have. -/

namespace OpenScale.Ingestion

open OpenScale.Library OpenScale.Library.Python OpenScale.Lake

/-- The dtypes that the lake knows, by what pandas prints for them. -/
def knownDtypes : List String := ["int32", "int64", "float64", "datetime64[us]", "object"]

inductive Dtype where
  | int32
  | int64
  | float64
  | datetime64us
  | object
  | other (name : String) (unknown : name ∉ knownDtypes)
  deriving DecidableEq

namespace Dtype

/-- `str(dtype)`. -/
def name : Dtype → String
  | int32 => "int32"
  | int64 => "int64"
  | float64 => "float64"
  | datetime64us => "datetime64[us]"
  | object => "object"
  | other name _ => name

def Value : Dtype → Type
  | int32 | int64 => Int
  | float64 => Float64
  | datetime64us => Datetime
  | object => Option String
  | other _ _ => Unit

def ofName (name : String) : Dtype :=
  if known : name ∈ knownDtypes then
    if name = "int32" then int32
    else if name = "int64" then int64
    else if name = "float64" then float64
    else if name = "datetime64[us]" then datetime64us
    else object
  else other name known

theorem ofName_name (dtype : Dtype) : ofName dtype.name = dtype := by
  cases dtype with
  | other name unknown => exact dif_neg unknown
  | _ => decide

theorem name_injective : Function.Injective name := Function.LeftInverse.injective ofName_name

end Dtype

structure Series where
  dtype : Dtype
  values : List dtype.Value

/-- A pandas data frame: its columns have different names and the same length. -/
structure DataFrame where
  columns : List (String × Series)
  length : Nat
  aligned : ∀ column ∈ columns, column.2.values.length = length
  distinct : (columns.map Prod.fst).Nodup

/-- `EXPECTED_COLUMNS`, in its order. -/
def expectedColumns : List (String × Dtype) :=
  [("VendorID", .int32), ("tpep_pickup_datetime", .datetime64us),
    ("tpep_dropoff_datetime", .datetime64us),
    ("passenger_count", .float64), ("trip_distance", .float64), ("RatecodeID", .float64),
    ("store_and_fwd_flag", .object), ("PULocationID", .int32), ("DOLocationID", .int32),
    ("payment_type", .int64),
    ("fare_amount", .float64), ("extra", .float64), ("mta_tax", .float64), ("tip_amount", .float64),
    ("tolls_amount", .float64), ("improvement_surcharge", .float64), ("total_amount", .float64),
    ("congestion_surcharge", .float64), ("Airport_fee", .float64)]

/-- `sorted` of strings. -/
def sorted (names : List String) : List String := names.mergeSort fun first second => first ≤ second

/-- `str` of a list of column names, none of which needs an escape. -/
def listText (names : List String) : String :=
  "[" ++ ", ".intercalate (names.map fun name => "'" ++ name ++ "'") ++ "]"

def schemaValidationError (text : String) : PyError := .exception "SchemaValidationError" text

variable (df : DataFrame)

def missing : List String := (expectedColumns.map Prod.fst).filter fun column =>
  (df.columns.lookup column).isNone

/-- What is said of a column whose dtype is another one than expected. -/
def mismatch? (expected : String × Dtype) : Option String :=
  match df.columns.lookup expected.1 with
  | some series =>
    if series.dtype.name = expected.2.name then none
    else some (expected.1 ++ ": expected " ++ expected.2.name ++ ", got " ++ series.dtype.name)
  | none => none

def validate : Except PyError Unit :=
  if missing df ≠ [] then
    .error (schemaValidationError ("Missing expected columns: " ++ listText (sorted (missing df))))
  else
    match expectedColumns.filterMap (mismatch? df) with
    | [] => .ok ()
    | mismatched =>
      .error (schemaValidationError ("Dtype mismatch: " ++ "; ".intercalate mismatched))

def DataFrame.typed (dtype : Dtype) (column : String) : Option (List dtype.Value) :=
  match df.columns.lookup column with
  | some series => if same : series.dtype = dtype then some (same ▸ series.values) else none
  | none => none

/-- The rows as those of `Trip`, if each of its columns is there with its dtype. -/
def DataFrame.trips : Option (List Trip) := do
  let vendorId ← df.typed .int32 "VendorID"
  let tpepPickupDatetime ← df.typed .datetime64us "tpep_pickup_datetime"
  let tpepDropoffDatetime ← df.typed .datetime64us "tpep_dropoff_datetime"
  let passengerCount ← df.typed .float64 "passenger_count"
  let tripDistance ← df.typed .float64 "trip_distance"
  let ratecodeId ← df.typed .float64 "RatecodeID"
  let storeAndFwdFlag ← df.typed .object "store_and_fwd_flag"
  let puLocationId ← df.typed .int32 "PULocationID"
  let doLocationId ← df.typed .int32 "DOLocationID"
  let paymentType ← df.typed .int64 "payment_type"
  let fareAmount ← df.typed .float64 "fare_amount"
  let extra ← df.typed .float64 "extra"
  let mtaTax ← df.typed .float64 "mta_tax"
  let tipAmount ← df.typed .float64 "tip_amount"
  let tollsAmount ← df.typed .float64 "tolls_amount"
  let improvementSurcharge ← df.typed .float64 "improvement_surcharge"
  let totalAmount ← df.typed .float64 "total_amount"
  let congestionSurcharge ← df.typed .float64 "congestion_surcharge"
  let airportFee ← df.typed .float64 "Airport_fee"
  return (List.range df.length).map fun row => {
    vendorId := vendorId.getD row (0 : Int)
    tpepPickupDatetime := tpepPickupDatetime.getD row none
    tpepDropoffDatetime := tpepDropoffDatetime.getD row none
    passengerCount := passengerCount.getD row none
    tripDistance := tripDistance.getD row none
    ratecodeId := ratecodeId.getD row none
    storeAndFwdFlag := storeAndFwdFlag.getD row none
    puLocationId := puLocationId.getD row (0 : Int)
    doLocationId := doLocationId.getD row (0 : Int)
    paymentType := paymentType.getD row (0 : Int)
    fareAmount := fareAmount.getD row none
    extra := extra.getD row none
    mtaTax := mtaTax.getD row none
    tipAmount := tipAmount.getD row none
    tollsAmount := tollsAmount.getD row none
    improvementSurcharge := improvementSurcharge.getD row none
    totalAmount := totalAmount.getD row none
    congestionSurcharge := congestionSurcharge.getD row none
    airportFee := airportFee.getD row none }

section Gate

variable {df} {dtype : Dtype} {column : String}

theorem typed_isSome : (df.typed dtype column).isSome ↔
    ∃ series, df.columns.lookup column = some series ∧ series.dtype = dtype := by
  unfold DataFrame.typed
  cases found : df.columns.lookup column with
  | none => simp
  | some series =>
    by_cases same : series.dtype = dtype
    · simp [same]
    · simp [same]

/-- A step of a chain of reads that does not choose how the chain goes on. -/
theorem isSome_bind_of {First Second : Type} {read : Option First} {rest : First → Option Second}
    {fits : Prop}
    (decides : ∀ value, (rest value).isSome ↔ fits) : (read >>= rest).isSome ↔
    read.isSome ∧ fits := by
  cases read with
  | none => simp
  | some value => simpa using decides value

theorem trips_isSome : df.trips.isSome ↔
    ∀ expected ∈ expectedColumns, (df.typed expected.2 expected.1).isSome := by
  simp only [expectedColumns, List.forall_mem_cons]
  unfold DataFrame.trips
  repeat' refine isSome_bind_of fun _ => ?_
  simp

theorem mem_missing : column ∈ missing df ↔
    column ∈ expectedColumns.map Prod.fst ∧ ∀ series, df.columns.lookup column ≠ some series := by
  rw [missing, List.mem_filter, Option.isNone_iff_eq_none, Option.eq_none_iff_forall_ne_some]

theorem typed_of_mismatch_eq_none {expected : String × Dtype}
    (present : (df.columns.lookup expected.1).isSome) :
    (mismatch? df expected = none ↔ (df.typed expected.2 expected.1).isSome) := by
  obtain ⟨series, found⟩ := Option.isSome_iff_exists.mp present
  rw [typed_isSome, mismatch?, found]
  by_cases same : series.dtype = expected.2
  · simp [same]
  · simp [same, Dtype.name_injective.ne same]

theorem validate_eq_ok : validate df = .ok () ↔ df.trips.isSome := by
  rw [trips_isSome]
  unfold validate
  by_cases complete : missing df = []
  · have present : ∀ expected ∈ expectedColumns, (df.columns.lookup expected.1).isSome := by
      intro expected member
      by_contra absent
      have listed : expected.1 ∈ missing df :=
        mem_missing.mpr ⟨List.mem_map_of_mem member, fun series found => absent (found ▸ rfl)⟩
      rw [complete] at listed
      cases listed
    have matches_ : expectedColumns.filterMap (mismatch? df) = [] ↔
        ∀ expected ∈ expectedColumns, (df.typed expected.2 expected.1).isSome := by
      rw [List.filterMap_eq_nil_iff]
      exact forall₂_congr fun expected member => typed_of_mismatch_eq_none (present expected member)
    rw [if_neg (not_not.mpr complete), ← matches_]
    split
    next none_ => simp [none_]
    next some_ =>
      simp only [reduceCtorEq, false_iff]
      exact some_
  · rw [if_pos complete]
    simp only [reduceCtorEq, false_iff]
    obtain ⟨column, listed⟩ := List.exists_mem_of_ne_nil _ complete
    obtain ⟨known, absent⟩ := mem_missing.mp listed
    obtain ⟨expected, member, rfl⟩ := List.mem_map.mp known
    intro typed
    obtain ⟨series, found, _⟩ := typed_isSome.mp (typed expected member)
    exact absent series found

end Gate

end OpenScale.Ingestion
