import Mathlib.Data.List.AList
import OpenScale.Lake.Gold
import OpenScale.Library.Fated
import OpenScale.Library.Scan
import OpenScale.Worker.JobModules

/-! The stores that the features job and the reset job reach, and their calls: Silver,
Postgres with one connection at a time, and Redis. -/

namespace OpenScale.FeatureStore

open OpenScale.Library OpenScale.Library.Python OpenScale.Lake OpenScale.Worker

/-- A row of `zone_hour_features`. None stands for NULL. -/
structure OfflineRow where
  puLocationId : Int
  pickupHour : Int
  tripCount : Nat
  avgFare : Float64
  avgTripDistance : Float64
  avgTip : Float64
  avgPassengerCount : Float64

/-- The dict whose JSON text a key of the online store holds. -/
structure OnlineValue where
  tripCount : Nat
  avgFare : Float64
  avgTripDistance : Float64
  avgTip : Float64
  avgPassengerCount : Float64

/-- The tables of Postgres: `zone_hour_features`, if it exists, and the names of the others. -/
structure Tables where
  features : Option (List OfflineRow)
  others : List String

abbrev Online := AList fun _ : String => OnlineValue

structure Stores where
  /-- The rows under `silver/trips`, if there is anything. -/
  silver : Option (List SilverTrip)
  tables : Tables
  /-- What the open transaction has made of the tables. -/
  transaction : Option Tables
  online : Online

abbrev World := Fated Stores

section Calls

variable {Value : Type}

/-- A call to Redis. -/
def redis (effect : Online → Value × Online) : Task World Value :=
  call fun stores =>
    .ok ((effect stores.online).1, { stores with online := (effect stores.online).2 })

/-- A statement. The first one of a connection begins its transaction. -/
def statement (effect : Tables → Except PyError (Value × Tables)) : Task World Value :=
  call fun stores => do
    let (value, tables) ← effect (stores.transaction.getD stores.tables)
    return (value, { stores with transaction := some tables })

/-- A new connection has no transaction. -/
def connect : Task World PUnit := call fun stores => .ok (⟨⟩, { stores with transaction := none })

def commit : Task World PUnit :=
  call fun stores => .ok (⟨⟩, { stores with
    tables := stores.transaction.getD stores.tables
    transaction := none })

/-- Closing a connection rolls its transaction back. -/
def close : Task World PUnit := call fun stores => .ok (⟨⟩, { stores with transaction := none })

end Calls

def featureTable : String := "zone_hour_features"

section Postgres

/-- `SELECT to_regclass(%s) IS NOT NULL`. -/
def tableExists (table : String) : Task World Bool :=
  statement fun tables => .ok
    (if table = featureTable then tables.features.isSome else tables.others.contains table, tables)

/-- `CREATE TABLE IF NOT EXISTS zone_hour_features`. -/
def createTable : Task World PUnit :=
  statement fun tables => .ok (⟨⟩, { tables with features := some (tables.features.getD []) })

/-- TRUNCATE of tables that exist. -/
def truncate (names : List String) : Task World PUnit :=
  statement fun tables =>
    .ok (⟨⟩, if names.contains featureTable
      then { tables with features := tables.features.map fun _ => [] }
      else tables)

def OfflineRow.key (row : OfflineRow) : Int × Int := (row.puLocationId, row.pickupHour)

def insertRow (row : OfflineRow) : Task World PUnit :=
  statement fun tables =>
    match tables.features with
    | none => .error (.exception "UndefinedTable" "relation \"zone_hour_features\" does not exist")
    | some rows =>
      if row.key ∈ rows.map OfflineRow.key then
        .error (.exception "UniqueViolation"
          "duplicate key value violates unique constraint \"zone_hour_features_pkey\"")
      else .ok (⟨⟩, { tables with features := some (rows ++ [row]) })

end Postgres

section Redis

def set (key : String) (value : OnlineValue) : Task World PUnit :=
    redis fun online => (⟨⟩, online.insert key value)

/-- DEL, and the number of keys that were there. -/
def delete (keys : List String) : Task World Nat :=
  redis fun online =>
    ((keys.dedup.filter fun key => decide (key ∈ online)).length,
      keys.foldl (fun online key => online.erase key) online)

end Redis

/-- What nobody decides: how Spark adds doubles up and orders rows, in what order and how
often SCAN lists the keys while they are deleted, and how many objects are under a prefix. -/
structure Cluster extends Spark where
  collect : List ZoneHourFeatures → List ZoneHourFeatures
  collect_perm : ∀ rows, (collect rows).Perm rows
  scanner : Scanner String
  objects : String → Nat

variable (cluster : Cluster)

/-- `load_silver_trips`, `build_features` and `toPandas`: nothing is read before. -/
def collectFeatures : Task World (List ZoneHourFeatures) :=
  call fun stores =>
    match stores.silver with
    | none => .error (.exception "AnalysisException" "[PATH_NOT_FOUND] Path does not exist")
    | some df => .ok (cluster.collect (buildFeatures cluster.toSpark df), stores)

/-- `delete_prefix`. -/
def deletePrefix (lakePrefix : String) : Task World Nat :=
  call fun stores =>
    .ok (cluster.objects lakePrefix, if lakePrefix = "silver" then { stores with silver := none }
      else stores)

/-- SCAN with MATCH: of the keys of a page it returns those that match. -/
def scan (cursor : Nat) (pattern : String) : Task World (Nat × List String) :=
  redis fun online =>
    let (page, next) := cluster.scanner.page cursor online.keys
    ((next, page.filter fun key => globMatches pattern.toList key.toList), online)

end OpenScale.FeatureStore
