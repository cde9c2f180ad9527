import OpenScale.Warehouse.Stores

/-! The silver job and the gold job, call by call. -/

namespace OpenScale.Warehouse

open OpenScale.Library OpenScale.Library.Python OpenScale.Lake OpenScale.Ingestion
open OpenScale.Worker hiding DataFrame

abbrev World := Reset.World Data

def putObject (key : String) (data : Data) : Task World PUnit :=
  call fun stores => .ok (⟨⟩, { stores with lake := stores.lake.insert key data })

section Silver

def bronzeDirectory : String := "bronze/yellow_taxi"

/-- `available_periods` of the validator: the months that Bronze has an object for. -/
def bronzePeriods (builtins : Builtins) : Task World (List (Int × Int)) := do
  if !(← Reset.listing (Reset.pathExists bronzeDirectory)) then return []
  let names ← Reset.listing (Reset.ls bronzeDirectory)
  fromExcept ((sorted names).mapM (periodOf builtins))

/-- `pd.read_parquet` of a Bronze object, and its columns by the names that the validator reads. -/
def readBronze (year month : Int) : Task World (List Trip) :=
  call fun stores =>
    match stores.lake.lookup (objectKey (bronzePath year month)) with
    | some (.bronze df) =>
      match df.trips with
      | some trips => .ok (trips, stores)
      | none => .error (.exception "KeyError" "'tpep_pickup_datetime'")
    | some _ => .error (.exception "ArrowInvalid" "Could not open Parquet input source")
    | none => .error (.exception "FileNotFoundError" (bronzePath year month))

/-- `process_period`: the trips are written first, then the quarantine files. -/
def validatePeriod (year month : Int) : Task World QualityReport := do
  let df ← readBronze year month
  let done := processPeriod year month df
  elsewhere ⟨⟩ -- QUALITY_REPORTS_DIR.mkdir
  putObject (objectKey done.trips.1) (.silver done.trips.2)
  Program.forEach done.quarantine fun file => putObject (objectKey file.1) (.quarantine file.2)
  elsewhere ⟨⟩ -- the report is a local file
  return done.report.qualityReport

end Silver

/-- How Spark adds up, in what order it reads files, and how it names those that it writes. -/
structure Cluster extends Spark where
  arrange : List String → List String
  arrange_perm : ∀ files, (arrange files).Perm files
  uuid : String

/-- One of the modules under `spark/gold`. -/
structure GoldModule where
  name : String
  goldTable : String
  build : Spark → List SilverTrip → List GoldRow
  /-- The key goes through `int`, which takes no missing value. A date may be None. -/
  wholeKey : Bool

section Modules

def dailyRevenue : GoldModule where
  name := "daily_revenue"
  goldTable := "gold_daily_revenue"
  build spark df := (DailyRevenue.build spark df).map .dailyRevenue
  wholeKey := false

def hourlyDemand : GoldModule where
  name := "hourly_demand"
  goldTable := "gold_hourly_demand"
  build spark df := (HourlyDemand.build spark df).map .hourlyDemand
  wholeKey := true

def zoneStats : GoldModule where
  name := "zone_stats"
  goldTable := "gold_zone_stats"
  build spark df := (ZoneStats.build spark df).map .zoneStats
  wholeKey := true

def congestionMetrics : GoldModule where
  name := "congestion_metrics"
  goldTable := "gold_congestion_metrics"
  build spark df := (CongestionMetrics.build spark df).map .congestionMetrics
  wholeKey := false

/-- `run_gold.JOBS`. -/
def goldModules : List GoldModule := [dailyRevenue, hourlyDemand, zoneStats, congestionMetrics]

end Modules

section Postgres

/-- The tuple that is inserted for a row. -/
def GoldModule.tuple (job : GoldModule) (row : GoldRow) : Except PyError GoldRow :=
  if row.key = none ∧
    job.wholeKey then .error (.exception "ValueError" "cannot convert float NaN to integer")
    else .ok row

/-- `CREATE TABLE IF NOT EXISTS`. -/
def createTable (table : String) : Task World PUnit :=
  Reset.statement fun tables => .ok (⟨⟩, if table ∈ tables then tables else tables.insert table [])

/-- The primary key of a row of a Gold table. -/
def Data.key : Data → Option Int
  | .row record => record.key
  | _ => none

def insertRow (table : String) (row : GoldRow) : Task World PUnit :=
  Reset.statement fun tables =>
    match tables.lookup table with
    | none => .error (.exception "UndefinedTable" ("relation \"" ++ table ++ "\" does not exist"))
    | some rows =>
      if row.key = none then
        .error (.exception "NotNullViolation" "null value in column violates not-null constraint")
      else if row.key ∈ rows.map Data.key then
        .error (.exception "UniqueViolation"
          ("duplicate key value violates unique constraint \"" ++ table ++ "_pkey\""))
      else .ok (⟨⟩, tables.insert table (rows ++ [.row row]))

/-- `write_postgres`: the old rows are replaced in one transaction. -/
def GoldModule.writePostgres (job : GoldModule) (pdf : List GoldRow) : Task World PUnit := do
  let rows ← fromExcept (pdf.mapM job.tuple)
  Reset.connect
  Program.always (do
      createTable job.goldTable
      Reset.truncate [job.goldTable]
      Program.forEach rows (insertRow job.goldTable)
      Reset.commit)
    Reset.close

end Postgres

variable (cluster : Cluster)

/-- What Spark reads of an object. -/
def silverRows (lake : Objects) (key : String) : Except PyError (List SilverTrip) :=
  match lake.lookup key with
  | some (.silver rows) => .ok rows
  | _ => .error (.exception "Py4JJavaError" "An error occurred while calling o1.parquet")

/-- The rows under `silver/trips`, where there must be something. -/
def readSilver (lake : Objects) : Except PyError (List SilverTrip) :=
  match cluster.arrange (lake.keys.filter (Reset.isUnder "silver/trips")) with
  | [] =>
    .error
      (.exception "AnalysisException"
        "[PATH_NOT_FOUND] Path does not exist: s3a://openscale-lake/silver/trips")
  | files => do
    let parts ← files.mapM (silverRows lake)
    return parts.flatten

/-- `load_silver_trips` -/
def loadSilverTrips : Task World (List SilverTrip) :=
  call fun stores => do
    let df ← readSilver cluster stores.lake
    return (df, stores)

def GoldModule.directory (job : GoldModule) : String := "gold/" ++ job.name

def GoldModule.partKey (job : GoldModule) : String :=
  objectAt job.directory ("part-00000-" ++ cluster.uuid ++ "-c000.snappy.parquet")

def GoldModule.markerKey (job : GoldModule) : String := objectAt job.directory "_SUCCESS"

def GoldModule.clear (job : GoldModule) : Task World PUnit := do
  let old ← Reset.listing fun keys => keys.filter (Reset.isUnder job.directory)
  Program.forEach old Reset.deleteObject

/-- `write.mode("overwrite").parquet(path)`: what was there is deleted before anything is
written. -/
def GoldModule.overwrite (job : GoldModule) (rows : List GoldRow) : Task World PUnit := do
  job.clear
  putObject (job.partKey cluster) (.part rows)
  putObject job.markerKey .marker

def GoldModule.run (job : GoldModule) : Task World String := do
  elsewhere ⟨⟩ -- get_spark
  Program.always (do
      let df ← loadSilverTrips cluster
      elsewhere ⟨⟩ -- toPandas
      job.writePostgres (job.build cluster.toSpark df)
      job.overwrite cluster (job.build cluster.toSpark df)
      return "s3a://openscale-lake/" ++ job.directory)
    (elsewhere ⟨⟩) -- spark.stop

def runGold (name : String) : Task World String :=
  match goldModules.find? fun job => job.name = name with
  | some job => job.run cluster
  | none => Program.raise (.exception "NameError" ("name '" ++ name ++ "' is not defined"))

/-- The calls of the two jobs; they make no other ones. -/
def lakeServices (base : Services World) : Services World :=
  { base with
    bronzePeriods := bronzePeriods base.builtins
    processPeriod := validatePeriod
    goldJob := runGold cluster }

end OpenScale.Warehouse
