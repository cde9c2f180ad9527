import OpenScale.Ingestion.Schema
import OpenScale.Lake.Gold
import OpenScale.Warehouse.Names

/-! What the stages of the pipeline hand to each other: the raw files, the objects of the lake and
the tables of Gold. -/

namespace OpenScale.Warehouse

open OpenScale.Library OpenScale.Library.Python OpenScale.Lake OpenScale.Ingestion
open OpenScale.Worker hiding DataFrame

/-- A row of one of the four Gold datasets. -/
inductive GoldRow where
  | dailyRevenue (row : DailyRevenue)
  | hourlyDemand (row : HourlyDemand)
  | zoneStats (row : ZoneStats)
  | congestionMetrics (row : CongestionMetrics)

/-- The primary key of its table. -/
def GoldRow.key : GoldRow → Option Int
  | dailyRevenue row => row.pickupDate
  | hourlyDemand row => row.pickupHour
  | zoneStats row => row.puLocationId
  | congestionMetrics row => row.pickupDate

/-- The contents of an object of the lake, or a row of a table. -/
inductive Data where
  | bronze (df : DataFrame)
  | silver (rows : List SilverTrip)
  | quarantine (rows : List Trip)
  /-- A Parquet file that Spark wrote. -/
  | part (rows : List GoldRow)
  /-- `_SUCCESS`. -/
  | marker
  | row (row : GoldRow)

abbrev Bytes := List UInt8

/-- The objects of the lake by their keys. -/
abbrev Objects := AList fun _ : String => Data

/-- What TLC's CDN answers to a request: the body comes in chunks. -/
structure Response where
  statusCode : Nat
  reason : String
  chunks : List Bytes

def Response.body (response : Response) : Bytes := response.chunks.flatten

abbrev Tlc := Int → Int → Response

/-- What is fixed for a worker: where its raw files are, and what pandas reads in the bytes of a
file. -/
structure Site where
  rawDir : String
  decode : Bytes → Except PyError DataFrame

/-- What the ingest job works on: the files under `RAW_DIR` by their paths, the data frames in
memory, and the lake. -/
structure Landing where
  raw : AList fun _ : String => Bytes
  frames : List DataFrame
  lake : Objects

variable (site : Site)

section Downloader

def rawPath (month : Int × Int) : String := objectAt site.rawDir (Months.nameOf month ++ ".parquet")

/-- `dest.with_suffix(".part")` -/
def partPath (month : Int × Int) : String := objectAt site.rawDir (Months.nameOf month ++ ".part")

def exists_ (path : String) : Task (Fated Landing) Bool :=
  call fun landing => .ok (decide (path ∈ landing.raw), landing)

def setFile (path : String) (bytes : Bytes) : Landing → Landing :=
  fun landing => { landing with raw := landing.raw.insert path bytes }

/-- `open(path, "wb")` -/
def openFile (path : String) : Task (Fated Landing) PUnit :=
  call fun landing => .ok (⟨⟩, setFile path [] landing)

def write (path : String) (chunk : Bytes) : Task (Fated Landing) PUnit :=
  call fun landing => .ok (⟨⟩, setFile path ((landing.raw.lookup path).getD [] ++ chunk) landing)

/-- `Path.replace`: the file has its new name from one moment to the next. -/
def replace (path dest : String) : Task (Fated Landing) PUnit :=
  call fun landing =>
    match landing.raw.lookup path with
    | none =>
      .error
        (.exception "FileNotFoundError" ("[Errno 2] No such file or directory: '" ++ path ++ "'"))
    | some bytes => .ok (⟨⟩, { landing with raw := (landing.raw.erase path).insert dest bytes })

def url (year month : Int) : String :=
  "https://d37ci6vzurychx.cloudfront.net/trip-data/yellow_tripdata_" ++ periodName year month ++
    ".parquet"

def locate (year month : Int) : Task (Fated Landing) String := do
  let path := rawPath site (year, month)
  if ← exists_ path then return path
  else
    Program.raise
      (.exception "FileNotFoundError" ("No raw file for " ++ periodName year month ++ " at " ++
        path ++ ". Run download(year, month) or the CLI in this module first."))

/-- `raise_for_status`, with the two answers that the downloader has a text of its own for. -/
def checkStatus (response : Response) (year month : Int) : Except PyError Unit :=
  if response.statusCode = 403 ∨ response.statusCode = 404 then
    .error
      (.exception "DownloadError" ("No TLC data published for " ++ periodName year month ++
        " (HTTP " ++ toString response.statusCode ++ " from " ++ url year month ++ "). " ++
        "TLC typically publishes each month's data ~2 months later."))
  else if 400 ≤ response.statusCode ∧ response.statusCode < 500 then
    .error
      (.exception "HTTPError" (toString response.statusCode ++ " Client Error: " ++
        response.reason ++ " for url: " ++ url year month))
  else if 500 ≤ response.statusCode ∧ response.statusCode < 600 then
    .error
      (.exception "HTTPError" (toString response.statusCode ++ " Server Error: " ++
        response.reason ++ " for url: " ++ url year month))
  else .ok ()

/-- The body goes to the temporary file chunk by chunk. The iteration only ends where the body
does. -/
def stream (response : Response) (path : String) : Task (Fated Landing) PUnit := do
  openFile path
  Program.always (do
      Program.forEach response.chunks fun chunk => do
        elsewhere ⟨⟩ -- the chunk arrives
        write path chunk
      elsewhere ⟨⟩) -- so does the end of the body
    (elsewhere ⟨⟩) -- the file is closed

def download (tlc : Tlc) (year month : Int) (force : Bool) : Task (Fated Landing) String := do
  elsewhere ⟨⟩ -- RAW_DIR.mkdir
  let dest := rawPath site (year, month)
  let present ← exists_ dest
  if present && !force then return dest
  else
    let response ← elsewhere (tlc year month)
    Program.always (do
        fromExcept (checkStatus response year month)
        stream response (partPath site (year, month)))
      (elsewhere ⟨⟩) -- the response is closed
    replace (partPath site (year, month)) dest
    return dest

def isParquet (path : String) : Bool := ".parquet".toList.isSuffixOf path.toList

/-- The month that a file name says. -/
def periodOf (builtins : Builtins) (path : String) : Except PyError (Int × Int) :=
  unpackPair builtins (splitOn '-' (stem path.toList))

def availablePeriods (builtins : Builtins) : Task (Fated Landing) (List (Int × Int)) := do
  let files ← call fun landing => .ok (landing.raw.keys.filter isParquet, landing)
  fromExcept ((sorted files).mapM (periodOf builtins))

/-- The command line of the downloader: a month that TLC has not published is skipped. -/
def downloadAll (tlc : Tlc) (periods : List (Int × Int)) (force : Bool) :
    Task (Fated Landing) PUnit :=
  Program.forEach periods fun (year, month) =>
    rescueOnly ["DownloadError"] (do
        let _ ← download site tlc year month force)
      fun _ => pure ⟨⟩

end Downloader

/-- `pd.read_parquet` of a raw file. The frame stays in memory. -/
def readRaw (path : String) : Task (Fated Landing) Worker.DataFrame :=
  call fun landing =>
    match landing.raw.lookup path with
    | none =>
      .error
        (.exception "FileNotFoundError" ("[Errno 2] No such file or directory: '" ++ path ++ "'"))
    | some bytes => do
      let df ← site.decode bytes
      return (⟨landing.frames.length, df.length⟩, { landing with frames := landing.frames ++ [df] })

def frameOf (landing : Landing) (df : Worker.DataFrame) : Except PyError DataFrame :=
  match landing.frames[df.handle]? with
  | some frame => .ok frame
  | none => .error (.exception "NameError" "name 'df' is not defined")

def validateFrame (df : Worker.DataFrame) : Task (Fated Landing) PUnit :=
  call fun landing => do
    let frame ← frameOf landing df
    validate frame
    return (⟨⟩, landing)

def upload (df : Worker.DataFrame) (year month : Int) : Task (Fated Landing) String :=
  call fun landing => do
    let frame ← frameOf landing df
    let path := bronzePath year month
    return (path, { landing with lake := landing.lake.insert (objectKey path) (.bronze frame) })

/-- The calls of the ingest job; it makes no other ones. -/
def ingestServices (tlc : Tlc) (base : Services (Fated Landing)) : Services (Fated Landing) :=
  { base with
    availablePeriods := availablePeriods base.builtins
    download := fun year month => download site tlc year month false
    locate := locate site
    readParquet := readRaw site
    validate := validateFrame
    upload := upload }

end OpenScale.Warehouse
