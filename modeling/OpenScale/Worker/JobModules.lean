import OpenScale.Worker.Services

/-! The seven job modules of the worker, each as an instance of the common form of a job. -/

namespace OpenScale.Worker

open OpenScale.Library OpenScale.Library.Python OpenScale.Jobs

variable {Outside : Type}

/-- The two ints of a text such as `2024-01`. The parts are converted one by one as
the assignment asks for them, also a third one that is too many. -/
def unpackPair (builtins : Builtins) : List (List Char) → Except PyError (Int × Int)
  | [] => .error (.exception "ValueError" "not enough values to unpack (expected 2, got 0)")
  | [first] => do
    let _ ← intOfText builtins first
    .error (.exception "ValueError" "not enough values to unpack (expected 2, got 1)")
  | [first, second] => do
    return (← intOfText builtins first, ← intOfText builtins second)
  | first :: second :: third :: _ => do
    let _ ← intOfText builtins first
    let _ ← intOfText builtins second
    let _ ← intOfText builtins third
    .error (.exception "ValueError" "too many values to unpack (expected 2)")

/-- The loop of `month_range`, from month `m` of year `y` on. -/
def monthsFrom (y m endYear endMonth : Int) : List (Int × Int) :=
  if y < endYear ∨ (y = endYear ∧ m ≤ endMonth) then
    (y, m) :: (if 12 < m + 1 then monthsFrom (y + 1) 1 endYear endMonth
      else monthsFrom y (m + 1) endYear endMonth)
  else []
termination_by ((endYear + 1 - y).toNat, (13 - m).toNat)
decreasing_by
  · apply Prod.Lex.left
    omega
  · apply Prod.Lex.right
    omega

def monthRange (builtins : Builtins) (start finish : Json) : Except PyError (List (Int × Int)) := do
  let (startYear, startMonth) ← unpackPair builtins (← split start '-')
  let (endYear, endMonth) ← unpackPair builtins (← split finish '-')
  return monthsFrom startYear startMonth endYear endMonth

/-- The dict that ingestion yields for one period. -/
inductive PeriodResult where
  | unavailable (period reason : String)
  | rejected (period reason : String)
  | ok (period bronzePath : String) (rows : Nat)

def PeriodResult.dict : PeriodResult → Json
  | unavailable period reason => .object
    [("period", .string period), ("status", .string "UNAVAILABLE"), ("reason", .string reason)]
  | rejected period reason => .object
    [("period", .string period), ("status", .string "REJECTED"), ("reason", .string reason)]
  | ok period bronzePath rows => .object [("period", .string period), ("status", .string "OK"),
    ("bronze_path", .string bronzePath), ("rows", .number rows 0)]

def periodName (year month : Int) : String := zeroPadded 4 year ++ "-" ++ zeroPadded 2 month

/-- One round of the loop of `run_ingestion.run`. -/
def ingestPeriod (services : Services Outside) (fetchFromTlc : Bool) (year month : Int) :
    Task Outside PeriodResult := do
  let fetched : PeriodResult ⊕ String ← rescueOnly ["DownloadError", "FileNotFoundError"]
    (do
      let rawPath ← if fetchFromTlc then services.download year month
          else services.locate year month
      return .inr rawPath)
    fun error => return .inl (.unavailable (periodName year month) error.text)
  match fetched with
  | .inl result => return result
  | .inr rawPath =>
    let df ← services.readParquet rawPath
    let rejected : Option PeriodResult ← rescueOnly ["SchemaValidationError"]
      (do
        services.validate df
        return none)
      fun error => return some (.rejected (periodName year month) error.text)
    match rejected with
    | some result => return result
    | none =>
      let bronzePath ← services.upload df year month
      return .ok (periodName year month) bronzePath df.rows

structure IngestLocals where
  okCount : Nat
  rowsProcessed : Int
  failedPeriods : List String

def IngestLocals.note (locals : IngestLocals) : PeriodResult → IngestLocals
  | .ok _ _ rows =>
    { locals with okCount := locals.okCount + 1, rowsProcessed := locals.rowsProcessed + rows }
  | .unavailable period reason =>
    { locals with failedPeriods := locals.failedPeriods ++
      [period ++ ": UNAVAILABLE (" ++ reason ++ ")"] }
  | .rejected period reason =>
    { locals with failedPeriods := locals.failedPeriods ++
      [period ++ ": REJECTED (" ++ reason ++ ")"] }

/-- The periods that the params ask for, before the try block of the job. -/
def ingestPeriods (builtins : Builtins) (params : Json) :
    Except PyError (Option (List (Int × Int))) := do
  let start ← get params "start"
  let finish ← get params "end"
  if truthy start && truthy finish then return some (← monthRange builtins start finish)
  else return none

def ingestAll (services : Services Outside) (onLogLine : OnLogLine Outside)
    (periods : Option (List (Int × Int))) : Body Outside IngestLocals (Result ⊕ Unit) := do
  let targetPeriods ← Program.outer (match periods with
    | some periods => pure periods
    | none => services.availablePeriods)
  Program.forEach targetPeriods fun (year, month) => do
    let result ← Program.outer (ingestPeriod services periods.isSome year month)
    log onLogLine (services.builtins.str result.dict)
    setLocals fun locals => locals.note result
  return .inr ()

/-- The status of the job, from those of its periods. -/
def ingestResult : Body Outside IngestLocals Result := do
  let ⟨_, locals⟩ ← frame
  let error := "; ".intercalate locals.failedPeriods
  if locals.failedPeriods.isEmpty then
    ends .succeeded none (fun locals => some locals.rowsProcessed) none
  else if locals.okCount = 0 then ends .failed (some error) (fun _ => none) none
  else ends .partialSuccess (some error) (fun locals => some locals.rowsProcessed) none

def ingest (services : Services Outside) : Handler Outside := fun params onLogLine => do
  let periods ← fromExcept (ingestPeriods services.builtins params)
  tryJob onLogLine (⟨0, 0, []⟩ : IngestLocals) (fun locals => orNone locals.rowsProcessed)
    (ingestAll services onLogLine periods) fun _ => ingestResult

def validateAll (services : Services Outside) (onLogLine : OnLogLine Outside) :
    Body Outside Int (Result ⊕ Unit) := do
  let periods ← Program.outer services.bronzePeriods
  Program.forEach periods fun (year, month) => do
    let report ← Program.outer (services.processPeriod year month)
    log onLogLine (services.builtins.str report.dict)
    setLocals fun rowsProcessed => rowsProcessed + report.recordsProcessed
  return .inr ()

def silver (services : Services Outside) : Handler Outside := fun _ onLogLine =>
  tryJob onLogLine (0 : Int) orNone (validateAll services onLogLine) fun _ =>
    ends .succeeded none some none

/-- `run_gold.JOBS`, by the names that it prints. -/
def goldJobs : List String := ["daily_revenue", "hourly_demand", "zone_stats", "congestion_metrics"]

def writeGold (services : Services Outside) (onLogLine : OnLogLine Outside) :
    Body Outside Unit (Result ⊕ Unit) := do
  Program.forEach goldJobs fun job => do
    let path ← Program.outer (services.goldJob job)
    log onLogLine (services.builtins.str (.object [("job", .string job), ("path", .string path)]))
  return .inr ()

def gold (services : Services Outside) : Handler Outside := fun _ onLogLine =>
  tryJob onLogLine () (fun _ => none) (writeGold services onLogLine)
    fun _ => ends .succeeded none (fun _ => none) none

def writeFeatures (services : Services Outside) (onLogLine : OnLogLine Outside) :
    Body Outside Unit (Result ⊕ FeatureCounts) := do
  let result ← Program.outer services.computeFeatures
  log onLogLine (services.builtins.str (.object [("feature_rows", .number result.featureRows 0),
    ("postgres_table", .string "zone_hour_features"),
    ("redis_keys_written", .number result.redisKeysWritten 0)]))
  return .inr result

def features (services : Services Outside) : Handler Outside := fun _ onLogLine =>
  tryJob onLogLine () (fun _ => none) (writeFeatures services onLogLine)
    fun result => ends .succeeded none (fun _ => some result.featureRows) none

def fitModel (services : Services Outside) (onLogLine : OnLogLine Outside) :
    Body Outside Unit (Result ⊕ TrainedModel) := do
  let result ← Program.outer services.trainFareModel
  log onLogLine (services.builtins.str (.object [("run_id", .string result.runId),
    ("rows", .number result.rows 0), ("mae", result.mae), ("rmse", result.rmse),
    ("r2", result.r2)]))
  return .inr result

def train (services : Services Outside) : Handler Outside := fun _ onLogLine =>
  tryJob onLogLine () (fun _ => none) (fitModel services onLogLine)
    fun result => ends .succeeded none (fun _ => some result.rows)
      (some (.object [("mae", result.mae), ("rmse", result.rmse), ("r2", result.r2)]))

section Reset

def postgresTables : List String :=
  ["gold_daily_revenue", "gold_hourly_demand", "gold_zone_stats", "gold_congestion_metrics",
    "zone_hour_features"]

def lakePrefixes : List String := ["bronze", "silver", "gold"]

def onlineFeaturePattern : String := "features:zone:*"

/-- The tables that exist, in their order. -/
def existingTables (services : Services Outside) : List String → Task Outside (List String)
  | [] => return []
  | table :: tables => do
    let present ← services.tableExists table
    let others ← existingTables services tables
    return if present then table :: others else others

def truncatePostgresTables (services : Services Outside) : Task Outside String := do
  services.connectPostgres
  let existing ← Program.always (do
      let existing ← existingTables services postgresTables
      if !existing.isEmpty then services.truncate existing
      services.commit
      return existing)
    services.closePostgres
  return if existing.isEmpty then "postgres: no Gold/feature tables exist yet, nothing to truncate"
    else "postgres: truncated " ++ ", ".intercalate existing

/-- Add the keys of a page to the batch, which is deleted as soon as it has 500. -/
def deletePage (services : Services Outside) : List String → List String → Nat →
    Task Outside (List String × Nat)
  | [], batch, deleted => return (batch, deleted)
  | key :: page, batch, deleted => do
    let batch := batch ++ [key]
    if 500 ≤ batch.length then
      let more ← services.deleteKeys batch
      deletePage services page [] (deleted + more)
    else deletePage services page batch deleted

/-- The loop over `scan_iter`, which asks for a page when the one before is used up. -/
def deleteScanned (services : Services Outside) (batch : List String) (deleted cursor : Nat) :
    Nat → Task Outside (List String × Nat)
  | 0 => Program.stall
  | patience + 1 => do
    let (next, page) ← services.scan cursor onlineFeaturePattern
    let (batch, deleted) ← deletePage services page batch deleted
    if next = 0 then return (batch, deleted) else deleteScanned services batch deleted next patience

def deleteRest (services : Services Outside) (batch : List String) (deleted : Nat) :
    Task Outside Nat :=
  if batch.isEmpty then return deleted else return deleted + (← services.deleteKeys batch)

def deleteOnlineFeatures (services : Services Outside) : Task Outside String := do
  services.connectRedis
  let (batch, deleted) ← deleteScanned services [] 0 0 services.patience
  let deleted ← deleteRest services batch deleted
  return "redis: deleted " ++ toString deleted ++ " online feature keys"

def wipe (services : Services Outside) (onLogLine : OnLogLine Outside) :
    Body Outside Unit (Result ⊕ Unit) := do
  log onLogLine (← Program.outer (truncatePostgresTables services))
  Program.forEach lakePrefixes fun lakePrefix => do
    let deleted ← Program.outer (services.deletePrefix lakePrefix)
    log onLogLine ("minio: deleted " ++ toString deleted ++ " objects under " ++ lakePrefix ++ "/")
  log onLogLine (← Program.outer (deleteOnlineFeatures services))
  return .inr ()

def reset (services : Services Outside) : Handler Outside := fun _ onLogLine =>
  tryJob onLogLine () (fun _ => none) (wipe services onLogLine)
    fun _ => ends .succeeded none (fun _ => none) none

end Reset

section Replay

def tripsTopic : String := "yellow-taxi-trips"
def controlKeyTtlSeconds : Nat := 60 * 60
def pausePollSeconds : PyFloat := .finite 5 (-1)
def defaultLimit : Int := 500
def maxLimit : Int := 5000
def defaultMessagesPerSecond : PyFloat := .finite 10 0
def maxMessagesPerSecond : PyFloat := .finite 100 0
def logEvery : Nat := 50

structure ReplayParams where
  date : Option Json
  limit : Int
  messagesPerSecond : PyFloat

/-- `_resolve_params`. -/
def resolveParams (builtins : Builtins) (params : Json) : Except PyError ReplayParams := do
  let limit ← int builtins (either (← get params "limit") (.number defaultLimit 0))
  let asked ← get params "messagesPerSecond"
  let rate ← if truthy asked then float builtins asked else pure defaultMessagesPerSecond
  let date ← get params "date"
  return {
    date := if truthy date then some date else none
    limit := max 1 (min limit maxLimit)
    messagesPerSecond := (PyFloat.finite 1 (-1)).greatest (rate.least maxMessagesPerSecond) }

/-- A value inside an f-string. -/
def formatted (builtins : Builtins) : Json → String
  | .string text => text
  | value => builtins.str value

def controlKey (builtins : Builtins) (jobId : Json) : String :=
  "openscale:jobs:" ++ formatted builtins jobId ++ ":control"

structure ReplayLocals where
  sent : Nat
  paused : Bool

def isSet (state : ControlState) (field : String) : Bool := state.lookup field == some "true"

/-- The polling while paused: whether the run got cancelled, and the last state seen. -/
def pollPaused (services : Services Outside) (key : String) :
    Nat → Task Outside (Bool × ControlState)
  | 0 => Program.stall
  | patience + 1 => do
    services.sleep pausePollSeconds
    let state ← services.hgetall key
    if isSet state "cancelled" then return (true, state)
    else if !isSet state "paused" then return (false, state)
    else pollPaused services key patience

/-- `_poll_control`. -/
def pollControl (services : Services Outside) (onLogLine : OnLogLine Outside) (key : String) :
    Body Outside ReplayLocals (Bool × ControlState) := do
  let state ← Program.outer (services.hgetall key)
  if isSet state "cancelled" then return (true, state)
  else if isSet state "paused" then
    if !(← frame).locals.paused then
      log onLogLine "paused"
      setLocals fun locals => { locals with paused := true }
    let (cancelled, state) ← Program.outer (pollPaused services key services.patience)
    if cancelled then return (true, state)
    else
      log onLogLine "resumed"
      setLocals fun locals => { locals with paused := false }
      return (false, state)
  else return (false, state)

/-- Without a control hash there is nothing to poll. -/
def checkControl (services : Services Outside) (onLogLine : OnLogLine Outside) :
    Option String → Body Outside ReplayLocals (Bool × ControlState)
  | none => return (false, [])
  | some key => pollControl services onLogLine key

/-- The speed that a control state asks for: "1" when it has none. -/
def speedText (state : ControlState) : String :=
  match state.lookup "speed" with
  | none | some "" => "1"
  | some text => text

def currentSpeed (builtins : Builtins) (key : Option String) (state : ControlState) :
    Except PyError PyFloat :=
  if key.isSome then floatOfText builtins (speedText state).toList else .ok (.finite 1 0)

def logProgress (onLogLine : OnLogLine Outside) (total : Nat) :
    Body Outside ReplayLocals PUnit := do
  let sent := (← frame).locals.sent
  if sent % logEvery = 0 then
    log onLogLine ("sent " ++ toString sent ++ "/" ++ toString total ++ " trips")

/-- The send loop leaves early when the run is cancelled. -/
def stopSending (services : Services Outside) (onLogLine : OnLogLine Outside) (key : Option String)
    (total : Nat) : Body Outside ReplayLocals Result := do
  let sent := (← frame).locals.sent
  log onLogLine ("cancelled after " ++ toString sent ++ "/" ++ toString total ++ " trips")
  let _ ← Program.outer (services.deleteKeys key.toList)
  ends .cancelled none (fun locals => orNone locals.sent) none

def sendTrip (services : Services Outside) (onLogLine : OnLogLine Outside) (key : Option String)
    (total : Nat) (delay : PyFloat) (state : ControlState) (trip : Json) :
    Body Outside ReplayLocals PUnit := do
  let speed ← fromExcept (currentSpeed services.builtins key state)
  Program.outer (services.send tripsTopic trip)
  setLocals fun locals => { locals with sent := locals.sent + 1 }
  logProgress onLogLine total
  Program.outer (services.sleep (← fromExcept (divide services.builtins delay speed)))

/-- The send loop, from the first trip that is left. -/
def sendTrips (services : Services Outside) (onLogLine : OnLogLine Outside) (key : Option String)
    (total : Nat) (delay : PyFloat) : List Json → Body Outside ReplayLocals (Option Result)
  | [] => return none
  | trip :: trips => do
    let control ← checkControl services onLogLine key
    if control.1 then
      let result ← stopSending services onLogLine key total
      return some result
    else
      sendTrip services onLogLine key total delay control.2 trip
      sendTrips services onLogLine key total delay trips

/-- The control hash, initialised where nobody wrote to it yet; none without a job id. -/
def openControl (services : Services Outside) (jobId : Json) : Task Outside (Option String) :=
  if truthy jobId then do
    services.connectRedis
    let key := controlKey services.builtins jobId
    services.hsetnx key "paused" "false"
    services.hsetnx key "speed" "1"
    services.hsetnx key "cancelled" "false"
    services.expire key controlKeyTtlSeconds
    return some key
  else return none

/-- The try block of the replay job. -/
def replayTrips (services : Services Outside) (onLogLine : OnLogLine Outside)
    (params : ReplayParams)
    (key : Option String) : Body Outside ReplayLocals (Result ⊕ Unit) := do
  let (pickupDate, day) ← Program.outer (services.loadDay params.date)
  let day := day.take params.limit.toNat
  let total := day.length
  log onLogLine ("replaying " ++ toString total ++ " trips from " ++ pickupDate ++
    " to '" ++ tripsTopic ++
    "' at " ++ services.builtins.floatText params.messagesPerSecond ++ "/s")
  if total = 0 then
    log onLogLine ("no Silver trips found for " ++ pickupDate)
    return .inl (← ends .succeeded none (fun _ => some 0) none)
  else
    Program.outer services.kafkaProducer
    let delay ← fromExcept (divide services.builtins (.finite 1 0) params.messagesPerSecond)
    match ← sendTrips services onLogLine key total delay day with
    | some result => return .inl result
    | none =>
      Program.outer services.flush
      return .inr ()

/-- After the send loop: the control hash is deleted, and the total is logged. -/
def closeControl (services : Services Outside) (onLogLine : OnLogLine Outside)
    (key : Option String) :
    Body Outside ReplayLocals Result := do
  if key.isSome then
    let _ ← Program.outer (services.deleteKeys key.toList)
  let sent := (← frame).locals.sent
  log onLogLine ("sent " ++ toString sent ++ "/" ++ toString sent ++ " trips to topic '" ++
    tripsTopic ++ "'")
  ends .succeeded none (fun locals => some locals.sent) none

def replay (services : Services Outside) : Handler Outside := fun params onLogLine => do
  let resolved ← fromExcept (resolveParams services.builtins params)
  let key ← openControl services (← fromExcept (get params "job_id"))
  tryJob onLogLine (⟨0, false⟩ : ReplayLocals) (fun locals => orNone locals.sent)
    (replayTrips services onLogLine resolved key) fun _ => closeControl services onLogLine key

end Replay

/-- The handlers of `JOB_TABLE`. -/
def jobHandler (services : Services Outside) : Job → Handler Outside
  | .ingest => ingest services
  | .silver => silver services
  | .gold => gold services
  | .features => features services
  | .train => train services
  | .reset => reset services
  | .replay => replay services

end OpenScale.Worker
