import OpenScale.Library.Python
import OpenScale.Jobs.Run

/-! What the job modules of the worker work with: the values that they pass around,
and the calls that leave them. A call may do anything to what is outside the job
table, and may return, raise or never end. -/

namespace OpenScale.Worker

open OpenScale.Library OpenScale.Library.Python OpenScale.Jobs

/-- Code of the worker that runs outside the job table. -/
abbrev Task (Outside Value : Type) := Program Outside PyError Value

/-- What a job returns: (status, error, log_lines, rows_processed, metrics). -/
structure Result where
  status : Status
  error : Option String
  logLines : List String
  rowsProcessed : Option Int
  metrics : Option Json

abbrev OnLogLine (Outside : Type) := String → Task Outside PUnit

abbrev Handler (Outside : Type) := Json → OnLogLine Outside → Task Outside Result

/-- A pandas data frame, as far as the worker looks at it. -/
structure DataFrame where
  handle : Nat
  rows : Nat

/-- A quality report of the Silver validator. -/
structure QualityReport where
  dict : Json
  recordsProcessed : Int

structure FeatureCounts where
  featureRows : Int
  redisKeysWritten : Int

structure TrainedModel where
  runId : String
  rows : Int
  mae : Json
  rmse : Json
  r2 : Json

/-- The fields of a control hash. -/
abbrev ControlState := List (String × String)

/-- The calls of the job modules into files, MinIO, Spark, MLflow, Kafka, Redis and
the Gold tables, and the publishing of events. -/
structure Services (Outside : Type) where
  builtins : Builtins
  nowIso : Task Outside String
  publish : JobEvent → Task Outside PUnit
  availablePeriods : Task Outside (List (Int × Int))
  download : Int → Int → Task Outside String
  locate : Int → Int → Task Outside String
  readParquet : String → Task Outside DataFrame
  validate : DataFrame → Task Outside PUnit
  upload : DataFrame → Int → Int → Task Outside String
  bronzePeriods : Task Outside (List (Int × Int))
  processPeriod : Int → Int → Task Outside QualityReport
  goldJob : String → Task Outside String
  computeFeatures : Task Outside FeatureCounts
  trainFareModel : Task Outside TrainedModel
  connectPostgres : Task Outside PUnit
  tableExists : String → Task Outside Bool
  truncate : List String → Task Outside PUnit
  commit : Task Outside PUnit
  closePostgres : Task Outside PUnit
  deletePrefix : String → Task Outside Nat
  connectRedis : Task Outside PUnit
  /-- SCAN with MATCH, from a cursor: the next one, and the keys of a page. -/
  scan : Nat → String → Task Outside (Nat × List String)
  deleteKeys : List String → Task Outside Nat
  hsetnx : String → String → String → Task Outside PUnit
  expire : String → Nat → Task Outside PUnit
  hgetall : String → Task Outside ControlState
  loadDay : Option Json → Task Outside (String × List Json)
  kafkaProducer : Task Outside PUnit
  send : String → Json → Task Outside PUnit
  flush : Task Outside PUnit
  sleep : PyFloat → Task Outside PUnit
  /-- How often a paused replay looks again, and how many pages a scan has, before the run under
  study ends. -/
  patience : Nat
  closeConnection : Task Outside PUnit

/-- The services with a history variable beside what they work on. -/
def Services.beside {Outside : Type} (Ghost : Type) (services : Services Outside) :
    Services (Ghost × Outside) where
  builtins := services.builtins
  nowIso := services.nowIso.outer
  publish event := (services.publish event).outer
  availablePeriods := services.availablePeriods.outer
  download year month := (services.download year month).outer
  locate year month := (services.locate year month).outer
  readParquet path := (services.readParquet path).outer
  validate df := (services.validate df).outer
  upload df year month := (services.upload df year month).outer
  bronzePeriods := services.bronzePeriods.outer
  processPeriod year month := (services.processPeriod year month).outer
  goldJob job := (services.goldJob job).outer
  computeFeatures := services.computeFeatures.outer
  trainFareModel := services.trainFareModel.outer
  connectPostgres := services.connectPostgres.outer
  tableExists table := (services.tableExists table).outer
  truncate tables := (services.truncate tables).outer
  commit := services.commit.outer
  closePostgres := services.closePostgres.outer
  deletePrefix lakePrefix := (services.deletePrefix lakePrefix).outer
  connectRedis := services.connectRedis.outer
  scan cursor pattern := (services.scan cursor pattern).outer
  deleteKeys keys := (services.deleteKeys keys).outer
  hsetnx key field value := (services.hsetnx key field value).outer
  expire key seconds := (services.expire key seconds).outer
  hgetall key := (services.hgetall key).outer
  loadDay date := (services.loadDay date).outer
  kafkaProducer := services.kafkaProducer.outer
  send topic value := (services.send topic value).outer
  flush := services.flush.outer
  sleep duration := (services.sleep duration).outer
  patience := services.patience
  closeConnection := services.closeConnection.outer

/-- The locals of a job that outlive an exception in its try block. -/
structure Frame (Locals : Type) where
  logLines : List String
  locals : Locals

/-- Code inside a job. -/
abbrev Body (Outside Locals Value : Type) := Program (Frame Locals × Outside) PyError Value

variable {Outside Locals Value : Type}

/-- Append to `log_lines`, then report the line. -/
def log (onLogLine : OnLogLine Outside) (line : String) : Body Outside Locals PUnit := do
  Program.modify fun (frame, outside) =>
    ({ frame with logLines := frame.logLines ++ [line] }, outside)
  Program.outer (onLogLine line)

def frame : Body Outside Locals (Frame Locals) := do
  let (frame, _) ← Program.get
  return frame

def setLocals (change : Locals → Locals) : Body Outside Locals PUnit :=
  Program.modify fun (frame, outside) => ({ frame with locals := change frame.locals }, outside)

/-- The tuple of a job that ends as it should. -/
def ends (status : Status) (error : Option String) (rowsProcessed : Locals → Option Int)
    (metrics : Option Json) : Body Outside Locals Result := do
  let frame ← frame
  return ⟨status, error, frame.logLines, rowsProcessed frame.locals, metrics⟩

/-- The `except Exception` branch of a job. -/
def failed (onLogLine : OnLogLine Outside) (partialRows : Locals → Option Int) (error : PyError) :
    Body Outside Locals (Result ⊕ Value) := do
  log onLogLine error.line
  let result ← ends .failed (some error.line) partialRows none
  return .inl result

/-- The form of every job: a try block that returns early or computes a value, the
`except` branch, and what comes after them. -/
def tryJob (onLogLine : OnLogLine Outside) (initial : Locals) (partialRows : Locals → Option Int)
    (body : Body Outside Locals (Result ⊕ Value)) (rest : Value → Body Outside Locals Result) :
    Task Outside Result :=
  Program.locally ⟨[], initial⟩ do
    match ← rescue body (failed onLogLine partialRows) with
    | .inl result => return result
    | .inr value => rest value

end OpenScale.Worker
