import OpenScale.Worker.Main

/-! Which messages leave their run as running. `main` acknowledges a message however
`handle_message` ends, so a run whose job raises is never taken up again. -/

namespace OpenScale.Worker

open OpenScale.Library OpenScale.Library.Python OpenScale.Jobs OpenScale.Pipeline

variable {Outside Locals Value : Type} {services : Services Outside} {onLogLine : OnLogLine Outside}
variable {outside : Outside} {params : Json}

section Returning

variable {initial : Locals} {partialRows : Locals → Option Int}
variable {body : Body Outside Locals (Result ⊕ Value)} {rest : Value → Body Outside Locals Result}

theorem log_returned {line : String} {frame : Frame Locals} {final : Outside}
    (reported : onLogLine line outside = (.returned ⟨⟩, final)) :
    (log onLogLine line : Body Outside Locals PUnit) (frame, outside) =
      (.returned ⟨⟩, ({ frame with logLines := frame.logLines ++ [line] }, final)) := by
  change Program.outer (onLogLine line) (_, outside) = _
  simp [Program.outer, reported]

theorem log_returns {line : String} {frame : Frame Locals} :
    (log onLogLine line : Body Outside Locals PUnit).Returns (frame, outside) ↔
      (onLogLine line).Returns outside := by
  constructor
  · intro returns
    obtain ⟨_, final, run⟩ := returns
    change Program.outer (onLogLine line) (_, outside) = _ at run
    match reported : onLogLine line outside with
    | (.returned value, final) => exact ⟨value, final, reported⟩
    | (.raised error, final) => simp [Program.outer, reported] at run
    | (.running, final) => simp [Program.outer, reported] at run
  · intro returns
    obtain ⟨_, final, reported⟩ := returns
    exact ⟨_, _, log_returned reported⟩

theorem failed_returns {error : PyError} {frame : Frame Locals} :
    (failed onLogLine partialRows error : Body Outside Locals (Result ⊕ Value)).Returns
    (frame, outside) ↔
      (onLogLine error.line).Returns outside := by
  rw [failed, Program.returns_bind, ← log_returns]
  constructor
  · intro returns
    obtain ⟨_, final, reported, _⟩ := returns
    exact ⟨_, final, reported⟩
  · intro returns
    obtain ⟨_, final, reported⟩ := returns
    exact ⟨_, final, reported, _, _, rfl⟩

theorem ends_yields {status : Status} {error : Option String} {rowsProcessed : Locals → Option Int}
    {metrics : Option Json} :
    (ends status error rowsProcessed metrics : Body Outside Locals Result).Yields
      fun result => result.status = status :=
  .last fun _ => .pure rfl

theorem failed_yields {error : PyError} :
    (failed onLogLine partialRows error : Body Outside Locals (Result ⊕ Value)).Yields
      fun tried => ∃ result, tried = .inl result ∧ result.status = .failed :=
  .last fun _ => .bind ends_yields fun result status => .pure ⟨result, rfl, status⟩

/-- When a job returns whose try block has stopped: it returned early; it ended and the
rest returns; or it raised an `Exception` and the line about it gets reported. -/
def Survives (onLogLine : OnLogLine Outside) (rest : Value → Body Outside Locals Result) :
    Outcome PyError (Result ⊕ Value) × (Frame Locals × Outside) → Prop
  | (.returned (.inl _), _) => True
  | (.returned (.inr value), after) => (rest value).Returns after
  | (.raised error, after) => error.ordinary = true ∧ (onLogLine error.line).Returns after.2
  | (.running, _) => False

theorem tryJob_returns : (tryJob onLogLine initial partialRows body rest).Returns outside ↔
    Survives onLogLine rest (body (⟨[], initial⟩, outside)) := by
  rw [tryJob, Program.returns_locally]
  match run : body (⟨[], initial⟩, outside) with
  | (.returned (.inl result), (frame, after)) =>
    rw [Program.returns_bind, rescue_returned run]
    simp [Program.returns_pure, Survives]
  | (.returned (.inr value), (frame, after)) =>
    rw [Program.returns_bind, rescue_returned run]
    simp [Survives]
  | (.raised error, (frame, after)) =>
    cases ordinary : error.ordinary with
    | false =>
      rw [Program.returns_bind, rescue_interrupt run ordinary]
      simp [ordinary, Survives]
    | true =>
      rw [Program.returns_bind, rescue_ordinary run ordinary]
      simp only [ordinary, Survives, true_and]
      rw [← failed_returns]
      constructor
      · intro returns
        obtain ⟨tried, final, handled, _⟩ := returns
        exact ⟨tried, final, handled⟩
      · intro returns
        obtain ⟨tried, final, handled⟩ := returns
        obtain ⟨result, rfl, _⟩ := failed_yields _ _ _ handled
        exact ⟨_, final, handled, Program.returns_pure⟩
  | (.running, after) =>
    rw [Program.returns_bind, rescue_running run]
    simp [Survives]

theorem tryJob_terminal
    (early : body.Yields fun tried => ∀ result, tried = .inl result →
      result.status.isTerminal = true)
    (last : ∀ value, (rest value).Yields fun result => result.status.isTerminal = true) :
    (tryJob onLogLine initial partialRows body rest).Yields fun result =>
        result.status.isTerminal = true := by
  have handled : ∀ error,
      (failed onLogLine partialRows error : Body Outside Locals (Result ⊕ Value)).Yields
      fun tried => ∀ result, tried = .inl result → result.status.isTerminal = true := by
    intro error state tried final run result early
    obtain ⟨_, rfl, status⟩ := failed_yields _ _ _ run
    cases early
    simp [status]
  refine .locally (.bind (.attempt early fun error => ?_) fun tried terminal => ?_)
  · split
    · exact handled error
    · exact .raise
  · cases tried with
    | inl result => exact .pure (terminal result rfl)
    | inr value => exact last value

end Returning

section Terminal

theorem falls_through {value : Value} :
    (Pure.pure (.inr value) : Body Outside Locals (Result ⊕ Value)).Yields
    fun tried => ∀ result, tried = .inl result → result.status.isTerminal = true :=
  .pure (by simp)

theorem ends_terminal {status : Status} {error : Option String}
    {rowsProcessed : Locals → Option Int}
    {metrics : Option Json} (terminal : status.isTerminal = true) :
    (ends status error rowsProcessed metrics : Body Outside Locals Result).Yields
      fun result => result.status.isTerminal = true :=
  .last fun _ => .pure terminal

theorem ingestResult_terminal : (ingestResult : Body Outside IngestLocals Result).Yields
    fun result => result.status.isTerminal = true := by
  refine .last fun ⟨_, locals⟩ => ?_
  dsimp only
  split
  · exact ends_terminal rfl
  · split
    · exact ends_terminal rfl
    · exact ends_terminal rfl

theorem sendTrips_terminal {key : Option String} {total : Nat} {delay : PyFloat}
    (trips : List Json) : (sendTrips services onLogLine key total delay trips).Yields
      fun early => ∀ result, early = some result → result.status.isTerminal = true := by
  induction trips with
  | nil => exact .pure (by simp)
  | cons trip trips ih =>
    refine .last fun control => ?_
    split
    · have stopped : (stopSending services onLogLine key total).Yields
          fun result => result.status.isTerminal = true :=
        .last fun _ => .last fun _ => .last fun _ => ends_terminal rfl
      refine .bind stopped fun result terminal => .pure fun _ same => ?_
      exact Option.some.inj same ▸ terminal
    · exact .last fun _ => ih

theorem replayTrips_terminal {resolved : ReplayParams} {key : Option String} :
    (replayTrips services onLogLine resolved key).Yields
      fun tried => ∀ result, tried = .inl result → result.status.isTerminal = true := by
  refine .last fun ⟨pickupDate, day⟩ => .last fun _ => ?_
  split
  · refine .last fun _ => .bind (ends_terminal rfl) fun result terminal => .pure fun _ same => ?_
    exact Sum.inl.inj same ▸ terminal
  · refine .last fun _ => .last fun delay => .bind (sendTrips_terminal _) fun early terminal => ?_
    cases early with
    | none => exact .last fun _ => falls_through
    | some result => exact .pure fun _ same => Sum.inl.inj same ▸ terminal result rfl

theorem closeControl_terminal {key : Option String} : (closeControl services onLogLine key).Yields
    fun result => result.status.isTerminal = true := by
  unfold closeControl
  split
  · exact .last fun _ => .last fun _ => .last fun _ => ends_terminal rfl
  · exact .last fun _ => .last fun _ => ends_terminal rfl

theorem jobHandler_terminal (job : Job) : (jobHandler services job params onLogLine).Yields
    fun result => result.status.isTerminal = true := by
  cases job with
  | ingest =>
    refine .last fun _ => tryJob_terminal ?_ fun _ => ingestResult_terminal
    exact .last fun _ => .last fun _ => falls_through
  | silver =>
    refine tryJob_terminal ?_ fun _ => ends_terminal rfl
    exact .last fun _ => .last fun _ => falls_through
  | gold =>
    refine tryJob_terminal ?_ fun _ => ends_terminal rfl
    exact .last fun _ => falls_through
  | features | train =>
    refine tryJob_terminal ?_ fun _ => ends_terminal rfl
    exact .last fun _ => .last fun _ => falls_through
  | reset =>
    refine tryJob_terminal ?_ fun _ => ends_terminal rfl
    exact .last fun _ => .last fun _ => .last fun _ => .last fun _ => .last fun _ => falls_through
  | replay =>
    refine .last fun _ => .last fun _ => .last fun _ => ?_
    exact tryJob_terminal replayTrips_terminal fun _ => closeControl_terminal

end Terminal

section Returns

/-- When a job of `JOB_TABLE` returns, by its params, its calls before the try block,
and what becomes of the block. -/
def JobReturns (services : Services Outside) (onLogLine : OnLogLine Outside) (params : Json)
    (outside : Outside) : Job → Prop
  | .ingest => ∃ periods, ingestPeriods services.builtins params = .ok periods ∧
      Survives onLogLine (fun _ => ingestResult)
        (ingestAll services onLogLine periods (⟨[], ⟨0, 0, []⟩⟩, outside))
  | .silver => Survives onLogLine (fun _ => ends .succeeded none some none)
      (validateAll services onLogLine (⟨[], 0⟩, outside))
  | .gold => Survives onLogLine (fun _ => ends .succeeded none (fun _ => none) none)
      (writeGold services onLogLine (⟨[], ()⟩, outside))
  | .features => Survives onLogLine
      (fun result => ends .succeeded none (fun _ => some result.featureRows) none)
      (writeFeatures services onLogLine (⟨[], ()⟩, outside))
  | .train => Survives onLogLine
      (fun result => ends .succeeded none (fun _ => some result.rows)
        (some (.object [("mae", result.mae), ("rmse", result.rmse), ("r2", result.r2)])))
      (fitModel services onLogLine (⟨[], ()⟩, outside))
  | .reset => Survives onLogLine (fun _ => ends .succeeded none (fun _ => none) none)
      (wipe services onLogLine (⟨[], ()⟩, outside))
  | .replay => ∃ resolved, resolveParams services.builtins params = .ok resolved ∧
      ∃ jobId, get params "job_id" = .ok jobId ∧
      ∃ key opened, openControl services jobId outside = (.returned key, opened) ∧
      Survives onLogLine (fun _ => closeControl services onLogLine key)
        (replayTrips services onLogLine resolved key (⟨[], ⟨0, false⟩⟩, opened))

theorem jobHandler_returns (job : Job) :
    (jobHandler services job params onLogLine).Returns outside ↔
    JobReturns services onLogLine params outside job := by
  cases job with
  | silver | gold | features | train | reset => exact tryJob_returns
  | ingest =>
    refine returns_fromExcept.trans (exists_congr fun periods => and_congr_right fun _ => ?_)
    exact tryJob_returns
  | replay =>
    refine returns_fromExcept.trans (exists_congr fun resolved => and_congr_right fun _ => ?_)
    refine returns_fromExcept.trans (exists_congr fun jobId => and_congr_right fun _ => ?_)
    refine Program.returns_bind.trans (exists_congr fun key => exists_congr fun opened => ?_)
    exact and_congr_right fun _ => tryJob_returns

end Returns

section Messages

variable {handlers : Job → Handler Outside} {calls : Calls} {message : Message}
variable {world : World Outside} {row : JobRun} {entry : Nat}

theorem consume_jobRuns : (consume services handlers calls entry message world).2.jobRuns =
    (handleMessage services handlers calls message world).2.jobRuns := by
  refine Program.Keeps.always (fun world => ?_) world
  unfold remote
  split
  all_goals rfl

theorem handleMessage_jobRuns (decoded : calls.decodeErr = none)
    (connected : calls.connectErr = none) :
    (handleMessage services handlers calls message world).2.jobRuns =
      (dispatch services handlers calls message world).2.jobRuns := by
  have quiet : raiseIf none world = (.returned ⟨⟩, world) := rfl
  rw [handleMessage, decoded, connected, Program.bind_returned quiet, Program.bind_returned quiet]
  exact Program.Keeps.always aside_keeps world

theorem handleMessage_early (error : calls.decodeErr ≠ none ∨ calls.connectErr ≠ none) :
    (handleMessage services handlers calls message world).2 = world := by
  have quiet : raiseIf none world = (.returned ⟨⟩, world) := rfl
  have raises : ∀ error, raiseIf (some error) world = (.raised error, world) := fun _ => rfl
  rw [handleMessage]
  cases decoding : calls.decodeErr with
  | some error => rw [Program.bind_raised (raises error)]
  | none =>
    cases connecting : calls.connectErr with
    | some error => rw [Program.bind_returned quiet, Program.bind_raised (raises error)]
    | none => simp [decoding, connecting] at error

/-- After a message of a queued run, and however its handling ended, the row is
terminal exactly when the payload was decoded, the connection and both transactions
went through, the running event was published, and the job returned a terminal status. -/
theorem concluded_iff_completes (known : isKnownJobType message.jobType = true)
    (present : row ∈ world.jobRuns) (own : row.id = message.jobId) (queued : row.status = .queued) :
    Concluded (consume services handlers calls entry message world).2.jobRuns message.jobId ↔
      Completes services handlers calls message world.outside := by
  obtain ⟨job, found⟩ := Option.isSome_iff_exists.mp (handlerOf_known known)
  rw [consume_jobRuns]
  by_cases calm : calls.decodeErr = none ∧ calls.connectErr = none
  · obtain ⟨decoded, connected⟩ := calm
    rw [handleMessage_jobRuns decoded connected, dispatch_concluded_iff found present own queued]
    constructor
    · intro concludes
      obtain ⟨claimed, recorded, result, after, returned, terminal⟩ := concludes
      exact ⟨decoded, connected, claimed, ⟨job, result, after, found, returned, terminal⟩, recorded⟩
    · intro completes
      obtain ⟨_, _, claimed, ⟨other, result, after, same, returned, terminal⟩, recorded⟩ :=
        completes
      cases found.symm.trans same
      exact ⟨claimed, recorded, result, after, returned, terminal⟩
  · rw [handleMessage_early (not_and_or.mp calm), ← own]
    refine iff_of_false (not_concluded present (by simp [queued])) fun completes => ?_
    exact calm ⟨completes.decoded, completes.connected⟩

/-- With the jobs of `JOB_TABLE`, the middle part is about the params, the calls that
a job makes outside its try block, and the reporting of an exception. -/
theorem attend_jobHandler {job : Job} : (∃ result after,
    attend services (jobHandler services job) message outside = (.returned result, after) ∧
      result.status.isTerminal = true) ↔
    ∃ announced, publishEvent services message.jobId (.status .running) outside =
        (.returned ⟨⟩, announced) ∧
      JobReturns services (Worker.onLogLine services message.jobId) message.params
        announced job := by
  have terminal : (attend services (jobHandler services job) message).Yields
      fun result => result.status.isTerminal = true := .last fun _ => jobHandler_terminal job
  have returns : (attend services (jobHandler services job) message).Returns outside ↔
      ∃ announced, publishEvent services message.jobId (.status .running) outside =
          (.returned ⟨⟩, announced) ∧
        JobReturns services (Worker.onLogLine services message.jobId) message.params
          announced job := by
    refine Program.returns_bind.trans ⟨?_, ?_⟩
    · intro returns
      obtain ⟨_, announced, published, finished⟩ := returns
      exact ⟨announced, published, (jobHandler_returns job).mp finished⟩
    · intro returns
      obtain ⟨announced, published, finished⟩ := returns
      exact ⟨_, announced, published, (jobHandler_returns job).mpr finished⟩
  rw [← returns]
  constructor
  · intro returns
    obtain ⟨result, after, run, _⟩ := returns
    exact ⟨result, after, run⟩
  · intro returns
    obtain ⟨result, after, run⟩ := returns
    exact ⟨result, after, run, terminal _ _ _ run⟩

end Messages

section Runs

def raiseError (name text : String) : Task Unit Value := Program.raise (.exception name text)

def emptyLake : Services Unit where
  builtins := {
    reprText := fun text => "'" ++ text ++ "'"
    str := fun _ => "{}"
    floatText := fun _ => "10.0"
    nearest := .finite
    quotient := fun _ _ => .finite 1 (-1) }
  nowIso := pure "2024-01-01T00:00:00+00:00"
  publish _ := pure ⟨⟩
  availablePeriods := pure []
  download _ _ := raiseError "DownloadError" "No TLC data published"
  locate _ _ := raiseError "FileNotFoundError" "No raw file"
  readParquet _ := raiseError "FileNotFoundError" "No raw file"
  validate _ := pure ⟨⟩
  upload _ _ _ := pure "s3://openscale-lake/bronze"
  bronzePeriods := pure []
  processPeriod _ _ := raiseError "FileNotFoundError" "No Bronze file"
  goldJob _ := raiseError "RuntimeError" "No Silver trips"
  computeFeatures := raiseError "RuntimeError" "No Silver trips"
  trainFareModel := raiseError "RuntimeError" "No Silver trips"
  connectPostgres := pure ⟨⟩
  tableExists _ := pure false
  truncate _ := pure ⟨⟩
  commit := pure ⟨⟩
  closePostgres := pure ⟨⟩
  deletePrefix _ := pure 0
  connectRedis := pure ⟨⟩
  scan _ _ := pure (0, [])
  deleteKeys _ := pure 0
  hsetnx _ _ _ := pure ⟨⟩
  expire _ _ := pure ⟨⟩
  hgetall _ := pure [("paused", "false"), ("speed", "1"), ("cancelled", "false")]
  loadDay _ :=
    raiseError "RuntimeError" "no Silver trips available to replay -- run the silver job first"
  kafkaProducer := pure ⟨⟩
  send _ _ := pure ⟨⟩
  flush := pure ⟨⟩
  sleep _ := pure ⟨⟩
  patience := 1
  closeConnection := pure ⟨⟩

/-- Nothing around the job goes wrong. -/
def smooth : Calls :=
  ⟨none, none, .confirmed, 1, .confirmed, 2, .confirmed, .exception "OperationalError" ""⟩

def queuedWorld (run : JobRun) (message : Message) : World Unit :=
  ⟨⟨[run], List.nodup_singleton _⟩, GroupStream.empty.add message, ()⟩

theorem concluded_iff_completes_silver :
    Concluded (consume emptyLake (jobHandler emptyLake) smooth 0
    ⟨0, "silver", .object [("job_id", .string "0")], 0⟩
    (queuedWorld (JobRun.submitted 0 "silver" (.object []) 0)
      ⟨0, "silver", .object [("job_id", .string "0")], 0⟩)).2.jobRuns 0 := by
  have present : JobRun.submitted 0 "silver" (.object []) 0 ∈ (queuedWorld
      (JobRun.submitted 0 "silver" (.object []) 0)
      ⟨0, "silver", .object [("job_id", .string "0")], 0⟩).jobRuns := List.mem_singleton_self _
  exact (concluded_iff_completes (by decide) present rfl rfl).mpr
    ⟨rfl, rfl, rfl, ⟨.silver, _, _, rfl, rfl, rfl⟩, by decide⟩

/-- The params `{"start": "abc", "end": "def"}` of an ingest run: `month_range` raises
before the try block, and the acknowledged run stays running. -/
theorem ingest_abandoned : ¬ ∀ (Outside : Type) (services : Services Outside) (entry : Nat)
    (message : Message) (world : World Outside) (row : JobRun),
    isKnownJobType message.jobType = true → row ∈ world.jobRuns → row.id = message.jobId →
    row.status = .queued →
    (consume services (jobHandler services) smooth entry message world).1 ≠ .running →
    (consume services (jobHandler services) smooth entry message world).2.requests =
      world.requests.ack entry →
    Concluded (consume services (jobHandler services) smooth entry message world).2.jobRuns
      message.jobId := by
  intro concluded
  let range : List (String × Json) := [("end", .string "def"), ("start", .string "abc")]
  let row := JobRun.submitted 0 "ingest" (.object range) 0
  let message : Message := ⟨0, "ingest", .object (("job_id", .string "0") :: range), 0⟩
  have run : consume emptyLake (jobHandler emptyLake) smooth 0 message (queuedWorld row message) =
      (.raised (.exception "ValueError" "invalid literal for int() with base 10: 'abc'"),
        { queuedWorld row message with
          jobRuns := ⟨[row.start 1], List.nodup_singleton _⟩
          requests := (queuedWorld row message).requests.ack 0 }) := rfl
  obtain ⟨last, member, _, terminal⟩ :=
    concluded Unit emptyLake 0 message (queuedWorld row message) row
    (by decide) (List.mem_singleton_self _) rfl rfl (by simp [run]) (by rw [run])
  rw [run] at member
  cases List.mem_singleton.mp member
  cases terminal

end Runs

end OpenScale.Worker
