import OpenScale.Worker.Abandon

/-! The log lines of a job are those that it has reported one by one. -/

namespace OpenScale.Logs

open OpenScale.Library OpenScale.Library.Python OpenScale.Jobs OpenScale.Worker

variable {Outside Locals Value : Type}

/-- Reports each line as `onLogLine` does, and keeps it in a history variable. -/
def emitting (onLogLine : OnLogLine Outside) : OnLogLine (List String × Outside) := fun line => do
  Program.modify fun (emitted, outside) => (emitted ++ [line], outside)
  (onLogLine line).outer

/-- What a job does beside its logging leaves the history variable alone. -/
def besides (services : Services Outside) : Services (List String × Outside) :=
  services.beside (List String)

/-- `log_lines` is what was reported. -/
def InStep (state : Frame Locals × (List String × Outside)) : Prop := state.1.logLines = state.2.1

/-- Either a tuple with these lines, or a value while the two are still in step. -/
def Settles : Result ⊕ Value → Frame Locals × (List String × Outside) → Prop
  | .inl result, state => result.logLines = state.2.1
  | .inr _, state => InStep state

variable {onLogLine : OnLogLine Outside} {services : Services Outside}

section Steps

theorem log_inStep (line : String) :
    (log (emitting onLogLine) line : Body (List String × Outside) Locals PUnit).Maintains
      InStep := by
  rintro ⟨frame, emitted, outside⟩ same
  change InStep (match onLogLine line outside with
    | (outcome, after) => (outcome, ({ frame with logLines := frame.logLines ++ [line] },
        (emitted ++ [line], after)))).2
  exact congrArg (· ++ [line]) same

/-- A call that has nothing to do with the log. -/
def Silent (task : Task (List String × Outside) Value) : Prop :=
  ∀ emitted, task.Maintains fun state => state.1 = emitted

theorem silent_outer {task : Task Outside Value} :
    Silent (task.outer : Task (List String × Outside) Value) :=
  fun _ _ same => same

theorem Silent.inStep {task : Task (List String × Outside) Value} (silent : Silent task) :
    (Program.outer task : Body (List String × Outside) Locals Value).Maintains InStep := by
  rintro ⟨frame, state⟩ same
  exact (silent frame.logLines state same.symm).symm

theorem ends_settles (status : Status) (error : Option String) (rows : Locals → Option Int)
    (metrics : Option Json) : Program.Triple InStep
      (ends status error rows metrics : Body (List String × Outside) Locals Result)
        fun result state => result.logLines = state.2.1 := by
  intro state result final same run
  cases run
  exact same

theorem setLocals_inStep (change : Locals → Locals) :
    (setLocals change : Body (List String × Outside) Locals PUnit).Maintains InStep :=
  fun _ same => same

theorem frame_inStep :
    (frame : Body (List String × Outside) Locals (Frame Locals)).Maintains InStep :=
  fun _ same => same

theorem falls_settles {body : Body (List String × Outside) Locals Unit} {value : Value}
    (maintains : body.Maintains InStep) :
    Program.Triple InStep
      (do body; return .inr value : Body (List String × Outside) Locals (Result ⊕ Value)) Settles :=
  .bind maintains.triple fun _ => .pure fun _ same => same

/-- A job whose block and whose end stay in step returns the lines that it has reported. -/
theorem tryJob_settles {initial : Locals} {partialRows : Locals → Option Int}
    {body : Body (List String × Outside) Locals (Result ⊕ Value)}
    {rest : Value → Body (List String × Outside) Locals Result} (maintains : body.Maintains InStep)
    (settles : Program.Triple InStep body Settles)
    (last : ∀ value, Program.Triple InStep (rest value)
      fun result state => result.logLines = state.2.1) :
    Program.Triple (fun state => state.1 = [])
      (tryJob (emitting onLogLine) initial partialRows body rest)
      fun result state => result.logLines = state.1 := by
  have handled (error : PyError) : Program.Triple InStep
      (failed (emitting onLogLine) partialRows error : Body (List String × Outside) Locals
        (Result ⊕ Value))
      Settles :=
    .bind (log_inStep error.line).triple fun _ => .bind (ends_settles _ _ _ _) fun result =>
      .pure fun _ same => same
  refine .locally_initial (.bind (show Program.Triple _ _ Settles from ?_) fun found => ?_)
  · refine .weaken (.attempt_maintains maintains settles fun error => ?_) ?_ fun _ _ settled =>
      settled
    · split
      · exact handled error
      · exact .raise
    · rintro ⟨frame, emitted, outside⟩ ⟨rfl, rfl⟩
      rfl
  · cases found with
    | inl result => exact .pure fun _ same => same
    | inr value => exact last value

end Steps

section Silent

variable {Next : Type} {task : Task (List String × Outside) Value}
variable {next : Value → Task (List String × Outside) Next}

theorem Silent.pure {value : Value} :
    Silent (Pure.pure value : Task (List String × Outside) Value) := fun _ => .pure

theorem Silent.bind (first : Silent task) (rest : ∀ value, Silent (next value)) :
    Silent (task >>= next) :=
  fun emitted => .bind (first emitted) fun value => rest value emitted

theorem silent_fromExcept {outcome : Except PyError Value} :
    Silent (fromExcept outcome : Task (List String × Outside) Value) :=
  fun _ => fromExcept_maintains

theorem ingestPeriod_silent (fetchFromTlc : Bool) (year month : Int) :
    Silent (ingestPeriod (besides services) fetchFromTlc year month) := by
  intro emitted
  refine .bind (rescueOnly_maintains ?_ fun error => .pure) fun fetched => ?_
  · cases fetchFromTlc with
    | true => exact .bind (silent_outer emitted) fun _ => .pure
    | false => exact .bind (silent_outer emitted) fun _ => .pure
  · cases fetched with
    | inl result => exact .pure
    | inr rawPath =>
      refine .bind (silent_outer emitted) fun df =>
        .bind (rescueOnly_maintains (.bind (silent_outer emitted) fun _ => .pure) fun _ => .pure)
          fun rejected => ?_
      cases rejected with
      | some result => exact .pure
      | none => exact .bind (silent_outer emitted) fun _ => .pure

theorem existingTables_silent (tables : List String) :
    Silent (existingTables (besides services) tables) := by
  induction tables with
  | nil => exact .pure
  | cons table tables ih => exact .bind silent_outer fun present => .bind ih fun others => .pure

theorem truncatePostgresTables_silent : Silent (truncatePostgresTables (besides services)) := by
  refine .bind silent_outer fun _ => .bind ?_ fun existing => .pure
  intro emitted
  refine .always (.bind (existingTables_silent _ emitted) fun existing => ?_) (silent_outer emitted)
  split
  · exact .bind (silent_outer emitted) fun _ => .bind (silent_outer emitted) fun _ => .pure
  · exact .bind (silent_outer emitted) fun _ => .pure

theorem deletePage_silent (page batch : List String) (deleted : Nat) :
    Silent (deletePage (besides services) page batch deleted) := by
  induction page generalizing batch deleted with
  | nil => exact .pure
  | cons key page ih =>
    unfold deletePage
    dsimp only
    split
    · exact .bind silent_outer fun more => ih [] _
    · exact ih _ _

theorem deleteScanned_silent (batch : List String) (deleted cursor patience : Nat) :
    Silent (deleteScanned (besides services) batch deleted cursor patience) := by
  induction patience generalizing batch deleted cursor with
  | zero => exact fun _ _ same => same
  | succ patience ih =>
    refine .bind silent_outer fun listed => .bind (deletePage_silent _ _ _) fun found => ?_
    obtain ⟨batch, deleted⟩ := found
    dsimp only
    split
    · exact .pure
    · exact ih _ _ _

theorem deleteOnlineFeatures_silent : Silent (deleteOnlineFeatures (besides services)) := by
  refine .bind silent_outer fun _ => .bind (deleteScanned_silent _ _ _ _) fun found =>
    .bind ?_ fun _ => .pure
  unfold deleteRest
  split
  · exact .pure
  · exact .bind silent_outer fun more => .pure

theorem pollPaused_silent (key : String) (patience : Nat) :
    Silent (pollPaused (besides services) key patience) := by
  induction patience with
  | zero => exact fun _ _ same => same
  | succ patience ih =>
    refine .bind silent_outer fun _ => .bind silent_outer fun state => ?_
    split
    · exact .pure
    · split
      · exact .pure
      · exact ih

theorem openControl_silent (jobId : Json) : Silent (openControl (besides services) jobId) := by
  unfold openControl
  split
  · exact .bind silent_outer fun _ => .bind silent_outer fun _ => .bind silent_outer fun _ =>
      .bind silent_outer fun _ => .bind silent_outer fun _ => .pure
  · exact .pure

end Silent

section Bodies

theorem ingestAll_settles (periods : Option (List (Int × Int))) :
    (ingestAll (besides services) (emitting onLogLine) periods).Maintains InStep ∧
      Program.Triple InStep (ingestAll (besides services) (emitting onLogLine) periods)
        Settles := by
  have loop (months : List (Int × Int)) : (Program.forEach months fun period => do
      let result ← Program.outer (ingestPeriod (besides services) periods.isSome period.1 period.2)
      log (emitting onLogLine) ((besides services).builtins.str result.dict)
      setLocals fun locals => locals.note result :
      Body (List String × Outside) IngestLocals PUnit).Maintains InStep :=
    .forEach fun month _ => .bind (ingestPeriod_silent _ _ _).inStep fun result =>
      .bind (log_inStep _) fun _ => setLocals_inStep _
  cases periods with
  | some periods =>
    exact ⟨.bind Silent.pure.inStep fun months => .bind (loop months) fun _ => .pure,
      .bind Silent.pure.inStep.triple fun months => falls_settles (loop months)⟩
  | none =>
    exact ⟨.bind silent_outer.inStep fun months => .bind (loop months) fun _ => .pure,
      .bind silent_outer.inStep.triple fun months => falls_settles (loop months)⟩

theorem ingestResult_settles : Program.Triple InStep
    (ingestResult : Body (List String × Outside) IngestLocals Result)
    fun result state => result.logLines = state.2.1 := by
  refine .bind frame_inStep.triple fun frame => ?_
  dsimp only
  split
  · exact ends_settles _ _ _ _
  · split
    · exact ends_settles _ _ _ _
    · exact ends_settles _ _ _ _

theorem validateAll_settles :
    (validateAll (besides services) (emitting onLogLine)).Maintains InStep ∧
    Program.Triple InStep (validateAll (besides services) (emitting onLogLine)) Settles := by
  have loop (periods : List (Int × Int)) : (Program.forEach periods fun period => do
      let report ← Program.outer ((besides services).processPeriod period.1 period.2)
      log (emitting onLogLine) ((besides services).builtins.str report.dict)
      setLocals fun rowsProcessed => rowsProcessed + report.recordsProcessed :
      Body (List String × Outside) Int PUnit).Maintains InStep :=
    .forEach fun period _ => .bind silent_outer.inStep fun report =>
      .bind (log_inStep _) fun _ => setLocals_inStep _
  exact ⟨.bind silent_outer.inStep fun periods => .bind (loop periods) fun _ => .pure,
    .bind silent_outer.inStep.triple fun periods => falls_settles (loop periods)⟩

theorem writeGold_settles : (writeGold (besides services) (emitting onLogLine)).Maintains InStep ∧
    Program.Triple InStep (writeGold (besides services) (emitting onLogLine)) Settles := by
  have loop : (Program.forEach goldJobs fun job => do
      let path ← Program.outer ((besides services).goldJob job)
      log (emitting onLogLine)
        ((besides services).builtins.str (.object [("job", .string job), ("path", .string path)])) :
      Body (List String × Outside) Unit PUnit).Maintains InStep :=
    .forEach fun job _ => .bind silent_outer.inStep fun path => log_inStep _
  exact ⟨.bind loop fun _ => .pure, falls_settles loop⟩

/-- A block of one call, whose result it logs. -/
theorem logged_settles {task : Task Outside Value} (line : Value → String) :
    (do
      let result ← Program.outer task.outer
      log (emitting onLogLine) (line result)
      return .inr result : Body (List String × Outside) Unit (Result ⊕ Value)).Maintains InStep ∧
    Program.Triple InStep (do
      let result ← Program.outer task.outer
      log (emitting onLogLine) (line result)
      return .inr result : Body (List String × Outside) Unit (Result ⊕ Value)) Settles :=
  ⟨.bind silent_outer.inStep fun _ => .bind (log_inStep _) fun _ => .pure,
    .bind silent_outer.inStep.triple fun _ => falls_settles (log_inStep _)⟩

theorem wipe_settles : (wipe (besides services) (emitting onLogLine)).Maintains InStep ∧
    Program.Triple InStep (wipe (besides services) (emitting onLogLine)) Settles := by
  have loop : (Program.forEach lakePrefixes fun lakePrefix => do
      let deleted ← Program.outer ((besides services).deletePrefix lakePrefix)
      log (emitting onLogLine) ("minio: deleted " ++ toString deleted ++ " objects under " ++
        lakePrefix ++ "/") :
      Body (List String × Outside) Unit PUnit).Maintains InStep :=
    .forEach fun lakePrefix _ => .bind silent_outer.inStep fun deleted => log_inStep _
  refine ⟨.bind truncatePostgresTables_silent.inStep fun _ => .bind (log_inStep _) fun _ =>
    .bind loop fun _ =>
    .bind deleteOnlineFeatures_silent.inStep fun _ => .bind (log_inStep _) fun _ => .pure, ?_⟩
  exact .bind truncatePostgresTables_silent.inStep.triple fun _ =>
    .bind (log_inStep _).triple fun _ =>
    .bind loop.triple fun _ => .bind deleteOnlineFeatures_silent.inStep.triple fun _ =>
      falls_settles (log_inStep _)

end Bodies

section Replay

variable {key : Option String} {total : Nat} {delay : PyFloat}

theorem pollControl_inStep (key : String) :
    (pollControl (besides services) (emitting onLogLine) key).Maintains InStep := by
  refine .bind silent_outer.inStep fun state => ?_
  split
  · exact .pure
  · split
    · refine .bind frame_inStep fun frame => ?_
      have polls : (do
          let found ← Program.outer (pollPaused (besides services) key (besides services).patience)
          if found.1 then return (true, found.2)
          else
            log (emitting onLogLine) "resumed"
            setLocals fun locals => { locals with paused := false }
            return (false, found.2) :
          Body (List String × Outside) ReplayLocals (Bool × ControlState)).Maintains InStep := by
        refine .bind (pollPaused_silent _ _).inStep fun found => ?_
        split
        · exact .pure
        · exact .bind (log_inStep _) fun _ => .bind (setLocals_inStep _) fun _ => .pure
      split
      · exact .bind (log_inStep _) fun _ => .bind (setLocals_inStep _) fun _ => polls
      · exact polls
    · exact .pure

theorem checkControl_inStep :
    (checkControl (besides services) (emitting onLogLine) key).Maintains InStep := by
  cases key with
  | none => exact .pure
  | some key => exact pollControl_inStep key

theorem stopSending_settles :
    (stopSending (besides services) (emitting onLogLine) key total).Maintains InStep ∧
    Program.Triple InStep (stopSending (besides services) (emitting onLogLine) key total)
      fun result state => result.logLines = state.2.1 :=
  ⟨.bind frame_inStep fun _ => .bind (log_inStep _) fun _ => .bind silent_outer.inStep fun _ =>
      .bind frame_inStep fun _ => .pure,
    .bind frame_inStep.triple fun _ => .bind (log_inStep _).triple fun _ =>
      .bind silent_outer.inStep.triple fun _ => ends_settles _ _ _ _⟩

theorem sendTrip_inStep (state : ControlState) (trip : Json) :
    (sendTrip (besides services) (emitting onLogLine) key total delay state trip).Maintains
      InStep := by
  have progress : (logProgress (emitting onLogLine) total).Maintains InStep := by
    refine .bind frame_inStep fun frame => ?_
    dsimp only
    split
    · exact log_inStep _
    · exact .pure
  exact .bind fromExcept_maintains fun _ => .bind silent_outer.inStep fun _ =>
    .bind (setLocals_inStep _) fun _ =>
    .bind progress fun _ => .bind fromExcept_maintains fun _ => silent_outer.inStep

/-- The send loop ends early with the lines that it has reported. -/
def Stops (early : Option Result) (state : Frame ReplayLocals × (List String × Outside)) : Prop :=
  match early with
  | none => InStep state
  | some result => result.logLines = state.2.1

theorem sendTrips_settles (trips : List Json) :
    (sendTrips (besides services) (emitting onLogLine) key total delay trips).Maintains InStep ∧
      Program.Triple InStep
        (sendTrips (besides services) (emitting onLogLine) key total delay trips) Stops := by
  induction trips with
  | nil => exact ⟨.pure, .pure fun _ same => same⟩
  | cons trip trips ih =>
    constructor
    · refine .bind checkControl_inStep fun control => ?_
      split
      · exact .bind stopSending_settles.1 fun _ => .pure
      · exact .bind (sendTrip_inStep _ _) fun _ => ih.1
    · refine .bind checkControl_inStep.triple fun control => ?_
      split
      · exact .bind stopSending_settles.2 fun _ => .pure fun _ same => same
      · exact .bind (sendTrip_inStep _ _).triple fun _ => ih.2

theorem replayTrips_settles (params : ReplayParams) :
    (replayTrips (besides services) (emitting onLogLine) params key).Maintains InStep ∧
      Program.Triple InStep (replayTrips (besides services) (emitting onLogLine) params key)
        Settles := by
  constructor
  · refine .bind silent_outer.inStep fun ⟨pickupDate, day⟩ => .bind (log_inStep _) fun _ => ?_
    split
    · exact .bind (log_inStep _) fun _ => .bind (.bind frame_inStep fun _ => .pure) fun _ => .pure
    · refine .bind silent_outer.inStep fun _ => .bind fromExcept_maintains fun delay =>
        .bind (sendTrips_settles _).1 fun early => ?_
      cases early with
      | none => exact .bind silent_outer.inStep fun _ => .pure
      | some result => exact .pure
  · refine .bind silent_outer.inStep.triple fun ⟨pickupDate, day⟩ =>
      .bind (log_inStep _).triple fun _ => ?_
    split
    · exact .bind (log_inStep _).triple fun _ => .bind (ends_settles _ _ _ _) fun _ =>
        .pure fun _ same => same
    · refine .bind silent_outer.inStep.triple fun _ =>
        .bind fromExcept_maintains.triple fun delay =>
        .bind (sendTrips_settles _).2 fun early => ?_
      cases early with
      | none => exact falls_settles silent_outer.inStep
      | some result => exact .pure fun _ same => same

theorem closeControl_settles :
    Program.Triple InStep (closeControl (besides services) (emitting onLogLine) key)
    fun result state => result.logLines = state.2.1 := by
  have total : Program.Triple InStep (do
      let sent := (← frame).locals.sent
      log (emitting onLogLine) ("sent " ++ toString sent ++ "/" ++ toString sent ++
        " trips to topic '" ++ tripsTopic ++ "'")
      ends .succeeded none (fun locals => some locals.sent) none :
      Body (List String × Outside) ReplayLocals Result) fun result state =>
        result.logLines = state.2.1 :=
    .bind frame_inStep.triple fun _ => .bind (log_inStep _).triple fun _ => ends_settles _ _ _ _
  unfold closeControl
  split
  · exact .bind silent_outer.inStep.triple fun _ => total
  · exact total

end Replay

/-- A job returns the lines that it has reported, in their order. -/
theorem jobHandler_settles (job : Job) (params : Json) : Program.Triple (fun state => state.1 = [])
    (jobHandler (besides services) job params (emitting onLogLine))
      fun result state => result.logLines = state.1 := by
  have unlogged {Value : Type} {task : Task (List String × Outside) Value} (silent : Silent task) :
      Program.Triple (fun state => state.1 = []) task fun _ state => state.1 = [] :=
        (silent []).triple
  cases job with
  | ingest =>
    refine .bind (unlogged silent_fromExcept) fun periods => ?_
    exact tryJob_settles (ingestAll_settles periods).1 (ingestAll_settles periods).2 fun _ =>
      ingestResult_settles
  | silver => exact tryJob_settles validateAll_settles.1 validateAll_settles.2 fun _ =>
    ends_settles _ _ _ _
  | gold => exact tryJob_settles writeGold_settles.1 writeGold_settles.2 fun _ =>
    ends_settles _ _ _ _
  | features | train =>
    exact tryJob_settles (logged_settles _).1 (logged_settles _).2 fun _ => ends_settles _ _ _ _
  | reset => exact tryJob_settles wipe_settles.1 wipe_settles.2 fun _ => ends_settles _ _ _ _
  | replay =>
    refine .bind (unlogged silent_fromExcept) fun resolved =>
      .bind (unlogged silent_fromExcept) fun jobId =>
      .bind (unlogged (openControl_silent jobId)) fun key => ?_
    exact tryJob_settles (replayTrips_settles resolved).1 (replayTrips_settles resolved).2 fun _ =>
      closeControl_settles

end OpenScale.Logs
