import OpenScale.Pipeline.System
import OpenScale.Worker.JobModules

/-! The worker's loop body: `handle_message`, and the XACK that follows it however
it ends. -/

namespace OpenScale.Worker

open OpenScale.Library OpenScale.Library.Python OpenScale.Jobs OpenScale.Pipeline

structure World (Outside : Type) where
  jobRuns : JobRuns
  requests : GroupStream Message
  outside : Outside

/-- Code of the worker that also reaches the job table and the request stream. -/
abbrev Code (Outside Value : Type) := Program (World Outside) PyError Value

/-- What goes wrong around one message, and when its two transactions begin. -/
structure Calls where
  decodeErr : Option PyError
  connectErr : Option PyError
  markRunning : Delivery
  startedAt : Time
  markTerminal : Delivery
  finishedAt : Time
  xack : Delivery
  /-- What a call that is not confirmed raises. -/
  callErr : PyError

variable {Outside Value : Type}

def raiseIf : Option PyError → Code Outside PUnit
  | some error => Program.raise error
  | none => pure ⟨⟩

/-- Code that cannot reach the job table or the request stream. -/
def aside (task : Task Outside Value) : Code Outside Value := fun world =>
  let (outcome, after) := task world.outside
  (outcome, { world with outside := after })

/-- A call that changes the world and raises unless it is confirmed. -/
def remote (delivery : Delivery) (error : PyError) (value : World Outside → Value)
    (effect : World Outside → World Outside) : Code Outside Value := fun world =>
  match delivery with
  | .confirmed => (.returned (value world), effect world)
  | .lost => (.raised error, effect world)
  | .refused => (.raised error, world)

/-- One statement in a transaction of its own, and its rowcount. -/
def transact (delivery : Delivery) (error : PyError) (statement : RunStatement) :
    Code Outside Nat :=
  remote delivery error (fun world => world.jobRuns.rowcount statement)
    fun world => { world with jobRuns := world.jobRuns.exec statement }

def publishEvent (services : Services Outside) (jobId : JobId) (body : EventBody) :
    Task Outside PUnit := do
  let sentAt ← services.nowIso
  services.publish ⟨jobId, body, sentAt⟩

def onLogLine (services : Services Outside) (jobId : JobId) : OnLogLine Outside := fun line =>
  publishEvent services jobId (.log line)

/-- What `mark_terminal` writes for the tuple of a job. -/
def Result.report (result : Result) : Report where
  exitCode := some (if result.status = .succeeded then 0 else 1)
  error := result.error
  logOutput := "\n".intercalate result.logLines
  rowsProcessed := result.rowsProcessed
  metrics := result.metrics

/-- Between the two transactions of a run: its running event, and its job. -/
def attend (services : Services Outside) (handler : Handler Outside) (message : Message) :
    Task Outside Result := do
  publishEvent services message.jobId (.status .running)
  handler message.params (onLogLine services message.jobId)

/-- The body of `handle_message`, once it has its connection. -/
def dispatch (services : Services Outside) (handlers : Job → Handler Outside) (calls : Calls)
    (message : Message) : Code Outside PUnit :=
  match handlerOf message.jobType with
  | none => do
    let _ ← transact calls.markTerminal calls.callErr
      (markTerminal message.jobId .failed (unknownJobType message.jobType) calls.finishedAt)
  | some job => do
    let claimed ← transact calls.markRunning calls.callErr
        (markRunning message.jobId calls.startedAt)
    if claimed = 0 then return
    let result ← aside (attend services (handlers job) message)
    let _ ← transact calls.markTerminal calls.callErr
      (markTerminal message.jobId result.status result.report calls.finishedAt)
    aside (publishEvent services message.jobId (.status result.status))

def handleMessage (services : Services Outside) (handlers : Job → Handler Outside) (calls : Calls)
    (message : Message) : Code Outside PUnit := do
  raiseIf calls.decodeErr
  raiseIf calls.connectErr
  (dispatch services handlers calls message).always (aside services.closeConnection)

/-- One round of the loop of `main`, for the entry that XREADGROUP returned. -/
def consume (services : Services Outside) (handlers : Job → Handler Outside)
    (calls : Calls) (entry : Nat) (message : Message) : Code Outside PUnit :=
  (handleMessage services handlers calls message).always
    (remote calls.xack calls.callErr (fun _ => ⟨⟩)
      fun world => { world with requests := world.requests.ack entry })

/-- The row of the run has a terminal status. -/
def Concluded (table : JobRuns) (id : JobId) : Prop :=
  ∃ run ∈ table, run.id = id ∧ run.status.isTerminal = true

/-- Nothing around the job fails, the job returns, and what it returns gets written. -/
structure Completes (services : Services Outside) (handlers : Job → Handler Outside) (calls : Calls)
    (message : Message) (outside : Outside) : Prop where
  decoded : calls.decodeErr = none
  connected : calls.connectErr = none
  claimed : calls.markRunning = .confirmed
  returned : ∃ job result after, handlerOf message.jobType = some job ∧
    attend services (handlers job) message outside = (.returned result, after) ∧
    result.status.isTerminal = true
  recorded : calls.markTerminal ≠ .refused

section Lemmas

variable {services : Services Outside} {handlers : Job → Handler Outside} {calls : Calls}
variable {message : Message} {world after : World Outside} {row : JobRun} {entry : Nat}
variable {task : Task Outside Value} {statement : RunStatement} {error : PyError}

theorem aside_keeps : (aside task).Keeps World.jobRuns := fun _ => rfl

theorem aside_returned {value : Value} {outside : Outside}
    (run : task world.outside = (.returned value, outside)) :
    aside task world = (.returned value, { world with outside := outside }) := by
  simp [aside, run]

theorem not_concluded {table : JobRuns} (present : row ∈ table)
    (active : row.status.isActive = true) :
    ¬ Concluded table row.id := by
  intro concluded
  obtain ⟨run, member, own, terminal⟩ := concluded
  rw [KeyedTable.same_row member present own] at terminal
  simp [Status.isTerminal, active] at terminal

theorem concluded_markTerminal {table : JobRuns} {status : Status} {report : Report} {now : Time}
    (present : row ∈ table) :
    Concluded (table.exec (markTerminal row.id status report now)) row.id ↔
    status.isTerminal = true := by
  have written : row.finish status report now ∈
      table.exec (markTerminal row.id status report now) :=
    mem_markTerminal.mpr (.inr ⟨row, present, rfl, rfl⟩)
  constructor
  · intro concluded
    obtain ⟨run, member, own, terminal⟩ := concluded
    rw [KeyedTable.same_row member written own] at terminal
    exact terminal
  · exact fun terminal => ⟨_, written, rfl, terminal⟩

theorem transact_concluded_iff {status : Status} {report : Report} {now : Time}
    {delivery : Delivery} (present : row ∈ world.jobRuns) (active : row.status.isActive = true) :
    Concluded
      (transact delivery error (markTerminal row.id status report now) world).2.jobRuns row.id ↔
      delivery ≠ .refused ∧ status.isTerminal = true := by
  cases delivery with
  | refused => simpa [transact, remote] using not_concluded present active
  | confirmed => simpa [transact, remote] using concluded_markTerminal present
  | lost => simpa [transact, remote] using concluded_markTerminal present

theorem record_jobRuns {next : Task Outside PUnit} {delivery : Delivery} :
    (((transact delivery error statement) >>= fun _ => aside next) world).2.jobRuns =
      (transact delivery error statement world).2.jobRuns := by
  cases delivery <;> rfl

theorem attend_concluded_iff {handler : Handler Outside} (present : row ∈ world.jobRuns)
    (active : row.status.isActive = true) (own : row.id = message.jobId) :
    Concluded ((aside (attend services handler message) >>= fun result => do
        let _ ← transact calls.markTerminal calls.callErr
          (markTerminal message.jobId result.status result.report calls.finishedAt)
        aside (publishEvent services message.jobId (.status result.status))) world).2.jobRuns
      message.jobId ↔
    calls.markTerminal ≠ .refused ∧ ∃ result after,
      attend services handler message world.outside = (.returned result, after) ∧
        result.status.isTerminal = true := by
  rw [← own]
  match run : attend services handler message world.outside with
  | (.returned result, after) =>
    have recorded : Concluded (transact calls.markTerminal calls.callErr
        (markTerminal row.id result.status result.report calls.finishedAt)
        { world with outside := after }).2.jobRuns row.id ↔
          calls.markTerminal ≠ .refused ∧ result.status.isTerminal = true :=
      transact_concluded_iff present active
    rw [Program.bind_returned (aside_returned run), record_jobRuns]
    simpa using recorded
  | (.raised error, after) =>
    have raised : aside (attend services handler message) world =
        (.raised error, { world with outside := after }) := by simp [aside, run]
    rw [Program.bind_raised raised]
    simpa using not_concluded present active
  | (.running, after) =>
    have still : aside (attend services handler message) world =
        (.running, { world with outside := after }) := by simp [aside, run]
    rw [Program.bind_running still]
    simpa using not_concluded present active

theorem rowcount_markRunning {table : JobRuns} {now : Time} (present : row ∈ table)
    (queued : row.status = .queued) : table.rowcount (markRunning row.id now) ≠ 0 := by
  have positive : 0 < table.rowcount (markRunning row.id now) :=
    KeyedTable.rowcount_pos.mpr ⟨row, present, by simp [markRunning, queued]⟩
  exact Nat.pos_iff_ne_zero.mp positive

theorem start_mem {table : JobRuns} (now : Time) (present : row ∈ table)
    (queued : row.status = .queued) : row.start now ∈ table.exec (markRunning row.id now) :=
  mem_markRunning.mpr (.inr ⟨row, present, rfl, queued, rfl⟩)

theorem dispatch_concluded_iff {job : Job} (known : handlerOf message.jobType = some job)
    (present : row ∈ world.jobRuns) (own : row.id = message.jobId) (queued : row.status = .queued) :
    Concluded (dispatch services handlers calls message world).2.jobRuns message.jobId ↔
      calls.markRunning = .confirmed ∧ calls.markTerminal ≠ .refused ∧ ∃ result after,
        attend services (handlers job) message world.outside = (.returned result, after) ∧
          result.status.isTerminal = true := by
  have started := start_mem calls.startedAt present queued
  simp only [dispatch, known]
  cases delivery : calls.markRunning with
  | refused =>
    have raised :
        transact .refused calls.callErr (markRunning message.jobId calls.startedAt) world =
        (.raised calls.callErr, world) := rfl
    rw [Program.bind_raised raised, ← own]
    simpa using not_concluded present (by simp [queued])
  | lost =>
    have raised : transact .lost calls.callErr (markRunning message.jobId calls.startedAt) world =
        (.raised calls.callErr, { world with
          jobRuns := world.jobRuns.exec (markRunning message.jobId calls.startedAt) }) := rfl
    rw [Program.bind_raised raised, ← own]
    simpa using not_concluded started rfl
  | confirmed =>
    have claimed :
        transact .confirmed calls.callErr (markRunning message.jobId calls.startedAt) world =
        (.returned (world.jobRuns.rowcount (markRunning message.jobId calls.startedAt)),
          { world with
          jobRuns := world.jobRuns.exec (markRunning message.jobId calls.startedAt) }) := rfl
    rw [Program.bind_returned claimed]
    rw [own] at started
    rw [if_neg (own ▸ rowcount_markRunning present queued)]
    have active : (row.start calls.startedAt).status.isActive = true := rfl
    have same : (row.start calls.startedAt).id = message.jobId := own
    exact (attend_concluded_iff started active same).trans (by simp)

end Lemmas

end OpenScale.Worker
