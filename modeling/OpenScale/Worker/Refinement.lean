import OpenScale.Library.Simulation
import OpenScale.Pipeline.Step
import OpenScale.Worker.Fated

/-! The worker's loop body as a part of the job queue: whatever goes wrong around a
message, its handling is a run of worker steps. -/

namespace OpenScale.Worker

open OpenScale.Library OpenScale.Library.Python OpenScale.Jobs OpenScale.Pipeline

variable {Outside Value : Type}

/-- The queue and the worker's code see the same rows and the same stream. -/
def Agrees (s : State) (world : World Outside) : Prop :=
  s.jobRuns = world.jobRuns ∧ s.requests = world.requests

/-- `handle_message` has ended on this entry, with or without an exception. -/
def Ended (entry : Nat) (raised : Bool) (s : State) : Prop := s.worker = .acking entry raised

section Rules

variable {pre : State → Prop} {returned : Value → State → Prop} {entry : Nat}
variable {good : Value → Prop} {task : Task Outside Value} {delivery : Delivery} {error : PyError}
variable {s : State} {world : World Outside}

theorem entry_holding {message : Message} (holding : s.worker = .holding entry message) :
    s.worker.entry? = some entry := by
  rw [holding]
  rfl

theorem entry_ended {raised : Bool} (ended : Ended entry raised s) :
    s.worker.entry? = some entry := by
  rw [ended]
  rfl

theorem raises (attends : s.worker.entry? = some entry) (agrees : Agrees s world) :
    ∃ t, system.Leads s t ∧ Agrees t world ∧ Ended entry true t :=
  ⟨_, (Works.raise attends).leads, agrees, rfl⟩

theorem aside_bind {Next : Type} {next : Value → Task Outside Next} :
    aside (task >>= next) = aside task >>= fun value => aside (next value) := by
  funext world
  match run : task world.outside with
  | (.returned value, after) =>
    rw [Program.bind_returned (aside_returned run)]
    simp [aside, Program.bind_returned run]
  | (.raised error, after) =>
    have raised : aside task world = (.raised error, { world with outside := after }) := by
      simp [aside, run]
    rw [Program.bind_raised raised]
    simp [aside, Program.bind_raised run]
  | (.running, after) =>
    have still : aside task world = (.running, { world with outside := after }) := by
      simp [aside, run]
    rw [Program.bind_running still]
    simp [aside, Program.bind_running run]

theorem simulates_aside (attends : ∀ s, pre s → s.worker.entry? = some entry)
    (yields : task.Yields good)
    (moves : ∀ s value, pre s → good value → ∃ t, system.Leads s t ∧ t.jobRuns = s.jobRuns ∧
      t.requests = s.requests ∧ returned value t) :
    Simulates system Agrees pre (aside task) returned (Ended entry true) := by
  intro s world start agrees
  unfold aside
  match run : task world.outside with
  | (.returned value, after) =>
    obtain ⟨t, path, rows, stream, finished⟩ := moves s value start (yields _ _ _ run)
    exact ⟨t, path, ⟨rows.trans agrees.1, stream.trans agrees.2⟩, finished⟩
  | (.raised error, after) =>
    have agreed : Agrees s { world with outside := after } := agrees
    exact raises (attends s start) agreed
  | (.running, after) => exact ⟨s, .refl, agrees, trivial⟩

theorem simulates_unseen (attends : ∀ s, pre s → s.worker.entry? = some entry) :
    Simulates system Agrees pre (aside task) (fun _ => pre) (Ended entry true) := by
  have anything : task.Yields fun _ => True := fun _ _ _ _ => trivial
  exact simulates_aside attends anything fun s _ start _ => ⟨s, .refl, rfl, rfl, start⟩

theorem simulates_raiseIf (attends : ∀ s, pre s → s.worker.entry? = some entry)
    (failure : Option PyError) :
    Simulates system Agrees pre (raiseIf failure : Code Outside PUnit) (fun _ => pre)
      (Ended entry true) := by
  cases failure with
  | none => exact .pure fun _ start => start
  | some error => exact .raise fun s world start agrees => raises (attends s start) agrees

theorem simulates_remote {value : World Outside → Value} {effect : World Outside → World Outside}
    (attends : ∀ s, pre s → s.worker.entry? = some entry)
    (still : ∀ value s, returned value s → s.worker.entry? = some entry)
    (moves : ∀ s world, pre s → Agrees s world →
      ∃ t, system.Leads s t ∧ Agrees t (effect world) ∧ returned (value world) t) :
    Simulates system Agrees pre (remote delivery error value effect) returned
      (Ended entry true) := by
  intro s world start agrees
  unfold remote
  cases delivery with
  | confirmed => exact moves s world start agrees
  | lost =>
    obtain ⟨t, path, agreed, done⟩ := moves s world start agrees
    obtain ⟨u, later, agreed, ended⟩ := raises (still _ t done) agreed
    exact ⟨u, path.trans later, agreed, ended⟩
  | refused => exact raises (attends s start) agrees

end Rules

section Handling

variable {services : Services Outside} {handlers : Job → Handler Outside} {calls : Calls}
variable {message : Message} {entry : Nat} {job : Job}

theorem simulates_markRunning (known : handlerOf message.jobType = some job) {delivery : Delivery}
    {error : PyError} {now : Time} :
    Simulates system Agrees (fun s => s.worker = .holding entry message)
      (transact delivery error (markRunning message.jobId now) : Code Outside Nat)
      (fun claimed s => if claimed = 0 then Ended entry false s
        else s.worker = .marked entry message)
      (Ended entry true) := by
  refine simulates_remote (fun s => entry_holding) ?_ ?_
  · intro claimed s moved
    split at moved
    · exact entry_ended moved
    · rw [moved]
      rfl
  · rintro s world holding ⟨rows, stream⟩
    have handled : (handlerOf message.jobType).isSome = true := by simp [known]
    by_cases matched : 0 < s.jobRuns.rowcount (markRunning message.jobId now)
    · refine ⟨_, (Works.claim holding handled matched).leads, ⟨by rw [rows], stream⟩, ?_⟩
      rw [if_neg (rows ▸ Nat.pos_iff_ne_zero.mp matched)]
    · have unchanged : s.jobRuns = world.jobRuns.exec (markRunning message.jobId now) := by
        rw [← rows, KeyedTable.exec_unmatched matched]
      refine ⟨_, (Works.skip holding handled matched).leads, ⟨unchanged, stream⟩, ?_⟩
      rw [if_pos (rows ▸ Nat.eq_zero_of_not_pos matched)]
      rfl

theorem simulates_attend {handler : Handler Outside}
    (terminal : (handler message.params (onLogLine services message.jobId)).Yields
      fun result => result.status.isTerminal = true) :
    Simulates system Agrees (fun s => s.worker = .marked entry message)
      (aside (attend services handler message))
      (fun result s => s.worker = .closing entry message result.status result.report)
      (Ended entry true) := by
  rw [attend, aside_bind]
  have attends : ∀ s : State, s.worker = .marked entry message → s.worker.entry? = some entry := by
    intro s marked
    rw [marked]
    rfl
  refine .bind (simulates_unseen attends) fun _ => simulates_aside attends terminal ?_
  intro s result marked terminal
  have called := (Works.startHandler marked).leads
  exact ⟨_, called.trans (Works.handlerReturns rfl terminal).leads, rfl, rfl, rfl⟩

theorem simulates_markTerminal {status : Status} {report : Report} {delivery : Delivery}
    {error : PyError} {now : Time} :
    Simulates system Agrees (fun s => s.worker = .closing entry message status report)
      (transact delivery error (markTerminal message.jobId status report now) : Code Outside Nat)
      (fun _ => Ended entry false) (Ended entry true) := by
  refine simulates_remote ?_ (fun _ s => entry_ended) ?_
  · intro s closing
    rw [closing]
    rfl
  · rintro s world closing ⟨rows, stream⟩
    exact ⟨_, (Works.markTerminal closing).leads, ⟨by rw [rows], stream⟩, rfl⟩

theorem simulates_rejectUnknown (unknown : handlerOf message.jobType = none) {delivery : Delivery}
    {error : PyError} {now : Time} :
    Simulates system Agrees (fun s => s.worker = .holding entry message)
      (transact delivery error
        (markTerminal message.jobId .failed (unknownJobType message.jobType) now) :
        Code Outside Nat)
      (fun _ => Ended entry false) (Ended entry true) := by
  refine simulates_remote (fun s => entry_holding) (fun _ s => entry_ended) ?_
  rintro s world holding ⟨rows, stream⟩
  exact ⟨_, (Works.rejectUnknown holding unknown).leads, ⟨by rw [rows], stream⟩, rfl⟩

theorem simulates_xack {raised : Bool} {delivery : Delivery} {error : PyError} :
    Simulates system Agrees (Ended entry raised)
      (remote delivery error (fun _ => ⟨⟩)
        fun world => { world with requests := world.requests.ack entry } : Code Outside PUnit)
      (fun _ s => s.worker = if raised then .down else .idle) (fun s => s.worker = .down) := by
  intro s world ended agrees
  have acked : ∀ s : State, Agrees s world → s.jobRuns = world.jobRuns ∧
      s.requests.ack entry = world.requests.ack entry :=
        fun s agrees => ⟨agrees.1, by rw [agrees.2]⟩
  unfold remote
  cases delivery with
  | confirmed => exact ⟨_, (Works.ack ended).leads, acked s agrees, rfl⟩
  | lost =>
    obtain ⟨t, path, agreed, ended⟩ := raises (entry_ended ended) agrees
    exact ⟨_, path.trans (Works.ack ended).leads, acked t agreed, rfl⟩
  | refused => exact ⟨_, Works.crash.leads, agrees, rfl⟩

variable (terminal : ∀ job params onLogLine,
  (handlers job params onLogLine : Task Outside Result).Yields
  fun result => result.status.isTerminal = true)

include terminal

theorem simulates_dispatch :
    Simulates system Agrees (fun s => s.worker = .holding entry message)
      (dispatch services handlers calls message) (fun _ =>
        Ended entry false) (Ended entry true) := by
  unfold dispatch
  split
  · rename_i unknown
    exact .bind (simulates_rejectUnknown unknown) fun _ => .pure fun _ ended => ended
  · rename_i job known
    refine .bind (simulates_markRunning known) fun claimed => ?_
    by_cases unclaimed : claimed = 0
    · simp only [unclaimed, if_true]
      exact .pure fun _ ended => ended
    · simp only [unclaimed, if_false]
      refine .bind (simulates_attend (terminal job message.params _)) fun result => ?_
      refine .bind simulates_markTerminal fun _ => ?_
      exact simulates_unseen fun s => entry_ended

theorem simulates_handleMessage :
    Simulates system Agrees (fun s => s.worker = .holding entry message)
      (handleMessage services handlers calls message) (fun _ =>
        Ended entry false) (Ended entry true) := by
  refine .bind (simulates_raiseIf (fun s => entry_holding) _) fun _ => ?_
  refine .bind (simulates_raiseIf (fun s => entry_holding) _) fun _ => ?_
  exact .always (simulates_dispatch terminal) (fun _ => simulates_unseen fun s => entry_ended)
    (simulates_unseen fun s => entry_ended)

/-- One round of the loop is a run of the queue, from the entry that was read to the
next read, or to a worker that is down. -/
theorem simulates_consume :
    Simulates system Agrees (fun s => s.worker = .holding entry message)
      (consume services handlers calls entry message) (fun _ s => s.worker = .idle)
      (fun s => s.worker = .down) :=
  .always (simulates_handleMessage terminal) (fun _ => simulates_xack) simulates_xack

end Handling

/-- With the jobs of `JOB_TABLE`: from a state that the queue can reach, whatever goes
wrong in a round of the loop, it ends in a state that the queue can reach. -/
theorem consume_reachable {services : Services Outside} {calls : Calls}
    {message : Message} {entry : Nat}
    {s : State} {world : World Outside} (reached : system.Reachable s)
    (holding : s.worker = .holding entry message) (agrees : Agrees s world) :
    ∃ t, system.Reachable t ∧
      Agrees t (consume services (jobHandler services) calls entry message world).2 ∧
      Stopped (fun _ s => s.worker = .idle) (fun s => s.worker = .down)
        (consume services (jobHandler services) calls entry message world).1 t := by
  have simulates : Simulates system Agrees (fun s => s.worker = .holding entry message)
      (consume services (jobHandler services) calls entry message) (fun _ s => s.worker = .idle)
      (fun s => s.worker = .down) := simulates_consume fun job _ _ => jobHandler_terminal job
  obtain ⟨t, path, agreed, stopped⟩ := simulates s world holding agrees
  exact ⟨t, reached.trans path, agreed, stopped⟩

def untilRead : List Event :=
  [.worker .boot, .worker .ensureGroup, .control (.submit 0 "gold" (.object []) 1),
    .control (.send 0 (.object [])), .control (.xadd 0), .worker .readNew]

theorem consume_reachable_read :
    ∃ s, system.Reachable s ∧ s.worker = .holding 0 ⟨0, "gold", .object [], 1⟩ ∧
    ∃ t, system.Reachable t ∧ Agrees t (consume nothingElse (jobHandler nothingElse)
      ⟨none, none, .confirmed, 2, .lost, 3, .confirmed,
        .exception "OperationalError" "connection lost"⟩ 0
        ⟨0, "gold", .object [], 1⟩ ⟨s.jobRuns, s.requests, ()⟩).2 := by
  have replayed : (system.replay (fun _ _ => True) Pipeline.init untilRead).map State.worker =
      some (.holding 0 ⟨0, "gold", .object [], 1⟩) := rfl
  obtain ⟨s, reached, holding⟩ := TransitionSystem.reaches_of_replay replayed
  have agrees : Agrees s (⟨s.jobRuns, s.requests, ()⟩ : World Unit) := ⟨rfl, rfl⟩
  obtain ⟨t, arrives, agreed, _⟩ := consume_reachable reached holding agrees
  exact ⟨s, reached, holding, t, arrives, agreed⟩

end OpenScale.Worker
