import OpenScale.Pipeline.Delivery

/-! The worker left to itself: while nothing fails it reads the stream to its end, run by run in the
order of the messages, and it leaves no run behind that it could have read. -/

namespace OpenScale.Pipeline

open OpenScale.Library OpenScale.Jobs

variable {s t u : State} {event : Event} {run : JobRun} {id : JobId}

/-- The steps of a worker that neither raises nor crashes. Redis redelivers nothing to it. -/
def Serves : Event → Prop
  | .worker (.redeliver _) | .worker .raise | .worker .crash => False
  | .worker _ => True
  | .control _ => False

instance (event : Event) : Decidable (Serves event) := by
  unfold Serves
  split <;> infer_instance

def Worker.rank : Worker → Nat
  | idle => 0
  | acking _ false | starting => 1
  | down => 2
  | acking _ true | closing _ _ _ _ => 3
  | executing _ _ => 4
  | marked _ _ => 5
  | holding _ _ => 6

def State.work (state : State) : Nat := 7 * state.requests.undelivered.length + state.worker.rank

def State.pending (state : State) : List JobId :=
  (match state.worker with
    | .holding _ message => [message.jobId]
    | _ => []) ++ state.requests.undelivered.map Message.jobId

def State.Stuck (state : State) : Prop := ∀ event, Serves event → system.step state event = none

theorem readNew_of_undelivered {stream : GroupStream Message} {message : Message}
    {rest : List Message} (readable : stream.undelivered = message :: rest) :
    ∃ entry later, stream.readNew = some (entry, message, later) := by
  cases read : stream.readNew with
  | some found =>
    obtain ⟨entry, first, later⟩ := found
    obtain ⟨front, _⟩ := GroupStream.readNew_eq_some read
    cases readable.symm.trans front
    exact ⟨entry, later, rfl⟩
  | none =>
    unfold GroupStream.undelivered at readable
    unfold GroupStream.readNew at read
    split at readable
    next group present =>
      split at read
      next absent => simp [absent] at present
      next other found =>
        cases present.symm.trans found
        split at read
        · cases read
        next beyond =>
          rw [List.drop_eq_nil_of_le (by omega)] at readable
          cases readable
    · cases readable

theorem work_step (serves : Serves event) (taken : system.step s event = some t) :
    t.work < s.work := by
  cases event with
  | control event => exact serves.elim
  | worker event =>
    cases works taken with
    | boot here => simp [State.work, Worker.rank, here]
    | ensureGroup here => simp [State.work, Worker.rank, here, GroupStream.undelivered_createGroup]
    | readNew here read =>
      have front := (GroupStream.readNew_eq_some read).1
      simp only [State.work, Worker.rank, here, front, List.length_cons]
      omega
    | redeliver here listed => exact serves.elim
    | claim here known matched => simp [State.work, Worker.rank, here]
    | skip here known unmatched => simp [State.work, Worker.rank, here]
    | rejectUnknown here unknown => simp [State.work, Worker.rank, here]
    | startHandler here => simp [State.work, Worker.rank, here]
    | handlerReturns here terminal => simp [State.work, Worker.rank, here]
    | markTerminal here => simp [State.work, Worker.rank, here]
    | raise attends => exact serves.elim
    | @ack _ raised here =>
      cases raised <;> simp [State.work, Worker.rank, here, GroupStream.undelivered_ack]
    | crash => exact serves.elim

theorem stuck_of_reachable (valid : Invariant s) (stuck : s.Stuck) :
    s.worker = .idle ∧ s.requests.undelivered = [] := by
  have free {event : WorkerEvent} {next : State} (moved : Works s event next)
      (serves : Serves (.worker event)) : False := by
    have none_ := stuck (.worker event) serves
    rw [moved.step] at none_
    cases none_
  cases worker : s.worker with
  | idle =>
    refine ⟨rfl, ?_⟩
    cases readable : s.requests.undelivered with
    | nil => rfl
    | cons message rest =>
      obtain ⟨entry, later, read⟩ := readNew_of_undelivered readable
      exact (free (.readNew worker read) trivial).elim
  | down => exact (free (.boot worker) trivial).elim
  | starting => exact (free (.ensureGroup worker) trivial).elim
  | holding entry message =>
    have listed := valid.held message (by rw [worker]; rfl)
    have known := handlerOf_known (valid.sent message listed).2
    by_cases matched : 0 < s.jobRuns.rowcount (markRunning message.jobId 0)
    · exact (free (.claim worker known matched) trivial).elim
    · exact (free (.skip worker known matched) trivial).elim
  | marked entry message => exact (free (.startHandler worker) trivial).elim
  | executing entry message =>
    have returns : Works s (.handlerReturns .succeeded ⟨none, none, "", none, none⟩) _ :=
      .handlerReturns worker (by decide)
    exact (free returns trivial).elim
  | closing entry message status report =>
    have closes : Works s (.markTerminal 0) _ := .markTerminal worker
    exact (free closes trivial).elim
  | acking entry raised => exact (free (.ack worker) trivial).elim

/-- What the worker may have made of the queue by now. -/
structure Served (s t : State) : Prop where
  valid : Invariant t
  /-- A row is as it was, or it has a final status, or the worker is at it. -/
  rows : ∀ run ∈ t.jobRuns, run ∈ s.jobRuns ∨ run.status.isTerminal = true ∨
    ∃ message, t.worker.inFlight? = some message ∧ message.jobId = run.id
  /-- What was in flight is so still, or has a final status. -/
  inFlight : ∀ message, s.worker.inFlight? = some message →
    ∀ run ∈ t.jobRuns, run.id = message.jobId →
    run.status.isTerminal = true ∨ t.worker.inFlight? = some message
  /-- What waits was waiting, and what could be read then can be read now. -/
  waiting : ∀ run ∈ t.jobRuns, run.status = .queued → run ∈ s.jobRuns ∧
    (s.readable run.id = true ∨ s.holds run.id = true → t.readable run.id = true ∨
      t.holds run.id = true)
  /-- No row is lost. -/
  kept : ∀ run ∈ s.jobRuns, ∃ new ∈ t.jobRuns, new.id = run.id
  /-- Runs are claimed in the order of their messages. -/
  order : ∃ ids, t.claimed = s.claimed ++ ids ∧ (ids ++ t.pending).Sublist s.pending

theorem Served.refl (valid : Invariant s) : Served s s where
  valid := valid
  rows run member := .inl member
  inFlight message busy run member own := .inr busy
  waiting run member queued := ⟨member, id⟩
  kept run member := ⟨run, member, rfl⟩
  order := ⟨[], (List.append_nil _).symm, by simp⟩

theorem pending_step (serves : Serves event) (taken : system.step s event = some t) :
    ∃ ids, t.claimed = s.claimed ++ ids ∧ (ids ++ t.pending).Sublist s.pending := by
  cases event with
  | control event => exact serves.elim
  | worker event =>
    cases works taken with
    | boot here => exact ⟨[], by simp, by simp [State.pending, here]⟩
    | ensureGroup here =>
      exact ⟨[], by simp, by simp [State.pending, here, GroupStream.undelivered_createGroup]⟩
    | readNew here read =>
      have front := (GroupStream.readNew_eq_some read).1
      exact ⟨[], by simp, by simp [State.pending, here, front]⟩
    | redeliver here listed => exact serves.elim
    | claim here known matched => exact ⟨_, rfl, by simp [State.pending, here]⟩
    | skip here known unmatched => exact ⟨[], by simp, by simp [State.pending, here]⟩
    | rejectUnknown here unknown => exact ⟨[], by simp, by simp [State.pending, here]⟩
    | startHandler here => exact ⟨[], by simp, by simp [State.pending, here]⟩
    | handlerReturns here terminal => exact ⟨[], by simp, by simp [State.pending, here]⟩
    | markTerminal here => exact ⟨[], by simp, by simp [State.pending, here]⟩
    | raise attends => exact serves.elim
    | @ack _ raised here =>
      cases raised <;>
        exact ⟨[], by simp, by simp [State.pending, here, GroupStream.undelivered_ack]⟩
    | crash => exact serves.elim

theorem strands_of_serves (serves : Serves event) : StrandsNone s event := by
  have none_ : strands s event = none := by
    match event, serves with
    | .worker .boot, _ | .worker .ensureGroup, _ | .worker .readNew, _ | .worker (.markRunning _), _
    | .worker (.rejectUnknown _), _ | .worker .startHandler, _ | .worker (.handlerReturns _ _), _
    | .worker (.markTerminal _), _ | .worker .ack, _ => rfl
  intro id member
  rw [none_] at member
  cases member

theorem inFlight_step {message : Message} (serves : Serves event)
    (taken : system.step s event = some t)
    (busy : s.worker.inFlight? = some message) : t.worker.inFlight? = some message ∨
      ∃ entry status report now, s.worker = .closing entry message status report ∧
      event = .worker (.markTerminal now) := by
  cases event with
  | control event => exact serves.elim
  | worker event =>
    cases works taken with
    | startHandler here | handlerReturns here terminal =>
      rw [here] at busy
      exact .inl busy
    | @markTerminal entry message status report now here =>
      rw [here] at busy
      cases busy
      exact .inr ⟨entry, status, report, now, here, rfl⟩
    | redeliver here listed | raise attends | crash => exact serves.elim
    | boot here | ensureGroup here | readNew here read | claim here known matched
    | skip here known unmatched
    | rejectUnknown here unknown | ack here =>
      rw [here] at busy
      cases busy

theorem inFlight_unwritten {message : Message} (serves : Serves event)
    (taken : system.step s event = some t)
    (busy : s.worker.inFlight? = some message) (own : run.id = message.jobId)
    (unwritten : ∀ new, ¬Writes s event run new) : t.worker.inFlight? = some message := by
  rcases inFlight_step serves taken busy with still | ⟨entry, status, report, now, closing, rfl⟩
  · exact still
  · exact absurd ⟨entry, message, status, report, closing, own, rfl⟩ (unwritten _)

/-- What the worker writes: a start, after which the run is in flight, or a final status. -/
theorem writes_serves (valid : Invariant s) (serves : Serves event)
    (taken : system.step s event = some t)
    {old : JobRun} (member : old ∈ s.jobRuns) (writes : Writes s event old run) :
    run.status.isTerminal = true ∨
      old.status = .queued ∧ s.worker.inFlight? = none ∧
        ∃ message, t.worker.inFlight? = some message ∧ message.jobId = run.id := by
  obtain ⟨same, ⟨now, entry, message, rfl, holding, own, queued, _⟩ | ⟨_, _, _, status, _, _,
      closing, _, became⟩ |
    ⟨_, _, _, _, _, _, became⟩ | ⟨_, _, rfl, _⟩ | ⟨_, rfl, _⟩⟩ := writes.cases
  · refine .inr ⟨queued, by rw [holding]; rfl, message, ?_, own.symm.trans same.symm⟩
    cases works taken with
    | claim here known matched =>
      cases holding.symm.trans here
      rfl
    | skip here known unmatched =>
      cases holding.symm.trans here
      exact absurd (KeyedTable.rowcount_pos.mpr ⟨old, member, by simp [markRunning, own, queued]⟩)
        unmatched
  · exact .inl (became ▸ valid.closing _ _ _ _ closing)
  · exact .inl (by rw [became]; rfl)
  · exact serves.elim
  · exact serves.elim

theorem inserts_serves (serves : Serves event) : ¬Inserts event run := by
  match event, serves with
  | .worker _, _ => exact id

theorem deletes_serves (serves : Serves event) : ¬Deletes event run := by
  match event, serves with
  | .worker _, _ => exact id

theorem Served.step (served : Served s t) (serves : Serves event)
    (taken : system.step t event = some u) : Served s u where
  valid := served.valid.step taken
  rows := by
    intro run member
    rcases row_cases taken member with ⟨kept, unwritten⟩ | ⟨old, kept, writes⟩ | ⟨_, inserted⟩
    · rcases served.rows run kept with before | terminal | ⟨message, busy, own⟩
      · exact .inl before
      · exact .inr (.inl terminal)
      · exact .inr (.inr ⟨message, inFlight_unwritten serves taken busy own.symm unwritten, own⟩)
    · exact .inr ((writes_serves served.valid serves taken kept writes).imp id fun starts =>
        starts.2.2)
    · exact absurd inserted (inserts_serves serves)
  inFlight := by
    intro message busy run member own
    rcases row_cases taken member with ⟨kept, unwritten⟩ | ⟨old, kept, writes⟩ | ⟨_, inserted⟩
    · refine (served.inFlight message busy run kept own).imp id fun still => ?_
      exact inFlight_unwritten serves taken still own unwritten
    · rcases writes_serves served.valid serves taken kept writes with terminal | ⟨queued, free, _⟩
      · exact .inl terminal
      · rcases served.inFlight message busy old kept
          (writes.cases.1.symm.trans own) with terminal | still
        · rw [queued] at terminal
          cases terminal
        · rw [free] at still
          cases still
    · exact absurd inserted (inserts_serves serves)
  waiting := by
    intro run member queued
    rcases served.valid.queued_step taken member queued with ⟨kept, unwritten⟩ | ⟨_, inserted⟩
    · obtain ⟨before, reach⟩ := served.waiting run kept queued
      refine ⟨before, fun start => ?_⟩
      rcases reach start with readable | holds
      · exact readable_step taken readable
      · exact holds_step taken (strands_of_serves serves) kept queued unwritten holds
    · exact absurd inserted (inserts_serves serves)
  kept := by
    intro run member
    obtain ⟨old, there, own⟩ := served.kept run member
    rcases row_stays taken there with ⟨still, _⟩ | ⟨new, written, writes⟩ | deleted
    · exact ⟨old, still, own⟩
    · exact ⟨new, written, writes.cases.1.trans own⟩
    · exact absurd deleted (deletes_serves serves)
  order := by
    obtain ⟨ids, claimed, order⟩ := served.order
    obtain ⟨more, later, next⟩ := pending_step serves taken
    refine ⟨ids ++ more, by rw [later, claimed, List.append_assoc], ?_⟩
    rw [List.append_assoc]
    exact ((List.Sublist.refl ids).append next).trans order

structure Drained (s t : State) : Prop where
  idle : t.worker = .idle
  read : t.requests.undelivered = []
  /-- The other rows are as they were. Those of them that are still queued could never be read. -/
  rows : ∀ run ∈ t.jobRuns, run.status.isTerminal = true ∨
    run ∈ s.jobRuns ∧ (∀ message, s.worker.inFlight? = some message → message.jobId ≠ run.id) ∧
      (run.status = .queued → run.id ∉ s.pending)
  kept : ∀ run ∈ s.jobRuns, ∃ new ∈ t.jobRuns, new.id = run.id
  order : ∃ ids, t.claimed = s.claimed ++ ids ∧ ids.Sublist s.pending

theorem mem_pending : id ∈ s.pending ↔ s.readable id = true ∨ s.holds id = true := by
  rw [readable_iff, holds_iff, State.pending, List.mem_append, List.mem_map, or_comm]
  refine or_congr Iff.rfl ?_
  split
  next entry message holding => simp [holding, eq_comm]
  next other =>
    simp only [List.not_mem_nil, false_iff]
    rintro ⟨entry, message, holding, _⟩
    exact other entry message holding

theorem Served.drained (served : Served s t) (stuck : t.Stuck) : Drained s t := by
  obtain ⟨idle, read⟩ := stuck_of_reachable served.valid stuck
  have nothing : t.pending = [] := by simp [State.pending, idle, read]
  refine ⟨idle, read, fun run member => ?_, served.kept, ?_⟩
  · by_cases terminal : run.status.isTerminal = true
    · exact .inl terminal
    · refine .inr ⟨?_, fun message busy own => ?_, fun queued inside => ?_⟩
      · rcases served.rows run member with before | ended | ⟨message, busy, _⟩
        · exact before
        · exact absurd ended terminal
        · rw [idle] at busy
          cases busy
      · rcases served.inFlight message busy run member own.symm with ended | still
        · exact terminal ended
        · rw [idle] at still
          cases still
      · have reach := (served.waiting run member queued).2 (mem_pending.mp inside)
        rw [← mem_pending, nothing] at reach
        cases reach
  · obtain ⟨ids, claimed, order⟩ := served.order
    rw [nothing, List.append_nil] at order
    exact ⟨ids, claimed, order⟩

theorem replay_work {events : List Event}
    (run : system.replay (fun _ event => Serves event) s events = some t) :
    events.length + t.work ≤ s.work := by
  induction events generalizing s with
  | nil =>
    cases run
    simp
  | cons event rest ih =>
    unfold TransitionSystem.replay at run
    split at run
    next serves =>
      obtain ⟨next, taken, tail⟩ := Option.bind_eq_some_iff.mp run
      have less := work_step serves taken
      have later := ih tail
      rw [List.length_cons]
      omega
    · cases run

theorem exists_stuck (s : State) :
    ∃ events t, system.replay (fun _ event => Serves event) s events = some t ∧ t.Stuck := by
  induction rest : s.work using Nat.strongRecOn generalizing s with
  | ind count ih =>
    by_cases stuck : s.Stuck
    · exact ⟨[], s, rfl, stuck⟩
    · obtain ⟨event, serves, moves⟩ : ∃ event, Serves event ∧ system.step s event ≠ none := by
        simpa [State.Stuck] using stuck
      obtain ⟨next, taken⟩ := Option.ne_none_iff_exists'.mp moves
      obtain ⟨events, last, run, done⟩ := ih next.work (rest ▸ work_step serves taken) next rfl
      refine ⟨event :: events, last, ?_, done⟩
      unfold TransitionSystem.replay
      rw [if_pos serves, taken]
      exact run

/-- From any state that the queue can reach, a worker that is left to itself and does not fail comes
to an end, and not before it has read the whole stream: it then has given a final status to what it
was at, and it leaves nothing queued that it could have read. It claims the runs in the order of
their messages. -/
theorem queue_drains (reachable : system.Reachable s) :
    (∀ events t, system.replay (fun _ event => Serves event) s events = some t →
      events.length ≤ s.work ∧ (t.Stuck → Drained s t)) ∧
    ∃ events t, system.replay (fun _ event => Serves event) s events = some t ∧ t.Stuck := by
  refine ⟨fun events t run => ⟨?_, fun stuck => ?_⟩, exists_stuck s⟩
  · have bound := replay_work run
    omega
  · have path := TransitionSystem.path_of_replay run
    have served : Served s t :=
      path.preserves (fun _ _ _ served serves taken => served.step serves taken)
      (.refl (reachable_invariant reachable))
    exact served.drained stuck

def twoEnqueued : List Event :=
  enqueued ++ [.control (.submit 1 "silver" (.object []) 2), .control (.send 1 (.object [])),
    .control (.xadd 1)]

theorem queue_drains_enqueued : ∃ s, s.statuses = [(0, .queued), (1, .queued)] ∧
    s.pending = [0, 1] ∧
    ∃ events t, system.replay (fun _ event => Serves event) s events = some t ∧ Drained s t := by
  have replayed : (system.replay (fun _ _ => True) init twoEnqueued).map
      (fun s => (s.statuses, s.pending)) = some ([(0, .queued), (1, .queued)], [0, 1]) := by decide
  obtain ⟨s, reachable, shown⟩ := TransitionSystem.reaches_of_replay replayed
  obtain ⟨statuses, pending⟩ : s.statuses = [(0, .queued), (1, .queued)] ∧ s.pending = [0, 1] := by
    simpa using shown
  obtain ⟨each, events, t, run, stuck⟩ := queue_drains reachable
  exact ⟨s, statuses, pending, events, t, run, (each events t run).2 stuck⟩

end OpenScale.Pipeline
