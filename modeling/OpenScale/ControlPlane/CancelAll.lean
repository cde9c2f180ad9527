import OpenScale.ControlPlane.Refinement
import OpenScale.Locking.Cancel
import OpenScale.Pipeline.Terminal

/-! CancelAll of the control-plane: one transaction, an event for each cancelled run, and a restart
of the worker if one of them was running. As with Run, whatever goes wrong, its handling is a run of
steps of the queue. -/

namespace OpenScale.ControlPlane

open OpenScale.Library OpenScale.Jobs OpenScale.Pipeline

structure CancelFaults where
  cancelActiveRuns : Delivery
  publish : JobId → Delivery
  restart : Delivery

/-- What CancelAll reaches besides the table: the events channel, and the process in the container
of the worker. -/
structure Site extends World where
  published : List JobEvent
  worker : Worker

inductive CancelAllResponse where
  | serverError (err : String)
  | badGateway (err : String)
  | cancelled (runs : List JobRun)

abbrev CancelHandler := Program Site String

/-- A call with the request context. -/
def reach (delivery : Delivery) (effect : Site → Site) : CancelHandler (Option String) :=
  fun site =>
  match site.live, delivery with
  | 0, _ => (.returned (some "context deadline exceeded"), site)
  | live + 1, .confirmed => (.returned none, effect { site with live := live })
  | live + 1, .lost => (.returned (some "connection lost"), effect { site with live := live })
  | live + 1, .refused => (.returned (some "refused"), { site with live := live })

def Site.publish (event : JobEvent) (site : Site) : Site :=
  { site with published := site.published ++ [event] }

def Site.restart (site : Site) : Site := { site with worker := .down }

/-- An event for each cancelled run, whatever comes of it. -/
def publishCancelled (faults : CancelFaults) (sentAt : String) (cancelled : List CancelledRun) :
    CancelHandler PUnit :=
  Program.forEach cancelled fun c => do
    let _ ← reach (faults.publish c.run.id) (Site.publish ⟨c.run.id, .status .cancelled, sentAt⟩)

/-- CancelAll, from the end of its transaction on. -/
def afterCancel (faults : CancelFaults) (sentAt : String) (cancelled : List CancelledRun) :
    CancelHandler CancelAllResponse := do
  publishCancelled faults sentAt cancelled
  if cancelled.any CancelledRun.wasRunning then
    match ← reach faults.restart Site.restart with
    | some err =>
      return .badGateway ("cancelled in the database, but failed to restart the worker: " ++ err)
    | none => return .cancelled (cancelled.map CancelledRun.run)
  else return .cancelled (cancelled.map CancelledRun.run)

/-- CancelAll, from the rows that its transaction is to leave on. -/
def commitCancel (faults : CancelFaults) (sentAt : String) (table : JobRuns)
    (cancelled : List CancelledRun) : CancelHandler CancelAllResponse := do
  match ← reach faults.cancelActiveRuns fun site => { site with jobRuns := table } with
  | some err => return .serverError err
  | none => afterCancel faults sentAt cancelled

def cancelAll (faults : CancelFaults) (now : Time) (sentAt : String) :
    CancelHandler CancelAllResponse := do
  let site ← Program.get
  let (table, cancelled) := Jobs.cancelActiveRuns now site.jobRuns
  commitCancel faults sentAt table cancelled

/-- The queue and the handler see the same rows, the same stream and the same worker. -/
structure Stands (s : State) (site : Site) : Prop where
  agrees : Agrees s site.toWorld
  worker : s.worker = site.worker

def Over (request : Nat) (s : State) : Prop := ∀ cancel, s.cancels[request]? = some cancel →
    cancel.pending = false

/-- The request of this number is the next, and has found these rows and this worker. -/
structure Begun (start : JobRuns) (worker : Worker) (request : Nat) (s : State) : Prop where
  rows : s.jobRuns = start
  worker : s.worker = worker
  request : s.cancels.length = request

structure Cancelled (start : JobRuns) (worker : Worker) (now : Time) (request : Nat) (s : State) :
    Prop where
  rows : s.jobRuns = (Jobs.cancelActiveRuns now start).1
  worker : s.worker = worker
  open_ : ∃ before,
    s.cancels[request]? = some ⟨(Jobs.cancelActiveRuns now start).2, before, true⟩

/-- An answer lists the runs only where they are cancelled and, if need be, the worker restarted. -/
def Answers (start : JobRuns) (worker : Worker) (now : Time) (request : Nat) :
    CancelAllResponse → State → Prop
  | .cancelled runs, s => Over request s ∧ s.jobRuns = (Jobs.cancelActiveRuns now start).1 ∧
      runs = (Jobs.cancelActiveRuns now start).2.map CancelledRun.run ∧
      s.worker = if (Jobs.cancelActiveRuns now start).2.any CancelledRun.wasRunning then .down
      else worker
  | .serverError _, s | .badGateway _, s => Over request s

section Handling

variable {pre post raised : State → Prop} {delivery : Delivery} {effect : Site → Site}
  {faults : CancelFaults}
variable {start : JobRuns} {worker : Worker} {now : Time} {request : Nat} {sentAt : String}
variable {s : State} {site : Site}

theorem over_endCancel : Over request (s.endCancel request) := by
  intro cancel found
  simp only [State.endCancel, List.getElem?_modify, if_true] at found
  obtain ⟨_, _, rfl⟩ := Option.map_eq_some_iff.mp found
  rfl

theorem simulates_reach (moves : ∀ s site, pre s → Stands s site →
      ∃ t, system.Leads s t ∧ Stands t (effect site) ∧ post t) :
    Simulates system Stands pre (reach delivery effect)
      (fun reply s => if reply = none then post s else pre s ∨ post s) raised := by
  intro s site start agrees
  have later (live : Nat) : Stands s { site with live := live } := ⟨agrees.agrees, agrees.worker⟩
  unfold reach
  split
  · exact ⟨s, .refl, agrees, .inl start⟩
  · rename_i live _
    exact moves s { site with live := live } start (later live)
  · rename_i live _
    obtain ⟨t, path, agreed, done⟩ := moves s { site with live := live } start (later live)
    exact ⟨t, path, agreed, .inr done⟩
  · rename_i live _
    exact ⟨s, .refl, later live, .inl start⟩

theorem simulates_publishCancelled {cancelled : List CancelledRun} :
    Simulates system Stands pre (publishCancelled faults sentAt cancelled)
      (fun _ => pre) raised := by
  refine .forEach fun c => .bind (simulates_reach fun s site start stands =>
    ⟨s, .refl, ⟨stands.agrees, stands.worker⟩, start⟩) fun reply => ?_
  refine .pure fun s either => ?_
  split at either
  · exact either
  · exact either.elim id id

theorem simulates_answered {response : CancelAllResponse}
    (answers : ∀ s, pre s → Answers start worker now request response (s.endCancel request)) :
    Simulates system Stands pre (Pure.pure response : CancelHandler CancelAllResponse)
      (Answers start worker now request) raised :=
  .advance (fun _ _ begun stands =>
    ⟨_, Controls.cancelEnds.leads, ⟨stands.agrees, stands.worker⟩, answers _ begun⟩) (.pure fun _ =>
      id)

theorem simulates_afterCancel :
    Simulates system Stands (Cancelled start worker now request)
      (afterCancel faults sentAt (Jobs.cancelActiveRuns now start).2)
      (Answers start worker now request) raised := by
  refine .bind simulates_publishCancelled fun _ => ?_
  by_cases running : (Jobs.cancelActiveRuns now start).2.any CancelledRun.wasRunning = true
  · rw [if_pos running]
    let Restarted (s : State) : Prop :=
      s.jobRuns = (Jobs.cancelActiveRuns now start).1 ∧ s.worker = .down
    have restarts : Simulates system Stands (Cancelled start worker now request)
        (reach faults.restart Site.restart)
        (fun reply s => if reply = none then Restarted s
          else Cancelled start worker now request s ∨ Restarted s) raised :=
      simulates_reach fun s site cancelled stands => by
        obtain ⟨before, found⟩ := cancelled.open_
        exact ⟨_, (Controls.restartWorker found rfl running).leads, ⟨stands.agrees, rfl⟩,
          cancelled.rows, rfl⟩
    refine .bind restarts fun reply => ?_
    cases reply with
    | none =>
      refine simulates_answered fun s restarted => ⟨over_endCancel, restarted.1, rfl, ?_⟩
      rw [if_pos running]
      exact restarted.2
    | some err => exact simulates_answered fun s _ => over_endCancel
  · rw [if_neg running]
    refine simulates_answered fun s cancelled => ⟨over_endCancel, cancelled.rows, rfl, ?_⟩
    rw [if_neg running]
    exact cancelled.worker

theorem simulates_commitCancel :
    Simulates system Stands (Begun start worker request)
      (commitCancel faults sentAt (Jobs.cancelActiveRuns now start).1
        (Jobs.cancelActiveRuns now start).2)
      (Answers start worker now request) raised := by
  have commits : Simulates system Stands (Begun start worker request)
      (reach faults.cancelActiveRuns fun site =>
        { site with jobRuns := (Jobs.cancelActiveRuns now start).1 })
      (fun reply s => if reply = none then Cancelled start worker now request s
        else Begun start worker request s ∨ Cancelled start worker now request s) raised :=
    simulates_reach fun s site begun stands => by
      obtain ⟨rfl, rfl, rfl⟩ := begun
      exact ⟨_, Controls.cancelActiveRuns.leads, ⟨⟨rfl, stands.agrees.2⟩, stands.worker⟩, rfl, rfl,
        s.claimed, by simp⟩
  refine .bind commits fun reply => ?_
  cases reply with
  | none => exact simulates_afterCancel
  | some err => exact simulates_answered fun s _ => over_endCancel

theorem cancelAll_eq : cancelAll faults now sentAt site =
    commitCancel faults sentAt (Jobs.cancelActiveRuns now site.jobRuns).1
      (Jobs.cancelActiveRuns now site.jobRuns).2 site :=
  rfl

theorem reach_ends : (reach delivery effect).Ends := by
  intro site
  unfold reach
  split <;> simp

theorem publishCancelled_ends (cancelled : List CancelledRun) :
    (publishCancelled faults sentAt cancelled).Ends := by
  induction cancelled with
  | nil => exact .pure
  | cons c rest ih => exact .bind (.bind reach_ends fun _ => .pure) fun _ => ih

theorem commitCancel_ends (table : JobRuns) (cancelled : List CancelledRun) :
    (commitCancel faults sentAt table cancelled).Ends := by
  refine .bind reach_ends fun reply => ?_
  cases reply with
  | some err => exact .pure
  | none =>
    refine .bind (publishCancelled_ends cancelled) fun _ => ?_
    split
    · refine .bind reach_ends fun reply => ?_
      cases reply with
      | some err => exact .pure
      | none => exact .pure
    · exact .pure

theorem any_wasRunning_iff {table : JobRuns} :
    (Jobs.cancelActiveRuns now table).2.any CancelledRun.wasRunning = true ↔
      ∃ run ∈ table, run.status = .running := by
  have unique : ((table.returning selectActive).map JobRun.id).Nodup := by
    have kept : (table.returning selectActive).Sublist table.rows := by
      have same : table.returning selectActive =
        (table.rows.filter selectActive.selects).filterMap some := rfl
      rw [same, List.filterMap_some]
      exact List.filter_sublist
    exact table.unique.sublist (kept.map _)
  have marked : ∀ c ∈ (Jobs.cancelActiveRuns now table).2, c.wasRunning =
      ((wasRunning (table.returning selectActive)).lookup c.run.id).getD false := by
    intro c reported
    unfold Jobs.cancelActiveRuns at reported
    by_cases empty : (table.returning selectActive).isEmpty = true
    · rw [if_pos empty] at reported
      exact absurd reported List.not_mem_nil
    · rw [if_neg empty] at reported
      obtain ⟨_, _, rfl⟩ := List.mem_map.mp reported
      rfl
  constructor
  · intro some_
    obtain ⟨c, reported, was⟩ := List.any_eq_true.mp some_
    rw [marked c reported] at was
    cases mark : (wasRunning (table.returning selectActive)).lookup c.run.id with
    | none => simp [mark] at was
    | some running =>
      obtain ⟨before, behind, split, _⟩ := List.lookup_eq_some_iff.mp mark
      have listed : (c.run.id, running) ∈ wasRunning (table.returning selectActive) :=
        split ▸ List.mem_append_right before List.mem_cons_self
      obtain ⟨run, chosen, same⟩ := List.mem_map.mp listed
      obtain ⟨_, rfl⟩ := Prod.mk.inj same
      exact ⟨run, (mem_selectActive.mp chosen).1, by simpa [mark] using was⟩
  · rintro ⟨run, member, running⟩
    have active : run.status.isActive = true := by rw [running]; rfl
    have chosen : run ∈ table.returning selectActive := mem_selectActive.mpr ⟨member, active⟩
    obtain ⟨c, reported, same⟩ := cancelled_reported member active
    refine List.any_eq_true.mpr ⟨c, reported, ?_⟩
    rw [marked c reported, same, JobRun.cancel_id, Locking.lookup_wasRunning unique chosen, running]
    rfl

/-- From a state that the queue can reach, and whatever goes wrong, CancelAll ends in a state that
the queue can reach. If it lists the cancelled runs, they are all that were active, and it has
killed the worker if one of them was running, and left it alone if none was. -/
theorem cancelAll_reachable (reached : system.Reachable s) (stands : Stands s site) :
    ∃ t, system.Reachable t ∧ Stands t (cancelAll faults now sentAt site).2 ∧
      Over s.cancels.length t ∧
      ∀ runs, (cancelAll faults now sentAt site).1 = .returned (.cancelled runs) →
        (∀ run ∈ site.jobRuns, run.status.isActive = true →
          run.cancel now ∈ (cancelAll faults now sentAt site).2.jobRuns ∧ run.cancel now ∈ runs) ∧
        ((∃ run ∈ site.jobRuns, run.status = .running) →
          (cancelAll faults now sentAt site).2.worker = .down) ∧
        ((∀ run ∈ site.jobRuns, run.status ≠ .running) →
          (cancelAll faults now sentAt site).2.worker = site.worker) := by
  have simulates : Simulates system Stands (Begun site.jobRuns site.worker s.cancels.length)
      (commitCancel faults sentAt (Jobs.cancelActiveRuns now site.jobRuns).1
        (Jobs.cancelActiveRuns now site.jobRuns).2)
      (Answers site.jobRuns site.worker now s.cancels.length) fun _ => False :=
    simulates_commitCancel
  obtain ⟨t, path, stood, stopped⟩ :=
    simulates s site ⟨stands.agrees.1, stands.worker, rfl⟩ stands
  rw [cancelAll_eq]
  refine ⟨t, reached.trans path, stood, ?_⟩
  cases outcome : (commitCancel faults sentAt (Jobs.cancelActiveRuns now site.jobRuns).1
      (Jobs.cancelActiveRuns now site.jobRuns).2 site).1 with
  | running => exact absurd outcome (commitCancel_ends _ _ site)
  | raised _ =>
    rw [outcome] at stopped
    exact stopped.elim
  | returned response =>
    rw [outcome] at stopped
    cases response with
    | serverError err => exact ⟨stopped, fun _ same => by cases same⟩
    | badGateway err => exact ⟨stopped, fun _ same => by cases same⟩
    | cancelled runs =>
      obtain ⟨ended, rows, listed, process⟩ := stopped
      refine ⟨ended, fun _ same => ?_⟩
      cases same
      rw [← stood.agrees.1, ← stood.worker, process]
      refine ⟨fun run member active => ⟨?_, ?_⟩, fun running => ?_, fun none_ => ?_⟩
      · rw [rows]
        exact mem_cancelActiveRuns.mpr (.inr ⟨run, member, active, rfl⟩)
      · obtain ⟨c, reported, same⟩ := cancelled_reported member active
        rw [listed]
        exact List.mem_map.mpr ⟨c, reported, same⟩
      · exact if_pos (any_wasRunning_iff.mpr running)
      · refine if_neg fun some_ => ?_
        obtain ⟨run, member, running⟩ := any_wasRunning_iff.mp some_
        exact none_ run member running

end Handling

def listed? : Outcome String CancelAllResponse → Option (List JobRun)
  | .returned (.cancelled runs) => some runs
  | _ => none

theorem listed?_eq_some {outcome : Outcome String CancelAllResponse} {runs : List JobRun}
    (listed : listed? outcome = some runs) : outcome = .returned (.cancelled runs) := by
  unfold listed? at listed
  split at listed
  · cases listed
    rfl
  · cases listed

def lostEvent : CancelFaults := ⟨.confirmed, fun _ => .refused, .confirmed⟩

def siteOf (s : State) : Site := ⟨⟨s.jobRuns, s.requests, 5⟩, [], s.worker⟩

theorem cancelAll_reachable_running : ∃ s, system.Reachable s ∧ s.statuses = [(0, .running)] ∧
    s.worker ≠ .down ∧ (cancelAll lostEvent 3 "" (siteOf s)).2.worker = .down ∧
    ∃ t, system.Reachable t ∧ Stands t (cancelAll lostEvent 3 "" (siteOf s)).2 := by
  have replayed : (system.replay (fun _ _ => True) Pipeline.init untilExecuting).map
      (fun s => (s.statuses, s.worker.inFlight?.isSome,
        (listed? (cancelAll lostEvent 3 "" (siteOf s)).1).map (List.map JobRun.id))) =
        some ([(0, .running)], true, some [0]) := by decide +kernel
  obtain ⟨s, reached, seen⟩ := TransitionSystem.reaches_of_replay replayed
  simp only [Prod.mk.injEq] at seen
  obtain ⟨statuses, busy, answer⟩ := seen
  obtain ⟨runs, listed, _⟩ := Option.map_eq_some_iff.mp answer
  have stands : Stands s (siteOf s) := ⟨⟨rfl, rfl⟩, rfl⟩
  obtain ⟨t, arrives, stood, _, tells⟩ :=
    @cancelAll_reachable lostEvent 3 "" s (siteOf s) reached stands
  obtain ⟨run, member, _, running⟩ :=
    mem_statuses (statuses ▸ List.mem_singleton_self (0, Status.running))
  have killed := (tells runs (listed?_eq_some listed)).2.1 ⟨run, member, running⟩
  refine ⟨s, reached, statuses, fun down => ?_, killed, t, arrives, stood⟩
  rw [down] at busy
  cases busy

end OpenScale.ControlPlane
