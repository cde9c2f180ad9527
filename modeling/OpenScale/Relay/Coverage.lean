import OpenScale.Relay.System

/-! The end of a run leaves a trace on its way to every connection that watches the
run, from the write to the frame. A step moves the trace on and never removes it. -/

namespace OpenScale.Relay

open OpenScale.Library OpenScale.Library.TransitionSystem OpenScale.Jobs

variable {s s' : State} {event : Event} {conn other : ConnId} {connection : Connection}

def Ends (id : JobId) (event : JobEvent) : Prop :=
  event.jobId = id ∧ event.status?.any isFinal = true

/-- The connection has looked its run up, and is still open. -/
def Connection.isWatching (connection : Connection) : Bool :=
  match connection.phase with
  | .looked _ | .greeted | .relaying _ => true
  | _ => false

/-- The end of a run, before it has reached one of its connections. -/
inductive OnTheWay (s : State) (conn : ConnId) (id : JobId) : Prop where
  | owed (status : Status) (final : isFinal status = true) (listed : (id, status) ∈ s.owed)
  | silent (listed : id ∈ s.silent)
  | published (event : JobEvent) (ends : Ends id event) (listed : event ∈ s.published)
  | sending (event : JobEvent) (targets : List ConnId) (ends : Ends id event)
      (hub : s.hub = .sending event targets) (target : conn ∈ targets)

/-- The end of its run, at the connection. -/
inductive Connection.Holds (connection : Connection) : Prop where
  | buffered (event : JobEvent) (ends : Ends connection.jobId event) (listed : event ∈
    connection.buffer)
  | received (event : JobEvent) (ends : Ends connection.jobId event)
      (phase : connection.phase = .relaying (some event))
  | dropped (event : JobEvent) (ends : Ends connection.jobId event) (listed : event ∈
    connection.dropped)
  | missed (event : JobEvent) (ends : Ends connection.jobId event) (listed : event ∈
    connection.missed)
  | looked (status : Status) (final : isFinal status = true) (phase : connection.phase =
    .looked status)
  | sent (frame : Frame) (final : frame.state?.any isFinal = true) (listed : frame ∈
    connection.sent)

def Traced (s : State) (conn : ConnId) : Prop :=
  OnTheWay s conn (s.connections conn).jobId ∨ (s.connections conn).Holds

/-- A connection is subscribed while it relays, and the end of a run is traced for
every connection that watches it. -/
structure Covered (s : State) : Prop where
  subscribed : ∀ conn received, (s.connections conn).phase = .relaying received →
    conn ∈ s.subscribers
  traced : ∀ conn, (s.connections conn).isWatching = true → ∀ run ∈ s.jobRuns,
    run.id = (s.connections conn).jobId → isFinal run.status = true → Traced s conn

section OnTheWay

variable {id : JobId}

theorem OnTheWay.grow (way : OnTheWay s conn id) (owed : ∀ pair ∈ s.owed, pair ∈ s'.owed)
    (silent : ∀ run ∈ s.silent, run ∈ s'.silent)
    (published : ∀ event ∈ s.published, event ∈ s'.published)
    (hub : s'.hub = s.hub) : OnTheWay s' conn id := by
  cases way with
  | owed status final listed => exact .owed status final (owed _ listed)
  | silent listed => exact .silent (silent _ listed)
  | published event ends listed => exact .published event ends (published _ listed)
  | sending event targets ends sending target =>
    exact .sending event targets ends (hub.trans sending) target

theorem OnTheWay.congr (way : OnTheWay s conn id) (owed : s'.owed = s.owed)
    (silent : s'.silent = s.silent)
    (published : s'.published = s.published) (hub : s'.hub = s.hub) : OnTheWay s' conn id :=
  way.grow (fun _ listed => owed ▸ listed) (fun _ listed => silent ▸ listed)
    (fun _ listed => published ▸ listed) hub

theorem OnTheWay.settle {index : Nat} {pair : JobId × Status} (way : OnTheWay s conn id)
    (found : s.owed[index]? = some pair) (owed : s'.owed = s.owed.eraseIdx index)
    (silent : ∀ run ∈ s.silent, run ∈ s'.silent)
    (published : ∀ event ∈ s.published, event ∈ s'.published)
    (hub : s'.hub = s.hub) (settled : isFinal pair.2 = true → OnTheWay s' conn pair.1) :
    OnTheWay s' conn id := by
  cases way with
  | owed status final listed =>
    obtain ⟨place, located⟩ := List.getElem?_of_mem listed
    by_cases same : place = index
    · subst same
      cases found.symm.trans located
      exact settled final
    · refine .owed status final ?_
      rw [owed]
      exact List.mem_eraseIdx_iff_getElem?.mpr ⟨place, same, located⟩
  | silent listed => exact .silent (silent _ listed)
  | published event ends listed => exact .published event ends (published _ listed)
  | sending event targets ends sending target =>
    exact .sending event targets ends (hub.trans sending) target

end OnTheWay

section Holds

variable {event : JobEvent}

theorem Connection.Holds.pass {new : Connection} (holds : connection.Holds)
    (own : new.jobId = connection.jobId)
    (buffer : ∀ event ∈ connection.buffer, event ∈ new.buffer ∨ new.phase = .relaying (some event))
    (received : ∀ event, connection.phase = .relaying (some event) →
      new.phase = .relaying (some event) ∨ .event event ∈ new.sent)
    (looked : ∀ status, connection.phase = .looked status →
      new.phase = .looked status ∨ .run status ∈ new.sent)
    (dropped : connection.dropped ⊆ new.dropped) (missed : connection.missed ⊆ new.missed)
    (sent : connection.sent ⊆ new.sent) : new.Holds := by
  cases holds with
  | buffered event ends listed =>
    rcases buffer event listed with still | now
    · exact .buffered event (own ▸ ends) still
    · exact .received event (own ▸ ends) now
  | received event ends phase =>
    rcases received event phase with still | now
    · exact .received event (own ▸ ends) still
    · exact .sent (.event event) ends.2 now
  | dropped event ends listed => exact .dropped event (own ▸ ends) (dropped listed)
  | missed event ends listed => exact .missed event (own ▸ ends) (missed listed)
  | looked status final phase =>
    rcases looked status phase with still | now
    · exact .looked status final still
    · exact .sent (.run status) final now
  | sent frame final listed => exact .sent frame final (sent listed)

theorem Connection.Holds.push (holds : connection.Holds) (event : JobEvent) :
    (connection.push event).Holds := by
  unfold Connection.push
  split
  · exact holds.pass rfl (fun _ listed => .inl (List.mem_append_left _ listed)) (fun _ => .inl)
      (fun _ => .inl)
      (List.Subset.refl _) (List.Subset.refl _) (List.Subset.refl _)
  · exact holds.pass rfl (fun _ => .inl) (fun _ => .inl)
      (fun _ => .inl) (List.subset_append_left _ _)
      (List.Subset.refl _) (List.Subset.refl _)

theorem Connection.holds_push (ends : Ends connection.jobId event) :
    (connection.push event).Holds := by
  unfold Connection.push
  split
  · exact .buffered event ends (List.mem_append_right _ (List.mem_singleton_self _))
  · exact .dropped event ends (List.mem_append_right _ (List.mem_singleton_self _))

theorem Connection.Holds.miss (holds : connection.Holds) (event : JobEvent) :
    ({ connection with missed := connection.missed ++ [event] } : Connection).Holds :=
  holds.pass rfl (fun _ => .inl) (fun _ => .inl) (fun _ => .inl) (List.Subset.refl _)
    (List.subset_append_left _ _)
    (List.Subset.refl _)

theorem Connection.Holds.greet {status : Status} {phase : Phase} (holds : connection.Holds)
    (looked : connection.phase = .looked status) :
    Connection.Holds { connection with
      phase := phase
      sent := connection.sent ++ [.run status] } := by
  refine holds.pass rfl (fun _ => .inl) ?_ ?_ (List.Subset.refl _) (List.Subset.refl _)
    (List.subset_append_left _ _)
  · intro event received
    cases looked.symm.trans received
  · intro other same
    cases looked.symm.trans same
    exact .inr (List.mem_append_right _ (List.mem_singleton_self _))

theorem Connection.Holds.subscribe {phase : Phase} (holds : connection.Holds)
    (greeted : connection.phase = .greeted) :
    ({ connection with phase := phase } : Connection).Holds := by
  refine holds.pass rfl (fun _ => .inl) ?_ ?_ (List.Subset.refl _) (List.Subset.refl _)
    (List.Subset.refl _)
  · intro event received
    cases greeted.symm.trans received
  · intro status looked
    cases greeted.symm.trans looked

theorem Connection.Holds.receive {rest : List JobEvent} (holds : connection.Holds)
    (waiting : connection.phase = .relaying none) (buffer : connection.buffer = event :: rest) :
    ({ connection with phase := .relaying (some event), buffer := rest } : Connection).Holds := by
  refine holds.pass rfl ?_ ?_ ?_ (List.Subset.refl _) (List.Subset.refl _) (List.Subset.refl _)
  · intro other listed
    rw [buffer] at listed
    rcases List.mem_cons.mp listed with rfl | later
    · exact .inr rfl
    · exact .inl later
  · intro other received
    cases waiting.symm.trans received
  · intro status looked
    cases waiting.symm.trans looked

theorem Connection.Holds.forward {phase : Phase} (holds : connection.Holds)
    (received : connection.phase = .relaying (some event)) :
    Connection.Holds { connection with
      phase := phase
      sent := connection.sent ++ [.event event] } := by
  refine holds.pass rfl (fun _ => .inl) ?_ ?_ (List.Subset.refl _) (List.Subset.refl _)
    (List.subset_append_left _ _)
  · intro other same
    cases received.symm.trans same
    exact .inr (List.mem_append_right _ (List.mem_singleton_self _))
  · intro status looked
    cases received.symm.trans looked

end Holds

theorem write_final {write : Write} {table : JobRuns} {run : JobRun}
    (present : run ∈ (write.apply table).jobRuns) (final : isFinal run.status = true) :
    (∃ old ∈ table, old.id = run.id ∧ isFinal old.status = true) ∨
      (∃ status, isFinal status = true ∧ (run.id, status) ∈ (write.apply table).owed) ∨
      run.id ∈ (write.apply table).silent := by
  cases write with
  | insertJobRun id jobType params now =>
    simp only [Write.apply] at present
    cases inserted : Jobs.insertJobRun id jobType params now table with
    | none =>
      rw [inserted] at present
      exact .inl ⟨run, present, rfl, final⟩
    | some grown =>
      rw [inserted] at present
      rcases (KeyedTable.mem_insert inserted).mp present with before | rfl
      · exact .inl ⟨run, before, rfl, final⟩
      · cases final
  | markRunning id now =>
    rcases mem_markRunning.mp present with ⟨before, _⟩ | ⟨old, _, _, _, rfl⟩
    · exact .inl ⟨run, before, rfl, final⟩
    · cases final
  | markTerminal id status report now =>
    rcases mem_markTerminal.mp present with ⟨before, _⟩ | ⟨old, _, rfl, rfl⟩
    · exact .inl ⟨run, before, rfl, final⟩
    · exact .inr (.inl ⟨status, final, List.mem_singleton_self _⟩)
  | markFailed id errMsg now =>
    rcases mem_markFailed.mp present with ⟨before, _⟩ | ⟨old, _, rfl, rfl⟩
    · exact .inl ⟨run, before, rfl, final⟩
    · exact .inr (.inr (List.mem_singleton_self _))
  | cancelActiveRuns now =>
    rcases mem_cancelActiveRuns.mp present with ⟨before, _⟩ | ⟨old, before, active, rfl⟩
    · exact .inl ⟨run, before, rfl, final⟩
    · obtain ⟨cancelled, reported, same⟩ := cancelled_reported before active
      exact .inr (.inl ⟨.cancelled, rfl, List.mem_map.mpr ⟨cancelled, reported, by rw [same]⟩⟩)
  | clearTerminalRuns =>
    exact .inl ⟨run, (mem_clearTerminalRuns.mp present).1, rfl, final⟩

section Steps

variable {target : ConnId} {new : Connection}

theorem Covered.update (covered : Covered s) (rows : s'.jobRuns = s.jobRuns)
    (connections : s'.connections = Function.update s.connections target new)
    (moves : ∀ conn id, conn ≠ target → OnTheWay s conn id → OnTheWay s' conn id)
    (kept : ∀ conn ∈ s.subscribers, conn ≠ target → conn ∈ s'.subscribers)
    (joined : ∀ received, new.phase = .relaying received → target ∈ s'.subscribers)
    (own : new.isWatching = true → ∀ run ∈ s.jobRuns, run.id = new.jobId →
      isFinal run.status = true → OnTheWay s' target new.jobId ∨ new.Holds) : Covered s' := by
  have self : s'.connections target = new := by rw [connections, Function.update_self]
  have others : ∀ conn, conn ≠ target → s'.connections conn = s.connections conn := by
    intro conn apart
    rw [connections, Function.update_of_ne apart]
  constructor
  · intro conn received relaying
    by_cases same : conn = target
    · subst same
      exact joined received (self ▸ relaying)
    · exact kept conn (covered.subscribed conn received (others conn same ▸ relaying)) same
  · intro conn watching run present runOf final
    rw [rows] at present
    by_cases same : conn = target
    · subst same
      unfold Traced
      rw [self] at watching runOf ⊢
      exact own watching run present runOf final
    · unfold Traced
      rw [others conn same] at watching runOf ⊢
      exact (covered.traced conn watching run present runOf final).imp_left (moves conn _ same)

theorem Covered.replace (covered : Covered s) (rows : s'.jobRuns = s.jobRuns)
    (owed : s'.owed = s.owed)
    (silent : s'.silent = s.silent) (published : s'.published = s.published) (hub : s'.hub = s.hub)
    (connections : s'.connections = Function.update s.connections target new)
    (kept : ∀ conn ∈ s.subscribers, conn ≠ target → conn ∈ s'.subscribers)
    (joined : ∀ received, new.phase = .relaying received → target ∈ s'.subscribers)
    (own : new.isWatching = true → ∀ run ∈ s.jobRuns, run.id = new.jobId →
      isFinal run.status = true → OnTheWay s target new.jobId ∨ new.Holds) : Covered s' := by
  refine covered.update rows connections
    (fun _ _ _ way => way.congr owed silent published hub) kept joined ?_
  intro watching run present runOf final
  exact (own watching run present runOf final).imp_left fun way =>
    way.congr owed silent published hub

theorem Covered.traffic (covered : Covered s) (hub : s'.connections = s.connections)
    (subscribers : s'.subscribers = s.subscribers)
    (moved : ∀ conn run, run ∈ s'.jobRuns → isFinal run.status = true →
      (∃ old ∈ s.jobRuns, old.id = run.id ∧ isFinal old.status = true ∧
        (OnTheWay s conn run.id → OnTheWay s' conn run.id)) ∨
        OnTheWay s' conn run.id) : Covered s' := by
  constructor
  · rw [hub, subscribers]
    exact covered.subscribed
  · intro conn watching run present own final
    unfold Traced
    rw [hub] at watching own ⊢
    rcases moved conn run present final with ⟨old, before, same, ended, moves⟩ | way
    · rcases covered.traced conn watching old before (same.trans own) ended with way | holds
      · exact .inl (own ▸ moves (own ▸ way))
      · exact .inr holds
    · exact .inl (own ▸ way)

theorem covered_write (covered : Covered s) {write : Write}
    (taken : step s (.write write) = some s') : Covered s' := by
  cases taken
  refine covered.traffic rfl rfl fun conn run present final => ?_
  rcases write_final present final with ⟨old, before, same, ended⟩ | ⟨status, ended, owed⟩ | silent
  · refine .inl ⟨old, before, same, ended, fun way => ?_⟩
    exact way.grow (fun _ => List.mem_append_left _) (fun _ => List.mem_append_left _)
      (fun _ same => same) rfl
  · exact .inr (.owed status ended (List.mem_append_right _ owed))
  · exact .inr (.silent (List.mem_append_right _ silent))

theorem covered_publish (covered : Covered s) {index : Nat} {sentAt : String}
    (taken : step s (.publish index sentAt) = some s') : Covered s' := by
  obtain ⟨⟨id, status⟩, found, rfl⟩ := Option.map_eq_some_iff.mp taken
  refine covered.traffic rfl rfl fun conn run present final =>
    .inl ⟨run, present, rfl, final, fun way => ?_⟩
  refine way.settle found rfl (fun _ same => same) (fun _ => List.mem_append_left _) rfl
    fun ended => ?_
  exact .published ⟨_, .status status, sentAt⟩ ⟨rfl, ended⟩
    (List.mem_append_right _ (List.mem_singleton_self _))

theorem covered_publishErr (covered : Covered s) {index : Nat}
    (taken : step s (.publishErr index) = some s') : Covered s' := by
  obtain ⟨⟨id, status⟩, found, rfl⟩ := Option.map_eq_some_iff.mp taken
  refine covered.traffic rfl rfl fun conn run present final =>
    .inl ⟨run, present, rfl, final, fun way => ?_⟩
  refine way.settle found rfl (fun run listed => ?_) (fun _ same => same) rfl fun ended => ?_
  · dsimp only
    split
    · exact List.mem_append_left _ listed
    · exact listed
  · refine .silent ?_
    dsimp only
    rw [if_pos ended]
    exact List.mem_append_right _ (List.mem_singleton_self _)

theorem covered_log (covered : Covered s) {id : JobId} {line sentAt : String}
    (taken : step s (.log id line sentAt) = some s') : Covered s' := by
  cases taken
  refine covered.traffic rfl rfl fun conn run present final =>
    .inl ⟨run, present, rfl, final, fun way => ?_⟩
  exact way.grow (fun _ same => same) (fun _ same => same) (fun _ => List.mem_append_left _) rfl

theorem Connection.isWatching_cases (watching : connection.isWatching = true) :
    connection.isJoining = true ∨ ∃ received, connection.phase = .relaying received := by
  unfold Connection.isWatching at watching
  unfold Connection.isJoining
  split at watching
  · rename_i status looked
    exact .inl (by rw [looked])
  · rename_i greeted
    exact .inl (by rw [greeted])
  · rename_i received relaying
    exact .inr ⟨received, relaying⟩
  · cases watching

theorem OnTheWay.take {event : JobEvent} {rest : List JobEvent} (idle : s.hub = .idle)
    (queue : s.published = event :: rest) (covered : Covered s)
    (watching : (s.connections conn).isWatching = true)
    (way : OnTheWay s conn (s.connections conn).jobId) : OnTheWay { s.markMissed event with
        published := rest
        hub := .sending event (s.subscribers.filter fun conn =>
          (s.connections conn).jobId == event.jobId) } conn (s.connections conn).jobId ∨
      ((s.connections conn).isJoining = true ∧ Ends (s.connections conn).jobId event) := by
  cases way with
  | owed status final listed => exact .inl (.owed status final listed)
  | silent listed => exact .inl (.silent listed)
  | published taken ends listed =>
    rw [queue] at listed
    rcases List.mem_cons.mp listed with rfl | later
    · rcases Connection.isWatching_cases watching with joining | ⟨received, relaying⟩
      · exact .inr ⟨joining, ends⟩
      · refine .inl (.sending taken _ ends rfl (List.mem_filter.mpr ?_))
        exact ⟨covered.subscribed conn received relaying, by simp [ends.1]⟩
    · exact .inl (.published taken ends later)
  | sending event targets ends hub target => cases idle.symm.trans hub

theorem covered_take (covered : Covered s) (taken : step s .take = some s') : Covered s' := by
  simp only [step] at taken
  split at taken
  · rename_i event rest idle queue
    cases taken
    have here : ∀ conn, (s.markMissed event).connections conn =
        if (s.connections conn).isJoining && (s.connections conn).jobId == event.jobId then
          { s.connections conn with missed := (s.connections conn).missed ++ [event] }
        else s.connections conn := fun _ => rfl
    constructor
    · intro conn received relaying
      refine covered.subscribed conn received ?_
      change ((s.markMissed event).connections conn).phase = _ at relaying
      rw [here] at relaying
      split at relaying <;> exact relaying
    · intro conn watching run present own final
      change ((s.markMissed event).connections conn).isWatching = true at watching
      change run.id = ((s.markMissed event).connections conn).jobId at own
      change OnTheWay _ conn ((s.markMissed event).connections conn).jobId ∨
        ((s.markMissed event).connections conn).Holds
      rw [here] at watching own ⊢
      split at watching
      · rename_i missing
        rw [if_pos missing] at own ⊢
        rcases covered.traced conn watching run present own final with way | holds
        · rcases way.take idle queue covered watching with way | ⟨_, ends⟩
          · exact .inl way
          · exact .inr (.missed event ends (List.mem_append_right _ (List.mem_singleton_self _)))
        · exact .inr (holds.miss event)
      · rename_i present_
        rw [if_neg present_] at own ⊢
        rcases covered.traced conn watching run present own final with way | holds
        · rcases way.take idle queue covered watching with way | ⟨joining, ends⟩
          · exact .inl way
          · exact absurd (by simp [joining, ends.1]) present_
        · exact .inr holds
  · cases taken

theorem OnTheWay.offer {id : JobId} {event : JobEvent} {targets : List ConnId} (new : Connection)
    (hub : s.hub = .sending event (target :: targets)) (way : OnTheWay s conn id) :
    OnTheWay { s.setConnection target new with hub := .sending event targets } conn id ∨
      (conn = target ∧ Ends id event) := by
  cases way with
  | owed status final listed => exact .inl (.owed status final listed)
  | silent listed => exact .inl (.silent listed)
  | published taken ends listed => exact .inl (.published taken ends listed)
  | sending taken others ends sending member =>
    cases hub.symm.trans sending
    rcases List.mem_cons.mp member with rfl | later
    · exact .inr ⟨rfl, ends⟩
    · exact .inl (.sending event targets ends rfl later)

theorem covered_offer (covered : Covered s) (taken : step s .offer = some s') : Covered s' := by
  simp only [step] at taken
  split at taken
  · rename_i event target targets hub
    cases taken
    unfold State.offer
    split
    · constructor
      · intro conn received relaying
        cases relaying
      · intro conn watching
        cases watching
    · refine covered.update rfl rfl ?_ (fun _ member _ => member) ?_ ?_
      · intro conn id apart way
        rcases way.offer _ hub with way | ⟨here, _⟩
        · exact way
        · exact absurd here apart
      · intro received relaying
        exact covered.subscribed target received (by simpa using relaying)
      · intro watching run present own final
        have before : (s.connections target).isWatching = true := by
          simpa [Connection.isWatching] using watching
        rw [Connection.push_jobId] at own ⊢
        rcases covered.traced target before run present own final with way | holds
        · rcases way.offer _ hub with way | ⟨_, ends⟩
          · exact .inl way
          · exact .inr (Connection.holds_push ends)
        · exact .inr (holds.push event)
  · cases taken

theorem covered_handled (covered : Covered s) (taken : step s .handled = some s') : Covered s' := by
  simp only [step] at taken
  split at taken
  · rename_i event hub
    cases taken
    refine covered.traffic rfl rfl fun conn run present final =>
      .inl ⟨run, present, rfl, final, fun way => ?_⟩
    cases way with
    | owed status final listed => exact .owed status final listed
    | silent listed => exact .silent listed
    | published event ends listed => exact .published event ends listed
    | sending event targets ends sending target =>
      cases hub.symm.trans sending
      cases target
  · cases taken

theorem covered_lookup (covered : Covered s) (taken : step s (.lookup target) = some s') :
    Covered s' := by
  simp only [step] at taken
  split at taken
  · cases taken
    refine covered.replace rfl rfl rfl rfl rfl rfl (fun _ member _ => member) ?_ ?_
    · intro received relaying
      split at relaying <;> cases relaying
    · intro watching run present own final
      right
      have found : getJobRun (s.connections target).jobId s.jobRuns = some run :=
        KeyedTable.find?_eq_some.mpr ⟨present, own⟩
      simp only [found]
      exact .looked run.status final rfl
  · cases taken

theorem covered_greet (covered : Covered s) (taken : step s (.greet target) = some s') :
    Covered s' := by
  simp only [step] at taken
  split at taken
  · rename_i status looked
    cases taken
    refine covered.replace rfl rfl rfl rfl rfl rfl (fun _ member _ => member) ?_ ?_
    · intro received relaying
      dsimp only at relaying
      split at relaying <;> cases relaying
    · intro watching run present own final
      have before : (s.connections target).isWatching = true := by
        simp [Connection.isWatching, looked]
      exact (covered.traced target before run present own final).imp_right fun holds =>
        holds.greet looked
  · cases taken

theorem covered_subscribe (covered : Covered s) (taken : step s (.subscribe target) = some s') :
    Covered s' := by
  simp only [step] at taken
  split at taken
  · rename_i greeted
    cases taken
    refine covered.replace rfl rfl rfl rfl rfl rfl
      (fun _ member _ => List.mem_append_left _ member) ?_ ?_
    · intro received relaying
      exact List.mem_append_right _ (List.mem_singleton_self _)
    · intro watching run present own final
      have before : (s.connections target).isWatching = true := by
        simp [Connection.isWatching, greeted]
      exact (covered.traced target before run present own final).imp_right fun holds =>
        holds.subscribe greeted
  · cases taken

theorem covered_receive (covered : Covered s) (taken : step s (.receive target) = some s') :
    Covered s' := by
  simp only [step] at taken
  split at taken
  · rename_i event rest waiting buffer
    cases taken
    refine covered.replace rfl rfl rfl rfl rfl rfl (fun _ member _ => member) ?_ ?_
    · intro received relaying
      exact covered.subscribed target none waiting
    · intro watching run present own final
      have before : (s.connections target).isWatching = true := by
        simp [Connection.isWatching, waiting]
      exact (covered.traced target before run present own final).imp_right
        fun holds => holds.receive waiting buffer
  · cases taken

theorem covered_forward (covered : Covered s) (taken : step s (.forward target) = some s') :
    Covered s' := by
  simp only [step] at taken
  split at taken
  · rename_i event received
    cases taken
    refine covered.replace rfl rfl rfl rfl rfl rfl (fun _ member _ => member) ?_ ?_
    · intro _ _
      exact covered.subscribed target (some event) received
    · intro watching run present own final
      have before : (s.connections target).isWatching = true := by
        simp [Connection.isWatching, received]
      exact (covered.traced target before run present own final).imp_right fun holds =>
        holds.forward received
  · cases taken

theorem covered_accept (covered : Covered s) {id : JobId}
    (taken : step s (.accept target id) = some s') : Covered s' := by
  simp only [step] at taken
  split at taken
  · cases taken
  · cases taken
    refine covered.replace rfl rfl rfl rfl rfl rfl (fun _ member _ => member) ?_ ?_
    · intro received relaying
      cases relaying
    · intro watching
      cases watching
  · cases taken

theorem covered_leave (covered : Covered s) (taken : step s (.leave target) = some s') :
    Covered s' := by
  simp only [step] at taken
  split at taken
  all_goals cases taken
  all_goals
    refine covered.replace rfl rfl rfl rfl rfl rfl (fun conn member apart => ?_)
      (fun _ relaying => by cases relaying) fun watching => by cases watching
  · exact member
  · exact member
  · exact member
  · exact (List.mem_erase_of_ne apart).mpr member
  · exact (List.mem_erase_of_ne apart).mpr member

end Steps

theorem Covered.init : Covered init := by
  constructor
  · intro conn received relaying
    cases relaying
  · intro conn watching
    cases watching

theorem Covered.step (covered : Covered s) (taken : step s event = some s') : Covered s' := by
  cases event with
  | write write => exact covered_write covered taken
  | publish index sentAt => exact covered_publish covered taken
  | publishErr index => exact covered_publishErr covered taken
  | log id line sentAt => exact covered_log covered taken
  | take => exact covered_take covered taken
  | offer => exact covered_offer covered taken
  | handled => exact covered_handled covered taken
  | accept conn id => exact covered_accept covered taken
  | lookup conn => exact covered_lookup covered taken
  | greet conn => exact covered_greet covered taken
  | subscribe conn => exact covered_subscribe covered taken
  | receive conn => exact covered_receive covered taken
  | forward conn => exact covered_forward covered taken
  | leave conn => exact covered_leave covered taken

theorem reachable_covered (reachable : system.Reachable s) : Covered s :=
  reachable.preserves (fun _ _ _ covered _ taken => covered.step taken) Covered.init

theorem waitForRunTerminal_isSome {frames : List Frame} {frame : Frame} (sent : frame ∈ frames)
    (final : frame.state?.any isFinal = true) : (waitForRunTerminal frames).isSome = true := by
  obtain ⟨status, tells, ended⟩ := (Option.any_eq_true _ _).mp final
  apply List.find?_isSome.mpr
  exact ⟨status, List.mem_filterMap.mpr ⟨frame, sent, tells⟩, ended⟩

/-- Nothing about the end of the run is left on the way to this connection. -/
structure Settled (s : State) (conn : ConnId) : Prop where
  published : ∀ status, isFinal status = true → ((s.connections conn).jobId, status) ∉ s.owed
  announced : (s.connections conn).jobId ∉ s.silent
  processed : s.published = []
  idle : s.hub = .idle
  waiting : (s.connections conn).phase = .relaying none
  drained : (s.connections conn).buffer = []

/-- A watcher whose run is over, and for whom nothing is left on the way, has been
sent a terminal status, unless the event about it was dropped at its full buffer or
got to the hub between its lookup and its subscription. -/
theorem watcher_sees_end {run : JobRun} (reachable : system.Reachable s) (present : run ∈ s.jobRuns)
    (own : run.id = (s.connections conn).jobId) (final : isFinal run.status = true)
    (settled : Settled s conn)
    (kept : ∀ event ∈ (s.connections conn).dropped, ¬ Ends run.id event)
    (joined : ∀ event ∈ (s.connections conn).missed, ¬ Ends run.id event) :
    (waitForRunTerminal (s.connections conn).sent).isSome = true := by
  have watching : (s.connections conn).isWatching = true := by
    simp [Connection.isWatching, settled.waiting]
  rw [own] at kept joined
  rcases (reachable_covered reachable).traced conn watching run present own final with way | holds
  · cases way with
    | owed status final listed => exact absurd listed (settled.published status final)
    | silent listed => exact absurd listed settled.announced
    | published event ends listed => simp [settled.processed] at listed
    | sending event targets ends hub target => cases settled.idle.symm.trans hub
  · cases holds with
    | buffered event ends listed => simp [settled.drained] at listed
    | received event ends phase => cases settled.waiting.symm.trans phase
    | dropped event ends listed => exact absurd ends (kept event listed)
    | missed event ends listed => exact absurd ends (joined event listed)
    | looked status final phase => cases settled.waiting.symm.trans phase
    | sent frame final listed => exact waitForRunTerminal_isSome listed final

section Runs

/-- The status of run 0, whether connection 0 is settled, and what it resolved to. -/
def settledAt (s : State) : Bool :=
  s.owed.isEmpty && s.silent.isEmpty && s.published.isEmpty && (s.connections 0).buffer.isEmpty &&
    (match s.hub with | .idle => true | _ => false) &&
    (match (s.connections 0).phase with | .relaying none => true | _ => false) &&
    (s.connections 0).jobId == 0

def view (s : State) : Option Status × Bool × Option Status :=
  ((getJobRun 0 s.jobRuns).map JobRun.status, settledAt s,
    waitForRunTerminal (s.connections 0).sent)

theorem settled_of_view (seen : settledAt s = true) :
    Settled s 0 ∧ (s.connections 0).jobId = 0 := by
  simp only [settledAt, Bool.and_eq_true, List.isEmpty_iff, beq_iff_eq] at seen
  obtain ⟨⟨⟨⟨⟨⟨owed, silent⟩, published⟩, buffer⟩, hub⟩, phase⟩, own⟩ := seen
  refine ⟨⟨by simp [owed], by simp [silent], published, ?_, ?_, buffer⟩, own⟩
  · split at hub
    · assumption
    · cases hub
  · split at phase
    · assumption
    · cases phase

def watched : List Event :=
  [.write (.insertJobRun 0 "gold" .null 0), .write (.markRunning 0 1), .publish 0 "",
    .take, .handled, .accept 0 0, .lookup 0, .greet 0, .subscribe 0]

def logged : List Event := [.log 0 "line" "", .take, .offer, .handled]

def concluded (write : Write) : List Event := [.write write, .publish 0 "", .take, .offer, .handled]

def relayed : List Event := [.receive 0, .forward 0]

def burst : List Event :=
  watched ++ (List.replicate 16 logged).flatten ++
    concluded (.markTerminal 0 .succeeded ⟨some 0, none, "", none, none⟩ 2) ++
    (List.replicate 16 relayed).flatten

/-- The event that run 0 has started is lost, and connection 0 is in its relay loop. -/
def unannounced : List Event :=
  [.write (.insertJobRun 0 "gold" .null 0), .write (.markRunning 0 1), .publishErr 0,
    .accept 0 0, .lookup 0, .greet 0, .subscribe 0]

theorem watcher_sees_end_cancelled : ∃ s, system.Reachable s ∧
    (waitForRunTerminal (s.connections 0).sent).isSome = true := by
  have replayed : (system.replay (fun _ _ => True) init
      (unannounced ++ concluded (.cancelActiveRuns 2) ++ relayed)).map
        (fun s => (view s, (s.connections 0).dropped.isEmpty, (s.connections 0).missed.isEmpty)) =
      some ((some .cancelled, true, some .cancelled), true, true) := by decide +kernel
  obtain ⟨s, reachable, seen⟩ := reaches_of_replay replayed
  simp only [view, Prod.mk.injEq, List.isEmpty_iff] at seen
  obtain ⟨⟨status, settled, _⟩, dropped, missed⟩ := seen
  obtain ⟨run, found, cancelled⟩ := Option.map_eq_some_iff.mp status
  obtain ⟨present, own⟩ := KeyedTable.find?_eq_some.mp found
  obtain ⟨settled, watches⟩ := settled_of_view settled
  refine ⟨s, reachable,
    watcher_sees_end reachable present (own.trans watches.symm) ?_ settled ?_ ?_⟩
  · rw [cancelled]
    rfl
  · simp [dropped]
  · simp [missed]

theorem end_dropped : ¬ ∀ (s : State) (conn : ConnId) (run : JobRun), system.Reachable s →
    run ∈ s.jobRuns → run.id = (s.connections conn).jobId → isFinal run.status = true →
    Settled s conn → (waitForRunTerminal (s.connections conn).sent).isSome = true := by
  intro sees
  have replayed : (system.replay (fun _ _ => True) init burst).map view =
      some (some .succeeded, true, none) := by decide +kernel
  obtain ⟨s, reachable, seen⟩ := reaches_of_replay replayed
  simp only [view, Prod.mk.injEq] at seen
  obtain ⟨status, settled, unresolved⟩ := seen
  obtain ⟨run, found, succeeded⟩ := Option.map_eq_some_iff.mp status
  obtain ⟨present, own⟩ := KeyedTable.find?_eq_some.mp found
  obtain ⟨settled, watches⟩ := settled_of_view settled
  have resolved :=
    sees s 0 run reachable present (own.trans watches.symm) (by rw [succeeded]; rfl) settled
  simp [unresolved] at resolved

end Runs

end OpenScale.Relay
