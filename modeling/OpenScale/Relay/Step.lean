import OpenScale.Relay.System

/-! What each step of the relay can do, with the guard it was taken under. -/

namespace OpenScale.Relay

open OpenScale.Library OpenScale.Jobs

def Phase.isEarly : Phase → Bool
  | .accepted | .looked _ | .greeted => true
  | _ => false

def Phase.isSubscribed : Phase → Bool
  | .relaying _ | .leaving => true
  | _ => false

theorem Phase.isSubscribed_of_isEarly {phase : Phase} (early : phase.isEarly = true) :
    phase.isSubscribed = false := by
  cases phase <;> simp_all [isEarly, isSubscribed]

def Hub.targets : Hub → List ConnId
  | .sending _ targets => targets
  | .idle | .panicked => []

@[simp] theorem Hub.targets_idle : Hub.idle.targets = [] := rfl

@[simp] theorem Hub.targets_sending (event : JobEvent) (targets : List ConnId) :
    (Hub.sending event targets).targets = targets := rfl

inductive Runs (s : State) : Event → State → Prop where
  | write (write : Write) : Runs s (.write write) { s with
      jobRuns := (write.apply s.jobRuns).jobRuns
      owed := s.owed ++ (write.apply s.jobRuns).owed
      silent := s.silent ++ (write.apply s.jobRuns).silent }
  | publish {index : Nat} {id : JobId} {status : Status} (sentAt : String)
      (owed : s.owed[index]? = some (id, status)) : Runs s (.publish index sentAt) { s with
        owed := s.owed.eraseIdx index
        published := s.published ++ [⟨id, .status status, sentAt⟩] }
  | publishErr {index : Nat} {id : JobId} {status : Status} (owed : s.owed[index]? =
    some (id, status)) :
      Runs s (.publishErr index)
        { s with
          owed := s.owed.eraseIdx index
          silent := if isFinal status then s.silent ++ [id] else s.silent }
  | log (id : JobId) (line sentAt : String) :
      Runs s (.log id line sentAt) { s with published := s.published ++ [⟨id, .log line, sentAt⟩] }
  | take {event : JobEvent} {rest : List JobEvent} (idle : s.hub = .idle) (published : s.published =
    event :: rest) :
      Runs s .take { s.markMissed event with
        published := rest
        hub :=
          .sending event (s.subscribers.filter fun conn =>
            (s.connections conn).jobId == event.jobId) }
  | panic {event : JobEvent} {conn : ConnId} {targets : List ConnId} (sending : s.hub =
    .sending event (conn :: targets))
      (closed : (s.connections conn).phase = .closed) : Runs s .offer s.panic
  | offer {event : JobEvent} {conn : ConnId} {targets : List ConnId} (sending : s.hub =
    .sending event (conn :: targets))
      (live : (s.connections conn).phase ≠ .closed) :
      Runs s .offer { s.setConnection conn ((s.connections conn).push
        event) with hub := .sending event targets }
  | handled {event : JobEvent} (sending : s.hub = .sending event []) :
    Runs s .handled { s with hub := .idle }
  | accept {conn : ConnId} (id : JobId) (alive : s.hub ≠ .panicked)
    (absent : (s.connections conn).phase = .absent) :
      Runs s (.accept conn id) (s.setConnection conn ⟨id, .accepted, [], [], [], []⟩)
  | found {conn : ConnId} {run : JobRun} (accepted : (s.connections conn).phase = .accepted)
      (found : getJobRun (s.connections conn).jobId s.jobRuns = some run) :
      Runs s (.lookup conn) (s.move conn (.looked run.status))
  | missing {conn : ConnId} (accepted : (s.connections conn).phase = .accepted)
      (missing : getJobRun (s.connections conn).jobId s.jobRuns = none) :
        Runs s (.lookup conn) (s.move conn .closed)
  | greet {conn : ConnId} {status : Status} (looked : (s.connections conn).phase = .looked status) :
      Runs s (.greet conn) (s.setConnection conn { s.connections conn with
        phase := if isTerminal status then .closed else .greeted
        sent := (s.connections conn).sent ++ [.run status] })
  | subscribe {conn : ConnId} (greeted : (s.connections conn).phase = .greeted) :
      Runs s (.subscribe conn)
        { s.move conn (.relaying none) with subscribers := s.subscribers ++ [conn] }
  | receive {conn : ConnId} {event : JobEvent} {rest : List JobEvent}
      (waiting : (s.connections conn).phase = .relaying none)
        (buffer : (s.connections conn).buffer = event :: rest) :
      Runs s (.receive conn) (s.setConnection conn { s.connections conn with
        phase := .relaying (some event)
        buffer := rest })
  | forward {conn : ConnId} {event : JobEvent} (received : (s.connections conn).phase =
    .relaying (some event)) :
      Runs s (.forward conn) (s.setConnection conn { s.connections conn with
        phase := if event.status?.any isTerminal then .leaving else .relaying none
        sent := (s.connections conn).sent ++ [.event event] })
  | leaveEarly {conn : ConnId} (early : (s.connections conn).phase.isEarly = true) :
      Runs s (.leave conn) (s.move conn .closed)
  | leave {conn : ConnId} (subscribed : (s.connections conn).phase.isSubscribed = true) :
      Runs s (.leave conn) { s.move conn .closed with subscribers := s.subscribers.erase conn }

variable {s s' : State} {event : Event}

theorem runs (taken : system.step s event = some s') : Runs s event s' := by
  cases event with
  | write write =>
    cases taken
    exact .write write
  | publish index sentAt =>
    obtain ⟨⟨id, status⟩, owed, rfl⟩ := Option.map_eq_some_iff.mp taken
    exact .publish sentAt owed
  | publishErr index =>
    obtain ⟨⟨id, status⟩, owed, rfl⟩ := Option.map_eq_some_iff.mp taken
    exact .publishErr owed
  | log id line sentAt =>
    cases taken
    exact .log id line sentAt
  | take =>
    simp only [system, step] at taken
    split at taken
    · rename_i idle published
      cases taken
      exact .take idle published
    · cases taken
  | offer =>
    simp only [system, step] at taken
    split at taken
    · rename_i event conn targets sending
      cases taken
      unfold State.offer
      split
      · rename_i closed
        exact .panic sending closed
      · rename_i live
        exact .offer sending live
    · cases taken
  | handled =>
    simp only [system, step] at taken
    split at taken
    · rename_i event sending
      cases taken
      exact .handled sending
    · cases taken
  | accept conn id =>
    simp only [system, step] at taken
    split at taken
    · cases taken
    · rename_i absent alive
      cases taken
      exact .accept id alive absent
    · cases taken
  | lookup conn =>
    simp only [system, step] at taken
    split at taken
    · rename_i accepted
      cases taken
      split
      · rename_i run found
        exact .found accepted found
      · rename_i missing
        exact .missing accepted missing
    · cases taken
  | greet conn =>
    simp only [system, step] at taken
    split at taken
    · rename_i status looked
      cases taken
      exact .greet looked
    · cases taken
  | subscribe conn =>
    simp only [system, step] at taken
    split at taken
    · rename_i greeted
      cases taken
      exact .subscribe greeted
    · cases taken
  | receive conn =>
    simp only [system, step] at taken
    split at taken
    · rename_i event rest waiting buffer
      cases taken
      exact .receive waiting buffer
    · cases taken
  | forward conn =>
    simp only [system, step] at taken
    split at taken
    · rename_i event received
      cases taken
      exact .forward received
    · cases taken
  | leave conn =>
    simp only [system, step] at taken
    split at taken
    all_goals cases taken
    · exact .leaveEarly (by simp [Phase.isEarly, *])
    · exact .leaveEarly (by simp [Phase.isEarly, *])
    · exact .leaveEarly (by simp [Phase.isEarly, *])
    · exact .leave (by simp [Phase.isSubscribed, *])
    · exact .leave (by simp [Phase.isSubscribed, *])

end OpenScale.Relay
