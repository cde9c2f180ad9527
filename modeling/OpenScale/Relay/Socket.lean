import OpenScale.Relay.Step

/-! The job socket on its own: everything that `HandleJobWS` does to one connection,
as a function of the row it looked up and of what its relay loop receives. It is what the relay
shows of a connection. -/

namespace OpenScale.Relay

open OpenScale.Library OpenScale.Jobs

inductive Signal where
  | event (event : JobEvent)
  /-- The channel of the subscription is closed. -/
  | unsubscribed
  /-- The client disconnected, or the request context ended. -/
  | done

inductive Action where
  | write (frame : Frame)
  | close (reason : String)
  /-- The deferred `CloseNow`, of a connection that nothing closed before. -/
  | closeNow

/-- The relay loop. `accepts` says of each write, by its number, whether it succeeds. -/
def relayLoop (accepts : Nat → Bool) : Nat → List Signal → List Action
  | _, [] => []
  | count, .event event :: signals =>
    if !accepts count then [.closeNow]
    else .write (.event event) ::
      if event.status?.any isTerminal then [.close "terminal"]
      else relayLoop accepts (count + 1) signals
  | _, .unsubscribed :: _ | _, .done :: _ => [.closeNow]

/-- `HandleJobWS`, from the result of its lookup on. -/
def handleJobWS (accepts : Nat → Bool) (lookup : Option JobRun) (signals : List Signal) :
    List Action :=
  match lookup with
  | none => [.close "job not found"]
  | some run =>
    if !accepts 0 then [.closeNow]
    else .write (.run run.status) ::
      if isTerminal run.status then [.close "terminal"] else relayLoop accepts 1 signals

/-- Write the frames up to the first one whose status is in `ends`, and close after it. -/
def session (ends : Status → Bool) : List Frame → List Action
  | [] => []
  | frame :: frames =>
    .write frame :: if frame.state?.any ends then [.close "terminal"] else session ends frames

variable {accepts : Nat → Bool}

theorem relayLoop_eq_session (steady : ∀ count, accepts count = true) (events : List JobEvent)
    (count : Nat) :
    relayLoop accepts count (events.map .event) = session isTerminal (events.map .event) := by
  induction events generalizing count with
  | nil => rfl
  | cons event events ih =>
    simp only [List.map_cons, relayLoop, session, steady, ih]
    rfl

theorem handleJobWS_eq_session (steady : ∀ count, accepts count = true) (run : JobRun)
    (events : List JobEvent) :
    handleJobWS accepts (some run) (events.map .event) =
      session isTerminal (.run run.status :: events.map .event) := by
  simp only [handleJobWS, session, steady, relayLoop_eq_session steady]
  rfl

theorem session_ne_close (ends : Status → Bool) (frames : List Frame) (reason : String) :
    session ends frames ≠ [.close reason] := by
  cases frames <;> simp [session]

variable {earlier later : Status → Bool}

theorem session_eq_iff (weaker : ∀ status, earlier status = true → later status = true)
    (frames : List Frame) :
    session earlier frames = session later frames ↔
      ∀ status, (frames.filterMap Frame.state?).find? later = some status →
      earlier status = true := by
  induction frames with
  | nil => simp [session]
  | cons frame frames ih =>
    cases told : frame.state? with
    | none => simp [session, told, ih]
    | some status =>
      by_cases final : later status = true
      · by_cases stops : earlier status = true
        · simp [session, told, final, stops]
        · simp [session, told, final, stops, session_ne_close]
      · have continues : ¬ earlier status = true := fun stops => final (weaker status stops)
        simp [session, told, final, continues, ih]

theorem isFinal_of_isTerminal (status : Status) (terminal : isTerminal status = true) :
    isFinal status = true := by
  cases status <;> simp_all [isTerminal, isFinal, terminalStates]

theorem isTerminal_of_isFinal (status : Status) (final : isFinal status = true)
    (kept : status ≠ .cancelled) : isTerminal status = true := by
  cases status <;> simp_all [isTerminal, isFinal, terminalStates]

/-- The socket ends with the run, unless the run ends by being cancelled: `isTerminal`
does not know that status. -/
theorem handleJobWS_ends_with_run_iff (run : JobRun) (events : List JobEvent) :
    handleJobWS (fun _ => true) (some run) (events.map .event) =
        session isFinal (.run run.status :: events.map .event) ↔
      waitForRunTerminal (.run run.status :: events.map .event) ≠ some .cancelled := by
  rw [handleJobWS_eq_session (fun _ => rfl), session_eq_iff isFinal_of_isTerminal]
  constructor
  · intro ends cancelled
    have terminal := ends .cancelled cancelled
    cases terminal
  · intro kept status found
    refine isTerminal_of_isFinal status (List.find?_some found) ?_
    intro cancelled
    exact kept (cancelled ▸ found)

/-- A run that gets cancelled while it is watched keeps its socket open. -/
theorem cancelled_run_keeps_socket : ¬ ∀ (run : JobRun) (events : List JobEvent),
    handleJobWS (fun _ => true) (some run) (events.map .event) =
      session isFinal (.run run.status :: events.map .event) := by
  intro ends
  have running := ends { JobRun.submitted 0 "gold" .null 0 with status := .running }
    [⟨0, .status .cancelled, ""⟩]
  simp [handleJobWS, relayLoop, session, Frame.state?, JobEvent.status?, isTerminal, isFinal,
    terminalStates] at running

section Relay

variable {s s' : State} {event : Event} {conn : ConnId} {connection : Connection} {phase : Phase}

def Action.frame? : Action → Option Frame
  | .write frame => some frame
  | .close _ | .closeNow => none

/-- Before the first frame, or never in the relay loop. -/
def Phase.isSilent : Phase → Bool
  | .absent | .accepted | .looked _ | .closed => true
  | _ => false

def Phase.isLive : Phase → Bool
  | .greeted | .relaying _ | .closed => true
  | _ => false

def Phase.isOver : Phase → Bool
  | .leaving | .closed => true
  | _ => false

/-- How far the session of a connection got. A connection can be closed at any point. -/
inductive Connection.Served (connection : Connection) : Prop where
  | silent (sent : connection.sent = []) (phase : connection.phase.isSilent = true)
  | live (status : Status) (events : List JobEvent) (sent : connection.sent = .run status ::
    events.map .event)
      (serves : session isTerminal connection.sent = connection.sent.map .write)
      (phase : connection.phase.isLive = true)
  | finished (status : Status) (events : List JobEvent) (sent : connection.sent = .run status ::
    events.map .event)
      (serves : session isTerminal connection.sent = connection.sent.map .write ++
        [.close "terminal"])
      (phase : connection.phase.isOver = true)

theorem session_append {ends : Status → Bool} {frames : List Frame} (frame : Frame)
    (serves : session ends frames = frames.map .write) : session ends (frames ++ [frame]) =
      (frames ++ [frame]).map .write ++ if frame.state?.any ends then [.close "terminal"]
      else [] := by
  induction frames with
  | nil => simp [session]
  | cons first frames ih =>
    simp only [session, List.map_cons, List.cons.injEq, true_and] at serves
    by_cases ended : first.state?.any ends = true
    · rw [if_pos ended] at serves
      cases frames <;> cases serves
    · rw [if_neg ended] at serves
      simp [session, ended, ih serves]

theorem Connection.Served.close (served : connection.Served) :
    ({ connection with phase := .closed } : Connection).Served := by
  cases served with
  | silent sent _ => exact .silent sent rfl
  | live status events sent serves _ => exact .live status events sent serves rfl
  | finished status events sent serves _ => exact .finished status events sent serves rfl

@[simp] theorem Connection.push_sent (connection : Connection) (event : JobEvent) :
    (connection.push event).sent = connection.sent := by
  unfold push
  split <;> rfl

/-- Neither the buffers nor the history matter. -/
theorem Connection.Served.congr {other : Connection} (served : connection.Served)
    (sent : other.sent = connection.sent) (phase : other.phase = connection.phase) :
    other.Served := by
  cases served with
  | silent none_ silent => exact .silent (sent.trans none_) (phase ▸ silent)
  | live status events frames serves live =>
    exact .live status events (sent.trans frames) (sent ▸ serves) (phase ▸ live)
  | finished status events frames serves finished =>
    exact .finished status events (sent.trans frames) (sent ▸ serves) (phase ▸ finished)

theorem Connection.Served.sends {frame : Frame} (status : Status) (events : List JobEvent)
    (sent : connection.sent ++ [frame] = .run status :: events.map .event)
    (serves : session isTerminal connection.sent = connection.sent.map .write)
    (live : frame.state?.any isTerminal = false → phase.isLive = true)
    (finished : frame.state?.any isTerminal = true → phase.isOver = true) :
    Connection.Served { connection with
      phase := phase
      sent := connection.sent ++ [frame] } := by
  have next := session_append frame serves
  cases ended : frame.state?.any isTerminal with
  | false => exact .live status events sent (by simpa [ended] using next) (live ended)
  | true => exact .finished status events sent (by simpa [ended] using next) (finished ended)

theorem served_update {target : ConnId} {new : Connection}
    (served : ∀ conn, (s.connections conn).Served)
    (own : new.Served) (conn : ConnId) :
    (Function.update s.connections target new conn).Served := by
  by_cases same : conn = target
  · subst same
    rwa [Function.update_self]
  · rw [Function.update_of_ne same]
    exact served conn

theorem served_step (served : ∀ conn, (s.connections conn).Served)
    (taken : system.step s event = some s') (conn : ConnId) : (s'.connections conn).Served := by
  cases runs taken with
  | write write => exact served conn
  | publish sentAt owed => exact served conn
  | publishErr owed => exact served conn
  | log id line sentAt => exact served conn
  | handled sending => exact served conn
  | take idle published =>
    simp only [State.markMissed]
    split
    · exact (served conn).congr rfl rfl
    · exact served conn
  | panic sending closed => exact (served conn).close
  | offer sending live =>
    refine served_update served ?_ conn
    exact (served _).congr (Connection.push_sent _ _) (Connection.push_phase _ _)
  | accept id alive absent => exact served_update served (.silent rfl rfl) conn
  | @found target run accepted found =>
    refine served_update served ?_ conn
    cases served target with
    | silent sent _ => exact .silent sent rfl
    | live _ _ _ _ live => simp [accepted, Phase.isLive] at live
    | finished _ _ _ _ finished => simp [accepted, Phase.isOver] at finished
  | missing accepted missing => exact served_update served (served _).close conn
  | @greet target status looked =>
    refine served_update served ?_ conn
    cases served target with
    | silent sent _ =>
      refine .sends status [] (by simp [sent]) (by simp [sent, session]) ?_ ?_
      · intro continues
        simp_all [Frame.state?, Phase.isLive]
      · intro ended
        simp_all [Frame.state?, Phase.isOver]
    | live _ _ _ _ live => simp [looked, Phase.isLive] at live
    | finished _ _ _ _ finished => simp [looked, Phase.isOver] at finished
  | @subscribe target greeted =>
    refine served_update served ?_ conn
    cases served target with
    | silent _ silent => simp [greeted, Phase.isSilent] at silent
    | live status events sent serves _ => exact .live status events sent serves rfl
    | finished _ _ _ _ finished => simp [greeted, Phase.isOver] at finished
  | @receive target received rest waiting buffer =>
    refine served_update served ?_ conn
    cases served target with
    | silent _ silent => simp [waiting, Phase.isSilent] at silent
    | live status events sent serves _ => exact .live status events sent serves rfl
    | finished _ _ _ _ finished => simp [waiting, Phase.isOver] at finished
  | @forward target relayed received =>
    refine served_update served ?_ conn
    cases served target with
    | silent _ silent => simp [received, Phase.isSilent] at silent
    | live status events sent serves _ =>
      refine .sends status (events ++ [relayed]) (by simp [sent]) serves ?_ ?_
      · intro continues
        simp_all [Frame.state?, Phase.isLive]
      · intro ended
        simp_all [Frame.state?, Phase.isOver]
    | finished _ _ _ _ finished => simp [received, Phase.isOver] at finished
  | leaveEarly early => exact served_update served (served _).close conn
  | leave subscribed => exact served_update served (served _).close conn

theorem reachable_served (reachable : system.Reachable s) :
    ∀ conn, (s.connections conn).Served := by
  have start : ∀ conn, (init.connections conn).Served := fun _ => .silent rfl rfl
  have steps : ∀ state event next, (∀ conn, (state.connections conn).Served) → True →
      system.step state event = some next → ∀ conn, (next.connections conn).Served :=
    fun _ _ _ served _ taken => served_step served taken
  exact reachable.preserves steps start

/-- Every connection of the relay has been sent what the handler writes, for the run it
found and the events it received. -/
theorem sent_by_handleJobWS (reachable : system.Reachable s) (conn : ConnId) :
    (s.connections conn).sent = [] ∨ ∃ (run : JobRun) (events : List JobEvent),
      (s.connections conn).sent =
        (handleJobWS (fun _ => true) (some run) (events.map .event)).filterMap Action.frame? := by
  have served : (s.connections conn).Served := reachable_served reachable conn
  have writes : ∀ frames : List Frame,
      (frames.map Action.write).filterMap Action.frame? = frames := by
    intro frames
    simp [List.filterMap_map, Function.comp_def, Action.frame?]
  cases served with
  | silent sent _ => exact .inl sent
  | live status events sent serves _ =>
    refine .inr ⟨{ JobRun.submitted 0 "" .null 0 with status := status }, events, ?_⟩
    rw [handleJobWS_eq_session (fun _ => rfl), ← sent, serves, writes]
  | finished status events sent serves _ =>
    refine .inr ⟨{ JobRun.submitted 0 "" .null 0 with status := status }, events, ?_⟩
    rw [handleJobWS_eq_session (fun _ => rfl), ← sent, serves, List.filterMap_append, writes]
    simp [Action.frame?]

end Relay

end OpenScale.Relay
