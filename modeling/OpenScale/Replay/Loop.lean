import OpenScale.Replay.Expiry

/-! The send loop under its controls, while the hash lives and nothing raises. -/

namespace OpenScale.Replay

open OpenScale.Library OpenScale.Library.TransitionSystem OpenScale.Jobs OpenScale.Worker

variable {plan : Plan} {s s' : State} {event : Event}

/-- The hash does not reach its deadline, and the call does not raise. -/
def Quiet (s : State) : Event → Prop
  | .wait seconds => s.world.expires seconds = false
  | .raise => False
  | _ => True

instance : ∀ (s : State) (event : Event), Decidable (Quiet s event)
  | s, .wait seconds => inferInstanceAs (Decidable (s.world.expires seconds = false))
  | _, .raise => .isFalse id
  | _, .control _ _ | _, .refresh | _, .start | _, .hsetnx | _, .expire | _, .load _ | _,
    .poll | _, .send
  | _, .flush | _, .delete => .isTrue trivial

def NoResume : Event → Prop
  | .control action speedMultiplier => control action speedMultiplier ≠ .ok .resume
  | _ => True

theorem lasts_of_quiet (quiet : Quiet s event) : Lasts s event := by
  cases event with
  | wait seconds =>
    exact fun expires => absurd expires (by simp [show s.world.expires seconds = false from quiet])
  | _ => trivial

theorem honoured_of_quiet (path : (system plan).Path Quiet init s) : Honoured s :=
  honoured_of_path (path.weaken fun _ _ quiet => lasts_of_quiet quiet)

/-- Without an exception a run ends by having sent everything, or cancelled. -/
def Place.isUnfailed : Place → Bool
  | returned status _ => status == .succeeded || status == .cancelled
  | raised => false
  | _ => true

theorem unfailed_step (unfailed : s.place.isUnfailed = true) (quiet : Quiet s event)
    (taken : (system plan).step s event = some s') : s'.place.isUnfailed = true := by
  cases moves taken with
  | command accepted => exact unfailed
  | refresh due => exact unfailed
  | wait seconds => exact unfailed
  | @hsetnx field value fields place =>
    simp only [State.goes]
    split <;> rfl
  | load place isDay =>
    dsimp only
    split <;> rfl
  | poll place =>
    simp only [State.goes, afterPoll]
    split
    · rfl
    · split <;> rfl
  | send place next =>
    dsimp only
    split <;> rfl
  | escape alive => cases quiet
  | fail alive => cases quiet
  | _ => rfl

theorem unfailed_of_path (path : (system plan).Path Quiet init s) : s.place.isUnfailed = true :=
  path.preserves (fun _ _ _ unfailed quiet taken => unfailed_step unfailed quiet taken) rfl

theorem loaded_of_unfailed {place : Place} (late : place.isEarly = false)
    (unfailed : place.isUnfailed = true) :
    place.isLoaded = true := by
  cases place <;> simp_all [Place.isEarly, Place.isUnfailed, Place.isLoaded]

theorem paused_step (paused : (lastAccepted s.world.commands).paused = true) (kept : NoResume event)
    (taken : (system plan).step s event = some s') :
    (lastAccepted s'.world.commands).paused = true := by
  cases moves taken with
  | @command action speedMultiplier command accepted =>
    simp only [World.command, lastAccepted_append]
    cases command with
    | resume => exact absurd accepted kept
    | _ => simp [Settings.accept, paused]
  | refresh due => simpa using paused
  | wait seconds => simpa using paused
  | expire place => simpa [State.goes] using paused
  | _ => exact paused

theorem paused_path
    (path : (system plan).Path (fun state event => Quiet state event ∧ NoResume event) s s')
    (paused : (lastAccepted s.world.commands).paused = true) :
    (system plan).Path (fun state event => (Quiet state event ∧ NoResume event) ∧
      Stopped state) s s' ∧ (lastAccepted s'.world.commands).paused = true := by
  induction path with
  | refl => exact ⟨.refl, paused⟩
  | snoc _ allowed taken ih =>
    obtain ⟨front, still⟩ := ih
    exact ⟨front.snoc ⟨allowed, .inr still⟩ taken, paused_step still allowed.2 taken⟩

/-- At most the trip that was already polled is sent after the commands stopped the run. -/
theorem polled_le (s : State) : s.polled ≤ s.world.topic.length + 1 := by
  unfold State.polled
  split <;> simp

section Cancelled

/-- The worker performs its calls without an exception, and no time passes. -/
def Works (s : State) (event : Event) : Prop := Quiet s event ∧ event.isWorker = true

variable {paused : Bool} {polled : ControlState}

theorem cancel_deleting (plan : Plan) {s : State} (place : s.place = .cancelling) :
    ∃ last rowsProcessed,
    (system plan).Path Works s last ∧ last.place = .returned .cancelled rowsProcessed := by
  have taken : (system plan).step s .delete =
      some (s.goes s.world.delete (.returned .cancelled (sentOrNone s.world.topic.length))) := by
    simp [system, step, place]
  exact ⟨_, _, .snoc .refl (show Works s .delete from ⟨trivial, rfl⟩) taken, rfl⟩

theorem cancel_polling (plan : Plan) {s : State} (cancelled : isSet s.world.hash "cancelled" = true)
    (place : s.place = .polling paused) : ∃ last rowsProcessed,
      (system plan).Path Works s last ∧ last.place = .returned .cancelled rowsProcessed := by
  have taken : (system plan).step s .poll = some (s.goes s.world .cancelling) := by
    simp [system, step, place, afterPoll, cancelled]
  have stops : (s.goes s.world .cancelling).place = .cancelling := rfl
  obtain ⟨last, rowsProcessed, path, returned⟩ := cancel_deleting plan stops
  have first : (system plan).Path Works s (s.goes s.world .cancelling) :=
    .snoc .refl (show Works s .poll from ⟨trivial, rfl⟩) taken
  exact ⟨last, rowsProcessed, first.trans path, returned⟩

/-- The trip that was already polled is sent, and the next poll sees the cancellation. -/
theorem cancel_sending {trip next : Trip} {rest : List Trip}
    (cancelled : isSet s.world.hash "cancelled" = true)
    (place : s.place = .sending polled) (left : s.rest = trip :: next :: rest) :
    ∃ last rowsProcessed,
      (system plan).Path Works s last ∧ last.place = .returned .cancelled rowsProcessed := by
  let sent : State := { s with
    world := { s.world with topic := s.world.topic ++ [trip] }
    place := .polling false
    rest := next :: rest }
  have taken : (system plan).step s .send = some sent := by simp [system, step, place, left, sent]
  have polls : sent.place = .polling false := rfl
  have known : isSet sent.world.hash "cancelled" = true := cancelled
  obtain ⟨last, rowsProcessed, path, returned⟩ := cancel_polling plan known polls
  have first : (system plan).Path Works s sent :=
    .snoc .refl (show Works s .send from ⟨trivial, rfl⟩) taken
  exact ⟨last, rowsProcessed, first.trans path, returned⟩

theorem returns_cancelled (sound : Sound plan s) (honoured : Honoured s)
    (unfailed : s.place.isUnfailed = true)
    (cancelled : (lastAccepted s.world.commands).cancelled = true)
    (left : s.polled < (s.day.take plan.limit).length) : ∃ last rowsProcessed,
      (system plan).Path Works s last ∧ last.place = .returned .cancelled rowsProcessed := by
  have seen : s.place.isOver = false → isSet s.world.hash "cancelled" = true := by
    intro alive
    have obeyed : settings s.world.hash = lastAccepted s.world.commands := honoured.obeyed alive
    rw [← obeyed] at cancelled
    exact cancelled
  have loaded : s.place.isEarly ≠ true := by
    intro early
    simp [sound.early early] at left
  have unsent : s.rest ≠ [] := by
    intro finished
    have whole := congrArg List.length sound.whole
    rw [finished, List.append_nil] at whole
    exact absurd (length_le_polled s) (by omega)
  cases place : s.place with
  | polling paused => exact cancel_polling plan (seen (by simp [place, Place.isOver])) place
  | cancelling => exact cancel_deleting plan place
  | sending polled =>
    have going : s.polled = s.world.topic.length + 1 := by
      simp [State.polled, place, Place.isSending]
    have whole := congrArg List.length sound.whole
    rw [List.length_append] at whole
    rcases rest : s.rest with _ | ⟨trip, _ | ⟨next, rest'⟩⟩
    · exact absurd rest unsent
    · rw [rest, List.length_singleton] at whole
      omega
    · exact cancel_sending (seen (by simp [place, Place.isOver])) place rest
  | returned status rowsProcessed =>
    cases sound.reported status rowsProcessed place with
    | succeeded finished => exact absurd finished unsent
    | cancelled _ => exact ⟨s, _, .refl, place⟩
    | failed => simp [place, Place.isUnfailed] at unfailed
  | raised => simp [place, Place.isUnfailed] at unfailed
  | flushing => exact absurd (sound.past (by simp [place, Place.isPast])) unsent
  | deleting => exact absurd (sound.past (by simp [place, Place.isPast])) unsent
  | queued => simp [place, Place.isEarly] at loaded
  | initialising fields => simp [place, Place.isEarly] at loaded
  | expiring => simp [place, Place.isEarly] at loaded
  | loading => simp [place, Place.isEarly] at loaded

end Cancelled

/-- The loop obeys its controls: what it sends is always the first part of the first
`limit` trips of the day, its result counts what it sent, a cancellation and a pause each
let through one more trip at most, and a cancelled run that still has a trip to poll can
only return cancelled, and does. -/
theorem replay_obeys_controls (plan : Plan) (s : State) (path : (system plan).Path Quiet init s) :
    (s.world.topic <+: s.day.take plan.limit ∧ (s.place.isEarly = true → s.world.topic = []) ∧
      (s.place.isEarly = false → plan.IsDay s.day)) ∧
    (∀ status rowsProcessed, s.place = .returned status rowsProcessed →
      status = .succeeded ∧ rowsProcessed = some s.world.topic.length ∧
        s.world.topic = s.day.take plan.limit ∨
      status = .cancelled ∧ rowsProcessed = sentOrNone s.world.topic.length) ∧
    ((lastAccepted s.world.commands).cancelled = true → ∀ s', (system plan).Path Quiet s s' →
      s'.world.topic.length ≤ s.world.topic.length + 1 ∧
      (s.polled < (s'.day.take plan.limit).length →
        (∀ status rowsProcessed, s'.place = .returned status rowsProcessed → status = .cancelled) ∧
        ∃ last rowsProcessed, (system plan).Path Works s' last ∧
          last.place = .returned .cancelled rowsProcessed)) ∧
    ((lastAccepted s.world.commands).paused = true → ∀ s',
      (system plan).Path (fun state event => Quiet state event ∧ NoResume event) s s' →
      s'.world.topic.length ≤ s.world.topic.length + 1) := by
  have sound := reachable_sound path.leads
  have honoured := honoured_of_quiet path
  refine ⟨⟨⟨s.rest, sound.whole⟩, sound.unsent, ?_⟩, ?_, ?_, ?_⟩
  · intro late
    exact sound.isDay (loaded_of_unfailed late (unfailed_of_path path))
  · intro status rowsProcessed place
    cases sound.reported status rowsProcessed place with
    | succeeded finished =>
      have whole := sound.whole
      rw [finished, List.append_nil] at whole
      exact .inl ⟨rfl, rfl, whole⟩
    | cancelled _ => exact .inr ⟨rfl, rfl⟩
    | failed => simpa [place, Place.isUnfailed] using unfailed_of_path path
  · intro cancelled s' later
    obtain ⟨held, still⟩ := cancelled_path later cancelled
    have bound := polled_of_path held honoured (fun _ _ allowed => lasts_of_quiet allowed.1) fun _ _
      allowed => allowed.2
    refine ⟨(length_le_polled s').trans (bound.trans (polled_le s)), fun left => ?_⟩
    have whole := path.trans later
    have sound' := reachable_sound whole.leads
    have unfailed := unfailed_of_path whole
    refine ⟨?_,
      returns_cancelled sound' (honoured_of_quiet whole) unfailed still (bound.trans_lt left)⟩
    intro status rowsProcessed place
    cases sound'.reported status rowsProcessed place with
    | succeeded finished =>
      have all := congrArg List.length sound'.whole
      rw [finished, List.append_nil] at all
      have few := (length_le_polled s').trans bound
      omega
    | cancelled _ => rfl
    | failed => simp [place, Place.isUnfailed] at unfailed
  · intro paused s' later
    have held := (paused_path later paused).1
    have bound :=
      polled_of_path held honoured (fun _ _ allowed => lasts_of_quiet allowed.1.1) fun _ _
      allowed => allowed.2
    exact (length_le_polled s').trans (bound.trans (polled_le s))

section Commanded

instance : (event : Event) → Decidable (NoResume event)
  | .control action speedMultiplier =>
    inferInstanceAs (Decidable (control action speedMultiplier ≠ .ok .resume))
  | .refresh | .wait _ | .start | .hsetnx | .expire | .load _ | .poll | .send | .flush | .delete
  | .raise => .isTrue trivial

def tripAt (pickup : Int) : Trip := ⟨pickup, "{}"⟩

def fourTrips : Plan := ⟨[tripAt 2, tripAt 0, tripAt 3, tripAt 1], none, 500⟩

/-- Paused while the hash is initialised, resumed, and paused again with the second trip polled. -/
def untilPaused : List Event :=
  [.start, .hsetnx, .control "pause" none, .refresh, .hsetnx, .hsetnx, .expire,
    .load [tripAt 0, tripAt 1, tripAt 2, tripAt 3], .poll, .wait 1, .poll, .control "resume" none,
    .poll, .send, .poll, .control "pause" none]

def whilePaused : List Event := [.refresh, .send, .poll, .wait 1, .poll]

def untilCancelled : List Event :=
  untilPaused ++ whilePaused ++
    [.control "resume" none, .poll, .control "setSpeed" (some 5), .control "cancel" none]

def whileCancelled : List Event := [.send, .poll, .delete]

def pausedRun : State := ((system fourTrips).replay Quiet init untilPaused).get (by decide +kernel)

def cancelledRun : State :=
  ((system fourTrips).replay Quiet init untilCancelled).get (by decide +kernel)

def Place.result? : Place → Option (Status × Option Nat)
  | returned status rowsProcessed => some (status, rowsProcessed)
  | _ => none

theorem replay_obeys_controls_commanded : ∃ held last : State,
    (held.world.topic.length = 2 ∧ held.world.topic.length ≤ pausedRun.world.topic.length + 1) ∧
    (last.place.result? = some (.cancelled, some 3) ∧ fourTrips.IsDay last.day ∧
      last.world.topic <+: last.day.take fourTrips.limit) ∧
    last.world.topic.length ≤ cancelledRun.world.topic.length + 1 ∧
    ∃ ended rowsProcessed, (system fourTrips).Path Works last ended ∧
      ended.place = .returned .cancelled rowsProcessed := by
  have pausing : (system fourTrips).Path Quiet init pausedRun := path_of_get _
  have cancelling : (system fourTrips).Path Quiet init cancelledRun := path_of_get _
  have holds : ((system fourTrips).replay (fun s event => Quiet s event ∧ NoResume event) pausedRun
      whilePaused).map (fun s => s.world.topic.length) = some 2 := by decide +kernel
  have returns : ((system fourTrips).replay Quiet cancelledRun whileCancelled).map
      (fun s => (s.place.result?, s.place.isEarly, s.day.length)) =
        some (some (.cancelled, some 3), false, 4) := by decide +kernel
  obtain ⟨held, holding, two⟩ := reaches_of_replay holds
  obtain ⟨last, ending, seen⟩ := reaches_of_replay returns
  obtain ⟨result, late, whole⟩ := by simpa only [Prod.mk.injEq] using seen
  have paused : (lastAccepted pausedRun.world.commands).paused = true := by decide +kernel
  have cancelled : (lastAccepted cancelledRun.world.commands).cancelled = true := by decide +kernel
  have polled : cancelledRun.polled = 3 := by decide +kernel
  have left : cancelledRun.polled < (last.day.take fourTrips.limit).length := by
    rw [polled, List.length_take, whole]
    decide
  obtain ⟨⟨sent, _, isDay⟩, _⟩ := replay_obeys_controls fourTrips last (cancelling.trans ending)
  obtain ⟨_, _, cancels, _⟩ := replay_obeys_controls fourTrips cancelledRun cancelling
  obtain ⟨_, _, _, pauses⟩ := replay_obeys_controls fourTrips pausedRun pausing
  obtain ⟨few, stops⟩ := cancels cancelled last ending
  exact ⟨held, last, ⟨two, pauses paused held holding⟩, ⟨result, isDay late, sent⟩, few,
    (stops left).2⟩

end Commanded

end OpenScale.Replay
