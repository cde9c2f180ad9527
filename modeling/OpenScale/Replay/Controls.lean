import Mathlib.Data.List.Induction
import OpenScale.Replay.Loop

/-! `ReplayControls` beside the run that it controls: what the panel shows is its own intent, and
each click sends a request of its own. The requests may overtake each other, or fail, and the panel
reads none of the replies. -/

namespace OpenScale.Replay.Controls

open OpenScale.Library OpenScale.Library.TransitionSystem

inductive SpeedValue where
  | one
  | two
  | three
  | five
  | ten
  deriving DecidableEq

/-- `Number(value)` -/
def SpeedValue.number : SpeedValue → Nat
  | one => 1
  | two => 2
  | three => 3
  | five => 5
  | ten => 10

inductive Click where
  | pause
  | resume
  | cancel
  | setSpeed (value : SpeedValue)
  deriving DecidableEq

def Click.action : Click → String
  | pause => "pause"
  | resume => "resume"
  | cancel => "cancel"
  | setSpeed _ => "setSpeed"

def Click.speedMultiplier : Click → Option ℚ
  | setSpeed value => some value.number
  | _ => none

/-- The request of a click, with the number that tells it from others of its kind. -/
structure Request where
  number : Nat
  click : Click
  deriving DecidableEq

structure State where
  job : Replay.State
  pauseIntent : Bool
  speed : SpeedValue
  /-- All requests, in the order of the clicks. -/
  clicked : List Request
  underWay : List Request
  /-- Those that were applied, in the order in which they were. -/
  applied : List Request

inductive Event where
  | togglePause
  | handleSpeedChange (value : SpeedValue)
  | cancel
  /-- One of the requests under way gets through, up to its `HSET`. -/
  | arrive (index : Nat)
  /-- One of them is lost, or its `HSET` fails. -/
  | fail (index : Nat)
  | job (event : Replay.Event)

def State.onControl (s : State) (click : Click) : State :=
  let request : Request := ⟨s.clicked.length, click⟩
  { s with clicked := s.clicked ++ [request], underWay := s.underWay ++ [request] }

def step (plan : Plan) (s : State) : Event → Option State
  | .togglePause =>
    some { s.onControl (if s.pauseIntent then .resume else .pause) with
      pauseIntent := !s.pauseIntent }
  | .handleSpeedChange value => some ({ s with speed := value }.onControl (.setSpeed value))
  | .cancel => some (s.onControl .cancel)
  | .arrive index => do
    let request ← s.underWay[index]?
    let job ← Replay.step plan s.job (.control request.click.action request.click.speedMultiplier)
    return { s with
      job := job
      underWay := s.underWay.eraseIdx index
      applied := s.applied ++ [request] }
  | .fail index =>
    if index < s.underWay.length then some { s with underWay := s.underWay.eraseIdx index }
    else none
  | .job event => (Replay.step plan s.job event).map fun job => { s with job := job }

/-- The effect has reset the intent for the new run. -/
def init : State := ⟨Replay.init, false, .one, [], [], []⟩

def system (plan : Plan) : TransitionSystem State Event := ⟨init, step plan⟩

/-- Nobody else controls the run, and Redis does not lose what was commanded. -/
def Alone (s : State) : Event → Prop
  | .job (.control _ _) => False
  | .job event => Lasts s.job event
  | _ => True

/-- The user leaves the pause button alone. -/
def Untoggled (s : State) (event : Event) : Prop := Alone s event ∧ event ≠ .togglePause

def Click.isPause : Click → Bool
  | pause | resume => true
  | _ => false

def Click.isSpeed : Click → Bool
  | setSpeed _ => true
  | _ => false

/-- The last of the requests about a setting. -/
def latest (about : Click → Bool) (requests : List Request) : Option Request :=
  (requests.filter fun request => about request.click).getLast?

/-- The last click on a setting was applied, and no earlier one after it; or none was on it. -/
def State.Settled (s : State) (about : Click → Bool) : Prop :=
  latest about s.applied = latest about s.clicked

instance (s : State) (about : Click → Bool) : Decidable (s.Settled about) :=
  inferInstanceAs (Decidable (latest about s.applied = latest about s.clicked))

section Settings

def Click.command : Click → Command
  | pause => .pause
  | resume => .resume
  | cancel => .cancel
  | setSpeed value => .setSpeed value.number

theorem control_click (click : Click) :
    control click.action click.speedMultiplier = .ok click.command := by
  rcases click with _ | _ | _ | (_ | _ | _ | _ | _) <;> decide +kernel

/-- What a run is set to that takes these requests one after the other. -/
def settingsOf (requests : List Request) : Settings :=
  lastAccepted (requests.map fun request => request.click.command)

theorem settingsOf_concat (requests : List Request) (request : Request) :
    settingsOf (requests ++ [request]) = (settingsOf requests).accept request.click.command := by
  rw [settingsOf, List.map_append, List.map_singleton, lastAccepted_append]
  rfl

theorem latest_concat (about : Click → Bool) (requests : List Request) (request : Request) :
    latest about (requests ++ [request]) = if about request.click then some request
    else latest about requests := by
  rw [latest, List.filter_append, List.filter_singleton]
  cases about request.click with
  | true => exact List.getLast?_concat
  | false => exact congrArg List.getLast? (List.append_nil _)

/-- Only the last request about the pause counts for it. -/
theorem paused_settingsOf (requests : List Request) : (settingsOf requests).paused =
    (latest Click.isPause requests).any fun request => request.click = .pause := by
  induction requests using List.reverseRecOn with
  | nil => rfl
  | append_singleton requests request ih =>
    rw [settingsOf_concat, latest_concat]
    cases clicked : request.click with
    | pause => simp [Settings.accept, Click.command, Click.isPause, clicked]
    | resume => simp [Settings.accept, Click.command, Click.isPause, clicked]
    | cancel => exact ih
    | setSpeed value => exact ih

def Click.speedText : Click → String
  | setSpeed value => toString value.number
  | _ => defaults.speed

theorem speed_settingsOf (requests : List Request) : (settingsOf requests).speed =
    ((latest Click.isSpeed requests).map fun request => request.click.speedText).getD
      defaults.speed := by
  induction requests using List.reverseRecOn with
  | nil => rfl
  | append_singleton requests request ih =>
    rw [settingsOf_concat, latest_concat]
    cases clicked : request.click with
    | setSpeed value =>
      simp [Settings.accept, Click.command, Click.isSpeed, Click.speedText, clicked]
    | _ => exact ih

end Settings

variable {plan : Plan} {s next last : State} {event : Event}

inductive Moves (plan : Plan) (s : State) : Event → State → Prop where
  | toggle : Moves plan s .togglePause
      { s.onControl (if s.pauseIntent then .resume else .pause) with pauseIntent := !s.pauseIntent }
  | speed (value : SpeedValue) : Moves plan s (.handleSpeedChange value)
      ({ s with speed := value }.onControl (.setSpeed value))
  | cancel : Moves plan s .cancel (s.onControl .cancel)
  | arrive {index : Nat} {request : Request} (found : s.underWay[index]? = some request) :
      Moves plan s (.arrive index)
        { s with
          job := { s.job with world := s.job.world.command request.click.command }
          underWay := s.underWay.eraseIdx index
          applied := s.applied ++ [request] }
  | fail {index : Nat} : Moves plan s (.fail index) { s with underWay := s.underWay.eraseIdx index }
  | job {event : Replay.Event} {job : Replay.State} (ran : (Replay.system plan).step s.job event =
    some job) :
      Moves plan s (.job event) { s with job := job }

theorem moves (taken : step plan s event = some next) : Moves plan s event next := by
  cases event with
  | togglePause =>
    cases taken
    exact .toggle
  | handleSpeedChange value =>
    cases taken
    exact .speed value
  | cancel =>
    cases taken
    exact .cancel
  | arrive index =>
    obtain ⟨request, found, taken⟩ := Option.bind_eq_some_iff.mp taken
    rw [Replay.step, control_click] at taken
    cases taken
    exact .arrive found
  | fail index =>
    obtain ⟨_, same⟩ := Option.ite_none_right_eq_some.mp taken
    cases same
    exact .fail
  | job event =>
    obtain ⟨job, ran, rfl⟩ := Option.map_eq_some_iff.mp taken
    exact .job ran

section Requests

theorem commands_step {job after : Replay.State} {event : Replay.Event}
    (silent : ∀ action speed, event ≠ .control action speed)
    (taken : (Replay.system plan).step job event = some after) :
    after.world.commands = job.world.commands := by
  cases Replay.moves taken with
  | command accepted => exact absurd rfl (silent _ _)
  | refresh due => simp
  | wait seconds => simp
  | expire place => simp [State.goes]
  | _ => rfl

theorem silent_of_alone {event : Replay.Event} (alone : Alone s (.job event)) :
    ∀ action speed, event ≠ .control action speed := by
  rintro action speed rfl
  exact alone

/-- The panel shows what was clicked, the run was commanded what was applied, and no request
twice. -/
structure Sound (s : State) : Prop where
  paused : s.pauseIntent = (settingsOf s.clicked).paused
  speed : toString s.speed.number = (settingsOf s.clicked).speed
  commands : s.job.world.commands = s.applied.map fun request => request.click.command
  once : (s.applied ++ s.underWay).Subperm s.clicked

theorem once_onControl (once : (s.applied ++ s.underWay).Subperm s.clicked) (click : Click) :
    ((s.onControl click).applied ++ (s.onControl click).underWay).Subperm
    (s.onControl click).clicked := by
  change (s.applied ++ (s.underWay ++ [_])).Subperm (s.clicked ++ [_])
  rw [← List.append_assoc]
  exact (List.subperm_append_right _).mpr once

theorem once_arrive {index : Nat} {request : Request}
    (once : (s.applied ++ s.underWay).Subperm s.clicked)
    (found : s.underWay[index]? = some request) :
    (s.applied ++ [request] ++ s.underWay.eraseIdx index).Subperm s.clicked := by
  obtain ⟨inside, rfl⟩ := List.getElem?_eq_some_iff.mp found
  have moved : (s.applied ++ ([s.underWay[index]] ++ s.underWay.eraseIdx index)).Perm
      (s.applied ++ s.underWay) :=
    (List.getElem_cons_eraseIdx_perm inside).append_left _
  rw [List.append_assoc]
  exact moved.subperm.trans once

theorem sound_step (sound : Sound s) (alone : Alone s event)
    (taken : step plan s event = some next) :
    Sound next := by
  cases moves taken with
  | toggle =>
    have clicked :=
      settingsOf_concat s.clicked ⟨s.clicked.length, if s.pauseIntent then .resume else .pause⟩
    refine ⟨?_, ?_, sound.commands, once_onControl sound.once _⟩
    · refine Eq.trans ?_ (congrArg Settings.paused clicked).symm
      cases s.pauseIntent <;> rfl
    · refine sound.speed.trans (Eq.trans ?_ (congrArg Settings.speed clicked).symm)
      cases s.pauseIntent <;> rfl
  | speed value =>
    have clicked := settingsOf_concat s.clicked ⟨s.clicked.length, .setSpeed value⟩
    refine ⟨?_, (congrArg Settings.speed clicked).symm, sound.commands, once_onControl sound.once _⟩
    exact sound.paused.trans (congrArg Settings.paused clicked).symm
  | cancel =>
    have clicked := settingsOf_concat s.clicked ⟨s.clicked.length, .cancel⟩
    refine ⟨?_, ?_, sound.commands, once_onControl sound.once _⟩
    · exact sound.paused.trans (congrArg Settings.paused clicked).symm
    · exact sound.speed.trans (congrArg Settings.speed clicked).symm
  | arrive found =>
    refine ⟨sound.paused, sound.speed, ?_, once_arrive sound.once found⟩
    rw [World.command, List.map_append, List.map_singleton, sound.commands]
  | fail =>
    refine ⟨sound.paused, sound.speed, sound.commands, List.Subperm.trans ?_ sound.once⟩
    exact ((List.Sublist.refl _).append (List.eraseIdx_sublist ..)).subperm
  | job ran =>
    exact ⟨sound.paused, sound.speed,
      (commands_step (silent_of_alone alone) ran).trans sound.commands, sound.once⟩

theorem sound_init : Sound init := ⟨rfl, rfl, rfl, List.Subperm.refl _⟩

theorem job_step (alone : Alone s event) (taken : step plan s event = some next) :
    next.job = s.job ∨ ∃ event, Lasts s.job event ∧
    (Replay.system plan).step s.job event = some next.job := by
  cases moves taken with
  | @arrive index request found =>
    refine .inr ⟨.control request.click.action request.click.speedMultiplier, trivial, ?_⟩
    simp only [Replay.system, Replay.step, control_click]
  | @job event job ran =>
    refine .inr ⟨event, ?_, ran⟩
    cases event <;> first | exact alone | exact trivial
  | _ => exact .inl rfl

theorem honoured_of_alone (path : (system plan).Path Alone init s) : Honoured s.job := by
  have start : Honoured init.job := honoured_init
  refine @Path.preserves _ _ _ _ _ _ (fun s => Honoured s.job) path
    (fun state event next honoured alone taken => ?_) start
  rcases job_step alone taken with same | ⟨event, lasts, ran⟩
  · exact same ▸ honoured
  · exact honoured_step honoured lasts ran

end Requests

section Paused

/-- The run is paused, and no request is about to change that. -/
structure Held (s : State) : Prop where
  paused : (lastAccepted s.job.world.commands).paused = true
  underWay : ∀ request ∈ s.underWay, request.click ≠ .resume

theorem held_onControl (held : Held s) {click : Click} (other : click ≠ .resume) :
    Held (s.onControl click) := by
  refine ⟨held.paused, fun request member => ?_⟩
  rcases List.mem_append.mp member with earlier | last
  · exact held.underWay request earlier
  · rwa [List.mem_singleton.mp last]

theorem held_step (held : Held s) (allowed : Untoggled s event)
    (taken : step plan s event = some next) : Held next := by
  have fewer (index : Nat) : ∀ request ∈ s.underWay.eraseIdx index, request.click ≠ .resume :=
    fun request member => held.underWay request (List.mem_of_mem_eraseIdx member)
  cases moves taken with
  | toggle => exact absurd rfl allowed.2
  | speed value =>
    have same : Held { s with speed := value } := ⟨held.paused, held.underWay⟩
    exact held_onControl same nofun
  | cancel => exact held_onControl held nofun
  | @arrive index request found =>
    refine ⟨?_, fewer index⟩
    have other := held.underWay request (List.mem_of_getElem? found)
    rw [World.command, lastAccepted_append]
    cases clicked : request.click with
    | resume => exact absurd clicked other
    | pause => rfl
    | _ => exact held.paused
  | fail => exact ⟨held.paused, fewer _⟩
  | job ran =>
    refine ⟨?_, held.underWay⟩
    rw [commands_step (silent_of_alone allowed.1) ran]
    exact held.paused

theorem stopped_of_held (path : (system plan).Path Untoggled s last) (held : Held s) : Held last ∧
    (Replay.system plan).Path (fun state event => Lasts state event ∧
      Stopped state) s.job last.job := by
  induction path with
  | refl => exact ⟨held, .refl⟩
  | snoc _ allowed taken ih =>
    obtain ⟨still, front⟩ := ih
    refine ⟨held_step still allowed taken, ?_⟩
    rcases job_step allowed.1 taken with same | ⟨event, lasts, ran⟩
    · exact same ▸ front
    · exact front.snoc ⟨lasts, .inr still.paused⟩ ran

end Paused

/-- The panel shows the last clicks, the run is set to what was applied last, and where these are
the same click the run does what the panel shows. -/
structure Follows (plan : Plan) (s : State) : Prop where
  once : (s.applied ++ s.underWay).Subperm s.clicked
  pauseIntent : s.pauseIntent = (latest Click.isPause s.clicked).any fun request =>
    request.click = .pause
  speed : toString s.speed.number =
    ((latest Click.isSpeed s.clicked).map fun request =>
      request.click.speedText).getD defaults.speed
  hash : s.job.place.isOver = false → settings s.job.world.hash = settingsOf s.applied
  pauses : s.job.place.isOver = false → s.Settled Click.isPause →
    (settings s.job.world.hash).cancelled = false →
    afterPoll s.job.world.hash = if s.pauseIntent then .polling true else .sending s.job.world.hash
  plays : s.job.place.isOver = false → s.Settled Click.isSpeed →
    (settings s.job.world.hash).speed = toString s.speed.number
  holds : s.pauseIntent = true → s.Settled Click.isPause →
    (∀ request ∈ s.underWay, request.click ≠ .resume) →
    ∀ last, (system plan).Path Untoggled s last →
      last.job.world.topic.length ≤ s.job.world.topic.length + 1

theorem Sound.paused_eq (sound : Sound s) (settled : s.Settled Click.isPause) :
    (settingsOf s.applied).paused = s.pauseIntent := by
  rw [sound.paused, paused_settingsOf, paused_settingsOf, settled]

theorem Sound.speed_eq (sound : Sound s) (settled : s.Settled Click.isSpeed) :
    (settingsOf s.applied).speed = toString s.speed.number := by
  rw [sound.speed, speed_settingsOf, speed_settingsOf, settled]

/-- While nobody else controls the run and Redis keeps what was commanded, in whatever order the
requests arrive and whichever of them fail. -/
theorem panel_followed (plan : Plan) (s : State) (path : (system plan).Path Alone init s) :
    Follows plan s := by
  have sound : Sound s :=
    path.preserves (fun _ _ _ sound alone taken => sound_step sound alone taken) sound_init
  have honoured := honoured_of_alone path
  have set_ : lastAccepted s.job.world.commands = settingsOf s.applied :=
    congrArg lastAccepted sound.commands
  have hash : s.job.place.isOver = false → settings s.job.world.hash = settingsOf s.applied :=
    fun alive => (honoured.obeyed alive).trans set_
  refine ⟨sound.once, sound.paused.trans (paused_settingsOf _),
    sound.speed.trans (speed_settingsOf _), hash,
    fun alive settled goesOn => ?_, fun alive settled =>
      ?_, fun intent settled others last later => ?_⟩
  · have paused : Worker.isSet s.job.world.hash "paused" = s.pauseIntent :=
      (congrArg Settings.paused (hash alive)).trans (sound.paused_eq settled)
    have uncancelled : ¬ Worker.isSet s.job.world.hash "cancelled" = true :=
      fun cancelled => Bool.noConfusion (goesOn.symm.trans cancelled)
    rw [afterPoll, if_neg uncancelled, paused]
  · exact (congrArg Settings.speed (hash alive)).trans (sound.speed_eq settled)
  · have held : Held s := ⟨set_ ▸ (sound.paused_eq settled).trans intent, others⟩
    obtain ⟨_, stopped⟩ := stopped_of_held later held
    have bound :=
      polled_of_path stopped honoured (fun _ _ allowed => allowed.1) fun _ _ allowed => allowed.2
    exact (length_le_polled last.job).trans (bound.trans (polled_le s.job))

section Overtaken

/-- Three clicks on the pause button and two on the speed, of which the first of each is lost and
the others overtake each other; the run has polled its second trip when the pause is applied. -/
def overtaken : List Event :=
  [.job .start, .job .hsetnx, .job .hsetnx, .job .hsetnx, .job .expire,
    .job (.load [tripAt 0, tripAt 1, tripAt 2, tripAt 3]), .togglePause, .togglePause, .togglePause,
    .handleSpeedChange .five, .handleSpeedChange .ten, .job .poll, .job .send, .arrive 1,
    .fail 0, .arrive 2, .fail 1, .job .poll, .arrive 0]

def heldUp : List Event :=
  [.job .refresh, .job .send, .job .poll, .job (.wait 1), .job .poll, .cancel, .arrive 0]

instance : (s : State) → (event : Event) → Decidable (Alone s event)
  | _, .job (.control _ _) => .isFalse id
  | s, .job (.wait seconds) =>
    inferInstanceAs (Decidable (s.job.world.expires seconds = true →
      lastAccepted s.job.world.commands = defaults))
  | _, .job .refresh | _, .job .start | _, .job .hsetnx | _, .job .expire | _,
    .job (.load _) | _, .job .poll
  | _, .job .send | _, .job .flush | _, .job .delete | _, .job .raise => .isTrue trivial
  | _, .togglePause | _, .handleSpeedChange _ | _, .cancel | _, .arrive _ | _, .fail _ =>
    .isTrue trivial

def Event.isToggle : Event → Bool
  | togglePause => true
  | _ => false

instance (s : State) (event : Event) : Decidable (Untoggled s event) :=
  decidable_of_iff (Alone s event ∧ event.isToggle = false) (by
    rw [Untoggled]
    cases event <;> simp [Event.isToggle])

def overtakenRun : State := ((system fourTrips).replay Alone init overtaken).get (by decide +kernel)

theorem panel_followed_overtaken : ∃ last : State,
    (overtakenRun.clicked.length = 5 ∧ overtakenRun.applied.length = 3 ∧
      overtakenRun.underWay = []) ∧
    (overtakenRun.pauseIntent = true ∧ afterPoll overtakenRun.job.world.hash = .polling true) ∧
    (settings overtakenRun.job.world.hash).speed = "10" ∧
    last.job.world.topic.length = 2 ∧
    last.job.world.topic.length ≤ overtakenRun.job.world.topic.length + 1 := by
  have path : (system fourTrips).Path Alone init overtakenRun := path_of_get _
  have follows := panel_followed fourTrips overtakenRun path
  have seen : (overtakenRun.clicked.length, overtakenRun.applied.length, overtakenRun.underWay,
      overtakenRun.pauseIntent, overtakenRun.speed, overtakenRun.job.place.isOver) =
      (5, 3, [], true, .ten, false) := by decide +kernel
  obtain ⟨clicked, applied, underWay, intent, speed, alive⟩ := by
    simpa only [Prod.mk.injEq] using seen
  have settled : overtakenRun.Settled Click.isPause ∧ overtakenRun.Settled Click.isSpeed := by
    decide +kernel
  have goesOn : (settings overtakenRun.job.world.hash).cancelled = false := by decide +kernel
  have later : ((system fourTrips).replay Untoggled overtakenRun heldUp).map
      (fun s => s.job.world.topic.length) = some 2 := by decide +kernel
  obtain ⟨last, holding, two⟩ := reaches_of_replay later
  have pauses := follows.pauses alive settled.1 goesOn
  rw [intent, if_pos rfl] at pauses
  have plays := follows.plays alive settled.2
  rw [speed] at plays
  have none_ : ∀ request ∈ overtakenRun.underWay, request.click ≠ .resume := by
    rw [underWay]
    exact fun request member => absurd member List.not_mem_nil
  exact ⟨last, ⟨clicked, applied, underWay⟩, ⟨intent, pauses⟩, plays, two,
    follows.holds intent settled.1 none_ last holding⟩

end Overtaken

end OpenScale.Replay.Controls
