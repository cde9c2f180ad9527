import OpenScale.Replay.System

/-! What the steps of a replay do to the control hash, and what each step can do at all. -/

namespace OpenScale.Replay

open OpenScale.Library OpenScale.Library.Python OpenScale.Jobs OpenScale.Worker

section Hash

variable (state : ControlState)

theorem lookup_hset (field value other : String) :
    (hset state field value).lookup other = if other = field then some value
    else state.lookup other := by
  induction state with
  | nil =>
    by_cases same : other = field
    · simp [hset, same]
    · have differs : (other == field) = false := by simp [same]
      simp [hset, List.lookup_cons, same, differs]
  | cons entry state ih =>
    obtain ⟨name, old⟩ := entry
    unfold hset at ih ⊢
    by_cases dropped : name = field
    · subst dropped
      by_cases same : other = name
      · simpa [same] using (ih.trans (by simp [same]))
      · have differs : (other == name) = false := by simp [same]
        simpa [same, List.lookup_cons, differs] using ih
    · by_cases same : other = name
      · simp [same, dropped]
      · have differs : (other == name) = false := by simp [same]
        simpa [dropped, List.lookup_cons, differs] using ih

theorem lookup_hsetnx (field value other : String) : (hsetnx state field value).lookup other =
    if other = field then some ((state.lookup field).getD value) else state.lookup other := by
  unfold hsetnx
  cases present : state.lookup field with
  | some old =>
    by_cases same : other = field
    · simp [same, present]
    · simp [same]
  | none =>
    by_cases same : other = field
    · subst same
      simp [List.lookup_append, present]
    · have differs : (other == field) = false := by simp [same]
      simp [List.lookup_append, List.lookup_cons, same, differs]

@[simp] theorem settings_nil : settings [] = defaults := rfl

theorem settings_hset (command : Command) :
    settings (hset state command.field.1 command.field.2) = (settings state).accept command := by
  cases command with
  | _ => simp [settings, isSet, speedText, Command.field, lookup_hset, Settings.accept]

theorem settings_hsetnx {field value : String} (initial : (field, value) ∈ initialFields) :
    settings (hsetnx state field value) = settings state := by
  simp only [initialFields, List.mem_cons, List.not_mem_nil, or_false, Prod.mk.injEq] at initial
  obtain ⟨rfl, rfl⟩ | ⟨rfl, rfl⟩ | ⟨rfl, rfl⟩ := initial
  · cases present : state.lookup "paused" <;>
      simp [settings, isSet, speedText, lookup_hsetnx, present]
  · cases present : state.lookup "speed" <;>
      simp [settings, isSet, speedText, lookup_hsetnx, present]
  · cases present : state.lookup "cancelled" <;>
      simp [settings, isSet, speedText, lookup_hsetnx, present]

theorem lastAccepted_append (commands : List Command) (command : Command) :
    lastAccepted (commands ++ [command]) = (lastAccepted commands).accept command := by
  simp [lastAccepted]

end Hash

section World

variable (world : World)

@[simp] theorem World.expire_hash : world.expire.hash = world.hash := by
  unfold expire
  split <;> rfl

@[simp] theorem World.expire_commands : world.expire.commands = world.commands := by
  unfold expire
  split <;> rfl

@[simp] theorem World.expire_topic : world.expire.topic = world.topic := by
  unfold expire
  split <;> rfl

@[simp] theorem World.wait_commands (seconds : Nat) :
    (world.wait seconds).commands = world.commands := by
  unfold wait
  split <;> rfl

@[simp] theorem World.wait_topic (seconds : Nat) : (world.wait seconds).topic = world.topic := by
  unfold wait
  split <;> rfl

theorem World.wait_hash (seconds : Nat) :
    (world.wait seconds).hash = if world.expires seconds then [] else world.hash := by
  unfold wait
  split <;> rfl

end World

inductive Moves (plan : Plan) (s : State) : Event → State → Prop where
  | command {action : String} {speedMultiplier : Option ℚ} {command : Command}
      (accepted : control action speedMultiplier = .ok command) :
      Moves plan s (.control action speedMultiplier) { s with world := s.world.command command }
  | refresh (due : 0 < s.world.refreshing) :
      Moves plan s .refresh
        { s with world := { s.world.expire with refreshing := s.world.refreshing - 1 } }
  | wait (seconds : Nat) : Moves plan s (.wait seconds) { s with world := s.world.wait seconds }
  | start (place : s.place = .queued) :
    Moves plan s .start (s.goes s.world (.initialising initialFields))
  | hsetnx {field value : String} {fields : List (String × String)}
      (place : s.place = .initialising ((field, value) :: fields)) :
      Moves plan s .hsetnx (s.goes { s.world with hash := hsetnx s.world.hash field value }
        (if fields.isEmpty then .expiring else .initialising fields))
  | expire (place : s.place = .expiring) : Moves plan s .expire (s.goes s.world.expire .loading)
  | load {day : List Trip} (place : s.place = .loading) (isDay : plan.IsDay day) :
      Moves plan s (.load day) { s with
        place := if (day.take plan.limit).isEmpty then .returned .succeeded (some 0)
          else .polling false
        day := day
        rest := day.take plan.limit }
  | poll {paused : Bool} (place : s.place = .polling paused) :
      Moves plan s .poll (s.goes s.world (afterPoll s.world.hash))
  | send {polled : ControlState} {trip : Trip} {rest : List Trip} (place : s.place =
    .sending polled)
      (next : s.rest = trip :: rest) : Moves plan s .send { s with
        world := { s.world with topic := s.world.topic ++ [trip] }
        place := if rest.isEmpty then .flushing else .polling false
        rest := rest }
  | flush (place : s.place = .flushing) : Moves plan s .flush (s.goes s.world .deleting)
  | finish (place : s.place = .deleting) : Moves plan s .delete
      (s.goes s.world.delete (.returned .succeeded (some s.world.topic.length)))
  | cancel (place : s.place = .cancelling) : Moves plan s .delete
      (s.goes s.world.delete (.returned .cancelled (sentOrNone s.world.topic.length)))
  | escape (alive : s.place.isOver = false) : Moves plan s .raise (s.goes s.world .raised)
  | fail (alive : s.place.isOver = false) : Moves plan s .raise
      (s.goes s.world (.returned .failed (sentOrNone s.world.topic.length)))

variable {plan : Plan} {s s' : State} {event : Event}

theorem moves (taken : (system plan).step s event = some s') : Moves plan s event s' := by
  cases event with
  | control action speedMultiplier =>
    simp only [system, step] at taken
    split at taken
    · rename_i command accepted
      cases taken
      exact .command accepted
    · cases taken
  | refresh =>
    simp only [system, step] at taken
    split at taken
    · rename_i due
      cases taken
      exact .refresh due
    · cases taken
  | wait seconds =>
    cases taken
    exact .wait seconds
  | start =>
    simp only [system, step] at taken
    split at taken
    · rename_i place
      cases taken
      exact .start place
    · cases taken
  | hsetnx =>
    simp only [system, step] at taken
    split at taken
    · rename_i field value fields place
      cases taken
      exact .hsetnx place
    · cases taken
  | expire =>
    simp only [system, step] at taken
    split at taken
    · rename_i place
      cases taken
      exact .expire place
    · cases taken
  | load day =>
    simp only [system, step] at taken
    split at taken
    · rename_i place
      split at taken
      · rename_i isDay
        cases taken
        exact .load place isDay
      · cases taken
    · cases taken
  | poll =>
    simp only [system, step] at taken
    split at taken
    · rename_i place
      cases taken
      exact .poll place
    · cases taken
  | send =>
    simp only [system, step] at taken
    split at taken
    · rename_i place next
      cases taken
      exact .send place next
    · cases taken
  | flush =>
    simp only [system, step] at taken
    split at taken
    · rename_i place
      cases taken
      exact .flush place
    · cases taken
  | delete =>
    simp only [system, step] at taken
    split at taken
    · rename_i place
      cases taken
      exact .finish place
    · rename_i place
      cases taken
      exact .cancel place
    · cases taken
  | raise =>
    simp only [system, step] at taken
    split at taken
    all_goals cases taken
    · exact .escape (by simp [Place.isOver, *])
    · exact .escape (by simp [Place.isOver, *])
    · exact .escape (by simp [Place.isOver, *])
    · exact .fail (by simp [Place.isOver, *])
    · exact .fail (by simp [Place.isOver, *])
    · exact .fail (by simp [Place.isOver, *])
    · exact .fail (by simp [Place.isOver, *])
    · exact .fail (by simp [Place.isOver, *])

end OpenScale.Replay
