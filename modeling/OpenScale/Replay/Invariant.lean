import OpenScale.Replay.Step

/-! What the send loop keeps at every place of the code, whatever the commands are. -/

namespace OpenScale.Replay

open OpenScale.Library OpenScale.Library.TransitionSystem OpenScale.Jobs OpenScale.Worker

variable {plan : Plan} {s s' : State} {event : Event}

def Place.isEarly : Place → Bool
  | queued | initialising _ | expiring | loading => true
  | _ => false

def Place.isLoaded : Place → Bool
  | polling _ | sending _ | cancelling | flushing | deleting => true
  | returned status _ => status == .succeeded || status == .cancelled
  | _ => false

def Place.isAtTrip : Place → Bool
  | polling _ | sending _ | cancelling => true
  | _ => false

def Place.isPast : Place → Bool
  | flushing | deleting => true
  | _ => false

def Place.isSending : Place → Bool
  | sending _ => true
  | _ => false

/-- The result fits what was sent. -/
inductive Reported (s : State) : Status → Option Nat → Prop where
  | succeeded (finished : s.rest = []) : Reported s .succeeded (some s.world.topic.length)
  | cancelled (unfinished : s.rest ≠ []) : Reported s .cancelled (sentOrNone s.world.topic.length)
  | failed : Reported s .failed (sentOrNone s.world.topic.length)

/-- What was sent and what is still to be sent are the first trips of the day. -/
structure Sound (plan : Plan) (s : State) : Prop where
  whole : s.world.topic ++ s.rest = s.day.take plan.limit
  early : s.place.isEarly = true → s.day = []
  isDay : s.place.isLoaded = true → plan.IsDay s.day
  atTrip : s.place.isAtTrip = true → s.rest ≠ []
  past : s.place.isPast = true → s.rest = []
  reported : ∀ status rowsProcessed, s.place = .returned status rowsProcessed →
    Reported s status rowsProcessed

theorem Sound.unsent (sound : Sound plan s) (early : s.place.isEarly = true) :
    s.world.topic = [] := by
  have whole := sound.whole
  rw [sound.early early, List.take_nil] at whole
  exact (List.append_eq_nil_iff.mp whole).1

theorem Sound.stay (sound : Sound plan s) (topic : s'.world.topic = s.world.topic)
    (day : s'.day = s.day)
    (rest : s'.rest = s.rest) (early : s'.place.isEarly = true → s.place.isEarly = true)
    (loaded : s'.place.isLoaded = true → s.place.isLoaded = true)
    (atTrip : s'.place.isAtTrip = true → s.place.isAtTrip = true)
    (past : s'.place.isPast = true → s.place.isPast = true)
    (reported : ∀ status rowsProcessed, s'.place = .returned status rowsProcessed →
      Reported s status rowsProcessed) : Sound plan s' := by
  constructor
  · rw [topic, rest, day, sound.whole]
  · exact fun holds => day.trans (sound.early (early holds))
  · exact fun holds => day ▸ sound.isDay (loaded holds)
  · exact fun holds => rest ▸ sound.atTrip (atTrip holds)
  · exact fun holds => rest.trans (sound.past (past holds))
  · intro status rowsProcessed place
    cases reported status rowsProcessed place with
    | succeeded finished =>
      rw [← topic]
      exact .succeeded (rest.trans finished)
    | cancelled unfinished =>
      rw [← topic]
      exact .cancelled (rest ▸ unfinished)
    | failed =>
      rw [← topic]
      exact .failed

theorem Sound.environment (sound : Sound plan s) {world : World}
    (topic : world.topic = s.world.topic) : Sound plan { s with world := world } :=
  sound.stay topic rfl rfl id id id id sound.reported

theorem sound_step (sound : Sound plan s) (taken : (system plan).step s event = some s') :
    Sound plan s' := by
  cases moves taken with
  | command accepted => exact sound.environment rfl
  | refresh due => exact sound.environment (by simp)
  | wait seconds => exact sound.environment (by simp)
  | start place =>
    exact sound.stay rfl rfl rfl (by simp [place, Place.isEarly]) nofun nofun nofun nofun
  | @hsetnx field value fields place =>
    refine sound.stay rfl rfl rfl (by simp [place, Place.isEarly]) ?_ ?_ ?_ ?_
    all_goals
      simp only [State.goes]
      split <;> nofun
  | expire place =>
    exact sound.stay (by simp [State.goes]) rfl rfl (by simp [place, Place.isEarly]) nofun
      nofun nofun nofun
  | @load day place isDay =>
    have unsent := sound.unsent (by simp [place, Place.isEarly])
    refine ⟨by simp [unsent], ?_, fun _ => isDay, ?_, ?_, ?_⟩
    · dsimp only
      split <;> nofun
    · dsimp only
      split
      · nofun
      · rename_i some_
        exact fun _ none_ => some_ (List.isEmpty_iff.mpr none_)
    · dsimp only
      split <;> nofun
    · dsimp only
      split
      · rename_i none_
        intro status rowsProcessed same
        cases same
        have none_sent : some 0 = some s.world.topic.length := by rw [unsent, List.length_nil]
        rw [none_sent]
        exact .succeeded (List.isEmpty_iff.mp none_)
      · nofun
  | @poll paused place =>
    refine sound.stay rfl rfl rfl ?_ (by simp [place, Place.isLoaded])
      (by simp [place, Place.isAtTrip]) ?_ ?_
    all_goals
      simp only [State.goes, afterPoll]
      split
      · nofun
      · split <;> nofun
  | @send polled trip rest place next =>
    have whole := sound.whole
    rw [next] at whole
    refine ⟨by simpa using whole, ?_, fun _ => sound.isDay (by simp [place, Place.isLoaded]),
      ?_, ?_, ?_⟩
    · dsimp only
      split <;> nofun
    · dsimp only
      split
      · nofun
      · rename_i some_
        exact fun _ none_ => some_ (List.isEmpty_iff.mpr none_)
    · dsimp only
      split
      · rename_i none_
        exact fun _ => List.isEmpty_iff.mp none_
      · nofun
    · dsimp only
      split <;> nofun
  | flush place =>
    exact sound.stay rfl rfl rfl nofun (by simp [place, Place.isLoaded]) nofun
      (by simp [place, Place.isPast]) nofun
  | finish place =>
    refine sound.stay rfl rfl rfl nofun (by simp [place, Place.isLoaded]) nofun nofun ?_
    intro status rowsProcessed same
    cases same
    exact .succeeded (sound.past (by simp [place, Place.isPast]))
  | cancel place =>
    refine sound.stay rfl rfl rfl nofun (by simp [place, Place.isLoaded]) nofun nofun ?_
    intro status rowsProcessed same
    cases same
    exact .cancelled (sound.atTrip (by simp [place, Place.isAtTrip]))
  | escape alive => exact sound.stay rfl rfl rfl nofun nofun nofun nofun nofun
  | fail alive =>
    refine sound.stay rfl rfl rfl nofun nofun nofun nofun ?_
    intro status rowsProcessed same
    cases same
    exact .failed

theorem sound_init : Sound plan init :=
  ⟨by simp [init], fun _ => rfl, nofun, nofun, nofun, nofun⟩

theorem reachable_sound (reachable : (system plan).Reachable s) : Sound plan s :=
  reachable.preserves (fun _ _ _ sound _ taken => sound_step sound taken) sound_init

end OpenScale.Replay
