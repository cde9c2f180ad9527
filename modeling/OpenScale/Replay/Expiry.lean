import OpenScale.Replay.Invariant

/-! Commands last as long as the hash that holds them. Only commands and the start of the
job put its deadline off, so a long wait can remove it, and the commands with it. -/

namespace OpenScale.Replay

open OpenScale.Library OpenScale.Library.TransitionSystem OpenScale.Jobs OpenScale.Worker

variable {plan : Plan} {s s' : State} {event : Event}

/-- The hash asks for what was last commanded. -/
def Obeyed (s : State) : Prop := settings s.world.hash = lastAccepted s.world.commands

/-- Redis does not remove the hash while a setting is other than its default. -/
def Lasts (s : State) : Event → Prop
  | .wait seconds => s.world.expires seconds = true → lastAccepted s.world.commands = defaults
  | _ => True

/-- Until the job is over, the hash says what was commanded, with what is still to be
initialised as without it. -/
structure Honoured (s : State) : Prop where
  initial : ∀ fields, s.place = .initialising fields → ∀ field ∈ fields, field ∈ initialFields
  obeyed : s.place.isOver = false → Obeyed s

theorem Honoured.elsewhere (elsewhere : ∀ fields, s.place ≠ .initialising fields)
    (obeyed : s.place.isOver = false → Obeyed s) : Honoured s :=
  ⟨fun fields same => absurd same (elsewhere fields), obeyed⟩

theorem obeyed_command {world : World} {command : Command}
    (obeyed : settings world.hash = lastAccepted world.commands) :
    settings (world.command command).hash = lastAccepted (world.command command).commands := by
  simp only [World.command, settings_hset, obeyed, lastAccepted_append]

/-- A wait loses what the hash held, when it gets to the deadline. -/
theorem obeyed_wait_iff {world : World} {seconds : Nat}
    (obeyed : settings world.hash = lastAccepted world.commands) :
    settings (world.wait seconds).hash = lastAccepted (world.wait seconds).commands ↔
      (world.expires seconds = true → lastAccepted world.commands = defaults) := by
  rw [World.wait_hash, World.wait_commands]
  by_cases expired : world.expires seconds = true
  · simp [expired, eq_comm]
  · simp [expired, obeyed]

theorem honoured_step (honoured : Honoured s) (lasts : Lasts s event)
    (taken : (system plan).step s event = some s') :
    Honoured s' := by
  cases moves taken with
  | command accepted =>
    exact ⟨honoured.initial, fun alive => obeyed_command (honoured.obeyed alive)⟩
  | refresh due =>
    refine ⟨honoured.initial, fun alive => ?_⟩
    simpa [Obeyed] using honoured.obeyed alive
  | wait seconds =>
    exact ⟨honoured.initial, fun alive => (obeyed_wait_iff (honoured.obeyed alive)).mpr lasts⟩
  | start place =>
    refine ⟨?_, fun _ => honoured.obeyed (by simp [place, Place.isOver])⟩
    intro fields same
    cases same
    exact fun _ listed => listed
  | @hsetnx field value fields place =>
    have listed := honoured.initial _ place
    refine ⟨?_, fun _ => ?_⟩
    · intro left same
      simp only [State.goes] at same
      split at same
      · cases same
      · cases same
        exact fun field member => listed field (List.mem_cons_of_mem _ member)
    · exact (settings_hsetnx _ (listed _ (List.mem_cons_self ..))).trans
        (honoured.obeyed (by simp [place, Place.isOver]))
  | expire place =>
    refine .elsewhere (by simp [State.goes]) fun _ => ?_
    simpa [Obeyed, State.goes] using honoured.obeyed (by simp [place, Place.isOver])
  | load place isDay =>
    refine .elsewhere ?_ fun _ => honoured.obeyed (by simp [place, Place.isOver])
    intro fields
    dsimp only
    split <;> simp
  | poll place =>
    refine .elsewhere ?_ fun _ => honoured.obeyed (by simp [place, Place.isOver])
    intro fields
    simp only [State.goes, afterPoll]
    split
    · simp
    · split <;> simp
  | send place next =>
    refine .elsewhere ?_ fun _ => honoured.obeyed (by simp [place, Place.isOver])
    intro fields
    dsimp only
    split <;> simp
  | flush place =>
    exact .elsewhere (by simp [State.goes]) fun _ => honoured.obeyed (by simp [place, Place.isOver])
  | finish place => exact .elsewhere (by simp [State.goes]) fun alive => by cases alive
  | cancel place => exact .elsewhere (by simp [State.goes]) fun alive => by cases alive
  | escape alive => exact .elsewhere (by simp [State.goes]) fun alive => by cases alive
  | fail alive => exact .elsewhere (by simp [State.goes]) fun alive => by cases alive

theorem honoured_init : Honoured init := .elsewhere (by simp [init]) fun _ => rfl

theorem honoured_of_path (path : (system plan).Path Lasts init s) : Honoured s :=
  path.preserves
    (fun _ _ _ honoured lasts taken => honoured_step honoured lasts taken) honoured_init

section Stopped

/-- The last commands hold the run up, or end it. -/
def Stopped (s : State) : Prop :=
  (lastAccepted s.world.commands).cancelled = true ∨ (lastAccepted s.world.commands).paused = true

/-- How many trips were sent, or are about to be. -/
def State.polled (s : State) : Nat := s.world.topic.length + if s.place.isSending then 1 else 0

theorem polled_of_not_sending (still : s.place.isSending = false) :
    s.polled = s.world.topic.length := by
  simp [State.polled, still]

theorem length_le_polled (s : State) : s.world.topic.length ≤ s.polled := Nat.le_add_right ..

theorem afterPoll_not_sending {state : ControlState}
    (stopped : (settings state).cancelled = true ∨ (settings state).paused = true) :
    (afterPoll state).isSending = false := by
  unfold afterPoll
  split
  · rfl
  · split
    · rfl
    · rename_i going running
      exact absurd stopped (not_or.mpr ⟨going, running⟩)

theorem polled_step (honoured : Honoured s) (stopped : Stopped s)
    (taken : (system plan).step s event = some s') :
    s'.polled ≤ s.polled := by
  cases moves taken with
  | command accepted => exact le_rfl
  | refresh due => simp [State.polled]
  | wait seconds => simp [State.polled]
  | start place => exact (polled_of_not_sending rfl).trans_le (length_le_polled s)
  | @hsetnx field value fields place =>
    refine (polled_of_not_sending ?_).trans_le (length_le_polled s)
    simp only [State.goes]
    split <;> rfl
  | expire place =>
    refine (polled_of_not_sending rfl).trans_le ?_
    simpa [State.goes] using length_le_polled s
  | @load day place isDay =>
    refine (polled_of_not_sending ?_).trans_le (length_le_polled s)
    dsimp only
    split <;> rfl
  | @poll paused place =>
    have obeyed : Obeyed s := honoured.obeyed (by simp [place, Place.isOver])
    refine (polled_of_not_sending ?_).trans_le (length_le_polled s)
    apply afterPoll_not_sending
    rw [obeyed]
    exact stopped
  | @send polled trip rest place next =>
    have going : s.polled = s.world.topic.length + 1 := by
      simp [State.polled, place, Place.isSending]
    rw [going]
    refine (polled_of_not_sending ?_).trans_le (by simp)
    dsimp only
    split <;> rfl
  | flush place => exact (polled_of_not_sending rfl).trans_le (length_le_polled s)
  | finish place => exact (polled_of_not_sending rfl).trans_le (length_le_polled s)
  | cancel place => exact (polled_of_not_sending rfl).trans_le (length_le_polled s)
  | escape alive => exact (polled_of_not_sending rfl).trans_le (length_le_polled s)
  | fail alive => exact (polled_of_not_sending rfl).trans_le (length_le_polled s)

theorem topic_step (taken : (system plan).step s event = some s') :
    s.world.topic <+: s'.world.topic := by
  cases moves taken with
  | send place next => exact List.prefix_append ..
  | refresh due => simp
  | wait seconds => simp
  | expire place => simp [State.goes]
  | _ => exact List.prefix_rfl

theorem cancelled_step (cancelled : (lastAccepted s.world.commands).cancelled = true)
    (taken : (system plan).step s event = some s') :
    (lastAccepted s'.world.commands).cancelled = true := by
  cases moves taken with
  | @command _ _ command accepted =>
    simp only [World.command, lastAccepted_append]
    cases command <;> simp [Settings.accept, cancelled]
  | refresh due => simpa using cancelled
  | wait seconds => simpa using cancelled
  | expire place => simpa [State.goes] using cancelled
  | _ => exact cancelled

variable {admitted : State → Event → Prop}

theorem polled_of_path (path : (system plan).Path admitted s s') (honoured : Honoured s)
    (lasts : ∀ state event, admitted state event → Lasts state event)
    (stopped : ∀ state event, admitted state event → Stopped state) : s'.polled ≤ s.polled := by
  have steps : ∀ state event next, Honoured state ∧ state.polled ≤ s.polled → admitted state event →
      (system plan).step state event = some next → Honoured next ∧ next.polled ≤ s.polled := by
    intro state event next before allowed taken
    exact ⟨honoured_step before.1 (lasts _ _ allowed) taken,
      (polled_step before.1 (stopped _ _ allowed) taken).trans before.2⟩
  exact (path.preserves steps ⟨honoured, le_rfl⟩).2

theorem cancelled_path (path : (system plan).Path admitted s s')
    (cancelled : (lastAccepted s.world.commands).cancelled = true) :
    (system plan).Path (fun state event => admitted state event ∧ Stopped state) s s' ∧
      (lastAccepted s'.world.commands).cancelled = true := by
  induction path with
  | refl => exact ⟨.refl, cancelled⟩
  | snoc _ allowed taken ih =>
    obtain ⟨front, still⟩ := ih
    exact ⟨front.snoc ⟨allowed, .inl still⟩ taken, cancelled_step still taken⟩

theorem topic_path (path : (system plan).Path admitted s s') :
    s.world.topic <+: s'.world.topic := by
  induction path with
  | refl => exact List.prefix_rfl
  | snoc _ _ taken ih => exact ih.trans (topic_step taken)

end Stopped

/-- In a run in which Redis never removes the hash while a setting is other than its
default, each poll reads what was last commanded, a run that was cancelled while queued
sends nothing, and a paused one sends nothing until it is resumed. A step keeps the hash
to the commands exactly when it does not remove it at such a time. -/
theorem commands_last_iff (plan : Plan) :
    (∀ s, (system plan).Path Lasts init s → ∀ paused, s.place = .polling paused → Obeyed s) ∧
    (∀ s s', (system plan).Path Lasts init s → s.place = .queued →
      (lastAccepted s.world.commands).cancelled = true → (system plan).Path Lasts s s' →
        s'.world.topic = []) ∧
    (∀ s s', (system plan).Path Lasts init s → s.place = .polling true →
      (system plan).Path (fun state event => Lasts state event ∧
        (lastAccepted state.world.commands).paused = true) s s' → s'.world.topic = s.world.topic) ∧
    (∀ s s' event, (system plan).Path Lasts init s → s.place.isOver = false →
      (system plan).step s event = some s' → s'.place.isOver = false →
      (Obeyed s' ↔ Lasts s event)) := by
  refine ⟨?_, ?_, ?_, ?_⟩
  · intro s path paused place
    exact (honoured_of_path path).obeyed (by simp [place, Place.isOver])
  · intro s s' path queued cancelled later
    have unsent := (reachable_sound path.leads).unsent (by simp [queued, Place.isEarly])
    have held := polled_of_path (cancelled_path later cancelled).1 (honoured_of_path path)
      (fun _ _ allowed => allowed.1) fun _ _ allowed => allowed.2
    have start : s.polled = s.world.topic.length :=
      polled_of_not_sending (by simp [queued, Place.isSending])
    rw [start, unsent] at held
    exact List.eq_nil_of_length_eq_zero (Nat.le_zero.mp ((length_le_polled s').trans held))
  · intro s s' path waiting later
    have held := polled_of_path later (honoured_of_path path) (fun _ _ allowed => allowed.1)
      fun _ _ allowed => .inr allowed.2
    have start : s.polled = s.world.topic.length :=
      polled_of_not_sending (by simp [waiting, Place.isSending])
    rw [start] at held
    exact ((topic_path later).eq_of_length_le ((length_le_polled s').trans held)).symm
  · intro s s' event path alive taken after
    have honoured := honoured_of_path path
    constructor
    · intro obeyed
      cases event with
      | wait seconds =>
        cases taken
        exact (obeyed_wait_iff (honoured.obeyed alive)).mp obeyed
      | _ => trivial
    · intro lasts
      exact (honoured_step honoured lasts taken).obeyed after

section Lost

def oneTrip : Plan := ⟨[⟨0, "{}"⟩], none, 1⟩

def pausedInQueue : List Event :=
  [.control "pause" none, .refresh, .wait controlKeyTtlSeconds, .start, .hsetnx, .hsetnx,
    .hsetnx, .expire, .load [⟨0, "{}"⟩]]

def Place.isPolling : Place → Bool
  | .polling _ => true
  | _ => false

theorem pause_lost : ¬ ∀ (plan : Plan) (s : State), (system plan).Reachable s →
    ∀ paused, s.place = .polling paused → Obeyed s := by
  intro obeys
  have replayed : ((system oneTrip).replay (fun _ _ => True) init pausedInQueue).map
      (fun s => (s.place.isPolling, settings s.world.hash, lastAccepted s.world.commands)) =
      some (true, ⟨false, false, "1"⟩, ⟨true, false, "1"⟩) := by decide +kernel
  obtain ⟨s, reachable, seen⟩ := reaches_of_replay replayed
  simp only [Prod.mk.injEq] at seen
  obtain ⟨place, read, commanded⟩ := seen
  cases polling : s.place with
  | polling paused =>
    have obeyed : settings s.world.hash = lastAccepted s.world.commands :=
      obeys oneTrip s reachable paused polling
    rw [read, commanded] at obeyed
    cases obeyed
  | _ => simp [polling, Place.isPolling] at place

end Lost

end OpenScale.Replay
