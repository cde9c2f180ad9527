import Mathlib.Data.List.Basic

/-! Guarded transition systems. A step is an executable partial function, so
the guard that a proof uses is the one that a replay of a concrete run uses. -/

namespace OpenScale.Library

universe u v w

/-- An initial state and one step per event; `none` means the event is not enabled. -/
structure TransitionSystem (State : Type u) (Event : Type v) where
  init : State
  step : State → Event → Option State

namespace TransitionSystem

variable {State : Type u} {Event : Type v}

/-- Finite runs between two states whose every step was taken where `admitted`
held of the state before it and of its event. -/
inductive Path (system : TransitionSystem State Event) (admitted : State → Event → Prop) :
    State → State → Prop where
  | refl {state : State} : Path system admitted state state
  | snoc {first state next : State} {event : Event} (path : Path system admitted first state)
      (allowed : admitted state event) (taken : system.step state event = some next) :
        Path system admitted first next

/-- Runs with no condition on their steps. -/
abbrev Leads (system : TransitionSystem State Event) : State → State → Prop :=
  system.Path fun _ _ => True

abbrev Reachable (system : TransitionSystem State Event) : State → Prop :=
  system.Leads system.init

variable {system : TransitionSystem State Event} {admitted weaker : State → Event → Prop}
variable {first state last : State}

theorem Path.trans (front : system.Path admitted first state)
    (back : system.Path admitted state last) : system.Path admitted first last := by
  induction back with
  | refl => exact front
  | snoc _ allowed taken ih => exact ih.snoc allowed taken

theorem Path.weaken (path : system.Path admitted first last)
    (imp : ∀ state event, admitted state event → weaker state event) :
    system.Path weaker first last := by
  induction path with
  | refl => exact .refl
  | snoc _ allowed taken ih => exact ih.snoc (imp _ _ allowed) taken

theorem Path.leads (path : system.Path admitted first last) : system.Leads first last :=
  path.weaken fun _ _ _ => trivial

theorem leads_of_step {event : Event} (taken : system.step first event = some last) :
    system.Leads first last := .snoc .refl trivial taken

theorem Path.preserves {holds : State → Prop} (path : system.Path admitted first last)
    (step : ∀ state event next, holds state → admitted state event →
      system.step state event = some next → holds next)
    (start : holds first) : holds last := by
  induction path with
  | refl => exact start
  | snoc _ allowed taken ih => exact step _ _ _ ih allowed taken

section Replay

variable (system) (admitted) [∀ state event, Decidable (admitted state event)]

/-- Replay a list of events; `none` as soon as one of them is not admitted or not enabled. -/
def replay : State → List Event → Option State
  | state, [] => some state
  | state, event :: rest =>
    if admitted state event then
      (system.step state event).bind fun next => replay next rest
    else none

variable {system} {admitted}

theorem path_of_replay {events : List Event}
    (run : system.replay admitted first events = some last) : system.Path admitted first last := by
  induction events generalizing first with
  | nil =>
    cases run
    exact .refl
  | cons event rest ih =>
    unfold replay at run
    split at run
    · rename_i allowed
      obtain ⟨next, taken, tail⟩ := Option.bind_eq_some_iff.mp run
      exact (Path.snoc .refl allowed taken).trans (ih tail)
    · cases run

theorem path_of_get {events : List Event} (run : (system.replay admitted first events).isSome) :
    system.Path admitted first ((system.replay admitted first events).get run) :=
  path_of_replay (Option.some_get run).symm

theorem replay_append (state : State) (front back : List Event) :
    system.replay admitted state (front ++ back) =
      (system.replay admitted state front).bind fun next => system.replay admitted next back := by
  induction front generalizing state with
  | nil => rfl
  | cons event rest ih =>
    by_cases allowed : admitted state event
    · cases taken : system.step state event with
      | none => simp [replay, allowed, taken]
      | some next => simp [replay, allowed, taken, ih]
    · simp [replay, allowed]

variable {View : Type w} {view : State → View} {before after : View}
  {front back events : List Event}

theorem reaches_of_replay (run : (system.replay admitted first events).map view = some after) :
    ∃ last, system.Path admitted first last ∧ view last = after := by
  obtain ⟨last, arrived, same⟩ := Option.map_eq_some_iff.mp run
  exact ⟨last, path_of_replay arrived, same⟩

/-- A run seen at a state on the way and at its end. -/
theorem passes_of_replay (halfway : (system.replay admitted first front).map view = some before)
    (whole : (system.replay admitted first (front ++ back)).map view = some after) :
    ∃ state last, system.Path admitted first state ∧ view state = before ∧
      system.Path admitted state last ∧ view last = after := by
  obtain ⟨state, arrived, same⟩ := Option.map_eq_some_iff.mp halfway
  rw [replay_append, arrived] at whole
  obtain ⟨last, path, seen⟩ := reaches_of_replay whole
  exact ⟨state, last, path_of_replay arrived, same, path, seen⟩

end Replay

section Throughout

variable (system) in
/-- A run that takes each of its steps in such a way that `holds` of the states around it. -/
def Throughout (holds : State → Event → State → Prop) : State → List Event → Prop
  | _, [] => True
  | state, event :: rest => ∃ next, system.step state event = some next ∧ holds state event next ∧
      Throughout holds next rest

variable {holds : State → Event → State → Prop} {sound : State → Prop} {events : List Event}

theorem throughout_cons {event : Event} {next : State}
    (taken : system.step state event = some next) :
    system.Throughout holds state (event :: events) ↔
      holds state event next ∧ system.Throughout holds next events := by
  constructor
  · rintro ⟨same, again, here, later⟩
    cases taken.symm.trans again
    exact ⟨here, later⟩
  · rintro ⟨here, later⟩
    exact ⟨next, taken, here, later⟩

/-- Two conditions on steps that an invariant makes equal, and that keep it, are met by the same
runs. -/
theorem throughout_congr {fit : State → Event → State → Prop} (start : sound state)
    (step : ∀ state event next, sound state → system.step state event = some next →
      (holds state event next ↔ fit state event next) ∧ (fit state event next → sound next)) :
    system.Throughout holds state events ↔ system.Throughout fit state events := by
  induction events generalizing state with
  | nil => exact Iff.rfl
  | cons event rest ih =>
    refine exists_congr fun next => and_congr_right fun taken => ?_
    obtain ⟨same, kept⟩ := step state event next start taken
    rw [same]
    exact and_congr_right fun fits => ih (kept fits)

/-- A condition on the events alone, in a run that is possible. -/
theorem throughout_events {fit : Event → Prop}
    (run : (system.replay (fun _ _ => True) state events).isSome) :
    system.Throughout (fun _ event _ => fit event) state events ↔ ∀ event ∈ events, fit event := by
  induction events generalizing state with
  | nil => exact iff_of_true trivial nofun
  | cons event rest ih =>
    rw [replay, if_pos trivial] at run
    cases taken : system.step state event with
    | none =>
      rw [taken] at run
      cases run
    | some next =>
      rw [taken] at run
      rw [throughout_cons taken, List.forall_mem_cons, ih run]

/-- Where an invariant makes what each step does depend on its event alone, a run does what it
should exactly when all of its events are fit. -/
theorem throughout_iff {fit : Event → Prop}
    (run : (system.replay (fun _ _ => True) state events).isSome) (start : sound state)
    (step : ∀ state event next, sound state → system.step state event = some next →
      sound next ∧ (holds state event next ↔ fit event)) :
    system.Throughout holds state events ↔ ∀ event ∈ events, fit event := by
  rw [← throughout_events run]
  refine throughout_congr start fun state event next here taken => ?_
  obtain ⟨kept, same⟩ := step state event next here taken
  exact ⟨same, fun _ => kept⟩

end Throughout

end TransitionSystem

end OpenScale.Library
