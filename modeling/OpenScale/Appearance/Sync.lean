import OpenScale.Appearance.Wire

/-! `useAppearanceSync`: two effects that share two flags, and a timer between them and the row of
the control-plane. -/

namespace OpenScale.Appearance

open OpenScale.Library

inductive Setter where
  | setDark (checked : Bool)
  | setVisualMode (mode : List Char)
  | setAccent (id : List Char)
  | setChartStyle (style : List Char)
  | setShadowScale (value : Rat)
  | setUiScale (value : Rat)

def Setter.apply (store : AppearanceSnapshot) : Setter → AppearanceSnapshot
  | setDark checked =>
    { store with themeOverride := utf16 (if checked then "dark" else "light").toList }
  | setVisualMode mode => { store with visualMode := utf16 mode }
  | setAccent id => { store with accentId := utf16 id }
  | setChartStyle style => { store with chartStyle := utf16 style }
  | setShadowScale value => { store with shadowScale := value }
  | setUiScale value => { store with uiScale := value }

/-- What the user does at once, before React renders again. -/
def applyAll (store : AppearanceSnapshot) (setters : List Setter) : AppearanceSnapshot :=
  setters.foldl Setter.apply store

/-- `hydrate`: the fields that the answer has replace those of the store. -/
def hydrateField (store : AppearanceSnapshot) (field : String × Value) : AppearanceSnapshot :=
  match field.2 with
  | .text string =>
    if field.1 = "themeOverride" then { store with themeOverride := string }
    else if field.1 = "visualMode" then { store with visualMode := string }
    else if field.1 = "accentId" then { store with accentId := string }
    else if field.1 = "chartStyle" then { store with chartStyle := string }
    else store
  | .number value =>
    if field.1 = "shadowScale" then { store with shadowScale := value }
    else if field.1 = "uiScale" then { store with uiScale := value }
    else store

def hydrate (store : AppearanceSnapshot) (stored : Body) : AppearanceSnapshot :=
  stored.foldl hydrateField store

/-- A field of the store against a field of the answer, which may be undefined. -/
def differs (store : AppearanceSnapshot) (stored : Body) : Bool :=
  store.toBody.any fun field => stored.lookup field.1 != some field.2

def debounce : Nat := 500

structure State where
  store : AppearanceSnapshot
  /-- The dependencies at the last run of the save effect. -/
  rendered : AppearanceSnapshot
  hydrated : Bool
  skipNextSave : Bool
  /-- What will be sent, and in how many milliseconds. -/
  timeout : Option (Nat × AppearanceSnapshot)
  row : AppearanceSettings
  /-- Milliseconds since the last change. -/
  idle : Nat

/-- The save effect. The cleanup of its last run comes first. -/
def saveEffect (s : State) : State :=
  if !s.hydrated then { s with rendered := s.store, timeout := none }
  else if s.skipNextSave then { s with rendered := s.store, timeout := none, skipNextSave := false }
  else { s with rendered := s.store, timeout := some (debounce, s.store) }

/-- React runs the effect again when a dependency has changed. -/
def rerender (s : State) : State := if s.store = s.rendered then s else saveEffect s

/-- The hydration effect with the answer of the server, and the render that follows it. -/
def hydrationEffect (stored : Body) (s : State) : State :=
  rerender { s with
    hydrated := true
    skipNextSave := s.skipNextSave || differs s.store stored
    store := hydrate s.store stored }

/-- Before the answer: both effects have run at mount, and found nothing to do. -/
def mounted (store : AppearanceSnapshot) (row : AppearanceSettings) : State where
  store := store
  rendered := store
  hydrated := false
  skipNextSave := false
  timeout := none
  row := row
  idle := 0

def load (store : AppearanceSnapshot) (row : AppearanceSettings) : State :=
  hydrationEffect row.toBody (mounted store row)

inductive Event where
  | change (setters : List Setter)
  | wait (milliseconds : Nat)

/-- A PUT that succeeds leaves in the row what the control-plane makes of the snapshot. -/
def step (s : State) : Event → State
  | .change setters =>
    let store := applyAll s.store setters
    rerender { s with store := store, idle := if store = s.store then s.idle else 0 }
  | .wait milliseconds =>
    match s.timeout with
    | none => { s with idle := s.idle + milliseconds }
    | some (left, snapshot) =>
      if left ≤ milliseconds then
        { s with timeout := none, row := snapshot.settings, idle := s.idle + milliseconds }
      else { s with timeout := some (left - milliseconds, snapshot), idle := s.idle + milliseconds }

def run (s : State) (events : List Event) : State := events.foldl step s

def State.Quiet (s : State) : Prop := debounce ≤ s.idle

/-- Each field that the server persists has this value in the store. -/
def Agrees (row : AppearanceSettings) (store : AppearanceSnapshot) : Prop :=
  ∀ field ∈ row.toBody, store.toBody.lookup field.1 = some field.2

def State.InSync (s : State) : Prop := Agrees s.row s.store

end OpenScale.Appearance
