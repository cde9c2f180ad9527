import OpenScale.Library.Python

/-! The calls of a program into stores that it reaches over a network. Every call can fail, before
or after it took effect, or be the last thing that the program does. -/

namespace OpenScale.Library.Python

inductive Fate where
  | confirmed
  | raised (effective : Bool) (error : PyError)
  /-- The program is killed. -/
  | killed (effective : Bool)

/-- The stores, and the fates of the calls to come. Calls beyond them are confirmed. -/
structure Fated (Stores : Type) where
  stores : Stores
  fates : List Fate

variable {Stores Value Next : Type}

/-- A call that the store itself may refuse. -/
def call (effect : Stores → Except PyError (Value × Stores)) :
    Program (Fated Stores) PyError Value := fun world =>
  match effect world.stores with
  | .error error => (.raised error, ⟨world.stores, world.fates.tail⟩)
  | .ok (value, after) =>
    match world.fates.head?.getD .confirmed with
    | .confirmed => (.returned value, ⟨after, world.fates.tail⟩)
    | .raised effective error =>
      (.raised error, ⟨if effective then after else world.stores, world.fates.tail⟩)
    | .killed effective => (.running, ⟨if effective then after else world.stores, world.fates.tail⟩)

/-- A call that touches none of the stores. -/
def elsewhere (value : Value) : Program (Fated Stores) PyError Value :=
  call fun stores => .ok (value, stores)

variable {before : Stores → Prop} {after : Value → Stores → Prop}
  {task : Program (Fated Stores) PyError Value}

/-- A triple about the stores alone. -/
abbrev Does (before : Stores → Prop) (task : Program (Fated Stores) PyError Value)
    (after : Value → Stores → Prop) : Prop :=
  Program.Triple (fun world => before world.stores) task fun value world => after value world.stores

theorem Does.bind {next : Value → Program (Fated Stores) PyError Next}
    {last : Next → Stores → Prop}
    (first : Does before task after) (rest : ∀ value, Does (after value) (next value) last) :
    Does before (task >>= next) last :=
  Program.Triple.bind first rest

theorem Does.pure {value : Value} (holds : ∀ stores, before stores → after value stores) :
    Does before (Pure.pure value) after :=
  Program.Triple.pure fun world => holds world.stores

theorem Does.always {cleanup : Program (Fated Stores) PyError PUnit}
    {between : Value → Stores → Prop}
    (body : Does before task between)
    (clean : ∀ value, Does (between value) cleanup fun _ => after value) :
    Does before (task.always cleanup) after :=
  Program.Triple.always body clean

theorem Does.weaken {weaker : Stores → Prop} {stronger : Value → Stores → Prop}
    (does : Does weaker task stronger) (pre : ∀ stores, before stores → weaker stores)
    (post : ∀ value stores, stronger value stores → after value stores) : Does before task after :=
  Program.Triple.weaken does (fun world => pre world.stores) fun value world =>
    post value world.stores

/-- A fact that is not about the stores. -/
theorem Does.given {fact : Prop} (does : fact → Does before task after) :
    Does (fun stores => fact ∧ before stores) task after :=
  Program.Triple.given does

theorem Does.seen {View : Type} (view : Stores → View)
    (does : ∀ value, Does (fun stores => before stores ∧ view stores = value) task after) :
    Does before task after :=
  Program.Triple.seen (fun world => view world.stores) does

theorem Does.some_ {Choice : Type} {choices : Choice → Stores → Prop}
    (does : ∀ choice, Does (choices choice) task after) :
        Does (fun stores => ∃ choice, choices choice stores) task after := by
  intro state value final start run
  obtain ⟨choice, holds⟩ := start
  exact does choice state value final holds run

theorem call_does {effect : Stores → Except PyError (Value × Stores)}
    (holds : ∀ stores value next, before stores → effect stores = .ok (value, next) →
      after value next) : Does before (call effect) after := by
  intro world value final start run
  unfold call at run
  cases outcome : effect world.stores with
  | error error => simp [outcome] at run
  | ok effective =>
    obtain ⟨result, next⟩ := effective
    have confirmed := holds _ _ _ start outcome
    simp only [outcome] at run
    split at run
    · cases run
      exact confirmed
    · cases run
    · cases run

theorem change_does {start : Stores} {change : Stores → Stores} :
    Does (· = start) (call fun stores => .ok (PUnit.unit, change stores)) fun _ stores =>
        stores = change start := by
  refine call_does fun stores value next same run => ?_
  cases run
  rw [same]

theorem elsewhere_does {value : Value} :
    Does before (elsewhere value) fun result stores => result = value ∧ before stores := by
  refine call_does fun stores result next start run => ?_
  cases run
  exact ⟨rfl, start⟩

theorem fromExcept_does {outcome : Except PyError Value} :
    Does before (fromExcept outcome) fun value stores => outcome = .ok value ∧ before stores := by
  cases outcome with
  | ok value => exact Program.Triple.pure fun _ start => ⟨rfl, start⟩
  | error error => exact Program.Triple.raise

/-- What every effect keeps is kept, whatever becomes of the call. -/
theorem call_maintains {holds : Stores → Prop} {effect : Stores → Except PyError (Value × Stores)}
    (kept : ∀ stores value next, holds stores → effect stores = .ok (value, next) → holds next) :
    (call effect).Maintains fun world => holds world.stores := by
  intro world start
  unfold call
  cases outcome : effect world.stores with
  | error error => exact start
  | ok effective =>
    obtain ⟨value, next⟩ := effective
    have last := kept _ _ _ start outcome
    dsimp only
    split
    · exact last
    · split <;> assumption
    · split <;> assumption

theorem elsewhere_maintains {holds : Stores → Prop} {value : Value} :
    (elsewhere value).Maintains fun world : Fated Stores => holds world.stores := by
  refine call_maintains fun stores result next start run => ?_
  cases run
  exact start

end OpenScale.Library.Python
