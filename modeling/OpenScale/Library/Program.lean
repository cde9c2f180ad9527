import Mathlib.Data.List.Basic

/-! Programs with a state that survives exceptions, and runs that may be cut
off before they end. The rules say which runs return, in what state, and what a
program leaves untouched, and follow the structure of the program. -/

namespace OpenScale.Library

universe u v

/-- How a run stops. `running` is a run that was still going when its schedule ended. -/
inductive Outcome (Error Value : Type u) where
  | returned (value : Value)
  | raised (error : Error)
  | running

inductive Delivery where
  | confirmed
  /-- It takes effect, but the caller gets an error. -/
  | lost
  | refused
  deriving DecidableEq

def Program (State Error Value : Type u) :=
  State → Outcome Error Value × State

namespace Program

variable {State Error Value Next : Type u}

def pure (value : Value) : Program State Error Value := fun state => (.returned value, state)

def raise (error : Error) : Program State Error Value := fun state => (.raised error, state)

def bind (program : Program State Error Value) (next : Value → Program State Error Next) :
    Program State Error Next := fun state =>
  match program state with
  | (.returned value, after) => next value after
  | (.raised error, after) => (.raised error, after)
  | (.running, after) => (.running, after)

/-- `try` with one handler for every exception. The state is not rolled back. -/
def attempt (program : Program State Error Value) (handler : Error → Program State Error Value) :
    Program State Error Value := fun state =>
  match program state with
  | (.raised error, after) => handler error after
  | other => other

/-- `finally`: the cleanup runs on every exit, and an exception of its own wins. -/
def always (program : Program State Error Value) (cleanup : Program State Error PUnit) :
    Program State Error Value := fun state =>
  match program state with
  | (.running, after) => (.running, after)
  | (outcome, after) =>
    match cleanup after with
    | (.returned _, final) => (outcome, final)
    | (.raised error, final) => (.raised error, final)
    | (.running, final) => (.running, final)

instance : Monad (Program State Error) where
  pure := pure
  bind := bind

def get : Program State Error State := fun state => (.returned state, state)

def modify (change : State → State) : Program State Error PUnit := fun state =>
  (.returned ⟨⟩, change state)

/-- A run that goes on for ever. -/
def stall : Program State Error Value := fun state => (.running, state)

def forEach {Item : Type v} (items : List Item) (visit : Item → Program State Error PUnit) :
    Program State Error PUnit :=
  match items with
  | [] => pure ⟨⟩
  | item :: rest => bind (visit item) fun _ => forEach rest visit

/-- A call with local variables, which are gone when it is over. -/
def locally {Local : Type u} (initial : Local) (program : Program (Local × State) Error Value) :
    Program State Error Value := fun state =>
  let (outcome, (_, after)) := program (initial, state)
  (outcome, after)

def outer {Local : Type u} (program : Program State Error Value) :
    Program (Local × State) Error Value := fun (locals, state) =>
  let (outcome, after) := program state
  (outcome, (locals, after))

def Returns (program : Program State Error Value) (state : State) : Prop :=
  ∃ value after, program state = (.returned value, after)

def Ends (program : Program State Error Value) : Prop :=
  ∀ state, (program state).1 ≠ .running

def Yields (program : Program State Error Value) (good : Value → Prop) : Prop :=
  ∀ state value after, program state = (.returned value, after) → good value

/-- A run that starts where `before` holds and returns ends where `after` does. -/
def Triple (before : State → Prop) (program : Program State Error Value)
    (after : Value → State → Prop) : Prop :=
  ∀ state value final, before state → program state = (.returned value, final) → after value final

/-- The program leaves `view` of the state as it was, however it stops. -/
def Keeps {View : Type v} (view : State → View) (program : Program State Error Value) : Prop :=
  ∀ state, view (program state).2 = view state

variable {program : Program State Error Value} {next : Value → Program State Error Next}
variable {handler : Error → Program State Error Value} {state after : State}
variable {value : Value} {error : Error}

theorem bind_returned (run : program state = (.returned value, after)) :
    (program >>= next) state = next value after := by
  change bind program next state = _
  simp [bind, run]

theorem bind_raised (run : program state = (.raised error, after)) :
    (program >>= next) state = (.raised error, after) := by
  change bind program next state = _
  simp [bind, run]

theorem bind_running (run : program state = (.running, after)) :
    (program >>= next) state = (.running, after) := by
  change bind program next state = _
  simp [bind, run]

theorem outer_pure_bind {Local : Type u} {next : Value → Program (Local × State) Error Next} :
    ((Pure.pure value : Program State Error Value).outer >>= next) = next value := rfl

theorem returns_bind : (program >>= next).Returns state ↔
    ∃ value after, program state = (.returned value, after) ∧ (next value).Returns after := by
  constructor
  · intro returns
    obtain ⟨result, final, run⟩ := returns
    match first : program state with
    | (.returned value, after) =>
      rw [bind_returned first] at run
      exact ⟨value, after, rfl, result, final, run⟩
    | (.raised error, after) =>
      rw [bind_raised first] at run
      cases run
    | (.running, after) =>
      rw [bind_running first] at run
      cases run
  · intro returns
    obtain ⟨value, after, first, result, final, run⟩ := returns
    exact ⟨result, final, by rw [bind_returned first, run]⟩

theorem returns_pure : (Pure.pure value : Program State Error Value).Returns state :=
  ⟨value, state, rfl⟩

theorem returns_locally {Local : Type u} {initial : Local}
    {body : Program (Local × State) Error Value} :
    (body.locally initial).Returns state ↔ body.Returns (initial, state) := by
  constructor
  · intro returns
    obtain ⟨value, after, run⟩ := returns
    match start : body (initial, state) with
    | (outcome, (locals, final)) =>
      simp only [locally, start, Prod.mk.injEq] at run
      exact ⟨value, (locals, final), start.trans (by rw [run.1])⟩
  · intro returns
    obtain ⟨value, after, run⟩ := returns
    exact ⟨value, after.2, by simp [locally, run]⟩

namespace Triple

variable {before weaker : State → Prop}
variable {between after stronger : Value → State → Prop} {last : Next → State → Prop}

theorem pure {value : Value} (holds : ∀ state, before state → after value state) :
    Triple before (Pure.pure value : Program State Error Value) after := by
  intro state result final start run
  cases run
  exact holds state start

theorem raise {error : Error} :
    Triple before (Program.raise error : Program State Error Value) after := by
  intro state result final start run
  cases run

theorem bind (first : Triple before program between)
    (rest : ∀ value, Triple (between value) (next value) last) :
    Triple before (program >>= next) last := by
  intro state result final start run
  match head : program state with
  | (.returned value, middle) =>
    rw [bind_returned head] at run
    exact rest value middle result final (first state value middle start head) run
  | (.raised error, middle) =>
    rw [bind_raised head] at run
    cases run
  | (.running, middle) =>
    rw [bind_running head] at run
    cases run

/-- A fact that is not about the state. -/
theorem given {fact : Prop} (triple : fact → Triple before program after) :
    Triple (fun state => fact ∧ before state) program after :=
  fun state value final start run => triple start.1 state value final start.2 run

/-- A view of the state, in the state that the program starts from. -/
theorem seen {View : Type v} (view : State → View)
    (triple : ∀ value, Triple (fun state => before state ∧ view state = value) program after) :
    Triple before program after :=
  fun state value final start run => triple (view state) state value final ⟨start, rfl⟩ run

theorem weaken (triple : Triple weaker program stronger)
    (pre : ∀ state, before state → weaker state)
    (post : ∀ value state, stronger value state → after value state) :
    Triple before program after := by
  intro state value final start run
  exact post value final (triple state value final (pre state start) run)

/-- Where a handler takes over nothing is known of the state. -/
theorem attempt {handler : Error → Program State Error Value} (body : Triple before program after)
    (handled : ∀ error, Triple (fun _ => True) (handler error) after) :
    Triple before (program.attempt handler) after := by
  intro state value final start run
  unfold Program.attempt at run
  match head : program state with
  | (.returned result, middle) =>
    simp only [head] at run
    exact body state value final start (head.trans run)
  | (.raised error, middle) =>
    simp only [head] at run
    exact handled error middle value final trivial run
  | (.running, middle) =>
    simp only [head] at run
    cases run

theorem always {cleanup : Program State Error PUnit} (body : Triple before program between)
    (clean : ∀ value, Triple (between value) cleanup fun _ => after value) :
    Triple before (program.always cleanup) after := by
  intro state value final start run
  unfold Program.always at run
  match head : program state with
  | (.running, middle) =>
    simp only [head] at run
    cases run
  | (.raised error, middle) =>
    simp only [head] at run
    match cleaned : cleanup middle with
    | (.returned _, _) | (.raised _, _) | (.running, _) =>
      simp only [cleaned] at run
      cases run
  | (.returned result, middle) =>
    simp only [head] at run
    match cleaned : cleanup middle with
    | (.returned done, last) =>
      simp only [cleaned] at run
      cases run
      exact clean value middle done final (body state value middle start head) cleaned
    | (.raised _, _) | (.running, _) =>
      simp only [cleaned] at run
      cases run

theorem locally {Local : Type u} {initial : Local} {body : Program (Local × State) Error Value}
    (inside : Triple (fun state => before state.2) body fun value state => after value state.2) :
    Triple before (body.locally initial) after := by
  intro state value final start run
  match head : body (initial, state) with
  | (outcome, (locals, last)) =>
    simp only [Program.locally, head, Prod.mk.injEq] at run
    obtain ⟨rfl, rfl⟩ := run
    exact inside _ _ _ start head

theorem locally_initial {Local : Type u} {initial : Local}
    {body : Program (Local × State) Error Value}
    (inside : Triple (fun state => state.1 = initial ∧ before state.2) body
      fun value state => after value state.2) : Triple before (body.locally initial) after := by
  intro state value final start run
  match head : body (initial, state) with
  | (outcome, (locals, last)) =>
    simp only [Program.locally, head, Prod.mk.injEq] at run
    obtain ⟨rfl, rfl⟩ := run
    exact inside _ _ _ ⟨rfl, start⟩ head

theorem outer {Local : Type u} (triple : Triple before program after) :
    Triple (fun state : Local × State => before state.2) program.outer fun value state =>
        after value state.2 := by
  intro state value final start run
  match head : program state.2 with
  | (outcome, last) =>
    simp only [Program.outer, head, Prod.mk.injEq] at run
    obtain ⟨rfl, rfl⟩ := run
    exact triple _ _ _ start head

/-- A loop keeps what is said of the items that it has visited. -/
theorem forEach {Item : Type v} {items : List Item} {visit : Item → Program State Error PUnit}
    {invariant : List Item → State → Prop}
    (step : ∀ visited item, Triple (invariant visited) (visit item)
      fun _ => invariant (visited ++ [item])) :
    Triple (invariant []) (Program.forEach items visit) fun _ => invariant items := by
  have loop : ∀ visited, Triple (invariant visited) (Program.forEach items visit) fun _ =>
      invariant (visited ++ items) := by
    induction items with
    | nil =>
      intro visited
      exact .pure fun state holds => by simpa using holds
    | cons item items ih =>
      intro visited
      refine .bind (step visited item) fun _ => (ih (visited ++ [item])).weaken (fun _ => id) ?_
      intro _ state holds
      simpa using holds
  simpa using loop []

end Triple

section Yields

variable {good : Value → Prop} {fine : Next → Prop}

theorem yields_iff : program.Yields good ↔ Triple (fun _ => True) program fun value _ =>
  good value :=
  ⟨fun yields state value after _ run => yields state value after run,
    fun triple state value after run => triple state value after trivial run⟩

theorem Yields.pure (holds : good value) :
    Yields (Pure.pure value : Program State Error Value) good :=
  yields_iff.mpr (.pure fun _ _ => holds)

theorem Yields.raise : Yields (raise error : Program State Error Value) good :=
  yields_iff.mpr .raise

theorem Yields.bind (first : program.Yields good) (rest : ∀ value, good value →
      (next value).Yields fine) : (program >>= next).Yields fine := by
  refine yields_iff.mpr (.bind (yields_iff.mp first) fun value => ?_)
  intro state result final holds run
  exact rest value holds state result final run

/-- Nothing has to be known of the first part. -/
theorem Yields.last (rest : ∀ value, (next value).Yields fine) : (program >>= next).Yields fine :=
  .bind (fun _ _ _ _ => trivial) fun value _ => rest value

theorem Yields.attempt (body : program.Yields good)
    (handled : ∀ error, (handler error).Yields good) : (program.attempt handler).Yields good :=
  yields_iff.mpr (.attempt (yields_iff.mp body) fun error => yields_iff.mp (handled error))

theorem Yields.locally {Local : Type u} {initial : Local}
    {body : Program (Local × State) Error Value} (inside : body.Yields good) :
    (body.locally initial).Yields good :=
  yields_iff.mpr (.locally (yields_iff.mp inside))

end Yields

section Ends

theorem Ends.pure : Ends (Pure.pure value : Program State Error Value) := by
  intro state still
  cases still

theorem Ends.bind (first : program.Ends) (rest : ∀ value, (next value).Ends) :
    (program >>= next).Ends := by
  intro state
  match run : program state with
  | (.returned value, after) =>
    rw [bind_returned run]
    exact rest value after
  | (.raised error, after) =>
    rw [bind_raised run]
    intro still
    cases still
  | (.running, after) => exact absurd (congrArg Prod.fst run) (first state)

end Ends

section Keeps

variable {View : Type v} {view : State → View}

/-- A cleanup that keeps the view leaves there what the body left. -/
theorem Keeps.always {cleanup : Program State Error PUnit} (clean : cleanup.Keeps view)
    (state : State) : view ((program.always cleanup) state).2 = view (program state).2 := by
  unfold Program.always
  match run : program state with
  | (.running, after) => rfl
  | (.returned value, after) =>
    have kept := clean after
    match cleaned : cleanup after with
    | (.returned _, final) => simpa [cleaned] using kept
    | (.raised error, final) => simpa [cleaned] using kept
    | (.running, final) => simpa [cleaned] using kept
  | (.raised error, after) =>
    have kept := clean after
    match cleaned : cleanup after with
    | (.returned _, final) => simpa [cleaned] using kept
    | (.raised error, final) => simpa [cleaned] using kept
    | (.running, final) => simpa [cleaned] using kept

end Keeps

section Maintains

/-- The program leaves a state where `holds` in such a state, however it stops. -/
def Maintains (holds : State → Prop) (program : Program State Error Value) : Prop :=
  ∀ state, holds state → holds (program state).2

variable {holds : State → Prop}

theorem Maintains.pure : Maintains holds (Pure.pure value : Program State Error Value) :=
  fun _ start => start

theorem Maintains.raise : Maintains holds (Program.raise error : Program State Error Value) :=
  fun _ start => start

/-- The second part knows what the first has returned. -/
theorem Maintains.bind_yields {good : Value → Prop} (first : program.Maintains holds)
    (yields : program.Yields good)
    (rest : ∀ value, good value → (next value).Maintains holds) :
    (program >>= next).Maintains holds := by
  intro state start
  have middle := first state start
  match run : program state with
  | (.returned value, after) =>
    rw [bind_returned run]
    rw [run] at middle
    exact rest value (yields state value after run) after middle
  | (.raised error, after) =>
    rw [bind_raised run]
    rwa [run] at middle
  | (.running, after) =>
    rw [bind_running run]
    rwa [run] at middle

theorem Maintains.bind (first : program.Maintains holds)
    (rest : ∀ value, (next value).Maintains holds) : (program >>= next).Maintains holds :=
  .bind_yields first (fun _ _ _ _ => trivial) fun value _ => rest value

theorem Maintains.attempt (body : program.Maintains holds)
    (handled : ∀ error, (handler error).Maintains holds) :
    (program.attempt handler).Maintains holds := by
  intro state start
  have middle := body state start
  unfold Program.attempt
  match run : program state with
  | (.raised error, after) =>
    rw [run] at middle
    exact handled error after middle
  | (.returned value, after) => rwa [run] at middle
  | (.running, after) => rwa [run] at middle

theorem Maintains.always {cleanup : Program State Error PUnit} (body : program.Maintains holds)
    (clean : cleanup.Maintains holds) : (program.always cleanup).Maintains holds := by
  intro state start
  have middle := body state start
  unfold Program.always
  match run : program state with
  | (.running, after) => rwa [run] at middle
  | (.returned value, after) | (.raised error, after) =>
    rw [run] at middle
    have last := clean after middle
    match cleaned : cleanup after with
    | (.returned _, final) | (.raised _, final) | (.running, final) => simpa [cleaned] using last

theorem Maintains.locally {Local : Type u} {initial : Local}
    {body : Program (Local × State) Error Value}
    (inside : body.Maintains fun state => holds state.2) : (body.locally initial).Maintains holds :=
  fun state start => inside (initial, state) start

theorem Maintains.outer {Local : Type u} (maintains : program.Maintains holds) :
    (program.outer : Program (Local × State) Error Value).Maintains fun state => holds state.2 :=
  fun state start => maintains state.2 start

theorem Maintains.forEach {Item : Type v} {items : List Item}
    {visit : Item → Program State Error PUnit}
    (each : ∀ item ∈ items, (visit item).Maintains holds) :
    (Program.forEach items visit).Maintains holds := by
  induction items with
  | nil => exact .pure
  | cons item items ih =>
    obtain ⟨first, rest⟩ := List.forall_mem_cons.mp each
    exact .bind first fun _ => ih rest

theorem Maintains.triple (maintains : program.Maintains holds) :
    Triple holds program fun _ => holds := by
  intro state value final start run
  have last := maintains state start
  rwa [run] at last

/-- What the body maintains is known to the handler. -/
theorem Triple.attempt_maintains {stop : Value → State → Prop} (maintains : program.Maintains holds)
    (body : Triple holds program stop) (handled : ∀ error, Triple holds (handler error) stop) :
    Triple holds (program.attempt handler) stop := by
  intro state value final start run
  have middle := maintains state start
  unfold Program.attempt at run
  match first : program state with
  | (.raised error, after) =>
    simp only [first] at run middle
    exact handled error after value final middle run
  | (.returned result, after) =>
    simp only [first] at run
    exact body state value final start (first.trans run)
  | (.running, after) =>
    simp only [first] at run
    cases run

end Maintains

end Program

end OpenScale.Library
