import OpenScale.Library.Fated

/-! Triples with a third part: what holds wherever a run stops, because it returned, raised or was
cut off. A handler starts from the third part, and so does whatever runs after a crash. -/

namespace OpenScale.Library

universe u v

namespace Program

variable {State Error Value Next : Type u}

/-- A run from a state where `before` holds leaves `throughout`, and `after` when it returns. -/
structure Withstands (before : State → Prop) (program : Program State Error Value)
    (after : Value → State → Prop) (throughout : State → Prop) : Prop where
  returns : Triple before program after
  stops : ∀ state, before state → throughout (program state).2

namespace Withstands

variable {program : Program State Error Value} {next : Value → Program State Error Next}
variable {before throughout : State → Prop} {between after : Value → State → Prop}
  {last : Next → State → Prop}

theorem pure {value : Value} (holds : ∀ state, before state → after value state)
    (safe : ∀ state, before state → throughout state) :
    Withstands before (Pure.pure value : Program State Error Value) after throughout where
  returns := .pure holds
  stops := safe

theorem raise {error : Error} (safe : ∀ state, before state → throughout state) :
    Withstands before (Program.raise error : Program State Error Value) after throughout where
  returns := .raise
  stops := safe

theorem bind (first : Withstands before program between throughout)
    (rest : ∀ value, Withstands (between value) (next value) last throughout) :
    Withstands before (program >>= next) last throughout where
  returns := .bind first.returns fun value => (rest value).returns
  stops := by
    intro state start
    have middle := first.stops state start
    match run : program state with
    | (.returned value, reached) =>
      rw [bind_returned run]
      exact (rest value).stops reached (first.returns state value reached start run)
    | (.raised error, reached) =>
      rw [bind_raised run]
      rwa [run] at middle
    | (.running, reached) =>
      rw [bind_running run]
      rwa [run] at middle

theorem weaken {weaker stricter : State → Prop} {stronger : Value → State → Prop}
    (holds : Withstands weaker program stronger stricter)
    (pre : ∀ state, before state → weaker state)
    (post : ∀ value state, stronger value state → after value state)
    (safe : ∀ state, stricter state → throughout state) :
    Withstands before program after throughout where
  returns := holds.returns.weaken pre post
  stops state start := safe _ (holds.stops state (pre state start))

/-- Where the handler takes over only the third part is known. -/
theorem attempt {handler : Error → Program State Error Value}
    (body : Withstands before program after throughout)
    (handled : ∀ error, Withstands throughout (handler error) after throughout) :
    Withstands before (program.attempt handler) after throughout := by
  have stopped (state : State) (start : before state) := body.stops state start
  constructor
  · intro state value final start run
    have middle := stopped state start
    unfold Program.attempt at run
    match head : program state with
    | (.raised error, reached) =>
      simp only [head] at run middle
      exact (handled error).returns reached value final middle run
    | (.returned result, reached) =>
      simp only [head] at run
      exact body.returns state value final start (head.trans run)
    | (.running, reached) =>
      simp only [head] at run
      cases run
  · intro state start
    have middle := stopped state start
    unfold Program.attempt
    match head : program state with
    | (.raised error, reached) =>
      simp only [head] at middle ⊢
      exact (handled error).stops reached middle
    | (.returned result, reached) | (.running, reached) =>
      simpa only [head] using middle

/-- A cleanup that keeps the third part, and on success what the body has achieved. -/
theorem always {cleanup : Program State Error PUnit}
    (body : Withstands before program between throughout)
    (clean : ∀ value, Triple (between value) cleanup fun _ => after value)
    (kept : cleanup.Maintains throughout) :
    Withstands before (program.always cleanup) after throughout where
  returns := .always body.returns clean
  stops := by
    intro state start
    have middle := body.stops state start
    unfold Program.always
    match run : program state with
    | (.running, reached) => rwa [run] at middle
    | (.returned value, reached) | (.raised error, reached) =>
      rw [run] at middle
      have final := kept reached middle
      match cleaned : cleanup reached with
      | (.returned _, done) | (.raised _, done) | (.running, done) => simpa [cleaned] using final

theorem outer {Local : Type u} (holds : Withstands before program after throughout) :
    Withstands (fun state : Local × State => before state.2) program.outer
      (fun value state => after value state.2)
      fun state => throughout state.2 where
  returns := .outer holds.returns
  stops state start := holds.stops state.2 start

/-- A loop whose rounds each start from what the rounds before have left: `visited` is what they
were about. -/
theorem forEach {Item : Type v} {items : List Item} {visit : Item → Program State Error PUnit}
    {invariant : List Item → State → Prop}
    (step : ∀ visited item later, items = visited ++ item :: later →
      Withstands (invariant visited) (visit item)
        (fun _ => invariant (visited ++ [item])) throughout)
    (safe : ∀ visited state, invariant visited state → throughout state) :
    Withstands (invariant []) (Program.forEach items visit)
      (fun _ => invariant items) throughout := by
  have loop : ∀ visited rest, items = visited ++ rest →
      Withstands (invariant visited) (Program.forEach rest visit) (fun _ =>
        invariant items) throughout := by
    intro visited rest split
    induction rest generalizing visited with
    | nil =>
      rw [List.append_nil] at split
      subst split
      exact .pure (fun _ => id) (safe _)
    | cons item rest ih =>
      exact .bind (step visited item rest split) fun _ =>
        ih (visited ++ [item]) (by simpa using split)
  exact loop [] items rfl

/-- Where nothing is gained on the way, a program that keeps an invariant is all that there is to
it. -/
theorem of_maintains (maintains : program.Maintains throughout) :
    Withstands throughout program (fun _ => throughout) throughout where
  returns := maintains.triple
  stops := maintains

theorem maintains (holds : Withstands throughout program after throughout) :
    program.Maintains throughout :=
  holds.stops

/-- The second part of a program that keeps an invariant may rest on what the first has gained. -/
theorem maintains_bind (first : Withstands throughout program between throughout)
    (rest : ∀ value, Withstands (between value) (next value) (fun _ => throughout) throughout) :
    (program >>= next).Maintains throughout :=
  (bind first rest).maintains

/-- A fact that is not about the state. -/
theorem given {fact : Prop} (holds : fact → Withstands before program after throughout) :
    Withstands (fun state => fact ∧ before state) program after throughout where
  returns := .given fun known => (holds known).returns
  stops state start := (holds start.1).stops state start.2

end Withstands

end Program

namespace Python

variable {Stores Value Next : Type}

/-- A three-part triple about the stores alone. -/
abbrev Endures (before : Stores → Prop) (task : Program (Fated Stores) PyError Value)
    (after : Value → Stores → Prop) (throughout : Stores → Prop) : Prop :=
  Program.Withstands (fun world => before world.stores) task
    (fun value world => after value world.stores)
    fun world => throughout world.stores

variable {before throughout : Stores → Prop} {after : Value → Stores → Prop}

/-- A call that fails leaves either what it found or what it made. -/
theorem call_endures {effect : Stores → Except PyError (Value × Stores)}
    (safe : ∀ stores, before stores → throughout stores)
    (holds : ∀ stores value next, before stores → effect stores = .ok (value, next) →
      after value next ∧ throughout next) : Endures before (call effect) after throughout where
  returns := call_does fun stores value next start run => (holds stores value next start run).1
  stops := by
    intro world start
    unfold call
    cases outcome : effect world.stores with
    | error error => exact safe _ start
    | ok effective =>
      obtain ⟨value, next⟩ := effective
      have made := (holds _ _ _ start outcome).2
      have found := safe _ start
      dsimp only
      split
      · exact made
      · split <;> assumption
      · split <;> assumption

theorem elsewhere_endures {value : Value} (safe : ∀ stores, before stores → throughout stores) :
    Endures before (elsewhere value) (fun result stores => result = value ∧
      before stores) throughout := by
  refine call_endures safe fun stores result next start run => ?_
  cases run
  exact ⟨⟨rfl, start⟩, safe _ start⟩

theorem fromExcept_endures {outcome : Except PyError Value} (safe : ∀ stores, before stores →
      throughout stores) :
    Endures before (fromExcept outcome) (fun value stores => outcome = .ok value ∧
      before stores) throughout where
  returns := fromExcept_does
  stops := by
    intro world start
    cases outcome with
    | ok value => exact safe _ start
    | error error => exact safe _ start

/-- It is enough to know every start on its own. -/
theorem endures_from {task : Program (Fated Stores) PyError Value}
    (each : ∀ start, before start → Endures (· = start) task after throughout) :
    Endures before task after throughout where
  returns world value final start run := (each world.stores start).returns world value final rfl run
  stops world start := (each world.stores start).stops world rfl

theorem endures_rescueOnly {names : List String} {task : Program (Fated Stores) PyError Value}
    {handler : PyError → Program (Fated Stores) PyError Value}
    (body : Endures before task after throughout)
    (handled : ∀ error, Endures throughout (handler error) after throughout) :
    Endures before (rescueOnly names task handler) after throughout := by
  refine .attempt body fun error => ?_
  split
  · exact handled error
  · exact .raise fun _ => id

/-- A cleanup that touches none of the stores, such as closing a file. -/
theorem endures_closing {task : Program (Fated Stores) PyError Value}
    (body : Endures before task after throughout) :
    Endures before (task.always (elsewhere ⟨⟩)) after throughout :=
  .always body (fun _ => elsewhere_does.weaken (fun _ => id)
    fun _ _ kept => kept.2) elsewhere_maintains

/-- The rule of loops for an invariant of the stores. -/
theorem endures_forEach {Item : Type} {items : List Item}
    {visit : Item → Program (Fated Stores) PyError PUnit} (invariant : List Item → Stores → Prop)
    (step : ∀ visited item later, items = visited ++ item :: later →
      Endures (invariant visited) (visit item) (fun _ => invariant (visited ++ [item])) throughout)
    (safe : ∀ visited stores, invariant visited stores → throughout stores) :
    Endures (invariant []) (Program.forEach items visit) (fun _ => invariant items) throughout :=
  Program.Withstands.forEach step fun visited world => safe visited world.stores

end Python

end OpenScale.Library
