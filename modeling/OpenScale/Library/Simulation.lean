import OpenScale.Library.Program
import OpenScale.Library.TransitionSystem

/-! Programs that run as a part of a transition system. A triple says that every run
of a program is matched by steps of the system, from the states that satisfy its
precondition; the rules follow the structure of the program. -/

namespace OpenScale.Library

universe u v w

variable {System : Type w} {Event : Type v} {State Error Value Next : Type u}

/-- What is said of a program that stopped. Nothing is said of one that was cut off. -/
def Stopped (returned : Value → System → Prop) (raised : System → Prop) :
    Outcome Error Value → System → Prop
  | .returned value => returned value
  | .raised _ => raised
  | .running => fun _ => True

/-- From where the system agrees with the program, and `pre` holds, its steps lead to
where it agrees with the program again, and to what is said of the program's end. -/
def Simulates (system : TransitionSystem System Event) (agree : System → State → Prop)
    (pre : System → Prop)
    (program : Program State Error Value) (returned : Value → System → Prop)
    (raised : System → Prop) :
        Prop :=
  ∀ s state, pre s → agree s state → ∃ t, system.Leads s t ∧ agree t (program state).2 ∧
    Stopped returned raised (program state).1 t

namespace Simulates

variable {system : TransitionSystem System Event} {agree : System → State → Prop}
  {pre before : System → Prop}
variable {program : Program State Error Value} {next : Value → Program State Error Next}
variable {value : Value} {error : Error}
variable {returned middle : Value → System → Prop} {final : Next → System → Prop}
    {raised failing : System → Prop}

theorem pure (holds : ∀ s, pre s → returned value s) :
    Simulates system agree pre (Pure.pure value : Program State Error Value) returned raised :=
  fun s _ start agrees => ⟨s, .refl, agrees, holds s start⟩

theorem raise (moves : ∀ s state, pre s → agree s state → ∃ t, system.Leads s t ∧
      agree t state ∧ raised t) :
    Simulates system agree pre (Program.raise error : Program State Error Value) returned raised :=
  moves

/-- Steps that the program does not see, before it begins. -/
theorem advance (moves : ∀ s state, before s → agree s state → ∃ t, system.Leads s t ∧
      agree t state ∧ pre t) (triple : Simulates system agree pre program returned raised) :
    Simulates system agree before program returned raised := by
  intro s state start agrees
  obtain ⟨t, path, agrees, start⟩ := moves s state start agrees
  obtain ⟨u, later, agrees, stopped⟩ := triple t state start agrees
  exact ⟨u, path.trans later, agrees, stopped⟩

theorem bind (first : Simulates system agree pre program middle raised)
    (rest : ∀ value, Simulates system agree (middle value) (next value) final raised) :
    Simulates system agree pre (program >>= next) final raised := by
  intro s state start agrees
  obtain ⟨t, path, agrees, stopped⟩ := first s state start agrees
  match run : program state with
  | (.returned value, after) =>
    rw [run] at agrees stopped
    rw [Program.bind_returned run]
    obtain ⟨u, later, agrees, stopped⟩ := rest value t after stopped agrees
    exact ⟨u, path.trans later, agrees, stopped⟩
  | (.raised error, after) =>
    rw [run] at agrees stopped
    rw [Program.bind_raised run]
    exact ⟨t, path, agrees, stopped⟩
  | (.running, after) =>
    rw [run] at agrees
    rw [Program.bind_running run]
    exact ⟨t, path, agrees, trivial⟩

/-- A loop whose rounds leave what holds as it is. -/
theorem forEach {Item : Type u} {items : List Item} {visit : Item → Program State Error PUnit}
    (each : ∀ item, Simulates system agree pre (visit item) (fun _ => pre) raised) :
    Simulates system agree pre (Program.forEach items visit) (fun _ => pre) raised := by
  induction items with
  | nil => exact .pure fun _ => id
  | cons item rest ih => exact .bind (each item) fun _ => ih

/-- `finally`: the cleanup starts from where the body returned, or from where it raised. -/
theorem always {cleanup : Program State Error PUnit}
    (body : Simulates system agree pre program middle failing)
    (cleans : ∀ value,
      Simulates system agree (middle value) cleanup (fun _ => returned value) raised)
    (fails : Simulates system agree failing cleanup (fun _ => raised) raised) :
    Simulates system agree pre (program.always cleanup) returned raised := by
  intro s state start agrees
  obtain ⟨t, path, agrees, stopped⟩ := body s state start agrees
  unfold Program.always
  match run : program state with
  | (.running, after) =>
    rw [run] at agrees
    exact ⟨t, path, agrees, trivial⟩
  | (.returned value, after) =>
    rw [run] at agrees stopped
    obtain ⟨u, later, agrees, cleaned⟩ := cleans value t after stopped agrees
    refine ⟨u, path.trans later, ?_⟩
    match ended : cleanup after with
    | (.returned _, last) => simpa [ended, Stopped] using And.intro agrees cleaned
    | (.raised error, last) => simpa [ended, Stopped] using And.intro agrees cleaned
    | (.running, last) => simpa [ended, Stopped] using agrees
  | (.raised error, after) =>
    rw [run] at agrees stopped
    obtain ⟨u, later, agrees, cleaned⟩ := fails t after stopped agrees
    refine ⟨u, path.trans later, ?_⟩
    match ended : cleanup after with
    | (.returned _, last) => simpa [ended, Stopped] using And.intro agrees cleaned
    | (.raised error, last) => simpa [ended, Stopped] using And.intro agrees cleaned
    | (.running, last) => simpa [ended, Stopped] using agrees

end Simulates

end OpenScale.Library
