import OpenScale.Library.Crash
import OpenScale.Worker.Fated

/-! What a job makes of the stores when it reports success, and what they are like wherever it
stops. -/

namespace OpenScale.Worker

open OpenScale.Library OpenScale.Library.Python

variable {Stores Locals Value : Type} {initial : Locals} {partialRows : Locals → Option Int}
variable {before after throughout : Stores → Prop} {between : Value → Stores → Prop}
variable {onLogLine : OnLogLine (Fated Stores)} {body : Body (Fated Stores) Locals (Result ⊕ Value)}
variable {rest : Value → Body (Fated Stores) Locals Result}

/-- A three-part triple about the stores, inside a job. -/
abbrev Within {Found : Type} (before : Stores → Prop) (body : Body (Fated Stores) Locals Found)
    (after : Found → Stores → Prop) (throughout : Stores → Prop) : Prop :=
  Program.Withstands (fun state => before state.2.stores) body
    (fun value state => after value state.2.stores)
    fun state => throughout state.2.stores

theorem log_within (reports : ∀ line, Endures before (onLogLine line) (fun _ => before) throughout)
    (safe : ∀ stores, before stores → throughout stores) (line : String) :
    Within before (log onLogLine line : Body (Fated Stores) Locals PUnit)
      (fun _ => before) throughout := by
  have modified : Within before (Program.modify fun (frame, outside) =>
      ({ frame with logLines := frame.logLines ++ [line] }, outside) :
        Body (Fated Stores) Locals PUnit)
      (fun _ => before) throughout := by
    constructor
    · intro state value final holds run
      cases run
      exact holds
    · exact fun state holds => safe _ holds
  exact .bind modified fun _ => .outer (reports line)

theorem within_forEach {Item : Type} {items : List Item}
    {visit : Item → Body (Fated Stores) Locals PUnit} (invariant : List Item → Stores → Prop)
    (step : ∀ visited item later, items = visited ++ item :: later →
      Within (invariant visited) (visit item) (fun _ => invariant (visited ++ [item])) throughout)
    (safe : ∀ visited stores, invariant visited stores → throughout stores) :
    Within (invariant []) (Program.forEach items visit) (fun _ => invariant items) throughout :=
  Program.Withstands.forEach step fun visited state => safe visited state.2.stores

theorem tryJob_endures
    (reports : ∀ line, (onLogLine line).Maintains fun world => throughout world.stores)
    (tried : Within before body (fun tried stores => ∃ value, tried = .inr value ∧
      between value stores) throughout)
    (finished : ∀ value, Within (between value) (rest value) (fun _ => after) throughout) :
    Endures before (tryJob onLogLine initial partialRows body rest)
      (fun result stores => result.status = .succeeded → after stores) throughout where
  returns := tryJob_does tried.returns fun value => (finished value).returns
  stops := by
    have failing (error : PyError) :
        (failed onLogLine partialRows error : Body (Fated Stores) Locals (Result ⊕ Value)).Maintains
        fun state => throughout state.2.stores :=
      .bind (log_maintains reports _) fun _ => .bind (fun _ kept => kept) fun _ => .pure
    have rescued : Within before (rescue body (failed onLogLine partialRows))
        (fun tried stores => throughout stores ∧ ∀ value, tried = .inr value →
          between value stores) throughout := by
      refine .attempt ⟨fun state value final start run => ⟨?_, ?_⟩, tried.stops⟩ fun error => ?_
      · have stopped := tried.stops state start
        rwa [run] at stopped
      · intro found same
        obtain ⟨other, also, holds⟩ := tried.returns state value final start run
        cases same.symm.trans also
        exact holds
      · split
        · refine ⟨fun state value final start run => ⟨?_, ?_⟩, failing error⟩
          · have stopped := failing error state start
            rwa [run] at stopped
          · intro found same
            obtain ⟨result, also, _⟩ := failed_yields state value final run
            cases same.symm.trans also
        · exact .raise fun _ => id
    have framed {program : Body (Fated Stores) Locals Result}
        (whole : Within before program (fun _ => throughout) throughout) : ∀ world : Fated Stores,
        before world.stores →
          throughout (Program.locally ⟨[], initial⟩ program world).2.stores :=
      fun world start => whole.stops (⟨[], initial⟩, world) start
    refine framed (.bind rescued fun found => ?_)
    cases found with
    | inl result => exact .pure (fun _ kept => kept.1) fun _ kept => kept.1
    | inr value =>
      have last := finished value
      refine ⟨fun state result final start run => ?_, fun state start =>
        last.stops state (start.2 value rfl)⟩
      have stopped := last.stops state (start.2 value rfl)
      change rest value state = _ at run
      rwa [run] at stopped

end OpenScale.Worker
