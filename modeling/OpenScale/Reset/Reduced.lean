import OpenScale.Reset.Complete

/-! A reset only takes away: wherever it stops, what is left of the lake was there before, and a
table has its old rows or none. -/

namespace OpenScale.Reset

open OpenScale.Library OpenScale.Library.Python OpenScale.Worker

variable {Data : Type}

/-- The rows of a table are the old ones, or gone. -/
def FewerRows (start tables : Tables Data) : Prop :=
  ∀ table rows, tables.lookup table = some rows → rows = [] ∨ start.lookup table = some rows

structure Reduced (start stores : Stores Data) : Prop where
  tables : FewerRows start.tables stores.tables
  transaction : ∀ tables, stores.transaction = some tables → FewerRows start.tables tables
  lake : ∀ key data, stores.lake.lookup key = some data → start.lake.lookup key = some data

variable {start stores : Stores Data}

theorem Reduced.refl (closed : start.transaction = none) : Reduced start start where
  tables _ _ found := .inr found
  transaction tables begun := by
    rw [closed] at begun
    cases begun
  lake _ _ found := found

theorem Reduced.current (reduced : Reduced start stores) :
    FewerRows start.tables stores.current := by
  unfold Stores.current
  cases begun : stores.transaction with
  | none => exact reduced.tables
  | some tables => exact reduced.transaction tables begun

/-- However the task stops, it has only taken away. -/
abbrev Reduces {Value : Type} (start : Stores Data) (task : Task (World Data) Value) : Prop :=
  task.Maintains fun world => Reduced start world.stores

theorem statement_reduces {Value : Type}
    {effect : Tables Data → Except PyError (Value × Tables Data)}
    (fewer : ∀ tables value next, FewerRows start.tables tables →
      effect tables = .ok (value, next) →
      FewerRows start.tables next) : Reduces start (statement effect) := by
  refine call_maintains fun stores value next reduced ran => ?_
  obtain ⟨⟨result, tables⟩, outcome, returned⟩ := bind_eq_ok.mp ran
  cases returned
  refine ⟨reduced.tables, fun left begun => ?_, reduced.lake⟩
  cases begun
  exact fewer stores.current value tables reduced.current outcome

theorem connect_reduces : Reduces start (connect : Task (World Data) PUnit) := by
  refine call_maintains fun stores value next reduced ran => ?_
  cases ran
  exact ⟨reduced.tables, nofun, reduced.lake⟩

theorem commit_reduces : Reduces start (commit : Task (World Data) PUnit) := by
  refine call_maintains fun stores value next reduced ran => ?_
  cases ran
  exact ⟨reduced.current, nofun, reduced.lake⟩

theorem tableExists_reduces (table : String) :
    Reduces start (tableExists table : Task (World Data) Bool) := by
  refine statement_reduces fun tables value next fewer ran => ?_
  cases ran
  exact fewer

theorem truncate_reduces (names : List String) :
    Reduces start (truncate names : Task (World Data) PUnit) := by
  refine statement_reduces fun tables value next fewer ran => ?_
  split at ran
  · cases ran
  · cases ran
    intro table rows found
    rw [lookup_truncated] at found
    split at found
    · cases found
      exact .inl rfl
    · exact fewer table rows found

theorem listing_reduces {Value : Type} {answer : List String → Value} :
    Reduces start (listing answer : Task (World Data) Value) := by
  refine call_maintains fun stores value next reduced ran => ?_
  cases ran
  exact reduced

theorem deleteObject_reduces (key : String) :
    Reduces start (deleteObject key : Task (World Data) PUnit) := by
  refine call_maintains fun stores value next reduced ran => ?_
  cases ran
  refine ⟨reduced.tables, reduced.transaction, fun other data found => ?_⟩
  by_cases same : other = key
  · rw [same, AList.lookup_erase] at found
    cases found
  · rw [AList.lookup_erase_ne same] at found
    exact reduced.lake other data found

variable (servers : Servers) (base : Services (World Data))

theorem existingTables_reduces (names : List String) :
    Reduces start (existingTables (services servers base) names) := by
  induction names with
  | nil => exact .pure
  | cons name names ih =>
    exact .bind (tableExists_reduces name) fun found => .bind ih fun others => .pure

theorem truncatePostgresTables_reduces :
    Reduces start (truncatePostgresTables (services servers base)) := by
  refine .bind connect_reduces fun _ => .bind (.always ?_ connect_reduces) fun existing => .pure
  refine .bind (existingTables_reduces servers base postgresTables) fun existing => ?_
  split
  · exact .bind (truncate_reduces existing) fun _ => .bind commit_reduces fun _ => .pure
  · exact .bind commit_reduces fun _ => .pure

theorem deletePrefix_reduces (lakePrefix : String) :
    Reduces start (deletePrefix servers lakePrefix : Task (World Data) Nat) := by
  refine .bind listing_reduces fun found => ?_
  split
  · exact .pure
  · refine .bind listing_reduces fun keys => .bind (.bind listing_reduces fun paths => ?_) fun _ =>
      .pure
    exact .forEach fun path _ => deleteObject_reduces path

theorem deletesFeatures_reduces : DeletesFeatures (services servers base) fun world =>
  Reduced start world.stores where
  connect := elsewhere_maintains
  scan cursor := by
    refine call_maintains fun stores value next reduced ran => ?_
    cases ran
    exact reduced
  lists := (@deletesFeatures _ start servers base).lists
  delete batch listed := by
    refine call_maintains fun stores value next reduced ran => ?_
    cases ran
    exact ⟨reduced.tables, reduced.transaction, reduced.lake⟩

theorem reset_reduces (params : Json) :
    Reduces start (Worker.reset (services servers base) params onLogLine) := by
  refine tryJob_maintains (fun _ => elsewhere_maintains) ?_ fun _ _ reduced => reduced
  have logged (line : String) : (log onLogLine line : Body (World Data) Unit PUnit).Maintains
      fun state =>
      Reduced start state.2.stores := log_maintains (fun _ => elsewhere_maintains) line
  refine .bind (.outer (truncatePostgresTables_reduces servers base)) fun line =>
    .bind (logged line) fun _ => ?_
  refine .bind (.forEach fun lakePrefix _ => ?_) fun _ => ?_
  · exact .bind (.outer (deletePrefix_reduces servers lakePrefix)) fun deleted => logged _
  · exact .bind (.outer (deleteOnlineFeatures_maintains (deletesFeatures_reduces servers base)))
      fun line =>
      .bind (logged line) fun _ => .pure

theorem runReset_reduced (params : Json) (fates : List Fate) (start : Stores Data) :
    Reduced { start with transaction := none } (runReset servers base params fates start).2 := by
  have kept :=
    reset_reduces servers base params ⟨{ start with transaction := none }, fates⟩ (.refl rfl)
  exact ⟨kept.tables, nofun, kept.lake⟩

end OpenScale.Reset
