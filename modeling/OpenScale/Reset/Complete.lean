import OpenScale.FeatureStore.Effects
import OpenScale.Reset.Stores
import OpenScale.Worker.Fated

/-! A reset that reports success has cleared the three stores, and one that ends in any way has
touched nothing else. -/

namespace OpenScale.Reset

open OpenScale.Library OpenScale.Library.Python OpenScale.Worker

variable {Data : Type}

def Emptied (tables : Tables Data) : Prop :=
  ∀ table ∈ postgresTables, ∀ rows, tables.lookup table = some rows → rows = []

def InLake (key : String) : Prop := ∃ lakePrefix ∈ lakePrefixes, isUnder lakePrefix key

structure Cleared (stores : Stores Data) : Prop where
  tables : Emptied stores.tables
  lake : ∀ key ∈ stores.lake, ¬ InLake key
  redis : ∀ key ∈ stores.redis, ¬ FeatureStore.IsFeatureKey key

/-- No table comes or goes, and those beside the five keep their rows. -/
def SameTables (start tables : Tables Data) : Prop :=
  ∀ table, (table ∈ tables ↔ table ∈ start) ∧
    (table ∉ postgresTables → tables.lookup table = start.lookup table)

/-- What the reset job is not about: an object that has the name of a prefix is deleted with it. -/
structure Untouched (start stores : Stores Data) : Prop where
  tables : SameTables start.tables stores.tables
  lake : ∀ key, ¬ InLake key → key ∉ lakePrefixes → stores.lake.lookup key = start.lake.lookup key
  redis : ∀ key, ¬ FeatureStore.IsFeatureKey key → stores.redis.lookup key = start.redis.lookup key

section Postgres

variable {tables : Tables Data}

theorem lookup_truncated (names : List String) (tables : Tables Data) (table : String) :
    (truncated names tables).lookup table = if table ∈ names then some []
    else tables.lookup table := by
  induction names generalizing tables with
  | nil => rfl
  | cons name names ih =>
    rw [truncated, List.foldl_cons]
    refine (ih (tables.insert name [])).trans ?_
    by_cases same : table = name
    · subst same
      simp
    · simp [same]

theorem statement_does {Value : Type} {before : Stores Data → Prop}
    {after : Value → Stores Data → Prop}
    {effect : Tables Data → Except PyError (Value × Tables Data)}
    (holds : ∀ stores value tables, before stores → effect stores.current = .ok (value, tables) →
      after value { stores with transaction := some tables }) : Does before
        (statement effect) after := by
  refine call_does fun stores value next start run => ?_
  obtain ⟨⟨result, tables⟩, outcome, same⟩ := bind_eq_ok.mp run
  cases same
  exact holds stores value tables start outcome

theorem sameTables_truncated {start : Tables Data} {names : List String}
    (same : SameTables start tables)
    (known : ∀ name ∈ names, name ∈ postgresTables) (present : ∀ name ∈ names, name ∈ tables) :
    SameTables start (truncated names tables) := by
  intro table
  rw [← AList.lookup_isSome, lookup_truncated]
  by_cases named : table ∈ names
  · rw [if_pos named]
    exact ⟨by simp [← same table |>.1, present table named], fun other =>
      absurd (known table named) other⟩
  · rw [if_neg named, AList.lookup_isSome]
    exact same table

theorem emptied_truncated :
    Emptied (truncated (postgresTables.filter fun name => decide (name ∈ tables)) tables) := by
  intro table known rows found
  rw [lookup_truncated] at found
  split at found
  · exact (Option.some.inj found).symm
  next other =>
    refine absurd (List.mem_filter.mpr ⟨known, decide_eq_true ?_⟩) other
    exact AList.lookup_isSome.mp (found ▸ rfl)

end Postgres

section Frame

variable {Value : Type} {start : Stores Data}

/-- In the course of the job its transaction has touched nothing else either. -/
structure Framed (start stores : Stores Data) : Prop extends Untouched start stores where
  transaction : ∀ tables, stores.transaction = some tables → SameTables start.tables tables

/-- However the task stops, nothing else is touched. -/
abbrev Frames (start : Stores Data) (task : Task (World Data) Value) : Prop :=
  task.Maintains fun world => Framed start world.stores

theorem Framed.current {stores : Stores Data} (framed : Framed start stores) :
    SameTables start.tables stores.current := by
  unfold Stores.current
  cases open_ : stores.transaction with
  | none => exact framed.tables
  | some tables => exact framed.transaction tables open_

theorem statement_frames {effect : Tables Data → Except PyError (Value × Tables Data)}
    (same : ∀ tables value next, SameTables start.tables tables →
      effect tables = .ok (value, next) →
      SameTables start.tables next) : Frames start (statement effect) := by
  refine call_maintains fun stores value next framed ran => ?_
  obtain ⟨⟨result, tables⟩, outcome, returned⟩ := bind_eq_ok.mp ran
  cases returned
  refine ⟨⟨framed.tables, framed.lake, framed.redis⟩, fun left begun => ?_⟩
  cases begun
  exact same stores.current value tables framed.current outcome

theorem connect_frames : Frames start (connect : Task (World Data) PUnit) := by
  refine call_maintains fun stores value next framed ran => ?_
  cases ran
  exact ⟨⟨framed.tables, framed.lake, framed.redis⟩, fun tables none_ => nomatch none_⟩

theorem commit_frames : Frames start (commit : Task (World Data) PUnit) := by
  refine call_maintains fun stores value next framed ran => ?_
  cases ran
  exact ⟨⟨framed.current, framed.lake, framed.redis⟩, fun tables none_ => nomatch none_⟩

theorem tableExists_frames (table : String) :
    Frames start (tableExists table : Task (World Data) Bool) := by
  refine statement_frames fun tables value next same ran => ?_
  cases ran
  exact same

theorem truncate_frames {names : List String} (known : ∀ name ∈ names, name ∈ postgresTables) :
    Frames start (truncate names : Task (World Data) PUnit) := by
  refine statement_frames fun tables value next same ran => ?_
  split at ran
  · cases ran
  next present =>
    cases ran
    refine sameTables_truncated same known fun name member => ?_
    have here := List.find?_eq_none.mp present name member
    simpa using here

variable (servers : Servers) (base : Services (World Data))

theorem existingTables_yields (names : List String) :
    (existingTables (services servers base) names).Yields fun existing => existing ⊆ names := by
  induction names with
  | nil => exact .pure (List.Subset.refl [])
  | cons name names ih =>
    refine .last fun found => .bind ih fun others known => .pure ?_
    split
    · exact List.cons_subset_cons name known
    · exact List.subset_cons_of_subset name known

theorem existingTables_frames (names : List String) :
    Frames start (existingTables (services servers base) names) := by
  induction names with
  | nil => exact .pure
  | cons name names ih =>
    exact .bind (tableExists_frames name) fun found => .bind ih fun others => .pure

theorem truncatePostgresTables_frames :
    Frames start (truncatePostgresTables (services servers base)) := by
  refine .bind connect_frames fun _ => .bind (.always ?_ connect_frames) fun existing => .pure
  refine .bind_yields (existingTables_frames servers base postgresTables)
    (existingTables_yields servers base postgresTables) fun existing known => ?_
  split
  · exact .bind (truncate_frames known) fun _ => .bind commit_frames fun _ => .pure
  · exact .bind commit_frames fun _ => .pure

theorem listing_frames {answer : List String → Value} :
    Frames start (listing answer : Task (World Data) Value) := by
  refine call_maintains fun stores value next framed ran => ?_
  cases ran
  exact framed

theorem listing_yields {answer : List String → Value} {good : Value → Prop}
    (always : ∀ keys, good (answer keys)) :
    (listing answer : Task (World Data) Value).Yields good := by
  have read : Does (fun _ : Stores Data => True) (listing answer) fun value _ => good value := by
    refine call_does fun stores value next _ ran => ?_
    cases ran
    exact always _
  exact Program.yields_iff.mpr read

theorem deleteObject_frames {key : String} (deletable : InLake key ∨ key ∈ lakePrefixes) :
    Frames start (deleteObject key : Task (World Data) PUnit) := by
  refine call_maintains fun stores value next framed ran => ?_
  cases ran
  refine ⟨⟨framed.tables, fun other outside unnamed => ?_, framed.redis⟩, framed.transaction⟩
  have different : other ≠ key := by
    rintro rfl
    exact deletable.elim outside unnamed
  rw [AList.lookup_erase_ne different]
  exact framed.lake other outside unnamed

theorem deletePrefix_frames {lakePrefix : String} (known : lakePrefix ∈ lakePrefixes) :
    Frames start (deletePrefix servers lakePrefix : Task (World Data) Nat) := by
  have deletable : (listing (expandPath lakePrefix) : Task (World Data) _).Yields fun paths =>
      ∀ path ∈ paths, InLake path ∨ path ∈ lakePrefixes := by
    refine listing_yields fun keys path member => ?_
    rcases List.mem_cons.mp member with rfl | member
    · exact .inr known
    · exact .inl ⟨lakePrefix, known, (List.mem_filter.mp member).2⟩
  refine .bind listing_frames fun found => ?_
  split
  · exact .pure
  · refine .bind listing_frames fun keys =>
      .bind (.bind_yields listing_frames deletable fun paths each =>
      .forEach fun path member => ?_) fun _ => .pure
    exact deleteObject_frames (each path ((servers.order_perm paths).mem_iff.mp member))

theorem deletesFeatures : DeletesFeatures (services servers base) fun world =>
  Framed start world.stores where
  connect := elsewhere_maintains
  scan cursor := by
    refine call_maintains fun stores value next framed ran => ?_
    cases ran
    exact framed
  lists cursor := by
    have read : Does (fun _ : Stores Data => True) (scan servers cursor onlineFeaturePattern)
        fun found _ => ∀ key ∈ found.2, isOnlineFeature key := by
      refine call_does fun stores value next _ ran key member => ?_
      cases ran
      exact (List.mem_filter.mp member).2
    exact Program.yields_iff.mpr read
  delete batch listed := by
    refine call_maintains fun stores value next framed ran => ?_
    cases ran
    refine ⟨⟨framed.tables, framed.lake, fun key other => ?_⟩, framed.transaction⟩
    rw [lookup_erase_keys fun member => other (listed key member)]
    exact framed.redis key other

theorem onLogLine_frames (line : String) :
    Frames start (onLogLine line : Task (World Data) PUnit) := elsewhere_maintains

theorem reset_frames (params : Json) :
    Frames start (Worker.reset (services servers base) params onLogLine) := by
  refine tryJob_maintains onLogLine_frames ?_ fun _ _ framed => framed
  have logged (line : String) : (log onLogLine line : Body (World Data) Unit PUnit).Maintains
      fun state =>
      Framed start state.2.stores := log_maintains onLogLine_frames line
  refine .bind (.outer (truncatePostgresTables_frames servers base)) fun line =>
    .bind (logged line) fun _ => ?_
  refine .bind (.forEach fun lakePrefix known => ?_) fun _ => ?_
  · exact .bind (.outer (deletePrefix_frames servers known)) fun deleted => logged _
  · exact .bind (.outer (deleteOnlineFeatures_maintains (deletesFeatures servers base))) fun line =>
      .bind (logged line) fun _ => .pure

end Frame

section Complete

variable (servers : Servers) (base : Services (World Data))

theorem existingTables_does {tables : Tables Data} (names : List String) :
    Does (·.current = tables) (existingTables (services servers base) names) fun existing stores =>
      existing = names.filter (fun name => decide (name ∈ tables)) ∧ stores.current = tables := by
  induction names with
  | nil => exact .pure fun _ same => ⟨rfl, same⟩
  | cons name names ih =>
    have looked : Does (·.current = tables) (tableExists name) fun found stores =>
        found = decide (name ∈ tables) ∧ stores.current = tables := by
      refine statement_does fun stores value after same ran => ?_
      cases ran
      exact ⟨same ▸ rfl, same⟩
    refine .bind looked fun found => .given fun seen => .bind ih fun others => .given fun rest => ?_
    refine .pure fun stores same => ⟨?_, same⟩
    rw [List.filter_cons, rest, seen]

theorem truncate_does {tables : Tables Data} : Does (·.current = tables)
    (truncate (postgresTables.filter fun name => decide (name ∈ tables))) fun _ stores =>
      Emptied stores.current := by
  refine statement_does fun stores value after same ran => ?_
  rw [same] at ran
  split at ran
  · cases ran
  · cases ran
    exact emptied_truncated

theorem commit_does :
    Does (fun stores : Stores Data => Emptied stores.current) commit fun _ stores =>
    Emptied stores.tables := by
  refine call_does fun stores value next emptied ran => ?_
  cases ran
  exact emptied

theorem truncatePostgresTables_does :
    Does (fun _ => True) (truncatePostgresTables (services servers base))
    fun _ stores => Emptied stores.tables := by
  have closed : Does (fun stores : Stores Data => Emptied stores.tables) close fun _ stores =>
      Emptied stores.tables := by
    refine call_does fun stores value next emptied ran => ?_
    cases ran
    exact emptied
  have connected : Does (fun _ : Stores Data => True) connect fun _ _ => True :=
    call_does fun _ _ _ _ _ => trivial
  refine .bind connected fun _ => .bind (.always ?_ fun _ => closed) fun existing =>
    .pure fun _ emptied => emptied
  refine .seen Stores.current fun tables =>
    .weaken (.bind (existingTables_does servers base postgresTables)
    fun existing => .given fun listed => ?_) (fun _ start => start.2) fun _ _ emptied => emptied
  rw [listed]
  dsimp only
  split
  · exact .bind truncate_does fun _ => .bind commit_does fun _ => .pure fun _ emptied => emptied
  next none_ =>
    refine .bind (commit_does.weaken ?_ fun _ _ => id) fun _ => .pure fun _ emptied => emptied
    rintro stores rfl
    have empty : (postgresTables.filter fun name => decide (name ∈ stores.current)) = [] := by
      simpa using none_
    have nothing := @emptied_truncated _ stores.current
    rwa [empty] at nothing

/-- The tables are empty, and so is what the loop has visited of the lake. -/
def Visited (visited : List String) (stores : Stores Data) : Prop :=
  Emptied stores.tables ∧ ∀ lakePrefix ∈ visited, ∀ key ∈ stores.lake, ¬ isUnder lakePrefix key

theorem listing_does {Value : Type} {answer : List String → Value} {before : Stores Data → Prop} :
    Does before (listing answer) fun value stores => value = answer stores.lake.keys ∧
    before stores := by
  refine call_does fun stores value next start ran => ?_
  cases ran
  exact ⟨rfl, start⟩

theorem Visited.extend {visited : List String} {stores : Stores Data} {lakePrefix : String}
    (before : Visited visited stores) (now : ∀ key ∈ stores.lake, ¬ isUnder lakePrefix key) :
    Visited (visited ++ [lakePrefix]) stores := by
  refine ⟨before.1, fun other member => ?_⟩
  rcases List.mem_append.mp member with old | last
  · exact before.2 other old
  · exact List.mem_singleton.mp last ▸ now

/-- In the middle of the deletion: what is still under the prefix is on the list, and not yet
deleted. -/
def Deleting (visited : List String) (lakePrefix : String) (paths deleted : List String)
    (stores : Stores Data) : Prop :=
  Visited visited stores ∧ ∀ key ∈ stores.lake, isUnder lakePrefix key → key ∈ paths ∧ key ∉ deleted

theorem deleteObject_does (visited : List String) (lakePrefix : String)
    (paths deleted : List String) (path : String) :
    Does (Deleting visited lakePrefix paths deleted) (deleteObject path : Task (World Data) PUnit)
      fun _ => Deleting visited lakePrefix paths (deleted ++ [path]) := by
  refine call_does fun stores value next deleting ran => ?_
  cases ran
  refine ⟨⟨deleting.1.1, fun other member key inside => ?_⟩, fun key inside under => ?_⟩
  · exact deleting.1.2 other member key (AList.mem_erase.mp inside).2
  · obtain ⟨different, inside⟩ := AList.mem_erase.mp inside
    obtain ⟨listed, fresh⟩ := deleting.2 key inside under
    exact ⟨listed, by simp [fresh, different]⟩

theorem rm_does (visited : List String) (lakePrefix : String) :
    Does (Visited visited) (rm servers lakePrefix : Task (World Data) PUnit)
      fun _ => Visited (visited ++ [lakePrefix]) := by
  have expanded : Does (Visited visited) (listing (expandPath lakePrefix) : Task (World Data) _)
      fun paths =>
      Deleting visited lakePrefix paths [] := by
    refine call_does fun stores value next before ran => ?_
    cases ran
    refine ⟨before, fun key inside under => ⟨?_, List.not_mem_nil⟩⟩
    exact List.mem_cons_of_mem _ (List.mem_filter.mpr ⟨inside, under⟩)
  refine .bind expanded fun paths =>
    .weaken (Program.Triple.forEach (deleteObject_does visited lakePrefix paths))
    (fun _ => id) fun _ stores deleting => ?_
  refine deleting.1.extend fun key inside under => ?_
  obtain ⟨listed, fresh⟩ := deleting.2 key inside under
  exact fresh ((servers.order_perm paths).mem_iff.mpr listed)

theorem deletePrefix_does (visited : List String) (lakePrefix : String) :
    Does (Visited visited) (deletePrefix servers lakePrefix : Task (World Data) Nat)
      fun _ => Visited (visited ++ [lakePrefix]) := by
  refine .bind listing_does fun found => ?_
  split
  next missing =>
    refine .pure fun stores ⟨answer, before⟩ => before.extend fun key inside under => ?_
    have here : pathExists lakePrefix stores.lake.keys = true :=
      List.any_eq_true.mpr ⟨key, inside, by rw [under, Bool.or_true]⟩
    rw [answer, here] at missing
    cases missing
  next present =>
    refine .bind (listing_does.weaken (fun _ start => start.2) fun _ _ start => start.2) fun keys =>
      ?_
    exact .bind (rm_does servers visited lakePrefix) fun _ => .pure fun _ cleared => cleared

theorem listsAndDeletes : ListsAndDeletes (services servers base) servers.scanner
    (fun stores : Stores Data => stores.redis.keys) (Visited lakePrefixes) where
  connect keys := elsewhere_does.weaken (fun _ => id) fun _ _ kept => kept.2
  scan cursor keys := by
    change Does _ (scan servers cursor onlineFeaturePattern) _
    unfold scan
    refine call_does fun stores value next start ran => ?_
    cases ran
    obtain ⟨before, rfl⟩ := start
    exact ⟨rfl, before, rfl⟩
  delete batch keys := by
    change Does _ (delete batch) _
    unfold delete
    refine call_does fun stores value next start ran => ?_
    cases ran
    obtain ⟨before, rfl⟩ := start
    exact ⟨before, fun key => mem_erase_keys⟩

theorem wipe_inside :
    Inside (fun _ => True) (wipe (services servers base) onLogLine) fun tried stores =>
    ∃ value, tried = .inr value ∧ Cleared stores := by
  have logged {before : Stores Data → Prop} (line : String) :
      Inside before (log onLogLine line : Body (World Data) Unit PUnit) fun _ => before :=
    log_inside (fun _ => elsewhere_does.weaken (fun _ => id) fun _ _ kept => kept.2) line
  have deleted : Inside (Visited []) (Program.forEach lakePrefixes fun lakePrefix => do
      let deleted ← Program.outer ((services servers base).deletePrefix lakePrefix)
      log onLogLine ("minio: deleted " ++ toString deleted ++ " objects under " ++
        lakePrefix ++ "/") :
        Body (World Data) Unit PUnit) fun _ => Visited lakePrefixes :=
    Program.Triple.forEach fun visited lakePrefix =>
      .bind (.outer (deletePrefix_does servers visited lakePrefix)) fun _ => logged _
  have online : Does (Visited lakePrefixes) (deleteOnlineFeatures (services servers base)) fun _ =>
    Cleared :=
    (deleteOnlineFeatures_does (listsAndDeletes servers base)).weaken (fun _ => id) fun _ _ last =>
      ⟨last.1.1, fun key inside ⟨lakePrefix, known, under⟩ =>
        last.1.2 lakePrefix known key inside under, last.2⟩
  refine .bind (.outer (truncatePostgresTables_does servers base)) fun line =>
    .bind (logged line) fun _ => ?_
  refine .bind (deleted.weaken ?_ fun _ _ last => last) fun _ =>
    .bind (.outer online) fun line => ?_
  · exact fun _ emptied => ⟨emptied, fun _ none_ => absurd none_ List.not_mem_nil⟩
  · exact .bind (logged line) fun _ => .pure fun _ cleared => ⟨⟨⟩, rfl, cleared⟩

theorem reset_does (params : Json) :
    Does (fun _ => True) (Worker.reset (services servers base) params onLogLine)
    fun result stores => result.status = .succeeded → Cleared stores :=
  tryJob_does (wipe_inside servers base) fun _ => ends_inside

end Complete

section Written

def HasValue (key : String) (value : Option FeatureStore.OnlineValue)
    (stores : FeatureStore.Stores) : Prop :=
  stores.online.lookup key = value

variable {key : String} {value : Option FeatureStore.OnlineValue}

theorem set_maintains {name : String} (different : key ≠ name)
    (written : FeatureStore.OnlineValue) :
    (FeatureStore.set name written).Maintains fun world => HasValue key value world.stores := by
  unfold FeatureStore.set FeatureStore.redis
  refine call_maintains fun stores result next kept ran => ?_
  cases ran
  exact (AList.lookup_insert_ne different).trans kept

theorem writeKeys_maintains (other : ¬ FeatureStore.IsFeatureKey key)
    (rows : List Lake.ZoneHourFeatures) (count : Nat) :
    (FeatureStore.writeKeys rows count).Maintains fun world => HasValue key value world.stores := by
  induction rows generalizing count with
  | nil => exact .pure
  | cons row rows ih =>
    refine .bind fromExcept_maintains fun zone => .bind fromExcept_maintains fun hour =>
      .bind (set_maintains ?_ _) fun _ => ih _
    rintro rfl
    exact other (FeatureStore.isFeatureKey_featureKey zone hour)

theorem writeRedis_isFeatureKey (features : List Lake.ZoneHourFeatures) (world : FeatureStore.World)
    (written : (FeatureStore.writeRedis features world).2.stores.online.lookup key ≠
      world.stores.online.lookup key) : FeatureStore.IsFeatureKey key := by
  by_contra other
  have kept : (FeatureStore.writeRedis features).Maintains fun after =>
      HasValue key (world.stores.online.lookup key) after.stores :=
    .bind elsewhere_maintains fun _ => writeKeys_maintains other features 0
  exact written (kept world rfl)

end Written

section Reset

variable (servers : Servers) (base : Services (World Data)) (params : Json) (fates : List Fate)
  (start : Stores Data)

theorem runReset_cleared (success : succeeded (runReset servers base params fates start).1 = true) :
    Cleared (runReset servers base params fates start).2 := by
  unfold runReset at success ⊢
  match ran :
    Worker.reset (services servers base) params onLogLine
      ⟨{ start with transaction := none }, fates⟩ with
  | (.returned result, last) =>
    rw [ran] at success
    have cleared := reset_does servers base params _ _ _ trivial ran (of_decide_eq_true success)
    exact ⟨cleared.tables, cleared.lake, cleared.redis⟩
  | (.raised error, last) =>
    rw [ran] at success
    cases success
  | (.running, last) =>
    rw [ran] at success
    cases success

theorem runReset_untouched : Untouched start (runReset servers base params fates start).2 := by
  have begins : Framed start { start with transaction := none } :=
    ⟨⟨fun _ => ⟨Iff.rfl, fun _ => rfl⟩, fun _ _ _ => rfl, fun _ _ => rfl⟩,
      fun _ none_ => nomatch none_⟩
  have framed := reset_frames servers base params ⟨{ start with transaction := none }, fates⟩ begins
  exact ⟨framed.tables, framed.lake, framed.redis⟩

/-- A reset that succeeds clears the five tables, the lake and the feature keys, whatever was in
them. However it ends, it leaves alone what is not one of these and not an object that has the name
of a prefix. -/
theorem reset_clears_only : (succeeded (runReset servers base params fates start).1 = true →
      Cleared (runReset servers base params fates start).2) ∧
    Untouched start (runReset servers base params fates start).2 ∧
    ∀ features world key, (FeatureStore.writeRedis features world).2.stores.online.lookup key ≠
      world.stores.online.lookup key → FeatureStore.IsFeatureKey key :=
  ⟨runReset_cleared servers base params fates start,
    runReset_untouched servers base params fates start,
    fun features world _ => writeRedis_isFeatureKey features world⟩

end Reset

section Example

/-- A server with one page, and objects deleted as they are listed. -/
def plainServers : Servers := ⟨.atOnce, id, fun _ => .refl _⟩

/-- A table with a row, an object under each prefix and one beside them, and two keys. -/
def filled : Stores Unit where
  tables := AList.insert "job_runs" [()] (AList.singleton "gold_zone_stats" [()])
  transaction := none
  lake :=
    AList.insert "bronze" ()
      (AList.insert "gold/zone_stats/part-0" () (AList.singleton "mlflow/model" ()))
  redis := AList.insert "openscale:jobs" () (AList.singleton "features:zone:1:hour:0" ())

theorem reset_clears_only_filled : Cleared (runReset plainServers nothingElse .null [] filled).2 :=
  (reset_clears_only plainServers nothingElse .null [] filled).1 (by decide +kernel)

/-- The object `bronze` is under none of the prefixes, and it is gone. -/
theorem named_as_prefix_deleted :
    ¬ ∀ (servers : Servers) (base : Services (World Unit)) (params : Json)
    (fates : List Fate) (start : Stores Unit) (key : String), ¬ InLake key →
    (runReset servers base params fates start).2.lake.lookup key = start.lake.lookup key := by
  intro claim
  have outside : ¬ InLake "bronze" := by
    unfold InLake
    decide
  have kept := claim plainServers nothingElse .null [] filled "bronze" outside
  revert kept
  decide +kernel

end Example

end OpenScale.Reset
