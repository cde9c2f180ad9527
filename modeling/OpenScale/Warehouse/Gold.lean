import OpenScale.Library.Crash
import OpenScale.Warehouse.History

/-! What a module of Gold makes of the stores, wherever it stops: its table has the old rows or all
of the new ones, and nothing but its own directory of the lake is touched. -/

namespace OpenScale.Warehouse

open OpenScale.Library OpenScale.Library.Python OpenScale.Lake OpenScale.Ingestion
open OpenScale.Worker hiding DataFrame

section Frame

variable {directory other key : String} {data : Data} {lake : Objects}

/-- The names of the objects in another directory do not even change their order. -/
theorem keys_insert_filter (apart : Reset.isUnder other key = false) :
    (lake.insert key data).keys.filter (Reset.isUnder other) = lake.keys.filter
    (Reset.isUnder other) := by
  have distinct : lake.keys.Nodup := lake.nodupKeys
  rw [AList.keys_insert, List.filter_cons_of_neg (by simp [apart]), distinct.erase_eq_filter,
    List.filter_filter]
  refine List.filter_congr fun name _ => ?_
  by_cases same : name = key
  · simp [same, apart]
  · simp [same]

theorem keys_erase_filter (apart : Reset.isUnder other key = false) :
    (lake.erase key).keys.filter (Reset.isUnder other) = lake.keys.filter
    (Reset.isUnder other) := by
  have distinct : lake.keys.Nodup := lake.nodupKeys
  rw [AList.keys_erase, distinct.erase_eq_filter, List.filter_filter]
  refine List.filter_congr fun name _ => ?_
  by_cases same : name = key
  · simp [same, apart]
  · simp [same]

theorem isUnder_other (known : directory ∈ directories) (otherKnown : other ∈ directories)
    (differ : other ≠ directory)
    (under : Reset.isUnder directory key = true) : Reset.isUnder other key = false := by
  rw [Bool.eq_false_iff]
  exact fun also => differ (directory_unique otherKnown known also under)

end Frame

structure SameOutside (directory : String) (start lake : Objects) : Prop where
  lookup : ∀ key, Reset.isUnder directory key = false → lake.lookup key = start.lookup key
  listed : ∀ other ∈ directories, other ≠ directory →
    lake.keys.filter (Reset.isUnder other) = start.keys.filter (Reset.isUnder other)

namespace SameOutside

variable {directory key : String} {data : Data} {start lake : Objects}

theorem refl : SameOutside directory lake lake := ⟨fun _ _ => rfl, fun _ _ _ => rfl⟩

theorem insert (same : SameOutside directory start lake) (known : directory ∈ directories)
    (under : Reset.isUnder directory key = true) :
    SameOutside directory start (lake.insert key data) where
  lookup := by
    intro other outside
    have differ : other ≠ key := by
      rintro rfl
      rw [under] at outside
      cases outside
    rw [AList.lookup_insert_ne differ, same.lookup other outside]
  listed other otherKnown differ := by
    rw [keys_insert_filter (isUnder_other known otherKnown differ under),
      same.listed other otherKnown differ]

theorem erase (same : SameOutside directory start lake) (known : directory ∈ directories)
    (under : Reset.isUnder directory key = true) :
    SameOutside directory start (lake.erase key) where
  lookup := by
    intro other outside
    have differ : other ≠ key := by
      rintro rfl
      rw [under] at outside
      cases outside
    rw [AList.lookup_erase_ne differ, same.lookup other outside]
  listed other otherKnown differ := by
    rw [keys_erase_filter (isUnder_other known otherKnown differ under),
      same.listed other otherKnown differ]

end SameOutside

variable {cluster : Cluster} {job other : GoldModule} {start : Reset.Stores Data}
  {rows : List GoldRow}

/-- The table of a module, with these rows and no other ones. -/
def GoldModule.written (job : GoldModule) (rows : List GoldRow) (tables : Reset.Tables Data) :
    Reset.Tables Data :=
  tables.insert job.goldTable (rows.map .row)

section Postgres

/-- In the open transaction the table has these rows. -/
def Inserted (job : GoldModule) (start : Reset.Stores Data) (rows : List GoldRow)
    (stores : Reset.Stores Data) : Prop :=
  stores = { start with transaction := some (job.written rows start.tables) }

/-- Outside of the transaction nothing has happened, or all of it. -/
def AllOrNothing (job : GoldModule) (start : Reset.Stores Data) (rows : List GoldRow)
    (stores : Reset.Stores Data) : Prop :=
  stores.lake = start.lake ∧ stores.redis = start.redis ∧
    (stores.tables = start.tables ∨ stores.tables = job.written rows start.tables)

theorem statement_endures {Value : Type} {before : Reset.Stores Data → Prop}
    {after : Value → Reset.Stores Data → Prop}
    {effect : Reset.Tables Data → Except PyError (Value × Reset.Tables Data)}
    (safe : ∀ stores, before stores → AllOrNothing job start rows stores)
    (holds : ∀ stores value tables, before stores → effect stores.current = .ok (value, tables) →
      after value { stores with transaction := some tables }) :
    Endures before (Reset.statement effect) after (AllOrNothing job start rows) := by
  refine call_endures safe fun stores value next here ran => ?_
  obtain ⟨⟨result, tables⟩, outcome, same⟩ := bind_eq_ok.mp ran
  cases same
  exact ⟨holds stores value tables here outcome, safe stores here⟩

theorem Inserted.allOrNothing {visited : List GoldRow} {stores : Reset.Stores Data}
    (inserted : Inserted job start visited stores) : AllOrNothing job start rows stores := by
  cases inserted
  exact ⟨rfl, rfl, .inl rfl⟩

theorem tuples_eq {tuples : List GoldRow} (converted : rows.mapM job.tuple = .ok tuples) :
    tuples = rows := by
  induction rows generalizing tuples with
  | nil =>
    cases converted
    rfl
  | cons row rows ih =>
    rw [List.mapM_cons] at converted
    obtain ⟨tuple, first, converted⟩ := bind_eq_ok.mp converted
    obtain ⟨others, rest, converted⟩ := bind_eq_ok.mp converted
    cases converted
    unfold GoldModule.tuple at first
    split at first
    · cases first
    · cases first
      rw [ih rest]

/-- In the open transaction the table exists, and no other one has changed. -/
def Created (job : GoldModule) (start stores : Reset.Stores Data) : Prop :=
  ∃ tables, stores = { start with transaction := some tables } ∧ job.goldTable ∈ tables ∧
    ∀ rows, job.written rows tables = job.written rows start.tables

theorem createTable_endures :
    Endures (· = { start with transaction := none }) (createTable job.goldTable)
    (fun _ => Created job start) (AllOrNothing job start rows) := by
  refine statement_endures (fun stores same => same ▸ ⟨rfl, rfl, .inl rfl⟩)
    fun stores value tables same ran => ?_
  cases same
  cases ran
  refine ⟨_, rfl, ?_⟩
  change job.goldTable ∈ ite _ start.tables _ ∧ ∀ rows, job.written rows (ite _ start.tables _) = _
  split
  next present => exact ⟨present, fun _ => rfl⟩
  · exact ⟨(AList.mem_insert _).mpr (.inl rfl), fun _ => AList.insert_insert _⟩

theorem truncate_endures : Endures (Created job start) (Reset.truncate [job.goldTable])
    (fun _ => Inserted job start []) (AllOrNothing job start rows) := by
  refine statement_endures ?_ fun stores value tables created ran => ?_
  · rintro stores ⟨tables, rfl, _⟩
    exact ⟨rfl, rfl, .inl rfl⟩
  · obtain ⟨before, rfl, present, same⟩ := created
    simp only [Reset.Stores.current, Option.getD_some] at ran
    split at ran
    next missing found =>
      have absent := List.find?_some found
      rw [List.mem_singleton.mp (List.mem_of_find?_eq_some found)] at absent
      exact absurd present (of_decide_eq_true absent)
    · cases ran
      rw [Inserted, ← same []]
      rfl

theorem insertRow_endures (visited : List GoldRow) (row : GoldRow) :
    Endures (Inserted job start visited) (insertRow job.goldTable row)
      (fun _ => Inserted job start (visited ++ [row])) (AllOrNothing job start rows) := by
  refine statement_endures (fun _ inserted => inserted.allOrNothing)
    fun stores value tables inserted ran => ?_
  cases inserted
  simp only [Reset.Stores.current, Option.getD_some, GoldModule.written, AList.lookup_insert] at ran
  split at ran
  · cases ran
  · split at ran
    · cases ran
    · cases ran
      have grown : job.written (visited ++ [row]) start.tables =
          start.tables.insert job.goldTable (visited.map .row ++ [.row row]) := by
        rw [GoldModule.written, List.map_append]
        rfl
      rw [Inserted, AList.insert_insert, grown]

theorem commit_endures : Endures (Inserted job start rows) Reset.commit
    (fun _ stores => stores = { start with
      tables := job.written rows start.tables
      transaction := none })
    (AllOrNothing job start rows) := by
  refine call_endures (fun _ inserted => Inserted.allOrNothing inserted)
    fun stores value next inserted ran => ?_
  cases ran
  cases inserted
  exact ⟨rfl, rfl, rfl, .inr rfl⟩

theorem close_does : Does (fun stores : Reset.Stores Data =>
    stores = { start with tables := job.written rows start.tables, transaction := none })
      Reset.close
    fun _ stores =>
      stores = { start with tables := job.written rows start.tables, transaction := none } := by
  refine call_does fun stores value next same ran => ?_
  cases ran
  cases same
  rfl

theorem close_maintains : Reset.close.Maintains fun world =>
  AllOrNothing job start rows world.stores := by
  refine call_maintains fun stores value next kept ran => ?_
  cases ran
  exact kept

theorem writePostgres_endures : Endures (· = start) (job.writePostgres rows)
    (fun _ stores => stores = { start with
      tables := job.written rows start.tables
      transaction := none })
    (AllOrNothing job start rows) := by
  have unchanged (stores : Reset.Stores Data) (same : stores = start) :
      AllOrNothing job start rows stores :=
    same ▸ ⟨rfl, rfl, .inl rfl⟩
  refine .bind (fromExcept_endures unchanged) fun tuples => .given fun converted => ?_
  cases tuples_eq converted
  have connected : Endures (· = start) Reset.connect
      (fun _ stores => stores = { start with transaction := none })
      (AllOrNothing job start rows) := by
    refine call_endures unchanged fun stores value next same ran => ?_
    cases ran
    cases same
    exact ⟨rfl, rfl, rfl, .inl rfl⟩
  refine .bind connected fun _ => ?_
  have body : Endures (· = { start with transaction := none })
      (do
        createTable job.goldTable
        Reset.truncate [job.goldTable]
        Program.forEach rows (insertRow job.goldTable)
        Reset.commit)
      (fun _ stores => stores = { start with
        tables := job.written rows start.tables
        transaction := none })
      (AllOrNothing job start rows) := by
    refine .bind createTable_endures fun _ => .bind truncate_endures fun _ => ?_
    have filled : Endures (Inserted job start []) (Program.forEach rows (insertRow job.goldTable))
        (fun _ => Inserted job start rows) (AllOrNothing job start rows) :=
      endures_forEach (Inserted job start) (fun visited row _ _ => insertRow_endures visited row)
        fun _ _ inserted => inserted.allOrNothing
    exact .bind filled fun _ => commit_endures
  refine .always body (fun _ => ?_) ?_
  · exact close_does
  · exact close_maintains

end Postgres

section Run

variable (cluster) (job) (start)

def Builds (rows : List GoldRow) : Prop :=
  ∃ df, readSilver cluster start.lake = .ok df ∧ rows = job.build cluster.toSpark df

/-- What a run may have made of the stores, wherever it stops. -/
structure Touched (stores : Reset.Stores Data) : Prop where
  lake : SameOutside job.directory start.lake stores.lake
  inside : ∀ key data, Reset.isUnder job.directory key = true → stores.lake.lookup key = some data →
    start.lake.lookup key = some data ∨ key = job.markerKey ∧ data = .marker ∨
      key = job.partKey cluster ∧ ∃ rows, Builds cluster job start rows ∧ data = .part rows
  tables : stores.tables = start.tables ∨
    ∃ rows, Builds cluster job start rows ∧ stores.tables = job.written rows start.tables

/-- The dataset of a module: one Parquet file, and the marker of a write that is complete. -/
def GoldModule.dataset (rows : List GoldRow) (key : String) : Option Data :=
  if key = job.markerKey then some .marker else if key = job.partKey cluster then some (.part rows)
  else none

/-- What a run that returns has made of them. -/
structure Finished (rows : List GoldRow) (stores : Reset.Stores Data) : Prop where
  lake : SameOutside job.directory start.lake stores.lake
  inside : ∀ key, Reset.isUnder job.directory key = true →
    stores.lake.lookup key = job.dataset cluster rows key
  tables : stores.tables = job.written rows start.tables

variable {cluster job start}

theorem Touched.refl : Touched cluster job start start :=
  ⟨.refl, fun _ _ _ found => .inl found, .inl rfl⟩

variable (job start) in
/-- While the old directory is deleted. -/
structure Deleting (rows : List GoldRow) (visited : List String) (stores : Reset.Stores Data) :
    Prop where
  lake : SameOutside job.directory start.lake stores.lake
  inside : ∀ key data, Reset.isUnder job.directory key = true → stores.lake.lookup key = some data →
    start.lake.lookup key = some data ∧ key ∉ visited
  tables : stores.tables = job.written rows start.tables

theorem Deleting.touched (built : Builds cluster job start rows) {visited : List String}
    {stores : Reset.Stores Data}
    (deleting : Deleting job start rows visited stores) : Touched cluster job start stores where
  lake := deleting.lake
  inside key data under found := .inl (deleting.inside key data under found).1
  tables := .inr ⟨rows, built, deleting.tables⟩

theorem directory_known (known : job ∈ goldModules) : job.directory ∈ directories := by
  simp only [goldModules, List.mem_cons, List.not_mem_nil, or_false] at known
  rcases known with rfl | rfl | rfl | rfl <;> decide

theorem goldTable_injective (known : job ∈ goldModules) (otherKnown : other ∈ goldModules)
    (same : other.goldTable = job.goldTable) : other = job :=
  List.inj_on_of_nodup_map (by decide : (goldModules.map GoldModule.goldTable).Nodup)
    otherKnown known same

theorem directory_injective (known : job ∈ goldModules) (otherKnown : other ∈ goldModules)
    (same : other.directory = job.directory) : other = job :=
  List.inj_on_of_nodup_map (by decide : (goldModules.map GoldModule.directory).Nodup)
    otherKnown known same

theorem partKey_under : Reset.isUnder job.directory (job.partKey cluster) = true := isUnder_objectAt

theorem markerKey_under : Reset.isUnder job.directory job.markerKey = true := isUnder_objectAt

variable (job start) in
/-- Before anything is written the directory is empty. -/
structure Cleared (rows : List GoldRow) (stores : Reset.Stores Data) : Prop where
  lake : SameOutside job.directory start.lake stores.lake
  inside : ∀ key, Reset.isUnder job.directory key = true → stores.lake.lookup key = none
  tables : stores.tables = job.written rows start.tables

variable (cluster job start) in
/-- The Parquet file is there, but not its marker. -/
structure Written (rows : List GoldRow) (stores : Reset.Stores Data) : Prop where
  lake : SameOutside job.directory start.lake stores.lake
  inside : ∀ key, Reset.isUnder job.directory key = true →
    stores.lake.lookup key = if key = job.partKey cluster then some (.part rows) else none
  tables : stores.tables = job.written rows start.tables

section Touched

variable {stores : Reset.Stores Data} (built : Builds cluster job start rows)

include built

theorem AllOrNothing.touched (kept : AllOrNothing job start rows stores) :
    Touched cluster job start stores where
  lake := kept.1 ▸ .refl
  inside _ _ _ found := .inl (kept.1 ▸ found)
  tables := kept.2.2.imp id fun same => ⟨rows, built, same⟩

theorem Cleared.touched (cleared : Cleared job start rows stores) :
    Touched cluster job start stores where
  lake := cleared.lake
  inside key data under found := by
    rw [cleared.inside key under] at found
    cases found
  tables := .inr ⟨rows, built, cleared.tables⟩

theorem Written.touched (half : Written cluster job start rows stores) :
    Touched cluster job start stores where
  lake := half.lake
  inside key data under found := by
    rw [half.inside key under] at found
    split at found
    next same =>
      cases found
      exact .inr (.inr ⟨same, rows, built, rfl⟩)
    · cases found
  tables := .inr ⟨rows, built, half.tables⟩

theorem Finished.touched (finished : Finished cluster job start rows stores) :
    Touched cluster job start stores where
  lake := finished.lake
  inside key data under found := by
    rw [finished.inside key under, GoldModule.dataset] at found
    split at found
    next same =>
      cases found
      exact .inr (.inl ⟨same, rfl⟩)
    · split at found
      next same =>
        cases found
        exact .inr (.inr ⟨same, rows, built, rfl⟩)
      · cases found
  tables := .inr ⟨rows, built, finished.tables⟩

end Touched

theorem clear_endures (known : job ∈ goldModules) (built : Builds cluster job start rows) :
    Endures
      (fun stores => stores = { start with
        tables := job.written rows start.tables
        transaction := none })
      job.clear (fun _ => Cleared job start rows) (Touched cluster job start) := by
  have begun : Deleting job start rows []
      { start with tables := job.written rows start.tables, transaction := none } :=
    ⟨.refl, fun _ _ _ found => ⟨found, List.not_mem_nil⟩, rfl⟩
  have listed : Endures
      (fun stores => stores = { start with
        tables := job.written rows start.tables
        transaction := none })
      (Reset.listing fun keys => keys.filter (Reset.isUnder job.directory))
      (fun old stores => old = start.lake.keys.filter (Reset.isUnder job.directory) ∧
        Deleting job start rows [] stores) (Touched cluster job start) := by
    refine call_endures (fun stores same => same ▸ begun.touched built)
      fun stores value next same ran => ?_
    cases ran
    cases same
    exact ⟨⟨rfl, begun⟩, begun.touched built⟩
  refine .bind listed fun old => .given fun names => ?_
  have step (visited : List String) (key : String) (member : key ∈ old) :
      Endures (Deleting job start rows visited) (Reset.deleteObject key)
        (fun _ => Deleting job start rows (visited ++ [key])) (Touched cluster job start) := by
    refine call_endures (fun _ deleting => deleting.touched built)
      fun stores value next deleting ran => ?_
    cases ran
    have under : Reset.isUnder job.directory key = true := (List.mem_filter.mp (names ▸ member)).2
    have kept : Deleting job start rows (visited ++ [key])
        { stores with lake := stores.lake.erase key } := by
      refine ⟨deleting.lake.erase (directory_known known) under, fun other data here found => ?_,
        deleting.tables⟩
      by_cases same : other = key
      · rw [same, AList.lookup_erase] at found
        cases found
      · rw [AList.lookup_erase_ne same] at found
        obtain ⟨before, fresh⟩ := deleting.inside other data here found
        exact ⟨before, by simp [fresh, same]⟩
    exact ⟨kept, kept.touched built⟩
  refine (endures_forEach (Deleting job start rows)
    (fun visited key later split => step visited key (by simp [split])) fun _ _ deleting =>
    deleting.touched built).weaken (fun _ => id) (fun _ world deleting => ?_) fun _ => id
  refine ⟨deleting.lake, fun key under => ?_, deleting.tables⟩
  cases found : world.stores.lake.lookup key with
  | none => rfl
  | some data =>
    obtain ⟨before, fresh⟩ := deleting.inside key data under found
    have present : key ∈ start.lake := AList.lookup_isSome.mp (before ▸ rfl)
    exact absurd (names ▸ List.mem_filter.mpr ⟨present, under⟩) fresh

theorem overwrite_endures (known : job ∈ goldModules) (built : Builds cluster job start rows) :
    Endures
      (fun stores => stores = { start with
        tables := job.written rows start.tables
        transaction := none })
      (job.overwrite cluster rows) (fun _ => Finished cluster job start rows)
        (Touched cluster job start) := by
  have written : Endures (Cleared job start rows) (putObject (job.partKey cluster) (.part rows))
      (fun _ => Written cluster job start rows) (Touched cluster job start) := by
    refine call_endures (fun _ cleared => cleared.touched built)
      fun stores value next cleared ran => ?_
    cases ran
    have here : Written cluster job start rows
        { stores with lake := stores.lake.insert (job.partKey cluster) (.part rows) } := by
      refine ⟨cleared.lake.insert (directory_known known) partKey_under, fun key under =>
        ?_, cleared.tables⟩
      by_cases same : key = job.partKey cluster
      · rw [same, AList.lookup_insert, if_pos rfl]
      · rw [AList.lookup_insert_ne same, if_neg same, cleared.inside key under]
    exact ⟨here, here.touched built⟩
  have marked : Endures (Written cluster job start rows) (putObject job.markerKey .marker)
      (fun _ => Finished cluster job start rows) (Touched cluster job start) := by
    refine call_endures (fun _ half => half.touched built) fun stores value next half ran => ?_
    cases ran
    have here :
        Finished cluster job start rows
          { stores with lake := stores.lake.insert job.markerKey .marker } := by
      refine ⟨half.lake.insert (directory_known known) markerKey_under, fun key under =>
        ?_, half.tables⟩
      by_cases same : key = job.markerKey
      · rw [same, AList.lookup_insert, GoldModule.dataset, if_pos rfl]
      · rw [AList.lookup_insert_ne same, GoldModule.dataset, if_neg same, half.inside key under]
    exact ⟨here, here.touched built⟩
  exact .bind (clear_endures known built) fun _ => .bind written fun _ => marked

theorem run_endures (known : job ∈ goldModules) : Endures (· = start) (job.run cluster)
    (fun _ stores => ∃ rows, Builds cluster job start rows ∧ Finished cluster job start rows stores)
    (Touched cluster job start) := by
  have unchanged (stores : Reset.Stores Data) (same : stores = start) :
      Touched cluster job start stores := same ▸ .refl
  have idle : Endures (· = start) (elsewhere (⟨⟩ : PUnit))
      (fun _ stores => stores = start) (Touched cluster job start) :=
    (elsewhere_endures unchanged).weaken (fun _ => id) (fun _ _ kept => kept.2) fun _ => id
  have loaded : Endures (· = start) (loadSilverTrips cluster)
      (fun df stores => readSilver cluster start.lake = .ok df ∧
        stores = start) (Touched cluster job start) := by
    refine call_endures unchanged fun stores df next same ran => ?_
    subst same
    obtain ⟨read, found, same⟩ := bind_eq_ok.mp ran
    cases same
    exact ⟨⟨found, rfl⟩, .refl⟩
  have body : Endures (· = start)
      (do
        let df ← loadSilverTrips cluster
        elsewhere ⟨⟩
        job.writePostgres (job.build cluster.toSpark df)
        job.overwrite cluster (job.build cluster.toSpark df)
        return "s3a://openscale-lake/" ++ job.directory)
      (fun _ stores => ∃ rows, Builds cluster job start rows ∧
        Finished cluster job start rows stores)
      (Touched cluster job start) := by
    refine .bind loaded fun df => .given fun read => .bind idle fun _ => ?_
    have built : Builds cluster job start (job.build cluster.toSpark df) := ⟨df, read, rfl⟩
    have stored : Endures (· = start) (job.writePostgres (job.build cluster.toSpark df))
        (fun _ stores => stores = { start with
          tables := job.written (job.build cluster.toSpark df) start.tables
          transaction := none })
        (Touched cluster job start) :=
      writePostgres_endures.weaken (fun _ => id) (fun _ _ => id) fun _ kept => kept.touched built
    refine .bind stored fun _ => .bind (overwrite_endures known built) fun _ => ?_
    exact .pure (fun _ finished => ⟨_, built, finished⟩) fun _ finished => finished.touched built
  exact .bind idle fun _ => endures_closing body

end Run

end OpenScale.Warehouse
