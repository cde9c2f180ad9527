import OpenScale.Reset.Reduced
import OpenScale.Warehouse.Batch
import OpenScale.Warehouse.Landing

/-! Wherever the jobs stop, every object of the lake and every Gold table comes from whole files of
TLC that passed the gate. -/

namespace OpenScale.Warehouse

open OpenScale.Library OpenScale.Library.Python OpenScale.Lake OpenScale.Ingestion
open OpenScale.Worker hiding DataFrame

variable (site : Site) (cluster : Cluster) (answers : List Tlc)

structure StoresSound (stores : Reset.Stores Data) : Prop where
  lake : LakeSound site cluster answers stores.lake
  tables : TablesSound site cluster answers stores.tables

section Lake

variable {site cluster answers} {month : Int × Int} {key : String} {data : Data} {lake : Objects}

theorem Placed.of_bronze (placed : Placed site cluster answers key data) {df : DataFrame}
    (same : data = .bronze df) : ∃ month, key = bronzeKey month ∧ Landed site answers month df := by
  cases placed with
  | bronze landed =>
    cases same
    exact ⟨_, rfl, landed⟩
  | _ => cases same

theorem Placed.of_silver (placed : Placed site cluster answers key data) {rows : List SilverTrip}
    (same : data = .silver rows) :
    ∃ month df trips, key = silverKey month ∧ Landed site answers month df ∧
      df.trips = some trips ∧ rows = (processPeriod month.1 month.2 trips).trips.2 := by
  cases placed with
  | silver landed read =>
    cases same
    exact ⟨_, _, _, rfl, landed, read, rfl⟩
  | _ => cases same

theorem LakeSound.insert (sound : LakeSound site cluster answers lake)
    (placed : Placed site cluster answers key data) :
    LakeSound site cluster answers (lake.insert key data) := by
  intro other stored found
  by_cases same : other = key
  · rw [same, AList.lookup_insert] at found
    cases found
    rwa [same]
  · rw [AList.lookup_insert_ne same] at found
    exact sound other stored found

/-- The rows of a file are what the validator makes of a month of which this is known. -/
def Kept (known : Int × Int → List Trip → Prop) (key : String) (rows : List SilverTrip) : Prop :=
  ∃ month trips, key = silverKey month ∧ known month trips ∧
    rows = (processPeriod month.1 month.2 trips).trips.2

variable {known : Int × Int → List Trip → Prop}

theorem silver_months {files : List String}
    (stored : ∀ key ∈ files, ∀ rows, lake.lookup key = some (.silver rows) → Kept known key rows)
    {parts : List (List SilverTrip)} (read : files.mapM (silverRows lake) = .ok parts) :
    ∃ months : List ((Int × Int) × List Trip), months.map (fun month => silverKey month.1) = files ∧
      (∀ month ∈ months, known month.1 month.2) ∧
      parts = months.map fun month => (processPeriod month.1.1 month.1.2 month.2).trips.2 := by
  induction files generalizing parts with
  | nil =>
    cases read
    exact ⟨[], rfl, nofun, rfl⟩
  | cons file files ih =>
    obtain ⟨here, later⟩ := List.forall_mem_cons.mp stored
    rw [List.mapM_cons] at read
    obtain ⟨rows, first, read⟩ := bind_eq_ok.mp read
    obtain ⟨others, rest, read⟩ := bind_eq_ok.mp read
    cases read
    obtain ⟨months, keys, good, rfl⟩ := ih later rest
    unfold silverRows at first
    split at first
    next written found =>
      cases first
      obtain ⟨month, trips, rfl, fine, rfl⟩ := here _ found
      refine ⟨(month, trips) :: months, ?_, ?_, rfl⟩
      · rw [List.map_cons, keys]
      · exact List.forall_mem_cons.mpr ⟨fine, good⟩
    · cases first

/-- The Bronze that the rows of Silver come from has a month for each file, whatever order they are
read in. -/
theorem readSilver_kept
    (stored : ∀ key, Reset.isUnder "silver/trips" key = true →
      ∀ rows, lake.lookup key = some (.silver rows) →
      Kept known key rows) {df : List SilverTrip} (read : readSilver cluster lake = .ok df) :
    ∃ bronze : Bronze, (∀ month ∈ bronze.months, known month.1 month.2) ∧
      (bronze.months.map fun month => silverKey month.1).Perm
        (lake.keys.filter (Reset.isUnder "silver/trips")) ∧ df = bronze.silverTrips := by
  unfold readSilver at read
  split at read
  · cases read
  next files listed =>
    obtain ⟨parts, parsed, same⟩ := bind_eq_ok.mp read
    cases same
    have arranged := cluster.arrange_perm (lake.keys.filter (Reset.isUnder "silver/trips"))
    obtain ⟨months, keys, good, rfl⟩ := silver_months (fun key member =>
      stored key (List.mem_filter.mp (arranged.mem_iff.mp member)).2) parsed
    have perm :
        (months.map fun month => silverKey month.1).Perm
          (lake.keys.filter (Reset.isUnder "silver/trips")) := by
      rw [keys]
      exact arranged
    have distinct : (months.map fun month => silverKey month.1).Nodup :=
      perm.nodup_iff.mpr (List.Nodup.filter _ lake.nodupKeys)
    refine ⟨⟨months, ?_⟩, good, perm, ?_⟩
    · exact List.Nodup.of_map silverKey (by rwa [List.map_map])
    · rw [Bronze.silverTrips, List.flatMap]

theorem readSilver_genuine (sound : LakeSound site cluster answers lake) {df : List SilverTrip}
    (read : readSilver cluster lake = .ok df) : ∃ bronze, Genuine site answers bronze ∧
    df = bronze.silverTrips := by
  have stored (key : String) (_ : Reset.isUnder "silver/trips" key = true) (rows : List SilverTrip)
      (found : lake.lookup key = some (.silver rows)) :
      Kept (fun month trips => ∃ df, Landed site answers month df ∧
        df.trips = some trips) key rows := by
    obtain ⟨month, df, trips, same, landed, known, rfl⟩ := (sound key _ found).of_silver rfl
    exact ⟨month, trips, same, ⟨df, landed, known⟩, rfl⟩
  obtain ⟨bronze, genuine, _, rfl⟩ := readSilver_kept stored read
  exact ⟨bronze, genuine, rfl⟩

theorem putObject_endures (placed : Placed site cluster answers key data) :
    Endures (StoresSound site cluster answers) (putObject key data)
      (fun _ => StoresSound site cluster answers)
      (StoresSound site cluster answers) := by
  refine call_endures (fun _ => id) fun stores value next sound ran => ?_
  cases ran
  have kept :
      StoresSound site cluster answers { stores with lake := stores.lake.insert key data } :=
    ⟨sound.lake.insert placed, sound.tables⟩
  exact ⟨kept, kept⟩

theorem elsewhere_sound {value : PUnit} :
    Endures (StoresSound site cluster answers) (elsewhere value)
    (fun _ => StoresSound site cluster answers) (StoresSound site cluster answers) :=
  (elsewhere_endures fun _ => id).weaken (fun _ => id) (fun _ _ kept => kept.2) fun _ => id

end Lake

section Silver

variable {site cluster answers} {month : Int × Int} {builtins : Builtins}

theorem readBronze_endures (nameable : Nameable month) : Endures (StoresSound site cluster answers)
    (readBronze month.1 month.2)
    (fun trips stores => (∃ df, Landed site answers month df ∧ df.trips = some trips) ∧
      StoresSound site cluster answers stores) (StoresSound site cluster answers) := by
  refine call_endures (fun _ => id) fun stores trips next sound ran => ?_
  rw [objectKey_bronzePath] at ran
  split at ran
  next df stored =>
    split at ran
    next rows read =>
      cases ran
      obtain ⟨other, same, landed⟩ := (sound.lake _ _ stored).of_bronze rfl
      cases bronzeKey_injective nameable landed.nameable same
      exact ⟨⟨⟨df, landed, read⟩, sound⟩, sound⟩
    · cases ran
  · cases ran
  · cases ran

theorem validatePeriod_endures (nameable : Nameable month) :
    Endures (StoresSound site cluster answers)
    (validatePeriod month.1 month.2) (fun _ => StoresSound site cluster answers)
    (StoresSound site cluster answers) := by
  refine .bind (readBronze_endures nameable) fun trips => .given fun source => ?_
  obtain ⟨df, landed, read⟩ := source
  refine .bind elsewhere_sound fun _ => .bind (putObject_endures ?_) fun _ => ?_
  · have path : objectKey (processPeriod month.1 month.2 trips).trips.1 = silverKey month :=
      objectKey_silverPath
    rw [path]
    exact .silver landed read
  · have quarantined : (Program.forEach (processPeriod month.1 month.2 trips).quarantine fun file =>
        putObject (objectKey file.1) (.quarantine file.2)).Maintains fun world =>
          StoresSound site cluster answers world.stores := by
      refine .forEach fun file member => (putObject_endures ?_).maintains
      rw [quarantine_eq] at member
      obtain ⟨category, _, rfl⟩ := List.mem_map.mp member
      dsimp only
      rw [objectKey_quarantinePath]
      exact .quarantine landed read
    refine .bind (.of_maintains quarantined) fun _ => .bind elsewhere_sound fun _ => ?_
    exact .pure (fun _ => id) fun _ => id

theorem listing_endures {Value : Type} {answer : List String → Value} :
    Endures (StoresSound site cluster answers)
    (Reset.listing answer) (fun _ => StoresSound site cluster answers)
    (StoresSound site cluster answers) := by
  refine call_endures (fun _ => id) fun stores value next sound ran => ?_
  cases ran
  exact ⟨sound, sound⟩

theorem bronzePeriods_endures : Endures (StoresSound site cluster answers) (bronzePeriods builtins)
    (fun periods stores => (∀ month ∈ periods, Nameable month) ∧
      StoresSound site cluster answers stores)
    (StoresSound site cluster answers) := by
  refine .bind listing_endures fun present => ?_
  split
  · exact .pure (fun _ sound => ⟨nofun, sound⟩) fun _ => id
  · refine .bind listing_endures fun names => ?_
    refine (fromExcept_endures fun _ => id).weaken (fun _ => id) (fun _ _ read => ?_) fun _ => id
    exact ⟨nameable_periods read.1, read.2⟩

variable (builtins) in
theorem silver_maintains :
    (Worker.silver (lakeServices cluster (base builtins)) (.object []) published).Maintains
    fun world => StoresSound site cluster answers world.stores := by
  refine tryJob_maintains published_maintains ?_ fun _ _ sound => sound
  refine Program.Withstands.maintains_bind (.outer bronzePeriods_endures) fun periods =>
    .given fun named => ?_
  refine .of_maintains (.bind (.forEach fun month member => ?_) fun _ => .pure)
  refine .bind (.outer (validatePeriod_endures (named month member)).maintains) fun report => ?_
  exact .bind (log_maintains published_maintains _) fun _ _ sound => sound

end Silver

section Gold

variable {site cluster answers} {job other : GoldModule} {tables : Reset.Tables Data}
  {rows : List GoldRow}
variable {start stores : Reset.Stores Data} {builtins : Builtins}

theorem build_nil (spark : Spark) (known : job ∈ goldModules) : job.build spark [] = [] := by
  simp only [goldModules, List.mem_cons, List.not_mem_nil, or_false] at known
  rcases known with rfl | rfl | rfl | rfl
  · simp [dailyRevenue, DailyRevenue.build, orderBy, inYear, groupBy]
  · simp [hourlyDemand, HourlyDemand.build, orderBy, groupBy]
  · simp [zoneStats, ZoneStats.build, groupBy]
  · simp [congestionMetrics, CongestionMetrics.build, orderBy, inYear, groupBy]

theorem built_nil (known : job ∈ goldModules) : Built site cluster answers job [] :=
  ⟨⟨[], List.nodup_nil⟩, nofun, (build_nil cluster.toSpark known).symm⟩

theorem StoresSound.built (sound : StoresSound site cluster answers start)
    (builds : Builds cluster job start rows) : Built site cluster answers job rows := by
  obtain ⟨df, read, rfl⟩ := builds
  obtain ⟨bronze, genuine, rfl⟩ := readSilver_genuine sound.lake read
  exact ⟨bronze, genuine, rfl⟩

theorem TablesSound.written (sound : TablesSound site cluster answers tables)
    (known : job ∈ goldModules)
    (built : Built site cluster answers job rows) :
    TablesSound site cluster answers (job.written rows tables) := by
  intro other otherKnown stored found
  by_cases same : other.goldTable = job.goldTable
  · cases goldTable_injective known otherKnown same
    rw [GoldModule.written, AList.lookup_insert] at found
    cases found
    exact ⟨rows, built, rfl⟩
  · rw [GoldModule.written, AList.lookup_insert_ne same] at found
    exact sound other otherKnown stored found

theorem StoresSound.touched (sound : StoresSound site cluster answers start)
    (known : job ∈ goldModules)
    (touched : Touched cluster job start stores) : StoresSound site cluster answers stores where
  lake := by
    intro key data found
    cases under : Reset.isUnder job.directory key with
    | false =>
      rw [touched.lake.lookup key under] at found
      exact sound.lake key data found
    | true =>
      rcases touched.inside key data under found with before | ⟨rfl, rfl⟩ | ⟨rfl, rows, builds, rfl⟩
      · exact sound.lake key data before
      · exact .marker known
      · exact .part known (sound.built builds)
  tables := by
    rcases touched.tables with same | ⟨rows, builds, same⟩
    · rw [same]
      exact sound.tables
    · rw [same]
      exact sound.tables.written known (sound.built builds)

theorem runGold_maintains (name : String) :
    (runGold cluster name).Maintains fun world =>
      StoresSound site cluster answers world.stores := by
  unfold runGold
  split
  next job found =>
    have known := List.mem_of_find?_eq_some found
    intro world sound
    exact sound.touched known ((run_endures known).stops world rfl)
  · exact .raise

variable (builtins) in
theorem gold_maintains :
    (Worker.gold (lakeServices cluster (base builtins)) (.object []) published).Maintains
    fun world => StoresSound site cluster answers world.stores := by
  refine tryJob_maintains published_maintains ?_ fun _ _ sound => sound
  refine .bind (.forEach fun name _ => ?_) fun _ => .pure
  exact .bind (.outer (runGold_maintains name)) fun path => log_maintains published_maintains _

end Gold

section Reset

variable {site cluster answers} {start stores : Reset.Stores Data}

theorem StoresSound.reduced (sound : StoresSound site cluster answers start)
    (reduced : Reset.Reduced start stores) : StoresSound site cluster answers stores where
  lake key data found := sound.lake key data (reduced.lake key data found)
  tables := by
    intro job known rows found
    rcases reduced.tables job.goldTable rows found with rfl | before
    · exact ⟨[], built_nil known, rfl⟩
    · exact sound.tables job known rows before

end Reset

section Histories

variable {site cluster answers} {servers : Reset.Servers} {builtins : Builtins} {tlc : Tlc}

theorem Served.later {month : Int × Int} {bytes : Bytes} (served : Served answers month bytes) :
    Served (tlc :: answers) month bytes := by
  obtain ⟨asked, known, fine⟩ := served
  exact ⟨asked, List.mem_cons_of_mem tlc known, fine⟩

theorem Landed.later {month : Int × Int} {df : DataFrame} (landed : Landed site answers month df) :
    Landed site (tlc :: answers) month df := by
  obtain ⟨bytes, served, decoded⟩ := landed.source
  exact ⟨landed.nameable, ⟨bytes, served.later, decoded⟩, landed.valid⟩

theorem Built.later {job : GoldModule} {rows : List GoldRow}
    (built : Built site cluster answers job rows) :
    Built site cluster (tlc :: answers) job rows := by
  obtain ⟨bronze, genuine, same⟩ := built
  refine ⟨bronze, fun month member => ?_, same⟩
  obtain ⟨df, landed, read⟩ := genuine month member
  exact ⟨df, landed.later, read⟩

theorem Placed.later {key : String} {data : Data} (placed : Placed site cluster answers key data) :
    Placed site cluster (tlc :: answers) key data := by
  cases placed with
  | bronze landed => exact .bronze landed.later
  | silver landed read => exact .silver landed.later read
  | quarantine landed read => exact .quarantine landed.later read
  | part known built => exact .part known built.later
  | marker known => exact .marker known

theorem RawSound.later {raw : AList fun _ : String => Bytes} (sound : RawSound site answers raw) :
    RawSound site (tlc :: answers) raw where
  names := sound.names
  whole month bytes nameable found := (sound.whole month bytes nameable found).later

theorem TablesSound.later {tables : Reset.Tables Data}
    (sound : TablesSound site cluster answers tables) :
    TablesSound site cluster (tlc :: answers) tables := by
  intro job known rows found
  obtain ⟨built, source, same⟩ := sound job known rows found
  exact ⟨built, source.later, same⟩

theorem execute_sound {handler : Handler World} (fates : List Fate) {stores : Reset.Stores Data}
    (maintains : (handler (.object []) published).Maintains fun world =>
      StoresSound site cluster answers world.stores)
    (sound : StoresSound site cluster answers stores) :
    StoresSound site cluster answers (execute handler fates stores).2 := by
  have kept := maintains ⟨{ stores with transaction := none }, fates⟩ ⟨sound.lake, sound.tables⟩
  exact ⟨kept.lake, kept.tables⟩

theorem Sound.landing {state : State} (sound : Sound site cluster state) (tlc : Tlc) :
    LandingSound site cluster (tlc :: state.answers) state.stores.lake state.landing where
  raw := sound.raw.later
  lake key data found := (sound.lake key data found).later
  kept _ := id
  others _ _ := rfl

theorem step_sound {state next : State} {event : Event} (sound : Sound site cluster state)
    (taken : (system site cluster servers builtins).step state event = some next) :
    Sound site cluster next := by
  have stores : StoresSound site cluster state.answers state.stores := ⟨sound.lake, sound.tables⟩
  cases event with
  | ingest tlc params fates =>
    cases taken
    have landing := sound.landing tlc
    have kept :=
      ingest_maintains site cluster (tlc :: state.answers) state.stores.lake (base builtins)
        List.mem_cons_self
      params ⟨state.landing, fates⟩ landing
    exact ⟨kept.raw, kept.lake, sound.tables.later⟩
  | download tlc start finish force fates =>
    cases taken
    have kept :=
      downloadRange_maintains site cluster (tlc :: state.answers) state.stores.lake builtins
        List.mem_cons_self
      start finish force ⟨state.landing, fates⟩ (sound.landing tlc)
    exact ⟨kept.raw, kept.lake, sound.tables.later⟩
  | silver fates =>
    cases taken
    have kept := execute_sound fates (silver_maintains builtins) stores
    exact ⟨sound.raw, kept.lake, kept.tables⟩
  | gold fates =>
    cases taken
    have kept := execute_sound fates (gold_maintains builtins) stores
    exact ⟨sound.raw, kept.lake, kept.tables⟩
  | features rows redis =>
    cases taken
    refine ⟨sound.raw, sound.lake, fun job known stored found => ?_⟩
    have other : job.goldTable ≠ "zone_hour_features" := by
      simp only [goldModules, List.mem_cons, List.not_mem_nil, or_false] at known
      rcases known with rfl | rfl | rfl | rfl <;> decide
    change AList.lookup job.goldTable (state.stores.tables.insert _ rows) = some stored at found
    rw [AList.lookup_insert_ne other] at found
    exact sound.tables job known stored found
  | reset params fates =>
    cases taken
    have closed :
        StoresSound site cluster state.answers { state.stores with transaction := none } :=
      ⟨sound.lake, sound.tables⟩
    have kept :=
      closed.reduced (Reset.runReset_reduced servers (base builtins) params fates state.stores)
    exact ⟨sound.raw, kept.lake, kept.tables⟩

theorem init_sound : Sound site cluster (system site cluster servers builtins).init := by
  refine ⟨⟨nofun, fun month bytes _ found => ?_⟩, fun key data found => ?_,
    fun job _ rows found => ?_⟩
  · cases found
  · cases found
  · cases found

/-- In every history, whatever fails and wherever jobs are killed: a raw file under its final name
is the whole body that TLC answered for its month, an object of Bronze is what pandas reads in such
a file and has passed the gate, an object of Silver or of the quarantine is what the validator makes
of such a month, and every Gold table and Parquet file is built as a whole from months like
these. -/
theorem warehouse_sound {state : State}
    (reachable : (system site cluster servers builtins).Reachable state) :
    Sound site cluster state :=
  reachable.preserves (fun _ _ _ sound _ taken => step_sound sound taken) init_sound

end Histories

section Example

def single (dtype : Dtype) (value : dtype.Value) : Series := ⟨dtype, [value]⟩

def amount (value : ℚ) : Series := single .float64 (some (exact value) : Float64)

/-- A trip of half an hour and two miles on the first day of 2024. -/
def oneTrip : DataFrame where
  columns := [("VendorID", single .int32 (1 : Int)),
    ("tpep_pickup_datetime", single .datetime64us (some 1704112200000000 : Datetime)),
    ("tpep_dropoff_datetime", single .datetime64us (some 1704114000000000 : Datetime)),
    ("passenger_count", amount 1), ("trip_distance", amount 2), ("RatecodeID", amount 1),
    ("store_and_fwd_flag", single .object (some "N" : Option String)),
    ("PULocationID", single .int32 (132 : Int)),
    ("DOLocationID", single .int32 (236 : Int)), ("payment_type", single .int64 (1 : Int)),
    ("fare_amount", amount 10),
    ("extra", amount 0), ("mta_tax", amount 0), ("tip_amount", amount 2),
    ("tolls_amount", amount 0),
    ("improvement_surcharge", amount 1), ("total_amount", amount 13),
    ("congestion_surcharge", amount 0), ("Airport_fee", amount 0)]
  length := 1
  aligned := by decide
  distinct := by decide

/-- The bytes of its Parquet file, of which only the first few are of interest. -/
def parquetFile : List Bytes := [[80, 65], [82, 49]]

def plainSite : Site where
  rawDir := "data/raw"
  decode bytes :=
    if bytes = parquetFile.flatten then .ok oneTrip
    else .error (.exception "ArrowInvalid" "Not a Parquet file")

def plainCluster : Cluster where
  sum values := values.head?.join
  avg values := values.head?.join
  arrange := id
  arrange_perm := List.Perm.refl
  uuid := "0000"

def plainBuiltins : Builtins := (@nothingElse Unit).builtins

def published2024 : Tlc := fun _ _ => ⟨200, "OK", parquetFile⟩

def january : Json := .object [("start", .string "2024-01"), ("end", .string "2024-01")]

def filled : State :=
  (runIngest plainSite plainBuiltins published2024 january []
    (system plainSite plainCluster Reset.plainServers plainBuiltins).init).2

theorem filled_step : (system plainSite plainCluster Reset.plainServers plainBuiltins).step
    (system plainSite plainCluster Reset.plainServers plainBuiltins).init
    (.ingest published2024 january []) =
      some filled := rfl

/-- The range of one month is computed by recursion on how far the end is. -/
theorem ingest_january :
    Worker.ingest (ingestServices plainSite published2024 (base plainBuiltins)) january =
    fun onLogLine =>
      tryJob onLogLine (⟨0, 0, []⟩ : IngestLocals) (fun locals => orNone locals.rowsProcessed)
      (ingestAll (ingestServices plainSite published2024 (base plainBuiltins)) onLogLine
        (some [(2024, 1)]))
      fun _ => ingestResult := by
  have range : monthsFrom 2024 1 2024 1 = [(2024, 1)] := by simp [monthsFrom]
  have periods : ingestPeriods plainBuiltins january = .ok (some (monthsFrom 2024 1 2024 1)) := rfl
  unfold Worker.ingest
  rw [show (ingestServices plainSite published2024 (base plainBuiltins)).builtins =
    plainBuiltins from rfl, periods, range]
  rfl

theorem warehouse_sound_filled : bronzeKey (2024, 1) ∈ filled.stores.lake ∧
    Sound plainSite plainCluster filled := by
  have sound : Sound plainSite plainCluster filled :=
    warehouse_sound (TransitionSystem.leads_of_step filled_step)
  refine ⟨?_, sound⟩
  unfold filled runIngest
  rw [ingest_january]
  decide +kernel

end Example

end OpenScale.Warehouse
