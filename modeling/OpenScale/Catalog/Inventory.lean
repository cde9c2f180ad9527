import OpenScale.Catalog.Lake
import OpenScale.Warehouse.Current

/-! The lake browser over the histories of the warehouse: it shows every object but the markers of
Spark, each of them once, even if jobs change the lake between its seven listings. -/

namespace OpenScale.Catalog

open OpenScale.Library OpenScale.Library.Python OpenScale.Ingestion OpenScale.Warehouse

abbrev Stat := String → Data → Int × Int

variable (stat : Stat) (lake : Objects)

/-- The objects whose keys have this prefix, in the order of the keys. -/
def objectsUnder (lakePrefix : String) : List Object :=
  (sorted (lake.keys.filter fun key => lakePrefix.toList.isPrefixOf key.toList)).filterMap
    fun key =>
    (lake.lookup key).map fun data => ⟨key, (stat key data).1, (stat key data).2⟩

def listObjects (lakePrefix : String) : List ObjectInfo :=
  (objectsUnder stat lake lakePrefix).map .object

/-- The catalog when each of the seven requests finds the lake in a state of its own. -/
def catalog (lakeAt : String → Objects) : LakeCatalog :=
  list fun lakePrefix => listObjects stat (lakeAt lakePrefix) lakePrefix

def IsMarker (key : String) : Prop := ∃ job ∈ goldModules, key = job.markerKey

instance (key : String) : Decidable (IsMarker key) :=
  inferInstanceAs (Decidable (∃ job ∈ goldModules, key = job.markerKey))

/-- What the catalog says of the lakes that its requests found. -/
structure Inventory (lakeAt : String → Objects) (catalog : LakeCatalog) : Prop where
  reachable : catalog.reachable = true
  places : catalog.layers.map (fun layer => (layer.name, layer.lakePrefix)) = lakePrefixes
  listed : ∀ layer ∈ catalog.layers, ∀ key, key ∈ layer.objects.map Object.key ↔
    key ∈ lakeAt layer.lakePrefix ∧ layer.lakePrefix.toList <+: key.toList ∧ ¬IsMarker key
  totals : ∀ layer ∈ catalog.layers, layer.objectCount = layer.objects.length ∧
    layer.totalBytes = (layer.objects.map Object.sizeBytes).sum.bmod (2 ^ 64)
  once : ((catalog.layers.flatMap LakeLayer.objects).map Object.key).Nodup

section Keys

variable {site : Site} {cluster : Cluster} {answers : List Tlc} {key : String} {data : Data}

theorem isNoise_iff : isNoise key = true ↔ "_SUCCESS".toList <:+ key.toList ∨
    "/".toList <:+ key.toList := by
  simp [isNoise, List.isSuffixOf_iff_suffix]

theorem isNoise_of_parquet (parquet : ".parquet".toList <:+ key.toList) : isNoise key = false := by
  rw [Bool.eq_false_iff]
  intro noise
  rcases isNoise_iff.mp noise with marker | placeholder
  · rcases List.suffix_or_suffix_of_suffix parquet marker with same | same
    · exact absurd same (by decide)
    · exact absurd same (by decide)
  · rcases List.suffix_or_suffix_of_suffix parquet placeholder with same | same
    · exact absurd same (by decide)
    · exact absurd same (by decide)

theorem suffix_objectAt {directory front ending : String} :
    ending.toList <:+ (objectAt directory (front ++ ending)).toList := by
  rw [toList_objectAt, String.toList_append]
  exact ⟨directory.toList ++ '/' :: front.toList, by simp⟩

theorem isNoise_markerKey {job : GoldModule} : isNoise job.markerKey = true := by
  refine isNoise_iff.mpr (.inl ?_)
  rw [GoldModule.markerKey, ← String.empty_append (s := "_SUCCESS")]
  exact suffix_objectAt

theorem isNoise_partKey {job : GoldModule} : isNoise (job.partKey cluster) = false := by
  refine isNoise_of_parquet ?_
  rw [GoldModule.partKey, show "-c000.snappy.parquet" = "-c000.snappy" ++ ".parquet" by decide,
    ← String.append_assoc]
  exact suffix_objectAt

theorem isNoise_placed (placed : Placed site cluster answers key data) : isNoise key = true ↔
    IsMarker key := by
  have shown {key : String} (quiet : isNoise key = false) : isNoise key = true ↔ IsMarker key := by
    rw [quiet]
    refine iff_of_false Bool.false_ne_true ?_
    rintro ⟨job, known, rfl⟩
    exact Bool.false_ne_true (quiet.symm.trans isNoise_markerKey)
  cases placed with
  | bronze landed => exact shown (isNoise_of_parquet suffix_objectAt)
  | silver landed read => exact shown (isNoise_of_parquet suffix_objectAt)
  | quarantine landed read => exact shown (isNoise_of_parquet suffix_objectAt)
  | part known built => exact shown isNoise_partKey
  | @marker job known => exact iff_of_true isNoise_markerKey ⟨job, known, rfl⟩

end Keys

section Layers

variable {stat lake} {lakeAt : String → Objects} {place : String × String}

theorem keys_objectsUnder (lakePrefix : String) :
    (objectsUnder stat lake lakePrefix).map Object.key =
    sorted (lake.keys.filter fun key => lakePrefix.toList.isPrefixOf key.toList) := by
  rw [objectsUnder, List.map_filterMap]
  refine (List.filterMap_congr fun key member => ?_).trans List.filterMap_some
  have present : key ∈ lake := (List.mem_filter.mp ((List.mergeSort_perm _ _).mem_iff.mp member)).1
  obtain ⟨data, found⟩ := Option.isSome_iff_exists.mp (AList.lookup_isSome.mpr present)
  rw [found]
  rfl

variable (stat lakeAt) in
def layerAt (place : String × String) : LakeLayer :=
  layerOf place.1 place.2
    (some ((objectsUnder stat (lakeAt place.2) place.2).filter fun object => !isNoise object.key))

theorem catalog_eq : catalog stat lakeAt = ⟨lakePrefixes.map (layerAt stat lakeAt), true⟩ := by
  have listed : ∀ place ∈ lakePrefixes,
      outcome (fun lakePrefix => listObjects stat (lakeAt lakePrefix) lakePrefix) place =
      .ok (layerAt stat lakeAt place) := by
    intro place _
    rw [outcome, listObjects, listPrefix_objects]
    rfl
  rw [catalog, list, layersLoop_ok listed, List.nil_append]

theorem objects_layerAt : (layerAt stat lakeAt place).objects =
    (objectsUnder stat (lakeAt place.2) place.2).filter fun object => !isNoise object.key := rfl

theorem keys_layerAt : ((layerAt stat lakeAt place).objects.map Object.key) =
    (sorted ((lakeAt place.2).keys.filter fun key => place.2.toList.isPrefixOf key.toList)).filter
      fun key => !isNoise key := by
  rw [← keys_objectsUnder, objects_layerAt, List.filter_map]
  rfl

theorem keys_layerAt_nodup : ((layerAt stat lakeAt place).objects.map Object.key).Nodup := by
  rw [keys_layerAt]
  have distinct : (lakeAt place.2).keys.Nodup := (lakeAt place.2).nodupKeys
  exact ((List.mergeSort_perm _ _).nodup_iff.mpr (distinct.filter _)).filter _

theorem mem_layerAt {key : String} : key ∈ (layerAt stat lakeAt place).objects.map Object.key ↔
    key ∈ lakeAt place.2 ∧ place.2.toList <+: key.toList ∧ isNoise key = false := by
  rw [keys_layerAt, List.mem_filter, sorted, (List.mergeSort_perm _ _).mem_iff, List.mem_filter,
    List.isPrefixOf_iff_prefix, and_assoc, Bool.not_eq_true', AList.mem_keys]

theorem directory_of_place (known : place ∈ lakePrefixes) :
    ∃ directory ∈ directories, place.2 = directory ++ "/" := by
  have places : lakePrefixes.map Prod.snd = directories.map (· ++ "/") := by decide
  obtain ⟨directory, member, same⟩ := List.mem_map.mp (places ▸ List.mem_map_of_mem known)
  exact ⟨directory, member, same.symm⟩

theorem totalBytes_eq (objects : List Object) :
    totalBytes objects = (objects.map Object.sizeBytes).sum.bmod (2 ^ 64) := by
  have loop : ∀ total : Int,
      objects.foldl (fun total object => (total + object.sizeBytes).bmod (2 ^ 64))
        (total.bmod (2 ^ 64)) = (total + (objects.map Object.sizeBytes).sum).bmod (2 ^ 64) := by
    induction objects with
    | nil => simp
    | cons object objects ih =>
      intro total
      rw [List.foldl_cons, Int.bmod_add_bmod, ih, List.map_cons, List.sum_cons, add_assoc]
  have start := loop 0
  rwa [zero_add, Int.zero_bmod] at start

end Layers

section Histories

variable {site : Site} {cluster : Cluster} {answers : List Tlc} {servers : Reset.Servers}
  {builtins : Builtins}
variable {lakeAt : String → Objects} {lake}

theorem mem_objects {key : String} (sound : LakeSound site cluster answers lake)
    (present : key ∈ lake) : isNoise key = false ↔ ¬IsMarker key := by
  obtain ⟨data, found⟩ := Option.isSome_iff_exists.mp (AList.lookup_isSome.mpr present)
  rw [← isNoise_placed (sound key data found), Bool.not_eq_true]

theorem inventory_of_sound
    (sound : ∀ lakePrefix, ∃ answers, LakeSound site cluster answers (lakeAt lakePrefix)) :
    Inventory lakeAt (catalog stat lakeAt) := by
  rw [catalog_eq]
  refine ⟨rfl, ?_, ?_, ?_, ?_⟩
  · rw [List.map_map]
    exact List.map_id _
  · intro layer member key
    obtain ⟨place, _, rfl⟩ := List.mem_map.mp member
    obtain ⟨answers, sound⟩ := sound place.2
    rw [mem_layerAt]
    exact and_congr_right fun present => and_congr_right fun _ => mem_objects sound present
  · intro layer member
    obtain ⟨place, _, rfl⟩ := List.mem_map.mp member
    exact ⟨rfl, totalBytes_eq _⟩
  · rw [List.map_flatMap, List.nodup_flatMap]
    constructor
    · intro layer member
      obtain ⟨place, _, rfl⟩ := List.mem_map.mp member
      exact keys_layerAt_nodup
    · rw [List.pairwise_map]
      have apart : lakePrefixes.Pairwise fun place other => place.2 ≠ other.2 := by decide
      refine apart.imp_of_mem fun {place other} known otherKnown differ key here there => ?_
      obtain ⟨directory, member, same⟩ := directory_of_place known
      obtain ⟨second, secondMember, secondSame⟩ := directory_of_place otherKnown
      have under := (mem_layerAt.mp here).2.1
      have secondUnder := (mem_layerAt.mp there).2.1
      rw [same] at under
      rw [secondSame] at secondUnder
      have directories :=
        directory_unique member secondMember (List.isPrefixOf_iff_prefix.mpr under)
        (List.isPrefixOf_iff_prefix.mpr secondUnder)
      exact differ (by rw [same, secondSame, directories])

theorem lake_of_reachable {state : State}
    (reachable : (system site cluster servers builtins).Reachable state) :
    LakeSound site cluster state.answers state.stores.lake :=
  (reachable.preserves (fun _ _ _ sound _ taken => step_sound sound taken) init_sound).lake

theorem placed_directory {key : String} {data : Data}
    (placed : Placed site cluster answers key data) :
    ∃ directory ∈ directories, Reset.isUnder directory key = true := by
  cases placed with
  | bronze landed => exact ⟨_, by decide, bronzeKey_under⟩
  | silver landed read => exact ⟨_, by decide, silverKey_under⟩
  | quarantine landed read => exact ⟨"silver/quarantine", by decide, isUnder_objectAt⟩
  | part known built => exact ⟨_, directory_known known, partKey_under⟩
  | marker known => exact ⟨_, directory_known known, markerKey_under⟩

/-- The browser shows each object of the lake once and in the right layer, and of them all it leaves
out the markers of Spark only. Where jobs run between its seven requests, each layer shows the lake
as its own request found it, and still nothing appears twice. -/
theorem catalog_lists_lake {stateAt : String → State}
    (reachable : ∀ lakePrefix,
      (system site cluster servers builtins).Reachable (stateAt lakePrefix)) :
    Inventory (fun lakePrefix => (stateAt lakePrefix).stores.lake)
        (catalog stat fun lakePrefix => (stateAt lakePrefix).stores.lake) ∧
      ∀ lakePrefix, (((catalog stat fun _ => (stateAt lakePrefix).stores.lake).layers.flatMap
        LakeLayer.objects).map Object.key).Perm
          ((stateAt lakePrefix).stores.lake.keys.filter fun key => ¬IsMarker key) := by
  refine ⟨inventory_of_sound stat fun lakePrefix => ⟨_, lake_of_reachable (reachable lakePrefix)⟩,
    fun lakePrefix => ?_⟩
  have sound := lake_of_reachable (reachable lakePrefix)
  have inventory : Inventory (fun _ => (stateAt lakePrefix).stores.lake)
      (catalog stat fun _ => (stateAt lakePrefix).stores.lake) :=
        inventory_of_sound stat fun _ => ⟨_, sound⟩
  have distinct : (stateAt lakePrefix).stores.lake.keys.Nodup :=
    (stateAt lakePrefix).stores.lake.nodupKeys
  refine (List.perm_ext_iff_of_nodup inventory.once (distinct.filter _)).mpr fun key => ?_
  rw [List.mem_filter, List.map_flatMap, List.mem_flatMap, decide_eq_true_iff]
  constructor
  · rintro ⟨layer, member, shown⟩
    obtain ⟨present, _, data⟩ := (inventory.listed layer member key).mp shown
    exact ⟨present, data⟩
  · rintro ⟨present, unmarked⟩
    obtain ⟨data, found⟩ := Option.isSome_iff_exists.mp (AList.lookup_isSome.mpr present)
    obtain ⟨directory, known, under⟩ := placed_directory (sound key data found)
    have place : ∃ layer ∈ (catalog stat fun _ => (stateAt lakePrefix).stores.lake).layers,
        layer.lakePrefix = directory ++ "/" := by
      have places : ∀ directory ∈ directories, ∃ place ∈ lakePrefixes,
          place.2 = directory ++ "/" := by decide
      obtain ⟨place, member, same⟩ := places directory known
      obtain ⟨layer, inside, pair⟩ := List.mem_map.mp (inventory.places ▸ member)
      exact ⟨layer, inside, by rw [← same, ← pair]⟩
    obtain ⟨layer, member, same⟩ := place
    refine ⟨layer, member, (inventory.listed layer member key).mpr ⟨present, ?_, unmarked⟩⟩
    rw [same]
    exact List.isPrefixOf_iff_prefix.mp under

def built : State := validated.with (runGoldJob plainCluster plainBuiltins [] validated.stores).2

theorem reachable_built :
    (system plainSite plainCluster Reset.plainServers plainBuiltins).Reachable built := by
  have first : (system plainSite plainCluster Reset.plainServers plainBuiltins).Reachable
      Warehouse.filled :=
    TransitionSystem.leads_of_step filled_step
  have silver : (system plainSite plainCluster Reset.plainServers plainBuiltins).step
      Warehouse.filled (.silver []) = some validated := rfl
  have gold : (system plainSite plainCluster Reset.plainServers plainBuiltins).step
      validated (.gold []) = some built := rfl
  exact (first.snoc trivial silver).snoc trivial gold

theorem built_jobs : Warehouse.filled.stores.lake.keys = [bronzeKey (2024, 1)] ∧
    built.stores.lake.keys.length = 15 ∧ (∀ job ∈ goldModules, job.markerKey ∈ built.stores.lake) ∧
    Reset.succeeded (runReset Reset.plainServers plainBuiltins .null [] built.stores).1 = true := by
  unfold built validated Warehouse.filled runIngest
  rw [ingest_january]
  decide +kernel

/-- The first two requests come after the ingestion of a month, and the others after the two jobs
that follow. -/
def whileBuilding (lakePrefix : String) : State :=
  if lakePrefix ∈ ["bronze/yellow_taxi/", "silver/trips/"] then Warehouse.filled else built

theorem catalog_lists_lake_building :
    (Warehouse.filled.stores.lake.keys = [bronzeKey (2024, 1)] ∧
      built.stores.lake.keys.length = 15 ∧
      ∀ job ∈ goldModules, job.markerKey ∈ built.stores.lake) ∧
    Inventory (fun lakePrefix => (whileBuilding lakePrefix).stores.lake)
      (catalog (fun _ _ => (1024, 0)) fun lakePrefix => (whileBuilding lakePrefix).stores.lake) ∧
    (((catalog (fun _ _ => (1024, 0)) fun _ => built.stores.lake).layers.flatMap
      LakeLayer.objects).map
      Object.key).Perm (built.stores.lake.keys.filter fun key => ¬IsMarker key) := by
  have reachable (lakePrefix : String) :
      (system plainSite plainCluster Reset.plainServers plainBuiltins).Reachable
        (whileBuilding lakePrefix) := by
    unfold whileBuilding
    split
    · exact TransitionSystem.leads_of_step filled_step
    · exact reachable_built
  obtain ⟨bronze, whole, markers, _⟩ := built_jobs
  obtain ⟨inventory, each⟩ := catalog_lists_lake (fun _ _ => (1024, 0)) reachable
  exact ⟨⟨bronze, whole, markers⟩, inventory, each "gold/zone_stats/"⟩

end Histories

section Jobs

variable {cluster : Cluster} {servers : Reset.Servers} {builtins : Builtins} {params : Json}
  {fates : List Fate}
variable {start : Reset.Stores Data}

theorem panel_eq_empty {lakeAt : String → Objects}
    (bare : ∀ place ∈ lakePrefixes, (layerAt stat lakeAt place).objects = []) :
    panel false false (some (catalog stat lakeAt)) = .empty := by
  have none_ : (lakePrefixes.map (layerAt stat lakeAt)).all (fun layer => layer.objectCount = 0) =
      true := by
    rw [List.all_map, List.all_eq_true]
    intro place member
    have count : (layerAt stat lakeAt place).objectCount =
        (layerAt stat lakeAt place).objects.length := rfl
    simp [count, bare place member]
  rw [catalog_eq, panel, if_neg Bool.false_ne_true]
  dsimp only
  rw [if_neg Bool.false_ne_true, Bool.not_true, if_neg Bool.false_ne_true, if_pos none_]

/-- Every layer is in one of the three parts of the lake that a reset deletes. -/
theorem inLake_of_place {place : String × String} (known : place ∈ lakePrefixes) {key : String}
    (under : place.2.toList <+: key.toList) : Reset.InLake key := by
  have parts : ∀ place ∈ lakePrefixes, ∃ part ∈ Worker.lakePrefixes,
      (part ++ "/").toList <+: place.2.toList := by decide
  obtain ⟨part, member, inside⟩ := parts place known
  exact ⟨part, member, List.isPrefixOf_iff_prefix.mpr (inside.trans under)⟩

/-- What the browser shows after two of the jobs: nothing after a reset that succeeds, and after a
gold job that succeeds one file in each layer of Gold, whatever the directories had before. -/
theorem browser_after_jobs :
    (Reset.succeeded (runReset servers builtins params fates start).1 = true →
      panel false false
        (some (catalog stat fun _ => (runReset servers builtins params fates start).2.lake)) =
        .empty) ∧
    (Reset.succeeded (runGoldJob cluster builtins fates start).1 = true →
      ∀ job ∈ goldModules, ∀ name,
      (layerAt stat (fun _ => (runGoldJob cluster builtins fates start).2.lake) (name,
        job.directory ++ "/")).objects.map
        Object.key = [job.partKey cluster]) := by
  constructor
  · intro success
    have cleared := Reset.runReset_cleared servers (base builtins) params fates start success
    refine panel_eq_empty stat fun place known => ?_
    refine List.eq_nil_iff_forall_not_mem.mpr fun object shown => ?_
    obtain ⟨present, under, _⟩ := mem_layerAt.mp (List.mem_map_of_mem shown)
    exact cleared.lake object.key present (inLake_of_place known under)
  · intro success job known name
    obtain ⟨⟨_, tables⟩, datasets⟩ := runGoldJob_delivered success
    rcases tables with ⟨none_, _⟩ | ⟨df, read, _⟩
    · cases none_
    have dataset := datasets job known df read
    refine List.perm_singleton.mp
      ((List.perm_ext_iff_of_nodup keys_layerAt_nodup (List.nodup_singleton _)).mpr fun key => ?_)
    rw [mem_layerAt, List.mem_singleton]
    constructor
    · rintro ⟨present, under, quiet⟩
      have found := AList.lookup_isSome.mpr present
      rw [dataset key (List.isPrefixOf_iff_prefix.mpr under), GoldModule.dataset] at found
      split at found
      next marker =>
        rw [marker, isNoise_markerKey] at quiet
        cases quiet
      · split at found
        next part => exact part
        · cases found
    · rintro rfl
      have differ : job.partKey cluster ≠ job.markerKey := fun same =>
        Bool.false_ne_true (isNoise_partKey.symm.trans (same ▸ isNoise_markerKey))
      refine ⟨AList.lookup_isSome.mp ?_, List.isPrefixOf_iff_prefix.mp partKey_under,
        isNoise_partKey⟩
      rw [dataset _ partKey_under, GoldModule.dataset, if_neg differ, if_pos rfl]
      rfl

theorem browser_after_jobs_built :
    panel false false (some (catalog (fun _ _ => (1024, 0)) fun _ =>
      (runReset Reset.plainServers plainBuiltins .null [] built.stores).2.lake)) = .empty ∧
    (layerAt (fun _ _ => (1024, 0))
      (fun _ => (runGoldJob plainCluster plainBuiltins [] validated.stores).2.lake)
      ("gold-zone-stats", zoneStats.directory ++ "/")).objects.map Object.key =
        [zoneStats.partKey plainCluster] := by
  have cleared :=
    @browser_after_jobs (fun _ _ => (1024, 0)) plainCluster Reset.plainServers
      plainBuiltins .null []
    built.stores
  have written :=
    @browser_after_jobs (fun _ _ => (1024, 0)) plainCluster Reset.plainServers
      plainBuiltins .null []
    validated.stores
  exact ⟨cleared.1 built_jobs.2.2.2,
    written.2 filled_jobs.2 zoneStats (by simp [goldModules]) "gold-zone-stats"⟩

end Jobs

end OpenScale.Catalog
