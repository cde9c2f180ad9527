import OpenScale.Warehouse.Gold
import OpenScale.Worker.Crash

/-! The gold job replaces the four tables one after the other. Wherever it stops, a first part of
them holds what is built from Silver, and the rest is as it was. -/

namespace OpenScale.Warehouse

open OpenScale.Library OpenScale.Library.Python OpenScale.Lake OpenScale.Ingestion
open OpenScale.Worker hiding DataFrame

section Frame

variable {directory other : String} {lake lake' last : Objects} {cluster : Cluster}

structure SameUnder (directory : String) (lake lake' : Objects) : Prop where
  listed : lake'.keys.filter (Reset.isUnder directory) = lake.keys.filter (Reset.isUnder directory)
  lookup : ∀ key, Reset.isUnder directory key = true → lake'.lookup key = lake.lookup key

theorem SameUnder.refl : SameUnder directory lake lake := ⟨rfl, fun _ _ => rfl⟩

theorem SameUnder.trans (first : SameUnder directory lake lake')
    (second : SameUnder directory lake' last) : SameUnder directory lake last where
  listed := second.listed.trans first.listed
  lookup key under := (second.lookup key under).trans (first.lookup key under)

theorem SameOutside.sameUnder (same : SameOutside directory lake lake')
    (known : directory ∈ directories)
    (otherKnown : other ∈ directories) (differ : other ≠ directory) :
    SameUnder other lake lake' where
  listed := same.listed other otherKnown differ
  lookup key under := same.lookup key (isUnder_other otherKnown known (Ne.symm differ) under)

theorem readSilver_congr (same : SameUnder "silver/trips" lake lake') :
    readSilver cluster lake' = readSilver cluster lake := by
  unfold readSilver
  rw [same.listed]
  split
  · rfl
  next files listed =>
    have read : ∀ files : List String, (∀ key ∈ files, Reset.isUnder "silver/trips" key = true) →
        files.mapM (silverRows lake') = files.mapM (silverRows lake) := by
      intro files under
      induction files with
      | nil => rfl
      | cons key files ih =>
        obtain ⟨here, later⟩ := List.forall_mem_cons.mp under
        have row : silverRows lake' key = silverRows lake key := by
          unfold silverRows
          rw [same.lookup key here]
        rw [List.mapM_cons, List.mapM_cons, row, ih later]
    rw [read _ fun key member => ?_]
    have listed := (cluster.arrange_perm _).mem_iff.mp member
    exact (List.mem_filter.mp listed).2

end Frame

/-- The directories that the gold job leaves alone. -/
def sources : List String := ["bronze/yellow_taxi", "silver/trips", "silver/quarantine"]

/-- The tables when these modules have run, in their order, over these rows of Silver. -/
def writtenBy (spark : Spark) (df : List SilverTrip) (done : List GoldModule)
    (tables : Reset.Tables Data) : Reset.Tables Data :=
  done.foldl (fun tables job => job.written (job.build spark df) tables) tables

variable (cluster : Cluster) (start : Reset.Stores Data)

/-- What is left of a batch that got through these modules. -/
structure Batch (done : List GoldModule) (stores : Reset.Stores Data) : Prop where
  lake : ∀ directory ∈ sources, SameUnder directory start.lake stores.lake
  tables : done = [] ∧ stores.tables = start.tables ∨ ∃ df, readSilver cluster start.lake = .ok df ∧
    stores.tables = writtenBy cluster.toSpark df done start.tables

/-- What is left of it when they have all returned: their datasets as well. -/
structure Delivered (done : List GoldModule) (stores : Reset.Stores Data) :
    Prop extends Batch cluster start done stores where
  datasets : ∀ job ∈ done, ∀ df, readSilver cluster start.lake = .ok df → ∀ key,
    Reset.isUnder job.directory key = true →
      stores.lake.lookup key = job.dataset cluster (job.build cluster.toSpark df) key

/-- A batch that may have stopped anywhere. -/
def Stopped (stores : Reset.Stores Data) : Prop :=
  ∃ done, done <+: goldModules ∧ Batch cluster start done stores

variable {cluster start} {done : List GoldModule} {job : GoldModule}
  {stores next : Reset.Stores Data}

theorem sources_known {directory : String} (known : job ∈ goldModules)
    (member : directory ∈ sources) : directory ∈ directories ∧ directory ≠ job.directory := by
  have apart : ∀ source ∈ sources, source ∈ directories ∧ source ≠ "gold/daily_revenue" ∧
      source ≠ "gold/hourly_demand" ∧ source ≠ "gold/zone_stats" ∧
      source ≠ "gold/congestion_metrics" := by decide
  obtain ⟨here, daily, hourly, zones, congestion⟩ := apart directory member
  refine ⟨here, ?_⟩
  simp only [goldModules, List.mem_cons, List.not_mem_nil, or_false] at known
  rcases known with rfl | rfl | rfl | rfl
  · exact daily
  · exact hourly
  · exact zones
  · exact congestion

theorem Batch.readSilver (batch : Batch cluster start done stores) :
    Warehouse.readSilver cluster stores.lake = Warehouse.readSilver cluster start.lake :=
  readSilver_congr (batch.lake _ (by decide))

theorem Batch.frame (batch : Batch cluster start done stores) (known : job ∈ goldModules)
    (same : SameOutside job.directory stores.lake next.lake) :
    ∀ directory ∈ sources, SameUnder directory start.lake next.lake := by
  intro directory member
  obtain ⟨here, differ⟩ := sources_known known member
  exact (batch.lake directory member).trans (same.sameUnder (directory_known known) here differ)

theorem Delivered.finished (batch : Delivered cluster start done stores) (known : job ∈ goldModules)
    (before : ∀ other ∈ done, other ∈ goldModules) {rows : List GoldRow}
    (built : Builds cluster job stores rows) (finished : Finished cluster job stores rows next) :
    Delivered cluster start (done ++ [job]) next where
  lake := batch.frame known finished.lake
  datasets := by
    obtain ⟨df, read, rfl⟩ := built
    rw [batch.readSilver] at read
    intro other member df' read' key under
    cases read.symm.trans read'
    by_cases same : other = job
    · subst same
      exact finished.inside key under
    · have old : other ∈ done := by simpa [same] using member
      have otherKnown := before other old
      have apart := isUnder_other (directory_known otherKnown) (directory_known known)
        (fun directories => same (directory_injective otherKnown known directories).symm) under
      rw [finished.lake.lookup key apart, batch.datasets other old df read key under]
  tables := by
    obtain ⟨df, read, rfl⟩ := built
    rw [batch.readSilver] at read
    refine .inr ⟨df, read, ?_⟩
    rw [writtenBy, List.foldl_append, finished.tables]
    rcases batch.tables with ⟨rfl, same⟩ | ⟨df', read', same⟩
    · rw [same]
      rfl
    · cases read.symm.trans read'
      rw [same]
      rfl

theorem Batch.touched (batch : Batch cluster start done stores) (known : job ∈ goldModules)
    (touched : Touched cluster job stores next) :
    Batch cluster start done next ∨ Batch cluster start (done ++ [job]) next := by
  have frame := batch.frame known touched.lake
  rcases touched.tables with same | ⟨rows, ⟨df, read, rfl⟩, same⟩
  · refine .inl ⟨frame, ?_⟩
    rw [same]
    exact batch.tables
  · rw [batch.readSilver] at read
    refine .inr ⟨frame, .inr ⟨df, read, ?_⟩⟩
    rw [writtenBy, List.foldl_append, same]
    rcases batch.tables with ⟨rfl, before⟩ | ⟨df', read', before⟩
    · rw [before]
      rfl
    · cases read.symm.trans read'
      rw [before]
      rfl

theorem next_module {visited later : List String} {name : String}
    (split : goldJobs = visited ++ name :: later) :
    ∃ job ∈ goldModules, goldModules.find? (fun job => job.name = name) = some job ∧
      goldModules.take (visited.length + 1) = goldModules.take visited.length ++ [job] := by
  unfold goldJobs at split
  rcases visited with _ | ⟨first, _ | ⟨second, _ | ⟨third, _ | ⟨fourth, rest⟩⟩⟩⟩
  · cases split
    exact ⟨dailyRevenue, by simp [goldModules], rfl, rfl⟩
  · cases split
    exact ⟨hourlyDemand, by simp [goldModules], rfl, rfl⟩
  · cases split
    exact ⟨zoneStats, by simp [goldModules], rfl, rfl⟩
  · cases split
    exact ⟨congestionMetrics, by simp [goldModules], rfl, rfl⟩
  · simp at split

section Job

variable {base : Services World}

theorem Batch.stopped {count : Nat} (batch : Batch cluster start (goldModules.take count) stores) :
    Stopped cluster start stores := ⟨_, List.take_prefix count goldModules, batch⟩

theorem round_endures {visited later : List String} {name : String}
    (split : goldJobs = visited ++ name :: later) :
    Endures (Delivered cluster start (goldModules.take visited.length)) (runGold cluster name)
      (fun _ => Delivered cluster start (goldModules.take (visited ++ [name]).length))
        (Stopped cluster start) := by
  obtain ⟨job, known, found, taken⟩ := next_module split
  rw [List.length_append, List.length_singleton, taken, runGold, found]
  refine endures_from fun middle batch => (run_endures known).weaken (fun _ => id) ?_ ?_
  · rintro _ world ⟨rows, built, finished⟩
    exact batch.finished known (fun _ => List.mem_of_mem_take) built finished
  · intro world touched
    rcases batch.toBatch.touched known touched with before | after
    · exact before.stopped
    · rw [← taken] at after
      exact after.stopped

/-- A gold job that succeeds has replaced the four tables and datasets by what is built from one and
the same Silver. However it ends, it has done so for the first few of the tables and for no other
one. -/
theorem gold_endures {params : Json} :
    Endures (· = start) (Worker.gold (lakeServices cluster base) params published)
    (fun result stores => result.status = .succeeded → Delivered cluster start goldModules stores)
    (Stopped cluster start) := by
  have begun : Delivered cluster start (goldModules.take 0) start :=
    ⟨⟨fun _ _ => .refl, .inl ⟨rfl, rfl⟩⟩, nofun⟩
  have rounds : Within (Delivered cluster start (goldModules.take 0))
      (Program.forEach goldJobs fun job => do
        let path ← Program.outer ((lakeServices cluster base).goldJob job)
        log published
          ((lakeServices cluster base).builtins.str
            (.object [("job", .string job), ("path", .string path)])) :
        Body World Unit PUnit)
      (fun _ => Delivered cluster start goldModules) (Stopped cluster start) := by
    refine within_forEach (fun visited => Delivered cluster start (goldModules.take visited.length))
      ?_ fun _ _ batch => batch.toBatch.stopped
    intro visited job later split
    refine .bind (.outer (round_endures split)) fun path => ?_
    have cut (stores : Reset.Stores Data)
        (batch : Delivered cluster start (goldModules.take (visited ++ [job]).length) stores) :
        Stopped cluster start stores :=
      batch.toBatch.stopped
    exact log_within (published_endures cut) cut _
  have tried : Within (· = start) (writeGold (lakeServices cluster base) published)
      (fun tried stores => ∃ value, tried = .inr value ∧
        Delivered cluster start goldModules stores) (Stopped cluster start) := by
    refine .bind (rounds.weaken (fun _ same => same ▸ begun) (fun _ _ => id) fun _ => id) fun _ =>
      ?_
    have whole {stores : Reset.Stores Data} (batch : Delivered cluster start goldModules stores) :
        Stopped cluster start stores :=
      ⟨_, List.prefix_rfl, batch.toBatch⟩
    exact .pure (fun _ batch => ⟨(), rfl, batch⟩) fun _ => whole
  refine tryJob_endures published_maintains tried fun _ => ⟨?_, ?_⟩
  · exact fun state value final batch run => ends_inside state value final batch run
  · exact fun state batch => ⟨_, List.prefix_rfl, batch.toBatch⟩

end Job

section Runs

variable {builtins : Builtins} {fates : List Fate}

theorem runGoldJob_stopped : Stopped cluster start (runGoldJob cluster builtins fates start).2 := by
  have endures :=
    @gold_endures cluster { start with transaction := none } (base builtins) (.object [])
  obtain ⟨last, ⟨done, first, batch⟩, same⟩ := execute_stops endures fates start rfl
  rw [runGoldJob, same]
  exact ⟨done, first, batch.lake, batch.tables⟩

theorem runGoldJob_delivered
    (success : Reset.succeeded (runGoldJob cluster builtins fates start).1 = true) :
    Delivered cluster start goldModules (runGoldJob cluster builtins fates start).2 := by
  have endures :=
    @gold_endures cluster { start with transaction := none } (base builtins) (.object [])
  obtain ⟨last, delivered, same⟩ := execute_succeeded endures rfl success
  rw [runGoldJob, same]
  exact ⟨⟨delivered.lake, delivered.tables⟩, delivered.datasets⟩

variable (cluster start builtins fates) in
theorem runGoldJob_batch :
    Stopped cluster start (runGoldJob cluster builtins fates start).2 ∧
      (Reset.succeeded (runGoldJob cluster builtins fates start).1 = true →
        Delivered cluster start goldModules (runGoldJob cluster builtins fates start).2) :=
  ⟨runGoldJob_stopped, runGoldJob_delivered⟩

end Runs

end OpenScale.Warehouse
