import OpenScale.Lake.Rules
import OpenScale.Library.Crash
import OpenScale.Library.TransitionSystem
import OpenScale.Reset.Complete
import OpenScale.Warehouse.Jobs

/-! The histories of a warehouse: jobs one after the other, each of which may fail or be killed at
any of its calls. And where what is in the stores may come from. -/

namespace OpenScale.Warehouse

open OpenScale.Library OpenScale.Library.Python OpenScale.Lake OpenScale.Ingestion
open OpenScale.Worker hiding DataFrame

structure State where
  raw : AList fun _ : String => Bytes
  stores : Reset.Stores Data
  /-- What TLC answered at the times of the downloads so far. -/
  answers : List Tlc

inductive Event where
  | ingest (tlc : Tlc) (params : Json) (fates : List Fate)
  /-- The command line of the downloader, for a range of months. -/
  | download (tlc : Tlc) (start finish : String) (force : Bool) (fates : List Fate)
  | silver (fates : List Fate)
  | gold (fates : List Fate)
  /-- What a features job leaves: rows in its table, and keys in Redis. -/
  | features (rows : List Data) (redis : AList fun _ : String => Data)
  | reset (params : Json) (fates : List Fate)

/-- A log line is published to a channel of Redis. -/
def published {Stores : Type} : OnLogLine (Fated Stores) := fun _ => elsewhere ⟨⟩

theorem published_maintains {Stores : Type} {holds : Stores → Prop} (line : String) :
    (published line).Maintains fun world : Fated Stores => holds world.stores := elsewhere_maintains

theorem published_endures {Stores : Type} {before throughout : Stores → Prop}
    (safe : ∀ stores, before stores → throughout stores) (line : String) :
    Endures before (published line) (fun _ => before) throughout :=
  (elsewhere_endures safe).weaken (fun _ => id) (fun _ _ kept => kept.2) fun _ => id

variable (site : Site) (cluster : Cluster) (servers : Reset.Servers) (builtins : Builtins)

def base {Outside : Type} : Services Outside := { nothingElse with builtins := builtins }

def State.landing (state : State) : Landing := ⟨state.raw, [], state.stores.lake⟩

/-- The files and objects that an ingestion leaves. Its data frames are gone. -/
def State.landed (state : State) (tlc : Tlc) (landing : Landing) : State where
  raw := landing.raw
  stores := { state.stores with lake := landing.lake }
  answers := tlc :: state.answers

def State.with (state : State) (stores : Reset.Stores Data) : State := { state with stores }

def runIngest (tlc : Tlc) (params : Json) (fates : List Fate) (state : State) :
    Outcome PyError Result × State :=
  let (outcome, after) :=
    Worker.ingest (ingestServices site tlc (base builtins)) params published ⟨state.landing, fates⟩
  (outcome, state.landed tlc after.stores)

/-- The command line of the downloader for a range of months, which it may not be able to read. -/
def downloadRange (tlc : Tlc) (start finish : String) (force : Bool) :
    Task (Fated Landing) PUnit := do
  let periods ← fromExcept (monthRange builtins (.string start) (.string finish))
  downloadAll site tlc periods force

def runDownload (tlc : Tlc) (start finish : String) (force : Bool) (fates : List Fate)
    (state : State) : Outcome PyError PUnit × State :=
  let (outcome, after) := downloadRange site builtins tlc start finish force ⟨state.landing, fates⟩
  (outcome, state.landed tlc after.stores)

/-- A job that has no connection when it starts, nor when it is over. -/
def execute (handler : Handler World) (fates : List Fate) (stores : Reset.Stores Data) :
    Outcome PyError Result × Reset.Stores Data :=
  let (outcome, after) :=
    handler (.object []) published ⟨{ stores with transaction := none }, fates⟩
  (outcome, { after.stores with transaction := none })

section Execute

variable {handler : Handler World} {before throughout : Reset.Stores Data → Prop}

theorem execute_stops {after : Result → Reset.Stores Data → Prop}
    (endures : Endures before (handler (.object []) published) after throughout) (fates : List Fate)
    (stores : Reset.Stores Data) (start : before { stores with transaction := none }) :
    ∃ last, throughout last ∧
    (execute handler fates stores).2 = { last with transaction := none } :=
  ⟨_, endures.stops ⟨{ stores with transaction := none }, fates⟩ start, rfl⟩

theorem execute_succeeded {after : Reset.Stores Data → Prop}
    (endures : Endures before (handler (.object []) published)
      (fun result stores => result.status = .succeeded → after stores) throughout)
    {fates : List Fate} {stores : Reset.Stores Data}
    (start : before { stores with transaction := none })
    (success : Reset.succeeded (execute handler fates stores).1 = true) :
    ∃ last, after last ∧ (execute handler fates stores).2 = { last with transaction := none } := by
  unfold execute at success ⊢
  match ran : handler (.object []) published ⟨{ stores with transaction := none }, fates⟩ with
  | (.returned result, last) =>
    rw [ran] at success
    exact ⟨last.stores, endures.returns _ _ _ start ran (of_decide_eq_true success), rfl⟩
  | (.raised error, last) | (.running, last) =>
    rw [ran] at success
    cases success

end Execute

def runSilver (fates : List Fate) (stores : Reset.Stores Data) :
    Outcome PyError Result × Reset.Stores Data :=
  execute (Worker.silver (lakeServices cluster (base builtins))) fates stores

def runGoldJob (fates : List Fate) (stores : Reset.Stores Data) :
    Outcome PyError Result × Reset.Stores Data :=
  execute (Worker.gold (lakeServices cluster (base builtins))) fates stores

def runReset (params : Json) (fates : List Fate) (stores : Reset.Stores Data) :
    Outcome PyError Result × Reset.Stores Data :=
  Reset.runReset servers (base builtins) params fates stores

def system : TransitionSystem State Event where
  init := ⟨∅, ⟨∅, none, ∅, ∅⟩, []⟩
  step state
    | .ingest tlc params fates => some (runIngest site builtins tlc params fates state).2
    | .download tlc start finish force fates =>
      some (runDownload site builtins tlc start finish force fates state).2
    | .silver fates => some (state.with (runSilver cluster builtins fates state.stores).2)
    | .gold fates => some (state.with (runGoldJob cluster builtins fates state.stores).2)
    | .features rows redis => some (state.with
      { state.stores with tables := state.stores.tables.insert "zone_hour_features" rows, redis })
    | .reset params fates =>
      some (state.with (runReset servers builtins params fates state.stores).2)

section Provenance

variable (answers : List Tlc)

/-- The whole body of an answer of TLC for this month, and not one of an error. -/
def Served (month : Int × Int) (bytes : Bytes) : Prop :=
  ∃ tlc ∈ answers, checkStatus (tlc month.1 month.2) month.1 month.2 = .ok ⟨⟩ ∧
    bytes = (tlc month.1 month.2).body

/-- A data frame of a month that has passed the gate. -/
structure Landed (month : Int × Int) (df : DataFrame) : Prop where
  nameable : Nameable month
  source : ∃ bytes, Served answers month bytes ∧ site.decode bytes = .ok df
  valid : df.trips.isSome

/-- Months of Bronze that have all landed. -/
def Genuine (bronze : Bronze) : Prop :=
  ∀ month ∈ bronze.months, ∃ df, Landed site answers month.1 df ∧ df.trips = some month.2

/-- The rows of a Gold table are built from the Silver of such months. -/
def Built (job : GoldModule) (rows : List GoldRow) : Prop :=
  ∃ bronze, Genuine site answers bronze ∧ rows = job.build cluster.toSpark bronze.silverTrips

inductive Placed : String → Data → Prop where
  | bronze {month : Int × Int} {df : DataFrame} (landed : Landed site answers month df) :
      Placed (bronzeKey month) (.bronze df)
  | silver {month : Int × Int} {df : DataFrame} {trips : List Trip}
    (landed : Landed site answers month df)
      (read : df.trips = some trips) :
      Placed (silverKey month) (.silver (processPeriod month.1 month.2 trips).trips.2)
  | quarantine {month : Int × Int} {df : DataFrame} {trips : List Trip} {category : Category}
      (landed : Landed site answers month df) (read : df.trips = some trips) :
      Placed (quarantineKey category.file month)
        (.quarantine (fiber firstCategory trips (some category)))
  | part {job : GoldModule} {rows : List GoldRow} (known : job ∈ goldModules)
      (built : Built site cluster answers job rows) : Placed (job.partKey cluster) (.part rows)
  | marker {job : GoldModule} (known : job ∈ goldModules) : Placed job.markerKey .marker

/-- A file under its final name is whole, and there are no files beside these and the temporary
ones. -/
structure RawSound (raw : AList fun _ : String => Bytes) : Prop where
  names : ∀ path ∈ raw, ∃ month, Nameable month ∧
    (path = rawPath site month ∨ path = partPath site month)
  whole : ∀ month bytes, Nameable month → raw.lookup (rawPath site month) = some bytes →
    Served answers month bytes

def LakeSound (lake : Objects) : Prop :=
  ∀ key data, lake.lookup key = some data → Placed site cluster answers key data

def TablesSound (tables : Reset.Tables Data) : Prop :=
  ∀ job ∈ goldModules, ∀ rows, tables.lookup job.goldTable = some rows →
    ∃ built, Built site cluster answers job built ∧ rows = built.map .row

structure Sound (state : State) : Prop where
  raw : RawSound site state.answers state.raw
  lake : LakeSound site cluster state.answers state.stores.lake
  tables : TablesSound site cluster state.answers state.stores.tables

end Provenance

end OpenScale.Warehouse
