import OpenScale.Pipelines.Rules
import OpenScale.Query.Catalog
import OpenScale.Query.TableRef

/-! `useGlobalSearch`: the screens and jobs of the app, and the tables and runs as far as they are
loaded, that match a text. -/

namespace OpenScale.Search

open OpenScale.Pipelines

section Rules

/-- The white space of `trim`. -/
def isWhiteSpace (c : Char) : Bool :=
  let n := c.toNat
  (9 ≤ n && n ≤ 13) || n == 0x20 || n == 0xA0 || n == 0x1680 || (0x2000 ≤ n && n ≤ 0x200A) ||
  n == 0x2028 ||
    n == 0x2029 || n == 0x202F || n == 0x205F || n == 0x3000 || n == 0xFEFF

def trim (text : String) : String :=
  String.ofList ((text.toList.dropWhile isWhiteSpace).reverse.dropWhile isWhiteSpace).reverse

def includes (text part : String) : Bool := text.toList.tails.any fun rest =>
  part.toList.isPrefixOf rest

def maxResultsPerCategory : Nat := 5

/-- What the browser decides: the lower case of a text, and how times are shown. -/
structure Locale where
  toLowerCase : String → String
  clock : Clock

def matchesQuery (locale : Locale) (query : String) (fields : List String) : Bool :=
  let q := locale.toLowerCase (trim query)
  q ≠ "" && fields.any fun f => f ≠ "" && includes (locale.toLowerCase f) q

end Rules

section Catalogs

structure NavEntry where
  path : String
  label : String
  subtitle : String

def navEntries : List NavEntry :=
  [⟨"/", "Home", "Nine services, one pipeline chain, live container load."⟩,
    ⟨"/pipelines", "Pipelines", "Bronze through model training, run by hand or on a chain."⟩,
    ⟨"/sql-editor", "SQL Editor", "Read-only SQL against Postgres. Lake queries coming later."⟩,
    ⟨"/data-catalog", "Data Catalog",
      "Postgres schema, the MinIO lake, and real pipeline lineage."⟩,
    ⟨"/notebooks", "Notebooks", "JupyterLab, opened on the example notebooks."⟩,
    ⟨"/ml-workbench", "ML Workbench", "MLflow experiments and models from the train job."⟩,
    ⟨"/streaming", "Streaming", "Kafka replay of real Silver trips, streamed live over WebSocket."⟩,
    ⟨"/dashboards", "Dashboards", "Gold-layer metrics over the full ingested history."⟩,
    ⟨"/infrastructure", "Infrastructure", "Container health, restart and stop controls."⟩,
    ⟨"/connections", "Settings", "Console appearance and interface preferences."⟩]

structure JobDefinition where
  type : String
  label : String
  stage : String
  description : String

def jobCatalog : List JobDefinition :=
  [⟨"ingest", "Ingest (Bronze)", "Bronze",
      "Download/validate TLC parquet for a month range, write to Bronze in MinIO."⟩,
    ⟨"silver", "Validate (Silver)", "Silver",
      "Bronze -> Silver: reject/quarantine/flag invalid rows, write clean trips."⟩,
    ⟨"gold", "Aggregate (Gold)", "Gold",
      "Silver -> Gold: daily revenue, hourly demand, zone stats, congestion metrics."⟩,
    ⟨"features", "Compute Features", "Features",
      "Silver -> zone x hour features, written to Postgres and Redis."⟩,
    ⟨"train", "Train Fare Model", "Model",
      "Samples Silver trips, trains a fare-prediction model, logs it to MLflow."⟩]

end Catalogs

section Results

inductive SearchCategory where
  | screen
  | job
  | table
  | run
  deriving DecidableEq

inductive NavState where
  | openJobType (type : String)
  | prefillSql (sql : String)
  | selectedRunId (id : String)
  deriving DecidableEq

structure SearchResultItem where
  id : String
  category : SearchCategory
  title : String
  subtitle : String
  path : String
  navState : Option NavState
  deriving DecidableEq

structure SearchResults where
  screen : List SearchResultItem
  job : List SearchResultItem
  table : List SearchResultItem
  run : List SearchResultItem

def emptyResults : SearchResults := ⟨[], [], [], []⟩

/-- `filter`, `slice` and `map`, as for each of the categories. -/
def category {Entry : Type} (found : Entry → Bool) (item : Entry → SearchResultItem)
    (entries : List Entry) : List SearchResultItem :=
  ((entries.filter found).take maxResultsPerCategory).map item

variable (locale : Locale) (query : String)

def foundScreen (e : NavEntry) : Bool := matchesQuery locale query [e.label, e.subtitle]

def foundJob (j : JobDefinition) : Bool :=
  matchesQuery locale query [j.label, j.type, j.stage, j.description]

def foundTable (t : Query.CatalogTable) : Bool := matchesQuery locale query [t.schema, t.table]

def foundRun (r : JobRun) : Bool := matchesQuery locale query [r.jobType, r.id, r.state.text]

def screenItem (e : NavEntry) : SearchResultItem :=
  ⟨"screen:" ++ e.path, .screen, e.label, e.subtitle, e.path, none⟩

def jobItem (j : JobDefinition) : SearchResultItem :=
  ⟨"job:" ++ j.type, .job, j.label, j.description, "/pipelines", some (.openJobType j.type)⟩

def tableItem (t : Query.CatalogTable) : SearchResultItem :=
  let name := t.schema ++ "." ++ t.table
  let columns := toString t.columns.length ++ " column" ++ if t.columns.length = 1 then "" else "s"
  let tableRef := String.ofList (Query.quotedTableRef t.schema.toList t.table.toList)
  ⟨"table:" ++ name, .table, name, columns, "/sql-editor",
    some (.prefillSql ("select * from " ++ tableRef ++ " limit 20;"))⟩

def runItem (r : JobRun) : SearchResultItem :=
  ⟨"run:" ++ r.id, .run, r.jobType ++ " · " ++ (stateLabel r.state).getD "undefined",
    formatRunTime locale.clock (some r.submittedAt), "/pipelines", some (.selectedRunId r.id)⟩

def isActive (query : String) (enabled : Bool) : Bool := enabled && trim query ≠ ""

/-- Lists that are not loaded count as empty. -/
def useGlobalSearch (enabled : Bool) (catalog : Option (List Query.CatalogTable))
    (runs : Option RunsPage) : SearchResults :=
  let trimmed := trim query
  if isActive query enabled then
    { screen := category (foundScreen locale trimmed) screenItem navEntries
      job := category (foundJob locale trimmed) jobItem jobCatalog
      table := category (foundTable locale trimmed) tableItem (catalog.getD [])
      run :=
        category (foundRun locale trimmed) (runItem locale) ((runs.map RunsPage.runs).getD []) }
  else emptyResults

/-- The results in `CATEGORY_ORDER`. -/
def SearchResults.flat (results : SearchResults) : List SearchResultItem :=
  results.screen ++ results.job ++ results.table ++ results.run

def resultCount (catalog : Option (List Query.CatalogTable)) (runs : Option RunsPage) : Nat :=
  let trimmed := trim query
  min maxResultsPerCategory (navEntries.countP (foundScreen locale trimmed)) +
    min maxResultsPerCategory (jobCatalog.countP (foundJob locale trimmed)) +
    min maxResultsPerCategory ((catalog.getD []).countP (foundTable locale trimmed)) +
    min maxResultsPerCategory (((runs.map RunsPage.runs).getD []).countP (foundRun locale trimmed))

theorem length_category {Entry : Type} (found : Entry → Bool) (item : Entry → SearchResultItem)
    (entries : List Entry) :
    (category found item entries).length = min maxResultsPerCategory (entries.countP found) := by
  rw [category, List.length_map, List.length_take, List.countP_eq_length_filter]

theorem length_flat (enabled : Bool) (catalog : Option (List Query.CatalogTable))
    (runs : Option RunsPage) : (useGlobalSearch locale query enabled catalog runs).flat.length =
      if isActive query enabled then resultCount locale query catalog runs else 0 := by
  rw [useGlobalSearch]
  split
  · simp only [SearchResults.flat, List.length_append, length_category, resultCount]
  · rfl

end Results

end OpenScale.Search
