import OpenScale.Library.Answer
import OpenScale.Library.Entries
import OpenScale.Library.Segments

/-! `ListQueryCatalog`: the columns of the database as a stream of rows, grouped by table through a
map and a list of its keys in the order in which they came. -/

namespace OpenScale.Query

open OpenScale.Library

structure CatalogColumn where
  name : String
  type : String
  deriving DecidableEq

structure CatalogTable where
  schema : String
  table : String
  columns : List CatalogColumn
  deriving DecidableEq

/-- A row of `information_schema.columns`. -/
structure ColumnRow where
  schema : String
  table : String
  column : String
  dataType : String
  deriving DecidableEq

def excludedCatalogTables : List String :=
  ["control_plane.appearance_settings", "control_plane.schema_migrations"]

def catalogKey (schema table : String) : String := schema ++ "." ++ table

structure Catalog where
  order : List String
  byKey : AList fun _ : String => CatalogTable

def CatalogTable.append (row : ColumnRow) (table : CatalogTable) : CatalogTable :=
  { table with columns := table.columns ++ [⟨row.column, row.dataType⟩] }

def Catalog.add (catalog : Catalog) (row : ColumnRow) : Catalog :=
  let key := catalogKey row.schema row.table
  if excludedCatalogTables.contains key then catalog
  else {
    order := if (catalog.byKey.lookup key).isSome then catalog.order else catalog.order ++ [key]
    byKey := enter catalog.byKey key ⟨row.schema, row.table, []⟩ (CatalogTable.append row) }

/-- A key that is not in the map is a nil pointer. -/
def Catalog.tables (catalog : Catalog) : Except String (List CatalogTable) :=
  catalog.order.mapM fun key =>
    match catalog.byKey.lookup key with
    | none => .error "runtime error: invalid memory address or nil pointer dereference"
    | some table => .ok table

def listQueryCatalog (rows : Answer ColumnRow) : Except String (List CatalogTable) := do
  let catalog ← rows.collect "db: list query catalog" "db: scan query catalog" Catalog.add ⟨[], ∅⟩
  catalog.tables

section Names

def catalogSchemas : List String := ["public", "control_plane"]

/-- The tables that are left out. -/
def IsBookkeeping (row : ColumnRow) : Prop :=
  row.schema = "control_plane" ∧ row.table ∈ ["appearance_settings", "schema_migrations"]

instance : DecidablePred IsBookkeeping := fun _ => inferInstanceAs (Decidable (_ ∧ _))

def ColumnRow.name (row : ColumnRow) : String × String := (row.schema, row.table)

/-- Neither of the two schemas has a dot: a key is cut at its first one. -/
theorem catalogKey_injective {schema schema' table table' : String}
    (known : schema ∈ catalogSchemas)
    (known' : schema' ∈ catalogSchemas)
    (same : catalogKey schema table = catalogKey schema' table') :
    schema = schema' ∧ table = table' := by
  have plain : ∀ schema ∈ catalogSchemas, '.' ∉ schema.toList := by decide
  have dot : ".".toList = ['.'] := by decide
  have texts := congrArg String.toList same
  simp only [catalogKey, String.toList_append, dot, List.append_assoc,
    List.singleton_append] at texts
  obtain ⟨schemas, tables⟩ := cut_injective (plain schema known) (plain schema' known') texts
  exact ⟨String.toList_inj.mp schemas, String.toList_inj.mp tables⟩

theorem excluded_iff {row : ColumnRow} (known : row.schema ∈ catalogSchemas) :
    excludedCatalogTables.contains (catalogKey row.schema row.table) = true ↔
    IsBookkeeping row := by
  have keys : excludedCatalogTables =
      ["appearance_settings", "schema_migrations"].map (catalogKey "control_plane") := by
    decide
  rw [List.contains_iff_mem, keys, List.mem_map]
  constructor
  · intro found
    obtain ⟨table, listed, same⟩ := found
    obtain ⟨schemas, tables⟩ := catalogKey_injective (by decide) known same
    exact ⟨schemas.symm, tables ▸ listed⟩
  · intro bookkeeping
    exact ⟨row.table, bookkeeping.2, by rw [bookkeeping.1]⟩

end Names

section Grouping

variable {rows : List ColumnRow}

def listed (rows : List ColumnRow) : List ColumnRow := rows.filter fun row => ¬ IsBookkeeping row

def tableOf (rows : List ColumnRow) (name : String × String) : CatalogTable :=
  ⟨name.1, name.2, (fiber ColumnRow.name rows name).map fun row => ⟨row.column, row.dataType⟩⟩

def keyOf (row : ColumnRow) : String := catalogKey row.schema row.table

theorem add_rows (known : ∀ row ∈ rows, row.schema ∈ catalogSchemas) :
    rows.foldl Catalog.add ⟨[], ∅⟩ = ⟨((listed rows).map keyOf).eraseDups,
      (listed rows).foldl (fun byKey row =>
        enter byKey (keyOf row) ⟨row.schema, row.table, []⟩ (CatalogTable.append row))
        ∅⟩ := by
  induction rows using List.reverseRecOn with
  | nil => rfl
  | append_singleton rows row ih =>
    rw [List.foldl_concat, ih fun other member => known other (List.mem_append_left _ member),
      Catalog.add]
    have excluded := excluded_iff (known row (by simp))
    by_cases bookkeeping : IsBookkeeping row
    · rw [if_pos (excluded.mpr bookkeeping)]
      simp [listed, bookkeeping]
    · have kept : listed (rows ++ [row]) = listed rows ++ [row] := by simp [listed, bookkeeping]
      rw [if_neg fun found => bookkeeping (excluded.mp found), kept, List.map_append,
        List.map_singleton, eraseDups_concat, List.foldl_concat]
      refine congrArg (Catalog.mk · _) ?_
      simp only [AList.lookup_isSome, mem_enter]
      rfl

theorem schema_of_listed (known : ∀ row ∈ rows, row.schema ∈ catalogSchemas) {row : ColumnRow}
    (member : row ∈ listed rows) : row.schema ∈ catalogSchemas :=
  known row (List.mem_filter.mp member).1

theorem name_of_key (known : ∀ row ∈ rows, row.schema ∈ catalogSchemas) {row other : ColumnRow}
    (member : row ∈ listed rows) (also : other ∈ listed rows) : keyOf row = keyOf other ↔
    row.name = other.name := by
  constructor
  · intro same
    obtain ⟨schemas, tables⟩ :=
      catalogKey_injective (schema_of_listed known member) (schema_of_listed known also) same
    exact Prod.ext schemas tables
  · intro same
    exact congrArg (fun name => catalogKey name.1 name.2) same

theorem append_rows (others : List ColumnRow) (table : CatalogTable) :
    others.foldl (fun table row => CatalogTable.append row table) table =
      { table with columns := table.columns ++ others.map fun row =>
        ⟨row.column, row.dataType⟩ } := by
  induction others generalizing table with
  | nil => simp
  | cons row others ih =>
    rw [List.foldl_cons, ih]
    simp [CatalogTable.append]

theorem lookup_table (known : ∀ row ∈ rows, row.schema ∈ catalogSchemas) {row : ColumnRow}
    (member : row ∈ listed rows) :
    ((listed rows).foldl (fun byKey row =>
      enter byKey (keyOf row) ⟨row.schema, row.table, []⟩ (CatalogTable.append row))
      ∅).lookup (keyOf row) = some (tableOf (listed rows) row.name) := by
  have same : fiber keyOf (listed rows) (keyOf row) = fiber ColumnRow.name (listed rows) row.name :=
    List.filter_congr fun other also => by rw [decide_eq_decide, name_of_key known also member]
  rw [lookup_enter, same, tableOf]
  cases found : fiber ColumnRow.name (listed rows) row.name with
  | nil => exact absurd (mem_fiber.mpr ⟨member, rfl⟩) (found ▸ List.not_mem_nil)
  | cons first others =>
    have named : first.name = row.name := (mem_fiber.mp (found ▸ List.mem_cons_self ..)).2
    rw [List.head?_cons, Option.map_some, append_rows, ← named]
    rfl

end Grouping

/-- The tables that have a row which counts, each once and in the order in which they come. -/
def catalogOf (rows : List ColumnRow) : List CatalogTable :=
  ((listed rows).map ColumnRow.name).eraseDups.map (tableOf (listed rows))

def CatalogTable.rows (table : CatalogTable) : List ColumnRow :=
  table.columns.map fun column => ⟨table.schema, table.table, column.name, column.type⟩

theorem rows_tableOf (others : List ColumnRow) (name : String × String) :
    (tableOf others name).rows = fiber ColumnRow.name others name := by
  rw [CatalogTable.rows, tableOf, List.map_map]
  refine (List.map_congr_left fun row member => ?_).trans (List.map_id _)
  obtain ⟨_, rfl⟩ := mem_fiber.mp member
  rfl

/-- Each table is listed once with the columns of all its rows, and each row that counts is in one
entry. -/
theorem listQueryCatalog_partition (answer : Answer ColumnRow) (rows : List ColumnRow)
    (returned : answer.Returns rows) (known : ∀ row ∈ rows, row.schema ∈ catalogSchemas) :
    listQueryCatalog answer = .ok (catalogOf rows) ∧
    ((catalogOf rows).flatMap CatalogTable.rows).Perm (listed rows) := by
  constructor
  · refine bind_eq_ok.mpr ⟨_, Answer.collect_eq_ok.mpr ⟨rows, returned, rfl⟩, ?_⟩
    have keys : ((listed rows).map keyOf).eraseDups =
        ((listed rows).map ColumnRow.name).eraseDups.map fun name => catalogKey name.1 name.2 := by
      rw [← eraseDups_map, List.map_map]
      · rfl
      · intro name member other also same
        obtain ⟨row, inside, rfl⟩ := List.mem_map.mp member
        obtain ⟨row', inside', rfl⟩ := List.mem_map.mp also
        exact (name_of_key known inside inside').mp same
    rw [add_rows known, Catalog.tables, keys, List.mapM_map]
    refine mapM_ok _ fun name member => ?_
    obtain ⟨row, inside, rfl⟩ := List.mem_map.mp (List.mem_eraseDups.mp member)
    have found := lookup_table known inside
    simp only [Function.comp_apply]
    rw [show catalogKey row.name.1 row.name.2 = keyOf row from rfl, found]
  · rw [catalogOf, List.flatMap_map]
    simp only [rows_tableOf]
    refine fibers_perm ?_ fun row member => ?_
    · exact nodup_eraseDups _
    · exact List.mem_eraseDups.mpr (List.mem_map_of_mem member)

/-- Two tables whose rows alternate, one with a dot in its name, and a table that is left out. -/
def alternating : List ColumnRow :=
  [⟨"public", "a.b", "x", "integer"⟩, ⟨"control_plane", "schema_migrations", "version", "bigint"⟩,
    ⟨"public", "a", "y", "text"⟩, ⟨"public", "a.b", "z", "text"⟩]

theorem listQueryCatalog_partition_alternating :
    listQueryCatalog (.of alternating) = .ok (catalogOf alternating) ∧
      ((catalogOf alternating).flatMap CatalogTable.rows).Perm (listed alternating) :=
  listQueryCatalog_partition (.of alternating) alternating (Answer.of_returns alternating)
    (by decide)

example :
    catalogOf alternating = [⟨"public", "a.b", [⟨"x", "integer"⟩, ⟨"z", "text"⟩]⟩,
      ⟨"public", "a", [⟨"y", "text"⟩]⟩] := by
  decide +kernel

end OpenScale.Query
