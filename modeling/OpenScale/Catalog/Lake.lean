import Mathlib.Algebra.Order.Ring.Int
import Mathlib.Data.List.Basic

/-! The lake browser of the Data Catalog: the seven listings of the bucket, and what the panel makes
of them. -/

namespace OpenScale.Catalog

structure Object where
  key : String
  sizeBytes : Int
  lastModified : Int
  deriving DecidableEq

/-- The code is that of a `minio.ErrorResponse`, if it is one. -/
structure ListError where
  code : Option String

inductive ObjectInfo where
  | object (object : Object)
  | failed (err : ListError)

def isNotFound (err : ListError) : Bool :=
  err.code = some "NoSuchBucket" || err.code = some "NoSuchKey"

/-- No data: a marker of Spark, or a placeholder of a directory. -/
def isNoise (key : String) : Bool :=
  "_SUCCESS".toList.isSuffixOf key.toList || "/".toList.isSuffixOf key.toList

/-- The loop of `ListPrefix`. The slice is nil when the bucket or the prefix does not exist,
whatever has arrived before that was said. -/
def listLoop : List Object → List ObjectInfo → Except ListError (Option (List Object))
  | objects, [] => .ok (some objects)
  | _, .failed err :: _ => if isNotFound err then .ok none else .error err
  | objects, .object object :: later =>
    listLoop (if isNoise object.key then objects else objects ++ [object]) later

def listPrefix (objectCh : List ObjectInfo) : Except ListError (Option (List Object)) :=
  listLoop [] objectCh

/-- The seven places that the worker writes to. -/
def lakePrefixes : List (String × String) :=
  [("bronze", "bronze/yellow_taxi/"), ("silver", "silver/trips/"),
    ("silver-quarantine", "silver/quarantine/"),
    ("gold-daily-revenue", "gold/daily_revenue/"), ("gold-hourly-demand", "gold/hourly_demand/"),
    ("gold-zone-stats", "gold/zone_stats/"),
    ("gold-congestion-metrics", "gold/congestion_metrics/")]

structure LakeLayer where
  name : String
  lakePrefix : String
  objects : List Object
  objectCount : Nat
  totalBytes : Int

structure LakeCatalog where
  layers : List LakeLayer
  reachable : Bool

def totalBytes (objects : List Object) : Int :=
  objects.foldl (fun total object => (total + object.sizeBytes).bmod (2 ^ 64)) 0

def layerOf (name lakePrefix : String) (objects : Option (List Object)) : LakeLayer :=
  let objects := objects.getD []
  ⟨name, lakePrefix, objects, objects.length, totalBytes objects⟩

/-- The loop of `List`: one failed listing, and there is no catalog. -/
def layersLoop (answer : String → List ObjectInfo) :
    List LakeLayer → List (String × String) → LakeCatalog
  | layers, [] => ⟨layers, true⟩
  | layers, (name, lakePrefix) :: later =>
    match listPrefix (answer lakePrefix) with
    | .error _ => ⟨[], false⟩
    | .ok objects => layersLoop answer (layers ++ [layerOf name lakePrefix objects]) later

/-- `LakeHandler.List`, by what each of the seven requests is answered. -/
def list (answer : String → List ObjectInfo) : LakeCatalog := layersLoop answer [] lakePrefixes

inductive Panel where
  | loading
  | failed
  | unreachable
  | empty
  | layers (layers : List LakeLayer)

def panel (isLoading isError : Bool) (data : Option LakeCatalog) : Panel :=
  if isLoading then .loading
  else
    match data with
    | none => .failed
    | some data =>
      if isError then .failed
      else if !data.reachable then .unreachable
      else if data.layers.all fun layer => layer.objectCount = 0 then .empty
      else .layers data.layers

section Listing

variable {answer : String → List ObjectInfo} {layers : List LakeLayer}
  {prefixes : List (String × String)}

theorem listPrefix_objects (found : List Object) :
    listPrefix (found.map .object) = .ok
      (some (found.filter fun object => !isNoise object.key)) := by
  have loop : ∀ seen, listLoop seen (found.map .object) =
      .ok (some (seen ++ found.filter fun object => !isNoise object.key)) := by
    intro seen
    induction found generalizing seen with
    | nil => simp [listLoop]
    | cons object found ih =>
      rw [List.map_cons, listLoop, ih]
      cases noise : isNoise object.key <;> simp [noise]
  rw [listPrefix, loop, List.nil_append]

def outcome (answer : String → List ObjectInfo) (place : String × String) :
    Except ListError LakeLayer :=
  (listPrefix (answer place.2)).map (layerOf place.1 place.2)

theorem layersLoop_ok {layerAt : String × String → LakeLayer}
    (listed : ∀ place ∈ prefixes, outcome answer place = .ok (layerAt place)) :
    layersLoop answer layers prefixes = ⟨layers ++ prefixes.map layerAt, true⟩ := by
  induction prefixes generalizing layers with
  | nil => rw [layersLoop, List.map_nil, List.append_nil]
  | cons place prefixes ih =>
    obtain ⟨here, later⟩ := List.forall_mem_cons.mp listed
    unfold outcome at here
    rw [layersLoop]
    cases found : listPrefix (answer place.2) with
    | error err =>
      rw [found] at here
      cases here
    | ok objects =>
      rw [found] at here
      have same : layerOf place.1 place.2 objects = layerAt place := Except.ok.inj here
      dsimp only
      rw [same, ih later, List.map_cons, List.append_assoc, List.singleton_append]

theorem layersLoop_failed {place : String × String} {err : ListError} (member : place ∈ prefixes)
    (failed : outcome answer place = .error err) :
    layersLoop answer layers prefixes = ⟨[], false⟩ := by
  induction prefixes generalizing layers with
  | nil => cases member
  | cons first prefixes ih =>
    rw [layersLoop]
    cases found : listPrefix (answer first.2) with
    | error other => rfl
    | ok objects =>
      rcases List.mem_cons.mp member with rfl | later
      · rw [outcome, found] at failed
        cases failed
      · exact ih later

/-- There is a catalog if and only if no listing fails, and there is nothing in it if there is
none. -/
theorem list_reachable : (list answer).reachable = true ↔
    ∀ place ∈ lakePrefixes, ∃ layer, outcome answer place = .ok layer := by
  constructor
  · intro reachable place member
    cases outcome : outcome answer place with
    | ok layer => exact ⟨layer, rfl⟩
    | error err =>
      rw [list, layersLoop_failed member outcome] at reachable
      cases reachable
  · intro listed
    have known : ∀ place ∈ lakePrefixes,
        outcome answer place = .ok (((outcome answer place).toOption).getD ⟨"", "", [], 0, 0⟩) := by
      intro place member
      obtain ⟨layer, found⟩ := listed place member
      rw [found]
      rfl
    rw [list, layersLoop_ok known]

end Listing

end OpenScale.Catalog
