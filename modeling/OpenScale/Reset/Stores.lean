import Mathlib.Data.List.AList
import OpenScale.Worker.OnlineFeatures

/-! The three stores that the reset job clears, with all that is in them: the tables of Postgres,
the objects of the lake bucket and the keys of Redis, and the calls of the job into them. -/

namespace OpenScale.Reset

open OpenScale.Library OpenScale.Library.Python OpenScale.Worker

section Contents

variable (Data : Type)

/-- Every table by its name, with its rows. -/
abbrev Tables := AList fun _ : String => List Data

structure Stores where
  tables : Tables Data
  /-- What the open transaction has made of the tables. -/
  transaction : Option (Tables Data)
  lake : AList fun _ : String => Data
  redis : AList fun _ : String => Data

abbrev World := Fated (Stores Data)

end Contents

variable {Data Value : Type}

section Postgres

/-- What a statement would see. -/
def Stores.current (stores : Stores Data) : Tables Data := stores.transaction.getD stores.tables

/-- A statement. The first one of a connection begins its transaction. -/
def statement (effect : Tables Data → Except PyError (Value × Tables Data)) :
    Task (World Data) Value :=
  call fun stores => do
    let (value, tables) ← effect stores.current
    return (value, { stores with transaction := some tables })

def connect : Task (World Data) PUnit :=
  call fun stores => .ok (⟨⟩, { stores with transaction := none })

def commit : Task (World Data) PUnit :=
  call fun stores => .ok (⟨⟩, { stores with tables := stores.current, transaction := none })

/-- Closing a connection rolls its transaction back. -/
def close : Task (World Data) PUnit :=
  call fun stores => .ok (⟨⟩, { stores with transaction := none })

/-- `SELECT to_regclass(%s) IS NOT NULL` -/
def tableExists (table : String) : Task (World Data) Bool :=
  statement fun tables => .ok (decide (table ∈ tables), tables)

def truncated (names : List String) (tables : Tables Data) : Tables Data :=
  names.foldl (fun tables name => tables.insert name []) tables

/-- TRUNCATE, which wants each of the tables to exist. -/
def truncate (names : List String) : Task (World Data) PUnit :=
  statement fun tables =>
    match names.find? fun name => decide (name ∉ tables) with
    | some missing =>
      .error (.exception "UndefinedTable" ("relation \"" ++ missing ++ "\" does not exist"))
    | none => .ok (⟨⟩, truncated names tables)

end Postgres

/-- What nobody decides: the pages of SCAN, and the order in which objects are deleted. -/
structure Servers where
  scanner : Scanner String
  order : List String → List String
  order_perm : ∀ keys, (order keys).Perm keys

section Lake

def isUnder (lakePrefix key : String) : Bool := (lakePrefix ++ "/").toList.isPrefixOf key.toList

/-- `fs.exists`: an object of this name, or one under it. -/
def pathExists (lakePrefix : String) (keys : List String) : Bool :=
  keys.any fun key => key = lakePrefix || isUnder lakePrefix key

/-- `fs.ls`: the names one level below, or the object itself where there are none. -/
def ls (lakePrefix : String) (keys : List String) : List String :=
  let name (key : String) := (key.toList.drop (lakePrefix.length + 1)).takeWhile (· != '/')
  match ((keys.filter (isUnder lakePrefix)).map fun key => String.ofList (name key)).dedup with
  | [] => [lakePrefix]
  | names => names

/-- What `fs.rm` with `recursive=True` expands a path to: the path itself and every object under it.
The names of directories that it deletes as well are no objects, or under the path. -/
def expandPath (lakePrefix : String) (keys : List String) : List String :=
  lakePrefix :: keys.filter (isUnder lakePrefix)

/-- A call that reads the names of the objects. -/
def listing (answer : List String → Value) : Task (World Data) Value :=
  call fun stores => .ok (answer stores.lake.keys, stores)

def deleteObject (key : String) : Task (World Data) PUnit :=
  call fun stores => .ok (⟨⟩, { stores with lake := stores.lake.erase key })

/-- `fs.rm`, object by object: a request that deletes a thousand of them can fail for some. -/
def rm (servers : Servers) (lakePrefix : String) : Task (World Data) PUnit := do
  let paths ← listing (expandPath lakePrefix)
  Program.forEach (servers.order paths) deleteObject

def deletePrefix (servers : Servers) (lakePrefix : String) : Task (World Data) Nat := do
  if !(← listing (pathExists lakePrefix)) then return 0
  let keys ← listing (ls lakePrefix)
  rm servers lakePrefix
  return keys.length

end Lake

section Redis

/-- SCAN with MATCH: of the keys of a page it returns those that match. -/
def scan (servers : Servers) (cursor : Nat) (pattern : String) :
    Task (World Data) (Nat × List String) :=
  call fun stores =>
    let (page, next) := servers.scanner.page cursor stores.redis.keys
    .ok ((next, page.filter fun key => globMatches pattern.toList key.toList), stores)

/-- DEL, and the number of keys that were there. -/
def delete (keys : List String) : Task (World Data) Nat :=
  call fun stores => .ok ((keys.dedup.filter fun key => decide (key ∈ stores.redis)).length,
    { stores with redis := keys.foldl (fun redis key => redis.erase key) stores.redis })

end Redis

/-- The calls of the reset job; it makes no other ones. -/
def services (servers : Servers) (base : Services (World Data)) : Services (World Data) :=
  { base with
    connectPostgres := connect
    tableExists := tableExists
    truncate := truncate
    commit := commit
    closePostgres := close
    deletePrefix := deletePrefix servers
    connectRedis := elsewhere ⟨⟩
    scan := scan servers
    deleteKeys := delete }

/-- A log line is published to a channel of Redis, which is no key. -/
def onLogLine : OnLogLine (World Data) := fun _ => elsewhere ⟨⟩

/-- The job from its start, when it has no connection, to its end, when it has none any more. -/
def runReset (servers : Servers) (base : Services (World Data)) (params : Json) (fates : List Fate)
    (start : Stores Data) : Outcome PyError Result × Stores Data :=
  let (outcome, after) :=
    Worker.reset (services servers base) params onLogLine
      ⟨{ start with transaction := none }, fates⟩
  (outcome, { after.stores with transaction := none })

def succeeded : Outcome PyError Result → Bool
  | .returned result => result.status = .succeeded
  | _ => false

end OpenScale.Reset
