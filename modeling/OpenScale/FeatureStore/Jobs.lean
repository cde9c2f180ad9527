import OpenScale.FeatureStore.Stores
import OpenScale.Library.TransitionSystem

/-! `compute_features`, and the histories of features and reset jobs. -/

namespace OpenScale.FeatureStore

open OpenScale.Library OpenScale.Library.Python OpenScale.Lake OpenScale.Worker

/-- `int(value)` of a key. A column with a missing value holds floats. -/
def intOf : Option Int → Except PyError Int
  | some value => .ok value
  | none => .error (.exception "ValueError" "cannot convert float NaN to integer")

section Rows

variable (features : ZoneHourFeatures)

/-- The tuple that is inserted. -/
def offlineRow : Except PyError OfflineRow := do
  let zone ← intOf features.puLocationId
  let hour ← intOf features.pickupHour
  return {
    puLocationId := zone
    pickupHour := hour
    tripCount := features.tripCount
    avgFare := features.avgFare
    avgTripDistance := features.avgTripDistance
    avgTip := features.avgTip
    avgPassengerCount := features.avgPassengerCount }

def featureKey (zone hour : Int) : String :=
  "features:zone:" ++ toString zone ++ ":hour:" ++ toString hour

/-- `round(x, 4)` of a finite double. -/
def round4 (x : ℚ) : ℚ := toDouble (roundHalfEven (x * 10 ^ 4) / 10 ^ 4)

/-- What is published of a double is off by a ten-thousandth at most. -/
theorem round4_near {x : ℚ} (double : IsDouble x) : |x - round4 x| ≤ 1 / 10 ^ 4 := by
  have decimal : |x - roundHalfEven (x * 10 ^ 4) / 10 ^ 4| ≤ 1 / 2 / 10 ^ 4 := by
    have scaled : x - roundHalfEven (x * 10 ^ 4) / 10 ^ 4 =
        (x * 10 ^ 4 - roundHalfEven (x * 10 ^ 4)) / 10 ^ 4 := by ring
    rw [scaled, abs_div, abs_of_pos (by norm_num : (0 : ℚ) < 10 ^ 4)]
    exact div_le_div_of_nonneg_right (roundHalfEven_half _) (by norm_num)
  have binary := toDouble_nearest (roundHalfEven (x * 10 ^ 4) / 10 ^ 4) x double
  rw [abs_sub_comm _ x] at binary
  calc |x - round4 x| ≤ _ := abs_sub_le _ (roundHalfEven (x * 10 ^ 4) / 10 ^ 4 : ℚ) _
    _ ≤ 1 / 2 / 10 ^ 4 + 1 / 2 / 10 ^ 4 := add_le_add decimal (binary.trans decimal)
    _ = 1 / 10 ^ 4 := by norm_num

/-- Nothing happens to the infinities. -/
def rounded (value : Float64) : Float64 := value.map (WithBot.map (WithTop.map round4))

def onlineValue : OnlineValue where
  tripCount := features.tripCount
  avgFare := rounded features.avgFare
  avgTripDistance := rounded features.avgTripDistance
  avgTip := rounded features.avgTip
  avgPassengerCount := rounded features.avgPassengerCount

end Rows

def writePostgres (features : List ZoneHourFeatures) : Task World PUnit := do
  let rows ← fromExcept (features.mapM offlineRow)
  connect
  Program.always (do
      createTable
      truncate [featureTable]
      Program.forEach rows insertRow
      commit)
    close

/-- The loop of `write_redis`, from the first row that is left. -/
def writeKeys : List ZoneHourFeatures → Nat → Task World Nat
  | [], count => return count
  | row :: rows, count => do
    let zone ← fromExcept (intOf row.puLocationId)
    let hour ← fromExcept (intOf row.pickupHour)
    set (featureKey zone hour) (onlineValue row)
    writeKeys rows (count + 1)

def writeRedis (features : List ZoneHourFeatures) : Task World Nat := do
  elsewhere ⟨⟩ -- get_redis_client
  writeKeys features 0

variable (cluster : Cluster)

/-- `compute_features.run`. -/
def computeFeatures : Task World FeatureCounts := do
  elsewhere ⟨⟩ -- get_spark
  let features ← Program.always (collectFeatures cluster) (elsewhere ⟨⟩) -- spark.stop
  writePostgres features
  let redisCount ← writeRedis features
  return ⟨features.length, redisCount⟩

/-- The calls of the two jobs; they make no other ones. -/
def services (base : Services World) : Services World :=
  { base with
    computeFeatures := computeFeatures cluster
    connectPostgres := connect
    tableExists := tableExists
    truncate := truncate
    commit := commit
    closePostgres := close
    deletePrefix := deletePrefix cluster
    connectRedis := elsewhere ⟨⟩
    scan := scan cluster
    deleteKeys := delete }

/-- A log line is published to a channel of Redis. -/
def onLogLine : OnLogLine World := fun _ => elsewhere ⟨⟩

section Histories

variable (base : Services World)

/-- A job from its start to its end, in which its connections are closed. -/
def execute (handler : Handler World) (fates : List Fate) (stores : Stores) :
    Outcome PyError Result × Stores :=
  let (outcome, after) := handler (.object []) onLogLine ⟨stores, fates⟩
  (outcome, { after.stores with transaction := none })

def succeeded : Outcome PyError Result → Bool
  | .returned result => result.status = .succeeded
  | _ => false

structure History where
  stores : Stores
  /-- The last job was a features run, and it succeeded. -/
  published : Bool

inductive Event where
  /-- The contents of Silver change, and Gold tables come and go. -/
  | lake (silver : Option (List SilverTrip)) (others : List String)
  | features (fates : List Fate)
  | reset (fates : List Fate)

def runFeatures (fates : List Fate) (stores : Stores) : Outcome PyError Result × Stores :=
  execute (Worker.features (services cluster base)) fates stores

def runReset (fates : List Fate) (stores : Stores) : Outcome PyError Result × Stores :=
  execute (Worker.reset (services cluster base)) fates stores

def system : TransitionSystem History Event where
  init := ⟨⟨none, ⟨none, []⟩, none, ∅⟩, false⟩
  step
    | ⟨stores, published⟩, .lake silver others =>
      some ⟨{ stores with silver, tables := { stores.tables with others } }, published⟩
    | ⟨stores, _⟩, .features fates =>
      let (outcome, after) := runFeatures cluster base fates stores
      some ⟨after, succeeded outcome⟩
    | ⟨stores, _⟩, .reset fates => some ⟨(runReset cluster base fates stores).2, false⟩

end Histories

/-- A key that SCAN with `features:zone:*` lists. -/
def IsFeatureKey (key : String) : Prop := globMatches onlineFeaturePattern.toList key.toList = true

/-- What the online store should hold for a row. -/
def OfflineRow.onlineValue (row : OfflineRow) : OnlineValue where
  tripCount := row.tripCount
  avgFare := rounded row.avgFare
  avgTripDistance := rounded row.avgTripDistance
  avgTip := rounded row.avgTip
  avgPassengerCount := rounded row.avgPassengerCount

def OfflineRow.redisKey (row : OfflineRow) : String := featureKey row.puLocationId row.pickupHour

/-- The feature keys of the online store correspond one to one with the rows of the offline
one, and hold their values up to the rounding. -/
structure Agree (rows : List OfflineRow) (online : Online) : Prop where
  distinct : (rows.map OfflineRow.redisKey).Nodup
  keys : ∀ key, (key ∈ online ∧ IsFeatureKey key) ↔ ∃ row ∈ rows, row.redisKey = key
  values : ∀ row ∈ rows, online.lookup row.redisKey = some row.onlineValue

def Consistent (stores : Stores) : Prop := ∃ rows, stores.tables.features = some rows ∧
    Agree rows stores.online

def HasTrip (df : List SilverTrip) (key : String) : Prop :=
  ∃ trip ∈ df, ∃ hour, pickupHour trip = some hour ∧ featureKey trip.puLocationId hour = key

/-- A features run finds no feature key online that Silver has no trip for. -/
def Current : History → Event → Prop
  | ⟨stores, _⟩, .features _ =>
    ∀ df, stores.silver = some df → ∀ key ∈ stores.online, IsFeatureKey key → HasTrip df key
  | _, _ => True

end OpenScale.FeatureStore
