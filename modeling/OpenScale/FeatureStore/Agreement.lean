import OpenScale.FeatureStore.Reset
import OpenScale.Lake.Reconciliation

/-! When the online store agrees with the offline one: a features run sets keys and never
deletes any, so it must not find one that its rows do not set again. -/

namespace OpenScale.FeatureStore

open OpenScale.Library OpenScale.Library.Python OpenScale.Lake OpenScale.Worker

section Publishing

variable {rows : List OfflineRow} {online : Online} {key : String}

theorem mem_publish : key ∈ publish rows online ↔
    key ∈ online ∨ ∃ row ∈ rows, row.redisKey = key := by
  induction rows generalizing online with
  | nil => simp [publish]
  | cons row rows ih =>
    have shifted : publish (row :: rows) online = publish rows
      (online.insert row.redisKey row.onlineValue) := rfl
    have listed : (∃ found ∈ row :: rows, found.redisKey = key) ↔ row.redisKey = key ∨
        ∃ found ∈ rows, found.redisKey = key := by
      simp
    rw [shifted, ih, AList.mem_insert, listed, eq_comm]
    tauto

theorem lookup_publish_of_not_mem (fresh : key ∉ rows.map OfflineRow.redisKey) :
    (publish rows online).lookup key = online.lookup key := by
  induction rows generalizing online with
  | nil => rfl
  | cons row rows ih =>
    rw [List.map_cons, List.mem_cons, not_or] at fresh
    obtain ⟨other, fresh⟩ := fresh
    have shifted : publish (row :: rows) online = publish rows
      (online.insert row.redisKey row.onlineValue) := rfl
    rw [shifted, ih fresh, AList.lookup_insert_ne other]

theorem lookup_publish (distinct : (rows.map OfflineRow.redisKey).Nodup) :
    ∀ row ∈ rows, (publish rows online).lookup row.redisKey = some row.onlineValue := by
  induction rows generalizing online with
  | nil => simp
  | cons first rows ih =>
    obtain ⟨fresh, distinct⟩ := List.nodup_cons.mp distinct
    have shifted : publish (first :: rows) online =
      publish rows (online.insert first.redisKey first.onlineValue) := rfl
    intro row member
    rw [shifted]
    rcases List.mem_cons.mp member with rfl | member
    · rw [lookup_publish_of_not_mem fresh, AList.lookup_insert]
    · exact ih distinct row member

theorem redisKeys_nodup (distinct : (rows.map OfflineRow.key).Nodup) :
    (rows.map OfflineRow.redisKey).Nodup := by
  have same : rows.map OfflineRow.redisKey = (rows.map OfflineRow.key).map fun key =>
      featureKey key.1 key.2 := by
    rw [List.map_map]
    rfl
  rw [same]
  refine distinct.map fun first second equal => ?_
  obtain ⟨zone, hour⟩ := featureKey_injective equal
  exact Prod.ext zone hour

end Publishing

section Rows

variable {cluster : Cluster} {df : List SilverTrip} {features : List ZoneHourFeatures}
    {rows : List OfflineRow} {key : String}

theorem rows_keys
    (converted : List.Forall₂ (fun features row => offlineRow features = .ok row) features rows) :
    rows.map (fun row => (some row.puLocationId, some row.pickupHour)) =
      features.map fun features => (features.puLocationId, features.pickupHour) := by
  induction converted with
  | nil => rfl
  | cons head _ ih =>
    obtain ⟨zone, hour, _⟩ := offlineRow_eq_ok head
    rw [List.map_cons, List.map_cons, ih, zone, hour]

theorem mem_rows_iff (converted : List.Forall₂ (fun features row => offlineRow features = .ok row)
    (cluster.collect (buildFeatures cluster.toSpark df)) rows) (group : Option Int × Option Int) :
    group ∈ rows.map (fun row => (some row.puLocationId, some row.pickupHour)) ↔
      group ∈ df.map fun trip => (pickupZone trip, pickupHour trip) := by
  have groups : (buildFeatures cluster.toSpark df).map
      (fun features => (features.puLocationId, features.pickupHour)) =
      (groupBy (fun trip => (pickupZone trip, pickupHour trip)) df).map Prod.fst := by
    rw [buildFeatures, List.map_map]
    rfl
  rw [rows_keys converted, ((cluster.collect_perm _).map _).mem_iff, groups,
    groupBy_keys, List.mem_dedup]

theorem exists_row_iff (converted : List.Forall₂ (fun features row => offlineRow features = .ok row)
    (cluster.collect (buildFeatures cluster.toSpark df)) rows) :
    (∃ row ∈ rows, row.redisKey = key) ↔ HasTrip df key := by
  constructor
  · intro found
    obtain ⟨row, member, rfl⟩ := found
    obtain ⟨trip, inside, same⟩ := List.mem_map.mp
      ((mem_rows_iff converted _).mp (List.mem_map_of_mem member))
    obtain ⟨zone, hour⟩ := Prod.mk.inj same
    exact ⟨trip, inside, row.pickupHour, hour, by rw [Option.some.inj zone]; rfl⟩
  · intro found
    obtain ⟨trip, inside, hour, known, rfl⟩ := found
    have group : (some trip.puLocationId, some hour) ∈ df.map fun trip =>
        (pickupZone trip, pickupHour trip) :=
      List.mem_map.mpr ⟨trip, inside, Prod.ext rfl known⟩
    obtain ⟨row, member, same⟩ := List.mem_map.mp ((mem_rows_iff converted _).mpr group)
    obtain ⟨zone, hours⟩ := Prod.mk.inj same
    exact ⟨row, member, by rw [OfflineRow.redisKey, Option.some.inj zone, Option.some.inj hours]⟩

/-- After a features run that succeeds the stores agree unless a key was left over. -/
theorem Published.consistent_iff {start stores : Stores}
    (published : Published cluster start stores) :
    Consistent stores ↔ ∀ df, start.silver = some df → ∀ key ∈ start.online, IsFeatureKey key →
        HasTrip df key := by
  obtain ⟨df, rows, silver, converted, distinct, rfl⟩ := published
  have distinct := redisKeys_nodup distinct
  constructor
  · intro consistent other same key member feature
    cases silver.symm.trans same
    obtain ⟨_, stored, agree⟩ := consistent
    cases stored
    exact (exists_row_iff converted).mp
      ((agree.keys key).mp ⟨mem_publish.mpr (.inl member), feature⟩)
  · intro covered
    refine ⟨rows, rfl, distinct, fun key => ?_, lookup_publish distinct⟩
    constructor
    · intro online
      obtain ⟨member, feature⟩ := online
      rcases mem_publish.mp member with old | new
      · exact (exists_row_iff converted).mpr (covered df silver key old feature)
      · exact new
    · intro found
      refine ⟨mem_publish.mpr (.inr found), ?_⟩
      obtain ⟨row, _, rfl⟩ := found
      exact isFeatureKey_featureKey _ _

end Rows

section Histories

variable (cluster : Cluster) (base : Services World)

/-- A successful reset leaves a state in which every features run may start, whatever Silver then
holds. -/
theorem runReset_current {start : Stores} {fates : List Fate} {silver : Option (List SilverTrip)}
    {next : List Fate}
    (success : succeeded (runReset cluster base fates start).1 = true) :
    Current ⟨{ (runReset cluster base fates start).2 with silver }, false⟩ (.features next) := by
  intro df _ key member feature
  exact absurd feature ((runReset_wiped cluster base success).keys key member)

theorem runFeatures_consistent_iff {state : History} {fates : List Fate}
    (success : succeeded (runFeatures cluster base fates state.stores).1 = true) :
    Consistent (runFeatures cluster base fates state.stores).2 ↔ Current state (.features fates) :=
  (runFeatures_published cluster base success).consistent_iff

theorem step_consistent {state next : History} {event : Event} (current : Current state event)
    (consistent : state.published = true → Consistent state.stores)
    (taken : (system cluster base).step state event = some next) : next.published = true →
        Consistent next.stores := by
  cases event with
  | lake silver others =>
    cases taken
    intro published
    obtain ⟨rows, stored, agree⟩ := consistent published
    exact ⟨rows, stored, agree⟩
  | features fates =>
    cases taken
    intro success
    exact (runFeatures_consistent_iff cluster base success).mpr current
  | reset fates =>
    cases taken
    intro published
    cases published

/-- In every history whose features runs find no key online that Silver has no trip for, the
stores agree after each of them that succeeds; and after any other one that succeeds they do not. -/
theorem consistent_iff_current :
    (∀ state, (system cluster base).Path Current (system cluster base).init state →
      state.published = true → Consistent state.stores) ∧
    ∀ state fates, (system cluster base).Reachable state →
      succeeded (runFeatures cluster base fates state.stores).1 = true →
      (Consistent (runFeatures cluster base fates state.stores).2 ↔
        Current state (.features fates)) := by
  refine ⟨fun state path => ?_, fun state fates _ success =>
    runFeatures_consistent_iff cluster base success⟩
  let holds : History → Prop := fun state => state.published = true → Consistent state.stores
  have kept : holds state := by
    refine path.preserves ?_ ?_
    · exact fun state event next consistent current taken =>
        step_consistent cluster base current consistent taken
    · intro published
      cases published
  exact kept

end Histories

section Leftover

def trip (zone : Int) : SilverTrip where
  vendorId := 1
  tpepPickupDatetime := some 0
  tpepDropoffDatetime := some 60000000
  passengerCount := none
  tripDistance := none
  ratecodeId := none
  storeAndFwdFlag := none
  puLocationId := zone
  doLocationId := 1
  paymentType := 1
  fareAmount := none
  extra := none
  mtaTax := none
  tipAmount := none
  tollsAmount := none
  improvementSurcharge := none
  totalAmount := none
  congestionSurcharge := none
  airportFee := none
  flagPickupYearMismatch := false
  flagDropoffYearMismatch := false

/-- Sums and averages of nulls are null. -/
def plainCluster : Cluster where
  sum _ := none
  avg _ := none
  collect rows := rows
  collect_perm _ := .refl _
  scanner := .atOnce
  objects _ := 1

/-- The features of a trip in zone 1, a reset that Redis refuses at its last step, and the
lake rebuilt with a trip in zone 2. -/
def halfReset : List Event :=
  [.lake (some [trip 1]) [], .features [],
    .reset (List.replicate 16 .confirmed ++ [.raised false
      (.exception "ConnectionError" "Connection refused")]),
    .lake (some [trip 2]) []]

/-- What the next features run makes of a state: whether it succeeds, and the keys of both
stores. -/
def nextRun (state : History) : Bool × List String × Option (List (Int × Int)) :=
  let (outcome, after) := runFeatures plainCluster nothingElse [] state.stores
  (succeeded outcome, after.online.keys, after.tables.features.map fun rows =>
    rows.map OfflineRow.key)

theorem halfReset_outcome :
    (TransitionSystem.replay (system plainCluster nothingElse) (fun _ _ => True)
    (system plainCluster nothingElse).init halfReset).map nextRun =
      some (true, ["features:zone:2:hour:0", "features:zone:1:hour:0"], some [(2, 0)]) := by
  decide +kernel

theorem stale_key_survives : ¬ ∀ (cluster : Cluster) (base : Services World) (state : History)
    (fates : List Fate),
    (system cluster base).Reachable state →
    succeeded (runFeatures cluster base fates state.stores).1 = true →
    Consistent (runFeatures cluster base fates state.stores).2 := by
  intro claim
  obtain ⟨state, path, seen⟩ := TransitionSystem.reaches_of_replay halfReset_outcome
  obtain ⟨success, online, offline⟩ : succeeded (runFeatures plainCluster nothingElse []
      state.stores).1 = true ∧
      (runFeatures plainCluster nothingElse [] state.stores).2.online.keys =
        ["features:zone:2:hour:0", "features:zone:1:hour:0"] ∧
      (runFeatures plainCluster nothingElse [] state.stores).2.tables.features.map
        (fun rows => rows.map OfflineRow.key) =
        some [(2, 0)] := by
    simpa only [nextRun, Prod.mk.injEq] using seen
  obtain ⟨rows, stored, agree⟩ := claim plainCluster nothingElse state [] path success
  rw [stored, Option.map_some, Option.some.injEq] at offline
  have member : featureKey 1 0 ∈
      (runFeatures plainCluster nothingElse [] state.stores).2.online := by
    rw [AList.mem_keys, online]
    decide
  obtain ⟨row, inside, same⟩ := (agree.keys _).mp ⟨member, isFeatureKey_featureKey 1 0⟩
  have listed : row.key ∈ rows.map OfflineRow.key := List.mem_map_of_mem inside
  rw [offline, List.mem_singleton] at listed
  have zone : row.puLocationId = 2 := congrArg Prod.fst listed
  rw [(featureKey_injective same).1] at zone
  cases zone

end Leftover

end OpenScale.FeatureStore
