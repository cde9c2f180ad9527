import OpenScale.FeatureStore.Jobs
import OpenScale.Library.Fallible
import OpenScale.Library.Segments
import OpenScale.Worker.Fated

/-! What the calls, `compute_features` and a whole job make of the stores when they return. -/

namespace OpenScale.FeatureStore

open OpenScale.Library OpenScale.Library.Python OpenScale.Lake OpenScale.Worker

section Keys

theorem isFeatureKey_iff (key : String) : IsFeatureKey key ↔
    "features:zone:".toList <+: key.toList := by
  have pattern : onlineFeaturePattern.toList = "features:zone:".toList ++ ['*'] := by decide
  have same : IsFeatureKey key ↔ globMatches ("features:zone:".toList ++ ['*']) key.toList = true :=
    iff_of_eq (congrArg (fun glob => globMatches glob key.toList = true) pattern)
  exact same.trans (globMatches_star (by decide) key.toList)

theorem toList_featureKey (zone hour : Int) : (featureKey zone hour).toList =
    "features:zone:".toList ++
      ((toString zone).toList ++ ':' :: ("hour:".toList ++ (toString hour).toList)) := by
  have colon : ":hour:".toList = ':' :: "hour:".toList := by decide
  change ("features:zone:" ++ toString zone ++ ":hour:" ++ toString hour).toList = _
  simp only [String.toList_append, colon, List.append_assoc, List.cons_append]

theorem isFeatureKey_featureKey (zone hour : Int) : IsFeatureKey (featureKey zone hour) := by
  rw [isFeatureKey_iff, toList_featureKey]
  exact List.prefix_append _ _

theorem colon_not_mem (number : Int) : ':' ∉ (toString number).toList := by
  have digits : ∀ n : Nat, ':' ∉ n.repr.toList := by
    intro n member
    rw [Nat.toList_repr] at member
    have digit := Nat.isDigit_of_mem_toDigits (by decide) (by decide) member
    simp at digit
  have text : toString number = number.repr := rfl
  rw [text, Int.repr_eq_if]
  split
  · exact digits _
  · rw [String.toList_append, List.mem_append, not_or]
    exact ⟨by decide, digits _⟩

theorem featureKey_injective {zone hour zone' hour' : Int}
    (same : featureKey zone hour = featureKey zone' hour') :
    zone = zone' ∧ hour = hour' := by
  have texts := congrArg String.toList same
  rw [toList_featureKey, toList_featureKey, List.append_cancel_left_eq] at texts
  obtain ⟨zones, ends⟩ := cut_injective (colon_not_mem zone) (colon_not_mem zone') texts
  have hours := List.append_cancel_left ends
  exact ⟨Int.repr_injective (String.toList_inj.mp zones),
    Int.repr_injective (String.toList_inj.mp hours)⟩

end Keys

section Calls

variable {Value : Type} {before : Stores → Prop} {after : Value → Stores → Prop}

theorem statement_does {effect : Tables → Except PyError (Value × Tables)}
    (holds : ∀ stores value tables, before stores →
      effect (stores.transaction.getD stores.tables) = .ok (value, tables) →
      after value { stores with transaction := some tables }) : Does before
        (statement effect) after := by
  refine call_does fun stores value next start run => ?_
  obtain ⟨⟨result, tables⟩, outcome, same⟩ := bind_eq_ok.mp run
  cases same
  exact holds stores value tables start outcome

end Calls

section Rows

variable {features : ZoneHourFeatures} {row : OfflineRow}

/-- A row has the key of its features, and their values. -/
theorem offlineRow_eq_ok (converted : offlineRow features = .ok row) :
    features.puLocationId = some row.puLocationId ∧ features.pickupHour = some row.pickupHour ∧
      onlineValue features = row.onlineValue := by
  unfold offlineRow at converted
  cases zone : features.puLocationId with
  | none => simp [zone, intOf, bind, Except.bind] at converted
  | some zone_ =>
    cases hour : features.pickupHour with
    | none => simp [zone, hour, intOf, bind, Except.bind] at converted
    | some hour_ =>
      simp only [zone, hour, intOf] at converted
      cases converted
      exact ⟨rfl, rfl, rfl⟩

/-- The tuples of a data frame, row by row. -/
theorem offlineRows_eq_ok {features : List ZoneHourFeatures} {rows : List OfflineRow}
    (converted : features.mapM offlineRow = .ok rows) :
    List.Forall₂ (fun features row => offlineRow features = .ok row) features rows := by
  induction features generalizing rows with
  | nil =>
    cases converted
    exact .nil
  | cons first features ih =>
    rw [List.mapM_cons] at converted
    cases head : offlineRow first with
    | error error =>
      rw [head] at converted
      cases converted
    | ok row =>
      cases tail : features.mapM offlineRow with
      | error error =>
        rw [head, tail] at converted
        cases converted
      | ok rest =>
        rw [head, tail] at converted
        cases converted
        exact .cons head (ih tail)

end Rows

section Publishing

variable {features : List ZoneHourFeatures} {rows : List OfflineRow} {start : Stores}

/-- In the transaction the table has these rows, and no two of them the same key. -/
def Inserted (start : Stores) (rows : List OfflineRow) (stores : Stores) : Prop :=
  (rows.map OfflineRow.key).Nodup ∧
    stores = { start with transaction := some ⟨some rows, start.tables.others⟩ }

theorem insertRow_does (done : List OfflineRow) (row : OfflineRow) :
    Does (Inserted start done) (insertRow row) fun _ => Inserted start (done ++ [row]) := by
  refine statement_does fun stores value tables holds ran => ?_
  obtain ⟨distinct, rfl⟩ := holds
  simp only [Option.getD_some] at ran
  split at ran
  · cases ran
  · rename_i fresh
    cases ran
    refine ⟨?_, rfl⟩
    rw [List.map_append, List.nodup_append]
    refine ⟨distinct, List.nodup_singleton _, ?_⟩
    intro key member other single same
    rw [List.map_singleton, List.mem_singleton] at single
    exact fresh (single ▸ same ▸ member)

theorem createTable_does :
    Does (· = { start with transaction := none }) createTable fun _ stores =>
      stores = { start with
        transaction := some { start.tables with
          features := some (start.tables.features.getD []) } } := by
  refine statement_does fun stores value tables same ran => ?_
  cases ran
  rw [same]
  rfl

/-- Whatever was in the table, it is empty then. -/
theorem truncate_does :
    Does
      (· = { start with
        transaction := some { start.tables with
          features := some (start.tables.features.getD []) } })
      (truncate [featureTable]) fun _ => Inserted start [] := by
  refine statement_does fun stores value tables same ran => ?_
  cases ran
  rw [same]
  exact ⟨List.nodup_nil, rfl⟩

theorem set_does {key : String} {value : OnlineValue} :
    Does (· = start) (set key value) fun _ stores =>
      stores = { start with online := start.online.insert key value } := by
  unfold set redis
  refine call_does fun stores result next same ran => ?_
  cases ran
  rw [same]

/-- The old rows are replaced in one transaction. -/
theorem writePostgres_does : Does (· = start) (writePostgres features) fun _ stores =>
    ∃ rows, features.mapM offlineRow = .ok rows ∧ (rows.map OfflineRow.key).Nodup ∧
      stores = { start with tables := ⟨some rows, start.tables.others⟩, transaction := none } := by
  refine .bind fromExcept_does fun rows => .given fun converted => ?_
  refine .bind change_does fun _ => ?_
  have body : Does (· = { start with transaction := none })
      (do createTable; truncate [featureTable]; Program.forEach rows insertRow; commit)
        fun _ stores =>
        (rows.map OfflineRow.key).Nodup ∧
          stores =
            { start with tables := ⟨some rows, start.tables.others⟩, transaction := none } := by
    have inserted :
        Does (Inserted start []) (Program.forEach rows insertRow) fun _ => Inserted start rows :=
      Program.Triple.forEach insertRow_does
    refine .bind createTable_does fun _ => .bind truncate_does fun _ => ?_
    refine .bind inserted fun _ => .given fun distinct => ?_
    exact change_does.weaken (fun _ => id) fun _ stores same => ⟨distinct, same⟩
  refine .always body fun _ => .given fun distinct => ?_
  refine change_does.weaken (fun _ => id) fun _ stores same => ?_
  exact ⟨rows, converted, distinct, same⟩

/-- The keys are set one by one, whatever else is online. -/
def publish (rows : List OfflineRow) (online : Online) : Online :=
  rows.foldl (fun online row => online.insert row.redisKey row.onlineValue) online

theorem writeKeys_does
    (converted : List.Forall₂ (fun features row => offlineRow features = .ok row) features rows)
    (count : Nat) : Does (· = start) (writeKeys features count) fun _ stores =>
      stores = { start with online := publish rows start.online } := by
  induction converted generalizing start count with
  | nil => exact .pure fun _ same => same
  | cons head _ ih =>
    obtain ⟨zone, hour, value⟩ := offlineRow_eq_ok head
    unfold writeKeys
    refine .bind fromExcept_does fun zone_ => .given fun same => ?_
    rw [zone] at same
    cases same
    refine .bind fromExcept_does fun hour_ => .given fun same => ?_
    rw [hour] at same
    cases same
    rw [value]
    refine .bind set_does fun _ => ?_
    exact ih _

def Published (cluster : Cluster) (start stores : Stores) : Prop :=
  ∃ df rows, start.silver = some df ∧
    List.Forall₂ (fun features row => offlineRow features = .ok row)
      (cluster.collect (buildFeatures cluster.toSpark df)) rows ∧
    (rows.map OfflineRow.key).Nodup ∧ stores = { start with
      tables := ⟨some rows, start.tables.others⟩
      transaction := none
      online := publish rows start.online }

theorem computeFeatures_does (cluster : Cluster) :
    Does (· = start) (computeFeatures cluster) fun _ => Published cluster start := by
  refine .bind elsewhere_does fun _ => .given fun _ => ?_
  have collected : Does (· = start) (collectFeatures cluster) fun features stores =>
    (∃ df, start.silver = some df ∧
      features = cluster.collect (buildFeatures cluster.toSpark df)) ∧ stores = start := by
    refine call_does fun stores value next same ran => ?_
    subst same
    cases silver : stores.silver with
    | none => simp [silver] at ran
    | some df =>
      simp only [silver] at ran
      cases ran
      exact ⟨⟨df, rfl, rfl⟩, rfl⟩
  refine .bind (.always collected fun _ =>
    elsewhere_does.weaken (fun _ => id) fun _ _ kept => kept.2)
    fun features => ?_
  refine .given fun read => ?_
  obtain ⟨df, silver, rfl⟩ := read
  refine .bind writePostgres_does fun _ => .some_ fun rows => .given fun converted =>
    .given fun distinct => ?_
  refine .bind (.bind elsewhere_does fun _ => .given fun _ =>
    writeKeys_does (offlineRows_eq_ok converted) 0) fun _ => ?_
  exact .pure fun stores same => ⟨df, rows, silver, offlineRows_eq_ok converted, distinct, same⟩

end Publishing

section Jobs

variable {before after : Stores → Prop}

theorem onLogLine_does (line : String) : Does before (onLogLine line) fun _ => before :=
  elsewhere_does.weaken (fun _ => id) fun _ _ kept => kept.2

/-- The end of a job rolls back what no commit has ended. -/
theorem execute_succeeded {handler : Handler World} {fates : List Fate} {start : Stores}
    (holds : before start)
    (does : Does before (handler (.object []) onLogLine) fun result stores =>
      result.status = .succeeded → after stores)
    (success : succeeded (execute handler fates start).1 = true) :
    ∃ stores, after stores ∧
    (execute handler fates start).2 = { stores with transaction := none } := by
  unfold execute at success ⊢
  match ran : handler (.object []) onLogLine ⟨start, fates⟩ with
  | (.returned result, last) =>
    rw [ran] at success
    exact ⟨last.stores, does _ _ _ holds ran (of_decide_eq_true success), rfl⟩
  | (.raised error, last) =>
    rw [ran] at success
    cases success
  | (.running, last) =>
    rw [ran] at success
    cases success

variable (cluster : Cluster) (base : Services World)

theorem features_does {start : Stores} {params : Json} :
    Does (· = start) (Worker.features (services cluster base) params onLogLine) fun result stores =>
      result.status = .succeeded → Published cluster start stores := by
  have tried : Inside (· = start) (writeFeatures (services cluster base) onLogLine)
      fun tried stores =>
      ∃ value, tried = .inr value ∧ Published cluster start stores := by
    refine .bind (.outer (computeFeatures_does cluster)) fun result =>
      .bind (log_inside onLogLine_does _) fun _ => ?_
    exact .pure fun _ published => ⟨result, rfl, published⟩
  exact tryJob_does tried fun _ => ends_inside

theorem runFeatures_published {start : Stores} {fates : List Fate}
    (success : succeeded (runFeatures cluster base fates start).1 = true) :
    Published cluster start (runFeatures cluster base fates start).2 := by
  obtain ⟨stores, ⟨df, rows, silver, converted, distinct, rfl⟩, last⟩ :=
    execute_succeeded (by rfl) (features_does cluster base) success
  exact ⟨df, rows, silver, converted, distinct, last⟩

end Jobs

end OpenScale.FeatureStore
