import OpenScale.FeatureStore.Effects
import OpenScale.Worker.OnlineFeatures

/-! A reset that reports success leaves no rows in `zone_hour_features`, nothing in Silver,
and no feature key online. One that fails may have done the first of these only. -/

namespace OpenScale.FeatureStore

open OpenScale.Library OpenScale.Library.Python OpenScale.Lake OpenScale.Worker

/-- The table has no rows, or is not there. -/
def Emptied (tables : Tables) : Prop := ∀ rows, tables.features = some rows → rows = []

def Stores.current (stores : Stores) : Tables := stores.transaction.getD stores.tables

def present (tables : Tables) (table : String) : Bool :=
  if table = featureTable then tables.features.isSome else tables.others.contains table

variable (cluster : Cluster) (base : Services World)

section Postgres

theorem existingTables_does {tables : Tables} (names : List String) :
    Does (·.current = tables) (existingTables (services cluster base) names) fun existing stores =>
      existing = names.filter (present tables) ∧ stores.current = tables := by
  induction names with
  | nil => exact .pure fun _ same => ⟨rfl, same⟩
  | cons table names ih =>
    have looked : Does (·.current = tables) (tableExists table) fun found stores =>
        found = present tables table ∧ stores.current = tables := by
      refine statement_does fun stores value after same ran => ?_
      cases ran
      exact ⟨same ▸ rfl, same⟩
    refine .bind looked fun found => .given fun seen => .bind ih fun others => .given fun rest => ?_
    refine .pure fun stores same => ⟨?_, same⟩
    rw [List.filter_cons, rest, seen]

theorem emptied_of_not_mem {tables : Tables}
    (missing : featureTable ∉ postgresTables.filter (present tables)) : Emptied tables := by
  intro rows found
  refine absurd (List.mem_filter.mpr ⟨by decide, ?_⟩) missing
  rw [present, if_pos rfl, found]
  rfl

theorem truncateExisting_does {tables : Tables} : Does (·.current = tables)
    (truncate (postgresTables.filter (present tables))) fun _ stores => Emptied stores.current := by
  refine statement_does fun stores value after same ran => ?_
  have current : stores.transaction.getD stores.tables = tables := same
  cases ran
  rw [current]
  intro rows found
  by_cases named : featureTable ∈ postgresTables.filter (present tables)
  · rw [if_pos (List.contains_iff_mem.mpr named)] at found
    obtain ⟨_, _, rfl⟩ := Option.map_eq_some_iff.mp found
    rfl
  · rw [if_neg fun contained => named (List.contains_iff_mem.mp contained)] at found
    exact emptied_of_not_mem named rows found

theorem commit_does :
    Does (fun stores => Emptied stores.current) commit fun _ stores => Emptied stores.tables := by
  refine call_does fun stores value next emptied ran => ?_
  cases ran
  exact emptied

theorem truncatePostgresTables_does : Does (fun _ => True)
    (truncatePostgresTables (services cluster base)) fun _ stores =>
    Emptied stores.tables := by
  have connected : Does (fun _ => True) connect fun _ stores => ∃ tables, stores.current = tables :=
    call_does fun stores _ _ _ _ => ⟨_, rfl⟩
  have body (tables : Tables) : Does (·.current = tables) (do
      let existing ← existingTables (services cluster base) postgresTables
      if !existing.isEmpty then truncate existing
      commit
      return existing) fun _ stores => Emptied stores.tables := by
    refine .bind (existingTables_does cluster base postgresTables) fun existing =>
      .given fun listed => ?_
    rw [listed]
    dsimp only
    split
    · exact .bind truncateExisting_does fun _ => .bind commit_does fun _ =>
        .pure fun _ emptied => emptied
    · rename_i none_
      refine .bind (commit_does.weaken ?_ fun _ _ => id) fun _ => .pure fun _ emptied => emptied
      intro stores same
      rw [same]
      refine emptied_of_not_mem ?_
      have empty : postgresTables.filter (present tables) = [] := by simpa using none_
      rw [empty]
      exact List.not_mem_nil
  have closed : Does (fun stores => Emptied stores.tables) close fun _ stores =>
    Emptied stores.tables := by
    refine call_does fun stores value next emptied ran => ?_
    cases ran
    exact emptied
  refine .bind connected fun _ => .some_ fun tables => .bind (.always (body tables) fun _ => closed)
    fun existing => ?_
  exact .pure fun _ emptied => emptied

end Postgres

section Redis

structure Wiped (stores : Stores) : Prop where
  tables : Emptied stores.tables
  silver : stores.silver = none
  keys : ∀ key ∈ stores.online, ¬ IsFeatureKey key

theorem listsAndDeletes : ListsAndDeletes (services cluster base) cluster.scanner
    (fun stores => stores.online.keys) fun stores => Emptied stores.tables ∧
    stores.silver = none where
  connect keys := elsewhere_does.weaken (fun _ => id) fun _ _ kept => kept.2
  scan cursor keys := by
    change Does _ (scan cluster cursor onlineFeaturePattern) _
    unfold scan redis
    refine call_does fun stores value next start ran => ?_
    cases ran
    obtain ⟨empty, rfl⟩ := start
    exact ⟨rfl, empty, rfl⟩
  delete batch keys := by
    change Does _ (delete batch) _
    unfold delete redis
    refine call_does fun stores value next start ran => ?_
    cases ran
    obtain ⟨empty, rfl⟩ := start
    exact ⟨empty, fun key => mem_erase_keys⟩

end Redis

/-- The tables are empty, and what the loop has visited of the lake is. -/
def Visited (visited : List String) (stores : Stores) : Prop :=
  Emptied stores.tables ∧ ("silver" ∈ visited → stores.silver = none)

theorem deletePrefix_does {visited : List String} (lakePrefix : String) :
    Does (Visited visited) (deletePrefix cluster lakePrefix) fun _ =>
      Visited (visited ++ [lakePrefix]) := by
  refine call_does fun stores value next kept ran => ?_
  cases ran
  split
  · exact ⟨kept.1, fun _ => rfl⟩
  · rename_i other
    refine ⟨kept.1, fun member => kept.2 ?_⟩
    rcases List.mem_append.mp member with before | last
    · exact before
    · exact absurd (List.mem_singleton.mp last).symm other

theorem wipe_inside :
    Inside (fun _ => True) (wipe (services cluster base) onLogLine) fun tried stores =>
    ∃ value, tried = .inr value ∧ Wiped stores := by
  have step : ∀ visited lakePrefix, Inside (Visited visited) (do
      let deleted ← Program.outer ((services cluster base).deletePrefix lakePrefix)
      log onLogLine ("minio: deleted " ++ toString deleted ++ " objects under " ++
        lakePrefix ++ "/") :
        Body World Unit PUnit)
        fun _ => Visited (visited ++ [lakePrefix]) :=
    fun visited lakePrefix => .bind (.outer (deletePrefix_does cluster lakePrefix)) fun _ =>
      log_inside onLogLine_does _
  have deleted : Inside (fun stores => Emptied stores.tables)
      (Program.forEach lakePrefixes fun lakePrefix => do
      let deleted ← Program.outer ((services cluster base).deletePrefix lakePrefix)
      log onLogLine ("minio: deleted " ++ toString deleted ++ " objects under " ++
        lakePrefix ++ "/") :
        Body World Unit PUnit)
        fun _ stores => Emptied stores.tables ∧ stores.silver = none := by
    refine .weaken (.forEach step) ?_ ?_
    · intro state empty
      exact ⟨empty, fun member => absurd member List.not_mem_nil⟩
    · intro _ state holds
      exact ⟨holds.1, holds.2 (by decide)⟩
  refine .bind (.outer (truncatePostgresTables_does cluster base)) fun line =>
    .bind (log_inside onLogLine_does line)
    fun _ => ?_
  have online : Does (fun stores => Emptied stores.tables ∧ stores.silver = none)
      (deleteOnlineFeatures (services cluster base)) fun _ => Wiped :=
    (deleteOnlineFeatures_does (listsAndDeletes cluster base)).weaken (fun _ => id)
      fun _ _ last => ⟨last.1.1, last.1.2, last.2⟩
  refine .bind deleted fun _ => .bind (.outer online) fun line => ?_
  exact .bind (log_inside onLogLine_does line) fun _ => .pure fun _ wiped => ⟨⟨⟩, rfl, wiped⟩

theorem reset_does {params : Json} : Does (fun _ => True)
    (Worker.reset (services cluster base) params onLogLine)
    fun result stores => result.status = .succeeded → Wiped stores :=
  tryJob_does (wipe_inside cluster base) fun _ => ends_inside

/-- After a reset that succeeds the next features run finds nothing to disagree with. -/
theorem runReset_wiped {start : Stores} {fates : List Fate}
    (success : succeeded (runReset cluster base fates start).1 = true) :
        Wiped (runReset cluster base fates start).2 := by
  obtain ⟨stores, wiped, last⟩ := execute_succeeded trivial (reset_does cluster base) success
  exact ⟨last ▸ wiped.tables, last ▸ wiped.silver, last ▸ wiped.keys⟩

end OpenScale.FeatureStore
