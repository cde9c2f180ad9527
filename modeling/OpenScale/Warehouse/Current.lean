import OpenScale.Lake.Reconciliation
import OpenScale.Warehouse.Sound

/-! After a silver and a gold job that succeed, the four tables are built from what Bronze then
holds, all of them from the same, unless Silver has months that Bronze has lost. Only a reset that
stops half way leaves such. -/

namespace OpenScale.Warehouse

open OpenScale.Library OpenScale.Library.Python OpenScale.Lake OpenScale.Ingestion
open OpenScale.Worker hiding DataFrame

/-- Silver has no month that Bronze does not have. -/
def Fresh (lake : Objects) : Prop := ∀ month, Nameable month → silverKey month ∈ lake →
    bronzeKey month ∈ lake

/-- Bronze as it is in the lake. -/
structure Holds (lake : Objects) (bronze : Bronze) : Prop where
  nameable : ∀ month ∈ bronze.months, Nameable month.1
  objects : ∀ month, Nameable month → ∀ trips, (month, trips) ∈ bronze.months ↔
    ∃ df, lake.lookup (bronzeKey month) = some (.bronze df) ∧ df.trips = some trips

variable {site : Site} {cluster : Cluster} {answers : List Tlc} {builtins : Builtins}

section Keys

variable {month other : Int × Int} {name : String} {lake : Objects}

theorem bronzeKey_under : Reset.isUnder bronzeDirectory (bronzeKey month) = true := isUnder_objectAt

theorem silverKey_under : Reset.isUnder "silver/trips" (silverKey month) = true := isUnder_objectAt

theorem silverKey_outside : Reset.isUnder bronzeDirectory (silverKey month) = false :=
  @isUnder_other "silver/trips" _ _ (by decide) (by decide) (by decide) silverKey_under

theorem quarantineKey_outside : Reset.isUnder bronzeDirectory (quarantineKey name month) = false :=
  @isUnder_other "silver/quarantine" _ _ (by decide) (by decide) (by decide) isUnder_objectAt

theorem quarantineKey_ne_silverKey : quarantineKey name month ≠ silverKey other :=
  objectAt_ne (by decide) (by decide) (by decide)

end Keys

section Listing

variable {month : Int × Int} {lake : Objects}

theorem mem_mapM {Item Value : Type} {read : Item → Except PyError Value} {items : List Item}
    {values : List Value}
    (done : items.mapM read = .ok values) {item : Item} (member : item ∈ items) :
    ∃ value ∈ values, read item = .ok value := by
  induction items generalizing values with
  | nil => cases member
  | cons first items ih =>
    rw [List.mapM_cons] at done
    obtain ⟨value, head, done⟩ := bind_eq_ok.mp done
    obtain ⟨others, rest, done⟩ := bind_eq_ok.mp done
    cases done
    rcases List.mem_cons.mp member with rfl | later
    · exact ⟨value, List.mem_cons_self, head⟩
    · obtain ⟨found, inside, same⟩ := ih rest later
      exact ⟨found, List.mem_cons_of_mem value inside, same⟩

theorem mem_periods (nameable : Nameable month) (present : bronzeKey month ∈ lake)
    {periods : List (Int × Int)}
    (read : (sorted (Reset.ls bronzeDirectory lake.keys)).mapM (periodOf builtins) = .ok periods) :
    month ∈ periods := by
  have parquet : '/' ∉ ".parquet".toList := by decide
  have flat : '/' ∉ (Months.nameOf month ++ ".parquet").toList := by
    rw [String.toList_append, List.mem_append, not_or]
    exact ⟨slash_notMem_nameOf nameable, parquet⟩
  have listed : Months.nameOf month ++ ".parquet" ∈ Reset.ls bronzeDirectory lake.keys := by
    have inside : Months.nameOf month ++ ".parquet" ∈
        ((lake.keys.filter (Reset.isUnder bronzeDirectory)).map fun key =>
        String.ofList
          ((key.toList.drop (bronzeDirectory.length + 1)).takeWhile (· != '/'))).dedup := by
      rw [List.mem_dedup, List.mem_map]
      refine ⟨bronzeKey month, List.mem_filter.mpr ⟨present, bronzeKey_under⟩, ?_⟩
      rw [bronzeKey, bronzeDirectory, ls_name flat, String.ofList_toList]
    unfold Reset.ls
    dsimp only
    split
    next none_ =>
      rw [none_] at inside
      cases inside
    · exact inside
  obtain ⟨found, member, same⟩ := mem_mapM read ((List.mergeSort_perm _ _).mem_iff.mpr listed)
  have back := @unpackPair_stem month builtins nameable [] (.inl rfl)
  rw [List.nil_append] at back
  cases same.symm.trans back
  exact member

end Listing

section Silver

variable {start : Objects} {visited : List (Int × Int)} {month : Int × Int}
  {stores : Reset.Stores Data}

variable (start) in
/-- Wherever a silver job stops: Bronze is as it was, and Silver has old months and months of
Bronze. -/
structure Grown (stores : Reset.Stores Data) : Prop where
  bronze : SameUnder bronzeDirectory start stores.lake
  silver : ∀ key ∈ stores.lake, Reset.isUnder "silver/trips" key = true →
    key ∈ start ∨ ∃ month, Nameable month ∧ bronzeKey month ∈ start ∧ key = silverKey month

/-- What the validator makes of an object of Bronze. -/
def Validates (start lake : Objects) (month : Int × Int) : Prop :=
  ∃ df trips, start.lookup (bronzeKey month) = some (.bronze df) ∧ df.trips = some trips ∧
    lake.lookup (silverKey month) = some (.silver (processPeriod month.1 month.2 trips).trips.2)

variable (start visited) in
/-- While it runs: it has got through these months. -/
structure Validated (stores : Reset.Stores Data) : Prop extends Grown start stores where
  done : ∀ month ∈ visited, Validates start stores.lake month

theorem Grown.put (grown : Grown start stores) {key : String} {data : Data}
    (outside : Reset.isUnder bronzeDirectory key = false)
    (silver : Reset.isUnder "silver/trips" key = true → ∃ month, Nameable month ∧
      bronzeKey month ∈ start ∧
      key = silverKey month) : Grown start { stores with lake := stores.lake.insert key data } where
  bronze := by
    refine grown.bronze.trans ⟨keys_insert_filter outside, fun other under => ?_⟩
    have differ : other ≠ key := by
      rintro rfl
      rw [under] at outside
      cases outside
    exact AList.lookup_insert_ne differ
  silver other member under := by
    rcases (AList.mem_insert _).mp member with rfl | old
    · exact .inr (silver under)
    · exact grown.silver other old under

theorem Validated.quarantine (validated : Validated start visited stores) {name : String}
    {other : Int × Int} {data : Data} :
    Validated start visited
      { stores with lake := stores.lake.insert (quarantineKey name other) data } where
  toGrown := by
    refine validated.toGrown.put quarantineKey_outside fun under => ?_
    have apart :=
      @isUnder_other "silver/quarantine" "silver/trips" (quarantineKey name other)
        (by decide) (by decide)
      (by decide) isUnder_objectAt
    rw [apart] at under
    cases under
  done month member := by
    obtain ⟨df, trips, stored, read, written⟩ := validated.done month member
    exact ⟨df, trips, stored,
      read, by rwa [AList.lookup_insert_ne (Ne.symm quarantineKey_ne_silverKey)]⟩

theorem Validated.insert (validated : Validated start visited stores) (nameable : Nameable month)
    (named : ∀ other ∈ visited, Nameable other) {df : DataFrame} {trips : List Trip}
    (stored : start.lookup (bronzeKey month) = some (.bronze df)) (read : df.trips = some trips) :
    Validated start (visited ++ [month]) { stores with
      lake :=
        stores.lake.insert (silverKey month) (.silver (processPeriod month.1 month.2 trips).trips.2)
          } where
  toGrown := validated.toGrown.put silverKey_outside fun _ =>
    ⟨month, nameable, AList.lookup_isSome.mp (stored ▸ rfl), rfl⟩
  done other member := by
    by_cases same : other = month
    · subst same
      exact ⟨df, trips, stored, read, AList.lookup_insert _⟩
    · have old : other ∈ visited := by simpa [same] using member
      obtain ⟨df', trips', stored', read', written⟩ := validated.done other old
      have differ : silverKey other ≠ silverKey month := fun keys =>
        same (silverKey_injective (named other old) nameable keys)
      exact ⟨df', trips', stored', read', by rwa [AList.lookup_insert_ne differ]⟩

theorem validatePeriod_validates (nameable : Nameable month)
    (named : ∀ other ∈ visited, Nameable other) :
    Endures (Validated start visited) (validatePeriod month.1 month.2)
      (fun _ => Validated start (visited ++ [month])) (Grown start) := by
  have opened : Endures (Validated start visited) (readBronze month.1 month.2)
      (fun trips stores => (∃ df, start.lookup (bronzeKey month) = some (.bronze df) ∧
        df.trips = some trips) ∧ Validated start visited stores) (Grown start) := by
    refine call_endures (fun _ validated => validated.toGrown)
      fun stores trips next validated ran => ?_
    rw [objectKey_bronzePath, validated.bronze.lookup _ bronzeKey_under] at ran
    split at ran
    next df stored =>
      split at ran
      next rows read =>
        cases ran
        exact ⟨⟨⟨df, stored, read⟩, validated⟩, validated.toGrown⟩
      · cases ran
    · cases ran
    · cases ran
  refine .bind opened fun trips => .given fun source => ?_
  obtain ⟨df, stored, read⟩ := source
  have idle {visited : List (Int × Int)} :
      Endures (Validated start visited) (elsewhere (⟨⟩ : PUnit))
      (fun _ => Validated start visited) (Grown start) :=
    (elsewhere_endures fun _ validated => validated.toGrown).weaken (fun _ => id)
      (fun _ _ kept => kept.2) fun _ => id
  have written : Endures (Validated start visited)
      (putObject (objectKey (processPeriod month.1 month.2 trips).trips.1)
        (.silver (processPeriod month.1 month.2 trips).trips.2))
      (fun _ => Validated start (visited ++ [month])) (Grown start) := by
    have path : objectKey (processPeriod month.1 month.2 trips).trips.1 = silverKey month :=
      objectKey_silverPath
    rw [path]
    refine call_endures (fun _ validated => validated.toGrown)
      fun stores value next validated ran => ?_
    cases ran
    have grown := validated.insert nameable named stored read
    exact ⟨grown, grown.toGrown⟩
  have quarantined : Endures (Validated start (visited ++ [month]))
      (Program.forEach (processPeriod month.1 month.2 trips).quarantine fun file =>
        putObject (objectKey file.1) (.quarantine file.2))
      (fun _ => Validated start (visited ++ [month])) (Grown start) := by
    refine endures_forEach (fun _ => Validated start (visited ++ [month])) ?_ fun _ _ validated =>
      validated.toGrown
    intro before file later split
    have member : file ∈ (processPeriod month.1 month.2 trips).quarantine := by simp [split]
    rw [quarantine_eq] at member
    obtain ⟨category, _, rfl⟩ := List.mem_map.mp member
    dsimp only
    rw [objectKey_quarantinePath]
    refine call_endures (fun _ validated => validated.toGrown)
      fun stores value next validated ran => ?_
    cases ran
    exact ⟨validated.quarantine, validated.quarantine.toGrown⟩
  refine .bind idle fun _ => .bind written fun _ => .bind quarantined fun _ =>
    .bind idle fun _ => ?_
  exact .pure (fun _ => id) fun _ validated => validated.toGrown

theorem Validated.nil (start : Objects) (same : stores.lake = start) :
    Validated start [] stores where
  bronze := same ▸ .refl
  silver _ member _ := .inl (same ▸ member)
  done := nofun

theorem bronzePeriods_validates :
    Endures (fun stores => stores.lake = start) (bronzePeriods builtins)
    (fun periods stores => ((∀ month ∈ periods, Nameable month) ∧
      ∀ month, Nameable month → bronzeKey month ∈ start → month ∈ periods) ∧
      Validated start [] stores) (Grown start) := by
  have safe (stores : Reset.Stores Data) (same : stores.lake = start) : Grown start stores :=
    (Validated.nil start same).toGrown
  have listed {Value : Type} (answer : List String → Value) :
      Endures (fun stores => stores.lake = start)
      (Reset.listing answer) (fun value stores => value = answer start.keys ∧
        stores.lake = start) (Grown start) := by
    refine call_endures safe fun stores value next same ran => ?_
    cases ran
    exact ⟨⟨by rw [same], same⟩, safe _ same⟩
  refine .bind (listed _) fun present => .given fun seen => ?_
  subst seen
  split
  next absent =>
    refine .pure (fun _ same => ⟨⟨nofun, fun month _ member => ?_⟩, Validated.nil start same⟩)
      fun _ => safe _
    have here : Reset.pathExists bronzeDirectory start.keys = true := by
      rw [Reset.pathExists, List.any_eq_true]
      exact ⟨bronzeKey month, member, by simp [bronzeKey_under]⟩
    simp [here] at absent
  · refine .bind (listed _) fun names => .given fun seen => ?_
    subst seen
    refine (fromExcept_endures safe).weaken (fun _ => id) (fun periods _ read => ?_) fun _ => id
    exact ⟨⟨nameable_periods read.1, fun month nameable member =>
      mem_periods nameable member read.1⟩, Validated.nil start read.2⟩

theorem silver_validates {base : Services World} {params : Json} :
    Endures (fun stores => stores.lake = start)
      (Worker.silver (lakeServices cluster base) params published)
      (fun result stores => result.status = .succeeded →
        Grown start stores ∧ ∀ month, Nameable month → bronzeKey month ∈ start →
        Validates start stores.lake month)
      (Grown start) := by
  have tried :
      Within (fun stores => stores.lake = start) (validateAll (lakeServices cluster base) published)
      (fun tried stores => ∃ value, tried = .inr value ∧ Grown start stores ∧
        ∀ month, Nameable month → bronzeKey month ∈ start →
        Validates start stores.lake month) (Grown start) := by
    refine .bind (.outer bronzePeriods_validates) fun periods => .given fun listed => ?_
    have rounds : Within (Validated start [])
        (Program.forEach periods fun month => do
          let report ← Program.outer (validatePeriod month.1 month.2)
          log published (base.builtins.str report.dict)
          setLocals fun rowsProcessed =>
            rowsProcessed + report.recordsProcessed : Body World Int PUnit)
        (fun _ => Validated start periods) (Grown start) := by
      refine within_forEach (Validated start) ?_ fun _ _ validated => validated.toGrown
      intro visited month later split
      have nameable := listed.1 month (by simp [split])
      have named : ∀ other ∈ visited, Nameable other :=
        fun other member => listed.1 other (by simp [split, member])
      have grown (stores : Reset.Stores Data)
          (validated : Validated start (visited ++ [month]) stores) :
          Grown start stores := validated.toGrown
      refine .bind (.outer (validatePeriod_validates nameable named)) fun report => ?_
      refine .bind (log_within (published_endures grown) grown _) fun _ =>
        ⟨?_, fun state => grown state.2.stores⟩
      intro state value final validated run
      cases run
      exact validated
    refine .bind rounds fun _ => .pure (fun _ validated => ?_) fun _ validated => validated.toGrown
    exact ⟨(), rfl, validated.toGrown, fun month nameable member =>
      validated.done month (listed.2 month nameable member)⟩
  refine tryJob_endures published_maintains tried fun _ => ⟨?_, fun state kept => kept.1⟩
  intro state value final kept run
  cases run
  exact kept

end Silver

section Gold

variable {start lake : Objects} {stores : Reset.Stores Data} {df : List SilverTrip}
  {bronze : Bronze}

theorem Placed.named {key : String} {data : Data} (placed : Placed site cluster answers key data)
    (under : Reset.isUnder "silver/trips" key = true) :
    ∃ month, Nameable month ∧ key = silverKey month := by
  have other {directory name : String} (known : directory ∈ directories) (differ : "silver/trips" ≠
      directory)
      (under : Reset.isUnder "silver/trips" (objectAt directory name) = true) : False := by
    rw [isUnder_other known (by decide) differ isUnder_objectAt] at under
    cases under
  have gold {job : GoldModule} (known : job ∈ goldModules) : "silver/trips" ≠ job.directory :=
    (sources_known known (by decide)).2
  cases placed with
  | silver landed read => exact ⟨_, landed.nameable, rfl⟩
  | bronze landed => exact (other (by decide) (by decide) under).elim
  | quarantine landed read => exact (other (by decide) (by decide) under).elim
  | part known built => exact (other (directory_known known) (gold known) under).elim
  | marker known => exact (other (directory_known known) (gold known) under).elim

theorem Grown.holds (grown : Grown start stores) (sound : LakeSound site cluster answers start)
    (fresh : Fresh start)
    (done : ∀ month, Nameable month → bronzeKey month ∈ start → Validates start stores.lake month)
    (read : readSilver cluster stores.lake = .ok df) :
    ∃ bronze, Holds stores.lake bronze ∧ df = bronze.silverTrips := by
  have stored (key : String) (under : Reset.isUnder "silver/trips" key = true)
      (rows : List SilverTrip)
      (found : stores.lake.lookup key = some (.silver rows)) :
      Kept (fun month trips => Nameable month ∧
        ∃ df, start.lookup (bronzeKey month) = some (.bronze df) ∧
        df.trips = some trips) key rows := by
    have source : ∃ month, Nameable month ∧ bronzeKey month ∈ start ∧ key = silverKey month := by
      rcases grown.silver key (AList.lookup_isSome.mp (found ▸ rfl)) under with old | added
      · obtain ⟨data, before⟩ := Option.isSome_iff_exists.mp (AList.lookup_isSome.mpr old)
        obtain ⟨month, nameable, rfl⟩ := (sound key data before).named under
        exact ⟨month, nameable, fresh month nameable old, rfl⟩
      · exact added
    obtain ⟨month, nameable, present, rfl⟩ := source
    obtain ⟨df, trips, bronze, known, written⟩ := done month nameable present
    cases written.symm.trans found
    exact ⟨month, trips, rfl, ⟨nameable, df, bronze, known⟩, rfl⟩
  obtain ⟨bronze, known, listed, rfl⟩ := readSilver_kept stored read
  refine ⟨bronze,
    ⟨fun month member => (known month member).1, fun month nameable trips =>
      ⟨fun member => ?_, ?_⟩⟩, rfl⟩
  · rw [grown.bronze.lookup _ bronzeKey_under]
    exact (known _ member).2
  · rintro ⟨df, found, read⟩
    rw [grown.bronze.lookup _ bronzeKey_under] at found
    obtain ⟨df', trips', found', read', written⟩ :=
      done month nameable (AList.lookup_isSome.mp (found ▸ rfl))
    have inside : silverKey month ∈ stores.lake.keys.filter (Reset.isUnder "silver/trips") :=
      List.mem_filter.mpr ⟨AList.lookup_isSome.mp (written ▸ rfl), silverKey_under⟩
    obtain ⟨⟨other, rows⟩, member, same⟩ := List.mem_map.mp (listed.mem_iff.mpr inside)
    obtain ⟨otherNameable, other_, otherFound, otherRead⟩ := known _ member
    cases silverKey_injective otherNameable nameable same
    cases found.symm.trans otherFound
    cases read.symm.trans otherRead
    exact member

theorem Holds.congr (holds : Holds start bronze) (same : SameUnder bronzeDirectory start lake) :
    Holds lake bronze where
  nameable := holds.nameable
  objects month nameable trips := by
    rw [holds.objects month nameable trips, same.lookup _ bronzeKey_under]

theorem lookup_writtenBy {spark : Spark} {job : GoldModule} (known : job ∈ goldModules)
    (tables : Reset.Tables Data) :
    (writtenBy spark df goldModules tables).lookup job.goldTable = some
    ((job.build spark df).map .row) := by
  have loop : ∀ done : List GoldModule, job ∈ done → (∀ other ∈ done, other ∈ goldModules) →
      (writtenBy spark df done tables).lookup job.goldTable =
      some ((job.build spark df).map .row) := by
    intro done
    induction done using List.reverseRecOn with
    | nil => exact fun member => nomatch member
    | append_singleton done last ih =>
      intro member inside
      rw [writtenBy, List.foldl_append, List.foldl_cons, List.foldl_nil, GoldModule.written]
      by_cases same : job = last
      · subst same
        exact AList.lookup_insert _
      · have lastKnown := inside last (by simp)
        rw [AList.lookup_insert_ne fun tables => same (goldTable_injective lastKnown known tables)]
        exact ih (by simpa [same] using member) fun other old => inside other (by simp [old])
  exact loop goldModules known fun _ => id

variable (cluster) in
/-- What is read of Silver, if anything, comes from Bronze as it is. -/
def Settled (lake : Objects) : Prop :=
  ∀ df, readSilver cluster lake = .ok df → ∃ bronze, Holds lake bronze ∧ df = bronze.silverTrips

theorem Settled.congr (settled : Settled cluster start)
    (same : ∀ directory ∈ sources, SameUnder directory start lake) : Settled cluster lake := by
  intro df read
  rw [readSilver_congr (same _ (by decide))] at read
  obtain ⟨bronze, holds, known⟩ := settled df read
  exact ⟨bronze, holds.congr (same _ (by decide)), known⟩

end Gold

section Fresh

variable {start lake : Objects} {stores : Reset.Stores Data}

theorem SameUnder.mem {directory key : String} (same : SameUnder directory start lake)
    (under : Reset.isUnder directory key = true) : key ∈ lake ↔ key ∈ start := by
  rw [← AList.lookup_isSome, ← AList.lookup_isSome, same.lookup key under]

theorem Fresh.congr (fresh : Fresh start)
    (same : ∀ directory ∈ sources, SameUnder directory start lake) : Fresh lake := by
  intro month nameable present
  rw [(same "silver/trips" (by decide)).mem silverKey_under] at present
  rw [(same bronzeDirectory (by decide)).mem bronzeKey_under]
  exact fresh month nameable present

theorem Fresh.grown (fresh : Fresh start) (grown : Grown start stores) : Fresh stores.lake := by
  intro month nameable present
  rw [grown.bronze.mem bronzeKey_under]
  rcases grown.silver _ present silverKey_under with old | ⟨other, otherNameable, here, same⟩
  · exact fresh month nameable old
  · rwa [silverKey_injective nameable otherNameable same]

theorem Fresh.landing {landing : Landing} (fresh : Fresh start)
    (sound : LandingSound site cluster answers start landing) : Fresh landing.lake := by
  intro month nameable present
  rw [← AList.lookup_isSome, sound.others _ silverKey_outside, AList.lookup_isSome] at present
  exact sound.kept _ (fresh month nameable present)

theorem Fresh.cleared (cleared : Reset.Cleared stores) : Fresh stores.lake := by
  intro month nameable present
  refine (cleared.lake _ present ⟨"silver", by decide, ?_⟩).elim
  have inside : ("silver".toList ++ ['/']) <+: ("silver/trips".toList ++ ['/']) := by decide
  exact isUnder_iff.mpr (inside.trans (isUnder_iff.mp silverKey_under))

end Fresh

section Histories

variable {servers : Reset.Servers} {fates : List Fate} {start : Reset.Stores Data}

variable (builtins servers) in
/-- No reset stops half way. -/
def Whole (state : State) : Event → Prop
  | .reset params fates =>
    Reset.succeeded (runReset servers builtins params fates state.stores).1 = true
  | _ => True

/-- Nothing but gold and features jobs. -/
def Quiet : Event → Prop
  | .gold _ => True
  | .features _ _ => True
  | _ => False

theorem runSilver_grown : Grown start.lake (runSilver cluster builtins fates start).2 := by
  obtain ⟨last, grown, same⟩ :=
    execute_stops (@silver_validates cluster start.lake (base builtins) (.object []))
    fates start rfl
  rw [runSilver, same]
  exact ⟨grown.bronze, grown.silver⟩

theorem runSilver_settled (sound : LakeSound site cluster answers start.lake)
    (fresh : Fresh start.lake)
    (success : Reset.succeeded (runSilver cluster builtins fates start).1 = true) :
    Settled cluster (runSilver cluster builtins fates start).2.lake := by
  obtain ⟨last, ⟨grown, done⟩, same⟩ := execute_succeeded
    (@silver_validates cluster start.lake (base builtins) (.object [])) rfl success
  rw [runSilver, same]
  exact fun df read => grown.holds sound fresh done read

variable (site cluster) in
structure Consistent (state : State) : Prop extends Sound site cluster state where
  fresh : Fresh state.stores.lake

theorem step_consistent {state next : State} {event : Event}
    (consistent : Consistent site cluster state) (whole : Whole builtins servers state event)
    (taken : (system site cluster servers builtins).step state event = some next) :
    Consistent site cluster next := by
  refine ⟨step_sound consistent.toSound taken, ?_⟩
  have fresh := consistent.fresh
  cases event with
  | ingest tlc params fates =>
    cases taken
    exact fresh.landing
      (ingest_maintains site cluster (tlc :: state.answers) state.stores.lake (base builtins)
      List.mem_cons_self params ⟨state.landing, fates⟩ (consistent.landing tlc))
  | download tlc first last force fates =>
    cases taken
    exact fresh.landing
      (downloadRange_maintains site cluster (tlc :: state.answers) state.stores.lake builtins
      List.mem_cons_self first last force ⟨state.landing, fates⟩ (consistent.landing tlc))
  | silver fates =>
    cases taken
    exact fresh.grown runSilver_grown
  | gold fates =>
    cases taken
    obtain ⟨done, _, batch⟩ :
        Stopped cluster state.stores (runGoldJob cluster builtins fates state.stores).2 :=
      runGoldJob_stopped
    exact fresh.congr batch.lake
  | features rows redis =>
    cases taken
    exact fresh
  | reset params fates =>
    cases taken
    exact .cleared (Reset.runReset_cleared servers (base builtins) params fates state.stores whole)

theorem step_settled {state next : State} {event : Event}
    (settled : Settled cluster state.stores.lake)
    (quiet : Quiet event)
    (taken : (system site cluster servers builtins).step state event = some next) :
    Settled cluster next.stores.lake := by
  cases event with
  | gold fates =>
    cases taken
    obtain ⟨done, _, batch⟩ :
        Stopped cluster state.stores (runGoldJob cluster builtins fates state.stores).2 :=
      runGoldJob_stopped
    exact settled.congr batch.lake
  | features rows redis =>
    cases taken
    exact settled
  | ingest _ _ _ | download _ _ _ _ _ | silver _ | reset _ _ => cases quiet

/-- In a history where no reset stops half way: once a silver job has succeeded, a gold job that
succeeds leaves all four tables and datasets as they are built from the months that Bronze holds,
all of them from the same. Gold and features jobs in between, whatever becomes of them, make no
difference. -/
theorem gold_current {state last : State} {later : List Fate}
    (path : (system site cluster servers builtins).Path (Whole builtins servers)
      (system site cluster servers builtins).init state)
    (validated : Reset.succeeded (runSilver cluster builtins fates state.stores).1 = true)
    (between : (system site cluster servers builtins).Path (fun _ => Quiet)
      (state.with (runSilver cluster builtins fates state.stores).2) last)
    (built : Reset.succeeded (runGoldJob cluster builtins later last.stores).1 = true) :
    ∃ bronze, Holds (runGoldJob cluster builtins later last.stores).2.lake bronze ∧
    ∀ job ∈ goldModules,
      (runGoldJob cluster builtins later last.stores).2.tables.lookup job.goldTable =
          some ((job.build cluster.toSpark bronze.silverTrips).map .row) ∧
        ∀ key, Reset.isUnder job.directory key = true →
          (runGoldJob cluster builtins later last.stores).2.lake.lookup key =
            job.dataset cluster (job.build cluster.toSpark bronze.silverTrips) key := by
  have consistent : Consistent site cluster state :=
    path.preserves (fun _ _ _ kept whole taken => step_consistent kept whole taken)
      ⟨init_sound, fun _ _ present => (AList.notMem_empty _ present).elim⟩
  have settled : Settled cluster last.stores.lake :=
    between.preserves (fun _ _ _ settled quiet taken => step_settled settled quiet taken)
      (runSilver_settled consistent.lake consistent.fresh validated)
  have delivered := runGoldJob_delivered built
  rcases delivered.tables with ⟨none_, _⟩ | ⟨df, read, same⟩
  · cases none_
  · obtain ⟨bronze, holds, rfl⟩ := settled df read
    refine ⟨bronze, holds.congr (delivered.lake _ (by decide)), fun job known => ⟨?_, ?_⟩⟩
    · rw [same]
      exact lookup_writtenBy known last.stores.tables
    · exact delivered.datasets job known _ read

end Histories

section Example

def validated : State := filled.with (runSilver plainCluster plainBuiltins [] filled.stores).2

theorem filled_jobs :
    Reset.succeeded (runSilver plainCluster plainBuiltins [] filled.stores).1 = true ∧
    Reset.succeeded (runGoldJob plainCluster plainBuiltins [] validated.stores).1 = true := by
  unfold validated filled runIngest
  rw [ingest_january]
  decide +kernel

theorem gold_current_validated : ∃ bronze,
    Holds (runGoldJob plainCluster plainBuiltins [] validated.stores).2.lake bronze ∧
    ∀ job ∈ goldModules,
      (runGoldJob plainCluster plainBuiltins [] validated.stores).2.tables.lookup job.goldTable =
          some ((job.build plainCluster.toSpark bronze.silverTrips).map .row) ∧
        ∀ key, Reset.isUnder job.directory key = true →
          (runGoldJob plainCluster plainBuiltins [] validated.stores).2.lake.lookup key =
            job.dataset plainCluster (job.build plainCluster.toSpark bronze.silverTrips) key := by
  have allowed : Whole plainBuiltins Reset.plainServers
      (system plainSite plainCluster Reset.plainServers plainBuiltins).init
        (.ingest published2024 january []) := trivial
  have between : (system plainSite plainCluster Reset.plainServers plainBuiltins).Path
      (fun _ => Quiet)
      (filled.with (runSilver plainCluster plainBuiltins [] filled.stores).2) validated := .refl
  exact gold_current (.snoc .refl allowed filled_step) filled_jobs.1 between filled_jobs.2

end Example

end OpenScale.Warehouse
