import OpenScale.Library.Crash
import OpenScale.Warehouse.History

/-! An ingestion that is cut off anywhere leaves whole raw files and validated Bronze objects
only. -/

namespace OpenScale.Warehouse

open OpenScale.Library OpenScale.Library.Python OpenScale.Lake OpenScale.Ingestion
open OpenScale.Worker hiding DataFrame

variable (site : Site) (cluster : Cluster) (answers : List Tlc) (start : Objects)

/-- Beside sound files and a sound lake: of the lake that the job started from nothing has gone, and
nothing beside Bronze has changed. -/
structure LandingSound (landing : Landing) : Prop where
  raw : RawSound site answers landing.raw
  lake : LakeSound site cluster answers landing.lake
  kept : ∀ key ∈ start, key ∈ landing.lake
  others : ∀ key, Reset.isUnder bronzeDirectory key = false →
    landing.lake.lookup key = start.lookup key

section Paths

variable {site} {month other : Int × Int}

theorem rawPath_injective (nameable : Nameable month) (otherNameable : Nameable other)
    (same : rawPath site month = rawPath site other) : month = other :=
  Months.nameOf_injective nameable.1.1 nameable.2.1 otherNameable.1.1 otherNameable.2.1
    (parquet_injective (objectAt_injective same))

theorem partPath_ne_rawPath : partPath site month ≠ rawPath site other := by
  intro same
  have texts := congrArg (fun name => name.toList.reverse) (objectAt_injective same)
  have part : ".part".toList.reverse = ['t', 'r', 'a', 'p', '.'] := by decide
  have parquet : ".parquet".toList.reverse = ['t', 'e', 'u', 'q', 'r', 'a', 'p', '.'] := by decide
  simp only [String.toList_append, List.reverse_append, part, parquet, List.cons_append] at texts
  exact absurd (List.cons.inj (List.cons.inj texts).2).1 (by decide)

end Paths

section Downloads

variable {tlc : Tlc} {month : Int × Int} {landing : Landing}

theorem LandingSound.setPart {site cluster answers start}
    (sound : LandingSound site cluster answers start landing)
    (nameable : Nameable month) (bytes : Bytes) :
    LandingSound site cluster answers start (setFile (partPath site month) bytes landing) where
  raw := {
    names := by
      intro path member
      rcases (AList.mem_insert _).mp member with rfl | old
      · exact ⟨month, nameable, .inr rfl⟩
      · exact sound.raw.names path old
    whole := by
      intro other stored otherNameable found
      rw [setFile, AList.lookup_insert_ne (Ne.symm partPath_ne_rawPath)] at found
      exact sound.raw.whole other stored otherNameable found }
  lake := sound.lake
  kept := sound.kept
  others := sound.others

theorem LandingSound.publish {site cluster answers start}
    (sound : LandingSound site cluster answers start landing)
    (nameable : Nameable month) {bytes : Bytes} (served : Served answers month bytes) :
    LandingSound site cluster answers start
      { landing with
        raw := (landing.raw.erase (partPath site month)).insert (rawPath site month) bytes } where
  raw := {
    names := by
      intro path member
      rcases (AList.mem_insert _).mp member with rfl | old
      · exact ⟨month, nameable, .inl rfl⟩
      · exact sound.raw.names path (AList.mem_erase.mp old).2
    whole := by
      intro other stored otherNameable found
      by_cases same : rawPath site other = rawPath site month
      · rw [same, AList.lookup_insert] at found
        cases found
        rwa [rawPath_injective otherNameable nameable same]
      · rw [AList.lookup_insert_ne same,
          AList.lookup_erase_ne (Ne.symm partPath_ne_rawPath)] at found
        exact sound.raw.whole other stored otherNameable found }
  lake := sound.lake
  kept := sound.kept
  others := sound.others

/-- The temporary file of a month holds these bytes. -/
def Filled (month : Int × Int) (bytes : Bytes) (landing : Landing) : Prop :=
  LandingSound site cluster answers start landing ∧
    landing.raw.lookup (partPath site month) = some bytes

theorem setPart_filled (nameable : Nameable month) (bytes : Bytes)
    (sound : LandingSound site cluster answers start landing) :
    Filled site cluster answers start month bytes (setFile (partPath site month) bytes landing) :=
  ⟨sound.setPart nameable bytes, AList.lookup_insert _⟩

theorem stream_endures (nameable : Nameable month) (response : Response) :
    Endures (LandingSound site cluster answers start) (stream response (partPath site month))
      (fun _ => Filled site cluster answers start month response.body)
        (LandingSound site cluster answers start) := by
  have opened : Endures (LandingSound site cluster answers start) (openFile (partPath site month))
      (fun _ => Filled site cluster answers start month [])
        (LandingSound site cluster answers start) := by
    refine call_endures (fun _ => id) fun landing value next sound ran => ?_
    cases ran
    have filled := setPart_filled site cluster answers start nameable [] sound
    exact ⟨filled, filled.1⟩
  -- what has arrived so far is in the file
  have step (visited : List Bytes) (chunk : Bytes) :
      Endures (Filled site cluster answers start month visited.flatten)
        (do elsewhere ⟨⟩; write (partPath site month) chunk)
        (fun _ => Filled site cluster answers start month (visited ++ [chunk]).flatten)
        (LandingSound site cluster answers start) := by
    refine .bind (elsewhere_endures fun _ filled => filled.1) fun _ => .given fun _ => ?_
    refine call_endures (fun _ filled => filled.1) fun landing value next filled ran => ?_
    cases ran
    have grown :=
      setPart_filled site cluster answers start nameable (visited.flatten ++ chunk) filled.1
    rw [filled.2, List.flatten_append, List.flatten_singleton]
    exact ⟨grown, grown.1⟩
  have written :
      Endures (Filled site cluster answers start month [])
        (Program.forEach response.chunks fun chunk => do
          elsewhere ⟨⟩
          write (partPath site month) chunk)
        (fun _ => Filled site cluster answers start month response.body)
        (LandingSound site cluster answers start) :=
    endures_forEach (fun visited => Filled site cluster answers start month visited.flatten)
      (fun visited chunk _ _ => step visited chunk) fun _ _ filled => filled.1
  refine .bind opened fun _ => endures_closing (.bind written fun _ => ?_)
  exact (elsewhere_endures fun _ filled => filled.1).weaken (fun _ => id) (fun _ _ kept => kept.2)
    fun _ => id

theorem exists_endures (path : String) :
    Endures (LandingSound site cluster answers start) (exists_ path)
      (fun _ => LandingSound site cluster answers start)
        (LandingSound site cluster answers start) := by
  refine call_endures (fun _ => id) fun landing value next sound ran => ?_
  cases ran
  exact ⟨sound, sound⟩

theorem download_endures (nameable : Nameable month) (known : tlc ∈ answers) (force : Bool) :
    Endures (LandingSound site cluster answers start) (download site tlc month.1 month.2 force)
      (fun path landing => path = rawPath site month ∧
        LandingSound site cluster answers start landing)
      (LandingSound site cluster answers start) := by
  refine .bind (elsewhere_endures fun _ => id) fun _ => .given fun _ => ?_
  refine .bind (exists_endures site cluster answers start _) fun present => ?_
  split
  · exact .pure (fun _ sound => ⟨rfl, sound⟩) fun _ => id
  · refine .bind (elsewhere_endures fun _ => id) fun response => .given fun asked => ?_
    subst asked
    have streamed := stream_endures site cluster answers start nameable (tlc month.1 month.2)
    have checked : Endures (LandingSound site cluster answers start)
        (do
          fromExcept (checkStatus (tlc month.1 month.2) month.1 month.2)
          stream (tlc month.1 month.2) (partPath site month))
        (fun _ landing => Served answers month (tlc month.1 month.2).body ∧
          Filled site cluster answers start month (tlc month.1 month.2).body landing)
        (LandingSound site cluster answers start) := by
      refine .bind (fromExcept_endures fun _ => id) fun _ => .given fun fine => ?_
      exact streamed.weaken (fun _ => id) (fun _ _ filled => ⟨⟨tlc, known, fine, rfl⟩, filled⟩)
        fun _ => id
    refine .bind (endures_closing checked) fun _ => .given fun served => ?_
    have renamed : Endures (Filled site cluster answers start month (tlc month.1 month.2).body)
        (replace (partPath site month) (rawPath site month))
        (fun _ => LandingSound site cluster answers start)
        (LandingSound site cluster answers start) := by
      refine call_endures (fun _ filled => filled.1) fun landing value next filled ran => ?_
      rw [filled.2] at ran
      cases ran
      have sound := filled.1.publish nameable served
      exact ⟨sound, sound⟩
    exact .bind renamed fun _ => .pure (fun _ sound => ⟨rfl, sound⟩) fun _ => id

end Downloads

section Periods

variable {builtins : Builtins}

theorem mapM_yields {Item Value : Type} {read : Item → Except PyError Value} {good : Value → Prop}
    (each : ∀ item value, read item = .ok value → good value) {items : List Item}
    {values : List Value}
    (done : items.mapM read = .ok values) : ∀ value ∈ values, good value := by
  induction items generalizing values with
  | nil =>
    cases done
    nofun
  | cons item items ih =>
    rw [List.mapM_cons] at done
    obtain ⟨value, first, done⟩ := bind_eq_ok.mp done
    obtain ⟨others, rest, done⟩ := bind_eq_ok.mp done
    cases done
    exact List.forall_mem_cons.mpr ⟨each item value first, ih rest⟩

theorem nameable_periods {paths : List String} {periods : List (Int × Int)}
    (read : paths.mapM (periodOf builtins) = .ok periods) : ∀ month ∈ periods, Nameable month :=
  mapM_yields (fun _ _ => nameable_unpackPair) read

theorem availablePeriods_endures :
    Endures (LandingSound site cluster answers start) (availablePeriods builtins)
    (fun periods landing => (∀ month ∈ periods, Nameable month) ∧
      LandingSound site cluster answers start landing)
    (LandingSound site cluster answers start) := by
  have listed : Endures (LandingSound site cluster answers start)
      (call fun landing => .ok (landing.raw.keys.filter isParquet, landing))
      (fun _ => LandingSound site cluster answers start)
        (LandingSound site cluster answers start) := by
    refine call_endures (fun _ => id) fun landing value next sound ran => ?_
    cases ran
    exact ⟨sound, sound⟩
  refine .bind listed fun files => ?_
  refine (fromExcept_endures fun _ => id).weaken (fun _ => id) (fun _ _ read => ?_) fun _ => id
  exact ⟨nameable_periods read.1, read.2⟩

theorem locate_endures (month : Int × Int) : Endures (LandingSound site cluster answers start)
    (locate site month.1 month.2)
    (fun path landing => path = rawPath site month ∧
      LandingSound site cluster answers start landing)
    (LandingSound site cluster answers start) := by
  refine .bind (exists_endures site cluster answers start _) fun present => ?_
  split
  · exact .pure (fun _ sound => ⟨rfl, sound⟩) fun _ => id
  · exact .raise fun _ => id

end Periods

section Frames

variable {month : Int × Int}

/-- A handle stands for what pandas has read in a whole file of this month. -/
def Held (month : Int × Int) (df : Worker.DataFrame) (landing : Landing) : Prop :=
  LandingSound site cluster answers start landing ∧ ∃ frame, frameOf landing df = .ok frame ∧
    ∃ bytes, Served answers month bytes ∧ site.decode bytes = .ok frame

/-- So does one that has gone through the gate. -/
def Checked (month : Int × Int) (df : Worker.DataFrame) (landing : Landing) : Prop :=
  LandingSound site cluster answers start landing ∧ ∃ frame, frameOf landing df = .ok frame ∧
    Landed site answers month frame

theorem readRaw_endures (nameable : Nameable month) :
    Endures (LandingSound site cluster answers start)
    (readRaw site (rawPath site month)) (Held site cluster answers start month)
    (LandingSound site cluster answers start) := by
  refine call_endures (fun _ => id) fun landing value next sound ran => ?_
  split at ran
  · cases ran
  next bytes stored =>
    obtain ⟨frame, decoded, same⟩ := bind_eq_ok.mp ran
    cases same
    have kept :
        LandingSound site cluster answers start { landing with frames := landing.frames ++
          [frame] } :=
      ⟨sound.raw, sound.lake, sound.kept, sound.others⟩
    refine ⟨⟨kept, frame, ?_, bytes, sound.raw.whole month bytes nameable stored, decoded⟩, kept⟩
    simp [frameOf]

theorem validateFrame_endures (nameable : Nameable month) (df : Worker.DataFrame) :
    Endures (Held site cluster answers start month df) (validateFrame df)
      (fun _ => Checked site cluster answers start month df)
        (LandingSound site cluster answers start) := by
  refine call_endures (fun _ held => held.1) fun landing value next held ran => ?_
  obtain ⟨sound, frame, found, source⟩ := held
  obtain ⟨other, same, ran⟩ := bind_eq_ok.mp ran
  cases found.symm.trans same
  obtain ⟨passed, valid, ran⟩ := bind_eq_ok.mp ran
  cases ran
  exact ⟨⟨sound, frame, found, nameable, source, validate_eq_ok.mp valid⟩, sound⟩

variable (month) in
theorem upload_endures (df : Worker.DataFrame) :
    Endures (Checked site cluster answers start month df)
    (upload df month.1 month.2) (fun _ => LandingSound site cluster answers start)
    (LandingSound site cluster answers start) := by
  refine call_endures (fun _ checked => checked.1) fun landing value next checked ran => ?_
  obtain ⟨sound, frame, found, landed⟩ := checked
  obtain ⟨other, same, ran⟩ := bind_eq_ok.mp ran
  cases found.symm.trans same
  cases ran
  have placed : LakeSound site cluster answers
      (landing.lake.insert (objectKey (bronzePath month.1 month.2)) (.bronze frame)) := by
    intro key data stored
    by_cases here : key = objectKey (bronzePath month.1 month.2)
    · rw [here, AList.lookup_insert] at stored
      cases stored
      rw [here, objectKey_bronzePath]
      exact .bronze landed
    · rw [AList.lookup_insert_ne here] at stored
      exact sound.lake key data stored
  have bronze : Reset.isUnder bronzeDirectory (objectKey (bronzePath month.1 month.2)) = true := by
    rw [objectKey_bronzePath]
    exact isUnder_objectAt
  have uploaded : LandingSound site cluster answers start
      { landing with
        lake := landing.lake.insert (objectKey (bronzePath month.1 month.2)) (.bronze frame) } := by
    refine ⟨sound.raw, placed, fun key old => ?_, fun key outside => ?_⟩
    · exact (AList.mem_insert _).mpr (.inr (sound.kept key old))
    · have differ : key ≠ objectKey (bronzePath month.1 month.2) := by
        rintro rfl
        rw [bronze] at outside
        cases outside
      rw [AList.lookup_insert_ne differ, sound.others key outside]
  exact ⟨uploaded, uploaded⟩

end Frames

section Job

variable {builtins : Builtins} {tlc : Tlc} {month : Int × Int}

theorem ingestPeriod_endures (services : Services (Fated Landing)) (nameable : Nameable month)
    (known : tlc ∈ answers)
    (fetchFromTlc : Bool) : Endures (LandingSound site cluster answers start)
    (ingestPeriod (ingestServices site tlc services) fetchFromTlc month.1 month.2)
    (fun _ => LandingSound site cluster answers start)
    (LandingSound site cluster answers start) := by
  have fetched : Endures (LandingSound site cluster answers start)
      (rescueOnly ["DownloadError", "FileNotFoundError"]
        (do
          let rawPath ← if fetchFromTlc then download site tlc month.1 month.2 false
              else locate site month.1 month.2
          return .inr rawPath)
        fun error => return .inl (.unavailable (periodName month.1 month.2) error.text))
      (fun (found : PeriodResult ⊕ String) landing =>
        (∀ path, found = .inr path → path = rawPath site month) ∧
        LandingSound site cluster answers start landing)
          (LandingSound site cluster answers start) := by
    refine endures_rescueOnly ?_ fun error => .pure (fun _ sound => ⟨nofun, sound⟩) fun _ => id
    have found {task : Task (Fated Landing) String}
        (survives : Endures (LandingSound site cluster answers start) task
        (fun path landing => path = rawPath site month ∧
          LandingSound site cluster answers start landing)
        (LandingSound site cluster answers start)) :
        Endures (LandingSound site cluster answers start) (do return .inr (← task))
          (fun (found : PeriodResult ⊕ String) landing =>
            (∀ path, found = .inr path → path = rawPath site month) ∧
            LandingSound site cluster answers start landing)
              (LandingSound site cluster answers start) := by
      refine .bind survives fun path => .given fun same => ?_
      exact .pure (fun _ sound => ⟨fun other here => Sum.inr.inj here ▸ same, sound⟩) fun _ => id
    split
    · exact found (download_endures site cluster answers start nameable known false)
    · exact found (locate_endures site cluster answers start month)
  refine .bind fetched fun found => .given fun located => ?_
  cases found with
  | inl result => exact .pure (fun _ sound => sound) fun _ => id
  | inr path =>
    cases located path rfl
    refine .bind (readRaw_endures site cluster answers start nameable) fun df => ?_
    have checked : Endures (Held site cluster answers start month df)
        (rescueOnly ["SchemaValidationError"]
          (do
            validateFrame df
            return none)
          fun error => return some (.rejected (periodName month.1 month.2) error.text))
        (fun (rejected : Option PeriodResult) landing =>
          LandingSound site cluster answers start landing ∧
          (rejected = none → Checked site cluster answers start month df landing))
            (LandingSound site cluster answers start) := by
      refine endures_rescueOnly ?_ fun error => .pure (fun _ sound => ⟨sound, nofun⟩) fun _ => id
      refine .bind (validateFrame_endures site cluster answers start nameable df) fun _ => ?_
      exact .pure (fun _ checked => ⟨checked.1, fun _ => checked⟩) fun _ checked => checked.1
    refine .bind checked fun rejected => ?_
    cases rejected with
    | some result => exact .pure (fun _ sound => sound.1) fun _ sound => sound.1
    | none =>
      have uploaded := upload_endures site cluster answers start month df
      refine .bind (uploaded.weaken (fun _ passed => passed.2 rfl) (fun _ _ => id) fun _ => id)
        fun _ => ?_
      exact .pure (fun _ sound => sound) fun _ => id

theorem ingestAll_maintains {services : Services (Fated Landing)} (known : tlc ∈ answers)
    {periods : Option (List (Int × Int))} (nameable : ∀ months, periods = some months →
      ∀ month ∈ months, Nameable month) :
    (ingestAll (ingestServices site tlc services) published periods).Maintains fun state =>
      LandingSound site cluster answers start state.2.stores := by
  refine Program.Withstands.maintains_bind
    (.outer (?targets : Endures (LandingSound site cluster answers start) _
    (fun (months : List (Int × Int)) landing => (∀ month ∈ months, Nameable month) ∧
      LandingSound site cluster answers start landing) (LandingSound site cluster answers start)))
    fun months => .given fun named => ?_
  case targets =>
    cases periods with
    | some months => exact .pure (fun _ sound => ⟨nameable months rfl, sound⟩) fun _ => id
    | none => exact availablePeriods_endures site cluster answers start
  refine .of_maintains (.bind (.forEach fun month member => ?_) fun _ => .pure)
  have round := ingestPeriod_endures site cluster answers start services (named month member) known
    periods.isSome
  exact .bind (.outer round.maintains) fun result =>
    .bind (log_maintains published_maintains _) fun _ _ sound => sound

theorem ingest_maintains (services : Services (Fated Landing)) (known : tlc ∈ answers)
    (params : Json) :
    (Worker.ingest (ingestServices site tlc services) params published).Maintains fun world =>
      LandingSound site cluster answers start world.stores := by
  have asked :
      Endures (LandingSound site cluster answers start)
        (fromExcept (ingestPeriods services.builtins params))
      (fun periods landing => ingestPeriods services.builtins params = .ok periods ∧
        LandingSound site cluster answers start landing)
          (LandingSound site cluster answers start) :=
    fromExcept_endures fun _ => id
  refine Program.Withstands.maintains_bind asked fun periods => .given fun read => .of_maintains ?_
  refine tryJob_maintains published_maintains
    (ingestAll_maintains site cluster answers start known ?_) fun _ => ?_
  · intro months some_
    unfold ingestPeriods at read
    obtain ⟨start, _, read⟩ := bind_eq_ok.mp read
    obtain ⟨finish, _, read⟩ := bind_eq_ok.mp read
    split at read
    · obtain ⟨range, ranged, same⟩ := bind_eq_ok.mp read
      cases some_ ▸ same
      exact nameable_monthRange ranged
    · cases some_ ▸ read
  · refine .bind (fun _ sound => sound) fun frame => ?_
    dsimp only
    split
    · exact fun _ sound => sound
    · split
      · exact fun _ sound => sound
      · exact fun _ sound => sound

theorem downloadAll_maintains (known : tlc ∈ answers) {periods : List (Int × Int)}
    (nameable : ∀ month ∈ periods, Nameable month) (force : Bool) :
    (downloadAll site tlc periods force).Maintains fun world =>
      LandingSound site cluster answers start world.stores := by
  refine .forEach fun month member => rescueOnly_maintains (.bind ?_ fun _ => .pure) fun _ => .pure
  exact (download_endures site cluster answers start (nameable month member) known force).maintains

variable (builtins) in
theorem downloadRange_maintains (known : tlc ∈ answers) (begins finishes : String) (force : Bool) :
    (downloadRange site builtins tlc begins finishes force).Maintains fun world =>
      LandingSound site cluster answers start world.stores := by
  have asked : Endures (LandingSound site cluster answers start)
      (fromExcept (monthRange builtins (.string begins) (.string finishes)))
      (fun periods landing => monthRange builtins (.string begins) (.string finishes) =
        .ok periods ∧
        LandingSound site cluster answers start landing)
          (LandingSound site cluster answers start) :=
    fromExcept_endures fun _ => id
  exact Program.Withstands.maintains_bind asked fun periods => .given fun read => .of_maintains
    (downloadAll_maintains site cluster answers start known (nameable_monthRange read) force)

end Job

end OpenScale.Warehouse
