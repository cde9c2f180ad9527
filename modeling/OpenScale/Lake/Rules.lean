import OpenScale.Lake.Silver

/-! The rules SLV-001 to SLV-007 and SLV-010, and that the validator splits a month by
the first category whose rules a row violates. -/

namespace OpenScale.Lake

open OpenScale.Library

inductive Rule where
  | slv001
  | slv002
  | slv003
  | slv004
  | slv005
  | slv006
  | slv007
  | slv010
  deriving DecidableEq

/-- A missing value violates nothing but the rules that ask for it. -/
def Rule.violated (trip : Trip) : Rule → Bool
  | slv001 => trip.tpepPickupDatetime.isNone
  | slv002 => trip.tpepDropoffDatetime.isNone
  | slv003 =>
    trip.tpepPickupDatetime.any fun pickup => trip.tpepDropoffDatetime.any fun dropoff =>
      dropoff ≤ pickup
  | slv004 => trip.tripDistance.any fun distance => distance < exact 0
  | slv005 => trip.passengerCount.any fun count => count ≤ exact 0
  | slv006 => trip.fareAmount.any fun fare => fare < exact 0
  | slv007 => trip.totalAmount.any fun total => total < exact 0
  | slv010 => trip.tripDistance.any fun distance => exact 100 < distance

def Rule.all : List Rule := [slv001, slv002, slv003, slv004, slv005, slv006, slv007, slv010]

/-- The rules whose violation rejects a row. -/
def Rule.rejecting : List Rule := [slv001, slv002, slv003, slv004]

inductive Category where
  | timestamps
  | distance
  | passenger
  | fare
  | total
  deriving DecidableEq

def Rule.category : Rule → Category
  | slv001 | slv002 | slv003 => .timestamps
  | slv004 | slv010 => .distance
  | slv005 => .passenger
  | slv006 => .fare
  | slv007 => .total

/-- In the order of their priority. -/
def Category.all : List Category := [timestamps, distance, passenger, fare, total]

def Category.file : Category → String
  | timestamps => "invalid_timestamps"
  | distance => "distance_outliers"
  | passenger => "invalid_passenger_count"
  | fare => "negative_fares"
  | total => "negative_total_amounts"

def Category.violated (trip : Trip) (category : Category) : Bool :=
  Rule.all.any fun rule => rule.category = category && rule.violated trip

def firstCategory (trip : Trip) : Option Category := Category.all.find? (Category.violated trip)

/-- The files of a month, each with its rows as they were in Bronze. -/
def Processed.files (done : Processed) : List (String × List Trip) :=
  (done.trips.1, done.trips.2.map SilverTrip.toTrip) :: done.quarantine

/-- The file that a row goes to: none stands for Silver. -/
def destination (year month : Int) : Option Category → String
  | none => silverPath year month
  | some category => quarantinePath category.file year month

def destinations : List (Option Category) := none :: Category.all.map some

section Masks

variable (trip : Trip)

theorem violated_timestamps : Category.timestamps.violated trip = invalidTimestamp trip := by
  unfold Category.violated Rule.all invalidTimestamp dropoffAtMostPickup
  cases pickup : trip.tpepPickupDatetime <;> cases dropoff : trip.tpepDropoffDatetime <;>
    simp [Rule.category, Rule.violated, pickup, dropoff]

theorem violated_distance :
    Category.distance.violated trip = (negativeDistance trip || distanceOutlier trip) := by
  simp [Category.violated, Rule.all, Rule.category, Rule.violated, negativeDistance,
    distanceOutlier, Float64.isBelow,
    Float64.isAbove, maxTripDistanceMiles]
  rfl

theorem violated_passenger : Category.passenger.violated trip = invalidPassengerCount trip := by
  simp [Category.violated, Rule.all, Rule.category, Rule.violated, invalidPassengerCount,
    Float64.isAtMost]

theorem violated_fare : Category.fare.violated trip = negativeFare trip := by
  simp [Category.violated, Rule.all, Rule.category, Rule.violated, negativeFare, Float64.isBelow]

theorem violated_total : Category.total.violated trip = negativeTotal trip := by
  simp [Category.violated, Rule.all, Rule.category, Rule.violated, negativeTotal, Float64.isBelow]

theorem firstCategory_eq : firstCategory trip =
    if invalidTimestamp trip then some .timestamps
    else if negativeDistance trip || distanceOutlier trip then some .distance
    else if invalidPassengerCount trip then some .passenger
    else if negativeFare trip then some .fare
    else if negativeTotal trip then some .total
    else none := by
  unfold firstCategory Category.all
  simp only [List.find?_cons, violated_timestamps, violated_distance,
    violated_passenger, violated_fare, violated_total,
    List.find?_nil]
  cases invalidTimestamp trip <;> cases negativeDistance trip || distanceOutlier trip <;>
    cases invalidPassengerCount trip <;> cases negativeFare trip <;>
      cases negativeTotal trip <;> rfl

/-- The mask of a category. -/
def Category.mask : Category → Trip → Bool
  | timestamps => catTimestamps
  | distance => catDistance
  | passenger => catPassenger
  | fare => catFare
  | total => catTotal

theorem mask_eq (category : Category) :
    category.mask trip = decide (firstCategory trip = some category) := by
  rw [firstCategory_eq]
  cases category <;>
    simp only [Category.mask, catTotal, catFare, catPassenger, catDistance, catTimestamps] <;>
    cases invalidTimestamp trip <;> cases negativeDistance trip || distanceOutlier trip <;>
    cases invalidPassengerCount trip <;> cases negativeFare trip <;>
      cases negativeTotal trip <;> rfl

theorem excludedMask_eq : excludedMask trip = (firstCategory trip).isSome := by
  rw [firstCategory_eq]
  simp only [excludedMask, catTotal, catFare, catPassenger, catDistance, catTimestamps]
  cases invalidTimestamp trip <;> cases negativeDistance trip || distanceOutlier trip <;>
    cases invalidPassengerCount trip <;> cases negativeFare trip <;>
      cases negativeTotal trip <;> rfl

theorem rejectMask_eq : rejectMask trip = Rule.rejecting.any (Rule.violated trip) := by
  have rules : Rule.rejecting.any (Rule.violated trip) =
      (Category.timestamps.violated trip || negativeDistance trip) := by
    simp [Rule.rejecting, Category.violated, Rule.all, Rule.category, Rule.violated,
      negativeDistance, Float64.isBelow,
      Bool.or_assoc]
  rw [rules, violated_timestamps]
  unfold rejectMask catDistance catTimestamps
  cases invalidTimestamp trip <;> cases negativeDistance trip <;> simp

theorem firstCategory_eq_none_iff : firstCategory trip = none ↔
    ∀ rule : Rule, rule.violated trip = false := by
  have listed : ∀ rule : Rule, rule ∈ Rule.all ∧ rule.category ∈ Category.all := by
    intro rule
    cases rule <;> decide
  simp only [firstCategory, List.find?_eq_none, Category.violated, List.any_eq_true,
    Bool.and_eq_true, decide_eq_true_eq]
  constructor
  · intro none_ rule
    rw [Bool.eq_false_iff]
    intro violated
    exact none_ rule.category (listed rule).2 ⟨rule, (listed rule).1, rfl, violated⟩
  · intro clean category _ found
    obtain ⟨rule, _, _, violated⟩ := found
    rw [clean rule] at violated
    cases violated

end Masks

section Partition

variable (year month : Int) (df : List Trip)

theorem kept_eq : (df.filter fun trip => !excludedMask trip) = fiber firstCategory df none := by
  refine List.filter_congr fun trip _ => ?_
  rw [excludedMask_eq]
  cases firstCategory trip <;> rfl

theorem frame_eq (category : Category) :
    df.filter category.mask = fiber firstCategory df (some category) :=
  List.filter_congr fun trip _ => mask_eq trip category

theorem accepted_eq : (processPeriod year month df).trips.2.map SilverTrip.toTrip =
    fiber firstCategory df none := by
  have unflagged : SilverTrip.toTrip ∘ (fun trip => flag trip year) = id := rfl
  simp only [processPeriod]
  rw [List.map_map, unflagged, List.map_id, kept_eq]

theorem quarantine_eq : (processPeriod year month df).quarantine = Category.all.map fun category =>
    (quarantinePath category.file year month, fiber firstCategory df (some category)) := by
  simp only [← frame_eq]
  rfl

theorem files_eq : (processPeriod year month df).files =
    destinations.map fun category =>
      (destination year month category, fiber firstCategory df category) := by
  rw [Processed.files, accepted_eq, quarantine_eq]
  rfl

theorem destinations_nodup : destinations.Nodup := by decide

theorem mem_destinations (category : Option Category) : category ∈ destinations := by
  rcases category with _ | category
  · decide
  · cases category <;> decide

/-- The path of a file, up to the period. -/
def stem : Option Category → String
  | none => "s3://openscale-lake/silver/trips/silver_trips_"
  | some category => "s3://openscale-lake/silver/quarantine/" ++ category.file ++ "_"

theorem lakePath_eq (layer kind name : String) :
    lakePath [layer, kind, name] = "s3://openscale-lake/" ++ layer ++ "/" ++ kind ++
    "/" ++ name := by
  have joined : lakePath [layer, kind, name] =
      "s3://" ++ ("openscale-lake" ++ "/" ++ layer ++ "/" ++ kind ++ "/" ++ name) := rfl
  have start : "s3://openscale-lake/" = "s3://" ++ ("openscale-lake" ++ "/") := by decide
  rw [joined, start]
  simp only [String.append_assoc]

theorem destination_eq (category : Option Category) :
    destination year month category = stem category ++ (period year month ++ ".parquet") := by
  cases category with
  | none =>
    have start : stem none = "s3://openscale-lake/" ++
        ("silver" ++ ("/" ++ ("trips" ++ ("/" ++ "silver_trips_")))) := by
      decide
    rw [destination, silverPath, lakePath_eq, start]
    simp only [String.append_assoc]
  | some category =>
    have start : stem (some category) =
        "s3://openscale-lake/" ++
        ("silver" ++ ("/" ++ ("quarantine" ++ ("/" ++ (category.file ++ "_"))))) := by
      cases category <;> decide
    rw [destination, quarantinePath, lakePath_eq, start]
    simp only [String.append_assoc]

theorem destination_injective : Function.Injective (destination year month) := by
  have stems : ∀ first ∈ destinations, ∀ second ∈ destinations, stem first = stem second →
    first = second := by decide
  intro first second same
  rw [destination_eq, destination_eq, String.append_left_inj] at same
  exact stems first (mem_destinations first) second (mem_destinations second) same

theorem rejected_add_quarantined : df.countP rejectMask + df.countP quarantineMask =
    df.countP excludedMask := by
  induction df with
  | nil => rfl
  | cons trip df ih =>
    have implied : rejectMask trip = true → excludedMask trip = true := by
      simp only [rejectMask, excludedMask]
      cases catTimestamps trip <;> cases catDistance trip <;> simp
    have quarantined : quarantineMask trip = (excludedMask trip && !rejectMask trip) := rfl
    rw [List.countP_cons, List.countP_cons, List.countP_cons, quarantined, ← ih]
    by_cases rejected : rejectMask trip = true
    · simp [rejected, implied rejected]
      omega
    · simp [rejected]
      omega

theorem kept_add_excluded :
    (fiber firstCategory df none).length + df.countP excludedMask = df.length := by
  have kept : df.countP (fun trip => ¬ excludedMask trip) =
      (fiber firstCategory df none).length := by
    rw [← kept_eq, List.countP_eq_length_filter]
    simp
  rw [@List.length_eq_countP_add_countP _ excludedMask df, kept, Nat.add_comm]

theorem excluded_eq_sum : df.countP excludedMask =
    df.countP catTimestamps + df.countP catDistance + df.countP catPassenger + df.countP catFare +
        df.countP catTotal := by
  have whole := length_fibers destinations_nodup fun trip (_ : trip ∈ df) =>
    mem_destinations (firstCategory trip)
  have count : ∀ category : Category, (fiber firstCategory df (some category)).length =
      df.countP category.mask := by
    intro category
    rw [← frame_eq, List.countP_eq_length_filter]
  have kept := kept_add_excluded df
  simp only [destinations, Category.all, List.map_cons, List.map_nil, List.sum_cons,
    List.sum_nil, count, Category.mask] at whole
  omega

end Partition

/-- The validator splits a month: each row is in one file, in Silver when it violates no
rule and else in the file of the first category that it violates, and the report counts
accordingly. -/
theorem process_period_partitions (year month : Int) (df : List Trip) :
    (((processPeriod year month df).files.map Prod.fst).Nodup) ∧
    (∀ trip ∈ df, ∃! path, ∃ rows, (path, rows) ∈ (processPeriod year month df).files ∧
      trip ∈ rows) ∧ (((processPeriod year month df).files.flatMap Prod.snd).Perm df) ∧
    (∀ trip, trip ∈ (processPeriod year month df).trips.2.map SilverTrip.toTrip ↔
      trip ∈ df ∧ ∀ rule : Rule, rule.violated trip = false) ∧
    (∀ trip ∈ df, ∀ category, firstCategory trip = some category →
      ∃ rows, (quarantinePath category.file year month, rows) ∈
        (processPeriod year month df).quarantine ∧ trip ∈ rows) ∧
    let report := (processPeriod year month df).report
    report.recordsProcessed = df.length ∧
    report.recordsProcessed = report.recordsAccepted + report.recordsRejected +
    report.recordsQuarantined ∧
    report.recordsAccepted = (processPeriod year month df).trips.2.length ∧
    report.recordsRejected = df.countP (fun trip => Rule.rejecting.any (Rule.violated trip)) ∧
    report.invalidTimestamps + report.distanceOutliers + report.invalidPassengerCounts +
      report.negativeFares +
      report.negativeTotalAmounts = report.recordsRejected + report.recordsQuarantined := by
  have files := files_eq year month df
  have rejected := rejected_add_quarantined df
  have excluded := excluded_eq_sum df
  have accepted : (processPeriod year month df).report.recordsAccepted + df.countP
      excludedMask = df.length := by
    have counted : (processPeriod year month df).report.recordsAccepted =
        ((processPeriod year month df).trips.2.map SilverTrip.toTrip).length := by
      rw [List.length_map]
      rfl
    rw [counted, accepted_eq, kept_add_excluded]
  refine ⟨?_, ?_, ?_, ?_, ?_, rfl, ?_, rfl, ?_, ?_⟩
  · rw [files, List.map_map]
    exact destinations_nodup.map (destination_injective year month)
  · intro trip member
    refine ⟨destination year month (firstCategory trip),
      ⟨fiber firstCategory df (firstCategory trip), ?_, ?_⟩, ?_⟩
    · rw [files]
      exact List.mem_map_of_mem (mem_destinations _)
    · exact mem_fiber.mpr ⟨member, rfl⟩
    · intro path found
      obtain ⟨rows, file, inside⟩ := found
      rw [files] at file
      obtain ⟨category, _, same⟩ := List.mem_map.mp file
      cases same
      rw [(mem_fiber.mp inside).2]
  · rw [files, List.flatMap_map]
    exact fibers_perm destinations_nodup fun trip _ => mem_destinations _
  · intro trip
    rw [accepted_eq, mem_fiber, firstCategory_eq_none_iff]
  · intro trip member category same
    refine ⟨fiber firstCategory df (some category), ?_, mem_fiber.mpr ⟨member, same⟩⟩
    rw [quarantine_eq]
    exact List.mem_map_of_mem (by cases category <;> decide)
  · simp only [processPeriod] at accepted ⊢
    omega
  · exact List.countP_congr fun trip _ => by rw [rejectMask_eq]
  · simp only [processPeriod]
    omega

end OpenScale.Lake
