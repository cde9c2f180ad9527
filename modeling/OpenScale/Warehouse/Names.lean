import OpenScale.Lake.Silver
import OpenScale.Library.Fallible
import OpenScale.Library.Segments
import OpenScale.Months.Ingested
import OpenScale.Reset.Stores

/-! The names that the pipeline gives to the files and objects of a month, and how it reads the
months back from them. -/

namespace OpenScale.Warehouse

open OpenScale.Library OpenScale.Library.Python OpenScale.Worker OpenScale.Months
    OpenScale.Months.Instant

/-- A natural number that `int` reads: it takes no more digits from a text. -/
def Fits (value : Int) : Prop := 0 ≤ value ∧ (Nat.toDigits 10 value.natAbs).length ≤ 4300

/-- A month whose name can be read back. -/
def Nameable (month : Int × Int) : Prop := Fits month.1 ∧ Fits month.2

section Digits

theorem digitsValue_snoc (digits : List Char) (digit : Char) :
    digitsValue (digits ++ [digit]) = 10 * digitsValue digits + (digit.toNat - 48) := by
  rw [digitsValue, List.foldl_append]
  rfl

theorem digitsValue_lt {digits : List Char} (all : ∀ c ∈ digits, c.isDigit = true) :
    digitsValue digits < 10 ^ digits.length := by
  induction digits using List.reverseRecOn with
  | nil => exact Nat.one_pos
  | append_singleton digits digit ih =>
    have before := ih fun c member => all c (List.mem_append_left _ member)
    have range := digit_toNat (all digit (List.mem_append_right _ List.mem_cons_self))
    rw [digitsValue_snoc, List.length_append, List.length_singleton, Nat.pow_succ]
    omega

variable {limit : Nat}

theorem length_toDigits_mono {n m : Nat} (below : n ≤ m) (positive : 0 < limit)
    (short : (Nat.toDigits 10 m).length ≤ limit) : (Nat.toDigits 10 n).length ≤ limit := by
  rw [Nat.length_toDigits_le_iff (by decide) positive] at short ⊢
  exact Nat.lt_of_le_of_lt below short

theorem length_toDigits_digitsValue {digits : List Char} (all : ∀ c ∈ digits, c.isDigit = true)
    (positive : 0 < limit)
    (short : digits.length ≤ limit) : (Nat.toDigits 10 (digitsValue digits)).length ≤ limit := by
  rw [Nat.length_toDigits_le_iff (by decide) positive]
  exact Nat.lt_of_lt_of_le (digitsValue_lt all) (Nat.pow_le_pow_right (by decide) short)

theorem fits_of_le {value bound : Int} (natural : 0 ≤ value) (below : value ≤ bound)
    (fits : Fits bound) : Fits value :=
  ⟨natural, length_toDigits_mono (by omega) (by decide) fits.2⟩

theorem hyphen_notMem_toAscii {text : List Char} (apart : '-' ∉ text) : '-' ∉ toAscii text := by
  intro member
  obtain ⟨c, inside, same⟩ := List.mem_map.mp member
  split at same
  · exact apart (same ▸ inside)
  · split at same
    · exact absurd same (by decide)
    · split at same
      next digit found =>
        unfold decimal? at found
        obtain ⟨first, listed, rfl⟩ := Option.map_eq_some_iff.mp found
        have range := List.find?_some listed
        have small : c.toNat - first ≤ 9 := by
          simp only [Bool.and_eq_true, decide_eq_true_eq] at range
          omega
        interval_cases c.toNat - first <;> exact absurd same (by decide)
      · exact absurd same (by decide)

theorem fits_of_intOfText {builtins : Builtins} {text : List Char} {value : Int}
    (apart : '-' ∉ text)
    (read : intOfText builtins text = .ok value) : Fits value := by
  have unsigned : '-' ∉ strip (toAscii text) := by
    intro member
    have inner := (List.dropWhile_sublist _).subset (List.mem_reverse.mp member)
    exact hyphen_notMem_toAscii apart
      ((List.dropWhile_sublist _).subset (List.mem_reverse.mp inner))
  unfold intOfText at read
  have sign : (readSign (strip (toAscii text))).1 = false := by
    unfold readSign
    split
    · rfl
    next rest start =>
      rw [start] at unsigned
      exact absurd List.mem_cons_self unsigned
    · rfl
  simp only [sign] at read
  split at read
  · cases read
  next digits found =>
    split at read
    · cases read
    next short =>
      cases read
      have all : ∀ c ∈ digits, c.isDigit = true := by
        unfold intDigits at found
        dsimp only at found
        split at found
        next groups =>
          cases found
          intro c member
          obtain ⟨group, inside, here⟩ := List.mem_flatten.mp member
          have digit := List.all_eq_true.mp groups group inside
          exact List.all_eq_true.mp (Bool.and_eq_true_iff.mp digit).2 c here
        · cases found
      exact ⟨by simp, length_toDigits_digitsValue all (by decide) (Nat.le_of_not_lt short)⟩

end Digits

section Months

variable {builtins : Builtins} {month : Int × Int}

theorem fits_small {value : Int} (natural : 0 ≤ value) (small : value ≤ 12) : Fits value :=
  fits_of_le natural small ⟨by decide, by decide⟩

theorem nameable_monthsFrom {y m endYear endMonth : Int} (year : Fits y) (first : Fits m)
    (last : Fits endYear) : ∀ month ∈ monthsFrom y m endYear endMonth, Nameable month := by
  induction y, m using monthsFrom.induct endYear endMonth with
  | case1 y m within ihYear ihMonth =>
    rw [monthsFrom, if_pos within, List.forall_mem_cons]
    refine ⟨⟨year, first⟩, ?_⟩
    split
    next wraps =>
      have natural := year.1
      by_cases inside : y + 1 ≤ endYear
      · have next : Fits (y + 1) := fits_of_le (by omega) inside last
        exact ihYear next (fits_small (by decide) (by decide))
      · intro month member
        rw [monthsFrom] at member
        split at member
        · omega
        · cases member
    next stays =>
      have natural := first.1
      exact ihMonth stays year (fits_small (by omega) (by omega))
  | case2 y m beyond =>
    rw [monthsFrom, if_neg beyond]
    exact fun month member => absurd member List.not_mem_nil

theorem hyphen_notMem_splitOn {text part : List Char} (member : part ∈ splitOn '-' text) :
    '-' ∉ part := by
  induction text generalizing part with
  | nil =>
    cases List.mem_singleton.mp member
    nofun
  | cons c text ih =>
    rw [splitOn] at member
    split at member
    · rcases List.mem_cons.mp member with rfl | later
      · nofun
      · exact ih later
    next other =>
      split at member
      · cases List.mem_singleton.mp member
        simpa using Ne.symm other
      next front parts split =>
        rw [split] at ih
        rcases List.mem_cons.mp member with rfl | later
        · rw [List.mem_cons, not_or]
          exact ⟨Ne.symm other, ih List.mem_cons_self⟩
        · exact ih (List.mem_cons_of_mem _ later)

theorem nameable_unpackPair {text : List Char} {month : Int × Int}
    (read : unpackPair builtins (splitOn '-' text) = .ok month) : Nameable month := by
  match parts : splitOn '-' text with
  | [] => simp [parts, unpackPair] at read
  | [_] =>
    rw [parts, unpackPair] at read
    obtain ⟨_, _, failed⟩ := bind_eq_ok.mp read
    cases failed
  | [first, second] =>
    rw [parts, unpackPair] at read
    obtain ⟨year, readYear, rest⟩ := bind_eq_ok.mp read
    obtain ⟨number, readNumber, same⟩ := bind_eq_ok.mp rest
    cases same
    have apart : ∀ part ∈ [first, second], '-' ∉ part := fun part member =>
      hyphen_notMem_splitOn (parts ▸ member)
    exact ⟨fits_of_intOfText (apart first (by simp)) readYear,
      fits_of_intOfText (apart second (by simp)) readNumber⟩
  | _ :: _ :: _ :: _ =>
    rw [parts, unpackPair] at read
    obtain ⟨_, _, rest⟩ := bind_eq_ok.mp read
    obtain ⟨_, _, rest⟩ := bind_eq_ok.mp rest
    obtain ⟨_, _, failed⟩ := bind_eq_ok.mp rest
    cases failed

theorem nameable_monthRange {start finish : Json} {months : List (Int × Int)}
    (read : monthRange builtins start finish = .ok months) : ∀ month ∈ months, Nameable month := by
  unfold monthRange at read
  obtain ⟨startParts, startSplit, read⟩ := bind_eq_ok.mp read
  obtain ⟨startMonth, startRead, read⟩ := bind_eq_ok.mp read
  obtain ⟨endParts, endSplit, read⟩ := bind_eq_ok.mp read
  obtain ⟨endMonth, endRead, read⟩ := bind_eq_ok.mp read
  cases read
  have parts {value : Json} {parts : List (List Char)} (divided : split value '-' = .ok parts) :
      ∃ text, parts = splitOn '-' text := by
    unfold split at divided
    split at divided
    · cases divided
      exact ⟨_, rfl⟩
    · cases divided
  obtain ⟨startText, rfl⟩ := parts startSplit
  obtain ⟨endText, rfl⟩ := parts endSplit
  have begins := nameable_unpackPair startRead
  exact nameable_monthsFrom begins.1 begins.2 (nameable_unpackPair endRead).1

theorem intOfText_appendInt {value : Int} (fits : Fits value) {width : Nat} (short : width ≤ 4300) :
    intOfText builtins (appendInt value width) = .ok value := by
  have natural := fits.1
  have positive : ¬value < 0 := by omega
  have text : appendInt value width =
      List.replicate (width - (Nat.toDigits 10 value.natAbs).length) '0' ++
      Nat.toDigits 10 value.natAbs := by
    rw [appendInt, if_neg positive, List.nil_append]
  have some_ : appendInt value width ≠ [] := by
    rw [text]
    exact List.append_ne_nil_of_right_ne_nil _ Nat.toDigits_ne_nil
  have length : (appendInt value width).length ≤ 4300 := by
    rw [text, List.length_append, List.length_replicate]
    have digits := fits.2
    omega
  have all : ∀ c ∈ appendInt value width, c.isDigit = true := by
    intro c member
    rw [text, List.mem_append] at member
    rcases member with zero | digit
    · rw [List.eq_of_mem_replicate zero]
      decide
    · exact Nat.isDigit_of_mem_toDigits (by decide) (by decide) digit
  rw [intOfText_digits builtins some_ length all, digitsValue_appendInt natural]

theorem toList_nameOf (year : 0 ≤ month.1) (first : 0 ≤ month.2) :
    (nameOf month).toList = appendInt month.1 4 ++ '-' :: appendInt month.2 2 := by
  simp [nameOf, periodName, appendInt_eq year, appendInt_eq first]

theorem unpackPair_nameOf (nameable : Nameable month) :
    unpackPair builtins (splitOn '-' (nameOf month).toList) = .ok month := by
  obtain ⟨year, first⟩ := nameable
  rw [toList_nameOf year.1 first.1, splitOn_append (hyphen_notMem_appendInt year.1 4),
    splitOn_of_notMem (hyphen_notMem_appendInt first.1 2), unpackPair,
    intOfText_appendInt year (by decide), intOfText_appendInt first (by decide)]
  rfl

end Months

section Keys

/-- `Path(path).stem`: the last component without its suffix. -/
def stem (path : List Char) : List Char :=
  let name := (path.reverse.takeWhile (· != '/')).reverse
  let suffix := (name.reverse.takeWhile (· != '.')).reverse
  match name.reverse.dropWhile (· != '.') with
  | '.' :: c :: front => if suffix = [] then name else (c :: front).reverse
  | _ => name

/-- The object or file of this name in a directory. -/
def objectAt (directory name : String) : String := directory ++ "/" ++ name

/-- The key of an object in the bucket, from its `s3://` path. -/
def objectKey (path : String) : String :=
  String.ofList (path.toList.drop "s3://openscale-lake/".toList.length)

/-- The directories that the pipeline writes objects to, those of the four Gold datasets among
them. -/
def directories : List String :=
  ["bronze/yellow_taxi", "silver/trips", "silver/quarantine", "gold/daily_revenue",
    "gold/hourly_demand", "gold/zone_stats", "gold/congestion_metrics"]

def bronzePath (year month : Int) : String :=
  Lake.lakePath ["bronze", "yellow_taxi", periodName year month ++ ".parquet"]

def bronzeKey (month : Int × Int) : String :=
  objectAt "bronze/yellow_taxi" (nameOf month ++ ".parquet")

def silverKey (month : Int × Int) : String :=
  objectAt "silver/trips" ("silver_trips_" ++ Lake.period month.1 month.2 ++ ".parquet")

def quarantineKey (name : String) (month : Int × Int) : String :=
  objectAt "silver/quarantine" (name ++ "_" ++ Lake.period month.1 month.2 ++ ".parquet")

variable {directory other name key : String} {month later : Int × Int}

theorem toList_objectAt :
    (objectAt directory name).toList = directory.toList ++ '/' :: name.toList := by
  have slash : "/".toList = ['/'] := by decide
  simp [objectAt, slash]

theorem isUnder_iff : Reset.isUnder directory key = true ↔
    (directory.toList ++ ['/']) <+: key.toList := by
  have slash : "/".toList = ['/'] := by decide
  rw [Reset.isUnder, List.isPrefixOf_iff_prefix, String.toList_append, slash]

theorem isUnder_objectAt : Reset.isUnder directory (objectAt directory name) = true := by
  rw [isUnder_iff, toList_objectAt]
  exact ⟨name.toList, by simp⟩

theorem directory_unique (known : directory ∈ directories) (otherKnown : other ∈ directories)
    (under : Reset.isUnder directory key = true) (otherUnder : Reset.isUnder other key = true) :
    directory = other := by
  have apart : ∀ first ∈ directories, ∀ second ∈ directories,
      (first.toList ++ ['/']) <+: (second.toList ++ ['/']) → first = second := by decide
  rcases List.prefix_or_prefix_of_prefix (isUnder_iff.mp under)
    (isUnder_iff.mp otherUnder) with same | same
  · exact apart directory known other otherKnown same
  · exact (apart other otherKnown directory known same).symm

theorem objectAt_ne (known : directory ∈ directories) (otherKnown : other ∈ directories)
    (differ : directory ≠ other)
    {second : String} : objectAt directory name ≠ objectAt other second := by
  intro same
  refine differ
    (@directory_unique _ _ (objectAt directory name) known otherKnown isUnder_objectAt ?_)
  rw [same]
  exact isUnder_objectAt

theorem objectAt_injective {second : String}
    (same : objectAt directory name = objectAt directory second) : name = second := by
  have texts := congrArg String.toList same
  rw [toList_objectAt, toList_objectAt] at texts
  exact String.toList_inj.mp (List.cons.inj (List.append_cancel_left texts)).2

/-- The name by which `ls` lists an object. -/
theorem ls_name (flat : '/' ∉ name.toList) :
    ((objectAt directory name).toList.drop (directory.length + 1)).takeWhile
    (· != '/') = name.toList := by
  have front : (objectAt directory name).toList.drop (directory.length + 1) = name.toList := by
    rw [toList_objectAt, ← String.length_toList, List.drop_append]
    simp
  rw [front, List.takeWhile_eq_self_iff]
  intro c member
  exact bne_iff_ne.mpr fun same => flat (same ▸ member)

theorem stem_parquet {front base : List Char} (flat : '/' ∉ base) (some_ : base ≠ [])
    (first : front = [] ∨ ∃ before, front = before ++ ['/']) :
    stem (front ++ (base ++ ".parquet".toList)) = base := by
  have suffix : ".parquet".toList = '.' :: "parquet".toList := by decide
  have whole : ∀ c ∈ (base ++ ".parquet".toList).reverse, (c != '/') = true := by
    intro c member
    rw [List.mem_reverse, List.mem_append] at member
    rcases member with inside | ending
    · exact bne_iff_ne.mpr fun same => flat (same ▸ inside)
    · exact bne_iff_ne.mpr fun same => absurd (same ▸ ending) (by decide : '/' ∉ ".parquet".toList)
  have name : ((front ++ (base ++ ".parquet".toList)).reverse.takeWhile (· != '/')).reverse =
      base ++ ".parquet".toList := by
    rw [List.reverse_append, List.takeWhile_append_of_pos whole]
    rcases first with rfl | ⟨before, rfl⟩
    · simp
    · simp
  have ending : (base ++ ".parquet".toList).reverse = "teuqrap".toList ++ '.' :: base.reverse := by
    rw [List.reverse_append, suffix, List.reverse_cons, List.append_assoc]
    rfl
  have letters : ∀ c ∈ "teuqrap".toList, (c != '.') = true := fun c member =>
    bne_iff_ne.mpr fun same => absurd (same ▸ member) (by decide : '.' ∉ "teuqrap".toList)
  have taken : ((base ++ ".parquet".toList).reverse.takeWhile (· != '.')).reverse ≠ [] := by
    rw [ending, List.takeWhile_append_of_pos letters]
    simp
  unfold stem
  simp only [name]
  rw [ending, List.dropWhile_append_of_pos letters, List.dropWhile_cons_of_neg (by simp)]
  cases reversed : base.reverse with
  | nil => exact absurd (List.reverse_eq_nil_iff.mp reversed) some_
  | cons c rest =>
    have back : (c :: rest).reverse = base := by rw [← reversed, List.reverse_reverse]
    rw [ending, reversed] at taken
    simp only [if_neg taken, back]

theorem notMem_appendInt {c : Char} (symbol : c.isDigit = false) {value : Int} (natural : 0 ≤ value)
    (width : Nat) : c ∉ appendInt value width := by
  have positive : ¬value < 0 := by omega
  rw [appendInt, if_neg positive, List.nil_append, List.mem_append]
  rintro (zero | digit)
  · rw [List.eq_of_mem_replicate zero] at symbol
    cases symbol
  · rw [Nat.isDigit_of_mem_toDigits (by decide) (by decide) digit] at symbol
    cases symbol

theorem appendInt_injective {value value' : Int} (natural : 0 ≤ value) (natural' : 0 ≤ value')
    {width : Nat} (same : appendInt value width = appendInt value' width) : value = value' := by
  rw [← digitsValue_appendInt natural width, same, digitsValue_appendInt natural' width]

theorem slash_notMem_nameOf (nameable : Nameable month) : '/' ∉ (nameOf month).toList := by
  rw [toList_nameOf nameable.1.1 nameable.2.1, List.mem_append, List.mem_cons]
  rintro (year | hyphen | first)
  · exact notMem_appendInt (by decide) nameable.1.1 4 year
  · exact absurd hyphen (by decide)
  · exact notMem_appendInt (by decide) nameable.2.1 2 first

theorem nameOf_ne_nil (nameable : Nameable month) : (nameOf month).toList ≠ [] := by
  rw [toList_nameOf nameable.1.1 nameable.2.1]
  simp

theorem unpackPair_stem {builtins : Builtins} (nameable : Nameable month) {front : List Char}
    (first : front = [] ∨ ∃ before, front = before ++ ['/']) :
    unpackPair builtins (splitOn '-' (stem (front ++ (nameOf month ++ ".parquet").toList))) =
    .ok month := by
  rw [String.toList_append,
    stem_parquet (slash_notMem_nameOf nameable) (nameOf_ne_nil nameable) first,
    unpackPair_nameOf nameable]

/-- What comes after the name of the bucket in an `s3://` path. -/
theorem objectKey_lakePath {first second name : String} :
    objectKey (Lake.lakePath [first, second, name]) = objectAt (first ++ "/" ++ second) name := by
  have path : Lake.lakePath [first, second, name] =
      "s3://openscale-lake/" ++ objectAt (first ++ "/" ++ second) name := by
    have bucket : "s3://openscale-lake/" = "s3://" ++ ("openscale-lake" ++ "/") := by decide
    change "s3://" ++ ("openscale-lake" ++ "/" ++ first ++ "/" ++ second ++ "/" ++ name) = _
    simp only [bucket, objectAt, String.append_assoc]
  rw [objectKey, path, String.toList_append, List.drop_left, String.ofList_toList]

theorem objectKey_bronzePath : objectKey (bronzePath month.1 month.2) = bronzeKey month := by
  rw [bronzePath, objectKey_lakePath]
  rfl

theorem objectKey_silverPath : objectKey (Lake.silverPath month.1 month.2) = silverKey month := by
  rw [Lake.silverPath, objectKey_lakePath]
  rfl

theorem objectKey_quarantinePath :
    objectKey (Lake.quarantinePath name month.1 month.2) = quarantineKey name month := by
  rw [Lake.quarantinePath, objectKey_lakePath]
  rfl

theorem parquet_injective {first second : String}
    (same : first ++ ".parquet" = second ++ ".parquet") : first = second := by
  have texts := congrArg String.toList same
  rw [String.toList_append, String.toList_append] at texts
  exact String.toList_inj.mp (List.append_cancel_right texts)

theorem bronzeKey_injective (nameable : Nameable month) (laterNameable : Nameable later)
    (same : bronzeKey month = bronzeKey later) : month = later :=
  nameOf_injective nameable.1.1 nameable.2.1 laterNameable.1.1 laterNameable.2.1
    (parquet_injective (objectAt_injective same))

theorem silverKey_injective (nameable : Nameable month) (laterNameable : Nameable later)
    (same : silverKey month = silverKey later) : month = later := by
  have names := parquet_injective (objectAt_injective same)
  have texts := congrArg String.toList names
  rw [String.toList_append, String.toList_append, List.append_cancel_left_eq] at texts
  have parts {month : Int × Int} (nameable : Nameable month) :
      (Lake.period month.1 month.2).toList = appendInt month.1 4 ++ '_' :: appendInt month.2 2 := by
    simp [Lake.period, appendInt_eq nameable.1.1, appendInt_eq nameable.2.1]
  rw [parts nameable, parts laterNameable] at texts
  have plain {month : Int × Int} (nameable : Nameable month) : '_' ∉ appendInt month.1 4 :=
    notMem_appendInt (by decide) nameable.1.1 4
  obtain ⟨years, months⟩ := cut_injective (plain nameable) (plain laterNameable) texts
  exact Prod.ext (appendInt_injective nameable.1.1 laterNameable.1.1 years)
    (appendInt_injective nameable.2.1 laterNameable.2.1 months)

end Keys

end OpenScale.Warehouse
