import OpenScale.Dashboards.Screen
import OpenScale.Jobs.Table
import OpenScale.Library.Answer
import OpenScale.Library.Entries

/-! `ETLHealthSummary`: two queries over the run table, one after the other and in no common
transaction, that are merged through a map. What it returns is set against the summary of a single
state of the table. -/

namespace OpenScale.Dashboards

open OpenScale.Library OpenScale.Jobs

section Queries

/-- `status IN ('succeeded', 'partial', 'failed')` -/
def isCounted : Status → Bool
  | .succeeded | .partialSuccess | .failed => true
  | _ => false

def counted (table : JobRuns) : List JobRun := table.rows.filter fun run => isCounted run.status

/-- `EXTRACT(EPOCH FROM (finished_at - started_at))`, if neither is NULL. -/
def duration (run : JobRun) : Option Rat :=
  match run.startedAt, run.finishedAt with
  | some started, some finished => some ((finished : Rat) - started)
  | _, _ => none

def timed (table : JobRuns) : List JobRun := (counted table).filter fun run => (duration run).isSome

structure CountRow where
  jobType : String
  status : Status
  count : Nat

structure DurationRow where
  jobType : String
  avgSeconds : Rat

/-- `GROUP BY job_type, status`: the groups are in no order that could be relied on. -/
def countRows (table : JobRuns) : List CountRow :=
  (countBy (fun run => (run.jobType, run.status)) (counted table)).map fun group =>
    ⟨group.1.1, group.1.2, group.2⟩

/-- The average is exact here. -/
def average (runs : List JobRun) : Rat := (runs.filterMap duration).sum / runs.length

/-- `GROUP BY job_type`, for the runs that have a duration. -/
def durationRows (table : JobRuns) : List DurationRow :=
  (groupBy JobRun.jobType (timed table)).map fun group => ⟨group.1, average group.2⟩

end Queries

section Summary

abbrev HealthMap := AList fun _ : String => JobTypeHealth

def JobTypeHealth.setCount (row : CountRow) (health : JobTypeHealth) : JobTypeHealth :=
  match row.status with
  | .succeeded => { health with succeeded := row.count }
  | .partialSuccess => { health with partialRuns := row.count }
  | .failed => { health with failed := row.count }
  | _ => health

def JobTypeHealth.setDuration (row : DurationRow) (health : JobTypeHealth) : JobTypeHealth :=
  { health with avgDurationSeconds := some row.avgSeconds }

def addCount (byType : HealthMap) (row : CountRow) : HealthMap :=
  enter byType row.jobType ⟨row.jobType, 0, 0, 0, none⟩ (JobTypeHealth.setCount row)

def addDuration (byType : HealthMap) (row : DurationRow) : HealthMap :=
  amend byType row.jobType (JobTypeHealth.setDuration row)

/-- The entries of the map are listed in an order of their own at each iteration. -/
def eTLHealthSummary (counts : Answer CountRow) (durations : Answer DurationRow)
    (iteration : List JobTypeHealth → List JobTypeHealth) : Except String (List JobTypeHealth) := do
  let byType ← counts.collect "db: etl health counts" "db: scan etl health counts" addCount ∅
  let byType ← durations.collect "db: etl health durations" "db: scan etl health durations"
      addDuration byType
  return iteration (byType.entries.map fun entry => entry.2)

end Summary

section Contents

def countOf (table : JobRuns) (jobType : String) (status : Status) : Int :=
  (fiber (fun run => (run.jobType, run.status)) (counted table) (jobType, status)).length

def averageOf (table : JobRuns) (jobType : String) : Option Rat :=
  match fiber JobRun.jobType (timed table) jobType with
  | [] => none
  | runs => some (average runs)

def jobTypes (table : JobRuns) : List String := ((counted table).map JobRun.jobType).dedup

/-- The health of a type by the counts of one table and the durations of another. -/
def healthOf (counts durations : JobRuns) (jobType : String) : JobTypeHealth :=
  ⟨jobType, countOf counts jobType .succeeded, countOf counts jobType .partialSuccess,
    countOf counts jobType .failed, averageOf durations jobType⟩

def merged (counts durations : JobRuns) : List JobTypeHealth :=
  (jobTypes counts).map (healthOf counts durations)

def summary (table : JobRuns) : List JobTypeHealth := merged table table

end Contents

section Merge

variable {table first second : JobRuns} {jobType : String}

theorem foldl_setCount {rows : List CountRow} {value : Status → Int}
    (agree : ∀ row ∈ rows, row.count = value row.status)
    (health : JobTypeHealth) : rows.foldl (fun health row => health.setCount row) health =
      { health with
        succeeded :=
          if .succeeded ∈ rows.map CountRow.status then value .succeeded else health.succeeded
        partialRuns := if .partialSuccess ∈ rows.map CountRow.status then value .partialSuccess
          else health.partialRuns
        failed :=
          if .failed ∈ rows.map CountRow.status then value .failed else health.failed } := by
  induction rows generalizing health with
  | nil => rfl
  | cons row rows ih =>
    obtain ⟨here, later⟩ := List.forall_mem_cons.mp agree
    rw [List.foldl_cons, ih later]
    cases status : row.status <;> rw [status] at here <;>
      simp [JobTypeHealth.setCount, status, here]

theorem mem_countRows {row : CountRow} : row ∈ countRows table ↔
    (∃ run ∈ counted table, run.jobType = row.jobType ∧ run.status = row.status) ∧
      (row.count : Int) = countOf table row.jobType row.status := by
  have group : row ∈ countRows table ↔
      ((row.jobType, row.status), row.count) ∈
      countBy (fun run => (run.jobType, run.status)) (counted table) := by
    rw [countRows, List.mem_map]
    constructor
    · rintro ⟨group, member, rfl⟩
      exact member
    · exact fun member => ⟨_, member, rfl⟩
  rw [group, mem_countBy, List.mem_map, countOf, Nat.cast_inj]
  simp only [Prod.mk.injEq]

theorem countOf_ne_zero {status : Status} : countOf table jobType status ≠ 0 ↔
    ∃ run ∈ counted table, run.jobType = jobType ∧ run.status = status := by
  have some_ : countOf table jobType status ≠ 0 ↔
      0 <
      (fiber (fun run => (run.jobType, run.status)) (counted table) (jobType, status)).length := by
    rw [countOf]
    omega
  rw [some_, List.length_pos_iff_exists_mem]
  simp only [mem_fiber, Prod.mk.injEq]

theorem mem_jobTypes : jobType ∈ jobTypes table ↔ ∃ run ∈ counted table, run.jobType = jobType := by
  rw [jobTypes, List.mem_dedup, List.mem_map]

theorem exists_countRow {rows : List CountRow} (read : rows.Perm (countRows table)) {run : JobRun}
    (member : run ∈ counted table) :
    ∃ row ∈ fiber CountRow.jobType rows run.jobType, row.status = run.status := by
  let group :=
    fiber (fun run => (run.jobType, run.status)) (counted table) (run.jobType, run.status)
  have row : (⟨run.jobType, run.status, group.length⟩ : CountRow) ∈ countRows table :=
    mem_countRows.mpr ⟨⟨run, member, rfl, rfl⟩, rfl⟩
  exact ⟨_, mem_fiber.mpr ⟨read.mem_iff.mpr row, rfl⟩, rfl⟩

theorem countOf_listed {rows : List CountRow} (read : rows.Perm (countRows table))
    {status : Status} :
    (if status ∈ (fiber CountRow.jobType rows jobType).map CountRow.status then
      countOf table jobType status else 0) = countOf table jobType status := by
  split
  · rfl
  next missing =>
    symm
    by_contra some_
    obtain ⟨run, inside, rfl, rfl⟩ := countOf_ne_zero.mp some_
    obtain ⟨row, listed, same⟩ := exists_countRow read inside
    exact missing (same ▸ List.mem_map_of_mem listed)

/-- The rows of one type say how many runs it has in each status. -/
theorem lookup_counts {rows : List CountRow} (read : rows.Perm (countRows table)) :
    (rows.foldl addCount ∅).lookup jobType = if jobType ∈ jobTypes table then
      some { healthOf table table jobType with avgDurationSeconds := none } else none := by
  have agree : ∀ row ∈ fiber CountRow.jobType rows jobType,
      row.count = countOf table jobType row.status := by
    intro row member
    obtain ⟨inside, rfl⟩ := mem_fiber.mp member
    exact (mem_countRows.mp (read.mem_iff.mp inside)).2
  refine (@lookup_enter CountRow String JobTypeHealth _ CountRow.jobType
    (fun row => ⟨row.jobType, 0, 0, 0, none⟩) JobTypeHealth.setCount rows jobType).trans ?_
  by_cases present : jobType ∈ jobTypes table
  · obtain ⟨run, inside, rfl⟩ := mem_jobTypes.mp present
    obtain ⟨row, listed, _⟩ := exists_countRow read inside
    simp only [foldl_setCount agree, countOf_listed read]
    rw [if_pos present]
    cases found : fiber CountRow.jobType rows run.jobType with
    | nil => simp [found] at listed
    | cons first others =>
      have named : first.jobType = run.jobType := (mem_fiber.mp (found ▸ List.mem_cons_self ..)).2
      rw [List.head?_cons, Option.map_some, named]
      rfl
  · rw [if_neg present]
    cases found : fiber CountRow.jobType rows jobType with
    | nil => rfl
    | cons first others =>
      obtain ⟨inside, named⟩ :=
        mem_fiber.mp (found ▸ List.mem_cons_self .. : first ∈ fiber CountRow.jobType rows jobType)
      obtain ⟨⟨run, counts, ofType, _⟩, _⟩ := mem_countRows.mp (read.mem_iff.mp inside)
      exact absurd (mem_jobTypes.mpr ⟨run, counts, ofType.trans named⟩) present

theorem mem_durationRows {row : DurationRow} : row ∈ durationRows table ↔
    some row.avgSeconds = averageOf table row.jobType := by
  have group : row ∈ durationRows table ↔
      (row.jobType, row.avgSeconds) ∈ (groupBy JobRun.jobType (timed table)).map fun group =>
        (group.1, average group.2) := by
    rw [durationRows, List.mem_map, List.mem_map]
    constructor
    · rintro ⟨group, member, rfl⟩
      exact ⟨group, member, rfl⟩
    · rintro ⟨group, member, same⟩
      obtain ⟨ofType, seconds⟩ : group.1 = row.jobType ∧ average group.2 = row.avgSeconds := by
        simpa using same
      exact ⟨group, member, by rw [ofType, seconds]⟩
  rw [group, mem_aggregate, averageOf]
  cases found : fiber JobRun.jobType (timed table) row.jobType with
  | nil =>
    have missing : row.jobType ∉ (timed table).map JobRun.jobType := by
      rintro present
      obtain ⟨run, member, same⟩ := List.mem_map.mp present
      exact List.not_mem_nil (found ▸ mem_fiber.mpr ⟨member, same⟩)
    simp [missing]
  | cons first others =>
    obtain ⟨member, same⟩ := mem_fiber.mp (found ▸ List.mem_cons_self .. :
      first ∈ fiber JobRun.jobType (timed table) row.jobType)
    have present : row.jobType ∈ (timed table).map JobRun.jobType :=
      List.mem_map.mpr ⟨first, member, same⟩
    simp [present]

theorem foldl_setDuration {rows : List DurationRow} {value : Rat}
    (agree : ∀ row ∈ rows, row.avgSeconds = value)
    (health : JobTypeHealth) : rows.foldl (fun health row => health.setDuration row) health =
      if rows = [] then health else { health with avgDurationSeconds := some value } := by
  induction rows generalizing health with
  | nil => rfl
  | cons row rows ih =>
    obtain ⟨here, later⟩ := List.forall_mem_cons.mp agree
    rw [List.foldl_cons, ih later, if_neg (List.cons_ne_nil row rows),
      JobTypeHealth.setDuration, here]
    split
    · rfl
    · rfl

/-- A type gets the average of its row, and keeps what it has where there is none. -/
theorem lookup_durations {rows : List DurationRow} (read : rows.Perm (durationRows table))
    (byType : HealthMap) :
    (rows.foldl addDuration byType).lookup jobType = (byType.lookup jobType).map fun health =>
      match averageOf table jobType with
      | none => health
      | some seconds => { health with avgDurationSeconds := some seconds } := by
  refine (@lookup_amend DurationRow String JobTypeHealth _ DurationRow.jobType
    JobTypeHealth.setDuration byType rows
    jobType).trans (congrArg (Option.map · _) (funext fun health => ?_))
  have agree : ∀ row ∈ fiber DurationRow.jobType rows jobType,
      some row.avgSeconds = averageOf table jobType := by
    intro row member
    obtain ⟨inside, rfl⟩ := mem_fiber.mp member
    exact mem_durationRows.mp (read.mem_iff.mp inside)
  cases seconds : averageOf table jobType with
  | none =>
    have none_ : fiber DurationRow.jobType rows jobType = [] :=
      List.eq_nil_iff_forall_not_mem.mpr fun row member => by
      have some_ := agree row member
      rw [seconds] at some_
      cases some_
    rw [none_]
    rfl
  | some value =>
    have row : (⟨jobType, value⟩ : DurationRow) ∈ durationRows table :=
      mem_durationRows.mpr seconds.symm
    have listed : (⟨jobType, value⟩ : DurationRow) ∈ fiber DurationRow.jobType rows jobType :=
      mem_fiber.mpr ⟨read.mem_iff.mpr row, rfl⟩
    have same : ∀ row ∈ fiber DurationRow.jobType rows jobType, row.avgSeconds = value := by
      intro row member
      have known := agree row member
      rw [seconds] at known
      exact Option.some.inj known
    rw [foldl_setDuration same, if_neg (List.ne_nil_of_mem listed)]

theorem entries_perm {counts : List CountRow} {durations : List DurationRow}
    (countsRead : counts.Perm (countRows first))
    (durationsRead : durations.Perm (durationRows second)) :
    (((durations.foldl addDuration (counts.foldl addCount ∅)).entries).map fun entry =>
      entry.2).Perm
      (merged first second) := by
  have entry (jobType : String) :
      (durations.foldl addDuration (counts.foldl addCount ∅)).lookup jobType =
      if jobType ∈ jobTypes first then some (healthOf first second jobType) else none := by
    rw [lookup_durations durationsRead, lookup_counts countsRead]
    by_cases present : jobType ∈ jobTypes first
    · rw [if_pos present, if_pos present, Option.map_some]
      cases seconds : averageOf second jobType with
      | none => simp [healthOf, seconds]
      | some value => simp [healthOf, seconds]
    · rw [if_neg present, if_neg present]
      rfl
  refine values_perm (List.nodup_dedup _) (fun jobType => ?_) fun jobType present => ?_
  · rw [← AList.lookup_isSome, entry]
    split <;> simp_all [jobTypes]
  · rw [entry]
    exact if_pos present

end Merge

section Calls

/-- What the control-plane and the worker do to the table meanwhile. -/
inductive Update where
  | insert (id : JobId) (jobType : String) (params : Json) (now : Time)
  | markRunning (id : JobId) (now : Time)
  | markTerminal (id : JobId) (status : Status) (report : Report) (now : Time)
  | markFailed (id : JobId) (errMsg : String) (now : Time)
  | cancelActive (now : Time)
  | clearTerminal

def Update.apply (table : JobRuns) : Update → JobRuns
  | .insert id jobType params now => (insertJobRun id jobType params now table).getD table
  | .markRunning id now => table.exec (Jobs.markRunning id now)
  | .markTerminal id status report now => table.exec (Jobs.markTerminal id status report now)
  | .markFailed id errMsg now => table.exec (Jobs.markFailed id errMsg now)
  | .cancelActive now => (cancelActiveRuns now table).1
  | .clearTerminal => table.exec clearTerminalRuns

def run (table : JobRuns) (updates : List Update) : JobRuns := updates.foldl Update.apply table

/-- A call of the handler, and the updates that fall before its first query, between the two and
after the second one. -/
structure Call where
  start : JobRuns
  before : List Update
  between : List Update
  after : List Update

namespace Call

variable (call : Call)

def first : JobRuns := run call.start call.before

def second : JobRuns := run call.first call.between

def updates : List Update := call.before ++ call.between ++ call.after

/-- A list that the call may return: the groups of its queries and the entries of its map come in
any order. -/
def Returns (result : List JobTypeHealth) : Prop :=
  ∃ (counts : Answer CountRow) (durations : Answer DurationRow) (iteration : List JobTypeHealth →
    List JobTypeHealth)
    (countsRead : List CountRow) (durationsRead : List DurationRow),
    counts.Returns countsRead ∧ countsRead.Perm (countRows call.first) ∧
    durations.Returns durationsRead ∧ durationsRead.Perm (durationRows call.second) ∧
    (∀ health, (iteration health).Perm health) ∧
    eTLHealthSummary counts durations iteration = .ok result

/-- The list is the summary of a state that the table was in during the call. -/
def OfOneState (result : List JobTypeHealth) : Prop :=
  ∃ front back, call.updates = front ++ back ∧ result.Perm (summary (run call.start front))

/-- The updates can be cut in two: those before the cut leave the counts that the first query reads,
and those after it leave the averages that the second one reads of the types which the first one
counts. -/
def Cut : Prop :=
  ∃ front back, call.updates = front ++ back ∧
    (∀ jobType status, isCounted status = true →
      countOf (run call.start front) jobType status = countOf call.first jobType status) ∧
    ∀ jobType ∈ jobTypes call.first, averageOf (run call.start front) jobType =
    averageOf call.second jobType

end Call

variable {first second table : JobRuns} {call : Call} {result : List JobTypeHealth}

theorem mem_jobTypes_iff {jobType : String} :
    jobType ∈ jobTypes table ↔ ∃ status, isCounted status = true ∧
    countOf table jobType status ≠ 0 := by
  rw [mem_jobTypes]
  constructor
  · rintro ⟨run, member, rfl⟩
    exact ⟨run.status, (List.mem_filter.mp member).2, countOf_ne_zero.mpr ⟨run, member, rfl, rfl⟩⟩
  · rintro ⟨status, _, some_⟩
    obtain ⟨run, member, same, _⟩ := countOf_ne_zero.mp some_
    exact ⟨run, member, same⟩

theorem countOf_eq_zero {jobType : String} (missing : jobType ∉ jobTypes table) {status : Status}
    (counts : isCounted status = true) : countOf table jobType status = 0 := by
  by_contra some_
  exact missing (mem_jobTypes_iff.mpr ⟨status, counts, some_⟩)

theorem merged_perm_summary : (merged first second).Perm (summary table) ↔
    (∀ jobType status, isCounted status = true →
      countOf table jobType status = countOf first jobType status) ∧
      ∀ jobType ∈ jobTypes first, averageOf table jobType = averageOf second jobType := by
  constructor
  · intro same
    have types : (jobTypes first).Perm (jobTypes table) := by
      have named (counts durations : JobRuns) :
          (merged counts durations).map JobTypeHealth.jobType = jobTypes counts := by
        rw [merged, List.map_map]
        exact List.map_id _
      rw [← named first second, ← named table table]
      exact same.map JobTypeHealth.jobType
    have entry : ∀ jobType ∈ jobTypes first,
        healthOf table table jobType = healthOf first second jobType := by
      intro jobType member
      obtain ⟨other, _, equal⟩ := List.mem_map.mp (same.mem_iff.mp (List.mem_map_of_mem member))
      have named : other = jobType := congrArg JobTypeHealth.jobType equal
      rwa [named] at equal
    refine ⟨fun jobType status counts => ?_, fun jobType member => ?_⟩
    · by_cases member : jobType ∈ jobTypes first
      · have equal := entry jobType member
        cases status with
        | succeeded => exact congrArg JobTypeHealth.succeeded equal
        | partialSuccess => exact congrArg JobTypeHealth.partialRuns equal
        | failed => exact congrArg JobTypeHealth.failed equal
        | queued | running | cancelled | other => cases counts
      · rw [countOf_eq_zero member counts,
          countOf_eq_zero (fun found => member (types.mem_iff.mpr found)) counts]
    · exact congrArg JobTypeHealth.avgDurationSeconds (entry jobType member)
  · rintro ⟨counts, averages⟩
    have types : (jobTypes first).Perm (jobTypes table) := by
      refine (List.perm_ext_iff_of_nodup (List.nodup_dedup _) (List.nodup_dedup _)).mpr
        fun jobType => ?_
      change jobType ∈ jobTypes first ↔ jobType ∈ jobTypes table
      rw [mem_jobTypes_iff, mem_jobTypes_iff]
      refine exists_congr fun status => and_congr_right fun counted => ?_
      rw [counts jobType status counted]
    have entries : merged first second = (jobTypes first).map (healthOf table table) := by
      refine List.map_congr_left fun jobType member => ?_
      rw [healthOf, healthOf, counts jobType .succeeded rfl, counts jobType .partialSuccess rfl,
        counts jobType .failed rfl, averages jobType member]
    rw [entries]
    exact types.map _

theorem returns_perm (returns : call.Returns result) :
    result.Perm (merged call.first call.second) := by
  obtain ⟨counts, durations, iteration, countsRead, durationsRead, countsReturn, countsPerm,
      durationsReturn, durationsPerm, shuffled, done⟩ := returns
  obtain ⟨byType, collected, done⟩ := bind_eq_ok.mp done
  obtain ⟨filled, amended, done⟩ := bind_eq_ok.mp done
  cases done
  obtain ⟨seen, seenRows, rfl⟩ := Answer.collect_eq_ok.mp collected
  obtain ⟨timed, timedRows, rfl⟩ := Answer.collect_eq_ok.mp amended
  rw [seenRows.unique countsReturn, timedRows.unique durationsReturn]
  exact (shuffled _).trans (entries_perm countsPerm durationsPerm)

theorem exists_returns (call : Call) : ∃ result, call.Returns result := by
  let counts := countRows call.first
  let durations := durationRows call.second
  let filled := durations.foldl addDuration (counts.foldl addCount ∅)
  have done : eTLHealthSummary (.of counts) (.of durations) id =
      .ok (filled.entries.map fun entry => entry.2) := by
    refine bind_eq_ok.mpr ⟨counts.foldl addCount ∅, ?_, bind_eq_ok.mpr ⟨filled, ?_, rfl⟩⟩
    · exact Answer.collect_eq_ok.mpr ⟨counts, Answer.of_returns counts, rfl⟩
    · exact Answer.collect_eq_ok.mpr ⟨durations, Answer.of_returns durations, rfl⟩
  exact ⟨_, _, _, _, _, _, Answer.of_returns counts, .refl counts, Answer.of_returns durations,
    .refl durations, fun health => .refl health, done⟩

theorem ofOneState_iff_cut (returns : call.Returns result) : call.OfOneState result ↔ call.Cut := by
  refine exists_congr fun front => exists_congr fun back => and_congr_right fun _ => ?_
  rw [(returns_perm returns).congr_left, merged_perm_summary]

theorem cut_of_between (nothing : call.between = []) : call.Cut := by
  refine ⟨call.before, call.after, ?_, fun _ _ _ => rfl, fun jobType _ => ?_⟩
  · rw [Call.updates, nothing, List.append_nil]
  · rw [Call.second, nothing]
    rfl

theorem countOf_perm {jobType : String} {status : Status} (same : first.rows.Perm table.rows) :
    countOf first jobType status = countOf table jobType status :=
  congrArg Nat.cast ((same.filter _).filter _).length_eq

theorem averageOf_perm {jobType : String} (same : first.rows.Perm table.rows) :
    averageOf first jobType = averageOf table jobType := by
  have runs :
      (fiber JobRun.jobType (timed first) jobType).Perm
        (fiber JobRun.jobType (timed table) jobType) :=
    ((same.filter _).filter _).filter _
  have equal : average (fiber JobRun.jobType (timed first) jobType) =
      average (fiber JobRun.jobType (timed table) jobType) := by
    rw [average, average, (runs.filterMap duration).sum_eq, runs.length_eq]
  rw [averageOf, averageOf]
  cases found : fiber JobRun.jobType (timed first) jobType with
  | nil =>
    rw [found] at runs
    rw [runs.nil_eq]
  | cons one others =>
    cases also : fiber JobRun.jobType (timed table) jobType with
    | nil =>
      rw [found, also] at runs
      cases runs.eq_nil
    | cons other rest =>
      rw [found, also] at equal
      exact congrArg some equal

theorem merged_perm {first' second' : JobRuns} (counts : first.rows.Perm first'.rows)
    (durations : second.rows.Perm second'.rows) :
    (merged first second).Perm (merged first' second') := by
  have entries : merged first' second' = (jobTypes first').map (healthOf first second) := by
    refine List.map_congr_left fun jobType _ => ?_
    rw [healthOf, healthOf, countOf_perm counts, countOf_perm counts, countOf_perm counts,
      averageOf_perm durations]
  rw [entries]
  exact (((counts.filter _).map _).dedup).map _

/-- Each list is, in some order, the counts as the first query finds them with the averages as the
second one does, so it is of one state if the updates can be cut between the two, as they can if
none falls between the queries. What the queries find decides it up to order. -/
theorem health_as_read (call : Call) : (∃ result, call.Returns result) ∧
    ∀ result, call.Returns result →
      result.Perm (merged call.first call.second) ∧ (call.OfOneState result ↔ call.Cut) ∧
      (call.between = [] → call.OfOneState result) ∧
      ∀ (other : Call) (otherResult : List JobTypeHealth), other.Returns otherResult →
        call.first.rows.Perm other.first.rows → call.second.rows.Perm other.second.rows →
        result.Perm otherResult := by
  refine ⟨exists_returns call, fun result returns =>
    ⟨returns_perm returns, ofOneState_iff_cut returns,
    fun nothing => (ofOneState_iff_cut returns).mpr (cut_of_between nothing), ?_⟩⟩
  intro other otherResult otherReturns counts durations
  exact (returns_perm returns).trans
    ((merged_perm counts durations).trans (returns_perm otherReturns).symm)

def oneFailed : JobRuns where
  rows :=
    [(JobRun.submitted 0 "silver" .null 0).fail "no worker" 1,
      (JobRun.submitted 1 "silver" .null 2).start 3]
  unique := by decide

def torn : Call :=
  ⟨oneFailed, [], [.markTerminal 1 .succeeded ⟨some 0, none, "", none, none⟩ 8], []⟩

def turned : Call := { torn with start := ⟨oneFailed.rows.reverse, by decide⟩ }

theorem health_as_read_torn : ∃ result other, torn.Returns result ∧ turned.Returns other ∧
    result.Perm [⟨"silver", 0, 0, 1, some 5⟩] ∧ result.Perm other := by
  obtain ⟨⟨result, returns⟩, described⟩ := health_as_read torn
  obtain ⟨other, otherReturns⟩ := exists_returns turned
  obtain ⟨read, _, _, agrees⟩ := described result returns
  have health : merged torn.first torn.second = [⟨"silver", 0, 0, 1, some 5⟩] := by decide +kernel
  refine ⟨result, other, returns, otherReturns, read.trans (.of_eq health),
    agrees turned other otherReturns ?_ ?_⟩
  · exact (List.reverse_perm _).symm
  · exact (List.reverse_perm _).symm

theorem torn_not_of_one_state : ¬ ∀ call result, Call.Returns call result →
    call.OfOneState result := by
  intro consistent
  obtain ⟨result, returns⟩ := exists_returns torn
  obtain ⟨front, back, split, counts, averages⟩ :=
    (ofOneState_iff_cut returns).mp (consistent torn result returns)
  cases front with
  | nil => exact absurd (averages "silver" (by decide)) (by decide +kernel)
  | cons update front =>
    obtain ⟨rfl, rest⟩ := List.cons.inj split
    rw [(List.append_eq_nil_iff.mp rest.symm).1] at counts
    exact absurd (counts "silver" .succeeded rfl) (by decide)

end Calls

end OpenScale.Dashboards
