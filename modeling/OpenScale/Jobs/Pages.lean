import Mathlib.Algebra.Order.Ring.Int
import OpenScale.Jobs.Table
import OpenScale.Library.JsonWriter
import OpenScale.Library.Paging

/-! Run history, page by page: GET /api/jobs/runs over `ListJobRuns`. The rows are ordered by
`submitted_at` alone, which two runs can share. -/

namespace OpenScale.Jobs

open OpenScale.Library

structure Run where
  id : JobId
  jobType : String
  params : Json
  status : Status
  submittedAt : Time
  startedAt : Option Time
  finishedAt : Option Time
  error : Option String
  logOutput : Option String
  rowsProcessed : Option Int

def scanRun (row : JobRun) : Run where
  id := row.id
  jobType := row.jobType
  params := row.params
  status := row.status
  submittedAt := row.submittedAt
  startedAt := row.startedAt
  finishedAt := row.finishedAt
  error := row.error
  logOutput := row.logOutput
  rowsProcessed := row.rowsProcessed

/-- A table has 2^32 blocks at most, so positions of rows are 64-bit values. -/
structure History where
  table : JobRuns
  fits : table.rows.length < 2 ^ 63

def History.runs (history : History) : List Run := history.table.rows.map scanRun

/-- One of the orders that ORDER BY submitted_at DESC allows. -/
abbrev NewestFirst (history : History) (order : List Run) : Prop :=
  Paging.Orders Run.submittedAt history.runs order

/-- Two's complement in 64 bits. -/
def wrap64 (n : Int) : Int := n.bmod (2 ^ 64)

inductive DbError where
  | negativeLimit
  | negativeOffset
  deriving DecidableEq

/-- LIMIT and OFFSET on the ordered rows. -/
def selectRuns (order : List Run) (limit offset : Int) : Except DbError (List Run) :=
  if offset < 0 then .error .negativeOffset
  else if limit < 0 then .error .negativeLimit
  else .ok ((order.drop offset.toNat).take limit.toNat)

def listJobRuns (order : List Run) (limit offset : Int) : Except DbError (List Run × Bool) := do
  let runs ← selectRuns order (wrap64 (limit + 1)) offset
  if limit < runs.length then
    return (runs.take limit.toNat, true)
  else
    return (runs, false)

/-- The sign that a number may have in front. -/
def splitSign (text : List Char) : Bool × List Char :=
  match text with
  | '-' :: unsigned => (true, unsigned)
  | '+' :: unsigned => (false, unsigned)
  | unsigned => (false, unsigned)

/-- `strconv.Atoi`, where it gives no error. -/
def atoi (text : List Char) : Option Int :=
  let (negative, unsigned) := splitSign text
  let (magnitude, count, left) := Json.readDigits unsigned 0 0
  let value : Int := if negative then -magnitude else magnitude
  if 0 < count ∧ left = [] ∧ -2 ^ 63 ≤ value ∧ value < 2 ^ 63 then some value else none

structure RunsQuery where
  limitText : List Char
  offsetText : List Char

def RunsQuery.limit (query : RunsQuery) : Int :=
  match atoi query.limitText with
  | some n => if 0 < n then n else 20
  | none => 20

def RunsQuery.offset (query : RunsQuery) : Int :=
  match atoi query.offsetText with
  | some n => if 0 ≤ n then n else 0
  | none => 0

structure ListRunsResponse where
  runs : List Run
  hasMore : Bool

/-- An error is answered with status 500. -/
def listRuns (order : List Run) (query : RunsQuery) : Except DbError ListRunsResponse := do
  let (runs, hasMore) ← listJobRuns order query.limit query.offset
  return ⟨runs, hasMore⟩

theorem atoi_range {text : List Char} {n : Int} (found : atoi text = some n) :
    -2 ^ 63 ≤ n ∧ n < 2 ^ 63 := by
  unfold atoi at found
  obtain ⟨good, same⟩ := Option.ite_none_right_eq_some.mp found
  exact Option.some.inj same ▸ good.2.2

theorem splitSign_digits {digits : List Char} (all : ∀ c ∈ digits, c.isDigit = true) :
    splitSign digits = (false, digits) := by
  unfold splitSign
  split
  next tail => exact absurd (all '-' (List.mem_cons_self ..)) (by decide)
  next tail => exact absurd (all '+' (List.mem_cons_self ..)) (by decide)
  next => rfl

/-- Each number that fits has a text. -/
theorem atoi_toDigits {n : Nat} (fits : n < 2 ^ 63) :
    atoi (Nat.toDigits 10 n) = some (n : Int) := by
  have digits := Json.isDigit_toDigits n
  have nothing : ∀ c, ([] : List Char).head? = some c → c.isDigit = false := nofun
  have read := Json.readDigits_append digits nothing 0 0
  rw [List.append_nil, Nat.zero_add, Nat.ofDigitChars_toDigits (by decide) (by decide)] at read
  have some_ : 0 < (Nat.toDigits 10 n).length := List.length_pos_iff.mpr Nat.toDigits_ne_nil
  simp only [atoi, splitSign_digits digits, read]
  exact if_pos ⟨some_, trivial, by omega, by omega⟩

variable {order : List Run} {query : RunsQuery}

theorem RunsQuery.limit_range (query : RunsQuery) : 0 < query.limit ∧ query.limit < 2 ^ 63 := by
  unfold RunsQuery.limit
  split
  next n found =>
    split
    next positive => exact ⟨positive, (atoi_range found).2⟩
    next => decide
  next => decide

theorem RunsQuery.offset_range (query : RunsQuery) : 0 ≤ query.offset ∧ query.offset < 2 ^ 63 := by
  unfold RunsQuery.offset
  split
  next n found =>
    split
    next natural => exact ⟨natural, (atoi_range found).2⟩
    next => decide
  next => decide

theorem wrap64_of_fits {n : Int} (low : -2 ^ 63 ≤ n) (high : n < 2 ^ 63) : wrap64 n = n := by
  unfold wrap64
  rw [Int.bmod_eq_of_le (by omega) (by omega)]

def maxLimit : Int := 2 ^ 63 - 1

theorem listRuns_page (below : query.limit ≠ maxLimit) (order : List Run) :
    ∃ response, listRuns order query = .ok response ∧
      response.runs = (order.drop query.offset.toNat).take query.limit.toNat ∧
      (response.hasMore = true ↔ query.offset + query.limit < order.length) := by
  obtain ⟨positive, fits⟩ := query.limit_range
  obtain ⟨natural, _⟩ := query.offset_range
  have next : wrap64 (query.limit + 1) = query.limit + 1 :=
    wrap64_of_fits (by omega) (by unfold maxLimit at below; omega)
  have selected : selectRuns order (wrap64 (query.limit + 1)) query.offset =
      .ok ((order.drop query.offset.toNat).take (query.limit + 1).toNat) := by
    rw [selectRuns, if_neg natural.not_gt, next, if_neg (by omega)]
  have length : ((order.drop query.offset.toNat).take (query.limit + 1).toNat).length =
      min (query.limit + 1).toNat (order.length - query.offset.toNat) := by
    rw [List.length_take, List.length_drop]
  by_cases more : query.limit <
    ((order.drop query.offset.toNat).take (query.limit + 1).toNat).length
  · refine ⟨⟨(order.drop query.offset.toNat).take query.limit.toNat, true⟩, ?_, rfl, by simp; omega⟩
    simp only [listRuns, listJobRuns, selected, bind, Except.bind, pure, Except.pure, if_pos more]
    rw [List.take_take, Nat.min_eq_left (by omega)]
  · refine ⟨⟨(order.drop query.offset.toNat).take query.limit.toNat, false⟩, ?_,
      rfl, by simp; omega⟩
    simp only [listRuns, listJobRuns, selected, bind, Except.bind, pure, Except.pure, if_neg more]
    rw [List.take_of_length_le (by rw [List.length_drop]; omega),
      List.take_of_length_le (by rw [List.length_drop]; omega)]

theorem listRuns_maxLimit (largest : query.limit = maxLimit) (order : List Run) :
    listRuns order query = .error .negativeLimit := by
  obtain ⟨natural, _⟩ := query.offset_range
  have wrapped : wrap64 (maxLimit + 1) < 0 := by decide
  simp only [listRuns, listJobRuns, selectRuns, largest, if_neg natural.not_gt,
    if_pos wrapped, bind, Except.bind]

/-- Nothing is lost or repeated: neither by one request nor by a walk over the pages, whatever order
each request finds. -/
structure Paginates (history : History) (limit : Int) : Prop where
  page : ∀ query : RunsQuery, query.limit = limit → ∀ order, NewestFirst history order →
    ∃ response, listRuns order query = .ok response ∧
      (response.runs.length : Int) = min limit (max 0 (history.runs.length - query.offset)) ∧
      (response.hasMore = true ↔ query.offset + limit < history.runs.length)
  walk : ∀ (count : Nat) (queries : Nat → RunsQuery) (orders : Nat → List Run),
    (∀ k < count, (queries k).limit = limit ∧ (queries k).offset = k * limit) →
    (∀ k, NewestFirst history (orders k)) → (history.runs.length : Int) ≤ count * limit →
    ∃ pages : Nat → ListRunsResponse,
      (∀ k < count, listRuns (orders k) (queries k) = .ok (pages k)) ∧
      ((List.range count).flatMap fun k => (pages k).runs).Perm history.runs

/-- No two runs with the same `submitted_at` stand on both sides of the end of a page. -/
def NoTieAcrossPages (history : History) (limit : Int) : Prop :=
  ∀ k, Paging.Clean (Paging.sortedKeys Run.submittedAt history.runs) (k * limit.toNat)

variable {history : History} {limit : Int} {count : Nat} {queries : Nat → RunsQuery}
  {orders : Nat → List Run} {pages : Nat → ListRunsResponse}

theorem History.runs_nodup (history : History) : history.runs.Nodup := by
  refine List.Nodup.of_map Run.id ?_
  rw [History.runs, List.map_map]
  exact history.table.unique

theorem shown_eq_walk (below : limit ≠ maxLimit)
    (asked : ∀ k < count, (queries k).limit = limit ∧ (queries k).offset = k * limit)
    (answered : ∀ k < count, listRuns (orders k) (queries k) = .ok (pages k)) :
    ((List.range count).flatMap fun k => (pages k).runs) =
    Paging.walk limit.toNat count orders := by
  refine List.flatMap_congr fun k member => ?_
  have small := List.mem_range.mp member
  obtain ⟨size, position⟩ := asked k small
  obtain ⟨response, answer, runs, _⟩ := listRuns_page (size ▸ below) (orders k)
  obtain rfl : response = pages k := Except.ok.inj (answer.symm.trans (answered k small))
  obtain ⟨positive, _⟩ := (queries k).limit_range
  rw [runs, Paging.page, size, position, Int.toNat_mul (by omega) (by omega), Int.toNat_natCast]

theorem answered_below (orders : Nat → List Run) (below : limit ≠ maxLimit)
    (asked : ∀ k < count, (queries k).limit = limit) :
    ∃ pages : Nat → ListRunsResponse, ∀ k < count, listRuns (orders k)
      (queries k) = .ok (pages k) := by
  have each : ∀ k, ∃ page, k < count → listRuns (orders k) (queries k) = .ok page := by
    intro k
    by_cases small : k < count
    · obtain ⟨page, answer, _⟩ := listRuns_page (asked k small ▸ below) (orders k)
      exact ⟨page, fun _ => answer⟩
    · exact ⟨⟨[], false⟩, fun counted => absurd counted small⟩
  exact Classical.axiomOfChoice each

def pageQueries (query : RunsQuery) (k : Nat) : RunsQuery :=
  ⟨query.limitText, Nat.toDigits 10 (k * query.limit.toNat)⟩

theorem pageQueries_asked (query : RunsQuery) {k : Nat} (fits : k * query.limit.toNat < 2 ^ 63) :
    (pageQueries query k).limit = query.limit ∧ (pageQueries query k).offset = k * query.limit := by
  refine ⟨rfl, ?_⟩
  obtain ⟨positive, _⟩ := query.limit_range
  simp only [RunsQuery.offset, pageQueries, atoi_toDigits fits]
  rw [if_pos (by omega), Int.natCast_mul, Int.toNat_of_nonneg positive.le]

/-- The history paginates exactly when one row more than the limit is still a number of rows, and
no runs tie across the end of a page. -/
theorem paginates_iff (history : History) (query : RunsQuery) :
    Paginates history query.limit ↔
      query.limit ≠ maxLimit ∧ NoTieAcrossPages history query.limit := by
  obtain ⟨positive, _⟩ := query.limit_range
  have size : 0 < query.limit.toNat := by omega
  refine ⟨fun paginates => ?_, fun ⟨below, clean⟩ => ⟨fun other same order sorted => ?_, ?_⟩⟩
  · obtain ⟨order, sorted⟩ := Paging.exists_orders Run.submittedAt history.runs
    have below : query.limit ≠ maxLimit := by
      intro largest
      obtain ⟨response, answer, _⟩ := paginates.page query rfl order sorted
      rw [listRuns_maxLimit largest] at answer
      cases answer
    refine ⟨below, ?_⟩
    obtain ⟨count, counted⟩ : ∃ count,
        count = (history.runs.length + query.limit.toNat - 1) / query.limit.toNat :=
      ⟨_, rfl⟩
    have enough : history.runs.length ≤ count * query.limit.toNat := by
      rw [counted]
      have := Nat.lt_div_mul_add size (a := history.runs.length + query.limit.toNat - 1)
      omega
    have within : ∀ k < count, k * query.limit.toNat < 2 ^ 63 := by
      intro k small
      have last := (Nat.le_div_iff_mul_le size).mp (counted ▸ Nat.succ_le_of_lt small)
      have fits : history.runs.length < 2 ^ 63 := by
        rw [History.runs, List.length_map]
        exact history.fits
      rw [Nat.succ_mul] at last
      omega
    refine (Paging.walk_perm_iff count history.runs_nodup size enough).mp fun orders each => ?_
    have asked := fun k small => pageQueries_asked query (within k small)
    obtain ⟨pages, answered, whole⟩ :=
      paginates.walk count (pageQueries query) orders asked each (by
      rw [← Int.toNat_of_nonneg positive.le]
      exact_mod_cast enough)
    rwa [shown_eq_walk below asked answered] at whole
  · obtain ⟨response, answer, runs, more⟩ := listRuns_page (same ▸ below) order
    have length := sorted.length_eq
    obtain ⟨natural, _⟩ := other.offset_range
    refine ⟨response, answer, ?_, ?_⟩
    · rw [runs, List.length_take, List.length_drop, length, same]
      omega
    · rw [more, length, same]
  · intro count queries orders asked each enough
    obtain ⟨pages, answered⟩ := answered_below orders below fun k small => (asked k small).1
    refine ⟨pages, answered, ?_⟩
    rw [shown_eq_walk below asked answered]
    refine Paging.walk_perm ?_ each clean
    rw [← Int.toNat_of_nonneg positive.le] at enough
    exact_mod_cast enough

def twins : History where
  table := ⟨[.submitted 0 "ingest" .null 5, .submitted 1 "ingest" .null 5], by decide⟩
  fits := by decide

def oneByOne (k : Nat) : RunsQuery := ⟨['1'], Nat.toDigits 10 k⟩

/-- The first page takes the rows as they are stored, and the next one the other way round. -/
def turned (k : Nat) : List Run := if k = 0 then twins.runs else twins.runs.reverse

theorem twins_repeat :
    ¬ ∀ (history : History) (query : RunsQuery), Paginates history query.limit := by
  intro paginates
  have each : ∀ k, NewestFirst twins (turned k) := by
    intro k
    unfold turned
    split
    · exact ⟨.refl _, by decide⟩
    · exact ⟨List.reverse_perm _, by decide⟩
  obtain ⟨pages, answered, whole⟩ := (paginates twins (oneByOne 0)).walk 2 oneByOne turned
    (by decide +kernel) each (by decide +kernel)
  have shown : ∀ k < 2, (pages k).runs.map Run.id = [0] := by
    intro k small
    have answer : (listRuns (turned k) (oneByOne k)).map (fun page => page.runs.map Run.id) =
        .ok [0] := by
      obtain rfl | rfl : k = 0 ∨ k = 1 := by omega
      · rfl
      · rfl
    rw [answered k small] at answer
    exact Except.ok.inj answer
  have ids := whole.map Run.id
  rw [List.map_flatMap, List.flatMap_congr fun k member =>
    shown k (List.mem_range.mp member)] at ids
  exact absurd ids (by decide)

end OpenScale.Jobs
