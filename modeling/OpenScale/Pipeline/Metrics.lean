import OpenScale.Library.Grouping
import OpenScale.Pipeline.Terminal

/-! The job-run gauges that Prometheus scrapes. The collector counts in the table at scrape time, so
what two scrapes say of the runs in between rests on what the statements of the queue do to the
rows. -/

namespace OpenScale.Pipeline

open OpenScale.Library OpenScale.Jobs

variable {s t : State} {event : Event}

structure StatusCount where
  jobType : String
  status : Status
  count : Nat

/-- The columns of the GROUP BY. -/
def labels (run : JobRun) : String × Status := (run.jobType, run.status)

/-- The rows of the query, up to their order: it has no ORDER BY. -/
def countJobRunsByStatus (table : JobRuns) : List StatusCount :=
  (countBy labels table.rows).map fun counted => ⟨counted.1.1, counted.1.2, counted.2⟩

structure Gauge where
  jobType : String
  status : String
  value : Nat
  deriving DecidableEq

inductive Metric where
  | invalid (err : String)
  | const (gauge : Gauge)

/-- What `Collect` sends to the registry. -/
def collect : Except String (List StatusCount) → List Metric
  | .error err => [.invalid err]
  | .ok counts => counts.map fun sc => .const ⟨sc.jobType, sc.status.text, sc.count⟩

def Metric.gauge? : Metric → Option Gauge
  | .invalid _ => none
  | .const gauge => some gauge

/-- The gauges of one scrape of a table whose query succeeds. -/
inductive Scrapes (table : JobRuns) : List Gauge → Prop where
  | queried {counts : List StatusCount} (any : counts.Perm (countJobRunsByStatus table)) :
      Scrapes table ((collect (.ok counts)).filterMap Metric.gauge?)

def Gauge.labels (gauge : Gauge) : String × String := (gauge.jobType, gauge.status)

def Gauge.finished (gauge : Gauge) : Bool := gauge.status ∉ ["queued", "running"]

/-- `sum(openscale_job_runs{job_type="..."})`. -/
def total (jobType : String) (gauges : List Gauge) : Nat :=
  ((gauges.filter fun gauge => gauge.jobType = jobType).map Gauge.value).sum

/-- `sum(openscale_job_runs{job_type="...", status!~"queued|running"})`. -/
def totalFinished (jobType : String) (gauges : List Gauge) : Nat :=
  ((gauges.filter fun gauge => gauge.jobType = jobType ∧ gauge.finished).map Gauge.value).sum

/-- `openscale_job_runs{job_type="...", status="..."}`, which is absent where there is no such
run. -/
def valueOf (jobType status : String) (gauges : List Gauge) : Nat :=
  ((gauges.filter fun gauge => gauge.labels = (jobType, status)).map Gauge.value).sum

section Scrape

variable {table : JobRuns} {gauges : List Gauge}

def gaugeOf (counted : (String × Status) × Nat) : Gauge :=
  ⟨counted.1.1, counted.1.2.text, counted.2⟩

theorem Scrapes.perm (scraped : Scrapes table gauges) :
    gauges.Perm ((countBy labels table.rows).map gaugeOf) := by
  obtain ⟨any⟩ := scraped
  rw [collect, List.filterMap_map]
  refine (any.filterMap _).trans ?_
  rw [countJobRunsByStatus, List.filterMap_map]
  exact .of_eq (congrFun (List.filterMap_eq_map (f := gaugeOf)) _)

theorem Scrapes.nodup (scraped : Scrapes table gauges) : (gauges.map Gauge.labels).Nodup := by
  rw [(scraped.perm.map _).nodup_iff, List.map_map]
  have shown : Gauge.labels ∘ gaugeOf = Prod.map id Status.text ∘ Prod.fst := rfl
  rw [shown, ← List.map_map]
  refine List.Nodup.map (Function.injective_id.prodMap fun _ _ => Status.text_injective) ?_
  rw [countBy, List.map_map]
  exact groupBy_nodup labels table.rows

theorem Scrapes.counts (scraped : Scrapes table gauges) {gauge : Gauge} (listed : gauge ∈ gauges) :
    0 < gauge.value ∧ ∃ run ∈ table, run.jobType = gauge.jobType ∧
    run.status.text = gauge.status := by
  obtain ⟨⟨wanted, count⟩, counted, rfl⟩ := List.mem_map.mp (scraped.perm.mem_iff.mp listed)
  obtain ⟨present, rfl⟩ := mem_countBy.mp counted
  obtain ⟨run, member, rfl⟩ := List.mem_map.mp present
  exact ⟨List.length_pos_of_mem (mem_fiber.mpr ⟨member, rfl⟩), run, member, rfl, rfl⟩

theorem Scrapes.sum {Coarse : Type} [DecidableEq Coarse] (scraped : Scrapes table gauges)
    {shared : Gauge → Bool} (coarse : String × Status → Coarse) (wanted : Coarse)
    (agrees : ∀ counted, shared (gaugeOf counted) = decide (coarse counted.1 = wanted)) :
    ((gauges.filter shared).map Gauge.value).sum =
      table.rows.countP fun run => coarse (labels run) = wanted := by
  rw [((scraped.perm.filter shared).map _).sum_eq, List.filter_map, List.map_map]
  have same : shared ∘ gaugeOf = fun counted => decide (coarse counted.1 = wanted) := funext agrees
  have values : Gauge.value ∘ gaugeOf = Prod.snd := rfl
  rw [same, values, sum_countBy labels coarse table.rows wanted, fiber,
    ← List.countP_eq_length_filter]
  rfl

theorem finished_text (status : Status) :
    decide (status.text ∉ ["queued", "running"]) = status.isTerminal := by
  cases status with
  | other text unlisted =>
    have apart : text ∉ ["queued", "running"] := fun listed => unlisted (by
      simp only [List.mem_cons, List.not_mem_nil, or_false] at listed
      rcases listed with rfl | rfl <;> decide)
    simpa [Status.isTerminal, Status.isActive, Status.text] using apart
  | _ => decide

theorem Scrapes.total (scraped : Scrapes table gauges) (jobType : String) :
    total jobType gauges = table.rows.countP fun run => run.jobType = jobType :=
  scraped.sum Prod.fst jobType fun _ => rfl

theorem Scrapes.totalFinished (scraped : Scrapes table gauges) (jobType : String) :
    totalFinished jobType gauges = table.rows.countP fun run => run.jobType = jobType ∧
    run.status.isTerminal := by
  refine (scraped.sum (fun label => (label.1, label.2.isTerminal)) (jobType, true)
    fun counted => ?_).trans ?_
  · simp [gaugeOf, Gauge.finished, ← finished_text]
  · simp [labels]

theorem Scrapes.valueOf (scraped : Scrapes table gauges) (jobType : String) (status : Status) :
    valueOf jobType status.text gauges =
      table.rows.countP fun run => run.jobType = jobType ∧ run.status = status := by
  refine (scraped.sum id (jobType, status) fun counted => ?_).trans ?_
  · have text : counted.1.2.text = status.text ↔ counted.1.2 = status :=
      ⟨Status.text_injective, congrArg Status.text⟩
    simp [gaugeOf, Gauge.labels, Prod.ext_iff, text]
  · simp [labels]

end Scrape

/-- What becomes of a row while nothing is cleared. -/
structure Advances (s : State) (event : Event) (old new : JobRun) : Prop where
  jobType : new.jobType = old.jobType
  finished : old.status.isTerminal = true → new.status.isTerminal = true
  spared : SparesTerminal s event → old.status.isTerminal = true → new.status = old.status

theorem Advances.rfl {run : JobRun} : Advances s event run run := ⟨.refl _, id, fun _ _ => .refl _⟩

theorem advances_of_writes (valid : Invariant s) {old new : JobRun} (member : old ∈ s.jobRuns)
    (writes : Writes s event old new) : Advances s event old new where
  jobType := by
    match event with
    | .worker (.markRunning now) =>
      obtain ⟨_, _, _, _, _, rfl⟩ := writes
      rfl
    | .worker (.markTerminal now) =>
      obtain ⟨_, _, _, _, _, _, rfl⟩ := writes
      rfl
    | .worker (.rejectUnknown now) =>
      obtain ⟨_, _, _, _, rfl⟩ := writes
      rfl
    | .control (.markFailed id errMsg now) =>
      obtain ⟨_, rfl⟩ := writes
      rfl
    | .control (.cancelActiveRuns now) =>
      obtain ⟨_, rfl⟩ := writes
      rfl
  finished terminal := by
    obtain ⟨_, ⟨_, _, _, _, _, _, waiting, _⟩ | ⟨_, _, _, _, _, _, closing, _, same⟩ |
      ⟨_, _, _, _, _, _, same⟩ | ⟨_, _, _, same⟩ | ⟨_, _, _, same⟩⟩ := writes.cases
    · exact absurd waiting (Status.isTerminal_iff.mp terminal).1
    · rw [same]
      exact valid.closing _ _ _ _ closing
    all_goals rw [same]; rfl
  spared spares terminal := (spares _ (writes.terminal terminal) old member (.refl _) terminal).symm

/-- The steps that clear no runs. -/
def Retains (_ : State) : Event → Prop
  | .control .clearRuns => False
  | _ => True

instance (s : State) (event : Event) : Decidable (Retains s event) := by
  unfold Retains
  split <;> infer_instance

/-- The rows after a step: the ones before it in their places, and those of the runs submitted by
it. -/
structure Grows (s t : State) (related : JobRun → JobRun → Prop) : Prop where
  rows : ∃ kept added, t.jobRuns.rows = kept ++ added ∧ List.Forall₂ related s.jobRuns.rows kept ∧
    t.submissions.map Submission.jobType = s.submissions.map Submission.jobType ++
    added.map JobRun.jobType

theorem Grows.of_same {related : JobRun → JobRun → Prop}
    (rows : List.Forall₂ related s.jobRuns.rows t.jobRuns.rows)
    (submissions : t.submissions.map Submission.jobType = s.submissions.map Submission.jobType) :
    Grows s t related :=
  ⟨t.jobRuns.rows, [], by simp, rows, by simpa using submissions⟩

theorem jobTypes_setSubmission {id : JobId} {change : Submission → Submission}
    (keeps : ∀ submission, (change submission).jobType = submission.jobType) :
    (s.setSubmission id change).submissions.map Submission.jobType =
    s.submissions.map Submission.jobType := by
  simp only [State.setSubmission, List.map_map]
  refine List.map_congr_left fun submission _ => ?_
  simp only [Function.comp]
  split
  · exact keeps submission
  · rfl

theorem cancelActiveRuns_places {now : Time} {table : JobRuns} {related : JobRun → JobRun → Prop}
    (left : ∀ run, related run run)
    (written : ∀ run ∈ table, run.status.isActive = true → related run (run.cancel now)) :
    List.Forall₂ related table.rows (Jobs.cancelActiveRuns now table).1.rows := by
  unfold Jobs.cancelActiveRuns
  by_cases empty : (table.returning selectActive).isEmpty = true
  · rw [if_pos empty]
    exact List.forall₂_same.mpr fun run _ => left run
  · rw [if_neg empty]
    refine KeyedTable.forall₂_exec left fun run member selected => ⟨_, rfl, written run member ?_⟩
    obtain ⟨other, chosen, same⟩ := List.mem_map.mp (List.contains_iff_mem.mp selected)
    obtain ⟨present, active⟩ := mem_selectActive.mp chosen
    rwa [← KeyedTable.same_row present member same]

/-- A step that clears nothing advances the rows, and adds one for the run that it submits. -/
theorem grows_step (valid : Invariant s) (retains : Retains s event)
    (taken : system.step s event = some t) : Grows s t (Advances s event) := by
  have left (run : JobRun) : Advances s event run run := .rfl
  have same (rows : List JobRun) : List.Forall₂ (Advances s event) rows rows :=
    List.forall₂_same.mpr fun run _ => .rfl
  cases event with
  | control event =>
    cases controls taken with
    | submit _ _ inserted =>
      refine ⟨_, _, KeyedTable.rows_insert inserted, same _, ?_⟩
      rw [List.map_append]
      rfl
    | send | encodeErr | enqueueOk | enqueueErr | abandon =>
      exact .of_same (same _) (jobTypes_setSubmission fun _ => rfl)
    | markFailed =>
      refine .of_same (KeyedTable.forall₂_exec left fun run member selected => ?_)
        (jobTypes_setSubmission fun _ => rfl)
      exact ⟨_, rfl, advances_of_writes valid member ⟨beq_iff_eq.mp selected, rfl⟩⟩
    | cancelActiveRuns =>
      refine .of_same (cancelActiveRuns_places left fun run member active => ?_) rfl
      exact advances_of_writes valid member ⟨active, rfl⟩
    | clearRuns => exact retains.elim
    | xadd | restartWorker | cancelEnds => exact .of_same (same _) rfl
  | worker event =>
    cases works taken with
    | claim holding =>
      refine .of_same (KeyedTable.forall₂_exec left fun run member selected => ?_) rfl
      obtain ⟨own, queued⟩ := Bool.and_eq_true_iff.mp selected
      exact ⟨_, rfl, advances_of_writes valid member
        ⟨_, _, holding, beq_iff_eq.mp own, beq_iff_eq.mp queued, rfl⟩⟩
    | rejectUnknown holding =>
      refine .of_same (KeyedTable.forall₂_exec left fun run member selected => ?_) rfl
      exact ⟨_, rfl, advances_of_writes valid member ⟨_, _, holding, beq_iff_eq.mp selected, rfl⟩⟩
    | markTerminal closing =>
      refine .of_same (KeyedTable.forall₂_exec left fun run member selected => ?_) rfl
      exact ⟨_, rfl,
        advances_of_writes valid member ⟨_, _, _, _, closing, beq_iff_eq.mp selected, rfl⟩⟩
    | _ => exact .of_same (same _) rfl

theorem countP_le_of_forall₂ {related : JobRun → JobRun → Prop} {counts : JobRun → Bool}
    {old new : List JobRun} (places : List.Forall₂ related old new)
    (keeps : ∀ run later, related run later → counts run = true → counts later = true) :
    old.countP counts ≤ new.countP counts := by
  induction places with
  | nil => exact Nat.le_refl _
  | @cons run later _ _ fits _ ih =>
    have here := keeps run later fits
    rw [List.countP_cons, List.countP_cons]
    by_cases counted : counts run = true
    · simp [counted, here counted, ih]
    · rw [if_neg counted]
      exact Nat.le_add_right_of_le ih

theorem Grows.countP_le {related : JobRun → JobRun → Prop} {counts : JobRun → Bool}
    (grows : Grows s t related)
    (keeps : ∀ run later, related run later → counts run = true → counts later = true) :
    s.jobRuns.rows.countP counts ≤ t.jobRuns.rows.countP counts := by
  obtain ⟨kept, added, rows, places, _⟩ := grows
  rw [rows, List.countP_append]
  exact Nat.le_add_right_of_le (countP_le_of_forall₂ places keeps)

/-- The accepted Run requests of one type. -/
def State.requestsOf (state : State) (jobType : String) : Nat :=
  state.submissions.countP fun submission => submission.jobType = jobType

theorem Grows.balance {related : JobRun → JobRun → Prop} (grows : Grows s t related)
    (keeps : ∀ run later, related run later → later.jobType = run.jobType) (jobType : String) :
    (t.jobRuns.rows.countP fun run => run.jobType = jobType) + s.requestsOf jobType =
      (s.jobRuns.rows.countP fun run => run.jobType = jobType) + t.requestsOf jobType := by
  obtain ⟨kept, added, rows, places, submissions⟩ := grows
  have types : s.jobRuns.rows.map JobRun.jobType = kept.map JobRun.jobType := by
    rw [← List.forall₂_eq_eq_eq, List.forall₂_map_left_iff, List.forall₂_map_right_iff]
    exact places.imp fun run later fits => (keeps run later fits).symm
  have counted (runs : List JobRun) : (runs.countP fun run => run.jobType = jobType) =
      (runs.map JobRun.jobType).countP (· = jobType) := by
    rw [List.countP_map]
    rfl
  have requested (state : State) : state.requestsOf jobType =
      (state.submissions.map Submission.jobType).countP (· = jobType) := by
    rw [List.countP_map]
    rfl
  rw [counted, counted, requested, requested, submissions, rows, List.map_append,
    List.countP_append, List.countP_append, types]
  omega

theorem known_of_reachable (reachable : system.Reachable s) :
    ∀ run ∈ s.jobRuns, run.jobType ∈ catalog := by
  induction reachable with
  | refl => exact fun _ member => absurd member List.not_mem_nil
  | @snoc _ _ event path _ taken ih =>
    intro run member
    rcases row_cases taken member with ⟨kept, _⟩ | ⟨old, present, writes⟩ | ⟨_, inserts⟩
    · exact ih run kept
    · rw [(advances_of_writes (reachable_invariant path) present writes).jobType]
      exact ih old present
    · match event with
      | .control (.submit id jobType params now) =>
        cases inserts
        exact List.contains_iff_mem.mp (submit_fresh taken).2.1

/-- What two scrapes with no ClearRuns between them say. Each is free of doubled labels, and of
types outside the catalog; for each type, the gauges go up by the requests accepted in between, and
those of finished runs never go down together. A single one of them never does where the overwrites
by id spare the terminal rows. -/
theorem scrapes_account (s t : State) (reachable : system.Reachable s)
    (path : system.Path Retains s t)
    (earlier later : List Gauge) (before : Scrapes s.jobRuns earlier)
    (after : Scrapes t.jobRuns later) :
    (later.map Gauge.labels).Nodup ∧ (∀ gauge ∈ later, gauge.jobType ∈ catalog ∧ 0 < gauge.value) ∧
    ∀ jobType, total jobType later + s.requestsOf jobType = total jobType earlier +
    t.requestsOf jobType ∧
      totalFinished jobType earlier ≤ totalFinished jobType later ∧
      (system.Path (fun s event => Retains s event ∧ SparesTerminal s event) s t →
        ∀ status : Status, status.isTerminal = true →
          valueOf jobType status.text earlier ≤ valueOf jobType status.text later) := by
  have valid := reachable_invariant reachable
  refine ⟨after.nodup, fun gauge listed => ?_, fun jobType =>
    ⟨?_, ?_, fun spares status terminal => ?_⟩⟩
  · obtain ⟨positive, run, member, type, _⟩ := after.counts listed
    exact ⟨type ▸ known_of_reachable (reachable.trans path.leads) run member, positive⟩
  · rw [before.total, after.total]
    clear before after
    induction path with
    | refl => rfl
    | snoc path retains taken ih =>
      have one :=
        (grows_step (valid.path path) retains taken).balance (fun _ _ fits => fits.jobType) jobType
      omega
  · rw [before.totalFinished, after.totalFinished]
    clear before after
    induction path with
    | refl => exact Nat.le_refl _
    | snoc path retains taken ih =>
      refine ih.trans
        ((grows_step (valid.path path) retains taken).countP_le fun run later fits counted => ?_)
      obtain ⟨type, terminal⟩ := of_decide_eq_true counted
      exact decide_eq_true ⟨fits.jobType.trans type, fits.finished terminal⟩
  · rw [before.valueOf, after.valueOf]
    clear before after path
    induction spares with
    | refl => exact Nat.le_refl _
    | snoc path both taken ih =>
      refine ih.trans
        ((grows_step (valid.path path) both.1 taken).countP_le fun run later fits counted => ?_)
      obtain ⟨type, here⟩ := of_decide_eq_true counted
      exact decide_eq_true ⟨fits.jobType.trans type,
        (fits.spared both.2 (here ▸ terminal)).trans here⟩

theorem scrapes_account_finished : ∃ earlier later, totalFinished "gold" earlier = 0 ∧
    totalFinished "gold" later = 1 ∧ total "gold" later = total "gold" earlier := by
  let seen (s : State) : Nat × Nat :=
    (s.jobRuns.rows.countP fun run => run.jobType = "gold" ∧
      run.status.isTerminal, s.requestsOf "gold")
  have halfway : (system.replay Retains init untilExecuting).map seen = some (0, 1) := by decide
  have whole : (system.replay Retains init (untilExecuting ++ finishing)).map seen =
      some (1, 1) := by decide
  obtain ⟨s, t, front, first, back, last⟩ := TransitionSystem.passes_of_replay halfway whole
  have before : Scrapes s.jobRuns _ := .queried (.refl _)
  have after : Scrapes t.jobRuns _ := .queried (.refl _)
  obtain ⟨finished, requests⟩ := Prod.mk.inj first
  obtain ⟨finishedThen, requestsThen⟩ := Prod.mk.inj last
  have account := ((scrapes_account s t front.leads back _ _ before after).2.2 "gold").1
  exact ⟨_, _, (before.totalFinished "gold").trans finished,
    (after.totalFinished "gold").trans finishedThen,
    Nat.add_right_cancel (account.trans (by rw [requests, requestsThen]))⟩

end OpenScale.Pipeline
