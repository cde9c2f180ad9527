import OpenScale.Library.JsonWriter
import OpenScale.Library.Program
import OpenScale.Pipeline.System

/-! The Run handler of the control-plane: one insert, one XADD, and MarkFailed
as the fallback, all under one request context. -/

namespace OpenScale.ControlPlane

open OpenScale.Library OpenScale.Jobs OpenScale.Pipeline

structure Faults where
  insert : Delivery
  marshalErr : Option String
  enqueue : Delivery
  markFailed : Delivery

/-- `live` calls can still be made before the request context ends. -/
structure World where
  jobRuns : JobRuns
  requests : GroupStream Message
  live : Nat

inductive Response where
  | notFound
  | badRequest
  | serverError (err : String)
  | accepted (run : JobRun)

abbrev Handler := Program World String

/-- A call with the request context, which refuses it once the context has ended. -/
def call (delivery : Delivery) (effect : World → World) : Handler (Option String) := fun world =>
  match world.live, delivery with
  | 0, _ => (.returned (some "context deadline exceeded"), world)
  | live + 1, .confirmed => (.returned none, effect { world with live := live })
  | live + 1, .lost => (.returned (some "connection lost"), effect { world with live := live })
  | live + 1, .refused => (.returned (some "refused"), { world with live := live })

def World.insert (id : JobId) (jobType : String) (params : Json) (now : Time) (world : World) :
    World :=
  { world with jobRuns := (insertJobRun id jobType params now world.jobRuns).getD world.jobRuns }

def World.markFailed (id : JobId) (errMsg : String) (now : Time) (world : World) : World :=
  { world with jobRuns := world.jobRuns.exec (Jobs.markFailed id errMsg now) }

def World.xadd (message : Message) (world : World) : World :=
  { world with requests := world.requests.add message }

/-- `json.Unmarshal` into a map: `some none` is the nil map that JSON null gives, and
`none` an error. It rejects a depth above 10000 and a number beyond float64;
`float64` is the double a number is read as, in the decimals it is written back in. -/
def unmarshalMap (float64 : Int → Int → Option (Int × Int)) (text : List Char) :
    Option (Option (List (String × Json))) :=
  match Json.read 10000 text with
  | some .null => some none
  | some (.object fields) => (Json.mapFields float64 fields).map fun read =>
    some (read.foldl (fun map field => Json.setField map field.1 field.2) [])
  | _ => none

/-- The fields that the worker gets: the submitted ones and the run's own id. -/
def enqueueParams (float64 : Int → Int → Option (Int × Int)) (id : JobId) (text : List Char) :
    Handler (List (String × Json)) := do
  let paramsMap ← match unmarshalMap float64 text with
    | some (some fields) => pure fields
    | some none => .raise "assignment to entry in nil map"
    | none => pure []
  return Json.setField paramsMap "job_id" (.string (toString id))

def failRun (faults : Faults) (run : JobRun) (errMsg : String) (later : Time) :
    Handler Response := do
  let _ ← call faults.markFailed (World.markFailed run.id errMsg later)
  return .accepted { run with status := .failed, error := some errMsg }

/-- Encode the request and enqueue it; MarkFailed when either fails. -/
def send (faults : Faults) (run : JobRun) (params : List (String × Json)) (later : Time) :
    Handler Response :=
  match faults.marshalErr with
  | some err => failRun faults run ("failed to encode enqueue params: " ++ err) later
  | none => do
    match ← call faults.enqueue (World.xadd ⟨run.id, run.jobType, .object params,
      run.submittedAt⟩) with
    | some err => failRun faults run ("failed to enqueue: " ++ err) later
    | none => return .accepted run

def submit (float64 : Int → Int → Option (Int × Int)) (faults : Faults) (run : JobRun)
    (text : List Char) (later : Time) : Handler Response := do
  match ← call faults.insert (World.insert run.id run.jobType run.params run.submittedAt) with
  | some err => return .serverError ("db: insert job run: " ++ err)
  | none =>
    let params ← enqueueParams float64 run.id text
    send faults run params later

def orEmptyObject (body : List Char) : List Char := if body.isEmpty then "{}".toList else body

/-- `Run`. `jsonb` is how Postgres reads the params column; `body` is none when the
body cannot be read. -/
def run (float64 : Int → Int → Option (Int × Int)) (jsonb : List Char → Option Json)
    (faults : Faults)
    (id : JobId) (now later : Time) (jobType : String) (body : Option (List Char)) :
    Handler Response := do
  if !isKnownJobType jobType then return .notFound
  match body with
  | none => return .badRequest
  | some body =>
    match jsonb (orEmptyObject body) with
    | none => return .serverError "db: insert job run: invalid input syntax for type json"
    | some params =>
      submit float64 faults (JobRun.submitted id jobType params now) (orEmptyObject body) later

/-- A row of this run is marked failed, or has its message on the stream. -/
def Settled (world : World) (id : JobId) : Prop :=
  ∀ run ∈ world.jobRuns, run.id = id →
    (∃ message ∈ world.requests.entries, message.jobId = id) ∨ run.status = .failed

/-- The call takes effect when `live` calls can still be made. -/
def Effective (live : Nat) (delivery : Delivery) : Prop := 0 < live ∧ delivery ≠ .refused

section Calls

variable {world : World} {delivery : Delivery} {effect : World → World} {faults : Faults}
variable {row : JobRun} {later : Time}

theorem call_effective (effective : Effective world.live delivery) :
    ∃ reply, (reply = none ↔ delivery = .confirmed) ∧
      call delivery effect world =
      (.returned reply, effect { world with live := world.live - 1 }) := by
  obtain ⟨jobRuns, requests, live⟩ := world
  obtain ⟨some_, answered⟩ := effective
  cases live with
  | zero => exact absurd some_ (Nat.lt_irrefl 0)
  | succ live =>
    cases delivery with
    | confirmed => exact ⟨none, by simp, rfl⟩
    | lost => exact ⟨some "connection lost", by simp, rfl⟩
    | refused => exact absurd rfl answered

theorem call_refused (refused : ¬ Effective world.live delivery) : ∃ err,
    call delivery effect world = (.returned (some err), { world with live := world.live - 1 }) := by
  obtain ⟨jobRuns, requests, live⟩ := world
  cases live with
  | zero => exact ⟨_, rfl⟩
  | succ live =>
    cases delivery with
    | refused => exact ⟨_, rfl⟩
    | confirmed | lost => exact absurd ⟨Nat.succ_pos live, by simp⟩ refused

theorem failRun_effective {errMsg : String} (effective : Effective world.live faults.markFailed) :
    ((failRun faults row errMsg later) world).2 =
      World.markFailed row.id errMsg later { world with live := world.live - 1 } := by
  obtain ⟨reply, _, called⟩ := call_effective effective
  rw [failRun, Program.bind_returned called]
  rfl

theorem failRun_refused {errMsg : String} (refused : ¬ Effective world.live faults.markFailed) :
    ((failRun faults row errMsg later) world).2 = { world with live := world.live - 1 } := by
  obtain ⟨err, called⟩ := call_refused refused
  rw [failRun, Program.bind_returned called]
  rfl

theorem failRun_entries {errMsg : String} :
    ((failRun faults row errMsg later) world).2.requests = world.requests := by
  by_cases effective : Effective world.live faults.markFailed
  · rw [failRun_effective effective]
    rfl
  · rw [failRun_refused effective]

end Calls

section Inserted

variable {world : World} {row : JobRun} {message : Message}

/-- The row has just been inserted, and nothing of it is on the stream. -/
structure JustInserted (world : World) (row : JobRun) : Prop where
  present : row ∈ world.jobRuns
  queued : row.status = .queued
  unsent : ∀ message ∈ world.requests.entries, message.jobId ≠ row.id

theorem not_settled (inserted : JustInserted world row) : ¬ Settled world row.id := by
  intro settled
  rcases settled row inserted.present rfl with ⟨message, listed, own⟩ | failed
  · exact inserted.unsent message listed own
  · rw [inserted.queued] at failed
    cases failed

theorem settled_markFailed {errMsg : String} {later : Time} :
    Settled (world.markFailed row.id errMsg later) row.id := by
  intro run present own
  rcases mem_markFailed.mp present with ⟨_, other⟩ | ⟨_, _, _, rfl⟩
  · exact absurd own other
  · exact .inr rfl

theorem settled_sent {id : JobId} (sent : ∃ message ∈ world.requests.entries, message.jobId = id) :
    Settled world id := fun _ _ _ => .inl sent

end Inserted

section Submit

variable {float64 : Int → Int → Option (Int × Int)} {faults : Faults} {row : JobRun}
variable {text : List Char} {later : Time} {world : World}

/-- Insert, decode and enqueue go well enough, or MarkFailed does. -/
structure Settles (float64 : Int → Int → Option (Int × Int)) (faults : Faults) (text : List Char)
    (live : Nat) : Prop where
  answered : faults.insert = .confirmed
  decoded : Json.read 10000 text ≠ some .null
  recorded : match faults.marshalErr with
    | some _ => Effective (live - 1) faults.markFailed
    | none => Effective (live - 1) faults.enqueue ∨ Effective (live - 2) faults.markFailed

theorem unmarshalMap_nil : unmarshalMap float64 text = some none ↔
    Json.read 10000 text = some .null := by
  unfold unmarshalMap
  split
  · rename_i read
    simp [read]
  · rename_i fields read
    simp [read]
  · rename_i other _
    simp only [reduceCtorEq, false_iff]
    exact other

theorem enqueueParams_nil {id : JobId} (nil : unmarshalMap float64 text = some none) :
    enqueueParams float64 id text world =
      (.raised "assignment to entry in nil map", world) := by
  simp only [enqueueParams, nil]
  rfl

theorem enqueueParams_map (id : JobId) (world : World)
    (decoded : unmarshalMap float64 text ≠ some none) :
    ∃ params, enqueueParams float64 id text world = (.returned params, world) := by
  simp only [enqueueParams]
  match result : unmarshalMap float64 text with
  | some (some fields) => exact ⟨_, rfl⟩
  | some none => exact absurd result decoded
  | none => exact ⟨_, rfl⟩

theorem failRun_settled_iff {errMsg : String} (inserted : JustInserted world row) :
    Settled ((failRun faults row errMsg later) world).2 row.id ↔
      Effective world.live faults.markFailed := by
  by_cases effective : Effective world.live faults.markFailed
  · rw [failRun_effective effective]
    exact iff_of_true settled_markFailed effective
  · rw [failRun_refused effective]
    exact iff_of_false (not_settled ⟨inserted.present, inserted.queued, inserted.unsent⟩) effective

theorem send_settled_iff {params : List (String × Json)} (inserted : JustInserted world row) :
    Settled (send faults row params later world).2 row.id ↔
      match faults.marshalErr with
      | some _ => Effective world.live faults.markFailed
      | none => Effective world.live faults.enqueue ∨
          Effective (world.live - 1) faults.markFailed := by
  cases marshal : faults.marshalErr with
  | some err =>
    simp only [send, marshal]
    exact failRun_settled_iff inserted
  | none =>
    simp only [send, marshal]
    by_cases landed : Effective world.live faults.enqueue
    · obtain ⟨reply, _, called⟩ := call_effective landed
      refine iff_of_true ?_ (.inl landed)
      rw [Program.bind_returned called]
      have sent : ∃ message ∈ (World.xadd ⟨row.id, row.jobType, .object params, row.submittedAt⟩
          { world with live := world.live - 1 }).requests.entries, message.jobId = row.id :=
        ⟨_, List.mem_append_right _ (List.mem_singleton_self _), rfl⟩
      cases reply with
      | none => exact settled_sent sent
      | some err =>
        apply settled_sent
        rw [failRun_entries]
        exact sent
    · obtain ⟨err, called⟩ := call_refused landed
      rw [Program.bind_returned called]
      have unsent : JustInserted { world with live := world.live - 1 } row :=
        ⟨inserted.present, inserted.queued, inserted.unsent⟩
      simpa [landed] using failRun_settled_iff unsent

/-- After the insert took effect, the run ends up settled in exactly these cases. -/
theorem submit_settled_iff (landed : Effective world.live faults.insert)
    (inserted : JustInserted (World.insert row.id row.jobType row.params row.submittedAt
      { world with live := world.live - 1 }) row) :
    Settled (submit float64 faults row text later world).2 row.id ↔
      Settles float64 faults text world.live := by
  obtain ⟨reply, answered, called⟩ := call_effective landed
  rw [submit, Program.bind_returned called]
  have left : (World.insert row.id row.jobType row.params row.submittedAt
      { world with live := world.live - 1 }).live = world.live - 1 := rfl
  generalize World.insert row.id row.jobType row.params row.submittedAt
    { world with live := world.live - 1 } = after at inserted left
  cases reply with
  | some err =>
    refine iff_of_false (not_settled inserted) fun settles => ?_
    simpa using answered.mpr settles.answered
  | none =>
    by_cases decoded : unmarshalMap float64 text = some none
    · refine iff_of_false ?_ fun settles => settles.decoded (unmarshalMap_nil.mp decoded)
      simp only [Program.bind_raised (enqueueParams_nil decoded)]
      exact not_settled inserted
    · obtain ⟨params, read⟩ := enqueueParams_map row.id after decoded
      simp only [Program.bind_returned read]
      rw [send_settled_iff inserted, left]
      constructor
      · intro recorded
        exact ⟨answered.mp rfl, fun null => decoded (unmarshalMap_nil.mpr null), recorded⟩
      · exact fun settles => settles.recorded

theorem justInserted_insert {id : JobId} {jobType : String} {params : Json}
    {now : Time} {live : Nat} (freshRow : ∀ run ∈ world.jobRuns, run.id ≠ id)
    (freshMessage : ∀ message ∈ world.requests.entries, message.jobId ≠ id) :
    JustInserted (World.insert id jobType params now { world with live := live })
      (JobRun.submitted id jobType params now) := by
  obtain ⟨table, grown⟩ : ∃ table, insertJobRun id jobType params now world.jobRuns = some table :=
    KeyedTable.insert_fresh freshRow
  refine ⟨?_, rfl, freshMessage⟩
  change _ ∈ (insertJobRun id jobType params now world.jobRuns).getD world.jobRuns
  rw [grown]
  exact (KeyedTable.mem_insert grown).mpr (.inr rfl)

/-- Whatever fails on the way, the inserted row has its message on the stream or is
failed when Run is over, unless the insert took effect and then its reply is lost,
the body is JSON null, or neither the XADD nor the MarkFailed takes effect. -/
theorem run_settled_iff (jsonb : List Char → Option Json) (id : JobId) (now : Time)
    (jobType : String)
    (body : List Char) (params : Json) (known : isKnownJobType jobType = true)
    (accepted : jsonb (orEmptyObject body) = some params)
    (freshRow : ∀ run ∈ world.jobRuns, run.id ≠ id)
    (freshMessage : ∀ message ∈ world.requests.entries, message.jobId ≠ id) :
    Settled (run float64 jsonb faults id now later jobType (some body) world).2 id ↔
      (Effective world.live faults.insert →
        Settles float64 faults (orEmptyObject body) world.live) := by
  have submitted : run float64 jsonb faults id now later jobType (some body) =
      submit float64 faults (JobRun.submitted id jobType params now) (orEmptyObject body)
        later := by
    simp [run, known, accepted]
  rw [submitted]
  by_cases landed : Effective world.live faults.insert
  · have settled : Settled (submit float64 faults (JobRun.submitted id jobType params now)
        (orEmptyObject body) later world).2 id ↔
        Settles float64 faults (orEmptyObject body) world.live :=
      submit_settled_iff landed (justInserted_insert freshRow freshMessage)
    exact settled.trans ⟨fun settles _ => settles, fun settles => settles landed⟩
  · obtain ⟨err, called⟩ := call_refused landed
    refine iff_of_true ?_ (absurd · landed)
    rw [submit, Program.bind_returned called]
    intro row present own
    exact absurd own (freshRow row present)

theorem call_ends {delivery : Delivery} {effect : World → World} : (call delivery effect).Ends := by
  intro world still
  unfold call at still
  split at still
  all_goals cases still

theorem failRun_ends {errMsg : String} : (failRun faults row errMsg later).Ends :=
  .bind call_ends fun _ => .pure

theorem send_ends {params : List (String × Json)} : (send faults row params later).Ends := by
  unfold send
  split
  · exact failRun_ends
  · refine .bind call_ends fun reply => ?_
    cases reply with
    | none => exact .pure
    | some err => exact failRun_ends

theorem enqueueParams_ends {id : JobId} : (enqueueParams float64 id text).Ends := by
  intro world still
  by_cases decoded : unmarshalMap float64 text = some none
  · rw [enqueueParams_nil decoded] at still
    cases still
  · obtain ⟨params, read⟩ := enqueueParams_map id world decoded
    rw [read] at still
    cases still

theorem submit_ends : (submit float64 faults row text later).Ends := by
  refine .bind call_ends fun reply => ?_
  cases reply with
  | some err => exact .pure
  | none =>
    exact .bind enqueueParams_ends fun _ => send_ends

theorem run_ends (jsonb : List Char → Option Json) (id : JobId) (now : Time) (jobType : String)
    (body : Option (List Char)) : (run float64 jsonb faults id now later jobType body).Ends := by
  unfold run
  split
  · exact .pure
  · split
    · exact .pure
    · split
      · exact .pure
      · exact submit_ends

end Submit

def rangeParams : Json := .object [("start", .string "2024-01"), ("months", .number 3 0)]

/-- The stream refuses the message; of the MarkFailed only the reply is lost, or it is refused as
well. -/
def refusing (markFailed : Delivery) : Faults := ⟨.confirmed, none, .refused, markFailed⟩

theorem run_settled_iff_refused :
    let after (markFailed : Delivery) : World :=
      (run (fun mantissa exponent => some (mantissa, exponent)) (Json.read 10000)
        (refusing markFailed) 0 1 2
        "ingest" (some rangeParams.write) ⟨KeyedTable.empty JobRun.id, GroupStream.empty, 3⟩).2
    Settled (after .lost) 0 ∧ ¬ Settled (after .refused) 0 := by
  intro after
  have read : Json.read 10000 (orEmptyObject rangeParams.write) = some rangeParams := by
    have body : orEmptyObject rangeParams.write = rangeParams.write ++ [] := by decide +kernel
    have short : rangeParams.write.length ≤ 10000 := by decide +kernel
    rw [body]
    exact Json.read_write rangeParams [] nofun 10000 short
  have decoded : Json.read 10000 (orEmptyObject rangeParams.write) ≠ some .null := by
    rw [read]
    nofun
  have settled (markFailed : Delivery) :=
    @run_settled_iff (fun mantissa exponent => some (mantissa, exponent))
    (refusing markFailed) 2 ⟨KeyedTable.empty JobRun.id, GroupStream.empty,
      3⟩ (Json.read 10000) 0 1 "ingest"
    rangeParams.write rangeParams (by decide) read (by simp) (by simp [GroupStream.empty])
  constructor
  · exact (settled .lost).mpr fun _ => ⟨rfl, decoded, .inr ⟨by decide, by decide⟩⟩
  · intro stays
    rcases ((settled .refused).mp stays ⟨by decide, by decide⟩).recorded with ⟨_,
      sent⟩ | ⟨_, marked⟩
    · exact sent rfl
    · exact marked rfl

theorem run_null_body : ¬ ∀ (float64 : Int → Int → Option (Int × Int))
    (jsonb : List Char → Option Json) (faults : Faults) (id : JobId) (now later : Time)
    (jobType : String) (body : List Char) (params : Json) (world : World),
    isKnownJobType jobType = true → jsonb (orEmptyObject body) = some params →
    (∀ run ∈ world.jobRuns, run.id ≠ id) →
    (∀ message ∈ world.requests.entries, message.jobId ≠ id) →
    Settled (run float64 jsonb faults id now later jobType (some body) world).2 id := by
  intro settled
  have fresh : ∀ run ∈ KeyedTable.empty JobRun.id, run.id ≠ 0 := by simp
  have unsent : ∀ message ∈ (GroupStream.empty : GroupStream Message).entries,
      message.jobId ≠ 0 := by
    simp [GroupStream.empty]
  have here : Settled (submit (fun mantissa exponent => some (mantissa, exponent))
      ⟨.confirmed, none, .confirmed, .confirmed⟩ (JobRun.submitted 0 "gold" .null 1) "null".toList 2
        ⟨KeyedTable.empty JobRun.id, GroupStream.empty, 3⟩).2 0 :=
    settled (fun mantissa exponent => some (mantissa, exponent)) (Json.read 10000)
      ⟨.confirmed, none, .confirmed, .confirmed⟩ 0 1 2 "gold" "null".toList .null
      ⟨KeyedTable.empty JobRun.id, GroupStream.empty, 3⟩ (by decide) rfl fresh unsent
  have landed : Effective 3 Delivery.confirmed := ⟨by decide, by decide⟩
  have settles := (submit_settled_iff landed (justInserted_insert fresh unsent)).mp here
  exact settles.decoded rfl

end OpenScale.ControlPlane
