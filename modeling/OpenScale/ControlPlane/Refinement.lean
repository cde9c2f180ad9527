import OpenScale.Library.Simulation
import OpenScale.ControlPlane.Submit
import OpenScale.Pipeline.Invariant

/-! Run as a part of the job queue: whatever goes wrong during a request, its handling
is a run of control-plane steps. -/

namespace OpenScale.ControlPlane

open OpenScale.Library OpenScale.Jobs OpenScale.Pipeline

/-- The queue and the handler see the same rows and the same stream. -/
def Agrees (s : State) (world : World) : Prop :=
  s.jobRuns = world.jobRuns ∧ s.requests = world.requests

/-- The Run request of this row is in this phase. -/
def Submits (row : JobRun) (phase : Phase) (s : State) : Prop :=
  ∃ submission, s.submission? row.id = some submission ∧ submission.phase = phase ∧
    submission.jobType = row.jobType ∧ submission.submittedAt = row.submittedAt

/-- Its XADD is issued with these params, and Redis may have executed it. -/
def Sends (row : JobRun) (params : Json) (s : State) : Prop :=
  ∃ submission, s.submission? row.id = some submission ∧ submission.phase = .enqueuing ∧
    submission.message? = some ⟨row.id, row.jobType, params, row.submittedAt⟩

def Finished (id : JobId) (s : State) : Prop :=
  ∀ submission, s.submission? id = some submission → submission.phase = .finished

/-- The id of a new request: neither a request nor a row has it. -/
def Unused (id : JobId) (s : State) : Prop :=
  id ∉ s.submitted ∧ ∀ run ∈ s.jobRuns, run.id ≠ id

section Submissions

variable {s : State} {world : World} {row : JobRun} {id : JobId} {phase : Phase} {message : Message}

theorem submission?_setSubmission {change : Submission → Submission}
    (keeps : ∀ submission, (change submission).id = submission.id) :
    (s.setSubmission id change).submission? id = (s.submission? id).map change := by
  have same : ((fun submission : Submission => submission.id == id) ∘ fun submission =>
      if submission.id == id then change submission else submission) =
        fun submission => submission.id == id := by
    funext submission
    simp only [Function.comp]
    split <;> simp [keeps]
  simp only [State.submission?, State.setSubmission, List.find?_map, same]
  cases found : s.submissions.find? fun submission => submission.id == id with
  | none => rfl
  | some submission =>
    have own := List.find?_some found
    exact congrArg some (if_pos own)

theorem found_setSubmission {change : Submission → Submission} {submission : Submission}
    (found : s.submission? id = some submission)
    (keeps : ∀ submission, (change submission).id = submission.id) :
    (s.setSubmission id change).submission? id = some (change submission) := by
  rw [submission?_setSubmission keeps, found]
  rfl

theorem submission?_none (fresh : id ∉ s.submitted) : s.submission? id = none := by
  apply List.find?_eq_none.mpr
  intro submission member own
  exact fresh (List.mem_map.mpr ⟨submission, member, by simpa using own⟩)

theorem finished_setPhase : Finished id (s.setPhase id .finished) := by
  intro submission found
  have written : (s.setPhase id .finished).submission? id = (s.submission? id).map _ :=
    submission?_setSubmission fun _ => rfl
  obtain ⟨_, _, rfl⟩ := Option.map_eq_some_iff.mp (written.symm.trans found)
  rfl

/-- The handler can stop anywhere, by a panic or a lost reply. -/
theorem abandons (id : JobId) (agrees : Agrees s world) :
    ∃ t, system.Leads s t ∧ Agrees t world ∧ Finished id t :=
  ⟨_, Controls.abandon.leads, agrees, finished_setPhase⟩

end Submissions

section Rules

variable {pre post : State → Prop} {raised : State → Prop} {delivery : Delivery}
  {effect : World → World}

theorem simulates_call (moves : ∀ s world, pre s → Agrees s world →
      ∃ t, system.Leads s t ∧ Agrees t (effect world) ∧ post t) :
    Simulates system Agrees pre (call delivery effect)
      (fun reply s => if reply = none then post s else pre s ∨ post s) raised := by
  intro s world start agrees
  unfold call
  split
  · exact ⟨s, .refl, agrees, .inl start⟩
  · rename_i live _
    exact moves s { world with live := live } start agrees
  · rename_i live _
    obtain ⟨t, path, agreed, done⟩ := moves s { world with live := live } start agrees
    exact ⟨t, path, agreed, .inr done⟩
  · exact ⟨s, .refl, agrees, .inl start⟩

theorem simulates_answer {response : Response} {id : JobId} :
    Simulates system Agrees pre (Pure.pure response : Handler Response)
      (fun _ => Finished id) raised :=
  .advance (fun _ _ _ agrees => abandons id agrees) (.pure fun _ finished => finished)

end Rules

section Handling

variable {float64 : Int → Int → Option (Int × Int)} {faults : Faults} {row : JobRun}
variable {text : List Char} {later : Time} {id : JobId}

/-- `InsertJobRun`, under an id that is not used yet. -/
theorem simulates_insert {jobType : String} {params : Json} {now : Time} {raised : State → Prop}
    (known : isKnownJobType jobType = true) :
    Simulates system Agrees (Unused id) (call faults.insert (World.insert id jobType params now))
      (fun reply s =>
        if reply = none then Submits (JobRun.submitted id jobType params now) .encoding s
        else Unused id s ∨
          Submits (JobRun.submitted id jobType params now) .encoding s) raised := by
  refine simulates_call ?_
  rintro s world ⟨fresh, free⟩ ⟨rows, stream⟩
  obtain ⟨table, grown⟩ : ∃ table, insertJobRun id jobType params now s.jobRuns = some table :=
    KeyedTable.insert_fresh free
  refine ⟨_, (Controls.submit known fresh grown).leads, ⟨?_, stream⟩, ?_⟩
  · change table = (insertJobRun id jobType params now world.jobRuns).getD world.jobRuns
    rw [← rows, grown]
    rfl
  · refine ⟨⟨id, jobType, now, known, none, .encoding⟩, ?_, rfl, rfl, rfl⟩
    have none_ := submission?_none fresh
    unfold State.submission? at none_ ⊢
    simp [none_, JobRun.submitted]

theorem simulates_markFailed {errMsg : String} {raised : State → Prop} :
    Simulates system Agrees (Submits row .failing) (failRun faults row errMsg later)
      (fun _ => Finished row.id) raised := by
  have records : Simulates system Agrees (Submits row .failing)
      (call faults.markFailed (World.markFailed row.id errMsg later))
      (fun reply s => if reply = none then Finished row.id s
        else Submits row .failing s ∨ Finished row.id s) raised := simulates_call ?_
  · exact .bind records fun _ => simulates_answer
  rintro s world ⟨submission, found, failing, _⟩ ⟨rows, stream⟩
  have moved : Controls s (.markFailed row.id errMsg later) _ := .markFailed found failing
  refine ⟨_, moved.leads, ⟨?_, stream⟩, finished_setPhase⟩
  change s.jobRuns.exec _ = world.jobRuns.exec _
  rw [rows]

/-- Between the insert and the XADD, the handler encodes the params. -/
theorem encodes {s : State} {world : World} (params : Json) (submits : Submits row .encoding s)
    (agrees : Agrees s world) : ∃ t, system.Leads s t ∧ Agrees t world ∧ Sends row params t := by
  obtain ⟨submission, found, encoding, type, time⟩ := submits
  have moved : Controls s (.send row.id params) _ := .send found encoding
  refine ⟨_, moved.leads, agrees,
    { submission with issued := some params, phase := .enqueuing }, ?_, rfl, ?_⟩
  · exact found_setSubmission found fun _ => rfl
  · simp [Submission.message?, type, time, (submission?_eq_some found).2]

/-- EnqueueJob: one XADD, or none. -/
theorem simulates_enqueue {params : Json} {raised : State → Prop} :
    Simulates system Agrees (Sends row params)
      (call faults.enqueue (World.xadd ⟨row.id, row.jobType, params, row.submittedAt⟩))
      (fun reply s => if reply = none
        then Sends row params s ∧ ∃ message ∈ s.requests.entries, message.jobId = row.id
        else Sends row params s ∨ Sends row params s ∧ ∃ message ∈ s.requests.entries,
        message.jobId = row.id)
      raised := by
  refine simulates_call ?_
  rintro s world ⟨submission, found, enqueuing, sent⟩ ⟨rows, stream⟩
  refine ⟨_, (Controls.xadd found sent).leads, ⟨rows, ?_⟩, ⟨submission, found, enqueuing, sent⟩, ?_⟩
  · change s.requests.add _ = world.requests.add _
    rw [stream]
  · exact ⟨_, List.mem_append_right _ (List.mem_singleton_self _), rfl⟩

theorem simulates_send {params : List (String × Json)} {raised : State → Prop} :
    Simulates system Agrees (Submits row .encoding) (send faults row params later)
      (fun _ => Finished row.id) raised := by
  unfold send
  split
  · rename_i err _
    refine .advance ?_ simulates_markFailed
    rintro s world ⟨submission, found, encoding, type, time⟩ agrees
    refine ⟨_, (Controls.encodeErr found encoding).leads, agrees,
      { submission with phase := .failing }, ?_⟩
    exact ⟨found_setSubmission found fun _ => rfl, rfl, type, time⟩
  · refine .advance (fun s world => encodes (.object params)) (.bind simulates_enqueue fun reply =>
      ?_)
    cases reply with
    | none =>
      refine .advance ?_ (.pure fun _ finished => finished)
      rintro s world ⟨⟨submission, found, enqueuing, sent⟩, added⟩ agrees
      exact ⟨_, (Controls.enqueueOk found enqueuing added).leads, agrees, finished_setPhase⟩
    | some err =>
      refine .advance ?_ simulates_markFailed
      intro s world tried agrees
      obtain ⟨submission, found, enqueuing, sent⟩ : Sends row (.object params) s :=
        tried.elim id And.left
      obtain ⟨_, _, same⟩ := Option.map_eq_some_iff.mp sent
      simp only [Message.mk.injEq] at same
      refine ⟨_, (Controls.enqueueErr found enqueuing).leads, agrees,
        { submission with phase := .failing }, ?_⟩
      exact ⟨found_setSubmission found fun _ => rfl, rfl, same.2.1, same.2.2.2⟩

theorem simulates_enqueueParams {pre : State → Prop} :
    Simulates system Agrees pre (enqueueParams float64 id text) (fun _ => pre) (Finished id) := by
  intro s world start agrees
  by_cases decoded : unmarshalMap float64 text = some none
  · rw [enqueueParams_nil decoded]
    exact abandons id agrees
  · obtain ⟨params, read⟩ := enqueueParams_map id world decoded
    rw [read]
    exact ⟨s, .refl, agrees, start⟩

theorem simulates_submit {jobType : String} {params : Json} {now : Time}
    (known : isKnownJobType jobType = true) :
    Simulates system Agrees (Unused id)
      (submit float64 faults (JobRun.submitted id jobType params now) text later)
      (fun _ => Finished id) (Finished id) := by
  refine .bind (simulates_insert known) fun reply => ?_
  cases reply with
  | some err => exact simulates_answer
  | none =>
    refine .bind simulates_enqueueParams fun _ => ?_
    exact simulates_send

theorem simulates_run (jsonb : List Char → Option Json) (now : Time) (jobType : String)
    (body : Option (List Char)) :
    Simulates system Agrees (Unused id) (run float64 jsonb faults id now later jobType body)
      (fun _ => Finished id) (Finished id) := by
  unfold run
  split
  · exact simulates_answer
  · rename_i known
    split
    · exact simulates_answer
    · split
      · exact simulates_answer
      · exact simulates_submit (by simpa using known)

end Handling

/-- From a state that the queue can reach, and whatever goes wrong during a request with
a new id, Run ends in a state that the queue can reach. -/
theorem run_reachable {float64 : Int → Int → Option (Int × Int)} {jsonb : List Char → Option Json}
    {faults : Faults} {id : JobId} {now later : Time} {jobType : String} {body : Option (List Char)}
    {s : State} {world : World} (reached : system.Reachable s) (fresh : id ∉ s.submitted)
    (agrees : Agrees s world) :
    ∃ t, system.Reachable t ∧ Finished id t ∧
      Agrees t (run float64 jsonb faults id now later jobType body world).2 := by
  have valid := reachable_invariant reached
  have unused : Unused id s := ⟨fresh, fun run member own => fresh (own ▸ valid.rows run member)⟩
  have simulates : Simulates system Agrees (Unused id)
      (run float64 jsonb faults id now later jobType body) (fun _ => Finished id) (Finished id) :=
    simulates_run jsonb now jobType body
  have ends : (run float64 jsonb faults id now later jobType body).Ends :=
    run_ends jsonb id now jobType body
  obtain ⟨t, path, agreed, stopped⟩ := simulates s world unused agrees
  refine ⟨t, reached.trans path, ?_, agreed⟩
  cases outcome : (run float64 jsonb faults id now later jobType body world).1 with
  | running => exact absurd outcome (ends world)
  | returned _ | raised _ =>
    rw [outcome] at stopped
    exact stopped

/-- The reply to the XADD is lost, so the run is marked failed with its message on the stream. -/
theorem run_reachable_lost : ∃ t, system.Reachable t ∧ Finished 0 t ∧
    Agrees t (run (fun mantissa exponent => some (mantissa, exponent)) (Json.read 10000)
      ⟨.confirmed, none, .lost, .confirmed⟩ 0 1 2 "gold" (some [])
        ⟨KeyedTable.empty JobRun.id, GroupStream.empty, 3⟩).2 := by
  have fresh : 0 ∉ Pipeline.init.submitted := List.not_mem_nil
  exact run_reachable .refl fresh ⟨rfl, rfl⟩

end OpenScale.ControlPlane
