import OpenScale.RunAll.Order

/-! What the frontend reads from the frames that the job socket sends: the state that the relay
means by them. -/

namespace OpenScale.RunAll

open OpenScale.Library OpenScale.Jobs

/-- A field that is left out when it is nil. -/
def optional (name : String) (value : Option Json) : List (String × Json) :=
  value.toList.map fun json => (name, json)

variable (formatTime : Time → String)

/-- `jobs.Run`, as it is marshalled. -/
def marshalRun (run : JobRun) : Json := .object <|
  [("id", .string (toString run.id)), ("jobType", .string run.jobType), ("params", run.params),
    ("status", .string run.status.text), ("submittedAt", .string (formatTime run.submittedAt))] ++
  optional "startedAt" (run.startedAt.map fun time => .string (formatTime time)) ++
  optional "finishedAt" (run.finishedAt.map fun time => .string (formatTime time)) ++
  optional "error" (run.error.map .string) ++ optional "logOutput" (run.logOutput.map .string) ++
  optional "rowsProcessed" (run.rowsProcessed.map fun rows => .number rows 0)

/-- `redis.JobEvent`, as it is marshalled. -/
def marshalEvent (event : JobEvent) : Json :=
  let (type, status, line) := match event.body with
    | .status status => ("status", status.text, "")
    | .log line => ("log", "", line)
  .object <| [("job_id", .string (toString event.jobId)), ("type", .string type)] ++
    Query.omitempty status.isEmpty "status" (.string status) ++
    Query.omitempty line.isEmpty "line" (.string line) ++ [("at", .string event.sentAt)]

inductive Sends : Relay.Frame → List Char → Prop where
  | run (run : JobRun) : Sends (.run run.status) (marshalRun formatTime run).write
  | event (event : JobEvent) : Sends (.event event) (marshalEvent event).write

variable {formatTime} {frame : Relay.Frame} {text : List Char} {status : Status}

theorem lookup_optional {name other : String} (apart : other ≠ name) (value : Option Json) :
    (optional name value).reverse.lookup other = none := by
  cases value with
  | none => rfl
  | some json => simp [optional, List.lookup, beq_false_of_ne apart]

theorem lookup_omitempty {name other : String} (apart : other ≠ name) (isEmpty : Bool)
    (value : Json) : (Query.omitempty isEmpty name value).reverse.lookup other = none := by
  cases isEmpty <;> simp [Query.omitempty, List.lookup, beq_false_of_ne apart]

theorem includes_text (status : Status) :
    includes (.string status.text) = (some status).filter Relay.isFinal := by
  cases status with
  | other text unlisted =>
    have missing : Relay.terminalStates.find? (fun status => status.text = text) = none := by
      rw [List.find?_eq_none]
      intro status listed same
      simp only [Relay.terminalStates, List.mem_cons, List.not_mem_nil, or_false] at listed
      have known : status.text ∈ statusTexts := by
        rcases listed with rfl | rfl | rfl | rfl <;> decide
      exact unlisted (of_decide_eq_true same ▸ known)
    have running : Relay.isFinal (.other text unlisted) = false := by
      simp [Relay.isFinal, Relay.terminalStates]
    exact missing.trans (Option.filter_eq_none_iff.mpr fun _ same => by
      cases same
      simp [running]).symm
  | _ => rfl

theorem terminalState_write {value : Json} {state : Decoded}
    (found : stateOf (.ofJson value) = some state) :
    terminalState value.write = includes state := by
  simp only [terminalState, Decoded.parse_write, bind, Option.bind_some, found]

theorem terminalState_undefined {value : Json} (missing : stateOf (.ofJson value) = none) :
    terminalState value.write = none := by
  simp only [terminalState, Decoded.parse_write, bind, Option.bind_some, missing, Option.bind_none]

theorem terminalState_sends (sends : Sends formatTime frame text) :
    terminalState text = frame.state?.filter Relay.isFinal := by
  cases sends with
  | run run =>
    have untyped : (marshalRun formatTime run).property "type" = none := by
      simp [Json.property, marshalRun, Json.field?, List.lookup_append,
        lookup_optional, List.lookup]
    have told : (marshalRun formatTime run).property "status" = some (.string run.status.text) := by
      simp [Json.property, marshalRun, Json.field?, List.lookup_append,
        lookup_optional, List.lookup]
    have read : stateOf (.ofJson (marshalRun formatTime run)) = some (.string run.status.text) := by
      simp only [stateOf, Decoded.property_ofJson, untyped, told, Option.map_none, Option.map_some,
        Decoded.ofJson_string]
    exact (terminalState_write read).trans (includes_text run.status)
  | event event =>
    obtain ⟨jobId, body, sentAt⟩ := event
    cases body with
    | status status =>
      have typed : (marshalEvent ⟨jobId, .status status, sentAt⟩).property "type" =
          some (.string "status") := by
        simp [Json.property, marshalEvent, Json.field?, List.lookup_append,
          lookup_omitempty, List.lookup]
      have read : stateOf (.ofJson (marshalEvent ⟨jobId, .status status, sentAt⟩)) =
          if status.text.isEmpty then none else some (.string status.text) := by
        simp only [stateOf, Decoded.property_ofJson, typed, Option.map_some,
          Decoded.ofJson_string, if_true]
        cases empty : status.text.isEmpty <;>
          simp [Json.property, marshalEvent, Json.field?, List.lookup, Query.omitempty, empty]
      have final := includes_text status
      by_cases empty : status.text.isEmpty = true
      · rw [if_pos empty] at read
        rw [String.isEmpty_iff.mp empty] at final
        exact (terminalState_undefined read).trans final
      · rw [if_neg empty] at read
        exact (terminalState_write read).trans final
    | log line =>
      have typed : (marshalEvent ⟨jobId, .log line, sentAt⟩).property "type" =
          some (.string "log") := by
        simp [Json.property, marshalEvent, Json.field?, List.lookup_append,
          lookup_omitempty, List.lookup]
      exact terminalState_undefined (by simp [stateOf, Decoded.property_ofJson, typed])

theorem firstTerminal_eq_waitForRunTerminal {frames : List Relay.Frame} {stage : Stage}
    (sends : List.Forall₂ (Sends formatTime) frames stage.messages) :
    stage.firstTerminal = Relay.waitForRunTerminal frames := by
  unfold Stage.firstTerminal Relay.waitForRunTerminal
  generalize stage.messages = messages at sends
  induction sends with
  | nil => rfl
  | @cons frame text _ _ head _ ih =>
    rw [List.findSome?_cons, terminalState_sends head, ih]
    cases told : frame.state? with
    | none =>
      rw [List.filterMap_cons_none told]
      rfl
    | some status =>
      rw [List.filterMap_cons_some told, List.find?_cons]
      cases final : Relay.isFinal status <;> simp only [Option.filter, final] <;> rfl

def watchedStage : Stage where
  jobType := "gold"
  params := []
  run := some 0
  messages := [(marshalRun (fun _ => "") (JobRun.submitted 0 "gold" (.object []) 1)).write,
    (marshalEvent ⟨0, .status .succeeded, ""⟩).write]

theorem firstTerminal_eq_waitForRunTerminal_watched :
    watchedStage.firstTerminal = Relay.waitForRunTerminal
      [.run .queued, .event ⟨0, .status .succeeded, ""⟩] := by
  have sends : List.Forall₂ (Sends fun _ => "") [.run .queued, .event ⟨0, .status .succeeded, ""⟩]
      watchedStage.messages :=
        .cons (.run (.submitted 0 "gold" (.object []) 1)) (.cons (.event _) .nil)
  exact firstTerminal_eq_waitForRunTerminal sends

end OpenScale.RunAll
