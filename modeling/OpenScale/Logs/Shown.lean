import OpenScale.Library.Segments
import OpenScale.Logs.Emitted
import OpenScale.RunAll.Frames

/-! `useJobRunEvents`: the log lines that it collects from the frames of the job socket, for a
client that was there while they were reported, and for one that comes when the run is over. -/

namespace OpenScale.Logs

open OpenScale.Library OpenScale.Jobs OpenScale.Worker OpenScale.RunAll

/-- A line that came without its text is undefined. -/
structure JobRunEventsState where
  state : Option Decoded
  logLines : List (Option Decoded)

inductive Action where
  | reset
  | backfill (state : Option Decoded) (logOutput : Option String)
  | status (state : Option Decoded)
  | log (line : Option Decoded)

/-- `split('\n')` -/
def splitLines (text : String) : List String := (text.toList.splitOn '\n').map String.ofList

/-- An empty log output is as falsy as a missing one. -/
def reducer (current : JobRunEventsState) : Action → JobRunEventsState
  | .reset => ⟨none, []⟩
  | .backfill state logOutput =>
    ⟨state, match logOutput with
      | none => []
      | some text => if text.isEmpty then [] else (splitLines text).map fun line =>
        some (.string line)⟩
  | .status state => { current with state := state }
  | .log line => { current with logLines := current.logLines ++ [line] }

/-- `data.logOutput ?? undefined`, which is a text wherever it is there. -/
def logOutputOf (data : Decoded) : Option String :=
  match data.property "logOutput" with
  | some (.string text) => some text
  | _ => none

def actionOf (text : List Char) : Option Action := do
  let data ← Decoded.parse text
  match data.property "type" with
  | some (.string type) =>
    if type = "status" then return .status (data.property "status")
    else if type = "log" then return .log (data.property "line")
    else none
  | some _ => none
  | none => return .backfill (data.property "status") (logOutputOf data)

def onMessage (current : JobRunEventsState) (text : List Char) : JobRunEventsState :=
  match actionOf text with
  | none => current
  | some action => reducer current action

/-- The hook after these messages on its socket. -/
def useJobRunEvents (messages : List (List Char)) : JobRunEventsState :=
  messages.foldl onMessage (reducer ⟨none, []⟩ .reset)

variable (formatTime : Time → String)

/-- `HandleJobWS`: the run as it was found, and the events that came after. -/
def messages (run : JobRun) (events : List JobEvent) : List (List Char) :=
  (marshalRun formatTime run).write :: events.map fun event => (marshalEvent event).write

def shownLines (run : JobRun) (events : List JobEvent) : List (Option Decoded) :=
  (useJobRunEvents (messages formatTime run events)).logLines

/-- What a line looks like: one that is undefined like one that is empty. -/
def rendered : Option Decoded → String
  | some (.string text) => text
  | _ => ""

def lineOf (event : JobEvent) : Option String :=
  match event.body with
  | .status _ => none
  | .log line => some line

variable {formatTime} {run : JobRun} {event : JobEvent} {events : List JobEvent}
  {lines : List String}

/-- `omitempty` leaves an empty line out. -/
def sentLine (line : String) : Option Decoded := if line.isEmpty then none else some (.string line)

theorem actionOf_run : actionOf (marshalRun formatTime run).write =
    some (.backfill (some (.string run.status.text)) run.logOutput) := by
  have untyped : (Decoded.ofJson (marshalRun formatTime run)).property "type" = none := by
    simp [Decoded.property_ofJson, Json.property, marshalRun, Json.field?, List.lookup_append,
      lookup_optional, List.lookup]
  have told : (Decoded.ofJson (marshalRun formatTime run)).property "status" =
      some (.string run.status.text) := by
    simp [Decoded.property_ofJson, Json.property, marshalRun, Json.field?, List.lookup_append,
      lookup_optional, List.lookup]
  have field : (Decoded.ofJson (marshalRun formatTime run)).property "logOutput" =
      ((RunAll.optional "logOutput" (run.logOutput.map .string)).reverse.lookup "logOutput").map
        .ofJson := by
    simp [Decoded.property_ofJson, Json.property, marshalRun, Json.field?, List.lookup_append,
      lookup_optional, List.lookup]
  have output : logOutputOf (.ofJson (marshalRun formatTime run)) = run.logOutput := by
    rw [logOutputOf, field]
    cases run.logOutput with
    | none => rfl
    | some text => rfl
  simp only [actionOf, Decoded.parse_write, bind, Option.bind_some, untyped, told, output]
  rfl

theorem actionOf_event : actionOf (marshalEvent event).write = some (match event.body with
    | .status status => .status (if status.text.isEmpty then none else some (.string status.text))
    | .log line => .log (sentLine line)) := by
  obtain ⟨jobId, body, sentAt⟩ := event
  cases body with
  | status status =>
    have typed : (Decoded.ofJson (marshalEvent ⟨jobId, .status status, sentAt⟩)).property "type" =
        some (.string "status") := by
      simp [Decoded.property_ofJson, Json.property, marshalEvent, Json.field?, List.lookup_append,
        lookup_omitempty, List.lookup]
    have told : (Decoded.ofJson (marshalEvent ⟨jobId, .status status, sentAt⟩)).property "status" =
        if status.text.isEmpty then none else some (.string status.text) := by
      cases empty : status.text.isEmpty <;>
        simp [Decoded.property_ofJson, Json.property, marshalEvent, Json.field?, List.lookup,
          Query.omitempty, empty]
    simp only [actionOf, Decoded.parse_write, bind, Option.bind_some, typed, told]
    rfl
  | log line =>
    have typed : (Decoded.ofJson (marshalEvent ⟨jobId, .log line, sentAt⟩)).property "type" =
        some (.string "log") := by
      simp [Decoded.property_ofJson, Json.property, marshalEvent, Json.field?, List.lookup_append,
        lookup_omitempty, List.lookup]
    have told : (Decoded.ofJson (marshalEvent ⟨jobId, .log line, sentAt⟩)).property "line" =
        sentLine line := by
      cases empty : line.isEmpty <;>
        simp [Decoded.property_ofJson, Json.property, marshalEvent, Json.field?, List.lookup,
          Query.omitempty, sentLine, empty]
    simp only [actionOf, Decoded.parse_write, bind, Option.bind_some, typed, told]
    rfl

theorem shownLines_live (unfinished : run.logOutput = none) (events : List JobEvent) :
    shownLines formatTime run events = (events.filterMap lineOf).map sentLine := by
  have events_foldl (events : List JobEvent) (current : JobRunEventsState) :
      ((events.map fun event => (marshalEvent event).write).foldl onMessage current).logLines =
        current.logLines ++ (events.filterMap lineOf).map sentLine := by
    induction events generalizing current with
    | nil => exact (List.append_nil _).symm
    | cons event events ih =>
      rw [List.map_cons, List.foldl_cons, ih, onMessage, actionOf_event,
        List.filterMap_cons, lineOf]
      cases event.body with
      | status status => rfl
      | log line => exact List.append_assoc ..
  rw [shownLines, useJobRunEvents, messages, List.foldl_cons, events_foldl, onMessage,
    actionOf_run, unfinished]
  rfl

theorem shownLines_stored {text : String} (stored : run.logOutput = some text) :
    shownLines formatTime run [] =
      if text.isEmpty then [] else (splitLines text).map fun line => some (.string line) := by
  rw [shownLines, useJobRunEvents, messages, List.foldl_cons, onMessage, actionOf_run, stored]
  rfl

theorem splitLines_join (some_ : lines ≠ []) (single : ∀ line ∈ lines, '\n' ∉ line.toList) :
    splitLines ("\n".intercalate lines) = lines := by
  have split : (("\n".intercalate lines).toList.splitOn '\n') = lines.map String.toList := by
    rw [String.toList_intercalate]
    refine List.splitOn_intercalate '\n' ?_ (by simpa using some_)
    intro text member
    obtain ⟨line, listed, rfl⟩ := List.mem_map.mp member
    exact single line listed
  rw [splitLines, split, List.map_map]
  simp

theorem single_of_mem_splitLines {text line : String} (member : line ∈ splitLines text) :
    '\n' ∉ line.toList := by
  obtain ⟨part, listed, rfl⟩ := List.mem_map.mp member
  rw [List.splitOn_eq_splitOnP] at listed
  intro newline
  rw [String.toList_ofList] at newline
  exact absurd (clean_of_mem_splitOnP listed '\n' newline) (by simp)

theorem join_isEmpty (lines : List String) : ("\n".intercalate lines).isEmpty = true ↔
    lines = [] ∨ lines = [""] := by
  rw [String.isEmpty_iff]
  match lines with
  | [] => exact iff_of_true rfl (.inl rfl)
  | [line] => simp
  | first :: second :: rest =>
    refine iff_of_false (fun empty => ?_) (by simp)
    have nothing := congrArg String.toList empty
    rw [String.toList_intercalate] at nothing
    simp [List.intercalate_cons_cons] at nothing

/-- The two clients agree on the values exactly when the lines are neither empty nor broken. -/
theorem live_eq_stored (lines : List String) :
    lines.map sentLine = (if ("\n".intercalate lines).isEmpty then []
      else (splitLines ("\n".intercalate lines)).map fun line => some (.string line)) ↔
      ∀ line ∈ lines, line ≠ "" ∧ '\n' ∉ line.toList := by
  constructor
  · intro same line member
    have filled : line ≠ "" := by
      rintro rfl
      have missing : none ∈ lines.map sentLine := List.mem_map.mpr ⟨"", member, rfl⟩
      rw [same] at missing
      split at missing
      · cases missing
      · simp at missing
    refine ⟨filled, ?_⟩
    have sent : some (.string line) ∈ lines.map sentLine :=
      List.mem_map.mpr ⟨line, member, by simp [sentLine, String.isEmpty_iff, filled]⟩
    rw [same] at sent
    split at sent
    · cases sent
    · obtain ⟨other, split, text⟩ := List.mem_map.mp sent
      cases text
      exact single_of_mem_splitLines split
  · intro plain
    have sent : lines.map sentLine = lines.map fun line => some (.string line) := by
      refine List.map_congr_left fun line member => ?_
      simp [sentLine, String.isEmpty_iff, (plain line member).1]
    rw [sent]
    by_cases none : lines = []
    · subst none
      rfl
    · have filled : ¬("\n".intercalate lines).isEmpty = true := by
        rw [join_isEmpty]
        rintro (empty | rfl)
        · exact none empty
        · exact (plain "" (List.mem_singleton_self _)).1 rfl
      rw [if_neg filled, splitLines_join none fun line member => (plain line member).2]

/-- On the screen an empty line does not matter, unless it is the only one. -/
theorem rendered_live_eq_stored (lines : List String) :
    (lines.map sentLine).map rendered = (if ("\n".intercalate lines).isEmpty then []
      else (splitLines ("\n".intercalate lines)).map fun line => some (.string line)).map rendered ↔
      lines ≠ [""] ∧ ∀ line ∈ lines, '\n' ∉ line.toList := by
  have live : (lines.map sentLine).map rendered = lines := by
    rw [List.map_map]
    refine (List.map_congr_left fun line _ => ?_).trans (List.map_id lines)
    by_cases empty : line = ""
    · subst empty
      rfl
    · simp [sentLine, String.isEmpty_iff, empty, rendered]
  have texts (lines : List String) :
      (lines.map fun line => some (Decoded.string line)).map rendered = lines := by
    rw [List.map_map]
    exact List.map_id lines
  rw [live]
  split
  · rename_i empty
    rcases (join_isEmpty lines).mp empty with rfl | rfl
    · simp
    · simp
  · rename_i filled
    rw [join_isEmpty, not_or] at filled
    rw [texts]
    constructor
    · intro same
      refine ⟨filled.2, fun line member => ?_⟩
      rw [same] at member
      exact single_of_mem_splitLines member
    · intro plain
      exact (splitLines_join filled.1 plain.2).symm

section Agreement

variable {Outside : Type}

/-- For a run that has ended, a client that got every event and one that came later show the same
values exactly when no reported line is empty or has a line break, and the same texts exactly when
none has a line break and the log is not a single empty line. A text that Postgres refuses, such as
one with a NUL, leaves nothing stored. -/
theorem logs_agree_iff (services : Services Outside) (onLogLine : OnLogLine Outside)
    (job : Job) (params : Json) (outside after : Outside) (result : Result) (emitted : List String)
    (ran : jobHandler (besides services) job params (emitting onLogLine) ([], outside) =
      (.returned result, (emitted, after)))
    (first finished : JobRun) (unfinished : first.logOutput = none)
    (stored : finished.logOutput = some result.report.logOutput) (events : List JobEvent)
    (received : events.filterMap lineOf = emitted) (formatTime : Time → String) :
    (shownLines formatTime first events = shownLines formatTime finished [] ↔
      ∀ line ∈ emitted, line ≠ "" ∧ '\n' ∉ line.toList) ∧
    ((shownLines formatTime first events).map rendered =
      (shownLines formatTime finished []).map rendered ↔
      emitted ≠ [""] ∧ ∀ line ∈ emitted, '\n' ∉ line.toList) := by
  have lines : result.logLines = emitted :=
    jobHandler_settles job params ([], outside) result _ rfl ran
  rw [shownLines_live unfinished, shownLines_stored stored, received, Result.report, lines]
  exact ⟨live_eq_stored emitted, rendered_live_eq_stored emitted⟩

def winter : Services Unit :=
  { emptyLake with
    builtins := { emptyLake.builtins with
      str := fun dict => match dict with
        | .object [(name, .string text)] => "\x7b'" ++ name ++ "': '" ++ text ++ "'\x7d"
        | _ => "\x7b\x7d" }
    bronzePeriods := pure [(2023, 12), (2024, 1), (2024, 2)]
    processPeriod := fun year month =>
      pure ⟨.object [("period", .string (toString year ++ "-" ++ toString month))], month⟩ }

def winterLines : List String :=
  ["\x7b'period': '2023-12'\x7d", "\x7b'period': '2024-1'\x7d", "\x7b'period': '2024-2'\x7d"]

/-- The run is found when it starts, and its lines come between the events about its status. -/
def winterEvents : List JobEvent :=
  ⟨0, .status .running, ""⟩ :: winterLines.map (fun line => ⟨0, .log line, ""⟩) ++
    [⟨0, .status .succeeded, ""⟩]

def brokenSpark : Services Unit :=
  { emptyLake with
    bronzePeriods :=
      raiseError "Py4JJavaError" "An error occurred while calling o1.load.\nJob aborted" }

def quietly : OnLogLine Unit := fun _ => pure ⟨⟩

def withLog (logLines : List String) : JobRun :=
  { JobRun.submitted 0 "silver" (.object []) 0 with logOutput := some ("\n".intercalate logLines) }

theorem logs_agree_iff_winter :
    let first := JobRun.submitted 0 "silver" (.object []) 0
    shownLines (fun _ => "") first winterEvents = shownLines (fun _ => "")
      (withLog winterLines) [] ∧ (shownLines (fun _ => "") first winterEvents).map rendered =
      (shownLines (fun _ => "") (withLog winterLines) []).map rendered := by
  intro first
  obtain ⟨values, texts⟩ := logs_agree_iff winter quietly .silver (.object []) () ()
    ⟨.succeeded, none, winterLines, some 15,
      none⟩ winterLines rfl first (withLog winterLines) rfl rfl winterEvents rfl
    (fun _ => "")
  have plain : ∀ line ∈ winterLines, line ≠ "" ∧ '\n' ∉ line.toList := by decide +kernel
  exact ⟨values.mpr plain, texts.mpr ⟨by decide, fun line member => (plain line member).2⟩⟩

theorem traceback_splits :
    ¬∀ (services : Services Unit) (onLogLine : OnLogLine Unit) (job : Job) (params : Json)
    (result : Result) (emitted : List String) (first finished : JobRun) (events : List JobEvent)
    (formatTime : Time → String),
    jobHandler (besides services) job params (emitting onLogLine)
      ([], ()) = (.returned result, (emitted, ())) →
    first.logOutput = none → finished.logOutput = some result.report.logOutput →
    events.filterMap lineOf = emitted →
    shownLines formatTime first events = shownLines formatTime finished [] := by
  intro all
  let line := "Py4JJavaError: An error occurred while calling o1.load.\nJob aborted"
  have same :=
    all brokenSpark quietly .silver (.object []) ⟨.failed, some line, [line], none, none⟩ [line]
      (JobRun.submitted 0 "silver" (.object []) 0) (withLog [line]) [⟨0, .log line, ""⟩]
      (fun _ => "") rfl rfl rfl rfl
  rw [shownLines_live rfl, shownLines_stored rfl] at same
  exact absurd (congrArg List.length same) (by decide +kernel)

end Agreement

end OpenScale.Logs
