import OpenScale.RunAll.System

/-! Run All never runs ahead: a stage is triggered only after the run of the stage before it
has succeeded, in whole or in part. -/

namespace OpenScale.RunAll

open OpenScale.Library OpenScale.Library.TransitionSystem OpenScale.Jobs

variable {s s' : State} {event : Event} {invocation : Invocation} {stage : Stage} {status : Status}

def Invocation.calls (invocation : Invocation) : List Stage :=
  invocation.past ++ [invocation.current]

def Event.isFailure : Event → Bool
  | .triggerErr _ | .socketErr _ | .socketClosed _ => true
  | _ => false

/-- The message is on the socket of the stage at hand. -/
def Invocation.hear (invocation : Invocation) (text : List Char) : Invocation :=
  { invocation with
    current := { invocation.current with messages := invocation.current.messages ++ [text] } }

def Invocation.advance (invocation : Invocation) (jobType : String) : Invocation :=
  { invocation with
    past := invocation.calls
    current := trigger invocation.range jobType
    await := .trigger }

inductive Runs (s : State) : Event → State → Prop where
  | runAll (range : List (String × String)) : Runs s (.runAll range) { s with
      phase := .running 0
      invocations := s.invocations ++ [⟨range, [], trigger range "ingest", .trigger⟩] }
  | triggered {i : Nat} {invocation : Invocation} (run : JobId)
      (found : s.invocations[i]? = some invocation) (waiting : invocation.await = .trigger) :
      Runs s (.triggered i run) { s.set i { invocation with
        current := { invocation.current with run := some run }
        await := .terminal } with selectedRunId := some run }
  | failed {i : Nat} {event : Event} {invocation : Invocation} {await : Await}
      (failure : event.isFailure = true) (found : s.invocations[i]? = some invocation)
      (pending : invocation.await.isPending = true) (dead : await = .thrown ∨ await = .forever) :
      Runs s event (s.set i { invocation with await := await })
  | heard {i : Nat} {invocation : Invocation} {text : List Char}
      (found : s.invocations[i]? = some invocation) (waiting : invocation.await = .terminal)
      (running : terminalState text = none) :
      Runs s (.message i text) (s.set i (invocation.hear text))
  | stopped {i : Nat} {invocation : Invocation} {text : List Char} {status : Status}
      (found : s.invocations[i]? = some invocation) (waiting : invocation.await = .terminal)
      (ended : terminalState text = some status) (stops : isStopping status = true) :
      Runs s (.message i text) { s.set i { invocation.hear text with await := .returned } with
        phase := .stopped invocation.past.length invocation.current.jobType status }
  | advanced {i : Nat} {invocation : Invocation} {text : List Char} {status : Status}
    {jobType : String}
      (found : s.invocations[i]? = some invocation) (waiting : invocation.await = .terminal)
      (ended : terminalState text = some status) (passes : isStopping status = false)
      (more : pipelineOrder[invocation.past.length + 1]? = some jobType) :
      Runs s (.message i text) { s.set i ((invocation.hear text).advance jobType) with
        phase := .running (invocation.past.length + 1) }
  | finished {i : Nat} {invocation : Invocation} {text : List Char} {status : Status}
      (found : s.invocations[i]? = some invocation) (waiting : invocation.await = .terminal)
      (ended : terminalState text = some status) (passes : isStopping status = false)
      (last : pipelineOrder[invocation.past.length + 1]? = none) :
      Runs s (.message i text) { s.set i { invocation.hear text with await := .returned } with
        phase := .done }
  | doneReset (done : s.phase = .done) : Runs s .doneReset { s with phase := .idle }
  | reset : Runs s .reset { s with phase := .idle }

theorem runs (taken : system.step s event = some s') : Runs s event s' := by
  cases event with
  | runAll range =>
    cases taken
    exact .runAll range
  | triggered i run =>
    simp only [system, step] at taken
    split at taken
    · rename_i found
      cases taken
      exact .triggered run found rfl
    · cases taken
  | triggerErr i =>
    simp only [system, step] at taken
    split at taken
    · rename_i found
      cases taken
      exact .failed rfl found rfl (.inl rfl)
    · cases taken
  | message i text =>
    simp only [system, step] at taken
    split at taken
    · rename_i found
      cases taken
      unfold State.onMessage
      cases ended : terminalState text with
      | none => exact .heard found rfl ended
      | some status =>
        simp only [State.conclude]
        split
        · rename_i stops
          exact .stopped found rfl ended stops
        · rename_i passes
          split
          · rename_i more
            exact .advanced found rfl ended (Bool.eq_false_iff.mpr passes) more
          · rename_i last
            exact .finished found rfl ended (Bool.eq_false_iff.mpr passes) last
    · cases taken
  | socketErr i =>
    simp only [system, step] at taken
    split at taken
    · rename_i found
      cases taken
      exact .failed rfl found rfl (.inl rfl)
    · cases taken
  | socketClosed i =>
    simp only [system, step] at taken
    split at taken
    · rename_i found
      cases taken
      exact .failed rfl found rfl (.inr rfl)
    · cases taken
  | doneReset =>
    simp only [system, step] at taken
    split at taken
    · rename_i done
      cases taken
      exact .doneReset done
    · cases taken
  | reset =>
    cases taken
    exact .reset

/-- The first terminal status of the run of this stage lets the chain go on. -/
def Stage.Succeeded (stage : Stage) : Prop := ∃ run status,
  stage.run = some run ∧ stage.firstTerminal = some status ∧
  (status = .succeeded ∨ status = .partialSuccess)

structure Invocation.Sound (invocation : Invocation) : Prop where
  order : invocation.calls.map Stage.jobType = pipelineOrder.take invocation.calls.length
  past : ∀ stage ∈ invocation.past, stage.Succeeded
  unanswered : invocation.await = .trigger → invocation.current.messages = []
  open_ : invocation.await = .terminal →
    invocation.current.run.isSome = true ∧ invocation.current.firstTerminal = none

section Steps

variable {text : List Char} {jobType : String} {i : Nat}

theorem isFinal_of_terminalState (ended : terminalState text = some status) :
    status ∈ Relay.terminalStates := by
  obtain ⟨data, _, read⟩ := Option.bind_eq_some_iff.mp ended
  obtain ⟨state, _, listed⟩ := Option.bind_eq_some_iff.mp read
  unfold includes at listed
  split at listed
  · exact List.mem_of_find?_eq_some listed
  · cases listed

theorem succeeded_of_passes (final : status ∈ Relay.terminalStates)
    (passes : isStopping status = false) : status = .succeeded ∨ status = .partialSuccess := by
  simp only [Relay.terminalStates, List.mem_cons, List.not_mem_nil, or_false] at final
  rcases final with rfl | rfl | rfl | rfl
  · exact .inl rfl
  · exact .inr rfl
  · cases passes
  · cases passes

theorem firstTerminal_hear (running : invocation.current.firstTerminal = none) :
    (invocation.hear text).current.firstTerminal = terminalState text := by
  unfold Stage.firstTerminal at running ⊢
  simp only [Invocation.hear, List.findSome?_append, running, Option.none_or,
    List.findSome?_singleton]

theorem Invocation.Sound.advance (sound : invocation.Sound) (waiting : invocation.await = .terminal)
    (ended : terminalState text = some status) (passes : isStopping status = false)
    (more : pipelineOrder[invocation.past.length + 1]? = some jobType) :
    ((invocation.hear text).advance jobType).Sound := by
  obtain ⟨opened, running⟩ := sound.open_ waiting
  refine ⟨?_, ?_, fun _ => rfl, nofun⟩
  · have order := sound.order
    simp only [Invocation.calls, List.map_append, List.length_append, List.length_singleton,
      List.map_singleton] at order
    simp only [Invocation.calls, Invocation.advance, Invocation.hear, List.map_append,
      List.length_append,
      List.length_singleton, List.map_singleton, trigger, order, List.take_add_one, more]
    rfl
  · intro stage member
    rcases List.mem_append.mp member with old | new
    · exact sound.past stage old
    · cases List.mem_singleton.mp new
      obtain ⟨run, same⟩ := Option.isSome_iff_exists.mp opened
      exact ⟨run, status, same, (firstTerminal_hear running).trans ended,
        succeeded_of_passes (isFinal_of_terminalState ended) passes⟩

theorem Invocation.Sound.settle {new : Invocation} (sound : invocation.Sound)
    (past : new.past = invocation.past) (jobType : new.current.jobType = invocation.current.jobType)
    (unanswered : new.await = .trigger → new.current.messages = [])
    (open_ : new.await = .terminal → new.current.run.isSome = true ∧
      new.current.firstTerminal = none) : new.Sound := by
  refine ⟨?_, past ▸ sound.past, unanswered, open_⟩
  have order := sound.order
  simp only [Invocation.calls, List.map_append, List.length_append, List.length_singleton,
    List.map_singleton] at order ⊢
  rw [past, jobType, order]

theorem sound_step (sound : ∀ invocation ∈ s.invocations, invocation.Sound)
    (taken : system.step s event = some s') : ∀ invocation ∈ s'.invocations, invocation.Sound := by
  have replaced : ∀ {i : Nat} {new : Invocation}, new.Sound →
      ∀ invocation ∈ s.invocations.set i new, invocation.Sound := by
    intro i new own invocation member
    rcases List.mem_or_eq_of_mem_set member with old | rfl
    · exact sound invocation old
    · exact own
  cases runs taken with
  | runAll range =>
    intro invocation member
    rcases List.mem_append.mp member with old | new
    · exact sound invocation old
    · cases List.mem_singleton.mp new
      exact ⟨rfl, nofun, fun _ => rfl, nofun⟩
  | triggered run found waiting =>
    have old := sound _ (List.mem_of_getElem? found)
    refine replaced (old.settle rfl rfl nofun fun _ => ⟨rfl, ?_⟩)
    simp [Stage.firstTerminal, old.unanswered waiting]
  | failed failure found pending dead =>
    have old := sound _ (List.mem_of_getElem? found)
    rcases dead with rfl | rfl
    · exact replaced (old.settle rfl rfl nofun nofun)
    · exact replaced (old.settle rfl rfl nofun nofun)
  | heard found waiting running =>
    have old := sound _ (List.mem_of_getElem? found)
    obtain ⟨opened, before⟩ := old.open_ waiting
    refine replaced (old.settle rfl rfl (fun trigger => ?_) fun _ => ⟨opened, ?_⟩)
    · cases waiting.symm.trans trigger
    · exact (firstTerminal_hear before).trans running
  | stopped found waiting ended stops =>
    exact replaced ((sound _ (List.mem_of_getElem? found)).settle rfl rfl nofun nofun)
  | advanced found waiting ended passes more =>
    exact replaced ((sound _ (List.mem_of_getElem? found)).advance waiting ended passes more)
  | finished found waiting ended passes last =>
    exact replaced ((sound _ (List.mem_of_getElem? found)).settle rfl rfl nofun nofun)
  | doneReset done => exact sound
  | reset => exact sound

end Steps

theorem reachable_sound (reachable : system.Reachable s) :
    ∀ invocation ∈ s.invocations, invocation.Sound :=
  reachable.preserves (fun _ _ _ sound _ taken => sound_step sound taken) nofun

/-- An invocation has triggered a front of the pipeline in its order, and of every stage but the
last one triggered, the messages on the socket of its own run have told first that it
succeeded. Nothing was triggered after a stage that was told to have failed or to be cancelled. -/
structure Invocation.InOrder (invocation : Invocation) : Prop where
  order : invocation.calls.map Stage.jobType = pipelineOrder.take invocation.calls.length
  earlier : ∀ i stage, invocation.calls[i]? = some stage → i + 1 < invocation.calls.length →
    stage.Succeeded
  stops : ∀ i stage status, invocation.calls[i]? = some stage → stage.firstTerminal = some status →
    status = .failed ∨ status = .cancelled → i + 1 = invocation.calls.length

theorem never_runs_ahead (reachable : system.Reachable s) :
    ∀ invocation ∈ s.invocations, invocation.InOrder := by
  intro invocation listed
  have sound := reachable_sound reachable invocation listed
  have earlier : ∀ i stage, invocation.calls[i]? = some stage → i + 1 < invocation.calls.length →
      stage.Succeeded := by
    intro i stage found before
    simp only [Invocation.calls, List.length_append, List.length_singleton] at before
    rw [Invocation.calls, List.getElem?_append_left (by omega)] at found
    exact sound.past stage (List.mem_of_getElem? found)
  refine ⟨sound.order, earlier, ?_⟩
  intro i stage status found told bad
  have inside : i < invocation.calls.length := (List.getElem?_eq_some_iff.mp found).1
  by_contra later
  obtain ⟨_, other, _, first, good⟩ := earlier i stage found (by omega)
  cases told.symm.trans first
  rcases bad with rfl | rfl <;> rcases good with same | same <;> cases same

def ingested : List Event :=
  [.runAll [("start", "2024-07")], .triggered 0 7,
    .message 0 "\x7b\"type\":\"log\",\"status\":\"failed\"\x7d".toList,
    .message 0 "\x7b\"id\":\"7\",\"status\":\"succeeded\"\x7d".toList]

theorem never_runs_ahead_ingested : ∃ s : State,
    s.invocations.map (fun invocation => invocation.calls.length) = [2] ∧
      ∀ invocation ∈ s.invocations, invocation.InOrder := by
  have replayed : (system.replay (fun _ _ => True) init ingested).map
      (fun s => s.invocations.map fun invocation => invocation.calls.length) = some [2] := by
    decide +kernel
  obtain ⟨s, reachable, seen⟩ := reaches_of_replay replayed
  exact ⟨s, seen, never_runs_ahead reachable⟩

end OpenScale.RunAll
