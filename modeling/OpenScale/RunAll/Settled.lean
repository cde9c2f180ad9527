import OpenScale.RunAll.Order

/-! Whether Run All leaves its running phase. Nothing catches a rejection, and nothing listens
for the end of a socket. -/

namespace OpenScale.RunAll

open OpenScale.Library OpenScale.Library.TransitionSystem OpenScale.Jobs

variable {s s' : State} {event : Event}

def Phase.isRunning : Phase → Bool
  | .running _ => true
  | _ => false

/-- No trigger request is pending, and no socket of a stage is open. -/
def State.Quiet (s : State) : Prop :=
  ∀ invocation ∈ s.invocations, invocation.await.isPending = false

instance (s : State) : Decidable s.Quiet := inferInstanceAs (Decidable (∀ _ ∈ _, _))

/-- No trigger request is rejected, and no socket fails or is closed before the run has ended. -/
def Unfailing (_ : State) (event : Event) : Prop := event.isFailure = false

def Driven (s : State) : Prop :=
  s.phase.isRunning = true → ∃ invocation ∈ s.invocations, invocation.await.isPending = true

theorem driven_step (unfailing : Unfailing s event)
    (taken : system.step s event = some s') : Driven s' := by
  have replaced : ∀ {i : Nat} {old new : Invocation}, s.invocations[i]? = some old →
      new.await.isPending = true →
        ∃ invocation ∈ s.invocations.set i new, invocation.await.isPending = true := by
    intro i old new found pending
    have inside := (List.getElem?_eq_some_iff.mp found).1
    exact ⟨new, List.mem_set inside new, pending⟩
  cases runs taken with
  | runAll range => exact fun _ => ⟨_, List.mem_append_right _ (List.mem_singleton_self _), rfl⟩
  | triggered run found waiting => exact fun _ => replaced found rfl
  | failed failure found pending dead => exact absurd (failure.symm.trans unfailing) (by decide)
  | heard found waiting running =>
    exact fun _ => replaced found (by simp [Invocation.hear, waiting, Await.isPending])
  | stopped found waiting ended stops => exact fun running => by cases running
  | advanced found waiting ended passes more => exact fun _ => replaced found rfl
  | finished found waiting ended passes last => exact fun running => by cases running
  | doneReset done => exact fun running => by cases running
  | reset => exact fun running => by cases running

theorem phase_of_failure (failure : event.isFailure = true)
    (taken : system.step s event = some s') : s'.phase = s.phase := by
  cases runs taken with
  | failed => rfl
  | _ => cases failure

/-- In a run without failures, Run All has left the running phase once nothing is pending. A
failure leaves it there: the state after it is still running, even when nothing is pending. -/
theorem leaves_running_unless_failure (s : State) :
    (system.Path Unfailing init s → s.Quiet → s.phase.isRunning = false) ∧
    ∀ s' event, system.step s event = some s' → ¬ Unfailing s event →
      s'.phase.isRunning = s.phase.isRunning := by
  refine ⟨fun path quiet => ?_, fun s' event taken fails => ?_⟩
  · have driven : Driven s := by
      refine path.preserves (fun _ _ _ _ unfailing taken => driven_step unfailing taken) ?_
      intro running
      cases running
    rw [Bool.eq_false_iff]
    intro running
    obtain ⟨invocation, listed, pending⟩ := driven running
    exact absurd pending (Bool.eq_false_iff.mp (quiet invocation listed))
  · rw [phase_of_failure (Bool.not_eq_false _ ▸ fails) taken]

/-- The socket tells of the run while it goes on, and of its end. -/
def stageSucceeds (stage : Nat) : List Event :=
  [.triggered 0 stage, .message 0 "\x7b\"type\":\"status\",\"status\":\"running\"\x7d".toList,
    .message 0 "\x7b\"type\":\"status\",\"status\":\"succeeded\"\x7d".toList]

def allSucceed : List Event :=
  .runAll [("start", "2024-07")] :: (List.range 5).flatMap stageSucceeds

instance (s : State) (event : Event) : Decidable (Unfailing s event) :=
  inferInstanceAs (Decidable (event.isFailure = false))

theorem leaves_running_unless_failure_succeeded :
    ∃ s : State, system.Path Unfailing init s ∧ s.Quiet ∧
    s.invocations.map (fun invocation => invocation.calls.length) = [5] ∧
    s.phase.isRunning = false := by
  have replayed : (system.replay Unfailing init allSucceed).map (fun s =>
      (decide s.Quiet, s.invocations.map fun invocation => invocation.calls.length)) =
        some (true, [5]) := by
    decide +kernel
  obtain ⟨s, path, seen⟩ := reaches_of_replay replayed
  simp only [Prod.mk.injEq, decide_eq_true_eq] at seen
  exact ⟨s, path, seen.1, seen.2, (leaves_running_unless_failure s).1 path seen.1⟩

def jobNotFound : List Event := [.runAll [], .triggered 0 7, .socketClosed 0]

theorem run_all_stays_running : ¬ ∀ s, system.Reachable s → s.Quiet →
    s.phase.isRunning = false := by
  intro leaves
  have replayed : (system.replay (fun _ _ => True) init jobNotFound).map
      (fun s => (decide s.Quiet, s.phase.isRunning)) = some (true, true) := by
    decide +kernel
  obtain ⟨s, reachable, seen⟩ := reaches_of_replay replayed
  simp only [Prod.mk.injEq, decide_eq_true_eq] at seen
  have left := leaves s reachable seen.1
  simp [seen.2] at left

end OpenScale.RunAll
