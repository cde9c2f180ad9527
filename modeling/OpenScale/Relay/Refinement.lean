import OpenScale.Pipeline.Step
import OpenScale.Relay.System

/-! The writers that the relay assumes are those of the job queue. -/

namespace OpenScale.Relay

open OpenScale.Library OpenScale.Jobs

theorem write_of_step {s s' : Pipeline.State} {event : Pipeline.Event}
    (taken : Pipeline.system.step s event = some s') :
    s'.jobRuns = s.jobRuns ∨ ∃ write : Write, s'.jobRuns = (write.apply s.jobRuns).jobRuns := by
  cases event with
  | control event =>
    cases Pipeline.controls taken with
    | @submit id jobType params now _ _ _ inserted =>
      exact .inr ⟨.insertJobRun id jobType params now, by simp [Write.apply, inserted]⟩
    | @markFailed id errMsg now => exact .inr ⟨.markFailed id errMsg now, rfl⟩
    | @cancelActiveRuns now => exact .inr ⟨.cancelActiveRuns now, rfl⟩
    | clearRuns => exact .inr ⟨.clearTerminalRuns, rfl⟩
    | _ => exact .inl rfl
  | worker event =>
    cases Pipeline.works taken with
    | @claim _ message now => exact .inr ⟨.markRunning message.jobId now, rfl⟩
    | @rejectUnknown _ message now =>
      exact .inr ⟨.markTerminal message.jobId .failed (Pipeline.unknownJobType message.jobType) now,
        rfl⟩
    | @markTerminal _ message status report now =>
      exact .inr ⟨.markTerminal message.jobId status report now, rfl⟩
    | _ => exact .inl rfl

theorem relay_of_queue {s s' : Pipeline.State} {relay : State} (path : Pipeline.system.Leads s s')
    (agrees : relay.jobRuns = s.jobRuns) :
    ∃ later, system.Leads relay later ∧ later.jobRuns = s'.jobRuns := by
  induction path with
  | refl => exact ⟨relay, .refl, agrees⟩
  | snoc _ _ taken ih =>
    obtain ⟨later, writes, same⟩ := ih
    rcases write_of_step taken with unchanged | ⟨write, written⟩
    · exact ⟨later, writes, same.trans unchanged.symm⟩
    · have reports : system.step later (.write write) = some { later with
          jobRuns := (write.apply later.jobRuns).jobRuns
          owed := later.owed ++ (write.apply later.jobRuns).owed
          silent := later.silent ++ (write.apply later.jobRuns).silent } := rfl
      refine ⟨_, writes.snoc trivial reports, ?_⟩
      rw [written, ← same]

end OpenScale.Relay
