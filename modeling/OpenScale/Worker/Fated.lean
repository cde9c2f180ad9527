import OpenScale.Library.Fated
import OpenScale.Worker.Abandon

/-! Jobs whose calls can fail: what they make of the stores when they report success, and what they
leave alone however they end. -/

namespace OpenScale.Worker

open OpenScale.Library OpenScale.Library.Python

variable {Locals Value : Type} {initial : Locals} {partialRows : Locals → Option Int}

section Success

variable {Stores : Type} {before after : Stores → Prop} {between : Value → Stores → Prop}
variable {onLogLine : OnLogLine (Fated Stores)} {body : Body (Fated Stores) Locals (Result ⊕ Value)}
variable {rest : Value → Body (Fated Stores) Locals Result}

/-- A triple about the stores, inside a job. -/
abbrev Inside {Result : Type} (before : Stores → Prop) (body : Body (Fated Stores) Locals Result)
    (after : Result → Stores → Prop) : Prop :=
  Program.Triple (fun state => before state.2.stores) body fun value state =>
    after value state.2.stores

theorem Inside.outer {task : Task (Fated Stores) Value} (does : Does before task between) :
    Inside before (task.outer : Body (Fated Stores) Locals Value) between :=
  Program.Triple.outer does

theorem Inside.bind {First Second : Type} {first : Body (Fated Stores) Locals First}
    {next : First → Body (Fated Stores) Locals Second}
    {middle : First → Stores → Prop} {last : Second → Stores → Prop}
    (begun : Inside before first middle)
    (ended : ∀ value, Inside (middle value) (next value) last) :
    Inside before (first >>= next) last :=
  Program.Triple.bind begun ended

theorem log_inside (reports : ∀ line, Does before (onLogLine line) fun _ => before)
    (line : String) :
    Inside before (log onLogLine line : Body (Fated Stores) Locals PUnit) fun _ => before := by
  have modified : Inside before (Program.modify fun (frame, outside) =>
      ({ frame with logLines := frame.logLines ++ [line] }, outside) :
        Body (Fated Stores) Locals PUnit)
      fun _ => before := by
    intro state value final holds run
    cases run
    exact holds
  exact .bind modified fun _ => .outer (reports line)

theorem tryJob_does
    (tried : Inside before body fun tried stores =>
      ∃ value, tried = .inr value ∧ between value stores)
    (finished : ∀ value, Inside (between value) (rest value) fun _ => after) :
    Does before (tryJob onLogLine initial partialRows body rest) fun result stores =>
      result.status = .succeeded → after stores := by
  have rescued : Inside before (rescue body (failed onLogLine partialRows)) fun tried stores =>
      (∃ value, tried = .inr value ∧ between value stores) ∨
        ∃ result, tried = .inl result ∧ result.status = .failed := by
    refine .attempt (.weaken tried (fun _ => id) fun _ _ => .inl) fun error => ?_
    split
    · intro state value final _ run
      exact .inr (failed_yields state value final run)
    · exact .raise
  refine .locally (.bind rescued fun tried => ?_)
  cases tried with
  | inl result =>
    refine .pure fun state holds succeeded => ?_
    obtain ⟨value, same, _⟩ | ⟨failure, same, status⟩ := holds
    · cases same
    · cases same
      rw [status] at succeeded
      cases succeeded
  | inr value =>
    refine .weaken (finished value) ?_ fun _ _ done _ => done
    intro state holds
    obtain ⟨other, same, done⟩ | ⟨failure, same, _⟩ := holds
    · cases same
      exact done
    · cases same

theorem ends_inside {status : Jobs.Status} {error : Option String}
    {rowsProcessed : Locals → Option Int} {metrics : Option Json} :
    Inside after (ends status error rowsProcessed metrics : Body (Fated Stores) Locals Result)
      fun _ => after := by
  intro state value final holds run
  cases run
  exact holds

end Success

section Always

variable {Outside : Type} {holds : Outside → Prop} {onLogLine : OnLogLine Outside}
variable {body : Body Outside Locals (Result ⊕ Value)} {rest : Value → Body Outside Locals Result}

theorem log_maintains (reports : ∀ line, (onLogLine line).Maintains holds) (line : String) :
    (log onLogLine line : Body Outside Locals PUnit).Maintains fun state => holds state.2 :=
  .bind (fun _ start => start) fun _ => .outer (reports line)

theorem ends_maintains {status : Jobs.Status} {error : Option String}
    {rowsProcessed : Locals → Option Int} {metrics : Option Json} :
    (ends status error rowsProcessed metrics : Body Outside Locals Result).Maintains fun state =>
      holds state.2 :=
  fun _ start => start

theorem tryJob_maintains (reports : ∀ line, (onLogLine line).Maintains holds)
    (tried : body.Maintains fun state => holds state.2)
    (finished : ∀ value, (rest value).Maintains fun state => holds state.2) :
    (tryJob onLogLine initial partialRows body rest).Maintains holds := by
  refine .locally (.bind (.attempt tried fun error => ?_) fun found => ?_)
  · split
    · exact .bind (log_maintains reports _) fun _ => .bind ends_maintains fun _ => .pure
    · exact .raise
  · cases found with
    | inl result => exact .pure
    | inr value => exact finished value

end Always

def refused {Outside Value : Type} : Task Outside Value :=
  Program.raise (.exception "ConnectionError" "Connection refused")

def nothingElse {Outside : Type} : Services Outside where
  builtins := {
    reprText := fun text => "'" ++ text ++ "'"
    str := fun _ => "{}"
    floatText := fun _ => "10.0"
    nearest := .finite
    quotient := fun _ _ => .finite 1 (-1) }
  nowIso := refused
  publish _ := refused
  availablePeriods := refused
  download _ _ := refused
  locate _ _ := refused
  readParquet _ := refused
  validate _ := refused
  upload _ _ _ := refused
  bronzePeriods := refused
  processPeriod _ _ := refused
  goldJob _ := refused
  computeFeatures := refused
  trainFareModel := refused
  connectPostgres := refused
  tableExists _ := refused
  truncate _ := refused
  commit := refused
  closePostgres := refused
  deletePrefix _ := refused
  connectRedis := refused
  scan _ _ := refused
  deleteKeys _ := refused
  hsetnx _ _ _ := refused
  expire _ _ := refused
  hgetall _ := refused
  loadDay _ := refused
  kafkaProducer := refused
  send _ _ := refused
  flush := refused
  sleep _ := refused
  patience := 1
  closeConnection := refused

end OpenScale.Worker
