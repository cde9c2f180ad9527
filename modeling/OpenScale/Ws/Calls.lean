import OpenScale.Ws.Registry

/-! What is registered after a sequence of calls on the hub, and how one more call changes it. -/

namespace OpenScale.Ws

inductive Call where
  /-- With the channel that it makes. -/
  | subscribe (jobId : String) (ch : Nat)
  | unsubscribe (ch : Nat)
  deriving DecidableEq

def Call.subscribed? (jobId : String) : Call → Option Nat
  | .subscribe id ch => if id = jobId then some ch else none
  | .unsubscribe _ => none

/-- The channels that were subscribed to a job id and not unsubscribed, in the order of their
subscriptions. -/
def registered (calls : List Call) (jobId : String) : List Nat :=
  (calls.filterMap (Call.subscribed? jobId)).filter fun ch => .unsubscribe ch ∉ calls

variable {calls : List Call} {jobId other : String} {ch : Nat}

theorem mem_subscribed : ch ∈ calls.filterMap (Call.subscribed? jobId) ↔
    .subscribe jobId ch ∈ calls := by
  rw [List.mem_filterMap]
  constructor
  · rintro ⟨call, inside, made⟩
    cases call with
    | subscribe id own =>
      obtain ⟨same, made⟩ := Option.ite_none_right_eq_some.mp made
      cases made
      exact same ▸ inside
    | unsubscribe own => cases made
  · intro inside
    exact ⟨_, inside, if_pos rfl⟩

theorem mem_registered : ch ∈ registered calls jobId ↔ .subscribe jobId ch ∈ calls ∧
    .unsubscribe ch ∉ calls := by
  rw [registered, List.mem_filter, mem_subscribed, decide_eq_true_iff]

theorem registered_subscribe (fresh : .unsubscribe ch ∉ calls) :
    registered (calls ++ [.subscribe jobId ch]) other =
    if jobId = other then registered calls other ++ [ch] else registered calls other := by
  have kept : ∀ c, Call.unsubscribe c ∉ calls ++ [.subscribe jobId ch] ↔
      .unsubscribe c ∉ calls := by simp
  unfold registered
  simp only [kept, List.filterMap_append, List.filter_append]
  split
  next same => simp [Call.subscribed?, same, fresh]
  next different => simp [Call.subscribed?, different]

theorem registered_unsubscribe : registered (calls ++ [.unsubscribe ch]) jobId =
    (registered calls jobId).filter (· != ch) := by
  have nothing : [Call.unsubscribe ch].filterMap (Call.subscribed? jobId) = [] := rfl
  unfold registered
  rw [List.filterMap_append, nothing, List.append_nil, List.filter_filter]
  refine List.filter_congr fun c _ => ?_
  rw [Bool.eq_iff_iff, Bool.and_eq_true, decide_eq_true_iff, decide_eq_true_iff, bne_iff_ne,
    List.mem_append, List.mem_singleton, Call.unsubscribe.injEq, not_or, and_comm]

/-- What the slices of the map hold after these calls, with the snapshot beside them. -/
def held (calls : List Call) (targets : List Chan) : Option String → List Chan
  | none => targets
  | some jobId => (registered calls jobId).map some

variable {targets : List Chan}

theorem held_subscribe (fresh : .unsubscribe ch ∉ calls) :
    held (calls ++ [.subscribe jobId ch]) targets =
    Function.update (held calls targets) (some jobId)
      (held calls targets (some jobId) ++ [some ch]) := by
  refine Function.eq_update_iff.mpr ⟨?_, fun key different => ?_⟩
  · rw [held, held, registered_subscribe fresh, if_pos rfl, List.map_append]
    rfl
  · cases key with
    | none => rfl
    | some another =>
      have apart : jobId ≠ another := fun same => different (congrArg some same.symm)
      rw [held, held, registered_subscribe fresh, if_neg apart]

theorem held_unsubscribe (distinct : (registered calls jobId).Nodup)
    (alone : ∀ another, another ≠ jobId → ch ∉ registered calls another) :
    held (calls ++ [.unsubscribe ch]) targets =
      Function.update (held calls targets) (some jobId)
        ((held calls targets (some jobId)).erase (some ch)) := by
  refine Function.eq_update_iff.mpr ⟨?_, fun key different => ?_⟩
  · rw [held, held, registered_unsubscribe, ← List.map_erase fun _ _ => Option.some.inj,
      distinct.erase_eq_filter]
  · cases key with
    | none => rfl
    | some another =>
      have absent := alone another fun same => different (congrArg some same)
      rw [held, held, registered_unsubscribe, List.filter_eq_self.mpr]
      exact fun c inside => bne_iff_ne.mpr (ne_of_mem_of_not_mem inside absent)

theorem held_targets (targets more : List Chan) :
    held calls more = Function.update (held calls targets) none more := by
  refine Function.eq_update_iff.mpr ⟨rfl, fun key different => ?_⟩
  cases key with
  | none => exact absurd rfl different
  | some another => rfl

end OpenScale.Ws
