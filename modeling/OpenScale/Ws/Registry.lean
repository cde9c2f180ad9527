import Mathlib.Data.List.AList
import OpenScale.Library.GoSlice

/-! The map of the job hub, from job ids to slices of channels, and what is registered after a
sequence of calls. Subscribing may write behind the end of a slice, and unsubscribing moves the rest
of it up in place. -/

namespace OpenScale.Ws

open OpenScale.Library OpenScale.Library.GoSlice

/-- A channel, by the place of its `make` among those of the hub; none is the nil channel. -/
abbrev Chan := Option Nat

structure Registry where
  heap : Heap Chan
  conns : AList fun _ : String => Slice

namespace Registry

def empty : Registry := ⟨[], ∅⟩

/-- `h.conns[jobID]`, which is nil without an entry. -/
def listOf (registry : Registry) (jobId : String) : Slice := (registry.conns.lookup jobId).getD .nil

def channels (registry : Registry) (jobId : String) : List Chan :=
  read registry.heap (registry.listOf jobId)

variable (spare : Nat → Nat → Nat) (registry : Registry) (jobId : String)

/-- The critical section of Subscribe. -/
def subscribe (ch : Nat) : Registry :=
  let subs := append none spare registry.heap (registry.listOf jobId) [some ch]
  ⟨subs.1, registry.conns.insert jobId subs.2⟩

/-- The loop of unsubscribe, which stops at the first channel that is its own. -/
def removeOwn (ch : Nat) : Registry :=
  match (registry.channels jobId).findIdx? (· == some ch) with
  | none => registry
  | some i =>
    let subs := remove none spare registry.heap (registry.listOf jobId) i
    ⟨subs.1, registry.conns.insert jobId subs.2⟩

/-- The critical section of unsubscribe, without its `close`. -/
def unsubscribe (ch : Nat) : Registry :=
  let removed := registry.removeOwn spare jobId ch
  if (removed.listOf jobId).length = 0 then { removed with conns := removed.conns.erase jobId }
  else removed

/-- The critical section of Run: a copy of the list. -/
def snapshot : Registry × Slice :=
  let subs := copy none spare registry.heap (registry.listOf jobId)
  ({ registry with heap := subs.1 }, subs.2)

/-- The lists, and beside them the snapshot that Run still goes through. -/
def slices (subs : Slice) : Option String → Slice
  | none => subs
  | some jobId => registry.listOf jobId

end Registry

section Slices

variable {registry : Registry} {subs s : Slice} {jobId : String} {heap : Heap Chan}

theorem slices_change {conns : AList fun _ : String => Slice}
    (own : (conns.lookup jobId).getD .nil = s)
    (others : ∀ another, another ≠ jobId → conns.lookup another = registry.conns.lookup another) :
    (Registry.mk heap conns).slices subs = Function.update (registry.slices subs)
    (some jobId) s := by
  refine Function.eq_update_iff.mpr ⟨own, fun key different => ?_⟩
  cases key with
  | none => rfl
  | some another =>
    exact congrArg (Option.getD · .nil) (others another fun same => different (congrArg some same))

theorem slices_insert : (Registry.mk heap (registry.conns.insert jobId s)).slices subs =
    Function.update (registry.slices subs) (some jobId) s :=
  slices_change (by rw [AList.lookup_insert, Option.getD_some]) fun _ different =>
    AList.lookup_insert_ne different

theorem slices_erase : (Registry.mk heap (registry.conns.erase jobId)).slices subs =
    Function.update (registry.slices subs) (some jobId) .nil :=
  slices_change (by rw [AList.lookup_erase, Option.getD_none]) fun _ different =>
    AList.lookup_erase_ne different

theorem slices_snapshot (subs : Slice) : (Registry.mk heap registry.conns).slices s =
    Function.update (registry.slices subs) none s := by
  refine Function.eq_update_iff.mpr ⟨rfl, fun key different => ?_⟩
  cases key with
  | none => exact absurd rfl different
  | some another => rfl

theorem mem_of_length (filled : (registry.listOf jobId).length ≠ 0) : jobId ∈ registry.conns := by
  by_contra absent
  rw [Registry.listOf, AList.lookup_eq_none.mpr absent] at filled
  exact filled rfl

end Slices

/-- The slices of the map and the snapshot hold these lists, share no array, and have no entry
without need. -/
structure Represents (registry : Registry) (subs : Slice) (lists : Option String → List Chan) :
    Prop where
  family : Family registry.heap (registry.slices subs) lists
  keys : ∀ jobId ∈ registry.conns, lists (some jobId) ≠ []

section Operations

variable {spare : Nat → Nat → Nat} {registry : Registry} {subs : Slice}
  {lists : Option String → List Chan}
  {jobId : String} {ch : Nat}

theorem Represents.mem_conns (represents : Represents registry subs lists) :
    jobId ∈ registry.conns ↔ lists (some jobId) ≠ [] := by
  refine ⟨represents.keys jobId, fun filled => mem_of_length fun none_ => filled ?_⟩
  rw [← represents.family.reads (some jobId)]
  exact List.eq_nil_of_length_eq_zero
    ((length_read (represents.family.valid (some jobId))).trans none_)

theorem represents_empty : Represents .empty .nil fun _ => [] := by
  have none_ : ∀ key, Registry.empty.slices .nil key = .nil := by
    intro key
    cases key with
    | none => rfl
    | some jobId => rfl
  refine ⟨⟨fun key => ?_, fun key => ?_, fun key another _ => ?_⟩, fun jobId member => ?_⟩
  · rw [none_ key]
    exact valid_nil _
  · rw [none_ key]
    exact read_nil _
  · rw [none_ key]
    exact apart_nil _
  · exact absurd member (AList.notMem_empty jobId)

theorem represents_subscribe (represents : Represents registry subs lists)
    (jobId : String) (ch : Nat) : Represents (registry.subscribe spare jobId ch) subs
      (Function.update lists (some jobId) (lists (some jobId) ++ [some ch])) := by
  have family := represents.family
  have appended := append_becomes none spare (family.valid (some jobId)) [some ch]
  rw [family.reads] at appended
  refine ⟨?_, fun another member => ?_⟩
  · rw [Registry.subscribe, slices_insert]
    exact family.set appended
  · by_cases same : another = jobId
    · rw [same, Function.update_self]
      exact List.append_ne_nil_of_right_ne_nil _ (List.cons_ne_nil _ _)
    · rw [Function.update_of_ne (same ∘ Option.some.inj)]
      exact represents.keys another (((AList.mem_insert _).mp member).resolve_left same)

theorem family_removeOwn (spare : Nat → Nat → Nat) (represents : Represents registry subs lists)
    (jobId : String) (ch : Nat) :
    Family (registry.removeOwn spare jobId ch).heap
      ((registry.removeOwn spare jobId ch).slices subs)
      (Function.update lists (some jobId) ((lists (some jobId)).erase (some ch))) := by
  have family := represents.family
  have reads : registry.channels jobId = lists (some jobId) := family.reads (some jobId)
  rw [List.erase_eq_eraseP', List.eraseP_eq_eraseIdx, Registry.removeOwn, reads]
  split
  next absent =>
    rw [absent, Function.update_eq_self]
    exact family
  next i found =>
    have inside : i < (registry.listOf jobId).length := by
      have length := length_read (family.valid (some jobId))
      rw [family.reads] at length
      exact length ▸ (List.findIdx?_eq_some_iff_getElem.mp found).1
    have removed := remove_becomes none spare (family.valid (some jobId)) inside
    rw [family.reads] at removed
    rw [found, slices_insert]
    exact family.set removed

theorem mem_removeOwn {another : String} (different : another ≠ jobId)
    (member : another ∈ (registry.removeOwn spare jobId ch).conns) : another ∈ registry.conns := by
  unfold Registry.removeOwn at member
  split at member
  · exact member
  · exact ((AList.mem_insert _).mp member).resolve_left different

theorem represents_unsubscribe (represents : Represents registry subs lists)
    (jobId : String) (ch : Nat) : Represents (registry.unsubscribe spare jobId ch) subs
      (Function.update lists (some jobId) ((lists (some jobId)).erase (some ch))) := by
  have family := family_removeOwn spare represents jobId ch
  have length := length_read (family.valid (some jobId))
  rw [family.reads, Function.update_self] at length
  have others : ∀ another, another ≠ jobId → another ∈ (registry.removeOwn spare jobId ch).conns →
      Function.update lists (some jobId) ((lists (some jobId)).erase (some ch)) (some another) ≠
      [] := by
    intro another different member
    rw [Function.update_of_ne (different ∘ Option.some.inj)]
    exact represents.keys another (mem_removeOwn different member)
  unfold Registry.unsubscribe
  dsimp only
  split
  next empty =>
    have left : (lists (some jobId)).erase (some ch) = [] :=
      List.eq_nil_of_length_eq_zero (length.trans empty)
    have cleared := family.clear (some jobId)
    rw [left, Function.update_idem] at cleared
    rw [left] at others ⊢
    refine ⟨slices_erase ▸ cleared, fun another member => ?_⟩
    obtain ⟨different, inside⟩ := AList.mem_erase.mp member
    exact others another different inside
  next filled =>
    refine ⟨family, fun another member => ?_⟩
    by_cases same : another = jobId
    · rw [same, Function.update_self]
      exact fun left => filled (length.symm.trans (congrArg List.length left))
    · exact others another same member

theorem represents_snapshot (represents : Represents registry subs lists) (jobId : String) :
    Represents (registry.snapshot spare jobId).1 (registry.snapshot spare jobId).2
      (Function.update lists none (lists (some jobId))) := by
  have copied := copy_becomes none spare registry.heap (registry.listOf jobId)
  have cleared := represents.family.clear none
  rw [show read registry.heap (registry.listOf jobId) =
    lists (some jobId) from represents.family.reads (some jobId)]
    at copied
  refine ⟨?_, fun another member => ?_⟩
  · rw [Registry.snapshot, slices_snapshot subs]
    rw [← Function.update_self none Slice.nil (registry.slices subs)] at copied
    have kept := cleared.set copied
    rwa [Function.update_idem, Function.update_idem] at kept
  · rw [Function.update_of_ne (Option.some_ne_none another)]
    exact represents.keys another member

theorem Represents.release (represents : Represents registry subs lists) :
    Represents registry .nil (Function.update lists none []) := by
  refine ⟨?_, fun another member => ?_⟩
  · have cleared := represents.family.clear none
    rwa [← slices_snapshot] at cleared
  · rw [Function.update_of_ne (Option.some_ne_none another)]
    exact represents.keys another member

end Operations

end OpenScale.Ws
