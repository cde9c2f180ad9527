import Mathlib.Data.List.Basic

/-! Append-only streams read through one consumer group, after Redis Streams:
XADD, XGROUP CREATE at `$`, XREADGROUP with `>`, and XACK. -/

namespace OpenScale.Library

universe u

/-- How far a group has been served, and what it was served but did not acknowledge. -/
structure Group where
  delivered : Nat
  pending : List Nat

/-- Entries are numbered by their position. A group is never ahead of the stream. -/
structure GroupStream (Message : Type u) where
  entries : List Message
  group : Option Group
  bounded : ∀ present ∈ group, present.delivered ≤ entries.length

namespace GroupStream

variable {Message : Type u} {message : Message} {stream : GroupStream Message}

def empty : GroupStream Message := ⟨[], none, by simp⟩

/-- XADD. -/
def add (stream : GroupStream Message) (message : Message) : GroupStream Message where
  entries := stream.entries ++ [message]
  group := stream.group
  bounded present member := by
    rw [List.length_append]
    exact Nat.le_add_right_of_le (stream.bounded present member)

/-- XGROUP CREATE at `$` with MKSTREAM: the group is served only what is added
later. On an existing group it answers BUSYGROUP and changes nothing. -/
def createGroup (stream : GroupStream Message) : GroupStream Message :=
  match stream.group with
  | some _ => stream
  | none => ⟨stream.entries, some ⟨stream.entries.length, []⟩, by simp⟩

/-- The entries the group can still be served; none without a group. -/
def undelivered (stream : GroupStream Message) : List Message :=
  match stream.group with
  | some group => stream.entries.drop group.delivered
  | none => []

/-- XREADGROUP with `>` and COUNT 1: the first entry never served to the group. -/
def readNew (stream : GroupStream Message) : Option (Nat × Message × GroupStream Message) :=
  match present : stream.group with
  | none => none
  | some group =>
    if inside : group.delivered < stream.entries.length then
      some (group.delivered, stream.entries[group.delivered],
        ⟨stream.entries, some ⟨group.delivered + 1, group.pending ++ [group.delivered]⟩, by
          rintro _ ⟨⟩
          exact inside⟩)
    else none

/-- XACK. -/
def ack (stream : GroupStream Message) (entry : Nat) : GroupStream Message where
  entries := stream.entries
  group := stream.group.map fun group => { group with pending := group.pending.erase entry }
  bounded present member := by
    obtain ⟨group, held, rfl⟩ := Option.map_eq_some_iff.mp member
    exact stream.bounded group held

@[simp] theorem entries_add : (stream.add message).entries = stream.entries ++ [message] := rfl

@[simp] theorem group_add : (stream.add message).group = stream.group := rfl

@[simp] theorem entries_ack (entry : Nat) : (stream.ack entry).entries = stream.entries := rfl

@[simp] theorem undelivered_ack (entry : Nat) :
    (stream.ack entry).undelivered = stream.undelivered := by
  obtain ⟨entries, group, bounded⟩ := stream
  cases group <;> rfl

@[simp] theorem entries_createGroup : stream.createGroup.entries = stream.entries := by
  unfold createGroup
  split <;> rfl

theorem undelivered_createGroup : stream.createGroup.undelivered = stream.undelivered := by
  unfold createGroup
  split
  · rfl
  · rename_i absent
    simp [undelivered, absent]

theorem undelivered_add (present : stream.group ≠ none) :
    (stream.add message).undelivered = stream.undelivered ++ [message] := by
  unfold undelivered
  rw [group_add, entries_add]
  cases held : stream.group with
  | none => exact absurd held present
  | some group => exact List.drop_append_of_le_length (stream.bounded group held)

theorem undelivered_add_none (absent : stream.group = none) :
    (stream.add message).undelivered = [] := by
  simp [undelivered, absent]

theorem undelivered_subset (member : message ∈ stream.undelivered) : message ∈ stream.entries := by
  unfold undelivered at member
  split at member
  · exact List.mem_of_mem_drop member
  · cases member

theorem readNew_eq_some {entry : Nat} {rest : GroupStream Message}
    (read : stream.readNew = some (entry, message, rest)) :
    stream.undelivered = message :: rest.undelivered ∧ rest.entries = stream.entries ∧
      rest.group ≠ none := by
  unfold readNew at read
  split at read
  · cases read
  · rename_i group present
    split at read
    · rename_i inside
      cases read
      refine ⟨?_, rfl, by simp⟩
      simp only [undelivered, present]
      exact List.drop_eq_getElem_cons inside
    · cases read

end GroupStream

end OpenScale.Library
