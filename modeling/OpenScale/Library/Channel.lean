import Mathlib.Data.List.Basic

/-! Channels of Go with a buffer. A send on a closed channel and a second close are panics: none. -/

namespace OpenScale.Library

universe u

/-- The buffer never holds more than its capacity. -/
structure Channel (Item : Type u) (capacity : Nat) where
  buffer : List Item
  closed : Bool
  fits : buffer.length ≤ capacity

namespace Channel

variable {Item : Type u} {capacity : Nat} {channel next : Channel Item capacity}
  {item : Item} {full : Bool}

def make (Item : Type u) (capacity : Nat) : Channel Item capacity := ⟨[], false, Nat.zero_le _⟩

def isFull (channel : Channel Item capacity) : Bool := channel.buffer.length == capacity

/-- A send that does not wait: the item is dropped when the buffer is full. -/
def trySend (channel : Channel Item capacity) (item : Item) : Option (Channel Item capacity) :=
  if channel.closed then none
  else if room : channel.buffer.length < capacity then
    some ⟨channel.buffer ++ [item], false, by rw [List.length_append]; exact room⟩
  else some channel

/-- The next item, and what stays; none when there is nothing to receive. -/
def receive (channel : Channel Item capacity) : Option (Item × Channel Item capacity) :=
  match held : channel.buffer with
  | [] => none
  | item :: rest =>
    some (item, ⟨rest, channel.closed, by
      have fits := channel.fits
      rw [held, List.length_cons] at fits
      omega⟩)

def close (channel : Channel Item capacity) : Option (Channel Item capacity) :=
  if channel.closed then none else some { channel with closed := true }

theorem not_full_iff : channel.isFull = false ↔ channel.buffer.length < capacity := by
  have fits := channel.fits
  rw [isFull, beq_eq_false_iff_ne]
  omega

/-- An open channel takes the item unless it is full. -/
theorem trySend_open (opened : channel.closed = false) (item : Item) :
    ∃ next, channel.trySend item = some next ∧ next.closed = false ∧
    next.buffer = if channel.isFull then channel.buffer else channel.buffer ++ [item] := by
  rw [trySend, if_neg (by simp [opened])]
  by_cases room : channel.buffer.length < capacity
  · have free := not_full_iff.mpr room
    exact ⟨_, dif_pos room, rfl, by simp [free]⟩
  · have full : channel.isFull = true := by rwa [← Bool.not_eq_false, not_full_iff]
    exact ⟨_, dif_neg room, opened, by simp [full]⟩

theorem trySend_closed (closed : channel.closed = true) (item : Item) :
    channel.trySend item = none := by
  rw [trySend, if_pos closed]

theorem receive_some (received : channel.receive = some (item, next)) :
    channel.buffer = item :: next.buffer ∧ next.closed = channel.closed := by
  unfold receive at received
  split at received
  · cases received
  next held =>
    cases received
    exact ⟨held, rfl⟩

theorem close_open (opened : channel.closed = false) :
    channel.close = some { channel with closed := true } := by
  rw [close, if_neg (by simp [opened])]

end Channel

end OpenScale.Library
