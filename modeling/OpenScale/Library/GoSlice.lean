import Mathlib.Data.List.Basic
import Mathlib.Logic.Function.Basic

/-! Slices of Go over a heap of backing arrays. `append` writes into the array of its first argument
if that has the room, and takes a new array otherwise. -/

namespace OpenScale.Library.GoSlice

universe u

abbrev Heap (Item : Type u) := List (List Item)

/-- Without capacity its address is never used. -/
structure Slice where
  array : Nat
  start : Nat
  length : Nat
  capacity : Nat

namespace Slice

def nil : Slice := ⟨0, 0, 0, 0⟩

/-- `s[low:high]` -/
def part (s : Slice) (low high : Nat) : Slice :=
  ⟨s.array, s.start + low, high - low, s.capacity - low⟩

end Slice

section Operations

variable {Item : Type u}

def cells (heap : Heap Item) (array : Nat) : List Item := heap[array]?.getD []

def read (heap : Heap Item) (s : Slice) : List Item :=
  ((cells heap s.array).drop s.start).take s.length

def overwrite (old : List Item) (position : Nat) (items : List Item) : List Item :=
  old.take position ++ items ++ old.drop (position + items.length)

/-- A new array is as long as its items and has the slots that the runtime adds, with the zero value
in them; how many it adds may depend on the old capacity and on the length that is needed. -/
def append (zero : Item) (spare : Nat → Nat → Nat) (heap : Heap Item) (s : Slice)
    (items : List Item) :
    Heap Item × Slice :=
  let length := s.length + items.length
  if length ≤ s.capacity then
    (heap.modify s.array fun old => overwrite old (s.start + s.length) items,
      { s with length := length })
  else
    let more := spare s.capacity length
    (heap ++ [read heap s ++ items ++ List.replicate more zero],
      ⟨heap.length, 0, length, length + more⟩)

/-- `append(s[:i], s[i+1:]...)` -/
def remove (zero : Item) (spare : Nat → Nat → Nat) (heap : Heap Item) (s : Slice) (i : Nat) :
    Heap Item × Slice :=
  append zero spare heap (s.part 0 i) (read heap (s.part (i + 1) s.length))

/-- `append([]T(nil), s...)` -/
def copy (zero : Item) (spare : Nat → Nat → Nat) (heap : Heap Item) (s : Slice) :
    Heap Item × Slice :=
  append zero spare heap .nil (read heap s)

end Operations

variable {Item : Type u} {heap after : Heap Item} {s t result : Slice}
  {items : List Item} {zero : Item}
  {spare : Nat → Nat → Nat} {array other i : Nat}

structure Slice.Valid (heap : Heap Item) (s : Slice) : Prop where
  fits : s.length ≤ s.capacity
  backed : 0 < s.capacity → s.start + s.capacity ≤ (cells heap s.array).length

/-- Two slices that share no array. -/
def Apart (s t : Slice) : Prop := 0 < s.capacity → 0 < t.capacity → s.array ≠ t.array

/-- An operation on a slice gives a slice with these items, and leaves every slice that shares no
array with its argument as it was. -/
structure Becomes (heap : Heap Item) (s : Slice) (items : List Item) (after : Heap Item)
    (result : Slice) : Prop where
  valid : result.Valid after
  reads : read after result = items
  frame : ∀ t : Slice, t.Valid heap → Apart s t → t.Valid after ∧ read after t = read heap t ∧
    Apart result t

theorem Apart.symm (apart : Apart s t) : Apart t s :=
  fun left right same => apart right left same.symm

theorem valid_nil (heap : Heap Item) : Slice.nil.Valid heap := ⟨Nat.le_refl _, nofun⟩

theorem apart_nil (t : Slice) : Apart .nil t := nofun

theorem read_nil (heap : Heap Item) : read heap .nil = [] := List.take_zero

theorem length_read (valid : s.Valid heap) : (read heap s).length = s.length := by
  have fits := valid.fits
  rw [read, List.length_take, List.length_drop]
  rcases Nat.eq_zero_or_pos s.capacity with without | has
  · omega
  · have backed := valid.backed has
    omega

section Cells

theorem cells_modify_ne (different : array ≠ other) (change : List Item → List Item) :
    cells (heap.modify array change) other = cells heap other := by
  simp only [cells, List.getElem?_modify, if_neg different, Option.map_eq_map,
    Option.map_id_fun', id]

theorem cells_modify_self (inside : array < heap.length) (change : List Item → List Item) :
    cells (heap.modify array change) array = change (cells heap array) := by
  simp only [cells, List.getElem?_modify, List.getElem?_eq_getElem inside, if_true]
  rfl

theorem cells_append (inside : array < heap.length) (new : List Item) :
    cells (heap ++ [new]) array = cells heap array := by
  rw [cells, cells, List.getElem?_append_left inside]

theorem cells_new (heap : Heap Item) (new : List Item) :
    cells (heap ++ [new]) heap.length = new := by
  rw [cells, List.getElem?_concat_length, Option.getD_some]

theorem Slice.Valid.array_lt (valid : s.Valid heap) (has : 0 < s.capacity) :
    s.array < heap.length := by
  by_contra outside
  have backed := valid.backed has
  rw [cells, List.getElem?_eq_none (by omega), Option.getD_none, List.length_nil] at backed
  omega

theorem Slice.Valid.unchanged (valid : s.Valid heap)
    (same : 0 < s.capacity → cells after s.array = cells heap s.array) :
    s.Valid after ∧ read after s = read heap s := by
  have fits := valid.fits
  refine ⟨⟨fits, fun has => same has ▸ valid.backed has⟩, ?_⟩
  rcases Nat.eq_zero_or_pos s.capacity with without | has
  · have empty : s.length = 0 := by omega
    rw [read, read, empty, List.take_zero, List.take_zero]
  · rw [read, read, same has]

theorem overwrite_nil (old : List Item) (position : Nat) : overwrite old position [] = old := by
  rw [overwrite, List.append_nil, List.length_nil, Nat.add_zero, List.take_append_drop]

theorem length_overwrite {old : List Item} {position : Nat}
    (inside : position + items.length ≤ old.length) :
    (overwrite old position items).length = old.length := by
  simp only [overwrite, List.length_append, List.length_take, List.length_drop]
  omega

theorem read_overwrite {old : List Item} {start length : Nat}
    (inside : start + length + items.length ≤ old.length) :
    ((overwrite old (start + length) items).drop start).take (length + items.length) =
      (old.drop start).take length ++ items := by
  have front : (old.take start).length = start := List.length_take_of_le (by omega)
  have taken : ((old.drop start).take length ++ items).length = length + items.length := by
    rw [List.length_append, List.length_take_of_le (by rw [List.length_drop]; omega)]
  rw [overwrite, List.take_add (i := start), List.append_assoc, List.append_assoc,
    List.drop_left' front,
    ← List.append_assoc, List.take_left' taken]

end Cells

theorem append_within (valid : s.Valid heap) (room : s.length + items.length ≤ s.capacity) :
    Becomes heap s (read heap s ++ items)
      (heap.modify s.array fun old => overwrite old (s.start + s.length) items)
      { s with length := s.length + items.length } := by
  rcases Nat.eq_zero_or_pos s.capacity with without | has
  · obtain rfl : items = [] := List.eq_nil_of_length_eq_zero (by omega)
    have same : (heap.modify s.array fun old => overwrite old (s.start + s.length) []) = heap := by
      simp only [overwrite_nil]
      exact List.modify_id _ _
    rw [same, List.append_nil]
    exact ⟨valid, rfl, fun t whole apart => ⟨whole, rfl, apart⟩⟩
  · have backed := valid.backed has
    have inside : s.start + s.length + items.length ≤ (cells heap s.array).length := by omega
    have self := cells_modify_self (valid.array_lt has) fun old =>
      overwrite old (s.start + s.length) items
    refine ⟨⟨room, fun _ => ?_⟩, ?_, fun t whole apart => ?_⟩
    · rw [self, length_overwrite inside]
      exact backed
    · rw [read, self]
      exact read_overwrite inside
    · obtain ⟨valid, reads⟩ := whole.unchanged fun some_ => cells_modify_ne (apart has some_) _
      exact ⟨valid, reads, apart⟩

theorem append_becomes (zero : Item) (spare : Nat → Nat → Nat) (valid : s.Valid heap)
    (items : List Item) :
    Becomes heap s (read heap s ++ items) (append zero spare heap s items).1
      (append zero spare heap s items).2 := by
  unfold append
  dsimp only
  split
  next room => exact append_within valid room
  next =>
    have length : (read heap s ++ items).length = s.length + items.length := by
      rw [List.length_append, length_read valid]
    refine ⟨⟨Nat.le_add_right .., fun _ => ?_⟩, ?_, fun t whole apart => ?_⟩
    · refine Nat.le_of_eq ?_
      rw [cells_new, List.length_append, List.length_replicate, length, Nat.zero_add]
    · rw [read, cells_new, List.drop_zero, List.take_left' length]
    · obtain ⟨valid, reads⟩ := whole.unchanged fun has => cells_append (whole.array_lt has) _
      exact ⟨valid, reads, fun _ has => Nat.ne_of_gt (whole.array_lt has)⟩

/-- The items behind the one that goes move up by one, all of them read before any is written. -/
theorem remove_becomes (zero : Item) (spare : Nat → Nat → Nat) (valid : s.Valid heap)
    (inside : i < s.length) :
    Becomes heap s ((read heap s).eraseIdx i) (remove zero spare heap s i).1
      (remove zero spare heap s i).2 := by
  have fits := valid.fits
  have front : (s.part 0 i).Valid heap := by
    refine ⟨?_, fun _ => ?_⟩
    · show i - 0 ≤ s.capacity - 0
      omega
    · exact valid.backed (by omega)
  have items : read heap (s.part 0 i) ++ read heap (s.part (i + 1) s.length) =
      (read heap s).eraseIdx i := by
    rw [List.eraseIdx_eq_take_drop_succ, read, read, read, List.take_take,
      List.drop_take, List.drop_drop, Nat.min_eq_left (Nat.le_of_lt inside)]
    rfl
  have removed := append_becomes zero spare front (read heap (s.part (i + 1) s.length))
  rw [items] at removed
  exact ⟨removed.valid, removed.reads, fun t whole apart => removed.frame t whole apart⟩

theorem copy_becomes (zero : Item) (spare : Nat → Nat → Nat) (heap : Heap Item) (s : Slice) :
    Becomes heap .nil (read heap s) (copy zero spare heap s).1 (copy zero spare heap s).2 := by
  have copied := append_becomes zero spare (valid_nil heap) (read heap s)
  rwa [read_nil, List.nil_append] at copied

section Families

universe v

variable {Key : Type v} {slices : Key → Slice} {lists : Key → List Item}

/-- Slices of one heap that share no array, with what they hold. -/
structure Family (heap : Heap Item) (slices : Key → Slice) (lists : Key → List Item) : Prop where
  valid : ∀ key, (slices key).Valid heap
  reads : ∀ key, read heap (slices key) = lists key
  apart : ∀ key another, key ≠ another → Apart (slices key) (slices another)

variable [DecidableEq Key] {key : Key}

theorem Family.set (family : Family heap slices lists)
    (becomes : Becomes heap (slices key) items after result) :
    Family after (Function.update slices key result) (Function.update lists key items) := by
  have others : ∀ another, another ≠ key → (slices another).Valid after ∧
      read after (slices another) = read heap (slices another) ∧ Apart result (slices another) :=
        fun another different =>
    becomes.frame (slices another) (family.valid another) (family.apart key another different.symm)
  refine ⟨fun another => ?_, fun another => ?_, fun one another different => ?_⟩
  · by_cases same : another = key
    · rw [same, Function.update_self]
      exact becomes.valid
    · rw [Function.update_of_ne same]
      exact (others another same).1
  · by_cases same : another = key
    · rw [same, Function.update_self, Function.update_self]
      exact becomes.reads
    · rw [Function.update_of_ne same, Function.update_of_ne same, (others another same).2.1]
      exact family.reads another
  · by_cases first : one = key
    · rw [first, Function.update_self, Function.update_of_ne (first ▸ different.symm)]
      exact (others another (first ▸ different.symm)).2.2
    · rw [Function.update_of_ne first]
      by_cases second : another = key
      · rw [second, Function.update_self]
        exact (others one first).2.2.symm
      · rw [Function.update_of_ne second]
        exact family.apart one another different

theorem Family.clear (family : Family heap slices lists) (key : Key) :
    Family heap (Function.update slices key .nil) (Function.update lists key []) :=
  family.set ⟨valid_nil heap, read_nil heap, fun t valid _ => ⟨valid, rfl, apart_nil t⟩⟩

end Families

end OpenScale.Library.GoSlice
