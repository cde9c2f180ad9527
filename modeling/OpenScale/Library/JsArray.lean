import OpenScale.Library.JsNumber

/-! Arrays of JavaScript: reading at any index, and `slice` with its indices from either end. -/

namespace OpenScale.Library.JsArray

universe u

variable {Item : Type u} {items : List Item}

/-- A property of `items[index]`, which is undefined outside of the array. -/
def get (items : List Item) (index : Int) : Except JsError Item :=
  match index with
  | .ofNat inside => (items[inside]?).elim (.error .typeError) .ok
  | .negSucc _ => .error .typeError

/-- Indices below zero count from the end. -/
def relative (length : Nat) (index : Int) : Nat :=
  if index < 0 then (max (length + index) 0).toNat else min index.toNat length

def slice (items : List Item) (start stop : Int) : List Item :=
  items.extract (relative items.length start) (relative items.length stop)

theorem get_ok {index : Int} : (∃ item, get items index = .ok item) ↔
    0 ≤ index ∧ index < items.length := by
  cases index with
  | ofNat inside =>
    by_cases within : inside < items.length
    · simp [get, within]
    · simp [get, within]
  | negSucc before =>
    have below : ¬ 0 ≤ Int.negSucc before := by omega
    simp [get, below]

/-- From the front, a slice is cut out of the array. -/
theorem slice_eq_extract {start stop : Int} (front : 0 ≤ start) (later : 0 ≤ stop) :
    slice items start stop = items.extract start.toNat stop.toNat := by
  rw [slice, relative, relative, if_neg (by omega), if_neg (by omega)]
  simp only [List.extract_eq_take_drop]
  by_cases inside : start.toNat ≤ items.length
  · rw [Nat.min_eq_left inside, List.take_eq_take_iff, List.length_drop]
    omega
  · rw [List.drop_eq_nil_of_le (by omega), List.drop_eq_nil_of_le (by omega),
      List.take_nil, List.take_nil]

theorem length_extract (start stop : Nat) :
    (items.extract start stop).length = min stop items.length - start := by
  rw [List.extract_eq_take_drop, List.length_take, List.length_drop]
  omega

theorem extract_extract {start stop first last : Nat} (within : start + last ≤ stop) :
    (items.extract start stop).extract first last = items.extract (start + first)
    (start + last) := by
  simp only [List.extract_eq_take_drop]
  rw [List.drop_take, List.drop_drop, List.take_take]
  congr 1
  omega

theorem exists_around (items : List Item) {start stop : Nat} (ordered : start ≤ stop) :
    ∃ front back, items = front ++ items.extract start stop ++ back := by
  refine ⟨items.take start, items.drop stop, ?_⟩
  have parted : items.drop stop = (items.drop start).drop (stop - start) := by
    rw [List.drop_drop, Nat.add_sub_cancel' ordered]
  rw [List.extract_eq_take_drop, parted, List.append_assoc, List.take_append_drop,
    List.take_append_drop]

end OpenScale.Library.JsArray
