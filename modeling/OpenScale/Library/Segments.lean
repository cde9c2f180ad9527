import Mathlib.Data.List.TakeWhile

/-! Segments of a list between separators, and those of them that hold something. -/

namespace OpenScale.Library

universe u

variable {Item : Type u} {isSeparator holds : Item → Bool}

/-- The segments between separators that hold something. -/
def filled (isSeparator holds : Item → Bool) (items : List Item) : List (List Item) :=
  (items.splitOnP isSeparator).filter fun segment => segment.any holds

def firstSegment (isSeparator : Item → Bool) (items : List Item) : List Item :=
  items.takeWhile fun item => !isSeparator item

/-- The first separator and everything after it. -/
def afterFirst (isSeparator : Item → Bool) (items : List Item) : List Item :=
  items.dropWhile fun item => !isSeparator item

theorem firstSegment_append (isSeparator : Item → Bool) (items : List Item) :
    firstSegment isSeparator items ++ afterFirst isSeparator items = items :=
  List.takeWhile_append_dropWhile

theorem firstSegment_clean (isSeparator : Item → Bool) (items : List Item) :
    ∀ item ∈ firstSegment isSeparator items, isSeparator item = false := by
  intro item member
  simpa using List.mem_takeWhile_imp member

theorem afterFirst_cases (isSeparator : Item → Bool) (items : List Item) :
    afterFirst isSeparator items = [] ∨
    ∃ separator rest, isSeparator separator = true ∧
    afterFirst isSeparator items = separator :: rest := by
  cases shape : afterFirst isSeparator items with
  | nil => exact .inl rfl
  | cons separator rest =>
    have head := List.head?_dropWhile_not (fun item => !isSeparator item) items
    rw [show items.dropWhile (fun item => !isSeparator item) = separator :: rest from shape] at head
    exact .inr ⟨separator, rest, by simpa using head, rfl⟩

/-- Where two lists first have a separator is where they are cut. -/
theorem cut_injective {front front' back back' : List Item} {separator : Item}
    (plain : separator ∉ front)
    (plain' : separator ∉ front')
    (same : front ++ separator :: back = front' ++ separator :: back') :
    front = front' ∧ back = back' := by
  induction front generalizing front' with
  | nil =>
    cases front' with
    | nil => exact ⟨rfl, (List.cons.inj same).2⟩
    | cons item front' => exact absurd (List.mem_cons.mpr (.inl (List.cons.inj same).1)) plain'
  | cons item front ih =>
    cases front' with
    | nil => exact absurd (List.mem_cons.mpr (.inl (List.cons.inj same).1.symm)) plain
    | cons item' front' =>
      obtain ⟨rfl, rest⟩ := List.cons.inj same
      obtain ⟨rfl, ends⟩ := ih (fun member => plain (List.mem_cons_of_mem _ member))
        (fun member => plain' (List.mem_cons_of_mem _ member)) rest
      exact ⟨rfl, ends⟩

theorem clean_of_mem_splitOnP {items segment : List Item}
    (member : segment ∈ items.splitOnP isSeparator) :
    ∀ item ∈ segment, isSeparator item = false := by
  induction items generalizing segment with
  | nil =>
    rw [List.splitOnP_nil, List.mem_singleton] at member
    simp [member]
  | cons first items ih =>
    rw [List.splitOnP_cons_eq_if_modifyHead] at member
    split at member
    · rcases List.mem_cons.mp member with rfl | later
      · nofun
      · exact ih later
    · rename_i plain
      cases shape : items.splitOnP isSeparator with
      | nil => exact absurd shape (List.splitOnP_ne_nil _ _)
      | cons head segments =>
        rw [shape] at member ih
        rcases List.mem_cons.mp member with rfl | later
        · intro item here
          rcases List.mem_cons.mp here with rfl | inside
          · simpa using plain
          · exact ih (List.mem_cons_self ..) item inside
        · exact ih (List.mem_cons_of_mem _ later)

theorem filled_append_cons {first rest : List Item} {separator : Item}
    (clean : ∀ item ∈ first, isSeparator item = false) (separates : isSeparator separator = true) :
    filled isSeparator holds (first ++ separator :: rest) =
      (if first.any holds then [first] else []) ++ filled isSeparator holds rest := by
  unfold filled
  rw [List.splitOnP_append_cons_of_forall_mem clean separator separates, List.filter_cons]
  split <;> rfl

theorem filled_clean {items : List Item} (clean : ∀ item ∈ items, isSeparator item = false) :
    filled isSeparator holds items = if items.any holds then [items] else [] := by
  unfold filled
  rw [List.splitOnP_eq_singleton clean, List.filter_cons, List.filter_nil]

theorem filled_eq_nil_iff (apart : ∀ item, isSeparator item = true → holds item = false)
    (items : List Item) :
    filled isSeparator holds items = [] ↔ ∀ item ∈ items, holds item = false := by
  induction length : items.length using Nat.strongRecOn generalizing items with
  | _ size ih =>
    subst length
    have parts := firstSegment_append isSeparator items
    have clean := firstSegment_clean isSeparator items
    rcases afterFirst_cases isSeparator items with whole | ⟨separator, rest, separates, after⟩
    · rw [whole, List.append_nil] at parts
      rw [parts] at clean
      simp [filled_clean clean]
    · rw [after] at parts
      have shorter : rest.length < items.length := by
        rw [← parts, List.length_append, List.length_cons]
        omega
      rw [← parts, filled_append_cons clean separates, List.append_eq_nil_iff,
        ih _ shorter rest rfl]
      simp [apart separator separates, or_imp, forall_and]

/-- Where the first segment holds something, the others are those behind its separator. -/
theorem filled_eq_cons {items : List Item}
    (first : (firstSegment isSeparator items).any holds = true) : filled isSeparator holds items =
      firstSegment isSeparator items ::
      filled isSeparator holds (afterFirst isSeparator items).tail := by
  have parts := firstSegment_append isSeparator items
  have clean := firstSegment_clean isSeparator items
  rcases afterFirst_cases isSeparator items with whole | ⟨separator, rest, separates, after⟩
  · have alone : filled isSeparator holds (firstSegment isSeparator items) =
      [firstSegment isSeparator items] := by
      rw [filled_clean clean, if_pos first]
    rw [whole, List.append_nil] at parts
    have none_ : filled isSeparator holds [] = [] := rfl
    rw [parts] at alone
    rw [whole, List.tail_nil, none_, parts, alone]
  · have front : filled isSeparator holds (firstSegment isSeparator items ++ separator :: rest) =
        firstSegment isSeparator items :: filled isSeparator holds rest := by
      rw [filled_append_cons clean separates, if_pos first, List.singleton_append]
    rw [after] at parts ⊢
    rwa [parts] at front

theorem afterFirst_holds_iff (apart : ∀ item, isSeparator item = true → holds item = false)
    (items : List Item) :
    (∀ item ∈ afterFirst isSeparator items, holds item = false) ↔
      ∀ item ∈ (afterFirst isSeparator items).tail, holds item = false := by
  rcases afterFirst_cases isSeparator items with whole | ⟨separator, rest, separates, after⟩
  · rw [whole, List.tail_nil]
  · rw [after, List.tail_cons, List.forall_mem_cons]
    exact and_iff_right (apart separator separates)

/-- Where the first segment holds something, it is the only one that does exactly when
nothing after it holds anything. -/
theorem filled_length_le_one_iff (apart : ∀ item, isSeparator item = true → holds item = false)
    {items : List Item}
    (first : (firstSegment isSeparator items).any holds = true) :
    (filled isSeparator holds items).length ≤ 1 ↔ ∀ item ∈ afterFirst isSeparator items,
        holds item = false := by
  rw [afterFirst_holds_iff apart, ← filled_eq_nil_iff apart, filled_eq_cons first, List.length_cons,
    ← List.length_eq_zero_iff]
  omega

theorem filled_eq_singleton (apart : ∀ item, isSeparator item = true → holds item = false)
    {items : List Item} (first : (firstSegment isSeparator items).any holds = true)
    (after : ∀ item ∈ afterFirst isSeparator items, holds item = false) :
    filled isSeparator holds items = [firstSegment isSeparator items] := by
  rw [filled_eq_cons first,
    (filled_eq_nil_iff apart _).mpr ((afterFirst_holds_iff apart items).mp after)]

end OpenScale.Library
