import Mathlib.Data.List.Sort

/-! A stable sort by a yes or no: those with the one come first, and otherwise everything stays in
its order. -/

namespace OpenScale.Library

universe u

variable {Item : Type u} {before : Item → Item → Bool} {key : Item → Bool}

/-- The comparison lets an item stand before another one unless only the other one has the key. -/
def KeyFirst (before : Item → Item → Bool) (key : Item → Bool) : Prop :=
  ∀ first second, before first second = true ↔ (key second = true → key first = true)

theorem KeyFirst.trans (keyFirst : KeyFirst before key) (a b c : Item) (one : before a b = true)
    (two : before b c = true) : before a c = true :=
  (keyFirst a c).mpr ((keyFirst a b).mp one ∘ (keyFirst b c).mp two)

theorem KeyFirst.total (keyFirst : KeyFirst before key) (a b : Item) :
    (before a b || before b a) = true := by
  rw [Bool.or_eq_true, keyFirst, keyFirst]
  cases key a <;> simp

theorem KeyFirst.eq_partition (keyFirst : KeyFirst before key) {items : List Item}
    (sorted : items.Pairwise fun a b => before a b = true) :
    items = items.filter key ++ items.filter fun item => !key item := by
  induction items with
  | nil => rfl
  | cons item items ih =>
    obtain ⟨first, sorted⟩ := List.pairwise_cons.mp sorted
    cases has : key item with
    | true =>
      simp only [List.filter_cons, has, if_true, Bool.not_true, Bool.false_eq_true, if_false,
        List.cons_append]
      rw [← ih sorted]
    | false =>
      have none : items.filter key = [] := by
        refine List.filter_eq_nil_iff.mpr fun later member also => ?_
        rw [(keyFirst item later).mp (first later member) also] at has
        cases has
      have all : items.filter (fun item => !key item) = items := by
        rw [none, List.nil_append] at ih
        exact (ih sorted).symm
      simp [has, none, all]

/-- Items of one kind are a sublist of the sorted list, and it has no more of them. -/
theorem KeyFirst.filter_mergeSort (keyFirst : KeyFirst before key)
    (items : List Item) (kind : Bool) :
    (items.mergeSort before).filter (fun item => key item == kind) = items.filter fun item =>
      key item == kind := by
  have alike : (items.filter fun item => key item == kind).Pairwise fun a b =>
    before a b = true := by
    refine List.pairwise_of_forall_mem_list fun a one b two => (keyFirst a b).mpr fun has => ?_
    have one := (List.mem_filter.mp one).2
    have two := (List.mem_filter.mp two).2
    simp only [beq_iff_eq] at one two
    rw [one, ← two, has]
  have inside :=
    (List.sublist_mergeSort keyFirst.trans keyFirst.total alike List.filter_sublist).filter
    fun item => key item == kind
  rw [List.filter_filter] at inside
  simp only [Bool.and_self] at inside
  have perm : (items.mergeSort before).Perm items := List.mergeSort_perm items before
  exact (inside.eq_of_length (perm.filter _).length_eq.symm).symm

theorem KeyFirst.mergeSort_eq (keyFirst : KeyFirst before key) (items : List Item) :
    items.mergeSort before = items.filter key ++ items.filter fun item => !key item := by
  have sorted := keyFirst.eq_partition (List.pairwise_mergeSort keyFirst.trans keyFirst.total items)
  have yes := keyFirst.filter_mergeSort items true
  have no := keyFirst.filter_mergeSort items false
  simp only [beq_true, beq_false] at yes no
  rw [yes, no] at sorted
  exact sorted

end OpenScale.Library
