import Mathlib.Data.List.Sort
import Mathlib.Data.List.Nodup
import Mathlib.Data.List.Pairwise
import Mathlib.Data.List.Perm.Basic

/-! Pages of rows that are ordered by a key that need not tell them apart. Rows that tie may come
in another order for each page. -/

namespace OpenScale.Library.Paging

universe u v

variable {α : Type u} {β : Type v} [LinearOrder β] (key : α → β)

/-- One of the orders in which ORDER BY key DESC may return the rows. -/
structure Orders (rows order : List α) : Prop where
  perm : order.Perm rows
  sorted : order.Pairwise fun x y => key y ≤ key x

/-- The keys of the rows, in the order that all of these orders share. -/
def sortedKeys (rows : List α) : List β := (rows.map key).mergeSort fun a b => decide (b ≤ a)

def page (size index : Nat) (order : List α) : List α := (order.drop (index * size)).take size

/-- The pages of the first indices, each from an order of its own. -/
def walk (size count : Nat) (orders : Nat → List α) : List α :=
  (List.range count).flatMap fun index => page size index (orders index)

/-- Rows before this position do not tie with rows after it. -/
def Clean (keys : List β) (position : Nat) : Prop :=
  0 < position → position < keys.length → keys[position - 1]? ≠ keys[position]?

variable {key} {rows order other : List α} {position : Nat}

theorem pairwise_mergeSort_desc (key : α → β) (items : List α) :
    (items.mergeSort fun x y => decide (key y ≤ key x)).Pairwise fun x y => key y ≤ key x := by
  have sorted : (items.mergeSort fun x y => decide (key y ≤ key x)).Pairwise
      fun x y => decide (key y ≤ key x) = true := by
    refine List.pairwise_mergeSort (fun x y z first second => ?_) (fun x y => ?_) items
    · simp only [decide_eq_true_eq] at first second ⊢
      exact second.trans first
    · simp only [Bool.or_eq_true, decide_eq_true_eq]
      exact le_total (key y) (key x)
  exact sorted.imp of_decide_eq_true

theorem Orders.keys_eq (orders : Orders key rows order) : order.map key = sortedKeys key rows := by
  have same : (order.map key).Perm (sortedKeys key rows) :=
    (orders.perm.map key).trans (List.mergeSort_perm _ _).symm
  exact List.Perm.eq_of_pairwise (fun a b _ _ below above => le_antisymm above below)
    (List.pairwise_map.mpr orders.sorted) (pairwise_mergeSort_desc id _) same

theorem exists_orders (key : α → β) (rows : List α) : ∃ order, Orders key rows order :=
  ⟨_, List.mergeSort_perm _ _, pairwise_mergeSort_desc key rows⟩

theorem Orders.length_eq (orders : Orders key rows order) : order.length = rows.length :=
  orders.perm.length_eq

/-- What stands before a clean cut is a matter of the keys alone. -/
theorem take_eq_filter (sorted : order.Pairwise fun x y => key y ≤ key x) {last first : α}
    (before : order[position]? = some last) (after : order[position + 1]? = some first)
    (apart : key last ≠ key first) :
    order.take (position + 1) = order.filter fun x => key last ≤ key x := by
  obtain ⟨inside, rfl⟩ := List.getElem?_eq_some_iff.mp before
  obtain ⟨next, rfl⟩ := List.getElem?_eq_some_iff.mp after
  have below : key order[position + 1] < key order[position] :=
    lt_of_le_of_ne (List.pairwise_iff_getElem.mp sorted _ _ inside next (Nat.lt_succ_self _))
      apart.symm
  have front : (order.take (position + 1)).filter (fun x => key order[position] ≤ key x) =
      order.take (position + 1) := by
    refine List.filter_eq_self.mpr fun x member => ?_
    obtain ⟨i, small, rfl⟩ := List.getElem_of_mem member
    rw [List.length_take] at small
    rw [List.getElem_take, decide_eq_true_eq]
    rcases Nat.lt_or_ge i position with less | same
    · exact List.pairwise_iff_getElem.mp sorted _ _ (by omega) inside less
    · obtain rfl : i = position := by omega
      exact le_rfl
  have back : (order.drop (position + 1)).filter (fun x => key order[position] ≤ key x) = [] := by
    refine List.filter_eq_nil_iff.mpr fun x member => ?_
    obtain ⟨i, small, rfl⟩ := List.getElem_of_mem member
    rw [List.length_drop] at small
    rw [List.getElem_drop, decide_eq_true_eq, not_le]
    refine lt_of_le_of_lt ?_ below
    rcases Nat.eq_zero_or_pos i with rfl | positive
    · exact le_rfl
    · exact List.pairwise_iff_getElem.mp sorted _ _ next (by omega) (by omega)
  calc order.take (position + 1)
      = (order.take (position + 1)).filter (fun x => key order[position] ≤ key x) ++
        (order.drop (position + 1)).filter (fun x => key order[position] ≤ key x) := by
        rw [front, back, List.append_nil]
    _ = _ := by rw [← List.filter_append, List.take_append_drop]

theorem Orders.key_at (orders : Orders key rows order) {k : β}
    (found : (sortedKeys key rows)[position]? = some k) :
    ∃ x, order[position]? = some x ∧ key x = k := by
  rw [← orders.keys_eq, List.getElem?_map] at found
  exact Option.map_eq_some_iff.mp found

theorem take_perm (first : Orders key rows order) (second : Orders key rows other)
    (clean : Clean (sortedKeys key rows) position) :
    (order.take position).Perm (other.take position) := by
  have size : (sortedKeys key rows).length = order.length := by
    rw [← first.keys_eq, List.length_map]
  have sizes : order.length = other.length := first.length_eq.trans second.length_eq.symm
  cases position with
  | zero => exact .refl _
  | succ position =>
    by_cases inside : position + 1 < (sortedKeys key rows).length
    · have apart := clean (Nat.succ_pos _) inside
      have before := List.getElem?_eq_getElem (Nat.lt_of_succ_lt inside)
      have after := List.getElem?_eq_getElem inside
      rw [Nat.add_sub_cancel, before, after] at apart
      obtain ⟨last, lastAt, lastKey⟩ := first.key_at before
      obtain ⟨next, nextAt, nextKey⟩ := first.key_at after
      obtain ⟨last', lastAt', lastKey'⟩ := second.key_at before
      obtain ⟨next', nextAt', nextKey'⟩ := second.key_at after
      have differ : key last ≠ key next := by
        rw [lastKey, nextKey]
        exact fun same => apart (congrArg some same)
      have differ' : key last' ≠ key next' := by rwa [lastKey', nextKey', ← lastKey, ← nextKey]
      rw [take_eq_filter first.sorted lastAt nextAt differ,
        take_eq_filter second.sorted lastAt' nextAt' differ', lastKey, lastKey']
      exact (first.perm.trans second.perm.symm).filter _
    · rw [List.take_of_length_le (by omega), List.take_of_length_le (by omega)]
      exact first.perm.trans second.perm.symm

theorem page_perm {size index : Nat} (first : Orders key rows order)
    (second : Orders key rows other)
    (front : Clean (sortedKeys key rows) (index * size))
    (back : Clean (sortedKeys key rows) ((index + 1) * size)) :
    (page size index order).Perm (page size index other) := by
  have split : ∀ order : List α, order.take ((index + 1) * size) =
      order.take (index * size) ++ page size index order := by
    intro order
    rw [Nat.succ_mul, List.take_add]
    rfl
  have whole := take_perm first second back
  rw [split order, split other] at whole
  exact (List.perm_append_left_iff _).mp
    (((take_perm first second front).append_right _).symm.trans whole)

theorem walk_const (size count : Nat) (order : List α) :
    walk size count (fun _ => order) = order.take (count * size) := by
  induction count with
  | zero => simp [walk]
  | succ count ih =>
    rw [walk, List.range_succ, List.flatMap_append, Nat.succ_mul, List.take_add]
    congr 1
    simp [page]

variable {size count : Nat}

/-- With clean cuts between them the pages make up the rows. -/
theorem walk_perm {orders : Nat → List α} (enough : rows.length ≤ count * size)
    (each : ∀ index, Orders key rows (orders index))
    (clean : ∀ index, Clean (sortedKeys key rows) (index * size)) :
    (walk size count orders).Perm rows := by
  have same : (walk size count orders).Perm (walk size count fun _ => orders 0) := by
    refine List.Perm.flatMap_left _ fun index _ => ?_
    exact page_perm (each index) (each 0) (clean index) (clean (index + 1))
  rw [walk_const, List.take_of_length_le ((each 0).length_eq ▸ enough)] at same
  exact same.trans (each 0).perm

/-- Two neighbours that tie can change places. -/
theorem Orders.swap {front back : List α} {x y : α}
    (orders : Orders key rows (front ++ x :: y :: back))
    (tie : key x = key y) : Orders key rows (front ++ y :: x :: back) := by
  refine ⟨(List.Perm.append_left front (.swap ..)).trans orders.perm, ?_⟩
  have sorted := orders.sorted
  simp only [List.pairwise_append, List.pairwise_cons, List.mem_cons, forall_eq_or_imp] at sorted ⊢
  obtain ⟨before, ⟨⟨_, first⟩, second, after⟩, across⟩ := sorted
  refine ⟨before, ⟨⟨tie.le, second⟩, first, after⟩, ?_⟩
  intro z member
  obtain ⟨overX, overY, rest⟩ := across z member
  exact ⟨overY, overX, rest⟩

theorem mem_page {x : α} {index : Nat} (inside : Nat) (small : inside < size)
    (found : order[index * size + inside]? = some x) : x ∈ page size index order := by
  refine List.mem_of_getElem? (i := inside) ?_
  rw [page, List.getElem?_take_of_lt small, List.getElem?_drop, found]

/-- A row that ties across the end of a page can be on that page and on the next. -/
theorem exists_repeated {index : Nat} (inside : (index + 1) * size < rows.length)
    (positive : 0 < size) (ties : ¬ Clean (sortedKeys key rows) ((index + 1) * size)) :
    ∃ order other x, Orders key rows order ∧ Orders key rows other ∧
      x ∈ page size index order ∧ x ∈ page size (index + 1) other := by
  obtain ⟨order, orders⟩ := exists_orders key rows
  have length := orders.length_eq
  simp only [Clean, not_forall, not_not] at ties
  obtain ⟨boundary, _, same⟩ := ties
  obtain ⟨before, split⟩ : ∃ before, (index + 1) * size = before + 1 :=
    ⟨_, (Nat.succ_pred boundary.ne').symm⟩
  have room : before + 1 < order.length := by omega
  rw [split, Nat.add_sub_cancel, ← orders.keys_eq, List.getElem?_map, List.getElem?_map,
    List.getElem?_eq_getElem (by omega), List.getElem?_eq_getElem (by omega), Option.map_some,
    Option.map_some, Option.some.injEq] at same
  have parts : order = order.take before ++ order[before] :: order[before + 1] ::
      order.drop (before + 2) := by
    rw [List.getElem_cons_drop, List.getElem_cons_drop, List.take_append_drop]
  refine ⟨order, _, order[before], orders, (parts ▸ orders).swap same, ?_, ?_⟩
  · refine mem_page (size - 1) (by omega) ?_
    rw [show index * size + (size - 1) = before by rw [Nat.succ_mul] at split; omega]
    exact List.getElem?_eq_getElem (by omega)
  · refine mem_page 0 positive ?_
    generalize order[before] = x, order[before + 1] = y
    rw [split, List.getElem?_append_right (by rw [List.length_take]; omega), List.length_take,
      Nat.min_eq_left (by omega), show before + 1 + 0 - before = 1 by omega]
    rfl

/-- The pages make up the rows in each choice of orders exactly when no rows tie across the end of
a page. -/
theorem walk_perm_iff (count : Nat) (distinct : rows.Nodup) (positive : 0 < size)
    (enough : rows.length ≤ count * size) :
    (∀ orders : Nat → List α, (∀ index, Orders key rows (orders index)) →
      (walk size count orders).Perm rows) ↔
      ∀ index, Clean (sortedKeys key rows) (index * size) := by
  refine ⟨fun all index => ?_, fun clean orders each => walk_perm enough each clean⟩
  by_contra ties
  have length : (sortedKeys key rows).length = rows.length := by
    rw [sortedKeys, List.length_mergeSort, List.length_map]
  have inside : index * size < rows.length := by
    simp only [Clean, not_forall] at ties
    obtain ⟨_, small, _⟩ := ties
    exact length ▸ small
  cases index with
  | zero => exact ties fun absurd => by simp at absurd
  | succ index =>
    obtain ⟨order, other, x, orders, others, onPage, onNext⟩ := exists_repeated inside positive ties
    have walked := all (fun i => if i = index then order else other) fun i => by
      by_cases here : i = index
      · exact (if_pos here).symm ▸ orders
      · exact (if_neg here).symm ▸ others
    have counted : index + 1 < count := Nat.lt_of_mul_lt_mul_right (inside.trans_le enough)
    have symmetric : Std.Symm (Function.onFun List.Disjoint
        fun i =>
          page size i (if i = index then order else other)) := ⟨fun _ _ disjoint _ left right =>
            disjoint right left⟩
    have apart := (List.nodup_flatMap.mp (walked.nodup_iff.mpr distinct)).2.forall
      (List.mem_range.mpr (Nat.lt_of_succ_lt counted))
      (List.mem_range.mpr counted) (Nat.lt_succ_self index).ne
    simp only [Function.onFun, if_pos, if_neg (Nat.succ_ne_self index)] at apart
    exact apart onPage onNext

end OpenScale.Library.Paging
