import Mathlib

/-! Rows by a key: the fibers of a list, and the groups of a relational GROUP BY. -/

namespace OpenScale.Library

universe u v w

variable {Row : Type u} {Key : Type v} {Coarse : Type w} [DecidableEq Key] [DecidableEq Coarse]

def fiber (key : Row → Key) (rows : List Row) (wanted : Key) : List Row :=
    rows.filter fun row => key row = wanted

theorem mem_fiber {key : Row → Key} {rows : List Row} {wanted : Key} {row : Row} :
    row ∈ fiber key rows wanted ↔ row ∈ rows ∧ key row = wanted := by
  simp [fiber]

/-- Fibers over distinct keys that cover all rows hold each row once. -/
theorem fibers_perm {key : Row → Key} {keys : List Key} (nodup : keys.Nodup) {rows : List Row}
    (covered : ∀ row ∈ rows, key row ∈ keys) : (keys.flatMap (fiber key rows)).Perm rows := by
  induction keys generalizing rows with
  | nil =>
    have empty : rows = [] := List.eq_nil_iff_forall_not_mem.mpr fun row member =>
      List.not_mem_nil (covered row member)
    simp [empty]
  | cons first keys ih =>
    obtain ⟨fresh, nodup⟩ := List.nodup_cons.mp nodup
    let others := rows.filter fun row => !decide (key row = first)
    have later : ∀ wanted ∈ keys, fiber key rows wanted = fiber key others wanted := by
      intro wanted member
      simp only [fiber, others, List.filter_filter]
      refine List.filter_congr fun row _ => ?_
      by_cases same : key row = wanted
      · have other : wanted ≠ first := fun same => fresh (same ▸ member)
        simp [same, other]
      · simp [same]
    have rest : (keys.flatMap (fiber key others)).Perm others := by
      refine ih nodup fun row member => ?_
      obtain ⟨inside, other⟩ := List.mem_filter.mp member
      exact List.mem_of_ne_of_mem (by simpa using other) (covered row inside)
    rw [List.flatMap_cons, List.flatMap_congr later]
    exact (rest.append_left _).trans (List.filter_append_perm _ rows)

/-- What is counted fiber by fiber is all rows. -/
theorem length_fibers {key : Row → Key} {keys : List Key} (nodup : keys.Nodup) {rows : List Row}
    (covered : ∀ row ∈ rows, key row ∈ keys) : (keys.map fun wanted =>
        (fiber key rows wanted).length).sum = rows.length := by
  rw [← (fibers_perm nodup covered).length_eq, List.length_flatMap]

def groupBy (key : Row → Key) (rows : List Row) : List (Key × List Row) :=
  (rows.map key).dedup.map fun wanted => (wanted, fiber key rows wanted)

section Groups

variable {key : Row → Key} {rows : List Row} {group : Key × List Row}

theorem mem_groupBy : group ∈ groupBy key rows ↔ group.1 ∈ rows.map key ∧
    group.2 = fiber key rows group.1 := by
  unfold groupBy
  rw [List.mem_map]
  constructor
  · intro found
    obtain ⟨wanted, member, rfl⟩ := found
    exact ⟨List.mem_dedup.mp member, rfl⟩
  · intro found
    obtain ⟨member, same⟩ := found
    exact ⟨group.1, List.mem_dedup.mpr member, Prod.ext rfl same.symm⟩

theorem groupBy_keys (key : Row → Key) (rows : List Row) :
    (groupBy key rows).map Prod.fst = (rows.map key).dedup := by
  simp [groupBy, Function.comp_def]

theorem groupBy_nodup (key : Row → Key) (rows : List Row) :
    ((groupBy key rows).map Prod.fst).Nodup := by
  rw [groupBy_keys]
  exact List.nodup_dedup _

theorem group_nonempty (member : group ∈ groupBy key rows) : 0 < group.2.length := by
  obtain ⟨present, same⟩ := mem_groupBy.mp member
  obtain ⟨row, inside, found⟩ := List.mem_map.mp present
  rw [same]
  exact List.length_pos_of_mem (mem_fiber.mpr ⟨inside, found⟩)

/-- The groups whose keys agree on something coarser hold the rows that do. -/
theorem groupBy_perm (key : Row → Key) (coarse : Key → Coarse) (rows : List Row) (wanted : Coarse) :
    (((groupBy key rows).filter fun group => coarse group.1 = wanted).flatMap Prod.snd).Perm
      (fiber (coarse ∘ key) rows wanted) := by
  let keys := (rows.map key).dedup.filter fun k => coarse k = wanted
  have nodup : keys.Nodup := (List.nodup_dedup _).filter _
  have whole : ((groupBy key rows).filter fun group => coarse group.1 = wanted).flatMap Prod.snd =
      keys.flatMap (fiber key (fiber (coarse ∘ key) rows wanted)) := by
    unfold groupBy
    rw [List.filter_map, List.flatMap_map]
    refine List.flatMap_congr fun k member => ?_
    have agrees : coarse k = wanted := by simpa using (List.mem_filter.mp member).2
    simp only [fiber, List.filter_filter]
    refine List.filter_congr fun row _ => ?_
    by_cases same : key row = k
    · simp [same, agrees]
    · simp [same]
  rw [whole]
  refine fibers_perm nodup fun row member => ?_
  obtain ⟨inside, agrees⟩ := mem_fiber.mp member
  exact List.mem_filter.mpr ⟨List.mem_dedup.mpr (List.mem_map_of_mem inside), by simpa using agrees⟩

theorem sum_groupBy (key : Row → Key) (coarse : Key → Coarse) (rows : List Row) (wanted : Coarse) :
    (((groupBy key rows).filter fun group => coarse group.1 = wanted).map fun group =>
      group.2.length).sum = (fiber (coarse ∘ key) rows wanted).length := by
  rw [← (groupBy_perm key coarse rows wanted).length_eq, List.length_flatMap]

/-- What an aggregate says of a group is what it says of the fiber. -/
theorem mem_aggregate {Value : Type w} (aggregate : List Row → Value) {wanted : Key}
    {value : Value} :
    (wanted, value) ∈ (groupBy key rows).map (fun group => (group.1, aggregate group.2)) ↔
      wanted ∈ rows.map key ∧ value = aggregate (fiber key rows wanted) := by
  rw [List.mem_map]
  constructor
  · intro found
    obtain ⟨group, member, same⟩ := found
    obtain ⟨present, inside⟩ := mem_groupBy.mp member
    cases same
    exact ⟨present, congrArg aggregate inside⟩
  · intro found
    obtain ⟨present, rfl⟩ := found
    exact ⟨(wanted, fiber key rows wanted), mem_groupBy.mpr ⟨present, rfl⟩, rfl⟩

theorem aggregate_nodup {Value : Type w} (aggregate : List Row → Value) (key : Row → Key)
    (rows : List Row) :
    ((groupBy key rows).map fun group => (group.1, aggregate group.2)).Nodup := by
  refine List.Nodup.of_map Prod.fst ?_
  rw [List.map_map]
  exact groupBy_nodup key rows

def countBy (key : Row → Key) (rows : List Row) : List (Key × Nat) :=
  (groupBy key rows).map fun group => (group.1, group.2.length)

theorem mem_countBy {wanted : Key} {count : Nat} :
    (wanted, count) ∈ countBy key rows ↔
    wanted ∈ rows.map key ∧ count = (fiber key rows wanted).length :=
  mem_aggregate List.length

theorem sum_countBy (key : Row → Key) (coarse : Key → Coarse) (rows : List Row) (wanted : Coarse) :
    (((countBy key rows).filter fun counted => coarse counted.1 = wanted).map Prod.snd).sum =
      (fiber (coarse ∘ key) rows wanted).length := by
  rw [← sum_groupBy, countBy, List.filter_map, List.map_map]
  rfl

theorem sum_countBy_all (key : Row → Key) (rows : List Row) :
    ((countBy key rows).map Prod.snd).sum = rows.length := by
  have sums := sum_countBy key (fun _ => ()) rows ()
  simpa [fiber] using sums

end Groups

section Sums

variable {key : Row → Key} {count : Row → Nat} {rows : List Row}

def sumBy (key : Row → Key) (count : Row → Nat) (rows : List Row) : List (Key × Nat) :=
  (groupBy key rows).map fun group => (group.1, (group.2.map count).sum)

theorem mem_sumBy {wanted : Key} {total : Nat} :
    (wanted, total) ∈ sumBy key count rows ↔ wanted ∈ rows.map key ∧
        total = ((fiber key rows wanted).map count).sum :=
  mem_aggregate fun rows => (rows.map count).sum

theorem sumBy_map {Other : Type u} (view : Other → Row) (others : List Other) :
    sumBy key count (others.map view) = sumBy (key ∘ view) (count ∘ view) others := by
  simp only [sumBy, groupBy, fiber, List.map_map, List.filter_map, Function.comp_def]

/-- Counting by a coarser key is adding up the counts of the finer one. -/
theorem countBy_perm_sumBy (key : Row → Key) (coarse : Key → Coarse) (rows : List Row) :
    (countBy (coarse ∘ key) rows).Perm (sumBy (coarse ∘ Prod.fst) Prod.snd (countBy key rows)) := by
  have counts : (countBy (coarse ∘ key) rows).Nodup := aggregate_nodup List.length _ rows
  have sums : (sumBy (coarse ∘ Prod.fst) Prod.snd (countBy key rows)).Nodup :=
    aggregate_nodup (fun counted => (counted.map Prod.snd).sum) _ _
  refine (List.perm_ext_iff_of_nodup counts sums).mpr fun counted => ?_
  obtain ⟨wanted, number⟩ := counted
  have total : ((fiber (coarse ∘ Prod.fst) (countBy key rows) wanted).map Prod.snd).sum =
      (fiber (coarse ∘ key) rows wanted).length := sum_countBy key coarse rows wanted
  have keys : wanted ∈ rows.map (coarse ∘ key) ↔
      wanted ∈ (countBy key rows).map (coarse ∘ Prod.fst) := by
    rw [countBy, List.map_map]
    simp [groupBy]
  rw [mem_countBy, mem_sumBy, total, keys]

end Sums

end OpenScale.Library
