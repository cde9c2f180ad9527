import OpenScale.Library.Grouping

/-! A map whose entries are made when a row first asks for them and changed by every row after that,
and what it holds when all rows are through: for each key the fold over its fiber. -/

namespace OpenScale.Library

section Maps

variable {Row Key Value : Type} [DecidableEq Key]

/-- `entry, ok := m[key]; if !ok ...`, and then a change of the entry. -/
def enter (entries : AList fun _ : Key => Value) (key : Key) (initial : Value)
    (change : Value → Value) : AList fun _ : Key => Value :=
  entries.insert key (change ((entries.lookup key).getD initial))

/-- `if entry, ok := m[key]; ok`, and then a change of the entry. -/
def amend (entries : AList fun _ : Key => Value) (key : Key) (change : Value → Value) :
    AList fun _ : Key => Value :=
  match entries.lookup key with
  | none => entries
  | some value => entries.insert key (change value)

variable {key : Row → Key} {initial : Row → Value} {change : Row → Value → Value}
  {entries : AList fun _ : Key => Value}
variable {rows : List Row} {wanted : Key}

theorem fiber_concat (row : Row) : fiber key (rows ++ [row]) wanted =
    if key row = wanted then fiber key rows wanted ++ [row] else fiber key rows wanted := by
  unfold fiber
  by_cases same : key row = wanted
  · simp [same]
  · simp [same]

/-- An entry is that of the first row of its key, and has seen all of them. -/
theorem lookup_enter :
    (rows.foldl (fun entries row => enter entries (key row) (initial row) (change row)) ∅).lookup
      wanted = (fiber key rows wanted).head?.map fun first =>
        (fiber key rows wanted).foldl (fun value row => change row value) (initial first) := by
  induction rows using List.reverseRecOn with
  | nil => rfl
  | append_singleton rows row ih =>
    rw [List.foldl_concat, fiber_concat, enter]
    by_cases same : key row = wanted
    · subst same
      rw [if_pos rfl, AList.lookup_insert, ih]
      cases fiber key rows (key row) with
      | nil => rfl
      | cons first others => simp
    · rw [if_neg same, AList.lookup_insert_ne (Ne.symm same), ih]

theorem mem_enter :
    wanted ∈ rows.foldl (fun entries row => enter entries (key row) (initial row) (change row)) ∅ ↔
    wanted ∈ rows.map key := by
  rw [← AList.lookup_isSome, lookup_enter, Option.isSome_map, List.isSome_head?, List.mem_map]
  constructor
  · intro some_
    obtain ⟨row, member⟩ := List.exists_mem_of_ne_nil _ (by simpa using some_)
    exact ⟨row, mem_fiber.mp member⟩
  · rintro ⟨row, found⟩
    simpa using List.ne_nil_of_mem (mem_fiber.mpr found)

/-- Rows without an entry are passed over. -/
theorem lookup_amend :
    (rows.foldl (fun entries row => amend entries (key row) (change row)) entries).lookup wanted =
    (entries.lookup wanted).map fun value =>
      (fiber key rows wanted).foldl (fun value row => change row value) value := by
  induction rows using List.reverseRecOn with
  | nil => exact Option.map_id'.symm
  | append_singleton rows row ih =>
    rw [List.foldl_concat, fiber_concat, amend]
    by_cases same : key row = wanted
    · subst same
      rw [if_pos rfl]
      cases found : entries.lookup (key row) with
      | none =>
        rw [found] at ih
        simp [ih]
      | some value =>
        rw [found] at ih
        simp [ih]
    · rw [if_neg same, ← ih]
      split
      · rfl
      · exact AList.lookup_insert_ne (Ne.symm same)

theorem values_perm {names : List Key} {value : Key → Value} (nodup : names.Nodup)
    (present : ∀ wanted, wanted ∈ entries ↔ wanted ∈ names)
    (known : ∀ wanted ∈ names, entries.lookup wanted = some (value wanted)) :
    (entries.entries.map fun entry => entry.2).Perm (names.map value) := by
  have same : (entries.entries.map fun entry => entry.2) = entries.keys.map value := by
    rw [AList.keys, List.keys, List.map_map]
    refine List.map_congr_left fun entry member => ?_
    have inside : entry.1 ∈ names := (present entry.1).mp (List.mem_map_of_mem member)
    have found :=
      AList.mem_lookup_iff.mpr (show (⟨entry.1, entry.2⟩ : Sigma fun _ : Key => Value) ∈
        entries.entries from member)
    rw [Option.mem_def, known entry.1 inside] at found
    exact (Option.some.inj found).symm
  rw [same]
  refine List.Perm.map value ((List.perm_ext_iff_of_nodup entries.nodupKeys nodup).mpr fun wanted =>
    ?_)
  exact present wanted

end Maps

section FirstSeen

variable {Item Name : Type} [BEq Item] [LawfulBEq Item] [BEq Name] [LawfulBEq Name]
  {items : List Item} {name : Item → Name}

/-- What is new goes to the end, what has been seen does not. -/
theorem eraseDups_concat (item : Item) :
    (items ++ [item]).eraseDups = if item ∈ items then items.eraseDups
    else items.eraseDups ++ [item] := by
  rw [List.eraseDups_append]
  by_cases seen : item ∈ items
  · simp [List.removeAll, seen]
  · simp [List.removeAll, seen, List.eraseDups_cons]

theorem nodup_eraseDups (items : List Item) : items.eraseDups.Nodup := by
  induction items using List.reverseRecOn with
  | nil => exact List.nodup_nil
  | append_singleton items item ih =>
    rw [eraseDups_concat]
    split
    · exact ih
    next fresh =>
      refine List.nodup_append.mpr ⟨ih, List.nodup_singleton item,
        fun other member last single same => ?_⟩
      rw [List.mem_singleton.mp single] at same
      exact fresh (same ▸ List.mem_eraseDups.mp member)

/-- Items that no two share a name of can be told apart by it. -/
theorem eraseDups_map (apart : ∀ item ∈ items, ∀ other ∈ items, name item = name other →
      item = other) : (items.map name).eraseDups = items.eraseDups.map name := by
  induction items using List.reverseRecOn with
  | nil => rfl
  | append_singleton items item ih =>
    have before := ih fun first inside second also =>
      apart first (List.mem_append_left _ inside) second (List.mem_append_left _ also)
    have seen : name item ∈ items.map name ↔ item ∈ items := by
      rw [List.mem_map]
      constructor
      · rintro ⟨other, member, same⟩
        rwa [← apart other (List.mem_append_left _ member) item (by simp) same]
      · exact fun member => ⟨item, member, rfl⟩
    rw [List.map_append, List.map_singleton, eraseDups_concat, eraseDups_concat, before]
    by_cases member : item ∈ items
    · rw [if_pos member, if_pos (seen.mpr member)]
    · rw [if_neg member, if_neg fun found => member (seen.mp found), List.map_append,
        List.map_singleton]

end FirstSeen

end OpenScale.Library
