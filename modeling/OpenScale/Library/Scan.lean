import Mathlib.Data.List.AList
import Mathlib.Data.List.Infix

/-! Listing keys page by page while they change, as SCAN does: a cursor that starts at zero and ends
there, pages that may repeat a key, and the promise that a key which was there all the time is on
one of them. -/

namespace OpenScale.Library

/-- A glob without classes and escapes. -/
def globMatches : List Char → List Char → Bool
  | [], key => key.isEmpty
  | '*' :: pattern, key => key.tails.any fun rest => globMatches pattern rest
  | '?' :: pattern, _ :: key => globMatches pattern key
  | char :: pattern, first :: key => char = first && globMatches pattern key
  | _ :: _, [] => false

/-- The only star is at the end: the keys that begin with what is before it. -/
theorem globMatches_star {front : List Char}
    (plain : (front.all fun char => char != '*' && char != '?') = true)
    (key : List Char) : globMatches (front ++ ['*']) key = true ↔ front <+: key := by
  induction front generalizing key with
  | nil => simp [globMatches]
  | cons char front ih =>
    rw [List.all_cons, Bool.and_eq_true] at plain
    obtain ⟨first, plain⟩ := plain
    cases key with
    | nil => simp_all [globMatches]
    | cons head key => simp_all [globMatches, List.cons_prefix_cons]

variable {Key : Type}

/-- An iteration that is not over: the keys that there were at each of its calls, what it has
returned, and its cursor. -/
inductive UnderWay (page : Nat → List Key → List Key × Nat) :
    List (List Key) → List Key → Nat → Prop
  | start : UnderWay page [] [] 0
  | next {history returned cursor} (before : UnderWay page history returned cursor)
    (keys : List Key)
      (more : (page cursor keys).2 ≠ 0) :
      UnderWay page (history ++ [keys]) (returned ++ (page cursor keys).1) (page cursor keys).2

/-- What a server lists, by the cursor and the keys that it has now. -/
structure Scanner (Key : Type) where
  page : Nat → List Key → List Key × Nat
  complete : ∀ {history returned cursor keys key}, UnderWay page history returned cursor →
    (page cursor keys).2 = 0 → (∀ earlier ∈ history ++ [keys], key ∈ earlier) →
    key ∈ returned ++ (page cursor keys).1

namespace Scanner

/-- A server that has all keys on one page. -/
def atOnce : Scanner Key where
  page _ keys := (keys, 0)
  complete _ _ always :=
    List.mem_append_right _ (always _ (List.mem_append_right _ (List.mem_singleton_self _)))

variable (scanner : Scanner Key) (wanted : Key → Bool) {pending fewer keys rest : List Key}
  {cursor : Nat}

/-- In the middle of an iteration whose keys are taken away: a wanted key that it has returned is
pending or gone, and no key has come. -/
def Chasing (cursor : Nat) (pending keys : List Key) : Prop :=
  ∃ history returned, UnderWay scanner.page history returned cursor ∧
    (∀ earlier ∈ history, keys ⊆ earlier) ∧
    ∀ key ∈ returned, wanted key → key ∈ pending ∨ key ∉ keys

/-- After it: the wanted keys are pending. -/
def Cornered (pending keys : List Key) : Prop := ∀ key ∈ keys, wanted key → key ∈ pending

/-- A statement about pending keys that survives when some of them are taken away. -/
def Shrinks (holds : List Key → List Key → Prop) : Prop :=
  ∀ {pending fewer keys rest}, holds pending keys → rest ⊆ keys →
    (∀ key ∈ pending, key ∈ fewer ∨ key ∉ rest) → holds fewer rest

theorem chasing_shrinks : Shrinks (scanner.Chasing wanted cursor) := by
  intro pending fewer keys rest chasing kept taken
  obtain ⟨history, returned, underWay, present, known⟩ := chasing
  refine ⟨history, returned, underWay, fun earlier member key inside =>
    present earlier member (kept inside), ?_⟩
  intro key member want
  rcases known key member want with inside | gone
  · exact taken key inside
  · exact .inr fun still => gone (kept still)

theorem cornered_shrinks : Shrinks (Cornered wanted) := by
  intro pending fewer keys rest cornered kept taken key member want
  exact (taken key (cornered key (kept member) want)).resolve_right fun gone => gone member

theorem chasing_start : scanner.Chasing wanted 0 [] keys :=
  ⟨[], [], .start, fun _ member => absurd member List.not_mem_nil, fun _ member =>
    absurd member List.not_mem_nil⟩

/-- The wanted keys of one more page are pending as well. -/
theorem chasing_more (chasing : scanner.Chasing wanted cursor pending keys)
    (more : (scanner.page cursor keys).2 ≠ 0) : scanner.Chasing wanted (scanner.page cursor keys).2
      (pending ++ (scanner.page cursor keys).1.filter wanted) keys := by
  obtain ⟨history, returned, underWay, present, known⟩ := chasing
  refine ⟨_, _, underWay.next keys more, ?_, ?_⟩
  · intro earlier member
    rcases List.mem_append.mp member with before | now
    · exact present earlier before
    · exact List.mem_singleton.mp now ▸ List.Subset.refl keys
  · intro key member want
    rcases List.mem_append.mp member with before | now
    · exact (known key before want).imp_left (List.mem_append_left _)
    · exact .inl (List.mem_append_right _ (List.mem_filter.mpr ⟨now, want⟩))

/-- With the last page nothing can have been missed. -/
theorem chasing_ends (chasing : scanner.Chasing wanted cursor pending keys)
    (ends : (scanner.page cursor keys).2 = 0) :
    Cornered wanted (pending ++ (scanner.page cursor keys).1.filter wanted) keys := by
  obtain ⟨history, returned, underWay, present, known⟩ := chasing
  intro key member want
  have always : ∀ earlier ∈ history ++ [keys], key ∈ earlier := by
    intro earlier inside
    rcases List.mem_append.mp inside with before | now
    · exact present earlier before member
    · exact List.mem_singleton.mp now ▸ member
  rcases List.mem_append.mp (scanner.complete underWay ends always) with before | now
  · exact List.mem_append_left _ ((known key before want).resolve_right fun gone => gone member)
  · exact List.mem_append_right _ (List.mem_filter.mpr ⟨now, want⟩)

end Scanner

section Erasing

variable {Value : Type} [DecidableEq Key] {keys : List Key} {key : Key}

theorem mem_erase_keys {store : AList fun _ : Key => Value} :
    key ∈ (keys.foldl (fun store key => store.erase key) store).keys ↔
    key ∈ store.keys ∧ key ∉ keys := by
  induction keys generalizing store with
  | nil => simp
  | cons first keys ih =>
    rw [List.foldl_cons, ih, ← AList.mem_keys, AList.mem_erase, AList.mem_keys, List.mem_cons]
    tauto

theorem lookup_erase_keys {store : AList fun _ : Key => Value} (kept : key ∉ keys) :
    (keys.foldl (fun store key => store.erase key) store).lookup key = store.lookup key := by
  induction keys generalizing store with
  | nil => rfl
  | cons first keys ih =>
    rw [List.mem_cons, not_or] at kept
    rw [List.foldl_cons, ih kept.2, AList.lookup_erase_ne kept.1]

end Erasing

end OpenScale.Library
