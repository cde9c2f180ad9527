import Mathlib.Data.List.Basic

/-! Computations that fail with an error, and what is known of those that do not. -/

namespace OpenScale.Library

variable {Error First Next Value : Type}

theorem bind_eq_ok {first : Except Error First} {next : First → Except Error Next} {last : Next} :
    (first >>= next) = .ok last ↔ ∃ value, first = .ok value ∧ next value = .ok last := by
  cases first with
  | error error =>
    constructor
    · intro done
      cases done
    · rintro ⟨value, same, _⟩
      cases same
  | ok value =>
    constructor
    · intro done
      exact ⟨value, rfl, done⟩
    · rintro ⟨_, ⟨⟩, done⟩
      exact done

theorem mapError_eq_ok {result : Except Error Value} {context : Error → Next} {value : Value} :
    result.mapError context = .ok value ↔ result = .ok value := by
  cases result with
  | error error => simp [Except.mapError]
  | ok other => simp [Except.mapError]

theorem mapM_ok {f : First → Except Error Value} {g : First → Value} (items : List First)
    (good : ∀ item ∈ items, f item = .ok (g item)) : items.mapM f = .ok (items.map g) := by
  induction items with
  | nil => rfl
  | cons item items ih =>
    have first := good item (List.mem_cons_self ..)
    have others := ih fun other member => good other (List.mem_cons_of_mem _ member)
    simp only [List.mapM_cons, first, others, bind, Except.bind, pure, Except.pure, List.map_cons]

end OpenScale.Library
