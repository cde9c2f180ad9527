import OpenScale.Library.JsonWriter

/-! Strings as JavaScript holds them: sequences of 16-bit code units, in which characters beyond the
basic plane are pairs of surrogates. -/

namespace OpenScale.Library

/-- A string of JavaScript. Its surrogates need not be paired. -/
abbrev JsString := List Nat

def utf16Units (c : Char) : List Nat :=
  if c.toNat < 0x10000 then [c.toNat]
  else [0xD800 + (c.toNat - 0x10000) / 0x400, 0xDC00 + (c.toNat - 0x10000) % 0x400]

def utf16 (text : List Char) : JsString := text.flatMap utf16Units

/-- The text that a decoder of JSON reads. -/
def JsString.decoded (string : JsString) : List Char := Json.joinSurrogates string

theorem joinSurrogates_plain (c : Char) (rest : List Nat) :
    Json.joinSurrogates (c.toNat :: rest) = c :: Json.joinSurrogates rest := by
  obtain ⟨high, low⟩ := Json.not_surrogate c
  cases rest with
  | nil => simp [Json.joinSurrogates, high, low]
  | cons next rest => simp [Json.joinSurrogates, high, low]

theorem joinSurrogates_pair {c : Char} (beyond : 0x10000 ≤ c.toNat) (rest : List Nat) :
    Json.joinSurrogates
        ((0xD800 + (c.toNat - 0x10000) / 0x400) :: (0xDC00 + (c.toNat - 0x10000) % 0x400) :: rest) =
      c :: Json.joinSurrogates rest := by
  have valid : c.toNat < 0xD800 ∨ 0xDFFF < c.toNat ∧ c.toNat < 0x110000 := c.valid
  have pair : Json.isHighSurrogate (0xD800 + (c.toNat - 0x10000) / 0x400) = true ∧
      Json.isLowSurrogate (0xDC00 + (c.toNat - 0x10000) % 0x400) = true := by
    simp only [Json.isHighSurrogate, Json.isLowSurrogate, Bool.and_eq_true, decide_eq_true_eq]
    omega
  have code : 0x10000 + 0x400 * (0xD800 + (c.toNat - 0x10000) / 0x400 - 0xD800) +
      (0xDC00 + (c.toNat - 0x10000) % 0x400 - 0xDC00) = c.toNat := by
    omega
  simp only [Json.joinSurrogates, pair.1, pair.2, Bool.and_self, if_true, code, Char.ofNat_toNat]

/-- A string whose surrogates are paired is read as what it says. -/
@[simp] theorem decoded_utf16 (text : List Char) : (utf16 text).decoded = text := by
  induction text with
  | nil => rfl
  | cons c text ih =>
    rw [utf16, List.flatMap_cons, utf16Units]
    split
    · rw [List.singleton_append, JsString.decoded, joinSurrogates_plain]
      exact congrArg (c :: ·) ih
    next beyond =>
      rw [JsString.decoded, List.cons_append, List.singleton_append, joinSurrogates_pair (by omega)]
      exact congrArg (c :: ·) ih

end OpenScale.Library
