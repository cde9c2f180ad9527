import OpenScale.Library.Utf16

/-! The values that `JSON.parse` makes in JavaScript, and the texts that `String` and
`JSON.stringify` make of them. -/

namespace OpenScale.Library

/-- A finite number by its shortest decimal: `mantissa * 10 ^ exponent`. -/
structure JsDecimal where
  mantissa : Int
  exponent : Int
  shortest : mantissa % 10 ≠ 0 ∨ mantissa = 0 ∧ exponent = 0

/-- A text such as `1e999` is read as an infinity. -/
inductive JsDouble where
  | finite (decimal : JsDecimal)
  | infinite (negative : Bool)

/-- The properties of an object are in their own order. -/
inductive JsValue where
  | null
  | bool (value : Bool)
  | number (value : JsDouble)
  | string (text : JsString)
  | array (items : List JsValue)
  | object (fields : List (JsString × JsValue))

def jsText (text : String) : JsString := utf16 text.toList

/-- The digits of a number that is not negative; `point` of them stand before its decimal point. -/
def placed (digits : List Char) (point : Int) : List Char :=
  let count : Int := digits.length
  if count ≤ point ∧ point ≤ 21 then digits ++ List.replicate (point - count).toNat '0'
  else if 0 < point ∧ point ≤ 21 then digits.take point.toNat ++ '.' :: digits.drop point.toNat
  else if -6 < point ∧ point ≤ 0 then '0' :: '.' :: List.replicate (-point).toNat '0' ++ digits
  else digits.take 1 ++ (if count = 1 then [] else '.' :: digits.tail) ++
    'e' :: (if 0 < point then '+' else '-') :: Nat.toDigits 10 (point - 1).natAbs

/-- `Number::toString` -/
def JsDouble.toText : JsDouble → List Char
  | .finite decimal =>
    let digits := Nat.toDigits 10 decimal.mantissa.natAbs
    (if decimal.mantissa < 0 then ['-'] else []) ++ placed digits (digits.length + decimal.exponent)
  | .infinite negative => if negative then "-Infinity".toList else "Infinity".toList

/-- Outside of pairs: a short escape, an escaped code for what is not printable or a lone surrogate,
or the unit itself. -/
def quoteUnit (unit : Nat) : JsString :=
  match Json.escapeLetter (Char.ofNat unit) with
  | some letter => utf16 [Json.backslash, letter]
  | none =>
    if unit < 32 || Json.isHighSurrogate unit || Json.isLowSurrogate unit then
      utf16 (Json.backslash :: 'u' :: Json.hexDigits unit)
    else [unit]

def quoteUnits : JsString → JsString
  | [] => []
  | [unit] => quoteUnit unit
  | unit :: next :: rest =>
    if Json.isHighSurrogate unit && Json.isLowSurrogate next then unit :: next :: quoteUnits rest
    else quoteUnit unit ++ quoteUnits (next :: rest)

/-- `QuoteJSONString` -/
def quoteText (text : JsString) : JsString :=
  utf16 [Json.quote] ++ quoteUnits text ++ utf16 [Json.quote]

mutual

/-- `JSON.stringify`, to which an infinity is null. -/
def JsValue.stringify : JsValue → JsString
  | .null => jsText "null"
  | .bool value => jsText (if value then "true" else "false")
  | .number (.finite decimal) => utf16 (JsDouble.finite decimal).toText
  | .number (.infinite _) => jsText "null"
  | .string text => quoteText text
  | .array items =>
    utf16 [Json.openBracket] ++ [44].intercalate (stringifyItems items) ++ utf16 [Json.closeBracket]
  | .object fields =>
    utf16 [Json.openBrace] ++ [44].intercalate (stringifyFields fields) ++ utf16 [Json.closeBrace]

def stringifyItems : List JsValue → List JsString
  | [] => []
  | item :: items => item.stringify :: stringifyItems items

def stringifyFields : List (JsString × JsValue) → List JsString
  | [] => []
  | (name, value) :: fields =>
    (quoteText name ++ jsText ":" ++ value.stringify) :: stringifyFields fields

end

theorem utf16_ne_nil {text : List Char} (filled : text ≠ []) : utf16 text ≠ [] := by
  cases text with
  | nil => exact absurd rfl filled
  | cons c text =>
    rw [utf16, List.flatMap_cons, utf16Units]
    split <;> simp

theorem placed_ne_nil {digits : List Char} (filled : digits ≠ []) (point : Int) :
    placed digits point ≠ [] := by
  simp only [placed]
  repeat' split
  all_goals simp [filled]

theorem toText_ne_nil (value : JsDouble) : value.toText ≠ [] := by
  cases value with
  | finite decimal =>
    have digits : Nat.toDigits 10 decimal.mantissa.natAbs ≠ [] := Nat.toDigits_ne_nil
    simp [JsDouble.toText, placed_ne_nil digits]
  | infinite negative => cases negative <;> decide

end OpenScale.Library
