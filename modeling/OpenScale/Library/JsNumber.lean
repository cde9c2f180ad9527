import Mathlib.Algebra.Order.Field.Rat
import OpenScale.Library.Fallible

/-! Numbers of JavaScript that may be missing, in either of its two ways, and what their methods do.
The numbers themselves are exact here. -/

namespace OpenScale.Library

inductive JsNumber where
  | undefined
  | null
  | number (value : Rat)
  deriving DecidableEq

/-- A method of null or of undefined. -/
inductive JsError where
  | typeError
  deriving DecidableEq

/-- `toFixed` of a number: half a unit goes up in size. -/
def fixed (digits : Nat) (value : Rat) : String :=
  let scaled := (|value| * 10 ^ digits + 1 / 2).floor.toNat
  let places := Nat.toDigits 10 (scaled % 10 ^ digits)
  (if value < 0 then "-" else "") ++ toString (scaled / 10 ^ digits) ++
    (if digits = 0 then ""
      else "." ++ String.ofList (List.replicate (digits - places.length) '0' ++ places))

/-- `toLocaleString` of a count below a thousand. -/
def localeText (value : Rat) : String := toString value.floor

namespace JsNumber

/-- What a decoder of JSON makes of a field that may be null. -/
def ofNullable : Option Rat → JsNumber
  | none => null
  | some value => number value

/-- The field of an object that may be undefined: `object?.field`. -/
def ofOptional : Option (Option Rat) → JsNumber
  | none => undefined
  | some field => ofNullable field

/-- The coercion of arithmetic: null counts as zero. None is NaN. -/
def toNumber : JsNumber → Option Rat
  | undefined => none
  | null => some 0
  | number value => some value

/-- `value ?? other`. -/
def orElse (other : Rat) : JsNumber → Rat
  | undefined => other
  | null => other
  | number value => value

def toFixed (digits : Nat) : JsNumber → Except JsError String
  | number value => .ok (fixed digits value)
  | _ => .error .typeError

def toLocaleString : JsNumber → Except JsError String
  | number value => .ok (localeText value)
  | _ => .error .typeError

/-- `value?.toFixed(digits)`: nothing where the value is missing. -/
def toFixed? (digits : Nat) : JsNumber → Option String
  | number value => some (fixed digits value)
  | _ => none

end JsNumber

end OpenScale.Library
