import Mathlib.Data.List.Basic

/-! JSON values and a reader for JSON texts. A number keeps its exact decimal
value; a reader for a bounded nesting depth rejects anything deeper. -/

namespace OpenScale.Library

/-- A JSON value. `number mantissa exponent` is `mantissa * 10 ^ exponent`. -/
inductive Json where
  | null
  | bool (value : Bool)
  | number (mantissa exponent : Int)
  | string (text : String)
  | array (items : List Json)
  | object (fields : List (String × Json))

namespace Json

def quote : Char := Char.ofNat 34
def backslash : Char := Char.ofNat 92
def openBrace : Char := Char.ofNat 123
def closeBrace : Char := Char.ofNat 125
def openBracket : Char := Char.ofNat 91
def closeBracket : Char := Char.ofNat 93

/-- Space, tab, line feed and carriage return. -/
def isSpace (c : Char) : Bool :=
  c.toNat == 32 || c.toNat == 9 || c.toNat == 10 || c.toNat == 13

def skipSpace (input : List Char) : List Char := input.dropWhile isSpace

/-- A fixed word such as `null` at the front of the input. -/
def readWord : List Char → List Char → Option (List Char)
  | [], input => some input
  | _ :: _, [] => none
  | expected :: word, c :: input => if c = expected then readWord word input else none

/-- A run of decimal digits: its value after `value`, its length after `count`. -/
def readDigits : List Char → Nat → Nat → Nat × Nat × List Char
  | [], value, count => (value, count, [])
  | c :: input, value, count =>
    if c.isDigit then readDigits input (10 * value + (c.toNat - 48)) (count + 1)
    else (value, count, c :: input)

def readSign (input : List Char) : Bool × List Char :=
  match input with
  | '-' :: rest => (true, rest)
  | _ => (false, input)

/-- The digits after a decimal point, appended to the whole part. -/
def readFraction (whole : Nat) (input : List Char) : Option (Nat × Nat × List Char) :=
  match input with
  | '.' :: rest =>
    match readDigits rest whole 0 with
    | (_, 0, _) => none
    | found => some found
  | _ => some (whole, 0, input)

def readExponent (input : List Char) : Option (Int × List Char) :=
  match input with
  | c :: rest =>
    if c = 'e' ∨ c = 'E' then
      let (negative, digits) := match rest with
        | '+' :: digits => (false, digits)
        | digits => readSign digits
      match readDigits digits 0 0 with
      | (_, 0, _) => none
      | (value, _, after) => some (if negative then -(value : Int) else value, after)
    else some (0, input)
  | [] => some (0, [])

def readNumber (input : List Char) : Option (Json × List Char) := do
  let (negative, digits) := readSign input
  let (whole, count, rest) := readDigits digits 0 0
  if count = 0 ∨ (digits.head? = some '0' ∧ count ≠ 1) then none
  else
    let (mantissa, places, rest) ← readFraction whole rest
    let (exponent, rest) ← readExponent rest
    return (number (if negative then -(mantissa : Int) else mantissa) (exponent - places), rest)

def hexValue (c : Char) : Option Nat :=
  if c.isDigit then some (c.toNat - 48)
  else if 'a' ≤ c ∧ c ≤ 'f' then some (c.toNat - 87)
  else if 'A' ≤ c ∧ c ≤ 'F' then some (c.toNat - 55)
  else none

/-- The code that an escape letter other than `u` stands for. -/
def escapeValue (c : Char) : Option Nat :=
  if c = quote ∨ c = backslash ∨ c = '/' then some c.toNat
  else if c = 'b' then some 8
  else if c = 'f' then some 12
  else if c = 'n' then some 10
  else if c = 'r' then some 13
  else if c = 't' then some 9
  else none

/-- The codes of a string up to its closing quote; an escaped surrogate stays one code. -/
def readCodes : List Char → Option (List Nat × List Char)
  | [] => none
  | c :: rest =>
    if c = quote then some ([], rest)
    else if c.toNat < 32 then none
    else if c = backslash then
      match rest with
      | 'u' :: a :: b :: c :: d :: more => do
        let high := 16 * (← hexValue a) + (← hexValue b)
        let low := 16 * (← hexValue c) + (← hexValue d)
        let (codes, after) ← readCodes more
        return ((256 * high + low) :: codes, after)
      | letter :: more => do
        let code ← escapeValue letter
        let (codes, after) ← readCodes more
        return (code :: codes, after)
      | [] => none
    else do
      let (codes, after) ← readCodes rest
      return (c.toNat :: codes, after)

def isHighSurrogate (code : Nat) : Bool := 0xD800 ≤ code && code < 0xDC00
def isLowSurrogate (code : Nat) : Bool := 0xDC00 ≤ code && code < 0xE000

/-- Surrogate pairs become one character; a lone surrogate becomes U+FFFD. -/
def joinSurrogates : List Nat → List Char
  | [] => []
  | [code] =>
    [if isHighSurrogate code || isLowSurrogate code then Char.ofNat 0xFFFD else Char.ofNat code]
  | code :: next :: rest =>
    if isHighSurrogate code && isLowSurrogate next then
      Char.ofNat (0x10000 + 0x400 * (code - 0xD800) + (next - 0xDC00)) :: joinSurrogates rest
    else if isHighSurrogate code || isLowSurrogate code then
      Char.ofNat 0xFFFD :: joinSurrogates (next :: rest)
    else Char.ofNat code :: joinSurrogates (next :: rest)

def readString (input : List Char) : Option (String × List Char) := do
  let (codes, rest) ← readCodes input
  return (String.ofList (joinSurrogates codes), rest)

-- One unit of fuel is spent per value, item and field, so the length of the
-- input is always enough; `depth` is the nesting that is still allowed.
mutual

def readValue : Nat → Nat → List Char → Option (Json × List Char)
  | 0, _, _ => none
  | fuel + 1, depth, input =>
    match skipSpace input with
    | [] => none
    | c :: rest =>
      if c = openBrace then
        if depth = 0 then none
        else match skipSpace rest with
          | [] => none
          | next :: after =>
            if next = closeBrace then some (object [], after)
            else do
              let (fields, after) ← readFields fuel (depth - 1) (next :: after)
              return (object fields, after)
      else if c = openBracket then
        if depth = 0 then none
        else match skipSpace rest with
          | [] => none
          | next :: after =>
            if next = closeBracket then some (array [], after)
            else do
              let (items, after) ← readItems fuel (depth - 1) (next :: after)
              return (array items, after)
      else if c = quote then do
        let (text, after) ← readString rest
        return (string text, after)
      else if c = 'n' then (readWord ['u', 'l', 'l'] rest).map fun after => (null, after)
      else if c = 't' then (readWord ['r', 'u', 'e'] rest).map fun after => (bool true, after)
      else if c = 'f' then (readWord ['a', 'l', 's', 'e'] rest).map fun after => (bool false, after)
      else readNumber (c :: rest)

def readItems : Nat → Nat → List Char → Option (List Json × List Char)
  | 0, _, _ => none
  | fuel + 1, depth, input => do
    let (item, rest) ← readValue fuel depth input
    match skipSpace rest with
    | [] => none
    | c :: after =>
      if c = closeBracket then return ([item], after)
      else if c = ',' then do
        let (items, after) ← readItems fuel depth after
        return (item :: items, after)
      else none

def readFields : Nat → Nat → List Char → Option (List (String × Json) × List Char)
  | 0, _, _ => none
  | fuel + 1, depth, input =>
    match skipSpace input with
    | [] => none
    | c :: rest =>
      if c = quote then do
        let (name, rest) ← readString rest
        match skipSpace rest with
        | ':' :: rest => do
          let (value, rest) ← readValue fuel depth rest
          match skipSpace rest with
          | [] => none
          | c :: after =>
            if c = closeBrace then return ([(name, value)], after)
            else if c = ',' then do
              let (fields, after) ← readFields fuel depth after
              return ((name, value) :: fields, after)
            else none
        | _ => none
      else none

end

/-- The value of a JSON text that nests at most `depth` arrays and objects. -/
def read (depth : Nat) (input : List Char) : Option Json := do
  let (value, rest) ← readValue (input.length + 1) depth input
  if (skipSpace rest).isEmpty then return value else none

-- Numbers as a reader with a bounded number format has them; no value when one is out of range.
mutual

def mapNumbers (convert : Int → Int → Option (Int × Int)) : Json → Option Json
  | number mantissa exponent => (convert mantissa exponent).map fun (m, e) => number m e
  | array items => (mapItems convert items).map array
  | object fields => (mapFields convert fields).map object
  | other => some other

def mapItems (convert : Int → Int → Option (Int × Int)) : List Json → Option (List Json)
  | [] => some []
  | item :: items => do return (← mapNumbers convert item) :: (← mapItems convert items)

def mapFields (convert : Int → Int → Option (Int × Int)) :
    List (String × Json) → Option (List (String × Json))
  | [] => some []
  | (name, value) :: fields => do
    return (name, ← mapNumbers convert value) :: (← mapFields convert fields)

end

def setField (fields : List (String × Json)) (name : String) (value : Json) :
    List (String × Json) :=
  fields.filter (fun field => field.1 != name) ++ [(name, value)]

/-- The last field with this name wins, as in every decoder into a map. -/
def field? (fields : List (String × Json)) (name : String) : Option Json :=
  fields.reverse.lookup name

def property (value : Json) (name : String) : Option Json :=
  match value with
  | object fields => field? fields name
  | _ => none

end Json

end OpenScale.Library
