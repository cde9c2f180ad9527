import Mathlib.Algebra.Ring.Int.Defs
import OpenScale.Library.Json
import OpenScale.Library.Program

/-! The part of Python that a program over JSON values needs: exceptions, truth
values, `str.split`, and the conversions `int` and `float` with all that they accept. -/

namespace OpenScale.Library.Python

/-- An exception, by the name of its class and its text. `ordinary` tells an
`Exception` from an interrupt, which `except Exception` does not catch. -/
structure PyError where
  name : String
  text : String
  ordinary : Bool

def PyError.exception (name text : String) : PyError := ⟨name, text, true⟩

/-- `type(exc).__name__ + ": " + str(exc)`. -/
def PyError.line (error : PyError) : String := error.name ++ ": " ++ error.text

/-- `try` with `except Exception`. -/
def rescue {State Value : Type} (program : Program State PyError Value)
    (handler : PyError → Program State PyError Value) : Program State PyError Value :=
  program.attempt fun error => if error.ordinary then handler error else .raise error

section Rescue

variable {State Value : Type} {program : Program State PyError Value} {error : PyError}
variable {handler : PyError → Program State PyError Value} {state after : State} {value : Value}

theorem rescue_returned (run : program state = (.returned value, after)) :
    rescue program handler state = (.returned value, after) := by
  simp [rescue, Program.attempt, run]

theorem rescue_ordinary (run : program state = (.raised error, after))
    (ordinary : error.ordinary = true) : rescue program handler state = handler error after := by
  simp [rescue, Program.attempt, run, ordinary]

theorem rescue_interrupt (run : program state = (.raised error, after))
    (interrupt : error.ordinary = false) :
    rescue program handler state = (.raised error, after) := by
  simp [rescue, Program.attempt, run, interrupt, Program.raise]

theorem rescue_running (run : program state = (.running, after)) :
    rescue program handler state = (.running, after) := by
  simp [rescue, Program.attempt, run]

end Rescue

/-- A result or an exception, inside a program. -/
def fromExcept {State Value : Type} : Except PyError Value → Program State PyError Value
  | .ok value => Program.pure value
  | .error error => .raise error

theorem returns_fromExcept {State Value Next : Type} {outcome : Except PyError Value}
    {next : Value → Program State PyError Next} {state : State} :
    (fromExcept outcome >>= next).Returns state ↔ ∃ value, outcome = .ok value ∧
        (next value).Returns state := by
  rw [Program.returns_bind]
  cases outcome with
  | ok value => simp [fromExcept, Program.pure]
  | error error => simp [fromExcept, Program.raise]

/-- A float: a finite one by the decimal `mantissa * 10 ^ exponent` that it is written as. -/
inductive PyFloat where
  | finite (mantissa exponent : Int)
  | infinite (negative : Bool)
  | nan

/-- How the interpreter prints values, and its rounding: the double nearest to a
decimal, and the quotient of two doubles. -/
structure Builtins where
  reprText : String → String
  str : Json → String
  floatText : PyFloat → String
  nearest : Int → Int → PyFloat
  quotient : PyFloat → PyFloat → PyFloat

/-- `try` with an `except` for some classes, by their names. -/
def rescueOnly {State Value : Type} (names : List String) (program : Program State PyError Value)
    (handler : PyError → Program State PyError Value) : Program State PyError Value :=
  program.attempt fun error => if names.contains error.name then handler error else .raise error

theorem rescueOnly_maintains {State Value : Type} {holds : State → Prop} {names : List String}
    {program : Program State PyError Value} {handler : PyError → Program State PyError Value}
    (body : program.Maintains holds) (handled : ∀ error, (handler error).Maintains holds) :
    (rescueOnly names program handler).Maintains holds := by
  refine .attempt body fun error => ?_
  split
  · exact handled error
  · exact .raise

theorem fromExcept_maintains {State Value : Type} {holds : State → Prop}
    {outcome : Except PyError Value} :
    (fromExcept outcome : Program State PyError Value).Maintains holds := by
  cases outcome with
  | ok value => exact .pure
  | error error => exact .raise

/-- The name of a value's class. A number without fraction and exponent is an int. -/
def className : Json → String
  | .null => "NoneType"
  | .bool _ => "bool"
  | .number _ 0 => "int"
  | .number _ _ => "float"
  | .string _ => "str"
  | .array _ => "list"
  | .object _ => "dict"

def truthy : Json → Bool
  | .null => false
  | .bool value => value
  | .number mantissa _ => mantissa != 0
  | .string text => !text.isEmpty
  | .array items => !items.isEmpty
  | .object fields => !fields.isEmpty

/-- `value or other`. -/
def either (value other : Json) : Json := if truthy value then value else other

def noAttribute (value : Json) (member : String) : PyError :=
  .exception "AttributeError" ("'" ++ className value ++ "' object has no attribute '" ++
    member ++ "'")

/-- `value.get(key)`; None stands for a missing key. -/
def get (value : Json) (key : String) : Except PyError Json :=
  match value with
  | .object fields => .ok ((Json.field? fields key).getD .null)
  | other => .error (noAttribute other "get")

/-- The parts between the separators; never an empty list. -/
def splitOn (separator : Char) : List Char → List (List Char)
  | [] => [[]]
  | c :: rest =>
    if c = separator then [] :: splitOn separator rest
    else match splitOn separator rest with
      | [] => [[c]]
      | part :: parts => (c :: part) :: parts

/-- `value.split(separator)`. -/
def split (value : Json) (separator : Char) : Except PyError (List (List Char)) :=
  match value with
  | .string text => .ok (splitOn separator text.toList)
  | other => .error (noAttribute other "split")

/-- The digit zero of each script that has decimal digits. -/
def zeros : List Nat :=
  [0x30, 0x660, 0x6f0, 0x7c0, 0x966, 0x9e6, 0xa66, 0xae6, 0xb66, 0xbe6, 0xc66, 0xce6, 0xd66, 0xde6,
    0xe50, 0xed0, 0xf20, 0x1040, 0x1090, 0x17e0, 0x1810, 0x1946, 0x19d0, 0x1a80, 0x1a90, 0x1b50,
    0x1bb0, 0x1c40, 0x1c50, 0xa620, 0xa8d0, 0xa900, 0xa9d0, 0xa9f0, 0xaa50, 0xabf0, 0xff10, 0x104a0,
    0x10d30, 0x11066, 0x110f0, 0x11136, 0x111d0, 0x112f0, 0x11450, 0x114d0, 0x11650,
    0x116c0, 0x11730,
    0x118e0, 0x11950, 0x11c50, 0x11d50, 0x11da0, 0x11f50, 0x16a60, 0x16ac0, 0x16b50,
    0x1d7ce, 0x1d7d8, 0x1d7e2, 0x1d7ec, 0x1d7f6, 0x1e140, 0x1e2f0, 0x1e4f0, 0x1e950, 0x1fbf0]

def decimal? (c : Char) : Option Nat :=
  (zeros.find? fun first => first ≤ c.toNat && c.toNat ≤ first + 9).map fun first => c.toNat - first

/-- The white space beyond ASCII. -/
def isWideSpace (c : Char) : Bool :=
  [0x85, 0xa0, 0x1680, 0x2028, 0x2029, 0x202f, 0x205f, 0x3000].contains c.toNat ||
    (0x2000 ≤ c.toNat && c.toNat ≤ 0x200a)

/-- Digits and spaces of all scripts become those of ASCII. -/
def toAscii (text : List Char) : List Char :=
  text.map fun c =>
    if c.toNat < 127 then c
    else if isWideSpace c then ' '
    else match decimal? c with
      | some digit => Char.ofNat (48 + digit)
      | none => '?'

def isBlank (c : Char) : Bool := c.toNat == 32 || (9 ≤ c.toNat && c.toNat ≤ 13)

def strip (text : List Char) : List Char :=
  ((text.dropWhile isBlank).reverse.dropWhile isBlank).reverse

def readSign : List Char → Bool × List Char
  | '+' :: rest => (false, rest)
  | '-' :: rest => (true, rest)
  | text => (false, text)

/-- The digits of an int literal; one underscore may stand between two digits. -/
def intDigits (text : List Char) : Option (List Char) :=
  let groups := splitOn '_' text
  if groups.all fun group =>
    !group.isEmpty && group.all Char.isDigit then some groups.flatten else none

def digitsValue (digits : List Char) : Nat :=
  digits.foldl (fun value digit => 10 * value + (digit.toNat - 48)) 0

variable (builtins : Builtins)

/-- `int(text)`. -/
def intOfText (text : List Char) : Except PyError Int :=
  let (negative, body) := readSign (strip (toAscii text))
  match intDigits body with
  | none => .error (.exception "ValueError"
      ("invalid literal for int() with base 10: " ++
        String.ofList ((builtins.reprText (String.ofList text)).toList.take 200)))
  | some digits =>
    if 4300 < digits.length then
      .error
        (.exception "ValueError"
          ("Exceeds the limit (4300 digits) for integer string conversion: " ++
            "value has " ++ toString digits.length ++
            " digits; use sys.set_int_max_str_digits() to increase the limit"))
    else .ok (if negative then -(digitsValue digits : Int) else digitsValue digits)

/-- The whole part of a decimal. -/
def truncate (mantissa exponent : Int) : Int :=
  if 0 ≤ exponent then mantissa * 10 ^ exponent.toNat else mantissa.tdiv (10 ^ (-exponent).toNat)

/-- `int(value)`. -/
def int : Json → Except PyError Int
  | .bool value => .ok (if value then 1 else 0)
  | .number mantissa exponent => .ok (truncate mantissa exponent)
  | .string text => intOfText builtins text.toList
  | other =>
    .error (.exception "TypeError" ("int() argument must be a string, a bytes-like object or " ++
      "a real number, not '" ++ className other ++ "'"))

/-- Take out the underscores; each must stand between two digits. -/
def dropUnderscores : Bool → List Char → Option (List Char)
  | _, [] => some []
  | afterDigit, '_' :: rest =>
    if afterDigit && rest.head?.any Char.isDigit then dropUnderscores false rest else none
  | _, c :: rest => (dropUnderscores c.isDigit rest).map (c :: ·)

/-- A decimal with digits before or after its point, and its exponent. -/
def readDecimal (text : List Char) : Option (Nat × Int) :=
  let (whole, count, rest) := Json.readDigits text 0 0
  let (mantissa, places, rest) := match rest with
    | '.' :: rest => Json.readDigits rest whole 0
    | rest => (whole, 0, rest)
  if count + places = 0 then none
  else match Json.readExponent rest with
    | some (exponent, []) => some (mantissa, exponent - places)
    | _ => none

def infinityWords : List String := ["inf", "infinity"]

/-- `float(text)`. -/
def floatOfText (text : List Char) : Except PyError PyFloat :=
  let invalid := PyError.exception "ValueError"
    ("could not convert string to float: " ++ builtins.reprText (String.ofList text))
  match dropUnderscores false (strip (toAscii text)) with
  | none => .error invalid
  | some body =>
    let (negative, digits) := readSign body
    let word := String.ofList (digits.map Char.toLower)
    if infinityWords.contains word then .ok (.infinite negative)
    else if word = "nan" then .ok .nan
    else match readDecimal digits with
      | none => .error invalid
      | some (mantissa, exponent) =>
        .ok (builtins.nearest (if negative then -(mantissa : Int) else mantissa) exponent)

/-- `float(value)`. -/
def float : Json → Except PyError PyFloat
  | .bool value => .ok (.finite (if value then 1 else 0) 0)
  | .number mantissa exponent => .ok (builtins.nearest mantissa exponent)
  | .string text => floatOfText builtins text.toList
  | other =>
    .error (.exception "TypeError" ("float() argument must be a string or a real number, not '" ++
      className other ++ "'"))

/-- `a / b`. -/
def divide (a b : PyFloat) : Except PyError PyFloat :=
  match b with
  | .finite 0 _ => .error (.exception "ZeroDivisionError" "float division by zero")
  | b => .ok (builtins.quotient a b)

/-- `a < b`, which is false as soon as one of them is not a number. -/
def PyFloat.less : PyFloat → PyFloat → Bool
  | nan, _ | _, nan => false
  | infinite negative, infinite negative' => negative && !negative'
  | infinite negative, finite _ _ => negative
  | finite _ _, infinite negative => !negative
  | finite m e, finite m' e' => m * 10 ^ (e - min e e').toNat < m' * 10 ^ (e' - min e e').toNat

/-- `min(a, b)`: the first one, unless the second is less. -/
def PyFloat.least (a b : PyFloat) : PyFloat := if b.less a then b else a

/-- `max(a, b)`: the first one, unless the second is greater. -/
def PyFloat.greatest (a b : PyFloat) : PyFloat := if a.less b then b else a

/-- `value or None` for a count. -/
def orNone (value : Int) : Option Int := if value = 0 then none else some value

/-- An int with at least `width` characters, filled up with zeros after its sign. -/
def zeroPadded (width : Nat) (value : Int) : String :=
  let digits := toString value.natAbs
  let sign := if value < 0 then "-" else ""
  sign ++ String.ofList (List.replicate (width - sign.length - digits.length) '0') ++ digits

section Digits

variable {digits front rest : List Char} {separator : Char}

theorem splitOn_of_notMem (absent : separator ∉ front) : splitOn separator front = [front] := by
  induction front with
  | nil => rfl
  | cons c front ih =>
    obtain ⟨other, later⟩ := List.ne_and_not_mem_of_not_mem_cons absent
    rw [splitOn, if_neg (Ne.symm other), ih later]

theorem splitOn_append (absent : separator ∉ front) :
    splitOn separator (front ++ separator :: rest) = front :: splitOn separator rest := by
  induction front with
  | nil => rw [List.nil_append, splitOn, if_pos rfl]
  | cons c front ih =>
    obtain ⟨other, later⟩ := List.ne_and_not_mem_of_not_mem_cons absent
    rw [List.cons_append, splitOn, if_neg (Ne.symm other), ih later]

theorem digit_toNat {c : Char} (digit : c.isDigit = true) : 48 ≤ c.toNat ∧ c.toNat ≤ 57 :=
  Char.isDigit_iff_toNat.mp digit

theorem toAscii_digits (all : ∀ c ∈ digits, c.isDigit = true) : toAscii digits = digits := by
  refine (List.map_congr_left fun c member => ?_).trans (List.map_id digits)
  rw [if_pos (by have := digit_toNat (all c member); omega), id]

theorem strip_digits (all : ∀ c ∈ digits, c.isDigit = true) : strip digits = digits := by
  have solid : ∀ text : List Char, (∀ c ∈ text, c.isDigit = true) →
      text.dropWhile isBlank = text := by
    intro text digital
    cases text with
    | nil => rfl
    | cons c text =>
      have range := digit_toNat (digital c List.mem_cons_self)
      have inked : isBlank c = false := by simp [isBlank]; omega
      rw [List.dropWhile_cons, inked, if_neg Bool.false_ne_true]
  rw [strip, solid digits all, solid _ fun c member => all c (List.mem_reverse.mp member),
    List.reverse_reverse]

theorem intOfText_digits (builtins : Builtins) (some_ : digits ≠ []) (short : digits.length ≤ 4300)
    (all : ∀ c ∈ digits, c.isDigit = true) :
    intOfText builtins digits = .ok (digitsValue digits) := by
  have apart : ∀ c : Char, c.isDigit = false → c ∉ digits := by
    intro c other member
    rw [all c member] at other
    cases other
  have unsigned : readSign digits = (false, digits) := by
    cases digits with
    | nil => rfl
    | cons c rest =>
      have plus : '+' ≠ c := fun same => apart '+' rfl (same ▸ List.mem_cons_self)
      have minus : '-' ≠ c := fun same => apart '-' rfl (same ▸ List.mem_cons_self)
      unfold readSign
      split <;> simp_all
  have whole : intDigits digits = some digits := by
    rw [intDigits, splitOn_of_notMem (apart '_' rfl)]
    simpa [some_] using all
  simp only [intOfText, toAscii_digits all, strip_digits all, unsigned, whole]
  rw [if_neg (by omega), if_neg Bool.false_ne_true]

end Digits

end OpenScale.Library.Python
