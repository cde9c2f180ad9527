import OpenScale.Library.JsonWriter
import OpenScale.Library.Rounding

/-! `JSON.parse` of JavaScript, which makes a double of each number in the text. -/

namespace OpenScale.Library

/-- A double that is a number; both zeros are one. -/
inductive Double where
  | finite (value : ℚ)
  | infinite (negative : Bool)
deriving DecidableEq

/-- Overflow starts where the last place would round up to `2 ^ 1024`. -/
def Double.ofDecimal (mantissa exponent : Int) : Double :=
  let nearest := toDouble (mantissa * 10 ^ exponent)
  if |nearest| < 2 ^ 1024 then .finite nearest else .infinite (nearest < 0)

theorem toDouble_eq_self_iff {x : ℚ} : toDouble x = x ↔ IsDouble x :=
  ⟨fun same => same ▸ isDouble_toDouble x, fun double => binary64.round_of_mem double⟩

theorem Double.ofDecimal_eq_finite {mantissa exponent : Int} {value : ℚ} :
    ofDecimal mantissa exponent = .finite value ↔
      toDouble (mantissa * 10 ^ exponent) = value ∧ |value| < 2 ^ 1024 := by
  unfold ofDecimal
  dsimp only
  split
  · rename_i small
    rw [Double.finite.injEq]
    exact ⟨fun same => ⟨same, same ▸ small⟩, And.left⟩
  · rename_i large
    exact ⟨nofun, fun found => absurd (found.1 ▸ found.2) large⟩

theorem Double.ofDecimal_int {n : Int} (small : |n| ≤ 2 ^ 53) : ofDecimal n 0 = .finite n := by
  have bound : |(n : ℚ)| ≤ 2 ^ 53 := by exact_mod_cast small
  rw [Double.ofDecimal_eq_finite, zpow_zero, mul_one]
  exact ⟨binary64.round_of_mem (isDouble_int small),
    bound.trans_lt (pow_lt_pow_right₀ (by norm_num) (by norm_num))⟩

inductive Decoded where
  | null
  | bool (value : Bool)
  | number (value : Double)
  | string (text : String)
  | array (items : List Decoded)
  | object (fields : List (String × Decoded))

namespace Decoded

mutual

def ofJson : Json → Decoded
  | .null => .null
  | .bool value => .bool value
  | .number mantissa exponent => .number (.ofDecimal mantissa exponent)
  | .string text => .string text
  | .array items => .array (ofItems items)
  | .object fields => .object (ofFields fields)

def ofItems : List Json → List Decoded
  | [] => []
  | item :: items => ofJson item :: ofItems items

def ofFields : List (String × Json) → List (String × Decoded)
  | [] => []
  | (name, value) :: fields => (name, ofJson value) :: ofFields fields

end

@[simp] theorem ofJson_string (text : String) : ofJson (.string text) = .string text := rfl

/-- No nesting is too deep. -/
def parse (text : List Char) : Option Decoded := (Json.read text.length text).map ofJson

/-- None where it is undefined. -/
def property (value : Decoded) (name : String) : Option Decoded :=
  match value with
  | object fields => fields.reverse.lookup name
  | _ => none

theorem parse_write_append (json : Json) {space : List Char}
    (blank : ∀ c ∈ space, Json.isSpace c = true) :
    parse (json.write ++ space) = some (ofJson json) := by
  rw [parse, Json.read_write json space blank _ (by simp), Option.map_some]

theorem parse_write (json : Json) : parse json.write = some (ofJson json) := by
  have parsed := parse_write_append json (List.forall_mem_nil _)
  rwa [List.append_nil] at parsed

theorem ofItems_eq (items : List Json) : ofItems items = items.map ofJson := by
  induction items with
  | nil => rfl
  | cons item items ih => rw [ofItems, List.map_cons, ih]

theorem ofFields_eq (fields : List (String × Json)) :
    ofFields fields = fields.map fun field => (field.1, ofJson field.2) := by
  induction fields with
  | nil => rfl
  | cons field fields ih => rw [ofFields, List.map_cons, ih]

theorem lookup_map_ofJson (fields : List (String × Json)) (name : String) :
    (fields.map fun field => (field.1, ofJson field.2)).lookup name =
    (fields.lookup name).map ofJson := by
  induction fields with
  | nil => rfl
  | cons field fields ih =>
    rw [List.map_cons, List.lookup_cons, List.lookup_cons, ih]
    cases name == field.1 <;> rfl

/-- A property of what was parsed is what the field in the text is parsed as. -/
theorem property_ofJson (json : Json) (name : String) :
    (ofJson json).property name = (json.property name).map ofJson := by
  cases json with
  | object fields =>
    rw [ofJson, property, ofFields_eq, ← List.map_reverse, lookup_map_ofJson]
    rfl
  | _ => rfl

mutual

/-- What was parsed says what the text says: each number is the one that was written. -/
def Denotes : Json → Decoded → Prop
  | .null, .null => True
  | .bool value, .bool value' => value' = value
  | .number mantissa exponent, .number value => value = .finite (mantissa * 10 ^ exponent)
  | .string text, .string text' => text' = text
  | .array items, .array items' => DenotesItems items items'
  | .object fields, .object fields' => DenotesFields fields fields'
  | _, _ => False

def DenotesItems : List Json → List Decoded → Prop
  | [], [] => True
  | item :: items, item' :: items' => Denotes item item' ∧ DenotesItems items items'
  | _, _ => False

def DenotesFields : List (String × Json) → List (String × Decoded) → Prop
  | [], [] => True
  | (name, value) :: fields, (name', value') :: fields' =>
    name' = name ∧ Denotes value value' ∧ DenotesFields fields fields'
  | _, _ => False

end

/-- A number that a double can be. -/
def Representable (mantissa exponent : Int) : Prop :=
  IsDouble (mantissa * 10 ^ exponent) ∧ |(mantissa : ℚ) * 10 ^ exponent| < 2 ^ 1024

mutual

def Exact : Json → Prop
  | .number mantissa exponent => Representable mantissa exponent
  | .array items => ExactItems items
  | .object fields => ExactFields fields
  | _ => True

def ExactItems : List Json → Prop
  | [] => True
  | item :: items => Exact item ∧ ExactItems items

def ExactFields : List (String × Json) → Prop
  | [] => True
  | (_, value) :: fields => Exact value ∧ ExactFields fields

end

theorem ofDecimal_exact_iff {mantissa exponent : Int} :
    Double.ofDecimal mantissa exponent = .finite (mantissa * 10 ^ exponent) ↔
      Representable mantissa exponent := by
  rw [Double.ofDecimal_eq_finite, toDouble_eq_self_iff]
  rfl

mutual

/-- Parsing keeps what a text says just when all of its numbers are doubles. -/
theorem denotes_ofJson : ∀ json, Denotes json (ofJson json) ↔ Exact json
  | .null => Iff.rfl
  | .bool _ => iff_of_true rfl trivial
  | .number mantissa exponent => by
    rw [ofJson, Denotes, Exact]
    exact ofDecimal_exact_iff
  | .string _ => iff_of_true rfl trivial
  | .array items => by
    rw [ofJson, Denotes, Exact]
    exact denotes_ofItems items
  | .object fields => by
    rw [ofJson, Denotes, Exact]
    exact denotes_ofFields fields

theorem denotes_ofItems : ∀ items, DenotesItems items (ofItems items) ↔ ExactItems items
  | [] => Iff.rfl
  | item :: items => by
    rw [ofItems, DenotesItems, ExactItems, denotes_ofJson item, denotes_ofItems items]

theorem denotes_ofFields : ∀ fields, DenotesFields fields (ofFields fields) ↔ ExactFields fields
  | [] => Iff.rfl
  | (name, value) :: fields => by
    rw [ofFields, DenotesFields, ExactFields, denotes_ofJson value, denotes_ofFields fields]
    exact and_iff_right rfl

end

end Decoded

end OpenScale.Library
