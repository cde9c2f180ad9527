import Mathlib.Data.List.TakeWhile
import OpenScale.Library.Json

/-! A writer for JSON texts, and that the reader gets back what it wrote. Characters are
escaped as for a text that is embedded in HTML. -/

namespace OpenScale.Library.Json

def hexDigits (code : Nat) : List Char :=
  [Nat.digitChar (code / 4096), Nat.digitChar (code / 256 % 16), Nat.digitChar (code / 16 % 16),
    Nat.digitChar (code % 16)]

def escapeLetter (c : Char) : Option Char :=
  if c = quote ∨ c = backslash then some c
  else if c.toNat = 8 then some 'b'
  else if c.toNat = 12 then some 'f'
  else if c.toNat = 10 then some 'n'
  else if c.toNat = 13 then some 'r'
  else if c.toNat = 9 then some 't'
  else none

def isUnsafe (c : Char) : Bool :=
  c.toNat < 32 || c == '<' || c == '>' || c == '&' || c.toNat == 0x2028 || c.toNat == 0x2029

def escape (c : Char) : List Char :=
  match escapeLetter c with
  | some letter => [backslash, letter]
  | none => if isUnsafe c then backslash :: 'u' :: hexDigits c.toNat else [c]

def writeString (text : String) : List Char := quote :: text.toList.flatMap escape ++ [quote]

/-- The digits with a point before the last `places` of them. -/
def pointed (digits : List Char) (places : Nat) : List Char :=
  let padded := List.replicate (places + 1 - digits.length) '0' ++ digits
  padded.take (padded.length - places) ++ '.' :: padded.drop (padded.length - places)

/-- One digit before the point, and an exponent. -/
def scientific (digits : List Char) (exponent : Int) : List Char :=
  let fraction := digits.tail
  digits.take 1 ++ (if fraction.isEmpty then [] else '.' :: fraction) ++
    'e' :: (if exponent < 0 then '-' else '+') :: Nat.toDigits 10 exponent.natAbs

/-- No exponent down to a millionth. -/
def writeNumber (mantissa exponent : Int) : List Char :=
  let digits := Nat.toDigits 10 mantissa.natAbs
  (if mantissa < 0 then ['-'] else []) ++
    if exponent = 0 then digits
    else if exponent < 0 ∧ -5 ≤ digits.length + exponent then pointed digits exponent.natAbs
    else scientific digits (exponent + (digits.length - 1))

mutual

def write : Json → List Char
  | null => ['n', 'u', 'l', 'l']
  | bool true => ['t', 'r', 'u', 'e']
  | bool false => ['f', 'a', 'l', 's', 'e']
  | number mantissa exponent => writeNumber mantissa exponent
  | string text => writeString text
  | array [] => [openBracket, closeBracket]
  | array (item :: items) => openBracket :: write item ++ writeItems items
  | object [] => [openBrace, closeBrace]
  | object ((name, value) :: fields) =>
    openBrace :: writeString name ++ ':' :: write value ++ writeFields fields

def writeItems : List Json → List Char
  | [] => [closeBracket]
  | item :: items => ',' :: write item ++ writeItems items

def writeFields : List (String × Json) → List Char
  | [] => [closeBrace]
  | (name, value) :: fields => ',' :: writeString name ++ ':' :: write value ++ writeFields fields

end

section Strings

variable {c : Char} {rest after : List Char} {codes : List Nat}

theorem hexValue_digitChar {n : Nat} (small : n < 16) : hexValue (Nat.digitChar n) = some n := by
  have values : ∀ n < 16, hexValue (Nat.digitChar n) = some n := by decide
  exact values n small

/-- What reading the codes gives when this one comes first. -/
def consCode (code : Nat) (read : Option (List Nat × List Char)) : Option (List Nat × List Char) :=
  read.map fun (codes, after) => (code :: codes, after)

theorem escapeValue_escapeLetter {letter : Char} (short : escapeLetter c = some letter) :
    letter ≠ 'u' ∧ escapeValue letter = some c.toNat := by
  have named : ∀ {d : Char} {code : Nat}, c.toNat = code → d ≠ 'u' ∧ escapeValue d = some code →
      some d = some letter → letter ≠ 'u' ∧ escapeValue letter = some c.toNat := by
    rintro d code rfl value ⟨⟩
    exact value
  unfold escapeLetter at short
  split at short
  · rename_i itself
    refine named rfl ?_ short
    rcases itself with rfl | rfl <;> decide
  split at short
  · exact named ‹_› (by decide) short
  split at short
  · exact named ‹_› (by decide) short
  split at short
  · exact named ‹_› (by decide) short
  split at short
  · exact named ‹_› (by decide) short
  split at short
  · exact named ‹_› (by decide) short
  · cases short

theorem readCodes_quote (rest : List Char) : readCodes (quote :: rest) = some ([], rest) := by
  rw [readCodes.eq_def]
  exact if_pos rfl

theorem readCodes_plain (open_ : c ≠ quote) (printable : ¬ c.toNat < 32) (plain : c ≠ backslash)
    (rest : List Char) :
    readCodes (c :: rest) = consCode c.toNat (readCodes rest) := by
  rw [readCodes.eq_def]
  simp only [if_neg open_, if_neg printable, if_neg plain]
  cases readCodes rest <;> rfl

theorem readCodes_letter {letter : Char} {code : Nat} (other : letter ≠ 'u')
    (value : escapeValue letter = some code) :
    readCodes (backslash :: letter :: rest) = consCode code (readCodes rest) := by
  have opens : backslash ≠ quote := by decide
  have printable : ¬ backslash.toNat < 32 := by decide
  rw [readCodes.eq_def]
  simp only [if_neg opens, if_neg printable, if_true]
  split
  · rename_i same
    simp only [List.cons.injEq] at same
    exact absurd same.1 other
  · rename_i same
    cases same
    rw [value]
    cases readCodes rest <;> rfl
  · rename_i same
    cases same

theorem readCodes_hex {code : Nat} (small : code < 65536) :
    readCodes (backslash :: 'u' :: hexDigits code ++ rest) = consCode code (readCodes rest) := by
  have whole : 256 * (16 * (code / 4096) + code / 256 % 16) +
    (16 * (code / 16 % 16) + code % 16) = code := by omega
  have opens : backslash ≠ quote := by decide
  have printable : ¬ backslash.toNat < 32 := by decide
  rw [hexDigits, readCodes.eq_def]
  simp only [List.cons_append, List.nil_append, if_neg opens, if_neg printable, if_true]
  rw [hexValue_digitChar (by omega), hexValue_digitChar (by omega), hexValue_digitChar (by omega),
    hexValue_digitChar (by omega)]
  cases readCodes rest with
  | none => rfl
  | some read =>
    change some ((256 * (16 * (code / 4096) + code / 256 % 16) +
      (16 * (code / 16 % 16) + code % 16)) :: _, _) = _
    rw [whole]
    rfl

theorem readCodes_escape (c : Char) (rest : List Char) :
    readCodes (escape c ++ rest) = consCode c.toNat (readCodes rest) := by
  unfold escape
  split
  · rename_i letter short
    obtain ⟨other, value⟩ := escapeValue_escapeLetter short
    exact readCodes_letter other value
  · rename_i none_
    have plain : ¬ (c = quote ∨ c = backslash) := by
      intro itself
      simp [escapeLetter, itself] at none_
    split
    · rename_i unsafe_
      refine readCodes_hex ?_
      simp only [isUnsafe, Bool.or_eq_true, decide_eq_true_eq, beq_iff_eq] at unsafe_
      rcases unsafe_ with ((((low | rfl) | rfl) | rfl) | code) | code
      · omega
      · decide
      · decide
      · decide
      · omega
      · omega
    · rename_i safe
      have printable : ¬ c.toNat < 32 := by
        intro low
        simp [isUnsafe, low] at safe
      exact readCodes_plain (fun same => plain (.inl same)) printable
        (fun same => plain (.inr same)) rest

theorem readCodes_escaped (text : List Char) (rest : List Char) :
    readCodes (text.flatMap escape ++ quote :: rest) = some (text.map Char.toNat, rest) := by
  induction text with
  | nil => exact readCodes_quote rest
  | cons c text ih =>
    rw [List.flatMap_cons, List.append_assoc, readCodes_escape, ih]
    rfl

theorem not_surrogate (c : Char) : isHighSurrogate c.toNat = false ∧
    isLowSurrogate c.toNat = false := by
  have valid : c.toNat < 0xD800 ∨ 0xDFFF < c.toNat ∧ c.toNat < 0x110000 := c.valid
  simp only [isHighSurrogate, isLowSurrogate, Bool.and_eq_false_iff, decide_eq_false_iff_not]
  omega

theorem joinSurrogates_chars (text : List Char) : joinSurrogates (text.map Char.toNat) = text := by
  induction text with
  | nil => rfl
  | cons c text ih =>
    obtain ⟨high, low⟩ := not_surrogate c
    cases text with
    | nil => simp [joinSurrogates, high, low]
    | cons d text =>
      rw [List.map_cons] at ih
      simp [joinSurrogates, high, low, ih]

theorem readString_writeString (text : String) (rest : List Char) :
    writeString text ++ rest = quote :: (text.toList.flatMap escape ++ quote :: rest) ∧
      readString (text.toList.flatMap escape ++ quote :: rest) = some (text, rest) := by
  refine ⟨by simp [writeString], ?_⟩
  simp [readString, readCodes_escaped, joinSurrogates_chars]

end Strings

section Numbers

variable {digits rest : List Char} {n : Nat}

/-- No number goes on here. -/
def Ends (rest : List Char) : Prop :=
  ∀ c, rest.head? = some c → c.isDigit = false ∧ c ≠ '.' ∧ c ≠ 'e' ∧
    c ≠ 'E'

theorem isDigit_toDigits (n : Nat) : ∀ c ∈ Nat.toDigits 10 n, c.isDigit = true :=
  fun _ member => Nat.isDigit_of_mem_toDigits (by decide) (by decide) member

theorem readDigits_append (all : ∀ c ∈ digits, c.isDigit = true)
    (stops : ∀ c, rest.head? = some c → c.isDigit = false) (value count : Nat) :
    readDigits (digits ++ rest) value count =
    (Nat.ofDigitChars 10 digits value, count + digits.length,
        rest) := by
  induction digits generalizing value count with
  | nil =>
    cases rest with
    | nil => rfl
    | cons c rest => simp [readDigits, stops c rfl]
  | cons c digits ih =>
    have first := all c (List.mem_cons_self ..)
    have others := ih (fun d member => all d (List.mem_cons_of_mem _ member))
    simp only [List.cons_append, readDigits, first, if_true, others, Nat.ofDigitChars_cons,
      List.length_cons]
    rw [Nat.add_right_comm, Nat.add_assoc]
    rfl

/-- Only zero is written with a leading zero. -/
theorem head_toDigits (positive : 0 < n) : (Nat.toDigits 10 n).head? ≠ some '0' := by
  induction n using Nat.strongRecOn with
  | _ n ih =>
    by_cases small : n < 10
    · rw [Nat.toDigits_of_lt_base small]
      simp [Nat.pos_iff_ne_zero.mp positive]
    · rw [Nat.toDigits_of_base_le (by decide) (by omega),
        List.head?_append_of_ne_nil _ Nat.toDigits_ne_nil]
      exact ih (n / 10) (by omega) (by omega)

theorem readExponent_ends (ends : Ends rest) : readExponent rest = some (0, rest) := by
  cases rest with
  | nil => rfl
  | cons c rest => simp [readExponent, (ends c rfl).2.2.1, (ends c rfl).2.2.2]

theorem readFraction_ends (ends : ∀ c, rest.head? = some c → c ≠ '.') (whole : Nat) :
    readFraction whole rest = some (whole, 0, rest) := by
  unfold readFraction
  split
  · exact absurd rfl (ends '.' rfl)
  · rfl

theorem readFraction_point (all : ∀ c ∈ digits, c.isDigit = true) (some_ : digits ≠ [])
    (stops : ∀ c, rest.head? = some c → c.isDigit = false) (whole : Nat) :
    readFraction whole ('.' :: digits ++ rest) = some
        (Nat.ofDigitChars 10 digits whole, digits.length, rest) := by
  have length : digits.length ≠ 0 := by simp [some_]
  simp only [readFraction, List.cons_append, readDigits_append all stops, Nat.zero_add]
  split
  · rename_i same
    simp only [Prod.mk.injEq] at same
    exact absurd same.2.1 length
  · rfl

theorem readExponent_written (exponent : Int) (ends : Ends rest) :
    readExponent
      ('e' :: (if exponent < 0 then '-' else '+') :: Nat.toDigits 10 exponent.natAbs ++ rest) =
      some (exponent, rest) := by
  have stops : ∀ c, rest.head? = some c → c.isDigit = false := fun c head => (ends c head).1
  obtain ⟨more, length⟩ := Nat.exists_eq_add_one.mpr (@Nat.length_toDigits_pos 10 exponent.natAbs)
  have read := readDigits_append (isDigit_toDigits exponent.natAbs) stops 0 0
  rw [Nat.ofDigitChars_ten_toDigits, Nat.zero_add, length] at read
  by_cases negative : exponent < 0
  · have same : -(exponent.natAbs : Int) = exponent := by omega
    rw [if_pos negative]
    generalize exponent.natAbs = size at read same ⊢
    simp [readExponent, readSign, read, same]
  · have same : (exponent.natAbs : Int) = exponent := by omega
    rw [if_neg negative]
    generalize exponent.natAbs = size at read same ⊢
    simp [readExponent, read, same]

theorem readSign_digits {before tail : List Char} (all : ∀ c ∈ before, c.isDigit = true)
    (some_ : before ≠ []) :
    readSign (before ++ tail) = (false, before ++ tail) := by
  unfold readSign
  split
  · rename_i rest same
    cases before with
    | nil => exact absurd rfl some_
    | cons c before =>
      simp only [List.cons_append, List.cons.injEq] at same
      have digit := all c (List.mem_cons_self ..)
      rw [same.1] at digit
      cases digit
  · rfl

/-- What a number is made of: the digits before the point, and a fraction and an exponent
that may be missing. -/
theorem readNumber_parts {mantissa exponent : Int} {before tail : List Char} (places : Nat)
    (left : List Char) (all : ∀ c ∈ before, c.isDigit = true) (some_ : before ≠ [])
    (leading : before.head? = some '0' → before.length = 1)
    (stops : ∀ c, tail.head? = some c → c.isDigit = false)
    (fraction : readFraction (Nat.ofDigitChars 10 before 0) tail =
      some (mantissa.natAbs, places, left))
    (scaled : readExponent left = some (exponent + places, rest)) :
    readNumber ((if mantissa < 0 then ['-'] else []) ++ (before ++ tail)) =
        some (number mantissa exponent, rest) := by
  have sign : readSign ((if mantissa < 0 then ['-'] else []) ++ (before ++ tail)) =
      (decide (mantissa < 0), before ++ tail) := by
    by_cases negative : mantissa < 0
    · simp only [negative, if_true, decide_true]
      rfl
    · simp only [negative, if_false, decide_false, List.nil_append]
      exact readSign_digits all some_
  have head : (before ++ tail).head? = before.head? := List.head?_append_of_ne_nil _ some_
  have counted : ¬ (before.length = 0 ∨ before.head? = some '0' ∧ before.length ≠ 1) := by
    intro bad
    rcases bad with empty | ⟨zero_, many⟩
    · exact some_ (List.eq_nil_of_length_eq_zero empty)
    · exact many (leading zero_)
  have value : (if mantissa < 0 then -(mantissa.natAbs : Int) else mantissa.natAbs) = mantissa := by
    split <;> omega
  unfold readNumber
  simp only [sign, readDigits_append all stops, head, Nat.zero_add, if_neg counted,
    fraction, scaled, Option.bind_eq_bind, Option.bind_some, decide_eq_true_eq, value]
  simp

theorem readNumber_digits (mantissa : Int) (ends : Ends rest) :
    readNumber ((if mantissa < 0 then ['-'] else []) ++ (Nat.toDigits 10 mantissa.natAbs ++ rest)) =
      some (number mantissa 0, rest) := by
  refine readNumber_parts 0 rest (isDigit_toDigits _) Nat.toDigits_ne_nil ?_
    (fun c head => (ends c head).1) ?_
    (readExponent_ends ends)
  · intro leading
    rcases Nat.eq_zero_or_pos mantissa.natAbs with none_ | positive
    · simp [none_]
    · exact absurd leading (head_toDigits positive)
  · rw [Nat.ofDigitChars_ten_toDigits]
    exact readFraction_ends (fun c head => (ends c head).2.1) _

theorem ofDigitChars_padded (count n : Nat) :
    Nat.ofDigitChars 10 (List.replicate count '0' ++ Nat.toDigits 10 n) 0 = n := by
  rw [Nat.ofDigitChars_append, Nat.ofDigitChars_replicate_zero, Nat.mul_zero,
    Nat.ofDigitChars_ten_toDigits]

theorem readNumber_pointed {mantissa exponent : Int} (negative : exponent < 0) (ends : Ends rest) :
    readNumber ((if mantissa < 0 then ['-'] else []) ++
      (pointed (Nat.toDigits 10 mantissa.natAbs) exponent.natAbs ++ rest)) =
          some (number mantissa exponent, rest) := by
  generalize shape :
    List.replicate (exponent.natAbs + 1 - (Nat.toDigits 10 mantissa.natAbs).length) '0' ++
    Nat.toDigits 10 mantissa.natAbs = padded
  have length : padded.length =
      exponent.natAbs + 1 - (Nat.toDigits 10 mantissa.natAbs).length +
          (Nat.toDigits 10 mantissa.natAbs).length := by
    rw [← shape, List.length_append, List.length_replicate]
  have all : ∀ c ∈ padded, c.isDigit = true := by
    rw [← shape]
    intro c member
    rcases List.mem_append.mp member with filler | digit
    · rw [List.eq_of_mem_replicate filler]
      rfl
    · exact isDigit_toDigits _ c digit
  have value : Nat.ofDigitChars 10 padded 0 = mantissa.natAbs := by
    rw [← shape]
    exact ofDigitChars_padded _ _
  have written : pointed (Nat.toDigits 10 mantissa.natAbs) exponent.natAbs ++ rest =
      padded.take (padded.length - exponent.natAbs) ++
        ('.' :: padded.drop (padded.length - exponent.natAbs) ++ rest) := by
    simp [pointed, shape]
  have split_ :=
    Nat.ofDigitChars_append (b := 10) (l := padded.take (padded.length - exponent.natAbs))
    (m := padded.drop (padded.length - exponent.natAbs)) 0
  rw [List.take_append_drop, value] at split_
  have behind : (padded.drop (padded.length - exponent.natAbs)).length = exponent.natAbs := by
    rw [List.length_drop]
    omega
  rw [written]
  refine readNumber_parts exponent.natAbs rest ?_ ?_ ?_ ?_ ?_ ?_
  · exact fun c member => all c (List.mem_of_mem_take member)
  · apply List.ne_nil_of_length_pos
    rw [List.length_take]
    omega
  · intro leading
    rw [List.length_take]
    by_cases fits : exponent.natAbs + 1 ≤ (Nat.toDigits 10 mantissa.natAbs).length
    · have whole : padded = Nat.toDigits 10 mantissa.natAbs := by
        rw [← shape, Nat.sub_eq_zero_of_le fits]
        rfl
      rw [List.head?_take, if_neg (by omega), whole] at leading
      rcases Nat.eq_zero_or_pos mantissa.natAbs with none_ | positive
      · rw [none_] at fits
        simp at fits
        omega
      · exact absurd leading (head_toDigits positive)
    · omega
  · intro c head
    cases head
    rfl
  · rw [split_]
    have some_ : padded.drop (padded.length - exponent.natAbs) ≠ [] := by
      apply List.ne_nil_of_length_pos
      omega
    have read := readFraction_point (fun c member => all c (List.mem_of_mem_drop member)) some_
      (fun c head =>
        (ends c head).1) (Nat.ofDigitChars 10 (padded.take (padded.length - exponent.natAbs)) 0)
    rw [behind] at read
    exact read
  · have whole : exponent + exponent.natAbs = 0 := by omega
    rw [whole]
    exact readExponent_ends ends

theorem readNumber_scientific {mantissa exponent : Int} (ends : Ends rest) :
    readNumber
      ((if mantissa < 0 then ['-'] else []) ++ (scientific (Nat.toDigits 10 mantissa.natAbs)
      (exponent + ((Nat.toDigits 10 mantissa.natAbs).length - 1)) ++ rest)) =
          some (number mantissa exponent, rest) := by
  have all := isDigit_toDigits mantissa.natAbs
  have value := @Nat.ofDigitChars_ten_toDigits mantissa.natAbs
  cases shape : Nat.toDigits 10 mantissa.natAbs with
  | nil => exact absurd shape Nat.toDigits_ne_nil
  | cons first fraction =>
    rw [shape] at all value
    have scale : exponent + (((first :: fraction).length : Int) - 1) =
        exponent + fraction.length := by simp
    have scaled := readExponent_written (exponent + fraction.length) ends
    rw [scale]
    simp only [scientific, List.tail_cons, List.take_succ_cons, List.take_zero, List.append_assoc]
    refine readNumber_parts fraction.length _ ?_ (List.cons_ne_nil _ _) (fun _ => rfl) ?_ ?_ scaled
    · exact fun c member => all c (by simp [List.mem_singleton.mp member])
    · intro c head
      cases fraction <;> cases head <;> rfl
    · rw [← List.singleton_append, Nat.ofDigitChars_append] at value
      cases fraction with
      | nil =>
        rw [Nat.ofDigitChars_nil] at value
        rw [value]
        exact readFraction_ends (fun c head => by cases head; decide) _
      | cons second fraction =>
        have stops : ∀ c,
            ('e' :: (if exponent + ((second :: fraction).length : Int) < 0 then '-' else '+') ::
            Nat.toDigits 10 (exponent + (second :: fraction).length).natAbs ++ rest).head? =
            some c →
              c.isDigit = false := by
          intro c head
          cases head
          rfl
        have read := readFraction_point (fun c member => all c (List.mem_cons_of_mem _ member))
          (List.cons_ne_nil _ _)
          stops (Nat.ofDigitChars 10 [first] 0)
        rw [value] at read
        simpa using read

theorem readNumber_writeNumber (mantissa exponent : Int) (ends : Ends rest) :
    readNumber (writeNumber mantissa exponent ++ rest) = some (number mantissa exponent, rest) := by
  unfold writeNumber
  rw [List.append_assoc]
  by_cases whole : exponent = 0
  · rw [if_pos whole, whole]
    exact readNumber_digits mantissa ends
  · rw [if_neg whole]
    by_cases small : exponent < 0 ∧ -5 ≤ (Nat.toDigits 10 mantissa.natAbs).length + exponent
    · rw [if_pos small]
      exact readNumber_pointed small.1 ends
    · rw [if_neg small]
      exact readNumber_scientific ends

end Numbers

section Values

variable {value item : Json} {items : List Json} {fields : List (String × Json)}
  {name : String} {c : Char}
  {rest : List Char} {fuel depth : Nat}

/-- What is written of this value is read back, whatever follows. -/
def Reads (value : Json) : Prop := ∀ fuel depth rest, (write value).length ≤ fuel →
  (write value).length ≤ depth →
  Ends rest → readValue fuel depth (write value ++ rest) = some (value, rest)

theorem skipSpace_visible (visible : isSpace c = false) (rest : List Char) :
    skipSpace (c :: rest) = c :: rest := by
  simp [skipSpace, visible]

theorem ends_cons (plain : c.isDigit = false) (other : c ≠ '.' ∧ c ≠ 'e' ∧ c ≠ 'E') :
    Ends (c :: rest) := by
  intro d head
  cases head
  exact ⟨plain, other⟩

theorem number_head {read : Json × List Char} {input : List Char}
    (found : readNumber input = some read) :
    ∃ c tail, input = c :: tail ∧ (c = '-' ∨ c.isDigit = true) := by
  cases input with
  | nil => cases found
  | cons c tail =>
    refine ⟨c, tail, rfl, ?_⟩
    by_contra other
    simp only [not_or, Bool.not_eq_true] at other
    have sign : readSign (c :: tail) = (false, c :: tail) := by
      unfold readSign
      split
      · rename_i same
        cases same
        exact absurd rfl other.1
      · rfl
    simp [readNumber, sign, readDigits, other.2] at found

theorem ne_of_number {d : Char} (first : c = '-' ∨ c.isDigit = true) (sign : d ≠ '-')
    (plain : d.isDigit = false) : c ≠ d := by
  intro same
  rcases first with minus | digit
  · exact sign (same.symm.trans minus)
  · rw [same, plain] at digit
    cases digit

theorem visible_of_number (first : c = '-' ∨ c.isDigit = true) : isSpace c = false := by
  have codes : ∀ code ∈ [32, 9, 10, 13], c.toNat ≠ code := by
    intro code member same
    have char : c = Char.ofNat code := by rw [← same, Char.ofNat_toNat]
    simp only [List.mem_cons, List.not_mem_nil, or_false] at member
    rcases member with rfl | rfl | rfl | rfl <;>
      exact ne_of_number first (by decide) (by decide) char
  simp [isSpace, codes]

theorem writeNumber_head (mantissa exponent : Int) :
    ∃ c tail, writeNumber mantissa exponent = c :: tail ∧ (c = '-' ∨ c.isDigit = true) := by
  have ends : Ends [] := nofun
  have read := readNumber_writeNumber mantissa exponent ends
  rw [List.append_nil] at read
  exact number_head read

theorem reads_number (mantissa exponent : Int) : Reads (number mantissa exponent) := by
  intro fuel depth rest enough _ ends
  have read := readNumber_writeNumber mantissa exponent ends
  obtain ⟨c, tail, shape, first⟩ := writeNumber_head mantissa exponent
  rw [write, shape] at enough ⊢
  rw [shape] at read
  cases fuel with
  | zero => simp at enough
  | succ fuel =>
    rw [List.cons_append] at read ⊢
    rw [readValue, skipSpace_visible (visible_of_number first)]
    simp only [if_neg (ne_of_number first (d := openBrace) (by decide) (by decide)),
      if_neg (ne_of_number first (d := openBracket) (by decide) (by decide)),
      if_neg (ne_of_number first (d := quote) (by decide) (by decide)),
      if_neg (ne_of_number first (d := 'n') (by decide) (by decide)),
      if_neg (ne_of_number first (d := 't') (by decide) (by decide)),
      if_neg (ne_of_number first (d := 'f') (by decide) (by decide)), read]

theorem write_head (value : Json) : ∃ c tail, write value = c :: tail ∧ isSpace c = false ∧
    c ≠ closeBracket := by
  cases value with
  | null => exact ⟨_, _, by rw [write], by decide, by decide⟩
  | bool flag => cases flag <;> exact ⟨_, _, by rw [write], by decide, by decide⟩
  | number mantissa exponent =>
    obtain ⟨c, tail, shape, first⟩ := writeNumber_head mantissa exponent
    exact ⟨c, tail, by rw [write, shape], visible_of_number first,
      ne_of_number first (by decide) (by decide)⟩
  | string text => exact ⟨_, _, by rw [write, writeString, List.cons_append], by decide, by decide⟩
  | array items =>
    cases items with
    | nil => exact ⟨_, _, by rw [write], by decide, by decide⟩
    | cons item items => exact ⟨_, _, by rw [write, List.cons_append], by decide, by decide⟩
  | object fields =>
    cases fields with
    | nil => exact ⟨_, _, by rw [write], by decide, by decide⟩
    | cons field fields =>
      exact ⟨_, _, by rw [write, List.cons_append, List.cons_append], by decide, by decide⟩

theorem reads_string (text : String) : Reads (string text) := by
  intro fuel depth rest enough _ _
  obtain ⟨shape, read⟩ := readString_writeString text rest
  have brace : quote ≠ openBrace := by decide
  have bracket : quote ≠ openBracket := by decide
  cases fuel with
  | zero => simp [write, writeString] at enough
  | succ fuel =>
    rw [write, readValue, shape, skipSpace_visible (by decide)]
    simp only [if_neg brace, if_neg bracket, if_true, read]
    rfl

theorem ends_writeItems (items : List Json) (rest : List Char) :
    Ends (writeItems items ++ rest) := by
  cases items with
  | nil => exact ends_cons (by decide) (by decide)
  | cons item items => exact ends_cons (by decide) (by decide)

theorem readItems_write (reads : ∀ other ∈ item :: items, Reads other) (rest : List Char)
    (enough : (write item ++ writeItems items).length ≤ fuel)
      (deep : (write item ++ writeItems items).length ≤ depth) :
    readItems fuel depth (write item ++ writeItems items ++ rest) = some (item :: items, rest) := by
  induction items generalizing item fuel with
  | nil =>
    cases fuel with
    | zero => simp [writeItems] at enough
    | succ fuel =>
      simp only [writeItems, List.length_append, List.length_singleton,
        Nat.add_le_add_iff_right] at enough deep
      have first :=
        reads item (List.mem_cons_self ..) fuel depth (writeItems [] ++ rest) enough (by omega)
        (ends_writeItems [] rest)
      rw [List.append_assoc, readItems, first]
      simp only [writeItems, List.singleton_append, Option.bind_eq_bind, Option.bind_some]
      rw [skipSpace_visible (by decide)]
      rfl
  | cons next items ih =>
    cases fuel with
    | zero => simp [writeItems] at enough
    | succ fuel =>
      simp only [writeItems, List.length_append, List.length_cons] at enough deep
      have first :=
        reads item (List.mem_cons_self ..) fuel depth (writeItems (next :: items) ++ rest)
        (by omega) (by omega)
        (ends_writeItems _ rest)
      have later : readItems fuel depth (write next ++ writeItems items ++ rest) =
          some (next :: items, rest) :=
        ih (fun other member => reads other (List.mem_cons_of_mem _ member))
          (by rw [List.length_append]; omega) (by rw [List.length_append]; omega)
      have comma : ',' ≠ closeBracket := by decide
      rw [List.append_assoc, readItems, first]
      simp only [writeItems, List.cons_append, Option.bind_eq_bind, Option.bind_some]
      rw [skipSpace_visible (by decide)]
      simp only [if_neg comma, if_true, later]
      rfl

theorem reads_array (reads : ∀ item ∈ items, Reads item) : Reads (array items) := by
  intro fuel depth rest enough deep _
  have brace : openBracket ≠ openBrace := by decide
  cases fuel with
  | zero => cases items <;> simp [write] at enough
  | succ fuel =>
    cases depth with
    | zero => cases items <;> simp [write] at deep
    | succ depth =>
      cases items with
      | nil =>
        rw [write, List.cons_append, readValue, skipSpace_visible (by decide)]
        simp only [if_neg brace, if_true, Nat.add_one_ne_zero, if_false]
        rw [List.cons_append, skipSpace_visible (by decide)]
        rfl
      | cons item items =>
        rw [write] at enough deep ⊢
        simp only [List.cons_append, List.length_cons, Nat.add_le_add_iff_right] at enough deep
        have read := readItems_write reads rest enough deep
        obtain ⟨c, tail, shape, visible, close⟩ := write_head item
        rw [List.cons_append, List.cons_append, readValue, skipSpace_visible (by decide)]
        simp only [if_neg brace, if_true, Nat.add_one_ne_zero, if_false, Nat.add_one_sub_one]
        rw [shape, List.cons_append, List.cons_append] at read ⊢
        rw [skipSpace_visible visible]
        simp only [if_neg close, read]
        rfl

theorem ends_writeFields (fields : List (String × Json)) (rest : List Char) :
    Ends (writeFields fields ++ rest) := by
  cases fields with
  | nil => exact ends_cons (by decide) (by decide)
  | cons field fields => exact ends_cons (by decide) (by decide)

theorem readFields_field (reads : Reads value) (enough : (write value).length ≤ fuel)
    (deep : (write value).length ≤ depth) {d : Char} {after : List Char} (ends : Ends (d :: after))
    (visible : isSpace d = false) :
    readFields (fuel + 1) depth (writeString name ++ ':' :: write value ++ d :: after) =
      if d = closeBrace then some ([(name, value)], after)
      else if d = ',' then (readFields fuel depth after).map fun (fields, after) =>
        ((name, value) :: fields, after)
      else none := by
  have shape : writeString name ++ ':' :: write value ++ d :: after =
      quote :: (name.toList.flatMap escape ++ quote :: ':' :: (write value ++ d :: after)) := by
    simp [writeString]
  have field := (readString_writeString name (':' :: (write value ++ d :: after))).2
  have read := reads fuel depth (d :: after) enough deep ends
  rw [shape, readFields, skipSpace_visible (by decide)]
  simp only [if_true, field, Option.bind_eq_bind, Option.bind_some]
  rw [skipSpace_visible (by decide)]
  simp only [read, Option.bind_some, skipSpace_visible visible]
  split
  · rfl
  · split
    · cases readFields fuel depth after <;> rfl
    · rfl

theorem readFields_write (reads : ∀ field ∈ (name, value) :: fields, Reads field.2)
    (rest : List Char)
    (enough : (writeString name ++ ':' :: write value ++ writeFields fields).length ≤ fuel)
    (deep : (writeString name ++ ':' :: write value ++ writeFields fields).length ≤ depth) :
    readFields fuel depth (writeString name ++ ':' :: write value ++ writeFields fields ++ rest) =
      some ((name, value) :: fields, rest) := by
  have first : Reads value := reads (name, value) (List.mem_cons_self ..)
  induction fields generalizing name value fuel with
  | nil =>
    cases fuel with
    | zero => simp [writeFields] at enough
    | succ fuel =>
      simp only [writeFields, List.length_append, List.length_cons, List.length_nil] at enough deep
      have ends : Ends (closeBrace :: rest) := ends_cons (by decide) (by decide)
      rw [List.append_assoc, writeFields, List.singleton_append,
        readFields_field first (by omega) (by omega) ends
        (by decide)]
      exact if_pos rfl
  | cons next fields ih =>
    obtain ⟨name', value'⟩ := next
    cases fuel with
    | zero => simp [writeFields] at enough
    | succ fuel =>
      simp only [writeFields, List.length_append, List.length_cons] at enough deep
      have others : ∀ field ∈ (name', value') :: fields, Reads field.2 :=
        fun field member => reads field (List.mem_cons_of_mem _ member)
      have later : readFields fuel depth (writeString name' ++ ':' :: write value' ++ writeFields
          fields ++ rest) =
          some ((name', value') :: fields, rest) :=
        ih others (by simp only [List.length_append, List.length_cons]; omega)
          (by simp only [List.length_append, List.length_cons]; omega)
            (others _ (List.mem_cons_self ..))
      have comma : ',' ≠ closeBrace := by decide
      have tail : writeFields ((name', value') :: fields) ++ rest =
          ',' :: (writeString name' ++ ':' :: write value' ++ writeFields fields ++ rest) := by
        simp [writeFields]
      have ends := ends_writeFields ((name', value') :: fields) rest
      rw [tail] at ends
      rw [List.append_assoc, tail, readFields_field first (by omega) (by omega) ends (by decide),
        if_neg comma,
        if_pos rfl, later]
      rfl

theorem reads_object (reads : ∀ field ∈ fields, Reads field.2) : Reads (object fields) := by
  intro fuel depth rest enough deep _
  cases fuel with
  | zero => rcases fields with _ | ⟨field, fields⟩ <;> simp [write] at enough
  | succ fuel =>
    cases depth with
    | zero => rcases fields with _ | ⟨field, fields⟩ <;> simp [write] at deep
    | succ depth =>
      cases fields with
      | nil =>
        rw [write, List.cons_append, readValue, skipSpace_visible (by decide)]
        simp only [if_true, Nat.add_one_ne_zero, if_false]
        rw [List.cons_append, skipSpace_visible (by decide)]
        rfl
      | cons field fields =>
        obtain ⟨name, value⟩ := field
        rw [write] at enough deep ⊢
        simp only [List.cons_append, List.length_cons, Nat.add_le_add_iff_right] at enough deep
        have read := readFields_write reads rest enough deep
        have close : quote ≠ closeBrace := by decide
        have shape : writeString name ++ ':' :: write value ++ writeFields fields ++ rest =
            quote :: (name.toList.flatMap escape ++
              quote :: ':' :: (write value ++ writeFields fields ++ rest)) := by
          simp [writeString]
        rw [List.cons_append, List.cons_append, List.cons_append, readValue,
          skipSpace_visible (by decide)]
        simp only [if_true, Nat.add_one_ne_zero, if_false, Nat.add_one_sub_one]
        rw [shape] at read ⊢
        rw [skipSpace_visible (by decide)]
        simp only [if_neg close, read]
        rfl

mutual

theorem reads : ∀ value : Json, Reads value
  | null => by
    intro fuel depth rest enough _ _
    cases fuel with
    | zero => simp [write] at enough
    | succ fuel => rfl
  | bool true => by
    intro fuel depth rest enough _ _
    cases fuel with
    | zero => simp [write] at enough
    | succ fuel => rfl
  | bool false => by
    intro fuel depth rest enough _ _
    cases fuel with
    | zero => simp [write] at enough
    | succ fuel => rfl
  | number mantissa exponent => reads_number mantissa exponent
  | string text => reads_string text
  | array items => reads_array (reads_items items)
  | object fields => reads_object (reads_fields fields)

theorem reads_items : ∀ items : List Json, ∀ item ∈ items, Reads item
  | [] => List.forall_mem_nil _
  | item :: items => List.forall_mem_cons.mpr ⟨reads item, reads_items items⟩

theorem reads_fields : ∀ fields : List (String × Json), ∀ field ∈ fields, Reads field.2
  | [] => List.forall_mem_nil _
  | (_, value) :: fields => List.forall_mem_cons.mpr ⟨reads value, reads_fields fields⟩

end

/-- The reader gets back what was written, and what may follow it is white space. -/
theorem read_write (value : Json) (space : List Char) (blank : ∀ c ∈ space, isSpace c = true)
    (depth : Nat)
    (deep : (write value).length ≤ depth) : read depth (write value ++ space) = some value := by
  have ends : Ends space := by
    intro c head
    have codes : ∀ d : Char, isSpace d = false → c ≠ d := by
      intro d visible same
      rw [← same, blank c (List.mem_of_mem_head? head)] at visible
      cases visible
    refine ⟨?_, codes '.' (by decide), codes 'e' (by decide), codes 'E' (by decide)⟩
    rw [Bool.eq_false_iff]
    intro digit
    have visible := visible_of_number (.inr digit)
    rw [blank c (List.mem_of_mem_head? head)] at visible
    cases visible
  have nothing : skipSpace space = [] := List.dropWhile_eq_nil_iff.mpr blank
  have enough : (write value).length ≤ (write value ++ space).length + 1 := by
    rw [List.length_append]
    omega
  have found := reads value _ depth space enough deep ends
  unfold read
  rw [found]
  simp [nothing]

end Values

end OpenScale.Library.Json
