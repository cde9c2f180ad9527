import Mathlib.Algebra.Order.Ring.Nat
import OpenScale.Library.SqlLexer

/-! Names in an SQL text: what a quoted or plain identifier stands for, and which relations a
statement refers to. -/

namespace OpenScale.Library.Sql

/-- Inside quotes a quote is written twice. -/
def double (quote : Char) (value : List Char) : List Char :=
  value.flatMap fun c => if c = quote then [c, c] else [c]

/-- Two quotes stand for one. -/
def halve (quote : Char) : List Char → List Char
  | [] => []
  | [c] => [c]
  | c :: d :: rest => if c = quote ∧ d = quote then c :: halve quote rest
    else c :: halve quote (d :: rest)

/-- The bytes of a text in UTF-8. -/
def byteLength (text : List Char) : Nat := (text.map Char.utf8Size).sum

/-- `NAMEDATALEN - 1`. -/
def maxNameBytes : Nat := 63

/-- Longer names are cut, between two characters. -/
def clip : Nat → List Char → List Char
  | _, [] => []
  | room, c :: rest => if c.utf8Size ≤ room then c :: clip (room - c.utf8Size) rest else []

/-- The identifier that a token is. Without quotes, capitals count as small letters. -/
def nameOf (token : Token) : Option (List Char) :=
  match token.kind with
  | .quoted =>
    if token.text.head? = some doubleQuote then
      let name := clip maxNameBytes (halve doubleQuote token.text.tail.dropLast)
      if name = [] then none else some name
    else none
  | .word => some (clip maxNameBytes (token.text.map Char.toLower))
  | _ => none

def dot : Token := ⟨.symbol, ['.']⟩

/-- The names, with dots between them, that the tokens start with. -/
def dotted : List Token → List (List Char)
  | token :: separator :: more =>
    match nameOf token with
    | some name => if separator = dot then name :: dotted more else [name]
    | none => []
  | [token] => (nameOf token).toList
  | [] => []

def relationWords : List (List Char) := [['f', 'r', 'o', 'm'], ['j', 'o', 'i', 'n']]

/-- A relation comes next, or in a list of columns something that is counted as one. -/
def introduces (token : Token) : Bool :=
  (token.kind == .word && relationWords.contains (token.text.map Char.toLower)) || token ==
    ⟨.symbol, [',']⟩

def references : List Token → List (List (List Char))
  | [] => []
  | token :: rest => if introduces token then dotted rest :: references rest else references rest

/-- The relations that the tokens of a statement refer to. -/
def relations (tokens : List Token) : List (List (List Char)) :=
  references (tokens.filter fun token => !token.isNoise)

/-- The token that quotes a name. -/
def quoted (name : List Char) : Token :=
  ⟨.quoted, doubleQuote :: double doubleQuote name ++ [doubleQuote]⟩

theorem lex_word {c : Char} {word rest : List Char} (starts : isWordStart c = true)
    (unmarked : c ≠ 'e' ∧ c ≠ 'E')
    (parts : ∀ d ∈ word, isWordPart d = true) (ends : ∀ d, rest.head? = some d →
      isWordPart d = false) :
    lex (c :: word ++ rest) = (lex rest).map (⟨.word, c :: word⟩ :: ·) := by
  have stops : rest.takeWhile isWordPart = [] ∧ rest.dropWhile isWordPart = rest := by
    cases rest with
    | nil => exact ⟨rfl, rfl⟩
    | cons d rest => simp [ends d rfl]
  rw [List.cons_append, lex_cons, next_word starts unmarked, run,
    List.takeWhile_append_of_pos parts,
    List.dropWhile_append_of_pos parts, stops.1, stops.2, List.append_nil]
  rfl

section Quotes

variable {quote c : Char} {value text rest taken : List Char} {tokens : List Token}

@[simp] theorem double_nil : double quote [] = [] := rfl

theorem double_cons_same :
    double quote (quote :: value) = quote :: quote :: double quote value := by
  simp [double]

theorem double_cons_other (other : c ≠ quote) :
    double quote (c :: value) = c :: double quote value := by
  simp [double, other]

theorem double_plain (plain : quote ∉ value) : double quote value = value := by
  induction value with
  | nil => rfl
  | cons c value ih =>
    rw [double_cons_other (List.ne_of_not_mem_cons plain).symm,
      ih (List.not_mem_of_not_mem_cons plain)]

theorem double_length (quote : Char) (value : List Char) :
    (double quote value).length = value.length + value.count quote := by
  induction value with
  | nil => rfl
  | cons c value ih =>
    by_cases same : c = quote
    · subst same
      rw [double_cons_same, List.length_cons, List.length_cons, ih, List.count_cons_self,
        List.length_cons]
      omega
    · rw [double_cons_other same, List.length_cons, ih, List.count_cons_of_ne same,
        List.length_cons]
      omega

theorem sublist_double (quote : Char) (value : List Char) : value.Sublist (double quote value) := by
  induction value with
  | nil => exact .refl _
  | cons c value ih =>
    by_cases same : c = quote
    · subst same
      rw [double_cons_same]
      exact (ih.cons c).cons_cons c
    · rw [double_cons_other same]
      exact ih.cons_cons c

@[simp] theorem halve_double (quote : Char) (value : List Char) :
    halve quote (double quote value) = value := by
  induction value with
  | nil => rfl
  | cons c value ih =>
    by_cases same : c = quote
    · subst same
      rw [double_cons_same, halve, if_pos ⟨rfl, rfl⟩, ih]
    · rw [double_cons_other same]
      cases shape : double quote value with
      | nil =>
        rw [shape] at ih
        rw [← ih]
        rfl
      | cons d more => rw [halve, if_neg fun both => same both.1, ← shape, ih]

theorem scanQuoted_double (ends : rest.head? ≠ some quote) (value : List Char) :
    scanQuoted false quote (double quote value ++ quote :: rest) = some
      (double quote value ++ [quote], rest) := by
  induction value with
  | nil =>
    cases rest with
    | nil => simp [scanQuoted]
    | cons d rest =>
      have other : d ≠ quote := fun same => ends (congrArg some same)
      simp [scanQuoted, other]
  | cons c value ih =>
    by_cases same : c = quote
    · subst same
      rw [double_cons_same, List.cons_append, List.cons_append, scanQuoted,
        if_neg (by simp), if_pos rfl, if_pos rfl, ih]
      rfl
    · rw [double_cons_other same, List.cons_append]
      obtain ⟨d, more, shape⟩ : ∃ d more, double quote value ++ quote :: rest = d :: more :=
        List.exists_cons_of_ne_nil (by simp)
      rw [shape, scanQuoted, if_neg (by simp), if_neg same, ← shape, ih]
      rfl

theorem exists_double (found : scanQuoted false quote text = some (taken, rest)) :
    ∃ value, taken = double quote value ++ [quote] := by
  induction text using scanQuoted.induct false quote generalizing taken rest with
  | case1 => cases found
  | case2 =>
    rw [scanQuoted, if_pos rfl] at found
    cases found
    exact ⟨[], rfl⟩
  | case3 c differs =>
    rw [scanQuoted, if_neg differs] at found
    cases found
  | case4 c d more escaped => simp at escaped
  | case5 more plain ih =>
    rw [scanQuoted, if_neg plain, if_pos rfl, if_pos rfl] at found
    obtain ⟨⟨inner, left⟩, scanned, same⟩ := Option.map_eq_some_iff.mp found
    cases same
    obtain ⟨value, rfl⟩ := ih scanned
    exact ⟨quote :: value, by rw [double_cons_same]; rfl⟩
  | case6 d more plain differs =>
    rw [scanQuoted, if_neg plain, if_pos rfl, if_neg differs] at found
    cases found
    exact ⟨[], rfl⟩
  | case7 c d more plain differs ih =>
    rw [scanQuoted, if_neg plain, if_neg differs] at found
    obtain ⟨⟨inner, left⟩, scanned, same⟩ := Option.map_eq_some_iff.mp found
    cases same
    obtain ⟨value, rfl⟩ := ih scanned
    exact ⟨c :: value, by rw [double_cons_other differs]; rfl⟩

theorem next_doubleQuote (rest : List Char) :
    next doubleQuote rest = scanned .quoted
      (prepend [doubleQuote] (scanQuoted false doubleQuote rest)) := by
  unfold next
  rw [if_neg (by decide), if_neg (by decide), if_neg fun line => absurd line.1 (by decide),
    if_neg fun block => absurd block.1 (by decide), if_pos (.inr rfl)]

theorem lex_quoted (ends : rest.head? ≠ some doubleQuote) (name : List Char) :
    lex ((quoted name).text ++ rest) = (lex rest).map (quoted name :: ·) := by
  have made := next_doubleQuote (double doubleQuote name ++ doubleQuote :: rest)
  rw [scanQuoted_double ends] at made
  rw [quoted, List.cons_append, List.cons_append, List.append_assoc, lex_cons,
    List.singleton_append, made]
  rfl

theorem lex_doubleQuote (lexed : lex (doubleQuote :: text) = some tokens) :
    ∃ name rest more, text = double doubleQuote name ++ doubleQuote :: rest ∧
      tokens = quoted name :: more ∧ lex rest = some more := by
  rw [lex_cons, next_doubleQuote] at lexed
  obtain ⟨⟨token, after⟩, found, more⟩ := Option.bind_eq_some_iff.mp lexed
  obtain ⟨others, behind, rfl⟩ := Option.map_eq_some_iff.mp more
  obtain ⟨⟨taken, left⟩, prepended, made⟩ := Option.map_eq_some_iff.mp found
  obtain ⟨⟨inner, left'⟩, scanned, whole⟩ := Option.map_eq_some_iff.mp prepended
  cases made
  cases whole
  obtain ⟨name, rfl⟩ := exists_double scanned
  refine ⟨name, after, others, ?_, rfl, behind⟩
  rw [← scanQuoted_covers false doubleQuote text _ _ scanned, List.append_assoc,
    List.singleton_append]

end Quotes

section Names

variable {room : Nat} {name text : List Char}

theorem byteLength_cons (c : Char) (text : List Char) :
    byteLength (c :: text) = c.utf8Size + byteLength text := by
  simp [byteLength]

theorem byteLength_append (first second : List Char) :
    byteLength (first ++ second) = byteLength first + byteLength second := by
  simp [byteLength]

theorem byteLength_sublist (sublist : name.Sublist text) : byteLength name ≤ byteLength text := by
  induction sublist with
  | slnil => exact le_rfl
  | cons c _ ih => exact ih.trans (byteLength_cons c _ ▸ Nat.le_add_left ..)
  | cons_cons c _ ih =>
    rw [byteLength_cons, byteLength_cons]
    exact Nat.add_le_add_left ih _

theorem clip_of_fits (fits : byteLength text ≤ room) : clip room text = text := by
  induction text generalizing room with
  | nil => rfl
  | cons c text ih =>
    rw [byteLength_cons] at fits
    rw [clip, if_pos (by omega), ih (by omega)]

theorem nameOf_quoted (name : List Char) : nameOf (quoted name) =
    if clip maxNameBytes name = [] then none else some (clip maxNameBytes name) := by
  simp [nameOf, quoted]

end Names

end OpenScale.Library.Sql
