import Mathlib.Data.List.Chain
import OpenScale.Library.Segments

/-! The tokens of an SQL text as the lexer of Postgres delimits them, and its statements.
Where a token ends is all that matters here: what is inside a number or a quoted name is
not checked. -/

namespace OpenScale.Library.Sql

inductive Kind where
  | space
  | comment
  | quoted
  | semicolon
  | word
  | number
  | symbol
  deriving DecidableEq, Repr

structure Token where
  kind : Kind
  text : List Char
  deriving DecidableEq, Repr

def apostrophe : Char := Char.ofNat 39
def doubleQuote : Char := Char.ofNat 34
def backslash : Char := Char.ofNat 92

def isSpace (c : Char) : Bool := c.toNat == 32 || (9 ≤ c.toNat && c.toNat ≤ 13)

def isNewline (c : Char) : Bool := c.toNat == 10 || c.toNat == 13

/-- Letters, the underscore, and everything beyond ASCII. -/
def isWordStart (c : Char) : Bool := c.isAlpha || c == '_' || 128 ≤ c.toNat

def isTagPart (c : Char) : Bool := isWordStart c || c.isDigit

def isWordPart (c : Char) : Bool := isTagPart c || c == '$'

/-- What a scanner took from the front of a text, and what it left. -/
abbrev Scan := Option (List Char × List Char)

def prepend (front : List Char) (scan : Scan) : Scan :=
  scan.map fun (taken, rest) => (front ++ taken, rest)

/-- The rest of a block comment that has `depth` comments open inside it. -/
def scanBlock : Nat → List Char → Scan
  | _, [] => none
  | 0, '*' :: '/' :: rest => some (['*', '/'], rest)
  | depth + 1, '*' :: '/' :: rest => prepend ['*', '/'] (scanBlock depth rest)
  | depth, '/' :: '*' :: rest => prepend ['/', '*'] (scanBlock (depth + 1) rest)
  | depth, c :: rest => prepend [c] (scanBlock depth rest)

/-- The rest of a quoted token. A doubled quote stands for itself, and so does what
follows a backslash, where those escape. -/
def scanQuoted (escapes : Bool) (quote : Char) : List Char → Scan
  | [] => none
  | [c] => if c = quote then some ([c], []) else none
  | c :: d :: rest =>
    if escapes && c == backslash then prepend [c, d] (scanQuoted escapes quote rest)
    else if c = quote then
      if d = quote then prepend [c, d] (scanQuoted escapes quote rest) else some ([c], d :: rest)
    else prepend [c] (scanQuoted escapes quote (d :: rest))

/-- Up to the delimiter that opened a dollar-quoted token. -/
def scanDollar (delimiter : List Char) : List Char → Scan
  | [] => none
  | c :: rest =>
    if delimiter.isPrefixOf (c :: rest) then some (delimiter, (c :: rest).drop delimiter.length)
    else prepend [c] (scanDollar delimiter rest)

/-- The delimiter that a dollar begins, by what follows it. -/
def dollarDelimiter (rest : List Char) : Option (List Char) :=
  let tag := rest.takeWhile isTagPart
  if tag.head?.all isWordStart && (rest.dropWhile isTagPart).head? == some '$' then
    some ('$' :: tag ++ ['$'])
  else none

def scanned (kind : Kind) (scan : Scan) : Option (Token × List Char) :=
  scan.map fun (taken, rest) => (⟨kind, taken⟩, rest)

/-- The first character, and those after it that belong to the same token. -/
def run (kind : Kind) (c : Char) (part : Char → Bool) (rest : List Char) :
    Option (Token × List Char) :=
  some (⟨kind, c :: rest.takeWhile part⟩, rest.dropWhile part)

def next (c : Char) (rest : List Char) : Option (Token × List Char) :=
  if isSpace c then some (⟨.space, [c]⟩, rest)
  else if c = ';' then some (⟨.semicolon, [c]⟩, rest)
  else if c = '-' ∧ rest.head? = some '-' then run .comment c (fun d => !isNewline d) rest
  else if c = '/' ∧
  rest.head? = some '*' then scanned .comment (prepend ['/', '*'] (scanBlock 0 rest.tail))
  else if c = apostrophe ∨
  c = doubleQuote then scanned .quoted (prepend [c] (scanQuoted false c rest))
  else if (c = 'e' ∨ c = 'E') ∧ rest.head? = some apostrophe then
    scanned .quoted (prepend [c, apostrophe] (scanQuoted true apostrophe rest.tail))
  else if c = '$' then
    match dollarDelimiter rest with
    | some delimiter =>
      scanned .quoted (prepend delimiter (scanDollar delimiter (rest.drop (delimiter.length - 1))))
    | none => some (⟨.symbol, [c]⟩, rest)
  else if isWordStart c then run .word c isWordPart rest
  else if c.isDigit then run .number c isTagPart rest
  else some (⟨.symbol, [c]⟩, rest)

def lexWithin : Nat → List Char → Option (List Token)
  | _, [] => some []
  | 0, _ :: _ => none
  | fuel + 1, c :: rest => (next c rest).bind fun (token, after) =>
    (lexWithin fuel after).map (token :: ·)

/-- The tokens of a text. One unit of fuel is spent for each token, so its length is enough. -/
def lex (text : List Char) : Option (List Token) := lexWithin text.length text

def Token.isSemicolon (token : Token) : Bool := token.kind == .semicolon

def Token.isNoise (token : Token) : Bool := token.kind == .space || token.kind == .comment

def Token.isSignificant (token : Token) : Bool := !token.isSemicolon && !token.isNoise

def statements (tokens : List Token) : List (List Token) :=
    filled Token.isSemicolon Token.isSignificant tokens

def firstWord (statement : List Token) : Option String :=
  (statement.find? fun token => token.kind == .word).map fun token =>
    String.ofList (token.text.map Char.toLower)

section Text

variable {c : Char} {rest after taken text : List Char} {token : Token} {tokens : List Token}

def Covers (scan : Scan) (text : List Char) : Prop := ∀ taken rest, scan = some (taken, rest) →
    taken ++ rest = text

theorem Covers.prepend {scan : Scan} (covers : Covers scan text) (front : List Char) :
    Covers (Sql.prepend front scan) (front ++ text) := by
  intro taken rest found
  obtain ⟨⟨inner, left⟩, scanned, same⟩ := Option.map_eq_some_iff.mp found
  cases same
  rw [List.append_assoc, covers inner rest scanned]

theorem covers_some (taken rest : List Char) : Covers (some (taken, rest)) (taken ++ rest) := by
  intro taken' rest' same
  cases same
  rfl

theorem scanBlock_covers (depth : Nat) (text : List Char) : Covers (scanBlock depth text) text := by
  induction depth, text using scanBlock.induct with
  | case1 depth =>
    intro taken rest found
    cases found
  | case2 rest => exact covers_some ['*', '/'] rest
  | case3 depth rest ih => exact ih.prepend _
  | case4 depth rest ih => exact ih.prepend _
  | case5 depth c rest _ _ _ ih =>
    rw [scanBlock]
    · exact ih.prepend [c]
    all_goals assumption

theorem scanQuoted_covers (escapes : Bool) (quote : Char) (text : List Char) :
    Covers (scanQuoted escapes quote text) text := by
  induction text using scanQuoted.induct escapes quote with
  | case1 =>
    intro taken rest found
    cases found
  | case2 =>
    rw [scanQuoted, if_pos rfl]
    exact covers_some [quote] []
  | case3 c differs =>
    rw [scanQuoted, if_neg differs]
    intro taken rest found
    cases found
  | case4 c d rest escaped ih =>
    rw [scanQuoted, if_pos escaped]
    exact ih.prepend _
  | case5 rest plain ih =>
    rw [scanQuoted, if_neg plain, if_pos rfl, if_pos rfl]
    exact ih.prepend _
  | case6 d rest plain differs =>
    rw [scanQuoted, if_neg plain, if_pos rfl, if_neg differs]
    exact covers_some [quote] (d :: rest)
  | case7 c d rest plain differs ih =>
    rw [scanQuoted, if_neg plain, if_neg differs]
    exact ih.prepend _

theorem scanDollar_covers (delimiter text : List Char) :
    Covers (scanDollar delimiter text) text := by
  induction text with
  | nil =>
    intro taken rest found
    cases found
  | cons c rest ih =>
    rw [scanDollar]
    split
    · rename_i opens
      have front := List.prefix_iff_eq_append.mp (List.isPrefixOf_iff_prefix.mp opens)
      intro taken rest found
      cases found
      exact front
    · exact ih.prepend [c]

theorem dollarDelimiter_covers {delimiter : List Char}
    (opens : dollarDelimiter rest = some delimiter) :
    delimiter.head? = some '$' ∧ delimiter ++ rest.drop (delimiter.length - 1) = '$' :: rest := by
  unfold dollarDelimiter at opens
  simp only [Option.ite_none_right_eq_some, Option.some.injEq, Bool.and_eq_true,
    beq_iff_eq] at opens
  obtain ⟨⟨_, closes⟩, rfl⟩ := opens
  refine ⟨rfl, ?_⟩
  cases after : rest.dropWhile isTagPart with
  | nil =>
    rw [after] at closes
    cases closes
  | cons d more =>
    rw [after] at closes
    cases closes
    have whole := List.takeWhile_append_dropWhile (p := isTagPart) (l := rest)
    rw [after] at whole
    generalize rest.takeWhile isTagPart = tag at whole
    subst whole
    simp

/-- A token is a semicolon, or a first character with what belongs to it, or the front of a scan. -/
theorem next_cases (found : next c rest = some (token, after)) :
    (c = ';' ∧ token = ⟨.semicolon, [c]⟩ ∧ after = rest) ∨
    (∃ kind part, kind ≠ .semicolon ∧ run kind c part rest = some (token, after)) ∨
    ∃ kind scan front back, kind ≠ .semicolon ∧ front.head? = some c ∧ front ++ back = c :: rest ∧
      Covers scan back ∧
      scanned kind (prepend front scan) = some (token, after) := by
  have single : ∀ kind, run kind c (fun _ => false) rest = some (⟨kind, [c]⟩, rest) := by
    intro kind
    cases rest <;> rfl
  have opened : ∀ d, rest.head? = some d → rest = d :: rest.tail := by
    intro d head
    cases rest with
    | nil => cases head
    | cons e rest =>
      cases head
      rfl
  unfold next at found
  by_cases space : isSpace c = true
  · rw [if_pos space] at found
    exact .inr (.inl ⟨.space, _, by decide, (single _).trans found⟩)
  rw [if_neg space] at found
  by_cases semicolon : c = ';'
  · rw [if_pos semicolon] at found
    cases found
    exact .inl ⟨semicolon, rfl, rfl⟩
  rw [if_neg semicolon] at found
  by_cases line : c = '-' ∧ rest.head? = some '-'
  · rw [if_pos line] at found
    exact .inr (.inl ⟨.comment, _, by decide, found⟩)
  rw [if_neg line] at found
  by_cases block : c = '/' ∧ rest.head? = some '*'
  · rw [if_pos block] at found
    obtain ⟨rfl, star⟩ := block
    refine .inr (.inr ⟨.comment, _, ['/', '*'], _, by decide, rfl, ?_, scanBlock_covers 0 _, found⟩)
    rw [opened _ star]
    rfl
  rw [if_neg block] at found
  by_cases quote : c = apostrophe ∨ c = doubleQuote
  · rw [if_pos quote] at found
    exact .inr (.inr ⟨.quoted, _, [c], _, by decide, rfl, rfl,
      scanQuoted_covers false c rest, found⟩)
  rw [if_neg quote] at found
  by_cases letter : (c = 'e' ∨ c = 'E') ∧ rest.head? = some apostrophe
  · rw [if_pos letter] at found
    refine .inr (.inr ⟨.quoted, _, [c, apostrophe], _,
      by decide, rfl, ?_, scanQuoted_covers true apostrophe _, found⟩)
    rw [opened _ letter.2]
    rfl
  rw [if_neg letter] at found
  by_cases dollar : c = '$'
  · rw [if_pos dollar] at found
    subst dollar
    cases opens : dollarDelimiter rest with
    | some delimiter =>
      rw [opens] at found
      obtain ⟨head, whole⟩ := dollarDelimiter_covers opens
      exact .inr (.inr ⟨.quoted, _, delimiter, _, by decide, head, whole,
        scanDollar_covers _ _, found⟩)
    | none =>
      rw [opens] at found
      exact .inr (.inl ⟨.symbol, _, by decide, (single _).trans found⟩)
  rw [if_neg dollar] at found
  by_cases word : isWordStart c = true
  · rw [if_pos word] at found
    exact .inr (.inl ⟨.word, _, by decide, found⟩)
  rw [if_neg word] at found
  by_cases digit : c.isDigit = true
  · rw [if_pos digit] at found
    exact .inr (.inl ⟨.number, _, by decide, found⟩)
  · rw [if_neg digit] at found
    exact .inr (.inl ⟨.symbol, _, by decide, (single _).trans found⟩)

theorem next_text (found : next c rest = some (token, after)) :
    token.text ++ after = c :: rest ∧ token.text.head? = some c := by
  obtain ⟨_, rfl, rfl⟩ | ⟨kind, part, _, same⟩ | ⟨kind, scan, front, back, _, head, whole, covers,
    found⟩ := next_cases found
  · exact ⟨rfl, rfl⟩
  · cases same
    exact ⟨by simp [List.takeWhile_append_dropWhile], rfl⟩
  · obtain ⟨⟨taken, left⟩, same, made⟩ := Option.map_eq_some_iff.mp found
    obtain ⟨⟨inner, left'⟩, some_, whole'⟩ := Option.map_eq_some_iff.mp same
    cases made
    cases whole'
    refine ⟨?_, by simp [List.head?_append, head]⟩
    rw [List.append_assoc, covers inner after some_, whole]

theorem next_length (found : next c rest = some (token, after)) : after.length ≤ rest.length := by
  obtain ⟨whole, head⟩ := next_text found
  cases shape : token.text with
  | nil => simp [shape] at head
  | cons d more =>
    have lengths := congrArg List.length whole
    simp only [shape, List.length_append, List.length_cons] at lengths
    omega

theorem lexWithin_eq (fuel fuel' : Nat) (text : List Char) (enough : text.length ≤ fuel)
    (enough' : text.length ≤ fuel') : lexWithin fuel text = lexWithin fuel' text := by
  induction fuel generalizing fuel' text with
  | zero =>
    have empty : text = [] := List.eq_nil_of_length_eq_zero (Nat.le_zero.mp enough)
    subst empty
    simp only [lexWithin]
  | succ fuel ih =>
    cases text with
    | nil => simp only [lexWithin]
    | cons c rest =>
      cases fuel' with
      | zero => simp at enough'
      | succ fuel' =>
        simp only [List.length_cons, Nat.add_le_add_iff_right] at enough enough'
        cases found : next c rest with
        | none => simp [lexWithin, found]
        | some step =>
          obtain ⟨token, after⟩ := step
          have shorter := next_length found
          simp [lexWithin, found, ih fuel' after (shorter.trans enough) (shorter.trans enough')]

@[simp] theorem lex_nil : lex [] = some [] := rfl

theorem lex_cons (c : Char) (rest : List Char) : lex (c :: rest) =
    (next c rest).bind fun (token, after) => (lex after).map (token :: ·) := by
  cases found : next c rest with
  | none => simp [lex, lexWithin, found]
  | some step =>
    obtain ⟨token, after⟩ := step
    simp [lex, lexWithin, found,
      lexWithin_eq rest.length after.length after (next_length found) le_rfl]

/-- The tokens of a text, one after the other. -/
inductive Lexes : List Char → List Token → Prop where
  | nil : Lexes [] []
  | cons {c : Char} {rest after : List Char} {token : Token} {tokens : List Token}
      (found : next c rest = some (token, after)) (more : Lexes after tokens) :
        Lexes (c :: rest) (token :: tokens)

theorem lexes_of_lex (lexed : lex text = some tokens) : Lexes text tokens := by
  induction length : text.length using Nat.strongRecOn generalizing text tokens with
  | _ size ih =>
    subst length
    cases text with
    | nil =>
      cases lexed
      exact .nil
    | cons c rest =>
      rw [lex_cons] at lexed
      obtain ⟨⟨token, after⟩, found, more⟩ := Option.bind_eq_some_iff.mp lexed
      obtain ⟨others, behind, rfl⟩ := Option.map_eq_some_iff.mp more
      exact .cons found (ih after.length (Nat.lt_succ_of_le (next_length found)) behind rfl)

theorem lex_of_lexes (lexes : Lexes text tokens) : lex text = some tokens := by
  induction lexes with
  | nil => rfl
  | cons found more ih => simp [lex_cons, found, ih]

theorem Lexes.unique {others : List Token} (lexes : Lexes text tokens) (again : Lexes text others) :
    tokens = others :=
  Option.some.inj ((lex_of_lexes lexes).symm.trans (lex_of_lexes again))

theorem Lexes.flatten (lexes : Lexes text tokens) : (tokens.map Token.text).flatten = text := by
  induction lexes with
  | nil => rfl
  | cons found more ih => simpa [ih] using (next_text found).1

theorem Lexes.split {first second : List Token} (lexes : Lexes text (first ++ second)) :
    ∃ rest, Lexes rest second ∧ text = (first.map Token.text).flatten ++ rest := by
  induction first generalizing text with
  | nil => exact ⟨text, lexes, rfl⟩
  | cons token first ih =>
    cases lexes with
    | cons found more =>
      obtain ⟨rest, lexed, same⟩ := ih more
      exact ⟨rest, lexed, by rw [← (next_text found).1, same]; simp⟩

theorem isSpace_of_isWordStart (starts : isWordStart c = true) : isSpace c = false := by
  rw [Bool.eq_false_iff]
  intro space
  have codes : c.toNat ∈ [9, 10, 11, 12, 13, 32] := by
    simp only [isSpace, Bool.or_eq_true, Bool.and_eq_true, beq_iff_eq, decide_eq_true_eq] at space
    simp only [List.mem_cons, List.not_mem_nil, or_false]
    omega
  have spaces : ∀ code ∈ [9, 10, 11, 12, 13, 32], isWordStart (Char.ofNat code) = false := by decide
  rw [← Char.ofNat_toNat c, spaces _ codes] at starts
  cases starts

/-- A letter begins a word, unless it is the mark of a string with escapes. -/
theorem next_word (starts : isWordStart c = true) (unmarked : c ≠ 'e' ∧ c ≠ 'E') :
    next c rest = run .word c isWordPart rest := by
  have other : ∀ d, isWordStart d = false → c ≠ d := by
    intro d stops same
    rw [same, stops] at starts
    cases starts
  have space : ¬ isSpace c = true := Bool.eq_false_iff.mp (isSpace_of_isWordStart starts)
  unfold next
  rw [if_neg space, if_neg (other ';' (by decide)), if_neg fun line => other '-' (by decide) line.1,
    if_neg fun block => other '/' (by decide) block.1,
    if_neg (not_or.mpr ⟨other apostrophe (by decide), other doubleQuote (by decide)⟩),
    if_neg fun marked => (not_or.mpr unmarked) marked.1, if_neg (other '$' (by decide)),
    if_pos starts]

/-- The first character says whether a token is white space or a semicolon. -/
theorem next_space (space : isSpace c = true) : next c rest = some (⟨.space, [c]⟩, rest) := by
  unfold next
  rw [if_pos space]

theorem next_semicolon : next ';' rest = some (⟨.semicolon, [';']⟩, rest) := by
  unfold next
  rw [if_neg (by decide), if_pos rfl]

theorem next_isSemicolon (found : next c rest = some (token, after))
    (semicolon : token.isSemicolon = true) : token = ⟨.semicolon, [';']⟩ ∧ c = ';' := by
  obtain ⟨rfl, rfl, rfl⟩ | ⟨kind, part, other, same⟩ | ⟨kind, scan, front, back, other, _, _, _,
    found⟩ := next_cases found
  · exact ⟨rfl, rfl⟩
  · cases same
    exact absurd (eq_of_beq semicolon) other
  · obtain ⟨_, _, made⟩ := Option.map_eq_some_iff.mp found
    cases made
    exact absurd (eq_of_beq semicolon) other

theorem next_line (line : rest.head? = some '-') :
    next '-' rest = run .comment '-' (fun d => !isNewline d) rest := by
  unfold next
  rw [if_neg (by decide), if_neg (by decide), if_pos ⟨rfl, line⟩]

theorem next_block (block : rest.head? = some '*') :
    next '/' rest = scanned .comment (prepend ['/', '*'] (scanBlock 0 rest.tail)) := by
  unfold next
  rw [if_neg (by decide), if_neg (by decide), if_neg fun line => absurd line.1 (by decide),
    if_pos ⟨rfl, block⟩]

theorem next_comment (comment : c = '-' ∧ rest.head? = some '-' ∨ c = '/' ∧ rest.head? = some '*')
    (found : next c rest = some (token, after)) : token.kind = .comment := by
  rcases comment with ⟨rfl, line⟩ | ⟨rfl, block⟩
  · cases (next_line line).symm.trans found
    rfl
  · obtain ⟨_, _, same⟩ := Option.map_eq_some_iff.mp ((next_block block).symm.trans found)
    cases same
    rfl

end Text

section Noise

variable {body text : List Char} {c : Char} {token : Token} {tokens : List Token}

theorem lex_space (space : isSpace c = true) (text : List Char) :
    lex (c :: text) = (lex text).map (⟨.space, [c]⟩ :: ·) := by
  rw [lex_cons, next_space space]
  rfl

theorem lex_line (inside : ∀ c ∈ body, isNewline c = false) (newline : isNewline c = true)
    (text : List Char) :
    lex ('-' :: '-' :: body ++ c :: text) = (lex (c :: text)).map
      (⟨.comment, '-' :: '-' :: body⟩ :: ·) := by
  have clean : ∀ d ∈ '-' :: body, (!isNewline d) = true := by
    intro d member
    rcases List.mem_cons.mp member with rfl | member
    · rfl
    · simp [inside d member]
  have made : next '-' ('-' :: body ++ c :: text) = some (⟨.comment, '-' :: '-' :: body⟩,
      c :: text) := by
    have front : ('-' :: body ++ c :: text).takeWhile (fun d => !isNewline d) =
        '-' :: body ++ (c :: text).takeWhile fun d => !isNewline d :=
          List.takeWhile_append_of_pos clean
    have back : ('-' :: body ++ c :: text).dropWhile (fun d => !isNewline d) =
        (c :: text).dropWhile fun d => !isNewline d := List.dropWhile_append_of_pos clean
    simp only [List.cons_append] at front back
    rw [next_line rfl]
    simp [run, front, back, newline]
  rw [List.cons_append, List.cons_append, lex_cons, ← List.cons_append, made]
  rfl

/-- These two characters are not there one after the other. -/
def Apart (a b : Char) (c d : Char) : Prop := ¬ (c = a ∧ d = b)

/-- Inside a comment that neither ends earlier nor nests. -/
theorem scanBlock_append (ends : (body ++ ['*']).IsChain (Apart '*' '/'))
    (flat : (body ++ ['*']).IsChain (Apart '/' '*'))
    (text : List Char) :
    scanBlock 0 (body ++ '*' :: '/' :: text) = some (body ++ ['*', '/'], text) := by
  induction body with
  | nil => rfl
  | cons c body ih =>
    have second : ∃ d more, body ++ '*' :: '/' :: text = d :: more ∧ ¬ (c = '*' ∧ d = '/') ∧
        ¬ (c = '/' ∧ d = '*') := by
      cases body with
      | nil => exact ⟨_, _, rfl, fun same => by simp at same, (List.isChain_cons_cons.mp flat).1⟩
      | cons d body =>
        exact ⟨_, _, rfl, (List.isChain_cons_cons.mp ends).1, (List.isChain_cons_cons.mp flat).1⟩
    have later := ih ends.tail flat.tail
    obtain ⟨d, more, shape, open_, closed⟩ := second
    rw [shape] at later
    rw [List.cons_append, shape, scanBlock, later]
    · rfl
    · intro rest slash star
      cases star
      exact closed ⟨slash, rfl⟩
    · intro rest _ star slash
      cases slash
      exact open_ ⟨star, rfl⟩
    · nofun

theorem lex_block (ends : (body ++ ['*']).IsChain (Apart '*' '/'))
    (flat : (body ++ ['*']).IsChain (Apart '/' '*'))
    (text : List Char) : lex ('/' :: '*' :: body ++ '*' :: '/' :: text) =
      (lex text).map (⟨.comment, '/' :: '*' :: body ++ ['*', '/']⟩ :: ·) := by
  have made : next '/' ('*' :: body ++ '*' :: '/' :: text) =
      some (⟨.comment, '/' :: '*' :: body ++ ['*', '/']⟩, text) := by
    rw [next_block rfl]
    simp [scanBlock_append ends flat, scanned, prepend]
  rw [List.cons_append, List.cons_append, lex_cons, ← List.cons_append, made]
  rfl

theorem Lexes.insignificant (lexes : Lexes text tokens)
    (empty : ∀ c ∈ text, isSpace c = true ∨ c = ';') :
    ∀ token ∈ tokens, token.isSignificant = false := by
  induction lexes with
  | nil => nofun
  | @cons c rest after first tokens found more ih =>
    have step : first.isSignificant = false ∧ after = rest := by
      rcases empty c (List.mem_cons_self ..) with space | rfl
      · cases (next_space space).symm.trans found
        exact ⟨rfl, rfl⟩
      · cases next_semicolon.symm.trans found
        exact ⟨rfl, rfl⟩
    obtain ⟨nothing, rfl⟩ := step
    intro token member
    rcases List.mem_cons.mp member with rfl | later
    · exact nothing
    · exact ih (fun d inside => empty d (List.mem_cons_of_mem _ inside)) token later

end Noise

end OpenScale.Library.Sql
