import OpenScale.Library.SqlNames
import OpenScale.Query.Gate

/-! The SQL texts that the frontend builds from the name of a table: the count and the sample of the
table preview, and the text that the global search fills the editor with. -/

namespace OpenScale.Query

open OpenScale.Library OpenScale.Library.Sql

inductive Schema where
  | «public»
  | controlPlane

def Schema.text : Schema → List Char
  | «public» => "public".toList
  | controlPlane => "control_plane".toList

/-- A table's name: any text that is an identifier for Postgres. -/
structure TableName where
  text : List Char
  nonempty : text ≠ []
  fits : byteLength text ≤ maxNameBytes

/-- The schema and the table between quotes, as they are. -/
def quotedTableRef (schema table : List Char) : List Char :=
  doubleQuote :: schema ++ doubleQuote :: '.' :: doubleQuote :: table ++ [doubleQuote]

/-- The places that build a text around the reference. -/
inductive Use where
  | count
  | sample
  | prefill

def Use.lead : Use → List Char
  | count => "SELECT COUNT(*) FROM ".toList
  | sample => "SELECT * FROM ".toList
  | prefill => "select * from ".toList

def Use.trail : Use → List Char
  | count => []
  | sample => " LIMIT 20".toList
  | prefill => " limit 20;".toList

def Use.sql (use : Use) (schema table : List Char) : List Char :=
  use.lead ++ (quotedTableRef schema table ++ use.trail)

/-- The gate accepts the text, and for Postgres it is one statement that refers to this table and to
nothing else. -/
structure PointsAt (sql schema table : List Char) : Prop where
  accepted : Accepted sql
  refers : ∃ tokens statement, lex sql = some tokens ∧ statements tokens = [statement] ∧
    relations statement = [[schema, table]]

/-- The tokens of the text before the reference. -/
def Use.before : Use → List Token
  | count => [⟨.word, "SELECT".toList⟩, ⟨.space, [' ']⟩, ⟨.word, "COUNT".toList⟩, ⟨.symbol, ['(']⟩,
      ⟨.symbol, ['*']⟩, ⟨.symbol, [')']⟩, ⟨.space, [' ']⟩, ⟨.word, "FROM".toList⟩, ⟨.space, [' ']⟩]
  | sample => [⟨.word, "SELECT".toList⟩, ⟨.space, [' ']⟩, ⟨.symbol, ['*']⟩, ⟨.space, [' ']⟩,
      ⟨.word, "FROM".toList⟩, ⟨.space, [' ']⟩]
  | prefill => [⟨.word, "select".toList⟩, ⟨.space, [' ']⟩, ⟨.symbol, ['*']⟩, ⟨.space, [' ']⟩,
      ⟨.word, "from".toList⟩, ⟨.space, [' ']⟩]

variable {use : Use} {schema : Schema} {table : TableName} {rest : List Char}

theorem lex_symbol (c : Char) (symbol : c ∈ ['(', '*', ')', '.']) (rest : List Char) :
    lex (c :: rest) = (lex rest).map (⟨.symbol, [c]⟩ :: ·) := by
  have made : next c rest = some (⟨.symbol, [c]⟩, rest) := by
    simp only [List.mem_cons, List.not_mem_nil, or_false] at symbol
    rcases symbol with rfl | rfl | rfl | rfl
    all_goals rfl
  rw [lex_cons, made]
  rfl

/-- A word that nothing in front of it makes a string: not the `e` of `e'...'`. -/
def isKeyword : List Char → Bool
  | [] => false
  | c :: word => isWordStart c && c != 'e' && c != 'E' && word.all isWordPart

theorem lex_keyword {word : List Char} (keyword : isKeyword word = true) {d : Char}
    (ends : isWordPart d = false) (rest : List Char) :
    lex (word ++ d :: rest) = (lex (d :: rest)).map (⟨.word, word⟩ :: ·) := by
  cases word with
  | nil => cases keyword
  | cons c word =>
    simp only [isKeyword, Bool.and_eq_true, bne_iff_ne, List.all_eq_true] at keyword
    obtain ⟨⟨⟨start, lower⟩, upper⟩, parts⟩ := keyword
    exact lex_word start ⟨lower, upper⟩ parts fun e same => Option.some.inj same ▸ ends

theorem lex_keyword_space {word : List Char} (keyword : isKeyword word = true) (rest : List Char) :
    lex (word ++ ' ' :: rest) = (lex rest).map (⟨.word, word⟩ :: ⟨.space, [' ']⟩ :: ·) := by
  rw [lex_keyword keyword (by decide), lex_space (by decide), Option.map_map]
  rfl

/-- `SELECT * FROM`, in capitals or not. -/
theorem lex_star (first second : List Char) (select : isKeyword first = true)
    (from_ : isKeyword second = true) (rest : List Char) :
    lex (first ++ ' ' :: '*' :: ' ' :: (second ++ ' ' :: rest)) =
      (lex rest).map ([⟨.word, first⟩, ⟨.space, [' ']⟩, ⟨.symbol, ['*']⟩, ⟨.space, [' ']⟩,
        ⟨.word, second⟩, ⟨.space, [' ']⟩] ++ ·) := by
  rw [lex_keyword_space select, lex_symbol '*' (by decide), lex_space (by decide),
    lex_keyword_space from_]
  simp only [Option.map_map]
  rfl

theorem Use.lex_lead (use : Use) (rest : List Char) :
    lex (use.lead ++ rest) = (lex rest).map (use.before ++ ·) := by
  cases use with
  | count =>
    calc lex (Use.count.lead ++ rest)
        = lex ("SELECT".toList ++ ' ' :: ("COUNT".toList ++ '(' :: '*' :: ')' :: ' ' ::
            ("FROM".toList ++ ' ' :: rest))) := rfl
      _ = _ := by
        rw [lex_keyword_space (by decide), lex_keyword (by decide) (by decide),
          lex_symbol '(' (by decide),
          lex_symbol '*' (by decide), lex_symbol ')' (by decide), lex_space (by decide),
          lex_keyword_space (by decide)]
        simp only [Option.map_map]
        rfl
  | sample => exact lex_star "SELECT".toList "FROM".toList rfl rfl rest
  | prefill => exact lex_star "select".toList "from".toList rfl rfl rest

theorem Schema.plain (schema : Schema) : doubleQuote ∉ schema.text ∧ ';' ∉ schema.text := by
  cases schema
  all_goals decide

theorem Schema.nameOf_quoted (schema : Schema) :
    nameOf (quoted schema.text) = some schema.text := by
  cases schema
  all_goals decide

theorem quoted_append (name rest : List Char) :
    (quoted name).text ++ rest = doubleQuote :: double doubleQuote name ++ doubleQuote :: rest := by
  simp [quoted]

theorem Use.lex_sql (use : Use) (schema : Schema) (table : List Char) :
    lex (use.sql schema.text table) = (lex (doubleQuote :: table ++ doubleQuote :: use.trail)).map
      (use.before ++ quoted schema.text :: dot :: ·) := by
  have apart : ('.' :: (doubleQuote :: table ++ doubleQuote :: use.trail)).head? ≠
      some doubleQuote := by
    simp [doubleQuote]
  have named := lex_quoted apart schema.text
  rw [lex_symbol '.' (by decide), quoted, double_plain schema.plain.1] at named
  have shape : quotedTableRef schema.text table ++ use.trail = doubleQuote :: schema.text ++
      [doubleQuote] ++ '.' :: (doubleQuote :: table ++ doubleQuote :: use.trail) := by
    simp [quotedTableRef]
  rw [Use.sql, use.lex_lead, shape, named, quoted, double_plain schema.plain.1]
  simp only [Option.map_map]
  rfl

section Gate

theorem Use.keywordFollows (use : Use) (schema table : List Char) :
    KeywordFollows (use.sql schema table) := by
  refine ⟨_, .done, startsLikeQuery_iff.mpr ?_⟩
  cases use with
  | count => exact ⟨"SELECT".toList, _, rfl, by decide⟩
  | sample => exact ⟨"SELECT".toList, _, rfl, by decide⟩
  | prefill => exact ⟨"select".toList, _, rfl, by decide⟩

theorem unbroken_of_clean {front back : List Char} (clean : ';' ∉ front)
    (unbroken : Unbroken back) : Unbroken (front ++ back) := by
  intro c late
  rw [afterFirst,
    List.dropWhile_append_of_pos (by simpa using fun c inside => ne_of_mem_of_not_mem inside clean)]
    at late
  exact unbroken c late

theorem not_unbroken (front : List Char) {back : List Char} {c : Char} (late : c ∈ back)
    (visible : isSpace c = false) (other : c ≠ ';') : ¬ Unbroken (front ++ ';' :: back) := by
  intro unbroken
  have after : c ∈ afterFirst (· == ';') (front ++ ';' :: back) := by
    rw [afterFirst, List.dropWhile_append]
    split
    · simp [late]
    · simp [late]
  rcases unbroken c after with space | same
  · rw [visible] at space
    cases space
  · exact other same

theorem Use.accepted_iff (use : Use) (schema : Schema) (table : List Char) :
    Accepted (use.sql schema.text table) ↔ ';' ∉ table := by
  rw [Query.accepted_iff, and_iff_right (use.keywordFollows _ _)]
  constructor
  · intro unbroken semicolon
    obtain ⟨front, back, rfl⟩ := List.append_of_mem semicolon
    have closing : doubleQuote ∈ back ++ doubleQuote :: use.trail := by simp
    refine not_unbroken (use.lead ++ doubleQuote :: schema.text ++ doubleQuote :: '.' ::
      doubleQuote :: front)
      closing (by decide) (by decide) ?_
    simpa [Use.sql, quotedTableRef] using unbroken
  · intro clean
    have reference : ';' ∉ quotedTableRef schema.text table := by
      simp [quotedTableRef, schema.plain.2, clean, doubleQuote]
    refine unbroken_of_clean (by cases use <;> decide) (unbroken_of_clean reference ?_)
    cases use with
    | count => nofun
    | sample =>
      have whole : afterFirst (· == ';') Use.sample.trail = [] := by decide
      rw [Unbroken, whole]
      nofun
    | prefill =>
      have ending : afterFirst (· == ';') Use.prefill.trail = [';'] := by decide
      rw [Unbroken, ending]
      exact fun c late => .inr (List.mem_singleton.mp late)

end Gate

section Names

variable {name more : List Token}

/-- The tokens of the text after the reference, and before its semicolon. -/
def Use.after : Use → List Token
  | count => []
  | sample => [⟨.space, [' ']⟩, ⟨.word, "LIMIT".toList⟩, ⟨.space, [' ']⟩, ⟨.number, "20".toList⟩]
  | prefill => [⟨.space, [' ']⟩, ⟨.word, "limit".toList⟩, ⟨.space, [' ']⟩, ⟨.number, "20".toList⟩]

def Use.ending : Use → List Token
  | count => []
  | sample => []
  | prefill => [⟨.semicolon, [';']⟩]

theorem Use.lex_trail (use : Use) : lex use.trail = some (use.after ++ use.ending) := by
  cases use
  all_goals decide

/-- The statement begins with what is before the reference, and the reference follows. -/
theorem Use.firstSegment_eq (use : Use) (schema name : List Char) (more : List Token) :
    firstSegment Token.isSemicolon (use.before ++ quoted schema :: dot :: quoted name :: more) =
      use.before ++ quoted schema :: dot :: quoted name :: firstSegment Token.isSemicolon more := by
  cases use
  all_goals rfl

theorem Use.relations_eq (use : Use) (schema : Schema) (name : List Char) (more : List Token) :
    relations (use.before ++ quoted schema.text :: dot :: quoted name :: more) =
      (schema.text :: dotted (quoted name :: more.filter fun token => !token.isNoise)) ::
        references (more.filter fun token => !token.isNoise) := by
  have named := schema.nameOf_quoted
  have opened : relations (use.before ++ quoted schema.text :: dot :: quoted name :: more) =
      dotted (quoted schema.text :: dot :: quoted name :: more.filter fun token =>
        !token.isNoise) :: references (more.filter fun token => !token.isNoise) := by
    cases use
    all_goals rfl
  rw [opened, dotted, named]
  rfl

theorem Use.begins (use : Use) (more : List Token) :
    (use.before ++ more).any Token.isSignificant = true := by
  cases use
  all_goals rfl

theorem Use.statements_eq (use : Use) (schema name : List Char) (more : List Token) :
    ∃ others, statements (use.before ++ quoted schema :: dot :: quoted name :: more) =
      (use.before ++ quoted schema :: dot :: quoted name :: firstSegment Token.isSemicolon more) ::
      others := by
  have first := use.firstSegment_eq schema name more
  have holds :
      (firstSegment Token.isSemicolon (use.before ++ quoted schema :: dot ::
        quoted name :: more)).any
      Token.isSignificant = true := first ▸ use.begins _
  exact ⟨_, (filled_eq_cons holds).trans (by rw [first])⟩

theorem shown_name {table name rest trail : List Char} (fits : byteLength table ≤ maxNameBytes)
    (same : table ++ doubleQuote :: trail = double doubleQuote name ++ doubleQuote :: rest)
    (last : doubleQuote ∉ trail) (shown : clip maxNameBytes name = table) :
    doubleQuote ∉ table := by
  obtain ⟨left, rfl⟩ : ∃ left, table = double doubleQuote name ++ left := by
    rcases List.append_eq_append_iff.mp same with ⟨more, inside, behind⟩ | ⟨left, inside, _⟩
    · cases more with
      | nil => exact ⟨[], by rw [inside, List.append_nil, List.append_nil]⟩
      | cons c more =>
        simp only [List.cons_append, List.cons.injEq] at behind
        exact absurd (by simp [behind.2]) last
    · exact ⟨left, inside⟩
  have whole : clip maxNameBytes name = name := by
    refine clip_of_fits ((byteLength_sublist (sublist_double doubleQuote name)).trans ?_)
    rw [byteLength_append] at fits
    omega
  have lengths := congrArg List.length (whole.symm.trans shown)
  rw [List.length_append, double_length] at lengths
  have none_ : name.count doubleQuote = 0 := by omega
  rw [← shown, whole]
  exact List.count_eq_zero.mp none_

theorem Use.last (use : Use) : doubleQuote ∉ use.trail := by
  cases use
  all_goals decide

theorem Use.statements_sql (use : Use) (schema name : List Char) :
    statements (use.before ++ quoted schema :: dot :: quoted name :: (use.after ++ use.ending)) =
      [use.before ++ quoted schema :: dot :: quoted name :: use.after] := by
  have apart : ∀ token : Token, token.isSemicolon = true → token.isSignificant = false := by
    intro token semicolon
    simp [Token.isSignificant, semicolon]
  have first : firstSegment Token.isSemicolon
      (use.before ++ quoted schema :: dot :: quoted name :: (use.after ++ use.ending)) =
        use.before ++ quoted schema :: dot :: quoted name :: use.after := by
    cases use
    all_goals rfl
  have after : afterFirst Token.isSemicolon
      (use.before ++ quoted schema :: dot :: quoted name :: (use.after ++ use.ending)) =
      use.ending := by
    cases use
    all_goals rfl
  have quiet : ∀ token ∈ use.ending, token.isSignificant = false := by
    cases use
    all_goals decide
  rw [← first]
  refine filled_eq_singleton apart (first ▸ use.begins _) ?_
  rw [after]
  exact quiet

/-- Nothing after the reference belongs to it, and nothing there is another one. -/
theorem Use.refers (use : Use) {schema : Schema} {name : List Char}
    (named : nameOf (quoted name) = some name) :
    relations (use.before ++ quoted schema.text :: dot :: quoted name :: use.after) =
    [[schema.text, name]] := by
  rw [use.relations_eq]
  cases use with
  | count =>
    rw [show Use.count.after.filter (fun token => !token.isNoise) = [] from rfl, dotted, named]; rfl
  | sample =>
    rw [show Use.sample.after.filter (fun token => !token.isNoise) =
      [⟨.word, "LIMIT".toList⟩, ⟨.number, "20".toList⟩] from rfl, dotted, named]
    rfl
  | prefill =>
    rw [show Use.prefill.after.filter (fun token => !token.isNoise) =
      [⟨.word, "limit".toList⟩, ⟨.number, "20".toList⟩] from rfl, dotted, named]
    rfl

theorem head_dotted {token : Token} {more : List Token} {name : List Char}
    (shown : dotted (token :: more) = [name]) : nameOf token = some name := by
  cases named : nameOf token with
  | none => cases more <;> simp [dotted, named] at shown
  | some other =>
    cases more with
    | nil =>
      rw [dotted, named] at shown
      rw [(List.cons.inj shown).1]
    | cons separator more =>
      rw [dotted, named] at shown
      dsimp only at shown
      split at shown
      · rw [(List.cons.inj shown).1]
      · rw [(List.cons.inj shown).1]

end Names

/-- A text points at its table exactly when the name of that table holds neither a double quote,
which would have to be doubled, nor a semicolon, which the gate takes for an end. -/
theorem points_at_iff (use : Use) (schema : Schema) (table : TableName) :
    PointsAt (use.sql schema.text table.text) schema.text table.text ↔
      doubleQuote ∉ table.text ∧ ';' ∉ table.text := by
  constructor
  · rintro ⟨accepted, tokens, statement, lexed, one, refers⟩
    refine ⟨?_, (use.accepted_iff schema table.text).mp accepted⟩
    rw [use.lex_sql] at lexed
    obtain ⟨behind, read, rfl⟩ := Option.map_eq_some_iff.mp lexed
    obtain ⟨name, rest, more, same, rfl, _⟩ := lex_doubleQuote read
    obtain ⟨others, first⟩ := use.statements_eq schema.text name more
    rw [one] at first
    obtain ⟨rfl, _⟩ := List.cons.inj first
    rw [use.relations_eq] at refers
    have shown := head_dotted (List.cons.inj (List.cons.inj refers).1).2
    rw [nameOf_quoted] at shown
    obtain ⟨_, clipped⟩ := Option.ite_none_left_eq_some.mp shown
    exact shown_name table.fits same use.last (Option.some.inj clipped)
  · rintro ⟨unquoted, clean⟩
    have named : nameOf (quoted table.text) = some table.text := by
      rw [nameOf_quoted, clip_of_fits table.fits, if_neg table.nonempty]
    have ends : use.trail.head? ≠ some doubleQuote :=
      fun head => use.last (List.mem_of_mem_head? head)
    have read := lex_quoted ends table.text
    rw [quoted_append, double_plain unquoted, use.lex_trail] at read
    refine ⟨(use.accepted_iff schema table.text).mpr clean, _, _, ?_,
      use.statements_sql schema.text table.text, use.refers named⟩
    rw [use.lex_sql, read]
    rfl

def weirdTable : TableName := ⟨['a', doubleQuote, 'b'], by decide, by decide⟩

theorem weird_table_unread : ¬ ∀ (use : Use) (schema : Schema) (table : TableName),
    PointsAt (use.sql schema.text table.text) schema.text table.text := by
  intro points
  obtain ⟨_, tokens, _, lexed, _⟩ := points .count .public weirdTable
  have unended : lex (Use.count.sql Schema.public.text weirdTable.text) = none := by decide
  rw [unended] at lexed
  cases lexed

end OpenScale.Query
