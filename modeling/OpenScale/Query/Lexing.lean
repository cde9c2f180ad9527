import OpenScale.Query.Gate

/-! What the gate accepts, beside what Postgres finds in the text. The gate never looks
for quotes, and its comments neither nest nor end at a carriage return. -/

namespace OpenScale.Query

open OpenScale.Library OpenScale.Library.Sql

/-- Leading white space and comments that the gate and Postgres delimit alike. -/
inductive PlainNoise : List Char → List Char → Prop where
  | done {text : List Char} : PlainNoise text text
  | blank {c : Char} {text rest : List Char} (blank : isBlank c = true)
    (more : PlainNoise text rest) :
      PlainNoise (c :: text) rest
  | line {body text rest : List Char} (inside : ∀ c ∈ body,
    isNewline c = false) (more : PlainNoise text rest) :
      PlainNoise ('-' :: '-' :: body ++ '\n' :: text) rest
  | block {body text rest : List Char} (ends : ('*' :: body ++ ['*']).IsChain (Apart '*' '/'))
      (flat : (body ++ ['*']).IsChain (Apart '/' '*')) (more : PlainNoise text rest) :
      PlainNoise ('/' :: '*' :: body ++ '*' :: '/' :: text) rest

variable {sql rest after text : List Char} {c : Char} {token : Token} {tokens more : List Token}

theorem PlainNoise.noise (plain : PlainNoise sql rest) : Noise sql rest := by
  induction plain with
  | done => exact .done
  | blank blank _ ih => exact .blank blank ih
  | line inside _ ih => exact .line (fun newline => by simpa [isNewline] using inside _ newline) ih
  | @block body text rest ends flat _ ih =>
    have opens : (('*' :: body) ++ ['*']).head? = some '*' := rfl
    simpa using Noise.block opens ends ih

theorem isSpace_of_blank (blank : isBlank c = true) : Sql.isSpace c = true := by
  simp only [isBlank, Bool.or_eq_true, beq_iff_eq] at blank
  rcases blank with ((rfl | rfl) | rfl) | rfl <;> rfl

theorem PlainNoise.lex (plain : PlainNoise sql rest) : ∃ noise : List Token,
    (∀ token ∈ noise, token.isNoise = true) ∧ Sql.lex sql = (Sql.lex rest).map (noise ++ ·) := by
  induction plain with
  | @done text => exact ⟨[], by simp, by simp⟩
  | @blank c text rest blank _ ih =>
    obtain ⟨noise, only, same⟩ := ih
    refine ⟨⟨.space, [c]⟩ :: noise, List.forall_mem_cons.mpr ⟨rfl, only⟩, ?_⟩
    rw [lex_space (isSpace_of_blank blank), same, Option.map_map]
    rfl
  | @line body text rest inside _ ih =>
    obtain ⟨noise, only, same⟩ := ih
    refine ⟨⟨.comment, '-' :: '-' :: body⟩ :: ⟨.space, ['\n']⟩ :: noise, ?_, ?_⟩
    · exact List.forall_mem_cons.mpr ⟨rfl, List.forall_mem_cons.mpr ⟨rfl, only⟩⟩
    · rw [lex_line inside rfl, lex_space rfl, same, Option.map_map, Option.map_map]
      rfl
  | @block body text rest ends flat _ ih =>
    obtain ⟨noise, only, same⟩ := ih
    refine ⟨⟨.comment, '/' :: '*' :: body ++ ['*', '/']⟩ :: noise,
      List.forall_mem_cons.mpr ⟨rfl, only⟩, ?_⟩
    rw [lex_block ends.tail flat, same, Option.map_map]
    rfl

theorem trimOnce_of_significant (found : next c rest = some (token, after))
    (significant : token.isSignificant = true) :
    trimOnce (c :: rest) = c :: rest := by
  have visible : isBlank c = false := by
    rw [Bool.eq_false_iff]
    intro blank
    cases (next_space (isSpace_of_blank blank)).symm.trans found
    cases significant
  have kept : (c :: rest).dropWhile isBlank = c :: rest := by simp [visible]
  have comment : ¬ (c = '-' ∧ rest.head? = some '-' ∨ c = '/' ∧ rest.head? = some '*') := by
    intro comment
    simp [Token.isSignificant, Token.isNoise, next_comment comment found] at significant
  unfold trimOnce
  simp only [kept]
  split
  · rename_i same
    cases same
    exact absurd (.inl ⟨rfl, rfl⟩) comment
  · rename_i same
    cases same
    exact absurd (.inr ⟨rfl, rfl⟩) comment
  · rfl

/-- The leading noise is plain, and a token follows it. -/
structure PlainlyLed (sql : List Char) (token : Token) (more : List Token) (rest : List Char) :
    Prop where
  plain : PlainNoise sql rest
  lexes : Lexes rest (token :: more)
  significant : token.isSignificant = true

theorem PlainlyLed.follows_iff (led : PlainlyLed sql token more rest) :
    KeywordFollows sql ↔ startsLikeQuery rest = true := by
  rw [← keywordFollows_iff, trim_noise led.plain.noise]
  cases led.lexes with
  | cons found _ => rw [trim_of_fixed (trimOnce_of_significant found led.significant)]

theorem word_of_startsLikeQuery (starts : startsLikeQuery rest = true)
    (lexes : Lexes rest (token :: more)) :
    token.kind = .word ∧ startsLikeQuery token.text = true := by
  obtain ⟨word, behind, rfl, listed⟩ := startsLikeQuery_iff.mp starts
  have letters := isWordStart_of_listed listed
  cases word with
  | nil => simp [queryWords] at listed
  | cons c word =>
    obtain ⟨first, _, same, letter⟩ := startsLikeQuery_cons starts
    cases same
    have unmarked : c ≠ 'e' ∧ c ≠ 'E' := by
      have others : (['s', 'S', 'w', 'W'].all fun c => c != 'e' && c != 'E') = true := by decide
      simpa using List.all_eq_true.mp others c letter
    cases lexes with
    | cons found _ =>
      cases (next_word (letters c (List.mem_cons_self ..)) unmarked).symm.trans found
      refine ⟨rfl, startsLikeQuery_iff.mpr ⟨c :: word, behind.takeWhile isWordPart, ?_, listed⟩⟩
      have parts : ∀ d ∈ word, isWordPart d = true := by
        intro d inside
        simp [isWordPart, isTagPart, letters d (List.mem_cons_of_mem _ inside)]
      simp [List.takeWhile_append_of_pos parts]

section Statements

variable {noise : List Token}

theorem not_semicolon_of_noise (quiet : token.isNoise = true) : token.isSemicolon = false := by
  cases kind : token.kind <;> simp_all [Token.isNoise, Token.isSemicolon]

theorem not_semicolon_of_significant (significant : token.isSignificant = true) :
    token.isSemicolon = false := by
  simp only [Token.isSignificant, Bool.and_eq_true, Bool.not_eq_true'] at significant
  exact significant.1

theorem firstSegment_led (only : ∀ token ∈ noise, token.isNoise = true)
    (significant : token.isSignificant = true)
    (more : List Token) : firstSegment Token.isSemicolon (noise ++ token :: more) =
      noise ++ token :: firstSegment Token.isSemicolon more := by
  have clean : ∀ token ∈ noise, (!token.isSemicolon) = true := by
    intro token member
    simp [not_semicolon_of_noise (only token member)]
  unfold firstSegment
  rw [List.takeWhile_append_of_pos clean, List.takeWhile_cons_of_pos (by
    simp [not_semicolon_of_significant significant])]

theorem find?_led {wanted : Token → Bool} (only : ∀ token ∈ noise, token.isNoise = true)
    (other : ∀ token, token.isNoise = true → wanted token = false) (found : wanted token = true)
    (more : List Token) : (noise ++ token :: more).find? wanted = some token := by
  rw [List.find?_append, List.find?_eq_none.mpr, Option.none_or, List.find?_cons_of_pos found]
  intro token member
  simp [other token (only token member)]

theorem firstWord_led (only : ∀ token ∈ noise, token.isNoise = true) (word : token.kind = .word)
    (more : List Token) : firstWord (noise ++ token :: more) =
        some (String.ofList (token.text.map Char.toLower)) := by
  unfold firstWord
  rw [find?_led only ?_ (by simp [word])]
  · rfl
  · intro token quiet
    cases kind : token.kind <;> simp_all [Token.isNoise]

/-- The text after the first semicolon that Postgres sees comes after the first one that there
is. -/
theorem afterFirst_insignificant (lexes : Lexes sql tokens) (unbroken : Unbroken sql)
    (ascii : ∀ c ∈ afterFirst (· == ';') sql, isSpace c = true → Sql.isSpace c = true) :
    ∀ token ∈ afterFirst Token.isSemicolon tokens, token.isSignificant = false := by
  rcases afterFirst_cases Token.isSemicolon tokens with whole | ⟨semicolon, post, separates, shape⟩
  · rw [whole]
    nofun
  · have parts := firstSegment_append Token.isSemicolon tokens
    rw [shape] at parts
    rw [← parts] at lexes
    obtain ⟨rest, behind, front⟩ := lexes.split
    cases behind with
    | @cons c rest after _ _ found more =>
      obtain ⟨rfl, rfl⟩ := next_isSemicolon found separates
      cases next_semicolon.symm.trans found
      have late : ∀ c ∈ rest, c ∈ afterFirst (· == ';') sql := by
        intro c inside
        rw [front, afterFirst, List.dropWhile_append]
        split
        · simp [inside]
        · simp [inside]
      rw [shape]
      intro token member
      rcases List.mem_cons.mp member with rfl | later
      · rfl
      · refine more.insignificant ?_ token later
        intro c inside
        exact (unbroken c (late c inside)).imp_left (ascii c (late c inside))

end Statements

/-- An accepted text whose leading noise is plain, and that has no white space beyond ASCII
after its first semicolon, is one statement for Postgres, whose first token is a word that
starts like SELECT or WITH. -/
theorem accepted_is_one_query (accepted : Accepted sql) (led : PlainlyLed sql token more rest)
    (ascii : ∀ c ∈ afterFirst (· == ';') sql, isSpace c = true → Sql.isSpace c = true) :
    ∃ tokens statement, Sql.lex sql = some tokens ∧ statements tokens = [statement] ∧
      statement.find? Token.isSignificant = some token ∧ token.kind = .word ∧
        startsLikeQuery token.text = true ∧
      firstWord statement = some (String.ofList (token.text.map Char.toLower)) := by
  obtain ⟨follows, unbroken⟩ := (accepted_iff sql).mp accepted
  obtain ⟨word, starts⟩ := word_of_startsLikeQuery (led.follows_iff.mp follows) led.lexes
  obtain ⟨noise, only, lexed⟩ := led.plain.lex
  rw [lex_of_lexes led.lexes] at lexed
  have first := firstSegment_led only led.significant more
  have apart : ∀ token : Token, token.isSemicolon = true → token.isSignificant = false := by
    intro token semicolon
    simp [Token.isSignificant, semicolon]
  refine ⟨noise ++ token :: more, _, lexed, filled_eq_singleton apart ?_ ?_, ?_, word, starts, ?_⟩
  · rw [first]
    simp [led.significant]
  · exact afterFirst_insignificant (lexes_of_lex lexed) unbroken ascii
  · rw [first]
    apply find?_led only _ led.significant
    intro token quiet
    simp [Token.isSignificant, quiet]
  · rw [first]
    exact firstWord_led only word _

def commented : List Char := " -- newest\n/* ids */Select 1; ".toList

theorem plainNoise_commented : PlainNoise commented "Select 1; ".toList :=
  .blank rfl (@PlainNoise.line " newest".toList _ _ (by simp [isNewline])
    (@PlainNoise.block " ids ".toList _ _ (by simp [Apart]) (by simp [Apart]) .done))

theorem accepted_is_one_query_commented : ∃ tokens statement, Sql.lex commented = some tokens ∧
    statements tokens = [statement] ∧ statement.find? Token.isSignificant = some
      ⟨.word, "Select".toList⟩ ∧ Kind.word = .word ∧ startsLikeQuery "Select".toList = true ∧
      firstWord statement = some (String.ofList ("Select".toList.map Char.toLower)) := by
  have lexed : Sql.lex "Select 1; ".toList = some [⟨.word, "Select".toList⟩, ⟨.space, [' ']⟩,
      ⟨.number, ['1']⟩, ⟨.semicolon, [';']⟩, ⟨.space, [' ']⟩] := by decide
  have accepted : Accepted commented := by decide
  have behind : afterFirst (· == ';') commented = [';', ' '] := by decide
  have blank : ∀ c ∈ afterFirst (· == ';') commented, isSpace c = true → Sql.isSpace c = true := by
    rw [behind]
    simp [isSpace, Sql.isSpace]
  exact accepted_is_one_query accepted ⟨plainNoise_commented, lexes_of_lex lexed, rfl⟩ blank

/-- The gate asks for a prefix, not for a keyword, and does not read the text to its end. -/
theorem accepts_more_than_queries :
    (¬ ∀ sql, Accepted sql → ∃ tokens statement, Sql.lex sql = some tokens ∧
      statements tokens = [statement] ∧ firstWord statement ∈ [some "select", some "with"]) ∧
    Accepted "select '".toList ∧ Sql.lex "select '".toList = none := by
  refine ⟨?_, by decide, by decide⟩
  intro sound
  obtain ⟨tokens, statement, lexed, one, keyword⟩ := sound "selectx".toList (by decide)
  have known : Sql.lex "selectx".toList = some [⟨.word, "selectx".toList⟩] := by decide
  rw [known] at lexed
  cases lexed
  have only : statements [⟨.word, "selectx".toList⟩] = [[⟨.word, "selectx".toList⟩]] := by decide
  rw [only] at one
  cases one
  revert keyword
  decide

/-- One statement, whose first word is SELECT or WITH, with at most a semicolon and noise behind
it. -/
structure ReadQuery (sql : List Char) (tokens : List Token) : Prop where
  lexed : Sql.lex sql = some tokens
  ended : ∀ token ∈ (afterFirst Token.isSemicolon tokens).tail, token.isNoise = true
  begins : firstWord (firstSegment Token.isSemicolon tokens) ∈ [some "select", some "with"]

theorem ReadQuery.statements_eq (query : ReadQuery sql tokens) :
    statements tokens = [firstSegment Token.isSemicolon tokens] := by
  have apart : ∀ token : Token, token.isSemicolon = true → token.isSignificant = false := by
    intro token semicolon
    simp [Token.isSignificant, semicolon]
  refine filled_eq_singleton apart ?_ ?_
  · have word : (firstWord (firstSegment Token.isSemicolon tokens)).isSome = true := by
      rcases List.mem_cons.mp query.begins with same | same
      · rw [same]
        rfl
      · rw [List.mem_singleton.mp same]
        rfl
    obtain ⟨token, inside, kind⟩ := List.find?_isSome.mp (Option.isSome_map ▸ word)
    refine List.any_eq_true.mpr ⟨token, inside, ?_⟩
    simp [Token.isSignificant, Token.isSemicolon, Token.isNoise, beq_iff_eq.mp kind]
  · rcases afterFirst_cases Token.isSemicolon tokens with whole | ⟨semicolon, post,
      separates, shape⟩
    · rw [whole]
      exact fun token member => absurd member List.not_mem_nil
    · have ended := query.ended
      rw [shape] at ended ⊢
      intro token member
      rcases List.mem_cons.mp member with rfl | later
      · exact apart token separates
      · simp [Token.isSignificant, ended token later]

theorem toLower_of_isLower {c : Char} (lower : c.toLower.isLower = true) :
    toLower c = c.toLower := by
  have kept : 128 ≤ c.toNat → c.toLower.isLower = false := by
    intro beyond
    have same : c.toLower = c := by
      refine dif_neg fun upper => ?_
      have last : c.toNat ≤ 90 := UInt32.le_iff_toNat_le.mp upper.2
      omega
    rw [same, Bool.eq_false_iff]
    intro letter
    simp only [Char.isLower, ge_iff_le, Bool.and_eq_true, decide_eq_true_eq] at letter
    have last : c.toNat ≤ 122 := UInt32.le_iff_toNat_le.mp letter.2
    omega
  unfold toLower
  split
  · rename_i code
    rw [kept (by omega)] at lower
    cases lower
  · split
    · rename_i code
      rw [kept (by omega)] at lower
      cases lower
    · rfl

theorem ReadQuery.starts (query : ReadQuery sql tokens) (led : PlainlyLed sql token more rest)
    (word : token.kind = .word) : startsLikeQuery rest = true := by
  obtain ⟨noise, only, lexed⟩ := led.plain.lex
  rw [lex_of_lexes led.lexes, query.lexed] at lexed
  cases lexed
  have begins := query.begins
  rw [firstSegment_led only led.significant, firstWord_led only word] at begins
  have listed : token.text.map Char.toLower ∈ queryWords := by
    rcases List.mem_cons.mp begins with same | same
    · have letters := String.ofList_inj.mp (Option.some.inj same)
      simp [letters, queryWords]
    · have letters := String.ofList_inj.mp (Option.some.inj (List.mem_singleton.mp same))
      simp [letters, queryWords]
  have agree : token.text.map toLower = token.text.map Char.toLower := by
    refine List.map_congr_left fun c inside => toLower_of_isLower ?_
    exact isLower_of_queryWord listed (List.mem_map_of_mem inside)
  cases led.lexes with
  | cons found _ =>
    exact startsLikeQuery_iff.mpr ⟨token.text, _, (next_text found).1.symm, agree ▸ listed⟩

/-- The gate accepts a query exactly when a keyword follows what it takes for noise, and
nothing visible follows the first semicolon in the text, wherever that stands. Behind plain
noise, the first says that the query does not begin with a parenthesis. -/
theorem accepts_query_iff (query : ReadQuery sql tokens) :
    (Accepted sql ↔ KeywordFollows sql ∧ Unbroken sql) ∧
    ∀ token more rest, PlainlyLed sql token more rest →
    (KeywordFollows sql ↔ token.kind = .word) := by
  refine ⟨accepted_iff sql, ?_⟩
  intro token more rest led
  rw [led.follows_iff]
  constructor
  · intro starts
    exact (word_of_startsLikeQuery starts led.lexes).1
  · exact query.starts led

theorem readQuery_select : ReadQuery "select 1;".toList
    [⟨.word, "select".toList⟩, ⟨.space, [' ']⟩, ⟨.number, ['1']⟩, ⟨.semicolon, [';']⟩] :=
  ⟨by decide, by decide, by decide⟩

theorem accepts_query_iff_select : (Accepted "select 1;".toList ↔
      KeywordFollows "select 1;".toList ∧ Unbroken "select 1;".toList) ∧
    ∀ token more rest, PlainlyLed "select 1;".toList token more rest →
      (KeywordFollows "select 1;".toList ↔ token.kind = .word) :=
  accepts_query_iff readQuery_select

/-- The semicolon in a literal counts for the gate, and so does a comment at the end. -/
theorem rejects_queries : (¬ ∀ sql tokens, ReadQuery sql tokens → Accepted sql) ∧
    ∃ tokens, ReadQuery "select 1; -- done".toList tokens ∧
    ¬ Accepted "select 1; -- done".toList := by
  constructor
  · intro complete
    have literal : ReadQuery "select '; ok'".toList
        [⟨.word, "select".toList⟩, ⟨.space, [' ']⟩, ⟨.quoted, "'; ok'".toList⟩] :=
          ⟨by decide, by decide, by decide⟩
    have rejected : ¬ Accepted "select '; ok'".toList := by decide
    exact rejected (complete _ _ literal)
  · exact ⟨[⟨.word, "select".toList⟩, ⟨.space, [' ']⟩, ⟨.number, ['1']⟩, ⟨.semicolon, [';']⟩,
      ⟨.space, [' ']⟩, ⟨.comment, "-- done".toList⟩], ⟨by decide, by decide, by decide⟩, by decide⟩

end OpenScale.Query
