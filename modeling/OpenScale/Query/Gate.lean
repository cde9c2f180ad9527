import Mathlib
import OpenScale.Library.SqlLexer

/-! The gate in front of the query engine: `validateReadOnlySQL`, which strips leading
comments, looks at the prefix of what is left, and counts the segments between
semicolons. A text is its list of characters. -/

namespace OpenScale.Query

open OpenScale.Library

/-- `unicode.IsSpace`. -/
def isSpace (c : Char) : Bool :=
  let n := c.toNat
  (9 ≤ n && n ≤ 13) || n == 0x20 || n == 0x85 || n == 0xA0 || n ==
  0x1680 || (0x2000 ≤ n && n ≤ 0x200A) ||
    n == 0x2028 || n == 0x2029 || n == 0x202F || n == 0x205F || n == 0x3000

/-- `strings.TrimSpace`. -/
def trimSpace (text : List Char) : List Char :=
  ((text.dropWhile isSpace).reverse.dropWhile isSpace).reverse

/-- `unicode.ToLower`, as far as a comparison with words in ASCII can tell: two letters
beyond ASCII have lower cases in ASCII. -/
def toLower (c : Char) : Char :=
  if c.toNat = 0x130 then 'i' else if c.toNat = 0x212A then 'k' else c.toLower

/-- The cutset of `strings.TrimLeft`. -/
def isBlank (c : Char) : Bool := c == ' ' || c == '\t' || c == '\r' || c == '\n'

/-- What follows the first newline. -/
def afterNewline (text : List Char) : Option (List Char) :=
  match text.dropWhile fun c => c != '\n' with
  | [] => none
  | _ :: rest => some rest

/-- What follows the first `*/`. -/
def afterCommentEnd : List Char → Option (List Char)
  | '*' :: '/' :: rest => some rest
  | _ :: rest => afterCommentEnd rest
  | [] => none

/-- One round of the loop of `trimLeadingSQLNoise`. -/
def trimOnce (text : List Char) : List Char :=
  let next := text.dropWhile isBlank
  match next with
  | '-' :: '-' :: _ => (afterNewline next).getD []
  | '/' :: '*' :: _ => (afterCommentEnd next).getD []
  | _ => next

def trimRounds : Nat → List Char → List Char
  | 0, text => text
  | rounds + 1, text => if trimOnce text = text then text else trimRounds rounds (trimOnce text)

/-- Each round but the last makes the text shorter, so its length bounds them. -/
def trimLeadingSQLNoise (sql : List Char) : List Char := trimRounds (sql.length + 1) sql

def nonEmptyStatements (sql : List Char) : List (List Char) :=
  (sql.splitOn ';').filter fun part => !(trimSpace part).isEmpty

def queryWords : List (List Char) := [['s', 'e', 'l', 'e', 'c', 't'], ['w', 'i', 't', 'h']]

/-- The text starts with SELECT or WITH, in whatever case. -/
def startsLikeQuery (text : List Char) : Bool :=
  queryWords.any fun word => word.isPrefixOf (text.map toLower)

/-- The reason to reject, and whether the text is accepted. -/
def validateReadOnlySQL (sql : List Char) : String × Bool :=
  if (trimSpace sql).isEmpty then ("SQL query cannot be empty.", false)
  else if !startsLikeQuery (trimLeadingSQLNoise sql) then
    ("Only SELECT queries are allowed.", false)
  else if 1 < (nonEmptyStatements sql).length then
    ("Only a single SQL statement is allowed.", false)
  else ("", true)

def Accepted (sql : List Char) : Prop := (validateReadOnlySQL sql).2 = true

instance (sql : List Char) : Decidable (Accepted sql) := inferInstanceAs (Decidable (_ = true))

/-- Leading white space and comments, as the gate reads them: a block comment ends at the
first `*/` after its slash, which may share its star. -/
inductive Noise : List Char → List Char → Prop where
  | done {text : List Char} : Noise text text
  | blank {c : Char} {text rest : List Char} (blank : isBlank c = true) (more : Noise text rest) :
    Noise (c :: text) rest
  | line {body text rest : List Char} (inside : '\n' ∉ body) (more : Noise text rest) :
      Noise ('-' :: '-' :: body ++ '\n' :: text) rest
  | block {body text rest : List Char} (opens : (body ++ ['*']).head? = some '*')
      (inside : (body ++ ['*']).IsChain (Sql.Apart '*' '/')) (more : Noise text rest) :
      Noise ('/' :: body ++ '*' :: '/' :: text) rest

/-- After its leading noise the text starts with SELECT or WITH. -/
def KeywordFollows (sql : List Char) : Prop := ∃ rest, Noise sql rest ∧ startsLikeQuery rest = true

/-- Nothing but white space and semicolons follows the first semicolon. -/
def Unbroken (sql : List Char) : Prop := ∀ c ∈ afterFirst (· == ';') sql, isSpace c = true ∨ c = ';'

section Trim

variable {text rest body : List Char} {c : Char}

theorem trimOnce_blank (blank : isBlank c = true) (text : List Char) :
    trimOnce (c :: text) = trimOnce text := by
  simp [trimOnce, blank]

theorem trimOnce_line (inside : '\n' ∉ body) (text : List Char) :
    trimOnce ('-' :: '-' :: body ++ '\n' :: text) = text := by
  have found : ('-' :: '-' :: body ++ '\n' :: text).dropWhile (fun c => c != '\n') =
      '\n' :: text := by
    have clean : ∀ c ∈ '-' :: '-' :: body, (c != '\n') = true := by
      intro c member
      have other : c ≠ '\n' := by
        rintro rfl
        simp [inside] at member
      simp [other]
    rw [List.dropWhile_append_of_pos clean]
    simp
  have starts : ('-' :: '-' :: body ++ '\n' :: text).dropWhile isBlank =
      '-' :: '-' :: body ++ '\n' :: text := by
    simp [isBlank]
  simp only [trimOnce, starts]
  simp only [List.cons_append] at found ⊢
  simp [afterNewline, found]

theorem afterCommentEnd_append (inside : (body ++ ['*']).IsChain (Sql.Apart '*' '/'))
    (text : List Char) : afterCommentEnd (body ++ '*' :: '/' :: text) = some text := by
  induction body with
  | nil => rfl
  | cons c body ih =>
    rw [List.cons_append, afterCommentEnd.eq_2 _ _ ?_]
    · exact ih inside.tail
    · intro rest star slash
      subst star
      cases body with
      | nil => simp at slash
      | cons d body =>
        simp only [List.cons_append, List.cons.injEq] at slash
        exact (List.isChain_cons_cons.mp inside).1 ⟨rfl, slash.1⟩

theorem trimOnce_block (opens : (body ++ ['*']).head? = some '*')
    (inside : (body ++ ['*']).IsChain (Sql.Apart '*' '/')) (text : List Char) :
    trimOnce ('/' :: body ++ '*' :: '/' :: text) = text := by
  have second : ∃ more, body ++ '*' :: '/' :: text = '*' :: more := by
    cases body with
    | nil => exact ⟨_, rfl⟩
    | cons c body =>
      simp only [List.cons_append, List.head?_cons, Option.some.injEq] at opens
      exact ⟨_, by rw [opens, List.cons_append]⟩
  obtain ⟨more, second⟩ := second
  have ended := afterCommentEnd_append inside text
  have starts : ('/' :: '*' :: more).dropWhile isBlank = '/' :: '*' :: more := by simp [isBlank]
  rw [second] at ended
  rw [List.cons_append, second]
  simp only [trimOnce, starts]
  rw [afterCommentEnd.eq_2 _ _ (by simp), ended]
  rfl

theorem afterNewline_suffix (text : List Char) : (afterNewline text).getD [] <:+ text := by
  unfold afterNewline
  split
  · exact List.nil_suffix
  · rename_i c rest found
    exact (List.suffix_cons c rest).trans (found ▸ List.dropWhile_suffix _)

theorem afterCommentEnd_suffix (text : List Char) : (afterCommentEnd text).getD [] <:+ text := by
  induction text using afterCommentEnd.induct with
  | case1 rest => exact ⟨['*', '/'], rfl⟩
  | case2 c rest other ih =>
    rw [afterCommentEnd.eq_2 _ _ other]
    exact ih.trans (List.suffix_cons c rest)
  | case3 => exact List.nil_suffix

theorem trimOnce_suffix (text : List Char) : trimOnce text <:+ text := by
  have next := List.dropWhile_suffix (l := text) isBlank
  unfold trimOnce
  dsimp only
  split
  · exact (afterNewline_suffix _).trans next
  · exact (afterCommentEnd_suffix _).trans next
  · exact next

theorem trimOnce_shorter (changes : trimOnce text ≠ text) :
    (trimOnce text).length < text.length := by
  have suffix := trimOnce_suffix text
  have other : (trimOnce text).length ≠ text.length :=
    fun same => changes (suffix.eq_of_length same)
  have le := suffix.length_le
  omega

theorem trimRounds_eq (rounds rounds' : Nat) (text : List Char) (enough : text.length < rounds)
    (enough' : text.length < rounds') : trimRounds rounds text = trimRounds rounds' text := by
  induction rounds generalizing rounds' text with
  | zero => omega
  | succ rounds ih =>
    cases rounds' with
    | zero => omega
    | succ rounds' =>
      simp only [trimRounds]
      split
      · rfl
      · rename_i changes
        have shorter := trimOnce_shorter changes
        exact ih rounds' _ (by omega) (by omega)

theorem trim_trimOnce (text : List Char) : trimLeadingSQLNoise text =
    trimLeadingSQLNoise (trimOnce text) := by
  by_cases same : trimOnce text = text
  · rw [same]
  · have shorter := trimOnce_shorter same
    rw [trimLeadingSQLNoise, trimRounds, if_neg same]
    exact trimRounds_eq _ _ _ (by omega) (by omega)

theorem trim_of_fixed (fixed : trimOnce text = text) : trimLeadingSQLNoise text = text := by
  rw [trimLeadingSQLNoise, trimRounds, if_pos fixed]

/-- What holds where a pass changes nothing, and before a pass if it does after it, holds of every
text. -/
theorem trim_induction {holds : List Char → Prop}
    (fixed : ∀ text, trimOnce text = text → holds text)
    (pass : ∀ text, trimOnce text ≠ text → holds (trimOnce text) → holds text) (text : List Char) :
    holds text := by
  induction size : text.length using Nat.strongRecOn generalizing text with
  | _ size ih =>
    subst size
    by_cases same : trimOnce text = text
    · exact fixed text same
    · exact pass text same (ih _ (trimOnce_shorter same) (trimOnce text) rfl)

theorem trim_noise {sql : List Char} (noise : Noise sql rest) :
    trimLeadingSQLNoise sql = trimLeadingSQLNoise rest := by
  induction noise with
  | done => rfl
  | blank blank _ ih => rw [trim_trimOnce, trimOnce_blank blank, ← trim_trimOnce, ih]
  | line inside _ ih => rw [trim_trimOnce, trimOnce_line inside, ih]
  | block opens inside _ ih => rw [trim_trimOnce, trimOnce_block opens inside, ih]

theorem startsLikeQuery_iff : startsLikeQuery text = true ↔
    ∃ word more, text = word ++ more ∧ word.map toLower ∈ queryWords := by
  simp only [startsLikeQuery, List.any_eq_true, List.isPrefixOf_iff_prefix]
  constructor
  · intro starts
    obtain ⟨word, listed, behind, whole⟩ := starts
    obtain ⟨front, back, rfl, same, _⟩ := List.map_eq_append_iff.mp whole.symm
    exact ⟨front, back, rfl, same ▸ listed⟩
  · intro starts
    obtain ⟨word, more, rfl, listed⟩ := starts
    exact ⟨word.map toLower, listed, by simp⟩

theorem isWordStart_of_toLower {c : Char} (lower : (toLower c).isLower = true) :
    Sql.isWordStart c = true := by
  unfold toLower at lower
  split at lower
  · rename_i code
    simp [Sql.isWordStart, code]
  · split at lower
    · rename_i code
      simp [Sql.isWordStart, code]
    · have letter : c.isAlpha = true := by
        by_cases upper : c.isUpper = true
        · simp [Char.isAlpha, upper]
        · have kept : c.toLower = c := by
            unfold Char.toLower
            simp only [Char.isUpper, decide_eq_true_eq, ge_iff_le] at upper
            rw [dif_neg upper]
          rw [kept] at lower
          simp [Char.isAlpha, lower]
      simp [Sql.isWordStart, letter]

theorem isLower_of_queryWord {word : List Char} {letter : Char} (listed : word ∈ queryWords)
    (inside : letter ∈ word) :
    letter.isLower = true := by
  have small : (queryWords.all fun word => word.all Char.isLower) = true := by decide
  exact List.all_eq_true.mp (List.all_eq_true.mp small word listed) letter inside

theorem isWordStart_of_listed {word : List Char} (listed : word.map toLower ∈ queryWords) :
    ∀ c ∈ word, Sql.isWordStart c = true := by
  intro c member
  exact isWordStart_of_toLower (isLower_of_queryWord listed (List.mem_map_of_mem member))

theorem eq_of_toLower {c letter : Char} (lower : toLower c = letter)
    (listed : letter ∈ ['s', 'w']) :
    c ∈ ['s', 'S', 'w', 'W'] := by
  have uppers : ∀ code ∈ List.range' 65 26, (Char.ofNat code).toLower ∈ ['s', 'w'] →
      Char.ofNat code ∈ ['s', 'S', 'w', 'W'] := by decide
  subst lower
  unfold toLower at listed
  split at listed
  · simp at listed
  · split at listed
    · simp at listed
    · by_cases upper : 65 ≤ c.toNat ∧ c.toNat ≤ 90
      · have code : c.toNat ∈ List.range' 65 26 := by
          rw [List.mem_range'_1]
          omega
        have known := uppers _ code
        rw [Char.ofNat_toNat] at known
        exact known listed
      · have kept : c.toLower = c := dif_neg upper
        rw [kept] at listed
        rcases List.mem_cons.mp listed with rfl | listed
        · simp
        · simp [List.mem_singleton.mp listed]

theorem startsLikeQuery_cons (starts : startsLikeQuery text = true) :
    ∃ c rest, text = c :: rest ∧ c ∈ ['s', 'S', 'w', 'W'] := by
  obtain ⟨word, more, rfl, listed⟩ := startsLikeQuery_iff.mp starts
  cases word with
  | nil => simp [queryWords] at listed
  | cons c word =>
    refine ⟨c, word ++ more, rfl, ?_⟩
    simp only [queryWords, List.map_cons, List.mem_cons, List.cons.injEq, List.not_mem_nil,
      or_false] at listed
    rcases listed with query | query
    · exact eq_of_toLower query.1 (by simp)
    · exact eq_of_toLower query.1 (by simp)

theorem trimOnce_of_isWordStart (starts : Sql.isWordStart c = true) :
    trimOnce (c :: rest) = c :: rest := by
  have other : ∀ d, Sql.isWordStart d = false → c ≠ d := by
    intro d stops same
    rw [same, stops] at starts
    cases starts
  have kept : (c :: rest).dropWhile isBlank = c :: rest := by
    have visible : isBlank c = false := by
      simp [isBlank, other ' ' (by decide), other '\t' (by decide), other '\r' (by decide),
        other '\n' (by decide)]
    simp [visible]
  unfold trimOnce
  simp only [kept]
  split
  · rename_i same
    cases same
    cases starts
  · rename_i same
    cases same
    cases starts
  · rfl

theorem trim_of_startsLikeQuery (starts : startsLikeQuery text = true) :
    trimLeadingSQLNoise text = text := by
  obtain ⟨c, rest, rfl, letter⟩ := startsLikeQuery_cons starts
  have letters : ['s', 'S', 'w', 'W'].all Sql.isWordStart = true := by decide
  exact trim_of_fixed (trimOnce_of_isWordStart (List.all_eq_true.mp letters c letter))

theorem afterCommentEnd_eq_some (found : afterCommentEnd text = some rest) :
    ∃ body, text = body ++ '*' :: '/' :: rest ∧ (body ++ ['*']).IsChain (Sql.Apart '*' '/') := by
  induction text using afterCommentEnd.induct with
  | case1 after =>
    cases found
    exact ⟨[], rfl, List.isChain_singleton _⟩
  | case2 c text other ih =>
    rw [afterCommentEnd.eq_2 _ _ other] at found
    obtain ⟨body, rfl, inside⟩ := ih found
    refine ⟨c :: body, rfl, ?_⟩
    cases body with
    | nil => exact List.isChain_cons_cons.mpr ⟨fun same => by simp at same, inside⟩
    | cons d body =>
      refine List.isChain_cons_cons.mpr ⟨fun same => ?_, inside⟩
      exact other (body ++ '*' :: '/' :: rest) same.1 (by rw [same.2, List.cons_append])
  | case3 => cases found

theorem afterNewline_eq_some (found : afterNewline text = some rest) :
    ∃ body, text = body ++ '\n' :: rest ∧ '\n' ∉ body := by
  unfold afterNewline at found
  split at found
  · cases found
  · rename_i c after shape
    cases found
    have head := List.head?_dropWhile_not (fun c => c != '\n') text
    rw [shape] at head
    have newline : c = '\n' := by simpa using head
    subst newline
    refine ⟨text.takeWhile fun c => c != '\n', ?_, ?_⟩
    · rw [← shape, List.takeWhile_append_dropWhile]
    · intro member
      simpa using List.mem_takeWhile_imp member

theorem getD_ne_nil {found : Option (List Char)} (left : found.getD [] ≠ []) :
    found = some (found.getD []) := by
  cases found with
  | none => exact absurd rfl left
  | some text => rfl

theorem noise_of_trimOnce (left : trimOnce text ≠ []) (noise : Noise (trimOnce text) rest) :
    Noise text rest := by
  induction text with
  | nil => exact absurd rfl left
  | cons c text ih =>
    by_cases blank : isBlank c = true
    · rw [trimOnce_blank blank] at left noise
      exact .blank blank (ih left noise)
    · have kept : (c :: text).dropWhile isBlank = c :: text := by simp [blank]
      have shape : trimOnce (c :: text) = match c :: text with
          | '-' :: '-' :: _ => (afterNewline (c :: text)).getD []
          | '/' :: '*' :: _ => (afterCommentEnd (c :: text)).getD []
          | _ => c :: text := by simp only [trimOnce, kept]
      split at shape
      · rename_i more same
        rw [shape] at left noise
        obtain ⟨body, whole, inside⟩ := afterNewline_eq_some (getD_ne_nil left)
        rw [whole]
        rw [whole] at same
        match body with
        | [] => simp at same
        | [d] => simp at same
        | d :: e :: body =>
          simp only [List.cons_append, List.cons.injEq] at same
          obtain ⟨rfl, rfl, _⟩ := same
          exact .line (by simpa using inside) noise
      · rename_i more same
        rw [shape] at left noise
        obtain ⟨body, whole, inside⟩ := afterCommentEnd_eq_some (getD_ne_nil left)
        rw [whole]
        rw [whole] at same
        cases body with
        | nil => simp at same
        | cons d body =>
          simp only [List.cons_append, List.cons.injEq] at same
          obtain ⟨rfl, same⟩ := same
          refine .block ?_ inside.tail noise
          cases body with
          | nil => rfl
          | cons e body =>
            simp only [List.cons_append, List.cons.injEq] at same
            simp [same.1]
      · rwa [shape] at noise

theorem noise_trim (starts : startsLikeQuery (trimLeadingSQLNoise text) = true) :
    Noise text (trimLeadingSQLNoise text) := by
  induction text using trim_induction with
  | fixed text same =>
    rw [trim_of_fixed same]
    exact .done
  | pass text _ ih =>
    have left : trimOnce text ≠ [] := by
      intro empty
      rw [trim_trimOnce, empty] at starts
      cases starts
    rw [trim_trimOnce] at starts ⊢
    exact noise_of_trimOnce left (ih starts)

theorem keywordFollows_iff (sql : List Char) :
    startsLikeQuery (trimLeadingSQLNoise sql) = true ↔ KeywordFollows sql := by
  constructor
  · intro starts
    exact ⟨_, noise_trim starts, starts⟩
  · intro follows
    obtain ⟨rest, noise, starts⟩ := follows
    rwa [trim_noise noise, trim_of_startsLikeQuery starts]

end Trim

section Segments

variable {text rest : List Char} {c : Char}

/-- Neither white space nor a semicolon. -/
def isVisible (c : Char) : Bool := !isSpace c && c != ';'

theorem trimSpace_eq_nil_iff (text : List Char) : trimSpace text = [] ↔
    ∀ c ∈ text, isSpace c = true := by
  unfold trimSpace
  rw [List.reverse_eq_nil_iff, List.dropWhile_eq_nil_iff]
  constructor
  · intro blank
    have none_ : text.dropWhile isSpace = [] := by
      by_contra some_
      have head := List.head_dropWhile_not isSpace some_
      have member := blank _ (List.mem_reverse.mpr (List.head_mem some_))
      simp [head] at member
    exact List.dropWhile_eq_nil_iff.mp none_
  · intro blank c member
    exact blank c ((List.dropWhile_sublist _).subset (List.mem_reverse.mp member))

theorem nonEmptyStatements_eq (sql : List Char) : nonEmptyStatements sql =
    filled (· == ';') isVisible sql := by
  unfold nonEmptyStatements filled
  rw [List.splitOn_eq_splitOnP]
  apply List.filter_congr
  intro part member
  have clean := clean_of_mem_splitOnP member
  rw [Bool.eq_iff_iff, Bool.not_eq_true', ← Bool.not_eq_true, List.isEmpty_iff,
    trimSpace_eq_nil_iff]
  simp only [List.any_eq_true, isVisible, Bool.and_eq_true, Bool.not_eq_true', bne_iff_ne,
    ne_eq, not_forall, Bool.not_eq_true]
  constructor
  · intro visible
    obtain ⟨c, inside, seen⟩ := visible
    exact ⟨c, inside, seen, by simpa using clean c inside⟩
  · intro visible
    obtain ⟨c, inside, seen, _⟩ := visible
    exact ⟨c, inside, seen⟩

theorem unbroken_iff (sql : List Char) : Unbroken sql ↔
    ∀ c ∈ afterFirst (· == ';') sql, isVisible c = false := by
  unfold Unbroken isVisible
  simp only [Bool.and_eq_false_iff, Bool.not_eq_false', bne_eq_false_iff_eq]

theorem isSpace_of_isBlank (blank : isBlank c = true) : isSpace c = true := by
  simp only [isBlank, Bool.or_eq_true, beq_iff_eq] at blank
  rcases blank with ((rfl | rfl) | rfl) | rfl <;> rfl

/-- Where a keyword follows the noise, there is something before the first semicolon. -/
theorem KeywordFollows.visible {sql : List Char} (follows : KeywordFollows sql) :
    (firstSegment (· == ';') sql).any isVisible = true := by
  obtain ⟨rest, noise, starts⟩ := follows
  have first : ∀ (c : Char) (text : List Char), isVisible c = true →
      (firstSegment (· == ';') (c :: text)).any isVisible = true := by
    intro c text visible
    have plain : c ≠ ';' := by
      rintro rfl
      simp [isVisible] at visible
    simp [firstSegment, plain, visible]
  induction noise with
  | done =>
    obtain ⟨c, rest, rfl, letter⟩ := startsLikeQuery_cons starts
    have letters : ['s', 'S', 'w', 'W'].all isVisible = true := by decide
    exact first c rest (List.all_eq_true.mp letters c letter)
  | @blank c text rest blank more ih =>
    have space := isSpace_of_isBlank blank
    have plain : c ≠ ';' := by
      rintro rfl
      cases space
    simpa [firstSegment, plain, isVisible, space] using ih starts
  | line inside more ih => exact first '-' _ rfl
  | block opens inside more ih => exact first '/' _ rfl

theorem accepted_iff (sql : List Char) : Accepted sql ↔ KeywordFollows sql ∧ Unbroken sql := by
  have counts : ∀ follows : KeywordFollows sql, (nonEmptyStatements sql).length ≤ 1 ↔
      Unbroken sql := by
    intro follows
    rw [nonEmptyStatements_eq, unbroken_iff]
    apply filled_length_le_one_iff _ follows.visible
    intro c semicolon
    simp [isVisible, beq_iff_eq.mp semicolon]
  unfold Accepted validateReadOnlySQL
  by_cases follows : KeywordFollows sql
  · have visible : (trimSpace sql).isEmpty ≠ true := by
      intro blank
      obtain ⟨c, inside, seen⟩ := List.any_eq_true.mp follows.visible
      have space := (trimSpace_eq_nil_iff sql).mp (List.isEmpty_iff.mp blank) c
        ((List.takeWhile_sublist _).subset inside)
      simp [isVisible, space] at seen
    simp only [if_neg visible, (keywordFollows_iff sql).mpr follows, follows, Bool.not_true,
      Bool.false_eq_true, if_false,
      true_and, ← counts follows]
    split
    · rename_i several
      simp only [Bool.false_eq_true, false_iff, not_le]
      exact several
    · rename_i few
      simp only [true_iff]
      omega
  · have other : startsLikeQuery (trimLeadingSQLNoise sql) = false := by
      rw [Bool.eq_false_iff]
      exact fun starts => follows ((keywordFollows_iff sql).mp starts)
    simp only [other, follows, Bool.not_false, if_true, false_and, iff_false]
    split <;> simp

end Segments

end OpenScale.Query
