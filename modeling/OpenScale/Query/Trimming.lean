import OpenScale.Query.Gate

/-! The loop of `trimLeadingSQLNoise` ends, and leaves no noise in front. -/

namespace OpenScale.Query

variable {text sql rest : List Char}

/-- The loop, if it returns within so many passes. -/
def trimLoop : Nat → List Char → Option (List Char)
  | 0, _ => none
  | passes + 1, s => if trimOnce s = s then some (trimOnce s) else trimLoop passes (trimOnce s)

/-- What the passes look for. -/
def openers : List (List Char) := [[' '], ['\t'], ['\r'], ['\n'], ['-', '-'], ['/', '*']]

theorem trimLoop_eq {passes : Nat} (enough : text.length < passes) :
    trimLoop passes text = some (trimRounds passes text) := by
  induction passes generalizing text with
  | zero => omega
  | succ passes ih =>
    rw [trimLoop, trimRounds]
    by_cases fixed : trimOnce text = text
    · rw [if_pos fixed, if_pos fixed, fixed]
    · have shorter := trimOnce_shorter fixed
      rw [if_neg fixed, if_neg fixed]
      exact ih (by omega)

theorem trimOnce_trim (text : List Char) :
    trimOnce (trimLeadingSQLNoise text) = trimLeadingSQLNoise text := by
  induction text using trim_induction with
  | fixed text same => rw [trim_of_fixed same, same]
  | pass text _ ih =>
    rw [trim_trimOnce]
    exact ih

theorem trim_suffix (text : List Char) : trimLeadingSQLNoise text <:+ text := by
  induction text using trim_induction with
  | fixed text same => rw [trim_of_fixed same]
  | pass text _ ih =>
    rw [trim_trimOnce]
    exact ih.trans (trimOnce_suffix text)

theorem trimOnce_opener {opener : List Char} (listed : opener ∈ openers)
    (starts : opener <+: text) :
    ∃ c rest, text = c :: rest ∧ trimOnce text <:+ rest := by
  obtain ⟨rest, rfl⟩ := starts
  simp only [openers, List.mem_cons, List.not_mem_nil, or_false] at listed
  rcases listed with rfl | rfl | rfl | rfl | rfl | rfl
  · exact ⟨' ', rest, rfl, trimOnce_suffix rest⟩
  · exact ⟨'\t', rest, rfl, trimOnce_suffix rest⟩
  · exact ⟨'\r', rest, rfl, trimOnce_suffix rest⟩
  · exact ⟨'\n', rest, rfl, trimOnce_suffix rest⟩
  · exact ⟨'-', '-' :: rest, rfl, afterNewline_suffix ('-' :: rest)⟩
  · exact ⟨'/', '*' :: rest, rfl, afterCommentEnd_suffix ('*' :: rest)⟩

theorem trim_clean {opener : List Char} (listed : opener ∈ openers) :
    ¬ opener <+: trimLeadingSQLNoise text := by
  intro starts
  obtain ⟨c, rest, shape, shorter⟩ := trimOnce_opener listed starts
  have size := shorter.length_le
  rw [trimOnce_trim, shape, List.length_cons] at size
  omega

/-- The loop returns within one pass more than the text has characters; what it returns ends the
text, has no noise in front, and stays as it is. -/
theorem trimLeadingSQLNoise_settles (sql : List Char) :
    (∀ passes, sql.length < passes → trimLoop passes sql = some (trimLeadingSQLNoise sql)) ∧
      trimLeadingSQLNoise sql <:+ sql ∧ (∀ opener ∈ openers, ¬ opener <+: trimLeadingSQLNoise sql) ∧
        trimLeadingSQLNoise (trimLeadingSQLNoise sql) = trimLeadingSQLNoise sql := by
  refine ⟨fun passes enough => ?_, trim_suffix sql, fun _ => trim_clean,
    trim_of_fixed (trimOnce_trim sql)⟩
  rw [trimLoop_eq enough, trimRounds_eq passes (sql.length + 1) sql enough (by omega),
    trimLeadingSQLNoise]

end OpenScale.Query
