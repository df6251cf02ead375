import CommitCheck.Text.Basic

/-!
# Blank characters and lines

Which characters count as white space, and how texts are trimmed of them.  The
class holds the separators of Unicode that leave paper blank, the control
characters that move the carriage, and the four information separators U+001C
to U+001F.

Trimming is removal at the ends only: `dropTrail_append` says that a text is its
trimmed form followed by blanks, and `dropTrail_getLast?` that the trimmed form
does not end in one.

A text is cut into lines at each line feed.  Two conventions for foreign line
ends are used: `unifyPairs` turns a carriage return with a line feed into one
line feed, and `unifyReturns` does the same for a carriage return alone.
-/

namespace CommitCheck

/-- Whether a character is white space. -/
def isBlank (c : Char) : Bool :=
  let n := c.toNat
  (9 ≤ n && n ≤ 13) || (0x1C ≤ n && n ≤ 0x20) || n == 0x85 || n == 0xA0 || n == 0x1680 ||
    (0x2000 ≤ n && n ≤ 0x200A) || n == 0x2028 || n == 0x2029 || n == 0x202F || n == 0x205F ||
    n == 0x3000

/-- White space other than the information separators. -/
def isSpacing (c : Char) : Bool := isBlank c && !(0x1C ≤ c.toNat && c.toNat ≤ 0x1F)

/-! ## Trimming -/

/-- The text without the leading characters of a class. -/
def dropLead (p : Char → Bool) (t : Text) : Text := t.dropWhile p

/-- The text without the trailing characters of a class. -/
def dropTrail (p : Char → Bool) : Text → Text
  | [] => []
  | c :: cs =>
      match dropTrail p cs with
      | [] => if p c then [] else [c]
      | d :: ds => c :: d :: ds
termination_by structural t => t

/-- The text without the characters of a class at either end. -/
def dropEnds (p : Char → Bool) (t : Text) : Text := dropTrail p (dropLead p t)

/-- The text without white space at its end. -/
def trimEnd (t : Text) : Text := dropTrail isBlank t

/-- The text without white space at either end. -/
def trim (t : Text) : Text := dropEnds isBlank t

/-- Whether a text has nothing but white space. -/
def isBlankText (t : Text) : Bool := t.all isBlank

/-! ## What trimming keeps -/

/-- A text is its trimmed form followed by characters of the class. -/
theorem dropTrail_append (p : Char → Bool) (t : Text) :
    ∃ r, t = dropTrail p t ++ r ∧ r.all p = true := by
  induction t with
  | nil => exact ⟨[], rfl, rfl⟩
  | cons c cs ih =>
    obtain ⟨r, hr, hp⟩ := ih
    unfold dropTrail
    split
    · rename_i h
      rw [h] at hr
      by_cases hc : p c = true
      · exact ⟨c :: r, by simpa [hc] using hr, by simp [hc, hp]⟩
      · exact ⟨r, by simpa [hc] using hr, hp⟩
    · rename_i d ds h
      rw [h] at hr
      exact ⟨r, by simpa using hr, hp⟩

/-- The last character of the trimmed form is not of the class. -/
theorem dropTrail_getLast? {p : Char → Bool} {t : Text} {c : Char}
    (h : (dropTrail p t).getLast? = some c) : p c = false := by
  induction t with
  | nil => simp [dropTrail] at h
  | cons d ds ih =>
    unfold dropTrail at h
    split at h
    · split at h
      · simp at h
      · rename_i hd
        simp at h
        subst h
        simpa using hd
    · rename_i e es he
      rw [he] at ih
      exact ih (by simpa using h)

/-- A text is blank exactly if nothing is left of it. -/
theorem dropTrail_eq_nil_iff {p : Char → Bool} {t : Text} :
    dropTrail p t = [] ↔ t.all p = true := by
  induction t with
  | nil => simp [dropTrail]
  | cons c cs ih =>
    unfold dropTrail
    split
    · rename_i h
      have hcs := ih.1 h
      by_cases hc : p c = true <;> simp_all
    · rename_i d ds h
      rw [h] at ih
      have : ¬cs.all p = true := fun ha => by simpa using ih.2 ha
      simp_all

example : trim "\t a b \n" = "a b" := by decide
example : isBlank (Char.ofNat 0x200B) = false := by decide

/-! ## Lines -/

/-- Each carriage return that a line feed follows is dropped. -/
def unifyPairs : Text → Text
  | [] => []
  | '\r' :: '\n' :: cs => '\n' :: unifyPairs cs
  | c :: cs => c :: unifyPairs cs
termination_by structural t => t

/-- Every line end, be it a carriage return, a line feed or the two together,
becomes one line feed. -/
def unifyReturns : Text → Text
  | [] => []
  | '\r' :: '\n' :: cs => '\n' :: unifyReturns cs
  | '\r' :: cs => '\n' :: unifyReturns cs
  | c :: cs => c :: unifyReturns cs
termination_by structural t => t

/-- The lines of a text, at least one. -/
def linesOf (t : Text) : List Text := splitAt '\n' t

/-- Lines put one below the other. -/
def ofLines (lines : List Text) : Text := joinWith ['\n'] lines

/-- The lines of a text joined again are the text. -/
theorem ofLines_linesOf (t : Text) : ofLines (linesOf t) = t := intercalate_splitAt '\n' t

/-- A line has no line feed. -/
theorem not_mem_of_mem_linesOf {t l : Text} (h : l ∈ linesOf t) : '\n' ∉ l :=
  not_mem_of_mem_splitAt h

example : unifyPairs "a\r\nb\rc" = "a\nb\rc" := by decide
example : unifyReturns "a\r\nb\rc" = "a\nb\nc" := by decide

end CommitCheck
