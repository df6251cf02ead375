/-!
# Texts

A text is a list of characters.  All text of the library is kept in this form,
so that a statement about a text is a statement about a list, and a quoted
literal stands for the list of its characters.

This module has the few operations on lists of characters that the rest of the
library shares: splitting at a separator, looking for a part, and folding the
case of Latin letters.  `not_mem_of_mem_splitAt` says that no piece holds the
separator, `length_splitAt` how many pieces there are, and `intercalate_splitAt`
that nothing but the separators is lost.
`occursIn_iff` says that `occursIn` finds exactly the parts of a text.

A property of Unicode characters is kept as the list of the ranges of code
points that have it (`CodeRanges`).
-/

namespace CommitCheck

/-- A text is the list of its characters. -/
abbrev Text := List Char

/-- A quoted literal is the text of its characters. -/
instance : Coe String Text := ⟨String.toList⟩

/-! ## Splitting and joining -/

/-- The pieces between the occurrences of a separator.  There is always at
least one piece. -/
def splitAt (sep : Char) : Text → List Text
  | [] => [[]]
  | c :: cs =>
      if c = sep then [] :: splitAt sep cs
      else match splitAt sep cs with
        | [] => [[c]]
        | p :: ps => (c :: p) :: ps
termination_by structural t => t

/-- Pieces put one after another with a separator between each two. -/
def joinWith (sep : Text) (pieces : List Text) : Text := sep.intercalate pieces

/-- The text before and after the first occurrence of a separator, if any. -/
def cutAt? (sep : Char) : Text → Option (Text × Text)
  | [] => none
  | c :: cs => if c = sep then some ([], cs) else (cutAt? sep cs).map fun (a, b) => (c :: a, b)
termination_by structural t => t

theorem splitAt_ne_nil (sep : Char) (t : Text) : splitAt sep t ≠ [] := by
  cases t with
  | nil => simp [splitAt]
  | cons c cs =>
    unfold splitAt
    split
    · simp
    · split <;> simp

/-- There is one piece more than there are separators. -/
theorem length_splitAt (sep : Char) (t : Text) : (splitAt sep t).length = t.count sep + 1 := by
  induction t with
  | nil => rfl
  | cons c cs ih =>
    unfold splitAt
    rw [List.count_cons]
    split
    · rename_i hc
      rw [List.length_cons, ih, if_pos (by simpa using hc)]
    · rename_i hc
      rw [if_neg (by simpa using hc), Nat.add_zero, ← ih]
      split
      · rename_i hnil
        exact absurd hnil (splitAt_ne_nil sep cs)
      · rename_i hcons
        rw [hcons]
        rfl

/-- No piece holds the separator. -/
theorem not_mem_of_mem_splitAt {sep : Char} {t p : Text} (h : p ∈ splitAt sep t) : sep ∉ p := by
  induction t generalizing p with
  | nil => simp_all [splitAt]
  | cons c cs ih =>
    unfold splitAt at h
    split at h
    · rcases List.mem_cons.1 h with rfl | h
      · simp
      · exact ih h
    · rename_i hc
      split at h
      · rename_i hs
        exact absurd hs (splitAt_ne_nil sep cs)
      · rename_i q qs hs
        rcases List.mem_cons.1 h with rfl | h
        · have := ih (p := q) (by simp [hs])
          simp [this, Ne.symm hc]
        · exact ih (by simp [hs, h])

/-- The pieces joined by the separator are the text. -/
theorem intercalate_splitAt (sep : Char) (t : Text) : joinWith [sep] (splitAt sep t) = t := by
  induction t with
  | nil => rfl
  | cons c cs ih =>
    unfold splitAt
    split
    · rename_i hc
      match hs : splitAt sep cs with
      | [] => exact absurd hs (splitAt_ne_nil sep cs)
      | q :: qs =>
        rw [hs] at ih
        simp [joinWith, List.intercalate, List.intersperse] at ih ⊢
        simp [ih, hc]
    · match hs : splitAt sep cs with
      | [] => exact absurd hs (splitAt_ne_nil sep cs)
      | [q] =>
        rw [hs] at ih
        simp_all [joinWith, List.intercalate, List.intersperse]
      | q :: r :: qs =>
        rw [hs] at ih
        simp_all [joinWith, List.intercalate, List.intersperse]

/-! ## Parts of a text -/

/-- What follows a given start of a text, if it starts that way. -/
def after? : Text → Text → Option Text
  | [], t => some t
  | _ :: _, [] => none
  | p :: ps, c :: cs => if p = c then after? ps cs else none
termination_by structural start => start

/-- A text starts in the given way exactly if it is that start and the rest. -/
theorem after?_eq_some_iff {start t rest : Text} :
    after? start t = some rest ↔ t = start ++ rest := by
  induction start generalizing t with
  | nil => simp [after?, eq_comm]
  | cons p ps ih =>
    cases t with
    | nil => simp [after?]
    | cons c cs =>
      by_cases h : p = c
      · simp [after?, h, ih]
      · simp [after?, h, Ne.symm h]

/-- Whether a text has the given part, as a run of neighbouring characters. -/
def occursIn (part : Text) : Text → Bool
  | [] => part.isEmpty
  | c :: cs => part.isPrefixOf (c :: cs) || occursIn part cs
termination_by structural t => t

/-- A part is found exactly if the text is the part with something before and
after it. -/
theorem occursIn_iff {part t : Text} : occursIn part t = true ↔ part <:+: t := by
  induction t with
  | nil => simp [occursIn]
  | cons c cs ih =>
    simp only [occursIn, Bool.or_eq_true, ih, List.isPrefixOf_iff_prefix]
    exact List.infix_cons_iff.symm

/-! ## Case of Latin letters -/

/-- The text with the capital letters A to Z made small. -/
def lowercase (t : Text) : Text := t.map Char.toLower

/-! ## Ranges of code points -/

/-- Ranges of code points, both ends included, in rising order. -/
abbrev CodeRanges := List (Nat × Nat)

/-- Whether a code point lies in one of the ranges.  As the ranges rise, the
search ends at the first range that starts beyond the code point. -/
def CodeRanges.has : CodeRanges → Nat → Bool
  | [], _ => false
  | (lo, hi) :: rs, n => if n < lo then false else n ≤ hi || CodeRanges.has rs n
termination_by structural rs => rs

/-! ## Digits -/

/-- The value of a hexadecimal digit of either case. -/
def hexValue? (c : Char) : Option Nat :=
  if c.isDigit then some (c.toNat - '0'.toNat)
  else if 'a' ≤ c ∧ c ≤ 'f' then some (c.toNat - 'a'.toNat + 10)
  else if 'A' ≤ c ∧ c ≤ 'F' then some (c.toNat - 'A'.toNat + 10)
  else none

/-- The natural number that a run of decimal digits writes. -/
def ofDigits (t : Text) : Nat := Nat.ofDigitChars 10 t 0

/-- The natural number that digits of any base up to sixteen write. -/
def ofBaseDigits (base : Nat) (t : Text) : Nat :=
  t.foldl (fun n c => base * n + (hexValue? c).getD 0) 0

/-- The decimal digits of a natural number. -/
def natText (n : Nat) : Text := Nat.toDigits 10 n

/-- The decimal digits of an integer, with a hyphen before those of a negative one. -/
def intText : Int → Text
  | .ofNat n => natText n
  | .negSucc n => '-' :: natText (n + 1)

/-- A text filled up on the left to a width. -/
def padLeft (width : Nat) (fill : Char) (t : Text) : Text :=
  List.replicate (width - t.length) fill ++ t

/-- A text filled up with spaces on the right to a width in characters. -/
def padRight (width : Nat) (t : Text) : Text := t ++ List.replicate (width - t.length) ' '

/-- The hexadecimal digits of a number in small letters, filled up with zeros. -/
def hexText (width n : Nat) : Text := padLeft width '0' (Nat.toDigits 16 n)

/-- The same with capital letters. -/
def upperHexText (width n : Nat) : Text := (hexText width n).map Char.toUpper

example : splitAt ',' "a,,b" = (["a", "", "b"] : List Text) := by decide
example : occursIn "#1" "Issue #12" = true := by decide
example : intText (-120) = "-120" := by decide

end CommitCheck
