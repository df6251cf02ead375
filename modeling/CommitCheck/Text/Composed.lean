import CommitCheck.Text.Marks

/-!
# Composed form

A letter and the marks on it can be written in several ways that look the same.
One of them is the composed form: every letter is written together with as many of
its marks as there are characters for, and the other marks stand in the order of
their classes.  It is found in three steps.  `expand` takes every character apart,
`orderMarks` brings the marks into order, and `compose` puts the letters together
again.  Korean syllables are taken apart and put together by arithmetic.

`isComposed` says whether a text is in this form already.  Characters that are but
another way to write others never are.

All functions work on code points.
-/

namespace CommitCheck

/-! ## Korean syllables -/

/-- The first of the Korean syllables. -/
def syllableBase : Nat := 0xAC00

/-- The number of Korean syllables. -/
def syllableCount : Nat := 11172

/-- The parts of a Korean syllable. -/
def syllableParts? (n : Nat) : Option (List Nat) :=
  if n < syllableBase || syllableBase + syllableCount ≤ n then none
  else
    let i := n - syllableBase
    let open' := [0x1100 + i / 588, 0x1161 + i % 588 / 28]
    some (if i % 28 = 0 then open' else open' ++ [0x11A7 + i % 28])

/-- The Korean syllable of two parts: of a first consonant and a vowel, or of an open
syllable and a last consonant. -/
def syllable? (a b : Nat) : Option Nat :=
  if 0x1100 ≤ a && a < 0x1113 && 0x1161 ≤ b && b < 0x1176 then
    some (syllableBase + (a - 0x1100) * 588 + (b - 0x1161) * 28)
  else if syllableBase ≤ a && a < syllableBase + syllableCount && (a - syllableBase) % 28 = 0 &&
      0x11A7 < b && b < 0x11C3 then
    some (a + (b - 0x11A7))
  else none

/-! ## Letters and their marks -/

/-- The letter and the mark that a code point is made of, if it is. -/
def letterAndMark? (n : Nat) : Option (Nat × Nat) :=
  (markedLetters.find? (·.1 == n)).map (·.2)

/-- The most marks that one character can hold. -/
def markLimit : Nat := 4

/-- A code point taken apart, so many times at most. -/
def expandUpTo : Nat → Nat → List Nat
  | 0, n => [n]
  | bound + 1, n => match letterAndMark? n with
      | none => [n]
      | some (letter, mark) => expandUpTo bound letter ++ [mark]

/-- A code point taken apart. -/
def expandCode (n : Nat) : List Nat :=
  if n < 0xC0 then [n] else (syllableParts? n).getD (expandUpTo markLimit n)

/-- A text with every character taken apart. -/
def expand (ns : List Nat) : List Nat := ns.flatMap expandCode

/-- The character of two others. -/
def composite? (a b : Nat) : Option Nat :=
  match syllable? a b with
  | some n => some n
  | none => (markedLetters.find? (·.2 == (a, b))).map (·.1)

/-! ## The order of marks -/

/-- A code point put behind others, told from the last one on.  A mark moves before
the marks of higher classes. -/
def putMark (n : Nat) : List Nat → List Nat
  | [] => [n]
  | m :: ms =>
      if markClass n ≠ 0 ∧ markClass n < markClass m then m :: putMark n ms else n :: m :: ms
termination_by structural ms => ms

/-- A text with its marks in the order of their classes. -/
def orderMarks (ns : List Nat) : List Nat := (ns.foldl (fun done n => putMark n done) []).reverse

/-! ## Putting together -/

/-- How far a text has been put together. -/
structure Composing where
  /-- What is done, the last character first. -/
  done : List Nat
  /-- The letter that marks can still join, if there is one. -/
  letter : Option Nat
  /-- The marks after it that did not join, the last one first. -/
  marks : List Nat

namespace Composing

/-- What has been put together, the last character first. -/
def all (s : Composing) : List Nat := s.marks ++ s.letter.toList ++ s.done

/-- Whether a mark before it keeps a code point from the letter. -/
def isBlocked (s : Composing) (n : Nat) : Bool :=
  match s.marks with
  | [] => false
  | m :: _ => decide (markClass n ≤ markClass m)

/-- The letter together with a code point, if they are one character. -/
def joined? (s : Composing) (n : Nat) : Option Nat :=
  match s.letter with
  | none => none
  | some letter => if s.isBlocked n then none else composite? letter n

/-- One code point more. -/
def add (s : Composing) (n : Nat) : Composing :=
  match s.joined? n with
  | some c => { s with letter := some c }
  | none => if markClass n = 0 then ⟨s.all, some n, []⟩ else { s with marks := n :: s.marks }

end Composing

/-- A text put together. -/
def compose (ns : List Nat) : List Nat := (ns.foldl Composing.add ⟨[], none, []⟩).all.reverse

/-- The composed form of a text without characters that are another way to write
others. -/
def composedForm (ns : List Nat) : List Nat := compose (orderMarks (expand ns))

/-- Whether a text is in composed form. -/
def isComposed (ns : List Nat) : Bool :=
  ns.all (!doubleRanges.has ·) && composedForm ns == ns

example : isComposed [0x71, 0x303] = true := by decide +kernel
example : isComposed [0x65, 0x301] = false := by decide +kernel
example : composedForm [0xE2, 0x323] = [0x1EAD] := by decide +kernel
example : composedForm [0x1112, 0x1161, 0x11AB] = [0xD55C] := by decide +kernel

end CommitCheck
