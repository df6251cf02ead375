import CommitCheck.Text.Basic
import CommitCheck.Text.Blank

/-!
# Whole numbers in writing

A whole number is written in decimal digits of any script, with white space around
it, a sign in front, and single low lines between two digits where they help the
eye.  A number of very many digits is not read and not written.

Every script with decimal digits has ten of them, with code points one after
another from zero to nine.  So the value of a digit is its distance from the start
of its range, counted in tens.
-/

namespace CommitCheck

/-! ## Digits of any script -/

/-- The code points of decimal digits.  Each range holds whole runs from zero to
nine. -/
def digitRanges : CodeRanges := [
  (0x30, 0x39), (0x660, 0x669), (0x6F0, 0x6F9), (0x7C0, 0x7C9), (0x966, 0x96F), (0x9E6, 0x9EF),
   (0xA66, 0xA6F), (0xAE6, 0xAEF), (0xB66, 0xB6F), (0xBE6, 0xBEF), (0xC66, 0xC6F), (0xCE6, 0xCEF),
   (0xD66, 0xD6F), (0xDE6, 0xDEF), (0xE50, 0xE59), (0xED0, 0xED9), (0xF20, 0xF29),
   (0x1040, 0x1049), (0x1090, 0x1099), (0x17E0, 0x17E9), (0x1810, 0x1819), (0x1946, 0x194F),
   (0x19D0, 0x19D9), (0x1A80, 0x1A89), (0x1A90, 0x1A99), (0x1B50, 0x1B59), (0x1BB0, 0x1BB9),
   (0x1C40, 0x1C49), (0x1C50, 0x1C59), (0xA620, 0xA629), (0xA8D0, 0xA8D9), (0xA900, 0xA909),
   (0xA9D0, 0xA9D9), (0xA9F0, 0xA9F9), (0xAA50, 0xAA59), (0xABF0, 0xABF9), (0xFF10, 0xFF19),
   (0x104A0, 0x104A9), (0x10D30, 0x10D39), (0x11066, 0x1106F), (0x110F0, 0x110F9),
   (0x11136, 0x1113F), (0x111D0, 0x111D9), (0x112F0, 0x112F9), (0x11450, 0x11459),
   (0x114D0, 0x114D9), (0x11650, 0x11659), (0x116C0, 0x116C9), (0x11730, 0x11739),
   (0x118E0, 0x118E9), (0x11950, 0x11959), (0x11C50, 0x11C59), (0x11D50, 0x11D59),
   (0x11DA0, 0x11DA9), (0x16A60, 0x16A69), (0x16AC0, 0x16AC9), (0x16B50, 0x16B59),
   (0x1D7CE, 0x1D7FF), (0x1E140, 0x1E149), (0x1E2F0, 0x1E2F9), (0x1E950, 0x1E959),
   (0x1FBF0, 0x1FBF9)]

/-- The distance of a code point from the start of its range, if it lies in one. -/
def CodeRanges.offset? : CodeRanges → Nat → Option Nat
  | [], _ => none
  | (lo, hi) :: rs, n =>
      if n < lo then none else if n ≤ hi then some (n - lo) else CodeRanges.offset? rs n
termination_by structural rs => rs

/-- The value of a decimal digit of any script. -/
def digitValue? (c : Char) : Option Nat := (digitRanges.offset? c.toNat).map (· % 10)

example : digitValue? '7' = some 7 := by decide
example : digitValue? '٣' = some 3 := by decide
example : digitValue? '²' = none := by decide

/-! ## Numbers -/

/-- The most decimal digits of a number that is read or written. -/
def digitLimit : Nat := 4300

/-- Whether a number has more decimal digits than are written. -/
def isUnwritable (n : Int) : Bool := (10 : Nat).pow digitLimit ≤ n.natAbs

/-- The values of a run of digits, which is not empty. -/
def runValues? (t : Text) : Option (List Nat) := if t.isEmpty then none else t.mapM digitValue?

/-- The values of digits, with single low lines between two of them. -/
def digitValues? (t : Text) : Option (List Nat) :=
  ((splitAt '_' t).mapM runValues?).map List.flatten

/-- The number of a sign and digits. -/
def signedWhole? (t : Text) : Option Int :=
  let (isNegative, ds) := match t with
    | '-' :: cs => (true, cs)
    | '+' :: cs => (false, cs)
    | cs => (false, cs)
  match digitValues? ds with
  | none => none
  | some vs =>
      if digitLimit < vs.length then none
      else
        let n : Nat := vs.foldl (fun n v => 10 * n + v) 0
        some (if isNegative then -(n : Int) else n)

/-- The number that a text writes. -/
def readWhole? (t : Text) : Option Int := signedWhole? (trim t)

example : readWhole? " -1_0 " = some (-10) := by decide +kernel
example : readWhole? "٣٤" = some 34 := by decide +kernel
example : readWhole? "1__0" = none := by decide +kernel

end CommitCheck
