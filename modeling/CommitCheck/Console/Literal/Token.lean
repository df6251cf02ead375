import CommitCheck.Number.Whole
import CommitCheck.Text.Blank
import CommitCheck.Text.CharacterName

/-!
# Tokens of values in writing

Values that a tag carries are written with these tokens.

* A whole number is decimal, or hexadecimal, octal or binary after `0x`, `0o` or
  `0b`.  Single low lines can stand between digits.  A decimal one does not start
  with a zero unless it is zero, and it has a most number of digits.
* A number with a point or an exponent, and an imaginary one with the letter `j` after
  its digits.
* A text in single or double quotes, or in three of them if it has line ends.  With `r` in
  front its backslashes stay, and with `b` it is a text of bytes, which are ASCII.
* A name, three dots, and the signs.

Blanks, and what follows a number sign on its line, separate tokens.  A line end after
a backslash counts as blank unless the text ends there.  The first line with something
on it is not indented, but blanks in front of the whole text do no harm.

`tokens?` gives the tokens of a text, or nothing if some of it is no token.
-/

namespace CommitCheck.Console.Literal

/-- A bracket. -/
inductive Bracket where
  /-- A parenthesis. -/
  | round
  /-- A brace. -/
  | curly
deriving DecidableEq

/-- A token. -/
inductive Token where
  /-- A whole number. -/
  | whole (n : Nat)
  /-- A number with a point or an exponent. -/
  | fraction
  /-- An imaginary number. -/
  | imaginary
  /-- A text in quotes, and whether it is one of bytes. -/
  | quoted (ofBytes : Bool)
  /-- A name. -/
  | name (t : Text)
  /-- Three dots. -/
  | dots
  /-- A plus or minus sign. -/
  | sign
  /-- A comma. -/
  | comma
  /-- A colon. -/
  | colon
  /-- An opening bracket. -/
  | opening (b : Bracket)
  /-- A closing bracket. -/
  | closing (b : Bracket)
  /-- A line end. -/
  | lineEnd
deriving DecidableEq

/-! ## Numbers -/

/-- Whether a text is digits of a kind with single low lines between two of them. -/
def areDigits (isDigit : Char → Bool) (t : Text) : Bool :=
  (splitAt '_' t).all fun run => !run.isEmpty && run.all isDigit

/-- The digits of a kind and low lines that a text starts with. -/
def digitsAt (isDigit : Char → Bool) (t : Text) : Text := t.takeWhile fun c => isDigit c || c == '_'

/-- Whether a character is a digit of a base up to sixteen. -/
def isDigitOf (base : Nat) (c : Char) : Bool := match hexValue? c with
  | none => false
  | some v => v < base

/-- The whole number in a base after its mark, with the number of its characters. -/
def basedAt? (base : Nat) (t : Text) : Option (Token × Nat) :=
  let run := digitsAt (isDigitOf base) t
  let digits := if run.head? == some '_' then run.drop 1 else run
  if areDigits (isDigitOf base) digits then
    some (.whole (ofBaseDigits base (digits.filter (· != '_'))), 2 + run.length)
  else none

/-- The number of characters of the exponent that a text starts with. -/
def exponentLength (t : Text) : Nat :=
  match t with
  | e :: rest =>
      let signs := match rest with
        | s :: _ => if s == '+' || s == '-' then 1 else 0
        | [] => 0
      let run := digitsAt Char.isDigit (rest.drop signs)
      if (e == 'e' || e == 'E') && areDigits Char.isDigit run then 1 + signs + run.length else 0
  | [] => 0

/-- The number of characters of the point, and the digits after it, that a text starts
with. -/
def pointLength (t : Text) : Option Nat :=
  match t with
  | '.' :: rest =>
      if (rest.head?.map Char.isDigit).getD false then
        let run := digitsAt Char.isDigit rest
        if areDigits Char.isDigit run then some (1 + run.length) else none
      else some 1
  | _ => some 0

/-- The decimal number that a text starts with, and the number of its characters. -/
def decimalAt? (t : Text) : Option (Token × Nat) := do
  let run := digitsAt Char.isDigit t
  guard (run.isEmpty || areDigits Char.isDigit run)
  let point ← pointLength (t.drop run.length)
  let exponent := exponentLength (t.drop (run.length + point))
  let length := run.length + point + exponent
  match t.drop length with
  | j :: _ => if j == 'j' || j == 'J' then return (.imaginary, length + 1)
  | [] => pure ()
  if point + exponent ≠ 0 then return (.fraction, length)
  let digits := run.filter (· != '_')
  if digits.all (· == '0') then return (.whole 0, length)
  guard (digits.head? ≠ some '0' ∧ digits.length ≤ digitLimit)
  return (.whole (ofDigits digits), length)

/-- The number that a text starts with, and the number of its characters. -/
def numberAt? (t : Text) : Option (Token × Nat) :=
  match t with
  | '0' :: mark :: rest =>
      match mark.toLower with
      | 'x' => basedAt? 16 rest
      | 'o' => basedAt? 8 rest
      | 'b' => basedAt? 2 rest
      | _ => decimalAt? t
  | _ => decimalAt? t

/-! ## Texts in quotes -/

/-- What stands before the closing quotes, which are one or three.  A backslash takes the
character after it along. -/
def quotedBody? (quote : Char) (isLong : Bool) : Text → Option Text
  | [] => none
  | '\\' :: c :: cs => (quotedBody? quote isLong cs).map fun body => '\\' :: c :: body
  | c :: cs =>
      if c = quote ∧ (!isLong || [quote, quote].isPrefixOf cs) then some []
      else if c = '\\' ∨ (!isLong && c = '\n') then none
      else (quotedBody? quote isLong cs).map (c :: ·)
termination_by structural t => t

/-- Whether a text starts with so many hexadecimal digits, which write the number of
a character. -/
def startsWithCode (count : Nat) (t : Text) : Bool :=
  let digits := t.take count
  digits.length == count && digits.all (fun c => (hexValue? c).isSome) &&
    ofBaseDigits 16 digits ≤ 0x10FFFF

/-- Whether a text starts with the name of a character in braces. -/
def startsWithName : Text → Bool
  | [] => false
  | brace :: rest =>
      let name := rest.takeWhile (· != '\x7d')
      brace == '\x7b' && name.length < rest.length && isCharacterName name

/-- Whether every backslash is followed by what it asks for: `x`, and in texts of
characters `u`, `U` and `N`, name a character. -/
def escapesFit (ofBytes : Bool) : Text → Bool
  | [] => true
  | '\\' :: c :: cs =>
      (match c with
        | 'x' => startsWithCode 2 cs
        | 'u' => ofBytes || startsWithCode 4 cs
        | 'U' => ofBytes || startsWithCode 8 cs
        | 'N' => ofBytes || startsWithName cs
        | _ => true) && escapesFit ofBytes cs
  | _ :: cs => escapesFit ofBytes cs
termination_by structural t => t

/-- The letters that can come before a text in quotes. -/
def quoteMarks : List Text := ["", "r", "u", "b", "br", "rb"]

/-- The text in quotes that a text starts with, and the number of its characters. -/
def quotedAt? (t : Text) : Option (Token × Nat) := do
  let mark := t.takeWhile fun c => c != '"' && c != '\''
  guard (quoteMarks.contains (lowercase mark))
  let rest := t.drop mark.length
  let quote ← rest.head?
  let isLong := (List.replicate 3 quote).isPrefixOf rest
  let quotes := if isLong then 3 else 1
  let body ← quotedBody? quote isLong (rest.drop quotes)
  let ofBytes := (lowercase mark).contains 'b'
  guard ((lowercase mark).contains 'r' ∨ escapesFit ofBytes body)
  guard (!ofBytes || body.all (·.toNat < 0x80))
  return (.quoted ofBytes, mark.length + 2 * quotes + body.length)

/-! ## Indentation -/

/-- What is known of a line before something stands on it. -/
structure Margin where
  /-- Whether there are blanks in front. -/
  hasBlanks : Bool
  /-- Whether there were some where a backslash took a line end back. -/
  hadBlanks : Bool
  /-- Whether a number sign has made the rest of the line blank. -/
  isRemark : Bool

/-- The start of a line. -/
def Margin.start : Margin := ⟨false, false, false⟩

/-- Whether there are blanks in front of the first thing on a line of its own, where
some of the line is known.  A form feed takes them back. -/
def isIndentedAfter (m : Margin) : Text → Bool
  | [] => false
  | '\n' :: cs => isIndentedAfter .start cs
  | '\\' :: '\n' :: cs =>
      if m.isRemark then isIndentedAfter .start cs
      else isIndentedAfter { m with hadBlanks := m.hadBlanks || m.hasBlanks } cs
  | c :: cs =>
      if m.isRemark then isIndentedAfter m cs
      else if c = '#' then isIndentedAfter { m with isRemark := true } cs
      else if c = ' ' ∨ c = '\t' then isIndentedAfter { m with hasBlanks := true } cs
      else if c = '\x0c' then isIndentedAfter { m with hasBlanks := false } cs
      else m.hasBlanks || m.hadBlanks
termination_by structural t => t

/-! ## All tokens -/

/-- Whether a name can have a character. -/
def isNameChar (c : Char) : Bool := c.isAlphanum || c == '_' || 0x80 ≤ c.toNat

/-- The token of a sign, if a character is one. -/
def signOf? : Char → Option Token
  | '+' => some .sign
  | '-' => some .sign
  | ',' => some .comma
  | ':' => some .colon
  | '(' => some (.opening .round)
  | ')' => some (.closing .round)
  | '\x7b' => some (.opening .curly)
  | '\x7d' => some (.closing .curly)
  | '\n' => some .lineEnd
  | _ => none

/-- The number of characters that a text starts with and that separate tokens. -/
def spaceLength (t : Text) : Nat :=
  match t with
  | '\\' :: '\n' :: _ :: _ => 2
  | '#' :: _ => (t.takeWhile (· != '\n')).length
  | c :: _ => if c == ' ' || c == '\t' || c == '\x0c' then 1 else 0
  | [] => 0

/-- Whether a text starts with a number. -/
def startsNumber : Text → Bool
  | '.' :: c :: _ => c.isDigit
  | c :: _ => c.isDigit
  | [] => false

/-- The token that a text starts with, and the number of its characters. -/
def tokenAt? (t : Text) : Option (Token × Nat) :=
  if startsNumber t then numberAt? t
  else if ("..." : Text).isPrefixOf t then some (.dots, 3)
  else match t.head? >>= signOf? with
    | some s => some (s, 1)
    | none =>
        let name := t.takeWhile isNameChar
        let isQuoted := match (t.drop name.length).head? with
          | some c => c == '"' || c == '\''
          | none => false
        if isQuoted && quoteMarks.contains (lowercase name) then quotedAt? t
        else if name.isEmpty then none
        else some (.name name, name.length)

/-- The tokens of a text, of which the first characters are skipped. -/
def tokensAfter? : Nat → Text → Option (List Token)
  | _, [] => some []
  | skip + 1, _ :: cs => tokensAfter? skip cs
  | 0, c :: cs =>
      match spaceLength (c :: cs) with
      | length + 1 => tokensAfter? length cs
      | 0 => match tokenAt? (c :: cs) with
          | none => none
          | some (token, length) => (tokensAfter? (length - 1) cs).map (token :: ·)
termination_by structural _ t => t

/-- The tokens of a text. -/
def tokens? (t : Text) : Option (List Token) :=
  let t := unifyReturns (t.dropWhile fun c => c == ' ' || c == '\t')
  if t.contains '\x00' || isIndentedAfter .start t then none else tokensAfter? 0 t

example : tokens? "-1_0, 0x_f" = some [.sign, .whole 10, .comma, .whole 15] := by decide +kernel
example : tokens? "(1.5e3j) # c" =
    some [.opening .round, .imaginary, .closing .round] := by decide +kernel
example : tokens? "rb'\\x' \"\\x\"" = none := by decide +kernel
example : tokens? " 0\n 1" = some [.whole 0, .lineEnd, .whole 1] := by decide +kernel
example : tokens? "\n 1" = none := by decide +kernel
example : tokens? "rb'\\x' '''\n'''" = some [.quoted true, .quoted false] := by decide +kernel

end CommitCheck.Console.Literal
