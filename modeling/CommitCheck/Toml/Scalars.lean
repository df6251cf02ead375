import CommitCheck.Toml.Strings
import CommitCheck.Value.Basic

/-!
# Scalars of TOML

A truth value, a number, a date or a time is one unbroken word, but for the
blank that may stand between a date and a time.  So such a value is read by
cutting the word off at the next delimiter and telling from the whole word what
it is.
-/

namespace CommitCheck.Toml

/-- Whether a character ends a word. -/
def isDelimiter (c : Char) : Bool :=
  c == ' ' || c == '\t' || c == '\n' || c == ',' || c == ']' || c == '}' || c == '#'

/-! ## Numbers -/

/-- Digits of a class with low lines between them, at least one digit, and the
text after them. -/
def digitRun (isDigit : Char → Bool) : Text → Text × Text
  | [] => ([], [])
  | c :: cs =>
      if isDigit c then
        let (ds, rest) := digitRun isDigit cs
        (c :: ds, rest)
      else match c, cs with
        | '_', d :: _ => if isDigit d then digitRun isDigit cs else ([], c :: cs)
        | _, _ => ([], c :: cs)
termination_by structural t => t

/-- The digits of a class that make up a whole text, which starts with a digit. -/
def wholeRun? (isDigit : Char → Bool) (t : Text) : Option Text :=
  if (t.head?.map isDigit).getD false then
    match digitRun isDigit t with
    | (ds, []) => some ds
    | _ => none
  else none

/-- The fraction at the start of a text: a full stop and digits, if any. -/
def fraction (t : Text) : Text × Text :=
  match t with
  | '.' :: d :: cs => if d.isDigit then digitRun Char.isDigit (d :: cs) else ([], t)
  | _ => ([], t)

/-- The exponent that makes up a whole text, nothing if it is empty. -/
def exponent? (t : Text) : Option (Option Int) :=
  match t with
  | [] => some none
  | c :: cs =>
      if c == 'e' || c == 'E' then
        let (negative, ds) := Decimal.splitSign cs
        (wholeRun? Char.isDigit ds).map fun ds =>
          let n : Int := ofDigits ds
          some (if negative then -n else n)
      else none

/-- Whether a text starts with an exponent. -/
def startsExponent (t : Text) : Bool :=
  match t with
  | [] => false
  | c :: cs =>
      (c == 'e' || c == 'E') && ((Decimal.splitSign cs).2.head?.map Char.isDigit).getD false

/-- The number of a decimal word without its sign.  A whole number that has too many
digits is told before what follows it is looked at. -/
def decimal (negative : Bool) (t : Text) : Except Unread Value := do
  let (whole, rest) ← orMalformed (match t with
    | '0' :: cs => some (['0'], cs)
    | c :: cs => if c.isDigit then some (digitRun Char.isDigit (c :: cs)) else none
    | [] => none)
  let (part, rest) := fraction rest
  if part.isEmpty && !startsExponent rest && digitLimit < whole.length then .error .tooLong
  else
    let exponent ← orMalformed (exponent? rest)
    if part.isEmpty && exponent.isNone then
      let n : Int := ofDigits whole
      pure (.int (if negative then -n else n))
    else
      pure (.float (.ofDecimal negative (ofDigits (whole ++ part))
        (exponent.getD 0 - (part.length : Int))))

/-- Whether a character is a digit of a base. -/
def isBaseDigit (base : Nat) (c : Char) : Bool := match hexValue? c with
  | some v => v < base
  | none => false

/-- The whole number of a word with the mark of a base. -/
def based? (t : Text) : Option Value :=
  let read (base : Nat) (ds : Text) : Option Value :=
    (wholeRun? (isBaseDigit base) ds).map fun ds => .int (ofBaseDigits base ds)
  match t with
  | '0' :: 'x' :: ds => read 16 ds
  | '0' :: 'o' :: ds => read 8 ds
  | '0' :: 'b' :: ds => read 2 ds
  | _ => none

/-- The number that a word writes. -/
def number (t : Text) : Except Unread Value :=
  match based? t with
  | some v => .ok v
  | none =>
      let (negative, body) := Decimal.splitSign t
      if body = "inf" then .ok (.float (.infinite negative))
      else if body = "nan" then .ok (.float .nan)
      else decimal negative body

/-! ## Dates and times -/

/-- The number of a text of so many digits. -/
def digitsOf? (count : Nat) (t : Text) : Option Nat :=
  if t.length == count && t.all Char.isDigit then some (ofDigits t) else none

/-- The number of a text of two digits, if it is below a bound. -/
def twoDigitsBelow? (bound : Nat) (t : Text) : Option Nat :=
  (digitsOf? 2 t).bind fun n => if n < bound then some n else none

/-- The number of days of a month. -/
def monthLength (year month : Nat) : Nat :=
  if month = 2 then
    if year % 4 = 0 ∧ (year % 100 ≠ 0 ∨ year % 400 = 0) then 29 else 28
  else if month = 4 ∨ month = 6 ∨ month = 9 ∨ month = 11 then 30
  else 31

/-- The date of the calendar that a text writes. -/
def date? (t : Text) : Option Date :=
  match splitAt '-' t with
  | [y, m, d] => do
      let y ← digitsOf? 4 y
      let m ← digitsOf? 2 m
      let d ← digitsOf? 2 d
      if 1 ≤ y && 1 ≤ m && m ≤ 12 && 1 ≤ d && d ≤ monthLength y m then some ⟨y, m, d⟩ else none
  | _ => none

/-- The digits of a fraction that count. -/
def fractionDigits : Nat := 6

/-- The millionths of a second that the digits of a fraction write. -/
def micros (t : Text) : Nat :=
  let kept := t.take fractionDigits
  ofDigits (kept ++ List.replicate (fractionDigits - kept.length) '0')

/-- The seconds and their millionths that a text writes. -/
def seconds? (t : Text) : Option (Nat × Nat) :=
  match cutAt? '.' t with
  | none => (twoDigitsBelow? 60 t).map (·, 0)
  | some (s, part) =>
      if part.isEmpty || !part.all Char.isDigit then none
      else (twoDigitsBelow? 60 s).map (·, micros part)

/-- The time of day that a text writes.  The seconds may be left out. -/
def time? (t : Text) : Option DayTime :=
  match splitAt ':' t with
  | [h, m] => do
      let h ← twoDigitsBelow? 24 h
      let m ← twoDigitsBelow? 60 m
      some ⟨h, m, 0, 0⟩
  | [h, m, s] => do
      let h ← twoDigitsBelow? 24 h
      let m ← twoDigitsBelow? 60 m
      let (s, u) ← seconds? s
      some ⟨h, m, s, u⟩
  | _ => none

/-- The minutes of an offset that a text writes after its sign. -/
def offset? (negative : Bool) (t : Text) : Option Int :=
  match splitAt ':' t with
  | [h, m] => do
      let h ← twoDigitsBelow? 24 h
      let m ← twoDigitsBelow? 60 m
      let minutes : Int := h * 60 + m
      some (if negative then -minutes else minutes)
  | _ => none

/-- The time of day that a text writes, with an offset or without. -/
def offsetTime? (t : Text) : Option (DayTime × Option Int) :=
  let time := t.takeWhile fun c => c.isDigit || c == ':' || c == '.'
  match t.drop time.length with
  | [] => (time? time).map (·, none)
  | [z] => if z == 'Z' || z == 'z' then (time? time).map (·, some 0) else none
  | sign :: offset =>
      if sign == '+' || sign == '-' then do
        let time ← time? time
        let minutes ← offset? (sign == '-') offset
        some (time, some minutes)
      else none

/-- A date and a time of day together. -/
def together (d : Date) (t : DayTime × Option Int) : Stamp := .both d t.1 t.2

/-- The date, the time, or both with the letter T between them, that a word writes. -/
def stamp? (t : Text) : Option Stamp :=
  match date? t, time? t, t.drop 10 with
  | some d, _, _ => some (.date d)
  | none, some time, _ => some (.time time)
  | none, none, c :: time =>
      if c == 'T' || c == 't' then do
        let d ← date? (t.take 10)
        let time ← offsetTime? time
        some (together d time)
      else none
  | none, none, [] => none

/-! ## Words -/

/-- The value of a whole word. -/
def word (t : Text) : Except Unread Value :=
  if t = "true" then .ok (.bool true)
  else if t = "false" then .ok (.bool false)
  else match stamp? t with
    | some s => .ok (.stamp s)
    | none => number t

/-- The date and the time of day that two words write. -/
def twoWords? (first second : Text) : Option Stamp := do
  let d ← date? first
  let t ← offsetTime? second
  some (together d t)

/-- The value of the word that a text starts with, and the text after it.  A date
takes a time after one blank with it. -/
def scalar (t : Text) : Except Unread (Value × Text) :=
  let first := t.takeWhile (!isDelimiter ·)
  let rest := t.dropWhile (!isDelimiter ·)
  let later := rest.drop 1
  let second := if rest.head? == some ' ' then later.takeWhile (!isDelimiter ·) else []
  match twoWords? first second with
  | some s => .ok (.stamp s, later.dropWhile (!isDelimiter ·))
  | none => (word first).map (·, rest)

example : stamp? "1979-05-27T07:32:00.5-07:00" =
    some (.both ⟨1979, 5, 27⟩ ⟨7, 32, 0, 500000⟩ (some (-420))) := by decide
example : stamp? "2021-02-29" = none := by decide

end CommitCheck.Toml
