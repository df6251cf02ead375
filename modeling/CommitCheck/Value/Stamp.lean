import CommitCheck.Text.Basic

/-!
# Dates and times

A settings file can hold a date of the calendar, a time of day, or both together,
then with the offset from the time of the zero meridian or without.  `Stamp.shown`
is how one appears inside a message: its numbers in order, seconds and their
fractions left out at the end where they are zero.

A `Moment` is a point in time to the second, as it is written in a log and in the
name of a log.
-/

namespace CommitCheck

/-! ## In a document -/

/-- A date of the calendar. -/
structure Date where
  /-- The year. -/
  year : Nat
  /-- The month, from one on. -/
  month : Nat
  /-- The day of the month, from one on. -/
  day : Nat
deriving DecidableEq, Inhabited

/-- A time of day. -/
structure DayTime where
  /-- The hour. -/
  hour : Nat
  /-- The minute. -/
  minute : Nat
  /-- The second. -/
  second : Nat
  /-- The millionths of a second. -/
  micro : Nat
deriving DecidableEq, Inhabited

/-- A date, a time of day or both. -/
inductive Stamp where
  /-- A date. -/
  | date (d : Date)
  /-- A time of day. -/
  | time (t : DayTime)
  /-- A date and a time of day, with the minutes of the offset if it is known. -/
  | both (d : Date) (t : DayTime) (offset : Option Int)
deriving DecidableEq, Inhabited

/-- The numbers of a date. -/
def Date.numbers (d : Date) : List Nat := [d.year, d.month, d.day]

/-- The numbers of a time of day. -/
def DayTime.numbers (t : DayTime) : List Nat :=
  t.hour :: t.minute ::
    (if t.micro ≠ 0 then [t.second, t.micro] else if t.second ≠ 0 then [t.second] else [])

namespace Stamp

/-- Numbers with commas between them. -/
def listed (ns : List Nat) : Text := joinWith [',', ' '] (ns.map natText)

/-- The seconds of a day. -/
def daySeconds : Int := 86400

/-- An offset of minutes as it appears inside a message. -/
def offsetShown (minutes : Int) : Text :=
  if minutes = 0 then "datetime.timezone.utc"
  else
    let seconds := minutes * 60
    let length := if seconds < 0
      then "days=-1, seconds=".toList ++ intText (seconds + daySeconds)
      else "seconds=".toList ++ intText seconds
    "datetime.timezone(datetime.timedelta(".toList ++ length ++ [')', ')']

/-- A stamp as it appears inside a message. -/
def shown : Stamp → Text
  | date d => "datetime.date(".toList ++ listed d.numbers ++ [')']
  | time t => "datetime.time(".toList ++ listed t.numbers ++ [')']
  | both d t offset => "datetime.datetime(".toList ++ listed (d.numbers ++ t.numbers) ++
      (match offset with
        | none => []
        | some m => ", tzinfo=".toList ++ offsetShown m) ++ [')']

example : shown (.both ⟨1979, 5, 27⟩ ⟨7, 32, 0, 0⟩ (some (-1))) =
    ("datetime.datetime(1979, 5, 27, 7, 32, tzinfo=datetime.timezone(datetime.timedelta(" ++
      "days=-1, seconds=86340)))" : String).toList := by decide +kernel

end Stamp

/-! ## In a log -/

/-- A point in time. -/
structure Moment where
  /-- The year. -/
  year : Nat
  /-- The month, from 1. -/
  month : Nat
  /-- The day of the month, from 1. -/
  day : Nat
  /-- The hour. -/
  hour : Nat
  /-- The minute. -/
  minute : Nat
  /-- The second. -/
  second : Nat
deriving DecidableEq, Inhabited

namespace Moment

/-- A number of two digits or more. -/
def two (n : Nat) : Text := padLeft 2 '0' (natText n)

/-- Date and time with a mark between them and another between the parts of the
time. -/
def layout (m : Moment) (middle mark : Char) : Text :=
  padLeft 4 '0' (natText m.year) ++ '-' :: two m.month ++ '-' :: two m.day ++
    middle :: two m.hour ++ mark :: two m.minute ++ mark :: two m.second

/-- A point in time in a line of a log. -/
def inLine (m : Moment) : Text := m.layout ' ' ':'

/-- A point in time in the name of a file. -/
def inName (m : Moment) : Text := m.layout '_' '-'

example : inLine ⟨2001, 2, 3, 4, 5, 6⟩ = "2001-02-03 04:05:06" := by decide

end Moment

end CommitCheck
