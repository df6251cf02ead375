import CommitCheck.Record.Fault
import CommitCheck.Rule.Verdict
import CommitCheck.Value.Basic

/-!
# Reading fields

How a value becomes what a field needs.  The readers are lenient where a value
says the same thing in another way: a number or a word for a truth value, a
text for a number.  Each reader gives the value read or the faults found.

Records are read field by field in the order of their fields, and `both`
collects the faults of all fields.
-/

namespace CommitCheck

/-- What was read, or the faults that were found. -/
abbrev Checked (α : Type) := Except (List Fault) α

namespace Checked

/-- What two readings make, or the faults of both. -/
def both {α β γ : Type} (f : α → β → γ) : Checked α → Checked β → Checked γ
  | .ok a, .ok b => .ok (f a b)
  | .ok _, .error es => .error es
  | .error es, .ok _ => .error es
  | .error es, .error es' => .error (es ++ es')

/-- A reading seen from one step further out. -/
def within {α : Type} (step : Step) : Checked α → Checked α
  | .ok a => .ok a
  | .error es => .error (es.map (Fault.within step))

/-- A fault in the value itself. -/
def fault {α : Type} (kind : FaultKind) : Checked α := .error [⟨[], kind⟩]

/-- The field of a name, which has to be there. -/
def required {α : Type} (fs : Fields) (name : Text) (read : Value → Checked α) : Checked α :=
  within (.field name) (match fs.get? name with
    | none => fault .missing
    | some v => read v)

/-- The field of a name, or what stands for it where it is absent. -/
def optional {α : Type} (fs : Fields) (name : Text) (default : α) (read : Value → Checked α) :
    Checked α :=
  match fs.get? name with
  | none => .ok default
  | some v => within (.field name) (read v)

/-- Every item of a list by its position, or the faults of all. -/
def items {α : Type} (read : Value → Checked α) : Nat → List Value → Checked (List α)
  | _, [] => .ok []
  | i, v :: vs => both (· :: ·) (within (.item i) (read v)) (items read (i + 1) vs)
termination_by structural _ vs => vs

/-- The list that a value is, item by item. -/
def list {α : Type} (read : Value → Checked α) : Value → Checked (List α)
  | .list vs => items read 0 vs
  | _ => fault .notList

end Checked

namespace Value

open Checked (fault)

/-! ## Texts -/

/-- The text that a value is. -/
def readText : Value → Checked Text
  | text t => .ok t
  | _ => fault .notText

/-- The text that a value is, or nothing. -/
def readOptionalText : Value → Checked (Option Text)
  | null => .ok none
  | text t => .ok (some t)
  | _ => fault .notText

/-! ## Truth values -/

/-- The words for true. -/
def trueWords : List Text := ["true", "t", "yes", "y", "on", "1"]

/-- The words for false. -/
def falseWords : List Text := ["false", "f", "no", "n", "off", "0"]

/-- Whether a whole number fits into 64 bits. -/
def fitsWord (n : Int) : Bool := -9223372036854775808 ≤ n && n ≤ 9223372036854775807

/-- The truth value that a whole number stands for. -/
def boolOfInt (n : Int) : Checked Bool :=
  if n = 0 then .ok false
  else if n = 1 then .ok true
  else if fitsWord n then fault .unreadableBool
  else fault .notBool

/-- The truth value that a value is or stands for. -/
def readBool : Value → Checked Bool
  | bool b => .ok b
  | int n => boolOfInt n
  | float x => match x.toInt? with
      | some n => boolOfInt n
      | none => fault .notBool
  | text t =>
      if trueWords.contains (lowercase t) then .ok true
      else if falseWords.contains (lowercase t) then .ok false
      else fault .unreadableBool
  | _ => fault .notBool

/-! ## Numbers -/

/-- A text without its low lines.  They have to stand alone and between other
characters. -/
def withoutLowLines? (t : Text) : Option Text :=
  if t.head? == some '_' || t.getLast? == some '_' || occursIn ['_', '_'] t then none
  else some (t.filter (· != '_'))

/-- The number that a text writes, with spacing around it or with low lines
inside it. -/
def numberOfText? (t : Text) : Option Binary64 :=
  match readFloat? (dropEnds isSpacing t) with
  | some x => some x
  | none => (withoutLowLines? t).bind readFloat?

/-- The number that a value is or writes. -/
def readNumber : Value → Checked Binary64
  | bool b => .ok (.ofInt (if b then 1 else 0))
  | int n => match Binary64.ofInt n with
      | .infinite _ => fault .notNumber
      | x => .ok x
  | float x => .ok x
  | text t => match numberOfText? t with
      | some x => .ok x
      | none => fault .unreadableNumber
  | _ => fault .notNumber

/-- The number above zero that a value is or writes. -/
def readPositive (v : Value) : Checked Binary64 := do
  let x ← v.readNumber
  if x.isPositive then pure x else fault .notPositive

/-! ## Levels -/

/-- A numeral without the zeros in front of its first digit other than zero, or of
a hyphen there.  Low lines among these zeros are dropped too. -/
def withoutLeadingZeros? (t : Text) : Option Text :=
  match t with
  | [] => none
  | '0' :: cs =>
      let zeros := cs.takeWhile fun c => c == '0' || c == '_'
      match cs.dropWhile fun c => c == '0' || c == '_' with
      | [] => some [('0' :: zeros).getLastD '0']
      | '.' :: ds => some (('0' :: zeros).getLastD '0' :: '.' :: ds)
      | d :: ds => if d.isDigit || d == '-' then some (d :: ds) else none
  | c :: _ => if c.isDigit then some t else none

/-- A numeral without a point and the zeros behind it, of which there is at least
one. -/
def withoutPointZeros (t : Text) : Text :=
  match cutAt? '.' t with
  | some (whole, zeros) => if !zeros.isEmpty && zeros.all (· == '0') then whole else t
  | none => t

/-- The whole number that a sign and digits write in their one form: no zero in
front of other digits, and not too many of them, the sign counted. -/
def plainWhole? (t : Text) : Option Int :=
  let (isNegative, ds) := match t with
    | '-' :: ds => (true, ds)
    | ds => (false, ds)
  if ds.isEmpty || !ds.all Char.isDigit || digitLimit < t.length then none
  else if ds.head? == some '0' && ds.length ≠ 1 then none
  else some (if isNegative then -(ofDigits ds : Int) else ofDigits ds)

/-- The whole number that a text writes. -/
def wholeOfText? (t : Text) : Option Int := do
  let t := dropEnds isSpacing t
  let (sign, t) ← match t with
    | '+' :: '-' :: _ => none
    | '+' :: cs => some ([], cs)
    | '-' :: cs => some (['-'], cs)
    | cs => some ([], cs)
  let t ← withoutLeadingZeros? t
  let t ← withoutLowLines? (sign ++ withoutPointZeros t)
  plainWhole? t

/-- The level of a whole number. -/
def levelOfInt (n : Int) : Checked Level :=
  match Level.ofInt? n with
  | some l => .ok l
  | none => if fitsWord n then fault .notListed else fault .tooLarge

/-- The level that a value is or writes the number of. -/
def readLevel : Value → Checked Level
  | bool b => levelOfInt (if b then 1 else 0)
  | int n => levelOfInt n
  | float x => match x.toInt?.bind Level.ofInt? with
      | some l => .ok l
      | none => fault .notListed
  | text t => match wholeOfText? t with
      | some n => levelOfInt n
      | none => fault .notListed
  | _ => fault .notListed

end Value

end CommitCheck
