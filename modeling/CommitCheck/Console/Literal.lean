import CommitCheck.Console.Literal.Token
import CommitCheck.Number.Binary64

/-!
# Values in writing

A tag can carry values, in a plain way of writing.

* A number, with a sign or without, and a sum of a real number and an imaginary one.
* A text in quotes.  Texts next to each other are one text.
* The names `True`, `False` and `None`, and three dots.
* Values in parentheses with commas between them, and without parentheses on the outside.
  One value in parentheses is the value.
* Values in braces, or pairs of them with a colon between the two.  What is in braces,
  the second of a pair apart, must not be or hold something in braces.  `set()` stands for
  no values in braces.  Its name can be in parentheses and in letters of other shapes.

Outside of brackets the value ends with its line.

`isLiteral` says whether a text writes a value.  It reads the tokens one by one
and keeps what is open.
-/

namespace CommitCheck.Console.Literal

/-- What has to be known of a value to tell what it can be part of. -/
inductive Kind where
  /-- A number: whether it has a sign, whether it is imaginary, and how large it is if it
  is whole. -/
  | number (isSigned isImaginary : Bool) (size : Nat)
  /-- Something else that can be in braces. -/
  | fixed
  /-- Something that cannot be in braces. -/
  | loose
deriving DecidableEq

/-- A part of a value that is being read. -/
inductive Part where
  /-- A finished value. -/
  | value (k : Kind)
  /-- A text in quotes, and whether it is one of bytes. -/
  | quoted (ofBytes : Bool)
  /-- A sign. -/
  | sign
  /-- A colon. -/
  | colon
  /-- The name that stands for no values in braces if parentheses come after it. -/
  | emptyName
deriving DecidableEq

/-- A finished value of a group. -/
inductive Member where
  /-- A value alone. -/
  | single (k : Kind)
  /-- A pair. -/
  | pair
deriving DecidableEq

/-- What a group stands in. -/
inductive Frame where
  /-- Nothing: the outside. -/
  | outside
  /-- Brackets. -/
  | within (b : Bracket)
  /-- Parentheses after the name of no values. -/
  | afterName
deriving DecidableEq

/-- A group that is being read. -/
structure Group where
  /-- What it stands in. -/
  frame : Frame
  /-- Its finished values, the last one first. -/
  members : List Member
  /-- The parts of the value at hand, the last one first. -/
  parts : List Part

/-- A group with nothing in it yet. -/
def Group.empty (f : Frame) : Group := ⟨f, [], []⟩

/-! ## Values from parts -/

/-- The size from which a whole number cannot be added to an imaginary one. -/
def sumLimit : Nat := twoTo 1024 - twoTo 970

/-- The sum of a real number of a size and an imaginary one. -/
def sum? (size : Nat) : Option Kind := if size < sumLimit then some .fixed else none

/-- The value that parts write. -/
def kindOf? : List Part → Option Kind
  | [.value k] => some k
  | [.quoted _] => some .fixed
  | [.sign, .value (.number false i n)] => some (.number true i n)
  | [.value (.number _ false n), .sign, .value (.number false true _)] => sum? n
  | [.sign, .value (.number false false n), .sign, .value (.number false true _)] => sum? n
  | _ => none

/-- Whether a value can be in braces. -/
def Kind.isFixed (k : Kind) : Bool := k != .loose

/-- The pair that parts in braces write, cut at their first colon. -/
def pairOf? (parts : List Part) : Option Member :=
  let first := parts.takeWhile (· != .colon)
  match kindOf? first, kindOf? (parts.drop (first.length + 1)) with
  | some k, some _ => if k.isFixed then some .pair else none
  | _, _ => none

/-- The member that the parts at hand write. -/
def memberOf? (f : Frame) (parts : List Part) : Option Member :=
  if parts.contains .colon then
    if f = .within .curly then pairOf? parts else none
  else (kindOf? parts).map .single

/-- Whether a member is a value alone that can be in braces. -/
def Member.isFixed : Member → Bool
  | .single k => k.isFixed
  | .pair => false

namespace Group

/-- A part more.  Two texts in quotes are one if both are of bytes or none is. -/
def push (g : Group) (p : Part) : Option Group :=
  match p, g.parts with
  | .quoted b, .quoted b' :: _ => if b = b' then some g else none
  | _, _ => some { g with parts := p :: g.parts }

/-- The group with the value at hand finished. -/
def finish? (g : Group) : Option Group :=
  (memberOf? g.frame g.parts.reverse).map fun m => { g with members := m :: g.members, parts := [] }

/-- The group after its last value, which may have a comma after it. -/
def close? (g : Group) : Option Group := if g.parts.isEmpty then some g else g.finish?

/-- What a list of members in parentheses is, or on the outside. -/
def listKind (ms : List Member) : Kind := if ms.all Member.isFixed then .fixed else .loose

/-- The value of a group at its end. -/
def kind? (g : Group) : Option Kind := do
  let closed ← g.close?
  match g.frame with
  | .outside => if closed.members.isEmpty then none else some (listKind closed.members)
  | .within .round =>
      match g.members, closed.members with
      | [], [.single k] => some k
      | _, ms => some (listKind ms)
  | .within .curly =>
      if closed.members.all Member.isFixed || closed.members.all (· == .pair) then some .loose
      else none
  | .afterName => if closed.members.isEmpty then some .loose else none

/-- The part that a group in brackets is to what it stands in: its value, or the name of
no values if that is all there is in parentheses. -/
def part? (g : Group) : Option Part :=
  match g.frame, g.members, g.parts with
  | .within .round, [], [.emptyName] => some .emptyName
  | _, _, _ => g.kind?.map .value

end Group

/-! ## Reading tokens -/

/-- How far tokens have been read. -/
structure State where
  /-- The group at hand. -/
  group : Group
  /-- The groups that it is in, the innermost first. -/
  outer : List Group
  /-- Whether the line of the value has ended. -/
  ended : Bool

namespace State

/-- The most brackets that can be open. -/
def depthLimit : Nat := 200

/-- The state before the first token. -/
def start : State := ⟨.empty .outside, [], false⟩

/-- A part more. -/
def push (s : State) (p : Part) : Option State :=
  (s.group.push p).map fun g => { s with group := g }

/-- An opening bracket. -/
def openGroup (s : State) (b : Bracket) : Option State :=
  if depthLimit ≤ s.outer.length then none
  else match b, s.group.parts with
    | .round, .emptyName :: parts =>
        some ⟨.empty .afterName, { s.group with parts := parts } :: s.outer, s.ended⟩
    | _, _ => some ⟨.empty (.within b), s.group :: s.outer, s.ended⟩

/-- Whether a bracket closes a group. -/
def closes (b : Bracket) : Frame → Bool
  | .outside => false
  | .within b' => b == b'
  | .afterName => b == .round

/-- A closing bracket. -/
def closeGroup (s : State) (b : Bracket) : Option State := do
  guard (closes b s.group.frame)
  let p ← s.group.part?
  match s.outer with
  | [] => none
  | g :: gs => (g.push p).map fun g => ⟨g, gs, s.ended⟩

/-- A line end: on the outside the value ends with it, once there is one. -/
def endLine (s : State) : State :=
  let isEmpty := s.group.members.isEmpty && s.group.parts.isEmpty
  { s with ended := s.ended || (s.outer.isEmpty && !isEmpty) }

/-- The letters of the name of no values in their shapes. -/
def emptyNameLetters : List Text := ["sſˢₛｓ𝐬𝑠𝒔𝓈𝓼𝔰𝕤𝖘𝗌𝘀𝘴𝙨𝚜", "eᵉₑℯⅇｅ𝐞𝑒𝒆𝓮𝔢𝕖𝖊𝖾𝗲𝘦𝙚𝚎",
  "tᵗₜｔ𝐭𝑡𝒕𝓉𝓽𝔱𝕥𝖙𝗍𝘁𝘵𝙩𝚝"]

/-- Whether a name is that of no values. -/
def isEmptyName (t : Text) : Bool :=
  t.length == emptyNameLetters.length &&
    (emptyNameLetters.zip t).all fun (letters, c) => letters.contains c

/-- A name. -/
def name (s : State) (t : Text) : Option State :=
  if (["True", "False", "None"] : List Text).contains t then s.push (.value .fixed)
  else if isEmptyName t then s.push .emptyName
  else none

/-- A token more. -/
def step (s : State) (token : Token) : Option State :=
  match token with
  | .lineEnd => some s.endLine
  | token => if s.ended then none else match token with
    | .whole n => s.push (.value (.number false false n))
    | .fraction => s.push (.value (.number false false 0))
    | .imaginary => s.push (.value (.number false true 0))
    | .quoted b => s.push (.quoted b)
    | .name t => s.name t
    | .dots => s.push (.value .fixed)
    | .sign => s.push .sign
    | .colon => s.push .colon
    | .comma => s.group.finish?.map fun g => { s with group := g }
    | .opening b => s.openGroup b
    | .closing b => s.closeGroup b
    | .lineEnd => some s.endLine

/-- Whether the value is finished. -/
def isDone (s : State) : Bool := s.outer.isEmpty && s.group.kind?.isSome

end State

end Literal

open Literal in
/-- Whether a text writes a value, or several with commas between them. -/
def isLiteral (t : Text) : Bool :=
  match (tokens? t).bind (List.foldlM State.step State.start) with
  | some s => s.isDone
  | none => false

example : isLiteral "1, 'a' 'b', -2+3j," = true := by decide +kernel
example : isLiteral "\x7b1: (), None: \x7b\x7d\x7d" = true := by decide +kernel
example : isLiteral "\x7b\x7b\x7d\x7d" = false := by decide +kernel
example : isLiteral "(set)()" = true := by decide +kernel
example : isLiteral "f(1)" = false := by decide +kernel

end CommitCheck.Console
