import CommitCheck.Console.Layout
import CommitCheck.Console.Literal
import CommitCheck.Console.Picture
import CommitCheck.Console.Style
import CommitCheck.Run.Failure
import CommitCheck.Text.Word

/-!
# Console markup

A console text can have tags in brackets, which give the style of what follows.
They are not shown.  A tag starts with a small letter, a number sign, a slash or
an at sign, and it has no opening bracket inside.  A slash closes the last open
tag of the same style, or with nothing after it the last open tag.

A backslash in front of a tag makes it text.  Of several backslashes each two
show as one.  `escape` puts backslashes in front of the tags of a text, so that
it is shown as it is, but for a backslash at its end.

`scan` cuts a text into its tags and the characters between them, and `render`
shows it and tells the stretches whose style is garbled.
-/

namespace CommitCheck.Console

/-! ## Scanning -/

/-- Whether a character can come first in a tag. -/
def startsTag (c : Char) : Bool := c.isLower || c == '#' || c == '/' || c == '@'

/-- What stands between the brackets of the tag that a text starts with, after its
opening bracket. -/
def tagBody? (t : Text) : Option Text :=
  let body := t.takeWhile fun c => c != ']' && c != '['
  if (body.head?.map startsTag).getD false && (t.drop body.length).head? == some ']' then some body
  else none

/-- The number of backslashes that a text starts with, and what stands between the
brackets of the tag after them. -/
def tagAt? (t : Text) : Option (Nat × Text) :=
  let count := (t.takeWhile (· == '\\')).length
  match t.drop count with
  | '[' :: cs => (tagBody? cs).map (count, ·)
  | _ => none

/-- A part of a console text. -/
inductive Piece where
  /-- One character between tags. -/
  | char (c : Char)
  /-- Text that an escape gives. -/
  | literal (t : Text)
  /-- A tag. -/
  | tag (body : Text)
deriving DecidableEq

/-- The pieces that a tag after some backslashes makes. -/
def piecesOf (count : Nat) (body : Text) : List Piece :=
  (if count / 2 = 0 then [] else [.literal (List.replicate (count / 2) '\\')]) ++
    [if count % 2 = 1 then .literal ('[' :: body ++ [']']) else .tag body]

/-- The pieces of a text, of which the first characters are skipped. -/
def scanAfter : Nat → Text → List Piece
  | _, [] => []
  | skip + 1, _ :: cs => scanAfter skip cs
  | 0, c :: cs =>
      match tagAt? (c :: cs) with
      | none => .char c :: scanAfter 0 cs
      | some (count, body) => piecesOf count body ++ scanAfter (count + body.length + 1) cs
termination_by structural _ t => t

/-- The pieces of a text. -/
def scan (t : Text) : List Piece := scanAfter 0 t

/-! ## Escaping -/

/-- The text with backslashes in front of its tags, of which the first characters
are skipped. -/
def escapeAfter : Nat → Text → Text
  | _, [] => []
  | skip + 1, _ :: cs => escapeAfter skip cs
  | 0, c :: cs =>
      match tagAt? (c :: cs) with
      | none => c :: escapeAfter 0 cs
      | some (count, body) =>
          List.replicate (2 * count + 1) '\\' ++ '[' :: body ++
            ']' :: escapeAfter (count + body.length + 1) cs
termination_by structural _ t => t

/-- Whether a text ends in one backslash and not in two. -/
def endsInBackslash (t : Text) : Bool :=
  match t.reverse with
  | '\\' :: '\\' :: _ => false
  | '\\' :: _ => true
  | _ => false

/-- The text that is shown as the given one. -/
def escape (t : Text) : Text :=
  let e := escapeAfter 0 t
  if endsInBackslash e then e ++ ['\\'] else e

/-- A text between the tags of a style. -/
def inStyle (style t : Text) : Text := '[' :: style ++ ']' :: t ++ '[' :: '/' :: style ++ [']']

/-! ## Showing -/

/-- A tag: its name, and its parameters after an equals sign. -/
structure Tag where
  /-- The name. -/
  name : Text
  /-- The parameters, if there is an equals sign. -/
  parameters : Option Text

/-- The tag of what stands between brackets. -/
def Tag.ofBody (body : Text) : Tag :=
  match cutAt? '=' body with
  | none => ⟨body, none⟩
  | some (name, parameters) => ⟨name, some parameters⟩

/-- Whether the parameters of an action can be read: the name of the action, with
values in parentheses on one line or without, or values alone. -/
def isReadable (parameters : Text) : Bool :=
  let t := trim parameters
  let rest := t.dropWhile fun c => isWord c || c == '.'
  let inParentheses := rest.head? == some '(' && rest.getLast? == some ')' && !rest.contains '\n'
  rest.isEmpty || isLiteral (if inParentheses then rest else t)

/-- Whether an open tag can be closed.  An action has to have parameters that can
be read. -/
def Tag.canClose (t : Tag) : Bool :=
  t.name.head? != some '@' || isReadable (t.parameters.getD [])

/-- Whether the parameters of a tag with the name of a style make that style garbled. -/
def Tag.isGarbled (t : Tag) : Bool := match t.parameters with
  | none => false
  | some p => Console.isGarbled (t.name ++ ' ' :: p)

/-- An open tag. -/
structure OpenTag extends Tag where
  /-- How many characters are shown before it. -/
  start : Nat

/-- The open tags without the last one of a name. -/
def closeNamed? (name : Text) : List OpenTag → Option (OpenTag × List OpenTag)
  | [] => none
  | t :: ts =>
      if t.name = name then some (t, ts)
      else (closeNamed? name ts).map fun (u, us) => (u, t :: us)
termination_by structural ts => ts

/-- The tag that one with the name of a style closes, or the last open one if the name
is empty, and the tags that stay open. -/
def closeTag (opened : List OpenTag) (body name : Text) :
    Except Failure (OpenTag × List OpenTag) :=
  match (if name.isEmpty then some [] else normalName? name) with
  | none => .error .badValue
  | some style =>
      let closed := if name.isEmpty then
          match opened with
          | [] => none
          | u :: us => some (u, us)
        else closeNamed? style opened
      match closed with
      | none => .error (.badMarkup body)
      | some (u, us) => if u.canClose then .ok (u, us) else .error (.badMarkup body)

/-- The control characters that are not shown. -/
def isSilent (c : Char) : Bool :=
  let n := c.toNat
  n == 7 || n == 8 || n == 11 || n == 12 || n == 13

/-- A text without the backslashes in front of brackets. -/
def dropBracketEscapes : Text → Text
  | [] => []
  | '\\' :: '[' :: cs => '[' :: dropBracketEscapes cs
  | c :: cs => c :: dropBracketEscapes cs
termination_by structural t => t

/-- How the characters between two tags are shown. -/
def shownRun (t : Text) : Text :=
  (withPictures (dropBracketEscapes t)).filter (!isSilent ·)

/-- How a text without tags is shown. -/
def shownUntagged (t : Text) : Text := (withPictures t).filter (!isSilent ·)

/-- What a console text shows. -/
structure Shown where
  /-- The text without tags. -/
  text : Text
  /-- The stretches of it with a garbled style. -/
  garbled : List Stretch
deriving DecidableEq

/-- How far a console text has been shown. -/
structure Showing extends Shown where
  /-- The characters since the last tag, the last one first. -/
  pending : Text
  /-- The open tags, the last one first. -/
  opened : List OpenTag

namespace Showing

/-- Nothing is shown yet. -/
def start : Showing := ⟨⟨[], []⟩, [], []⟩

/-- More text is shown. -/
def append (s : Showing) (t : Text) : Showing := { s with text := s.text ++ t }

/-- The characters since the last tag are shown. -/
def flush (s : Showing) : Showing :=
  { s.append (shownRun s.pending.reverse) with pending := [] }

/-- The style of a tag ends. -/
def finish (s : Showing) (t : OpenTag) : Showing :=
  if t.isGarbled then { s with garbled := ⟨t.start, s.text.length⟩ :: s.garbled } else s

/-- The text with a tag more. -/
def tag (s : Showing) (body : Text) : Except Failure Showing :=
  let t := Tag.ofBody body
  match t.name with
  | '/' :: rest =>
      (closeTag s.opened body (trim rest)).map fun (u, us) => { s.finish u with opened := us }
  | name => match normalName? name with
      | none => .error .badValue
      | some style => .ok { s with opened := ⟨⟨style, t.parameters⟩, s.text.length⟩ :: s.opened }

/-- The text with a piece more. -/
def step (s : Showing) : Piece → Except Failure Showing
  | .char c => .ok { s with pending := c :: s.pending }
  | .literal t => .ok (s.flush.append (shownUntagged t))
  | .tag body => s.flush.tag body

/-- What is shown at the end.  Tags that are still open end with it. -/
def done (s : Showing) : Shown := (s.flush.opened.foldl finish s.flush).toShown

end Showing

/-- What a console text shows, or why it is no console text. -/
def render (t : Text) : Except Failure Shown :=
  if t.contains '[' then ((scan t).foldlM Showing.step .start).map Showing.done
  else .ok ⟨shownUntagged t, []⟩

example : ((render "[red]a[/red] \\[b] c[1]").map (·.text)).toOption =
    some ("a [b] c[1]" : Text) := by
  decide +kernel
example : ((render "a[b=rgb(1,,3)]c[/]").map (·.garbled)).toOption = some [⟨1, 2⟩] := by
  decide +kernel
example : (render "a[/b]").toOption = none := by decide +kernel
example : escape "\\[b] \\" = "\\\\\\[b] \\\\" := by decide +kernel

end CommitCheck.Console
