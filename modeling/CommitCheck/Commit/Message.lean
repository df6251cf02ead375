import CommitCheck.Text.Blank

/-!
# Commit messages

A commit message has a header, its first line with text, and a body, the text
below, which is absent if there is none.  `Message.parse` takes a raw message
apart.  A line end may be a line feed, or a carriage return and a line feed.

* The lines before the header are those that are blank.
* The header loses the blanks at its end.
* The body loses the line feeds at its start and the blanks at its end.  Spaces
  at its start stay, and so do blank lines inside it.

A message from an editor has comments, the lines that start with a number sign.
They are dropped first where the caller asks for it.
-/

namespace CommitCheck

/-- A commit message, taken apart. -/
structure Message where
  /-- The first line. -/
  header : Text
  /-- The text below, if any. -/
  body : Option Text
deriving DecidableEq, Inhabited

namespace Message

/-- Whether a line of an edited message is a comment. -/
def isComment (line : Text) : Bool := line.head? == some '#'

/-- The lines of a raw message that count. -/
def retained (raw : Text) (stripComments : Bool) : List Text :=
  let lines := linesOf (unifyPairs raw)
  if stripComments then lines.filter (!isComment ·) else lines

/-- The body made of the lines below the header. -/
def bodyOf (lines : List Text) : Option Text :=
  match trimEnd (dropEnds (· == '\n') (ofLines lines)) with
  | [] => none
  | b => some b

/-- The message that lines make. -/
def ofRetained (lines : List Text) : Message :=
  match lines.dropWhile isBlankText with
  | [] => ⟨[], none⟩
  | h :: rest => ⟨trimEnd h, bodyOf rest⟩

/-- The message of a raw text. -/
def parse (raw : Text) (stripComments : Bool) : Message := ofRetained (retained raw stripComments)

/-- A message written out: the header, an empty line and the body if any. -/
def render (m : Message) : Text :=
  match m.body with
  | none => m.header
  | some b => m.header ++ '\n' :: '\n' :: b

example : parse "\n fix: x \r\n\r\n\n  why\n\n# c\n" true = ⟨" fix: x", some "  why"⟩ := by decide

end Message

end CommitCheck
