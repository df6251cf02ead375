import CommitCheck.Value.Basic
import CommitCheck.Toml.Strings

/-!
# Writing TOML

A document is written as sections with an empty line between each two.  A section
has a line with its path and one line for each of its fields.  Texts are basic
strings on one line.
-/

namespace CommitCheck.Toml

/-- A character inside a basic string. -/
def charText (c : Char) : Text :=
  if c = '"' then ['\\', '"']
  else if c = '\\' then ['\\', '\\']
  else if c = '\n' then ['\\', 'n']
  else if c = '\r' then ['\\', 'r']
  else if c = '\x08' then ['\\', 'b']
  else if c = '\x0c' then ['\\', 'f']
  else if isIllegal c then '\\' :: 'u' :: hexText 4 c.toNat
  else [c]

/-- A basic string. -/
def stringText (t : Text) : Text := '"' :: t.flatMap charText ++ ['"']

/-- A truth value, a number or a text.  Other values are not written. -/
def scalarText : Value → Text
  | .bool b => if b then "true" else "false"
  | .int n => intText n
  | .float x => x.text
  | .text t => stringText t
  | _ => []

/-- A part of a key, in quotes if it needs them. -/
def keyText (k : Text) : Text := if !k.isEmpty && k.all isBare then k else stringText k

/-- A section: its path and its fields. -/
structure Section where
  /-- The path. -/
  path : List Text
  /-- The fields, none of them a table. -/
  fields : Fields

/-- The line of one field. -/
def fieldLine (f : Text × Value) : Text := keyText f.1 ++ " = ".toList ++ scalarText f.2 ++ ['\n']

/-- The lines of a section. -/
def Section.render (s : Section) : Text :=
  '[' :: joinWith ['.'] (s.path.map keyText) ++ ']' :: '\n' :: s.fields.flatMap fieldLine

/-- The text of a document. -/
def render (sections : List Section) : Text := joinWith ['\n'] (sections.map Section.render)

end CommitCheck.Toml
