import CommitCheck.Text.Bytes

/-!
# Paths

A path is a list of names that leads from the root of the file system or from
the working folder.  Empty names and single full stops are left out when a path
is read, for they lead nowhere.  Two full stops lead up, and they stay: what is
above a name depends on what the name stands for.

`Path.ofText` reads a path and `Path.text` writes it.
-/

namespace CommitCheck

/-- A path. -/
structure Path where
  /-- The slashes that it starts with: none if it leads from the working folder. -/
  root : Text
  /-- The names. -/
  names : List Text
deriving DecidableEq, Inhabited

namespace Path

/-- Whether a name leads nowhere. -/
def isIdle (name : Text) : Bool := name.isEmpty || name == ['.']

/-- The slashes that a path with so many slashes in front starts with.  Two are
different from one, and more are one. -/
def rootOf : Nat → Text
  | 0 => []
  | 2 => ['/', '/']
  | _ => ['/']

/-- The path that a text writes. -/
def ofText (t : Text) : Path :=
  ⟨rootOf (t.takeWhile (· == '/')).length, (splitAt '/' t).filter (!isIdle ·)⟩

/-- The text of a path. -/
def text (p : Path) : Text :=
  if p.root.isEmpty && p.names.isEmpty then ['.'] else p.root ++ joinWith ['/'] p.names

/-- Whether a path leads from the root. -/
def isAbsolute (p : Path) : Bool := !p.root.isEmpty

/-- The path of a name in the folder of a path. -/
def child (p : Path) (name : Text) : Path := { p with names := p.names ++ [name] }

/-- The path of the folder around. -/
def parent (p : Path) : Path := { p with names := p.names.dropLast }

/-- The names after one more, where two full stops take the last one away.  At
the root they lead nowhere. -/
def climb (atRoot : Bool) (names : List Text) (name : Text) : List Text :=
  if name != ['.', '.'] then names ++ [name]
  else match names.getLast? with
    | none => if atRoot then [] else [name]
    | some last => if last = name then names ++ [name] else names.dropLast

/-- The path in which two full stops have taken away the names before them. -/
def climbed (p : Path) : Path := { p with names := p.names.foldl (climb p.isAbsolute) [] }

/-! ## Limits -/

/-- The most bytes of a name. -/
def nameLimit : Nat := 255

/-- The most bytes of the text of a path. -/
def textLimit : Nat := 4095

/-- The number of bytes of a text. -/
def byteCount (t : Text) : Nat := (textBytes t).length

/-- Whether the text of a path, or a name in it, is longer than any that there can
be. -/
def isTooLong (t : Text) : Bool :=
  textLimit < byteCount t || (splitAt '/' t).any fun name => nameLimit < byteCount name

/-- Whether the text of a path has the character that ends texts outside. -/
def isBroken (t : Text) : Bool := t.contains '\x00'

example : (ofText "a//b/./c/").text = "a/b/c" := by decide
example : (ofText "./x").text = "x" ∧ (ofText "").text = "." ∧ (ofText "///").text = "/" := by
  decide
example : (climbed (ofText "/a/../../b/c/..")).text = "/b" := by decide

end Path

end CommitCheck
