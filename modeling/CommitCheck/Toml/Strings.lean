import CommitCheck.Text.Basic

/-!
# Strings and keys of TOML

There are four kinds of strings: basic and literal ones, each on one line or on
several.  Basic strings have escapes, literal ones do not.  A string of several
lines starts and ends with three quotes.  A line feed straight after its start
is dropped, and up to two quotes may stand before its end.  In a basic string of
several lines a backslash at the end of a line drops the line end and the blanks
after it.

Every reader here starts after the opening quotes and returns the text of the
string and the text after its closing quotes.  Each is a recursion on the text.
-/

namespace CommitCheck.Toml

/-- Whether a control character may not stand in a string or a comment of one line. -/
def isIllegal (c : Char) : Bool := (c.toNat < 0x20 && c != '\t') || c.toNat == 0x7F

/-- Whether a control character may not stand in a string of several lines. -/
def isIllegalInLines (c : Char) : Bool := isIllegal c && c != '\n'

/-- Tab and space. -/
def isSpace (c : Char) : Bool := c == ' ' || c == '\t'

/-- Whether a character may stand in a key without quotes. -/
def isBare (c : Char) : Bool := c.isAlphanum || c == '_' || c == '-'

/-! ## Escapes -/

/-- The character of a one-letter escape. -/
def escape? : Char → Option Char
  | 'b' => some '\x08'
  | 't' => some '\t'
  | 'n' => some '\n'
  | 'f' => some '\x0c'
  | 'r' => some '\r'
  | 'e' => some '\x1b'
  | '"' => some '"'
  | '\\' => some '\\'
  | _ => none

/-- The character whose number the hexadecimal digits write, unless it is none. -/
def charOfHex? (digits : Text) : Option Char := do
  let ds ← digits.mapM hexValue?
  let n := ds.foldl (fun n d => 16 * n + d) 0
  if n < 0xD800 || (0xE000 ≤ n && n < 0x110000) then some (Char.ofNat n) else none

/-- A character put in front of what was read. -/
def push (c : Char) (r : Text × Text) : Text × Text := (c :: r.1, r.2)

/-! ## Strings of one line -/

/-- A basic string. -/
def basicString : Text → Option (Text × Text)
  | [] => none
  | '"' :: cs => some ([], cs)
  | '\\' :: 'x' :: a :: b :: cs => do
      let c ← charOfHex? [a, b]
      (basicString cs).map (push c)
  | '\\' :: 'u' :: a :: b :: c :: d :: cs => do
      let c ← charOfHex? [a, b, c, d]
      (basicString cs).map (push c)
  | '\\' :: 'U' :: a :: b :: c :: d :: e :: f :: g :: h :: cs => do
      let c ← charOfHex? [a, b, c, d, e, f, g, h]
      (basicString cs).map (push c)
  | '\\' :: e :: cs => do
      let c ← escape? e
      (basicString cs).map (push c)
  | c :: cs => if isIllegal c || c == '\\' then none else (basicString cs).map (push c)
termination_by structural t => t

/-- A literal string. -/
def literalString : Text → Option (Text × Text)
  | [] => none
  | '\'' :: cs => some ([], cs)
  | c :: cs => if isIllegal c then none else (literalString cs).map (push c)
termination_by structural t => t

/-! ## Strings of several lines -/

/-- Where a reader of a basic string stands: in its text, after a backslash
before the end of that line, or in the blanks after that line end. -/
inductive Standing where
  /-- In the text. -/
  | text
  /-- After a backslash, before the line feed. -/
  | lineEnd
  /-- After the line feed. -/
  | gap

/-- A basic string of several lines. -/
def basicLines : Standing → Text → Option (Text × Text)
  | .lineEnd, ' ' :: cs => basicLines .lineEnd cs
  | .lineEnd, '\t' :: cs => basicLines .lineEnd cs
  | .lineEnd, '\n' :: cs => basicLines .gap cs
  | .lineEnd, _ => none
  | .gap, ' ' :: cs => basicLines .gap cs
  | .gap, '\t' :: cs => basicLines .gap cs
  | .gap, '\n' :: cs => basicLines .gap cs
  | _, [] => none
  | _, '"' :: '"' :: '"' :: '"' :: '"' :: cs => some (['"', '"'], cs)
  | _, '"' :: '"' :: '"' :: '"' :: cs => some (['"'], cs)
  | _, '"' :: '"' :: '"' :: cs => some ([], cs)
  | _, '\\' :: ' ' :: cs => basicLines .lineEnd cs
  | _, '\\' :: '\t' :: cs => basicLines .lineEnd cs
  | _, '\\' :: '\n' :: cs => basicLines .gap cs
  | _, '\\' :: 'x' :: a :: b :: cs => do
      let c ← charOfHex? [a, b]
      (basicLines .text cs).map (push c)
  | _, '\\' :: 'u' :: a :: b :: c :: d :: cs => do
      let c ← charOfHex? [a, b, c, d]
      (basicLines .text cs).map (push c)
  | _, '\\' :: 'U' :: a :: b :: c :: d :: e :: f :: g :: h :: cs => do
      let c ← charOfHex? [a, b, c, d, e, f, g, h]
      (basicLines .text cs).map (push c)
  | _, '\\' :: e :: cs => do
      let c ← escape? e
      (basicLines .text cs).map (push c)
  | _, c :: cs =>
      if isIllegalInLines c || c == '\\' then none else (basicLines .text cs).map (push c)
termination_by structural _ t => t

/-- A literal string of several lines. -/
def literalLines : Text → Option (Text × Text)
  | [] => none
  | '\'' :: '\'' :: '\'' :: '\'' :: '\'' :: cs => some (['\'', '\''], cs)
  | '\'' :: '\'' :: '\'' :: '\'' :: cs => some (['\''], cs)
  | '\'' :: '\'' :: '\'' :: cs => some ([], cs)
  | c :: cs => if isIllegalInLines c then none else (literalLines cs).map (push c)
termination_by structural t => t

/-- The text without a line feed at its start. -/
def dropLineFeed : Text → Text
  | '\n' :: cs => cs
  | cs => cs

/-! ## Keys -/

/-- A part of a key at the start of a text. -/
def keyPart (t : Text) : Option (Text × Text) :=
  match t with
  | '"' :: cs => basicString cs
  | '\'' :: cs => literalString cs
  | _ =>
      let part := t.takeWhile isBare
      if part.isEmpty then none else some (part, t.dropWhile isBare)

/-- The parts of a key with full stops between them, and the text after the
blanks that follow.  The bound limits the number of parts. -/
def key : Nat → Text → Option (List Text × Text)
  | 0, _ => none
  | bound + 1, t => do
      let (part, rest) ← keyPart t
      match rest.dropWhile isSpace with
      | '.' :: rest =>
          let (parts, rest) ← key bound (rest.dropWhile isSpace)
          pure (part :: parts, rest)
      | rest => pure ([part], rest)

example : basicString "a\\x41\\n\" rest" = some (("aA\n" : Text), (" rest" : Text)) := by decide
example : basicLines .text "a\\\n  b\"\"\"\"" = some (("ab\"" : Text), ([] : Text)) := by decide
example : key 9 "a . \"b.c\" = 1" =
    some ((["a", "b.c"] : List Text), ("= 1" : Text)) := by decide

end CommitCheck.Toml
