import CommitCheck.Text.Blank
import CommitCheck.Toml.Document
import CommitCheck.Toml.Scalars

/-!
# Reading TOML

A document is read statement by statement: a section, a repeated section, or a
key with its value.  Arrays and tables written in line may go over several lines,
have comments, and end with a comma.

The readers of values recurse on a bound that `Toml.parse` takes from the length
of the text, since no value nests deeper than it is long.  Arrays and tables in line
may lie in one another up to `nestLimit`.
-/

namespace CommitCheck.Toml

/-- The text after a comment, if a comment comes next; nothing if the comment has
a character that it may not have. -/
def skipComment (t : Text) : Option Text :=
  match t with
  | '#' :: cs =>
      if (cs.takeWhile (· != '\n')).any isIllegal then none else some (cs.dropWhile (· != '\n'))
  | _ => some t

/-- The text after blanks, line feeds and comments. -/
def skipLines : Nat → Text → Option Text
  | 0, t => some t
  | bound + 1, t => do
      let t := t.dropWhile fun c => isSpace c || c == '\n'
      match t with
      | '#' :: _ =>
          let rest ← skipComment t
          skipLines bound rest
      | _ => some t

/-- How deep arrays and tables in line may lie in one another. -/
def nestLimit : Nat := 400

mutual

/-- A value at the start of a text, so deep in others, and the text after it. -/
def value : Nat → Nat → Text → Except Unread (Value × Text)
  | 0, _, _ => .error .malformed
  | bound + 1, depth, t =>
      let text (r : Option (Text × Text)) : Except Unread (Value × Text) :=
        orMalformed (r.map fun (s, rest) => (.text s, rest))
      if nestLimit < depth then .error .tooDeep
      else match t with
      | '"' :: '"' :: '"' :: cs => text (basicLines .text (dropLineFeed cs))
      | '"' :: cs => text (basicString cs)
      | '\'' :: '\'' :: '\'' :: cs => text (literalLines (dropLineFeed cs))
      | '\'' :: cs => text (literalString cs)
      | '[' :: cs => do
          let rest ← orMalformed (skipLines t.length cs)
          let (vs, rest) ← items bound (depth + 1) rest
          pure (.list vs, rest)
      | '\x7b' :: cs => do
          let rest ← orMalformed (skipLines t.length cs)
          match rest with
          | '\x7d' :: rest => pure (.table [], rest)
          | _ =>
              let (fs, rest) ← inlineFields bound (depth + 1) ⟨[], []⟩ rest
              pure (.table fs, rest)
      | _ => scalar t

/-- The items of an array up to its closing bracket, so deep in others. -/
def items : Nat → Nat → Text → Except Unread (List Value × Text)
  | 0, _, _ => .error .malformed
  | bound + 1, depth, t =>
      match t with
      | ']' :: rest => .ok ([], rest)
      | _ => do
          let (v, rest) ← value bound depth t
          let rest ← orMalformed (skipLines t.length rest)
          match rest with
          | ']' :: rest => pure ([v], rest)
          | ',' :: rest =>
              let rest ← orMalformed (skipLines t.length rest)
              let (vs, rest) ← items bound depth rest
              pure (v :: vs, rest)
          | _ => .error .malformed

/-- The fields of a table written in line up to its closing brace, so deep in
others. -/
def inlineFields : Nat → Nat → InlineTable → Text → Except Unread (Fields × Text)
  | 0, _, _, _ => .error .malformed
  | bound + 1, depth, table, t => do
      let (k, rest) ← orMalformed (key t.length t)
      match rest with
      | '=' :: rest =>
          let (v, rest) ← value bound depth (rest.dropWhile isSpace)
          let table ← orMalformed (table.assign k v)
          let rest ← orMalformed (skipLines t.length rest)
          match rest with
          | '\x7d' :: rest => pure (table.fields, rest)
          | ',' :: rest =>
              let rest ← orMalformed (skipLines t.length rest)
              match rest with
              | '\x7d' :: rest => pure (table.fields, rest)
              | _ => inlineFields bound depth table rest
          | _ => .error .malformed
      | _ => .error .malformed

end

/-- The document after one statement, and the text after that. -/
def statement (d : Document) (t : Text) : Except Unread (Document × Text) :=
  match t with
  | '[' :: '[' :: cs => do
      let (p, rest) ← orMalformed (key t.length (cs.dropWhile isSpace))
      match rest with
      | ']' :: ']' :: rest => (orMalformed (d.openRepeated p)).map (·, rest)
      | _ => .error .malformed
  | '[' :: cs => do
      let (p, rest) ← orMalformed (key t.length (cs.dropWhile isSpace))
      match rest with
      | ']' :: rest => (orMalformed (d.openSection p)).map (·, rest)
      | _ => .error .malformed
  | '#' :: _ => .ok (d, t)
  | _ => do
      let (k, rest) ← orMalformed (key t.length t)
      match rest with
      | '=' :: rest =>
          let (v, rest) ← value t.length 0 (rest.dropWhile isSpace)
          (orMalformed (d.assign k v)).map (·, rest)
      | _ => .error .malformed

/-- The document after all statements of a text. -/
def statements : Nat → Document → Text → Except Unread Document
  | 0, _, _ => .error .malformed
  | bound + 1, d, t =>
      match t.dropWhile isSpace with
      | [] => .ok d
      | '\n' :: rest => statements bound d rest
      | t => do
          let (d, rest) ← statement d t
          let rest ← orMalformed (skipComment (rest.dropWhile isSpace))
          match rest with
          | [] => pure d
          | '\n' :: rest => statements bound d rest
          | _ => .error .malformed

/-- The table that a document holds. -/
def parse (t : Text) : Except Unread Fields :=
  let t := unifyPairs t
  (statements (t.length + 1) .start t).map Document.root

end CommitCheck.Toml
