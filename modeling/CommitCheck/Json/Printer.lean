import CommitCheck.Value.Basic

/-!
# Writing JSON

A value written as one line of JSON in the characters of ASCII.  A character
outside ASCII is written by its code units, two of them above U+FFFF.
-/

namespace CommitCheck.Json

/-- The escape of one code unit. -/
def unitText (n : Nat) : Text := '\\' :: 'u' :: hexText 4 n

/-- A character inside a string. -/
def charText (c : Char) : Text :=
  let n := c.toNat
  if c = '"' then ['\\', '"']
  else if c = '\\' then ['\\', '\\']
  else if c = '\n' then ['\\', 'n']
  else if c = '\r' then ['\\', 'r']
  else if c = '\t' then ['\\', 't']
  else if 0x20 ≤ n ∧ n < 0x7F then [c]
  else if n < 0x10000 then unitText n
  else
    let m := n - 0x10000
    unitText (0xD800 + m / 0x400) ++ unitText (0xDC00 + m % 0x400)

/-- A string. -/
def stringText (t : Text) : Text := '"' :: t.flatMap charText ++ ['"']

/-- The written form of a character or of half a character, by its number. -/
def codeText (n : Nat) : Text := if isHalf n then unitText n else charText (Char.ofNat n)

/-- A string with halves of characters in it. -/
def codesText (codes : List Nat) : Text := '"' :: codes.flatMap codeText ++ ['"']

/-- A floating point number. -/
def floatText : Binary64 → Text
  | .nan => "NaN"
  | .infinite negative => if negative then "-Infinity" else "Infinity"
  | x => x.text

mutual

/-- A value as JSON. -/
def render : Value → Text
  | .null => "null"
  | .bool b => if b then "true" else "false"
  | .int n => intText n
  | .float x => floatText x
  | .text t => stringText t
  | .torn codes => codesText codes
  | .stamp s => stringText s.shown
  | .list items => '[' :: renderItems items ++ [']']
  | .table fields => '{' :: renderFields fields ++ ['}']

/-- Values with commas between them. -/
def renderItems : List Value → Text
  | [] => []
  | [v] => render v
  | v :: w :: vs => render v ++ ',' :: renderItems (w :: vs)

/-- Named values with commas between them. -/
def renderFields : List (Text × Value) → Text
  | [] => []
  | [(n, v)] => stringText n ++ ':' :: render v
  | (n, v) :: f :: fs => stringText n ++ ':' :: (render v ++ ',' :: renderFields (f :: fs))

end

end CommitCheck.Json
