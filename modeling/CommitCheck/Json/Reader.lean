import CommitCheck.Value.Basic

/-!
# Reading JSON

A reader of JSON documents that tells whole numbers from floating point numbers
by their text.  Beside the numbers of the standard it reads `NaN`, `Infinity`
and `-Infinity`.  A later field of a name replaces an earlier one.

The readers return the value and the text after it.  The nesting that a
document can have is bounded by its length, so `readValue` recurses on a bound
that `Json.parse` takes from the length of the text.  Values may lie in one another
up to `nestLimit`, and a whole number may have as many digits as `digitLimit` says.
-/

namespace CommitCheck.Json

/-- White space of JSON. -/
def isSpace (c : Char) : Bool := c == ' ' || c == '\t' || c == '\n' || c == '\r'

/-- The text without white space at its start. -/
def skipSpace (t : Text) : Text := t.dropWhile isSpace

/-! ## Strings -/

/-- The value of four hexadecimal digits. -/
def quad? (a b c d : Char) : Option Nat := do
  let a ← hexValue? a
  let b ← hexValue? b
  let c ← hexValue? c
  let d ← hexValue? d
  pure (((a * 16 + b) * 16 + c) * 16 + d)

/-- The character that stands for itself after a backslash, by its letter. -/
def escape? : Char → Option Char
  | '"' => some '"'
  | '\\' => some '\\'
  | '/' => some '/'
  | 'b' => some '\x08'
  | 'f' => some '\x0c'
  | 'n' => some '\n'
  | 'r' => some '\r'
  | 't' => some '\t'
  | _ => none

/-- The code units of a string after its opening quote, up to its closing
quote, and the text after that. -/
def readUnits : Text → Option (List Nat × Text)
  | [] => none
  | '"' :: cs => some ([], cs)
  | '\\' :: 'u' :: a :: b :: c :: d :: cs => do
      let n ← quad? a b c d
      let (us, rest) ← readUnits cs
      pure (n :: us, rest)
  | '\\' :: e :: cs => do
      let x ← escape? e
      let (us, rest) ← readUnits cs
      pure (x.toNat :: us, rest)
  | c :: cs =>
      if c.toNat < 0x20 then none
      else do
        let (us, rest) ← readUnits cs
        pure (c.toNat :: us, rest)
termination_by structural t => t

/-- The characters of code units, by their numbers.  A high and a low surrogate in a
row are one character. -/
def joinUnits : List Nat → List Nat
  | [] => []
  | [u] => [u]
  | u :: v :: us =>
      if 0xD800 ≤ u ∧ u < 0xDC00 ∧ 0xDC00 ≤ v ∧ v < 0xE000 then
        (0x10000 + (u - 0xD800) * 0x400 + (v - 0xDC00)) :: joinUnits us
      else u :: joinUnits (v :: us)

/-- The text of characters by their numbers.  Half a character is replaced. -/
def ofCodes (codes : List Nat) : Text :=
  codes.map fun n => if isHalf n then '\ufffd' else Char.ofNat n

/-- The value of a string by the numbers of its characters. -/
def stringValue (codes : List Nat) : Value :=
  if codes.any isHalf then .torn codes else .text (ofCodes codes)

/-- The characters of a string after its opening quote, by their numbers, and the
text after its closing quote. -/
def readString (t : Text) : Except Unread (List Nat × Text) :=
  orMalformed ((readUnits t).map fun (us, rest) => (joinUnits us, rest))

/-! ## Numbers -/

/-- A number and the text after it. -/
def readNumber (t : Text) : Except Unread (Value × Text) :=
  let (negative, body) := match t with
    | '-' :: cs => (true, cs)
    | cs => (false, cs)
  let digits := body.takeWhile Char.isDigit
  let whole := if digits.head? = some '0' then ['0'] else digits
  let rest := body.drop whole.length
  if whole.isEmpty then .error .malformed
  else
    let (fraction, rest1) := match rest with
      | '.' :: cs =>
          let ds := cs.takeWhile Char.isDigit
          if ds.isEmpty then ([], rest) else (ds, cs.dropWhile Char.isDigit)
      | _ => ([], rest)
    let (exponent, rest2) := match rest1 with
      | c :: cs =>
          if c == 'e' || c == 'E' then
            let (down, ds) := Decimal.splitSign cs
            let es := ds.takeWhile Char.isDigit
            if es.isEmpty then (none, rest1)
            else
              let n : Int := ofDigits es
              (some (if down then -n else n), ds.dropWhile Char.isDigit)
          else (none, rest1)
      | [] => (none, rest1)
    if fraction.isEmpty && exponent.isNone then
      let n : Int := ofDigits whole
      if digitLimit < whole.length then .error .tooLong
      else .ok (.int (if negative then -n else n), rest2)
    else
      .ok (.float (.ofDecimal negative (ofDigits (whole ++ fraction))
        (exponent.getD 0 - (fraction.length : Int))), rest2)

/-- A word that stands for a value. -/
def words : List (Text × Value) :=
  [("true", .bool true), ("false", .bool false), ("null", .null), ("NaN", .float .nan),
    ("Infinity", .float (.infinite false)), ("-Infinity", .float (.infinite true))]

/-- The value of the word that a text starts with, and the text after it. -/
def readWord (t : Text) : Option (Value × Text) :=
  words.findSome? fun (w, v) => if w.isPrefixOf t then some (v, t.drop w.length) else none

/-! ## Values -/

/-- How deep values may lie in one another. -/
def nestLimit : Nat := 970

mutual

/-- A value at the start of a text, so deep in others, and the text after it. -/
def readValue : Nat → Nat → Text → Except Unread (Value × Text)
  | 0, _, _ => .error .malformed
  | fuel + 1, depth, t =>
      match t with
      | '"' :: cs => do
          let (codes, rest) ← readString cs
          pure (stringValue codes, rest)
      | '[' :: cs =>
          if nestLimit ≤ depth then .error .tooDeep
          else match skipSpace cs with
            | ']' :: rest => .ok (.list [], rest)
            | rest => do
                let (vs, rest) ← readItems fuel (depth + 1) rest
                pure (.list vs, rest)
      | '{' :: cs =>
          if nestLimit ≤ depth then .error .tooDeep
          else match skipSpace cs with
            | '}' :: rest => .ok (.table [], rest)
            | rest => do
                let (fs, rest) ← readFields fuel (depth + 1) rest
                pure (.table (Fields.ofList fs), rest)
      | _ =>
          match readWord t with
          | some r => .ok r
          | none => readNumber t

/-- The values of a list up to its closing bracket, so deep in others. -/
def readItems : Nat → Nat → Text → Except Unread (List Value × Text)
  | 0, _, _ => .error .malformed
  | fuel + 1, depth, t => do
      let (v, rest) ← readValue fuel depth t
      match skipSpace rest with
      | ',' :: rest =>
          let (vs, rest) ← readItems fuel depth (skipSpace rest)
          pure (v :: vs, rest)
      | ']' :: rest => pure ([v], rest)
      | _ => .error .malformed

/-- The fields of a table up to its closing brace, so deep in others. -/
def readFields : Nat → Nat → Text → Except Unread (List (Text × Value) × Text)
  | 0, _, _ => .error .malformed
  | fuel + 1, depth, t => do
      match t with
      | '"' :: cs =>
          let (name, rest) ← readString cs
          match skipSpace rest with
          | ':' :: rest =>
              let (v, rest) ← readValue fuel depth (skipSpace rest)
              match skipSpace rest with
              | ',' :: rest =>
                  let (fs, rest) ← readFields fuel depth (skipSpace rest)
                  pure ((ofCodes name, v) :: fs, rest)
              | '}' :: rest => pure ([(ofCodes name, v)], rest)
              | _ => .error .malformed
          | _ => .error .malformed
      | _ => .error .malformed

end

/-- The value that a document holds. -/
def parse (t : Text) : Except Unread Value := do
  let (v, rest) ← readValue (2 * t.length + 2) 0 (skipSpace t)
  if (skipSpace rest).isEmpty then pure v else .error .malformed

/-- The value that a document holds, if it can be read. -/
def parse? (t : Text) : Option Value := (parse t).toOption

end CommitCheck.Json
