import CommitCheck.Text.Bytes
import CommitCheck.Text.Quoted

/-!
# The encoding of JSON

A JSON document starts with a character of ASCII, and so the zeros among its first
bytes tell in which encoding it is: in UTF-8, or in UTF-16 or UTF-32 with the bytes
of a number in one order or the other.  A mark of the byte order in front of a
document in UTF-8 is dropped.

Half a character that stands alone is read as its escape.
-/

namespace CommitCheck.Json

/-- How the characters of a document are written in bytes. -/
inductive Encoding where
  /-- In one to four bytes. -/
  | utf8
  /-- In units of two bytes, the greater one first or last. -/
  | utf16 (greaterFirst : Bool)
  /-- In four bytes, the greatest one first or last. -/
  | utf32 (greaterFirst : Bool)
deriving DecidableEq

/-- The encoding that the first bytes of a document tell. -/
def Encoding.ofBytes (bytes : List Nat) : Encoding :=
  match bytes with
  | [a, b] => if a = 0 then .utf16 true else if b = 0 then .utf16 false else .utf8
  | a :: b :: c :: d :: _ =>
      if a = 0 then (if b = 0 then .utf32 true else .utf16 true)
      else if b = 0 then (if c = 0 ∧ d = 0 then .utf32 false else .utf16 false)
      else .utf8
  | _ => .utf8

/-- The numbers that so many bytes each write, if no bytes are left over. -/
def grouped? (greaterFirst : Bool) (size : Nat) : Nat → List Nat → Option (List Nat)
  | _, [] => some []
  | 0, _ :: _ => none
  | bound + 1, bytes =>
      let group := bytes.take size
      if group.length ≠ size then none
      else
        let ordered := if greaterFirst then group else group.reverse
        (grouped? greaterFirst size bound (bytes.drop size)).map
          (ordered.foldl (fun n b => n * 256 + b) 0 :: ·)

/-- A number as the text of its character, half a character as its escape. -/
def codeShown (n : Nat) : Text := if isHalf n then '\\' :: 'u' :: hexText 4 n else [Char.ofNat n]

/-- The text of units of two bytes. -/
def ofUnits16 : List Nat → Text
  | [] => []
  | [u] => codeShown u
  | u :: v :: us =>
      if 0xD800 ≤ u ∧ u < 0xDC00 ∧ 0xDC00 ≤ v ∧ v < 0xE000 then
        Char.ofNat (0x10000 + (u - 0xD800) * 0x400 + (v - 0xDC00)) :: ofUnits16 us
      else codeShown u ++ ofUnits16 (v :: us)

/-- The text of numbers of characters, if all of them are small enough. -/
def ofCodes? (codes : List Nat) : Option Text :=
  if codes.all (· < 0x110000) then some (codes.flatMap codeShown) else none

/-- A text without the mark of its byte order. -/
def withoutOrderMark : Text → Text
  | '\ufeff' :: cs => cs
  | cs => cs

/-- The text that the bytes of a document write, if they write one. -/
def textOf? (bytes : List Nat) : Option Text :=
  match Encoding.ofBytes bytes with
  | .utf8 => (ofBytes? bytes).map withoutOrderMark
  | .utf16 greaterFirst => (grouped? greaterFirst 2 bytes.length bytes).map ofUnits16
  | .utf32 greaterFirst => (grouped? greaterFirst 4 bytes.length bytes).bind ofCodes?

example : textOf? [0x35, 0] = some "5" := by decide
example : textOf? [0, 0x7B, 0x7D] = some "\x00\x7b\x7d" := by decide
example : textOf? [0x31, 0, 0, 0] = some "1" := by decide

end CommitCheck.Json
