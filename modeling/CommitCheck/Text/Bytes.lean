import CommitCheck.Text.Basic

/-!
# Texts as bytes

The bytes of a text in UTF-8, each as a natural number, and back.  A byte that
starts no character is read as a replacement character, and so is the start of a
character that breaks off.
-/

namespace CommitCheck

/-- The bytes of a character. -/
def charBytes (c : Char) : List Nat := (String.utf8EncodeChar c).map UInt8.toNat

/-- The bytes of a text. -/
def textBytes (t : Text) : List Nat := t.flatMap charBytes

/-- The bytes that can follow a first byte: how many there are, and the least and
the greatest second byte.  The bounds leave out numbers that fewer bytes write, and
numbers of no character. -/
def followers (b : Nat) : Nat × Nat × Nat :=
  if b < 0xC2 then (0, 0, 0)
  else if b < 0xE0 then (1, 0x80, 0xBF)
  else if b = 0xE0 then (2, 0xA0, 0xBF)
  else if b = 0xED then (2, 0x80, 0x9F)
  else if b < 0xF0 then (2, 0x80, 0xBF)
  else if b = 0xF0 then (3, 0x90, 0xBF)
  else if b < 0xF4 then (3, 0x80, 0xBF)
  else if b = 0xF4 then (3, 0x80, 0x8F)
  else (0, 0, 0)

/-- The bytes after a first byte that belong to its character, as far as they are
there. -/
def followersIn (b : Nat) (bs : List Nat) : List Nat :=
  let (count, lo, hi) := followers b
  match bs.take count with
  | [] => []
  | c :: cs => if lo ≤ c && c ≤ hi then c :: cs.takeWhile (fun d => 0x80 ≤ d && d ≤ 0xBF) else []

/-- The bits of the number of a character that its first byte holds, by how many
bytes follow. -/
def firstBits (b count : Nat) : Nat :=
  if count = 0 then b else if count = 1 then b - 0xC0 else if count = 2 then b - 0xE0 else b - 0xF0

/-- The character at the start of bytes, and how many bytes after the first one
belong to it.  Bytes that begin a character and break off are one replacement
character together. -/
def firstChar (b : Nat) (bs : List Nat) : Char × Nat :=
  let rest := followersIn b bs
  if 0x80 ≤ b && (rest.isEmpty || rest.length != (followers b).1) then ('\ufffd', rest.length)
  else (Char.ofNat (rest.foldl (fun n d => n * 64 + (d - 0x80)) (firstBits b rest.length)),
    rest.length)

/-- The text of bytes, of which the first ones are skipped. -/
def ofBytesAfter : Nat → List Nat → Text
  | _, [] => []
  | skip + 1, _ :: bs => ofBytesAfter skip bs
  | 0, b :: bs =>
      let (c, count) := firstChar b bs
      c :: ofBytesAfter count bs
termination_by structural _ bs => bs

/-- The text of bytes. -/
def ofBytes (bs : List Nat) : Text := ofBytesAfter 0 bs

/-- The text whose bytes these are, if there is one. -/
def ofBytes? (bs : List Nat) : Option Text :=
  if textBytes (ofBytes bs) = bs then some (ofBytes bs) else none

example : textBytes "é€" = [0xC3, 0xA9, 0xE2, 0x82, 0xAC] := by decide
example : ofBytes [0x61, 0xC3, 0xA9, 0xE2, 0x82, 0x41] = "aé\ufffdA" := by decide
example : ofBytes [0xC0, 0x80, 0xF0, 0x9F, 0x92] = "\ufffd\ufffd\ufffd" := by decide

end CommitCheck
