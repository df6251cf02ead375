import CommitCheck.Text.Bytes

/-!
# Percent encoding

A character that may not stand in a part of an address is written by its bytes,
each as a percent sign and two hexadecimal digits.  Which characters may stand
as they are depends on the part.  A percent sign may stand in every part, so
what is encoded already stays as it is.
-/

namespace CommitCheck.Url

/-- Whether a character may stand in every part of an address. -/
def isUnreserved (c : Char) : Bool :=
  c.isAlphanum || c == '-' || c == '.' || c == '_' || c == '~'

/-- Whether a character is a mark of ASCII that is none of the given ones. -/
def isMarkBut (excluded : Text) (c : Char) : Bool :=
  0x20 < c.toNat && c.toNat < 0x7F && !excluded.contains c

/-- Whether a character may stand in a fragment. -/
def inFragment (c : Char) : Bool := isMarkBut "\"<>\x60" c

/-- Whether a character may stand in a query. -/
def inQuery (c : Char) : Bool := isMarkBut "\"#<>" c

/-- Whether a character may stand in a path. -/
def inPath (c : Char) : Bool := isMarkBut "\"#<>?\x60\x7b\x7d" c

/-- Whether a character may stand in the name and the password of a user. -/
def inUser (c : Char) : Bool := isMarkBut "\"#<>?\x60\x7b\x7d/;=@[\\]^|" c

/-- Whether a character may stand in the name of a host. -/
def inHost (c : Char) : Bool :=
  isUnreserved c || ("!$&'()*+,;=\"\x60\x7b\x7d%|\\" : Text).contains c

/-- A byte as a percent sign and two digits. -/
def percentByte (b : Nat) : Text := '%' :: upperHexText 2 b

/-- A character as it stands in a part of an address. -/
def quoteChar (safe : Char → Bool) (c : Char) : Text :=
  if isUnreserved c || safe c then [c] else (charBytes c).flatMap percentByte

/-- A text as it stands in a part of an address. -/
def quote (safe : Char → Bool) (t : Text) : Text := t.flatMap (quoteChar safe)

/-- The bytes that a part of an address stands for, of which the first characters
are skipped. -/
def bytesAfter : Nat → Text → List Nat
  | _, [] => []
  | skip + 1, _ :: cs => bytesAfter skip cs
  | 0, c :: cs =>
      match c, cs with
      | '%', a :: b :: _ =>
          match hexValue? a, hexValue? b with
          | some x, some y => (16 * x + y) :: bytesAfter 2 cs
          | _, _ => charBytes c ++ bytesAfter 0 cs
      | _, _ => charBytes c ++ bytesAfter 0 cs
termination_by structural _ t => t

/-- The text that a part of an address stands for. -/
def unquote (t : Text) : Text := ofBytes (bytesAfter 0 t)

/-- What stands as it is, is quoted by itself. -/
theorem quote_eq_self {safe : Char → Bool} {t : Text}
    (h : ∀ c ∈ t, isUnreserved c = true ∨ safe c = true) : quote safe t = t := by
  induction t with
  | nil => rfl
  | cons c cs ih =>
    have hc : (isUnreserved c || safe c) = true := by simpa using h c (by simp)
    have hcs : quote safe cs = cs := ih fun d hd => h d (by simp [hd])
    simp only [quote] at hcs ⊢
    simp [quoteChar, hc, hcs]

example : quote inPath "/a b/é" = "/a%20b/%C3%A9" := by decide
example : unquote "a%20%C3%A9%" = "a é%" := by decide

end CommitCheck.Url
