import CommitCheck.Text.Basic
import CommitCheck.Text.CharacterName.FromA
import CommitCheck.Text.CharacterName.FromC
import CommitCheck.Text.CharacterName.FromG
import CommitCheck.Text.CharacterName.FromM
import CommitCheck.Text.CharacterName.FromS

/-!
# Names of characters

A character has a name in capitals, which is read in any case.  Some have more than
one.  Three families of names are made by rule.

* The name of a Chinese character ends with its number, in four or five digits.
* The name of a Korean syllable ends with its sounds: the first consonant, if it has
  one, the vowel, and the last consonant, if it has one.  At each of the three places
  the longest sound is read that fits.
* In a few other families a name ends with the number of the character, without a zero
  too many.

All other names stand in a long table, written in order.  A name mostly starts like
the one before it, so it is written as a step: how many characters it keeps of the
name before, and what comes after these.  The number is written in small letters
and is the sum of their values, from 0 for `a` to 25 for `z`.

Names of the first two kinds are read in capitals only.  `isCharacterName` says whether
a text names a character.
-/

namespace CommitCheck

namespace CharacterName

/-! ## Names that follow each other -/

/-- A name as it is written after another one. -/
structure Step where
  /-- How many characters it keeps of the name before. -/
  kept : Nat
  /-- What comes after these. -/
  rest : Text
deriving DecidableEq

/-- The name that a step leads to. -/
def Step.after (before : Text) (s : Step) : Text := before.take s.kept ++ s.rest

/-- The value of a small letter. -/
def letterValue (c : Char) : Nat := c.toNat - 'a'.toNat

/-- A character in front of the end of a line, which is what comes after the numbers
of the first step of it and the other steps. -/
def addFront (c : Char) (line : Text × List Step) : Text × List Step :=
  if c.isLower then
    match line with
    | ([], s :: steps) => ([], { s with kept := s.kept + letterValue c } :: steps)
    | (rest, steps) => ([], ⟨letterValue c, rest⟩ :: steps)
  else (c :: line.1, line.2)

/-- The steps of a line. -/
def stepsIn (line : Text) : List Step := (line.foldr addFront ([], [])).2

/-- Whether a name has been found, and the last name, after a step more. -/
def look (name : Text) (found : Bool × Text) (s : Step) : Bool × Text :=
  let next := s.after found.2
  (found.1 || next == name, next)

/-- Whether a name is in the lines of a table. -/
def isListed (lines : List String) (name : Text) : Bool :=
  (lines.foldl (fun found line => (stepsIn line.toList).foldl (look name) found) (false, [])).1

example : stepsIn "aABzbC" = [⟨0, "AB"⟩, ⟨26, "C"⟩] := by decide +kernel
example : isListed ["aABLEdDbC", "bT"] "AT" = true := by decide +kernel
example : isListed ["aABLEdDbC", "bT"] "AB" = false := by decide +kernel

/-! ## Names with numbers -/

/-- Whether a text is a hexadecimal number in capitals. -/
def isCapitalCode (t : Text) : Bool := t.all fun c => (hexValue? c).isSome && !c.isLower

/-- The Chinese characters that are named by their numbers. -/
def chineseRanges : CodeRanges := [
  (0x3400, 0x4DBF), (0x4E00, 0x9FFF), (0x20000, 0x2A6DF), (0x2A700, 0x2B738), (0x2B740, 0x2B81D),
   (0x2B820, 0x2CEA1), (0x2CEB0, 0x2EBE0), (0x30000, 0x3134A)]

/-- Whether a text names a Chinese character. -/
def isChinese (t : Text) : Bool := match after? "CJK UNIFIED IDEOGRAPH-" t with
  | none => false
  | some code =>
      (code.length == 4 || code.length == 5) && isCapitalCode code &&
        chineseRanges.has (ofBaseDigits 16 code)

/-- The other families with numbers: what their names start with, and the numbers. -/
def numberedFamilies : List (Text × CodeRanges) := [
  ("CJK COMPATIBILITY IDEOGRAPH-", [(0xF900, 0xFA6D), (0xFA70, 0xFAD9), (0x2F800, 0x2FA1D)]),
  ("KHITAN SMALL SCRIPT CHARACTER-", [(0x18B00, 0x18CD5)]),
  ("NUSHU CHARACTER-", [(0x1B170, 0x1B2FB)])]

/-- Whether a text names a character of a family. -/
def isOfFamily (t : Text) (family : Text × CodeRanges) : Bool := match after? family.1 t with
  | none => false
  | some code =>
      let n := ofBaseDigits 16 code
      isCapitalCode code && family.2.has n && code == upperHexText 4 n

/-! ## Korean syllables -/

/-- The consonants that a syllable starts with, and their lack. -/
def firstSounds : List Text := ["G", "GG", "N", "D", "DD", "R", "M", "B", "BB", "S", "SS", "", "J",
  "JJ", "C", "K", "T", "P", "H"]

/-- The vowels of syllables. -/
def vowelSounds : List Text := ["A", "AE", "YA", "YAE", "EO", "E", "YEO", "YE", "O", "WA", "WAE",
  "OE", "YO", "U", "WEO", "WE", "WI", "YU", "EU", "YI", "I"]

/-- The consonants that a syllable ends with, and their lack. -/
def lastSounds : List Text := ["", "G", "GG", "GS", "N", "NJ", "NH", "D", "L", "LG", "LM", "LB",
  "LS", "LT", "LP", "LH", "M", "B", "BS", "S", "SS", "NG", "J", "C", "K", "T", "P", "H"]

/-- The longer one of two texts, the first one if they are of one length. -/
def longer (a b : Text) : Text := if a.length < b.length then b else a

/-- What comes after the longest of some sounds that a text starts with, if it starts
with one. -/
def afterSound? (sounds : List Text) (t : Text) : Option Text :=
  match sounds.filter (·.isPrefixOf t) with
  | [] => none
  | s :: ss => some (t.drop (ss.foldl longer s).length)

/-- Whether a text names a Korean syllable. -/
def isSyllable (t : Text) : Bool :=
  ((after? "HANGUL SYLLABLE " t).bind fun sounds =>
    ((afterSound? firstSounds sounds).bind (afterSound? vowelSounds)).bind
      (afterSound? lastSounds)) == some []

/-! ## All names -/

/-- Whether a name in capitals is in a table. -/
def isInTable (name : Text) : Bool :=
  isListed linesFromA name || isListed linesFromC name || isListed linesFromG name ||
    isListed linesFromM name || isListed linesFromS name

end CharacterName

open CharacterName in
/-- Whether a text names a character. -/
def isCharacterName (t : Text) : Bool :=
  let name := t.map Char.toUpper
  isChinese t || isSyllable t || numberedFamilies.any (isOfFamily name) || isInTable name

example : CharacterName.isChinese "CJK UNIFIED IDEOGRAPH-4E00" = true := by decide +kernel
example : CharacterName.isSyllable "HANGUL SYLLABLE GGA" = true := by decide +kernel
example : CharacterName.isSyllable "HANGUL SYLLABLE GG" = false := by decide +kernel

end CommitCheck
