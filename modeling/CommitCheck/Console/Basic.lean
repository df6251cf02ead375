import CommitCheck.Console.Layout
import CommitCheck.Console.Markup
import CommitCheck.Run.Basic

/-!
# The console

A console shows texts with markup, each followed by a line end.  One with a width
breaks lines that are too long, one without leaves them as they are.

A text with a garbled style cannot be shown.  A style that is not used does no
harm: one of characters that are all line ends or have been cut off, and one of no
characters in a text that the console has taken apart.
-/

namespace CommitCheck

/-- A console, by its width if it breaks lines. -/
structure Console where
  /-- The width in cells. -/
  width : Option Nat
deriving DecidableEq

namespace Console

/-- The console that breaks no lines. -/
def endless : Console := ⟨none⟩

/-- The console of the usual width. -/
def standard : Console := ⟨some 80⟩

/-- The lines of a shown text. -/
def linesFor (c : Console) (shown : Text) : List Text :=
  match c.width with
  | none => (linesOf shown).map expandTabs
  | some w => wrap w shown

/-- Whether some of a stretch of a line is shown. -/
def showsOfLine (c : Console) (line : Text) (s : Stretch) : Bool :=
  match c.width with
  | none => true
  | some w => keepsStretch w line s

/-- Whether some of a stretch of a text with such lines is shown. -/
def showsOfLines (c : Console) : List Text → Stretch → Bool
  | [], _ => false
  | line :: lines, s =>
      let part := s.common ⟨0, line.length⟩
      (part.hasCharacter && c.showsOfLine line part) ||
        c.showsOfLines lines (s.dropFront (line.length + 1))
termination_by structural lines => lines

/-- Whether a text stays in one piece, up to a place and beyond. -/
def showsPlace (c : Console) (t : Text) (place : Nat) : Bool :=
  !t.contains '\n' && !t.contains '\t' && match c.width with
    | none => true
    | some w => keepsPlace w t place

/-- Whether the style of a stretch of a text is used. -/
def uses (c : Console) (t : Text) (s : Stretch) : Bool :=
  if s.hasCharacter then c.showsOfLines (linesOf t) s else c.showsPlace t s.start

/-- What a text puts on the console. -/
def output (c : Console) (t : Text) : Except Failure Text := do
  let shown ← render t
  if shown.garbled.any (c.uses shown.text) then .error .badValue
  else .ok (ofLines (c.linesFor shown.text) ++ ['\n'])

/-- A text is put on the console. -/
def print (c : Console) (t : Text) : Run Unit := do
  let shown ← Run.ofExcept (c.output t)
  Run.record (.printed shown)

end Console

end CommitCheck
