import CommitCheck.Text.Blank
import CommitCheck.Text.Width

/-!
# Laying out lines

A tab leads to the next multiple of eight cells.  A line that is too wide is
broken between words.  A word that is wider than a line is cut into pieces as
wide as a line, and starts a line of its own unless it is the first word.  What is
still too wide after that loses blanks at its end, and then what is beyond the
width.

A stretch of a text is told by two places: how many characters stand before it, and
how many before what comes after it.  Two stretches meet if they have a character in
common.

`wrap` gives the lines of a text, and `keepsStretch` says whether a stretch of a line
is among them.
-/

namespace CommitCheck.Console

/-! ## Stretches -/

/-- A stretch of a text. -/
structure Stretch where
  /-- The characters before it. -/
  start : Nat
  /-- The characters before what comes after it. -/
  stop : Nat
deriving DecidableEq

namespace Stretch

/-- Whether there is a character in a stretch. -/
def hasCharacter (s : Stretch) : Bool := s.start < s.stop

/-- What two stretches have in common. -/
def common (s u : Stretch) : Stretch := ⟨max s.start u.start, min s.stop u.stop⟩

/-- Whether two stretches have a character in common. -/
def meets (s u : Stretch) : Bool := (s.common u).hasCharacter

/-- The stretch in the text without so many characters at its start. -/
def dropFront (count : Nat) (s : Stretch) : Stretch := ⟨s.start - count, s.stop - count⟩

end Stretch

/-! ## Tabs -/

/-- What is between the tabs of a line, with spaces for the tabs, from a cell on. -/
def spaceParts (cell : Nat) : List Text → Text
  | [] => []
  | [part] => part
  | part :: next :: parts =>
      let part := part ++ [' ']
      let cell := cell + cells part
      let missing := (8 - cell % 8) % 8
      part ++ List.replicate missing ' ' ++ spaceParts (cell + missing) (next :: parts)
termination_by structural parts => parts

/-- A line with spaces for tabs. -/
def expandTabs (line : Text) : Text := spaceParts 0 (splitAt '\t' line)

/-! ## Words -/

/-- The runs of a line: what is not blank with the blanks after it. -/
def runs : Text → List Text
  | [] => []
  | c :: cs =>
      match runs cs with
      | [] => [[c]]
      | w :: ws =>
          if isBlank c && !(w.head?.map isBlank).getD false then [c] :: w :: ws
          else (c :: w) :: ws
termination_by structural t => t

/-- The words of a line.  Blanks at its start belong to the first one. -/
def lineWords (line : Text) : List Text :=
  match runs line with
  | [] => []
  | [w] => if isBlankText w then [] else [w]
  | w :: v :: ws => if isBlankText w then (w ++ v) :: ws else w :: v :: ws

/-- Clusters put into pieces of at most so many cells, the first of which goes on
after some cells. -/
def chopAfter (width used : Nat) : List Cluster → List Text
  | [] => [[]]
  | k :: ks =>
      if width < used + k.width then
        match chopAfter width k.width ks with
        | [] => [[], k.text]
        | p :: ps => [] :: (k.text ++ p) :: ps
      else match chopAfter width (used + k.width) ks with
        | [] => [k.text]
        | p :: ps => (k.text ++ p) :: ps
termination_by structural ks => ks

/-- A text cut into pieces of at most so many cells. -/
def chop (width : Nat) (t : Text) : List Text := chopAfter width 0 (clusters t)

/-! ## Breaking a line -/

/-- How far a line has been broken: the finished lines, the last one first, the
line at hand, and its cells. -/
structure Broken where
  /-- The finished lines. -/
  done : List Text
  /-- The line at hand. -/
  line : Text
  /-- Its cells. -/
  used : Nat

/-- One word more. -/
def Broken.add (width : Nat) (b : Broken) (word : Text) : Broken :=
  let needed := cells (trimEnd word)
  if b.used + needed ≤ width then { b with line := b.line ++ word, used := b.used + cells word }
  else if width < needed then
    let pieces := chop width word
    let lines := if b.line.isEmpty && b.done.isEmpty then pieces.reverse
      else pieces.reverse ++ b.line :: b.done
    ⟨lines.drop 1, lines.headD [], cells (lines.headD [])⟩
  else if b.used == 0 then { b with line := b.line ++ word }
  else ⟨b.line :: b.done, word, cells word⟩

/-- The lines that a line is broken into. -/
def breakLine (width : Nat) (line : Text) : List Text :=
  match lineWords line with
  | [] => [line]
  | ws =>
      let b := ws.foldl (Broken.add width) ⟨[], [], 0⟩
      (b.line :: b.done).reverse

/-- A line without blanks at its end that are beyond a count of characters. -/
def cutBlanks (width : Nat) (line : Text) : Text :=
  let blanks := line.length - (trimEnd line).length
  line.take (line.length - min blanks (line.length - width))

/-- Clusters cut to so many cells.  Half a wide one is a space. -/
def cutClusters (width : Nat) : List Cluster → Text
  | [] => []
  | k :: ks =>
      if k.width ≤ width then k.text ++ cutClusters (width - k.width) ks
      else List.replicate width ' '
termination_by structural ks => ks

/-- What is left of a line that is too wide. -/
def fit (width : Nat) (line : Text) : Text :=
  let l := cutBlanks width line
  if width < cells l then cutClusters width (clusters l) else l

/-- The lines of a line on a console of a width. -/
def wrapLine (width : Nat) (line : Text) : List Text :=
  (breakLine width (expandTabs line)).map (fit width)

/-- The lines of a text on a console of a width. -/
def wrap (width : Nat) (t : Text) : List Text := (linesOf t).flatMap (wrapLine width)

/-! ## What is left -/

/-- The stretches that are left of the pieces of a line, from a place on. -/
def leftStretches (width : Nat) : Nat → List Text → List Stretch
  | _, [] => []
  | place, piece :: pieces =>
      ⟨place, place + (fit width piece).length⟩ ::
        leftStretches width (place + piece.length) pieces
termination_by structural _ pieces => pieces

/-- A stretch of a line after its tabs have become spaces. -/
def Stretch.withTabs (line : Text) (s : Stretch) : Stretch :=
  ⟨(expandTabs (line.take s.start)).length, (expandTabs (line.take s.stop)).length⟩

/-- Whether some of a stretch of a line is left. -/
def keepsStretch (width : Nat) (line : Text) (s : Stretch) : Bool :=
  (leftStretches width 0 (breakLine width (expandTabs line))).any (s.withTabs line).meets

/-- Whether a line is left as one, up to a place and beyond, if it has no tabs. -/
def keepsPlace (width : Nat) (line : Text) (place : Nat) : Bool :=
  match breakLine width line with
  | [l] => (fit width l).length == l.length || place < (fit width l).length
  | _ => false

example : wrap 6 "ab cd efg\thijklmnop" = (["ab cd ", "efg   ", "hijklm", "nop"] : List Text) := by
  decide +kernel

end CommitCheck.Console
