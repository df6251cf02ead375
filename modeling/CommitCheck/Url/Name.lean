import CommitCheck.Text.Composed
import CommitCheck.Url.Name.Code
import CommitCheck.Url.Name.Context
import CommitCheck.Url.Name.Direction
import CommitCheck.Url.Name.Letters

/-!
# Names of hosts

A name outside ASCII stands in an address label by label in ASCII.  Full stops of
other scripts part labels too.  A full stop at the end belongs to the name.

A label is in composed form, has its hyphens inside and none at its third and fourth
place together, does not start with a mark, and has only characters that may stand
where they do, in directions that go together.  A label outside ASCII is written
with `xn--` in front of its code, and only the code written for a label is read as
it.  `LabelFault` says what is wrong with a label.

`Name.toAscii` gives the name as it stands in an address, and `Name.ofAscii` the
name that is meant.
-/

namespace CommitCheck.Url

/-- What is wrong with a label. -/
inductive LabelFault where
  /-- It is too long or empty, not in composed form, has a hyphen or a mark in the
  wrong place or a joiner after a character without a name, or its code cannot be
  read or is not the one that is written for it. -/
  | malformed
  /-- It has a character that no label has. -/
  | character
  /-- It has a character that lacks company. -/
  | company
  /-- Its directions do not go together. -/
  | direction
deriving DecidableEq

namespace Name

/-! ## Labels -/

/-- Whether the hyphens of a label stand where they may. -/
def hyphensFit (label : List Nat) : Bool :=
  (label.drop 2).take 2 != [0x2D, 0x2D] && label.head? != some 0x2D && label.getLast? != some 0x2D

/-- Whether a label starts with a mark. -/
def startsWithMark (label : List Nat) : Bool :=
  match label with
  | [] => false
  | n :: _ => markRanges.has n

/-- What is wrong with the characters of a label, of which some have been looked at.
Those are told from the last one on. -/
def characterFault? : List Nat → List Nat → Option LabelFault
  | _, [] => none
  | before, n :: after =>
      if isLetter n then characterFault? (n :: before) after
      else if isJoiner n then
        if afterUnnamed before then some .malformed
        else if mayJoin n before after then characterFault? (n :: before) after
        else some .company
      else if needsCompany n then
        if hasCompany n before after then characterFault? (n :: before) after else some .company
      else some .character
termination_by structural _ after => after

/-- The greatest length of a name, counted with a full stop at its end. -/
def nameLimit : Nat := 254

/-- The greatest length of a label in ASCII. -/
def labelLimit : Nat := 63

/-- What is wrong with a label, if anything. -/
def labelFault? (label : List Nat) : Option LabelFault :=
  if label.isEmpty || nameLimit < label.length || !isComposed label || !hyphensFit label ||
      startsWithMark label then some .malformed
  else match characterFault? [] label with
    | some e => some e
    | none => if agree (label.map Direction.ofCode) then none else some .direction

/-- A label, unless something is wrong with it. -/
def checked (label : List Nat) : Except LabelFault (List Nat) :=
  match labelFault? label with
  | some e => .error e
  | none => .ok label

/-- What stands before the code of a label. -/
def codeMark : Text := "xn--"

/-- The label that a label in ASCII stands for. -/
def readLabel (label : Text) : Except LabelFault (List Nat) :=
  match after? codeMark (lowercase label) with
  | none => checked ((lowercase label).map Char.toNat)
  | some code =>
      if code.isEmpty || code.getLast? == some '-' then .error .malformed
      else match decode (code.map Char.toNat) with
        | none => .error .malformed
        | some label => if encode label = code then checked label else .error .malformed

/-- A label in ASCII, with the code if it needs one. -/
def writeLabel (label : Text) : Except LabelFault Text := do
  let written ← if label.all (·.toNat < 0x80) then do
      let _ ← readLabel label
      pure label
    else do
      let codes ← checked (label.map Char.toNat)
      pure (codeMark ++ encode codes)
  if labelLimit < written.length then .error .malformed else .ok written

/-! ## Names -/

/-- Whether a character parts labels. -/
def isStop (c : Char) : Bool :=
  c == '.' || c.toNat == 0x3002 || c.toNat == 0xFF0E || c.toNat == 0xFF61

/-- The labels of a name, and the full stop at its end if it has one. -/
def labels (name : Text) : List Text × Text :=
  let parts := splitAt '.' (name.map fun c => if isStop c then '.' else c)
  if parts.getLast? == some [] then (parts.dropLast, ['.']) else (parts, [])

/-- A name as it stands in an address. -/
def toAscii (name : Text) : Except LabelFault Text := do
  if nameLimit < name.length then .error .malformed
  else
    let (parts, ending) := labels name
    if parts.isEmpty then .error .malformed
    else
      let written ← parts.mapM writeLabel
      let whole := joinWith ['.'] written ++ ending
      if nameLimit < whole.length + (1 - ending.length) then .error .malformed else .ok whole

/-- The name that is meant by one in ASCII. -/
def ofAscii (name : Text) : Except LabelFault Text := do
  if nameLimit < name.length then .error .malformed
  else
    let (parts, ending) := labels name
    if parts.isEmpty then .error .malformed
    else
      let read ← parts.mapM readLabel
      .ok (joinWith ['.'] (read.map fun label => label.map Char.ofNat) ++ ending)

example : (toAscii "müller.de").toOption = some ("xn--mller-kva.de" : Text) := by decide +kernel
example : (ofAscii "xn--mller-kva.de").toOption = some ("müller.de" : Text) := by decide +kernel

end Name

end CommitCheck.Url
