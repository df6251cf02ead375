import CommitCheck.Commit.Message

/-!
# References to issues

A message may refer to an issue in its header or in its body.  The header does
so by starting with `Issue #`, a number and a colon.  The body does so where it
has `Issue #` and a number or the word `nil`, and the leftmost such place
counts.  A number is the longest run of the digits 0 to 9.  The word `nil`
states that no issue applies.

`find?` looks in one place, and `first?` in several in turn.
-/

namespace CommitCheck

/-- A part of a message that can hold a reference. -/
inductive Place where
  /-- The header. -/
  | header
  /-- The body. -/
  | body
deriving DecidableEq, Inhabited

namespace Place

/-- The name of a part of a message. -/
def name : Place → Text
  | header => "header"
  | body => "body"

/-- The part of a message with the given name. -/
def ofName? (t : Text) : Option Place :=
  if t = name header then some header else if t = name body then some body else none

end Place

/-- A reference to an issue. -/
structure Reference where
  /-- Where it was found. -/
  place : Place
  /-- The number of the issue, or the word that says there is none. -/
  id : Text
deriving DecidableEq, Inhabited

/-- What stands before the number of an issue. -/
def Header.issueMark : Text := "Issue #"

namespace Reference

/-- The word that stands for no issue. -/
def nil : Text := "nil"

/-- Whether a reference states that no issue applies. -/
def isNil (r : Reference) : Bool := r.id == nil

/-- The number that a header names: the header starts with it and a colon follows. -/
def inHeader? (h : Text) : Option Text :=
  match after? Header.issueMark h with
  | none => none
  | some rest =>
      let ds := rest.takeWhile Char.isDigit
      if !ds.isEmpty && (rest.dropWhile Char.isDigit).head? == some ':' then some ds else none

/-- The number or the word that stands at the start of a text after the mark. -/
def here? (t : Text) : Option Text :=
  match after? Header.issueMark t with
  | none => none
  | some rest =>
      let ds := rest.takeWhile Char.isDigit
      if !ds.isEmpty then some ds else if nil.isPrefixOf rest then some nil else none

/-- The leftmost reference of a body. -/
def inBody? : Text → Option Text
  | [] => none
  | c :: cs => match here? (c :: cs) with
      | some id => some id
      | none => inBody? cs
termination_by structural t => t

/-- The reference that a part of a message holds. -/
def find? (m : Message) : Place → Option Reference
  | .header => (inHeader? m.header).map (⟨.header, ·⟩)
  | .body => (m.body.bind inBody?).map (⟨.body, ·⟩)

/-- The reference of the first part that holds one. -/
def first? (m : Message) (places : List Place) : Option Reference := places.findSome? (find? m)

/-- The parts in the order in which they count: the header before the body. -/
def defaultPlaces : List Place := [.header, .body]

example : first? ⟨"fix: x", some "see Issue #x, Issue #12a, Issue #nil"⟩ defaultPlaces =
    some ⟨.body, "12"⟩ := by decide
example : first? ⟨"Issue #7: x", some "Issue #8"⟩ defaultPlaces = some ⟨.header, "7"⟩ := by decide

end Reference

end CommitCheck
