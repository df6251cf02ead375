import CommitCheck.Text.Basic

/-!
# Faults in fields

When a record is built from named values, each value that its field cannot take
is a fault.  A fault has a place, the path of names and positions that leads to
the value, and a kind.
-/

namespace CommitCheck

/-- One step to a value inside another. -/
inductive Step where
  /-- The field of a name. -/
  | field (name : Text)
  /-- The item at a position of a list. -/
  | item (index : Nat)
deriving DecidableEq

/-- Why a field cannot take a value. -/
inductive FaultKind where
  /-- The field has to be given and is not. -/
  | missing
  /-- A text is needed. -/
  | notText
  /-- A truth value is needed. -/
  | notBool
  /-- The value could be a truth value but does not write one. -/
  | unreadableBool
  /-- A number is needed. -/
  | notNumber
  /-- The text does not write a number. -/
  | unreadableNumber
  /-- The number is not greater than zero. -/
  | notPositive
  /-- The value is none of those that the field knows. -/
  | notListed
  /-- The whole number is too large to be looked at. -/
  | tooLarge
  /-- A record is needed. -/
  | notRecord
  /-- A list is needed. -/
  | notList
  /-- The record cannot change. -/
  | frozen
  /-- The value breaks a rule of its record. -/
  | refused (reason : Text)
deriving DecidableEq

/-- A value that a field cannot take. -/
structure Fault where
  /-- The way to the value. -/
  place : List Step
  /-- Why it cannot be taken. -/
  kind : FaultKind
deriving DecidableEq

namespace Step

/-- A step as it appears in a message. -/
def text : Step → Text
  | field name => name
  | item index => natText index

end Step

namespace FaultKind

/-- The reason in words. -/
def text : FaultKind → Text
  | missing => "a value is required"
  | notText => "a text is required"
  | notBool => "a truth value is required"
  | unreadableBool => "this does not write a truth value"
  | notNumber => "a number is required"
  | unreadableNumber => "this does not write a number"
  | notPositive => "the number must be greater than 0"
  | notListed => "the value is not one of those allowed"
  | tooLarge => "the whole number is too large"
  | notRecord => "a record is required"
  | notList => "a list is required"
  | frozen => "the record cannot change"
  | refused reason => reason

end FaultKind

namespace Fault

/-- A fault in a field of the outermost record. -/
def inField (name : Text) (kind : FaultKind) : Fault := ⟨[.field name], kind⟩

/-- A fault seen from one step further out. -/
def within (step : Step) (f : Fault) : Fault := ⟨step :: f.place, f.kind⟩

/-- A fault as one line of a message. -/
def text (f : Fault) : Text := joinWith ['.'] (f.place.map Step.text) ++ ':' :: ' ' :: f.kind.text

end Fault

end CommitCheck
