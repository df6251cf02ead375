import CommitCheck.Commit.Reference
import CommitCheck.Context
import CommitCheck.Record.Reading
import CommitCheck.Rule.Verdict

/-!
# Records from named values

Messages, references, verdicts, outcomes, reports and contexts built from named
values.  Names that a record does not know are passed over.

A record that was built can be given other values by name.  Most records cannot
change (`frozen`).  An outcome and a report take any value unread.  So a changed
outcome is no longer an outcome but a table of values, and a changed report is
loose until it is read.
-/

namespace CommitCheck

open Checked (both required optional within fault)

/-- The record that a value is. -/
def Value.readRecord {α : Type} (read : Fields → Checked α) : Value → Checked α
  | .table fs => read fs
  | _ => fault .notRecord

/-- A reading as a result. -/
def Checked.orInvalid {α : Type} : Checked α → Except Failure α
  | .ok a => .ok a
  | .error es => .error (.invalidRecord es)

/-- The message of named values. -/
def Message.ofFields (fs : Fields) : Checked Message :=
  both Message.mk (required fs "header" Value.readText)
    (optional fs "body" none Value.readOptionalText)

/-- The part of a message that a value names. -/
def Value.readPlace : Value → Checked Place
  | .text t => match Place.ofName? t with
      | some p => .ok p
      | none => fault .notListed
  | _ => fault .notListed

/-- The reference of named values. -/
def Reference.ofFields (fs : Fields) : Checked Reference :=
  both Reference.mk (required fs "location" Value.readPlace) (required fs "id" Value.readText)

namespace Verdict

/-- What is said of a failure that has no message. -/
def unexplained : Text := "A failing validation result needs a message"

/-- The verdict of named values. -/
def ofFields (fs : Fields) : Checked Verdict := do
  let (valid, message) ← both Prod.mk (required fs "valid" Value.readBool)
    (optional fs "message" none Value.readOptionalText)
  match Verdict.of? valid message with
  | some v => pure v
  | none => fault (.refused unexplained)

end Verdict

/-- The outcome of named values. -/
def Outcome.ofFields (fs : Fields) : Checked Outcome :=
  both (fun f g => f g.1 g.2)
    (both Outcome.mk (required fs "rule" Value.readText) (required fs "level" Value.readLevel))
    (both Prod.mk (required fs "valid" Value.readBool)
      (optional fs "message" none Value.readOptionalText))

/-- The report of named values. -/
def Report.ofFields (fs : Fields) : Checked Report :=
  both (fun f g => f g.1 g.2)
    ((required fs "commit" (Value.readRecord Message.ofFields)).map Report.mk)
    (both Prod.mk (optional fs "sha" none Value.readOptionalText)
      (optional fs "outcomes" [] (Checked.list (Value.readRecord Outcome.ofFields))))

/-- The name of a commit that a value is. -/
def Report.readSha (v : Value) : Checked (Option Text) :=
  within (.field "sha") v.readOptionalText

/-- The context of named values. -/
def RepositoryContext.ofFields (fs : Fields) : Checked RepositoryContext :=
  both RepositoryContext.mk (required fs "repository" Value.readText)
    (required fs "token" Value.readText)

/-! ## Giving a record other values -/

/-- A text or nothing, as a value. -/
def Value.ofOption : Option Text → Value
  | none => .null
  | some t => .text t

/-- The fields of an outcome. -/
def Outcome.fields (o : Outcome) : Fields :=
  [("rule", .text o.rule), ("level", .int o.level.toNat), ("valid", .bool o.valid),
    ("message", .ofOption o.message)]

/-- Whether a name is set aside, so that a value under it has no effect. -/
def isAside (name : Text) : Bool := name.head? == some '_'

/-- What goes wrong where a value is given under a name set aside, if anything: a
few of these names belong to the record itself. -/
def asideFailure? (name : Text) (v : Value) : Option Failure :=
  if name = ("__class__" : Text) then some .wrongKind
  else if name = ("__dict__" : Text) then
    match v with
    | .table _ => some .lacking
    | _ => some .wrongKind
  else if name = ("__weakref__" : Text) ∨ name = ("__fields_set__" : Text) then some .lacking
  else none

/-- Giving a value under a name set aside. -/
def assignAside (name : Text) (v : Value) : Except Failure Unit :=
  match asideFailure? name v with
  | some e => .error e
  | none => .ok ()

/-- The names under which a record tells of itself. -/
def ownNames : List Text := ["model_extra", "model_fields_set"]

/-- Giving values to a record that cannot change fails at the first of them. -/
def assignFrozen {α : Type} (record : α) : Fields → Except Failure α
  | [] => .ok record
  | (name, v) :: rest =>
      if isAside name then do
        assignAside name v
        assignFrozen record rest
      else .error (.invalidRecord [.inField name .frozen])
termination_by structural settings => settings

/-- Giving values to the fields of a record that takes any value. -/
def assignAny (record : Fields) : Fields → Except Failure Fields
  | [] => .ok record
  | (name, v) :: rest =>
      if isAside name then do
        assignAside name v
        assignAny record rest
      else if record.has name then assignAny (record.set name v) rest
      else if ownNames.contains name then .error .lacking
      else .error .badValue

/-! ## Reports with values unread -/

/-- A report some of whose fields were given values unread. -/
structure LooseReport where
  /-- The commit, unless it was replaced. -/
  commit : Option Message
  /-- The name of the commit. -/
  sha : Value
  /-- The outcomes, or the value that replaced them. -/
  outcomes : List Outcome ⊕ Value

namespace LooseReport

/-- A report before any of its fields is given a value. -/
def ofReport (r : Report) : LooseReport := ⟨some r.commit, .ofOption r.sha, .inl r.outcomes⟩

/-- The names of what a report computes from its fields. -/
def computed : List Text := ["errors", "warnings", "valid"]

/-- A report with a field given a value. -/
def set (r : LooseReport) (name : Text) (v : Value) : Except Failure LooseReport :=
  if name = ("commit" : Text) then .ok { r with commit := none }
  else if name = ("sha" : Text) then .ok { r with sha := v }
  else if name = ("outcomes" : Text) then .ok { r with outcomes := .inr v }
  else if computed.contains name || ownNames.contains name then .error .lacking
  else .error .badValue

/-- A report with several fields given values, one after another. -/
def setAll (r : LooseReport) : Fields → Except Failure LooseReport
  | [] => .ok r
  | (name, v) :: rest =>
      if isAside name then do
        assignAside name v
        setAll r rest
      else do
        let r ← r.set name v
        setAll r rest
termination_by structural settings => settings

/-- The outcomes that a value holds.  No item of a value is an outcome, so only an
empty value holds as many as it has items. -/
def outcomesOf : Value → Except Failure (List Outcome)
  | .text t => if t.isEmpty then .ok [] else .error .lacking
  | .list items => if items.isEmpty then .ok [] else .error .lacking
  | .table fields => if fields.isEmpty then .ok [] else .error .lacking
  | .torn _ => .error .lacking
  | _ => .error .wrongKind

/-- The report, without the name of its commit, and that name. -/
def read (r : LooseReport) : Except Failure (Report × Value) :=
  match r.commit with
  | none => .error .lacking
  | some commit => do
      let outcomes ← match r.outcomes with
        | .inl os => .ok os
        | .inr v => outcomesOf v
      .ok (⟨commit, none, outcomes⟩, r.sha)

end LooseReport

/-- Giving values to a report, and reading it. -/
def Report.assign (r : Report) (settings : Fields) : Except Failure (Report × Value) := do
  let loose ← (LooseReport.ofReport r).setAll settings
  loose.read

end CommitCheck
