import CommitCheck.Commit.Message
import CommitCheck.Text.Basic

/-!
# Verdicts, outcomes and reports

A rule answers with a verdict.  A verdict that fails a commit has a message, and
the type says so.  What a rule said about a commit, under which name and at
which level it was asked, is an outcome.  A report holds what every enabled rule
said about one commit.
-/

namespace CommitCheck

/-- How grave it is to break a rule. -/
inductive Level where
  /-- The rule is not asked. -/
  | disabled
  /-- The failure is reported only. -/
  | warning
  /-- The failure makes the commit invalid. -/
  | error
deriving DecidableEq, Inhabited

namespace Level

/-- The number of a level. -/
def toNat : Level → Nat
  | disabled => 0
  | warning => 1
  | error => 2

/-- The level of a number. -/
def ofInt? (n : Int) : Option Level :=
  if n = 0 then some disabled else if n = 1 then some warning
  else if n = 2 then some error else none

theorem ofInt?_toNat (l : Level) : ofInt? l.toNat = some l := by cases l <;> rfl

end Level

/-- The answer of a rule. -/
structure Verdict where
  /-- Whether the commit keeps the rule. -/
  valid : Bool
  /-- What the rule says about it. -/
  message : Option Text
  /-- A failure is explained. -/
  explained : valid = true ∨ message.getD [] ≠ []
deriving DecidableEq

namespace Verdict

/-- The verdict that passes a commit without a word. -/
def pass : Verdict := ⟨true, none, .inl rfl⟩

/-- The verdict of the given parts, unless it is a failure without a message. -/
def of? (valid : Bool) (message : Option Text) : Option Verdict :=
  if h : valid = true ∨ message.getD [] ≠ [] then some ⟨valid, message, h⟩ else none

/-- The verdict that fails a commit with a message that is known not to be empty. -/
def failing (message : Text) (h : message ≠ []) : Verdict := ⟨false, some message, .inr h⟩

instance : Inhabited Verdict := ⟨pass⟩

end Verdict

/-- What a rule said about a commit. -/
structure Outcome where
  /-- The name of the rule. -/
  rule : Text
  /-- The level it was asked at. -/
  level : Level
  /-- Whether the commit keeps the rule. -/
  valid : Bool
  /-- What the rule said. -/
  message : Option Text
deriving DecidableEq, Inhabited

namespace Outcome

/-- The outcome of a verdict. -/
def ofVerdict (rule : Text) (level : Level) (v : Verdict) : Outcome :=
  ⟨rule, level, v.valid, v.message⟩

/-- Whether an outcome makes a commit invalid. -/
def isError (o : Outcome) : Bool := !o.valid && o.level == .error

/-- Whether an outcome is a failure that is reported only. -/
def isWarning (o : Outcome) : Bool := !o.valid && o.level == .warning

end Outcome

/-- All outcomes for one commit. -/
structure Report where
  /-- The commit. -/
  commit : Message
  /-- Its name in the repository, if it has one. -/
  sha : Option Text
  /-- The outcomes, in the order of the rules. -/
  outcomes : List Outcome
deriving DecidableEq, Inhabited

namespace Report

/-- The outcomes that make the commit invalid. -/
def errors (r : Report) : List Outcome := r.outcomes.filter Outcome.isError

/-- The failures that are reported only. -/
def warnings (r : Report) : List Outcome := r.outcomes.filter Outcome.isWarning

/-- Whether the commit keeps every rule of the highest level. -/
def valid (r : Report) : Bool := r.errors.isEmpty

/-- Whether there is anything to report. -/
def hasProblems (r : Report) : Bool := !r.errors.isEmpty || !r.warnings.isEmpty

/-- The short name of the commit, if it has a name that is not empty. -/
def shortSha? (r : Report) : Option Text :=
  match r.sha with
  | none => none
  | some [] => none
  | some s => some (s.take 12)

end Report

end CommitCheck
