import CommitCheck.Run.Basic
import CommitCheck.Value.Basic

/-!
# The linter

A linter has rules, each under a name and at a level, and observers.  Its rules
are in the order in which their names were first registered; to register a name
again replaces its rule and level in place.

A rule is asked about a commit and answers with a verdict.  It may ask others on
the way, so its answer is a run.

To lint a commit is to run each rule whose level is not `disabled`, in order,
and then to tell every observer of the report.  If a rule fails, the run ends
there.  `lintMany` lints several commits, each whatever came of the others.
-/

namespace CommitCheck

/-! ## Rules -/

/-- A rule about commits. -/
abbrev Rule := Message → Run Verdict

/-- Tells whether an issue exists in a repository. -/
abbrev Checker := Text → Text → Run Bool

namespace Rule

/-- The rule that always gives the same verdict, or fails, and leaves its
mark each time it runs. -/
def fixed (mark : Text) (answer : Except Failure Verdict) : Rule := fun m => do
  Run.record (.ruleRan mark m.header)
  Run.ofExcept answer

/-- The rule of a function on commits. -/
def ofVerdict (f : Message → Verdict) : Rule := fun m => pure (f m)

end Rule

namespace Checker

/-- The checker that knows a list of issues and cannot reach some others.  Each
question is an event. -/
def listing (existing unreachable : List Text) (reason : Option Text) : Checker :=
  fun repository issue => do
    Run.record (.asked repository issue)
    if unreachable.contains issue then Run.fail (.trackerUnreachable issue repository reason)
    else pure (existing.contains issue)

end Checker

/-! ## Observers -/

/-- Someone who is told what happens. -/
structure Observer where
  /-- The name by which it is known. -/
  name : Text
  /-- What it does when told. -/
  tell : Notice → Run Unit

namespace Observer

/-- The observer that leaves an event for each notice and does nothing else. -/
def recorder (name : Text) : Observer := ⟨name, fun n => Run.record (.heard name n)⟩

/-- The observers without the first one of a name, if there is one. -/
def remove? (name : Text) : List Observer → Option (List Observer)
  | [] => none
  | o :: os => if o.name = name then some os else (remove? name os).map (o :: ·)
termination_by structural os => os

/-- Every observer is told the same. -/
def tellAll (observers : List Observer) (n : Notice) : Run Unit :=
  Run.each (fun o => o.tell n) observers

end Observer

/-! ## Linters -/

/-- A rule under a name and at a level. -/
structure Registration where
  /-- The name. -/
  name : Text
  /-- The rule. -/
  rule : Rule
  /-- The level. -/
  level : Level

/-- A set of rules, and the observers of what they find. -/
structure Linter where
  /-- The rules, by the time when their names were first registered. -/
  rules : List Registration
  /-- The observers, oldest first. -/
  observers : List Observer

namespace Level

/-- The level that a value equals: a truth value or a number equals the level of
its number. -/
def equalTo? : Value → Option Level
  | .bool b => ofInt? (if b then 1 else 0)
  | .int n => ofInt? n
  | .float x => x.toInt?.bind ofInt?
  | _ => none

end Level

namespace Linter

/-- The linter without rules and observers. -/
def empty : Linter := ⟨[], []⟩

/-- A registration put in the place of the one of the same name, or at the end. -/
def insertRule (r : Registration) : List Registration → List Registration
  | [] => [r]
  | s :: rs => if s.name = r.name then r :: rs else s :: insertRule r rs
termination_by structural rs => rs

/-- The linter with a rule registered. -/
def register (l : Linter) (name : Text) (rule : Rule) (level : Level) : Linter :=
  { l with rules := insertRule ⟨name, rule, level⟩ l.rules }

/-- The linter with a rule registered at the level that a value equals. -/
def registerAt (l : Linter) (name : Text) (rule : Rule) (level : Value) : Except Failure Linter :=
  match Level.equalTo? level with
  | none => .error .badValue
  | some level => .ok (l.register name rule level)

/-- The names of the rules. -/
def ruleNames (l : Linter) : List Text := l.rules.map Registration.name

/-- The linter with one more observer. -/
def addObserver (l : Linter) (o : Observer) : Linter :=
  { l with observers := l.observers ++ [o] }

/-- The linter without the first observer of a name. -/
def removeObserver (l : Linter) (name : Text) : Except Failure Linter :=
  match Observer.remove? name l.observers with
  | none => .error .badValue
  | some os => .ok { l with observers := os }

/-- The outcomes of the rules that are not disabled, in order. -/
def outcomes (m : Message) : List Registration → Run (List Outcome)
  | [] => Run.pure []
  | r :: rs =>
      if r.level = .disabled then outcomes m rs
      else do
        let v ← r.rule m
        let os ← outcomes m rs
        pure (.ofVerdict r.name r.level v :: os)
termination_by structural rs => rs

/-- Every rule is run on a commit, and the observers are told of the report. -/
def lint (l : Linter) (m : Message) (sha : Option Text) : Run Report := do
  let os ← outcomes m l.rules
  let report : Report := ⟨m, sha, os⟩
  Observer.tellAll l.observers (.linted report)
  pure report

/-- Several commits are linted, each whatever came of the others. -/
def lintMany (l : Linter) (commits : List (Option Text × Message)) : Run (List Report) :=
  Run.settleAll (commits.map fun (sha, m) => l.lint m sha)

end Linter

end CommitCheck
