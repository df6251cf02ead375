import CommitCheck.Files.Basic
import CommitCheck.Linter
import CommitCheck.Value.Stamp

/-!
# The observer that keeps a log

It puts a record for each notice at the end of a file: the time and what
happened.  The record of a commit that breaks rules goes on with a line for each
of them.  The folder of the file is made when the observer is.
-/

namespace CommitCheck.Observer

/-- The line of a rule that a commit breaks. -/
def brokenRule (o : Outcome) : Text :=
  "\n    [".toList ++ o.rule ++ "] ".toList ++ o.message.getD "None"

/-- What the log says of a report. -/
def reportEntry (r : Report) : Text :=
  (if r.valid then "Passed".toList else "Failed".toList) ++ " lint of '".toList ++
    r.commit.header ++ '\'' :: (match r.shortSha? with
      | none => []
      | some s => " (".toList ++ s ++ [')']) ++
    (r.outcomes.filter (!·.valid)).flatMap brokenRule

/-- What the log says of a notice. -/
def logEntry : Notice → Text
  | .lookedUp repository issue status =>
      "Issue lookup ".toList ++ repository ++ '#' :: issue ++ " returned ".toList ++ natText status
  | .linted report => reportEntry report

/-- The record of a notice. -/
def logRecord (now : Moment) (n : Notice) : Text :=
  now.inLine ++ " - ".toList ++ logEntry n ++ ['\n']

/-- What keeps a path from leading anywhere, if anything does. -/
def pathFailure? (path : Text) : Option Failure :=
  if Path.isBroken path then some .badValue
  else if Path.isTooLong path then some (.pathTooLong path)
  else none

/-- A record is put at the end of a file, unless there is a folder. -/
def keepRecord (fs : Files) (now : Moment) (path : Path) (n : Notice) : Run Unit :=
  match pathFailure? path.text with
  | some e => Run.fail e
  | none =>
  if fs.find? path = some .folder then Run.fail (.folderFound path.text)
  else Run.record (.appended path.text (logRecord now n))

/-- The observer that keeps a log at a path. -/
def inLog (fs : Files) (now : Moment) (path : Path) : Run Observer :=
  match pathFailure? path.parent.text, fs.makeFolder? path.parent with
  | some e, _ => Run.fail e
  | none, none => Run.fail (.fileFound path.parent.text)
  | none, some fs => do
      Run.record (.madeFolder path.parent.text)
      pure ⟨"log", keepRecord fs now path⟩

end CommitCheck.Observer
