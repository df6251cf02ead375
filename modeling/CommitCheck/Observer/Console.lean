import CommitCheck.Console.Basic
import CommitCheck.Linter

/-!
# What a console shows of linting

A report is shown with the header of its commit, a line for each problem, errors
before warnings, and a line that counts them.  A problem without a message cannot
be shown.

The observer that shows what happens prints a line for each notice.  What it says of
the issue tracker is read as console text, tags included; the header of a commit is
shown as it is.
-/

namespace CommitCheck

/-! ## Reports -/

namespace Report

/-- The header that stands for an empty one. -/
def shownHeader (r : Report) : Text :=
  if r.commit.header.isEmpty then "(empty message)" else r.commit.header

/-- The first line: the short name of the commit and its header. -/
def titleLine (r : Report) : Text :=
  let label := match r.shortSha? with
    | none => []
    | some s => s ++ [' ']
  "⧗   input: ".toList ++ Console.escape (label ++ r.shownHeader)

/-- The line of a problem, with a sign in front. -/
def problemLine (style : Text) (sign : Char) (o : Outcome) : Except Failure Text :=
  match o.message with
  | none => .error .wrongKind
  | some m => .ok (Console.inStyle style
      (sign :: "   ".toList ++ Console.escape m ++ ' ' :: Console.escape ('[' :: o.rule ++ [']'])))

/-- A problem is shown. -/
def printProblem (c : Console) (style : Text) (sign : Char) (o : Outcome) : Run Unit := do
  let line ← Run.ofExcept (problemLine style sign o)
  c.print line

/-- The numbers of errors and warnings. -/
def counts (r : Report) : Text :=
  "found ".toList ++ natText r.errors.length ++ " problems, ".toList ++
    natText r.warnings.length ++ " warnings".toList

/-- The last line, in the style of the gravest problem. -/
def summaryLine (r : Report) : Text :=
  (if !r.errors.isEmpty then Console.inStyle "red" ("✖   ".toList ++ r.counts)
  else if !r.warnings.isEmpty then Console.inStyle "yellow" ("⚠   ".toList ++ r.counts)
  else Console.inStyle "green" ("✔   ".toList ++ r.counts)) ++ ['\n']

/-- The report is shown. -/
def print (c : Console) (r : Report) : Run Unit := do
  c.print r.titleLine
  Run.each (printProblem c "red" '✖') r.errors
  Run.each (printProblem c "yellow" '⚠') r.warnings
  c.print r.summaryLine

end Report

/-! ## The observer -/

namespace Observer

/-- The line of a notice. -/
def consoleLine : Notice → Text
  | .lookedUp repository issue status =>
      Console.inStyle "dim" ("GET ".toList ++ repository ++ " issue #".toList ++ issue ++
        " -> ".toList ++ natText status)
  | .linted report =>
      Console.inStyle "dim" ("Linted '".toList ++ Console.escape report.commit.header ++
        (if report.valid then "': passed".toList else "': failed".toList))

/-- The observer that prints on a console. -/
def onConsole (c : Console) : Observer := ⟨"console", fun n => c.print (consoleLine n)⟩

end Observer

end CommitCheck
