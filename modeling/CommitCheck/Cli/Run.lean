import CommitCheck.Cli.Lint
import CommitCheck.Cli.Options
import CommitCheck.Cli.Settings
import CommitCheck.Version.Update

/-!
# The command line

`Cli.run` is the whole program: from its surroundings and the words of the command
line to what it does and the exit status.

A failure that linting is known to meet is reported, and the status says that the
work is undone.  Any other failure is reported too and aborts the program.  A path
with a character that no path has stops the program before it can report anything.
-/

namespace CommitCheck.Cli

/-- What an invocation asks for, the first thing that it asks for only. -/
def perform (s : Surroundings) (i : Invocation) : Run Nat :=
  if i.version then do
    s.installation.showPanel
    pure passed
  else if i.update then do
    Update.checkAndShow s.network s.installation.current s.refusal
    pure passed
  else if i.list then do
    listSettings s i.path
    pure passed
  else if i.create then do
    createSettings s i.path
    pure passed
  else lint s i

/-- The line that reports a failure. -/
def failureLine (e : Failure) : Text :=
  Console.inStyle "red" ("Error: ".toList ++ Console.escape e.message)

/-- A failure is reported. -/
def report : Failure → Run Nat
  | .interrupted => do
      Console.endless.print "\n[yellow]Operation cancelled by user[/yellow]"
      pure undone
  | e => do
      Console.endless.print (failureLine e)
      if e.isExpected then pure undone
      else do
        Run.record (.complained "Aborted!\n")
        pure failed

/-- An invocation is carried out, and its failure reported. -/
def carryOut (s : Surroundings) (i : Invocation) : Run Nat := do
  match ← (perform s i).attempt with
  | .ok status => pure status
  | .error e => report e

/-- The whole program. -/
def run (s : Surroundings) (words : List Text) : Run Nat :=
  match Request.read s.files words with
  | .error (.path _ _ .isBroken) => pure failed
  | .error m => do
      Run.record (.complained (complaint m))
      pure undone
  | .ok .help => do
      Run.record (.printed helpText)
      pure passed
  | .ok (.work i) => carryOut s i

end CommitCheck.Cli
