import CommitCheck.Cli.Invocation
import CommitCheck.Cli.Settings
import CommitCheck.Observer.Console
import CommitCheck.Observer.Log
import CommitCheck.Setup

/-!
# Linting from the command line

The settings of the folder are loaded, the observers and the linter are set up,
the messages are gathered, and each is linted.  The reports with problems are
shown.  The exit status tells whether every commit is valid.
-/

namespace CommitCheck.Cli

/-- Every commit is valid. -/
def passed : Nat := 0

/-- Some commit is not valid. -/
def failed : Nat := 1

/-- The work could not be done. -/
def undone : Nat := 2

/-! ## Observers -/

/-- The observer that tells more, after a line about the program. -/
def verboseObserver (s : Surroundings) (i : Invocation) : Run (List Observer) :=
  if i.verbose then do
    Console.endless.print (Console.inStyle "dim" s.installation.summary)
    pure [.onConsole .endless]
  else pure []

/-- The path of the log: the one of the command line, or that of the settings. -/
def logPath (s : Surroundings) (i : Invocation) (settings : Settings) : Run (Option Text) :=
  match i.log with
  | some path => pure (some path)
  | none => settings.logPath s.now

/-- The observer that keeps the log, if one is kept. -/
def logObserver (s : Surroundings) (i : Invocation) (settings : Settings) :
    Run (List Observer) := do
  match ← logPath s i settings with
  | none => pure []
  | some path => do
      let o ← Observer.inLog s.files s.now (.ofText path)
      pure [o]

/-! ## Messages -/

/-- The text of a file that holds a message, with line feeds for all line ends. -/
def readMessage (s : Surroundings) (path : Text) : Except Failure Text :=
  match s.files.findText? path with
  | some (.file (.text t)) => .ok (unifyReturns t)
  | some (.file .binary) => .error .undecodable
  | some .folder => .error (.folderFound path)
  | none => .error (.lacking)

/-- The commits to lint. -/
def gather (s : Surroundings) (i : Invocation) : Run (List (Option Text × Message)) :=
  match i.source with
  | .file path => do
      let t ← Run.ofExcept (readMessage s path)
      pure [(none, Message.parse t true)]
  | .words m => pure [(none, Message.parse m false)]
  | .commits revisions limit =>
      Repository.read s.repository (s.files.absolute (.ofText i.path)) revisions limit

/-! ## Reports -/

/-- The reports with problems are shown. -/
def showReports (reports : List Report) : Run Unit :=
  Run.each (Report.print .endless) (reports.filter Report.hasProblems)

/-- What is said if all went well and more is to be told. -/
def passedLine (count : Nat) : Text :=
  Console.inStyle "green" ("✔   ".toList ++ natText count ++ " commit(s) passed".toList)

/-- The exit status that reports give. -/
def statusOf (reports : List Report) : Nat := if reports.all Report.valid then passed else failed

/-- Commits are linted and the reports shown. -/
def lintCommits (i : Invocation) (linter : Linter) (commits : List (Option Text × Message)) :
    Run Nat := do
  let reports ← linter.lintMany commits
  showReports reports
  if i.verbose && reports.all Report.valid then Console.endless.print (passedLine reports.length)
  pure (statusOf reports)

/-- Everything that linting takes. -/
def lint (s : Surroundings) (i : Invocation) : Run Nat := do
  let settings ← s.load i.path
  let verbose ← verboseObserver s i
  let log ← logObserver s i settings
  let linter ← Run.ofExcept
    (Linter.ofSettings s.environment s.network settings none none (verbose ++ log))
  let commits ← gather s i
  if commits.isEmpty then do
    Console.endless.print "[yellow]No commits to lint[/yellow]"
    pure passed
  else lintCommits i linter commits

end CommitCheck.Cli
