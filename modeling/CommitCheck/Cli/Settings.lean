import CommitCheck.Console.Basic
import CommitCheck.Http.Basic
import CommitCheck.Repository
import CommitCheck.Settings.File
import CommitCheck.Value.Stamp
import CommitCheck.Version.Update

/-!
# Surroundings and their settings

Everything outside the command line that its work depends on.

The settings of a folder are shown as a table with a row for each: its name, its
value, and whether there is a file of settings.  The default settings are written
to a file unless there is one.
-/

namespace CommitCheck.Cli

/-- What the program finds when it starts. -/
structure Surroundings where
  /-- The files. -/
  files : Files
  /-- The environment. -/
  environment : Environment
  /-- The network. -/
  network : Http.Network
  /-- The repository, if there is one. -/
  repository : Option Repository
  /-- The program itself. -/
  installation : Installation
  /-- The time. -/
  now : Moment
  /-- How a version that is no text is taken. -/
  refusal : Update.Refusal := .likeText

namespace Surroundings

/-- The path of the file of settings in a folder. -/
def settingsPath (s : Surroundings) (folder : Text) : Path :=
  (s.files.absolute (.ofText folder)).child Settings.fileName

/-- The settings of a folder. -/
def load (s : Surroundings) (folder : Text) : Run Settings :=
  let path := s.settingsPath folder
  Settings.load s.environment path.text (s.files.find? path)

end Surroundings

/-! ## Showing and writing settings -/

/-- A row of the table. -/
def settingRow (name value source : Text) : Text :=
  padRight 28 name ++ ' ' :: padRight 28 value ++ ' ' :: padRight 10 source

/-- The path for the log in words. -/
def logText : Option Text → Text
  | none => "None"
  | some [] => "None"
  | some p => p

/-- The settings other than the rules, with their values in words. -/
def plainValues (s : Settings) : List (Text × Text) := [
  ("api_url", s.apiUrl),
  ("timeout", s.timeout.text),
  ("always_log", if s.alwaysLog then "True" else "False"),
  ("log_file", logText s.logFile)]

/-- The levels of the rules, in words. -/
def ruleValues (s : Settings) : List (Text × Text) :=
  s.rules.toList.map fun (name, level) => ("rules.".toList ++ name, natText level.toNat)

/-- What is said of the file of settings. -/
def fileLine (path : Path) (isThere : Bool) : Text :=
  if isThere then Console.inStyle "dim" ("Config file: ".toList ++ path.text)
  else "[dim]Using default values (no config file found)[/dim]"

/-- The lines above the rows. -/
def topLines (path : Path) (isThere : Bool) : List Text := [
  "\n[bold]Current Configuration Settings:[/bold]",
  fileLine path isThere,
  ('\n' :: settingRow "Setting" "Value" "Source" : Text),
  (List.replicate 66 '-' : Text)]

/-- The line below the rows. -/
def bottomLine : Text :=
  "\nTo modify these settings, create or edit ".toList ++ Settings.fileName ++
    " in your repository root".toList

/-- The rows, by whether the file of settings is there. -/
def settingRows (s : Settings) (isThere : Bool) : List Text :=
  (plainValues s ++ ruleValues s).map fun (name, value) =>
    settingRow name value (if isThere then "config" else "default")

/-- The lines of the table, by the path of the file of settings and whether it is
there. -/
def settingLines (s : Settings) (path : Path) (isThere : Bool) : List Text :=
  topLines path isThere ++ settingRows s isThere ++ [bottomLine]

/-- The settings of a folder are shown. -/
def listSettings (s : Surroundings) (folder : Text) : Run Unit := do
  let settings ← s.load folder
  let path := s.settingsPath folder
  Run.each Console.endless.print (settingLines settings path (s.files.find? path).isSome)

/-- The default settings are written to a folder, unless there is a file of
settings. -/
def createSettings (s : Surroundings) (folder : Text) : Run Unit := do
  let path := s.settingsPath folder
  if (s.files.find? path).isSome then
    Console.endless.print (Console.inStyle "yellow" (path.text ++ " already exists".toList))
  else do
    let settings ← Run.ofExcept (Settings.ofFields s.environment [])
    settings.save path.text false
    Console.endless.print
      (Console.inStyle "green" ("Created ".toList ++ path.text ++ " with default values".toList))

end CommitCheck.Cli
