import CommitCheck.Cli.Run
import Std.Time

/-!
# The program

Looks up the surroundings, runs `Cli.run` on the words of the command line, and
then does what the run says: prints, makes folders and writes files.

The program has no network of its own and reads no repository.  Whoever calls
`Cli.run` with a network and a repository has both.
-/

namespace CommitCheck

/-! ## Looking up the surroundings -/

/-- What there is at a path. -/
def entryAtPath (path : Path) : IO (Option Entry) := do
  try
    let bytes ← IO.FS.readBinFile (String.ofList path.text)
    return some (.file (.ofBytes (bytes.toList.map UInt8.toNat)))
  catch
    | .inappropriateType _ 21 _ => return some .folder
    | _ => return none

/-- The paths that the words of a command line name, and what they need beside
them. -/
def pathsOf (here : Files) (words : List Text) : List Path :=
  match Cli.Given.read words with
  | .error _ => []
  | .ok g =>
      let named (p : Cli.Purpose) : List Path :=
        (g.value? p).toList.map fun t => here.absolute (.ofText t)
      let folder := (named .path).headD (here.absolute (.ofText ['.']))
      let logs := named .log
      folder :: folder.child Settings.fileName :: named .edit ++ logs ++ logs.map Path.parent

/-- The files at some paths. -/
def lookUpFiles (here : List Text) (paths : List Path) : IO Files := do
  let mut entries := []
  for p in paths do
    if let some e ← entryAtPath p then
      entries := entries ++ [(p.climbed.names, e)]
  return ⟨here, entries⟩

/-- The variables that the program reads. -/
def variableNames : List Text :=
  (["GITHUB_REPOSITORY", "GITHUB_TOKEN"] : List Text) ++ Settings.settingVariables.map (·.name)

/-- The environment. -/
def lookUpEnvironment : IO Environment := do
  let mut env := []
  for name in variableNames do
    if let some value ← IO.getEnv (String.ofList name) then
      env := env ++ [(name, value.toList)]
  return env

/-- The time. -/
def lookUpTime : IO Moment := do
  let t ← Std.Time.PlainDateTime.now
  return ⟨t.date.year.toNat, t.date.month.val.toNat, t.date.day.val.toNat, t.time.hour.val.toNat,
    t.time.minute.val.toNat, t.time.second.val.toNat⟩

/-- The version of the program. -/
def programVersion : Text := "0.1.0"

/-- The surroundings of a command line. -/
def lookUp (words : List Text) : IO Cli.Surroundings := do
  let here := (Path.ofText (← IO.currentDir).toString.toList).names
  let files ← lookUpFiles here (pathsOf ⟨here, []⟩ words)
  let place := (Path.ofText (← IO.appPath).toString.toList).parent
  return {
    files := files
    environment := ← lookUpEnvironment
    network := fun _ => .failure .connect "there is no network"
    repository := none
    installation := ⟨programVersion, some programVersion, place.text⟩
    now := ← lookUpTime }

/-! ## Doing what a run says -/

/-- An event takes place.  Those that only tell what was asked do nothing. -/
def takePlace : Event → IO Unit
  | .printed t => do
      let out ← IO.getStdout
      out.putStr (String.ofList t)
  | .complained t => do
      let out ← IO.getStderr
      out.putStr (String.ofList t)
  | .madeFolder path => IO.FS.createDirAll (String.ofList path)
  | .wrote path t => IO.FS.writeFile (String.ofList path) (String.ofList t)
  | .appended path t => do
      let file ← IO.FS.Handle.mk (String.ofList path) .append
      file.putStr (String.ofList t)
  | _ => return ()

end CommitCheck

/-- The command line. -/
def main (args : List String) : IO UInt32 := do
  let words := args.map String.toList
  let run := CommitCheck.Cli.run (← CommitCheck.lookUp words) words
  for e in run.trace do
    CommitCheck.takePlace e
  match run.outcome with
  | .ok status => return status.toUInt32
  | .error _ => return CommitCheck.Cli.failed.toUInt32
