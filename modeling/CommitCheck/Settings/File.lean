import CommitCheck.Files.Basic
import CommitCheck.Run.Basic
import CommitCheck.Settings.Basic
import CommitCheck.Toml.Printer
import CommitCheck.Toml.Reader
import CommitCheck.Value.Stamp

/-!
# The file of settings

Settings are kept in a section of a TOML file.  `Settings.load` reads them and
`Settings.save` writes them.

A file that cannot be read as TOML is passed over with a warning.  Texts from
the file are cleaned, and a path for the log that is not safe is dropped with a
warning.  A section can also be written as a list of pairs.
-/

namespace CommitCheck

namespace Settings

/-- The name of the file of settings. -/
def fileName : Text := ".gitcommitlint.toml"

/-- The section of the settings. -/
def sectionName : Text := "gitcommitlint"

/-- Text printed with a line end. -/
def printLine (t : Text) : Run Unit := Run.record (.printed (t ++ ['\n']))

/-! ## The section of a file -/

/-- A section: the fields under names that are texts, and whether there are other
names. -/
structure Section where
  /-- The fields. -/
  fields : Fields
  /-- Whether some name is not a text. -/
  hasOtherNames : Bool

/-- The section with a value set under a name of any kind. -/
def Section.set (s : Section) (name v : Value) : Except Failure Section :=
  match name with
  | .text n => .ok { s with fields := s.fields.set n v }
  | _ => if name.isKey then .ok { s with hasOtherNames := true } else .error .wrongKind

/-- The name and the value that an item of a list of pairs gives. -/
def pairOf : Value → Except Failure (Value × Value)
  | .list [a, b] => .ok (a, b)
  | .text [a, b] => .ok (.text [a], .text [b])
  | .table [(a, _), (b, _)] => .ok (.text a, .text b)
  | .list _ | .text _ | .table _ => .error .badValue
  | _ => .error .wrongKind

/-- The section of a list of pairs. -/
def sectionOfPairs : Section → List Value → Except Failure Section
  | s, [] => .ok s
  | s, v :: vs => do
      let (name, w) ← pairOf v
      let s ← s.set name w
      sectionOfPairs s vs
termination_by structural _ vs => vs

/-- The section that a value is. -/
def sectionOf : Value → Except Failure Section
  | .table fs => .ok ⟨fs, false⟩
  | .list vs => sectionOfPairs ⟨[], false⟩ vs
  | .text [] => .ok ⟨[], false⟩
  | .text _ => .error .badValue
  | _ => .error .wrongKind

/-! ## Reading -/

/-- The fields with the text of one of them cleaned. -/
def cleanField (name : Text) (fs : Fields) : Fields :=
  match fs.get? name with
  | some (.text t) => fs.set name (.text (cleaned t))
  | _ => fs

/-- Whether two full stops are among the items of a list or the names of a table. -/
def holdsDots : Value → Option Bool
  | .list vs => some (vs.any fun
      | .text t => t == ['.', '.']
      | _ => false)
  | .table fs => some ((fs.map Prod.fst).contains ['.', '.'])
  | _ => none

/-- Whether the path for a log may be used.  Only a text can be looked at in
full. -/
def isUsableLog (v : Value) : Except Failure Bool :=
  match v with
  | .text t => .ok (isSafePath t)
  | _ => match holdsDots v with
      | some true => .ok false
      | some false => .error .lacking
      | none => .error .wrongKind

/-- The start of a warning about a path that is not safe. -/
def unsafeLog (path : Text) : Text := "Warning: Unsafe log file path '".toList ++ path ++ ['\'']

/-- The section without a path for the log that is not safe. -/
def checkLog (fs : Fields) : Run Fields :=
  match fs.get? "log_file" with
  | none => pure fs
  | some v =>
      if !v.isTruthy then pure fs
      else do
        if ← Run.ofExcept (isUsableLog v) then pure fs
        else if v.isUnshowable then Run.fail .badValue
        else do
          printLine (unsafeLog v.plain ++ ", using default".toList)
          pure (fs.set "log_file" .null)

/-- A failure seen from the file that caused it. -/
def inFile (path : Text) : Failure → Failure
  | .invalidSettings _ es => .invalidSettings (some path) es
  | e => e

/-- The settings of the document in a file. -/
def ofDocument (env : Environment) (path : Text) (document : Fields) : Run Settings := do
  let s ← Run.ofExcept (sectionOf ((document.get? sectionName).getD (.table [])))
  let fs ← checkLog (cleanField "log_file" (cleanField "api_url" s.fields))
  if s.hasOtherNames then Run.fail .wrongKind
  else match ofFields env fs with
    | .ok settings => pure settings
    | .error e => Run.fail (inFile path e)

/-- The settings if the file is of no use. -/
def withoutFile (env : Environment) (reason : Text) : Run Settings := do
  printLine ("Warning: Error reading config file: ".toList ++ reason)
  Run.ofExcept (ofFields env [])

/-- The settings of a folder, by the path of its file of settings and what is
there. -/
def load (env : Environment) (path : Text) : Option Entry → Run Settings
  | none => Run.ofExcept (ofFields env [])
  | some .folder => withoutFile env (path ++ " is a folder".toList)
  | some (.file .binary) => Run.fail .undecodable
  | some (.file (.text t)) => match Toml.parse t with
      | .ok document => ofDocument env path document
      | .error .malformed => withoutFile env (path ++ " is not TOML".toList)
      | .error .tooLong => Run.fail .badValue
      | .error .tooDeep => Run.fail .tooDeep

/-! ## Writing -/

/-- The path for the log, if it is given. -/
def logField (path : Option Text) : Fields :=
  match path with
  | none => []
  | some p => [("log_file", .text p)]

/-- The sections of a file of settings, with a path for the log. -/
def sections (s : Settings) (logPath : Option Text) : List Toml.Section := [
  ⟨[sectionName], ("api_url", .text s.apiUrl) :: ("timeout", .float s.timeout) ::
    ("always_log", .bool s.alwaysLog) :: logField logPath⟩,
  ⟨[sectionName, "rules"], s.rules.toList.map fun (n, l) => (n, .int l.toNat)⟩]

/-- Whether a path for the log is there, not empty, and not safe. -/
def isUnsafeLog : Option Text → Bool
  | none => false
  | some p => !p.isEmpty && !isSafePath p

/-- The settings are written to a file.  A path for the log that is not safe is
left out with a warning. -/
def save (s : Settings) (path : Text) (isFolder : Bool) : Run Unit := do
  if isUnsafeLog s.logFile then
    printLine (unsafeLog (s.logFile.getD []) ++ ", not saving".toList)
  if isFolder then Run.fail (.folderFound path)
  else
    let logPath := if isUnsafeLog s.logFile then none else s.logFile
    Run.record (.wrote path (Toml.render (s.sections logPath)))

/-! ## The log -/

/-- The name of a log that is kept under the time. -/
def timedLog (now : Moment) : Text := "gcl_log-".toList ++ now.inName ++ ".log".toList

/-- The path of the log to keep, if any. -/
def logPath (s : Settings) (now : Moment) : Run (Option Text) :=
  if s.alwaysLog then pure (some (timedLog now))
  else match s.logFile with
    | none => pure none
    | some [] => pure none
    | some p =>
        if isSafePath p then pure (some (Path.ofText p).text)
        else do
          printLine (unsafeLog p ++ ", using default".toList)
          pure none

end Settings

end CommitCheck
