import CommitCheck.Context
import CommitCheck.Rule.HeaderFormat
import CommitCheck.Rule.IssueReference
import CommitCheck.Text.Blank

/-!
# Settings

Where the issue tracker is, how long to wait for it, how grave each rule is, and
whether and where to keep a log.

Settings are made of named values.  A value that is not given comes from a
variable of the environment, cleaned, and if that is not set, from a default.
The two rules have the highest level unless something else is given.

To clean a text from outside is to drop its control characters other than tab, line
feed and carriage return, to cut it to a thousand characters, and to drop blanks at
its ends.  A path is safe if it leads to no place outside the folder it starts in:
it is not empty, does not start with a slash, and has neither two full stops in a
row nor a backslash.
-/

namespace CommitCheck

/-! ## Clean texts and safe paths -/

/-- Whether a character is a control character that a clean text lacks. -/
def isDropped (c : Char) : Bool :=
  let n := c.toNat
  n ≤ 8 || n == 0x0B || n == 0x0C || (0x0E ≤ n && n ≤ 0x1F) || n == 0x7F

/-- The greatest length of a clean text. -/
def cleanLimit : Nat := 1000

/-- The clean form of a text. -/
def cleaned (t : Text) : Text := trim ((t.filter (!isDropped ·)).take cleanLimit)

/-- Whether a path leads to no place outside the folder it starts in. -/
def isSafePath (path : Text) : Bool :=
  !path.isEmpty && !occursIn ['.', '.'] path && path.head? != some '/' && !path.contains '\\'

example : cleaned " \x01 a\tb \x7f " = "a\tb" := by decide
example : isSafePath "a/../b" = false := by decide

/-! ## Levels -/

/-- The levels of the two rules. -/
structure RuleLevels where
  /-- The level of the header format. -/
  headerFormat : Level
  /-- The level of the issue reference. -/
  issueReference : Level
deriving DecidableEq, Inhabited

namespace RuleLevels

/-- Both rules at the highest level. -/
def default : RuleLevels := ⟨.error, .error⟩

/-- The names of the rules, in order. -/
def names : List Text := [HeaderFormat.name, IssueReference.name]

/-- The rules by name, in order. -/
def toList (r : RuleLevels) : List (Text × Level) :=
  [(HeaderFormat.name, r.headerFormat), (IssueReference.name, r.issueReference)]

/-- The level of a rule.  A rule that is not known is disabled. -/
def levelOf (r : RuleLevels) (name : Text) : Level := (r.toList.lookup name).getD .disabled

end RuleLevels

/-- The settings. -/
structure Settings where
  /-- The address of the issue tracker. -/
  apiUrl : Text
  /-- The seconds to wait for it. -/
  timeout : Binary64
  /-- The levels of the rules. -/
  rules : RuleLevels
  /-- Whether to keep a log under a name made of the time. -/
  alwaysLog : Bool
  /-- The path of the log, if one is to be kept. -/
  logFile : Option Text
deriving DecidableEq

namespace Settings

open Checked (both optional within fault)

/-- The address of the issue tracker unless another one is given. -/
def defaultApiUrl : Text := "https://api.github.com"

/-- The seconds to wait unless another number is given. -/
def defaultTimeout : Binary64 := .ofInt 10

/-- The settings if nothing is given. -/
def default : Settings := ⟨defaultApiUrl, defaultTimeout, .default, false, none⟩

/-! ## The environment -/

/-- The words that turn a switch on in the environment. -/
def onWords : List Text := ["true", "1", "yes", "on"]

/-- A variable that a setting can come from: its name, the setting, and how its
cleaned text is taken. -/
structure Variable where
  /-- The name of the variable. -/
  name : Text
  /-- The name of the setting. -/
  setting : Text
  /-- What a cleaned text is taken for. -/
  take : Text → Value

/-- The variables that settings can come from. -/
def settingVariables : List Variable := [
  ⟨"GIT_COMMIT_LINT_API_URL", "api_url", .text⟩,
  ⟨"GIT_COMMIT_LINT_TIMEOUT", "timeout", .text⟩,
  ⟨"GIT_COMMIT_LINT_ALWAYS_LOG", "always_log", fun t => .bool (onWords.contains (lowercase t))⟩,
  ⟨"GIT_COMMIT_LINT_LOG_FILE", "log_file", .text⟩]

/-- The settings that an environment gives. -/
def environmentFields (env : Environment) : Fields :=
  settingVariables.filterMap fun v =>
    (env.lookup v.name).map fun t => (v.setting, v.take (cleaned t))

/-! ## Rules -/

/-- The first of the texts that come after each other, each once. -/
def distinct : List Text → List Text
  | [] => []
  | t :: ts => if ts.contains t then distinct ts else t :: distinct ts
termination_by structural ts => ts

/-- Whether a text comes before another one or is the same, by code points. -/
def notAfter : Text → Text → Bool
  | [], _ => true
  | _ :: _, [] => false
  | c :: cs, d :: ds => c < d || (c == d && notAfter cs ds)
termination_by structural t => t

/-- What is said of names that are not those of rules. -/
def unknownRules (names : List Text) : Text :=
  "Unknown rule(s): ".toList ++ joinWith [',', ' '] ((distinct names).mergeSort notAfter)

/-- The fields of a table of rules, or what is wrong with the value.  A text or a
list is looked at for names, and it fails whatever it has. -/
def ruleFields (v : Value) : Except Failure (Checked Fields) :=
  let refuse (unknown : List Text) : Except Failure (Checked Fields) :=
    if unknown.isEmpty then .error .wrongKind else .ok (fault (.refused (unknownRules unknown)))
  match v with
  | .null => .ok (.ok [])
  | .table fs =>
      let unknown := (fs.map Prod.fst).filter (!RuleLevels.names.contains ·)
      if unknown.isEmpty then .ok (.ok fs) else refuse unknown
  | .text t => refuse (t.map ([·]))
  | .list vs =>
      let texts := vs.filterMap fun
        | .text t => some t
        | _ => none
      if texts.length = vs.length then refuse (texts.filter (!RuleLevels.names.contains ·))
      else .error .wrongKind
  | _ => .error .wrongKind

/-- The levels that a table of rules gives. -/
def readLevels (fs : Fields) : Checked RuleLevels :=
  both RuleLevels.mk (optional fs HeaderFormat.name .error Value.readLevel)
    (optional fs IssueReference.name .error Value.readLevel)

/-! ## Making settings -/

/-- The settings of named values, the levels of the rules apart. -/
def assemble (fs : Fields) (rules : Checked RuleLevels) : Checked Settings :=
  both (fun f g => f g.1 g.2)
    (both (fun f r => f r)
      (both Settings.mk (optional fs "api_url" defaultApiUrl Value.readText)
        (optional fs "timeout" defaultTimeout Value.readPositive))
      (within (.field "rules") rules))
    (both Prod.mk (optional fs "always_log" false Value.readBool)
      (optional fs "log_file" none Value.readOptionalText))

/-- The settings that fields and the levels of rules give, or their faults as a
failure. -/
def finish (fs : Fields) (rules : Checked RuleLevels) : Except Failure Settings :=
  match assemble fs rules with
  | .ok s => .ok s
  | .error es => .error (.invalidSettings none es)

/-- A name that no setting may have. -/
def reserved : Text := "self"

/-- The settings that named values and an environment give.  A given value counts
before the environment. -/
def ofFields (env : Environment) (given : Fields) : Except Failure Settings :=
  if given.has reserved then .error .wrongKind
  else
    let fs := (environmentFields env).merge given
    match fs.get? "rules" with
    | none => finish fs (.ok .default)
    | some v => match ruleFields v with
        | .error e => .error e
        | .ok (.error es) => finish fs (.error es)
        | .ok (.ok rs) => finish fs (readLevels rs)

/-- The level of a rule. -/
def levelOf (s : Settings) (name : Text) : Level := s.rules.levelOf name

end Settings

end CommitCheck
