import CommitCheck.Http.Basic
import CommitCheck.Record.Fault
import CommitCheck.Url.Masked
import CommitCheck.Url.Name

/-!
# Failures

Everything that can stop the work before there is a result, by its cause.  The
wording is in `Failure.message`.

`Failure.isExpected` tells the failures that the command line knows how to
report from the others, which abort it.
-/

namespace CommitCheck

/-- Why there is no result. -/
inductive Failure where
  /-- The settings, from the given file if any, have faults. -/
  | invalidSettings (file : Option Text) (faults : List Fault)
  /-- The repository is not named. -/
  | repositoryUnset
  /-- The name of the repository is not of the form owner and name. -/
  | repositoryMalformed (given : Text)
  /-- There is no token. -/
  | tokenUnset
  /-- The issue tracker could not be reached. -/
  | trackerUnreachable (issue repository : Text) (reason : Option Text)
  /-- A request failed in some other way. -/
  | requestFailed (trouble : Http.Trouble) (message : Text)
  /-- A record cannot be built from the given values. -/
  | invalidRecord (faults : List Fault)
  /-- A rule gave up. -/
  | ruleGaveUp (message : Text)
  /-- A value is of a kind that cannot be used here. -/
  | wrongKind
  /-- A value cannot be used here. -/
  | badValue
  /-- A value lacks what is asked of it. -/
  | lacking
  /-- Bytes are not text. -/
  | undecodable
  /-- A text has characters that a request or an answer cannot carry. -/
  | unencodable
  /-- The name of a host cannot be read. -/
  | unreadableName (fault : Url.LabelFault)
  /-- Values lie in one another too deep. -/
  | tooDeep
  /-- A body is not JSON. -/
  | notJson
  /-- A console text closes a tag that is not open. -/
  | badMarkup (tag : Text)
  /-- The repository could not answer. -/
  | gitFailed (revisions : Text) (stderr : Text)
  /-- There is no repository in a folder. -/
  | notRepository (folder : Text)
  /-- A folder stands where a file is needed. -/
  | folderFound (path : Text)
  /-- A file stands where a folder is needed. -/
  | fileFound (path : Text)
  /-- A path is longer than any that there can be. -/
  | pathTooLong (path : Text)
  /-- The user stopped the work. -/
  | interrupted
deriving DecidableEq

namespace Failure

/-- The faults of settings, one below the other. -/
def faultLines (faults : List Fault) : Text := joinWith ['\n'] (faults.map Fault.text)

/-- The wording of a failure. -/
def message : Failure → Text
  | invalidSettings file faults =>
      (match file with
        | none => []
        | some f => f ++ ':' :: [' ']) ++ "Invalid settings: ".toList ++ faultLines faults
  | repositoryUnset => "GITHUB_REPOSITORY is not set"
  | repositoryMalformed given =>
      "GITHUB_REPOSITORY must look like owner/repo, got '".toList ++ given ++ ['\'']
  | tokenUnset => "GITHUB_TOKEN is not set"
  | trackerUnreachable issue repository reason =>
      "Could not reach issue tracker for ".toList ++ repository ++ " issue #".toList ++ issue ++
        (match reason with
          | none => []
          | some [] => []
          | some r => ':' :: ' ' :: r)
  | requestFailed _ m => m
  | invalidRecord faults => faultLines faults
  | ruleGaveUp m => m
  | wrongKind => "a value is of the wrong kind"
  | badValue => "a value cannot be used"
  | lacking => "a value lacks what is asked of it"
  | undecodable => "the bytes are not text"
  | unencodable => "the text cannot be sent"
  | unreadableName _ => "the name of a host cannot be read"
  | tooDeep => "values lie in one another too deep"
  | notJson => "the body is not JSON"
  | badMarkup tag => "nothing is open for the closing tag ".toList ++ tag
  | gitFailed revisions stderr =>
      "Cmd('git') failed due to: exit code(128)\n  cmdline: git rev-list ".toList ++
        Url.masked revisions ++
        " --".toList ++
        (if stderr.isEmpty then [] else "\n  stderr: '".toList ++ stderr ++ ['\''])
  | notRepository folder => folder
  | folderFound path => path ++ " is a folder".toList
  | fileFound path => path ++ " is not a folder".toList
  | pathTooLong path => path ++ " is too long".toList
  | interrupted => "interrupted"

/-- Whether the settings or the environment are at fault. -/
def isConfiguration : Failure → Bool
  | invalidSettings _ _ | repositoryUnset | repositoryMalformed _ | tokenUnset => true
  | _ => false

/-- Whether a failure is one that linting is known to meet. -/
def isExpected : Failure → Bool
  | trackerUnreachable _ _ _ | gitFailed _ _ | notRepository _ => true
  | f => f.isConfiguration

end Failure

end CommitCheck
