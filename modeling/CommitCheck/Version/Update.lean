import CommitCheck.Http.Client
import CommitCheck.Json.Encoding
import CommitCheck.Json.Reader
import CommitCheck.Settings.Basic
import CommitCheck.Version.Installation
import CommitCheck.Version.Order

/-!
# Updates

A package index knows the newest version of the program.  `Update.check` asks it
and compares.  If the index cannot be asked, or the versions cannot be compared,
it prints a warning and finds no update; an answer that is not of the expected
form makes it fail.

An index can also name something that is no text.  What the library that compares
versions makes of that is a matter of its release, so it is a parameter (`Refusal`).
-/

namespace CommitCheck

/-- What is known of a newer version. -/
inductive Update where
  /-- There is one. -/
  | newer (version : Text)
  /-- None is known. -/
  | upToDate
  /-- The index could not be asked. -/
  | unanswered
deriving DecidableEq, Inhabited

namespace Update

/-- The address of the index. -/
def indexUrl : Text := "https://pypi.org/pypi/gitcommitlint/json"

/-- What a question to the index says. -/
def headers : Http.Headers := ⟨none, "*/*", Settings.defaultTimeout.text⟩

/-- A named value of a table, null where the name is missing. -/
def member (name : Text) (fallback : Value) : Value → Except Failure Value
  | .table fs => .ok ((Fields.get? fs name).getD fallback)
  | _ => .error .lacking

/-- The document that the bytes of an answer hold. -/
def document (bytes : List Nat) : Except Failure Value :=
  match Json.textOf? bytes with
  | none => .error .undecodable
  | some t => match Json.parse t with
      | .ok v => .ok v
      | .error .malformed => .error .notJson
      | .error .tooLong => .error .badValue
      | .error .tooDeep => .error .tooDeep

/-- The newest version that the text of an answer names, null if it names none. -/
def readAnswer (body : Text) : Except Failure Value := do
  let v ← document (textBytes body)
  let info ← member "info" (.table []) v
  member "version" .null info

/-- The newest version, as the index gives it. -/
def latest (network : Http.Network) : Run Value := do
  let r ← Http.getOnce network headers indexUrl
  if r.status = 200 then Run.ofExcept (readAnswer r.body)
  else pure .null

/-- How a library that compares versions takes a value that is no text: it fails, or
it says that the value is no version, as it says of a text that is none. -/
abbrev Refusal := Value → Option Failure

/-- Every value that is no text is taken like a text that is no version. -/
def Refusal.likeText : Refusal := fun _ => none

/-- A warning in its colour. -/
def warning (reason : Text) : Text :=
  Console.inStyle "yellow" ("Warning: Could not ".toList ++ reason)

/-- What follows if two versions cannot be compared because one is not a version. -/
def incomparable (v : Value) : Run Update := do
  Console.standard.print (warning ("compare versions: Invalid version: ".toList ++ v.shown))
  pure .upToDate

/-- Whether a version that a text writes comes after the current one. -/
def compareVersion (current t : Text) (new : Version) : Run Update :=
  if Version.isUnreadable t then Run.fail .badValue
  else match Version.parse? current with
    | none => incomparable (.text current)
    | some old =>
        if Version.isUnreadable current then Run.fail .badValue
        else pure (if new.isAfter old then .newer t else .upToDate)

/-- Whether a newest version comes after the current one. -/
def compareWith (refusal : Refusal) (current : Text) (v : Value) : Run Update :=
  match v with
  | .text t => match Version.parse? t with
      | none => incomparable v
      | some new => compareVersion current t new
  | .torn _ => incomparable v
  | _ => match refusal v with
      | none => incomparable v
      | some e => Run.fail e

/-- What follows if the newest version is not known for a reason. -/
def unreachable : Failure → Run Update
  | .requestFailed trouble message =>
      if trouble = .invalidUrl then Run.fail (.requestFailed trouble message)
      else do
        Console.standard.print (warning ("fetch latest version: ".toList ++ message))
        pure .unanswered
  | e => Run.fail e

/-- What follows from the newest version that the index names, if any. -/
def judge (refusal : Refusal) (current : Text) (v : Value) : Run Update :=
  if v.isTruthy then compareWith refusal current v else pure .upToDate

/-- What the index says of a newer version. -/
def check (network : Http.Network) (current : Text) (refusal : Refusal := .likeText) :
    Run Update := do
  match ← (latest network).attempt with
  | .ok v => judge refusal current v
  | .error e => unreachable e

/-- Lines are shown one after another. -/
def printAll (lines : List Text) : Run Unit := Run.each Console.standard.print lines

/-- The lines that say what is known of a newer version. -/
def verdict (current : Text) : Update → List Text
  | .newer v => [
      Console.inStyle "green" ("New version available: ".toList ++ v),
      Console.inStyle "yellow" ("Current version: ".toList ++ current),
      "\nTo update, run:",
      Console.inStyle "cyan" "pip install --upgrade gitcommitlint"]
  | _ => [Console.inStyle "green" ("You're running the latest version: ".toList ++ current)]

/-- The index is asked for a newer version, and its answer shown. -/
def checkAndShow (network : Http.Network) (current : Text) (refusal : Refusal := .likeText) :
    Run Unit := do
  Console.standard.print "Checking for updates..."
  let u ← check network current refusal
  printAll (verdict current u)

end Update

end CommitCheck
