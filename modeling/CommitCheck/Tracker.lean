import CommitCheck.Context
import CommitCheck.Http.Client
import CommitCheck.Linter

/-!
# The issue tracker

The tracker is asked for an issue by one request.  An issue exists if the final
response says that all went well.  Every other status, whatever its reason, says
that it does not.  Only if the tracker cannot be reached is there no answer.

The observers of a tracker are told of every status.
-/

namespace CommitCheck

/-- An issue tracker. -/
structure Tracker where
  /-- The repository and the token. -/
  context : RepositoryContext
  /-- The address of the tracker, without slashes at its end. -/
  address : Text
  /-- The seconds to wait, as they are written. -/
  timeout : Text
  /-- The observers, oldest first. -/
  observers : List Observer

namespace Tracker

/-- The kind of answer that is asked for. -/
def accepted : Text := "application/vnd.github.v3+json"

/-- The tracker at an address. -/
def create (context : RepositoryContext) (address timeout : Text) (observers : List Observer) :
    Tracker :=
  ⟨context, dropTrail (· == '/') address, timeout, observers⟩

/-- The address of an issue. -/
def issueUrl (t : Tracker) (repository issue : Text) : Text :=
  t.address ++ "/repos/".toList ++ repository ++ "/issues/".toList ++ issue

/-- What a request to the tracker says. -/
def headers (t : Tracker) : Http.Headers :=
  ⟨some ("token ".toList ++ t.context.token), accepted, t.timeout⟩

/-- The reason that is given for a trouble. -/
def reasonOf (trouble : Http.Trouble) (message : Text) : Text :=
  if message.isEmpty then trouble.name else message

/-- A failure of a request as one of the question for an issue. -/
def failureOf (repository issue : Text) : Failure → Failure
  | .requestFailed trouble message =>
      if trouble.isTransport then
        .trackerUnreachable issue repository (some (reasonOf trouble message))
      else .requestFailed trouble message
  | e => e

/-- Whether an issue exists. -/
def ask (network : Http.Network) (t : Tracker) : Checker := fun repository issue => do
  let r ← (Http.get network t.headers (t.issueUrl repository issue)).orElse
    fun e => Run.fail (failureOf repository issue e)
  Observer.tellAll t.observers (.lookedUp repository issue r.status)
  pure (Http.isSuccess r.status)

/-- The tracker with one more observer. -/
def addObserver (t : Tracker) (o : Observer) : Tracker := { t with observers := t.observers ++ [o] }

/-- The tracker without the first observer of a name. -/
def removeObserver (t : Tracker) (name : Text) : Except Failure Tracker :=
  match Observer.remove? name t.observers with
  | none => .error .badValue
  | some os => .ok { t with observers := os }

end Tracker

end CommitCheck
