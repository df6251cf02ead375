import CommitCheck.Record.Reading
import CommitCheck.Run.Failure
import CommitCheck.Text.Word

/-!
# The repository and its token

Which repository the issues belong to and with which token its tracker is
asked.  Both come from the environment.  The name of a repository is an owner
and a name with a slash between them, each of one or more word characters, full
stops and hyphens.
-/

namespace CommitCheck

/-- The variables of an environment, each of one name. -/
abbrev Environment := List (Text × Text)

/-- A repository and the token for its tracker. -/
structure RepositoryContext where
  /-- Owner and name. -/
  repository : Text
  /-- The token. -/
  token : Text
deriving DecidableEq, Inhabited

namespace RepositoryContext

/-- The variable that names the repository. -/
def repositoryVariable : Text := "GITHUB_REPOSITORY"

/-- The variable that holds the token. -/
def tokenVariable : Text := "GITHUB_TOKEN"

/-- Whether a character can be in the name of an owner or a repository. -/
def isNameChar (c : Char) : Bool := isWord c || c == '.' || c == '-'

/-- Whether a text is an owner and a name with a slash between them. -/
def isOwnerAndName (t : Text) : Bool :=
  match cutAt? '/' t with
  | none => false
  | some (owner, name) =>
      !owner.isEmpty && owner.all isNameChar && !name.isEmpty && name.all isNameChar

/-- The repository and the token that an environment names. -/
def ofEnvironment (env : Environment) : Except Failure RepositoryContext :=
  let repository := trim ((env.lookup repositoryVariable).getD [])
  let token := trim ((env.lookup tokenVariable).getD [])
  if repository.isEmpty then .error .repositoryUnset
  else if !isOwnerAndName repository then .error (.repositoryMalformed repository)
  else if token.isEmpty then .error .tokenUnset
  else .ok ⟨repository, token⟩

/-- How a context is shown.  The token is left out. -/
def shown (c : RepositoryContext) : Text :=
  "RepositoryContext(repository=".toList ++ quoted c.repository ++ [')']

end RepositoryContext

end CommitCheck
