import CommitCheck.Commit.Message
import CommitCheck.Files.Path
import CommitCheck.Run.Basic

/-!
# Repositories

A repository answers a question about revisions with the commits that they name,
newest first.  `Repository.read` asks it and gives the commits oldest first, as
they are linted.
-/

namespace CommitCheck

/-- A commit as a repository keeps it. -/
structure StoredCommit where
  /-- Its name. -/
  sha : Text
  /-- Its text. -/
  text : Text
deriving DecidableEq

/-- The commits that revisions name, newest first, all of them or as many as the
limit says. -/
abbrev Repository := Text → Option Nat → Except Failure (List StoredCommit)

namespace Repository

/-- The repository whose revisions all name the same commits. -/
def ofCommits (commits : List StoredCommit) : Repository := fun _ limit =>
  match limit with
  | none => .ok commits
  | some n => .ok (commits.take n)

/-- The repository that cannot answer, with what it says. -/
def broken (stderr : Text) : Repository := fun revisions _ => .error (.gitFailed revisions stderr)

/-- The repository during whose answer the user stops the work. -/
def interrupting : Repository := fun _ _ => .error .interrupted

/-- A commit that is to be linted. -/
def parsed (c : StoredCommit) : Option Text × Message := (some c.sha, Message.parse c.text false)

/-- The commits that revisions name, oldest first.  The repository of the folder
may be missing. -/
def read (repository : Option Repository) (folder : Path) (revisions : Text) (limit : Option Nat) :
    Run (List (Option Text × Message)) :=
  match repository with
  | none => Run.fail (.notRepository folder.climbed.text)
  | some r => do
      Run.record (.readCommits folder.text revisions limit)
      let commits ← Run.ofExcept (r revisions limit)
      pure (commits.reverse.map parsed)

end Repository

end CommitCheck
