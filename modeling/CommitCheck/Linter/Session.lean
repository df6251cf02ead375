import CommitCheck.Linter

/-!
# Working with a linter

A linter is worked with operation by operation: rules are registered, observers are added
and removed, and commits are linted.  An operation that fails leaves the linter as it was,
and the work goes on from there.

`Linter.after` is the linter that a list of operations leads to, and `Linter.carriedOut` are
the operations among them that succeeded.
-/

namespace CommitCheck.Linter

/-- What can be done with a linter. -/
inductive Operation where
  /-- A rule is registered under a name, at the level that a value equals. -/
  | register (name : Text) (rule : Rule) (level : Value)
  /-- An observer is added. -/
  | addObserver (o : Observer)
  /-- The first observer of a name is removed. -/
  | removeObserver (name : Text)
  /-- A commit is linted. -/
  | lint (m : Message) (sha : Option Text)
  /-- Several commits are linted. -/
  | lintMany (commits : List (Option Text × Message))

/-- What an operation gives. -/
inductive Answer where
  /-- Nothing but that it is done. -/
  | done
  /-- The report on a commit. -/
  | report (r : Report)
  /-- The reports on several commits. -/
  | reports (rs : List Report)
deriving DecidableEq

/-- The linter that an attempt to change it leaves, and what is answered. -/
def attempted (l : Linter) : Except Failure Linter → Linter × Run Answer
  | .ok l' => (l', Run.pure .done)
  | .error e => (l, Run.fail e)

/-- An operation: the linter afterwards, and the run that took place. -/
def perform (l : Linter) : Operation → Linter × Run Answer
  | .register name rule level => l.attempted (l.registerAt name rule level)
  | .addObserver o => l.attempted (.ok (l.addObserver o))
  | .removeObserver name => l.attempted (l.removeObserver name)
  | .lint m sha => (l, do
      let r ← l.lint m sha
      pure (.report r))
  | .lintMany commits => (l, do
      let rs ← l.lintMany commits
      pure (.reports rs))

/-- The linter after several operations. -/
def after (l : Linter) : List Operation → Linter
  | [] => l
  | op :: ops => after (l.perform op).1 ops
termination_by structural ops => ops

/-- An operation alone if it succeeds. -/
def ifDone (l : Linter) (op : Operation) : List Operation :=
  match (l.perform op).2.outcome with
  | .ok _ => [op]
  | .error _ => []

/-- The operations among several that succeed. -/
def carriedOut (l : Linter) : List Operation → List Operation
  | [] => []
  | op :: ops => l.ifDone op ++ carriedOut (l.perform op).1 ops
termination_by structural ops => ops

end CommitCheck.Linter
