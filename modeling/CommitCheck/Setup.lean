import CommitCheck.Settings.Basic
import CommitCheck.Tracker

/-!
# A linter from settings

The linter of some settings has the rule of the header format, and the rule of
the issue reference unless that is disabled.  Only the second one needs a
repository and a token, so only then the environment has to name them.
-/

namespace CommitCheck.Linter

/-- The tracker that settings name. -/
def trackerOf (s : Settings) (context : RepositoryContext) (observers : List Observer) : Tracker :=
  .create context s.apiUrl s.timeout.text observers

/-- The linter with the rule of the header format. -/
def withHeaderFormat (s : Settings) (observers : List Observer) : Linter :=
  register ⟨[], observers⟩ HeaderFormat.name (.ofVerdict HeaderFormat.verdict)
    (s.levelOf HeaderFormat.name)

/-- The linter of settings.  The context and the checker are taken from the
environment and the network unless they are given. -/
def ofSettings (env : Environment) (network : Http.Network) (s : Settings)
    (context : Option RepositoryContext) (checker : Option Checker) (observers : List Observer) :
    Except Failure Linter := do
  let l := withHeaderFormat s observers
  let level := s.levelOf IssueReference.name
  if level = .disabled then .ok l
  else
    let context ← match context with
      | some c => .ok c
      | none => RepositoryContext.ofEnvironment env
    let checker := checker.getD ((trackerOf s context observers).ask network)
    .ok (l.register IssueReference.name (IssueReference.rule context.repository checker) level)

end CommitCheck.Linter
