import CommitCheck.Commit.Reference
import CommitCheck.Linter

/-!
# The rule of the issue reference

A commit has to have a body that refers to an issue, or that says by `Issue
#nil` that none applies.  If the header names an issue, the body has to repeat
its mark and number.  A numbered issue has to exist, which a checker is asked
for; its failures are passed on.
-/

namespace CommitCheck.IssueReference

/-- The name of the rule. -/
def name : Text := "issue-reference"

/-- What the rule says if there is no body. -/
def bodyRequired : Text := "Commit body is required"

/-- What the rule says if nothing is referred to. -/
def referenceMissing : Text :=
  "Body must contain \"Issue #nil\" or \"Issue #xxx\" (with a valid issue number)"

/-- The mark and the number of an issue. -/
def mention (issue : Text) : Text := Header.issueMark ++ issue

/-- What the rule says if the body does not repeat the issue of the header. -/
def mismatch (issue : Text) : Text :=
  "Body must contain \"".toList ++ mention issue ++ "\" when header references ".toList ++
    mention issue

/-- What the rule says of an issue that does not exist. -/
def issueMissing (issue : Text) : Text :=
  mention issue ++ " does not exist in the repository".toList

theorem mention_ne_nil (issue : Text) : mention issue ≠ [] :=
  List.append_ne_nil_of_left_ne_nil (by decide) issue

theorem mismatch_ne_nil (issue : Text) : mismatch issue ≠ [] :=
  List.append_ne_nil_of_right_ne_nil _ (mention_ne_nil issue)

theorem issueMissing_ne_nil (issue : Text) : issueMissing issue ≠ [] :=
  List.append_ne_nil_of_left_ne_nil (mention_ne_nil issue) _

/-- The verdict on a numbered issue. -/
def confirm (repository : Text) (exists? : Checker) (issue : Text) : Run Verdict := do
  if ← exists? repository issue then pure .pass
  else pure (.failing (issueMissing issue) (issueMissing_ne_nil issue))

/-- The verdict on a commit with a body that is not empty. -/
def judge (repository : Text) (exists? : Checker) (m : Message) (body : Text) : Run Verdict :=
  match Reference.first? m Reference.defaultPlaces with
  | none => pure (.failing referenceMissing (by decide))
  | some ⟨.header, id⟩ =>
      if occursIn (mention id) body then confirm repository exists? id
      else pure (.failing (mismatch id) (mismatch_ne_nil id))
  | some ⟨.body, id⟩ => if id == Reference.nil then pure .pass else confirm repository exists? id

/-- The rule for a repository. -/
def rule (repository : Text) (exists? : Checker) : Rule := fun m =>
  match m.body with
  | none => pure (.failing bodyRequired (by decide))
  | some [] => pure (.failing bodyRequired (by decide))
  | some (c :: cs) => judge repository exists? m (c :: cs)

end CommitCheck.IssueReference
