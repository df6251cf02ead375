import CommitCheck.Commit.Reference
import CommitCheck.Rule.Verdict

/-!
# The rule of the header format

The header of a commit has to be well formed.  The body plays no part.  A header is
well formed in one of two ways.

* A conventional type, a scope in parentheses if any, a colon, a space, and a
  subject of at least one character on the same line.  The scope is any text
  without a line feed and may itself have parentheses and colons.
* `Issue #`, a number in the digits 0 to 9, a colon, a space and a subject.

What follows the first character of the subject is free, line feeds included.
-/

namespace CommitCheck

/-! ## The grammar of headers -/

namespace Header

/-- The types of the conventional form. -/
def types : List Text := ["build", "chore", "ci", "docs", "feat", "fix", "perf", "refactor",
  "revert", "style", "test"]

/-- Whether a colon, a space and a subject come next. -/
def startsSubject : Text → Bool
  | ':' :: ' ' :: c :: _ => c != '\n'
  | _ => false

/-- Whether on this line a closing parenthesis comes that a subject follows. -/
def closesScope : Text → Bool
  | [] => false
  | c :: cs => (c == ')' && startsSubject cs) || (c != '\n' && closesScope cs)
termination_by structural t => t

/-- Whether what follows a conventional type is a scope, if any, and a subject. -/
def followsType : Text → Bool
  | '(' :: cs => closesScope cs
  | cs => startsSubject cs

/-- Whether a header has the conventional form. -/
def isConventional (h : Text) : Bool :=
  types.any fun t => match after? t h with
    | some rest => followsType rest
    | none => false

/-- Whether a header starts with the number of an issue and has a subject. -/
def isIssuePrefixed (h : Text) : Bool :=
  match after? issueMark h with
  | some rest =>
      !(rest.takeWhile Char.isDigit).isEmpty && startsSubject (rest.dropWhile Char.isDigit)
  | none => false

/-- Whether a header is well formed. -/
def isWellFormed (h : Text) : Bool := isConventional h || isIssuePrefixed h

example : isWellFormed "fix(a(b): c): d" = true := by decide
example : isWellFormed "Issue #12: x" = true := by decide
example : isWellFormed "fix:x" = false := by decide

end Header

/-! ## The rule -/

namespace HeaderFormat

/-- The name of the rule. -/
def name : Text := "header-format"

/-- What the rule says of a header that is not well formed. -/
def complaint : Text :=
  "Header must start with a conventional type (e.g., \"fix: \") or \"Issue #123: \""

/-- The verdict on a header. -/
def judge (header : Text) : Verdict :=
  if Header.isWellFormed header then .pass else .failing complaint (by decide)

/-- The verdict on a commit. -/
def verdict (m : Message) : Verdict := judge m.header

end HeaderFormat

end CommitCheck
