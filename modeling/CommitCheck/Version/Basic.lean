import CommitCheck.Number.Whole

/-!
# Versions

A version has an epoch, the numbers of its release, and parts that say whether it
comes before the release, after it, or from its development, and how it was
built: `1!2.0rc1.post2.dev3+local.4`.

`Version.parse?` reads one.  Case and blanks around it do not count, and parts
have several spellings: `alpha` for `a`, `rev` or a mere hyphen for `post`, marks
between the parts or none.
-/

namespace CommitCheck

/-- What comes before a release, in this order. -/
inductive Phase where
  /-- The first tries. -/
  | alpha
  /-- The later tries. -/
  | beta
  /-- What is to be the release. -/
  | candidate
deriving DecidableEq, Inhabited

/-- A part of the name of a build. -/
inductive BuildPart where
  /-- A word with a letter in it. -/
  | word (t : Text)
  /-- A number. -/
  | number (n : Nat)
deriving DecidableEq, Inhabited

/-- A version. -/
structure Version where
  /-- The epoch. -/
  epoch : Nat
  /-- The numbers of the release. -/
  release : List Nat
  /-- The phase before the release, and the number in it. -/
  pre : Option (Phase × Nat)
  /-- The number of the correction after the release. -/
  post : Option Nat
  /-- The number of the state of development. -/
  dev : Option Nat
  /-- The name of the build. -/
  build : List BuildPart
deriving DecidableEq, Inhabited

namespace Version

/-! ## Reading the parts -/

/-- The number that a text starts with, and what follows. -/
def number? (t : Text) : Option (Nat × Text) :=
  let ds := t.takeWhile Char.isDigit
  if ds.isEmpty then none else some (ofDigits ds, t.drop ds.length)

/-- Numbers with full stops between them, the first of which has begun, and what
follows. -/
def numbersAfter (n : Nat) : Text → List Nat × Text
  | '.' :: c :: cs =>
      if c.isDigit then
        let (ns, rest) := numbersAfter (ofDigits [c]) cs
        (n :: ns, rest)
      else ([n], '.' :: c :: cs)
  | c :: cs => if c.isDigit then numbersAfter (n * 10 + ofDigits [c]) cs else ([n], c :: cs)
  | [] => ([n], [])
termination_by structural t => t

/-- The numbers of a release that a text starts with, and what follows. -/
def numbers? : Text → Option (List Nat × Text)
  | c :: cs => if c.isDigit then some (numbersAfter (ofDigits [c]) cs) else none
  | [] => none

/-- The epoch that a text starts with, and what follows. -/
def epochOf (t : Text) : Nat × Text :=
  match number? t with
  | some (n, '!' :: rest) => (n, rest)
  | _ => (0, t)

/-- Whether a character can stand between two parts. -/
def isMark (c : Char) : Bool := c == '.' || c == '_' || c == '-'

/-- A text without the mark that it starts with. -/
def dropMark : Text → Text
  | [] => []
  | c :: cs => if isMark c then cs else c :: cs

/-- The first word of a list that a text starts with: what the word stands for,
and what follows it. -/
def word? {α : Type} : List (Text × α) → Text → Option (α × Text)
  | [], _ => none
  | (w, a) :: ws, t => match after? w t with
      | some rest => some (a, rest)
      | none => word? ws t

/-- A part that a text starts with: what its word stands for, its number, which is
zero where none is written, and what follows. -/
def part? {α : Type} (words : List (Text × α)) (t : Text) : Option (α × Nat × Text) :=
  match word? words (dropMark t) with
  | none => none
  | some (a, rest) =>
      let rest := dropMark rest
      match number? rest with
      | none => some (a, 0, rest)
      | some (n, rest) => some (a, n, rest)

/-- The words for the phases. -/
def phaseWords : List (Text × Phase) := [("alpha", .alpha), ("a", .alpha), ("beta", .beta),
  ("b", .beta), ("preview", .candidate), ("pre", .candidate), ("c", .candidate), ("rc", .candidate)]

/-- The words for a correction. -/
def postWords : List (Text × Unit) := [("post", ()), ("rev", ()), ("r", ())]

/-- The word for a state of development. -/
def devWords : List (Text × Unit) := [("dev", ())]

/-- The phase that a text starts with, if any, and what follows. -/
def preOf (t : Text) : Option (Phase × Nat) × Text :=
  match part? phaseWords t with
  | some (p, n, rest) => (some (p, n), rest)
  | none => (none, t)

/-- The correction that a text starts with, if any, and what follows. -/
def postOf (t : Text) : Option Nat × Text :=
  let bare := match t with
    | '-' :: rest => number? rest
    | _ => none
  match bare with
  | some (n, rest) => (some n, rest)
  | none => match part? postWords t with
      | some (_, n, rest) => (some n, rest)
      | none => (none, t)

/-- The state of development that a text starts with, if any, and what follows. -/
def devOf (t : Text) : Option Nat × Text :=
  match part? devWords t with
  | some (_, n, rest) => (some n, rest)
  | none => (none, t)

/-- Whether a character can stand in the name of a build, where capital letters
have been made small. -/
def isBuildChar (c : Char) : Bool := c.isDigit || c.isLower

/-- The part of the name of a build that a text writes. -/
def buildPart (t : Text) : BuildPart := if t.all Char.isDigit then .number (ofDigits t) else .word t

/-- The name of a build that is a whole text, a plus sign in front. -/
def build? : Text → Option (List BuildPart)
  | [] => some []
  | '+' :: cs =>
      let parts := splitAt '.' (cs.map fun c => if isMark c then '.' else c)
      if parts.all fun p => !p.isEmpty && p.all isBuildChar then some (parts.map buildPart)
      else none
  | _ => none

/-! ## Reading a version -/

/-- A text without the letter that can stand in front of a version. -/
def dropLetter : Text → Text
  | 'v' :: cs => cs
  | cs => cs

/-- The version that a text writes. -/
def parse? (t : Text) : Option Version :=
  let (epoch, t) := epochOf (dropLetter (lowercase (trim t)))
  match numbers? t with
  | none => none
  | some (release, t) =>
      let (pre, t) := preOf t
      let (post, t) := postOf t
      let (dev, t) := devOf t
      (build? t).map fun build => ⟨epoch, release, pre, post, dev, build⟩

/-- The lengths of the runs of digits in a text. -/
def digitRuns (t : Text) : List Nat :=
  let (open', closed) := t.foldr (fun c (n, ns) => if c.isDigit then (n + 1, ns) else (0, n :: ns))
    ((0, []) : Nat × List Nat)
  open' :: closed

/-- Whether a text that writes a version has a number with too many digits.  In the
name of a build only a part of nothing but digits is a number. -/
def isUnreadable (t : Text) : Bool :=
  let (before, build) := (cutAt? '+' (trim t)).getD (t, [])
  let parts := splitAt '.' (build.map fun c => if isMark c then '.' else c)
  (digitRuns before).any (digitLimit < ·) ||
    parts.any fun p => p.all Char.isDigit && digitLimit < p.length

example : digitRuns "12.345" = [2, 3] := by decide
example : parse? " V1!2.0-RC_1-3.dev+a.04\n" =
    some ⟨1, [2, 0], some (.candidate, 1), some 3, some 0, [.word "a", .number 4]⟩ := by decide
example : parse? "1.0-" = none ∧ parse? "1..0" = none ∧ parse? "1.0+" = none := by decide

end Version

end CommitCheck
