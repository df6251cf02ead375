import CommitCheck.Text.Basic

/-!
# Similar texts

Two texts are compared by the longest run of characters that they share, and then
in the same way by what is before it and what is after it.  Their likeness is
twice the number of shared characters over the number of all characters.
`closest` gives the words that are most like a text.
-/

namespace CommitCheck

/-- The number of characters at the start that two texts share. -/
def sharedStart : Text → Text → Nat
  | a :: as, b :: bs => if a = b then sharedStart as bs + 1 else 0
  | _, _ => 0

/-- A run that two texts share: where it is in each of them, and its length. -/
structure SharedRun where
  /-- Where it starts in the first text. -/
  left : Nat
  /-- Where it starts in the second text. -/
  right : Nat
  /-- Its length. -/
  length : Nat

/-- The runs that two texts share, by where they start in the first text and then
in the second. -/
def sharedRuns (a b : Text) : List SharedRun :=
  (List.range a.length).flatMap fun i =>
    (List.range b.length).map fun j => ⟨i, j, sharedStart (a.drop i) (b.drop j)⟩

/-- The first of the longest runs that two texts share. -/
def longestShared (a b : Text) : SharedRun :=
  (sharedRuns a b).foldl (fun best r => if best.length < r.length then r else best) ⟨0, 0, 0⟩

/-- The number of characters that two texts share, of which the first one is no
longer than the bound. -/
def sharedCount : Nat → Text → Text → Nat
  | 0, _, _ => 0
  | bound + 1, a, b =>
      let r := longestShared a b
      if r.length = 0 then 0
      else r.length + sharedCount bound (a.take r.left) (b.take r.right) +
        sharedCount bound (a.drop (r.left + r.length)) (b.drop (r.right + r.length))

/-- The likeness of two texts as a fraction: above and below the line. -/
def likeness (a b : Text) : Nat × Nat :=
  (2 * sharedCount a.length a b, a.length + b.length)

/-- Whether texts are alike enough for one to be meant by the other: six tenths. -/
def isAlike (l : Nat × Nat) : Bool := l.2 * 6 ≤ l.1 * 10

/-- Whether a text comes before another one, or is the same, in the order of the
numbers of their characters. -/
def isUpTo : Text → Text → Bool
  | [], _ => true
  | _ :: _, [] => false
  | a :: as, b :: bs => a.toNat < b.toNat || (a == b && isUpTo as bs)

/-- Whether a word is more like a text than another one.  Of two that are equally
like it, the one that is later in the order of texts comes first. -/
def isCloser (x y : (Nat × Nat) × Text) : Bool :=
  let left := x.1.1 * y.1.2
  let right := y.1.1 * x.1.2
  right < left || (left == right && isUpTo y.2 x.2)

/-- The words that are most like a text, at most three of them, the closest
first. -/
def closest (t : Text) (words : List Text) : List Text :=
  (((words.map fun w => (likeness w t, w)).filter fun x => isAlike x.1).mergeSort isCloser).map
    Prod.snd |>.take 3

example : likeness "--verbose" "--bogus" = (10, 16) := by decide +kernel

end CommitCheck
