import CommitCheck.Text.Basic

/-!
# Binary floating point numbers of 64 bits

A finite number is a sign and a *rank*, its place among the magnitudes counted
from zero.  Every rank below `rankBound` is a number, so each number has one
form, and the magnitudes rise with their ranks.  A magnitude is a whole
multiple of 1/2^1074, the least positive one.  `magnitude` gives the multiple:
up to 2^53 it is the rank itself, and above that each block of 2^52 ranks
doubles the step.

`ofRatio` rounds a quotient of natural numbers to the nearest magnitude, a tie
to the one of even rank.  It computes with natural numbers only and so it
rounds exactly.
-/

namespace CommitCheck

/-- A power of two. -/
def twoTo (n : Nat) : Nat := Nat.pow 2 n

/-- A power of ten. -/
def tenTo (n : Nat) : Nat := Nat.pow 10 n

/-- The first rank that is too large for a finite number. -/
def rankBound : Nat := 2047 * twoTo 52

/-- A binary floating point number of 64 bits. -/
inductive Binary64 where
  /-- Not a number. -/
  | nan
  /-- An infinity of either sign. -/
  | infinite (negative : Bool)
  /-- A finite number of either sign, by the rank of its magnitude. -/
  | finite (negative : Bool) (rank : Nat) (bounded : rank < rankBound)
deriving DecidableEq

namespace Binary64

/-- The quotient rounded to the nearest natural number, a tie to the even one. -/
def roundQuotient (num den : Nat) : Nat :=
  let q := num / den
  let r := num % den
  if 2 * r < den then q else if den < 2 * r then q + 1 else q + q % 2

/-- The number of the given sign and rank, infinite if the rank is too large. -/
def ofRank (negative : Bool) (rank : Nat) : Binary64 :=
  if h : rank < rankBound then .finite negative rank h else .infinite negative

/-- The rank of the magnitude nearest to `units / den` steps of 1/2^1074. -/
def rankOf (units den : Nat) : Nat :=
  let whole := units / den
  let shift := if whole < twoTo 53 then 0 else whole.log2 - 52
  shift * twoTo 52 + roundQuotient units (den * twoTo shift)

/-- The number nearest to a quotient. -/
def ofRatio (negative : Bool) (num den : Nat) : Binary64 :=
  ofRank negative (rankOf (num * twoTo 1074) den)

/-- The magnitude of a rank in steps of 1/2^1074. -/
def magnitude (rank : Nat) : Nat :=
  let block := rank / twoTo 52
  if block = 0 then rank else (rank % twoTo 52 + twoTo 52) * twoTo (block - 1)

/-- The number that a decimal coefficient with an exponent of ten writes.  An
exponent far outside the range decides the result by itself. -/
def ofDecimal (negative : Bool) (coefficient : Nat) (exponent : Int) : Binary64 :=
  if coefficient = 0 then ofRank negative 0
  else
    let top := exponent + (natText coefficient).length
    if 400 < top then .infinite negative
    else if top < -400 then ofRank negative 0
    else if 0 ≤ exponent then ofRatio negative (coefficient * tenTo exponent.toNat) 1
    else ofRatio negative coefficient (tenTo (-exponent).toNat)

/-- The number nearest to an integer. -/
def ofInt (n : Int) : Binary64 := ofRatio (n < 0) n.natAbs 1

/-- Zero. -/
def zero : Binary64 := ofRank false 0

/-- Whether a number is greater than zero. -/
def isPositive : Binary64 → Bool
  | .nan => false
  | .infinite negative => !negative
  | .finite negative rank _ => !negative && rank != 0

/-- The integer that a finite number is, if it is one. -/
def toInt? : Binary64 → Option Int
  | .nan => none
  | .infinite _ => none
  | .finite negative rank _ =>
      let m := magnitude rank
      if m % twoTo 1074 = 0 then
        let n : Int := (m / twoTo 1074 : Nat)
        some (if negative then -n else n)
      else none

/-- Whether a number is zero of either sign. -/
def isZero : Binary64 → Bool
  | .finite _ 0 _ => true
  | _ => false

example : ofInt 1 = ofRank false (1023 * twoTo 52) := by decide +kernel
example : toInt? (ofInt (-2)) = some (-2) := by decide +kernel
example : toInt? (ofDecimal false 25 (-1)) = none := by decide +kernel

end Binary64

end CommitCheck
