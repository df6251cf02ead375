import CommitCheck.Number.Binary64
import CommitCheck.Text.Blank

/-!
# Decimal text of numbers

Reading: `Decimal.parse?` takes a decimal numeral apart into sign, digits and
exponent, and `readFloat?` rounds it.

Writing: `shortest` finds the fewest significant digits that read back as the
number, and of those the digits nearest to it.  It tries one digit, then two,
and so on to seventeen, and at each length the two neighbours of the number on
that decimal grid.  As every candidate is read back before it is chosen, the
result reads back (`ok_of_onGrid?`).  `Binary64.text` lays the digits out:
positional while the exponent is from -4 to 15, and otherwise with an exponent
of two digits or more.
-/

namespace CommitCheck

/-- A decimal numeral: sign, coefficient, and exponent of ten. -/
structure Decimal where
  /-- Whether a hyphen stands in front. -/
  negative : Bool
  /-- The digits as a natural number. -/
  coefficient : Nat
  /-- The power of ten to multiply with. -/
  exponent : Int
deriving DecidableEq

namespace Decimal

/-- The number that a numeral writes. -/
def value (d : Decimal) : Binary64 := .ofDecimal d.negative d.coefficient d.exponent

/-- A sign in front of a numeral, and the rest. -/
def splitSign : Text → Bool × Text
  | '-' :: cs => (true, cs)
  | '+' :: cs => (false, cs)
  | cs => (false, cs)

/-- The exponent part of a numeral: empty, or the letter E and an integer. -/
def parseExponent? : Text → Option Int
  | [] => some 0
  | c :: cs =>
      if c == 'e' || c == 'E' then
        let (negative, ds) := splitSign cs
        if ds.isEmpty || !ds.all Char.isDigit then none
        else
          let n : Int := ofDigits ds
          some (if negative then -n else n)
      else none

/-- A numeral: a sign if any, digits with at most one point among or beside
them, and an exponent if any. -/
def parse? (t : Text) : Option Decimal :=
  let (negative, body) := splitSign t
  let whole := body.takeWhile Char.isDigit
  let rest := body.dropWhile Char.isDigit
  let (fraction, tail) := match rest with
    | '.' :: cs => (cs.takeWhile Char.isDigit, cs.dropWhile Char.isDigit)
    | cs => ([], cs)
  if whole.isEmpty && fraction.isEmpty then none
  else (parseExponent? tail).map fun e =>
    ⟨negative, ofDigits (whole ++ fraction), e - (fraction.length : Int)⟩

end Decimal

/-! ## Reading -/

/-- The names of the numbers that have no digits. -/
def namedFloat? (t : Text) : Option Binary64 :=
  let (negative, name) := Decimal.splitSign t
  let name := lowercase name
  if name = "inf" ∨ name = "infinity" then some (.infinite negative)
  else if name = "nan" then some .nan
  else none

/-- The number that a numeral or a name writes. -/
def readFloat? (t : Text) : Option Binary64 :=
  match Decimal.parse? t with
  | some d => some d.value
  | none => namedFloat? t

/-! ## Writing -/

namespace Binary64

/-- The largest exponent `k` with `10^k` at most the positive quotient. -/
def decimalExponent (num den : Nat) : Int :=
  if den ≤ num then ((natText (num / den)).length : Int) - 1
  else
    let d := (natText (den / num)).length
    if den = num * tenTo (d - 1) then 1 - (d : Int) else -(d : Int)

/-- Of the two natural numbers around a quotient the one that `ok` admits.  If
it admits both, the nearer one, and the even one if they are equally near. -/
def beside? (ok : Nat → Bool) (num den : Nat) : Option Nat :=
  let q := num / den
  let near := roundQuotient num den
  if ok q && ok (q + 1) then (if near = q then some q else some (q + 1))
  else if ok q then some q
  else if ok (q + 1) then some (q + 1)
  else none

/-- The numeral of `n` significant digits beside the quotient that `ok` admits,
as a coefficient and an exponent. -/
def onGrid? (ok : Nat → Int → Bool) (num den n : Nat) : Option (Nat × Int) :=
  let e := decimalExponent num den - ((n : Int) - 1)
  let a := if 0 ≤ e then num else num * tenTo (-e).toNat
  let b := if 0 ≤ e then den * tenTo e.toNat else den
  (beside? (ok · e) a b).map (·, e)

/-- The exact decimal value of a rank. -/
def exactDecimal (rank : Nat) : Nat × Int := (magnitude rank * Nat.pow 5 1074, -1074)

/-- The fewest digits that read back as the positive number of the rank, as a
coefficient and an exponent. -/
def shortest (rank : Nat) : Nat × Int :=
  let ok := fun c e => ofDecimal false c e == ofRank false rank
  ((List.range 17).findSome? fun n => onGrid? ok (magnitude rank) (twoTo 1074) (n + 1)).getD
    (exactDecimal rank)

/-- A digit text without the zeros at its end, at least one digit. -/
def significant (t : Text) : Text :=
  match dropTrail (· == '0') t with
  | [] => ['0']
  | ds => ds

/-- The text of a positive number with the given significant digits whose first
digit counts `10^k`. -/
def layout (ds : Text) (k : Int) : Text :=
  if -4 ≤ k ∧ k < 16 then
    if k < 0 then '0' :: '.' :: (List.replicate (-k - 1).toNat '0' ++ ds)
    else
      let whole := ds.take (k.toNat + 1)
      let fraction := ds.drop (k.toNat + 1)
      whole ++ List.replicate (k.toNat + 1 - whole.length) '0' ++
        '.' :: (if fraction.isEmpty then ['0'] else fraction)
  else
    let tail := match ds.drop 1 with
      | [] => []
      | fraction => '.' :: fraction
    ds.take 1 ++ tail ++ 'e' :: (if k < 0 then '-' else '+') :: padLeft 2 '0' (natText k.natAbs)

/-- The text of a number. -/
def text : Binary64 → Text
  | .nan => "nan"
  | .infinite negative => (if negative then ['-'] else []) ++ "inf".toList
  | .finite negative rank _ =>
      let sign := if negative then ['-'] else []
      if rank = 0 then sign ++ "0.0".toList
      else
        let (c, e) := shortest rank
        let ds := natText c
        sign ++ layout (significant ds) (e + (ds.length : Int) - 1)

/-! ## The chosen digits read back -/

theorem ok_of_beside? {ok : Nat → Bool} {num den q : Nat} (h : beside? ok num den = some q) :
    ok q = true := by
  unfold beside? at h
  dsimp only at h
  split at h
  · rename_i hb
    rw [Bool.and_eq_true] at hb
    split at h <;> obtain rfl := Option.some.inj h
    · exact hb.1
    · exact hb.2
  · split at h
    · rename_i hb
      obtain rfl := Option.some.inj h
      exact hb
    · split at h
      · rename_i hb
        obtain rfl := Option.some.inj h
        exact hb
      · exact absurd h (by simp)

theorem ok_of_onGrid? {ok : Nat → Int → Bool} {num den n c : Nat} {e : Int}
    (h : onGrid? ok num den n = some (c, e)) : ok c e = true := by
  obtain ⟨q, hq, hc⟩ := Option.map_eq_some_iff.1 h
  obtain ⟨rfl, rfl⟩ := Prod.mk.inj hc
  exact ok_of_beside? hq

example : (ofInt 10).text = "10.0" := by decide +kernel
example : (ofDecimal false 1 (-5)).text = "1e-05" := by decide +kernel
example : (ofDecimal true 12345 17).text = "-1.2345e+21" := by decide +kernel
example : (ofDecimal false 3 (-1)).text = "0.3" := by decide +kernel

end Binary64

end CommitCheck
