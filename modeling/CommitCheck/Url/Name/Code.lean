import CommitCheck.Text.Basic

/-!
# The code of names

A label with characters outside ASCII is written in ASCII.  First come its
characters of ASCII, then, after a hyphen, numbers that say which other characters
stand where.  The other characters are placed in the order of their code points.
For each one the number counts the steps from the place of the one before: a step
goes one place on, and from the end of the label to the start of the next code
point.

A number is written in digits to the base 36, the lowest first.  A digit below the
threshold of its place ends the number.  The thresholds follow a bias, which follows
the size of the numbers.

`encode` and `decode` write and read a label.  Both work on code points.
-/

namespace CommitCheck.Url.Name

/-! ## Digits and numbers -/

/-- The digit of a value to the base 36. -/
def baseDigit (n : Nat) : Char :=
  if n < 26 then Char.ofNat ('a'.toNat + n) else Char.ofNat ('0'.toNat + (n - 26))

/-- The value of a digit to the base 36, of either case. -/
def baseValue? (n : Nat) : Option Nat :=
  if 0x61 ≤ n && n ≤ 0x7A then some (n - 0x61)
  else if 0x41 ≤ n && n ≤ 0x5A then some (n - 0x41)
  else if 0x30 ≤ n && n ≤ 0x39 then some (n - 0x30 + 26)
  else none

/-- The least value that does not end a number at a place, by the bias. -/
def threshold (place bias : Nat) : Nat :=
  if place ≤ bias then 1 else if bias + 26 ≤ place then 26 else place - bias

/-- The digits of a number from a place on.  The bound limits their count. -/
def digitsFrom (bias : Nat) : Nat → Nat → Nat → Text
  | 0, _, _ => []
  | bound + 1, place, q =>
      let t := threshold place bias
      if q < t then [baseDigit q]
      else baseDigit (t + (q - t) % (36 - t)) ::
        digitsFrom bias bound (place + 36) ((q - t) / (36 - t))

/-- The number that digits write, of which the next one stands at a place and counts
for a weight, and the digits after it. -/
def numberFrom (bias : Nat) : Nat → Nat → Nat → List Nat → Option (Nat × List Nat)
  | _, _, _, [] => none
  | place, weight, total, c :: cs =>
      match baseValue? c with
      | none => none
      | some d =>
          let t := threshold place bias
          if d < t then some (total + d * weight, cs)
          else numberFrom bias (place + 36) (weight * (36 - t)) (total + d * weight) cs
termination_by structural _ _ _ cs => cs

/-- A difference divided until it is small, and the places this takes. -/
def scaleDown : Nat → Nat → Nat → Nat × Nat
  | 0, delta, k => (delta, k)
  | bound + 1, delta, k => if 455 < delta then scaleDown bound (delta / 35) (k + 36) else (delta, k)

/-- The bias after a number has been written. -/
def nextBias (delta count : Nat) (isFirst : Bool) : Nat :=
  let d := if isFirst then delta / 700 else delta / 2
  let (d, k) := scaleDown delta (d + d / count) 0
  k + 36 * d / (d + 38)

/-! ## Writing -/

/-- How far the writing of a label has come. -/
structure Writing where
  /-- What is written. -/
  out : Text
  /-- The number that comes next. -/
  delta : Nat
  /-- The bias. -/
  bias : Nat
  /-- How many characters are placed. -/
  placed : Nat

/-- The characters of a label passed over, where those of one code point are placed. -/
def Writing.pass (basic n : Nat) (s : Writing) (c : Nat) : Writing :=
  if c < n then { s with delta := s.delta + 1 }
  else if c = n then
    { out := s.out ++ digitsFrom s.bias (s.delta + 1) 36 s.delta
      delta := 0
      bias := nextBias s.delta (s.placed + 1) (s.placed == basic)
      placed := s.placed + 1 }
  else s

/-- The characters of the given code points placed one code point after another. -/
def Writing.placeAll (label : List Nat) (basic : Nat) : List Nat → Nat → Writing → Writing
  | [], _, s => s
  | n :: ns, first, s =>
      let s := { s with delta := s.delta + (n - first) * (s.placed + 1) }
      let s := label.foldl (pass basic n) s
      placeAll label basic ns (n + 1) { s with delta := s.delta + 1 }
termination_by structural ns => ns

/-- A number put into a rising list, unless it is there. -/
def insertOnce (n : Nat) : List Nat → List Nat
  | [] => [n]
  | m :: ms => if n < m then n :: m :: ms else if n = m then m :: ms else m :: insertOnce n ms
termination_by structural ms => ms

/-- The code points of a label outside ASCII, rising, each once. -/
def foreignCodes (label : List Nat) : List Nat :=
  (label.filter (0x80 ≤ ·)).foldr insertOnce []

/-- A label in ASCII. -/
def encode (label : List Nat) : Text :=
  let plain := label.filter (· < 0x80)
  let start : Writing := ⟨[], 0, 72, plain.length⟩
  let numbers := (start.placeAll label plain.length (foreignCodes label) 0x80).out
  (if plain.isEmpty then [] else plain.map Char.ofNat ++ ['-']) ++ numbers

/-! ## Reading -/

/-- How far the reading of a label has come. -/
structure Placing where
  /-- The label so far. -/
  label : List Nat
  /-- The place after the last character placed. -/
  place : Nat
  /-- The code point of the last character placed. -/
  code : Nat
  /-- The bias. -/
  bias : Nat

/-- A character placed by a number. -/
def Placing.step (s : Placing) (isFirst : Bool) (delta : Nat) : Option Placing :=
  let count := s.label.length + 1
  let place := s.place + delta
  let code := s.code + place / count
  if 0x10FFFF < code then none
  else
    let at' := place % count
    some ⟨s.label.take at' ++ code :: s.label.drop at', at' + 1, code,
      nextBias delta count isFirst⟩

/-- The label that numbers make of its characters of ASCII.  The bound limits the
count of numbers. -/
def placeNumbers : Nat → Bool → Placing → List Nat → Option (List Nat)
  | _, _, s, [] => some s.label
  | 0, _, _, _ :: _ => none
  | bound + 1, isFirst, s, c :: cs =>
      match numberFrom s.bias 36 1 0 (c :: cs) with
      | none => none
      | some (delta, rest) => match s.step isFirst delta with
          | none => none
          | some s => placeNumbers bound false s rest

/-- The label that a text in ASCII writes, if it writes one. -/
def decode (t : List Nat) : Option (List Nat) :=
  let numbers := (t.reverse.takeWhile (· != 0x2D)).reverse
  let plain := t.take (t.length - numbers.length - 1)
  placeNumbers numbers.length true ⟨plain, 0, 0x80, 72⟩ numbers

example : encode [0x6D, 0xFC, 0x6C, 0x6C, 0x65, 0x72] = "mller-kva" := by decide +kernel
example : decode ("mller-kva".toList.map Char.toNat) =
    some [0x6D, 0xFC, 0x6C, 0x6C, 0x65, 0x72] := by decide +kernel

end CommitCheck.Url.Name
