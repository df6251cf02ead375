import CommitCheck.Number.Binary64
import CommitCheck.Value.Stamp
import Mathlib.Data.List.Basic

/-!
# Decimal digits of numbers

The digits of a number read back as the number (`ofDigits_natText`).  Zeros in front of digits
do not count, and zeros behind them are factors of ten (`ofDigits_append_zeros`,
`natText_mul_tenTo`).  The digits of a number other than zero do not start with a zero
(`head?_natText`).

A point in time is written with digits and with the marks between them, and with nothing else
(`Moment.not_mem_layout`).  So a line of a log that starts with one goes on in the same line, and
the name of a file that is made of one is a single name.  Both start with a digit
(`Moment.exists_layout`).
-/

namespace CommitCheck

theorem tenTo_pos (n : Nat) : 0 < tenTo n := Nat.pow_pos (by decide)

theorem tenTo_succ (n : Nat) : tenTo (n + 1) = tenTo n * 10 := rfl

/-! ## The number of digits -/

theorem ofDigits_natText (n : Nat) : ofDigits (natText n) = n := Nat.ofDigitChars_ten_toDigits

theorem ofDigits_append (ds es : Text) :
    ofDigits (ds ++ es) = tenTo es.length * ofDigits ds + ofDigits es := by
  unfold ofDigits
  rw [Nat.ofDigitChars_append]
  exact Nat.ofDigitChars_eq_ofDigitChars_zero

theorem ofDigits_zeros (n : Nat) : ofDigits (List.replicate n '0') = 0 :=
  Nat.ofDigitChars_replicate_zero

theorem ofDigits_zeros_append (n : Nat) (ds : Text) :
    ofDigits (List.replicate n '0' ++ ds) = ofDigits ds := by
  rw [ofDigits_append, ofDigits_zeros, Nat.mul_zero, Nat.zero_add]

theorem ofDigits_append_zeros (ds : Text) (n : Nat) :
    ofDigits (ds ++ List.replicate n '0') = ofDigits ds * tenTo n := by
  rw [ofDigits_append, ofDigits_zeros, List.length_replicate, Nat.add_zero, Nat.mul_comm]

/-! ## The digits of a number -/

theorem isDigit_of_mem_natText {n : Nat} {c : Char} (h : c ∈ natText n) : c.isDigit = true :=
  Nat.isDigit_of_mem_toDigits (by decide) (by decide) h

theorem isDigit_of_mem_zeros {n : Nat} {c : Char} (h : c ∈ List.replicate n '0') :
    c.isDigit = true := by
  rw [List.eq_of_mem_replicate h]
  rfl

/-- Zeros in front of a number are digits as well. -/
theorem isDigit_of_mem_padLeft {width n : Nat} {c : Char}
    (h : c ∈ padLeft width '0' (natText n)) : c.isDigit = true := by
  rcases List.mem_append.1 h with h | h
  · exact isDigit_of_mem_zeros h
  · exact isDigit_of_mem_natText h

theorem natText_ne_nil (n : Nat) : natText n ≠ [] := Nat.toDigits_ne_nil

theorem length_natText_le_iff {n k : Nat} (hk : 0 < k) : (natText n).length ≤ k ↔ n < tenTo k :=
  Nat.length_toDigits_le_iff (by decide) hk

/-- A factor of ten is a zero behind the digits. -/
theorem natText_mul_ten {n : Nat} (hn : n ≠ 0) : natText (n * 10) = natText n ++ ['0'] := by
  have h : Nat.toDigits 10 n ++ Nat.toDigits 10 0 = Nat.toDigits 10 (10 * n + 0) :=
    Nat.toDigits_append_toDigits (by decide) (Nat.pos_of_ne_zero hn) (by decide)
  rw [Nat.add_zero, Nat.mul_comm] at h
  exact h.symm

theorem natText_mul_tenTo {n : Nat} (hn : n ≠ 0) (j : Nat) :
    natText (n * tenTo j) = natText n ++ List.replicate j '0' := by
  induction j with
  | zero => rw [show tenTo 0 = 1 from rfl, Nat.mul_one, List.replicate_zero, List.append_nil]
  | succ j ih =>
    have hj : n * tenTo j ≠ 0 := Nat.mul_ne_zero hn (Nat.ne_of_gt (tenTo_pos j))
    rw [tenTo_succ, ← Nat.mul_assoc, natText_mul_ten hj, ih, List.append_assoc,
      ← List.replicate_succ']

/-- The digits of a number other than zero do not start with a zero. -/
theorem head?_natText {n : Nat} (hn : n ≠ 0) : (natText n).head? ≠ some '0' := by
  induction n using Nat.strongRecOn with
  | ind n ih =>
    unfold natText
    rcases Nat.lt_or_ge n 10 with small | large
    · rw [Nat.toDigits_of_lt_base small, List.head?_cons]
      intro h
      exact hn (Nat.digitChar_eq_zero.1 (Option.some.inj h))
    · have first : n / 10 ≠ 0 := by omega
      rw [Nat.toDigits_of_base_le (by decide) large,
        List.head?_append_of_ne_nil _ Nat.toDigits_ne_nil]
      exact ih (n / 10) (by omega) first

/-! ## Points in time -/

namespace Moment

/-- A character that is no digit and no mark is not in a point in time. -/
theorem not_mem_layout {c middle mark : Char} (hdigit : c.isDigit = false) (hhyphen : c ≠ '-')
    (hmiddle : c ≠ middle) (hmark : c ≠ mark) (m : Moment) : c ∉ m.layout middle mark := by
  have hpad (width n : Nat) : c ∉ padLeft width '0' (natText n) := by
    intro hc
    rw [isDigit_of_mem_padLeft hc] at hdigit
    cases hdigit
  simp only [layout, two, List.mem_append, List.mem_cons, not_or]
  exact ⟨⟨⟨⟨⟨hpad _ _, hhyphen, hpad _ _⟩, hhyphen, hpad _ _⟩, hmiddle, hpad _ _⟩, hmark,
    hpad _ _⟩, hmark, hpad _ _⟩

theorem exists_layout (middle mark : Char) (m : Moment) :
    ∃ c rest, m.layout middle mark = c :: rest ∧ c.isDigit = true := by
  have hne : padLeft 4 '0' (natText m.year) ≠ [] :=
    List.append_ne_nil_of_right_ne_nil _ (natText_ne_nil m.year)
  obtain ⟨c, rest, hyear⟩ := List.exists_cons_of_ne_nil hne
  have hdigit : c.isDigit = true := isDigit_of_mem_padLeft (hyear ▸ List.mem_cons_self)
  unfold layout
  rw [hyear]
  exact ⟨c, _, rfl, hdigit⟩

end Moment

end CommitCheck
