import CommitCheck.Number.Decimal
import CommitCheck.Proofs.Number.Digits
import Mathlib.Data.Nat.Log

/-!
# Rounding to binary floating point

The number nearest to a quotient depends on the quotient alone (`ofRatio_mul_right`), and a
magnitude is nearest to itself (`rankOf_magnitude`).  So a decimal numeral keeps its number
when zeros at the end of its coefficient move into its exponent (`ofDecimal_mul_tenTo`), and
the exact decimal value of a rank reads back as the number of that rank
(`ofDecimal_exactDecimal`).
-/

namespace CommitCheck.Binary64

/-! ## Quotients -/

theorem twoTo_pos (n : Nat) : 0 < twoTo n := Nat.two_pow_pos n

theorem twoTo_add (m n : Nat) : twoTo (m + n) = twoTo m * twoTo n := Nat.pow_add 2 m n

theorem twoTo_le {m n : Nat} (h : m ≤ n) : twoTo m ≤ twoTo n := Nat.pow_le_pow_right (by decide) h

theorem tenTo_add (m n : Nat) : tenTo (m + n) = tenTo m * tenTo n := Nat.pow_add 10 m n

/-- A power of five. -/
def fiveTo (n : Nat) : Nat := Nat.pow 5 n

theorem fiveTo_eq (n : Nat) : Nat.pow 5 n = fiveTo n := rfl

theorem fiveTo_pos (n : Nat) : 0 < fiveTo n := Nat.pow_pos (by decide)

theorem tenTo_eq (n : Nat) : tenTo n = twoTo n * fiveTo n := Nat.mul_pow 2 5 n

theorem roundQuotient_mul_right (num den : Nat) {k : Nat} (hk : 0 < k) :
    roundQuotient (num * k) (den * k) = roundQuotient num den := by
  have below : 2 * (num % den * k) < den * k ↔ 2 * (num % den) < den := by
    rw [← Nat.mul_assoc]
    exact Nat.mul_lt_mul_right hk
  have above : den * k < 2 * (num % den * k) ↔ den < 2 * (num % den) := by
    rw [← Nat.mul_assoc]
    exact Nat.mul_lt_mul_right hk
  unfold roundQuotient
  simp only [Nat.mul_div_mul_right _ _ hk, Nat.mul_mod_mul_right, below, above]

theorem roundQuotient_one (n : Nat) : roundQuotient n 1 = n := by
  simp [roundQuotient, Nat.mod_one]

theorem rankOf_mul_right (units den : Nat) {k : Nat} (hk : 0 < k) :
    rankOf (units * k) (den * k) = rankOf units den := by
  unfold rankOf
  simp only [Nat.mul_div_mul_right _ _ hk]
  rw [Nat.mul_right_comm den k, roundQuotient_mul_right _ _ hk]

/-- The number nearest to a quotient depends on the quotient alone. -/
theorem ofRatio_mul_right (negative : Bool) (num den : Nat) {k : Nat} (hk : 0 < k) :
    ofRatio negative (num * k) (den * k) = ofRatio negative num den := by
  unfold ofRatio
  rw [Nat.mul_right_comm num k, rankOf_mul_right _ _ hk]

/-! ## Magnitudes -/

/-- The step of a magnitude that fills the 53 digits. -/
theorem log2_mul_twoTo {a n : Nat} (low : twoTo 52 ≤ a) (high : a < twoTo 53) :
    (a * twoTo n).log2 = 52 + n := by
  have ha : a ≠ 0 := by
    rintro rfl
    exact absurd low (by decide)
  refine (Nat.log2_eq_iff (Nat.mul_ne_zero ha (twoTo_pos n).ne')).2 ⟨?_, ?_⟩
  · calc 2 ^ (52 + n) = twoTo 52 * twoTo n := twoTo_add 52 n
      _ ≤ a * twoTo n := Nat.mul_le_mul_right _ low
  · calc a * twoTo n < twoTo 53 * twoTo n := Nat.mul_lt_mul_of_pos_right high (twoTo_pos n)
      _ = 2 ^ (53 + n) := (twoTo_add 53 n).symm
      _ = 2 ^ (52 + n + 1) := by rw [Nat.add_right_comm 52 n 1]

/-- Below 2^53 each whole number is a magnitude. -/
theorem rankOf_of_lt {units : Nat} (h : units < twoTo 53) : rankOf units 1 = units := by
  unfold rankOf
  simp only [Nat.div_one, h, if_true]
  rw [Nat.zero_mul, Nat.zero_add]
  exact roundQuotient_one units

/-- From 2^52 on each block of magnitudes has twice the step of the block before. -/
theorem rankOf_mul_twoTo {a n : Nat} (low : twoTo 52 ≤ a) (high : a < twoTo 53) :
    rankOf (a * twoTo n) 1 = n * twoTo 52 + a := by
  cases n with
  | zero =>
    rw [show a * twoTo 0 = a from Nat.mul_one a, rankOf_of_lt high, Nat.zero_mul, Nat.zero_add]
  | succ n =>
    have large : ¬a * twoTo (n + 1) < twoTo 53 :=
      Nat.not_lt.2 (Nat.mul_le_mul low (twoTo_le (Nat.le_add_left 1 n)))
    unfold rankOf
    simp only [Nat.div_one, large, if_false, log2_mul_twoTo low high, Nat.add_sub_cancel_left]
    rw [roundQuotient_mul_right _ _ (twoTo_pos _), roundQuotient_one]

/-- A magnitude is nearest to itself. -/
theorem rankOf_magnitude (rank : Nat) : rankOf (magnitude rank) 1 = rank := by
  have parts : twoTo 52 * (rank / twoTo 52) + rank % twoTo 52 = rank := Nat.div_add_mod _ _
  have small : rank % twoTo 52 < twoTo 52 := Nat.mod_lt _ (twoTo_pos 52)
  have double : twoTo 53 = twoTo 52 + twoTo 52 := rfl
  unfold magnitude
  dsimp only
  split
  · rename_i first
    rw [first] at parts
    exact rankOf_of_lt (by omega)
  · rename_i later
    rw [rankOf_mul_twoTo (by omega) (by omega)]
    obtain ⟨n, hn⟩ := Nat.exists_eq_succ_of_ne_zero later
    rw [hn] at parts ⊢
    rw [Nat.mul_comm, Nat.succ_mul] at parts
    rw [Nat.succ_sub_one]
    omega

/-- The number of a magnitude is that of its rank. -/
theorem ofRatio_magnitude (negative : Bool) (rank : Nat) :
    ofRatio negative (magnitude rank) (twoTo 1074) = ofRank negative rank := by
  have h := rankOf_mul_right (magnitude rank) 1 (twoTo_pos 1074)
  rw [Nat.one_mul, rankOf_magnitude] at h
  unfold ofRatio
  rw [h]

/-! ## Decimal numerals -/

/-- A numeral within the range is the number nearest to its quotient, whose exponent may be
split in any way. -/
theorem ofDecimal_eq_ofRatio {negative : Bool} {c : Nat} {e : Int} (hc : c ≠ 0)
    (low : -400 ≤ e + (natText c).length) (high : e + (natText c).length ≤ 400) {m n : Nat}
    (he : e = (m : Int) - n) :
    ofDecimal negative c e = ofRatio negative (c * tenTo m) (tenTo n) := by
  unfold ofDecimal
  dsimp only
  rw [if_neg hc, if_neg (Int.not_lt.2 high), if_neg (Int.not_lt.2 low)]
  split
  · rename_i positive
    have hm : m = e.toNat + n := by omega
    rw [hm, tenTo_add, ← Nat.mul_assoc]
    have h := ofRatio_mul_right negative (c * tenTo e.toNat) 1 (tenTo_pos n)
    rw [Nat.one_mul] at h
    exact h.symm
  · have hn : n = (-e).toNat + m := by omega
    rw [hn, tenTo_add]
    exact (ofRatio_mul_right negative c _ (tenTo_pos m)).symm

/-- Zeros at the end of a coefficient count like the exponent. -/
theorem ofDecimal_mul_tenTo (negative : Bool) (c j : Nat) (e : Int) :
    ofDecimal negative (c * tenTo j) e = ofDecimal negative c (e + j) := by
  by_cases hc : c = 0
  · unfold ofDecimal
    rw [hc, Nat.zero_mul, if_pos rfl, if_pos rfl]
  · have htop : e + (natText (c * tenTo j)).length = e + j + (natText c).length := by
      rw [natText_mul_tenTo hc, List.length_append, List.length_replicate]
      omega
    have hcj : c * tenTo j ≠ 0 := Nat.mul_ne_zero hc (tenTo_pos j).ne'
    by_cases high : 400 < e + j + (natText c).length
    · unfold ofDecimal
      simp only [hc, hcj, htop, high, if_true, if_false]
    · by_cases low : e + j + (natText c).length < -400
      · unfold ofDecimal
        simp only [hc, hcj, htop, high, low, if_true, if_false]
      · have he : e = (e.toNat : Int) - (-e).toNat := by omega
        have hej : e + j = ((e.toNat + j : Nat) : Int) - (-e).toNat := by omega
        rw [ofDecimal_eq_ofRatio hcj (by omega) (by omega) he,
          ofDecimal_eq_ofRatio hc (by omega) (by omega) hej, Nat.add_comm e.toNat j, tenTo_add,
          Nat.mul_assoc]

theorem magnitude_ne_zero {rank : Nat} (h : rank ≠ 0) : magnitude rank ≠ 0 := by
  intro hm
  have hrank := rankOf_magnitude rank
  rw [hm] at hrank
  exact h (hrank.symm.trans (rankOf_of_lt (twoTo_pos 53)))

theorem magnitude_lt {rank : Nat} (h : rank < rankBound) : magnitude rank < twoTo 2098 := by
  have block : rank / twoTo 52 < 2047 := Nat.div_lt_of_lt_mul (by rwa [Nat.mul_comm])
  have small : rank % twoTo 52 < twoTo 52 := Nat.mod_lt _ (twoTo_pos 52)
  have double : twoTo 53 = twoTo 52 + twoTo 52 := rfl
  unfold magnitude
  dsimp only
  split
  · rename_i first
    exact Nat.lt_of_lt_of_le (Nat.lt_of_div_eq_zero (twoTo_pos 52) first) (twoTo_le (by decide))
  · calc (rank % twoTo 52 + twoTo 52) * twoTo (rank / twoTo 52 - 1)
        < twoTo 53 * twoTo (rank / twoTo 52 - 1) :=
          Nat.mul_lt_mul_of_pos_right (by omega) (twoTo_pos _)
      _ ≤ twoTo 53 * twoTo 2045 :=
          Nat.mul_le_mul_left _ (twoTo_le (by omega))
      _ = twoTo 2098 := (twoTo_add 53 2045).symm

theorem exactDecimal_eq (rank : Nat) :
    exactDecimal rank = (magnitude rank * fiveTo 1074, -1074) := by
  simp only [exactDecimal, fiveTo_eq]

/-- The exact decimal value of a rank reads back. -/
theorem ofDecimal_exactDecimal {rank : Nat} (h0 : rank ≠ 0) (h : rank < rankBound) :
    ofDecimal false (exactDecimal rank).1 (exactDecimal rank).2 = ofRank false rank := by
  have positive : 0 < magnitude rank := Nat.pos_of_ne_zero (magnitude_ne_zero h0)
  have five : 0 < fiveTo 1074 := fiveTo_pos 1074
  have low : tenTo 673 ≤ magnitude rank * fiveTo 1074 :=
    calc tenTo 673 ≤ fiveTo 1074 := by decide +kernel
      _ ≤ magnitude rank * fiveTo 1074 := Nat.le_mul_of_pos_left _ positive
  have high : magnitude rank * fiveTo 1074 < tenTo 1474 :=
    calc magnitude rank * fiveTo 1074 < twoTo 2098 * fiveTo 1074 :=
          Nat.mul_lt_mul_of_pos_right (magnitude_lt h) five
      _ ≤ tenTo 1474 := by decide +kernel
  -- so the coefficient has from 674 to 1474 digits, and the number lies within the range
  have long : ¬(natText (magnitude rank * fiveTo 1074)).length ≤ 673 := fun hle =>
    Nat.not_lt.2 low ((length_natText_le_iff (by decide)).1 hle)
  have short : (natText (magnitude rank * fiveTo 1074)).length ≤ 1474 :=
    (length_natText_le_iff (by decide)).2 high
  have split : (-1074 : Int) = (0 : Nat) - (1074 : Nat) := rfl
  rw [exactDecimal_eq]
  calc ofDecimal false (magnitude rank * fiveTo 1074) (-1074)
      = ofRatio false (magnitude rank * fiveTo 1074 * tenTo 0) (tenTo 1074) :=
        ofDecimal_eq_ofRatio (Nat.mul_ne_zero positive.ne' five.ne') (by omega) (by omega) split
    _ = ofRatio false (magnitude rank * fiveTo 1074) (twoTo 1074 * fiveTo 1074) := by
        rw [tenTo_eq 1074, show tenTo 0 = 1 from rfl, Nat.mul_one]
    _ = ofRank false rank := by
        rw [ofRatio_mul_right _ _ _ five, ofRatio_magnitude]

end CommitCheck.Binary64
