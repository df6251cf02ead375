import CommitCheck.Proofs.Number.Binary64

/-!
# The shortest decimal numeral of a number

Whatever coefficient and exponent `shortest` comes to, they read back as the number
(`ofDecimal_shortest`).  The text of a positive number is the layout of the digits of that
coefficient, without the zeros at its end (`exists_layout`).
-/

namespace CommitCheck

/-- Digits of which the first one counts. -/
structure LeadingDigits (ds : Text) : Prop where
  /-- All of them are digits. -/
  isDigit : ∀ c ∈ ds, c.isDigit = true
  /-- There is a first one. -/
  ne_nil : ds ≠ []
  /-- It is not zero. -/
  first : ds.head? ≠ some '0'

theorem leadingDigits_natText {n : Nat} (hn : n ≠ 0) : LeadingDigits (natText n) where
  isDigit _ := isDigit_of_mem_natText
  ne_nil := natText_ne_nil n
  first := head?_natText hn

theorem LeadingDigits.append {ds es : Text} (h : LeadingDigits ds)
    (hes : ∀ c ∈ es, c.isDigit = true) : LeadingDigits (ds ++ es) where
  isDigit c hc := (List.mem_append.1 hc).elim (h.isDigit c) (hes c)
  ne_nil := List.append_ne_nil_of_left_ne_nil h.ne_nil es
  first := by
    rw [List.head?_append_of_ne_nil _ h.ne_nil]
    exact h.first

theorem LeadingDigits.take {ds : Text} (h : LeadingDigits ds) (n : Nat) :
    LeadingDigits (ds.take (n + 1)) where
  isDigit c hc := h.isDigit c (List.mem_of_mem_take hc)
  ne_nil hnil := h.ne_nil ((List.take_eq_nil_iff.1 hnil).resolve_left (Nat.succ_ne_zero n))
  first := by
    rw [List.head?_take, if_neg (Nat.succ_ne_zero n)]
    exact h.first

namespace Binary64

/-! ## The coefficient -/

/-- The digits that `shortest` comes to read back. -/
theorem ofDecimal_shortest {rank : Nat} (h0 : rank ≠ 0) (h : rank < rankBound) :
    ofDecimal false (shortest rank).1 (shortest rank).2 = ofRank false rank := by
  unfold shortest
  dsimp only
  cases hfound : (List.range 17).findSome? fun n =>
      onGrid? (fun c e => ofDecimal false c e == ofRank false rank) (magnitude rank) (twoTo 1074)
        (n + 1) with
  | none => exact ofDecimal_exactDecimal h0 h
  | some found =>
    obtain ⟨n, _, hn⟩ := List.exists_of_findSome?_eq_some hfound
    exact eq_of_beq (ok_of_onGrid? hn)

/-- A coefficient of zero writes zero and nothing else. -/
theorem shortest_ne_zero {rank : Nat} (h0 : rank ≠ 0) (h : rank < rankBound) :
    (shortest rank).1 ≠ 0 := by
  intro hzero
  have hread := ofDecimal_shortest h0 h
  have hpos : 0 < rankBound := Nat.lt_of_le_of_lt (Nat.zero_le rank) h
  unfold ofDecimal ofRank at hread
  rw [if_pos hzero, dif_pos h, dif_pos hpos] at hread
  exact h0 (Binary64.finite.inj hread).2.symm

/-! ## Its digits -/

/-- The zeros at the end of a number are all that its significant digits lack. -/
theorem exists_significant {n : Nat} (hn : n ≠ 0) :
    LeadingDigits (significant (natText n)) ∧
      ∃ j, natText n = significant (natText n) ++ List.replicate j '0' := by
  have hdigits := leadingDigits_natText hn
  obtain ⟨zeros, hsplit, hzeros⟩ := dropTrail_append (· == '0') (natText n)
  have hreplicate : zeros = List.replicate zeros.length '0' :=
    List.eq_replicate_iff.2 ⟨rfl, fun c hc => eq_of_beq (List.all_eq_true.1 hzeros c hc)⟩
  unfold significant
  cases hkept : dropTrail (· == '0') (natText n) with
  | nil =>
    -- then all digits would be zeros, the first one too
    rw [hkept, List.nil_append] at hsplit
    cases zeros with
    | nil => exact absurd hsplit hdigits.ne_nil
    | cons z zs =>
      have hz : z = '0' := (List.cons.inj hreplicate).1
      exact absurd (by rw [hsplit, hz]; rfl) hdigits.first
  | cons d ds =>
    rw [hkept] at hsplit
    refine ⟨⟨fun c hc => ?_, List.cons_ne_nil d ds, ?_⟩, zeros.length, hreplicate ▸ hsplit⟩
    · exact hdigits.isDigit c (by rw [hsplit]; exact List.mem_append_left _ hc)
    · have hfirst := hdigits.first
      rw [hsplit] at hfirst
      exact hfirst

theorem text_finite {rank : Nat} (h0 : rank ≠ 0) (h : rank < rankBound) :
    (Binary64.finite false rank h).text =
      layout (significant (natText (shortest rank).1))
        ((shortest rank).2 + (natText (shortest rank).1).length - 1) := by
  unfold text
  simp only [h0, if_false, Bool.false_eq_true]
  rfl

/-- The text of a positive number lays out digits that read back as the number. -/
theorem exists_layout {rank : Nat} (h0 : rank ≠ 0) (h : rank < rankBound) :
    ∃ ds k, (Binary64.finite false rank h).text = layout ds k ∧ LeadingDigits ds ∧
      ofDecimal false (ofDigits ds) (k + 1 - ds.length) = .finite false rank h := by
  obtain ⟨hdigits, j, hsplit⟩ := exists_significant (shortest_ne_zero h0 h)
  have hlength : (natText (shortest rank).1).length =
      (significant (natText (shortest rank).1)).length + j := by
    conv_lhs => rw [hsplit]
    rw [List.length_append, List.length_replicate]
  have hvalue :
      (shortest rank).1 = ofDigits (significant (natText (shortest rank).1)) * tenTo j := by
    conv_lhs => rw [← ofDigits_natText (shortest rank).1, hsplit]
    exact ofDigits_append_zeros _ j
  have hread := ofDecimal_shortest h0 h
  rw [hvalue, ofDecimal_mul_tenTo] at hread
  refine ⟨_, _, text_finite h0 h, hdigits, ?_⟩
  have hexponent : (shortest rank).2 + (natText (shortest rank).1).length - 1 + 1 -
      (significant (natText (shortest rank).1)).length = (shortest rank).2 + j := by omega
  rw [hexponent, hread]
  exact dif_pos h

/-- A positive number is infinite, or its text lays out digits that read back as the number. -/
theorem eq_infinite_or_layout {x : Binary64} (hx : x.isPositive = true) :
    x = .infinite false ∨ ∃ ds k, x.text = layout ds k ∧ LeadingDigits ds ∧
      ofDecimal false (ofDigits ds) (k + 1 - ds.length) = x := by
  cases x with
  | nan => exact absurd hx Bool.false_ne_true
  | infinite negative =>
    cases negative with
    | true => exact absurd hx Bool.false_ne_true
    | false => exact .inl rfl
  | finite negative rank h =>
    obtain ⟨rfl, hrank⟩ : negative = false ∧ rank ≠ 0 := by simpa [isPositive] using hx
    exact .inr (exists_layout hrank h)

end Binary64

end CommitCheck
