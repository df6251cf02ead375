import CommitCheck.Proofs.Text.Blank
import CommitCheck.Settings.Basic

/-!
# Clean texts

What cleaning makes is clean: short, without control characters, and without blanks at its ends
(`isClean_cleaned`).  A clean text stays as it is (`cleaned_eq_self`).  So to clean a text once
more changes nothing (`cleaned_cleaned`), and what is found out about a cleaned text, such as
that it is a safe path, stays true.  `cleaned_closes` puts this together: cleaning is a closure
onto the clean texts, and nothing is lost but what a clean text cannot have.
-/

namespace CommitCheck

variable {t p : Text}

/-- A text that is short, has no control character but tabs and line ends, and no blank at
either end. -/
structure IsClean (t : Text) : Prop where
  /-- It is not longer than the limit. -/
  short : t.length ≤ cleanLimit
  /-- It has no character that cleaning drops. -/
  kept : ∀ c ∈ t, isDropped c = false
  /-- It has no blank at an end. -/
  trimmed : IsTrimmed isBlank t

theorem isClean_cleaned (t : Text) : IsClean (cleaned t) where
  short := by
    have hinfix := dropEnds_infix_self isBlank ((t.filter (!isDropped ·)).take cleanLimit)
    have hlength := hinfix.length_le
    rw [List.length_take] at hlength
    exact Nat.le_trans hlength (Nat.min_le_left _ _)
  kept := by
    intro c hc
    have htake := (dropEnds_infix_self isBlank _).subset hc
    have hfilter := List.mem_of_mem_take htake
    simpa using (List.mem_filter.1 hfilter).2
  trimmed := isTrimmed_dropEnds isBlank _

theorem cleaned_eq_self (h : IsClean t) : cleaned t = t := by
  have hfilter : t.filter (!isDropped ·) = t := by
    rw [List.filter_eq_self]
    intro c hc
    simp [h.kept c hc]
  rw [cleaned, hfilter, List.take_of_length_le h.short]
  exact dropEnds_eq_self h.trimmed

/-- A text that was cleaned stays as it is. -/
theorem cleaned_cleaned (t : Text) : cleaned (cleaned t) = cleaned t :=
  cleaned_eq_self (isClean_cleaned t)

/-- Cleaning is a closure onto the clean texts.

What it makes is clean.  It is a part of the text without its control characters, namely the first
thousand characters of that without the blanks at their ends.  To clean once more changes nothing,
and a text stays as it is exactly if it is clean. -/
theorem cleaned_closes (t : Text) :
    IsClean (cleaned t) ∧
      cleaned t <:+: t.filter (!isDropped ·) ∧
      IsTrimOf isBlank (cleaned t) ((t.filter (!isDropped ·)).take cleanLimit) ∧
      cleaned (cleaned t) = cleaned t ∧
      (cleaned t = t ↔ IsClean t) := by
  have hpart : cleaned t <:+: (t.filter (!isDropped ·)).take cleanLimit :=
    dropEnds_infix_self isBlank _
  refine ⟨isClean_cleaned t, ?_, isTrimOf_dropEnds isBlank _, cleaned_cleaned t, ?_⟩
  · exact hpart.trans (List.take_prefix cleanLimit _).isInfix
  · constructor
    · intro hsame
      rw [← hsame]
      exact isClean_cleaned t
    · intro hclean
      exact cleaned_eq_self hclean

/-- What makes a path safe. -/
theorem isSafePath_iff : isSafePath p = true ↔
    p ≠ [] ∧ ¬['.', '.'] <:+: p ∧ p.head? ≠ some '/' ∧ '\\' ∉ p := by
  rw [← occursIn_iff]
  simp [isSafePath, and_assoc]

end CommitCheck
