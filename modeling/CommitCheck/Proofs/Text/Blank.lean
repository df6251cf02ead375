import CommitCheck.Text.Blank
import Mathlib.Data.List.Basic

/-!
# What trimming leaves

A text that has no character of a class at an end stays as it is when that end is trimmed
(`dropTrail_eq_self`, `dropLead_eq_self`), and a trimmed text has none at either end.  So a text
that was trimmed at both ends can be trimmed again without a change (`dropEnds_eq_self`).

`IsTrimOf` tells without a procedure what a text is when both its ends are trimmed: a part with
nothing but characters of the class around it and none of them at its own ends.  There is one such
part (`dropEnds_eq_iff`).
-/

namespace CommitCheck

variable {p : Char → Bool} {t : Text}

/-- The text has no character of a class at either end. -/
structure IsTrimmed (p : Char → Bool) (t : Text) : Prop where
  /-- Not at the start. -/
  head : ∀ c, t.head? = some c → p c = false
  /-- Not at the end. -/
  last : ∀ c, t.getLast? = some c → p c = false

theorem dropTrail_prefix_self (p : Char → Bool) (t : Text) : dropTrail p t <+: t := by
  obtain ⟨r, hr, -⟩ := dropTrail_append p t
  exact ⟨r, hr.symm⟩

theorem dropEnds_infix_self (p : Char → Bool) (t : Text) : dropEnds p t <:+: t :=
  (dropTrail_prefix_self p (dropLead p t)).isInfix.trans (List.dropWhile_suffix p).isInfix

/-- A character that is not of the class stays. -/
theorem mem_dropEnds {c : Char} (hc : c ∈ t) (hp : p c = false) : c ∈ dropEnds p t := by
  have hlead : c ∈ dropLead p t := by
    rw [← List.takeWhile_append_dropWhile (p := p) (l := t), List.mem_append] at hc
    exact hc.resolve_left fun hmem => by
      simp [List.all_eq_true.1 List.all_takeWhile c hmem] at hp
  obtain ⟨r, hr, hall⟩ := dropTrail_append p (dropLead p t)
  rw [hr, List.mem_append] at hlead
  exact hlead.resolve_right fun hmem => by simp [List.all_eq_true.1 hall c hmem] at hp

theorem dropLead_eq_self (h : ∀ c, t.head? = some c → p c = false) : dropLead p t = t := by
  cases t with
  | nil => rfl
  | cons c cs =>
    have hc : ¬p c = true := by simp [h c rfl]
    exact List.dropWhile_cons_of_neg hc

theorem dropTrail_eq_self (h : ∀ c, t.getLast? = some c → p c = false) : dropTrail p t = t := by
  obtain ⟨r, hr, hall⟩ := dropTrail_append p t
  cases hlast : r.getLast? with
  | none =>
    rw [List.getLast?_eq_none_iff.1 hlast, List.append_nil] at hr
    exact hr.symm
  | some c =>
    -- the last character dropped would be the last one of the text
    have htext : t.getLast? = some c := by
      rw [hr, List.getLast?_append, hlast, Option.some_or]
    have hdropped : p c = true := List.all_eq_true.1 hall c (List.mem_of_getLast? hlast)
    rw [h c htext] at hdropped
    cases hdropped

/-- Characters of the class behind a text are dropped with those at its end. -/
theorem dropTrail_append_of_all {r : Text} (h : r.all p = true) (t : Text) :
    dropTrail p (t ++ r) = dropTrail p t := by
  induction t with
  | nil => exact dropTrail_eq_nil_iff.2 h
  | cons c cs ih =>
    rw [List.cons_append, dropTrail, dropTrail, ih]

theorem head?_dropLead {c : Char} (h : (dropLead p t).head? = some c) : p c = false := by
  have hnot := List.head?_dropWhile_not p t
  change (t.dropWhile p).head? = some c at h
  rw [h] at hnot
  exact hnot

theorem isTrimmed_dropEnds (p : Char → Bool) (t : Text) : IsTrimmed p (dropEnds p t) where
  head := by
    intro c hc
    obtain ⟨r, hr⟩ := dropTrail_prefix_self p (dropLead p t)
    refine head?_dropLead (p := p) (t := t) ?_
    change (dropTrail p (dropLead p t)).head? = some c at hc
    rw [← hr, List.head?_append, hc, Option.some_or]
  last := by
    intro c hc
    exact dropTrail_getLast? hc

theorem dropEnds_eq_self (h : IsTrimmed p t) : dropEnds p t = t := by
  rw [dropEnds, dropLead_eq_self h.head, dropTrail_eq_self h.last]

/-! ## The trimmed part of a text -/

/-- A text is another one without the characters of a class at its ends. -/
structure IsTrimOf (p : Char → Bool) (s t : Text) : Prop where
  /-- It has none of them at either end. -/
  trimmed : IsTrimmed p s
  /-- There is nothing else around it. -/
  around : ∃ lead tail, t = lead ++ s ++ tail ∧ lead.all p = true ∧ tail.all p = true

theorem isTrimOf_dropEnds (p : Char → Bool) (t : Text) : IsTrimOf p (dropEnds p t) t where
  trimmed := isTrimmed_dropEnds p t
  around := by
    obtain ⟨tail, htail, hall⟩ := dropTrail_append p (dropLead p t)
    refine ⟨t.takeWhile p, tail, ?_, List.all_takeWhile, hall⟩
    conv_lhs => rw [← List.takeWhile_append_dropWhile (p := p) (l := t)]
    rw [List.append_assoc]
    exact congrArg _ htail

/-- A text is trimmed in one way. -/
theorem dropEnds_eq_iff {s : Text} : dropEnds p t = s ↔ IsTrimOf p s t := by
  refine ⟨fun h => h ▸ isTrimOf_dropEnds p t, ?_⟩
  rintro ⟨htrimmed, lead, tail, rfl, hlead, htail⟩
  have hfront : dropLead p (lead ++ s ++ tail) = dropLead p (s ++ tail) := by
    rw [List.append_assoc]
    exact List.dropWhile_append_of_pos (List.all_eq_true.1 hlead)
  rw [dropEnds, hfront]
  cases s with
  | nil =>
    refine dropTrail_eq_nil_iff.2 (List.all_eq_true.2 fun c hc => ?_)
    exact List.all_eq_true.1 htail c ((List.dropWhile_sublist _).subset hc)
  | cons c cs =>
    have hhead : dropLead p (c :: cs ++ tail) = c :: cs ++ tail :=
      dropLead_eq_self fun d hd => htrimmed.head d hd
    rw [hhead, dropTrail_append_of_all htail, dropTrail_eq_self htrimmed.last]

end CommitCheck
