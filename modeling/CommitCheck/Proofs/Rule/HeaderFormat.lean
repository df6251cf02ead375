import CommitCheck.Linter
import CommitCheck.Proofs.Commit.Reference
import CommitCheck.Rule.HeaderFormat

/-!
# The headers that keep the rule

The grammar of headers as a relation, with a constructor for each of its three forms.
`isWellFormed_iff` says that the function that checks a header accepts exactly these.

Each form of a well-formed header is a way to take it apart: into a type and a subject, into a
type, a scope and a subject, or into the mark and the number of an issue and a subject
(`wellFormed_iff_splits`).  A header with several closing parentheses can be taken apart at each
of them, and it keeps the rule if one of these ways leaves a subject (`judge_follows_grammar`).
-/

namespace CommitCheck

/-! ## The grammar of headers -/

namespace Header

open Reference (IsNumber EndsNumber)

/-- The grammar of headers.  The character after a colon and a space is the first one of the
subject, and what follows it is free. -/
inductive WellFormed : Text → Prop
  /-- A conventional type and a subject. -/
  | bare {type rest : Text} {c : Char} : type ∈ types → c ≠ '\n' →
      WellFormed (type ++ ':' :: ' ' :: c :: rest)
  /-- A conventional type, a scope on one line, and a subject. -/
  | withScope {type scope rest : Text} {c : Char} : type ∈ types → '\n' ∉ scope → c ≠ '\n' →
      WellFormed (type ++ '(' :: (scope ++ ')' :: ':' :: ' ' :: c :: rest))
  /-- The mark and the number of an issue, and a subject. -/
  | issue {number rest : Text} {c : Char} : IsNumber number → c ≠ '\n' →
      WellFormed (issueMark ++ (number ++ ':' :: ' ' :: c :: rest))

theorem startsSubject_iff {t : Text} :
    startsSubject t = true ↔ ∃ c rest, t = ':' :: ' ' :: c :: rest ∧ c ≠ '\n' := by
  constructor
  · intro h
    unfold startsSubject at h
    split at h
    · rename_i c rest
      exact ⟨c, rest, rfl, by simpa using h⟩
    · cases h
  · rintro ⟨c, rest, rfl, hc⟩
    simpa [startsSubject] using hc

/-- A scope ends at some parenthesis of its line that a subject follows. -/
theorem closesScope_iff {t : Text} :
    closesScope t = true ↔
      ∃ scope rest, t = scope ++ ')' :: rest ∧ '\n' ∉ scope ∧ startsSubject rest = true := by
  induction t with
  | nil => simp [closesScope]
  | cons c cs ih =>
    rw [closesScope, Bool.or_eq_true, Bool.and_eq_true, Bool.and_eq_true, ih]
    constructor
    · rintro (⟨hc, hs⟩ | ⟨hc, scope, rest, rfl, hline, hs⟩)
      · obtain rfl := beq_iff_eq.1 hc
        exact ⟨[], cs, rfl, List.not_mem_nil, hs⟩
      · refine ⟨c :: scope, rest, rfl, ?_, hs⟩
        rw [List.mem_cons, not_or]
        exact ⟨Ne.symm (by simpa using hc), hline⟩
    · rintro ⟨scope, rest, hsplit, hline, hs⟩
      cases scope with
      | nil =>
        obtain ⟨rfl, rfl⟩ := List.cons.inj hsplit
        exact .inl ⟨rfl, hs⟩
      | cons d scope =>
        obtain ⟨rfl, rfl⟩ := List.cons.inj hsplit
        rw [List.mem_cons, not_or] at hline
        exact .inr ⟨by simpa using Ne.symm hline.1, scope, rest, rfl, hline.2, hs⟩

theorem followsType_iff {t : Text} :
    followsType t = true ↔
      startsSubject t = true ∨ ∃ rest, t = '(' :: rest ∧ closesScope rest = true := by
  unfold followsType
  split
  · rename_i cs
    simp [startsSubject]
  · rename_i h
    constructor
    · exact .inl
    · rintro (hs | ⟨rest, rfl, -⟩)
      · exact hs
      · exact absurd rfl (h rest)

theorem isConventional_iff {h : Text} :
    isConventional h = true ↔
      ∃ type ∈ types, ∃ rest, h = type ++ rest ∧ followsType rest = true := by
  unfold isConventional
  rw [List.any_eq_true]
  refine exists_congr fun type => and_congr_right fun _ => ?_
  constructor
  · intro hfollows
    split at hfollows
    · rename_i rest hrest
      exact ⟨rest, after?_eq_some_iff.1 hrest, hfollows⟩
    · cases hfollows
  · rintro ⟨rest, hsplit, hfollows⟩
    rw [after?_eq_some_iff.2 hsplit]
    exact hfollows

theorem isIssuePrefixed_iff {h : Text} :
    isIssuePrefixed h = true ↔
      ∃ number rest, h = issueMark ++ (number ++ rest) ∧ IsNumber number ∧
        startsSubject rest = true := by
  unfold isIssuePrefixed
  constructor
  · intro hp
    split at hp
    · rename_i rest hrest
      obtain ⟨hne, hs⟩ := Bool.and_eq_true _ _ ▸ hp
      refine ⟨_, _, ?_, Reference.isNumber_takeWhile (by simpa using hne), hs⟩
      rw [List.takeWhile_append_dropWhile]
      exact after?_eq_some_iff.1 hrest
    · cases hp
  · rintro ⟨number, rest, hsplit, hn, hs⟩
    have hends : EndsNumber rest := by
      obtain ⟨c, more, rfl, -⟩ := startsSubject_iff.1 hs
      exact Reference.endsNumber_cons (by decide)
    rw [after?_eq_some_iff.2 hsplit]
    simp [Reference.takeWhile_number hn hends, Reference.dropWhile_number hn hends, hn.1, hs]

/-- A header is accepted exactly if it is well formed. -/
theorem isWellFormed_iff {h : Text} : isWellFormed h = true ↔ WellFormed h := by
  rw [isWellFormed, Bool.or_eq_true, isConventional_iff, isIssuePrefixed_iff]
  constructor
  · rintro (⟨type, htype, rest, rfl, hf⟩ | ⟨number, rest, rfl, hn, hs⟩)
    · rcases followsType_iff.1 hf with hs | ⟨more, rfl, hclose⟩
      · obtain ⟨c, more, rfl, hc⟩ := startsSubject_iff.1 hs
        exact .bare htype hc
      · obtain ⟨scope, after, rfl, hline, hs⟩ := closesScope_iff.1 hclose
        obtain ⟨c, tail, rfl, hc⟩ := startsSubject_iff.1 hs
        exact .withScope htype hline hc
    · obtain ⟨c, more, rfl, hc⟩ := startsSubject_iff.1 hs
      exact .issue hn hc
  · intro hw
    cases hw with
    | @bare type rest c htype hc =>
      refine .inl ⟨type, htype, _, rfl, followsType_iff.2 (.inl ?_)⟩
      exact startsSubject_iff.2 ⟨c, rest, rfl, hc⟩
    | @withScope type scope rest c htype hline hc =>
      refine .inl ⟨type, htype, _, rfl, followsType_iff.2 (.inr ⟨_, rfl, ?_⟩)⟩
      exact closesScope_iff.2 ⟨scope, _, rfl, hline, startsSubject_iff.2 ⟨c, rest, rfl, hc⟩⟩
    | @issue number rest c hn hc =>
      exact .inr ⟨number, _, rfl, hn, startsSubject_iff.2 ⟨c, rest, rfl, hc⟩⟩

instance (h : Text) : Decidable (WellFormed h) := decidable_of_iff _ isWellFormed_iff

end Header

namespace HeaderFormat

open Header (WellFormed types)
open Reference (IsNumber)

/-! ## The forms in parts -/

theorem parts_bare (type rest : Text) (c : Char) :
    type ++ ": ".toList ++ c :: rest = type ++ ':' :: ' ' :: c :: rest := by
  rw [List.append_assoc]
  rfl

theorem parts_withScope (type scope rest : Text) (c : Char) :
    type ++ "(".toList ++ scope ++ "): ".toList ++ c :: rest =
      type ++ '(' :: (scope ++ ')' :: ':' :: ' ' :: c :: rest) := by
  simp only [List.append_assoc]
  rfl

/-- A well-formed header can be taken apart in one of three ways. -/
theorem wellFormed_iff_splits {h : Text} :
    WellFormed h ↔
      (∃ type ∈ types, ∃ c rest, c ≠ '\n' ∧ h = type ++ ": ".toList ++ c :: rest) ∨
      (∃ type ∈ types, ∃ scope c rest, '\n' ∉ scope ∧ c ≠ '\n' ∧
        h = type ++ "(".toList ++ scope ++ "): ".toList ++ c :: rest) ∨
      ∃ number c rest, IsNumber number ∧ c ≠ '\n' ∧
        h = "Issue #".toList ++ number ++ ": ".toList ++ c :: rest := by
  simp only [parts_bare, parts_withScope]
  constructor
  · intro hw
    cases hw with
    | @bare type rest c htype hc => exact .inl ⟨type, htype, c, rest, hc, rfl⟩
    | @withScope type scope rest c htype hline hc =>
      exact .inr (.inl ⟨type, htype, scope, c, rest, hline, hc, rfl⟩)
    | @issue number rest c hn hc => exact .inr (.inr ⟨number, c, rest, hn, hc, rfl⟩)
  · rintro (⟨type, htype, c, rest, hc, rfl⟩ | ⟨type, htype, scope, c, rest, hline, hc, rfl⟩ |
      ⟨number, c, rest, hn, hc, rfl⟩)
    · exact .bare htype hc
    · exact .withScope htype hline hc
    · exact .issue hn hc

/-! ## The verdict -/

theorem valid_judge_iff {h : Text} : (judge h).valid = true ↔ WellFormed h := by
  rw [← Header.isWellFormed_iff]
  unfold judge
  cases Header.isWellFormed h with
  | true => exact iff_of_true rfl rfl
  | false => exact iff_of_false Bool.false_ne_true Bool.false_ne_true

theorem complaint_ne_nil : complaint ≠ [] := by decide

/-- There is one way to break the rule, and it always says the same. -/
theorem judge_eq_failing_iff {h : Text} :
    judge h = .failing complaint complaint_ne_nil ↔ (judge h).valid = false := by
  constructor
  · intro hfailing
    rw [hfailing]
    rfl
  · intro hvalid
    unfold judge at hvalid ⊢
    split at hvalid
    · cases hvalid
    · rename_i hw
      exact if_neg hw

/-- A header keeps the rule exactly if it can be taken apart into a type and a subject, with a
scope between them or not, or into the mark and the number of an issue and a subject.  Any other
one breaks it, with the same complaint each time.  The body of a commit plays no part. -/
theorem judge_follows_grammar (h : Text) :
    ((judge h).valid = true ↔
      (∃ type ∈ types, ∃ c rest, c ≠ '\n' ∧ h = type ++ ": ".toList ++ c :: rest) ∨
      (∃ type ∈ types, ∃ scope c rest, '\n' ∉ scope ∧ c ≠ '\n' ∧
        h = type ++ "(".toList ++ scope ++ "): ".toList ++ c :: rest) ∨
      ∃ number c rest, IsNumber number ∧ c ≠ '\n' ∧
        h = "Issue #".toList ++ number ++ ": ".toList ++ c :: rest) ∧
    (judge h = .failing complaint complaint_ne_nil ↔ (judge h).valid = false) ∧
    ∀ body, Rule.ofVerdict verdict ⟨h, body⟩ = pure (judge h) :=
  ⟨valid_judge_iff.trans wellFormed_iff_splits, judge_eq_failing_iff, fun _ => rfl⟩

example : (judge "fix(a): b) c").valid = true := by decide
example : (judge "fix(a)b): c").valid = true := by decide
example : (judge "fix(a\nb): c").valid = false := by decide

end HeaderFormat

end CommitCheck
