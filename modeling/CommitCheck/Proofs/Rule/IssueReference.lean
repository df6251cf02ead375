import CommitCheck.Proofs.Commit.Reference
import CommitCheck.Rule.IssueReference

/-!
# The table of the issue reference

What the rule of the issue reference says of a commit, as a table.  A row of it is a
constructor of `Ruling`.  Its finding is either a verdict, and then nobody is asked, or the
number of an issue, and then the checker is asked about that issue once and its answer
decides.  What the finding comes to with a checker is `Finding.run`.

`rule_follows_table` says that each commit has exactly one finding, and that the rule does
what it says: with a checker that notes each question, the trace and the outcome are those
of the finding.

The last part is about a header that names an issue.  The body has to repeat the mark and
the number, but as a part of its text only, so a longer number that starts with the named
one will do.  `passes_named_iff` tells exactly when such a commit passes.
-/

namespace CommitCheck

/-- The checker that answers as a function does and notes each question. -/
def Checker.noting (answer : Text → Text → Except Failure Bool) : Checker :=
  fun repository issue => ⟨[.asked repository issue], answer repository issue⟩

namespace IssueReference

open Reference (IsNumber EndsNumber Names Cites CitesNothing)

/-! ## Findings -/

/-- What the rule finds in a commit by itself. -/
inductive Finding where
  /-- A verdict. -/
  | verdict (v : Verdict)
  /-- An issue that has to exist. -/
  | issue (number : Text)

namespace Finding

/-- The verdict on an issue from the answer of a checker. -/
def answered (number : Text) : Except Failure Bool → Except Failure Verdict
  | .ok true => .ok .pass
  | .ok false => .ok (.failing (issueMissing number) (issueMissing_ne_nil number))
  | .error e => .error e

/-- What a finding comes to with a checker. -/
def run (repository : Text) (exists? : Checker) : Finding → Run Verdict
  | verdict v => ⟨[], .ok v⟩
  | issue n => ⟨(exists? repository n).trace, answered n (exists? repository n).outcome⟩

/-- The questions of a finding, as a checker notes them. -/
def questions (repository : Text) : Finding → List Event
  | verdict _ => []
  | issue n => [.asked repository n]

/-- The outcome of a finding with the answers of a checker. -/
def outcome (answer : Text → Except Failure Bool) : Finding → Except Failure Verdict
  | verdict v => .ok v
  | issue n => answered n (answer n)

theorem run_noting (repository : Text) (answer : Text → Text → Except Failure Bool)
    (f : Finding) :
    f.run repository (.noting answer) =
      ⟨f.questions repository, f.outcome (answer repository)⟩ := by
  cases f with
  | verdict v => rfl
  | issue n => rfl

/-- A finding is told by its questions and by its outcome where every issue exists. -/
theorem eq_of_questions_of_outcome {repository : Text} {f g : Finding}
    (hq : f.questions repository = g.questions repository)
    (ho : f.outcome (fun _ => .ok true) = g.outcome (fun _ => .ok true)) : f = g := by
  cases f with
  | verdict v => cases g with
    | verdict w => exact congrArg verdict (Except.ok.inj ho)
    | issue k => cases hq
  | issue n => cases g with
    | verdict w => cases hq
    | issue k =>
      injection hq with hq
      injection hq with _ hn
      exact congrArg issue hn

theorem confirm_eq_run (repository : Text) (exists? : Checker) (n : Text) :
    confirm repository exists? n = (issue n).run repository exists? := by
  show confirm repository exists? n =
    ⟨(exists? repository n).trace, answered n (exists? repository n).outcome⟩
  unfold confirm
  cases exists? repository n with
  | mk trace outcome =>
    cases outcome with
    | error e => rfl
    | ok b => cases b <;> simp [Run.bind_ok, answered]

end Finding

/-! ## The table -/

/-- The table: what is found in a commit. -/
inductive Ruling : Message → Finding → Prop
  /-- There is no body, or an empty one. -/
  | bodyless {m : Message} : m.body = none ∨ m.body = some [] →
      Ruling m (.verdict (.failing bodyRequired (by decide)))
  /-- The header names an issue that the body does not repeat. -/
  | unrepeated {m : Message} {body n : Text} : m.body = some body → body ≠ [] →
      Names m.header n → ¬mention n <:+: body →
      Ruling m (.verdict (.failing (mismatch n) (mismatch_ne_nil n)))
  /-- The header names an issue that the body repeats. -/
  | repeated {m : Message} {body n : Text} : m.body = some body → body ≠ [] →
      Names m.header n → mention n <:+: body → Ruling m (.issue n)
  /-- Neither the header nor the body refers to anything. -/
  | uncited {m : Message} {body : Text} : m.body = some body → body ≠ [] →
      (∀ n, ¬Names m.header n) → CitesNothing body →
      Ruling m (.verdict (.failing referenceMissing (by decide)))
  /-- The body states that no issue applies. -/
  | exempt {m : Message} {body : Text} : m.body = some body → body ≠ [] →
      (∀ n, ¬Names m.header n) → Cites body Reference.nil → Ruling m (.verdict .pass)
  /-- The body cites an issue. -/
  | cited {m : Message} {body n : Text} : m.body = some body → body ≠ [] →
      (∀ n, ¬Names m.header n) → IsNumber n → Cites body n → Ruling m (.issue n)

theorem rule_of_body {repository : Text} {exists? : Checker} {m : Message} {body : Text}
    (hb : m.body = some body) (hne : body ≠ []) :
    rule repository exists? m = judge repository exists? m body := by
  obtain ⟨c, cs, rfl⟩ := List.exists_cons_of_ne_nil hne
  simp only [rule, hb]

/-- The reference that counts is the one of the header, and without it that of the body. -/
theorem first?_of_body {m : Message} {body : Text} (hb : m.body = some body) :
    Reference.first? m Reference.defaultPlaces =
      match Reference.inHeader? m.header with
      | some n => some ⟨.header, n⟩
      | none => (Reference.inBody? body).map (⟨.body, ·⟩) := by
  unfold Reference.first? Reference.defaultPlaces
  cases hh : Reference.inHeader? m.header with
  | some n => simp [Reference.find?, hh]
  | none =>
    cases hc : Reference.inBody? body with
    | none => simp [Reference.find?, hh, hb, hc]
    | some id => simp [Reference.find?, hh, hb, hc]

theorem judge_of_names {repository : Text} {exists? : Checker} {m : Message} {body n : Text}
    (hb : m.body = some body) (hn : Names m.header n) :
    judge repository exists? m body =
      if occursIn (mention n) body then (Finding.issue n).run repository exists?
      else ⟨[], .ok (.failing (mismatch n) (mismatch_ne_nil n))⟩ := by
  unfold judge
  rw [first?_of_body hb, Reference.inHeader?_eq_some_iff.2 hn]
  simp only [Finding.confirm_eq_run]
  rfl

theorem judge_of_cites {repository : Text} {exists? : Checker} {m : Message} {body id : Text}
    (hb : m.body = some body) (hh : ∀ n, ¬Names m.header n) (hc : Cites body id) :
    judge repository exists? m body =
      if id = Reference.nil then ⟨[], .ok .pass⟩
      else (Finding.issue id).run repository exists? := by
  unfold judge
  rw [first?_of_body hb, Reference.inHeader?_eq_none_iff.2 hh, Reference.inBody?_eq_some_iff.2 hc]
  simp [Finding.confirm_eq_run]

theorem judge_of_citesNothing {repository : Text} {exists? : Checker} {m : Message}
    {body : Text} (hb : m.body = some body) (hh : ∀ n, ¬Names m.header n)
    (hc : CitesNothing body) :
    judge repository exists? m body = ⟨[], .ok (.failing referenceMissing (by decide))⟩ := by
  unfold judge
  rw [first?_of_body hb, Reference.inHeader?_eq_none_iff.2 hh, Reference.inBody?_eq_none_iff.2 hc]
  rfl

/-- The rule does what the table says. -/
theorem rule_of_ruling {m : Message} {f : Finding} (h : Ruling m f) (repository : Text)
    (exists? : Checker) : rule repository exists? m = f.run repository exists? := by
  cases h with
  | bodyless hb =>
    rcases hb with hb | hb <;>
    · simp only [rule, hb]
      rfl
  | unrepeated hb hne hn ho =>
    rw [rule_of_body hb hne, judge_of_names hb hn, if_neg fun h => ho (occursIn_iff.1 h)]
    rfl
  | repeated hb hne hn ho =>
    rw [rule_of_body hb hne, judge_of_names hb hn, if_pos (occursIn_iff.2 ho)]
  | uncited hb hne hh hc =>
    rw [rule_of_body hb hne, judge_of_citesNothing hb hh hc]
    rfl
  | exempt hb hne hh hc =>
    rw [rule_of_body hb hne, judge_of_cites hb hh hc, if_pos rfl]
    rfl
  | cited hb hne hh hn hc =>
    have hid : _ ≠ Reference.nil := fun h => Reference.not_isNumber_nil (h ▸ hn)
    rw [rule_of_body hb hne, judge_of_cites hb hh hc, if_neg hid]

/-- Every commit is in the table. -/
theorem exists_ruling (m : Message) : ∃ f, Ruling m f := by
  cases hb : m.body with
  | none => exact ⟨_, .bodyless (.inl hb)⟩
  | some body =>
    by_cases hne : body = []
    · subst hne
      exact ⟨_, .bodyless (.inr hb)⟩
    cases hh : Reference.inHeader? m.header with
    | some n =>
      have hn := Reference.inHeader?_eq_some_iff.1 hh
      by_cases ho : mention n <:+: body
      · exact ⟨_, .repeated hb hne hn ho⟩
      · exact ⟨_, .unrepeated hb hne hn ho⟩
    | none =>
      have hno := Reference.inHeader?_eq_none_iff.1 hh
      rcases Reference.cites_or_citesNothing body with ⟨id, hc⟩ | hc
      · rcases hc.eq_nil_or_isNumber with rfl | hn
        · exact ⟨_, .exempt hb hne hno hc⟩
        · exact ⟨_, .cited hb hne hno hn hc⟩
      · exact ⟨_, .uncited hb hne hno hc⟩

/-- A commit has one finding: what the rule does tells it. -/
theorem Ruling.unique {m : Message} {f g : Finding} (hf : Ruling m f) (hg : Ruling m g) :
    f = g := by
  have h := (rule_of_ruling hf [] (.noting fun _ _ => .ok true)).symm.trans
    (rule_of_ruling hg [] (.noting fun _ _ => .ok true))
  rw [Finding.run_noting, Finding.run_noting] at h
  injection h with hq ho
  exact Finding.eq_of_questions_of_outcome hq ho

/-- The rule follows the table: a commit has exactly one finding, and with any checker the
questions and the outcome are those of the finding. -/
theorem rule_follows_table (m : Message) :
    ∃ f, (∀ g, Ruling m g ↔ g = f) ∧
      ∀ (repository : Text) (answer : Text → Text → Except Failure Bool),
        rule repository (.noting answer) m =
          ⟨f.questions repository, f.outcome (answer repository)⟩ := by
  obtain ⟨f, hf⟩ := exists_ruling m
  refine ⟨f, fun g => ⟨fun hg => hg.unique hf, ?_⟩, fun repository answer => ?_⟩
  · rintro rfl
    exact hf
  · rw [rule_of_ruling hf, Finding.run_noting]

/-! ## Headers that name an issue -/

/-- A body refers to an issue: the mark and the number stand in it, and the number ends
there. -/
def RefersTo (body n : Text) : Prop :=
  ∃ before rest, body = before ++ (mention n ++ rest) ∧ EndsNumber rest

/-- A run ends in a verdict that passes the commit. -/
def Passes (r : Run Verdict) : Prop := ∃ v, r.outcome = .ok v ∧ v.valid = true

theorem passes_run_issue {repository n : Text} {exists? : Checker} :
    Passes ((Finding.issue n).run repository exists?) ↔
      (exists? repository n).outcome = .ok true := by
  show Passes ⟨(exists? repository n).trace, Finding.answered n (exists? repository n).outcome⟩ ↔ _
  cases (exists? repository n).outcome with
  | error e => simp [Passes, Finding.answered]
  | ok b => cases b <;> simp [Passes, Finding.answered, Verdict.failing, Verdict.pass]

theorem not_passes_run_failing {repository message : Text} {exists? : Checker}
    {hne : message ≠ []} :
    ¬Passes ((Finding.verdict (.failing message hne)).run repository exists?) := by
  rintro ⟨v, hv, hvalid⟩
  obtain rfl := Except.ok.inj hv
  cases hvalid

/-- Where a mention of an issue stands, a number starts with that of the issue. -/
theorem mention_infix_iff {body n : Text} :
    mention n <:+: body ↔
      RefersTo body n ∨ ∃ more, IsNumber more ∧ RefersTo body (n ++ more) := by
  constructor
  · rintro ⟨before, rest, rfl⟩
    by_cases hmore : rest.takeWhile Char.isDigit = []
    · refine .inl ⟨before, rest, List.append_assoc .., ?_⟩
      have hrest := Reference.endsNumber_dropWhile rest
      rwa [← List.takeWhile_append_dropWhile (p := Char.isDigit) (l := rest), hmore]
    · refine .inr ⟨_, Reference.isNumber_takeWhile hmore, before, rest.dropWhile Char.isDigit, ?_,
        Reference.endsNumber_dropWhile rest⟩
      simp [mention, List.takeWhile_append_dropWhile]
  · rintro (⟨before, rest, rfl, -⟩ | ⟨more, -, before, rest, rfl, -⟩)
    · exact ⟨before, rest, List.append_assoc ..⟩
    · exact ⟨before, more ++ rest, by simp [mention]⟩

/-- If the header names an issue, the commit passes exactly if the issue exists and the body
refers to it or to an issue whose number is longer and starts with the same digits. -/
theorem passes_named_iff {repository n : Text} {exists? : Checker} {m : Message}
    (hn : Names m.header n) :
    Passes (rule repository exists? m) ↔
      (exists? repository n).outcome = .ok true ∧
        ∃ body, m.body = some body ∧
          (RefersTo body n ∨ ∃ more, IsNumber more ∧ RefersTo body (n ++ more)) := by
  obtain ⟨f, hf⟩ := exists_ruling m
  rw [rule_of_ruling hf]
  simp only [← mention_infix_iff]
  cases hf with
  | bodyless hb =>
    refine iff_of_false not_passes_run_failing ?_
    rintro ⟨-, body, hbody, hinfix⟩
    rcases hb with hb | hb
    · cases hb.symm.trans hbody
    · obtain rfl := Option.some.inj (hb.symm.trans hbody)
      exact mention_ne_nil n (List.infix_nil.1 hinfix)
  | unrepeated hb hne hn' ho =>
    obtain rfl := hn.unique hn'
    refine iff_of_false not_passes_run_failing ?_
    rintro ⟨-, body, hbody, hinfix⟩
    obtain rfl := Option.some.inj (hb.symm.trans hbody)
    exact ho hinfix
  | repeated hb hne hn' ho =>
    obtain rfl := hn.unique hn'
    rw [passes_run_issue]
    exact ⟨fun h => ⟨h, _, hb, ho⟩, fun h => h.1⟩
  | uncited hb hne hh hc => exact absurd hn (hh n)
  | exempt hb hne hh hc => exact absurd hn (hh n)
  | cited hb hne hh hn' hc => exact absurd hn (hh n)

/-- Exactly when a commit whose header names an issue passes although its body does not
refer to that issue: the issue exists, and the body refers to an issue whose number is longer
and starts with the same digits. -/
theorem passes_without_reference_iff {repository n : Text} {exists? : Checker} {m : Message}
    (hn : Names m.header n) :
    (Passes (rule repository exists? m) ∧ ∀ body, m.body = some body → ¬RefersTo body n) ↔
      (exists? repository n).outcome = .ok true ∧
        ∃ body, m.body = some body ∧ ¬RefersTo body n ∧
          ∃ more, IsNumber more ∧ RefersTo body (n ++ more) := by
  rw [passes_named_iff hn]
  constructor
  · rintro ⟨⟨hexists, body, hb, href | hlonger⟩, hno⟩
    · exact absurd href (hno body hb)
    · exact ⟨hexists, body, hb, hno body hb, hlonger⟩
  · rintro ⟨hexists, body, hb, hno, hlonger⟩
    refine ⟨⟨hexists, body, hb, .inr hlonger⟩, fun body' hb' => ?_⟩
    obtain rfl := Option.some.inj (hb.symm.trans hb')
    exact hno

theorem refersTo_iff_drop {body n : Text} :
    RefersTo body n ↔
      ∃ k ∈ List.range (body.length + 1), mention n <+: body.drop k ∧
        EndsNumber (body.drop (k + (mention n).length)) := by
  constructor
  · rintro ⟨before, rest, rfl, hrest⟩
    refine ⟨before.length, List.mem_range.2 (by simp only [List.length_append]; omega), ?_, ?_⟩
    · rw [List.drop_left]
      exact List.prefix_append ..
    · rwa [← List.drop_drop, List.drop_left, List.drop_left]
  · rintro ⟨k, -, ⟨rest, hrest⟩, hends⟩
    refine ⟨body.take k, rest, ?_, ?_⟩
    · rw [hrest, List.take_append_drop]
    · rwa [← List.drop_drop, ← hrest, List.drop_left] at hends

instance (body n : Text) : Decidable (RefersTo body n) :=
  decidable_of_iff (((List.range (body.length + 1)).any fun k =>
      (mention n).isPrefixOf (body.drop k) &&
        decide (EndsNumber (body.drop (k + (mention n).length)))) = true) (by
    rw [refersTo_iff_drop, List.any_eq_true]
    simp only [Bool.and_eq_true, List.isPrefixOf_iff_prefix, decide_eq_true_eq])

/-- A commit whose header names issue 1 and whose body speaks of issue 12 only. -/
def longerCited : Message := ⟨"Issue #1: x", some "see Issue #12"⟩

theorem names_longerCited : Names longerCited.header "1" := ⟨by decide +kernel, " x", by decide⟩

theorem passes_longerCited :
    Names longerCited.header "1" ∧
      (Passes (rule "octo/widgets" (.noting fun _ _ => .ok true) longerCited) ∧
        ∀ body, longerCited.body = some body → ¬RefersTo body "1") := by
  refine ⟨names_longerCited,
    (passes_without_reference_iff names_longerCited).2 ⟨rfl, _, rfl, ?_, ?_⟩⟩
  · decide +kernel
  · exact ⟨"2", by decide +kernel, "see ", [], by decide, Reference.endsNumber_nil⟩

/-- So a commit can pass whose header names an issue that its body does not refer to. -/
theorem not_forall_passes_refersTo :
    ¬∀ (repository n : Text) (exists? : Checker) (m : Message), Names m.header n →
      Passes (rule repository exists? m) → ∃ body, m.body = some body ∧ RefersTo body n := by
  intro h
  have hinfix : mention "1" <:+: ("see Issue #12" : Text) := by decide +kernel
  have hpass : Passes (rule "octo/widgets" (.noting fun _ _ => .ok true) longerCited) :=
    (passes_named_iff names_longerCited).2 ⟨rfl, _, rfl, mention_infix_iff.1 hinfix⟩
  obtain ⟨body, hb, href⟩ := h _ _ _ _ names_longerCited hpass
  obtain rfl := Option.some.inj hb
  revert href
  decide +kernel

end IssueReference

end CommitCheck
