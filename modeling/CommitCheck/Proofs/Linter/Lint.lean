import CommitCheck.Linter.Session
import CommitCheck.Proofs.Run

/-!
# One run of a linter

The rules of a linter that are not disabled are its enabled ones.  To lint a commit is to
run each of them once and in order, and only then to tell the observers.  A rule may leave
any trace, so the trace of the run shows which rules were run, how often and when.

`Report.Tells` is what a finished report says of the rules.  A run comes to such a report if
every enabled rule answers (`lint_of_answers`).  Otherwise it ends with the first rule that
fails, before any observer is told (`lint_of_failure`).
-/

namespace CommitCheck

/-! ## What a report says -/

/-- What an enabled rule said about a commit, as an outcome. -/
def Registration.Says (m : Message) (r : Registration) (o : Outcome) : Prop :=
  ∃ v, (r.rule m).outcome = .ok v ∧ o = ⟨r.name, r.level, v.valid, v.message⟩

/-- A report on a commit tells what some rules said. -/
structure Report.Tells (report : Report) (m : Message) (sha : Option Text)
    (rs : List Registration) : Prop where
  /-- It is about the commit. -/
  commit : report.commit = m
  /-- It has the name of the commit. -/
  sha : report.sha = sha
  /-- There is one outcome for each rule, in order. -/
  outcomes : List.Forall₂ (Registration.Says m) rs report.outcomes
  /-- The errors and the warnings are the failures. -/
  failures : (report.errors ++ report.warnings).Perm (report.outcomes.filter fun o => !o.valid)
  /-- No failure is both. -/
  apart : ∀ o ∈ report.errors, o ∉ report.warnings
  /-- Every failure has a message. -/
  explained : ∀ o ∈ report.outcomes, o.valid = false → ∃ t, o.message = some t ∧ t ≠ []
  /-- The report is valid if every rule of the highest level passed the commit. -/
  valid_iff : report.valid = true ↔
    ∀ r ∈ rs, r.level = .error → ∃ v, (r.rule m).outcome = .ok v ∧ v.valid = true

theorem Verdict.exists_message {v : Verdict} (h : v.valid = false) :
    ∃ t, v.message = some t ∧ t ≠ [] := by
  have hexplained : v.message.getD [] ≠ [] :=
    v.explained.resolve_left fun hvalid => by cases h.symm.trans hvalid
  cases hmessage : v.message with
  | none =>
    rw [hmessage] at hexplained
    exact absurd rfl hexplained
  | some t =>
    rw [hmessage] at hexplained
    exact ⟨t, rfl, hexplained⟩

namespace Registration

variable {m : Message} {rs : List Registration} {os : List Outcome}

theorem exists_verdicts (h : ∀ r ∈ rs, ∃ v, (r.rule m).outcome = .ok v) :
    ∃ os, List.Forall₂ (Says m) rs os :=
  exists_forall₂ fun r hr => (h r hr).elim fun v hv => ⟨_, v, hv, rfl⟩

/-- Every outcome is that of a rule. -/
theorem exists_rule_of_mem (h : List.Forall₂ (Says m) rs os) {o : Outcome} (ho : o ∈ os) :
    ∃ r ∈ rs, r.Says m o := exists_mem_of_forall₂ h o ho

/-- Every rule has an outcome. -/
theorem exists_outcome_of_mem (h : List.Forall₂ (Says m) rs os) {r : Registration} (hr : r ∈ rs) :
    ∃ o ∈ os, r.Says m o := exists_mem_of_forall₂ h.flip r hr

/-- Outcomes of rules that are not disabled make a report that tells what the rules said. -/
theorem tells_of_verdicts (hlevel : ∀ r ∈ rs, r.level ≠ .disabled) (sha : Option Text)
    (h : List.Forall₂ (Says m) rs os) : Report.Tells ⟨m, sha, os⟩ m sha rs where
  commit := rfl
  sha := rfl
  outcomes := h
  failures := by
    have herrors : os.filter Outcome.isError =
        (os.filter fun o => !o.valid).filter fun o => o.level == .error := by
      rw [List.filter_filter]
      exact List.filter_congr fun o _ => Bool.and_comm _ _
    have hwarnings : os.filter Outcome.isWarning =
        (os.filter fun o => !o.valid).filter fun o => !(o.level == .error) := by
      rw [List.filter_filter]
      refine List.filter_congr fun o ho => ?_
      obtain ⟨r, hr, v, -, rfl⟩ := exists_rule_of_mem h ho
      have hne := hlevel r hr
      cases hl : r.level with
      | disabled => exact absurd hl hne
      | warning => simp [Outcome.isWarning]
      | error => simp [Outcome.isWarning]
    rw [Report.errors, Report.warnings, herrors, hwarnings]
    exact List.filter_append_perm _ _
  apart := by
    intro o herror hwarning
    have he := (List.mem_filter.1 herror).2
    have hw := (List.mem_filter.1 hwarning).2
    simp only [Outcome.isError, Outcome.isWarning, Bool.and_eq_true, beq_iff_eq] at he hw
    cases he.2.symm.trans hw.2
  explained := by
    intro o ho hvalid
    obtain ⟨r, -, v, -, rfl⟩ := exists_rule_of_mem h ho
    exact v.exists_message hvalid
  valid_iff := by
    have hvalid : Report.valid ⟨m, sha, os⟩ = true ↔
        ∀ o ∈ os, o.level = .error → o.valid = true := by
      simp only [Report.valid, Report.errors, List.isEmpty_iff, List.filter_eq_nil_iff,
        Outcome.isError, Bool.and_eq_true, Bool.not_eq_true', beq_iff_eq]
      exact forall₂_congr fun o _ => by cases o.valid <;> simp
    rw [hvalid]
    constructor
    · intro hall r hr herror
      obtain ⟨o, ho, v, hv, rfl⟩ := exists_outcome_of_mem h hr
      exact ⟨v, hv, hall _ ho herror⟩
    · intro hall o ho herror
      obtain ⟨r, hr, v, hv, rfl⟩ := exists_rule_of_mem h ho
      obtain ⟨w, hw, hpass⟩ := hall r hr herror
      obtain rfl := Except.ok.inj (hv.symm.trans hw)
      exact hpass

end Registration

namespace Linter

variable {l : Linter} {m : Message} {rs : List Registration}

/-! ## Running the rules -/

/-- The rules that are not disabled, in order. -/
def enabled (l : Linter) : List Registration := l.rules.filter fun r => r.level ≠ .disabled

/-- What happens when rules are run on a commit, one after another. -/
def callsOf (m : Message) (rs : List Registration) : List Event :=
  rs.flatMap fun r => (r.rule m).trace

/-- What happens when observers are told of a report, one after another. -/
def noticesOf (os : List Observer) (report : Report) : List Event :=
  os.flatMap fun o => (o.tell (.linted report)).trace

theorem level_ne_of_mem_enabled {r : Registration} (h : r ∈ l.enabled) : r.level ≠ .disabled :=
  of_decide_eq_true (List.mem_filter.1 h).2

theorem outcomes_of_level {r : Registration} (h : r.level ≠ .disabled) :
    outcomes m (r :: rs) = (r.rule m >>= fun v => outcomes m rs >>= fun os =>
      pure (.ofVerdict r.name r.level v :: os)) := by
  rw [outcomes, if_neg h]

/-- A disabled rule makes no difference. -/
theorem outcomes_filter :
    outcomes m (rs.filter fun r => r.level ≠ .disabled) = outcomes m rs := by
  induction rs with
  | nil => rfl
  | cons r rs ih =>
    by_cases hlevel : r.level = .disabled
    · rw [outcomes, if_pos hlevel, ← ih, List.filter_cons_of_neg (by simpa using hlevel)]
    · rw [List.filter_cons_of_pos (by simpa using hlevel), outcomes_of_level hlevel,
        outcomes_of_level hlevel, ih]

/-- Rules that all answer are run one after another. -/
theorem outcomes_of_verdicts (hlevel : ∀ r ∈ rs, r.level ≠ .disabled) {os : List Outcome}
    (h : List.Forall₂ (Registration.Says m) rs os) :
    outcomes m rs = ⟨callsOf m rs, .ok os⟩ := by
  induction h with
  | nil => rfl
  | @cons r o rs os hsays _ ih =>
    obtain ⟨v, hv, rfl⟩ := hsays
    have hrest := ih fun s hs => hlevel s (List.mem_cons_of_mem r hs)
    rw [outcomes_of_level (hlevel r List.mem_cons_self), Run.bind_of_ok hv, Run.bind_pure_eq, hrest]
    rfl

/-- The first rule that fails is the last one that is run. -/
theorem outcomes_of_failure {before after : List Registration} {r : Registration} {e : Failure}
    (hlevel : ∀ s ∈ before ++ r :: after, s.level ≠ .disabled)
    (hbefore : ∀ s ∈ before, ∃ v, (s.rule m).outcome = .ok v)
    (hr : (r.rule m).outcome = .error e) :
    outcomes m (before ++ r :: after) = ⟨callsOf m before ++ (r.rule m).trace, .error e⟩ := by
  induction before with
  | nil =>
    rw [List.nil_append, outcomes_of_level (hlevel r List.mem_cons_self), Run.bind_of_error hr]
    rfl
  | cons s before ih =>
    obtain ⟨v, hv⟩ := hbefore s List.mem_cons_self
    have hrest := ih (fun t ht => hlevel t (List.mem_cons_of_mem s ht))
      fun t ht => hbefore t (List.mem_cons_of_mem s ht)
    rw [List.cons_append, outcomes_of_level (hlevel s List.mem_cons_self), Run.bind_of_ok hv, hrest,
      Run.bind_error, ← List.append_assoc]
    rfl

/-! ## The run -/

theorem lint_eq (l : Linter) (m : Message) (sha : Option Text) :
    l.lint m sha = (outcomes m l.rules >>= fun os =>
      Observer.tellAll l.observers (.linted ⟨m, sha, os⟩) >>= fun _ => pure ⟨m, sha, os⟩) := rfl

/-- If every enabled rule answers, the report is finished before the observers are told. -/
theorem lint_of_answers (sha : Option Text)
    (htold : ∀ o ∈ l.observers, ∀ report, (o.tell (.linted report)).outcome = .ok ())
    (h : ∀ r ∈ l.enabled, ∃ v, (r.rule m).outcome = .ok v) :
    ∃ report, report.Tells m sha l.enabled ∧
      l.lint m sha = ⟨callsOf m l.enabled ++ noticesOf l.observers report, .ok report⟩ := by
  obtain ⟨os, hos⟩ := Registration.exists_verdicts h
  have hlevel : ∀ r ∈ l.enabled, r.level ≠ .disabled := fun r hr => level_ne_of_mem_enabled hr
  refine ⟨⟨m, sha, os⟩, Registration.tells_of_verdicts hlevel sha hos, ?_⟩
  have hrules : outcomes m l.rules = ⟨callsOf m l.enabled, .ok os⟩ :=
    outcomes_filter.symm.trans (outcomes_of_verdicts hlevel hos)
  have hnotices : Observer.tellAll l.observers (.linted ⟨m, sha, os⟩) =
      ⟨noticesOf l.observers ⟨m, sha, os⟩, .ok ()⟩ :=
    Run.each_of_ok fun o ho => htold o ho _
  rw [lint_eq, hrules, Run.bind_ok, Run.bind_pure_eq, hnotices]
  rfl

/-- If an enabled rule fails, the run ends with the first one that does. -/
theorem lint_of_failure (sha : Option Text) {before after : List Registration} {r : Registration}
    {e : Failure} (henabled : l.enabled = before ++ r :: after)
    (hbefore : ∀ s ∈ before, ∃ v, (s.rule m).outcome = .ok v)
    (hr : (r.rule m).outcome = .error e) :
    l.lint m sha = ⟨callsOf m before ++ (r.rule m).trace, .error e⟩ := by
  have hlevel : ∀ s ∈ before ++ r :: after, s.level ≠ .disabled :=
    fun s hs => level_ne_of_mem_enabled (henabled ▸ hs)
  have hrules : outcomes m l.rules = ⟨callsOf m before ++ (r.rule m).trace, .error e⟩ := by
    rw [← outcomes_filter]
    show outcomes m l.enabled = _
    rw [henabled, outcomes_of_failure hlevel hbefore hr]
  rw [lint_eq, hrules, Run.bind_error]

/-- A run asks each enabled rule once and in order, and no other.  If all of them answer, the
observers are told of the report that says so.  If one fails, that is the end.  The linter
stays as it is. -/
theorem lint_runs_enabled (l : Linter) (m : Message) (sha : Option Text)
    (htold : ∀ o ∈ l.observers, ∀ report, (o.tell (.linted report)).outcome = .ok ()) :
    ((∀ r ∈ l.enabled, ∃ v, (r.rule m).outcome = .ok v) →
      ∃ report, report.Tells m sha l.enabled ∧
        l.lint m sha = ⟨callsOf m l.enabled ++ noticesOf l.observers report, .ok report⟩) ∧
    (∀ before r after e, l.enabled = before ++ r :: after →
      (∀ s ∈ before, ∃ v, (s.rule m).outcome = .ok v) → (r.rule m).outcome = .error e →
      l.lint m sha = ⟨callsOf m before ++ (r.rule m).trace, .error e⟩) ∧
    (l.perform (.lint m sha)).1 = l :=
  ⟨lint_of_answers sha htold, fun _ _ _ _ => lint_of_failure sha, rfl⟩

/-! A linter with a rule that is disabled and would fail, and one with a rule that fails. -/

/-- A rule that is registered under the mark it leaves. -/
def markedRegistration (mark : Text) (answer : Except Failure Verdict) (level : Level) :
    Registration := ⟨mark, .fixed mark answer, level⟩

/-- A linter whose enabled rules answer. -/
def answeringLinter : Linter where
  rules := [markedRegistration "first" (.ok .pass) .error,
    markedRegistration "idle" (.error (.ruleGaveUp "never")) .disabled,
    markedRegistration "last" (.ok (.failing "too long" (by decide))) .warning]
  observers := [.recorder "left", .recorder "right"]

/-- A linter whose second rule fails. -/
def failingLinter : Linter where
  rules := [markedRegistration "first" (.ok .pass) .error,
    markedRegistration "broken" (.error (.ruleGaveUp "no answer")) .warning,
    markedRegistration "last" (.ok .pass) .error]
  observers := [.recorder "left"]

theorem lint_answering_failing :
    (∃ report, report.Tells ⟨"fix: a", none⟩ none answeringLinter.enabled ∧
      answeringLinter.lint ⟨"fix: a", none⟩ none =
        ⟨callsOf ⟨"fix: a", none⟩ answeringLinter.enabled ++
          noticesOf answeringLinter.observers report, .ok report⟩) ∧
    failingLinter.lint ⟨"fix: a", none⟩ none =
      ⟨[.ruleRan "first" "fix: a", .ruleRan "broken" "fix: a"],
        .error (.ruleGaveUp "no answer")⟩ := by
  have hanswers : ∀ r ∈ answeringLinter.enabled, ∃ v,
      (r.rule ⟨"fix: a", none⟩).outcome = .ok v := by
    intro r hr
    have hcases : r = markedRegistration "first" (.ok .pass) .error ∨
        r = markedRegistration "last" (.ok (.failing "too long" (by decide))) .warning := by
      simpa [enabled, answeringLinter, markedRegistration] using hr
    rcases hcases with rfl | rfl <;> exact ⟨_, rfl⟩
  have htold (l : Linter) (h : ∀ o ∈ l.observers, ∃ name, o = .recorder name) :
      ∀ o ∈ l.observers, ∀ report, (o.tell (.linted report)).outcome = .ok () := by
    intro o ho report
    obtain ⟨name, rfl⟩ := h o ho
    rfl
  refine ⟨(lint_runs_enabled answeringLinter _ none (htold _ ?_)).1 hanswers,
    (lint_runs_enabled failingLinter _ none (htold _ ?_)).2.1
      [markedRegistration "first" (.ok .pass) .error]
      (markedRegistration "broken" (.error (.ruleGaveUp "no answer")) .warning)
      [markedRegistration "last" (.ok .pass) .error] _ rfl ?_ rfl⟩
  · simp [answeringLinter]
  · simp [failingLinter]
  · simp [markedRegistration, Rule.fixed, Run.record, Run.ofExcept, Run.bind_ok]

end Linter

end CommitCheck
