import CommitCheck.Proofs.Console.Report
import CommitCheck.Proofs.Rule.HeaderFormat
import CommitCheck.Proofs.Rule.IssueReference
import CommitCheck.Setup

/-!
# What a linter from settings finds

The linter of some settings has the two rules, each at its level.  `Breaks` is what it means
for a commit to break a rule: the header is not well formed, or the table of the issue
reference has a failure for the commit or an issue that is not found.

`Judges` relates outcomes to that meaning.  The outcomes are those of rules that are not
disabled, in order and each at its level, and the failures among them are exactly the rules
that the commit breaks, with what the rule says.  `judges_of_outcomes` says that the linter
finds such outcomes whatever its checker does, as long as the checker answers.

The questions that are asked on the way are those of the table, and none if the rule of the
issue reference is disabled (`outcomes_of_disabled`, `outcomes_of_ruling`).
-/

namespace CommitCheck

open Console (IsPlain isPlain_of_isSteady isSteady)
open IssueReference (Finding Ruling)
open Reference (IsNumber)

/-! ## Breaking a rule -/

/-- A commit breaks a rule, which says so by a message.  Which issues are found is given. -/
inductive Breaks (found : Text → Prop) (m : Message) : Text → Text → Prop
  /-- The header is not well formed. -/
  | header : ¬Header.WellFormed m.header → Breaks found m HeaderFormat.name HeaderFormat.complaint
  /-- The table has a failure for the commit. -/
  | reference {v : Verdict} {message : Text} : Ruling m (.verdict v) → v.valid = false →
      v.message = some message → Breaks found m IssueReference.name message
  /-- The table has an issue for the commit that is not found. -/
  | missing {n : Text} : Ruling m (.issue n) → ¬found n →
      Breaks found m IssueReference.name (IssueReference.issueMissing n)

theorem header_ne_reference : HeaderFormat.name ≠ IssueReference.name := by decide

namespace Breaks

variable {found : Text → Prop} {m : Message} {rule message : Text}

theorem mem_names (h : Breaks found m rule message) : rule ∈ RuleLevels.names := by
  cases h with
  | header => exact List.mem_cons_self
  | reference => exact List.mem_cons_of_mem _ List.mem_cons_self
  | missing => exact List.mem_cons_of_mem _ List.mem_cons_self

theorem header_iff :
    Breaks found m HeaderFormat.name message ↔
      ¬Header.WellFormed m.header ∧ message = HeaderFormat.complaint := by
  constructor
  · intro h
    generalize hname : HeaderFormat.name = name at h
    cases h with
    | header hw => exact ⟨hw, rfl⟩
    | reference => exact absurd hname header_ne_reference
    | missing => exact absurd hname header_ne_reference
  · rintro ⟨hw, rfl⟩
    exact .header hw

/-- A commit breaks the rule of the issue reference by the verdict on its finding. -/
theorem reference_iff {f : Finding} (hf : Ruling m f) :
    Breaks found m IssueReference.name message ↔
      (∃ v, f = .verdict v ∧ v.valid = false ∧ v.message = some message) ∨
        ∃ n, f = .issue n ∧ ¬found n ∧ message = IssueReference.issueMissing n := by
  constructor
  · intro h
    generalize hname : IssueReference.name = name at h
    cases h with
    | header => exact absurd hname.symm header_ne_reference
    | reference hv hvalid hm => exact .inl ⟨_, hf.unique hv, hvalid, hm⟩
    | missing hn hno => exact .inr ⟨_, hf.unique hn, hno, rfl⟩
  · rintro (⟨v, rfl, hvalid, hm⟩ | ⟨n, rfl, hno, rfl⟩)
    · exact .reference hf hvalid hm
    · exact .missing hf hno

end Breaks

theorem isName_of_mem_names {name : Text} (h : name ∈ RuleLevels.names) : Outcome.IsName name := by
  rcases List.mem_cons.1 h with rfl | h
  · exact ⟨by decide +kernel, by decide +kernel⟩
  · obtain rfl := List.mem_singleton.1 h
    exact ⟨by decide +kernel, by decide +kernel⟩

theorem isSteady_of_isNumber {n : Text} (h : IsNumber n) : n.all isSteady = true :=
  List.all_eq_true.2 fun c hc => Console.isSteady_of_isDigit (h.2 c hc)

theorem isSteady_append {s t : Text} (hs : s.all isSteady = true) (ht : t.all isSteady = true) :
    (s ++ t).all isSteady = true := by
  rw [List.all_append, hs, ht]
  rfl

theorem IssueReference.Ruling.isNumber {m : Message} {n : Text} (h : Ruling m (.issue n)) :
    IsNumber n := by
  cases h with
  | repeated hb hne hn ho => exact hn.1
  | cited hb hne hh hn hc => exact hn

theorem isSteady_mention {n : Text} (h : IsNumber n) :
    (IssueReference.mention n).all isSteady = true :=
  isSteady_append (by decide) (isSteady_of_isNumber h)

theorem isSteady_mismatch {n : Text} (h : IsNumber n) :
    (IssueReference.mismatch n).all isSteady = true :=
  isSteady_append (isSteady_append (isSteady_append (by decide +kernel) (isSteady_mention h))
    (by decide +kernel)) (isSteady_mention h)

theorem isSteady_issueMissing {n : Text} (h : IsNumber n) :
    (IssueReference.issueMissing n).all isSteady = true :=
  isSteady_append (isSteady_mention h) (by decide +kernel)

/-- What a rule says is plain text. -/
theorem Breaks.isPlain {found : Text → Prop} {m : Message} {rule message : Text}
    (h : Breaks found m rule message) : IsPlain message := by
  cases h with
  | header => exact ⟨by decide +kernel, by decide +kernel⟩
  | @reference v message hv hvalid hm =>
    cases hv with
    | bodyless =>
      obtain rfl := Option.some.inj hm
      exact isPlain_of_isSteady (by decide +kernel)
    | unrepeated hb hne hn ho =>
      obtain rfl := Option.some.inj hm
      exact isPlain_of_isSteady (isSteady_mismatch hn.1)
    | uncited =>
      obtain rfl := Option.some.inj hm
      exact isPlain_of_isSteady (by decide +kernel)
    | exempt => cases hvalid
  | missing hn hno => exact isPlain_of_isSteady (isSteady_issueMissing hn.isNumber)

/-! ## Outcomes that tell what is broken -/

/-- Outcomes that judge a commit by some rules at the levels of settings. -/
structure Judges (s : Settings) (found : Text → Prop) (m : Message) (names : List Text)
    (os : List Outcome) : Prop where
  /-- There is at most one outcome for each rule, in the order of the rules. -/
  ordered : (os.map Outcome.rule).Sublist names
  /-- Each rule is at its level. -/
  level : ∀ o ∈ os, o.level = s.levelOf o.rule
  /-- A failure tells a rule that the commit breaks. -/
  sound : ∀ o ∈ os, o.valid = false →
    ∃ message, o.message = some message ∧ Breaks found m o.rule message
  /-- A rule that the commit breaks is told, unless it is disabled. -/
  complete : ∀ rule ∈ names, ∀ message, Breaks found m rule message →
    s.levelOf rule ≠ .disabled →
    ∃ o ∈ os, o.rule = rule ∧ o.valid = false ∧ o.message = some message

namespace Judges

variable {s : Settings} {found : Text → Prop} {m : Message} {name : Text}

/-- A rule that is disabled needs no outcome. -/
theorem of_disabled (h : s.levelOf name = .disabled) : Judges s found m [name] [] where
  ordered := List.nil_sublist _
  level _ ho := absurd ho List.not_mem_nil
  sound _ ho := absurd ho List.not_mem_nil
  complete rule hrule message _ hlevel := by
    obtain rfl := List.mem_singleton.1 hrule
    exact absurd h hlevel

/-- A verdict judges by one rule, if it says what breaking the rule says. -/
theorem of_verdict {v : Verdict}
    (h : ∀ message, Breaks found m name message ↔ v.valid = false ∧ v.message = some message) :
    Judges s found m [name] [.ofVerdict name (s.levelOf name) v] where
  ordered := List.Sublist.refl _
  level o ho := by
    obtain rfl := List.mem_singleton.1 ho
    rfl
  sound o ho hvalid := by
    obtain rfl := List.mem_singleton.1 ho
    cases hmessage : v.message with
    | none =>
      have hexplained := v.explained
      rw [hmessage] at hexplained
      exact hexplained.elim (fun hv => by cases hv.symm.trans hvalid) fun hne => absurd rfl hne
    | some message => exact ⟨message, hmessage, (h message).2 ⟨hvalid, hmessage⟩⟩
  complete rule hrule message hbreaks _ := by
    obtain rfl := List.mem_singleton.1 hrule
    exact ⟨_, List.mem_cons_self, rfl, (h message).1 hbreaks⟩

theorem append {names₁ names₂ : List Text} {os₁ os₂ : List Outcome}
    (h₁ : Judges s found m names₁ os₁) (h₂ : Judges s found m names₂ os₂) :
    Judges s found m (names₁ ++ names₂) (os₁ ++ os₂) where
  ordered := by
    rw [List.map_append]
    exact h₁.ordered.append h₂.ordered
  level o ho := (List.mem_append.1 ho).elim (h₁.level o) (h₂.level o)
  sound o ho := (List.mem_append.1 ho).elim (h₁.sound o) (h₂.sound o)
  complete rule hrule message hbreaks hlevel := by
    rcases List.mem_append.1 hrule with hrule | hrule
    · obtain ⟨o, ho, htells⟩ := h₁.complete rule hrule message hbreaks hlevel
      exact ⟨o, List.mem_append_left _ ho, htells⟩
    · obtain ⟨o, ho, htells⟩ := h₂.complete rule hrule message hbreaks hlevel
      exact ⟨o, List.mem_append_right _ ho, htells⟩

/-- Outcomes that judge a commit can be shown. -/
theorem isShowable {os : List Outcome} (h : Judges s found m RuleLevels.names os) :
    ∀ o ∈ os, o.IsShowable := by
  intro o ho
  refine ⟨isName_of_mem_names (h.ordered.subset (List.mem_map_of_mem ho)), fun hvalid => ?_⟩
  obtain ⟨message, hm, hbreaks⟩ := h.sound o ho hvalid
  exact ⟨message, hm, hbreaks.isPlain⟩

end Judges

/-! ## Problems at a level -/

/-- The rules that a commit breaks at a level, in the order of the rules, with what they say. -/
structure Lists (s : Settings) (found : Text → Prop) (m : Message) (level : Level)
    (problems : List (Text × Text)) : Prop where
  /-- There is at most one problem for each rule, in the order of the rules. -/
  ordered : (problems.map Prod.fst).Sublist RuleLevels.names
  /-- The problems are the rules at the level that the commit breaks. -/
  exact : ∀ rule message, (rule, message) ∈ problems ↔
    s.levelOf rule = level ∧ Breaks found m rule message

/-- The failures at a level list what the commit breaks there. -/
theorem Judges.lists {s : Settings} {found : Text → Prop} {m : Message} {os : List Outcome}
    (h : Judges s found m RuleLevels.names os) {level : Level} (hlevel : level ≠ .disabled)
    {p : Outcome → Bool} (hp : ∀ o, p o = true ↔ o.valid = false ∧ o.level = level) :
    Lists s found m level ((os.filter p).map Outcome.problem) where
  ordered := by
    rw [List.map_map]
    exact (List.filter_sublist.map _).trans h.ordered
  exact rule message := by
    rw [List.mem_map]
    constructor
    · rintro ⟨o, ho, hproblem⟩
      obtain ⟨rfl, rfl⟩ := Prod.mk.inj hproblem
      obtain ⟨ho, hpo⟩ := List.mem_filter.1 ho
      obtain ⟨hvalid, hol⟩ := (hp o).1 hpo
      obtain ⟨message, hm, hbreaks⟩ := h.sound o ho hvalid
      rw [hm]
      exact ⟨(h.level o ho).symm.trans hol, hbreaks⟩
    · rintro ⟨hrule, hbreaks⟩
      obtain ⟨o, ho, rfl, hvalid, hm⟩ :=
        h.complete rule hbreaks.mem_names message hbreaks (hrule ▸ hlevel)
      refine ⟨o, List.mem_filter.2 ⟨ho, (hp o).2 ⟨hvalid, (h.level o ho).trans hrule⟩⟩, ?_⟩
      rw [Outcome.problem, hm]
      rfl

/-! ## The linter of settings -/

namespace Linter

section Rules

variable (s : Settings) (repository : Text) (checker : Checker)

/-- The rule of the header format, as it is registered. -/
def headerRegistration : Registration :=
  ⟨HeaderFormat.name, .ofVerdict HeaderFormat.verdict, s.levelOf HeaderFormat.name⟩

/-- The rule of the issue reference, as it is registered. -/
def referenceRegistration : Registration :=
  ⟨IssueReference.name, IssueReference.rule repository checker, s.levelOf IssueReference.name⟩

/-- The rules of the linter of settings. -/
def rulesOf : List Registration :=
  if s.levelOf IssueReference.name = .disabled then [headerRegistration s]
  else [headerRegistration s, referenceRegistration s repository checker]

/-- The linter of settings for a context. -/
def forContext (network : Http.Network) (context : RepositoryContext) (observers : List Observer) :
    Linter :=
  ⟨rulesOf s context.repository ((trackerOf s context observers).ask network), observers⟩

/-- The outcomes of the rule of the header format. -/
def headerOutcomes (m : Message) : List Outcome :=
  if s.levelOf HeaderFormat.name = .disabled then []
  else [.ofVerdict HeaderFormat.name (s.levelOf HeaderFormat.name) (HeaderFormat.verdict m)]

end Rules

/-- The context of a linter: the one that is given, or else the one that the environment
names. -/
def contextOf (env : Environment) : Option RepositoryContext → Except Failure RepositoryContext
  | some context => .ok context
  | none => RepositoryContext.ofEnvironment env

section Settings

variable {env : Environment} {network : Http.Network} {s : Settings}
  {given : Option RepositoryContext} {observers : List Observer}

/-- Without the rule of the issue reference a linter comes of settings, whatever the environment
and the network are. -/
theorem ofSettings_of_disabled (h : s.levelOf IssueReference.name = .disabled) :
    ofSettings env network s given none observers = .ok ⟨[headerRegistration s], observers⟩ :=
  if_pos h

/-- With it, a linter comes of settings if there is a context. -/
theorem ofSettings_of_enabled (h : s.levelOf IssueReference.name ≠ .disabled) :
    ofSettings env network s given none observers = (contextOf env given).map fun context =>
      ⟨[headerRegistration s, referenceRegistration s context.repository
        ((trackerOf s context observers).ask network)], observers⟩ := by
  refine (if_neg h).trans ?_
  cases given with
  | some context => rfl
  | none =>
    show _ = (RepositoryContext.ofEnvironment env).map _
    cases RepositoryContext.ofEnvironment env <;> rfl

/-- A linter comes of settings if the rule of the issue reference is disabled or there is a
context. -/
theorem ofSettings_eq_ok_iff {l : Linter} :
    ofSettings env network s given none observers = .ok l ↔
      ∃ context, (s.levelOf IssueReference.name ≠ .disabled → contextOf env given = .ok context) ∧
        l = forContext s network context observers := by
  unfold forContext rulesOf
  by_cases hlevel : s.levelOf IssueReference.name = .disabled
  · simp [ofSettings_of_disabled hlevel, hlevel, eq_comm]
  · rw [ofSettings_of_enabled hlevel]
    cases contextOf env given <;> simp [Except.map, hlevel, eq_comm]

/-- No linter comes of settings if the rule of the issue reference is enabled and there is no
context. -/
theorem ofSettings_eq_error_iff {e : Failure} :
    ofSettings env network s given none observers = .error e ↔
      s.levelOf IssueReference.name ≠ .disabled ∧ contextOf env given = .error e := by
  by_cases hlevel : s.levelOf IssueReference.name = .disabled
  · simp [ofSettings_of_disabled hlevel, hlevel]
  · rw [ofSettings_of_enabled hlevel]
    cases contextOf env given <;> simp [Except.map, hlevel]

end Settings

variable {s : Settings} {repository : Text} {checker : Checker} {m : Message}

/-- The rule of the header format asks nothing and always answers. -/
theorem outcomes_header (rs : List Registration) :
    outcomes m (headerRegistration s :: rs) =
      ⟨(outcomes m rs).trace, (outcomes m rs).outcome.map (headerOutcomes s m ++ ·)⟩ := by
  have hregistered : (headerRegistration s).level = s.levelOf HeaderFormat.name := rfl
  rw [outcomes, headerOutcomes, hregistered]
  by_cases hlevel : s.levelOf HeaderFormat.name = .disabled
  · rw [if_pos hlevel, if_pos hlevel]
    cases outcomes m rs with
    | mk trace outcome => cases outcome <;> rfl
  · have hrule : (headerRegistration s).rule m = ⟨[], .ok (HeaderFormat.verdict m)⟩ := rfl
    rw [if_neg hlevel, if_neg hlevel, hrule, Run.bind_ok, Run.bind_pure_eq]
    rfl

/-- Without the rule of the issue reference nothing is asked. -/
theorem outcomes_of_disabled (h : s.levelOf IssueReference.name = .disabled) :
    outcomes m (rulesOf s repository checker) = ⟨[], .ok (headerOutcomes s m)⟩ := by
  rw [rulesOf, if_pos h, outcomes_header]
  show (⟨[], .ok (headerOutcomes s m ++ [])⟩ : Run _) = _
  rw [List.append_nil]

/-- With it, what is asked is what the table says. -/
theorem outcomes_of_ruling (h : s.levelOf IssueReference.name ≠ .disabled) {f : Finding}
    (hf : Ruling m f) :
    outcomes m (rulesOf s repository checker) =
      ⟨(f.run repository checker).trace, (f.run repository checker).outcome.map fun v =>
        headerOutcomes s m ++
          [.ofVerdict IssueReference.name (s.levelOf IssueReference.name) v]⟩ := by
  have hreference : outcomes m [referenceRegistration s repository checker] =
      ⟨(f.run repository checker).trace, (f.run repository checker).outcome.map fun v =>
        [.ofVerdict IssueReference.name (s.levelOf IssueReference.name) v]⟩ := by
    have hrule : (referenceRegistration s repository checker).rule m = f.run repository checker :=
      IssueReference.rule_of_ruling hf repository checker
    have hregistered : (referenceRegistration s repository checker).level ≠ .disabled := h
    rw [outcomes, if_neg hregistered, hrule]
    exact Run.bind_pure_eq
  rw [rulesOf, if_neg h, outcomes_header, hreference]
  cases (f.run repository checker).outcome <;> rfl

/-- Whether an issue is found, as a checker tells it. -/
def Finds (repository : Text) (checker : Checker) (n : Text) : Prop :=
  (checker repository n).outcome = .ok true

theorem judges_headerOutcomes (found : Text → Prop) :
    Judges s found m [HeaderFormat.name] (headerOutcomes s m) := by
  unfold headerOutcomes
  split
  · rename_i hlevel
    exact .of_disabled hlevel
  · refine .of_verdict fun message => ?_
    rw [Breaks.header_iff, ← Header.isWellFormed_iff]
    unfold HeaderFormat.verdict HeaderFormat.judge
    cases Header.isWellFormed m.header <;> simp [Verdict.pass, Verdict.failing, eq_comm]

theorem judges_verdict {f : Finding} (hf : Ruling m f) {v : Verdict}
    (hv : (f.run repository checker).outcome = .ok v) :
    Judges s (Finds repository checker) m [IssueReference.name]
      [.ofVerdict IssueReference.name (s.levelOf IssueReference.name) v] := by
  refine .of_verdict fun message => ?_
  rw [Breaks.reference_iff hf]
  cases f with
  | verdict w =>
    obtain rfl := Except.ok.inj hv
    simp
  | issue n =>
    have hanswer : Finding.answered n (checker repository n).outcome = .ok v := hv
    have hissue :
        ((∃ w, Finding.issue n = .verdict w ∧ w.valid = false ∧ w.message = some message) ∨
        ∃ k, Finding.issue n = .issue k ∧ ¬Finds repository checker k ∧
          message = IssueReference.issueMissing k) ↔
        ¬Finds repository checker n ∧ message = IssueReference.issueMissing n := by
      simp
    rw [hissue]
    unfold Finds
    cases hchecker : (checker repository n).outcome with
    | error e =>
      rw [hchecker] at hanswer
      cases hanswer
    | ok found =>
      rw [hchecker] at hanswer
      cases found with
      | true =>
        obtain rfl := Except.ok.inj hanswer
        simp [Verdict.pass]
      | false =>
        obtain rfl := Except.ok.inj hanswer
        simp [Verdict.failing, eq_comm]

/-- Whatever the checker does: if the rules come to an end, their outcomes judge the commit. -/
theorem judges_of_outcomes {os : List Outcome}
    (h : (outcomes m (rulesOf s repository checker)).outcome = .ok os) :
    Judges s (Finds repository checker) m RuleLevels.names os := by
  by_cases hlevel : s.levelOf IssueReference.name = .disabled
  · rw [outcomes_of_disabled hlevel] at h
    obtain rfl := Except.ok.inj h
    have hjudges := (judges_headerOutcomes (s := s) (m := m) (Finds repository checker)).append
      (.of_disabled hlevel)
    rwa [List.append_nil] at hjudges
  · obtain ⟨f, hf⟩ := IssueReference.exists_ruling m
    rw [outcomes_of_ruling hlevel hf] at h
    cases hv : (f.run repository checker).outcome with
    | error e =>
      rw [hv] at h
      cases h
    | ok v =>
      rw [hv] at h
      obtain rfl := Except.ok.inj h
      exact (judges_headerOutcomes _).append (judges_verdict hf hv)

/-! ## Reports -/

/-- A report has the outcomes of the rules for its commit. -/
theorem outcomes_of_lint {l : Linter} {sha : Option Text} {report : Report}
    (h : (l.lint m sha).outcome = .ok report) :
    report.commit = m ∧ report.sha = sha ∧ (outcomes m l.rules).outcome = .ok report.outcomes := by
  obtain ⟨os, hos, hrest⟩ := Run.bind_eq_ok_iff.1 h
  obtain ⟨-, -, hpure⟩ := Run.bind_eq_ok_iff.1 hrest
  obtain rfl := Except.ok.inj hpure
  exact ⟨rfl, rfl, hos⟩

/-- Without observers a report is what the rules come to. -/
theorem lint_of_no_observers (rules : List Registration) (sha : Option Text) :
    lint ⟨rules, []⟩ m sha =
      ⟨(outcomes m rules).trace, (outcomes m rules).outcome.map (⟨m, sha, ·⟩)⟩ := by
  show (outcomes m rules >>= fun os => pure (⟨m, sha, os⟩ : Report)) = _
  exact Run.bind_pure_eq

end Linter

end CommitCheck
