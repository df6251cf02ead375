import CommitCheck.Proofs.Cli.Offline
import CommitCheck.Proofs.Cli.Stages
import CommitCheck.Proofs.Tracker
import Mathlib.Data.List.Forall2

/-!
# The verdict of the command line

What linting comes to from end to end, for commits that have been gathered and can be looked
up.  `Prepared` collects what has to hold before: the command line asks for linting and no
more, the settings are loaded and keep no log, and the environment and the network serve the
rule of the issue reference where it is not disabled.

`run_of_prepared` then tells the whole run.

* The requests are those of the commits, in order: one lookup for a commit that needs one
  (`Requests`), and nothing for any other.
* The blocks on the console are those of the commits, in order: one for a commit that breaks
  a rule that is not disabled (`Block`), and nothing for any other.  A block has a line for
  each error, then for each warning, and counts both.
* The exit status is 1 exactly if some commit breaks a rule at the level of errors, and 0
  otherwise.
-/

namespace CommitCheck.Cli

open Console (endless)
open IssueReference (Ruling)
open Report (printedProblem countsText gravestSign)

/-! ## What a commit leads to -/

section Commit

variable (settings : Settings)

/-- A commit needs the lookup of an issue: the rule of the issue reference is not disabled,
and the table has that issue for the commit. -/
def Needs (m : Message) (n : Text) : Prop :=
  settings.levelOf IssueReference.name ≠ .disabled ∧ Ruling m (.issue n)

/-- The requests for a commit, by what the lookup of an issue sends. -/
inductive Requests (sends : Text → List Event) (m : Message) : List Event → Prop
  /-- The commit needs no lookup. -/
  | none : (∀ n, ¬Needs settings m n) → Requests sends m []
  /-- The commit needs the lookup of an issue. -/
  | one {n : Text} : Needs settings m n → Requests sends m (sends n)

/-- The block on the console for a commit. -/
inductive Block (found : Text → Prop) (c : Option Text × Message) : List Event → Prop
  /-- The commit breaks no rule that is not disabled. -/
  | kept : (∀ rule message, Breaks found c.2 rule message → settings.levelOf rule = .disabled) →
      Block found c []
  /-- The commit breaks some rules. -/
  | broken {title : Text} {errors warnings : List (Text × Text)} :
      endless.output (Report.titleLine ⟨c.2, c.1, []⟩) = .ok title →
      Lists settings found c.2 .error errors → Lists settings found c.2 .warning warnings →
      errors ≠ [] ∨ warnings ≠ [] →
      Block found c (.printed title ::
        (errors.map (printedProblem '✖') ++ warnings.map (printedProblem '⚠') ++
          [.printed (countsText (gravestSign errors.length warnings.length) errors.length
            warnings.length)]))

end Commit

/-- What has to hold before commits are linted and looked up. -/
structure Prepared (s : Surroundings) (words : List Text) (i : Invocation) (settings : Settings)
    (context : RepositoryContext) (commits : List (Option Text × Message)) : Prop where
  /-- The command line is read as an invocation. -/
  reads : Request.read s.files words = .ok (.work i)
  /-- The invocation lints. -/
  lints : i.Lints
  /-- It does not tell more. -/
  quiet : i.verbose = false
  /-- The settings are loaded. -/
  loads : (s.load i.path).outcome = .ok settings
  /-- No log is kept. -/
  logless : (logPath s i settings).outcome = .ok none
  /-- The environment names a repository and a token if the rule of the issue reference is
  not disabled. -/
  named : settings.levelOf IssueReference.name ≠ .disabled →
    RepositoryContext.ofEnvironment s.environment = .ok context
  /-- The commits are gathered. -/
  gathers : (gather s i).outcome = .ok commits
  /-- There are some. -/
  nonempty : commits ≠ []
  /-- Each lookup that is needed comes to a final response. -/
  reached : ∀ c ∈ commits, ∀ n, Needs settings c.2 n →
    ∃ r, (Tracker.lookup s.network (Linter.trackerOf settings context [])
      context.repository n).outcome = .ok r

/-! ## One commit -/

variable {settings : Settings} {found : Text → Prop} {c : Option Text × Message} {r : Report}

theorem lists_errors {m : Message} (h : Judges settings found m RuleLevels.names r.outcomes) :
    Lists settings found m .error (r.errors.map Outcome.problem) :=
  h.lists (by decide) fun _ => Outcome.isError_iff

theorem lists_warnings {m : Message} (h : Judges settings found m RuleLevels.names r.outcomes) :
    Lists settings found m .warning (r.warnings.map Outcome.problem) :=
  h.lists (by decide) fun _ => Outcome.isWarning_iff

/-- A report whose outcomes judge a commit is shown as its block. -/
theorem block_of_judges (hcommit : r.commit = c.2) (hsha : r.sha = c.1)
    (h : Judges settings found c.2 RuleLevels.names r.outcomes) :
    Block settings found c (shownBlock r) := by
  obtain ⟨title, htitle⟩ := Report.output_titleLine r
  have hprint := Report.print_eq h.isShowable htitle
  have hsame : r.titleLine = Report.titleLine ⟨c.2, c.1, []⟩ := by
    rw [← hcommit, ← hsha]
    rfl
  rw [hsame] at htitle
  unfold shownBlock
  by_cases hany : r.errors ≠ [] ∨ r.warnings ≠ []
  · have hproblems : r.hasProblems = true := by
      simpa [Report.hasProblems] using hany
    have hblock := Block.broken htitle (lists_errors h) (lists_warnings h) (by simpa using hany)
    rw [List.length_map, List.length_map] at hblock
    rw [if_pos hproblems, hprint]
    exact hblock
  · rw [not_or, not_not, not_not] at hany
    have hproblems : ¬r.hasProblems = true := by
      simp [Report.hasProblems, hany]
    rw [if_neg hproblems]
    refine .kept fun rule message hbreaks => ?_
    -- a rule that is broken at another level would be in one of the two lists
    cases hlevel : settings.levelOf rule with
    | disabled => rfl
    | warning =>
      have hmem := ((lists_warnings h).exact rule message).2 ⟨hlevel, hbreaks⟩
      rw [hany.2] at hmem
      cases hmem
    | error =>
      have hmem := ((lists_errors h).exact rule message).2 ⟨hlevel, hbreaks⟩
      rw [hany.1] at hmem
      cases hmem

/-- A commit is invalid exactly if it breaks a rule at the level of errors. -/
theorem valid_eq_false_iff {m : Message} (h : Judges settings found m RuleLevels.names r.outcomes) :
    r.valid = false ↔
      ∃ rule message, settings.levelOf rule = .error ∧ Breaks found m rule message := by
  have hvalid : r.valid = false ↔ r.errors.map Outcome.problem ≠ [] := by
    simp [Report.valid]
  rw [hvalid]
  constructor
  · intro hne
    obtain ⟨⟨rule, message⟩, hmem⟩ := List.exists_mem_of_ne_nil _ hne
    exact ⟨rule, message, ((lists_errors h).exact rule message).1 hmem⟩
  · rintro ⟨rule, message, hbreaks⟩
    exact List.ne_nil_of_mem (((lists_errors h).exact rule message).2 hbreaks)

variable {s : Surroundings} {words : List Text} {i : Invocation} {context : RepositoryContext}
  {commits : List (Option Text × Message)}

/-- The tracker that commits are looked up at. -/
def trackerFor (settings : Settings) (context : RepositoryContext) : Tracker :=
  Linter.trackerOf settings context []

/-- The linter that commits are linted by. -/
def linterFor (s : Surroundings) (settings : Settings) (context : RepositoryContext) : Linter :=
  ⟨Linter.rulesOf settings context.repository ((trackerFor settings context).ask s.network), []⟩

/-- What the lookup of an issue sends. -/
def sent (s : Surroundings) (settings : Settings) (context : RepositoryContext) (n : Text) :
    List Event :=
  (Tracker.lookup s.network (trackerFor settings context) context.repository n).trace

/-- Whether the lookup of an issue finds it. -/
def Found (s : Surroundings) (settings : Settings) (context : RepositoryContext) (n : Text) :
    Prop :=
  Tracker.Answers s.network (trackerFor settings context) context.repository n

/-- The report of a commit that was linted with the requests that it needs, and judged by the
issues that are found. -/
structure Reports (s : Surroundings) (settings : Settings) (context : RepositoryContext)
    (c : Option Text × Message) (report : Report) : Prop where
  /-- The linter comes to the report. -/
  linted : ((linterFor s settings context).lint c.2 c.1).outcome = .ok report
  /-- Its outcomes judge the commit. -/
  judges : Judges settings (Found s settings context) c.2 RuleLevels.names report.outcomes
  /-- The requests are those that the commit needs. -/
  requests : Requests settings (sent s settings context) c.2
    ((linterFor s settings context).lint c.2 c.1).trace

/-- A commit has a report if the lookup that it needs comes to a final response. -/
theorem exists_reports
    (hreached : ∀ n, Needs settings c.2 n → ∃ r, (Tracker.lookup s.network
      (trackerFor settings context) context.repository n).outcome = .ok r) :
    ∃ report, Reports s settings context c report := by
  have hfinds : Linter.Finds context.repository ((trackerFor settings context).ask s.network) =
      Found s settings context :=
    funext fun n => propext (Tracker.ask_eq_true_iff rfl)
  -- it is enough to follow the rules
  suffices hrules : ∃ os, (Linter.outcomes c.2 (linterFor s settings context).rules).outcome =
      .ok os ∧ Requests settings (sent s settings context) c.2
        (Linter.outcomes c.2 (linterFor s settings context).rules).trace by
    obtain ⟨os, hos, hrequests⟩ := hrules
    refine ⟨⟨c.2, c.1, os⟩, ?_, hfinds ▸ Linter.judges_of_outcomes hos, ?_⟩
    · rw [linterFor, Linter.lint_of_no_observers]
      exact congrArg (Except.map _) hos
    · rw [linterFor, Linter.lint_of_no_observers]
      exact hrequests
  unfold linterFor
  by_cases hlevel : settings.levelOf IssueReference.name = .disabled
  · rw [Linter.outcomes_of_disabled hlevel]
    exact ⟨_, rfl, .none fun n hn => hn.1 hlevel⟩
  · obtain ⟨f, hf⟩ := IssueReference.exists_ruling c.2
    rw [Linter.outcomes_of_ruling hlevel hf]
    cases f with
    | verdict v =>
      refine ⟨_, rfl, .none fun n hn => ?_⟩
      cases hf.unique hn.2
    | issue n =>
      have hneeds : Needs settings c.2 n := ⟨hlevel, hf⟩
      obtain ⟨r, hr⟩ := hreached n hneeds
      have hrun : (IssueReference.Finding.issue n).run context.repository
          ((trackerFor settings context).ask s.network) =
          ⟨sent s settings context n,
            IssueReference.Finding.answered n (.ok (Http.isSuccess r.status))⟩ := by
        show (⟨_, _⟩ : Run Verdict) = _
        rw [Tracker.ask_of_ok rfl hr]
        rfl
      rw [hrun]
      cases Http.isSuccess r.status <;> exact ⟨_, rfl, .one hneeds⟩

/-! ## All commits -/

/-- A block is text on the console and nothing else. -/
theorem Block.printed_of_mem {block : List Event} (h : Block settings found c block) :
    ∀ e ∈ block, ∃ t, e = .printed t := by
  intro e he
  cases h with
  | kept => cases he
  | broken =>
    rcases List.mem_cons.1 he with rfl | he
    · exact ⟨_, rfl⟩
    · rcases List.mem_append.1 he with he | he
      · rcases List.mem_append.1 he with he | he <;>
        · obtain ⟨p, -, rfl⟩ := List.mem_map.1 he
          exact ⟨_, rfl⟩
      · obtain rfl := List.mem_singleton.1 he
        exact ⟨_, rfl⟩

/-- Some commit breaks a rule at the level of errors. -/
def Violated (settings : Settings) (found : Text → Prop)
    (commits : List (Option Text × Message)) : Prop :=
  ∃ c ∈ commits,
    (settings.levelOf HeaderFormat.name = .error ∧ ¬Header.WellFormed c.2.header) ∨
      (settings.levelOf IssueReference.name = .error ∧
        ∃ message, Breaks found c.2 IssueReference.name message)

theorem violated_iff :
    Violated settings found commits ↔
      ∃ c ∈ commits, ∃ rule message,
        settings.levelOf rule = .error ∧ Breaks found c.2 rule message := by
  refine exists_congr fun c => and_congr_right fun _ => ?_
  constructor
  · rintro (⟨hlevel, hw⟩ | ⟨hlevel, message, hbreaks⟩)
    · exact ⟨_, _, hlevel, .header hw⟩
    · exact ⟨_, message, hlevel, hbreaks⟩
  · rintro ⟨rule, message, hlevel, hbreaks⟩
    cases hbreaks with
    | header hw => exact .inl ⟨hlevel, hw⟩
    | reference hv hvalid hm => exact .inr ⟨hlevel, _, .reference hv hvalid hm⟩
    | missing hn hno => exact .inr ⟨hlevel, _, .missing hn hno⟩

/-- What a prepared invocation is ready with. -/
theorem Prepared.ready (h : Prepared s words i settings context commits) :
    Ready s i settings [] [] (linterFor s settings context) commits where
  loads := h.loads
  tells := congrArg Run.outcome (verboseObserver_of_quiet h.quiet s)
  keepsLog := congrArg Run.outcome (logObserver_of_logless h.logless)
  setsUp := Linter.ofSettings_eq_ok_iff.2 ⟨context, h.named, rfl⟩
  gathers := h.gathers

theorem Prepared.preparation_eq (h : Prepared s words i settings context commits) :
    preparation s i settings =
      (s.load i.path).trace ++ ((logPath s i settings).trace ++ (gather s i).trace) := by
  rw [preparation, verboseObserver_of_quiet h.quiet, logObserver_of_logless h.logless]
  rfl

/-- The whole run, by the reports of the commits. -/
theorem run_eq (h : Prepared s words i settings context commits) {reports : List Report}
    (hreports : List.Forall₂ (Reports s settings context) commits reports) :
    run s words =
      ⟨(s.load i.path).trace ++ ((logPath s i settings).trace ++ (gather s i).trace) ++
          ((commits.map fun c => ((linterFor s settings context).lint c.2 c.1).trace).flatten ++
            (reports.map shownBlock).flatten),
        .ok (statusOf reports)⟩ := by
  have hlinted : Linted (linterFor s settings context) commits reports :=
    hreports.imp fun c report hr => hr.linted
  have hshow : ∀ r ∈ reports, ∀ o ∈ r.outcomes, o.IsShowable := by
    intro r hr
    obtain ⟨c, -, hc⟩ := exists_mem_of_forall₂ hreports r hr
    exact hc.judges.isShowable
  have hall : lintAll i (linterFor s settings context) commits =
      ⟨(commits.map fun c => ((linterFor s settings context).lint c.2 c.1).trace).flatten ++
        (reports.map shownBlock).flatten, .ok (statusOf reports)⟩ := by
    have hpassed : passedEvents i reports = [] := by
      rw [passedEvents, h.quiet]
      rfl
    have htrace : ((linterFor s settings context).lintMany commits).trace =
        (commits.map fun c => ((linterFor s settings context).lint c.2 c.1).trace).flatten := by
      show (commits.map fun c => (linterFor s settings context).lint c.2 c.1).flatMap Run.trace = _
      rw [List.flatMap_map]
      rfl
    rw [lintAll_of_ne_nil h.nonempty, lintCommits_of_linted hlinted hshow, hpassed, htrace,
      List.append_nil]
    rfl
  have hperform : perform s i = ⟨preparation s i settings ++
      ((commits.map fun c => ((linterFor s settings context).lint c.2 c.1).trace).flatten ++
        (reports.map shownBlock).flatten), .ok (statusOf reports)⟩ := by
    rw [h.lints.perform_eq, lint_of_ready h.ready, hall]
  have hrun : run s words = carryOut s i := by
    rw [run, h.reads]
  rw [hrun, carryOut_of_ok (congrArg Run.outcome hperform), hperform, h.preparation_eq]

/-- The reports give status 1 exactly if some commit breaks a rule at the level of errors. -/
theorem statusOf_eq_failed_iff_violated {reports : List Report}
    (hreports : List.Forall₂ (Reports s settings context) commits reports) :
    statusOf reports = failed ↔ Violated settings (Found s settings context) commits := by
  rw [statusOf_eq_failed_iff, violated_iff]
  induction hreports with
  | nil => simp
  | cons hr _ ih =>
    rw [List.exists_mem_cons_iff, List.exists_mem_cons_iff]
    exact or_congr (valid_eq_false_iff hr.judges) ih

/-- What happens while the commits are linted is the request of each. -/
theorem Prepared.forall₂_requests (h : Prepared s words i settings context commits) :
    List.Forall₂ (fun c => Requests settings (sent s settings context) c.2) commits
      (commits.map fun c => ((linterFor s settings context).lint c.2 c.1).trace) := by
  rw [List.forall₂_map_right_iff, List.forall₂_same]
  intro c hc
  obtain ⟨report, hreport⟩ := exists_reports (h.reached c hc)
  exact hreport.requests

/-- What is shown of the reports is the block of each. -/
theorem forall₂_blocks {reports : List Report}
    (hreports : List.Forall₂ (Reports s settings context) commits reports) :
    List.Forall₂ (Block settings (Found s settings context)) commits (reports.map shownBlock) := by
  rw [List.forall₂_map_right_iff]
  refine hreports.imp fun c report hr => ?_
  obtain ⟨hcommit, hsha, -⟩ := Linter.outcomes_of_lint hr.linted
  exact block_of_judges hcommit hsha hr.judges

/-- Commits that need no request send none. -/
theorem not_mem_requests {requests : List (List Event)}
    (h : List.Forall₂ (fun c => Requests settings (sent s settings context) c.2) commits requests)
    (hneeds : ∀ c ∈ commits, ∀ n, ¬Needs settings c.2 n) (q : Http.Request) :
    .requested q ∉ requests.flatten := by
  intro hq
  obtain ⟨trace, htrace, hq⟩ := List.mem_flatten.1 hq
  obtain ⟨c, hc, hrequest⟩ := exists_mem_of_forall₂ h trace htrace
  cases hrequest with
  | none => cases hq
  | one hn => exact hneeds c hc _ hn

/-- What is shown of reports sends no request. -/
theorem not_mem_blocks {blocks : List (List Event)}
    (h : List.Forall₂ (Block settings found) commits blocks) (q : Http.Request) :
    .requested q ∉ blocks.flatten := by
  intro hq
  obtain ⟨block, hblock, hq⟩ := List.mem_flatten.1 hq
  obtain ⟨c, -, hb⟩ := exists_mem_of_forall₂ h block hblock
  obtain ⟨t, ht⟩ := hb.printed_of_mem _ hq
  cases ht

/-- A folder without files, and a tracker that knows no issue. -/
def barren : Surroundings where
  files := ⟨[], []⟩
  environment := [("GITHUB_REPOSITORY", "octo/widgets"), ("GITHUB_TOKEN", "secret")]
  network _ := .response 404 none []
  repository := none
  installation := default
  now := default

/-- The words of a command line with a message. -/
def strayWords : List Text := ["--message", "wip\n\nIssue #5"]

/-- The invocation that the words ask for. -/
def strayInvocation : Invocation := .ofGiven ⟨[(.message, "wip\n\nIssue #5")], []⟩

/-- A commit with a header that is not well formed and an issue that does not exist. -/
def stray : Message := ⟨"wip", some "Issue #5"⟩

theorem ruling_stray : Ruling stray (.issue "5") := by
  refine .cited rfl (by decide) ?_ (by decide +kernel) ?_
  · exact Reference.inHeader?_eq_none_iff.1 (by decide +kernel)
  · exact Reference.inBody?_eq_some_iff.1 (by decide +kernel)

theorem prepared_stray :
    Prepared barren strayWords strayInvocation .default ⟨"octo/widgets", "secret"⟩
      [(none, stray)] where
  reads := rfl
  lints := ⟨rfl, rfl, rfl, rfl⟩
  quiet := rfl
  loads := rfl
  logless := rfl
  named _ := rfl
  gathers := rfl
  nonempty := List.cons_ne_nil _ _
  reached c hc n hn := by
    obtain rfl := List.mem_singleton.1 hc
    cases hn.2.unique ruling_stray
    exact ⟨_, rfl⟩

end CommitCheck.Cli
