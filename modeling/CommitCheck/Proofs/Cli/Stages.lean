import CommitCheck.Cli.Run
import CommitCheck.Proofs.Linter
import CommitCheck.Proofs.Linter.Batch

/-!
# Linting from the command line, stage by stage

An invocation that lints goes through the same stages: the settings are loaded, the observers
and the linter are set up, the commits are gathered, and they are linted.  `Ready` says that
the stages up to the last one succeeded and with what.  Then the rest is `lintAll`, after
everything that has happened so far (`lint_of_ready`).

The last stage can only fail where a commit is linted.  Reports are always shown, because what
the rules say is plain text (`showReports_eq`), and so are the other lines of the program.
The same goes for a failure: whatever its wording, it is reported (`outcome_report`).
-/

namespace CommitCheck.Cli

open Console (endless)

/-! ## Invocations that lint -/

/-- The invocation asks for nothing else than to lint. -/
structure Invocation.Lints (i : Invocation) : Prop where
  /-- It does not ask for the version. -/
  version : i.version = false
  /-- It does not ask for a newer version. -/
  update : i.update = false
  /-- It does not ask for the settings. -/
  list : i.list = false
  /-- It does not ask for a file of settings. -/
  create : i.create = false

theorem Invocation.Lints.perform_eq {i : Invocation} (h : i.Lints) (s : Surroundings) :
    perform s i = lint s i := by
  simp [perform, h.version, h.update, h.list, h.create]

/-! ## Failures -/

theorem renders_failureLine (e : Failure) : Console.Renders (failureLine e) :=
  Console.renders_inStyle_escape Console.isStyle_red (by decide) (by decide) e.message

/-- The exit status that a failure gives. -/
def statusOfFailure (e : Failure) : Nat :=
  if e.isExpected = true ∨ e = .interrupted then undone else failed

theorem statusOfFailure_eq_undone_iff {e : Failure} :
    statusOfFailure e = undone ↔ e.isExpected = true ∨ e = .interrupted := by
  unfold statusOfFailure
  split
  · rename_i h
    exact iff_of_true rfl h
  · rename_i h
    exact iff_of_false (by decide) h

theorem statusOfFailure_eq_failed_iff {e : Failure} :
    statusOfFailure e = failed ↔ e.isExpected = false ∧ e ≠ .interrupted := by
  have hnot : (e.isExpected = false ∧ e ≠ .interrupted) ↔
      ¬(e.isExpected = true ∨ e = .interrupted) := by
    rw [not_or, Bool.not_eq_true]
  rw [hnot, ← statusOfFailure_eq_undone_iff]
  unfold statusOfFailure
  split <;> decide

theorem statusOfFailure_ne_passed (e : Failure) : statusOfFailure e ≠ passed := by
  unfold statusOfFailure
  split <;> decide

theorem print_cancelled :
    (endless.print "\n[yellow]Operation cancelled by user[/yellow]").outcome = .ok () := by
  have hshown : (endless.output "\n[yellow]Operation cancelled by user[/yellow]").toOption.isSome =
      true := by
    decide +kernel
  cases hout : endless.output "\n[yellow]Operation cancelled by user[/yellow]" with
  | error e =>
    rw [hout] at hshown
    cases hshown
  | ok shown => rw [Console.print_of_output hout]

/-- A failure that the user did not cause is reported by its line, and one that was not expected
aborts the program. -/
theorem report_eq {e : Failure} (h : e ≠ .interrupted) :
    report e = (endless.print (failureLine e) >>= fun _ =>
      if e.isExpected then pure undone
      else Run.record (.complained "Aborted!\n") >>= fun _ => pure failed) := by
  unfold report
  split
  · exact absurd rfl h
  · rfl

/-- A failure is always reported, and the exit status tells whether it was expected. -/
theorem outcome_report (e : Failure) : (report e).outcome = .ok (statusOfFailure e) := by
  by_cases hstop : e = .interrupted
  · subst hstop
    show (endless.print "\n[yellow]Operation cancelled by user[/yellow]" >>= fun _ =>
      pure undone).outcome = _
    rw [Run.bind_of_ok print_cancelled]
    rfl
  · obtain ⟨shown, hshown⟩ := (renders_failureLine e).output
    rw [report_eq hstop, Console.print_of_output hshown, statusOfFailure]
    cases e.isExpected with
    | true => rfl
    | false => simp [hstop, Run.bind_ok, Run.record]

theorem carryOut_of_ok {s : Surroundings} {i : Invocation} {status : Nat}
    (h : (perform s i).outcome = .ok status) :
    carryOut s i = ⟨(perform s i).trace, .ok status⟩ := by
  show (⟨(perform s i).trace, .ok (perform s i).outcome⟩ >>= _ : Run Nat) = _
  rw [Run.bind_ok, h]
  show (⟨(perform s i).trace ++ [], .ok status⟩ : Run Nat) = _
  rw [List.append_nil]

theorem carryOut_of_error {s : Surroundings} {i : Invocation} {e : Failure}
    (h : (perform s i).outcome = .error e) :
    carryOut s i = ⟨(perform s i).trace ++ (report e).trace, (report e).outcome⟩ := by
  show (⟨(perform s i).trace, .ok (perform s i).outcome⟩ >>= _ : Run Nat) = _
  rw [Run.bind_ok, h]

theorem outcome_carryOut_of_error {s : Surroundings} {i : Invocation} {e : Failure}
    (h : (perform s i).outcome = .error e) :
    (carryOut s i).outcome = .ok (statusOfFailure e) := by
  rw [carryOut_of_error h]
  exact outcome_report e

/-! ## Showing what was found -/

/-- The lines that a report with problems is shown by. -/
def shownBlock (r : Report) : List Event :=
  if r.hasProblems then (r.print endless).trace else []

theorem flatMap_filter {α β : Type} (p : α → Bool) (f : α → List β) (as : List α) :
    (as.filter p).flatMap f = as.flatMap fun a => if p a then f a else [] := by
  induction as with
  | nil => rfl
  | cons a as ih =>
    rw [List.flatMap_cons, ← ih, List.filter_cons]
    split
    · rw [List.flatMap_cons]
    · rfl

/-- Reports whose outcomes can be shown are all shown, in order. -/
theorem showReports_eq {reports : List Report}
    (h : ∀ r ∈ reports, ∀ o ∈ r.outcomes, o.IsShowable) :
    showReports reports = ⟨reports.flatMap shownBlock, .ok ()⟩ := by
  have heach : ∀ r ∈ reports.filter Report.hasProblems, (r.print endless).outcome = .ok () := by
    intro r hr
    obtain ⟨title, htitle⟩ := Report.output_titleLine r
    rw [Report.print_eq (h r (List.mem_filter.1 hr).1) htitle]
  unfold showReports
  rw [Run.each_of_ok heach, flatMap_filter]
  rfl

theorem print_passedLine (count : Nat) : (endless.print (passedLine count)).outcome = .ok () := by
  have hsteady : ("✔   ".toList ++ natText count ++ " commit(s) passed".toList).all
      Console.isSteady = true :=
    isSteady_append (isSteady_append (by decide) (Report.isSteady_natText count)) (by decide)
  exact congrArg Run.outcome (Console.print_inStyle Console.isStyle_green hsteady)

theorem print_noCommits :
    (endless.print "[yellow]No commits to lint[/yellow]").outcome = .ok () := by
  have hsteady : ("No commits to lint".toList).all Console.isSteady = true := by decide
  exact congrArg Run.outcome (Console.print_inStyle Console.isStyle_yellow hsteady)

/-! ## The stages before linting -/

/-- No observer tells more unless that is asked for. -/
theorem verboseObserver_of_quiet {i : Invocation} (h : i.verbose = false) (s : Surroundings) :
    verboseObserver s i = ⟨[], .ok []⟩ := by
  rw [verboseObserver, h]
  rfl

/-- No observer keeps a log if there is no path for it. -/
theorem logObserver_of_logless {s : Surroundings} {i : Invocation} {settings : Settings}
    (h : (logPath s i settings).outcome = .ok none) :
    logObserver s i settings = ⟨(logPath s i settings).trace, .ok []⟩ := by
  unfold logObserver
  rw [Run.bind_of_ok h]
  show (⟨_ ++ [], .ok []⟩ : Run (List Observer)) = _
  rw [List.append_nil]

/-- The stages up to the last one have succeeded. -/
structure Ready (s : Surroundings) (i : Invocation) (settings : Settings)
    (verbose log : List Observer) (l : Linter) (commits : List (Option Text × Message)) : Prop where
  /-- The settings are loaded. -/
  loads : (s.load i.path).outcome = .ok settings
  /-- The observer that tells more is set up if there is one. -/
  tells : (verboseObserver s i).outcome = .ok verbose
  /-- The observer that keeps the log is set up if there is one. -/
  keepsLog : (logObserver s i settings).outcome = .ok log
  /-- The linter is set up. -/
  setsUp : Linter.ofSettings s.environment s.network settings none none (verbose ++ log) = .ok l
  /-- The commits are gathered. -/
  gathers : (gather s i).outcome = .ok commits

/-- The last stage. -/
def lintAll (i : Invocation) (l : Linter) (commits : List (Option Text × Message)) : Run Nat :=
  if commits.isEmpty then do
    endless.print "[yellow]No commits to lint[/yellow]"
    pure passed
  else lintCommits i l commits

/-- Without commits there is nothing wrong. -/
theorem outcome_lintAll_nil (i : Invocation) (l : Linter) :
    (lintAll i l []).outcome = .ok passed := by
  rw [lintAll, if_pos List.isEmpty_nil, Run.bind_of_ok print_noCommits]
  rfl

theorem lintAll_of_ne_nil {i : Invocation} {l : Linter} {commits : List (Option Text × Message)}
    (h : commits ≠ []) : lintAll i l commits = lintCommits i l commits := by
  rw [lintAll, if_neg]
  rwa [List.isEmpty_iff]

/-- What has happened before the last stage. -/
def preparation (s : Surroundings) (i : Invocation) (settings : Settings) : List Event :=
  (s.load i.path).trace ++ ((verboseObserver s i).trace ++ ((logObserver s i settings).trace ++
    (gather s i).trace))

variable {s : Surroundings} {i : Invocation} {settings : Settings} {verbose log : List Observer}
  {l : Linter} {commits : List (Option Text × Message)}

/-- Linting is its stages, one after another. -/
theorem lint_eq (s : Surroundings) (i : Invocation) :
    lint s i = (s.load i.path >>= fun settings => verboseObserver s i >>= fun verbose =>
      logObserver s i settings >>= fun log =>
      Run.ofExcept (Linter.ofSettings s.environment s.network settings none none (verbose ++ log))
        >>= fun l => gather s i >>= fun commits => lintAll i l commits) := rfl

/-- After the other stages, the last one takes place. -/
theorem lint_of_ready (h : Ready s i settings verbose log l commits) :
    lint s i = ⟨preparation s i settings ++ (lintAll i l commits).trace,
      (lintAll i l commits).outcome⟩ := by
  rw [lint_eq, Run.bind_of_ok h.loads, Run.bind_of_ok h.tells, Run.bind_of_ok h.keepsLog, h.setsUp,
    Run.bind_ofExcept_ok, Run.bind_of_ok h.gathers]
  simp only [preparation, List.append_assoc]

/-- What a linter from settings reports can be shown. -/
theorem isShowable_of_lint
    (h : Linter.ofSettings s.environment s.network settings none none (verbose ++ log) = .ok l)
    {m : Message} {sha : Option Text} {report : Report}
    (hreport : (l.lint m sha).outcome = .ok report) : ∀ o ∈ report.outcomes, o.IsShowable := by
  obtain ⟨context, -, rfl⟩ := Linter.ofSettings_eq_ok_iff.1 h
  obtain ⟨-, -, hos⟩ := Linter.outcomes_of_lint hreport
  exact (Linter.judges_of_outcomes hos).isShowable

/-- Each commit is linted, with the reports as they come. -/
def Linted (l : Linter) (commits : List (Option Text × Message)) (reports : List Report) : Prop :=
  List.Forall₂ (fun c report => (l.lint c.2 c.1).outcome = .ok report) commits reports

theorem lintMany_eq_ok_iff {reports : List Report} :
    (l.lintMany commits).outcome = .ok reports ↔ Linted l commits reports :=
  Linter.outcome_lintMany_eq_ok_iff

/-- What is said at the end if all went well and more is to be told. -/
def passedEvents (i : Invocation) (reports : List Report) : List Event :=
  if i.verbose && reports.all Report.valid then (endless.print (passedLine reports.length)).trace
  else []

/-- The status is 0 exactly if every report is valid. -/
theorem statusOf_eq_passed_iff {reports : List Report} :
    statusOf reports = passed ↔ ∀ r ∈ reports, r.valid = true := by
  unfold statusOf
  rw [← List.all_eq_true]
  cases reports.all Report.valid <;> decide

/-- The status is 1 exactly if some report is not. -/
theorem statusOf_eq_failed_iff {reports : List Report} :
    statusOf reports = failed ↔ ∃ r ∈ reports, r.valid = false := by
  unfold statusOf
  cases hall : reports.all Report.valid with
  | true =>
    rw [List.all_eq_true] at hall
    refine iff_of_false (by decide) ?_
    rintro ⟨r, hr, hvalid⟩
    cases (hall r hr).symm.trans hvalid
  | false => exact iff_of_true rfl (by simpa using hall)

theorem statusOf_ne_undone (reports : List Report) : statusOf reports ≠ undone := by
  unfold statusOf
  split <;> decide

/-- If each commit is linted, the reports with problems are shown and decide the status. -/
theorem lintCommits_of_linted {reports : List Report} (h : Linted l commits reports)
    (hshow : ∀ r ∈ reports, ∀ o ∈ r.outcomes, o.IsShowable) :
    lintCommits i l commits =
      ⟨(l.lintMany commits).trace ++ (reports.flatMap shownBlock ++ passedEvents i reports),
        .ok (statusOf reports)⟩ := by
  unfold lintCommits passedEvents
  rw [Run.bind_of_ok (lintMany_eq_ok_iff.2 h), showReports_eq hshow, Run.bind_ok]
  split
  · rw [Run.bind_of_ok (print_passedLine reports.length)]
    show (⟨_ ++ (_ ++ (_ ++ [])), _⟩ : Run Nat) = _
    rw [List.append_nil]
    rfl
  · rfl

end CommitCheck.Cli
