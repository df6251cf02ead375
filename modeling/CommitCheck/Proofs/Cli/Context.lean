import CommitCheck.Proofs.Cli.Offline
import CommitCheck.Proofs.Cli.Status
import CommitCheck.Proofs.Context
import CommitCheck.Proofs.Settings.Environment

/-!
# What linting takes from the context

Linting looks at the repository and the token of the environment, and asks the tracker, for the
rule of the issue reference alone.  Where that rule is disabled, the whole run is the same
whatever they are (`run_of_disabled`) and no request is sent (`isOffline_run_of_disabled`).  Where
it is enabled and the environment does not name them, linting stops before the commits are
gathered (`stops_of_unnamed`), and all that is printed is why (`run_of_unnamed`).
-/

namespace CommitCheck.Cli

open Console (endless)
open RepositoryContext (trackerVariables)

variable {s : Surroundings} {words : List Text} {i : Invocation} {settings : Settings}
  {env : Environment}

/-! ## Without the rule of the issue reference -/

/-- The settings do not depend on the variables of the context. -/
theorem load_of_agreeBut (h : Environment.AgreeBut trackerVariables env s.environment)
    (network : Http.Network) (folder : Text) :
    { s with environment := env, network := network }.load folder = s.load folder :=
  Settings.load_congr (Settings.environmentFields_of_agreeBut h) _ _

section Disabled

variable {network : Http.Network}

-- the environments agree but for the context, and the rule that takes it is disabled
variable (henv : Environment.AgreeBut trackerVariables env s.environment)
  (hloads : (s.load i.path).outcome = .ok settings)
  (hlevel : settings.levelOf IssueReference.name = .disabled)
include henv hloads hlevel

theorem lint_of_disabled :
    lint { s with environment := env, network := network } i = lint s i := by
  rw [lint_eq, lint_eq, load_of_agreeBut henv, Run.bind_of_ok hloads, Run.bind_of_ok hloads]
  simp only [Linter.ofSettings_of_disabled hlevel]
  rfl

theorem Ready.of_disabled {verbose log : List Observer} {l : Linter}
    {commits : List (Option Text × Message)} (h : Ready s i settings verbose log l commits) :
    Ready { s with environment := env, network := network } i settings verbose log l commits where
  loads := by rw [load_of_agreeBut henv, hloads]
  tells := h.tells
  keepsLog := h.keepsLog
  setsUp := by
    have hl := h.setsUp
    rw [Linter.ofSettings_of_disabled hlevel] at hl ⊢
    exact hl
  gathers := h.gathers

theorem completes_of_disabled {reports : List Report} (h : Completes s i reports) :
    Completes { s with environment := env, network := network } i reports := by
  obtain ⟨settings', verbose, log, l, commits, hready, hlinted⟩ := h
  obtain rfl := Except.ok.inj (hloads.symm.trans hready.loads)
  exact ⟨_, verbose, log, l, commits, hready.of_disabled henv hloads hlevel, hlinted⟩

/-- The reports do not depend on the context and the network. -/
theorem completes_iff_of_disabled {reports : List Report} :
    Completes { s with environment := env, network := network } i reports ↔
      Completes s i reports := by
  refine ⟨fun h => ?_, completes_of_disabled henv hloads hlevel⟩
  have hloads' : ({ s with environment := env, network := network }.load i.path).outcome =
      .ok settings := by rw [load_of_agreeBut henv, hloads]
  have hback : Completes
      { { s with environment := env, network := network } with
        environment := s.environment, network := s.network } i reports :=
    completes_of_disabled henv.symm hloads' hlevel h
  exact hback

/-- The whole run does not depend on the context and the network. -/
theorem run_of_disabled (hreads : Request.read s.files words = .ok (.work i)) (hlints : i.Lints) :
    run { s with environment := env, network := network } words = run s words := by
  have hperform : perform { s with environment := env, network := network } i = perform s i := by
    rw [hlints.perform_eq, hlints.perform_eq, lint_of_disabled henv hloads hlevel]
  rw [run, run, hreads]
  show carryOut _ i = carryOut s i
  rw [carryOut, carryOut, hperform]

end Disabled

/-- Linting asks no server if the rule of the issue reference is disabled. -/
theorem isOffline_lint_of_disabled (hloads : (s.load i.path).outcome = .ok settings)
    (hlevel : settings.levelOf IssueReference.name = .disabled) : (lint s i).IsOffline := by
  rw [lint_eq]
  refine (Settings.isOffline_load _ _ _).bind_of_ok fun settings' hsettings => ?_
  obtain rfl := Except.ok.inj (hloads.symm.trans hsettings)
  refine (isOffline_verboseObserver s i).bind_of_ok fun verbose hverbose => ?_
  refine (isOffline_logObserver s i settings).bind_of_ok fun log hlog => ?_
  rw [Linter.ofSettings_of_disabled hlevel, Run.bind_ofExcept_ok]
  refine (isOffline_gather s i).bind fun commits => isOffline_lintAll i fun c _ => ?_
  refine Linter.isOffline_lint_header settings (fun o ho => ?_) c.2 c.1
  exact (List.mem_append.1 ho).elim (isOffline_tell_verboseObserver hverbose o)
    (isOffline_tell_logObserver hlog o)

theorem isOffline_run_of_disabled (hreads : Request.read s.files words = .ok (.work i))
    (hlints : i.Lints) (hloads : (s.load i.path).outcome = .ok settings)
    (hlevel : settings.levelOf IssueReference.name = .disabled) : (run s words).IsOffline := by
  rw [run, hreads]
  show Run.IsOffline (carryOut s i)
  unfold carryOut
  rw [hlints.perform_eq]
  refine Run.IsOffline.bind (isOffline_lint_of_disabled hloads hlevel) fun outcome => ?_
  split
  · exact Run.isOffline_nil _
  · exact isOffline_report _

/-! ## Without a context -/

/-- The report of a failure of the environment is one line. -/
theorem report_of_isConfiguration {e : Failure} (h : e.isConfiguration = true) :
    ∃ line, endless.output (failureLine e) = .ok line ∧
      report e = ⟨[.printed line], .ok undone⟩ := by
  obtain ⟨line, hline⟩ := (renders_failureLine e).output
  have hexpected : e.isExpected = true := by
    cases e <;> first | rfl | exact h
  have hstop : e ≠ .interrupted := by
    rintro rfl
    cases h
  refine ⟨line, hline, ?_⟩
  rw [report_eq hstop, Console.print_of_output hline, hexpected]
  rfl

section Unnamed

variable {e : Failure}

-- the rule needs a context that the environment does not have, and no one else is told
variable (hloads : (s.load i.path).outcome = .ok settings)
  (hlevel : settings.levelOf IssueReference.name ≠ .disabled)
  (hcontext : RepositoryContext.ofEnvironment s.environment = .error e)
  (hquiet : i.verbose = false) (hlogless : (logPath s i settings).outcome = .ok none)
include hloads hlevel hcontext hquiet hlogless

/-- Linting stops before the commits are gathered. -/
theorem lint_of_unnamed :
    lint s i = ⟨(s.load i.path).trace ++ (logPath s i settings).trace, .error e⟩ := by
  have hlinter : Linter.ofSettings s.environment s.network settings none none [] = .error e :=
    Linter.ofSettings_eq_error_iff.2 ⟨hlevel, hcontext⟩
  rw [lint_eq, Run.bind_of_ok hloads, verboseObserver_of_quiet hquiet, Run.bind_ok,
    logObserver_of_logless hlogless, Run.bind_ok, List.append_nil, hlinter]
  show (⟨_ ++ ([] ++ (_ ++ [])), .error e⟩ : Run Nat) = _
  rw [List.append_nil]
  rfl

theorem stops_of_unnamed : Stops s i e := by
  have hlint := lint_of_unnamed hloads hlevel hcontext hquiet hlogless
  exact lint_eq_error_iff.1 (congrArg Run.outcome hlint)

/-- All that is printed after the warnings of the settings is the line of the failure. -/
theorem run_of_unnamed (hreads : Request.read s.files words = .ok (.work i)) (hlints : i.Lints) :
    ∃ line, endless.output (failureLine e) = .ok line ∧
      run s words = ⟨(s.load i.path).trace ++ (logPath s i settings).trace ++ [.printed line],
        .ok undone⟩ := by
  obtain ⟨line, hline, hreport⟩ :=
    report_of_isConfiguration (RepositoryContext.isConfiguration_of_ofEnvironment hcontext)
  refine ⟨line, hline, ?_⟩
  rw [run, hreads]
  show carryOut s i = _
  rw [carryOut, hlints.perform_eq, lint_of_unnamed hloads hlevel hcontext hquiet hlogless]
  show (⟨_ ++ (report e).trace, (report e).outcome⟩ : Run Nat) = _
  rw [hreport]
  rfl

end Unnamed

/-- Only the rule of the issue reference uses the repository, the token and the network.  Let a
command line ask for linting, and let the settings of the folder be loaded.  If the rule is
disabled there, no request is sent, and the whole run, with all that is printed and logged, the
reports and the status, is the same in any environment that differs in the repository and the
token, and with any network.  If it is enabled and the environment has no context, then without
more to tell and without a log the run prints why and has status 2.  Nothing else happens but the
warnings of the settings: no commit is read or linted, no request is sent and no report is
printed, whatever the commits are. -/
theorem run_uses_context_only_if_enabled (hreads : Request.read s.files words = .ok (.work i))
    (hlints : i.Lints) (hloads : (s.load i.path).outcome = .ok settings) :
    (settings.levelOf IssueReference.name = .disabled →
      (run s words).IsOffline ∧
      ∀ env network, Environment.AgreeBut trackerVariables env s.environment →
        run { s with environment := env, network := network } words = run s words ∧
        ∀ reports, Completes { s with environment := env, network := network } i reports ↔
          Completes s i reports) ∧
    ∀ e, settings.levelOf IssueReference.name ≠ .disabled →
      RepositoryContext.ofEnvironment s.environment = .error e → i.verbose = false →
      (logPath s i settings).outcome = .ok none →
      e.isConfiguration = true ∧ Stops s i e ∧ (run s words).OnlyPrints ∧
      ∃ line, endless.output (failureLine e) = .ok line ∧
        run s words = ⟨(s.load i.path).trace ++ (logPath s i settings).trace ++ [.printed line],
          .ok 2⟩ := by
  refine ⟨fun hlevel => ⟨isOffline_run_of_disabled hreads hlints hloads hlevel,
    fun env network henv => ⟨run_of_disabled henv hloads hlevel hreads hlints,
      fun reports => completes_iff_of_disabled henv hloads hlevel⟩⟩, ?_⟩
  intro e hlevel hcontext hquiet hlogless
  obtain ⟨line, hline, hrun⟩ :=
    run_of_unnamed hloads hlevel hcontext hquiet hlogless hreads hlints
  refine ⟨RepositoryContext.isConfiguration_of_ofEnvironment hcontext,
    stops_of_unnamed hloads hlevel hcontext hquiet hlogless, ?_, line, hline, hrun⟩
  rw [hrun]
  refine List.forall_mem_append.2 ⟨List.forall_mem_append.2 ⟨?_, ?_⟩, ?_⟩
  · exact Settings.onlyPrints_load _ _ _
  · exact onlyPrints_logPath s i settings
  · exact List.forall_mem_singleton.2 ⟨line, rfl⟩

/-- A folder whose settings disable the rule of the issue reference, and no context. -/
def relaxed : Surroundings where
  files := ⟨["repo"], [(["repo", Settings.fileName],
    .file (.text "[gitcommitlint.rules]\nissue-reference = 0\n"))]⟩
  environment := []
  network _ := .failure .connect "refused"
  repository := none
  installation := default
  now := default

/-- The same folder without a file of settings. -/
def strict : Surroundings := { relaxed with files := ⟨["repo"], []⟩ }

/-- The words of a command line with a message that cites an issue. -/
def citingWords : List Text := ["--message", "fix: a\n\nIssue #5"]

/-- The invocation that the words ask for. -/
def citingInvocation : Invocation := .ofGiven ⟨[(.message, "fix: a\n\nIssue #5")], []⟩

theorem run_uses_context_only_if_enabled_citing :
    (run relaxed citingWords).IsOffline ∧
      run { relaxed with
        environment := [("GITHUB_TOKEN", "secret")]
        network := fun _ => .response 200 none [] } citingWords = run relaxed citingWords ∧
    (run strict citingWords).OnlyPrints ∧ (run strict citingWords).outcome = .ok 2 := by
  have hlints : citingInvocation.Lints := ⟨rfl, rfl, rfl, rfl⟩
  have hrelaxed : (relaxed.load citingInvocation.path).outcome =
      .ok { Settings.default with rules := ⟨.error, .disabled⟩ } := by decide +kernel
  have hagree : Environment.AgreeBut trackerVariables [("GITHUB_TOKEN", "secret")] [] :=
    Environment.agreeBut_cons (by decide) _ _
  have hreads : Request.read relaxed.files citingWords = .ok (.work citingInvocation) := rfl
  have hreads' : Request.read strict.files citingWords = .ok (.work citingInvocation) := rfl
  obtain ⟨hoffline, hsame⟩ := (run_uses_context_only_if_enabled hreads hlints hrelaxed).1 rfl
  obtain ⟨-, -, hprints, line, -, hrun⟩ :=
    (run_uses_context_only_if_enabled hreads' hlints rfl).2 .repositoryUnset (by decide) rfl rfl
      rfl
  exact ⟨hoffline, (hsame _ _ hagree).1, hprints, congrArg Run.outcome hrun⟩

end CommitCheck.Cli
