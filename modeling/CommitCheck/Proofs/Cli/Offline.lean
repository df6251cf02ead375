import CommitCheck.Proofs.Cli.Stages
import CommitCheck.Proofs.Linter.Lint
import CommitCheck.Proofs.Settings.Load

/-!
# What asks no server

Only questions about issues go to a server.  Loading the settings, looking for the path of
the log and gathering the commits send no request, and neither do the observers of the command
line, the reports that are shown, and the report of a failure.

So linting sends a request only for the rule of the issue reference (`isOffline_lint_header`,
`isOffline_lintAll`).
-/

namespace CommitCheck

/-- Loading settings asks no server. -/
theorem Settings.isOffline_load (env : Environment) (path : Text) (entry : Option Entry) :
    (Settings.load env path entry).IsOffline := (Settings.onlyPrints_load env path entry).isOffline

/-! ## The console -/

theorem Console.onlyPrints_print (c : Console) (t : Text) : (c.print t).OnlyPrints :=
  Run.OnlyPrints.bind (Run.onlyPrints_nil _) fun _ => List.forall_mem_singleton.2 ⟨_, rfl⟩

theorem Report.onlyPrints_printProblem (c : Console) (style : Text) (sign : Char) (o : Outcome) :
    (printProblem c style sign o).OnlyPrints :=
  Run.OnlyPrints.bind (Run.onlyPrints_nil _) fun _ => c.onlyPrints_print _

/-- Showing a report does nothing but print. -/
theorem Report.onlyPrints_print (c : Console) (r : Report) : (r.print c).OnlyPrints := by
  unfold print
  refine Run.OnlyPrints.bind (c.onlyPrints_print _) fun _ => ?_
  refine Run.OnlyPrints.bind (Run.onlyPrints_each fun o _ => onlyPrints_printProblem c _ _ o)
    fun _ => ?_
  refine Run.OnlyPrints.bind (Run.onlyPrints_each fun o _ => onlyPrints_printProblem c _ _ o)
    fun _ => ?_
  exact c.onlyPrints_print _

/-! ## Observers -/

namespace Observer

theorem isOffline_tell_onConsole (c : Console) (n : Notice) : ((onConsole c).tell n).IsOffline :=
  (c.onlyPrints_print _).isOffline

theorem isOffline_keepRecord (fs : Files) (now : Moment) (path : Path) (n : Notice) :
    (keepRecord fs now path n).IsOffline := by
  unfold keepRecord
  split
  · exact Run.isOffline_nil _
  · split
    · exact Run.isOffline_nil _
    · exact Run.isOffline_record nofun

theorem isOffline_inLog (fs : Files) (now : Moment) (path : Path) :
    (inLog fs now path).IsOffline := by
  unfold inLog
  split
  · exact Run.isOffline_nil _
  · exact Run.isOffline_nil _
  · exact Run.IsOffline.bind (Run.isOffline_record nofun) fun _ => Run.isOffline_nil _

/-- The observer that keeps a log asks no server. -/
theorem isOffline_tell_inLog {fs : Files} {now : Moment} {path : Path} {o : Observer}
    (h : (inLog fs now path).outcome = .ok o) (n : Notice) : (o.tell n).IsOffline := by
  unfold inLog at h
  split at h
  · cases h
  · cases h
  · obtain rfl := Except.ok.inj h
    exact isOffline_keepRecord _ now path n

end Observer

/-! ## One commit -/

/-- Without the rule of the issue reference nothing is asked, as long as the observers do not. -/
theorem Linter.isOffline_lint_header (s : Settings) {observers : List Observer}
    (h : ∀ o ∈ observers, ∀ n, (o.tell n).IsOffline) (m : Message) (sha : Option Text) :
    (lint ⟨[headerRegistration s], observers⟩ m sha).IsOffline := by
  have houtcomes : outcomes m [headerRegistration s] = ⟨[], .ok (headerOutcomes s m)⟩ := by
    rw [outcomes_header]
    show (⟨[], .ok (headerOutcomes s m ++ [])⟩ : Run _) = _
    rw [List.append_nil]
  rw [lint_eq, houtcomes]
  refine Run.IsOffline.bind (Run.isOffline_nil _) fun os => ?_
  exact Run.IsOffline.bind (Run.isOffline_each fun o ho => h o ho _) fun _ => Run.isOffline_nil _

namespace Cli

open Console (endless)

/-! ## The stages of linting -/

theorem isOffline_verboseObserver (s : Surroundings) (i : Invocation) :
    (verboseObserver s i).IsOffline := by
  unfold verboseObserver
  split
  · exact Run.IsOffline.bind (endless.onlyPrints_print _).isOffline fun _ => Run.isOffline_nil _
  · exact Run.isOffline_nil _

theorem isOffline_tell_verboseObserver {s : Surroundings} {i : Invocation} {os : List Observer}
    (h : (verboseObserver s i).outcome = .ok os) : ∀ o ∈ os, ∀ n, (o.tell n).IsOffline := by
  unfold verboseObserver at h
  split at h
  · obtain ⟨-, -, h⟩ := Run.bind_eq_ok_iff.1 h
    obtain rfl := Except.ok.inj h
    exact List.forall_mem_singleton.2 (Observer.isOffline_tell_onConsole endless)
  · obtain rfl := Except.ok.inj h
    exact List.forall_mem_nil _

theorem onlyPrints_logPath (s : Surroundings) (i : Invocation) (settings : Settings) :
    (logPath s i settings).OnlyPrints := by
  unfold logPath
  split
  · exact Run.onlyPrints_nil _
  · exact settings.onlyPrints_logPath s.now

theorem isOffline_logPath (s : Surroundings) (i : Invocation) (settings : Settings) :
    (logPath s i settings).IsOffline := (onlyPrints_logPath s i settings).isOffline

theorem isOffline_logObserver (s : Surroundings) (i : Invocation) (settings : Settings) :
    (logObserver s i settings).IsOffline := by
  unfold logObserver
  refine (isOffline_logPath s i settings).bind fun path => ?_
  split
  · exact Run.isOffline_nil _
  · exact (Observer.isOffline_inLog _ _ _).bind fun _ => Run.isOffline_nil _

theorem isOffline_tell_logObserver {s : Surroundings} {i : Invocation} {settings : Settings}
    {os : List Observer} (h : (logObserver s i settings).outcome = .ok os) :
    ∀ o ∈ os, ∀ n, (o.tell n).IsOffline := by
  unfold logObserver at h
  obtain ⟨path, -, h⟩ := Run.bind_eq_ok_iff.1 h
  split at h
  · obtain rfl := Except.ok.inj h
    exact List.forall_mem_nil _
  · obtain ⟨o, ho, h⟩ := Run.bind_eq_ok_iff.1 h
    obtain rfl := Except.ok.inj h
    exact List.forall_mem_singleton.2 (Observer.isOffline_tell_inLog ho)

/-- Gathering commits asks no server. -/
theorem isOffline_gather (s : Surroundings) (i : Invocation) : (gather s i).IsOffline := by
  unfold gather
  split
  · exact Run.IsOffline.bind (Run.isOffline_nil _) fun _ => Run.isOffline_nil _
  · exact Run.isOffline_nil _
  · unfold Repository.read
    split
    · exact Run.isOffline_nil _
    · exact Run.IsOffline.bind (Run.isOffline_record nofun) fun _ =>
        Run.IsOffline.bind (Run.isOffline_nil _) fun _ => Run.isOffline_nil _

theorem onlyPrints_showReports (reports : List Report) : (showReports reports).OnlyPrints :=
  Run.onlyPrints_each fun r _ => r.onlyPrints_print endless

/-- The last stage asks no server unless linting a commit does. -/
theorem isOffline_lintAll (i : Invocation) {l : Linter} {commits : List (Option Text × Message)}
    (h : ∀ c ∈ commits, (l.lint c.2 c.1).IsOffline) : (lintAll i l commits).IsOffline := by
  unfold lintAll
  split
  · exact Run.IsOffline.bind (endless.onlyPrints_print _).isOffline fun _ => Run.isOffline_nil _
  · have hmany : (l.lintMany commits).IsOffline :=
      Run.isOffline_settleAll (List.forall_mem_map.2 h)
    unfold lintCommits
    refine hmany.bind fun reports => ?_
    refine (onlyPrints_showReports reports).isOffline.bind fun _ => ?_
    split
    · exact Run.IsOffline.bind (endless.onlyPrints_print _).isOffline fun _ => Run.isOffline_nil _
    · exact Run.isOffline_nil _

theorem isOffline_report (e : Failure) : (report e).IsOffline := by
  unfold report
  split
  · exact Run.IsOffline.bind (endless.onlyPrints_print _).isOffline fun _ => Run.isOffline_nil _
  · refine Run.IsOffline.bind (endless.onlyPrints_print _).isOffline fun _ => ?_
    split
    · exact Run.isOffline_nil _
    · exact Run.IsOffline.bind (Run.isOffline_record nofun) fun _ => Run.isOffline_nil _

end Cli

end CommitCheck
