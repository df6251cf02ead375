import CommitCheck.Proofs.Cli.Stages
import CommitCheck.Proofs.Commit.Search
import CommitCheck.Proofs.Context
import CommitCheck.Proofs.Linter.Lint

/-!
# The tags of printed texts

A text of a commit can hold anything that the console reads as a tag, or that could spoil one.
The lines that the program makes of such a text hold the tags of the line alone: none at all
(`HasNoTag`), or those of one style around the rest (`IsFramed`).  In a frame the closing tag is
the delicate one.  It must not be closed by a bracket that the text leaves open, nor turned into
text by backslashes at the end of it, and it is not because something stands between the two.

Texts of either form can be shown on every console, whatever its width (`Renders.print`).
`PrintsLines` says that a run does no more than that, line after line.

The line about a request is the only one with texts that are not escaped.  They cannot spoil it,
since the name of a repository and the number of an issue have steady characters alone.
-/

namespace CommitCheck

/-- A run that prints some lines and does nothing else, and succeeds. -/
def Run.PrintsLines (count : Nat) (r : Run Unit) : Prop :=
  ∃ shown : List Text, shown.length = count ∧ r = ⟨shown.map .printed, .ok ()⟩

namespace Run.PrintsLines

theorem bind {r next : Run Unit} {n m : Nat} (hr : PrintsLines n r) (hnext : PrintsLines m next) :
    PrintsLines (n + m) (r >>= fun _ => next) := by
  obtain ⟨shown, hshown, rfl⟩ := hr
  obtain ⟨more, hmore, rfl⟩ := hnext
  refine ⟨shown ++ more, by rw [List.length_append, hshown, hmore], ?_⟩
  rw [Run.bind_ok, List.map_append]

theorem each {α : Type} {f : α → Run Unit} {as : List α} (h : ∀ a ∈ as, PrintsLines 1 (f a)) :
    PrintsLines as.length (Run.each f as) := by
  induction as with
  | nil => exact ⟨[], rfl, rfl⟩
  | cons a as ih =>
    rw [Run.each_cons, List.length_cons, Nat.add_comm]
    exact (h a List.mem_cons_self).bind (ih fun b hb => h b (List.mem_cons_of_mem a hb))

end Run.PrintsLines

namespace Console

/-- A text with no garbled style is one line of every console. -/
theorem Renders.print {t : Text} (h : Renders t) (c : Console) :
    (c.print t).PrintsLines 1 := by
  obtain ⟨text, ht⟩ := h
  refine ⟨[ofLines (c.linesFor text) ++ ['\n']], rfl, ?_⟩
  unfold Console.print Console.output
  rw [ht]
  rfl

/-! ## Lines with the tags of the program alone -/

/-- A text in which the console finds no tag. -/
def HasNoTag (t : Text) : Prop := ∀ p ∈ scan t, p.IsShown

/-- A text in which the console finds the two tags of a style and no other one, the first at the
start and the second in front of some characters at the end. -/
def IsFramed (style rest t : Text) : Prop :=
  ∃ inner, (∀ p ∈ inner, p.IsShown) ∧
    scan t = .tag style :: (inner ++ .tag ('/' :: style) :: rest.map .char)

theorem isStyle_dim : IsStyle "dim" :=
  ⟨by decide +kernel, by decide +kernel, by decide, by decide, by decide⟩

theorem IsFramed.renders {style rest t : Text} (h : IsFramed style rest t)
    (hstyle : IsStyle style) : Renders t := by
  obtain ⟨inner, hinner, hscan⟩ := h
  exact hstyle.renders hinner (fun p hp => isShown_of_mem_map_char hp) (.inr hscan)

/-- Text without brackets and backslashes stays in its frame. -/
theorem isFramed_of_not_mem {style t rest : Text} (h : IsStyle style) (hopen : '[' ∉ t)
    (hslash : '\\' ∉ t) (hrest : '[' ∉ rest) : IsFramed style rest (inStyle style t ++ rest) :=
  ⟨t.map .char, fun _ hp => isShown_of_mem_map_char hp, by
    rw [scan_inStyle_append h hopen hslash, scan_of_not_mem hrest]⟩

theorem opensFirst_append {t rest : Text} (h : ']' ∉ t) (hrest : OpensFirst rest) :
    OpensFirst (t ++ rest) := by
  induction t with
  | nil => exact hrest
  | cons c cs ih =>
    rw [List.mem_cons, not_or] at h
    exact (ih h.2).cons (Ne.symm h.1)

/-- Escaped text between plain texts stays in its frame, if there is a character behind it that
parts it from the closing tag. -/
theorem isFramed_escape {style start stop : Text} {c : Char} (h : IsStyle style)
    (hstart : '[' ∉ start ∧ '\\' ∉ start)
    (hstop : '[' ∉ c :: stop ∧ '\\' ∉ c :: stop ∧ ']' ∉ c :: stop) (t : Text) :
    IsFramed style [] (inStyle style (start ++ escape t ++ c :: stop)) := by
  obtain ⟨hopen, hslash, hclose⟩ := hstop
  have hopens : OpensFirst ((c :: stop) ++ tagged 0 ('/' :: style) []) :=
    opensFirst_append hclose (opensFirst_open _)
  have hnone : tagAt? ((c :: stop) ++ tagged 0 ('/' :: style) []) = none :=
    tagAt?_cons (fun hc => hslash (hc ▸ List.mem_cons_self))
      fun hc => hopen (hc ▸ List.mem_cons_self)
  refine ⟨start.map .char ++ escapedPieces t ++ (c :: stop).map .char, fun p hp => ?_, ?_⟩
  · rcases List.mem_append.1 hp with hp | hp
    · rcases List.mem_append.1 hp with hp | hp
      · exact isShown_of_mem_map_char hp
      · exact isShown_of_mem_escapedPieces p hp
    · exact isShown_of_mem_map_char hp
  · rw [scan_inStyle h, List.append_assoc, List.append_assoc,
      scan_append_of_not_mem hstart.1 hstart.2, scan_escape_of_none hopens hnone,
      scan_append_of_not_mem hopen hslash, scan_tagged h.closes]
    simp [scanAfter, piecesOf]

/-- Two escaped texts stay in their frame, the second in brackets. -/
theorem isFramed_texts {style start : Text} (h : IsStyle style) (hopen : '[' ∉ start)
    (hslash : '\\' ∉ start) (message rule : Text) :
    IsFramed style [] (inStyle style
      (start ++ ' ' :: escape message ++ ' ' :: escape ('[' :: rule ++ [']']))) := by
  refine ⟨_, fun p hp => ?_, scan_inStyle_texts h hopen hslash message rule⟩
  simp only [List.mem_append, List.mem_cons] at hp
  rcases hp with hp | rfl | hp | rfl | hp
  · exact isShown_of_mem_map_char hp
  · trivial
  · exact isShown_of_mem_escapedPieces p hp
  · trivial
  · exact isShown_of_mem_escapedPieces p hp

end Console

open Console

/-! ## Reports -/

namespace Report

variable {r : Report}

/-- Every failure that a report has a line for is explained. -/
def IsExplained (r : Report) : Prop := ∀ o ∈ r.errors ++ r.warnings, o.message ≠ none

instance (r : Report) : Decidable r.IsExplained :=
  inferInstanceAs (Decidable (∀ o ∈ r.errors ++ r.warnings, o.message ≠ none))

/-- The style of the gravest problem. -/
def gravestStyle (r : Report) : Text :=
  if !r.errors.isEmpty then "red" else if !r.warnings.isEmpty then "yellow" else "green"

theorem isStyle_gravestStyle (r : Report) : IsStyle r.gravestStyle := by
  unfold gravestStyle
  split
  · exact isStyle_red
  · split
    · exact isStyle_yellow
    · exact isStyle_green

theorem hasNoTag_titleLine (r : Report) : HasNoTag r.titleLine := by
  unfold HasNoTag titleLine
  dsimp only
  rw [scan_start_escape (by decide) (by decide)]
  exact List.forall_mem_append.2
    ⟨fun _ hp => isShown_of_mem_map_char hp, isShown_of_mem_escapedPieces⟩

/-- The line of a problem that is explained. -/
theorem exists_problemLine {style : Text} {sign : Char} {o : Outcome} (h : IsStyle style)
    (hsign : isSteady sign = true) (ho : o.message ≠ none) :
    ∃ line, problemLine style sign o = .ok line ∧ IsFramed style [] line := by
  obtain ⟨m, hm⟩ := Option.ne_none_iff_exists'.1 ho
  have hstart : (sign :: "  ".toList).all isSteady = true := by
    rw [List.all_cons, hsign]
    decide
  obtain ⟨hopen, hslash, -⟩ := not_mem_of_all_isSteady hstart
  refine ⟨_, by rw [problemLine, hm], ?_⟩
  exact isFramed_texts h hopen hslash m o.rule

theorem printsLines_printProblem (c : Console) {style : Text} {sign : Char} {o : Outcome}
    (h : IsStyle style) (hsign : isSteady sign = true) (ho : o.message ≠ none) :
    (printProblem c style sign o).PrintsLines 1 := by
  obtain ⟨line, hline, hframed⟩ := exists_problemLine h hsign ho
  unfold printProblem
  rw [hline, Run.bind_ofExcept_ok]
  exact (hframed.renders h).print c

theorem isFramed_summaryLine (r : Report) : IsFramed r.gravestStyle ['\n'] r.summaryLine := by
  have hframed : ∀ {style : Text} {sign : Char}, IsStyle style → isSteady sign = true →
      IsFramed style ['\n'] (inStyle style (sign :: "   ".toList ++ r.counts) ++ ['\n']) := by
    intro style sign h hsign
    have hstart : (sign :: "   ".toList).all isSteady = true := by
      rw [List.all_cons, hsign]
      decide
    have hcounts : r.counts.all isSteady = true :=
      isSteady_append (isSteady_append (isSteady_append (isSteady_append (by decide)
        (isSteady_natText _)) (by decide)) (isSteady_natText _)) (by decide)
    obtain ⟨hopen, hslash, -⟩ := not_mem_of_all_isSteady (isSteady_append hstart hcounts)
    exact isFramed_of_not_mem h hopen hslash (by decide)
  unfold summaryLine gravestStyle
  split
  · exact hframed isStyle_red (by decide)
  · split
    · exact hframed isStyle_yellow (by decide)
    · exact hframed isStyle_green (by decide)

/-- A report that is explained is shown on every console: its title, a line for each error and
each warning, and the counts. -/
theorem IsExplained.print (h : r.IsExplained) (c : Console) :
    (r.print c).PrintsLines (1 + (r.errors.length + (r.warnings.length + 1))) := by
  have htitle : (c.print r.titleLine).PrintsLines 1 :=
    (renders_of_isShown (hasNoTag_titleLine r)).print c
  have herrors : (Run.each (printProblem c "red" '✖') r.errors).PrintsLines r.errors.length :=
    .each fun o ho => printsLines_printProblem c isStyle_red (by decide)
      (h o (List.mem_append_left _ ho))
  have hwarnings :
      (Run.each (printProblem c "yellow" '⚠') r.warnings).PrintsLines r.warnings.length :=
    .each fun o ho => printsLines_printProblem c isStyle_yellow (by decide)
      (h o (List.mem_append_right _ ho))
  have hsummary : (c.print r.summaryLine).PrintsLines 1 :=
    ((isFramed_summaryLine r).renders (isStyle_gravestStyle r)).print c
  exact htitle.bind (herrors.bind (hwarnings.bind hsummary))

end Report

/-- An outcome that is a verdict's has a message if it is a failure. -/
theorem Linter.message_ne_none_of_outcomes {m : Message} {rs : List Registration}
    {os : List Outcome} (h : (outcomes m rs).outcome = .ok os) :
    ∀ o ∈ os, o.valid = false → o.message ≠ none := by
  induction rs generalizing os with
  | nil =>
    obtain rfl := Except.ok.inj h
    exact List.forall_mem_nil _
  | cons r rs ih =>
    unfold outcomes at h
    split at h
    · exact ih h
    · obtain ⟨v, -, hrest⟩ := Run.bind_eq_ok_iff.1 h
      obtain ⟨more, hmore, hpure⟩ := Run.bind_eq_ok_iff.1 hrest
      obtain rfl := Except.ok.inj hpure
      refine List.forall_mem_cons.2 ⟨fun hvalid => ?_, ih hmore⟩
      obtain ⟨t, ht, -⟩ := v.exists_message hvalid
      exact Option.ne_none_iff_exists'.2 ⟨t, ht⟩

/-- Whatever its rules are, a linter explains every failure that it reports. -/
theorem Linter.isExplained_of_lint {l : Linter} {m : Message} {sha : Option Text} {r : Report}
    (h : (l.lint m sha).outcome = .ok r) : r.IsExplained := by
  obtain ⟨-, -, hos⟩ := outcomes_of_lint h
  have hmessage := message_ne_none_of_outcomes hos
  intro o ho
  rcases List.mem_append.1 ho with ho | ho
  · obtain ⟨hmem, herror⟩ := List.mem_filter.1 ho
    exact hmessage o hmem (Outcome.isError_iff.1 herror).1
  · obtain ⟨hmem, hwarning⟩ := List.mem_filter.1 ho
    exact hmessage o hmem (Outcome.isWarning_iff.1 hwarning).1

/-! ## Notices -/

namespace Observer

theorem isFramed_linted (r : Report) : IsFramed "dim" [] (consoleLine (.linted r)) := by
  have hframed : ∀ stop : Text, '[' ∉ '\'' :: stop ∧ '\\' ∉ '\'' :: stop ∧ ']' ∉ '\'' :: stop →
      IsFramed "dim" [] (inStyle "dim"
        ("Linted '".toList ++ Console.escape r.commit.header ++ '\'' :: stop)) := fun stop hstop =>
    isFramed_escape isStyle_dim (by decide) hstop r.commit.header
  dsimp only [consoleLine]
  cases r.valid with
  | true => exact hframed ": passed" (by decide)
  | false => exact hframed ": failed" (by decide)

/-- What is said about a request. -/
def requestText (repository issue : Text) (status : Nat) : Text :=
  "GET ".toList ++ repository ++ " issue #".toList ++ issue ++ " -> ".toList ++ natText status

end Observer

/-- A character that can be in a name is shown as it is. -/
theorem RepositoryContext.isSteady_of_isNameChar {c : Char} (h : isNameChar c = true) :
    isSteady c = true := by
  by_cases hc : c.toNat < 128
  · exact of_ascii (P := fun c => isNameChar c = true → isSteady c = true) (by decide +kernel) hc h
  · have hne : ∀ d : Char, d.toNat < 128 → c ≠ d := by
      rintro d hd rfl
      exact hc hd
    have hloud : isSilent c = false := by
      simp [isSilent]
      omega
    simp [isSteady, isPlainChar, hloud, hne '[' (by decide), hne '\\' (by decide),
      hne '\t' (by decide), hne ':' (by decide)]

/-- The repository of a context has such characters alone. -/
theorem RepositoryContext.isSteady_repository {env : Environment} {context : RepositoryContext}
    (h : ofEnvironment env = .ok context) : context.repository.all isSteady = true := by
  have hname : ∀ {t : Text}, IsName t → t.all isSteady = true := fun ht =>
    List.all_eq_true.2 fun c hc => isSteady_of_isNameChar (ht.chars c hc)
  obtain ⟨owner, name, heq, howner, hrest⟩ := isRepository_of_ofEnvironment h
  rw [heq, ← List.singleton_append]
  exact isSteady_append (hname howner) (isSteady_append (by decide) (hname hrest))

/-- So does what a message refers to. -/
theorem Reference.isSteady_of_first? {m : Message} {places : List Place} {ref : Reference}
    (h : first? m places = some ref) : ref.id.all isSteady = true := by
  obtain ⟨place, -, hfound⟩ := List.exists_of_findSome?_eq_some h
  rcases (isNumber_or_nil_of_find? hfound).1 with hid | hid
  · rw [hid]
    decide
  · exact isSteady_of_isNumber hid

theorem Observer.isSteady_requestText {repository issue : Text}
    (hr : repository.all isSteady = true) (hi : issue.all isSteady = true) (status : Nat) :
    (requestText repository issue status).all isSteady = true :=
  isSteady_append (isSteady_append (isSteady_append (isSteady_append (isSteady_append (by decide)
    hr) (by decide)) hi) (by decide)) (Report.isSteady_natText status)

/-- No text of a commit adds a tag to what is printed, takes one away, or stops the printing.

A report that is explained, as every one is that a linter comes to, is printed on every console,
one line after another: the first one has no tag, that of an error or of a warning has the two
tags of its style around the rest, and that of the counts too.  The line of a linted commit is
printed for every report, with two tags around the rest.  Every failure is printed, whatever its
wording.  The line about a request is printed for each repository that an environment names and
each issue that a message refers to, whatever the places where references are looked for, and the
console that breaks no lines shows it as it is. -/
theorem texts_make_no_tags (c : Console) :
    (∀ (l : Linter) (m : Message) (sha : Option Text) (r : Report),
      (l.lint m sha).outcome = .ok r → r.IsExplained) ∧
    (∀ r : Report, r.IsExplained →
      (r.print c).PrintsLines (1 + (r.errors.length + (r.warnings.length + 1))) ∧
      HasNoTag r.titleLine ∧
      (∀ o ∈ r.errors, ∃ line, Report.problemLine "red" '✖' o = .ok line ∧
        IsFramed "red" [] line) ∧
      (∀ o ∈ r.warnings, ∃ line, Report.problemLine "yellow" '⚠' o = .ok line ∧
        IsFramed "yellow" [] line) ∧
      IsFramed r.gravestStyle ['\n'] r.summaryLine) ∧
    (∀ r : Report, ((Observer.onConsole c).tell (.linted r)).PrintsLines 1 ∧
      IsFramed "dim" [] (Observer.consoleLine (.linted r))) ∧
    (∀ e : Failure, (c.print (Cli.failureLine e)).PrintsLines 1) ∧
    ∀ (env : Environment) (context : RepositoryContext) (m : Message) (places : List Place)
      (ref : Reference) (status : Nat), RepositoryContext.ofEnvironment env = .ok context →
      Reference.first? m places = some ref →
      ((Observer.onConsole c).tell (.lookedUp context.repository ref.id status)).PrintsLines 1 ∧
      (Observer.onConsole endless).tell (.lookedUp context.repository ref.id status) =
        ⟨[.printed (Observer.requestText context.repository ref.id status ++ ['\n'])], .ok ()⟩ := by
  refine ⟨fun l m sha r h => Linter.isExplained_of_lint h, fun r h => ?_, fun r => ?_, fun e => ?_,
    fun env context m places ref status hcontext href => ?_⟩
  · refine ⟨h.print c, Report.hasNoTag_titleLine r, fun o ho => ?_, fun o ho => ?_,
      Report.isFramed_summaryLine r⟩
    · exact Report.exists_problemLine isStyle_red (by decide) (h o (List.mem_append_left _ ho))
    · exact Report.exists_problemLine isStyle_yellow (by decide) (h o (List.mem_append_right _ ho))
  · have hframed := Observer.isFramed_linted r
    exact ⟨(hframed.renders isStyle_dim).print c, hframed⟩
  · exact (Cli.renders_failureLine e).print c
  · have hsteady := Observer.isSteady_requestText
      (RepositoryContext.isSteady_repository hcontext) (Reference.isSteady_of_first? href) status
    obtain ⟨hopen, hslash, -⟩ := not_mem_of_all_isSteady hsteady
    have hrest : '[' ∉ ([] : Text) := List.not_mem_nil
    have hframed := isFramed_of_not_mem isStyle_dim hopen hslash hrest
    rw [List.append_nil] at hframed
    exact ⟨(hframed.renders isStyle_dim).print c, print_inStyle isStyle_dim hsteady⟩

/-- A report with texts that close tags, open some, and end in backslashes. -/
def Report.hostile : Report where
  commit := ⟨"[/x] \\[red] \\\\[dim] ] [bold \\", none⟩
  sha := none
  outcomes := [⟨"/red", .error, false, some "[/] [a\\"⟩, ⟨"b]", .warning, false, some "c\\\\"⟩]

/-- A linter that comes to it. -/
def Linter.hostile : Linter where
  rules := [⟨"/red", .ofVerdict fun _ => .failing "[/] [a\\" (by decide), .error⟩,
    ⟨"b]", .ofVerdict fun _ => .failing "c\\\\" (by decide), .warning⟩]
  observers := []

theorem texts_make_no_tags_hostile :
    (Report.hostile.print .standard).PrintsLines 4 ∧ HasNoTag Report.hostile.titleLine ∧
      IsFramed "dim" [] (Observer.consoleLine (.linted Report.hostile)) ∧
      (Console.standard.print (Cli.failureLine (.ruleGaveUp "[/x]\\"))).PrintsLines 1 ∧
      (Observer.onConsole endless).tell (.lookedUp "o_1/r.x-y" "7" 404) =
        ⟨[.printed "GET o_1/r.x-y issue #7 -> 404\n"], .ok ()⟩ := by
  obtain ⟨hlint, hreport, hlinted, hfailure, hrequest⟩ := texts_make_no_tags .standard
  have hexplained := hlint .hostile Report.hostile.commit none Report.hostile rfl
  obtain ⟨hprint, htitle, -⟩ := hreport Report.hostile hexplained
  have hshown := hrequest [("GITHUB_REPOSITORY", "o_1/r.x-y"), ("GITHUB_TOKEN", "t")]
    ⟨"o_1/r.x-y", "t"⟩ ⟨"fix: x", some "Issue #7"⟩ Reference.defaultPlaces ⟨.body, "7"⟩ 404
    (by decide +kernel) (by decide)
  exact ⟨hprint, htitle, (hlinted Report.hostile).2, hfailure _, hshown.2⟩

end CommitCheck
