import CommitCheck.Proofs.Console.Report

/-!
# Reports of any text

What a report shows of its texts, whatever they are: the title, and for each problem what is said
and the name of the rule in brackets.  Each text is shown as it is displayed on its own, because a
blank or a tag stands between them (`print_displayed`).  So the report is faithful, each line with
its texts as they are, exactly if all of its texts are verbatim (`print_faithful_iff`).

Not all of them are.  A header with the name of a picture between colons is shown with the picture
(`not_forall_print_faithful`).
-/

namespace CommitCheck

open Console

namespace Report

variable {r : Report}

/-- The text of the first line: the short name of the commit, if there is one, and the header. -/
def title (r : Report) : Text :=
  (match r.shortSha? with
    | none => []
    | some s => s ++ [' ']) ++ r.shownHeader

/-- The texts of a report. -/
def texts (r : Report) : List Text := r.title :: (r.errors ++ r.warnings).flatMap Outcome.texts

/-- The first line, with its text shown in some way. -/
def titleBy (f : Text → Text) (r : Report) : Event :=
  .printed ("⧗   input: ".toList ++ f r.title ++ ['\n'])

/-- What a report puts on the console, with its texts shown in some way. -/
def shownBy (f : Text → Text) (r : Report) : List Event :=
  titleBy f r :: (r.errors.map (problemBy f '✖') ++ r.warnings.map (problemBy f '⚠') ++
    [.printed (countsText (gravestSign r.errors.length r.warnings.length) r.errors.length
      r.warnings.length)])

theorem print_title (h : IsOrdinary r.title) :
    endless.print r.titleLine = ⟨[titleBy displayed r], .ok ()⟩ := by
  have hrun : shownRun "⧗   input:" = "⧗   input:" := by decide
  have hopen : '[' ∉ "⧗   input: ".toList := by decide
  have hslash : '\\' ∉ "⧗   input: ".toList := by decide
  have hshown : shownOf [] (scan r.titleLine) = "⧗   input: ".toList ++ displayed r.title := by
    show shownOf [] (scan ("⧗   input: ".toList ++ escape r.title)) = _
    rw [scan_start_escape hopen hslash, ← shownOf_escapedPieces]
    exact shownOf_start hrun _
  refine print_of_output ((renders_escape hopen hslash r.title).output_eq hshown ?_)
  rw [List.mem_append, not_or]
  exact ⟨by decide, not_mem_tab_displayed h⟩

/-- A report whose problems are explained, in ordinary texts, is shown with each of its texts as it
is displayed. -/
theorem print_displayed (hexplained : ∀ o ∈ r.errors ++ r.warnings, o.message ≠ none)
    (hordinary : ∀ t ∈ r.texts, IsOrdinary t) :
    r.print endless = ⟨r.shownBy displayed, .ok ()⟩ := by
  rw [texts, List.forall_mem_cons] at hordinary
  have hproblem : ∀ {style : Text} {sign : Char}, IsStyle style → isSteady sign = true →
      ∀ o ∈ r.errors ++ r.warnings,
        printProblem endless style sign o = ⟨[problemBy displayed sign o], .ok ()⟩ := by
    intro style sign h hsign o ho
    obtain ⟨m, hm⟩ := Option.ne_none_iff_exists'.1 (hexplained o ho)
    exact print_problem h hsign hm fun t ht =>
      hordinary.2 t (List.mem_flatMap.2 ⟨o, ho, ht⟩)
  have herrors : Run.each (printProblem endless "red" '✖') r.errors =
      ⟨r.errors.map (problemBy displayed '✖'), .ok ()⟩ :=
    Run.each_of_eq fun o ho => hproblem isStyle_red (by decide) o (List.mem_append_left _ ho)
  have hwarnings : Run.each (printProblem endless "yellow" '⚠') r.warnings =
      ⟨r.warnings.map (problemBy displayed '⚠'), .ok ()⟩ :=
    Run.each_of_eq fun o ho => hproblem isStyle_yellow (by decide) o (List.mem_append_right _ ho)
  unfold print shownBy
  rw [print_title hordinary.1, herrors, hwarnings, print_of_output (output_summaryLine r)]
  simp [Run.bind_ok]

/-! ## Faithful reports -/

/-- The first line has its text as it is exactly if that is verbatim. -/
theorem titleBy_eq_iff (h : IsOrdinary r.title) :
    titleBy displayed r = titleBy id r ↔ IsVerbatim r.title := by
  rw [titleBy, titleBy, Event.printed.injEq, List.append_left_inj, List.append_right_inj, id_eq,
    displayed_eq_self_iff h]

/-- A report is shown with each of its texts as it is exactly if all of them are verbatim. -/
theorem shownBy_eq_iff (h : ∀ t ∈ r.texts, IsOrdinary t) :
    r.shownBy displayed = r.shownBy id ↔ ∀ t ∈ r.texts, IsVerbatim t := by
  rw [texts, List.forall_mem_cons, List.forall_mem_flatMap] at h ⊢
  have hproblem (sign : Char) : ∀ o ∈ r.errors ++ r.warnings,
      (problemBy displayed sign o = problemBy id sign o ↔ ∀ t ∈ o.texts, IsVerbatim t) :=
    fun o ho => problemBy_eq_iff (h.2 o ho) sign
  constructor
  · intro heq
    obtain ⟨htitle, hlines⟩ := List.cons.inj heq
    obtain ⟨herrors, hwarnings⟩ := List.append_inj (List.append_cancel_right hlines) (by simp)
    refine ⟨(titleBy_eq_iff h.1).1 htitle, fun o ho => ?_⟩
    rcases List.mem_append.1 ho with hmem | hmem
    · exact (hproblem '✖' o ho).1 (List.map_inj_left.1 herrors o hmem)
    · exact (hproblem '⚠' o ho).1 (List.map_inj_left.1 hwarnings o hmem)
  · rintro ⟨htitle, hproblems⟩
    have herrors : r.errors.map (problemBy displayed '✖') = r.errors.map (problemBy id '✖') :=
      List.map_congr_left fun o ho =>
        have hmem := List.mem_append_left _ ho
        (hproblem '✖' o hmem).2 (hproblems o hmem)
    have hwarnings : r.warnings.map (problemBy displayed '⚠') = r.warnings.map (problemBy id '⚠') :=
      List.map_congr_left fun o ho =>
        have hmem := List.mem_append_right _ ho
        (hproblem '⚠' o hmem).2 (hproblems o hmem)
    rw [shownBy, shownBy, (titleBy_eq_iff h.1).2 htitle, herrors, hwarnings]

/-- Let a report be given whose problems are explained, with no tab and no control character that
is never shown in any of its texts.  It is shown with each of its texts as the text is displayed
on its own.  So the first line has the header as it is, and the line of each problem its message and
the name of the rule in brackets as they are, exactly if all of these are verbatim: no name of a
picture between colons, no backslash in front of a bracket unless it is that of a tag, and not one
backslash alone at the end. -/
theorem print_faithful_iff (hexplained : ∀ o ∈ r.errors ++ r.warnings, o.message ≠ none)
    (hordinary : ∀ t ∈ r.texts, IsOrdinary t) :
    r.print endless = ⟨r.shownBy displayed, .ok ()⟩ ∧
      (r.print endless = ⟨r.shownBy id, .ok ()⟩ ↔ ∀ t ∈ r.texts, IsVerbatim t) := by
  have hprint := print_displayed hexplained hordinary
  refine ⟨hprint, ?_⟩
  rw [hprint, ← shownBy_eq_iff hordinary, Run.mk.injEq]
  exact and_iff_left rfl

/-- A report of one problem, on a commit with a name. -/
def complaint (header : Text) : Report where
  commit := ⟨header, none⟩
  sha := some "4f1c2d3e5a6b7c8d9e0f"
  outcomes := [⟨"header-format", .error, false, some "write [type]: \\[text] at 10:30"⟩]

/-- What the console shows of such a report under some title. -/
def complaintEvents (title : Text) : List Event :=
  [.printed ("⧗   input: 4f1c2d3e5a6b ".toList ++ title ++ ['\n']),
    .printed "✖   write [type]: \\[text] at 10:30 [header-format]\n",
    .printed "✖   found 1 problems, 0 warnings\n\n"]

theorem print_faithful_iff_complaint :
    let quoting := complaint "fix: read \\\\[a] of C:\\d\\[b] at 1:2"
    let praising := complaint "docs: ask for a :+1: on \\[1]"
    (quoting.print endless = ⟨complaintEvents "fix: read \\\\[a] of C:\\d\\[b] at 1:2", .ok ()⟩ ∧
        ∀ t ∈ quoting.texts, IsVerbatim t) ∧
      praising.print endless = ⟨complaintEvents "docs: ask for a 👍 on [1]", .ok ()⟩ ∧
        ¬∀ t ∈ praising.texts, IsVerbatim t := by
  intro quoting praising
  obtain ⟨hquoting, hverbatim⟩ :=
    print_faithful_iff (r := quoting) (by decide) (by decide +kernel)
  obtain ⟨hpraising, hverbatim'⟩ :=
    print_faithful_iff (r := praising) (by decide) (by decide +kernel)
  have hquoted : quoting.shownBy displayed =
      complaintEvents "fix: read \\\\[a] of C:\\d\\[b] at 1:2" := by decide +kernel
  have hsame : quoting.shownBy displayed = quoting.shownBy id := by decide +kernel
  have hpraised : praising.shownBy displayed = complaintEvents "docs: ask for a 👍 on [1]" := by
    decide +kernel
  have hother : praising.shownBy displayed ≠ praising.shownBy id := by decide +kernel
  refine ⟨⟨hquoted ▸ hquoting, hverbatim.1 (hsame ▸ hquoting)⟩, hpraised ▸ hpraising, fun h => ?_⟩
  exact hother (congrArg Run.trace (hpraising.symm.trans (hverbatim'.2 h)))

/-- A header with the name of a picture is not shown as it is. -/
theorem not_forall_print_faithful :
    ¬∀ r : Report, (∀ o ∈ r.errors ++ r.warnings, o.message ≠ none) →
      (∀ t ∈ r.texts, IsOrdinary t) → r.print endless = ⟨r.shownBy id, .ok ()⟩ := by
  intro h
  have hshown := h ⟨⟨"docs: ask for a :+1: on proposals", none⟩, none, []⟩ (by decide)
    (by decide +kernel)
  exact absurd (congrArg Run.trace hshown) (by decide +kernel)

end Report

end CommitCheck
