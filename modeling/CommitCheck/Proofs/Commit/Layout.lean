import CommitCheck.Proofs.Commit.Message

/-!
# The layout of a message

Layout that makes no difference to the message that a text is.

Blank lines in front of the lines of a message do not count, and neither do blanks behind them, be
they at the end of the last line or on lines of their own (`ofRetained_append_left`,
`ofRetained_append_blank`).  That is so whether comments are dropped or not, since blanks make no
comment of a line and no blank line is one.  So a text with blank lines in front and blanks behind,
and with a pair for each line feed, is the message that it is alone (`parse_ignores_layout`).

The carriage return of a pair is a blank at the end of a line.  It makes no difference whether
comments are dropped with it still there or after the line ends were read, so a text can lose its
comments beforehand (`parse_uncommented`).
-/

namespace CommitCheck

/-! ## Line ends -/

/-- A line feed, or a pair. -/
def IsLineEnd (t : Text) : Prop := t = ['\n'] ∨ t = returnPair

/-- Blank lines, each with a line end. -/
inductive IsBlankLines : Text → Prop
  /-- No lines. -/
  | nil : IsBlankLines []
  /-- One line more, in front. -/
  | cons {line stop rest : Text} : isBlankText line = true → '\n' ∉ line → IsLineEnd stop →
      IsBlankLines rest → IsBlankLines (line ++ stop ++ rest)

/-- The text with a pair for each line feed. -/
def withPairs (t : Text) : Text := t.flatMap fun c => if c = '\n' then returnPair else [c]

variable {t : Text}

/-- A line loses at most blanks to its line end. -/
theorem IsLineEnd.exists_unifyPairs {line stop : Text} (h : IsLineEnd stop) (hline : '\n' ∉ line)
    (rest : Text) : ∃ kept, kept <+: line ∧
      unifyPairs (line ++ stop ++ rest) = kept ++ '\n' :: unifyPairs rest := by
  rcases h with rfl | rfl
  · refine ⟨dropReturn line, prefix_dropReturn line, ?_⟩
    rw [List.append_assoc, List.singleton_append, unifyPairs_append_feed hline]
  · refine ⟨line, List.prefix_refl line, ?_⟩
    have hreturn : '\n' ∉ line ++ ['\r'] := by simpa using hline
    have hsplit : line ++ returnPair ++ rest = (line ++ ['\r']) ++ '\n' :: rest := by
      simp [returnPair]
    rw [hsplit, unifyPairs_append_feed hreturn, dropReturn_append_return]

/-- Blank lines are blank whatever their line ends are. -/
theorem IsBlankLines.exists_linesOf {before : Text} (h : IsBlankLines before) (t : Text) :
    ∃ lines : List Text, (∀ l ∈ lines, isBlankText l = true) ∧
      linesOf (unifyPairs (before ++ t)) = lines ++ linesOf (unifyPairs t) := by
  induction h with
  | nil => exact ⟨[], List.forall_mem_nil _, rfl⟩
  | @cons line stop rest hblank hline hstop _ ih =>
    obtain ⟨kept, hkept, hunify⟩ := hstop.exists_unifyPairs hline (rest ++ t)
    obtain ⟨lines, hlines, hrest⟩ := ih
    have hkeptLine : linesOf kept = [kept] :=
      splitAt_of_not_mem fun hmem => hline (hkept.subset hmem)
    refine ⟨kept :: lines, List.forall_mem_cons.2 ⟨?_, hlines⟩, ?_⟩
    · exact List.all_eq_true.2 fun c hc => List.all_eq_true.1 hblank c (hkept.subset hc)
    · rw [List.append_assoc, hunify, linesOf, splitAt_append_cons, ← linesOf, ← linesOf, hkeptLine,
        hrest]
      rfl

/-- Line feeds that became pairs are taken for line feeds again. -/
theorem unifyPairs_withPairs_append (h : '\r' ∉ t) (u : Text) :
    unifyPairs (withPairs t ++ u) = t ++ unifyPairs u := by
  induction t with
  | nil => rfl
  | cons c cs ih =>
    rw [List.mem_cons, not_or] at h
    rw [withPairs, List.flatMap_cons, List.append_assoc, ← withPairs]
    by_cases hc : c = '\n'
    · rw [if_pos hc, hc]
      show unifyPairs ('\r' :: '\n' :: (withPairs cs ++ u)) = _
      rw [unifyPairs, ih h.2, List.cons_append]
    · rw [if_neg hc, List.singleton_append, unifyPairs_cons, ih h.2, List.cons_append]
      exact fun hreturn => absurd hreturn.symm h.1

theorem unifyPairs_append_of_not_mem (h : '\r' ∉ t) (u : Text) :
    unifyPairs (t ++ u) = t ++ unifyPairs u := by
  rw [unifyPairs_append fun hlast => h (List.mem_of_getLast? hlast),
    unifyPairs_eq_self fun hpair => h (hpair.subset (by decide))]

namespace Message

variable {lines rest : List Text} {first : Text} {stripComments : Bool}

/-! ## Lines that make the same message -/

/-- Blank lines in front make no difference. -/
theorem ofRetained_append_left {before : List Text} (h : ∀ l ∈ before, isBlankText l = true)
    (lines : List Text) : ofRetained (before ++ lines) = ofRetained lines := by
  unfold ofRetained
  rw [List.dropWhile_append_of_pos h]

/-- Blanks at the end of the lines below the header make no difference. -/
theorem bodyOf_append_blank (hfirst : isBlankText first = true)
    (hrest : ∀ l ∈ rest, isBlankText l = true) (init : List Text) (last : Text) :
    bodyOf (init ++ (last ++ first) :: rest) = bodyOf (init ++ [last]) := by
  have hblank : isBlankText (ofLines (first :: rest)) = true :=
    isBlankText_ofLines_iff.2 (List.forall_mem_cons.2 ⟨hfirst, hrest⟩)
  have htrim :
      trimEnd (dropLead (· == '\n') (ofLines (init ++ [last]) ++ ofLines (first :: rest))) =
      trimEnd (dropLead (· == '\n') (ofLines (init ++ [last]))) := by
    unfold dropLead
    rw [List.dropWhile_append]
    split
    · rename_i hnil
      rw [List.isEmpty_iff.1 hnil]
      refine dropTrail_eq_nil_iff.2 (List.all_eq_true.2 fun c hc => ?_)
      exact List.all_eq_true.1 hblank c ((List.dropWhile_sublist _).subset hc)
    · exact dropTrail_append_of_all hblank _
  unfold bodyOf
  rw [trimEnd_dropEnds, trimEnd_dropEnds, ofLines_append_cons, htrim]

theorem bodyOf_eq_none (h : ∀ l ∈ lines, isBlankText l = true) : bodyOf lines = none :=
  (IsBodyOf.absent h).bodyOf_eq

/-- Nor do blanks at the end of all lines. -/
theorem ofRetained_append_blank (hfirst : isBlankText first = true)
    (hrest : ∀ l ∈ rest, isBlankText l = true) (init : List Text) (last : Text) :
    ofRetained (init ++ (last ++ first) :: rest) = ofRetained (init ++ [last]) := by
  unfold ofRetained
  rw [List.dropWhile_append, List.dropWhile_append]
  cases hinit : init.dropWhile isBlankText with
  | cons header below =>
    exact congrArg (Message.mk (trimEnd header)) (bodyOf_append_blank hfirst hrest below last)
  | nil =>
    simp only [List.isEmpty_nil, if_true]
    by_cases hlast : isBlankText last = true
    · have hall : isBlankText (last ++ first) = true := by
        rw [isBlankText_append, hlast, hfirst]
        rfl
      rw [List.dropWhile_cons_of_pos hall, List.dropWhile_cons_of_pos hlast,
        List.dropWhile_eq_nil_iff.2 hrest]
      rfl
    · have hall : ¬isBlankText (last ++ first) = true := by
        rw [isBlankText_append, hfirst, Bool.and_true]
        exact hlast
      rw [List.dropWhile_cons_of_neg hall, List.dropWhile_cons_of_neg hlast]
      show Message.mk (trimEnd (last ++ first)) (bodyOf rest) = ⟨trimEnd last, bodyOf []⟩
      rw [trimEnd, dropTrail_append_of_all hfirst, bodyOf_eq_none hrest,
        bodyOf_eq_none (List.forall_mem_nil _), trimEnd]

/-- Nor do blank lines behind. -/
theorem ofRetained_append_right (h : ∀ l ∈ rest, isBlankText l = true) (lines : List Text) :
    ofRetained (lines ++ rest) = ofRetained lines := by
  rcases List.eq_nil_or_concat lines with rfl | ⟨init, last, rfl⟩
  · have hnone := ofRetained_append_left h []
    rwa [List.append_nil] at hnone
  · have hsame := ofRetained_append_blank (show isBlankText [] = true from rfl) h init last
    rw [List.append_nil] at hsame
    rw [List.concat_eq_append, List.append_assoc, List.singleton_append, hsame]

/-! ## Lines that count -/

/-- Whether a line counts. -/
def counts (stripComments : Bool) (line : Text) : Bool := !(stripComments && isComment line)

theorem retained_eq_filter (raw : Text) (stripComments : Bool) :
    retained raw stripComments = (linesOf (unifyPairs raw)).filter (counts stripComments) := by
  cases stripComments with
  | false => exact (List.filter_eq_self.2 fun _ _ => rfl).symm
  | true => rfl

/-- Blanks behind a line do not make a comment of it. -/
theorem counts_append_blank (h : isBlankText first = true) (stripComments : Bool) (last : Text) :
    counts stripComments (last ++ first) = counts stripComments last := by
  cases last with
  | cons c cs => rfl
  | nil =>
    cases first with
    | nil => rfl
    | cons c cs =>
      have hc : c ≠ '#' := by
        rintro rfl
        exact absurd (List.all_eq_true.1 h '#' List.mem_cons_self) (by decide)
      simp [counts, isComment, hc]

theorem counts_of_isBlankText {line : Text} (h : isBlankText line = true) (stripComments : Bool) :
    counts stripComments line = true := by
  have hline := counts_append_blank h stripComments []
  rw [List.nil_append] at hline
  rw [hline]
  cases stripComments <;> rfl

theorem filter_counts_of_isBlankText (h : ∀ l ∈ lines, isBlankText l = true)
    (stripComments : Bool) :
    lines.filter (counts stripComments) = lines :=
  List.filter_eq_self.2 fun l hl => counts_of_isBlankText (h l hl) stripComments

/-- So blanks at the end make no difference to the lines that count either. -/
theorem ofRetained_filter_append_blank (hfirst : isBlankText first = true)
    (hrest : ∀ l ∈ rest, isBlankText l = true) (init : List Text) (last : Text) :
    ofRetained ((init ++ (last ++ first) :: rest).filter (counts stripComments)) =
      ofRetained ((init ++ [last]).filter (counts stripComments)) := by
  rw [List.filter_append, List.filter_append, List.filter_cons, List.filter_cons,
    counts_append_blank hfirst, filter_counts_of_isBlankText hrest, List.filter_nil]
  split
  · exact ofRetained_append_blank hfirst hrest _ last
  · rw [List.append_nil]
    exact ofRetained_append_right hrest _

/-! ## Layout that makes no difference -/

/-- A text in some spelling of its line ends, with blank lines in front and blanks behind, is the
message that it is alone. -/
theorem parse_of_spelling {t spelling before after : Text}
    (ht : ∀ u, unifyPairs (spelling ++ u) = t ++ unifyPairs u) (hbefore : IsBlankLines before)
    (hafter : isBlankText after = true) (stripComments : Bool) :
    parse (before ++ spelling ++ after) stripComments =
      ofRetained ((linesOf t).filter (counts stripComments)) := by
  obtain ⟨lines, hlines, hall⟩ := hbefore.exists_linesOf (spelling ++ after)
  obtain ⟨init, last, first, rest, hinit, hrest, hjoined⟩ := linesOf_append t (unifyPairs after)
  have hblank : ∀ l ∈ first :: rest, isBlankText l = true := by
    rw [← hrest, ← isBlankText_ofLines_iff, ofLines_linesOf]
    exact List.all_eq_true.2 fun c hc =>
      List.all_eq_true.1 hafter c ((unifyPairs_sublist after).subset hc)
  obtain ⟨hfirst, hrest⟩ := List.forall_mem_cons.1 hblank
  rw [parse, retained_eq_filter, List.append_assoc, hall, ht, hjoined, hinit, List.filter_append,
    filter_counts_of_isBlankText hlines, ofRetained_append_left hlines,
    ofRetained_filter_append_blank hfirst hrest]

/-- Blank lines in front of a text, blanks behind it and the spelling of its line ends make no
difference to the message that it is. -/
theorem parse_ignores_layout {t before after : Text} (ht : '\r' ∉ t) (hbefore : IsBlankLines before)
    (hafter : isBlankText after = true) (stripComments : Bool) :
    parse (before ++ t ++ after) stripComments = parse t stripComments ∧
      parse (withPairs t) stripComments = parse t stripComments ∧
      parse (before ++ withPairs t ++ after) stripComments = parse t stripComments := by
  have hplain := fun u => unifyPairs_append_of_not_mem ht u
  have hpairs := fun u => unifyPairs_withPairs_append ht u
  have hempty : isBlankText [] = true := rfl
  have halone := parse_of_spelling hplain .nil hempty stripComments
  have hpaired := parse_of_spelling hpairs .nil hempty stripComments
  rw [List.nil_append, List.append_nil] at halone hpaired
  refine ⟨?_, hpaired.trans halone.symm, ?_⟩
  · exact (parse_of_spelling hplain hbefore hafter stripComments).trans halone.symm
  · exact (parse_of_spelling hpairs hbefore hafter stripComments).trans halone.symm

/-- A message with a comment and blanks inside. -/
def untidy : Text := "# new\n\x1c\nfix: a \n\n  why\n# c\n\nIssue #nil"

/-- Blank lines with line ends of both kinds, and a carriage return that ends no line. -/
def blankLines : Text := " \r\t\r\n\n\u3000\r\n"

theorem isBlankLines_blankLines : IsBlankLines blankLines := by
  have hlast : IsBlankLines ("\u3000".toList ++ returnPair ++ []) :=
    .cons (by decide) (by decide) (.inr rfl) .nil
  have hempty : IsBlankLines ([] ++ ['\n'] ++ _) := .cons rfl (by decide) (.inl rfl) hlast
  have hfirst : IsBlankLines (" \r\t".toList ++ returnPair ++ _) :=
    .cons (by decide) (by decide) (.inr rfl) hempty
  exact hfirst

theorem parse_ignores_layout_untidy :
    '\r' ∉ untidy ∧ IsBlankLines blankLines ∧ isBlankText "\r\n \x85\r" = true ∧
      parse (blankLines ++ withPairs untidy ++ "\r\n \x85\r".toList) true =
        ⟨"fix: a", some "  why\n\nIssue #nil"⟩ := by
  have hreturn : '\r' ∉ untidy := by decide
  have hafter : isBlankText "\r\n \x85\r" = true := by decide
  obtain ⟨-, -, hall⟩ := parse_ignores_layout hreturn isBlankLines_blankLines hafter true
  exact ⟨hreturn, isBlankLines_blankLines, hafter, hall.trans (by decide +kernel)⟩

/-! ## Comments left out beforehand -/

/-- The text without the lines that are comments. -/
def uncommented (t : Text) : Text := ofLines ((linesOf t).filter (!isComment ·))

theorem isComment_dropReturn (line : Text) : isComment (dropReturn line) = isComment line := by
  obtain ⟨blanks, hline, hblanks⟩ := exists_dropReturn_append line
  have hcounts := counts_append_blank hblanks true (dropReturn line)
  rw [← hline, counts, counts, Bool.true_and, Bool.true_and] at hcounts
  exact (Bool.not_inj hcounts).symm

/-- Lines without the carriage returns at their ends make the message that the text of the lines
is. -/
theorem parse_ofLines (h : ∀ l ∈ lines, '\n' ∉ l) :
    parse (ofLines lines) false = ofRetained (lines.map dropReturn) := by
  rcases List.eq_nil_or_concat lines with rfl | ⟨init, last, rfl⟩
  · rfl
  · obtain ⟨blanks, hlast, hblanks⟩ := exists_dropReturn_append last
    rw [List.concat_eq_append, List.forall_mem_append, List.forall_mem_singleton] at h
    have hsame := ofRetained_append_blank hblanks (List.forall_mem_nil _) (init.map dropReturn)
      (dropReturn last)
    rw [← hlast] at hsame
    rw [List.concat_eq_append, List.map_append, List.map_singleton, ← hsame,
      ← linesOf_unifyPairs h.1 h.2]
    rfl

/-- A text whose carriage returns are all in pairs is the message that it is without its comments,
whichever way its line ends are read. -/
theorem parse_uncommented {t : Text} (h : IsPaired t) :
    parse (uncommented t) false = parse (unifyReturns t) true := by
  have hkept : ∀ l ∈ (linesOf t).filter (!isComment ·), '\n' ∉ l := fun l hl =>
    not_mem_of_mem_linesOf (List.mem_filter.1 hl).1
  have honce : unifyPairs (unifyPairs t) = unifyPairs t :=
    unifyPairs_eq_self fun hpair => isPaired_iff.1 h (hpair.subset (by decide))
  have hcomments : ((linesOf t).map dropReturn).filter (!isComment ·) =
      ((linesOf t).filter (!isComment ·)).map dropReturn := by
    rw [List.filter_map]
    exact congrArg _ (List.filter_congr fun l _ => congrArg _ (isComment_dropReturn l))
  rw [uncommented, parse_ofLines hkept, ← hcomments, ← linesOf_unifyPairs_of_isPaired h,
    unifyReturns_of_isPaired h]
  show _ = ofRetained ((linesOf (unifyPairs (unifyPairs t))).filter (!isComment ·))
  rw [honce]

end Message

end CommitCheck
