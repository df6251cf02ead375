import CommitCheck.Proofs.Console.Bare
import CommitCheck.Proofs.Text.Lines

/-!
# Columns around a text

A row has columns of the program at both ends and a text of someone else between them.  Whatever
that text is, be there tags or tabs or line feeds in it, the columns are put out as they are, as
long as blanks set them off from it and nothing in the last of them closes a bracket
(`columns_of_output`).

Two facts carry this.  No tag reaches into a text without a closing bracket (`scan_append`), so the
row has the pieces of its columns and those of the text between them.  And lines are laid out one
by one, so the row starts as its first line does and ends as its last line does.
-/

namespace CommitCheck.Console

/-! ## In front of a text that closes no bracket -/

theorem tagAt?_append_eq_none {t rest : Text} (h : ']' ∉ rest) (hno : tagAt? t = none) :
    tagAt? (t ++ rest) = none := by
  rw [Option.eq_none_iff_forall_ne_some] at hno ⊢
  rintro ⟨count, body⟩ htag
  obtain ⟨hbody, more, hmore⟩ := tagAt?_eq_some_iff.1 htag
  have hsplit : t ++ rest = (List.replicate count '\\' ++ '[' :: body) ++ ']' :: more := by
    rw [hmore, tagged, List.append_assoc, List.cons_append]
  rcases List.append_eq_append_iff.1 hsplit with ⟨inner, -, hrest⟩ | ⟨inner, ht, hrest⟩
  · exact h (hrest ▸ List.mem_append_right inner List.mem_cons_self)
  · cases inner with
    | nil => exact h (List.mem_of_mem_head? (congrArg List.head? hrest).symm)
    | cons d ds =>
      -- the bracket that closes the tag is in front of the rest, so there was a tag before
      obtain ⟨rfl, -⟩ := List.cons.inj hrest
      refine hno (count, body) (tagAt?_eq_some_iff.2 ⟨hbody, ds, ?_⟩)
      rw [ht, tagged, List.append_assoc, List.cons_append]

/-- No tag reaches into a text without a closing bracket. -/
theorem scan_append {rest : Text} (h : ']' ∉ rest) (t : Text) :
    scanAfter 0 (t ++ rest) = scanAfter 0 t ++ rest.map .char := by
  induction t using tags_induction with
  | nil =>
    refine scan_eq_map_char_iff.2 fun body _ hmem => h (hmem.subset ?_)
    exact List.mem_cons_of_mem _ (List.mem_append_right _ (List.mem_singleton_self _))
  | char c cs hno ih =>
    have hno' : tagAt? (c :: (cs ++ rest)) = none := tagAt?_append_eq_none h hno
    rw [List.cons_append, scanAfter_of_none hno', scanAfter_of_none hno, ih, List.cons_append]
  | tag count body rest' hbody ih =>
    have htagged : tagged count body rest' ++ rest = tagged count body (rest' ++ rest) := by
      rw [tagged_eq_append, tagged_eq_append, List.append_assoc]
    rw [htagged, scan_tagged hbody, scan_tagged hbody, ih, List.append_assoc]

theorem shownRun_of_isSteady {t : Text} (h : t.all isSteady = true) : shownRun t = t := by
  obtain ⟨hchars, hcolon⟩ := isPlainChar_of_isSteady h
  obtain ⟨hopen, -, -⟩ := not_mem_of_all_isPlainChar hchars
  exact shownRun_eq_self hopen (withPictures_eq_self hcolon) (isSilent_of_all_isPlainChar hchars)

/-- The columns at both ends of a row are shown as they are. -/
theorem shownOf_columns {first last : Text} (hfirst : first.all isSteady = true)
    (hlast : last.all isSteady = true) (hclose : ']' ∉ last) (t : Text) :
    shownOf [] (scan (first ++ ' ' :: (t ++ ' ' :: last))) =
      first ++ ' ' :: (shownOf [] (scan t) ++ ' ' :: last) := by
  obtain ⟨hopen, hslash, -⟩ := not_mem_of_all_isSteady hfirst
  have hclose' : ']' ∉ ' ' :: last := by
    rw [List.mem_cons, not_or]
    exact ⟨by decide, hclose⟩
  have hscan : scan (first ++ ' ' :: (t ++ ' ' :: last)) =
      first.map .char ++ .char ' ' :: (scan t ++ .char ' ' :: last.map .char) := by
    unfold scan
    rw [scan_append_of_not_mem hopen hslash, scan_blank, scan_append hclose']
    rfl
  rw [hscan, shownOf_append_blank, shownOf_append_blank, shownOf_chars, shownOf_chars,
    shownRun_of_isSteady hfirst, shownRun_of_isSteady hlast]

/-! ## Laying out -/

theorem prefix_spaceParts (cell : Nat) (part : Text) (parts : List Text) :
    part <+: spaceParts cell (part :: parts) := by
  cases parts with
  | nil => exact List.prefix_refl part
  | cons next parts =>
    rw [spaceParts, List.append_assoc, List.append_assoc]
    exact List.prefix_append _ _

theorem suffix_spaceParts (cell : Nat) (part : Text) (parts : List Text) :
    part <:+ spaceParts cell (parts ++ [part]) := by
  induction parts generalizing cell with
  | nil => exact List.suffix_refl part
  | cons p ps ih =>
    obtain ⟨next, rest, hrest⟩ := List.exists_cons_of_ne_nil (List.concat_ne_nil part ps)
    rw [hrest] at ih
    rw [List.cons_append, hrest, spaceParts]
    exact (ih _).trans (List.suffix_append _ _)

/-- A text without line feeds stays in front of the first line. -/
theorem exists_linesOf_append {first : Text} (hfeed : '\n' ∉ first) (rest : Text) :
    ∃ more lines, linesOf (first ++ rest) = (first ++ more) :: lines := by
  obtain ⟨init, line, more, lines, hfirst, -, hlines⟩ := linesOf_append first rest
  rw [linesOf, splitAt_of_not_mem hfeed] at hfirst
  obtain ⟨rfl, rfl⟩ : init = [] ∧ line = first := List.append_singleton_inj.1 hfirst.symm
  exact ⟨more, lines, hlines⟩

/-- A text without tabs stays in front of its line. -/
theorem prefix_expandTabs {first : Text} (htab : '\t' ∉ first) (rest : Text) :
    first <+: expandTabs (first ++ rest) := by
  obtain ⟨init, part, more, parts, hpart, -, hparts⟩ := splitAt_append '\t' first rest
  rw [splitAt_of_not_mem htab] at hpart
  obtain ⟨rfl, rfl⟩ : init = [] ∧ part = first := List.append_singleton_inj.1 hpart.symm
  rw [expandTabs, hparts, List.nil_append]
  exact (List.prefix_append part more).trans (prefix_spaceParts 0 _ parts)

/-- A text without tabs and line feeds stays in front. -/
theorem prefix_laidOut {first : Text} (htab : '\t' ∉ first) (hfeed : '\n' ∉ first) (rest : Text) :
    first <+: laidOut (first ++ rest) := by
  obtain ⟨more, lines, hlines⟩ := exists_linesOf_append hfeed rest
  obtain ⟨tail, htail⟩ := exists_joinWith_cons ['\n'] (expandTabs (first ++ more))
    (lines.map expandTabs)
  rw [laidOut, hlines, List.map_cons, ofLines, htail]
  exact (prefix_expandTabs htab more).trans (List.prefix_append _ tail)

/-- And it stays behind. -/
theorem suffix_laidOut {last : Text} (htab : '\t' ∉ last) (hfeed : '\n' ∉ last) (rest : Text) :
    last <:+ laidOut (rest ++ last) := by
  obtain ⟨init, line, start, lines, -, hlast, hlines⟩ := linesOf_append rest last
  rw [linesOf, splitAt_of_not_mem hfeed] at hlast
  obtain ⟨rfl, rfl⟩ := List.cons.inj hlast
  obtain ⟨init', part, start', parts, -, hlast, hparts⟩ := splitAt_append '\t' line last
  rw [splitAt_of_not_mem htab] at hlast
  obtain ⟨rfl, rfl⟩ := List.cons.inj hlast
  rw [laidOut, hlines, List.map_append]
  refine List.IsSuffix.trans ?_ (suffix_ofLines (expandTabs (line ++ last)) (init.map expandTabs))
  rw [expandTabs, hparts]
  exact (List.suffix_append part last).trans (suffix_spaceParts 0 _ init')

/-- Whatever the text between them is, the columns at both ends of a row are put out as they are. -/
theorem columns_of_output {first last t line : Text} (hfirst : first.all isSteady = true)
    (hlast : last.all isSteady = true) (hclose : ']' ∉ last) (hfeed : '\n' ∉ first ++ last)
    (h : endless.output (first ++ ' ' :: (t ++ ' ' :: last)) = .ok line) :
    first ++ [' '] <+: line ∧ ' ' :: (last ++ ['\n']) <:+ line := by
  obtain ⟨-, -, htab⟩ := not_mem_of_all_isSteady hfirst
  obtain ⟨-, -, htab'⟩ := not_mem_of_all_isSteady hlast
  rw [List.mem_append, not_or] at hfeed
  have hline : line = laidOut (first ++ ' ' :: (shownOf [] (scan t) ++ ' ' :: last)) ++ ['\n'] := by
    rw [← shownOf_columns hfirst hlast hclose]
    exact eq_laidOut_of_output h
  rw [hline]
  constructor
  · have hfront : first ++ [' '] <+:
        laidOut ((first ++ [' ']) ++ (shownOf [] (scan t) ++ ' ' :: last)) :=
      prefix_laidOut (by simp [htab]) (by simp [hfeed.1]) _
    rw [List.append_assoc, List.singleton_append] at hfront
    exact hfront.trans (List.prefix_append _ _)
  · have hback : ' ' :: last <:+
        laidOut ((first ++ ' ' :: shownOf [] (scan t)) ++ ' ' :: last) :=
      suffix_laidOut (by simp [htab']) (by simp [hfeed.2]) _
    rw [List.append_assoc, List.cons_append] at hback
    obtain ⟨front, hfront⟩ := hback
    exact ⟨front, by rw [← hfront, List.append_assoc, List.cons_append]⟩

end CommitCheck.Console
