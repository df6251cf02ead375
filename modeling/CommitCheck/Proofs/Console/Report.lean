import CommitCheck.Observer.Console
import CommitCheck.Proofs.Console.Verbatim
import CommitCheck.Proofs.Run

/-!
# What reports show

The lines of a report on the console that breaks no lines, and that each of them can be
shown.

The title holds the header of a commit, which can be any text.  `output_titleLine` says no
more than that it is shown, because tags are escaped in it.  The line of a problem has two
texts, what is said and the name of the rule in brackets, and shows each as it is displayed on
its own (`print_problem`), so both are there as they are exactly if both are verbatim
(`problemBy_eq_iff`).  What rules say is plain text (`IsPlain`), which is verbatim.  The line of
the counts is known to the last character too (`output_summaryLine`).

`print_eq` puts the lines together: a report whose outcomes are explained by plain text is
shown as its title, its errors, its warnings and the two counts.
-/

namespace CommitCheck

namespace Console

/-! ## Output without line breaks -/

/-- A line without tabs stays as it is. -/
theorem expandTabs_eq_self {line : Text} (h : '\t' ∉ line) : expandTabs line = line := by
  rw [expandTabs, splitAt_of_not_mem h]
  rfl

/-- So do all lines of a text without tabs. -/
theorem map_expandTabs_linesOf {text : Text} (h : '\t' ∉ text) :
    (linesOf text).map expandTabs = linesOf text :=
  List.map_congr_left (g := id) (fun _ hline =>
    expandTabs_eq_self fun hmem => h (mem_of_mem_splitAt hline hmem)) |>.trans (List.map_id _)

/-- The endless console puts the lines of a text out, with spaces for tabs. -/
theorem output_of_render {t text : Text} (h : render t = .ok ⟨text, []⟩) :
    endless.output t = .ok (ofLines ((linesOf text).map expandTabs) ++ ['\n']) := by
  unfold output
  rw [h]
  rfl

theorem Renders.output {t : Text} (h : Renders t) : ∃ shown, endless.output t = .ok shown := by
  obtain ⟨text, ht⟩ := h
  exact ⟨_, output_of_render ht⟩

/-- What pieces show is put out as it is, if there is no tab in it. -/
theorem Renders.output_eq {t text : Text} (h : Renders t) (htext : shownOf [] (scan t) = text)
    (htab : '\t' ∉ text) : endless.output t = .ok (text ++ ['\n']) := by
  obtain ⟨shown, ht⟩ := h
  obtain rfl : shown = text := (text_of_render ht).trans htext
  rw [output_of_render ht, map_expandTabs_linesOf htab, ofLines_linesOf]

theorem print_of_output {c : Console} {t shown : Text} (h : c.output t = .ok shown) :
    c.print t = ⟨[.printed shown], .ok ()⟩ := by
  unfold print
  rw [h]
  rfl

theorem print_of_output_error {c : Console} {t : Text} {e : Failure} (h : c.output t = .error e) :
    c.print t = ⟨[], .error e⟩ := by
  unfold print
  rw [h]
  rfl

/-! ## Plain text -/

/-- Whether a character is shown as it is wherever it stands, colons apart. -/
def isPlainChar (c : Char) : Bool := c != '[' && c != '\\' && c != '\t' && !isSilent c

/-- Whether a character is shown as it is wherever it stands. -/
def isSteady (c : Char) : Bool := isPlainChar c && c != ':'

/-- A text that is shown as it is. -/
structure IsPlain (t : Text) : Prop where
  /-- Its characters are shown as they are. -/
  chars : t.all isPlainChar = true
  /-- Its colons hold no name of a picture between them, and none with a space after it. -/
  pictures : withPictures (t ++ [' ']) = t ++ [' ']

theorem isPlainChar_of_isSteady {t : Text} (h : t.all isSteady = true) :
    t.all isPlainChar = true ∧ ':' ∉ t := by
  rw [List.all_eq_true] at h
  refine ⟨List.all_eq_true.2 fun c hc => (Bool.and_eq_true _ _ ▸ h c hc).1, fun hmem => ?_⟩
  have hcolon := h ':' hmem
  simp [isSteady] at hcolon

theorem isPlain_of_isSteady {t : Text} (h : t.all isSteady = true) : IsPlain t :=
  ⟨(isPlainChar_of_isSteady h).1, withPictures_append (isPlainChar_of_isSteady h).2 [' ']⟩

theorem isSteady_of_isDigit {c : Char} (h : c.isDigit = true) : isSteady c = true := by
  have hbound : 48 ≤ c.toNat ∧ c.toNat ≤ 57 := by
    simpa [Char.isDigit, UInt32.le_iff_toNat_le] using h
  have hne : ∀ d : Char, (d.toNat < 48 ∨ 57 < d.toNat) → c ≠ d := by
    rintro d hd rfl
    omega
  have hloud : isSilent c = false := by
    simp [isSilent]
    omega
  simp [isSteady, isPlainChar, hloud, hne '[' (by decide), hne '\\' (by decide),
    hne '\t' (by decide), hne ':' (by decide)]

theorem not_mem_of_all_isPlainChar {t : Text} (h : t.all isPlainChar = true) :
    '[' ∉ t ∧ '\\' ∉ t ∧ '\t' ∉ t := by
  rw [List.all_eq_true] at h
  refine ⟨fun hmem => ?_, fun hmem => ?_, fun hmem => ?_⟩ <;>
  · have hplain := h _ hmem
    revert hplain
    decide

theorem not_mem_of_all_isSteady {t : Text} (h : t.all isSteady = true) :
    '[' ∉ t ∧ '\\' ∉ t ∧ '\t' ∉ t := not_mem_of_all_isPlainChar (isPlainChar_of_isSteady h).1

theorem isSilent_of_all_isPlainChar {t : Text} (h : t.all isPlainChar = true) :
    ∀ c ∈ t, isSilent c = false := by
  intro c hc
  have hplain := List.all_eq_true.1 h c hc
  simp only [isPlainChar, Bool.and_eq_true, Bool.not_eq_true'] at hplain
  exact hplain.2

theorem endsInBackslash_of_not_mem {t : Text} (h : '\\' ∉ t) : endsInBackslash t = false := by
  unfold endsInBackslash
  have hslash : '\\' ∉ t.reverse := fun hmem => h (List.mem_reverse.1 hmem)
  split
  · rfl
  · rename_i cs _ hcs
    rw [hcs] at hslash
    exact absurd List.mem_cons_self hslash
  · rfl

theorem isOrdinary_of_all_isPlainChar {t : Text} (h : t.all isPlainChar = true) : IsOrdinary t := by
  obtain ⟨-, -, htab⟩ := not_mem_of_all_isPlainChar h
  exact fun c hc => ⟨fun heq => htab (heq ▸ hc), isSilent_of_all_isPlainChar h c hc⟩

/-- Plain text is verbatim. -/
theorem IsPlain.isVerbatim {t : Text} (h : IsPlain t) : IsVerbatim t := by
  obtain ⟨hopen, hslash, -⟩ := not_mem_of_all_isPlainChar h.chars
  have hpictures := h.pictures
  rw [withPictures_append_of_none t (named?_blank []), show withPictures [' '] = [' '] from rfl,
    List.append_left_inj] at hpictures
  refine ⟨?_, ?_, endsInBackslash_of_not_mem hslash⟩
  · rw [parts_of_not_mem hopen, List.forall_mem_singleton]
    exact withPictures_eq_self_iff.1 hpictures
  · rw [parts_of_not_mem hopen, List.forall_mem_singleton]
    exact dropBracketEscapes_eq_self_iff.1 (dropBracketEscapes_of_not_mem_open hopen)

/-! ## Lines in a style -/

theorem scan_inStyle {style : Text} (h : IsStyle style) (t : Text) :
    scan (inStyle style t) = .tag style :: scanAfter 0 (t ++ tagged 0 ('/' :: style) []) := by
  have heq : inStyle style t = tagged 0 style (t ++ tagged 0 ('/' :: style) []) := by
    simp [inStyle, tagged]
  rw [heq, scan, scan_tagged h.opens]
  rfl

/-- Plain text in a style, with more after it. -/
theorem scan_inStyle_append {style t : Text} (h : IsStyle style) (hopen : '[' ∉ t)
    (hslash : '\\' ∉ t) (rest : Text) :
    scan (inStyle style t ++ rest) =
      .tag style :: (t.map .char ++ .tag ('/' :: style) :: scanAfter 0 rest) := by
  have heq : inStyle style t ++ rest = tagged 0 style (t ++ tagged 0 ('/' :: style) rest) := by
    simp [inStyle, tagged]
  rw [heq, scan, scan_tagged h.opens, scan_append_of_not_mem hopen hslash, scan_tagged h.closes]
  rfl

/-- A plain line in a style, with plain text after it. -/
theorem output_inStyle {style t rest : Text} (h : IsStyle style) (ht : t.all isPlainChar = true)
    (hpictures : withPictures t = t) (hrest : rest.all isPlainChar = true)
    (hrestPictures : withPictures rest = rest) :
    endless.output (inStyle style t ++ rest) = .ok (t ++ rest ++ ['\n']) := by
  obtain ⟨hopen, hslash, htab⟩ := not_mem_of_all_isPlainChar ht
  obtain ⟨hopen', -, htab'⟩ := not_mem_of_all_isPlainChar hrest
  have hscan : scan (inStyle style t ++ rest) =
      .tag style :: (t.map .char ++ .tag ('/' :: style) :: rest.map .char) := by
    rw [scan_inStyle_append h hopen hslash, scan_of_not_mem hopen']
  have hshown : shownOf [] (scan (inStyle style t ++ rest)) = t ++ rest := by
    have hlast := shownOf_map_char rest [] []
    rw [List.append_nil, List.append_nil] at hlast
    rw [hscan]
    show shownOf [] (t.map .char ++ .tag ('/' :: style) :: rest.map .char) = _
    rw [shownOf_map_char, List.append_nil]
    show shownRun t.reverse.reverse ++ shownOf [] (rest.map .char) = _
    rw [hlast]
    show shownRun t.reverse.reverse ++ shownRun rest.reverse.reverse = _
    rw [List.reverse_reverse, List.reverse_reverse,
      shownRun_eq_self hopen hpictures (isSilent_of_all_isPlainChar ht),
      shownRun_eq_self hopen' hrestPictures (isSilent_of_all_isPlainChar hrest)]
  refine (h.renders (fun p hp => isShown_of_mem_map_char hp) (fun p hp =>
    isShown_of_mem_map_char hp) (.inr hscan)).output_eq hshown fun hmem => ?_
  rcases List.mem_append.1 hmem with hmem | hmem
  · exact htab hmem
  · exact htab' hmem

/-- A plain line in a style is put on the console as it is. -/
theorem print_inStyle {style t : Text} (h : IsStyle style) (ht : t.all isSteady = true) :
    endless.print (inStyle style t) = ⟨[.printed (t ++ ['\n'])], .ok ()⟩ := by
  obtain ⟨hchars, hcolon⟩ := isPlainChar_of_isSteady ht
  have hnone : ([] : Text).all isPlainChar = true := rfl
  have hout := output_inStyle h hchars (withPictures_eq_self hcolon) hnone rfl
  rw [List.append_nil, List.append_nil] at hout
  exact print_of_output hout

/-- The pieces of an escaped text behind plain text. -/
theorem scan_start_escape {start : Text} (hopen : '[' ∉ start) (hslash : '\\' ∉ start) (t : Text) :
    scan (start ++ escape t) = start.map .char ++ escapedPieces t := by
  have hscan := scan_escape_of_none opensFirst_nil rfl t
  rw [List.append_nil, show scanAfter 0 [] = [] from rfl, List.append_nil] at hscan
  rw [scan, scan_append_of_not_mem hopen hslash, hscan]

/-- An escaped text can be shown, whatever it is. -/
theorem renders_escape {start : Text} (hopen : '[' ∉ start) (hslash : '\\' ∉ start) (t : Text) :
    Renders (start ++ escape t) := by
  refine renders_of_isShown ?_
  rw [scan_start_escape hopen hslash, List.forall_mem_append]
  exact ⟨fun p hp => isShown_of_mem_map_char hp, isShown_of_mem_escapedPieces⟩

/-- An escaped text in a style can be shown, whatever it is. -/
theorem renders_inStyle_escape {style start : Text} (h : IsStyle style) (hopen : '[' ∉ start)
    (hslash : '\\' ∉ start) (t : Text) : Renders (inStyle style (start ++ escape t)) := by
  have hopens : OpensFirst (tagged 0 ('/' :: style) []) := opensFirst_open _
  obtain ⟨pieces, k, htext, hscan⟩ := scan_escape hopens t
  have hinner : ∀ p ∈ start.map .char ++ pieces, p.IsShown := by
    intro p hp
    rcases List.mem_append.1 hp with hp | hp
    · exact isShown_of_mem_map_char hp
    · exact isShown_of_mem_escapedPieces p (htext ▸ List.mem_append_left _ hp)
  have hnone : ∀ p ∈ ([] : List Piece), p.IsShown := fun p hp => absurd hp List.not_mem_nil
  have hend : List.replicate k '\\' ++ tagged 0 ('/' :: style) [] = tagged k ('/' :: style) [] :=
    rfl
  have hall : scan (inStyle style (start ++ escape t)) =
      .tag style :: ((start.map .char ++ pieces) ++ piecesOf k ('/' :: style)) := by
    rw [scan_inStyle h, List.append_assoc, scan_append_of_not_mem hopen hslash, hscan, hend,
      scan_tagged h.closes]
    simp [scanAfter]
  -- the backslashes at the end of the text decide whether the closing tag is one
  rcases isShown_or_tag_of_piecesOf k ('/' :: style) with hshown | ⟨last, hlast, hclose⟩
  · refine h.renders (fun p hp => ?_) hnone (.inl hall)
    rcases List.mem_append.1 hp with hp | hp
    · exact hinner p hp
    · exact hshown p hp
  · rw [hclose, ← List.append_assoc] at hall
    refine h.renders (fun p hp => ?_) hnone (.inr hall)
    rcases List.mem_append.1 hp with hp | hp
    · exact hinner p hp
    · exact hlast p hp

/-! ## Lines of several texts -/

/-- Plain text and a blank are shown in front of what comes behind them. -/
theorem shownOf_start {start : Text} (h : shownRun start = start) (ps : List Piece) :
    shownOf [] (start.map .char ++ .char ' ' :: ps) = start ++ ' ' :: shownOf [] ps := by
  have hmap := shownOf_map_char start [] []
  rw [List.append_nil, List.append_nil] at hmap
  rw [shownOf_append_blank, hmap, shownOf, List.reverse_reverse, h]

theorem scan_blank (t : Text) : scanAfter 0 (' ' :: t) = .char ' ' :: scanAfter 0 t :=
  scanAfter_of_none (tagAt?_cons (by decide) (by decide))

/-- The pieces of two texts in a style, the second of which is in brackets. -/
theorem scan_inStyle_texts {style start : Text} (h : IsStyle style) (hopen : '[' ∉ start)
    (hslash : '\\' ∉ start) (message rule : Text) :
    scan (inStyle style (start ++ ' ' :: escape message ++ ' ' :: escape ('[' :: rule ++ [']']))) =
      .tag style :: ((start.map .char ++ .char ' ' :: (escapedPieces message ++
        .char ' ' :: escapedPieces ('[' :: rule ++ [']']))) ++ [.tag ('/' :: style)]) := by
  have hclose : OpensFirst (tagged 0 ('/' :: style) []) := opensFirst_open _
  have hrule : OpensFirst (escape ('[' :: rule ++ [']']) ++ tagged 0 ('/' :: style) []) :=
    (opensFirst_open _).escape hclose
  have hmessage := scan_escape_of_none (hrule.cons (c := ' ') (by decide))
    (tagAt?_cons (by decide) (by decide)) message
  have hbracket := scan_escape_bracket hclose ('[' :: rule)
  rw [scan_inStyle h]
  simp only [List.append_assoc, List.cons_append] at *
  rw [scan_append_of_not_mem hopen hslash, scan_blank, hmessage, scan_blank, hbracket,
    scan_tagged h.closes]
  rfl

/-- Two texts in a style are displayed as each of them is alone. -/
theorem output_inStyle_texts {style start message rule : Text} (h : IsStyle style)
    (hstart : start.all isSteady = true) (hmessage : IsOrdinary message)
    (hrule : IsOrdinary ('[' :: rule ++ [']'])) :
    endless.output (inStyle style (start ++ ' ' :: escape message ++
        ' ' :: escape ('[' :: rule ++ [']']))) =
      .ok (start ++ ' ' :: displayed message ++ ' ' :: displayed ('[' :: rule ++ [']']) ++
        ['\n']) := by
  obtain ⟨hchars, hcolon⟩ := isPlainChar_of_isSteady hstart
  obtain ⟨hopen, hslash, htab⟩ := not_mem_of_all_isPlainChar hchars
  have hrun : shownRun start = start :=
    shownRun_eq_self hopen (withPictures_eq_self hcolon) (isSilent_of_all_isPlainChar hchars)
  have hscan := scan_inStyle_texts h hopen hslash message rule
  have hshown : shownOf [] (scan (inStyle style (start ++ ' ' :: escape message ++
      ' ' :: escape ('[' :: rule ++ [']'])))) =
      start ++ ' ' :: displayed message ++ ' ' :: displayed ('[' :: rule ++ [']']) := by
    rw [hscan]
    show shownRun [] ++ shownOf [] (_ ++ [.tag ('/' :: style)]) = _
    rw [shownOf_append_tag, shownOf_start hrun, shownOf_append_blank, shownOf_escapedPieces,
      shownOf_escapedPieces]
    simp [shownOf, show shownRun [] = [] from rfl]
  refine (h.renders (fun p hp => ?_) (List.forall_mem_nil _) (.inr hscan)).output_eq hshown ?_
  · simp only [List.mem_append, List.mem_cons] at hp
    rcases hp with hp | rfl | hp | rfl | hp
    · exact isShown_of_mem_map_char hp
    · trivial
    · exact isShown_of_mem_escapedPieces p hp
    · trivial
    · exact isShown_of_mem_escapedPieces p hp
  · simp only [List.mem_append, List.mem_cons, not_or]
    exact ⟨⟨htab, by decide, not_mem_tab_displayed hmessage⟩, by decide,
      not_mem_tab_displayed hrule⟩

end Console

/-! ## Lines of a report -/

open Console

/-- A name of a rule that is shown as it is: between brackets it could be a tag, so it is
escaped there. -/
structure Outcome.IsName (name : Text) : Prop where
  /-- The name could be a tag. -/
  tag : IsTag name
  /-- Its characters are shown as they are. -/
  chars : name.all isSteady = true

/-- Between brackets the name has no colon. -/
theorem Outcome.IsName.not_mem_colon {name : Text} (h : Outcome.IsName name) :
    ':' ∉ '[' :: name ++ [']'] := by
  simp [(isPlainChar_of_isSteady h.chars).2]

theorem Outcome.IsName.isOrdinary {name : Text} (h : Outcome.IsName name) :
    IsOrdinary ('[' :: name ++ [']']) := by
  have hname := isOrdinary_of_all_isPlainChar (isPlainChar_of_isSteady h.chars).1
  intro c hc
  rcases List.mem_append.1 hc with hc | hc
  · rcases List.mem_cons.1 hc with rfl | hc
    · decide
    · exact hname c hc
  · obtain rfl := List.mem_singleton.1 hc
    decide

/-- Between brackets the name is verbatim, because it is a tag. -/
theorem Outcome.IsName.isVerbatim {name : Text} (h : Outcome.IsName name) :
    IsVerbatim ('[' :: name ++ [']']) := by
  have hparts : parts ('[' :: name ++ [']']) = [[], '[' :: name ++ [']'], []] := by
    show partsOf [] (textPieces (tagged 0 name [])) = _
    rw [textPieces_tagged h.tag]
    rfl
  have hempty : ¬NamesPicture [] ∧ ¬['\\', '['] <:+: [] :=
    ⟨withPictures_eq_self_iff.1 rfl, dropBracketEscapes_eq_self_iff.1 rfl⟩
  have hname : ¬NamesPicture ('[' :: name ++ [']']) ∧ ¬['\\', '['] <:+: '[' :: name ++ [']'] :=
    ⟨withPictures_eq_self_iff.1 (withPictures_eq_self h.not_mem_colon),
      dropBracketEscapes_eq_self_iff.1 (dropBracketEscapes_bracketed h.tag)⟩
  have hall : ∀ part ∈ parts ('[' :: name ++ [']']),
      ¬NamesPicture part ∧ ¬['\\', '['] <:+: part := by
    rw [hparts]
    simp only [List.forall_mem_cons]
    exact ⟨hempty, hname, hempty, List.forall_mem_nil _⟩
  exact ⟨fun part hpart => (hall part hpart).1, fun part hpart => (hall part hpart).2,
    by simp [endsInBackslash]⟩

/-- An outcome that can be shown, because a failure is explained by plain text. -/
structure Outcome.IsShowable (o : Outcome) : Prop where
  /-- The name of the rule is shown as it is. -/
  named : Outcome.IsName o.rule
  /-- A failure has a plain message. -/
  explained : o.valid = false → ∃ m, o.message = some m ∧ IsPlain m

/-- What an outcome says, under the name of its rule. -/
def Outcome.problem (o : Outcome) : Text × Text := (o.rule, o.message.getD [])

theorem Outcome.isError_iff {o : Outcome} :
    o.isError = true ↔ o.valid = false ∧ o.level = .error := by
  simp [Outcome.isError]

theorem Outcome.isWarning_iff {o : Outcome} :
    o.isWarning = true ↔ o.valid = false ∧ o.level = .warning := by
  simp [Outcome.isWarning]

/-- The texts of a problem: what is said, and the name of the rule in brackets. -/
def Outcome.texts (o : Outcome) : List Text := [o.message.getD [], '[' :: o.rule ++ [']']]

theorem Outcome.forall_mem_texts {o : Outcome} {P : Text → Prop} :
    (∀ t ∈ o.texts, P t) ↔ P (o.message.getD []) ∧ P ('[' :: o.rule ++ [']']) := by
  rw [texts, List.forall_mem_cons, List.forall_mem_singleton]

namespace Report

/-- The line of a problem. -/
def problemText (sign : Char) (rule message : Text) : Text :=
  sign :: "   ".toList ++ message ++ [' '] ++ ('[' :: rule ++ [']']) ++ ['\n']

/-- The line of the counts, and the empty line after it. -/
def countsText (sign : Char) (errors warnings : Nat) : Text :=
  sign :: "   ".toList ++ ("found ".toList ++ natText errors ++ " problems, ".toList ++
    natText warnings ++ " warnings".toList) ++ ['\n', '\n']

theorem output_titleLine (r : Report) : ∃ title, endless.output r.titleLine = .ok title :=
  (renders_escape (by decide) (by decide) _).output

/-- The line of a problem, with its texts shown in some way. -/
def problemBy (f : Text → Text) (sign : Char) (o : Outcome) : Event :=
  .printed (sign :: "   ".toList ++ f (o.message.getD []) ++
    ' ' :: f ('[' :: o.rule ++ [']']) ++ ['\n'])

theorem print_problem {style m : Text} {sign : Char} {o : Outcome} (h : IsStyle style)
    (hsign : isSteady sign = true) (hm : o.message = some m) (ho : ∀ t ∈ o.texts, IsOrdinary t) :
    printProblem endless style sign o = ⟨[problemBy displayed sign o], .ok ()⟩ := by
  have hstart : (sign :: "  ".toList).all isSteady = true := by
    have hblanks : ("  ".toList).all isSteady = true := by decide
    rw [List.all_cons, hsign, hblanks]
    rfl
  rw [Outcome.forall_mem_texts, hm, Option.getD_some] at ho
  have hblank : ∀ t, sign :: "   ".toList ++ t = sign :: "  ".toList ++ ' ' :: t := fun _ => rfl
  have hline : problemLine style sign o = .ok (inStyle style (sign :: "  ".toList ++
      ' ' :: escape m ++ ' ' :: escape ('[' :: o.rule ++ [']']))) := by
    rw [problemLine, hm, ← hblank]
  unfold printProblem problemBy
  rw [hline, Run.bind_ofExcept_ok, print_of_output (output_inStyle_texts h hstart ho.1 ho.2), hm,
    ← hblank]
  rfl

/-- The line of a problem has its texts as they are exactly if both are verbatim. -/
theorem problemBy_eq_iff {o : Outcome} (h : ∀ t ∈ o.texts, IsOrdinary t) (sign : Char) :
    problemBy displayed sign o = problemBy id sign o ↔ ∀ t ∈ o.texts, IsVerbatim t := by
  rw [Outcome.forall_mem_texts] at h ⊢
  rw [problemBy, problemBy, Event.printed.injEq, List.append_left_inj, List.append_assoc,
    List.append_assoc, List.append_right_inj, id_eq, id_eq, displayed_blank_eq_iff h.1 h.2]

/-- A problem that can be shown is shown in one line. -/
theorem printProblem_of_isShowable {style : Text} {sign : Char} (h : IsStyle style)
    (hsign : isSteady sign = true) {o : Outcome} (ho : o.IsShowable) (hvalid : o.valid = false) :
    printProblem endless style sign o =
      ⟨[.printed (problemText sign o.rule (o.message.getD []))], .ok ()⟩ := by
  obtain ⟨m, hm, hplain⟩ := ho.explained hvalid
  have hordinary : ∀ t ∈ o.texts, IsOrdinary t := by
    rw [Outcome.forall_mem_texts, hm, Option.getD_some]
    exact ⟨isOrdinary_of_all_isPlainChar hplain.chars, ho.named.isOrdinary⟩
  have hverbatim : ∀ t ∈ o.texts, IsVerbatim t := by
    rw [Outcome.forall_mem_texts, hm, Option.getD_some]
    exact ⟨hplain.isVerbatim, ho.named.isVerbatim⟩
  rw [print_problem h hsign hm hordinary, (problemBy_eq_iff hordinary sign).2 hverbatim]
  simp [problemBy, problemText]

theorem isSteady_natText (n : Nat) : (natText n).all isSteady = true := by
  refine List.all_eq_true.2 fun c hc => isSteady_of_isDigit ?_
  exact Nat.isDigit_of_mem_toDigits (by decide) (by decide) hc

/-- The line of the counts is shown as it is, with an empty line after it. -/
theorem output_counts {style : Text} {sign : Char} (h : IsStyle style)
    (hsign : isSteady sign = true) (r : Report) :
    endless.output (inStyle style (sign :: "   ".toList ++ r.counts) ++ ['\n']) =
      .ok (countsText sign r.errors.length r.warnings.length) := by
  have hall : (sign :: "   ".toList ++ r.counts).all isSteady = true := by
    have hblanks : ("   ".toList).all isSteady = true := by decide
    have hfound : ("found ".toList).all isSteady = true := by decide
    have hproblems : (" problems, ".toList).all isSteady = true := by decide
    have hwarnings : (" warnings".toList).all isSteady = true := by decide
    unfold counts
    simp only [List.all_append, List.all_cons, hsign, hblanks, hfound, hproblems, hwarnings,
      isSteady_natText, Bool.and_true]
  have hend : (['\n'] : Text).all isPlainChar = true := by decide
  have hendPictures : withPictures ['\n'] = ['\n'] := by decide
  obtain ⟨hchars, hcolon⟩ := isPlainChar_of_isSteady hall
  rw [output_inStyle h hchars (withPictures_eq_self hcolon) hend hendPictures]
  unfold countsText counts
  rw [List.append_assoc _ ['\n'] ['\n']]
  rfl

/-- The sign of the gravest problem. -/
def gravestSign (errors warnings : Nat) : Char :=
  if errors ≠ 0 then '✖' else if warnings ≠ 0 then '⚠' else '✔'

theorem output_summaryLine (r : Report) :
    endless.output r.summaryLine = .ok
      (countsText (gravestSign r.errors.length r.warnings.length) r.errors.length
        r.warnings.length) := by
  unfold summaryLine gravestSign
  cases herrors : r.errors with
  | cons o os =>
    have hcounts := output_counts isStyle_red (show isSteady '✖' = true by decide) r
    rw [herrors] at hcounts
    exact hcounts
  | nil => cases hwarnings : r.warnings with
    | cons o os =>
      have hcounts := output_counts isStyle_yellow (show isSteady '⚠' = true by decide) r
      rw [herrors, hwarnings] at hcounts
      exact hcounts
    | nil =>
      have hcounts := output_counts isStyle_green (show isSteady '✔' = true by decide) r
      rw [herrors, hwarnings] at hcounts
      exact hcounts

/-! ## Reports -/

/-- A problem as an event on the console. -/
def printedProblem (sign : Char) (p : Text × Text) : Event := .printed (problemText sign p.1 p.2)

/-- A report with outcomes that can be shown is shown by its title, a line for each error and
then for each warning, and a line with their numbers. -/
theorem print_eq {r : Report} {title : Text} (ho : ∀ o ∈ r.outcomes, o.IsShowable)
    (htitle : endless.output r.titleLine = .ok title) :
    r.print endless = ⟨.printed title ::
      ((r.errors.map Outcome.problem).map (printedProblem '✖') ++
      (r.warnings.map Outcome.problem).map (printedProblem '⚠') ++
      [.printed (countsText (gravestSign r.errors.length r.warnings.length) r.errors.length
        r.warnings.length)]), .ok ()⟩ := by
  have herrors : Run.each (printProblem endless "red" '✖') r.errors =
      ⟨(r.errors.map Outcome.problem).map (printedProblem '✖'), .ok ()⟩ := by
    rw [List.map_map]
    refine Run.each_of_eq fun o hmem => ?_
    obtain ⟨hmem, herror⟩ := List.mem_filter.1 hmem
    exact printProblem_of_isShowable isStyle_red (by decide) (ho o hmem)
      (Outcome.isError_iff.1 herror).1
  have hwarnings : Run.each (printProblem endless "yellow" '⚠') r.warnings =
      ⟨(r.warnings.map Outcome.problem).map (printedProblem '⚠'), .ok ()⟩ := by
    rw [List.map_map]
    refine Run.each_of_eq fun o hmem => ?_
    obtain ⟨hmem, hwarning⟩ := List.mem_filter.1 hmem
    exact printProblem_of_isShowable isStyle_yellow (by decide) (ho o hmem)
      (Outcome.isWarning_iff.1 hwarning).1
  unfold print
  rw [print_of_output htitle, herrors, hwarnings, print_of_output (output_summaryLine r)]
  simp [Run.bind_ok]

end Report

end CommitCheck
