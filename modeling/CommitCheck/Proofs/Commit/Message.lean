import CommitCheck.Commit.Message
import CommitCheck.Proofs.Text.Lines
import Mathlib.Data.List.TakeWhile

/-!
# Messages taken apart

What `Message.parse` makes of the lines that count.

`IsMessageOf` tells it without a parser.  Where no line has text, the message is empty.  Else the
first line with text, without the blanks at its end, is the header, and the lines below it are some
line feeds, the body and some blanks.  `parse` gives the one message of which this is true, and all
that leaves ink on the lines is in it, in order (`parse_keeps_text`).

A message that was parsed is in a normal form: no part of it could be trimmed or dropped
(`IsNormal`).  A message in that form is what is parsed when it is written out
(`parse_render_of_isNormal`), if no line of its body ends in a carriage return with another line
below.  There is no such line in what is parsed of a text that has no pair of a carriage return and
a line feed with another carriage return in front (`parse_isNormal`).
-/

namespace CommitCheck

/-! ## Ink -/

/-- The characters of a text that leave ink on paper. -/
def ink (t : Text) : Text := t.filter (!isBlank ·)

theorem ink_append (t u : Text) : ink (t ++ u) = ink t ++ ink u := List.filter_append t u

/-- A blank text leaves no ink. -/
theorem ink_eq_nil {t : Text} (h : isBlankText t = true) : ink t = [] :=
  List.filter_eq_nil_iff.2 fun c hc => by simp [List.all_eq_true.1 h c hc]

/-- The line feeds between lines leave no ink. -/
theorem ink_ofLines (lines : List Text) : ink (ofLines lines) = lines.flatMap ink := by
  induction lines with
  | nil => rfl
  | cons l lines ih =>
    cases lines with
    | nil => rw [ofLines_singleton, List.flatMap_cons, List.flatMap_nil, List.append_nil]
    | cons m lines =>
      have hfeed : ink ['\n'] = [] := by decide
      rw [ofLines_cons_cons, List.append_cons, ink_append, ink_append, ih, hfeed, List.append_nil]
      rfl

namespace Message

variable {raw : Text} {stripComments : Bool} {lines : List Text} {m : Message} {body : Option Text}

/-! ## What lines make -/

/-- A body has text, no line feed at its start and no blank at its end. -/
structure IsBody (b : Text) : Prop where
  /-- There is text. -/
  ne_nil : b ≠ []
  /-- No line feed comes first. -/
  head : b.head? ≠ some '\n'
  /-- No blank comes last. -/
  last : ∀ c, b.getLast? = some c → isBlank c = false

/-- The body that the lines below a header make. -/
inductive IsBodyOf (lines : List Text) : Option Text → Prop
  /-- No line has text. -/
  | absent : (∀ l ∈ lines, isBlankText l = true) → IsBodyOf lines none
  /-- Some line has text, and the lines are line feeds, the body and blanks. -/
  | present {feeds b blanks : Text} : (∃ l ∈ lines, isBlankText l = false) →
      ofLines lines = feeds ++ b ++ blanks → (∀ c ∈ feeds, c = '\n') →
      isBlankText blanks = true → IsBody b → IsBodyOf lines (some b)

/-- The message that lines make. -/
inductive IsMessageOf : List Text → Message → Prop
  /-- No line has text. -/
  | blank {lines : List Text} : (∀ l ∈ lines, isBlankText l = true) → IsMessageOf lines ⟨[], none⟩
  /-- The first line with text is the header, but for the blanks at its end. -/
  | headed {before after : List Text} {header blanks : Text} {body : Option Text} :
      (∀ l ∈ before, isBlankText l = true) → isBlankText (header ++ blanks) = false →
      (∀ c, header.getLast? = some c → isBlank c = false) → isBlankText blanks = true →
      IsBodyOf after body → IsMessageOf (before ++ (header ++ blanks) :: after) ⟨header, body⟩

/-! ## The body -/

/-- The blanks that are dropped at the end of the body are more than its line feeds there. -/
theorem trimEnd_dropEnds (t : Text) :
    trimEnd (dropEnds (· == '\n') t) = trimEnd (dropLead (· == '\n') t) := by
  obtain ⟨r, hr, hfeeds⟩ := dropTrail_append (· == '\n') (dropLead (· == '\n') t)
  have hblank : r.all isBlank = true := by
    refine List.all_eq_true.2 fun c hc => ?_
    obtain rfl : c = '\n' := by simpa using List.all_eq_true.1 hfeeds c hc
    decide
  conv_rhs => rw [hr]
  exact (dropTrail_append_of_all hblank _).symm

/-- What is left of a text without the line feeds at its start and the blanks at its end. -/
theorem exists_feeds_append (t : Text) :
    ∃ feeds blanks, t = feeds ++ trimEnd (dropLead (· == '\n') t) ++ blanks ∧
      (∀ c ∈ feeds, c = '\n') ∧ isBlankText blanks = true := by
  obtain ⟨blanks, hblanks, hall⟩ := dropTrail_append isBlank (dropLead (· == '\n') t)
  refine ⟨t.takeWhile (· == '\n'), blanks, ?_, fun c hc => ?_, hall⟩
  · conv_lhs => rw [← List.takeWhile_append_dropWhile (p := (· == '\n')) (l := t)]
    rw [List.append_assoc]
    exact congrArg _ hblanks
  · simpa using List.all_eq_true.1 List.all_takeWhile c hc

/-- A body is not blank. -/
theorem IsBody.isBlankText_eq_false {b : Text} (h : IsBody b) : isBlankText b = false :=
  CommitCheck.isBlankText_eq_false h.ne_nil h.last

/-- What is left of a text without the line feeds at its start and the blanks at its end is a body,
if anything is left. -/
theorem isBody_trimEnd {t : Text} (h : trimEnd (dropLead (· == '\n') t) ≠ []) :
    IsBody (trimEnd (dropLead (· == '\n') t)) where
  ne_nil := h
  head := by
    intro hhead
    obtain ⟨r, hr⟩ := dropTrail_prefix_self isBlank (dropLead (· == '\n') t)
    have hfirst : (dropLead (· == '\n') t).head? = some '\n' := by
      rw [← hr, List.head?_append]
      exact congrArg (Option.or · _) hhead
    exact absurd (head?_dropLead hfirst) (by decide)
  last _ hlast := dropTrail_getLast? hlast

theorem isBodyOf_bodyOf (lines : List Text) : IsBodyOf lines (bodyOf lines) := by
  obtain ⟨feeds, blanks, hparts, hfeeds, hblanks⟩ := exists_feeds_append (ofLines lines)
  have hbody := isBody_trimEnd (t := ofLines lines)
  unfold bodyOf
  rw [trimEnd_dropEnds]
  cases hb : trimEnd (dropLead (· == '\n') (ofLines lines)) with
  | nil =>
    refine .absent (isBlankText_ofLines_iff.1 ?_)
    rw [hparts, hb, isBlankText_append, isBlankText_append, isBlankText_of_feeds hfeeds, hblanks]
    rfl
  | cons c cs =>
    rw [hb] at hparts hbody
    have hbody := hbody (List.cons_ne_nil c cs)
    refine .present (exists_isBlankText_eq_false ?_) hparts hfeeds hblanks hbody
    rw [hparts, isBlankText_append, isBlankText_append, hbody.isBlankText_eq_false, Bool.and_false,
      Bool.false_and]

/-- Lines make one body. -/
theorem IsBodyOf.bodyOf_eq (h : IsBodyOf lines body) : bodyOf lines = body := by
  unfold bodyOf
  rw [trimEnd_dropEnds]
  cases h with
  | absent hblank =>
    have hnil : trimEnd (dropLead (· == '\n') (ofLines lines)) = [] := by
      refine dropTrail_eq_nil_iff.2 (List.all_eq_true.2 fun c hc => ?_)
      exact List.all_eq_true.1 (isBlankText_ofLines_iff.2 hblank) c
        ((List.dropWhile_sublist _).subset hc)
    rw [hnil]
  | @present feeds b blanks _ hparts hfeeds hblanks hbody =>
    have hlead : dropLead (· == '\n') (ofLines lines) = b ++ blanks := by
      rw [hparts, List.append_assoc, dropLead,
        List.dropWhile_append_of_pos fun c hc => beq_iff_eq.2 (hfeeds c hc)]
      refine dropLead_eq_self fun c hc => beq_false_of_ne ?_
      rintro rfl
      obtain ⟨d, ds, rfl⟩ := List.exists_cons_of_ne_nil hbody.ne_nil
      exact hbody.head hc
    have hb : trimEnd (b ++ blanks) = b :=
      (dropTrail_append_of_all hblanks b).trans (dropTrail_eq_self hbody.last)
    rw [hlead, hb]
    split
    · exact absurd rfl hbody.ne_nil
    · rfl

theorem IsBodyOf.ink_eq (h : IsBodyOf lines body) : ink (body.getD []) = lines.flatMap ink := by
  rw [← ink_ofLines]
  cases h with
  | absent hblank => exact (ink_eq_nil (isBlankText_ofLines_iff.2 hblank)).symm
  | present _ hparts hfeeds hblanks _ =>
    rw [hparts, ink_append, ink_append, ink_eq_nil (isBlankText_of_feeds hfeeds),
      ink_eq_nil hblanks, List.nil_append, List.append_nil]
    rfl

/-! ## The message -/

/-- The lines in front of the header, the header and the lines below. -/
theorem isMessageOf_ofRetained (lines : List Text) : IsMessageOf lines (ofRetained lines) := by
  have hlines := List.takeWhile_append_dropWhile (p := isBlankText) (l := lines)
  have hbefore : ∀ l ∈ lines.takeWhile isBlankText, isBlankText l = true :=
    List.all_eq_true.1 List.all_takeWhile
  unfold ofRetained
  cases hdrop : lines.dropWhile isBlankText with
  | nil => exact .blank (List.dropWhile_eq_nil_iff.1 hdrop)
  | cons h rest =>
    have hh : isBlankText h = false := by
      have hnot := List.head?_dropWhile_not isBlankText lines
      rwa [hdrop] at hnot
    obtain ⟨blanks, hparts, hblanks⟩ := dropTrail_append isBlank h
    have hmessage := IsMessageOf.headed hbefore (hparts ▸ hh)
      (fun c hc => dropTrail_getLast? hc) hblanks (isBodyOf_bodyOf rest)
    rwa [← hparts, ← hdrop, hlines] at hmessage

/-- Lines make one message. -/
theorem IsMessageOf.ofRetained_eq (h : IsMessageOf lines m) : ofRetained lines = m := by
  unfold ofRetained
  cases h with
  | blank hblank => rw [List.dropWhile_eq_nil_iff.2 hblank]
  | @headed before after header blanks body hbefore htext hlast hblanks hbody =>
    have hheader : trimEnd (header ++ blanks) = header :=
      (dropTrail_append_of_all hblanks header).trans (dropTrail_eq_self hlast)
    rw [List.dropWhile_append_of_pos hbefore, List.dropWhile_cons_of_neg (by simp [htext])]
    dsimp only
    rw [hheader, hbody.bodyOf_eq]

theorem ofRetained_eq_iff : ofRetained lines = m ↔ IsMessageOf lines m :=
  ⟨fun h => h ▸ isMessageOf_ofRetained lines, IsMessageOf.ofRetained_eq⟩

theorem IsMessageOf.ink_eq (h : IsMessageOf lines m) :
    ink (m.header ++ m.body.getD []) = lines.flatMap ink := by
  cases h with
  | blank hblank => exact (List.flatMap_eq_nil_iff.2 fun l hl => ink_eq_nil (hblank l hl)).symm
  | headed hbefore _ _ hblanks hbody =>
    rw [List.flatMap_append, List.flatMap_cons, ← hbody.ink_eq, ink_append, ink_append,
      List.flatMap_eq_nil_iff.2 fun l hl => ink_eq_nil (hbefore l hl), ink_eq_nil hblanks,
      List.nil_append, List.append_nil]

/-- A message is what its lines make, and nothing that leaves ink is lost or added.

If no line that counts has text, the header is empty and there is no body.  Else the header is the
first line with text, without the blanks at its end.  The body is absent exactly if no line below
has text, and else those lines are line feeds, the body and blanks.  No other message is made of
these lines.  The ink of the header and of the body is that of all the lines, in order. -/
theorem parse_keeps_text (raw : Text) (stripComments : Bool) :
    (∀ m, parse raw stripComments = m ↔ IsMessageOf (retained raw stripComments) m) ∧
      ink ((parse raw stripComments).header ++ (parse raw stripComments).body.getD []) =
        (retained raw stripComments).flatMap ink :=
  ⟨fun _ => ofRetained_eq_iff, (isMessageOf_ofRetained _).ink_eq⟩

/-! ## Lines that count -/

theorem retained_sublist (raw : Text) (stripComments : Bool) :
    List.Sublist (retained raw stripComments) (linesOf (unifyPairs raw)) := by
  cases stripComments with
  | false => exact List.Sublist.refl _
  | true => exact List.filter_sublist

theorem not_mem_of_mem_retained {l : Text} (h : l ∈ retained raw stripComments) : '\n' ∉ l :=
  not_mem_of_mem_linesOf ((retained_sublist raw stripComments).subset h)

theorem isComment_of_mem_retained {l : Text} (h : l ∈ retained raw true) : isComment l = false := by
  simpa using (List.mem_filter.1 h).2

/-- Where the text has no comments, all its lines count. -/
theorem retained_eq {lines : List Text} (h : linesOf (unifyPairs raw) = lines)
    (hcomments : stripComments = true → ∀ l ∈ lines, isComment l = false) :
    retained raw stripComments = lines := by
  cases stripComments with
  | false => exact h
  | true =>
    unfold retained
    rw [h]
    exact List.filter_eq_self.2 fun l hl => by simp [hcomments rfl l hl]

/-- What a comment starts is one. -/
theorem isComment_of_prefix {l l' : Text} (h : l <+: l') (hl : isComment l = true) :
    isComment l' = true := by
  obtain ⟨rest, rfl⟩ := h
  cases l with
  | nil => cases hl
  | cons c cs => exact hl

/-! ## The normal form -/

/-- A message of which no part could be trimmed or dropped. -/
structure IsNormal (stripComments : Bool) (m : Message) : Prop where
  /-- The header is one line. -/
  line : '\n' ∉ m.header
  /-- No blank comes last in it. -/
  last : ∀ c, m.header.getLast? = some c → isBlank c = false
  /-- Without a header there is no body. -/
  headed : m.header = [] → m.body = none
  /-- The body has text, no line feed at its start and no blank at its end. -/
  body : ∀ b, m.body = some b → IsBody b
  /-- No line is a comment, if comments are dropped. -/
  uncommented : stripComments = true → isComment m.header = false ∧
    ∀ b, m.body = some b → ∀ l ∈ linesOf b, isComment l = false

theorem mem_linesOf_append_of_feeds {feeds t l : Text} (hfeeds : ∀ c ∈ feeds, c = '\n')
    (h : l ∈ linesOf t) : l ∈ linesOf (feeds ++ t) := by
  induction feeds with
  | nil => exact h
  | cons c cs ih =>
    obtain ⟨rfl, hcs⟩ := List.forall_mem_cons.1 hfeeds
    rw [List.cons_append, linesOf, splitAt_cons_self]
    exact List.mem_cons_of_mem _ (ih hcs)

/-- Each line of the body is the start of a line. -/
theorem IsBodyOf.exists_prefix {b l : Text} (h : IsBodyOf lines (some b))
    (hlines : ∀ l ∈ lines, '\n' ∉ l) (hl : l ∈ linesOf b) : ∃ l' ∈ lines, l <+: l' := by
  obtain _ | ⟨⟨k, hk, -⟩, hparts, hfeeds, -, -⟩ := h
  obtain ⟨l', hl', hprefix⟩ :=
    exists_prefix_of_mem_linesOf (mem_linesOf_append_of_feeds hfeeds hl) _
  rw [← hparts, linesOf_ofLines (List.ne_nil_of_mem hk) hlines] at hl'
  exact ⟨l', hl', hprefix⟩

/-- What lines make is in the normal form. -/
theorem IsMessageOf.isNormal (h : IsMessageOf lines m) (hlines : ∀ l ∈ lines, '\n' ∉ l)
    (hcomments : stripComments = true → ∀ l ∈ lines, isComment l = false) :
    IsNormal stripComments m := by
  cases h with
  | blank => exact ⟨List.not_mem_nil, nofun, fun _ => rfl, nofun, fun _ => ⟨rfl, nofun⟩⟩
  | @headed before after header blanks body _ htext hlast hblanks hbody =>
    have hmem : header ++ blanks ∈ before ++ (header ++ blanks) :: after :=
      List.mem_append_right _ List.mem_cons_self
    have hafter : ∀ l ∈ after, l ∈ before ++ (header ++ blanks) :: after := fun l hl =>
      List.mem_append_right _ (List.mem_cons_of_mem _ hl)
    refine ⟨fun hfeed => hlines _ hmem (List.mem_append_left _ hfeed), hlast, ?_, ?_, ?_⟩
    · rintro rfl
      rw [List.nil_append, hblanks] at htext
      cases htext
    · rintro b rfl
      cases hbody with
      | present _ _ _ _ hb => exact hb
    · refine fun hstrip => ⟨eq_false_of_ne_true fun hcomment => ?_, ?_⟩
      · have hline := isComment_of_prefix (List.prefix_append header blanks) hcomment
        rw [hcomments hstrip _ hmem] at hline
        cases hline
      · rintro b rfl l hl
        obtain ⟨l', hl', hprefix⟩ := hbody.exists_prefix (fun l hl => hlines l (hafter l hl)) hl
        refine eq_false_of_ne_true fun hcomment => ?_
        have hline := isComment_of_prefix hprefix hcomment
        rw [hcomments hstrip l' (hafter l' hl')] at hline
        cases hline

/-- What is parsed is in the normal form. -/
theorem isNormal_parse (raw : Text) (stripComments : Bool) :
    IsNormal stripComments (parse raw stripComments) :=
  (isMessageOf_ofRetained _).isNormal (fun _ => not_mem_of_mem_retained) fun hstrip _ hl => by
    subst hstrip
    exact isComment_of_mem_retained hl

/-! ## Messages written out -/

/-- The lines below the header of a message written out. -/
def linesBelow : Option Text → List Text
  | none => []
  | some b => [] :: linesOf b

theorem linesOf_render (h : '\n' ∉ m.header) :
    linesOf (render m) = m.header :: linesBelow m.body := by
  unfold render
  cases m.body with
  | none => exact splitAt_of_not_mem h
  | some b =>
    dsimp only
    rw [linesOf, splitAt_append_cons, splitAt_of_not_mem h, splitAt_cons_self]
    rfl

theorem ofLines_nil_cons_linesOf (t : Text) : ofLines ([] :: linesOf t) = '\n' :: t := by
  obtain ⟨first, rest, hlines⟩ := List.exists_cons_of_ne_nil (splitAt_ne_nil '\n' t)
  rw [linesOf, hlines, ofLines_cons_cons, ← hlines]
  exact congrArg ('\n' :: ·) (ofLines_linesOf t)

/-- The lines below the header make the body again. -/
theorem isBodyOf_linesBelow (h : ∀ b, body = some b → IsBody b) :
    IsBodyOf (linesBelow body) body := by
  cases body with
  | none => exact .absent fun l hl => absurd hl List.not_mem_nil
  | some b =>
    have hb := h b rfl
    have hparts : ofLines (linesBelow (some b)) = ['\n'] ++ b ++ [] := by
      rw [List.append_nil]
      exact ofLines_nil_cons_linesOf b
    refine .present (exists_isBlankText_eq_false ?_) hparts (by simp) rfl hb
    rw [hparts, List.append_nil, isBlankText_append, hb.isBlankText_eq_false, Bool.and_false]

/-- A message in the normal form is what its lines make. -/
theorem IsNormal.isMessageOf (h : IsNormal stripComments m) :
    IsMessageOf (m.header :: linesBelow m.body) m := by
  obtain ⟨header, body⟩ := m
  by_cases hne : header = []
  · subst hne
    obtain rfl : body = none := h.headed rfl
    exact .blank (List.forall_mem_singleton.2 rfl)
  · have htext : isBlankText (header ++ []) = false := by
      rw [List.append_nil]
      exact isBlankText_eq_false hne h.last
    have hmessage := IsMessageOf.headed (fun l hl => absurd hl List.not_mem_nil) htext h.last rfl
      (isBodyOf_linesBelow h.body)
    rwa [List.append_nil] at hmessage

/-- A message in the normal form is parsed again when it is written out, unless a pair in its body
would be taken for a line feed. -/
theorem parse_render_of_isNormal (h : IsNormal stripComments m)
    (hpair : ∀ b, m.body = some b → ¬returnPair <:+: b) :
    parse (render m) stripComments = m := by
  have hline : ∀ t : Text, '\n' ∉ t → ¬returnPair <:+: t := fun t ht hp =>
    ht (hp.subset (by decide))
  have hnone : ¬returnPair <:+: render m := by
    unfold render
    cases hb : m.body with
    | none => exact hline m.header h.line
    | some b =>
      dsimp only
      rw [pair_infix_append_cons_iff, List.infix_cons_iff]
      rintro (hp | hlast | hp | hp)
      · exact hline m.header h.line hp
      · exact absurd (h.last _ hlast) (by decide)
      · simp [returnPair] at hp
      · exact hpair b hb hp
  have hcomments : stripComments = true →
      ∀ l ∈ m.header :: linesBelow m.body, isComment l = false := by
    intro hstrip
    obtain ⟨hheader, hbody⟩ := h.uncommented hstrip
    refine List.forall_mem_cons.2 ⟨hheader, ?_⟩
    cases hb : m.body with
    | none => exact fun l hl => absurd hl List.not_mem_nil
    | some b => exact List.forall_mem_cons.2 ⟨rfl, hbody b hb⟩
  have hlines : linesOf (unifyPairs (render m)) = m.header :: linesBelow m.body := by
    rw [unifyPairs_eq_self hnone, linesOf_render h.line]
  rw [parse, retained_eq hlines hcomments]
  exact h.isMessageOf.ofRetained_eq

/-- A pair in a body is the end of one in the raw text with a carriage return in front. -/
theorem pair_infix_of_parse {b : Text} (hbody : (parse raw stripComments).body = some b)
    (h : returnPair <:+: b) : '\r' :: returnPair <:+: raw := by
  have hmessage := isMessageOf_ofRetained (retained raw stripComments)
  have hlines : ∀ l ∈ retained raw stripComments, '\n' ∉ l := fun _ => not_mem_of_mem_retained
  have hsub := retained_sublist raw stripComments
  change (ofRetained (retained raw stripComments)).body = some b at hbody
  generalize ofRetained (retained raw stripComments) = m at hmessage hbody
  generalize retained raw stripComments = lines at hmessage hlines hsub
  cases hmessage with
  | blank => cases hbody
  | @headed before after header blanks body _ _ _ _ hbodyOf =>
    obtain rfl : body = some b := hbody
    obtain _ | ⟨-, hparts, -, -, -⟩ := hbodyOf
    have hafter : List.Sublist after (before ++ (header ++ blanks) :: after) :=
      (List.sublist_cons_self _ _).trans (List.sublist_append_right _ _)
    have hpair : returnPair <:+: ofLines after := h.trans ⟨_, _, hparts.symm⟩
    obtain ⟨l, k, hlk, hl⟩ :=
      (pair_infix_ofLines_iff fun l hl => hlines l (hafter.subset hl)).1 hpair
    have hall := (pair_infix_ofLines_iff fun l => not_mem_of_mem_linesOf).2
      ⟨l, k, (hlk.trans hafter).trans hsub, hl⟩
    rw [ofLines_linesOf] at hall
    exact pair_infix_of_unifyPairs hall

/-- What is parsed is in the normal form, and it is parsed once more when it is written out, unless
the raw text has a carriage return in front of a pair. -/
theorem parse_isNormal (raw : Text) (stripComments : Bool) :
    IsNormal stripComments (parse raw stripComments) ∧
      (¬ '\r' :: returnPair <:+: raw →
        parse (render (parse raw stripComments)) stripComments = parse raw stripComments) :=
  ⟨isNormal_parse raw stripComments, fun h =>
    parse_render_of_isNormal (isNormal_parse raw stripComments) fun _ hbody hpair =>
      h (pair_infix_of_parse hbody hpair)⟩

/-- A text with line ends of both kinds, a carriage return inside a line and comments. -/
def mixed : Text := "\r\n# new\r\n fix: a\rb \x1c\r\n\n#\r\n \x85\n  why\r\n# c\n\nIssue #nil\r"

theorem parse_isNormal_mixed :
    ¬ '\r' :: returnPair <:+: mixed ∧
      parse mixed true = ⟨" fix: a\rb", some " \x85\n  why\n\nIssue #nil"⟩ ∧
      parse (render (parse mixed true)) true = parse mixed true := by
  have hpair : ¬ '\r' :: returnPair <:+: mixed := fun h =>
    absurd (occursIn_iff.2 h) (by decide +kernel)
  exact ⟨hpair, by decide +kernel, (parse_isNormal mixed true).2 hpair⟩

example : parse (render (parse "a\n\nb\r\r\nc" false)) false ≠ parse "a\n\nb\r\r\nc" false := by
  decide

end Message

end CommitCheck
