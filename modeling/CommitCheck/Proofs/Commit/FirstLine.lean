import CommitCheck.Proofs.Commit.Message

/-!
# The first line of a body

The body of a message loses the line feeds at its start, and so the empty lines below the header
(`dropLead_ofLines`), but no line of blanks.  Its first line is therefore the first line below the
header that is not empty, if there is text at all (`isBlankText_firstLine`).

Hence a body starts with text unless that line is blank, and text comes after it
(`parse_startsWithText_iff`).  Above the header all blank lines are dropped, those of blanks
too, so the lines above it and those below it are not treated alike.
-/

namespace CommitCheck

variable {u b : Text} {lines rest : List Text} {line : Text}

/-! ## First lines -/

/-- The first line of a text. -/
def firstLine (t : Text) : Text := (linesOf t).headD []

/-- The first line of a text has text. -/
def StartsWithText (t : Text) : Prop := isBlankText (firstLine t) = false

instance (t : Text) : Decidable (StartsWithText t) :=
  inferInstanceAs (Decidable (isBlankText (firstLine t) = false))

/-- Lines put together start with the first of them. -/
theorem firstLine_ofLines (h : ∀ l ∈ line :: rest, '\n' ∉ l) :
    firstLine (ofLines (line :: rest)) = line := by
  rw [firstLine, linesOf_ofLines (List.cons_ne_nil line rest) h]
  rfl

/-- Blanks behind a text make no difference to whether its first line is blank. -/
theorem isBlankText_firstLine_append (h : isBlankText u = true) (t : Text) :
    isBlankText (firstLine (t ++ u)) = isBlankText (firstLine t) := by
  obtain ⟨init, last, first, rest, ht, hu, hall⟩ := linesOf_append t u
  unfold firstLine
  rw [ht, hall]
  cases init with
  | nil =>
    have hlines : ∀ l ∈ linesOf u, isBlankText l = true := by
      rw [← isBlankText_ofLines_iff, ofLines_linesOf]
      exact h
    have hfirst : isBlankText first = true := hlines first (by simp [hu])
    simp only [List.nil_append, List.headD_cons, isBlankText_append, hfirst, Bool.and_true]
  | cons l ls => rfl

/-- The line feeds at the start of lines put together are those of the empty lines in front. -/
theorem dropLead_ofLines (h : ∀ l ∈ lines, '\n' ∉ l) :
    dropLead (· == '\n') (ofLines lines) = ofLines (lines.dropWhile List.isEmpty) := by
  induction lines with
  | nil => rfl
  | cons l ls ih =>
    rw [List.forall_mem_cons] at h
    cases l with
    | nil =>
      rw [List.dropWhile_cons_of_pos (by rfl), ← ih h.2]
      cases ls with
      | nil => rfl
      | cons m ms =>
        rw [ofLines_cons_cons, List.nil_append]
        rfl
    | cons c cs =>
      rw [List.dropWhile_cons_of_neg (by simp)]
      refine dropLead_eq_self fun d hd => beq_false_of_ne ?_
      rintro rfl
      refine h.1 ?_
      cases ls with
      | nil =>
        rw [ofLines_singleton] at hd
        exact List.mem_of_head? hd
      | cons m ms =>
        rw [ofLines_cons_cons, List.cons_append, List.head?_cons] at hd
        rw [Option.some.inj hd]
        exact List.mem_cons_self

/-- The empty lines in front of a line that is not empty are dropped, and no more. -/
theorem dropWhile_gap {gap : List Text} (hgap : ∀ l ∈ gap, l = []) (hline : line ≠ []) :
    (gap ++ line :: rest).dropWhile List.isEmpty = line :: rest := by
  rw [List.dropWhile_append_of_pos fun l hl => List.isEmpty_iff.2 (hgap l hl)]
  exact List.dropWhile_cons_of_neg (by simpa using hline)

namespace Message

/-! ## The body -/

/-- A body starts with the first line that is not empty. -/
theorem isBlankText_firstLine (hlines : ∀ l ∈ lines, '\n' ∉ l) (hbody : bodyOf lines = some b) :
    ∃ gap line rest, lines = gap ++ line :: rest ∧ (∀ l ∈ gap, l = []) ∧ line ≠ [] ∧
      isBlankText (firstLine b) = isBlankText line := by
  have hgap : ∀ l ∈ lines.takeWhile List.isEmpty, l = [] := fun l hl =>
    List.isEmpty_iff.1 (List.all_eq_true.1 List.all_takeWhile l hl)
  have hsplit := List.takeWhile_append_dropWhile (p := List.isEmpty) (l := lines)
  have hdrop := dropLead_ofLines hlines
  cases hrest : lines.dropWhile List.isEmpty with
  | nil =>
    have hblank : ∀ l ∈ lines, isBlankText l = true := by
      intro l hl
      rw [List.isEmpty_iff.1 (List.dropWhile_eq_nil_iff.1 hrest l hl)]
      rfl
    rw [(IsBodyOf.absent hblank).bodyOf_eq] at hbody
    cases hbody
  | cons line rest =>
    rw [hrest] at hsplit hdrop
    have hline : line ≠ [] := by
      have hnot := List.head?_dropWhile_not List.isEmpty lines
      rw [hrest] at hnot
      simpa using hnot
    have htail : ∀ l ∈ line :: rest, '\n' ∉ l := fun l hl =>
      hlines l (hsplit ▸ List.mem_append_right _ hl)
    refine ⟨_, line, rest, hsplit.symm, hgap, hline, ?_⟩
    obtain ⟨blanks, hblanks, hall⟩ := dropTrail_append isBlank (ofLines (line :: rest))
    have hb : trimEnd (ofLines (line :: rest)) = b := by
      unfold bodyOf at hbody
      rw [trimEnd_dropEnds, hdrop] at hbody
      split at hbody
      · cases hbody
      · exact Option.some.inj hbody
    rw [← isBlankText_firstLine_append hall b, ← hb, trimEnd, ← hblanks, firstLine_ofLines htail]

/-- Lines with a line of blanks below the header and text below that, where the lines between the
header and the line of blanks are empty. -/
inductive LeavesBlankLine : List Text → Prop
  /-- The line of blanks is the first line below the header that is not empty. -/
  | intro {before gap after : List Text} {header space : Text} :
      (∀ l ∈ before, isBlankText l = true) → isBlankText header = false → (∀ l ∈ gap, l = []) →
      space ≠ [] → isBlankText space = true → (∃ l ∈ after, isBlankText l = false) →
      LeavesBlankLine (before ++ header :: (gap ++ space :: after))

/-- The line of blanks stays in front of the body. -/
theorem LeavesBlankLine.exists_body (h : LeavesBlankLine lines) (hlines : ∀ l ∈ lines, '\n' ∉ l) :
    ∃ b, (ofRetained lines).body = some b ∧ ¬StartsWithText b := by
  cases h with
  | @intro before gap after header space hbefore hheader hgap hspace hblank htext =>
    have hbelow : (ofRetained (before ++ header :: (gap ++ space :: after))).body =
        bodyOf (gap ++ space :: after) := by
      unfold ofRetained
      rw [List.dropWhile_append_of_pos hbefore, List.dropWhile_cons_of_neg (by simp [hheader])]
    have hfeeds : ∀ l ∈ gap ++ space :: after, '\n' ∉ l := fun l hl =>
      hlines l (List.mem_append_right _ (List.mem_cons_of_mem _ hl))
    have hsome := isBodyOf_bodyOf (gap ++ space :: after)
    cases hbody : bodyOf (gap ++ space :: after) with
    | none =>
      rw [hbody] at hsome
      obtain ⟨l, hl, hl'⟩ := htext
      cases hsome with
      | absent hall =>
        rw [hall l (List.mem_append_right _ (List.mem_cons_of_mem _ hl))] at hl'
        cases hl'
    | some b =>
      refine ⟨b, hbelow.trans hbody, ?_⟩
      obtain ⟨gap', line, rest, hsplit, hgap', hline, hfirst⟩ :=
        isBlankText_firstLine hfeeds hbody
      -- the first line that is not empty is the same in both ways to take the lines apart
      have hdrop := congrArg (List.dropWhile List.isEmpty) hsplit
      rw [dropWhile_gap hgap hspace, dropWhile_gap hgap' hline] at hdrop
      obtain ⟨rfl, -⟩ := List.cons.inj hdrop
      rw [StartsWithText, hfirst, hblank]
      exact Bool.noConfusion

/-- Nothing else makes a body that does not start with text. -/
theorem leavesBlankLine_of_body (hlines : ∀ l ∈ lines, '\n' ∉ l)
    (hbody : (ofRetained lines).body = some b) (hstart : ¬StartsWithText b) :
    LeavesBlankLine lines := by
  have hmessage := isMessageOf_ofRetained lines
  generalize ofRetained lines = m at hmessage hbody
  cases hmessage with
  | blank => cases hbody
  | @headed before below header blanks body hbefore hheader _ _ hbodyOf =>
    obtain rfl : body = some b := hbody
    have hfeeds : ∀ l ∈ below, '\n' ∉ l := fun l hl =>
      hlines l (List.mem_append_right _ (List.mem_cons_of_mem _ hl))
    obtain ⟨gap, space, after, rfl, hgap, hspace, hfirst⟩ :=
      isBlankText_firstLine hfeeds hbodyOf.bodyOf_eq
    have hblank : isBlankText space = true := by
      rw [← hfirst]
      exact eq_true_of_ne_false hstart
    refine .intro hbefore hheader hgap hspace hblank ?_
    obtain _ | ⟨⟨l, hl, htext⟩, -, -, -, -⟩ := hbodyOf
    rcases List.mem_append.1 hl with hl | hl
    · rw [hgap l hl] at htext
      cases htext
    · rcases List.mem_cons.1 hl with rfl | hl
      · rw [hblank] at htext
        cases htext
      · exact ⟨l, hl, htext⟩

/-- A body starts with text exactly if no line of blanks was left in front of it: among the lines
that count, the first one below the header that is not empty has text, or none of them has. -/
theorem parse_startsWithText_iff (raw : Text) (stripComments : Bool) :
    (∀ b, (parse raw stripComments).body = some b → StartsWithText b) ↔
      ¬LeavesBlankLine (retained raw stripComments) := by
  have hlines : ∀ l ∈ retained raw stripComments, '\n' ∉ l := fun _ => not_mem_of_mem_retained
  constructor
  · intro hall hleaves
    obtain ⟨b, hbody, hstart⟩ := hleaves.exists_body hlines
    exact hstart (hall b hbody)
  · intro hnot b hbody
    by_contra hstart
    exact hnot (leavesBlankLine_of_body hlines hbody hstart)

/-- A line of blanks between the header and the body stays. -/
theorem not_forall_parse_startsWithText :
    ¬∀ (raw : Text) (stripComments : Bool) (b : Text),
      (parse raw stripComments).body = some b → StartsWithText b := by
  intro hall
  have hbody : (parse "fix: a\n \nwhy" false).body = some " \nwhy" := by decide
  exact absurd (hall _ false _ hbody) (by decide)

end Message

end CommitCheck
