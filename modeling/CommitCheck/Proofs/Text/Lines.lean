import CommitCheck.Proofs.Text.Blank
import CommitCheck.Proofs.Text.Pieces
import CommitCheck.Text.Blank

/-!
# Line ends

A pair of a carriage return and a line feed is one line end, and `unifyPairs` takes each pair for
a line feed.  One pass leaves no pair, unless a pair has a carriage return in front of it
(`pair_infix_of_unifyPairs`).  A text without pairs stays as it is (`unifyPairs_eq_self`).  Line by
line, the carriage return at the end of each line but the last is dropped (`linesOf_unifyPairs`).
Where each carriage return is in a pair, it makes no difference which of the two conventions for
foreign line ends is used (`unifyReturns_of_isPaired`).

Lines that are put together have a pair among them exactly where a line that ends in a carriage
return has another line below it (`pair_infix_ofLines_iff`), so to leave lines out makes no pair.

A text of blank lines is blank (`isBlankText_ofLines_iff`), since a line feed is.
-/

namespace CommitCheck

/-- A carriage return and a line feed. -/
def returnPair : Text := ['\r', '\n']

variable {t u : Text} {lines : List Text}

/-! ## Blank texts -/

theorem isBlankText_append (t u : Text) :
    isBlankText (t ++ u) = (isBlankText t && isBlankText u) := List.all_append

theorem isBlankText_of_feeds (h : ∀ c ∈ t, c = '\n') : isBlankText t = true := by
  refine List.all_eq_true.2 fun c hc => ?_
  rw [h c hc]
  decide

/-- A text with a last character that is not blank is not blank. -/
theorem isBlankText_eq_false (hne : t ≠ []) (hlast : ∀ c, t.getLast? = some c → isBlank c = false) :
    isBlankText t = false := by
  cases hc : t.getLast? with
  | none => exact absurd (List.getLast?_eq_none_iff.1 hc) hne
  | some c =>
    refine eq_false_of_ne_true fun hblank => ?_
    have hall := List.all_eq_true.1 hblank c (List.mem_of_getLast? hc)
    rw [hlast c hc] at hall
    cases hall

/-! ## Lines put together -/

/-- Where the text goes on, only its last line does. -/
theorem linesOf_append (t u : Text) :
    ∃ init last first rest, linesOf t = init ++ [last] ∧ linesOf u = first :: rest ∧
      linesOf (t ++ u) = init ++ (last ++ first) :: rest := splitAt_append '\n' t u

/-- Each line of a text is the start of a line where the text goes on. -/
theorem exists_prefix_of_mem_linesOf {l : Text} (h : l ∈ linesOf t) (u : Text) :
    ∃ l' ∈ linesOf (t ++ u), l <+: l' := by
  obtain ⟨init, last, first, rest, ht, -, hall⟩ := linesOf_append t u
  rw [ht, List.mem_append, List.mem_singleton] at h
  rw [hall]
  rcases h with h | rfl
  · exact ⟨l, List.mem_append_left _ h, List.prefix_refl l⟩
  · exact ⟨l ++ first, by simp, List.prefix_append l first⟩

/-- Lines without line feeds are the lines of their text. -/
theorem linesOf_ofLines (hne : lines ≠ []) (h : ∀ l ∈ lines, '\n' ∉ l) :
    linesOf (ofLines lines) = lines := splitAt_joinWith hne h

theorem ofLines_singleton (l : Text) : ofLines [l] = l := joinWith_singleton _ l

theorem ofLines_cons_cons (l m : Text) (lines : List Text) :
    ofLines (l :: m :: lines) = l ++ '\n' :: ofLines (m :: lines) := by
  rw [ofLines, joinWith_cons_cons, List.append_assoc]
  rfl

theorem ofLines_cons_of_ne_nil (l : Text) (h : lines ≠ []) :
    ofLines (l :: lines) = l ++ '\n' :: ofLines lines := by
  obtain ⟨m, ms, rfl⟩ := List.exists_cons_of_ne_nil h
  exact ofLines_cons_cons l m ms

/-- Where lines go on, only the last of them does. -/
theorem ofLines_append_cons (init : List Text) (last first : Text) (rest : List Text) :
    ofLines (init ++ (last ++ first) :: rest) =
      ofLines (init ++ [last]) ++ ofLines (first :: rest) := by
  induction init with
  | nil =>
    cases rest with
    | nil => simp only [List.nil_append, ofLines_singleton]
    | cons m ms =>
      simp only [List.nil_append, ofLines_singleton, ofLines_cons_cons, List.append_assoc]
  | cons l ls ih =>
    rw [List.cons_append, List.cons_append, ofLines_cons_of_ne_nil l (by simp),
      ofLines_cons_of_ne_nil l (by simp), ih, List.append_assoc, List.cons_append]

theorem suffix_ofLines (line : Text) (lines : List Text) : line <:+ ofLines (lines ++ [line]) := by
  induction lines with
  | nil => exact ⟨[], (ofLines_singleton line).symm⟩
  | cons l ls ih =>
    rw [List.cons_append, ofLines_cons_of_ne_nil l (by simp)]
    exact ih.trans ((List.suffix_cons _ _).trans (List.suffix_append _ _))

/-- A text of lines is blank exactly if each line is. -/
theorem isBlankText_ofLines_iff :
    isBlankText (ofLines lines) = true ↔ ∀ l ∈ lines, isBlankText l = true := by
  induction lines with
  | nil => exact iff_of_true rfl fun l hl => absurd hl List.not_mem_nil
  | cons l lines ih =>
    cases lines with
    | nil => rw [ofLines_singleton, List.forall_mem_singleton]
    | cons m lines =>
      have hfeed : isBlank '\n' = true := by decide
      rw [List.forall_mem_cons, ← ih, ofLines_cons_cons, isBlankText_append, isBlankText,
        isBlankText, List.all_cons, hfeed, Bool.true_and, Bool.and_eq_true]
      rfl

/-- So a text of lines that is not blank has a line that is not. -/
theorem exists_isBlankText_eq_false (h : isBlankText (ofLines lines) = false) :
    ∃ l ∈ lines, isBlankText l = false := by
  by_contra hnone
  have hblank : isBlankText (ofLines lines) = true :=
    isBlankText_ofLines_iff.2 fun l hl => eq_true_of_ne_false fun hl' => hnone ⟨l, hl, hl'⟩
  rw [h] at hblank
  cases hblank

/-! ## Pairs -/

/-- A pair around a line feed ends at it, or it is in front of the line feed or behind it. -/
theorem pair_infix_append_cons_iff (t u : Text) :
    returnPair <:+: t ++ '\n' :: u ↔
      returnPair <:+: t ∨ t.getLast? = some '\r' ∨ returnPair <:+: u := by
  unfold returnPair
  induction t with
  | nil => simp [List.infix_cons_iff]
  | cons c cs ih =>
    rw [List.cons_append, List.infix_cons_iff, ih, List.infix_cons_iff]
    cases cs with
    | nil => simp [List.cons_prefix_cons, @eq_comm _ c]
    | cons d ds =>
      rw [List.getLast?_cons_cons, List.cons_append, List.cons_prefix_cons, List.cons_prefix_cons,
        List.cons_prefix_cons, List.cons_prefix_cons]
      simp only [List.nil_prefix, and_true]
      tauto

/-- Lines have a pair among them exactly where one that ends in a carriage return has another one
below it. -/
theorem pair_infix_ofLines_iff (h : ∀ l ∈ lines, '\n' ∉ l) :
    returnPair <:+: ofLines lines ↔
      ∃ l m, List.Sublist [l, m] lines ∧ l.getLast? = some '\r' := by
  have hline : ∀ l : Text, '\n' ∉ l → ¬returnPair <:+: l := fun l hl hpair =>
    hl (hpair.subset (by decide))
  induction lines with
  | nil => simp [ofLines, joinWith, returnPair]
  | cons l lines ih =>
    rw [List.forall_mem_cons] at h
    cases lines with
    | nil =>
      rw [ofLines_singleton]
      refine iff_of_false (hline l h.1) ?_
      rintro ⟨k, m, hsub, -⟩
      exact absurd hsub.length_le (by simp)
    | cons m lines =>
      rw [ofLines_cons_cons, pair_infix_append_cons_iff]
      constructor
      · rintro (hpair | hlast | hpair)
        · exact absurd hpair (hline l h.1)
        · exact ⟨l, m, .cons_cons l (by simp), hlast⟩
        · obtain ⟨k, n, hsub, hk⟩ := (ih h.2).1 hpair
          exact ⟨k, n, .cons l hsub, hk⟩
      · rintro ⟨k, n, hsub, hk⟩
        rcases List.cons_sublist_cons'.1 hsub with hsub | ⟨rfl, -⟩
        · exact .inr (.inr ((ih h.2).2 ⟨k, n, hsub, hk⟩))
        · exact .inr (.inl hk)

/-- A text that starts with a line feed once its pairs are taken for line feeds starts with a line
feed or a pair. -/
theorem head_of_unifyPairs (h : unifyPairs t = '\n' :: u) :
    (∃ v, t = '\n' :: v) ∨ ∃ v, t = '\r' :: '\n' :: v := by
  fun_cases unifyPairs t with
  | case1 => cases h
  | case2 v => exact .inr ⟨v, rfl⟩
  | case3 c v hpair =>
    rw [unifyPairs] at h
    · obtain ⟨rfl, -⟩ := List.cons.inj h
      exact .inl ⟨v, rfl⟩
    · exact hpair

/-- What is left of pairs is the end of one with a carriage return in front. -/
theorem pair_infix_of_unifyPairs (h : returnPair <:+: unifyPairs t) :
    '\r' :: returnPair <:+: t := by
  unfold returnPair at *
  fun_induction unifyPairs t with
  | case1 => simp at h
  | case2 cs ih =>
    rcases List.infix_cons_iff.1 h with h | h
    · simp at h
    · exact (ih h).trans ⟨['\r', '\n'], [], by simp⟩
  | case3 c cs hpair ih =>
    rcases List.infix_cons_iff.1 h with h | h
    · obtain ⟨rfl, u, hu⟩ := List.cons_prefix_cons.1 h
      rcases head_of_unifyPairs hu.symm with ⟨v, rfl⟩ | ⟨v, rfl⟩
      · exact absurd rfl (hpair v rfl)
      · exact ⟨[], v, rfl⟩
    · exact (ih h).trans ⟨[c], [], by simp⟩

/-- A text without pairs stays as it is. -/
theorem unifyPairs_eq_self (h : ¬returnPair <:+: t) : unifyPairs t = t := by
  unfold returnPair at h
  fun_induction unifyPairs t with
  | case1 => rfl
  | case2 cs ih => exact absurd ⟨[], cs, rfl⟩ h
  | case3 c cs hpair ih => rw [ih fun hcs => h (hcs.trans ⟨[c], [], by simp⟩)]

/-- So does a text of one line. -/
theorem unifyPairs_of_not_mem (h : '\n' ∉ t) : unifyPairs t = t :=
  unifyPairs_eq_self fun hpair => h (hpair.subset (by decide))

/-! ## Pairs taken for line feeds -/

/-- A character that starts no pair stays in front. -/
theorem unifyPairs_cons {c : Char} (h : c = '\r' → t.head? ≠ some '\n') :
    unifyPairs (c :: t) = c :: unifyPairs t := by
  rw [unifyPairs]
  rintro v rfl rfl
  exact h rfl rfl

/-- Nothing but carriage returns is lost. -/
theorem unifyPairs_sublist (t : Text) : (unifyPairs t).Sublist t := by
  fun_induction unifyPairs t with
  | case1 => exact List.Sublist.refl _
  | case2 cs ih => exact (ih.cons_cons '\n').cons '\r'
  | case3 c cs _ ih => exact ih.cons_cons c

/-- A text that does not end in a carriage return makes no pair with what follows. -/
theorem unifyPairs_append (h : t.getLast? ≠ some '\r') (u : Text) :
    unifyPairs (t ++ u) = unifyPairs t ++ unifyPairs u := by
  fun_induction unifyPairs t with
  | case1 => rfl
  | case2 cs ih =>
    have hcs : cs.getLast? ≠ some '\r' := fun hlast => h (by simp [List.getLast?_cons, hlast])
    rw [List.cons_append, List.cons_append, unifyPairs, ih hcs, List.cons_append]
  | case3 c cs hpair ih =>
    have hcs : cs.getLast? ≠ some '\r' := fun hlast => h (by simp [List.getLast?_cons, hlast])
    rw [List.cons_append, unifyPairs_cons, ih hcs, List.cons_append]
    rintro rfl
    cases cs with
    | nil => exact absurd rfl h
    | cons d ds =>
      rintro hd
      exact hpair ds rfl (by rw [Option.some.inj hd])

/-- A line without the carriage return at its end. -/
def dropReturn (line : Text) : Text := if line.getLast? = some '\r' then line.dropLast else line

theorem dropReturn_append_return (line : Text) : dropReturn (line ++ ['\r']) = line := by
  simp [dropReturn]

theorem dropReturn_of_ne (h : t.getLast? ≠ some '\r') : dropReturn t = t := if_neg h

theorem prefix_dropReturn (line : Text) : dropReturn line <+: line := by
  unfold dropReturn
  split
  · exact List.dropLast_prefix line
  · exact List.prefix_refl line

/-- What is dropped is blank. -/
theorem exists_dropReturn_append (line : Text) :
    ∃ blanks, line = dropReturn line ++ blanks ∧ isBlankText blanks = true := by
  by_cases hlast : line.getLast? = some '\r'
  · obtain ⟨init, rfl⟩ := List.getLast?_eq_some_iff.1 hlast
    exact ⟨['\r'], by rw [dropReturn_append_return], by decide⟩
  · exact ⟨[], by rw [dropReturn_of_ne hlast, List.append_nil], rfl⟩

/-- The line above a line feed loses the carriage return at its end. -/
theorem unifyPairs_append_feed {line : Text} (h : '\n' ∉ line) (u : Text) :
    unifyPairs (line ++ '\n' :: u) = dropReturn line ++ '\n' :: unifyPairs u := by
  by_cases hlast : line.getLast? = some '\r'
  · obtain ⟨init, rfl⟩ := List.getLast?_eq_some_iff.1 hlast
    rw [dropReturn_append_return, List.append_assoc, List.singleton_append]
    clear hlast
    induction init with
    | nil => exact unifyPairs.eq_2 u
    | cons c cs ih =>
      rw [List.cons_append, List.mem_cons, not_or] at h
      rw [List.cons_append, unifyPairs_cons, ih h.2, List.cons_append]
      rintro - hhead
      cases cs with
      | nil => exact absurd (Option.some.inj hhead) (by decide)
      | cons d ds =>
        obtain rfl := Option.some.inj hhead
        exact h.2 List.mem_cons_self
  · have hfeed : unifyPairs ('\n' :: u) = '\n' :: unifyPairs u :=
      unifyPairs_cons fun hc => absurd hc (by decide)
    rw [dropReturn_of_ne hlast, unifyPairs_append hlast, unifyPairs_of_not_mem h, hfeed]

/-- Where pairs are taken for line feeds, each line but the last loses the carriage return at its
end. -/
theorem linesOf_unifyPairs {init : List Text} {last : Text} (hinit : ∀ l ∈ init, '\n' ∉ l)
    (hlast : '\n' ∉ last) :
    linesOf (unifyPairs (ofLines (init ++ [last]))) = init.map dropReturn ++ [last] := by
  induction init with
  | nil =>
    rw [List.nil_append, ofLines_singleton, unifyPairs_of_not_mem hlast]
    exact splitAt_of_not_mem hlast
  | cons l ls ih =>
    rw [List.forall_mem_cons] at hinit
    have hline : linesOf (dropReturn l) = [dropReturn l] :=
      splitAt_of_not_mem fun hmem => hinit.1 ((prefix_dropReturn l).subset hmem)
    rw [List.cons_append, ofLines_cons_of_ne_nil l (by simp), unifyPairs_append_feed hinit.1,
      linesOf, splitAt_append_cons, ← linesOf, ← linesOf, hline, ih hinit.2]
    rfl

/-! ## Texts with pairs alone -/

/-- Each carriage return has a line feed behind it. -/
def IsPaired (t : Text) : Prop :=
  ∀ before after : Text, t = before ++ '\r' :: after → after.head? = some '\n'

theorem IsPaired.of_append (before : Text) (h : IsPaired (before ++ t)) : IsPaired t :=
  fun inner after ht => h (before ++ inner) after (by rw [ht, List.append_assoc])

/-- Then both conventions take the same line ends for one line feed each. -/
theorem unifyReturns_of_isPaired (h : IsPaired t) : unifyReturns t = unifyPairs t := by
  fun_induction unifyReturns t with
  | case1 => rfl
  | case2 cs ih => rw [unifyPairs, ih (h.of_append ['\r', '\n'])]
  | case3 cs hpair ih =>
    obtain ⟨ds, rfl⟩ : ∃ ds, cs = '\n' :: ds := by
      have hhead := h [] cs rfl
      cases cs with
      | nil => cases hhead
      | cons d ds => exact ⟨ds, by rw [Option.some.inj hhead]⟩
    exact absurd rfl (hpair ds)
  | case4 c cs hpair hreturn ih =>
    rw [unifyPairs_cons fun hc => absurd hc hreturn, ih (h.of_append [c])]

/-- A carriage return is left exactly where one has no line feed behind it. -/
theorem isPaired_iff : IsPaired t ↔ '\r' ∉ unifyPairs t := by
  constructor
  · intro h
    rw [← unifyReturns_of_isPaired h]
    clear h
    fun_induction unifyReturns t with
    | case1 => exact List.not_mem_nil
    | case2 cs ih => simpa using ih
    | case3 cs _ ih => simpa using ih
    | case4 c cs _ hreturn ih => simpa [ih] using Ne.symm hreturn
  · intro h before after ht
    fun_induction unifyPairs t generalizing before with
    | case1 => simp at ht
    | case2 cs ih =>
      rw [List.mem_cons, not_or] at h
      match before with
      | [] => rw [← (List.cons.inj ht).2, List.head?_cons]
      | [d] => cases (List.cons.inj (List.cons.inj ht).2).1
      | d :: e :: before => exact ih h.2 before (List.cons.inj (List.cons.inj ht).2).2
    | case3 c cs _ ih =>
      rw [List.mem_cons, not_or] at h
      match before with
      | [] => exact absurd (List.cons.inj ht).1.symm h.1
      | d :: before => exact ih h.2 before (List.cons.inj ht).2

instance (t : Text) : Decidable (IsPaired t) := decidable_of_iff _ isPaired_iff.symm

/-- Each line loses the carriage return at its end. -/
theorem linesOf_unifyPairs_of_isPaired (h : IsPaired t) :
    linesOf (unifyPairs t) = (linesOf t).map dropReturn := by
  have hlines : ∀ l ∈ linesOf t, '\n' ∉ l := fun _ => not_mem_of_mem_linesOf
  have htext := ofLines_linesOf t
  rcases List.eq_nil_or_concat (linesOf t) with hnil | ⟨init, last, hinit⟩
  · exact absurd hnil (splitAt_ne_nil '\n' t)
  · rw [List.concat_eq_append] at hinit
    rw [hinit] at hlines htext
    rw [List.forall_mem_append, List.forall_mem_singleton] at hlines
    have hlast : last.getLast? ≠ some '\r' := by
      intro hreturn
      obtain ⟨front, rfl⟩ := List.getLast?_eq_some_iff.1 hreturn
      obtain ⟨above, habove⟩ := suffix_ofLines (front ++ ['\r']) init
      have hnone := h (above ++ front) [] (by rw [← htext, ← habove, List.append_assoc])
      cases hnone
    rw [hinit, List.map_append, List.map_singleton, dropReturn_of_ne hlast, ← htext,
      linesOf_unifyPairs hlines.1 hlines.2]

end CommitCheck
