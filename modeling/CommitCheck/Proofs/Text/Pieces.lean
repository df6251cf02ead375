import CommitCheck.Text.Basic

/-!
# Texts split and joined

Splitting at a character and joining with it are inverse to each other.  `intercalate_splitAt`
says that a text is its pieces joined; here, pieces that do not hold the separator are the
pieces of their join (`splitAt_joinWith`).  Two texts with a separator between them have the
pieces of both (`splitAt_append_cons`), and without one the last piece of the first text goes on
with the first piece of the second (`splitAt_append`).

Pieces are parts of the text (`infix_of_mem_splitAt`), so what a text does not hold, its pieces do
not hold (`mem_of_mem_splitAt`); what neither pieces nor separator hold, their join does not hold
(`not_mem_joinWith`).  `eq_append_of_cutAt?` is about the first cut alone.
-/

namespace CommitCheck

variable {sep c : Char}

/-! ## Joining -/

theorem joinWith_singleton (sep p : Text) : joinWith sep [p] = p := List.intercalate_singleton

theorem joinWith_cons_cons (sep p q : Text) (ps : List Text) :
    joinWith sep (p :: q :: ps) = p ++ sep ++ joinWith sep (q :: ps) :=
  List.intercalate_cons_cons

theorem exists_joinWith_cons (sep piece : Text) (pieces : List Text) :
    ∃ tail, joinWith sep (piece :: pieces) = piece ++ tail := by
  cases pieces with
  | nil => exact ⟨[], by rw [joinWith_singleton, List.append_nil]⟩
  | cons p ps => exact ⟨_, by rw [joinWith_cons_cons, List.append_assoc]⟩

/-- Each piece is a part of the join. -/
theorem infix_joinWith (sep : Text) {p : Text} {pieces : List Text} (h : p ∈ pieces) :
    p <:+: joinWith sep pieces := by
  induction pieces with
  | nil => cases h
  | cons q qs ih =>
    rcases List.mem_cons.1 h with rfl | h
    · obtain ⟨tail, htail⟩ := exists_joinWith_cons sep p qs
      exact htail ▸ (List.prefix_append p tail).isInfix
    · cases qs with
      | nil => cases h
      | cons r rs =>
        rw [joinWith_cons_cons]
        exact (ih h).trans (List.suffix_append _ _).isInfix

theorem not_mem_joinWith {sep : Text} (hsep : c ∉ sep) {pieces : List Text}
    (h : ∀ p ∈ pieces, c ∉ p) : c ∉ joinWith sep pieces := by
  induction pieces with
  | nil => exact List.not_mem_nil
  | cons p ps ih =>
    rw [List.forall_mem_cons] at h
    cases ps with
    | nil =>
      rw [joinWith_singleton]
      exact h.1
    | cons q qs =>
      rw [joinWith_cons_cons]
      simp only [List.mem_append, not_or]
      exact ⟨⟨h.1, hsep⟩, ih h.2⟩

theorem length_le_joinWith (sep : Char) (pieces : List Text) :
    pieces.length ≤ (joinWith [sep] pieces).length + 1 := by
  induction pieces with
  | nil => exact Nat.zero_le _
  | cons p ps ih =>
    cases ps with
    | nil => exact Nat.succ_le_succ (Nat.zero_le _)
    | cons q qs =>
      rw [joinWith_cons_cons, List.length_append, List.length_append, List.length_cons,
        List.length_singleton]
      omega

/-! ## Splitting -/

/-- Each piece is a part of the text. -/
theorem infix_of_mem_splitAt {t p : Text} (hp : p ∈ splitAt sep t) : p <:+: t := by
  have hjoin := infix_joinWith [sep] hp
  rwa [intercalate_splitAt] at hjoin

theorem mem_of_mem_splitAt {t p : Text} (hp : p ∈ splitAt sep t) (hc : c ∈ p) : c ∈ t :=
  (infix_of_mem_splitAt hp).subset hc

theorem splitAt_of_not_mem {t : Text} (h : sep ∉ t) : splitAt sep t = [t] := by
  induction t with
  | nil => rfl
  | cons c cs ih =>
    rw [List.mem_cons, not_or] at h
    rw [splitAt, if_neg (Ne.symm h.1), ih h.2]

theorem splitAt_cons_self (sep : Char) (t : Text) : splitAt sep (sep :: t) = [] :: splitAt sep t :=
  if_pos rfl

/-- A character that is no separator belongs to the first piece. -/
theorem splitAt_cons_of_ne (h : c ≠ sep) {t p : Text} {ps : List Text}
    (ht : splitAt sep t = p :: ps) : splitAt sep (c :: t) = (c :: p) :: ps := by
  rw [splitAt, if_neg h, ht]

/-- Two texts with a separator between them have the pieces of both. -/
theorem splitAt_append_cons (sep : Char) (t u : Text) :
    splitAt sep (t ++ sep :: u) = splitAt sep t ++ splitAt sep u := by
  induction t with
  | nil => exact splitAt_cons_self sep u
  | cons c cs ih =>
    by_cases hc : c = sep
    · subst hc
      rw [List.cons_append, splitAt_cons_self, splitAt_cons_self, ih, List.cons_append]
    · obtain ⟨p, ps, hp⟩ := List.exists_cons_of_ne_nil (splitAt_ne_nil sep cs)
      rw [hp, List.cons_append] at ih
      rw [List.cons_append, splitAt_cons_of_ne hc ih, splitAt_cons_of_ne hc hp, List.cons_append]

/-- Where a text goes on, only its last piece does. -/
theorem splitAt_append (sep : Char) (t u : Text) :
    ∃ init last first rest, splitAt sep t = init ++ [last] ∧ splitAt sep u = first :: rest ∧
      splitAt sep (t ++ u) = init ++ (last ++ first) :: rest := by
  obtain ⟨first, rest, hu⟩ := List.exists_cons_of_ne_nil (splitAt_ne_nil sep u)
  induction t with
  | nil => exact ⟨[], [], first, rest, rfl, hu, hu⟩
  | cons c cs ih =>
    obtain ⟨init, last, first', rest', hcs, hu', hall⟩ := ih
    obtain ⟨rfl, rfl⟩ := List.cons.inj (hu.symm.trans hu')
    by_cases hc : c = sep
    · subst hc
      refine ⟨[] :: init, last, first, rest, ?_, hu, ?_⟩
      · rw [splitAt_cons_self, hcs, List.cons_append]
      · rw [List.cons_append, splitAt_cons_self, hall, List.cons_append]
    · cases init with
      | nil =>
        refine ⟨[], c :: last, first, rest, splitAt_cons_of_ne hc hcs, hu, ?_⟩
        exact splitAt_cons_of_ne hc hall
      | cons p init =>
        refine ⟨(c :: p) :: init, last, first, rest, splitAt_cons_of_ne hc hcs, hu, ?_⟩
        exact splitAt_cons_of_ne hc hall

/-- Pieces without the separator are the pieces of their join. -/
theorem splitAt_joinWith {pieces : List Text} (hne : pieces ≠ []) (h : ∀ p ∈ pieces, sep ∉ p) :
    splitAt sep (joinWith [sep] pieces) = pieces := by
  induction pieces with
  | nil => exact absurd rfl hne
  | cons p ps ih =>
    rw [List.forall_mem_cons] at h
    cases ps with
    | nil => rw [joinWith_singleton, splitAt_of_not_mem h.1]
    | cons q qs =>
      rw [joinWith_cons_cons, List.append_assoc, List.singleton_append, splitAt_append_cons,
        splitAt_of_not_mem h.1, ih (List.cons_ne_nil q qs) h.2, List.singleton_append]

/-! ## Cutting -/

theorem cutAt?_eq_none_iff {t : Text} : cutAt? sep t = none ↔ sep ∉ t := by
  induction t with
  | nil => simp [cutAt?]
  | cons d ds ih =>
    unfold cutAt?
    by_cases hd : d = sep
    · simp [hd]
    · simp [hd, ih, Ne.symm hd]

/-- A text is what stands before and after the place where it is cut, with the separator
between. -/
theorem eq_append_of_cutAt? {t a b : Text} (h : cutAt? sep t = some (a, b)) :
    t = a ++ sep :: b ∧ sep ∉ a := by
  induction t generalizing a with
  | nil => cases h
  | cons d ds ih =>
    unfold cutAt? at h
    split at h
    · rename_i hd
      obtain ⟨rfl, rfl⟩ := Prod.mk.inj (Option.some.inj h)
      exact ⟨by rw [hd, List.nil_append], List.not_mem_nil⟩
    · rename_i hd
      obtain ⟨⟨a', b'⟩, hcut, hab⟩ := Option.map_eq_some_iff.1 h
      obtain ⟨rfl, rfl⟩ := Prod.mk.inj hab
      obtain ⟨rfl, hnot⟩ := ih hcut
      refine ⟨rfl, fun hmem => ?_⟩
      rcases List.mem_cons.1 hmem with rfl | hmem
      · exact hd rfl
      · exact hnot hmem

/-- A text with no separator in front of the first one is cut there. -/
theorem cutAt?_append_cons {t : Text} (h : sep ∉ t) (u : Text) :
    cutAt? sep (t ++ sep :: u) = some (t, u) := by
  induction t with
  | nil => exact if_pos rfl
  | cons d ds ih =>
    rw [List.mem_cons, not_or] at h
    rw [List.cons_append, cutAt?, if_neg (Ne.symm h.1), ih h.2]
    rfl

/-! ## Runs of characters -/

/-- A run of characters ends where one is not of the class, whatever follows. -/
theorem takeWhile_append_cons {p : Char → Bool} (hc : p c = false) (t u : Text) :
    (t ++ c :: u).takeWhile p = t.takeWhile p := by
  induction t with
  | nil => exact List.takeWhile_cons_of_neg (by simp [hc])
  | cons d ds ih =>
    rw [List.cons_append, List.takeWhile_cons, List.takeWhile_cons, ih]

theorem dropWhile_append_cons {p : Char → Bool} (hc : p c = false) (t u : Text) :
    (t ++ c :: u).dropWhile p = t.dropWhile p ++ c :: u := by
  induction t with
  | nil => exact List.dropWhile_cons_of_neg (by simp [hc])
  | cons d ds ih =>
    rw [List.cons_append, List.dropWhile_cons, List.dropWhile_cons, ih]
    split <;> rfl

/-! ## Skipping -/

/-- A recursion along a list that skips as many items as it is told to, and has no other use for
their number, goes along what comes after them. -/
theorem skip_eq_drop {α β : Type} {f : Nat → List α → β} (hnil : ∀ n, f n [] = f 0 [])
    (hcons : ∀ n a as, f (n + 1) (a :: as) = f n as) (n : Nat) (as : List α) :
    f n as = f 0 (as.drop n) := by
  induction as generalizing n with
  | nil => rw [List.drop_nil, hnil]
  | cons a as ih =>
    cases n with
    | zero => rfl
    | succ n => rw [hcons, ih, List.drop_succ_cons]

end CommitCheck
