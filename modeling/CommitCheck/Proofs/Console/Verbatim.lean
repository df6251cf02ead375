import CommitCheck.Proofs.Console.Picture
import CommitCheck.Proofs.Console.Render

/-!
# Escaped text on the console

How the console shows a text that was escaped.  It takes the text apart at its tags (`parts`),
and each part goes through two rewritings of its own: a backslash is lost in front of an opening
bracket, and names between colons become pictures.  A text that ends in one backslash gets another
one.  `displayed` is the result.

So a text is displayed as it is exactly if it is verbatim (`IsVerbatim`): none of its parts names
a picture, none has a backslash in front of a bracket that opens no tag, and there is not one
backslash alone at the end (`displayed_of_isVerbatim`, `isVerbatim_of_append`).  The second of the
two needs an argument because the rewritings could make up for one another.  They do not: pictures
take colons away and nothing brings them back, and of two texts that differ by lost backslashes
the first difference stays, whatever comes behind it.
-/

namespace CommitCheck.Console

/-! ## Backslashes in front of brackets -/

theorem dropBracketEscapes_append {rest : Text} (h : rest.head? ≠ some '[') (t : Text) :
    dropBracketEscapes (t ++ rest) = dropBracketEscapes t ++ dropBracketEscapes rest := by
  fun_induction dropBracketEscapes t with
  | case1 => rfl
  | case2 cs ih =>
    rw [List.cons_append, List.cons_append, dropBracketEscapes, ih]
    rfl
  | case3 c cs hno ih =>
    rw [List.cons_append, dropBracketEscapes, ih]
    · rfl
    · rintro ds rfl hds
      cases cs with
      | nil => exact h (congrArg List.head? hds)
      | cons d cs =>
        obtain ⟨rfl, -⟩ := List.cons.inj hds
        exact hno cs rfl rfl

/-- Nothing behind a text makes up for a backslash that is lost in it. -/
theorem dropBracketEscapes_of_append {t more more' : Text}
    (h : dropBracketEscapes t ++ more = t ++ more') : dropBracketEscapes t = t := by
  fun_induction dropBracketEscapes t with
  | case1 => rfl
  | case2 cs ih => cases (List.cons.inj h).1
  | case3 c cs hno ih => rw [ih (List.cons.inj h).2]

theorem dropBracketEscapes_eq_self_iff {t : Text} :
    dropBracketEscapes t = t ↔ ¬['\\', '['] <:+: t := by
  fun_induction dropBracketEscapes t with
  | case1 => simp
  | case2 cs ih =>
    refine ⟨fun h => ?_, fun h => absurd (List.prefix_append ['\\', '['] cs).isInfix h⟩
    cases (List.cons.inj h).1
  | case3 c cs hno ih =>
    rw [List.cons_inj_right, ih, List.infix_cons_iff, not_or]
    refine ⟨fun h => ⟨fun hprefix => ?_, h⟩, And.right⟩
    obtain ⟨rest, hrest⟩ := hprefix
    obtain ⟨rfl, rfl⟩ := List.cons.inj hrest
    exact hno rest rfl rfl

theorem count_dropBracketEscapes (t : Text) :
    (dropBracketEscapes t).count ':' = t.count ':' := by
  fun_induction dropBracketEscapes t with
  | case1 => rfl
  | case2 cs ih => simp [ih]
  | case3 c cs hno ih => rw [List.count_cons, List.count_cons, ih]

theorem mem_of_mem_dropBracketEscapes {t : Text} {c : Char} (h : c ∈ dropBracketEscapes t) :
    c ∈ t := by
  fun_induction dropBracketEscapes t with
  | case1 => exact h
  | case2 cs ih =>
    rcases List.mem_cons.1 h with rfl | h
    · exact List.mem_cons_of_mem _ List.mem_cons_self
    · exact List.mem_cons_of_mem _ (List.mem_cons_of_mem _ (ih h))
  | case3 d cs hno ih =>
    rcases List.mem_cons.1 h with rfl | h
    · exact List.mem_cons_self
    · exact List.mem_cons_of_mem _ (ih h)

/-! ## What is shown of a run -/

/-- A run shows behind another one what it shows alone, if the two meet in neither a bracket nor
a name. -/
theorem shownRun_append {rest : Text} (hopen : rest.head? ≠ some '[')
    (hnone : named? (dropBracketEscapes rest) = none) (t : Text) :
    shownRun (t ++ rest) = shownRun t ++ shownRun rest := by
  unfold shownRun
  rw [dropBracketEscapes_append hopen, withPictures_append_of_none _ hnone, List.filter_append]

theorem named?_blank (t : Text) : named? (' ' :: t) = none := by
  rw [named?_eq_none_iff]
  intro name rest hsplit hname
  cases name with
  | nil => cases hsplit
  | cons c name =>
    obtain ⟨rfl, -⟩ := List.cons.inj hsplit
    exact absurd (hname ' ' List.mem_cons_self).2 (by decide)

theorem shownRun_blank (t : Text) : shownRun (' ' :: t) = ' ' :: shownRun t := by
  have hdrop : dropBracketEscapes (' ' :: t) = ' ' :: dropBracketEscapes t := rfl
  unfold shownRun
  rw [hdrop, withPictures_cons (by decide), List.filter_cons_of_pos (by decide)]

theorem shownRun_append_blank (t rest : Text) :
    shownRun (t ++ ' ' :: rest) = shownRun t ++ ' ' :: shownRun rest := by
  have hdrop : dropBracketEscapes (' ' :: rest) = ' ' :: dropBracketEscapes rest := rfl
  rw [shownRun_append (by simp) (hdrop ▸ named?_blank _), shownRun_blank]

theorem shownRun_append_slash (t : Text) : shownRun (t ++ ['\\']) = shownRun t ++ ['\\'] :=
  shownRun_append (by decide) (by decide) t

/-! ## What pieces show behind one another -/

/-- What comes behind pieces is shown behind them, if it does not depend on the characters in front
of it. -/
theorem shownOf_append {qs : List Piece} {more : Text}
    (h : ∀ pending, shownOf pending qs = shownRun pending.reverse ++ more) (ps : List Piece)
    (pending : Text) : shownOf pending (ps ++ qs) = shownOf pending ps ++ more := by
  induction ps generalizing pending with
  | nil => exact h pending
  | cons p ps ih => cases p <;> simp [shownOf, ih]

theorem shownOf_append_tag (ps : List Piece) (body : Text) (qs : List Piece) :
    shownOf [] (ps ++ .tag body :: qs) = shownOf [] ps ++ shownOf [] qs :=
  shownOf_append (fun _ => rfl) ps []

theorem shownOf_append_slash (ps : List Piece) :
    shownOf [] (ps ++ [.char '\\']) = shownOf [] ps ++ ['\\'] := by
  refine shownOf_append (fun pending => ?_) ps []
  rw [shownOf, shownOf, List.reverse_cons, shownRun_append_slash]

theorem shownOf_append_blank (ps qs : List Piece) :
    shownOf [] (ps ++ .char ' ' :: qs) = shownOf [] ps ++ ' ' :: shownOf [] qs := by
  -- the run that starts with the blank goes on with characters of its own
  have hrun : ∀ (qs : List Piece) (pending acc : Text), shownOf (acc ++ ' ' :: pending) qs =
      shownRun pending.reverse ++ ' ' :: shownOf acc qs := by
    intro qs pending
    induction qs with
    | nil => intro acc; simp [shownOf, shownRun_append_blank]
    | cons q qs ih =>
      intro acc
      cases q with
      | char c => exact ih (c :: acc)
      | literal t => simp [shownOf, shownRun_append_blank]
      | tag body => simp [shownOf, shownRun_append_blank]
  refine shownOf_append (fun pending => ?_) ps []
  exact hrun qs pending []

/-! ## Parts -/

/-- The parts that pieces make behind some characters, of which the last one comes first: the runs
of characters, and the texts between them. -/
def partsOf : Text → List Piece → List Text
  | pending, [] => [pending.reverse]
  | pending, .char c :: ps => partsOf (c :: pending) ps
  | pending, .literal t :: ps => pending.reverse :: t :: partsOf [] ps
  | pending, .tag _ :: ps => pending.reverse :: partsOf [] ps
termination_by structural _ ps => ps

/-- The parts of a text: its tags, the backslashes in front of them, and what stands between. -/
def parts (t : Text) : List Text := partsOf [] (textPieces t)

theorem flatten_partsOf (pending : Text) (ps : List Piece) :
    (partsOf pending ps).flatten = pending.reverse ++ ps.flatMap Piece.text := by
  induction ps generalizing pending with
  | nil => simp [partsOf]
  | cons p ps ih => cases p <;> simp [partsOf, ih, Piece.text]

/-- A text is its parts put together. -/
theorem flatten_parts (t : Text) : (parts t).flatten = t := by
  rw [parts, flatten_partsOf, text_textPieces, List.reverse_nil, List.nil_append]

example : parts "ab\\[c] \\[1]" = (["ab", "\\", "", "[c]", " \\[1]"] : List Text) := by
  decide +kernel

/-- A text without brackets is one part. -/
theorem parts_of_not_mem {t : Text} (h : '[' ∉ t) : parts t = [t] := by
  have hpieces : textPieces t = t.map .char := by
    induction t with
    | nil => rfl
    | cons c cs ih =>
      rw [textPieces_of_none (tagAt?_of_not_mem h), ih fun hmem => h (List.mem_cons_of_mem c hmem)]
      rfl
  have hchars : ∀ (cs pending : Text),
      partsOf pending (cs.map .char) = [pending.reverse ++ cs] := by
    intro cs
    induction cs with
    | nil => intro pending; simp [partsOf]
    | cons c cs ih => intro pending; simp [partsOf, ih]
  rw [parts, hpieces, hchars]
  rfl

theorem mem_piecesOf_literal {count : Nat} {body l : Text}
    (h : .literal l ∈ piecesOf count body) :
    l = List.replicate (count / 2) '\\' ∨ l = '[' :: body ++ [']'] := by
  unfold piecesOf at h
  rcases List.mem_append.1 h with h | h
  · split at h
    · cases h
    · exact .inl (Piece.literal.inj (List.mem_singleton.1 h))
  · have hlast := List.mem_singleton.1 h
    split at hlast
    · exact .inr (Piece.literal.inj hlast)
    · cases hlast

theorem dropBracketEscapes_bracketed {body : Text} (h : IsTag body) :
    dropBracketEscapes ('[' :: body ++ [']']) = '[' :: body ++ [']'] := by
  have hopen : '[' ∉ body ++ [']'] := by
    simp only [List.mem_append, List.mem_singleton, not_or]
    exact ⟨fun hmem => (h.2 _ hmem).2 rfl, by decide⟩
  have hdrop : dropBracketEscapes ('[' :: (body ++ [']'])) =
      '[' :: dropBracketEscapes (body ++ [']']) := rfl
  rw [List.cons_append, hdrop, dropBracketEscapes_of_not_mem_open hopen]

/-- The texts of tags, and the backslashes in front of them, lose no backslash. -/
theorem dropBracketEscapes_of_mem_textPieces {t l : Text} (h : .literal l ∈ textPieces t) :
    dropBracketEscapes l = l := by
  induction t using tags_induction with
  | nil => cases h
  | char c cs hno ih =>
    rw [textPieces_of_none hno] at h
    rcases List.mem_cons.1 h with h | h
    · cases h
    · exact ih h
  | tag count body rest hbody ih =>
    rw [textPieces_tagged hbody] at h
    rcases List.mem_append.1 h with h | h
    · rcases mem_piecesOf_literal h with rfl | rfl
      · exact dropBracketEscapes_of_not_mem_open fun hmem => by
          cases List.eq_of_mem_replicate hmem
      · exact dropBracketEscapes_bracketed hbody
    · exact ih h

theorem shownOf_eq_partsOf {ps : List Piece} (h : ∀ l, .literal l ∈ ps → dropBracketEscapes l = l)
    (pending : Text) : shownOf pending ps = (partsOf pending ps).flatMap shownRun := by
  induction ps generalizing pending with
  | nil => simp [shownOf, partsOf]
  | cons p ps ih =>
    have hps := ih fun l hl => h l (List.mem_cons_of_mem p hl)
    cases p with
    | char c => exact hps (c :: pending)
    | literal l =>
      have hl : shownRun l = shownUntagged l := by
        rw [shownRun, h l List.mem_cons_self, shownUntagged]
      simp [shownOf, partsOf, hps, hl]
    | tag body => simp [shownOf, partsOf, hps]

/-! ## Displayed text -/

/-- What the console shows of a text that was escaped. -/
def displayed (t : Text) : Text :=
  (parts t).flatMap shownRun ++ if endsInBackslash t then ['\\'] else []

theorem shownOf_escapedPieces (t : Text) : shownOf [] (escapedPieces t) = displayed t := by
  have hparts := shownOf_eq_partsOf (fun l => dropBracketEscapes_of_mem_textPieces (t := t)) []
  unfold escapedPieces displayed
  split
  · rw [shownOf_append_slash, hparts, parts]
  · rw [List.append_nil, List.append_nil, hparts, parts]

/-- A text without tabs and without characters that are never shown. -/
def IsOrdinary (t : Text) : Prop := ∀ c ∈ t, c ≠ '\t' ∧ isSilent c = false

instance (t : Text) : Decidable (IsOrdinary t) :=
  decidable_of_iff (t.all (fun c => c != '\t' && !isSilent c) = true) (by simp [IsOrdinary])

theorem IsOrdinary.not_mem_tab {t : Text} (h : IsOrdinary t) : '\t' ∉ t :=
  fun hmem => (h _ hmem).1 rfl

theorem IsOrdinary.of_mem_parts {t part : Text} (h : IsOrdinary t) (hpart : part ∈ parts t) :
    IsOrdinary part := fun c hc =>
  h c (flatten_parts t ▸ List.mem_flatten.2 ⟨part, hpart, hc⟩)

/-- No tab comes up. -/
theorem not_mem_tab_displayed {t : Text} (h : IsOrdinary t) : '\t' ∉ displayed t := by
  unfold displayed
  rw [List.mem_append, not_or]
  constructor
  · rw [List.mem_flatMap]
    rintro ⟨part, hpart, hmem⟩
    have htab := (h.of_mem_parts hpart).not_mem_tab
    exact not_mem_tab_withPictures (fun hdrop => htab (mem_of_mem_dropBracketEscapes hdrop))
      (List.mem_filter.1 hmem).1
  · split <;> decide

/-- A text that the console shows as it is once it is escaped. -/
structure IsVerbatim (t : Text) : Prop where
  /-- No part names a picture. -/
  pictures : ∀ part ∈ parts t, ¬NamesPicture part
  /-- A backslash in front of a bracket is in front of a tag. -/
  brackets : ∀ part ∈ parts t, ¬['\\', '['] <:+: part
  /-- There is not one backslash alone at the end. -/
  ending : endsInBackslash t = false

/-- A run that names no picture, once it has lost its backslashes, is shown without them. -/
theorem shownRun_of_withPictures {part : Text} (hordinary : IsOrdinary part)
    (h : withPictures (dropBracketEscapes part) = dropBracketEscapes part) :
    shownRun part = dropBracketEscapes part := by
  rw [shownRun, h]
  refine List.filter_eq_self.2 fun c hc => ?_
  rw [(hordinary c (mem_of_mem_dropBracketEscapes hc)).2]
  rfl

/-- Where every part is shown as it is, so is the text. -/
theorem flatMap_shownRun_parts {t : Text} (h : ∀ part ∈ parts t, shownRun part = part) :
    (parts t).flatMap shownRun = t := by
  rw [List.flatMap_def, List.map_congr_left (g := id) h, List.map_id, flatten_parts]

theorem displayed_of_isVerbatim {t : Text} (hordinary : IsOrdinary t) (h : IsVerbatim t) :
    displayed t = t := by
  have hpart : ∀ part ∈ parts t, shownRun part = part := by
    intro part hpart
    have hdrop := dropBracketEscapes_eq_self_iff.2 (h.brackets part hpart)
    have hpictures := withPictures_eq_self_iff.2 (h.pictures part hpart)
    rw [shownRun_of_withPictures (hordinary.of_mem_parts hpart) (by rw [hdrop, hpictures]), hdrop]
  rw [displayed, h.ending, if_neg Bool.false_ne_true, List.append_nil,
    flatMap_shownRun_parts hpart]

/-! ## Texts that are displayed as they are -/

theorem count_shownRun_le (part : Text) : (shownRun part).count ':' ≤ part.count ':' :=
  calc (shownRun part).count ':' ≤ (withPictures (dropBracketEscapes part)).count ':' :=
        List.filter_sublist.count_le ':'
    _ ≤ (dropBracketEscapes part).count ':' := count_withPictures_le _
    _ = part.count ':' := count_dropBracketEscapes part

theorem count_flatMap_shownRun_le (ps : List Text) :
    (ps.flatMap shownRun).count ':' ≤ ps.flatten.count ':' := by
  induction ps with
  | nil => exact Nat.le_refl _
  | cons part ps ih =>
    rw [List.flatMap_cons, List.flatten_cons, List.count_append, List.count_append]
    exact Nat.add_le_add (count_shownRun_le part) ih

/-- The console shows no more colons than there are. -/
theorem count_displayed_le (t : Text) : (displayed t).count ':' ≤ t.count ':' := by
  have hparts := count_flatMap_shownRun_le (parts t)
  have hending : (if endsInBackslash t then ['\\'] else [] : Text).count ':' = 0 := by
    split <;> decide
  rw [flatten_parts] at hparts
  rw [displayed, List.count_append, hending]
  exact hparts

/-- If no colon is lost in all parts, no part has become a picture. -/
theorem withPictures_of_count {ps : List Text}
    (h : ps.flatten.count ':' ≤ (ps.flatMap shownRun).count ':') :
    ∀ part ∈ ps, withPictures (dropBracketEscapes part) = dropBracketEscapes part := by
  induction ps with
  | nil => exact List.forall_mem_nil _
  | cons part ps ih =>
    rw [List.flatMap_cons, List.flatten_cons, List.count_append, List.count_append] at h
    have hpart := count_shownRun_le part
    have hps := count_flatMap_shownRun_le ps
    refine List.forall_mem_cons.2 ⟨withPictures_eq_self_of_count ?_, ih (by omega)⟩
    refine Nat.le_antisymm (count_withPictures_le _) ?_
    calc (dropBracketEscapes part).count ':' = part.count ':' := count_dropBracketEscapes part
      _ ≤ (shownRun part).count ':' := by omega
      _ ≤ (withPictures (dropBracketEscapes part)).count ':' := List.filter_sublist.count_le ':'

/-- If no part has become a picture, then a text that is shown as it is has lost no backslash,
whatever comes behind it. -/
theorem dropBracketEscapes_of_parts {ps : List Text} {more more' : Text}
    (hshown : ∀ part ∈ ps, shownRun part = dropBracketEscapes part)
    (h : ps.flatMap shownRun ++ more = ps.flatten ++ more') :
    ∀ part ∈ ps, dropBracketEscapes part = part := by
  induction ps with
  | nil => exact List.forall_mem_nil _
  | cons part ps ih =>
    rw [List.forall_mem_cons] at hshown
    rw [List.flatMap_cons, List.flatten_cons, List.append_assoc, List.append_assoc, hshown.1] at h
    have hpart := dropBracketEscapes_of_append h
    rw [hpart] at h
    exact List.forall_mem_cons.2 ⟨hpart, ih hshown.2 (List.append_cancel_left h)⟩

/-- A text is verbatim if it is displayed as it is, even if more comes behind it, as long as no
colon is lost in it and no backslash follows. -/
theorem isVerbatim_of_append {t more more' : Text} (hordinary : IsOrdinary t)
    (hcount : t.count ':' ≤ (displayed t).count ':') (hslash : more'.head? ≠ some '\\')
    (h : displayed t ++ more = t ++ more') : IsVerbatim t := by
  have hpictures : ∀ part ∈ parts t,
      withPictures (dropBracketEscapes part) = dropBracketEscapes part := by
    refine withPictures_of_count ?_
    rw [flatten_parts]
    refine Nat.le_trans hcount ?_
    rw [displayed, List.count_append]
    split <;> simp
  have hshown : ∀ part ∈ parts t, shownRun part = dropBracketEscapes part := fun part hpart =>
    shownRun_of_withPictures (hordinary.of_mem_parts hpart) (hpictures part hpart)
  rw [displayed, List.append_assoc] at h
  have hbrackets : ∀ part ∈ parts t, dropBracketEscapes part = part :=
    dropBracketEscapes_of_parts hshown (h.trans (congrArg (· ++ more') (flatten_parts t).symm))
  have hparts : (parts t).flatMap shownRun = t :=
    flatMap_shownRun_parts fun part hpart => (hshown part hpart).trans (hbrackets part hpart)
  refine ⟨fun part hpart => ?_, fun part hpart => ?_, ?_⟩
  · have hpart' := hpictures part hpart
    rw [hbrackets part hpart] at hpart'
    exact withPictures_eq_self_iff.1 hpart'
  · exact dropBracketEscapes_eq_self_iff.1 (hbrackets part hpart)
  · rw [hparts] at h
    have hmore := List.append_cancel_left h
    cases hends : endsInBackslash t with
    | false => rfl
    | true =>
      rw [hends, if_pos rfl] at hmore
      exact absurd (hmore ▸ rfl) hslash

/-- A text is displayed as it is exactly if it is verbatim. -/
theorem displayed_eq_self_iff {t : Text} (hordinary : IsOrdinary t) :
    displayed t = t ↔ IsVerbatim t := by
  refine ⟨fun h => ?_, displayed_of_isVerbatim hordinary⟩
  have hcount : t.count ':' ≤ (displayed t).count ':' :=
    Nat.le_of_eq (congrArg (List.count ':') h.symm)
  have hslash : ([] : Text).head? ≠ some '\\' := by decide
  exact isVerbatim_of_append hordinary hcount hslash (congrArg (· ++ []) h)

/-- So are two texts with a blank between them: neither makes up for what the other one loses. -/
theorem displayed_blank_eq_iff {t u : Text} (ht : IsOrdinary t) (hu : IsOrdinary u) :
    displayed t ++ ' ' :: displayed u = t ++ ' ' :: u ↔ IsVerbatim t ∧ IsVerbatim u := by
  constructor
  · intro h
    have hcount := congrArg (List.count ':') h
    simp only [List.count_append, List.count_cons_of_ne (show ' ' ≠ ':' by decide)] at hcount
    have hle := count_displayed_le u
    have hslash : (' ' :: u).head? ≠ some '\\' := by simp
    have hverbatim : IsVerbatim t := isVerbatim_of_append ht (by omega) hslash h
    rw [displayed_of_isVerbatim ht hverbatim, List.append_cancel_left_eq, List.cons_inj_right] at h
    exact ⟨hverbatim, (displayed_eq_self_iff hu).1 h⟩
  · rintro ⟨hverbatim, hverbatim'⟩
    rw [displayed_of_isVerbatim ht hverbatim, displayed_of_isVerbatim hu hverbatim']

end CommitCheck.Console
