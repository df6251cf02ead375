import CommitCheck.Proofs.Console.Report
import CommitCheck.Proofs.Run

/-!
# Text that is printed without being escaped

A text that goes to the console as it stands is taken for console text.  It is shown as it is
exactly if it is bare (`IsBare`): there is no tag in it, no backslash in front of an opening
bracket, and no name of a picture between colons (`output_eq_self_iff`).

That these are needed is shown by counting.  Brackets that open, backslashes and colons are marks.
Each of the rewritings takes marks away when it changes anything, and none of them brings one
back: tags and escapes lose theirs (`text_scan_sublist`, `scan_eq_of_marks`), and so do
backslashes in front of brackets and names of pictures (`of_marks_shownRun`).

A text is bare between steady texts if it is bare alone (`isBare_append_iff`), as long as a blank
comes behind it.
-/

namespace CommitCheck.Console

/-! ## Marks -/

/-- Whether a character can mean something to the console. -/
def isMark (c : Char) : Bool := c == '[' || c == '\\' || c == ':'

/-- The number of such characters. -/
def marks (t : Text) : Nat := t.countP isMark

theorem marks_append (t u : Text) : marks (t ++ u) = marks t + marks u := List.countP_append

theorem marks_reverse (t : Text) : marks t.reverse = marks t := List.countP_reverse

theorem isMark_of_isDrawn (c : Char) (h : isDrawn c = true) : isMark c = false := by
  simp only [isDrawn, Bool.and_eq_true, bne_iff_ne, ne_eq] at h
  simp [isMark, h]

/-- A backslash that is lost is not made up for. -/
theorem marks_dropBracketEscapes (t : Text) :
    dropBracketEscapes t = t ∨ marks (dropBracketEscapes t) < marks t := by
  unfold marks
  fun_induction dropBracketEscapes t with
  | case1 => exact .inl rfl
  | case2 cs ih =>
    have hslash : isMark '\\' = true := by decide
    have hle : (dropBracketEscapes cs).countP isMark ≤ cs.countP isMark :=
      ih.elim (fun h => Nat.le_of_eq (congrArg _ h)) Nat.le_of_lt
    rw [List.countP_cons_of_pos hslash, List.countP_cons, List.countP_cons]
    exact .inr (by omega)
  | case3 c cs hno ih =>
    rw [List.cons_inj_right, List.countP_cons, List.countP_cons]
    exact ih.imp_right fun h => Nat.add_lt_add_right h _

theorem marks_dropBracketEscapes_le (t : Text) : marks (dropBracketEscapes t) ≤ marks t :=
  (marks_dropBracketEscapes t).elim (fun h => Nat.le_of_eq (congrArg marks h)) Nat.le_of_lt

theorem marks_withPictures_le (t : Text) : marks (withPictures t) ≤ marks t :=
  countP_withPictures_le isMark_of_isDrawn t

theorem marks_shownUntagged_le (t : Text) : marks (shownUntagged t) ≤ marks t :=
  Nat.le_trans (List.filter_sublist.countP_le) (marks_withPictures_le t)

theorem marks_shownRun_le (t : Text) : marks (shownRun t) ≤ marks t :=
  calc marks (shownRun t) ≤ marks (withPictures (dropBracketEscapes t)) :=
        List.filter_sublist.countP_le
    _ ≤ marks (dropBracketEscapes t) := marks_withPictures_le _
    _ ≤ marks t := marks_dropBracketEscapes_le t

/-- A run that keeps its marks has lost no backslash and names no picture. -/
theorem of_marks_shownRun {t : Text} (h : marks t ≤ marks (shownRun t)) :
    dropBracketEscapes t = t ∧ ¬NamesPicture t := by
  have hfilter : marks (shownRun t) ≤ marks (withPictures (dropBracketEscapes t)) :=
    List.filter_sublist.countP_le
  have hpictures := marks_withPictures_le (dropBracketEscapes t)
  rcases marks_dropBracketEscapes t with hdrop | hlt
  · refine ⟨hdrop, fun hnames => ?_⟩
    have hlt : marks (withPictures t) < marks t :=
      countP_withPictures_lt isMark_of_isDrawn (by decide) hnames
    rw [hdrop] at hfilter
    omega
  · omega

theorem marks_shownOf_le (pending : Text) (ps : List Piece) :
    marks (shownOf pending ps) ≤ marks pending + marks (ps.flatMap Piece.text) := by
  induction ps generalizing pending with
  | nil =>
    have hrun := marks_shownRun_le pending.reverse
    rw [marks_reverse] at hrun
    exact Nat.le_add_right_of_le hrun
  | cons p ps ih =>
    have hrun := marks_shownRun_le pending.reverse
    rw [marks_reverse] at hrun
    rw [List.flatMap_cons, marks_append]
    cases p with
    | char c =>
      have hchar : marks (c :: pending) = marks (Piece.char c).text + marks pending :=
        marks_append [c] pending
      have hrest := ih (c :: pending)
      rw [shownOf]
      omega
    | literal t =>
      have hrest := ih []
      have ht := marks_shownUntagged_le t
      rw [show marks [] = 0 from rfl, Nat.zero_add] at hrest
      rw [shownOf, marks_append, marks_append]
      simp only [Piece.text]
      omega
    | tag body =>
      have hrest := ih []
      rw [show marks [] = 0 from rfl, Nat.zero_add] at hrest
      rw [shownOf, marks_append]
      omega

/-! ## Texts without tags -/

/-- What the pieces of a tag spell out is what is left of the tag, with half of its backslashes. -/
theorem text_pieces_tag (count : Nat) (body : Text) :
    (piecesOf count body).flatMap Piece.text =
      List.replicate (count / 2) '\\' ++
        if count % 2 = 1 then '[' :: (body ++ [']']) else [] := by
  unfold piecesOf
  rw [List.flatMap_append]
  congr 1
  · split
    · rename_i h
      rw [h]
      rfl
    · simp [Piece.text]
  · split <;> simp [Piece.text]

theorem tagged_eq_append (count : Nat) (body rest : Text) :
    tagged count body rest = (List.replicate count '\\' ++ '[' :: (body ++ [']'])) ++ rest := by
  simp [tagged]

/-- What the pieces of a text spell out is the text with some characters left out. -/
theorem text_scan_sublist (t : Text) : ((scanAfter 0 t).flatMap Piece.text).Sublist t := by
  induction t using tags_induction with
  | nil => exact List.Sublist.refl _
  | char c cs hno ih =>
    rw [scanAfter_of_none hno, List.flatMap_cons]
    exact ih.cons_cons c
  | tag count body rest hbody ih =>
    rw [scan_tagged hbody, List.flatMap_append, text_pieces_tag, tagged_eq_append]
    refine (List.Sublist.append ?_ ?_).append ih
    · exact (List.replicate_sublist_replicate '\\').2 (Nat.div_le_self count 2)
    · split
      · exact List.Sublist.refl _
      · exact List.nil_sublist _

/-- A text that keeps its marks has no tag in it. -/
theorem scan_eq_of_marks {t : Text} (h : marks t ≤ marks ((scanAfter 0 t).flatMap Piece.text)) :
    scanAfter 0 t = t.map .char := by
  induction t using tags_induction with
  | nil => rfl
  | char c cs hno ih =>
    rw [scanAfter_of_none hno, List.flatMap_cons] at h
    have hcs : marks cs ≤ marks ((scanAfter 0 cs).flatMap Piece.text) := by
      have hhead : marks (c :: cs) = marks [c] + marks cs := marks_append [c] cs
      rw [marks_append, hhead] at h
      exact Nat.le_of_add_le_add_left h
    rw [scanAfter_of_none hno, ih hcs]
    rfl
  | tag count body rest hbody ih =>
    have hrest : marks ((scanAfter 0 rest).flatMap Piece.text) ≤ marks rest :=
      (text_scan_sublist rest).countP_le
    have hslashes : ∀ n, marks (List.replicate n '\\') = n := fun n => by
      have hslash : isMark '\\' = true := by decide
      simp [marks, List.countP_replicate, hslash]
    have hopen : marks ('[' :: (body ++ [']'])) = 1 + marks (body ++ [']']) :=
      marks_append ['['] (body ++ [']'])
    rw [scan_tagged hbody, List.flatMap_append, text_pieces_tag, tagged_eq_append] at h
    simp only [marks_append, hslashes, hopen] at h
    -- one bracket is lost, or one backslash at least
    split at h
    · simp only [marks_append, hopen] at h
      omega
    · rw [show marks [] = 0 from rfl] at h
      omega

/-- A text is scanned as its characters exactly if there is no tag in it. -/
theorem scan_eq_map_char_iff {t : Text} :
    scanAfter 0 t = t.map .char ↔ ∀ body, IsTag body → ¬('[' :: (body ++ [']'])) <:+: t := by
  induction t using tags_induction with
  | nil => exact iff_of_true rfl fun body _ h => by cases List.infix_nil.1 h
  | char c cs hno ih =>
    rw [scanAfter_of_none hno, List.map_cons, List.cons_inj_right, ih]
    refine forall₂_congr fun body hbody => not_congr ?_
    rw [List.infix_cons_iff]
    refine (or_iff_right fun hprefix => ?_).symm
    obtain ⟨rest, hrest⟩ := hprefix
    have htag : tagAt? (c :: cs) = some (0, body) :=
      tagAt?_eq_some_iff.2 ⟨hbody, rest, by rw [← hrest, tagged_eq_append]; rfl⟩
    rw [hno] at htag
    cases htag
  | tag count body rest hbody ih =>
    refine iff_of_false (fun h => ?_) fun h => ?_
    · have hmem : (if count % 2 = 1 then Piece.literal ('[' :: body ++ [']']) else .tag body) ∈
          (tagged count body rest).map Piece.char := by
        rw [← h, scan_tagged hbody, piecesOf]
        simp
      obtain ⟨c, -, hc⟩ := List.mem_map.1 hmem
      split at hc <;> cases hc
    · refine h body hbody ⟨List.replicate count '\\', rest, ?_⟩
      rw [tagged_eq_append]

/-! ## Bare texts -/

/-- A text that the console shows as it is. -/
structure IsBare (t : Text) : Prop where
  /-- There is no tag in it, with backslashes in front or without. -/
  tags : ∀ body, IsTag body → ¬('[' :: (body ++ [']'])) <:+: t
  /-- No backslash is in front of an opening bracket. -/
  brackets : ¬['\\', '['] <:+: t
  /-- It names no picture. -/
  pictures : ¬NamesPicture t

theorem isBare_iff {t : Text} :
    IsBare t ↔ scan t = t.map .char ∧ dropBracketEscapes t = t ∧ withPictures t = t := by
  rw [scan, scan_eq_map_char_iff, dropBracketEscapes_eq_self_iff, withPictures_eq_self_iff]
  exact ⟨fun h => ⟨h.tags, h.brackets, h.pictures⟩, fun h => ⟨h.1, h.2.1, h.2.2⟩⟩

instance (t : Text) : Decidable (IsBare t) := decidable_of_iff _ isBare_iff.symm

example : IsBare "https://host/api[3]" ∧ ¬IsBare "https://[fe80::1]/" := by decide +kernel

theorem shownOf_chars (t : Text) : shownOf [] (t.map .char) = shownRun t := by
  have hmap := shownOf_map_char t [] []
  rw [List.append_nil, List.append_nil] at hmap
  rw [hmap, shownOf, List.reverse_reverse]

/-- Pieces show a text without characters that are never shown exactly if it is bare. -/
theorem shownOf_eq_self_iff {t : Text} (h : IsOrdinary t) : shownOf [] (scan t) = t ↔ IsBare t := by
  constructor
  · intro hshown
    have hle := marks_shownOf_le [] (scan t)
    rw [hshown, show marks [] = 0 from rfl, Nat.zero_add] at hle
    have hscan : scan t = t.map .char := scan_eq_of_marks hle
    rw [hscan, shownOf_chars] at hshown
    obtain ⟨hdrop, hpictures⟩ := of_marks_shownRun (Nat.le_of_eq (congrArg marks hshown.symm))
    exact isBare_iff.2 ⟨hscan, hdrop, withPictures_eq_self_iff.2 hpictures⟩
  · intro hbare
    obtain ⟨hscan, hdrop, hwith⟩ := isBare_iff.1 hbare
    rw [hscan, shownOf_chars, shownRun_of_withPictures h (by rw [hdrop, hwith]), hdrop]

/-- No tab comes up. -/
theorem not_mem_tab_shownOf {ps : List Piece} {pending : Text} (hpending : '\t' ∉ pending)
    (hps : '\t' ∉ ps.flatMap Piece.text) : '\t' ∉ shownOf pending ps := by
  have huntagged : ∀ {t : Text}, '\t' ∉ t → '\t' ∉ shownUntagged t := fun ht hmem =>
    not_mem_tab_withPictures ht (List.mem_filter.1 hmem).1
  have hrun : ∀ {t : Text}, '\t' ∉ t → '\t' ∉ shownRun t.reverse := fun ht =>
    huntagged fun hmem => ht (List.mem_reverse.1 (mem_of_mem_dropBracketEscapes hmem))
  induction ps generalizing pending with
  | nil => exact hrun hpending
  | cons p ps ih =>
    rw [List.flatMap_cons, List.mem_append, not_or] at hps
    cases p with
    | char c =>
      have hc : '\t' ∉ c :: pending := by
        rw [List.mem_cons, not_or]
        exact ⟨fun hc => hps.1 (List.mem_singleton.2 hc), hpending⟩
      exact ih hc hps.2
    | literal t =>
      simp only [shownOf, List.mem_append, not_or]
      exact ⟨hrun hpending, huntagged hps.1, ih List.not_mem_nil hps.2⟩
    | tag body =>
      simp only [shownOf, List.mem_append, not_or]
      exact ⟨hrun hpending, ih List.not_mem_nil hps.2⟩

/-- A shown text as the endless console lays it out. -/
def laidOut (t : Text) : Text := ofLines ((linesOf t).map expandTabs)

theorem laidOut_eq_self {t : Text} (h : '\t' ∉ t) : laidOut t = t := by
  rw [laidOut, map_expandTabs_linesOf h, ofLines_linesOf]

/-- What a console puts out is made of the lines that the pieces of a text show. -/
theorem eq_of_output_lines {c : Console} {t shown : Text} (h : c.output t = .ok shown) :
    shown = ofLines (c.linesFor (shownOf [] (scan t))) ++ ['\n'] := by
  unfold output at h
  obtain ⟨r, hrender, h⟩ := Result.bind_eq_ok_iff.1 h
  split at h
  · cases h
  · rw [← Except.ok.inj h, text_of_render hrender]

/-- What the endless console puts out is laid out from what the pieces of a text show. -/
theorem eq_laidOut_of_output {t line : Text} (h : endless.output t = .ok line) :
    line = laidOut (shownOf [] (scan t)) ++ ['\n'] := eq_of_output_lines h

/-- It is just that if there is no tab in the text. -/
theorem eq_of_output {t shown : Text} (h : endless.output t = .ok shown) (htab : '\t' ∉ t) :
    shown = shownOf [] (scan t) ++ ['\n'] := by
  have hnone : '\t' ∉ shownOf [] (scan t) :=
    not_mem_tab_shownOf List.not_mem_nil fun hmem => htab ((text_scan_sublist t).subset hmem)
  rw [eq_laidOut_of_output h, laidOut_eq_self hnone]

/-- A text without characters that are never shown is put out as it is exactly if it is bare. -/
theorem output_eq_self_iff {t : Text} (h : IsOrdinary t) :
    endless.output t = .ok (t ++ ['\n']) ↔ IsBare t := by
  rw [← shownOf_eq_self_iff h]
  constructor
  · intro hout
    exact (List.append_cancel_right (eq_of_output hout h.not_mem_tab)).symm
  · intro hshown
    obtain ⟨hscan, -⟩ := isBare_iff.1 ((shownOf_eq_self_iff h).1 hshown)
    refine (renders_of_isShown fun p hp => ?_).output_eq hshown h.not_mem_tab
    rw [hscan] at hp
    exact isShown_of_mem_map_char hp

/-! ## Bare texts between others -/

/-- What starts with a character that the first part lacks is in the second part. -/
theorem infix_append_iff_right {c : Char} {u t rest : Text} (h : c ∉ t) :
    c :: u <:+: t ++ rest ↔ c :: u <:+: rest := by
  induction t with
  | nil => exact Iff.rfl
  | cons d ds ih =>
    rw [List.mem_cons, not_or] at h
    rw [List.cons_append, List.infix_cons_iff, ih h.2]
    exact or_iff_right fun hprefix => h.1 (List.cons_prefix_cons.1 hprefix).1

/-- What ends in a character that the second part lacks is in the first part. -/
theorem infix_append_iff_left {c : Char} {u t rest : Text} (h : c ∉ rest) :
    u ++ [c] <:+: t ++ rest ↔ u ++ [c] <:+: t := by
  have hreverse : c ∉ rest.reverse := fun hmem => h (List.mem_reverse.1 hmem)
  have hfirst : c :: u.reverse <:+: rest.reverse ++ t.reverse ↔ c :: u.reverse <:+: t.reverse :=
    infix_append_iff_right hreverse
  rwa [← List.reverse_concat, ← List.reverse_append, List.reverse_infix, List.reverse_infix]
    at hfirst

/-- Steady text in front and a blank and steady text behind leave a text as bare as it is. -/
theorem isBare_append_iff {before after t : Text} (hbefore : before.all isSteady = true)
    (hafter : after.all isSteady = true) (hclose : ']' ∉ after) :
    IsBare (before ++ (t ++ ' ' :: after)) ↔ IsBare t := by
  obtain ⟨hchars, hcolon⟩ := isPlainChar_of_isSteady hbefore
  obtain ⟨hopen, hslash, -⟩ := not_mem_of_all_isPlainChar hchars
  obtain ⟨hchars', hcolon'⟩ := isPlainChar_of_isSteady hafter
  obtain ⟨hopen', -, -⟩ := not_mem_of_all_isPlainChar hchars'
  have hbehind : ∀ {c : Char}, c ≠ ' ' → c ∉ after → c ∉ ' ' :: after := fun hc hmem => by
    rw [List.mem_cons, not_or]
    exact ⟨hc, hmem⟩
  have htag : ∀ body : Text, '[' :: (body ++ [']']) <:+: before ++ (t ++ ' ' :: after) ↔
      '[' :: (body ++ [']']) <:+: t := fun body => by
    rw [infix_append_iff_right hopen, ← List.cons_append,
      infix_append_iff_left (hbehind (by decide) hclose)]
  have hbracket : ['\\', '['] <:+: before ++ (t ++ ' ' :: after) ↔ ['\\', '['] <:+: t := by
    rw [infix_append_iff_right hslash, show ['\\', '['] = ['\\'] ++ ['['] from rfl,
      infix_append_iff_left (hbehind (by decide) hopen')]
  have hpictures : NamesPicture (before ++ (t ++ ' ' :: after)) ↔ NamesPicture t := by
    rw [← not_iff_not, ← withPictures_eq_self_iff, ← withPictures_eq_self_iff,
      withPictures_append hcolon, withPictures_append_of_none t (named?_blank after),
      withPictures_eq_self (hbehind (by decide) hcolon'), List.append_right_inj,
      List.append_left_inj]
  constructor
  · rintro ⟨htags, hbrackets, hnone⟩
    exact ⟨fun body hbody h => htags body hbody ((htag body).2 h),
      fun h => hbrackets (hbracket.2 h), fun h => hnone (hpictures.2 h)⟩
  · rintro ⟨htags, hbrackets, hnone⟩
    exact ⟨fun body hbody h => htags body hbody ((htag body).1 h),
      fun h => hbrackets (hbracket.1 h), fun h => hnone (hpictures.1 h)⟩

/-- Steady text is bare. -/
theorem isBare_of_isSteady {t : Text} (h : t.all isSteady = true) : IsBare t := by
  obtain ⟨hchars, hcolon⟩ := isPlainChar_of_isSteady h
  obtain ⟨hopen, hslash, -⟩ := not_mem_of_all_isPlainChar hchars
  exact ⟨fun body _ hmem => hopen (hmem.subset List.mem_cons_self),
    fun hmem => hslash (hmem.subset List.mem_cons_self),
    withPictures_eq_self_iff.1 (withPictures_eq_self hcolon)⟩

end CommitCheck.Console
