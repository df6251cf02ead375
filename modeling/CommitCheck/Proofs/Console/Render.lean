import CommitCheck.Console.Basic
import CommitCheck.Proofs.Console.Scan

/-!
# Showing text

What a console shows of a text, by the pieces that scanning finds in it.

`shownOf` is the text that pieces show.  Tags show nothing and only part the characters
around them, so it needs no open tags, and `text_of_render` says that it is what `render`
shows whenever `render` succeeds.

Whether `render` succeeds depends on the tags alone.  Two forms are enough for every line
that the program prints of its own: no tags at all (`renders_of_isShown`), and the tags of one
style around the rest (`IsStyle.renders`).  The closing tag may be missing, because a text
that ends in backslashes can turn it into text.
-/

namespace CommitCheck.Console

/-! ## Plain characters -/

theorem scan_append_of_not_mem {t : Text} (hopen : '[' ∉ t) (hslash : '\\' ∉ t) (rest : Text) :
    scanAfter 0 (t ++ rest) = t.map .char ++ scanAfter 0 rest := by
  induction t with
  | nil => rfl
  | cons c cs ih =>
    rw [List.mem_cons, not_or] at hopen hslash
    have hno : tagAt? (c :: (cs ++ rest)) = none := tagAt?_cons (Ne.symm hslash.1) (Ne.symm hopen.1)
    rw [List.cons_append, scanAfter_of_none hno, ih hopen.2 hslash.2]
    rfl

theorem scan_of_not_mem {t : Text} (hopen : '[' ∉ t) : scanAfter 0 t = t.map .char := by
  induction t with
  | nil => rfl
  | cons c cs ih =>
    rw [scanAfter_of_none (tagAt?_of_not_mem hopen), ih fun h => hopen (List.mem_cons_of_mem c h)]
    rfl

theorem isShown_of_mem_map_char {t : Text} {p : Piece} (h : p ∈ t.map Piece.char) : p.IsShown := by
  obtain ⟨c, -, rfl⟩ := List.mem_map.1 h
  trivial

theorem withPictures_append {t : Text} (h : ':' ∉ t) (rest : Text) :
    withPictures (t ++ rest) = t ++ withPictures rest := by
  unfold withPictures
  induction t with
  | nil => rfl
  | cons c cs ih =>
    rw [List.mem_cons, not_or] at h
    rw [List.cons_append, picturesAfter, if_neg (Ne.symm h.1), ih h.2]
    rfl

/-- Without colons there are no names of pictures. -/
theorem withPictures_eq_self {t : Text} (h : ':' ∉ t) : withPictures t = t := by
  have happend := withPictures_append h []
  rwa [List.append_nil, show withPictures [] = [] from rfl, List.append_nil] at happend

theorem dropBracketEscapes_of_not_mem_open {t : Text} (h : '[' ∉ t) : dropBracketEscapes t = t := by
  fun_induction dropBracketEscapes t with
  | case1 => rfl
  | case2 cs ih => exact absurd (List.mem_cons_of_mem _ List.mem_cons_self) h
  | case3 c cs hno ih => rw [ih fun hmem => h (List.mem_cons_of_mem c hmem)]

/-- Text without names of pictures and silent characters is shown as it is. -/
theorem shownUntagged_eq_self {t : Text} (hpictures : withPictures t = t)
    (hloud : ∀ c ∈ t, isSilent c = false) : shownUntagged t = t := by
  rw [shownUntagged, hpictures]
  exact List.filter_eq_self.2 fun c hc => by simp [hloud c hc]

/-- So is a run of it between two tags, if there are no brackets either. -/
theorem shownRun_eq_self {t : Text} (hopen : '[' ∉ t) (hpictures : withPictures t = t)
    (hloud : ∀ c ∈ t, isSilent c = false) : shownRun t = t := by
  rw [shownRun, dropBracketEscapes_of_not_mem_open hopen]
  exact shownUntagged_eq_self hpictures hloud

/-! ## What pieces show -/

/-- What pieces show after some characters, of which the last one comes first. -/
def shownOf : Text → List Piece → Text
  | pending, [] => shownRun pending.reverse
  | pending, .char c :: ps => shownOf (c :: pending) ps
  | pending, .literal t :: ps => shownRun pending.reverse ++ (shownUntagged t ++ shownOf [] ps)
  | pending, .tag _ :: ps => shownRun pending.reverse ++ shownOf [] ps
termination_by structural _ ps => ps

theorem shownOf_map_char (t pending : Text) (ps : List Piece) :
    shownOf pending (t.map .char ++ ps) = shownOf (t.reverse ++ pending) ps := by
  induction t generalizing pending with
  | nil => rfl
  | cons c cs ih =>
    show shownOf (c :: pending) (cs.map .char ++ ps) = _
    rw [ih, List.reverse_cons, List.append_assoc]
    rfl

namespace Showing

theorem text_finish (s : Showing) (t : OpenTag) : (s.finish t).text = s.text := by
  unfold finish
  split <;> rfl

theorem pending_finish (s : Showing) (t : OpenTag) : (s.finish t).pending = s.pending := by
  unfold finish
  split <;> rfl

theorem text_foldl_finish (ts : List OpenTag) (s : Showing) :
    (ts.foldl finish s).text = s.text := by
  induction ts generalizing s with
  | nil => rfl
  | cons t ts ih => rw [List.foldl_cons, ih, text_finish]

/-- A tag shows nothing. -/
theorem text_of_tag {s s' : Showing} {body : Text} (h : s.tag body = .ok s') :
    s'.text = s.text ∧ s'.pending = s.pending := by
  unfold tag at h
  dsimp only at h
  split at h
  · rename_i rest hname
    cases hclose : closeTag s.opened body (trim rest) with
    | error e =>
      rw [hclose] at h
      cases h
    | ok closed =>
      rw [hclose] at h
      obtain rfl := Except.ok.inj h
      exact ⟨text_finish s closed.1, pending_finish s closed.1⟩
  · split at h
    · cases h
    · obtain rfl := Except.ok.inj h
      exact ⟨rfl, rfl⟩

/-- What is shown after some pieces is what was shown and what they show. -/
theorem text_of_foldlM {ps : List Piece} {s s' : Showing} (h : ps.foldlM step s = .ok s') :
    s'.flush.text = s.text ++ shownOf s.pending ps := by
  induction ps generalizing s with
  | nil =>
    obtain rfl := Except.ok.inj h
    rfl
  | cons p ps ih =>
    rw [List.foldlM_cons] at h
    cases hp : s.step p with
    | error e =>
      rw [hp] at h
      cases h
    | ok s₁ =>
      rw [hp] at h
      rw [ih h]
      cases p with
      | char c =>
        obtain rfl := Except.ok.inj hp
        rfl
      | literal t =>
        obtain rfl := Except.ok.inj hp
        show s.text ++ shownRun s.pending.reverse ++ shownUntagged t ++ shownOf [] ps = _
        simp [shownOf]
      | tag body =>
        obtain ⟨htext, hpending⟩ := text_of_tag hp
        rw [htext, hpending]
        show s.text ++ shownRun s.pending.reverse ++ shownOf [] ps = _
        simp [shownOf]

end Showing

theorem text_done (s : Showing) : s.done.text = s.flush.text :=
  Showing.text_foldl_finish s.flush.opened s.flush

/-- What a console text shows is what its pieces show. -/
theorem text_of_render {t : Text} {shown : Shown} (h : render t = .ok shown) :
    shown.text = shownOf [] (scan t) := by
  unfold render at h
  split at h
  · cases hfold : (scan t).foldlM Showing.step .start with
    | error e =>
      rw [hfold] at h
      cases h
    | ok s =>
      rw [hfold] at h
      obtain rfl := Except.ok.inj h
      rw [text_done, Showing.text_of_foldlM hfold]
      rfl
  · rename_i hopen
    have hopen : '[' ∉ t := by simpa using hopen
    obtain rfl := Except.ok.inj h
    have hmap := shownOf_map_char t [] []
    rw [List.append_nil, List.append_nil] at hmap
    rw [scan, scan_of_not_mem hopen, hmap]
    show shownUntagged t = shownRun t.reverse.reverse
    rw [List.reverse_reverse, shownRun, dropBracketEscapes_of_not_mem_open hopen, shownUntagged]

/-! ## Texts that can be shown -/

/-- A text can be shown, with no garbled style. -/
def Renders (t : Text) : Prop := ∃ text, render t = .ok ⟨text, []⟩

namespace Showing

/-- No style has been garbled, and no open tag has parameters that could garble one. -/
def Sound (s : Showing) : Prop := s.garbled = [] ∧ ∀ t ∈ s.opened, t.parameters = none

theorem finish_of_parameters {s : Showing} {t : OpenTag} (h : t.parameters = none) :
    s.finish t = s := by
  unfold finish Tag.isGarbled
  rw [h]
  rfl

theorem foldl_finish_of_sound {ts : List OpenTag} (h : ∀ t ∈ ts, t.parameters = none)
    (s : Showing) : ts.foldl finish s = s := by
  induction ts with
  | nil => rfl
  | cons t ts ih =>
    rw [List.foldl_cons, finish_of_parameters (h t List.mem_cons_self)]
    exact ih fun u hu => h u (List.mem_cons_of_mem t hu)

theorem Sound.done {s : Showing} (h : s.Sound) : s.done.garbled = [] := by
  show (s.flush.opened.foldl finish s.flush).garbled = []
  have hopened : ∀ t ∈ s.flush.opened, t.parameters = none := h.2
  rw [foldl_finish_of_sound hopened]
  exact h.1

/-- Pieces that are no tags are shown, and leave the tags as they are. -/
theorem foldlM_of_isShown {ps : List Piece} (h : ∀ p ∈ ps, p.IsShown) (s : Showing) :
    ∃ s', ps.foldlM step s = .ok s' ∧ s'.opened = s.opened ∧ s'.garbled = s.garbled := by
  induction ps generalizing s with
  | nil => exact ⟨s, rfl, rfl, rfl⟩
  | cons p ps ih =>
    have hrest : ∀ q ∈ ps, q.IsShown := fun q hq => h q (List.mem_cons_of_mem p hq)
    cases p with
    | char c => exact ih hrest { s with pending := c :: s.pending }
    | literal t => exact ih hrest (s.flush.append (shownUntagged t))
    | tag body => exact absurd (h _ List.mem_cons_self) id

end Showing

theorem renders_of_foldlM {t : Text} {s : Showing} (h : (scan t).foldlM Showing.step .start = .ok s)
    (hs : s.Sound) : Renders t := by
  unfold Renders render
  split
  · refine ⟨s.done.text, ?_⟩
    rw [h, ← hs.done]
    rfl
  · exact ⟨shownUntagged t, rfl⟩

/-- A text without tags can be shown. -/
theorem renders_of_isShown {t : Text} (h : ∀ p ∈ scan t, p.IsShown) : Renders t := by
  obtain ⟨s, hfold, hopened, hgarbled⟩ := Showing.foldlM_of_isShown h .start
  refine renders_of_foldlM hfold ⟨hgarbled, fun u hu => ?_⟩
  rw [hopened] at hu
  cases hu

/-! ## Styles -/

/-- A style in its plain name, which opens and closes without parameters. -/
structure IsStyle (style : Text) : Prop where
  /-- The style can be opened. -/
  opens : IsTag style
  /-- The style is named by itself. -/
  named : normalName? style = some style
  /-- The name is that of a tag that opens, and of no action. -/
  starts : style.head? ≠ some '/' ∧ style.head? ≠ some '@'
  /-- There are no parameters. -/
  bare : cutAt? '=' style = none
  /-- There are no blanks around the name. -/
  trimmed : trim style = style

theorem isStyle_red : IsStyle "red" :=
  ⟨by decide +kernel, by decide +kernel, by decide, by decide, by decide⟩

theorem isStyle_yellow : IsStyle "yellow" :=
  ⟨by decide +kernel, by decide +kernel, by decide, by decide, by decide⟩

theorem isStyle_green : IsStyle "green" :=
  ⟨by decide +kernel, by decide +kernel, by decide, by decide, by decide⟩

namespace IsStyle

variable {style : Text} (h : IsStyle style)
include h

theorem closes : IsTag ('/' :: style) := by
  refine ⟨rfl, fun c hc => ?_⟩
  rcases List.mem_cons.1 hc with rfl | hc
  · decide
  · exact h.opens.2 c hc

theorem tag_open (s : Showing) :
    s.tag style = .ok { s with opened := ⟨⟨style, none⟩, s.text.length⟩ :: s.opened } := by
  obtain ⟨c, cs, rfl⟩ := List.exists_cons_of_ne_nil h.opens.ne_nil
  have hc : c ≠ '/' := fun hslash => h.starts.1 (congrArg some hslash)
  unfold Showing.tag Tag.ofBody
  rw [h.bare]
  dsimp only
  split
  · rename_i rest hname
    exact absurd (List.cons.inj hname).1 hc
  · rw [h.named]

theorem tag_close {s : Showing} {start : Nat} {us : List OpenTag}
    (hs : s.opened = ⟨⟨style, none⟩, start⟩ :: us) :
    s.tag ('/' :: style) = .ok { s with opened := us } := by
  have hbare : cutAt? '=' ('/' :: style) = none := by
    rw [cutAt?, if_neg (by decide), h.bare]
    rfl
  have hempty : style.isEmpty = false := by
    rw [List.isEmpty_eq_false_iff]
    exact h.opens.ne_nil
  have hclose : closeTag s.opened ('/' :: style) (trim style) =
      .ok (⟨⟨style, none⟩, start⟩, us) := by
    unfold closeTag
    rw [h.trimmed, hs, hempty, h.named]
    simp [closeNamed?, Tag.canClose, h.starts.2]
  unfold Showing.tag Tag.ofBody
  rw [hbare]
  show (closeTag s.opened ('/' :: style) (trim style)).map _ = _
  rw [hclose]
  show Except.ok { s.finish _ with opened := us } = _
  rw [Showing.finish_of_parameters rfl]

/-- A text within the tags of a style can be shown, with no other tags inside and none or
only the closing tag at the end. -/
theorem renders {t : Text} {inner outer : List Piece} (hinner : ∀ p ∈ inner, p.IsShown)
    (houter : ∀ p ∈ outer, p.IsShown)
    (hscan : scan t = .tag style :: inner ∨
      scan t = .tag style :: (inner ++ .tag ('/' :: style) :: outer)) : Renders t := by
  obtain ⟨s₁, hfold₁, hopened₁, hgarbled₁⟩ := Showing.foldlM_of_isShown hinner
    { Showing.start.flush with opened := [⟨⟨style, none⟩, 0⟩] }
  have hopen : ∀ ps, (.tag style :: (inner ++ ps) : List Piece).foldlM Showing.step .start =
      ps.foldlM Showing.step s₁ := by
    intro ps
    rw [List.foldlM_cons]
    show (Showing.start.flush.tag style >>= fun s => (inner ++ ps).foldlM Showing.step s) = _
    rw [h.tag_open]
    show (inner ++ ps).foldlM Showing.step _ = _
    rw [List.foldlM_append]
    show (inner.foldlM Showing.step
      { Showing.start.flush with opened := [⟨⟨style, none⟩, 0⟩] } >>= _) = _
    rw [hfold₁]
    rfl
  rcases hscan with hscan | hscan
  · have hfold := hopen []
    rw [List.append_nil, ← hscan] at hfold
    refine renders_of_foldlM hfold ⟨hgarbled₁, fun u hu => ?_⟩
    rw [hopened₁] at hu
    obtain rfl := List.mem_singleton.1 hu
    rfl
  · obtain ⟨s₂, hfold₂, hopened₂, hgarbled₂⟩ :=
      Showing.foldlM_of_isShown houter { s₁.flush with opened := [] }
    have hfold := hopen (.tag ('/' :: style) :: outer)
    rw [← hscan, List.foldlM_cons] at hfold
    have hstep : s₁.step (.tag ('/' :: style)) = .ok { s₁.flush with opened := [] } :=
      h.tag_close (s := s₁.flush) hopened₁
    rw [hstep] at hfold
    refine renders_of_foldlM (hfold.trans hfold₂) ⟨hgarbled₂.trans hgarbled₁, fun u hu => ?_⟩
    rw [hopened₂] at hu
    cases hu

end IsStyle

end CommitCheck.Console
