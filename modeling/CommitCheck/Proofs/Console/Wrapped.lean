import CommitCheck.Proofs.Console.Columns
import CommitCheck.Proofs.Text.Blank

/-!
# The start of a line that is broken

A console with a width breaks lines between words and cuts words that are too wide, so what it puts
out need not be the text that is shown.  But a start of the program that fits into a line stays in
front whatever follows it, be there wide characters, joiners, tabs or line feeds, as long as a blank
sets it off (`IsStart.prefix_wrap`, `Opens.prefix_of_output`).

Three facts carry this.  A text of narrow characters is as many clusters and cells as characters,
and a narrow character behind it starts a cluster of its own (`clusters_append_cons`).  The words of
a line that starts so are those of the start, the last of them with blanks behind it
(`runs_append_blank`).  And words that have been put on the first line stay there
(`prefix_firstPiece_add`).
-/

namespace CommitCheck

/-! ## Narrow characters -/

/-- Whether a character takes one cell wherever it stands. -/
def isNarrow (c : Char) : Bool := 0x20 ≤ c.toNat && c.toNat < 0x7F

section Narrow

variable {c : Char} {t : Text}

theorem isNarrow_iff : isNarrow c = true ↔ 0x20 ≤ c.toNat ∧ c.toNat < 0x7F := by
  simp [isNarrow]

theorem cellWidth_of_isNarrow (h : isNarrow c = true) : cellWidth c = 1 := by
  obtain ⟨hlow, hhigh⟩ := isNarrow_iff.1 h
  unfold cellWidth
  dsimp only
  rw [if_neg (by omega), if_pos hhigh]

theorem ne_of_isNarrow {d : Char} (h : isNarrow c = true) (hd : 0x7F ≤ d.toNat) : c ≠ d := by
  rintro rfl
  have hhigh := (isNarrow_iff.1 h).2
  omega

theorem Measured.add_of_isNarrow (h : isNarrow c = true) (total : Nat) (last : Option Char) :
    Measured.add ⟨total, last, false⟩ c = ⟨total + 1, some c, false⟩ := by
  have hwidth := cellWidth_of_isNarrow h
  simp [add, ne_of_isNarrow h (show 0x7F ≤ joiner.toNat by decide),
    ne_of_isNarrow h (show 0x7F ≤ selector.toNat by decide), hwidth]

theorem cells_of_isNarrow (h : t.all isNarrow = true) : cells t = t.length := by
  suffices hall : ∀ total last, (t.foldl Measured.add ⟨total, last, false⟩).total =
      total + t.length by
    exact (hall 0 none).trans (Nat.zero_add _)
  induction t with
  | nil => exact fun _ _ => rfl
  | cons c cs ih =>
    intro total last
    rw [List.all_cons, Bool.and_eq_true] at h
    rw [List.foldl_cons, Measured.add_of_isNarrow h.1, ih h.2, List.length_cons]
    omega

/-- Without the blanks at its end a narrow text has no more cells than characters. -/
theorem cells_trimEnd_le (h : t.all isNarrow = true) : cells (trimEnd t) ≤ t.length := by
  have htrimmed : trimEnd t <+: t := dropTrail_prefix_self isBlank t
  have hnarrow : (trimEnd t).all isNarrow = true :=
    List.all_eq_true.2 fun c hc => List.all_eq_true.1 h c (htrimmed.subset hc)
  rw [cells_of_isNarrow hnarrow]
  exact htrimmed.length_le

/-- A narrow character alone. -/
def Cluster.single (c : Char) : Cluster := ⟨[c], 1⟩

namespace Clustered

theorem add_of_isNarrow (h : isNarrow c = true) (ks : List Cluster) (last : Option Char) :
    add ⟨ks, last, false⟩ c = ⟨.single c :: ks, some c, false⟩ := by
  have hwidth := cellWidth_of_isNarrow h
  simp [add, ne_of_isNarrow h (show 0x7F ≤ joiner.toNat by decide),
    ne_of_isNarrow h (show 0x7F ≤ selector.toNat by decide), hwidth, Cluster.single]

theorem foldl_add_of_isNarrow (h : t.all isNarrow = true) (ks : List Cluster) (last : Option Char) :
    ∃ last', t.foldl add ⟨ks, last, false⟩ =
      ⟨(t.map Cluster.single).reverse ++ ks, last', false⟩ := by
  induction t generalizing ks last with
  | nil => exact ⟨last, rfl⟩
  | cons c cs ih =>
    rw [List.all_cons, Bool.and_eq_true] at h
    obtain ⟨last', hlast⟩ := ih h.2 (.single c :: ks) (some c)
    refine ⟨last', ?_⟩
    rw [List.foldl_cons, add_of_isNarrow h.1, hlast, List.map_cons, List.reverse_cons,
      List.append_assoc, List.singleton_append]

theorem suffix_attach (c : Char) (more : Nat) (ks : List Cluster) :
    ks.tail <:+ (attach c more ks).tail := by
  cases ks <;> exact List.suffix_refl _

/-- What comes changes no cluster but the last. -/
theorem suffix_add (s : Clustered) (c : Char) : s.clusters.tail <:+ (s.add c).clusters.tail := by
  unfold add
  split
  · exact suffix_attach _ _ _
  · split
    · exact suffix_attach _ _ _
    · split
      · exact suffix_attach _ _ _
      · split
        · exact suffix_attach _ _ _
        · exact List.tail_suffix _

theorem suffix_foldl_add (t : Text) (s : Clustered) :
    s.clusters.tail <:+ (t.foldl add s).clusters.tail := by
  induction t generalizing s with
  | nil => exact List.suffix_refl _
  | cons c cs ih => exact (suffix_add s c).trans (ih (s.add c))

end Clustered

/-- Narrow characters in front of another one are a cluster each. -/
theorem clusters_append_cons (ht : t.all isNarrow = true) (hc : isNarrow c = true) (rest : Text) :
    ∃ ks, clusters (t ++ c :: rest) = t.map Cluster.single ++ ks := by
  obtain ⟨last, hlast⟩ := Clustered.foldl_add_of_isNarrow ht [] none
  have hsuffix := Clustered.suffix_foldl_add rest
    (Clustered.add ⟨(t.map Cluster.single).reverse ++ [], last, false⟩ c)
  rw [Clustered.add_of_isNarrow hc, List.append_nil, List.tail_cons] at hsuffix
  obtain ⟨ks, hks⟩ := hsuffix.trans (List.tail_suffix _)
  refine ⟨ks.reverse, ?_⟩
  rw [clusters, List.foldl_append, hlast, List.foldl_cons, List.append_nil,
    Clustered.add_of_isNarrow hc, ← hks, List.reverse_append, List.reverse_reverse]

end Narrow

namespace Console

/-! ## Runs -/

theorem runs_of_eq {c : Char} {cs w : Text} {ws : List Text} (h : runs cs = w :: ws) :
    runs (c :: cs) =
      if isBlank c && !(w.head?.map isBlank).getD false then [c] :: w :: ws
      else (c :: w) :: ws := by
  rw [runs, h]

/-- The first run starts as the line does. -/
theorem exists_runs_cons (c : Char) (cs : Text) : ∃ w ws, runs (c :: cs) = (c :: w) :: ws := by
  cases h : runs cs with
  | nil => exact ⟨[], [], by rw [runs, h]⟩
  | cons w ws =>
    rw [runs_of_eq h]
    split
    · exact ⟨[], w :: ws, rfl⟩
    · exact ⟨w, ws, rfl⟩

theorem flatten_runs (t : Text) : (runs t).flatten = t := by
  induction t with
  | nil => rfl
  | cons c cs ih =>
    cases h : runs cs with
    | nil =>
      rw [h] at ih
      rw [runs, h, ← ih]
      rfl
    | cons w ws =>
      rw [h] at ih
      rw [runs_of_eq h, ← ih]
      split <;> rfl

/-- A run that starts with a blank is blank. -/
theorem exists_runs_blank (t : Text) :
    ∃ blanks ws, runs (' ' :: t) = (' ' :: blanks) :: ws ∧ isBlankText blanks = true := by
  suffices hall : ∀ w ws, runs t = w :: ws → (w.head?.map isBlank).getD false = true →
      isBlankText w = true by
    cases h : runs t with
    | nil => exact ⟨[], [], by rw [runs, h], rfl⟩
    | cons w ws =>
      rw [runs_of_eq h]
      split
      · exact ⟨[], w :: ws, rfl, rfl⟩
      · rename_i hblank
        refine ⟨w, ws, rfl, hall w ws h ?_⟩
        simpa [show isBlank ' ' = true by decide] using hblank
  induction t with
  | nil => intro w ws h; cases h
  | cons c cs ih =>
    intro w ws h hblank
    cases hcs : runs cs with
    | nil =>
      rw [runs, hcs] at h
      cases h
      simpa [isBlankText] using hblank
    | cons v vs =>
      rw [runs_of_eq hcs] at h
      split at h
      · cases h
        simpa [isBlankText] using hblank
      · rename_i hnot
        cases h
        have hc : isBlank c = true := by simpa using hblank
        have hv : (v.head?.map isBlank).getD false = true := by simpa [hc] using hnot
        show (isBlank c && isBlankText v) = true
        rw [hc, ih v _ hcs hv]
        rfl

/-- A blank and more behind a text that ends in a word make only its last run longer, by blanks. -/
theorem runs_append_blank {t : Text} (hne : t ≠ [])
    (hlast : ∀ c, t.getLast? = some c → isBlank c = false) (rest : Text) :
    ∃ init word blanks ws, runs t = init ++ [word] ∧ word ≠ [] ∧ isBlankText blanks = true ∧
      runs (t ++ ' ' :: rest) = init ++ (word ++ ' ' :: blanks) :: ws := by
  induction t with
  | nil => exact absurd rfl hne
  | cons c cs ih =>
    cases cs with
    | nil =>
      obtain ⟨blanks, ws, hruns, hblanks⟩ := exists_runs_blank rest
      have hc : isBlank c = false := hlast c rfl
      refine ⟨[], [c], blanks, ws, rfl, List.cons_ne_nil _ _, hblanks, ?_⟩
      rw [List.singleton_append, runs_of_eq hruns, hc]
      rfl
    | cons d ds =>
      obtain ⟨init, word, blanks, ws, hruns, hword, hblanks, hall⟩ :=
        ih (List.cons_ne_nil d ds) fun e he => hlast e (by rwa [List.getLast?_cons_cons])
      cases init with
      | nil =>
        have hhead : (word ++ ' ' :: blanks).head? = word.head? := by
          rw [List.head?_append_of_ne_nil _ hword]
        rw [List.nil_append] at hruns hall
        rw [runs_of_eq hruns, List.cons_append, runs_of_eq hall, hhead]
        split
        · exact ⟨[[c]], word, blanks, ws, rfl, hword, hblanks, rfl⟩
        · exact ⟨[], c :: word, blanks, ws, rfl, List.cons_ne_nil _ _, hblanks, rfl⟩
      | cons w init =>
        have hmore : runs (d :: ds ++ ' ' :: rest) = w :: (init ++ (word ++ ' ' :: blanks) :: ws) :=
          hall
        rw [List.cons_append] at hruns
        rw [runs_of_eq hruns, List.cons_append, runs_of_eq hmore]
        split
        · exact ⟨[c] :: w :: init, word, blanks, ws, rfl, hword, hblanks, rfl⟩
        · exact ⟨(c :: w) :: init, word, blanks, ws, rfl, hword, hblanks, rfl⟩

/-- A line that does not start with a blank has its runs for words. -/
theorem lineWords_eq_runs {c : Char} (hc : isBlank c = false) (cs : Text) :
    lineWords (c :: cs) = runs (c :: cs) := by
  obtain ⟨w, ws, hruns⟩ := exists_runs_cons c cs
  have hword : isBlankText (c :: w) = false := by
    rw [isBlankText, List.all_cons, hc]
    rfl
  unfold lineWords
  rw [hruns]
  cases ws with
  | nil => simp [hword]
  | cons v ws => simp [hword]

/-! ## The first line -/

namespace Broken

/-- The first line so far. -/
def firstPiece (b : Broken) : Text := b.done.getLast?.getD b.line

theorem firstPiece_of_lines (lines : List Text) (used : Nat) :
    firstPiece ⟨lines.drop 1, lines.headD [], used⟩ = lines.getLast?.getD [] := by
  cases lines with
  | nil => rfl
  | cons l ls =>
    rw [List.getLast?_cons]
    rfl

/-- What is on the first line stays there. -/
theorem prefix_firstPiece_add (width : Nat) (b : Broken) (word : Text) :
    b.firstPiece <+: (b.add width word).firstPiece := by
  have hmore : ∀ used, b.firstPiece <+: firstPiece ⟨b.done, b.line ++ word, used⟩ := by
    intro used
    cases b with
    | mk done line used' =>
      unfold firstPiece
      cases done.getLast? with
      | none => exact List.prefix_append _ _
      | some l => exact List.prefix_refl _
  have hlast : ∀ l, (b.line :: b.done).getLast?.getD l = b.firstPiece := by
    intro l
    unfold firstPiece
    simp only [List.getLast?_cons, Option.getD_some]
  have hkept : ∀ lines : List Text,
      b.firstPiece <+: (lines ++ b.line :: b.done).getLast?.getD [] := by
    intro lines
    have heq : (lines ++ b.line :: b.done).getLast?.getD [] = b.firstPiece :=
      (congrArg (·.getD []) (List.getLast?_append_of_ne_nil lines (List.cons_ne_nil _ _))).trans
        (hlast [])
    exact heq ▸ List.prefix_refl _
  unfold add
  dsimp only
  split
  · exact hmore _
  · split
    · rw [firstPiece_of_lines]
      split
      · rename_i hempty
        rw [Bool.and_eq_true, List.isEmpty_iff, List.isEmpty_iff] at hempty
        rw [firstPiece, hempty.1, hempty.2]
        exact List.nil_prefix
      · exact hkept _
    · split
      · exact hmore _
      · exact hlast word ▸ List.prefix_refl _

theorem prefix_firstPiece_foldl (width : Nat) (ws : List Text) (b : Broken) :
    b.firstPiece <+: (ws.foldl (add width) b).firstPiece := by
  induction ws generalizing b with
  | nil => exact List.prefix_refl _
  | cons w ws ih => exact (prefix_firstPiece_add width b w).trans (ih (b.add width w))

/-- Narrow words that fit go on the line. -/
theorem foldl_add_of_isNarrow {width : Nat} {ws : List Text} (h : ws.flatten.all isNarrow = true)
    {line : Text} {used : Nat} (hfits : used + ws.flatten.length ≤ width) :
    ws.foldl (add width) ⟨[], line, used⟩ =
      ⟨[], line ++ ws.flatten, used + ws.flatten.length⟩ := by
  induction ws generalizing line used with
  | nil => rw [List.foldl_nil, List.flatten_nil, List.append_nil, List.length_nil, Nat.add_zero]
  | cons w ws ih =>
    rw [List.flatten_cons, List.all_append, Bool.and_eq_true] at h
    rw [List.flatten_cons, List.length_append] at hfits
    have hcells := cells_trimEnd_le h.1
    have hword : used + cells (trimEnd w) ≤ width := by omega
    have hadd : add width ⟨[], line, used⟩ w = ⟨[], line ++ w, used + w.length⟩ := by
      rw [add, if_pos hword, cells_of_isNarrow h.1]
    rw [List.foldl_cons, hadd, ih h.2 (by omega), List.flatten_cons, List.append_assoc,
      List.length_append, Nat.add_assoc]

end Broken

theorem head?_breakLine {c : Char} (hc : isBlank c = false) (cs : Text) (width : Nat) :
    (breakLine width (c :: cs)).head? =
      some ((runs (c :: cs)).foldl (Broken.add width) ⟨[], [], 0⟩).firstPiece := by
  obtain ⟨w, ws, hruns⟩ := exists_runs_cons c cs
  rw [breakLine, lineWords_eq_runs hc, hruns]
  dsimp only
  rw [List.head?_reverse, List.getLast?_cons]
  rfl

/-- Narrow characters that fit are left. -/
theorem cutClusters_append {width : Nat} {t : Text} (h : t.length ≤ width) (ks : List Cluster) :
    cutClusters width (t.map Cluster.single ++ ks) = t ++ cutClusters (width - t.length) ks := by
  induction t generalizing width with
  | nil => rfl
  | cons c cs ih =>
    rw [List.length_cons] at h
    have hone : (Cluster.single c).width ≤ width := Nat.le_trans (Nat.le_add_left 1 _) h
    have hrest : cs.length ≤ width - (Cluster.single c).width := Nat.le_sub_of_add_le h
    rw [List.map_cons, List.cons_append, cutClusters, if_pos hone, ih hrest, Nat.sub_sub,
      List.length_cons, Nat.add_comm]
    rfl

/-- A text of narrow characters without blanks around it, which fits into a line. -/
structure IsStart (width : Nat) (start : Text) : Prop where
  /-- There are characters. -/
  ne_nil : start ≠ []
  /-- They are narrow. -/
  narrow : start.all isNarrow = true
  /-- There are no blanks around them. -/
  trimmed : trim start = start
  /-- There are not too many. -/
  fits : start.length ≤ width

namespace IsStart

variable {width : Nat} {start : Text} (h : IsStart width start)
include h

theorem isTrimmed : IsTrimmed isBlank start := by
  have htrimmed := isTrimmed_dropEnds isBlank start
  rwa [show dropEnds isBlank start = start from h.trimmed] at htrimmed

/-- The start is the first line, or more is on it. -/
theorem breakLine (rest : Text) :
    ∃ more pieces, breakLine width (start ++ ' ' :: rest) = (start ++ ' ' :: more) :: pieces := by
  obtain ⟨init, word, blanks, ws, hruns, -, hblanks, hall⟩ :=
    runs_append_blank h.ne_nil h.isTrimmed.last rest
  have hstart : init.flatten ++ word = start := by
    rw [← flatten_runs start, hruns, List.flatten_append, List.flatten_singleton]
  have hnarrow := h.narrow
  have hfits := h.fits
  rw [← hstart, List.all_append, Bool.and_eq_true] at hnarrow
  rw [← hstart, List.length_append] at hfits
  have hinit : init.foldl (Broken.add width) ⟨[], [], 0⟩ =
      ⟨[], init.flatten, init.flatten.length⟩ := by
    rw [Broken.foldl_add_of_isNarrow hnarrow.1 (by omega), List.nil_append, Nat.zero_add]
  have hword : Broken.add width ⟨[], init.flatten, init.flatten.length⟩ (word ++ ' ' :: blanks) =
      ⟨[], start ++ ' ' :: blanks, init.flatten.length + cells (word ++ ' ' :: blanks)⟩ := by
    have hend : trimEnd (word ++ ' ' :: blanks) = trimEnd word :=
      dropTrail_append_of_all (by
        show (isBlank ' ' && isBlankText blanks) = true
        rw [hblanks]
        decide) word
    have hcells := cells_trimEnd_le hnarrow.2
    have hroom : init.flatten.length + cells (trimEnd (word ++ ' ' :: blanks)) ≤ width := by
      rw [hend]
      omega
    rw [Broken.add, if_pos hroom, ← List.append_assoc, hstart]
  obtain ⟨c, cs, rfl⟩ := List.exists_cons_of_ne_nil h.ne_nil
  have hc : isBlank c = false := h.isTrimmed.head c rfl
  have hhead := head?_breakLine hc (cs ++ ' ' :: rest) width
  have hkept := Broken.prefix_firstPiece_foldl width ws
    ⟨[], c :: cs ++ ' ' :: blanks, init.flatten.length + cells (word ++ ' ' :: blanks)⟩
  rw [← List.cons_append, hall, List.foldl_append, List.foldl_cons, hinit, hword] at hhead
  obtain ⟨more, hmore⟩ := hkept
  obtain ⟨pieces, hpieces⟩ := List.head?_eq_some_iff.1 hhead
  refine ⟨blanks ++ more, pieces, hpieces.trans ?_⟩
  rw [← hmore]
  show (c :: cs ++ ' ' :: blanks ++ more) :: pieces = _
  rw [List.append_assoc]
  rfl

/-- Cutting blanks off leaves the start, and nothing behind it or a blank first. -/
theorem cutBlanks (more : Text) :
    ∃ rest, cutBlanks width (start ++ ' ' :: more) = start ++ rest ∧
      (rest = [] ∨ ∃ cs, rest = ' ' :: cs) := by
  have hle : start.length ≤ (trimEnd (start ++ ' ' :: more)).length := by
    obtain ⟨blanks, hsplit, hblanks⟩ := dropTrail_append isBlank (start ++ ' ' :: more)
    rcases List.append_eq_append_iff.1 hsplit with ⟨inner, htrimmed, -⟩ | ⟨inner, hstart, hrest⟩
    · rw [trimEnd, htrimmed]
      exact (List.prefix_append start inner).length_le
    · cases hlast : inner.getLast? with
      | none =>
        rw [List.getLast?_eq_none_iff.1 hlast, List.append_nil] at hstart
        exact Nat.le_of_eq (congrArg List.length hstart)
      | some c =>
        -- the last character of the start would be among the blanks
        have hblank : isBlank c = true := by
          rw [hrest, List.all_append, Bool.and_eq_true] at hblanks
          exact List.all_eq_true.1 hblanks.1 c (List.mem_of_getLast? hlast)
        have hedge : start.getLast? = some c := by
          rw [hstart, List.getLast?_append, hlast, Option.some_or]
        rw [h.isTrimmed.last c hedge] at hblank
        cases hblank
  have htrimmed := (dropTrail_prefix_self isBlank (start ++ ' ' :: more)).length_le
  change (trimEnd _).length ≤ _ at htrimmed
  unfold Console.cutBlanks
  dsimp only
  generalize hn : (start ++ ' ' :: more).length - min _ _ = n
  have hkept : start.length ≤ n := by omega
  obtain ⟨k, rfl⟩ := Nat.exists_eq_add_of_le hkept
  refine ⟨(' ' :: more).take k, List.take_length_add_append k, ?_⟩
  cases k with
  | zero => exact .inl rfl
  | succ k => exact .inr ⟨more.take k, rfl⟩

/-- So does cutting a line. -/
theorem prefix_fit (more : Text) : start <+: fit width (start ++ ' ' :: more) := by
  obtain ⟨rest, hcut, hrest⟩ := h.cutBlanks more
  unfold fit
  dsimp only
  rw [hcut]
  split
  · rename_i hwide
    rcases hrest with rfl | ⟨cs, rfl⟩
    · rw [List.append_nil, cells_of_isNarrow h.narrow] at hwide
      exact absurd h.fits (Nat.not_le.2 hwide)
    · obtain ⟨ks, hks⟩ := clusters_append_cons h.narrow (show isNarrow ' ' = true by decide) cs
      rw [hks, cutClusters_append h.fits]
      exact List.prefix_append _ _
  · exact List.prefix_append _ _

/-- The start of a text is put out first. -/
theorem prefix_wrap (rest : Text) : start <+: ofLines (wrap width (start ++ ' ' :: rest)) := by
  have hnone : ∀ c, isNarrow c = false → c ∉ start ++ [' '] := by
    intro c hc hmem
    have hnarrow : (start ++ [' ']).all isNarrow = true := by
      rw [List.all_append, h.narrow]
      decide
    rw [List.all_eq_true.1 hnarrow c hmem] at hc
    cases hc
  obtain ⟨line, lines, hlines⟩ :=
    exists_linesOf_append (hnone '\n' (by decide)) rest
  obtain ⟨more, hmore⟩ := prefix_expandTabs (hnone '\t' (by decide)) line
  obtain ⟨more', pieces, hbroken⟩ := h.breakLine more
  simp only [List.append_assoc, List.singleton_append] at hlines hmore
  have hwrapped : wrap width (start ++ ' ' :: rest) =
      fit width (start ++ ' ' :: more') ::
        (pieces.map (fit width) ++ lines.flatMap (wrapLine width)) := by
    rw [wrap, hlines, List.flatMap_cons, wrapLine, ← hmore, hbroken]
    rfl
  obtain ⟨tail, htail⟩ := exists_joinWith_cons ['\n'] (fit width (start ++ ' ' :: more'))
    (pieces.map (fit width) ++ lines.flatMap (wrapLine width))
  rw [hwrapped, ofLines, htail]
  exact (h.prefix_fit more').trans (List.prefix_append _ tail)

end IsStart

/-! ## What is put out -/

/-- A start that is shown as it is on the console of the usual width. -/
structure Opens (start : Text) : Prop extends IsStart 80 start where
  /-- The characters are shown as they are. -/
  plain : start.all isPlainChar = true
  /-- There are no names of pictures. -/
  pictures : withPictures start = start

/-- A start in a style is put out first, whatever follows it behind a blank. -/
theorem Opens.prefix_of_output {style start t shown : Text} (h : Opens start)
    (hstyle : IsStyle style)
    (hout : standard.output (inStyle style (start ++ ' ' :: t)) = .ok shown) :
    start <+: shown := by
  obtain ⟨hopen, hslash, -⟩ := not_mem_of_all_isPlainChar h.plain
  have hrun : shownRun start = start :=
    shownRun_eq_self hopen h.pictures (isSilent_of_all_isPlainChar h.plain)
  have hshown : ∃ rest, shownOf [] (scan (inStyle style (start ++ ' ' :: t))) =
      start ++ ' ' :: rest := by
    rw [scan_inStyle hstyle, List.append_assoc, scan_append_of_not_mem hopen hslash,
      List.cons_append, scan_blank]
    exact ⟨_, shownOf_start hrun _⟩
  obtain ⟨rest, hrest⟩ := hshown
  rw [eq_of_output_lines hout, hrest]
  exact (h.prefix_wrap rest).trans (List.prefix_append _ _)

end Console

end CommitCheck
