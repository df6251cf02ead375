import CommitCheck.Files.Basic
import CommitCheck.Proofs.Text.Pieces

/-!
# Paths that stay inside

A path that starts from the working folder and never steps up leads to a place inside it
(`place?_inside`), whatever the files are.  `Path.IsInner` says so of the text of a path.

The text of a path reads back as the path (`ofText_text`), so a text stays inner when it is brought
into the form in which paths are shown (`IsInner.text`).
-/

namespace CommitCheck

namespace Files

/-- A way that never steps up leads further into the folder that it starts from. -/
theorem walk_inside {fs : Files} {place way r : List Text} (hup : ['.', '.'] ∉ way)
    (h : fs.walk place way = some r) : place <+: r := by
  induction way generalizing place with
  | nil =>
    obtain rfl := Option.some.inj h
    exact List.prefix_refl place
  | cons name way ih =>
    rw [List.mem_cons, not_or] at hup
    unfold walk at h
    split at h
    · split at h
      · exact ih hup.2 h
      · rw [if_neg (Ne.symm hup.1)] at h
        exact (List.prefix_append place [name]).trans (ih hup.2 h)
    · cases h

/-- A path from the working folder that never steps up leads into the working folder. -/
theorem place?_inside {fs : Files} {p : Path} (hrelative : p.isAbsolute = false)
    (hup : ['.', '.'] ∉ p.names) {r : List Text} (h : fs.place? p = some r) : fs.here <+: r := by
  rw [place?, startOf, hrelative] at h
  exact walk_inside hup h

end Files

namespace Path

variable {t : Text}

/-! ## Reading paths -/

theorem not_mem_of_mem_names {name : Text} (h : name ∈ (ofText t).names) : '/' ∉ name :=
  not_mem_of_mem_splitAt (List.mem_filter.1 h).1

theorem isIdle_of_mem_names {name : Text} (h : name ∈ (ofText t).names) : isIdle name = false := by
  simpa using (List.mem_filter.1 h).2

theorem root_of_head?_ne (h : t.head? ≠ some '/') : (ofText t).root = [] := by
  cases t with
  | nil => rfl
  | cons c cs =>
    have hc : c ≠ '/' := by simpa using h
    simp [ofText, hc, rootOf]

theorem isAbsolute_of_head?_ne (h : t.head? ≠ some '/') : (ofText t).isAbsolute = false := by
  rw [isAbsolute, root_of_head?_ne h]
  rfl

theorem root_ofText (t : Text) :
    (ofText t).root = [] ∨ (ofText t).root = ['/'] ∨ (ofText t).root = ['/', '/'] := by
  unfold ofText rootOf
  dsimp only
  split
  · exact .inl rfl
  · exact .inr (.inr rfl)
  · exact .inr (.inl rfl)

/-- Names that a path can have: none of them has a slash in it or leads nowhere. -/
def AreNames (names : List Text) : Prop := ∀ name ∈ names, '/' ∉ name ∧ isIdle name = false

theorem areNames_ofText (t : Text) : AreNames (ofText t).names := fun _ hname =>
  ⟨not_mem_of_mem_names hname, isIdle_of_mem_names hname⟩

theorem head?_joinWith_ne {names : List Text} (h : AreNames names) :
    (joinWith ['/'] names).head? ≠ some '/' := by
  cases names with
  | nil => exact nofun
  | cons name names =>
    obtain ⟨hslash, hidle⟩ := h name List.mem_cons_self
    obtain ⟨tail, htail⟩ := exists_joinWith_cons ['/'] name names
    rw [htail]
    cases name with
    | nil => cases hidle
    | cons c cs =>
      rintro ⟨⟩
      exact hslash List.mem_cons_self

theorem names_ofText_joinWith {names : List Text} (h : AreNames names) :
    (ofText (joinWith ['/'] names)).names = names := by
  have hfilter : names.filter (!isIdle ·) = names :=
    List.filter_eq_self.2 fun n hn => by rw [(h n hn).2, Bool.not_false]
  cases names with
  | nil => rfl
  | cons name names =>
    show (splitAt '/' _).filter (!isIdle ·) = _
    rw [splitAt_joinWith (List.cons_ne_nil name names) fun n hn => (h n hn).1, hfilter]

/-- Slashes in front make the root and leave the names. -/
theorem ofText_slashes {t : Text} (h : t.head? ≠ some '/') (k : Nat) :
    ofText (List.replicate k '/' ++ t) = ⟨rootOf k, (ofText t).names⟩ := by
  have hnames : (splitAt '/' (List.replicate k '/' ++ t)).filter (!isIdle ·) =
      (splitAt '/' t).filter (!isIdle ·) := by
    induction k with
    | zero => rfl
    | succ k ih =>
      rw [List.replicate_succ, List.cons_append, splitAt_cons_self,
        List.filter_cons_of_neg (by decide), ih]
  have hroot : (List.replicate k '/' ++ t).takeWhile (· == '/') = List.replicate k '/' := by
    have hrest : t.takeWhile (· == '/') = [] := by
      cases t with
      | nil => rfl
      | cons c cs => exact List.takeWhile_cons_of_neg (by simpa using h)
    rw [List.takeWhile_append_of_pos (by simp), hrest, List.append_nil]
  unfold ofText
  rw [hroot, hnames, List.length_replicate]

/-- The text of a path reads back as the path. -/
theorem ofText_text {p : Path} (hroot : p.root = [] ∨ p.root = ['/'] ∨ p.root = ['/', '/'])
    (hnames : AreNames p.names) : ofText p.text = p := by
  obtain ⟨root, names⟩ := p
  have hjoined := ofText_slashes (head?_joinWith_ne hnames)
  rw [names_ofText_joinWith hnames] at hjoined
  rcases hroot with rfl | rfl | rfl
  · cases names with
    | nil => rfl
    | cons name names => exact hjoined 0
  · exact hjoined 1
  · exact hjoined 2

theorem parent_child (p : Path) (name : Text) : (p.child name).parent = p := by
  unfold child parent
  rw [List.dropLast_concat]

/-! ## Inner paths -/

/-- A text that is the path of a place inside the working folder: it does not start from the
root, never steps up, and has no backslash.  Whatever the files are, it leads nowhere else. -/
structure IsInner (t : Text) : Prop where
  /-- The path starts from the working folder. -/
  relative : (ofText t).isAbsolute = false
  /-- No name in it is two full stops. -/
  noStepUp : ['.', '.'] ∉ (ofText t).names
  /-- There is no backslash. -/
  noBackslash : '\\' ∉ t
  /-- The place that it leads to is inside the working folder. -/
  inside : ∀ (fs : Files) (place : List Text), fs.place? (ofText t) = some place →
    fs.here <+: place

theorem isInner_of (hrelative : (ofText t).isAbsolute = false)
    (hup : ['.', '.'] ∉ (ofText t).names) (hback : '\\' ∉ t) : IsInner t :=
  ⟨hrelative, hup, hback, fun _ _ => Files.place?_inside hrelative hup⟩

/-- An inner path stays one when it is shown. -/
theorem IsInner.text (h : IsInner t) : IsInner (ofText t).text := by
  have hroot : (ofText t).root = [] := by simpa [isAbsolute] using h.relative
  have hread : ofText (ofText t).text = ofText t := ofText_text (.inl hroot) (areNames_ofText t)
  refine isInner_of (hread.symm ▸ h.relative) (hread.symm ▸ h.noStepUp) ?_
  have hback : '\\' ∉ joinWith ['/'] (ofText t).names := by
    refine not_mem_joinWith (by decide) fun name hname hmem => ?_
    exact h.noBackslash (mem_of_mem_splitAt (List.mem_filter.1 hname).1 hmem)
  rw [Path.text, hroot]
  split
  · decide
  · exact hback

end Path

end CommitCheck
