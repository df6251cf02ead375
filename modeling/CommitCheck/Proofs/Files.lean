import CommitCheck.Proofs.Files.Path
import Mathlib.Data.List.Basic

/-!
# Files that are written

A file put in the place of a file, or where nothing was, leaves every folder a folder
(`entryAt_put_of_folder`), so it does not change where a path leads (`place?_put`).  Hence what
was written is found (`find?_after_wrote`), and to write it once more changes nothing
(`after_wrote_wrote`).  Texts that are put at the end of a file one after another are all there, in
order, behind what the file held (`contentAt_replay_appended`).

A way leads where its parts lead one after the other (`walk_append`).  So a path leads to the same
place from the root (`find?_absolute`), and a file can be written to any folder where there is no
folder yet (`canWrite_of_parent`), such as one that was made for it (`find?_of_makeFolder?`).
-/

namespace CommitCheck

namespace Content

theorem append_nil (c : Content) : c.append [] = c := by
  cases c with
  | text t => exact congrArg text (List.append_nil t)
  | binary => rfl

theorem append_append (c : Content) (t u : Text) : (c.append t).append u = c.append (t ++ u) := by
  cases c with
  | text s => exact congrArg text (List.append_assoc s t u)
  | binary => rfl

end Content

namespace Files

/-! ## Entries -/

theorem lookup_insertEntry_self (names : List Text) (e : Entry)
    (es : List (List Text × Entry)) : (insertEntry names e es).lookup names = some e := by
  induction es with
  | nil => exact List.lookup_cons_self
  | cons old es ih =>
    unfold insertEntry
    split
    · exact List.lookup_cons_self
    · rename_i hne
      rw [List.lookup_cons, beq_false_of_ne (Ne.symm hne)]
      exact ih

theorem lookup_insertEntry_of_ne {names other : List Text} (h : other ≠ names) (e : Entry)
    (es : List (List Text × Entry)) : (insertEntry names e es).lookup other = es.lookup other := by
  induction es with
  | nil =>
    unfold insertEntry
    rw [List.lookup_cons, beq_false_of_ne h]
  | cons old es ih =>
    unfold insertEntry
    split
    · rename_i heq
      rw [List.lookup_cons, List.lookup_cons, beq_false_of_ne h, heq, beq_false_of_ne h]
    · rw [List.lookup_cons, List.lookup_cons, ih]

/-- Every entry keeps its names. -/
theorem any_insertEntry (p : List Text → Bool) (names : List Text) (e : Entry)
    {es : List (List Text × Entry)} (h : es.any (fun e => p e.1) = true) :
    (insertEntry names e es).any (fun e => p e.1) = true := by
  induction es with
  | nil => exact absurd h Bool.false_ne_true
  | cons old es ih =>
    rw [List.any_cons, Bool.or_eq_true] at h
    unfold insertEntry
    split
    · rename_i heq
      rw [List.any_cons, Bool.or_eq_true, ← heq]
      exact h
    · rw [List.any_cons, Bool.or_eq_true]
      exact h.imp_right ih

/-- What was put in its place may be put there again. -/
theorem insertEntry_insertEntry (names : List Text) (e : Entry) (es : List (List Text × Entry)) :
    insertEntry names e (insertEntry names e es) = insertEntry names e es := by
  induction es with
  | nil => exact if_pos rfl
  | cons old es ih =>
    by_cases h : old.1 = names
    · rw [insertEntry, if_pos h, insertEntry, if_pos rfl]
    · rw [insertEntry, if_neg h, insertEntry, if_neg h, ih]

/-! ## Folders -/

variable {fs : Files} {names : List Text}

theorem entryAt_of_lookup {e : Entry} (h : fs.entries.lookup names = some e) :
    fs.entryAt names = some e := by
  unfold entryAt
  rw [h]

theorem entryAt_of_lookup_none (h : fs.entries.lookup names = none) :
    fs.entryAt names = if names.isPrefixOf fs.here ||
      fs.entries.any (fun e => names.isPrefixOf e.1) then some .folder else none := by
  unfold entryAt
  rw [h]

theorem entryAt_put (fs : Files) (names : List Text) (e : Entry) :
    (fs.put names e).entryAt names = some e :=
  entryAt_of_lookup (lookup_insertEntry_self names e fs.entries)

/-- Where no folder is, an entry can be put and every folder stays a folder. -/
theorem entryAt_put_of_folder (hnames : fs.entryAt names ≠ some .folder) (e : Entry)
    {place : List Text} (h : fs.entryAt place = some .folder) :
    (fs.put names e).entryAt place = some .folder := by
  have hne : place ≠ names := by
    rintro rfl
    exact hnames h
  have hlookup : (fs.put names e).entries.lookup place = fs.entries.lookup place :=
    lookup_insertEntry_of_ne hne e fs.entries
  cases hfound : fs.entries.lookup place with
  | some old =>
    rw [entryAt_of_lookup (hlookup.trans hfound), ← entryAt_of_lookup hfound, h]
  | none =>
    rw [entryAt_of_lookup_none hfound] at h
    rw [entryAt_of_lookup_none (hlookup.trans hfound)]
    split at h
    · rename_i hprefix
      rw [Bool.or_eq_true] at hprefix
      refine if_pos ?_
      rw [Bool.or_eq_true]
      exact hprefix.imp_right (any_insertEntry place.isPrefixOf names e)
    · exact absurd h nofun

/-- Where no folder is, an entry can be put and every path leads where it led. -/
theorem walk_put (hnames : fs.entryAt names ≠ some .folder) (e : Entry) {place r way : List Text}
    (h : fs.walk place way = some r) : (fs.put names e).walk place way = some r := by
  induction way generalizing place with
  | nil => exact h
  | cons name way ih =>
    unfold walk at h ⊢
    split at h
    · rename_i hfolder
      rw [if_pos (entryAt_put_of_folder hnames e hfolder)]
      split at h
      · rename_i hidle
        rw [if_pos hidle]
        exact ih h
      · rename_i hidle
        rw [if_neg hidle]
        split at h
        · rename_i hup
          rw [if_pos hup]
          exact ih h
        · rename_i hup
          rw [if_neg hup]
          exact ih h
    · cases h

theorem place?_put {p : Path} (hplace : fs.place? p = some names)
    (hnames : fs.entryAt names ≠ some .folder) (e : Entry) :
    (fs.put names e).place? p = some names := walk_put hnames e hplace

/-! ## Ways -/

/-- A way in two parts leads through the place where the first of them leads. -/
theorem walk_append (fs : Files) (place way more : List Text) :
    fs.walk place (way ++ more) = (fs.walk place way).bind (fs.walk · more) := by
  induction way generalizing place with
  | nil => rfl
  | cons name way ih =>
    rw [List.cons_append, walk, walk]
    split
    · split
      · exact ih place
      · split
        · exact ih _
        · exact ih _
    · rfl

/-- Names that lead nowhere can be left out of a way. -/
theorem walk_filter {place r way : List Text} (h : fs.walk place way = some r) :
    fs.walk place (way.filter (!Path.isIdle ·)) = some r := by
  induction way generalizing place with
  | nil => exact h
  | cons name way ih =>
    rw [walk] at h
    split at h
    · rename_i hfolder
      split at h
      · rename_i hidle
        rw [List.filter_cons_of_neg (by simp [hidle])]
        exact ih h
      · rename_i hidle
        rw [List.filter_cons_of_pos (by simp [hidle]), walk, if_pos hfolder, if_neg hidle]
        split at h
        · rename_i hup
          rw [if_pos hup]
          exact ih h
        · rename_i hup
          rw [if_neg hup]
          exact ih h
    · cases h

/-- What the text of a path leads to is what the path leads to. -/
theorem find?_of_findText? {t : Text} {e : Entry} (h : fs.findText? t = some e) :
    fs.find? (.ofText t) = some e := by
  unfold findText? at h
  split at h
  · cases h
  · obtain ⟨place, hplace, he⟩ := Option.bind_eq_some_iff.1 h
    exact Option.bind_eq_some_iff.2 ⟨place, walk_filter hplace, he⟩

/-- The names of the working folder are names that a path can have, and from the root they lead to
the folder that they name. -/
structure IsRooted (fs : Files) : Prop where
  /-- They are names. -/
  names : Path.AreNames fs.here
  /-- They lead where they say. -/
  walk : fs.walk [] fs.here = some fs.here
  /-- There is a folder. -/
  folder : fs.entryAt fs.here = some .folder

/-- A path leads to the same place from the root. -/
theorem find?_absolute (h : fs.IsRooted) (p : Path) : fs.find? (fs.absolute p) = fs.find? p := by
  unfold absolute
  cases hroot : p.isAbsolute with
  | true => rfl
  | false =>
    have hplace : fs.place? ⟨['/'], fs.here ++ p.names⟩ = fs.place? p := by
      unfold place? startOf
      rw [hroot, show (⟨['/'], fs.here ++ p.names⟩ : Path).isAbsolute = true from rfl]
      show fs.walk [] (fs.here ++ p.names) = fs.walk fs.here p.names
      rw [walk_append, h.walk, Option.bind_some]
    rw [find?, find?, if_neg Bool.false_ne_true, hplace]

/-! ## Writing -/

/-- A path to a place where a file can be written: what is around it are folders, and it is
not one itself. -/
def CanWrite (fs : Files) (p : Path) : Prop :=
  ∃ names, fs.place? p = some names ∧ fs.entryAt names ≠ some .folder

theorem CanWrite.find?_ne_folder {p : Path} (h : fs.CanWrite p) : fs.find? p ≠ some .folder := by
  obtain ⟨names, hplace, hnames⟩ := h
  rw [find?, hplace, Option.bind_some]
  exact hnames

/-- A file can be written to a folder, where there is no folder yet. -/
theorem canWrite_of_parent {p : Path} (hfolder : fs.find? p.parent = some .folder)
    (hp : fs.find? p ≠ some .folder) : fs.CanWrite p := by
  obtain ⟨root, names⟩ := p
  rcases List.eq_nil_or_concat names with rfl | ⟨init, last, rfl⟩
  · exact absurd hfolder hp
  · rw [List.concat_eq_append] at hfolder hp ⊢
    obtain ⟨place, hplace, hentry⟩ := Option.bind_eq_some_iff.1 hfolder
    rw [Path.parent, List.dropLast_concat] at hplace
    obtain ⟨names, hnames⟩ : ∃ names, fs.place? ⟨root, init ++ [last]⟩ = some names := by
      have hway : fs.walk (fs.startOf ⟨root, init ++ [last]⟩) init = some place := hplace
      unfold place?
      rw [walk_append, hway, Option.bind_some, walk, if_pos hentry]
      split
      · exact ⟨place, rfl⟩
      · split
        · exact ⟨place.dropLast, rfl⟩
        · exact ⟨place ++ [last], rfl⟩
    refine ⟨names, hnames, ?_⟩
    rw [find?, hnames, Option.bind_some] at hp
    exact hp

/-- What the file at a path holds.  A file that is not there yet holds nothing. -/
def contentAt (fs : Files) (p : Path) : Content :=
  match fs.find? p with
  | some (.file c) => c
  | _ => .text []

theorem contentAt_of_find? {p : Path} {c : Content} (h : fs.find? p = some (.file c)) :
    fs.contentAt p = c := by
  unfold contentAt
  rw [h]

/-- A file that is changed is put in its place with the change of what it holds. -/
theorem change_eq_put {p : Path} (hplace : fs.place? p = some names)
    (hnames : fs.entryAt names ≠ some .folder) (f : Content → Content) :
    fs.change p f = fs.put names (.file (f (fs.contentAt p))) := by
  unfold change contentAt find?
  rw [hplace, Option.bind_some]
  dsimp only
  cases hentry : fs.entryAt names with
  | none => rfl
  | some e =>
    cases e with
    | file c => rfl
    | folder => exact absurd hentry hnames

/-- The changed file is found, and it can be changed again. -/
theorem find?_change {p : Path} (h : fs.CanWrite p) (f : Content → Content) :
    (fs.change p f).find? p = some (.file (f (fs.contentAt p))) ∧ (fs.change p f).CanWrite p := by
  obtain ⟨names, hplace, hnames⟩ := h
  rw [change_eq_put hplace hnames]
  have hput := place?_put hplace hnames (.file (f (fs.contentAt p)))
  refine ⟨?_, names, hput, ?_⟩
  · rw [find?, hput, Option.bind_some, entryAt_put]
  · rw [entryAt_put]
    exact nofun

theorem after_wrote {path : Text} (hplace : fs.place? (.ofText path) = some names)
    (hnames : fs.entryAt names ≠ some .folder) (t : Text) :
    fs.after (.wrote path t) = fs.put names (.file (.text t)) :=
  change_eq_put hplace hnames fun _ => .text t

/-- To write a file leaves the working folder where it is. -/
theorem here_after_wrote (fs : Files) (path t : Text) :
    (fs.after (.wrote path t)).here = fs.here := by
  unfold after change
  dsimp only
  split
  · rfl
  · split
    · rfl
    · rfl
    · rfl

/-- What was written is found. -/
theorem find?_after_wrote {path : Text} (h : fs.CanWrite (.ofText path)) (t : Text) :
    (fs.after (.wrote path t)).find? (.ofText path) = some (.file (.text t)) :=
  (find?_change h fun _ => .text t).1

/-- To write the same once more changes nothing. -/
theorem after_wrote_wrote {path : Text} (h : fs.CanWrite (.ofText path)) (t : Text) :
    (fs.after (.wrote path t)).after (.wrote path t) = fs.after (.wrote path t) := by
  obtain ⟨names, hplace, hnames⟩ := h
  have hfile : (fs.put names (.file (.text t))).entryAt names ≠ some .folder := by
    rw [entryAt_put]
    exact nofun
  rw [after_wrote hplace hnames, after_wrote (place?_put hplace hnames _) hfile]
  unfold put
  dsimp only
  rw [insertEntry_insertEntry]

/-! ## Folders that are made -/

theorem find?_of_withFolder? {made : Files} {p : Path} (h : fs.withFolder? p = some made) :
    made.find? p = some .folder := by
  unfold withFolder? at h
  split at h
  · cases h
  · rename_i names hplace
    split at h
    · rename_i hnone
      obtain rfl := Option.some.inj h
      have hnames : fs.entryAt names ≠ some .folder := by
        rw [hnone]
        exact nofun
      rw [find?, place?_put hplace hnames, Option.bind_some, entryAt_put]
    · rename_i hfolder
      obtain rfl := Option.some.inj h
      rw [find?, hplace, Option.bind_some, hfolder]
    · cases h

/-- A path to a folder that was made leads to a folder, if it leads from one. -/
theorem find?_of_makeFolder? {made : Files} {p : Path}
    (hstart : fs.entryAt (fs.startOf p) = some .folder) (h : fs.makeFolder? p = some made) :
    made.find? p = some .folder := by
  obtain ⟨root, names⟩ := p
  unfold makeFolder? at h
  rcases List.eq_nil_or_concat names with rfl | ⟨init, last, rfl⟩
  · obtain rfl := Option.some.inj h
    exact hstart
  · rw [List.concat_eq_append, List.length_append, List.length_singleton, List.range_succ,
      List.foldlM_append] at h
    -- the folder itself is the last one that is made
    obtain ⟨before, -, hlast⟩ := Option.bind_eq_some_iff.1 h
    obtain ⟨after, hafter, hend⟩ := Option.bind_eq_some_iff.1 hlast
    obtain rfl := Option.some.inj hend
    dsimp only at hafter
    rw [List.take_of_length_le (by simp)] at hafter
    rw [List.concat_eq_append]
    exact find?_of_withFolder? hafter

/-- A file stays where it is when an entry is put where nothing was. -/
theorem entryAt_put_of_file (hnames : fs.entryAt names = none) (e : Entry) {place : List Text}
    {c : Content} (h : fs.entryAt place = some (.file c)) :
    (fs.put names e).entryAt place = some (.file c) := by
  have hne : place ≠ names := by
    rintro rfl
    rw [hnames] at h
    cases h
  cases hfound : fs.entries.lookup place with
  | none =>
    rw [entryAt_of_lookup_none hfound] at h
    split at h
    · cases h
    · cases h
  | some old =>
    rw [entryAt_of_lookup hfound] at h
    rw [← h]
    exact entryAt_of_lookup ((lookup_insertEntry_of_ne hne e fs.entries).trans hfound)

theorem find?_withFolder?_of_file {made : Files} {p q : Path} {c : Content}
    (h : fs.withFolder? p = some made) (hq : fs.find? q = some (.file c)) :
    made.find? q = some (.file c) := by
  unfold withFolder? at h
  split at h
  · cases h
  · rename_i names _
    split at h
    · rename_i hnone
      obtain rfl := Option.some.inj h
      obtain ⟨place, hplace, hentry⟩ := Option.bind_eq_some_iff.1 hq
      have hwalk : (fs.put names .folder).place? q = some place :=
        walk_put (by rw [hnone]; exact nofun) .folder hplace
      rw [find?, hwalk, Option.bind_some]
      exact entryAt_put_of_file hnone .folder hentry
    · obtain rfl := Option.some.inj h
      exact hq
    · cases h

/-- To make a folder leaves every file as it is. -/
theorem find?_makeFolder?_of_file {made : Files} {p q : Path} {c : Content}
    (h : fs.makeFolder? p = some made) (hq : fs.find? q = some (.file c)) :
    made.find? q = some (.file c) := by
  unfold makeFolder? at h
  generalize List.range p.names.length = steps at h
  induction steps generalizing fs with
  | nil =>
    obtain rfl := Option.some.inj h
    exact hq
  | cons n steps ih =>
    rw [List.foldlM_cons] at h
    obtain ⟨next, hnext, hrest⟩ := Option.bind_eq_some_iff.1 h
    exact ih (find?_withFolder?_of_file hnext hq) hrest

/-! ## Runs -/

/-- Events that change no file leave the files as they are. -/
theorem replay_eq_self {trace : List Event} (h : ∀ e ∈ trace, fs.after e = fs) :
    fs.replay trace = fs := by
  induction trace with
  | nil => rfl
  | cons e es ih =>
    rw [List.forall_mem_cons] at h
    show (fs.after e).replay es = fs
    rw [h.1, ih h.2]

/-- What texts put at the end of a file leave in it: what it held, and then the texts in order. -/
theorem contentAt_replay_appended {path : Text} (h : fs.CanWrite (.ofText path))
    (texts : List Text) :
    (fs.replay (texts.map (.appended path))).contentAt (.ofText path) =
      (fs.contentAt (.ofText path)).append texts.flatten := by
  induction texts generalizing fs with
  | nil => rw [List.flatten_nil, Content.append_nil]; rfl
  | cons t texts ih =>
    obtain ⟨hfound, hwrite⟩ := find?_change h (·.append t)
    show ((fs.change (.ofText path) (·.append t)).replay _).contentAt _ = _
    rw [ih hwrite, contentAt_of_find? hfound, Content.append_append, List.flatten_cons]

theorem replay_append (fs : Files) (before later : List Event) :
    fs.replay (before ++ later) = (fs.replay before).replay later := List.foldl_append

end Files

end CommitCheck
