import CommitCheck.Proofs.Toml.Scalars
import CommitCheck.Proofs.Toml.Strings
import CommitCheck.Toml.Reader

/-!
# Documents written and read as TOML

To read what was written is to carry out the statements that were written, one after another:
every line leads the reader from one document to the next (`Leads`), and so do all lines
together (`leads_render`).  So a document of sections reads back as the table that its sections
build (`parse_render`).
-/

namespace CommitCheck.Toml

/-! ## Values -/

/-- A value whose text reads back as the value. -/
inductive Writable : Value → Prop where
  /-- A truth value. -/
  | bool (b : Bool) : Writable (.bool b)
  /-- A whole number that does not have too many digits. -/
  | int {n : Int} (h : (natText n.natAbs).length ≤ digitLimit) : Writable (.int n)
  /-- A positive number, which may be infinite. -/
  | float {x : Binary64} (h : x.isPositive = true) : Writable (.float x)
  /-- A text. -/
  | text (t : Text) : Writable (.text t)

/-- Whether a character starts a value other than a word. -/
def opens (c : Char) : Bool := c == '"' || c == '\'' || c == '[' || c == '\x7b'

theorem value_of_not_opens (bound : Nat) {c : Char} (hc : opens c = false) (cs : Text) :
    value (bound + 1) 0 (c :: cs) = scalar (c :: cs) := by
  simp only [opens, Bool.or_eq_false_iff, beq_eq_false_iff_ne, ne_eq] at hc
  obtain ⟨⟨⟨hquote, happos⟩, hsquare⟩, hcurly⟩ := hc
  rw [value, if_neg (Nat.not_lt_zero nestLimit)]
  -- every other value starts with one of the four
  all_goals
    rintro ds heq
    have hhead := (List.cons.inj heq).1
    contradiction

/-- A string that does not start with three quotes. -/
theorem value_quote (bound : Nat) {cs : Text} (h : ∀ ds, cs ≠ '"' :: '"' :: ds) :
    value (bound + 1) 0 ('"' :: cs) =
      orMalformed ((basicString cs).map fun (s, rest) => (.text s, rest)) := by
  rw [value, if_neg (Nat.not_lt_zero nestLimit)]
  exact h

theorem value_stringText (bound : Nat) (t rest : Text) :
    value (bound + 1) 0 (stringText t ++ '\n' :: rest) = .ok (.text t, '\n' :: rest) := by
  have hquotes : ∀ ds, t.flatMap charText ++ '"' :: '\n' :: rest ≠ '"' :: '"' :: ds := by
    intro ds
    cases t with
    | nil => simp
    | cons c cs =>
      rw [List.flatMap_cons, List.append_assoc]
      exact charText_append_ne c _ _
  rw [stringText_append, value_quote bound hquotes, basicString_append]
  rfl

/-- Whether a text starts a word: with no blank, no quote and no bracket. -/
def StartsWord (t : Text) : Prop := ∃ c cs, t = c :: cs ∧ opens c = false ∧ isSpace c = false

theorem startsWord_of_isDigit {c : Char} (hc : c.isDigit = true) (cs : Text) :
    StartsWord (c :: cs) := by
  refine ⟨c, cs, rfl, ?_, ?_⟩
  · simp [opens, digit_ne hc (c := '"') (by decide), digit_ne hc (c := '\'') (by decide),
      digit_ne hc (c := '[') (by decide), digit_ne hc (c := '\x7b') (by decide)]
  · simp [isSpace, digit_ne hc (c := ' ') (by decide), digit_ne hc (c := '\t') (by decide)]

theorem startsWord_text {x : Binary64} (hx : x.isPositive = true) : StartsWord x.text := by
  obtain rfl | ⟨ds, k, htext, hds, -⟩ := Binary64.eq_infinite_or_layout hx
  · exact ⟨'i', _, rfl, by decide, by decide⟩
  · obtain ⟨c, cs, hc, hlayout⟩ := exists_layout_eq_cons hds k
    rw [htext, hlayout]
    exact startsWord_of_isDigit hc cs

theorem startsWord_intText (n : Int) : StartsWord (intText n) := by
  cases n with
  | ofNat n =>
    obtain ⟨d, ds, hds⟩ := List.exists_cons_of_ne_nil (natText_ne_nil n)
    rw [intText, hds]
    exact startsWord_of_isDigit (isDigit_of_mem_natText (hds ▸ List.mem_cons_self)) ds
  | negSucc n => exact ⟨'-', _, rfl, by decide, by decide⟩

theorem startsWord_bool (b : Bool) : StartsWord (scalarText (.bool b)) := by
  cases b
  · exact ⟨'f', _, rfl, by decide, by decide⟩
  · exact ⟨'t', _, rfl, by decide, by decide⟩

/-- A word is read as a scalar, and no blank stands before it. -/
theorem StartsWord.value_eq {t : Text} (h : StartsWord t) (bound : Nat) (rest : Text) :
    value (bound + 1) 0 (t ++ rest) = scalar (t ++ rest) := by
  obtain ⟨c, cs, rfl, hopens, -⟩ := h
  exact value_of_not_opens bound hopens (cs ++ rest)

theorem StartsWord.dropWhile_eq {t : Text} (h : StartsWord t) (rest : Text) :
    (t ++ rest).dropWhile isSpace = t ++ rest := by
  obtain ⟨c, cs, rfl, -, hspace⟩ := h
  exact List.dropWhile_cons_of_neg (by simp [hspace])

/-- No blank stands before the text of a value. -/
theorem dropWhile_scalarText {v : Value} (hv : Writable v) (rest : Text) :
    (scalarText v ++ rest).dropWhile isSpace = scalarText v ++ rest := by
  cases hv with
  | bool b => exact (startsWord_bool b).dropWhile_eq rest
  | int _ => exact (startsWord_intText _).dropWhile_eq rest
  | float hx => exact (startsWord_text hx).dropWhile_eq rest
  | text t =>
    rw [scalarText, stringText_append]
    exact List.dropWhile_cons_of_neg (by decide)

/-- The text of a value reads back as the value. -/
theorem value_scalarText (bound : Nat) {v : Value} (hv : Writable v) (rest : Text) :
    value (bound + 1) 0 (scalarText v ++ '\n' :: rest) = .ok (v, '\n' :: rest) := by
  cases hv with
  | bool b => exact ((startsWord_bool b).value_eq bound _).trans (scalar_bool b rest)
  | int hn => exact ((startsWord_intText _).value_eq bound _).trans (scalar_intText hn rest)
  | float hx => exact ((startsWord_text hx).value_eq bound _).trans (scalar_text hx rest)
  | text t => exact value_stringText bound t rest

/-! ## Statements -/

variable {d d' d'' : Document}

/-- A statement that sets a value. -/
theorem statement_of_assign {t after rest : Text} {c : Char} {cs : Text} {k : Path} {v : Value}
    (ht : t = c :: cs) (hsquare : c ≠ '[') (hhash : c ≠ '#')
    (hkey : key t.length t = some (k, '=' :: after))
    (hvalue : value t.length 0 (after.dropWhile isSpace) = .ok (v, rest))
    (hassign : d.assign k v = some d') : statement d t = .ok (d', rest) := by
  rw [statement.eq_def]
  split
  · exact absurd (List.cons.inj ht).1.symm hsquare
  · exact absurd (List.cons.inj ht).1.symm hsquare
  · exact absurd (List.cons.inj ht).1.symm hhash
  · rw [hkey]
    change (value t.length 0 (after.dropWhile isSpace) >>= _) = _
    rw [hvalue]
    change (orMalformed (d.assign k v)).map (·, rest) = _
    rw [hassign]
    rfl

/-- A statement that opens a section. -/
theorem statement_of_open {after rest : Text} {p : Path} (hsquare : ∀ cs, after ≠ '[' :: cs)
    (hkey : key ('[' :: after).length (after.dropWhile isSpace) = some (p, ']' :: rest))
    (hopen : d.openSection p = some d') : statement d ('[' :: after) = .ok (d', rest) := by
  rw [statement]
  · rw [hkey]
    change (orMalformed (d.openSection p)).map (·, rest) = _
    rw [hopen]
    rfl
  · exact hsquare

/-- The line of a field sets the value of the field. -/
theorem statement_fieldLine {f : Text × Value} (hv : Writable f.2)
    (hassign : d.assign [f.1] f.2 = some d') (rest : Text) :
    statement d (fieldLine f ++ rest) = .ok (d', '\n' :: rest) := by
  obtain ⟨k, v⟩ := f
  obtain ⟨c, cs, htext, hc⟩ := exists_keyText_eq_cons k
  have hline : fieldLine (k, v) ++ rest =
      keyText k ++ ' ' :: '=' :: ' ' :: (scalarText v ++ '\n' :: rest) := by
    simp [fieldLine]
  have hcons := hline
  rw [htext, List.cons_append] at hcons
  obtain ⟨n, hn⟩ : ∃ n, (fieldLine (k, v) ++ rest).length = n + 1 := ⟨_, congrArg List.length hcons⟩
  have hkey : key (fieldLine (k, v) ++ rest).length (fieldLine (k, v) ++ rest) =
      some ([k], '=' :: ' ' :: (scalarText v ++ '\n' :: rest)) := by
    rw [hn, hline]
    exact key_keyText n k (by decide) rfl (by simp)
  have hvalue : value (fieldLine (k, v) ++ rest).length 0
      ((' ' :: (scalarText v ++ '\n' :: rest)).dropWhile isSpace) = .ok (v, '\n' :: rest) := by
    rw [hn, List.dropWhile_cons_of_pos (by decide), dropWhile_scalarText hv, value_scalarText n hv]
  exact statement_of_assign hcons (hc '[' (by decide) (by decide)) (hc '#' (by decide) (by decide))
    hkey hvalue hassign

/-- The path of a section as it stands at the head of the section. -/
def pathLine (path : List Text) : Text := '[' :: joinWith ['.'] (path.map keyText) ++ [']', '\n']

/-- The line of a path opens the section of the path. -/
theorem statement_pathLine {path : List Text} (hpath : path ≠ [])
    (hopen : d.openSection path = some d') (rest : Text) :
    statement d (pathLine path ++ rest) = .ok (d', '\n' :: rest) := by
  obtain ⟨k, ks, rfl⟩ := List.exists_cons_of_ne_nil hpath
  have hline : pathLine (k :: ks) ++ rest =
      '[' :: (joinWith ['.'] ((k :: ks).map keyText) ++ ']' :: '\n' :: rest) := by
    simp [pathLine]
  obtain ⟨tail, htail⟩ := exists_joinWith_cons ['.'] (keyText k) (ks.map keyText)
  obtain ⟨c, cs, htext, hc⟩ := exists_keyText_eq_cons k
  rw [hline]
  refine statement_of_open ?_ ?_ hopen
  · intro ds heq
    rw [List.map_cons, htail, htext, List.append_assoc, List.cons_append] at heq
    exact hc '[' (by decide) (by decide) (List.cons.inj heq).1
  · have hdrop : (joinWith ['.'] ((k :: ks).map keyText) ++ ']' :: '\n' :: rest).dropWhile isSpace =
        joinWith ['.'] ((k :: ks).map keyText) ++ ']' :: '\n' :: rest := by
      rw [List.map_cons, htail, List.append_assoc, dropWhile_keyText]
    rw [hdrop]
    refine key_path hpath ?_ (by decide) (by decide) (by decide) _
    have hlength := length_le_joinWith '.' ((k :: ks).map keyText)
    rw [List.length_map] at hlength
    simp only [List.length_cons, List.length_append] at hlength ⊢
    omega

/-- Whether the statements of a text, whatever comes after them, make one document of
another. -/
def Leads (d : Document) (t : Text) (d' : Document) : Prop :=
  ∃ n ≤ t.length, ∀ bound rest, statements (bound + n) d (t ++ rest) = statements bound d' rest

theorem Leads.refl (d : Document) : Leads d [] d := ⟨0, Nat.le_refl 0, fun _ _ => rfl⟩

theorem Leads.trans {t u : Text} (h : Leads d t d') (h' : Leads d' u d'') :
    Leads d (t ++ u) d'' := by
  obtain ⟨m, hm, ht⟩ := h
  obtain ⟨n, hn, hu⟩ := h'
  refine ⟨n + m, ?_, fun bound rest => ?_⟩
  · rw [List.length_append]
    omega
  · rw [List.append_assoc, ← Nat.add_assoc, ht, hu]

theorem leads_blank (d : Document) : Leads d ['\n'] d := ⟨1, Nat.le_refl 1, fun _ _ => rfl⟩

/-- A line with a statement leads to the document after the statement. -/
theorem leads_of_statement {c : Char} {cs : Text} (hspace : isSpace c = false) (hline : c ≠ '\n')
    (h : ∀ rest, statement d (c :: cs ++ rest) = .ok (d', '\n' :: rest)) :
    Leads d (c :: cs) d' := by
  refine ⟨1, Nat.succ_le_succ (Nat.zero_le _), fun bound rest => ?_⟩
  have hdrop : (c :: cs ++ rest).dropWhile isSpace = c :: cs ++ rest :=
    List.dropWhile_cons_of_neg (by simp [hspace])
  rw [statements, hdrop]
  split
  · rename_i heq
    exact absurd heq (List.cons_ne_nil _ _)
  · rename_i heq
    exact absurd (List.cons.inj heq).1 hline
  · rw [h rest]
    rfl

theorem leads_fieldLine {f : Text × Value} (hv : Writable f.2)
    (hassign : d.assign [f.1] f.2 = some d') : Leads d (fieldLine f) d' := by
  obtain ⟨c, cs, htext, hc⟩ := exists_keyText_eq_cons f.1
  have hstatement := statement_fieldLine hv hassign
  have hline : fieldLine f = c :: (cs ++ " = ".toList ++ scalarText f.2 ++ ['\n']) := by
    rw [fieldLine, htext]
    rfl
  have hblank : c ≠ ' ' := hc ' ' (by decide) (by decide)
  have htab : c ≠ '\t' := hc '\t' (by decide) (by decide)
  rw [hline] at hstatement ⊢
  exact leads_of_statement (by simp [isSpace, hblank, htab]) (hc '\n' (by decide) (by decide))
    hstatement

theorem leads_pathLine {path : List Text} (hpath : path ≠ [])
    (hopen : d.openSection path = some d') : Leads d (pathLine path) d' :=
  leads_of_statement (by decide) (by decide) (statement_pathLine hpath hopen)

/-- The lines of fields set their values one after another. -/
theorem leads_fieldLines {fs : Fields} (hfs : ∀ f ∈ fs, Writable f.2)
    (h : fs.foldlM (fun d f => Document.assign d [f.1] f.2) d = some d') :
    Leads d (fs.flatMap fieldLine) d' := by
  induction fs generalizing d with
  | nil =>
    obtain rfl := Option.some.inj h
    exact Leads.refl d
  | cons f fs ih =>
    rw [List.forall_mem_cons] at hfs
    rw [List.foldlM_cons, Option.bind_eq_bind, Option.bind_eq_some_iff] at h
    obtain ⟨d₁, hassign, hrest⟩ := h
    rw [List.flatMap_cons]
    exact (leads_fieldLine hfs.1 hassign).trans (ih hfs.2 hrest)

/-! ## Sections -/

/-- The document after the statements of a section. -/
def Section.enter (d : Document) (s : Section) : Option Document :=
  (d.openSection s.path).bind fun d =>
    s.fields.foldlM (fun d f => Document.assign d [f.1] f.2) d

/-- A section with a path, whose values read back. -/
structure Section.IsWritable (s : Section) : Prop where
  /-- There is a path. -/
  path : s.path ≠ []
  /-- The values read back. -/
  fields : ∀ f ∈ s.fields, Writable f.2

theorem Section.render_eq (s : Section) :
    s.render = pathLine s.path ++ s.fields.flatMap fieldLine := by
  simp [Section.render, pathLine]

theorem leads_section {s : Section} (hs : s.IsWritable) (h : s.enter d = some d') :
    Leads d s.render d' := by
  obtain ⟨d₁, hopen, hfields⟩ := Option.bind_eq_some_iff.1 h
  rw [Section.render_eq]
  exact (leads_pathLine hs.path hopen).trans (leads_fieldLines hs.fields hfields)

/-- The text of sections carries out the statements of the sections. -/
theorem leads_render {ss : List Section} (hss : ∀ s ∈ ss, s.IsWritable)
    (h : ss.foldlM Section.enter d = some d') : Leads d (render ss) d' := by
  induction ss generalizing d with
  | nil =>
    obtain rfl := Option.some.inj h
    exact Leads.refl d
  | cons s ss ih =>
    rw [List.forall_mem_cons] at hss
    rw [List.foldlM_cons, Option.bind_eq_bind, Option.bind_eq_some_iff] at h
    obtain ⟨d₁, hs, hrest⟩ := h
    have hfirst := leads_section hss.1 hs
    cases ss with
    | nil =>
      obtain rfl := Option.some.inj hrest
      rw [render, List.map_singleton, joinWith_singleton]
      exact hfirst
    | cons s' ss =>
      rw [render, List.map_cons, List.map_cons, joinWith_cons_cons,
        ← List.map_cons, ← render]
      exact (hfirst.trans (leads_blank d₁)).trans (ih hss.2 hrest)

/-! ## Documents -/

theorem unifyPairs_eq_self {t : Text} (h : '\r' ∉ t) : unifyPairs t = t := by
  induction t with
  | nil => rfl
  | cons c cs ih =>
    rw [List.mem_cons, not_or] at h
    rw [unifyPairs, ih h.2]
    rintro _ rfl
    exact absurd rfl h.1

theorem return_not_mem_scalarText {v : Value} (hv : Writable v) : '\r' ∉ scalarText v := by
  cases hv with
  | bool b => cases b <;> decide
  | int _ => exact (isNumeral_intText _).not_mem (by decide) (by decide)
  | float hx =>
    obtain rfl | ⟨ds, k, htext, hds, -⟩ := Binary64.eq_infinite_or_layout hx
    · decide
    · rw [scalarText, htext]
      exact (isNumeral_layout hds k).not_mem (by decide) (by decide)
  | text t => exact return_not_mem_stringText t

theorem return_not_mem_fieldLine {f : Text × Value} (hv : Writable f.2) : '\r' ∉ fieldLine f := by
  have hequals : '\r' ∉ " = ".toList := by decide
  simp only [fieldLine, List.mem_append, not_or]
  exact ⟨⟨⟨return_not_mem_keyText f.1, hequals⟩, return_not_mem_scalarText hv⟩, by decide⟩

theorem return_not_mem_pathLine (path : List Text) : '\r' ∉ pathLine path := by
  have hkeys : ∀ p ∈ path.map keyText, '\r' ∉ p :=
    List.forall_mem_map.2 fun k _ => return_not_mem_keyText k
  simp only [pathLine, List.mem_append, List.mem_cons, not_or]
  exact ⟨⟨by decide, not_mem_joinWith (by decide) hkeys⟩, by decide⟩

theorem return_not_mem_render {ss : List Section} (hss : ∀ s ∈ ss, s.IsWritable) :
    '\r' ∉ render ss := by
  refine not_mem_joinWith (by decide) (List.forall_mem_map.2 fun s hs hmem => ?_)
  rw [Section.render_eq, List.mem_append, List.mem_flatMap] at hmem
  obtain hpath | ⟨f, hf, hline⟩ := hmem
  · exact return_not_mem_pathLine s.path hpath
  · exact return_not_mem_fieldLine ((hss s hs).fields f hf) hline

/-- A document of sections reads back as the table that its sections build. -/
theorem parse_render {ss : List Section} (hss : ∀ s ∈ ss, s.IsWritable) {d : Document}
    (h : ss.foldlM Section.enter .start = some d) : parse (render ss) = .ok d.root := by
  obtain ⟨n, hn, hleads⟩ := leads_render hss h
  have hread := hleads ((render ss).length - n + 1) []
  have hbound : (render ss).length - n + 1 + n = (render ss).length + 1 := by omega
  rw [List.append_nil, hbound] at hread
  unfold parse
  rw [unifyPairs_eq_self (return_not_mem_render hss)]
  dsimp only
  rw [hread]
  rfl

end CommitCheck.Toml
