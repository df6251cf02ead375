import CommitCheck.Proofs.Run
import CommitCheck.Proofs.Settings.Load

/-!
# Files that settings can be loaded from

Loading is meant to come to settings or to a failure of the configuration (`IsAnswer`), whatever
is in the file.  It does so exactly if what stands there is legible (`load_answers_iff`): nothing
at all, a folder, a text that is not TOML, or a document whose section is a table, or can be made
one, and has for the path of the log and for the rules values that can be looked at
(`IsLegibleSection`).  Everything else makes loading fail with a failure that is not one of the
configuration, such as bytes that are not a text (`not_forall_load_answers`).

Of the things that cannot be read, the legible ones are passed over with one warning.
-/

namespace CommitCheck.Settings

variable {α β : Type} {env : Environment} {fs gs : Fields} {v : Value}

/-! ## Answers -/

/-- What loading is meant to come to: a result or a failure of the configuration. -/
def IsAnswer : Except Failure α → Prop
  | .ok _ => True
  | .error e => e.isConfiguration = true

instance (x : Except Failure α) : Decidable (IsAnswer x) :=
  match x with
  | .ok _ => .isTrue trivial
  | .error e => inferInstanceAs (Decidable (e.isConfiguration = true))

/-- No failure of a computation is one of the configuration. -/
def OnlyEscapes (x : Except Failure α) : Prop :=
  ∀ e, x = .error e → e.isConfiguration = false

theorem onlyEscapes_ok (a : α) : OnlyEscapes (.ok a) := nofun

theorem onlyEscapes_error {e : Failure} (h : e.isConfiguration = false) :
    OnlyEscapes (.error e : Except Failure α) := by
  intro e' he
  obtain rfl := Except.error.inj he
  exact h

theorem OnlyEscapes.bind {x : Except Failure α} {f : α → Except Failure β} (hx : OnlyEscapes x)
    (hf : ∀ a, OnlyEscapes (f a)) : OnlyEscapes (x >>= f) :=
  fun _ h => Result.of_bind_eq_error (P := fun e : Failure => e.isConfiguration = false) h hx hf

theorem OnlyEscapes.map {x : Except Failure α} {f : α → β} (hx : OnlyEscapes x) :
    OnlyEscapes (x.map f) := by
  cases x with
  | ok a => exact onlyEscapes_ok _
  | error e => exact onlyEscapes_error (hx e rfl)

/-- A first step whose failures escape has to succeed for an answer. -/
theorem isAnswer_bind_iff {x : Except Failure α} {f : α → Except Failure β} (hx : OnlyEscapes x) :
    IsAnswer (x >>= f) ↔ ∃ a, x = .ok a ∧ IsAnswer (f a) := by
  cases x with
  | ok a =>
    change IsAnswer (f a) ↔ _
    simp
  | error e =>
    change e.isConfiguration = true ↔ _
    simp [hx e rfl]

/-- Where the file is said makes no difference. -/
theorem isAnswer_inFile_iff {x : Except Failure α} {path : Text} :
    IsAnswer (x.mapError (inFile path)) ↔ IsAnswer x := by
  cases x with
  | ok a => rfl
  | error e => cases e <;> rfl

/-! ## Sections that are tables or can be made one -/

/-- A value that gives a name and a value in a list of pairs. -/
inductive IsPair : Value → Text → Value → Prop
  /-- A list of both. -/
  | list (name : Text) (v : Value) : IsPair (.list [.text name, v]) name v
  /-- A text of two characters. -/
  | text (a b : Char) : IsPair (.text [a, b]) [a] (.text [b])
  /-- A table of two names. -/
  | table (a b : Text) (v w : Value) : IsPair (.table [(a, v), (b, w)]) a (.text b)

/-- A value that is a table with some fields or can be made one. -/
inductive HasFields : Value → Fields → Prop
  /-- A table. -/
  | table (fs : Fields) : HasFields (.table fs) fs
  /-- A text without characters. -/
  | text : HasFields (.text []) []
  /-- A list of pairs, a later one over an earlier one. -/
  | list {vs : List Value} {pairs : List (Text × Value)} :
      List.Forall₂ (fun v f => IsPair v f.1 f.2) vs pairs →
      HasFields (.list vs) (Fields.ofList pairs)

theorem pairOf_eq_ok_iff {name : Text} {w : Value} :
    pairOf v = .ok (.text name, w) ↔ IsPair v name w := by
  constructor
  · intro h
    unfold pairOf at h
    split at h
    · cases h
      exact .list _ _
    · cases h
      exact .text _ _
    · cases h
      exact .table _ _ _ _
    all_goals cases h
  · rintro (_ | _ | _) <;> rfl

theorem set_eq_ok_iff {a b : Section} {name : Value} :
    a.set name v = .ok b ∧ b.hasOtherNames = false ↔
      ∃ n, name = .text n ∧ a.hasOtherNames = false ∧ b = ⟨a.fields.set n v, false⟩ := by
  constructor
  · rintro ⟨h, hb⟩
    unfold Section.set at h
    split at h
    · obtain rfl := Except.ok.inj h
      exact ⟨_, rfl, hb, congrArg (Section.mk _) hb⟩
    · split at h
      · obtain rfl := Except.ok.inj h
        cases hb
      · cases h
  · rintro ⟨n, rfl, ha, rfl⟩
    exact ⟨congrArg (fun b => Except.ok (Section.mk _ b)) ha, rfl⟩

/-- A list of pairs adds a field for each of them. -/
theorem sectionOfPairs_eq_ok_iff {a : Section} {vs : List Value} :
    sectionOfPairs a vs = .ok ⟨fs, false⟩ ↔
      a.hasOtherNames = false ∧ ∃ pairs, List.Forall₂ (fun v f => IsPair v f.1 f.2) vs pairs ∧
        a.fields.merge pairs = fs := by
  -- a name that is not a text is not forgotten, so there must not be one before the list either
  induction vs generalizing a with
  | nil =>
    obtain ⟨fields, hasOtherNames⟩ := a
    simp [sectionOfPairs, Fields.merge, and_comm]
  | cons v vs ih =>
    have hstep : sectionOfPairs a (v :: vs) = .ok ⟨fs, false⟩ ↔
        ∃ p, pairOf v = .ok p ∧ ∃ b, a.set p.1 p.2 = .ok b ∧
          sectionOfPairs b vs = .ok ⟨fs, false⟩ := by
      rw [sectionOfPairs, Result.bind_eq_ok_iff]
      exact exists_congr fun p => and_congr_right' Result.bind_eq_ok_iff
    rw [hstep]
    constructor
    · rintro ⟨⟨name, w⟩, hpair, b, hset, hrest⟩
      obtain ⟨hb, pairs, hpairs, hfs⟩ := ih.1 hrest
      obtain ⟨n, rfl, ha, rfl⟩ := set_eq_ok_iff.1 ⟨hset, hb⟩
      exact ⟨ha, (n, w) :: pairs, .cons (pairOf_eq_ok_iff.1 hpair) hpairs, hfs⟩
    · rintro ⟨ha, _, hpairs, hfs⟩
      cases hpairs with
      | cons hpair hpairs =>
        rename_i f pairs
        obtain ⟨hset, -⟩ := set_eq_ok_iff.2 ⟨f.1, rfl, ha, rfl⟩
        exact ⟨_, pairOf_eq_ok_iff.2 hpair, _, hset, ih.2 ⟨rfl, pairs, hpairs, hfs⟩⟩

theorem sectionOf_eq_ok_iff : sectionOf v = .ok ⟨fs, false⟩ ↔ HasFields v fs := by
  constructor
  · intro h
    unfold sectionOf at h
    split at h
    · cases h
      exact .table _
    · obtain ⟨-, pairs, hpairs, rfl⟩ := sectionOfPairs_eq_ok_iff.1 h
      exact .list hpairs
    · cases h
      exact .text
    · cases h
    · cases h
  · rintro (_ | _ | hpairs)
    · rfl
    · rfl
    · exact sectionOfPairs_eq_ok_iff.2 ⟨rfl, _, hpairs, rfl⟩

theorem onlyEscapes_pairOf (v : Value) : OnlyEscapes (pairOf v) := by
  unfold pairOf
  split
  all_goals first | exact onlyEscapes_ok _ | exact onlyEscapes_error rfl

theorem onlyEscapes_set (a : Section) (name v : Value) : OnlyEscapes (a.set name v) := by
  unfold Section.set
  split
  · exact onlyEscapes_ok _
  · split
    · exact onlyEscapes_ok _
    · exact onlyEscapes_error rfl

theorem onlyEscapes_sectionOfPairs (a : Section) (vs : List Value) :
    OnlyEscapes (sectionOfPairs a vs) := by
  induction vs generalizing a with
  | nil => exact onlyEscapes_ok _
  | cons v vs ih =>
    exact (onlyEscapes_pairOf v).bind fun p => (onlyEscapes_set a p.1 p.2).bind ih

theorem onlyEscapes_sectionOf (v : Value) : OnlyEscapes (sectionOf v) := by
  unfold sectionOf
  split
  · exact onlyEscapes_ok _
  · exact onlyEscapes_sectionOfPairs _ _
  · exact onlyEscapes_ok _
  · exact onlyEscapes_error rfl
  · exact onlyEscapes_error rfl

/-! ## Paths of the log that can be looked at -/

/-- A value for the path of the log that can be looked at: one that is empty, a text, or a list or
a table in which two full stops stand alone and which a warning can show. -/
inductive IsLegibleLog : Value → Prop
  /-- A value that is empty. -/
  | empty {v : Value} : v.isTruthy = false → IsLegibleLog v
  /-- A text. -/
  | text (t : Text) : IsLegibleLog (.text t)
  /-- A list. -/
  | list {vs : List Value} : .text ['.', '.'] ∈ vs → (Value.list vs).isUnshowable = false →
      IsLegibleLog (.list vs)
  /-- A table. -/
  | table {fs : Fields} : ['.', '.'] ∈ fs.names → (Value.table fs).isUnshowable = false →
      IsLegibleLog (.table fs)

theorem holdsDots_list_iff {vs : List Value} :
    holdsDots (.list vs) = some true ↔ .text ['.', '.'] ∈ vs := by
  rw [holdsDots, Option.some_inj, List.any_eq_true]
  constructor
  · rintro ⟨v, hv, hdots⟩
    split at hdots
    · obtain rfl := eq_of_beq hdots
      exact hv
    · cases hdots
  · exact fun h => ⟨_, h, rfl⟩

theorem holdsDots_table_iff : holdsDots (.table fs) = some true ↔ ['.', '.'] ∈ fs.names := by
  rw [holdsDots, Option.some_inj, List.contains_iff_mem, Fields.names]

theorem isUsableLog_eq_ok_iff {usable : Bool} :
    isUsableLog v = .ok usable ↔
      (∃ t, v = .text t ∧ isSafePath t = usable) ∨ usable = false ∧ holdsDots v = some true := by
  cases v with
  | text t => simp [isUsableLog, holdsDots]
  | _ =>
    unfold isUsableLog
    split
    · rename_i h
      cases h
    · split
      · rename_i hdots
        simp [hdots, eq_comm]
      · rename_i hdots
        simp [hdots]
      · rename_i hdots
        simp [hdots]

/-- A value that is not empty is legible exactly if it is known whether it can be used, and if it
cannot, a warning can show it. -/
theorem isLegibleLog_iff (hfull : v.isTruthy = true) :
    IsLegibleLog v ↔
      ∃ usable, isUsableLog v = .ok usable ∧ (usable = false → v.isUnshowable = false) := by
  constructor
  · rintro (hempty | _ | ⟨hdots, hshown⟩ | ⟨hdots, hshown⟩)
    · rw [hfull] at hempty
      cases hempty
    · exact ⟨_, rfl, fun _ => rfl⟩
    · exact ⟨false, isUsableLog_eq_ok_iff.2 (.inr ⟨rfl, holdsDots_list_iff.2 hdots⟩),
        fun _ => hshown⟩
    · exact ⟨false, isUsableLog_eq_ok_iff.2 (.inr ⟨rfl, holdsDots_table_iff.2 hdots⟩),
        fun _ => hshown⟩
  · rintro ⟨usable, husable, hshown⟩
    obtain ⟨t, rfl, -⟩ | ⟨rfl, hdots⟩ := isUsableLog_eq_ok_iff.1 husable
    · exact .text t
    · cases v with
      | list vs => exact .list (holdsDots_list_iff.1 hdots) (hshown rfl)
      | table fs => exact .table (holdsDots_table_iff.1 hdots) (hshown rfl)
      | _ => cases hdots

/-- What is looked at is left or dropped, if that is known and can be shown. -/
theorem exists_checkLog_iff_of_full (hv : fs.get? "log_file" = some v)
    (hfull : v.isTruthy = true) :
    (∃ gs, (checkLog fs).outcome = .ok gs) ↔
      ∃ usable, isUsableLog v = .ok usable ∧ (usable = false → v.isUnshowable = false) := by
  unfold checkLog
  rw [hv]
  dsimp only
  rw [hfull, if_neg (by decide)]
  simp only [Run.bind_eq_ok_iff]
  constructor
  · rintro ⟨gs, usable, husable, hgs⟩
    refine ⟨usable, husable, ?_⟩
    rintro rfl
    rw [if_neg Bool.false_ne_true] at hgs
    split at hgs
    · cases hgs
    · exact eq_false_of_ne_true ‹_›
  · rintro ⟨usable, husable, hshown⟩
    cases usable with
    | true => exact ⟨_, true, husable, rfl⟩
    | false =>
      refine ⟨fs.set "log_file" .null, false, husable, ?_⟩
      rw [if_neg Bool.false_ne_true, hshown rfl]
      rfl

/-- The path of the log can be looked at exactly if its value is legible. -/
theorem exists_checkLog_iff :
    (∃ gs, (checkLog fs).outcome = .ok gs) ↔
      ∀ v, fs.get? "log_file" = some v → IsLegibleLog v := by
  cases hv : fs.get? "log_file" with
  | none => simp [checkLog_of_none hv]
  | some v =>
    have hone : (∀ w, some v = some w → IsLegibleLog w) ↔ IsLegibleLog v := by simp
    rw [hone]
    cases hfull : v.isTruthy with
    | true => rw [exists_checkLog_iff_of_full hv hfull, isLegibleLog_iff hfull]
    | false =>
      refine iff_of_true ⟨fs, ?_⟩ (.empty hfull)
      unfold checkLog
      rw [hv]
      dsimp only
      rw [hfull]
      rfl

theorem onlyEscapes_isUsableLog (v : Value) : OnlyEscapes (isUsableLog v) := by
  unfold isUsableLog
  split
  · exact onlyEscapes_ok _
  · split
    · exact onlyEscapes_ok _
    · exact onlyEscapes_error rfl
    · exact onlyEscapes_error rfl

theorem onlyEscapes_checkLog (fs : Fields) : OnlyEscapes (checkLog fs).outcome := by
  unfold checkLog
  split
  · exact onlyEscapes_ok _
  · split
    · exact onlyEscapes_ok _
    · rw [Run.outcome_bind]
      refine (onlyEscapes_isUsableLog _).bind fun usable => ?_
      split
      · exact onlyEscapes_ok _
      · split
        · exact onlyEscapes_error rfl
        · exact onlyEscapes_ok _

/-- To clean a value makes no difference to whether it can be looked at. -/
theorem isLegibleLog_cleanedValue_iff : IsLegibleLog (cleanedValue v) ↔ IsLegibleLog v := by
  cases v with
  | text t => exact iff_of_true (.text _) (.text t)
  -- only texts are cleaned
  | _ => rfl

/-! ## Values for the rules that can be looked at -/

/-- A value for the rules that can be looked at: nothing, a table, or a text or a list of texts
that has something in it which is not the name of a rule. -/
inductive IsLegibleRules : Value → Prop
  /-- Nothing. -/
  | null : IsLegibleRules .null
  /-- A table. -/
  | table (fs : Fields) : IsLegibleRules (.table fs)
  /-- A text, which is looked at character by character. -/
  | text {t : Text} : t ≠ [] → IsLegibleRules (.text t)
  /-- A list of texts. -/
  | list {vs : List Value} {t : Text} : (∀ v ∈ vs, ∃ u, v = .text u) → .text t ∈ vs →
      t ∉ RuleLevels.names → IsLegibleRules (.list vs)

theorem onlyEscapes_ruleFields (v : Value) : OnlyEscapes (ruleFields v) := by
  unfold ruleFields
  dsimp only
  repeat' split
  all_goals first | exact onlyEscapes_ok _ | exact onlyEscapes_error rfl

/-- Names that are not known are a fault, and where there are none, looking for them fails. -/
theorem exists_refused_iff {unknown : List Text} {refused : Checked Fields} :
    (∃ x, (if unknown.isEmpty then .error .wrongKind else .ok refused : Except Failure _) = .ok x) ↔
      unknown ≠ [] := by
  cases unknown <;> simp

theorem exists_ruleFields_table (fs : Fields) : ∃ x, ruleFields (.table fs) = .ok x := by
  unfold ruleFields
  dsimp only
  split
  · exact ⟨_, rfl⟩
  · exact ⟨_, rfl⟩

theorem exists_ruleFields_text_iff {t : Text} : (∃ x, ruleFields (.text t) = .ok x) ↔ t ≠ [] := by
  refine exists_refused_iff.trans ?_
  simp

/-- The text that a value is, if it is one. -/
def text? : Value → Option Text
  | .text t => some t
  | _ => none

theorem text?_eq_some_iff {t : Text} : text? v = some t ↔ v = .text t := by
  cases v <;> simp [text?]

theorem ruleFields_list_eq (vs : List Value) :
    ruleFields (.list vs) =
      let unknown := (vs.filterMap text?).filter (!RuleLevels.names.contains ·)
      if (vs.filterMap text?).length = vs.length then
        if unknown.isEmpty then .error .wrongKind
        else .ok (Checked.fault (.refused (unknownRules unknown)))
      else .error .wrongKind := rfl

theorem exists_ruleFields_list_iff {vs : List Value} :
    (∃ x, ruleFields (.list vs) = .ok x) ↔
      (∀ v ∈ vs, ∃ t, v = .text t) ∧ ∃ t, .text t ∈ vs ∧ t ∉ RuleLevels.names := by
  have htexts : (vs.filterMap text?).length = vs.length ↔ ∀ v ∈ vs, ∃ t, v = .text t := by
    simp only [List.filterMap_length_eq_length, Option.isSome_iff_exists, text?_eq_some_iff]
  have hunknown : (vs.filterMap text?).filter (!RuleLevels.names.contains ·) ≠ [] ↔
      ∃ t, .text t ∈ vs ∧ t ∉ RuleLevels.names := by
    simp [List.filter_eq_nil_iff, text?_eq_some_iff]
  rw [ruleFields_list_eq, ← htexts, ← hunknown]
  dsimp only
  split
  · rename_i h
    simp [exists_refused_iff, h]
  · rename_i h
    simp [h]

theorem exists_ruleFields_iff : (∃ x, ruleFields v = .ok x) ↔ IsLegibleRules v := by
  constructor
  · rintro ⟨x, h⟩
    cases v with
    | null => exact .null
    | table fs => exact .table fs
    | text t => exact .text (exists_ruleFields_text_iff.1 ⟨x, h⟩)
    | list vs =>
      obtain ⟨htexts, t, ht, hunknown⟩ := exists_ruleFields_list_iff.1 ⟨x, h⟩
      exact .list htexts ht hunknown
    | _ => cases h
  · rintro (_ | fs | hfull | ⟨htexts, ht, hunknown⟩)
    · exact ⟨_, rfl⟩
    · exact exists_ruleFields_table fs
    · exact exists_ruleFields_text_iff.2 hfull
    · exact exists_ruleFields_list_iff.2 ⟨htexts, _, ht, hunknown⟩

theorem onlyEscapes_levelsGiven (v : Option Value) : OnlyEscapes (levelsGiven v) := by
  cases v with
  | none => exact onlyEscapes_ok _
  | some v => exact (onlyEscapes_ruleFields v).map

theorem isAnswer_finish (fs : Fields) (rules : Checked RuleLevels) :
    IsAnswer (finish fs rules) := by
  unfold finish
  cases assemble fs rules with
  | ok s => trivial
  | error es => rfl

/-- To make settings of fields comes to an answer exactly if no name is given that is reserved and
the value for the rules can be looked at. -/
theorem isAnswer_ofFields_iff {given : Fields} :
    IsAnswer (ofFields env given) ↔
      given.has reserved = false ∧
        ∀ v, (fieldsOf env given).get? "rules" = some v → IsLegibleRules v := by
  cases h : given.has reserved with
  | true => simp [ofFields_of_has_reserved h, IsAnswer, Failure.isConfiguration]
  | false =>
    have hlooked : (∃ rules, levelsGiven ((fieldsOf env given).get? "rules") = .ok rules) ↔
        ∀ v, (fieldsOf env given).get? "rules" = some v → IsLegibleRules v := by
      cases (fieldsOf env given).get? "rules" with
      | none => simp [levelsGiven]
      | some v => simp [levelsGiven, Result.map_eq_ok_iff, ← exists_ruleFields_iff]
    rw [ofFields_eq h, isAnswer_bind_iff (onlyEscapes_levelsGiven _), ← hlooked]
    simp [isAnswer_finish]

/-! ## Loading -/

/-- A section that settings, or a failure of the configuration, come of. -/
structure IsLegibleSection (fs : Fields) : Prop where
  /-- No field has the name that is reserved. -/
  free : fs.has reserved = false
  /-- The value for the path of the log can be looked at. -/
  log : ∀ v, fs.get? "log_file" = some v → IsLegibleLog v
  /-- The value for the rules can be looked at. -/
  rules : ∀ v, fs.get? "rules" = some v → IsLegibleRules v

/-- What can stand in the place of the file so that loading comes to an answer. -/
inductive IsLegible : Option Entry → Prop
  /-- Nothing. -/
  | missing : IsLegible none
  /-- A folder. -/
  | folder : IsLegible (some .folder)
  /-- A text that does not follow the format. -/
  | malformed {t : Text} : Toml.parse t = .error .malformed → IsLegible (some (.file (.text t)))
  /-- A document with a section that is legible. -/
  | document {t : Text} {document fs : Fields} : Toml.parse t = .ok document →
      HasFields ((document.get? sectionName).getD (.table [])) fs → IsLegibleSection fs →
      IsLegible (some (.file (.text t)))

/-- What can stand in the place of the file and cannot be read as a document. -/
inductive IsUnreadable : Option Entry → Prop
  /-- A folder. -/
  | folder : IsUnreadable (some .folder)
  /-- Bytes that are not a text. -/
  | binary : IsUnreadable (some (.file .binary))
  /-- A text that is not read. -/
  | text {t : Text} {e : Unread} : Toml.parse t = .error e → IsUnreadable (some (.file (.text t)))

theorem isAnswer_ofDocument_iff {path : Text} {document : Fields} :
    IsAnswer (ofDocument env path document).outcome ↔
      ∃ gs, Yields document gs ∧ IsAnswer (ofFields env gs) := by
  constructor
  · intro h
    rw [ofDocument, Run.outcome_bind] at h
    obtain ⟨a, ha, h⟩ := (isAnswer_bind_iff (onlyEscapes_sectionOf _)).1 h
    rw [Run.outcome_bind] at h
    obtain ⟨gs, hgs, h⟩ := (isAnswer_bind_iff (onlyEscapes_checkLog _)).1 h
    split at h
    · cases h
    · rename_i hnames
      have hyields : Yields document gs := ⟨a, ha, hgs, eq_false_of_ne_true hnames⟩
      refine ⟨gs, hyields, ?_⟩
      split at h
      · rename_i settings hsettings
        rw [hsettings]
        trivial
      · rename_i e he
        rw [he]
        exact isAnswer_inFile_iff.1 h
  · rintro ⟨gs, hyields, h⟩
    rw [hyields.outcome_eq]
    exact isAnswer_inFile_iff.2 h

/-- What comes of a section depends on the values that it had before it was cleaned. -/
theorem isAnswer_ofFields_iff_of_checkLog (hgs : gs.names.Nodup)
    (h : (checkLog (cleanFields fs)).outcome = .ok gs) :
    IsAnswer (ofFields env gs) ↔
      fs.has reserved = false ∧ ∀ v, fs.get? "rules" = some v → IsLegibleRules v := by
  have hsame {name : Text} (hurl : name ≠ "api_url") (hlog : name ≠ "log_file") :
      gs.get? name = fs.get? name :=
    (get?_checkLog_of_ne hlog h).trans (get?_cleanFields_of_ne hurl hlog fs)
  rw [isAnswer_ofFields_iff, get?_rules_fieldsOf env hgs, Fields.has_eq_isSome,
    Fields.has_eq_isSome, hsame (by decide) (by decide), hsame (by decide) (by decide)]

theorem exists_checkLog_cleanFields_iff :
    (∃ gs, (checkLog (cleanFields fs)).outcome = .ok gs) ↔
      ∀ v, fs.get? "log_file" = some v → IsLegibleLog v := by
  rw [exists_checkLog_iff, get?_log_cleanFields]
  cases fs.get? "log_file" with
  | none => simp
  | some v => simp [isLegibleLog_cleanedValue_iff]

/-- A document that was read comes to an answer exactly if it has a section that is legible. -/
theorem isAnswer_ofDocument_iff_legible {path t : Text} {document : Fields}
    (hparse : Toml.parse t = .ok document) :
    IsAnswer (ofDocument env path document).outcome ↔
      ∃ fs, HasFields ((document.get? sectionName).getD (.table [])) fs ∧ IsLegibleSection fs := by
  rw [isAnswer_ofDocument_iff]
  constructor
  -- the section is looked at after cleaning, which changes neither what is looked at for the rules
  -- nor whether the path of the log can be looked at
  · rintro ⟨gs, hyields, hanswer⟩
    have hnames := hyields.nodup_names hparse
    obtain ⟨⟨fs, hasOtherNames⟩, ha, hgs, rfl⟩ := hyields
    obtain ⟨hfree, hrules⟩ := (isAnswer_ofFields_iff_of_checkLog hnames hgs).1 hanswer
    have hlog := exists_checkLog_cleanFields_iff.1 ⟨gs, hgs⟩
    exact ⟨fs, sectionOf_eq_ok_iff.1 ha, hfree, hlog, hrules⟩
  · rintro ⟨fs, hfields, hlegible⟩
    obtain ⟨gs, hgs⟩ := exists_checkLog_cleanFields_iff.2 hlegible.log
    have hyields : Yields document gs := ⟨⟨fs, false⟩, sectionOf_eq_ok_iff.2 hfields, hgs, rfl⟩
    refine ⟨gs, hyields, ?_⟩
    exact (isAnswer_ofFields_iff_of_checkLog (hyields.nodup_names hparse) hgs).2
      ⟨hlegible.free, hlegible.rules⟩

theorem isAnswer_ofFields_nil (env : Environment) : IsAnswer (ofFields env []) := by
  refine isAnswer_ofFields_iff.2 ⟨rfl, fun v hv => ?_⟩
  have hnone : (fieldsOf env []).get? "rules" = none := get?_rules_fieldsOf env List.nodup_nil
  rw [hnone] at hv
  cases hv

/-- The warning about something that cannot be read. -/
def unreadWarning (reason : Text) : Event :=
  .printed ("Warning: Error reading config file: ".toList ++ reason ++ ['\n'])

/-- What is passed over makes no difference but for the warning. -/
theorem withoutFile_eq (env : Environment) (reason : Text) :
    withoutFile env reason = ⟨[unreadWarning reason], ofFields env []⟩ := rfl

theorem load_of_malformed {t : Text} (h : Toml.parse t = .error .malformed) (env : Environment)
    (path : Text) :
    load env path (some (.file (.text t))) = withoutFile env (path ++ " is not TOML".toList) := by
  unfold load
  dsimp only
  rw [h]

/-- A text that follows the format and is not read all the same is not passed over. -/
theorem not_isAnswer_of_unread {path t : Text} {e : Unread} (h : Toml.parse t = .error e)
    (he : e ≠ .malformed) : ¬IsAnswer (load env path (some (.file (.text t)))).outcome := by
  unfold load
  dsimp only
  rw [h]
  cases e with
  | malformed => exact absurd rfl he
  | tooLong => nofun
  | tooDeep => nofun

theorem not_isLegible_of_unread {t : Text} {e : Unread} (h : Toml.parse t = .error e)
    (he : e ≠ .malformed) : ¬IsLegible (some (.file (.text t))) := by
  intro hlegible
  cases hlegible with
  | malformed hparse => exact he (Except.error.inj (h.symm.trans hparse))
  | document hparse => cases hparse.symm.trans h

theorem isAnswer_load_text_iff {path t : Text} :
    IsAnswer (load env path (some (.file (.text t)))).outcome ↔
      IsLegible (some (.file (.text t))) := by
  cases hparse : Toml.parse t with
  | ok document =>
    rw [load_of_parse hparse, isAnswer_ofDocument_iff_legible hparse]
    constructor
    · rintro ⟨fs, hfields, hlegible⟩
      exact .document hparse hfields hlegible
    · intro h
      cases h with
      | malformed h => cases hparse.symm.trans h
      | document h hfields hlegible =>
        obtain rfl := Except.ok.inj (hparse.symm.trans h)
        exact ⟨_, hfields, hlegible⟩
  | error e =>
    by_cases he : e = .malformed
    · subst he
      rw [load_of_malformed hparse, withoutFile_eq]
      exact iff_of_true (isAnswer_ofFields_nil env) (.malformed hparse)
    · exact iff_of_false (not_isAnswer_of_unread hparse he) (not_isLegible_of_unread hparse he)

/-- Loading comes to settings or to a failure of the configuration exactly if what stands in the
place of the file is legible. -/
theorem isAnswer_load_iff (env : Environment) (path : Text) (entry : Option Entry) :
    IsAnswer (load env path entry).outcome ↔ IsLegible entry := by
  have hnil := isAnswer_ofFields_nil env
  cases entry with
  | none => exact iff_of_true hnil .missing
  | some entry =>
    cases entry with
    | folder => exact iff_of_true hnil .folder
    | file content =>
      cases content with
      | binary => exact iff_of_false nofun nofun
      | text t => exact isAnswer_load_text_iff

/-- What is legible and cannot be read is passed over with a warning. -/
theorem load_of_unreadable {path : Text} {entry : Option Entry} (h : IsLegible entry)
    (hread : IsUnreadable entry) (env : Environment) :
    ∃ reason, load env path entry = ⟨[unreadWarning reason], (load env path none).outcome⟩ := by
  cases hread with
  | folder => exact ⟨_, rfl⟩
  | binary => cases h
  | text hfail =>
    cases h with
    | malformed hparse => exact ⟨_, load_of_malformed hparse env path⟩
    | document hparse => cases hparse.symm.trans hfail

/-- Loading comes to settings or to a failure of the configuration exactly if what stands in the
place of the file is legible.  If it cannot be read as a document, then in the same case, and in no
other, all is as if there were nothing, but for one warning. -/
theorem load_answers_iff (env : Environment) (path : Text) (entry : Option Entry) :
    (IsAnswer (load env path entry).outcome ↔ IsLegible entry) ∧
      (IsUnreadable entry →
        ((∃ reason, load env path entry =
            ⟨[unreadWarning reason], (load env path none).outcome⟩) ↔ IsLegible entry)) := by
  refine ⟨isAnswer_load_iff env path entry, fun hread => ⟨?_, fun h => ?_⟩⟩
  · rintro ⟨reason, h⟩
    rw [← isAnswer_load_iff env path, h, isAnswer_load_iff]
    exact .missing
  · exact load_of_unreadable h hread env

/-- Loading does not come to settings or a failure of the configuration whatever bytes are in the
file. -/
theorem not_forall_load_answers :
    ¬∀ (env : Environment) (path : Text) (bytes : List Nat),
      IsAnswer (load env path (some (.file (.ofBytes bytes)))).outcome :=
  fun h => absurd (h [] fileName [0xFF]) (by decide)

end CommitCheck.Settings
