import CommitCheck.Proofs.Run
import CommitCheck.Proofs.Settings.Basic
import CommitCheck.Proofs.Settings.Clean
import CommitCheck.Proofs.Toml.Names
import CommitCheck.Settings.File

/-!
# What loading takes from a file

Settings that were loaded were made of fields, those of a file or none (`exists_ofFields_of_load`),
and loading does nothing but print (`onlyPrints_load`).  `Yields` says which fields those of a file
are: the fields of its section, cleaned, and with the path of the log looked at.  What comes of a
document is what comes of these fields (`Yields.outcome_eq`, `ofDocument_eq_ok_iff`).

A path for the log is looked at after it was cleaned.  `logEntry?` is what a document has for it,
`takenLog` what becomes of that, and `logFile_of_load` says that loading does nothing else with it.
No name is in the section twice, so what was looked at is what the settings are made of.
-/

namespace CommitCheck.Settings

open Value (HasDistinctNames)

variable {env : Environment} {fs gs : Fields} {s : Settings} {v : Value}

/-! ## Nothing but print -/

theorem onlyPrints_printLine (t : Text) : (printLine t).OnlyPrints :=
  List.forall_mem_singleton.2 ⟨_, rfl⟩

theorem onlyPrints_checkLog (fs : Fields) : (checkLog fs).OnlyPrints := by
  unfold checkLog
  split
  · exact Run.onlyPrints_nil _
  · split
    · exact Run.onlyPrints_nil _
    · refine Run.OnlyPrints.bind (Run.onlyPrints_nil _) fun usable => ?_
      split
      · exact Run.onlyPrints_nil _
      · split
        · exact Run.onlyPrints_nil _
        · exact Run.OnlyPrints.bind (onlyPrints_printLine _) fun _ => Run.onlyPrints_nil _

theorem onlyPrints_ofDocument (env : Environment) (path : Text) (document : Fields) :
    (ofDocument env path document).OnlyPrints := by
  unfold ofDocument
  refine Run.OnlyPrints.bind (Run.onlyPrints_nil _) fun s => ?_
  refine Run.OnlyPrints.bind (onlyPrints_checkLog _) fun fs => ?_
  split
  · exact Run.onlyPrints_nil _
  · split <;> exact Run.onlyPrints_nil _

theorem onlyPrints_withoutFile (env : Environment) (reason : Text) :
    (withoutFile env reason).OnlyPrints :=
  Run.OnlyPrints.bind (onlyPrints_printLine _) fun _ => Run.onlyPrints_nil _

/-- Loading settings does nothing but print. -/
theorem onlyPrints_load (env : Environment) (path : Text) (entry : Option Entry) :
    (load env path entry).OnlyPrints := by
  unfold load
  split
  · exact Run.onlyPrints_nil _
  · exact onlyPrints_withoutFile _ _
  · exact Run.onlyPrints_nil _
  · split
    · exact onlyPrints_ofDocument _ _ _
    · exact onlyPrints_withoutFile _ _
    · exact Run.onlyPrints_nil _
    · exact Run.onlyPrints_nil _

/-- Asking for the path of the log does nothing but print. -/
theorem onlyPrints_logPath (s : Settings) (now : Moment) : (s.logPath now).OnlyPrints := by
  unfold logPath
  split
  · exact Run.onlyPrints_nil _
  · split
    · exact Run.onlyPrints_nil _
    · exact Run.onlyPrints_nil _
    · split
      · exact Run.onlyPrints_nil _
      · exact Run.OnlyPrints.bind (onlyPrints_printLine _) fun _ => Run.onlyPrints_nil _

/-! ## The section of a file -/

/-- No name is in the section of a document twice. -/
theorem nodup_names_set {a b : Section} {name : Value} (ha : a.fields.names.Nodup)
    (h : a.set name v = .ok b) : b.fields.names.Nodup := by
  unfold Section.set at h
  split at h
  · obtain rfl := Except.ok.inj h
    exact Fields.nodup_names_set ha
  · split at h
    · obtain rfl := Except.ok.inj h
      exact ha
    · cases h

theorem nodup_names_sectionOfPairs {a b : Section} {vs : List Value} (ha : a.fields.names.Nodup)
    (h : sectionOfPairs a vs = .ok b) : b.fields.names.Nodup := by
  induction vs generalizing a with
  | nil =>
    obtain rfl := Except.ok.inj h
    exact ha
  | cons v vs ih =>
    unfold sectionOfPairs at h
    obtain ⟨⟨name, w⟩, -, h⟩ := Result.bind_eq_ok_iff.1 h
    obtain ⟨c, hset, h⟩ := Result.bind_eq_ok_iff.1 h
    exact ih (nodup_names_set ha hset) h

theorem nodup_names_sectionOf {a : Section} (hv : HasDistinctNames v) (h : sectionOf v = .ok a) :
    a.fields.names.Nodup := by
  unfold sectionOf at h
  split at h
  · obtain rfl := Except.ok.inj h
    exact hv.nodup
  · exact nodup_names_sectionOfPairs (a := ⟨[], false⟩) List.nodup_nil h
  · obtain rfl := Except.ok.inj h
    exact List.nodup_nil
  · cases h
  · cases h

/-- The section of settings in a document that was read has no name twice. -/
theorem nodup_names_of_parse {t : Text} {document : Fields} {a : Section}
    (hparse : Toml.parse t = .ok document)
    (h : sectionOf ((document.get? sectionName).getD (.table [])) = .ok a) :
    a.fields.names.Nodup := by
  have hdocument := Toml.hasDistinctNames_of_parse hparse
  refine nodup_names_sectionOf ?_ h
  cases hsection : document.get? sectionName with
  | none => exact .empty
  | some w => exact hdocument.get? hsection

/-! ## Cleaning a field -/

/-- A value as it is after cleaning. -/
def cleanedValue : Value → Value
  | .text t => .text (cleaned t)
  | v => v

theorem nodup_names_cleanField (name : Text) (h : fs.names.Nodup) :
    (cleanField name fs).names.Nodup := by
  unfold cleanField
  split
  · exact Fields.nodup_names_set h
  · exact h

theorem get?_cleanField_of_ne {name other : Text} (h : other ≠ name) (fs : Fields) :
    (cleanField name fs).get? other = fs.get? other := by
  unfold cleanField
  split
  · exact Fields.get?_set_of_ne fs _ h
  · rfl

theorem get?_cleanField_self (name : Text) (fs : Fields) :
    (cleanField name fs).get? name = (fs.get? name).map cleanedValue := by
  unfold cleanField
  cases h : fs.get? name with
  | none => exact h
  | some v => cases v <;> first | exact Fields.get?_set_self fs _ _ | exact h

/-- The fields in which the address of the tracker and the path of the log were cleaned. -/
def cleanFields (fs : Fields) : Fields := cleanField "log_file" (cleanField "api_url" fs)

theorem get?_cleanFields_of_ne {name : Text} (hurl : name ≠ "api_url") (hlog : name ≠ "log_file")
    (fs : Fields) : (cleanFields fs).get? name = fs.get? name :=
  (get?_cleanField_of_ne hlog _).trans (get?_cleanField_of_ne hurl fs)

theorem get?_log_cleanFields (fs : Fields) :
    (cleanFields fs).get? "log_file" = (fs.get? "log_file").map cleanedValue := by
  have hne : ("log_file" : Text) ≠ "api_url" := by decide
  rw [cleanFields, get?_cleanField_self, get?_cleanField_of_ne hne]

/-! ## Looking at the path of the log -/

/-- Where no path is given, nothing is looked at. -/
theorem checkLog_of_none (h : fs.get? "log_file" = none) : checkLog fs = pure fs := by
  unfold checkLog
  rw [h]

/-- What looking at the path of the log comes to: a value that is empty or a safe path is left
as it is, and one that is not safe is dropped. -/
theorem checkLog_eq_ok (hv : fs.get? "log_file" = some v) (h : (checkLog fs).outcome = .ok gs) :
    gs = fs ∧ v.isTruthy = false ∨ gs = fs ∧ isUsableLog v = .ok true ∨
      gs = fs.set "log_file" .null ∧ v.isTruthy = true ∧ isUsableLog v = .ok false := by
  unfold checkLog at h
  rw [hv] at h
  dsimp only at h
  split at h
  · rename_i hempty
    obtain rfl := Except.ok.inj h
    exact .inl ⟨rfl, by simpa using hempty⟩
  · rename_i htruthy
    obtain ⟨usable, husable, h⟩ := Run.bind_eq_ok_iff.1 h
    cases usable with
    | true =>
      obtain rfl := Except.ok.inj h
      exact .inr (.inl ⟨rfl, husable⟩)
    | false =>
      rw [if_neg Bool.false_ne_true] at h
      split at h
      · cases h
      · obtain rfl := Except.ok.inj h
        exact .inr (.inr ⟨rfl, by simpa using htruthy, husable⟩)

/-- Only a text can be used as the path of a log. -/
theorem isSafePath_of_isUsableLog (h : isUsableLog v = .ok true) :
    ∃ t, v = .text t ∧ isSafePath t = true := by
  unfold isUsableLog at h
  split at h
  · exact ⟨_, rfl, Except.ok.inj h⟩
  · split at h <;> cases h

theorem isUnsafeLog_eq_false {log : Option Text} :
    isUnsafeLog log = false ↔ ∀ p, log = some p → p = [] ∨ isSafePath p = true := by
  cases log with
  | none => simp [isUnsafeLog]
  | some p => simp [isUnsafeLog, or_iff_not_imp_left]

/-- The path of the log that is taken from a value in a file: a text that is, when it was cleaned,
empty or a safe path. -/
def takenLog : Value → Option Text
  | .text t => if isUnsafeLog (some (cleaned t)) then none else some (cleaned t)
  | _ => none

/-- A path that is taken was cleaned, and it is empty or safe. -/
theorem safe_of_takenLog {p : Text} (h : takenLog v = some p) :
    cleaned p = p ∧ (p = [] ∨ isSafePath p = true) := by
  unfold takenLog at h
  split at h
  · split at h
    · cases h
    · rename_i hsafe
      obtain rfl := Option.some.inj h
      exact ⟨cleaned_cleaned _, isUnsafeLog_eq_false.1 (eq_false_of_ne_true hsafe) _ rfl⟩
  · cases h

/-- What is read of a value that was cleaned. -/
theorem readOptionalText_cleanedValue {log : Option Text}
    (h : (cleanedValue v).readOptionalText = .ok log) :
    v = .null ∧ log = none ∨ ∃ t, v = .text t ∧ log = some (cleaned t) := by
  cases v with
  | null => exact .inl ⟨rfl, (Except.ok.inj h).symm⟩
  | text t => exact .inr ⟨t, rfl, (Except.ok.inj h).symm⟩
  | _ => cases h

/-- What is read of a value that was cleaned and left as it is, is what is taken from it. -/
theorem eq_takenLog_of_kept {log : Option Text}
    (hkept : ∀ t, cleanedValue v = .text t → t = [] ∨ isSafePath t = true)
    (h : (cleanedValue v).readOptionalText = .ok log) : log = takenLog v := by
  obtain ⟨rfl, rfl⟩ | ⟨t, rfl, rfl⟩ := readOptionalText_cleanedValue h
  · rfl
  · have hsafe : isUnsafeLog (some (cleaned t)) = false :=
      isUnsafeLog_eq_false.2 fun p hp => hkept p (congrArg Value.text (Option.some.inj hp))
    rw [takenLog, hsafe, if_neg Bool.false_ne_true]

/-- Nothing is taken from a value that is dropped. -/
theorem takenLog_of_dropped (hfull : (cleanedValue v).isTruthy = true)
    (h : isUsableLog (cleanedValue v) = .ok false) : takenLog v = none := by
  cases v with
  | text t =>
    have hempty : (cleaned t).isEmpty = false := by simpa [cleanedValue, Value.isTruthy] using hfull
    have hsafe : isSafePath (cleaned t) = false := Except.ok.inj h
    have hunsafe : isUnsafeLog (some (cleaned t)) = true := by simp [isUnsafeLog, hempty, hsafe]
    rw [takenLog, hunsafe, if_pos rfl]
  | _ => rfl

/-- What is read after a value was cleaned and looked at is what is taken from it. -/
theorem eq_takenLog_of_checkLog {w : Value} {log : Option Text}
    (hv : fs.get? "log_file" = some (cleanedValue v)) (h : (checkLog fs).outcome = .ok gs)
    (hw : gs.get? "log_file" = some w) (hlog : w.readOptionalText = .ok log) :
    log = takenLog v := by
  obtain ⟨rfl, hempty⟩ | ⟨rfl, husable⟩ | ⟨rfl, hfull, hrefused⟩ := checkLog_eq_ok hv h
  · obtain rfl := Option.some.inj (hv.symm.trans hw)
    refine eq_takenLog_of_kept (fun t ht => .inl ?_) hlog
    rw [ht] at hempty
    simpa [Value.isTruthy] using hempty
  · obtain rfl := Option.some.inj (hv.symm.trans hw)
    obtain ⟨t, ht, hsafe⟩ := isSafePath_of_isUsableLog husable
    refine eq_takenLog_of_kept (fun u hu => .inr ?_) hlog
    obtain rfl := Value.text.inj (ht.symm.trans hu)
    exact hsafe
  · rw [Fields.get?_set_self] at hw
    obtain rfl := Option.some.inj hw
    exact (Except.ok.inj hlog).symm.trans (takenLog_of_dropped hfull hrefused).symm

theorem nodup_names_checkLog (hfs : fs.names.Nodup) (h : (checkLog fs).outcome = .ok gs) :
    gs.names.Nodup := by
  cases hv : fs.get? "log_file" with
  | none =>
    rw [checkLog_of_none hv] at h
    obtain rfl := Except.ok.inj h
    exact hfs
  | some v =>
    obtain ⟨rfl, -⟩ | ⟨rfl, -⟩ | ⟨rfl, -, -⟩ := checkLog_eq_ok hv h
    · exact hfs
    · exact hfs
    · exact Fields.nodup_names_set hfs

/-- No other field changes. -/
theorem get?_checkLog_of_ne {name : Text} (hname : name ≠ "log_file")
    (h : (checkLog fs).outcome = .ok gs) : gs.get? name = fs.get? name := by
  cases hv : fs.get? "log_file" with
  | none =>
    rw [checkLog_of_none hv] at h
    obtain rfl := Except.ok.inj h
    rfl
  | some v =>
    obtain ⟨rfl, -⟩ | ⟨rfl, -⟩ | ⟨rfl, -, -⟩ := checkLog_eq_ok hv h
    · rfl
    · rfl
    · exact Fields.get?_set_of_ne fs _ hname

theorem get?_checkLog (hv : fs.get? "log_file" = some v) (h : (checkLog fs).outcome = .ok gs) :
    ∃ w, gs.get? "log_file" = some w := by
  obtain ⟨rfl, -⟩ | ⟨rfl, -⟩ | ⟨rfl, -, -⟩ := checkLog_eq_ok hv h
  · exact ⟨v, hv⟩
  · exact ⟨v, hv⟩
  · exact ⟨.null, Fields.get?_set_self _ _ _⟩

/-! ## Loading -/

/-- The value that a document has for the path of the log. -/
def logEntry? (document : Fields) : Option Value :=
  match sectionOf ((document.get? sectionName).getD (.table [])) with
  | .ok a => a.fields.get? "log_file"
  | .error _ => none

/-- The fields that a document gives settings to be made of: those of its section, cleaned and with
the path of the log looked at.  All names of the section have to be texts. -/
def Yields (document gs : Fields) : Prop :=
  ∃ a, sectionOf ((document.get? sectionName).getD (.table [])) = .ok a ∧
    (checkLog (cleanFields a.fields)).outcome = .ok gs ∧ a.hasOtherNames = false

theorem Yields.unique {document gs' : Fields} (h : Yields document gs) (h' : Yields document gs') :
    gs = gs' := by
  obtain ⟨a, ha, hgs, -⟩ := h
  obtain ⟨a', ha', hgs', -⟩ := h'
  obtain rfl := Except.ok.inj (ha.symm.trans ha')
  exact Except.ok.inj (hgs.symm.trans hgs')

/-- What comes of a document that gives fields is what comes of the fields. -/
theorem Yields.outcome_eq {document : Fields} (h : Yields document gs) (env : Environment)
    (path : Text) :
    (ofDocument env path document).outcome = (ofFields env gs).mapError (inFile path) := by
  obtain ⟨a, ha, hgs, hnames⟩ := h
  unfold ofDocument
  rw [ha, Run.bind_ofExcept_ok, ← cleanFields, Run.bind_of_ok hgs]
  dsimp only
  rw [hnames, if_neg Bool.false_ne_true]
  cases ofFields env gs with
  | ok settings => rfl
  | error e => rfl

/-- To load a text that was read is to take the settings of its document. -/
theorem load_of_parse {t : Text} {document : Fields} (h : Toml.parse t = .ok document)
    (env : Environment) (path : Text) :
    load env path (some (.file (.text t))) = ofDocument env path document := by
  unfold load
  dsimp only
  rw [h]

/-- The settings of a document are made of the fields that it gives. -/
theorem ofDocument_eq_ok_iff {path : Text} {document : Fields} :
    (ofDocument env path document).outcome = .ok s ↔
      ∃ gs, Yields document gs ∧ ofFields env gs = .ok s := by
  constructor
  · intro h
    unfold ofDocument at h
    obtain ⟨a, ha, h⟩ := Run.bind_eq_ok_iff.1 h
    obtain ⟨gs, hgs, h⟩ := Run.bind_eq_ok_iff.1 h
    split at h
    · cases h
    · rename_i hnames
      refine ⟨gs, ⟨a, ha, hgs, eq_false_of_ne_true hnames⟩, ?_⟩
      split at h
      · rename_i settings hsettings
        obtain rfl := Except.ok.inj h
        exact hsettings
      · cases h
  · rintro ⟨gs, hyields, hs⟩
    rw [hyields.outcome_eq, hs]
    rfl

/-- The fields that a document gives have distinct names. -/
theorem Yields.nodup_names {t : Text} {document : Fields} (hparse : Toml.parse t = .ok document)
    (h : Yields document gs) : gs.names.Nodup := by
  obtain ⟨a, ha, hgs, -⟩ := h
  exact nodup_names_checkLog (nodup_names_cleanField _ (nodup_names_cleanField _
    (nodup_names_of_parse hparse ha))) hgs

theorem ofFields_of_withoutFile {reason : Text} (h : (withoutFile env reason).outcome = .ok s) :
    ofFields env [] = .ok s := by
  obtain ⟨-, -, h⟩ := Run.bind_eq_ok_iff.1 h
  exact h

/-- The fields that what stands at the path of the file gives settings to be made of.  A folder and
a file that is not TOML give none. -/
inductive FileGives : Option Entry → Fields → Prop
  /-- Nothing stands there. -/
  | absent : FileGives none []
  /-- It is a folder. -/
  | folder : FileGives (some .folder) []
  /-- The file is not TOML. -/
  | unread {t : Text} : Toml.parse t = .error .malformed → FileGives (some (.file (.text t))) []
  /-- The file is a document. -/
  | read {t : Text} {document gs : Fields} : Toml.parse t = .ok document → Yields document gs →
      FileGives (some (.file (.text t))) gs

theorem FileGives.unique {entry : Option Entry} {gs' : Fields} (h : FileGives entry gs)
    (h' : FileGives entry gs') : gs = gs' := by
  cases h with
  | absent | folder =>
    cases h'
    rfl
  | unread hparse =>
    cases h' with
    | unread _ => rfl
    | read hparse' _ => cases hparse.symm.trans hparse'
  | read hparse hyields =>
    cases h' with
    | unread hparse' => cases hparse.symm.trans hparse'
    | read hparse' hyields' =>
      obtain rfl := Except.ok.inj (hparse.symm.trans hparse')
      exact hyields.unique hyields'

theorem FileGives.nodup_names {entry : Option Entry} (h : FileGives entry gs) :
    gs.names.Nodup := by
  cases h with
  | absent | folder | unread _ => exact List.nodup_nil
  | read hparse hyields => exact hyields.nodup_names hparse

/-- Settings that were loaded were made of the fields that the file gives. -/
theorem fileGives_of_load {path : Text} {entry : Option Entry}
    (h : (load env path entry).outcome = .ok s) :
    ∃ given, FileGives entry given ∧ ofFields env given = .ok s := by
  unfold load at h
  split at h
  · exact ⟨[], .absent, h⟩
  · exact ⟨[], .folder, ofFields_of_withoutFile h⟩
  · cases h
  · split at h
    · rename_i document hparse
      obtain ⟨gs, hyields, hgs⟩ := ofDocument_eq_ok_iff.1 h
      exact ⟨gs, .read hparse hyields, hgs⟩
    · rename_i hparse
      exact ⟨[], .unread hparse, ofFields_of_withoutFile h⟩
    · cases h
    · cases h

theorem exists_ofFields_of_load {path : Text} {entry : Option Entry}
    (h : (load env path entry).outcome = .ok s) : ∃ given, ofFields env given = .ok s :=
  (fileGives_of_load h).imp fun _ => And.right

/-- The path of the log in settings that were loaded from a document which has a value for it is
what is taken from that value. -/
theorem logFile_of_load {path t : Text} {document : Fields} (hparse : Toml.parse t = .ok document)
    (hv : logEntry? document = some v)
    (h : (load env path (some (.file (.text t)))).outcome = .ok s) : s.logFile = takenLog v := by
  rw [load_of_parse hparse] at h
  obtain ⟨gs, hyields, hs⟩ := ofDocument_eq_ok_iff.1 h
  have hnames := hyields.nodup_names hparse
  obtain ⟨a, ha, hgs, -⟩ := hyields
  unfold logEntry? at hv
  rw [ha] at hv
  have hlog := (get?_log_cleanFields _).trans (congrArg (Option.map cleanedValue) hv)
  obtain ⟨w, hw⟩ := get?_checkLog hlog hgs
  exact eq_takenLog_of_checkLog hlog hgs hw (readOptionalText_of_ofFields hs hnames hw)

end CommitCheck.Settings
