import CommitCheck.Proofs.Files
import CommitCheck.Proofs.Settings.Load
import CommitCheck.Proofs.Toml.Reader

/-!
# Settings that are saved and loaded

Saved settings are the text of two sections, all of whose values read back
(`isWritable_sections`), and the sections build one table (`enter_sections`).  What loading does
to such a table undoes what saving does to the settings (`ofDocument_document`): clean texts are
left as they are, a path for the log that may be saved may also be used, and the levels are given
by their numbers.  Hence loading gives the saved settings, without a warning, and to save these
again changes nothing (`load_save`).
-/

namespace CommitCheck.Settings

variable {s : Settings}

/-! ## Sections -/

/-- The fields of settings outside the section of the rules. -/
def plainFields (s : Settings) : Fields :=
  ("api_url", .text s.apiUrl) :: ("timeout", .float s.timeout) ::
    ("always_log", .bool s.alwaysLog) :: logField s.logFile

/-- The levels of the rules by their numbers. -/
def levelFields (s : Settings) : Fields := s.rules.toList.map fun (n, l) => (n, .int l.toNat)

/-- The section of settings as a table. -/
def sectionFields (s : Settings) : Fields :=
  s.plainFields ++ [(("rules" : Text), .table s.levelFields)]

/-- The document of settings. -/
def document (s : Settings) : Toml.Document where
  root := [(sectionName, .table s.sectionFields)]
  sections := [[sectionName, "rules"], [sectionName]]
  pending := []
  closed := []
  current := [sectionName, "rules"]

theorem writable_level (l : Level) : Toml.Writable (.int l.toNat) := by
  refine .int ?_
  cases l <;> decide

theorem writable_logField (p : Option Text) : ∀ f ∈ logField p, Toml.Writable f.2 := by
  cases p with
  | none => exact List.forall_mem_nil _
  | some p => exact List.forall_mem_singleton.2 (.text p)

/-- All values of the sections of settings read back. -/
theorem isWritable_sections (htimeout : s.timeout.isPositive = true) :
    ∀ t ∈ s.sections s.logFile, t.IsWritable := by
  refine List.forall_mem_cons.2 ⟨⟨List.cons_ne_nil _ _, ?_⟩, List.forall_mem_singleton.2
    ⟨List.cons_ne_nil _ _, List.forall_mem_map.2 fun r _ => writable_level r.2⟩⟩
  exact List.forall_mem_cons.2 ⟨.text _, List.forall_mem_cons.2 ⟨.float htimeout,
    List.forall_mem_cons.2 ⟨.bool _, writable_logField s.logFile⟩⟩⟩

/-- The sections of settings build their document. -/
theorem enter_sections (s : Settings) :
    (s.sections s.logFile).foldlM Toml.Section.enter .start = some s.document := by
  obtain ⟨url, timeout, rules, always, log⟩ := s
  cases log <;> rfl

/-- The text of the sections of settings reads back as their table. -/
theorem parse_render_sections (htimeout : s.timeout.isPositive = true) :
    Toml.parse (Toml.render (s.sections s.logFile)) = .ok s.document.root :=
  Toml.parse_render (isWritable_sections htimeout) (enter_sections s)

/-! ## Fields -/

theorem has_reserved (s : Settings) : s.sectionFields.has reserved = false := by
  obtain ⟨url, timeout, rules, always, log⟩ := s
  cases log <;> rfl

theorem get?_rules (s : Settings) :
    s.sectionFields.get? "rules" = some (.table s.levelFields) := by
  obtain ⟨url, timeout, rules, always, log⟩ := s
  cases log <;> rfl

theorem merge_sectionFields (s : Settings) :
    Fields.merge [] s.sectionFields = s.sectionFields := by
  obtain ⟨url, timeout, rules, always, log⟩ := s
  cases log <;> rfl

/-- Clean texts stay as they are. -/
theorem cleanField_sectionFields (hurl : cleaned s.apiUrl = s.apiUrl)
    (hlog : ∀ p, s.logFile = some p → cleaned p = p) :
    cleanField "log_file" (cleanField "api_url" s.sectionFields) = s.sectionFields := by
  obtain ⟨url, timeout, rules, always, log⟩ := s
  have hfirst : cleanField "api_url" (sectionFields ⟨url, timeout, rules, always, log⟩) =
      sectionFields ⟨cleaned url, timeout, rules, always, log⟩ := rfl
  rw [hfirst, hurl]
  cases log with
  | none => rfl
  | some p =>
    have hsecond : cleanField "log_file" (sectionFields ⟨url, timeout, rules, always, some p⟩) =
        sectionFields ⟨url, timeout, rules, always, some (cleaned p)⟩ := rfl
    rw [hsecond, hlog p rfl]

/-- A path for the log that may be saved may also be used. -/
theorem checkLog_sectionFields (hlog : ∀ p, s.logFile = some p → p = [] ∨ isSafePath p = true) :
    checkLog s.sectionFields = pure s.sectionFields := by
  obtain ⟨url, timeout, rules, always, log⟩ := s
  cases log with
  | none => rfl
  | some p =>
    obtain rfl | hsafe := hlog p rfl
    · rfl
    · cases p with
      | nil => rfl
      | cons c cs =>
        have husable : isUsableLog (.text (c :: cs)) = .ok true := congrArg Except.ok hsafe
        change (Run.ofExcept (isUsableLog (.text (c :: cs))) >>= _) = _
        rw [husable]
        rfl

/-- Every level is read from its number. -/
theorem readLevels_levelFields (s : Settings) : readLevels s.levelFields = .ok s.rules := by
  obtain ⟨url, timeout, ⟨header, issue⟩, always, log⟩ := s
  cases header <;> cases issue <;> rfl

theorem optional_log (s : Settings) :
    Checked.optional s.sectionFields "log_file" none Value.readOptionalText = .ok s.logFile := by
  obtain ⟨url, timeout, rules, always, log⟩ := s
  cases log <;> rfl

/-- Every field is read as it was written. -/
theorem assemble_sectionFields (htimeout : s.timeout.isPositive = true) :
    assemble s.sectionFields (.ok s.rules) = .ok s := by
  have hurl : Checked.optional s.sectionFields "api_url" defaultApiUrl Value.readText =
      .ok s.apiUrl := rfl
  have hread : Value.readPositive (.float s.timeout) = .ok s.timeout := if_pos htimeout
  have hpositive : Checked.optional s.sectionFields "timeout" defaultTimeout Value.readPositive =
      .ok s.timeout := Checked.optional_eq_ok_iff.2 hread
  have halways : Checked.optional s.sectionFields "always_log" false Value.readBool =
      .ok s.alwaysLog := rfl
  unfold assemble
  rw [hurl, hpositive, halways, optional_log]
  rfl

/-- The table of settings makes the settings, if the environment adds nothing. -/
theorem ofFields_sectionFields {env : Environment} (henv : environmentFields env = [])
    (htimeout : s.timeout.isPositive = true) : ofFields env s.sectionFields = .ok s := by
  have hnames : ruleFields (.table s.levelFields) = .ok (.ok s.levelFields) := rfl
  unfold ofFields
  rw [has_reserved, if_neg Bool.false_ne_true, henv, merge_sectionFields]
  dsimp only
  rw [get?_rules]
  dsimp only
  rw [hnames]
  dsimp only
  rw [readLevels_levelFields, finish, assemble_sectionFields htimeout]

/-! ## Saving and loading -/

/-- The text of a file in which settings were saved. -/
def fileText (s : Settings) : Text := Toml.render (s.sections s.logFile)

/-- To save settings is to write their file, if their path for the log is safe. -/
theorem save_of_safe (hlog : ∀ p, s.logFile = some p → p = [] ∨ isSafePath p = true) (path : Text) :
    s.save path false = Run.record (.wrote path s.fileText) := by
  unfold save
  rw [isUnsafeLog_eq_false.2 hlog]
  rfl

/-- To load the table of settings gives the settings, and no warning. -/
theorem ofDocument_document {env : Environment} (henv : environmentFields env = []) (path : Text)
    (htimeout : s.timeout.isPositive = true) (hurl : cleaned s.apiUrl = s.apiUrl)
    (hlog : ∀ p, s.logFile = some p → cleaned p = p ∧ (p = [] ∨ isSafePath p = true)) :
    ofDocument env path s.document.root = pure s := by
  have hsection : Run.ofExcept (sectionOf ((s.document.root.get? sectionName).getD (.table []))) =
      pure ⟨s.sectionFields, false⟩ := rfl
  unfold ofDocument
  rw [hsection]
  change (checkLog (cleanField "log_file" (cleanField "api_url" s.sectionFields)) >>= _) = _
  rw [cleanField_sectionFields hurl fun p hp => (hlog p hp).1,
    checkLog_sectionFields fun p hp => (hlog p hp).2]
  rw [Run.pure_eq, Run.bind_ok]
  dsimp only
  rw [ofFields_sectionFields henv htimeout]
  rfl

/-- To load the file of settings gives the settings, and no warning. -/
theorem load_fileText {env : Environment} (henv : environmentFields env = []) (path : Text)
    (htimeout : s.timeout.isPositive = true) (hurl : cleaned s.apiUrl = s.apiUrl)
    (hlog : ∀ p, s.logFile = some p → cleaned p = p ∧ (p = [] ∨ isSafePath p = true)) :
    load env path (some (.file (.text s.fileText))) = pure s := by
  rw [fileText, load_of_parse (parse_render_sections htimeout)]
  exact ofDocument_document henv path htimeout hurl hlog

/-- Whether a folder stands at a path. -/
def isFolderAt (fs : Files) (path : Text) : Bool := fs.find? (.ofText path) == some .folder

theorem isFolderAt_of_canWrite {fs : Files} {path : Text} (h : fs.CanWrite (.ofText path)) :
    isFolderAt fs path = false := beq_false_of_ne h.find?_ne_folder

/-- Saving and loading is lossless.  Let the texts of settings be clean, their path for the log
be empty or safe if there is one, and the environment set none of the variables.  Whatever is in
the file before, saving the settings and loading them again gives the settings in every field
without a warning, and to save what was loaded writes the same text and changes no file.

The time to wait for the issue tracker is greater than zero in all settings that can be made
(`isPositive_of_ofFields`). -/
theorem load_save {env : Environment} {fs : Files} {path : Text} {s : Settings}
    (hwrite : fs.CanWrite (.ofText path))
    (henv : ∀ v ∈ settingVariables, env.lookup v.name = none)
    (htimeout : s.timeout.isPositive = true) (hurl : cleaned s.apiUrl = s.apiUrl)
    (hlog : ∀ p, s.logFile = some p → cleaned p = p ∧ (p = [] ∨ isSafePath p = true)) :
    ∃ text, s.save path (isFolderAt fs path) = ⟨[.wrote path text], .ok ()⟩ ∧
      let files := fs.replay [.wrote path text]
      ∃ loaded, load env path (files.find? (.ofText path)) = ⟨[], .ok loaded⟩ ∧ loaded = s ∧
        loaded.save path (isFolderAt files path) = ⟨[.wrote path text], .ok ()⟩ ∧
        files.replay [.wrote path text] = files := by
  have hsafe : ∀ p, s.logFile = some p → p = [] ∨ isSafePath p = true := fun p hp => (hlog p hp).2
  have hfound := Files.find?_after_wrote hwrite s.fileText
  have hfile : isFolderAt (fs.after (.wrote path s.fileText)) path = false := by
    rw [isFolderAt, hfound]
    rfl
  refine ⟨s.fileText, ?_, s, ?_, rfl, ?_, Files.after_wrote_wrote hwrite s.fileText⟩
  · rw [isFolderAt_of_canWrite hwrite]
    exact save_of_safe hsafe path
  · change load env path ((fs.after (.wrote path s.fileText)).find? (.ofText path)) = _
    rw [hfound]
    exact load_fileText (environmentFields_eq_nil henv) path htimeout hurl hlog
  · change s.save path (isFolderAt (fs.after (.wrote path s.fileText)) path) = _
    rw [hfile]
    exact save_of_safe hsafe path

/-- Settings with a time without end, quotes in their texts and a log of their own. -/
def quotedSettings : Settings where
  apiUrl := "https://tracker.example/\"a\nb\""
  timeout := .infinite false
  rules := ⟨.warning, .disabled⟩
  alwaysLog := true
  logFile := some "logs/lint.log"

/-- A working folder with a file of settings that is not text. -/
def garbledFiles : Files := ⟨["repo"], [(["repo", Settings.fileName], .file .binary)]⟩

theorem load_save_quoted :
    ∃ text, quotedSettings.save fileName (isFolderAt garbledFiles fileName) =
        ⟨[.wrote fileName text], .ok ()⟩ ∧
      let files := garbledFiles.replay [.wrote fileName text]
      ∃ loaded, load [("PATH", "/bin")] fileName (files.find? (.ofText fileName)) =
          ⟨[], .ok loaded⟩ ∧ loaded = quotedSettings ∧
        loaded.save fileName (isFolderAt files fileName) = ⟨[.wrote fileName text], .ok ()⟩ ∧
        files.replay [.wrote fileName text] = files :=
  load_save ⟨["repo", fileName], by decide, by decide⟩ (by decide) rfl (by decide) (by decide)

end CommitCheck.Settings
