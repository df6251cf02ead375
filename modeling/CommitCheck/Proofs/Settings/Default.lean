import CommitCheck.Proofs.Settings.Log
import CommitCheck.Proofs.Settings.Sources

/-!
# Settings that are not given

Where nothing is given, settings come from the environment, and from there they get into a file.
What an environment makes is clean, so what is saved of it is loaded as it is saved
(`load_saved`).

These are the defaults exactly if the environment says nothing else (`saved_eq_default_iff`): each
of its variables is not set, or it has the text of the default, or it is a path for the log that is
not saved.
-/

namespace CommitCheck.Settings

open Checked (Gives)

variable {env : Environment} {s : Settings}

/-- Settings of which none is given come from the environment. -/
theorem comesFrom_of_ofFields_nil (h : ofFields env [] = .ok s) : ComesFrom env [] s := by
  have hnames : (Fields.names []).Nodup := List.nodup_nil
  exact (comesFrom_iff hnames).2 (ofFields_eq_ok_iff.1 h).2

theorem apiUrl_eq_cleanedText? (h : ComesFrom env [] s) :
    s.apiUrl = (cleanedText? env "GIT_COMMIT_LINT_API_URL").getD defaultApiUrl := by
  have hurl := h.apiUrl
  cases hclean : cleanedText? env "GIT_COMMIT_LINT_API_URL" with
  | none =>
    rw [hclean] at hurl
    exact hurl
  | some t =>
    rw [hclean] at hurl
    exact (Except.ok.inj hurl).symm

theorem logFile_eq_cleanedText? (h : ComesFrom env [] s) :
    s.logFile = cleanedText? env "GIT_COMMIT_LINT_LOG_FILE" := by
  have hlog := h.logFile
  cases hclean : cleanedText? env "GIT_COMMIT_LINT_LOG_FILE" with
  | none =>
    rw [hclean] at hlog
    exact hlog
  | some t =>
    rw [hclean] at hlog
    exact (Except.ok.inj hlog).symm

/-- The text of a variable is clean. -/
theorem cleaned_of_cleanedText? {name t : Text} (h : cleanedText? env name = some t) :
    cleaned t = t := by
  obtain ⟨u, -, rfl⟩ := Option.map_eq_some_iff.1 h
  exact cleaned_cleaned u

/-- The texts in such settings are clean. -/
theorem cleaned_of_ofFields_nil (h : ofFields env [] = .ok s) :
    cleaned s.apiUrl = s.apiUrl ∧ ∀ p, s.logFile = some p → cleaned p = p := by
  have hsource := comesFrom_of_ofFields_nil h
  rw [apiUrl_eq_cleanedText? hsource, logFile_eq_cleanedText? hsource]
  refine ⟨?_, fun p => cleaned_of_cleanedText?⟩
  cases hclean : cleanedText? env "GIT_COMMIT_LINT_API_URL" with
  | none => decide
  | some t => exact cleaned_of_cleanedText? hclean

theorem logFile_of_savedLog {p : Text} (h : s.savedLog = some p) : s.logFile = some p := by
  unfold savedLog at h
  split at h
  · cases h
  · exact h

/-- What is saved of them is loaded as it was saved, where no variable is set. -/
theorem load_saved {env' : Environment} (h : ofFields env [] = .ok s)
    (henv : ∀ v ∈ settingVariables, env'.lookup v.name = none) (path : Text) :
    load env' path (some (.file (.text s.saved.fileText))) = ⟨[], .ok s.saved⟩ := by
  obtain ⟨hurl, hlog⟩ := cleaned_of_ofFields_nil h
  have hpositive : s.timeout.isPositive = true := isPositive_of_ofFields h
  exact load_fileText (environmentFields_eq_nil henv) path hpositive hurl fun p hp =>
    ⟨hlog p (logFile_of_savedLog hp), safe_of_savedLog hp⟩

/-! ## The defaults -/

/-- A setting is the default exactly if its variable is read as the default when it is set. -/
theorem gives_eq_default_iff {α : Type} {read : Value → Checked α} {default a : α}
    {take : Text → Value} {text : Option Text} (h : Gives read default (text.map take) a) :
    a = default ↔ ∀ t, text = some t → read (take t) = .ok default := by
  cases text with
  | none => exact iff_of_true h nofun
  | some t =>
    have hread : read (take t) = .ok a := h
    constructor
    · rintro rfl u hu
      obtain rfl := Option.some.inj hu
      exact hread
    · intro hall
      exact Except.ok.inj (hread.symm.trans (hall t rfl))

/-- The environment says nothing else than the defaults, as far as settings are saved. -/
structure SaysDefaults (env : Environment) : Prop where
  /-- The address is the default. -/
  apiUrl : ∀ t, cleanedText? env "GIT_COMMIT_LINT_API_URL" = some t → t = defaultApiUrl
  /-- The time to wait is read as the default. -/
  timeout : ∀ t, cleanedText? env "GIT_COMMIT_LINT_TIMEOUT" = some t →
    Value.readPositive (.text t) = .ok defaultTimeout
  /-- The switch for the log is off. -/
  alwaysLog : ∀ t, cleanedText? env "GIT_COMMIT_LINT_ALWAYS_LOG" = some t →
    lowercase t ∉ onWords
  /-- The path of the log is not saved. -/
  logFile : ∀ t, cleanedText? env "GIT_COMMIT_LINT_LOG_FILE" = some t → isUnsafeLog (some t) = true

/-- What is saved are the defaults exactly if each of the settings is. -/
theorem saved_eq_default_iff_fields : s.saved = Settings.default ↔ s.apiUrl = defaultApiUrl ∧
    s.timeout = defaultTimeout ∧ s.rules = .default ∧ s.alwaysLog = false ∧ s.savedLog = none := by
  obtain ⟨url, timeout, rules, always, log⟩ := s
  rw [saved, Settings.default, Settings.mk.injEq]

theorem savedLog_eq_none_iff :
    s.savedLog = none ↔ ∀ p, s.logFile = some p → isUnsafeLog (some p) = true := by
  unfold savedLog
  cases hlog : s.logFile with
  | none => exact iff_of_true rfl nofun
  | some p =>
    constructor
    · intro h q hq
      obtain rfl := Option.some.inj hq
      by_contra hsafe
      rw [if_neg hsafe] at h
      cases h
    · intro h
      exact if_pos (h p rfl)

/-- What is saved are the defaults exactly if the environment says nothing else. -/
theorem saved_eq_default_iff (h : ofFields env [] = .ok s) :
    s.saved = Settings.default ↔ SaysDefaults env := by
  have hsource := comesFrom_of_ofFields_nil h
  have hrules : s.rules = .default := by
    have hlevels : levelsGiven none = .ok (.ok s.rules) := levelsGiven_eq_ok_iff.2 hsource.rules
    exact (Except.ok.inj (Except.ok.inj hlevels)).symm
  have hurl := gives_eq_default_iff hsource.apiUrl
  have htimeout := gives_eq_default_iff hsource.timeout
  have halways := gives_eq_default_iff hsource.alwaysLog
  rw [saved_eq_default_iff_fields, savedLog_eq_none_iff, logFile_eq_cleanedText? hsource, hurl,
    htimeout, halways]
  constructor
  · rintro ⟨hurl, htimeout, -, halways, hlog⟩
    refine ⟨fun t ht => Except.ok.inj (hurl t ht), htimeout, fun t ht hon => ?_, hlog⟩
    have hoff : onWords.contains (lowercase t) = false := Except.ok.inj (halways t ht)
    rw [List.contains_iff_mem.2 hon] at hoff
    cases hoff
  · intro hquiet
    refine ⟨fun t ht => congrArg Except.ok (hquiet.apiUrl t ht), hquiet.timeout, hrules,
      fun t ht => congrArg Except.ok ?_, hquiet.logFile⟩
    exact eq_false_of_ne_true (mt List.contains_iff_mem.1 (hquiet.alwaysLog t ht))

end CommitCheck.Settings
