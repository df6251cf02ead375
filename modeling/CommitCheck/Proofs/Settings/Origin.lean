import CommitCheck.Proofs.Settings.Precedence
import CommitCheck.Proofs.Settings.Sources

/-!
# The origin of each setting

Whether a setting is that of the file, that of a variable or the default is decided for each setting
alone.  A value in the file counts first, unless it is a path for the log that was dropped; then
there is the default, whatever the variable says.  Without a value in the file the variable counts
(`TakenFrom`).  The levels of the rules are settings of their own, and no variable is for them.

Settings that were loaded have one origin for each of them and no other one
(`existsUnique_origins_of_load`).
-/

namespace CommitCheck.Settings

open Checked (Gives)

variable {env : Environment} {given : Fields} {s : Settings}

/-- What a setting was taken from. -/
inductive Origin where
  /-- The section of the file. -/
  | file
  /-- The variable for it. -/
  | environment
  /-- Neither of them. -/
  | default
deriving DecidableEq

/-- A setting was taken from there, by the value that the file gives for it and the value of its
variable. -/
inductive TakenFrom {α : Type} (read : Value → Checked α) (default : α) :
    Option Value → Option Value → Origin → α → Prop
  /-- It is what is read of the value in the file. -/
  | file {v : Value} {w : Option Value} {a : α} : v ≠ .null → read v = .ok a →
      TakenFrom read default (some v) w .file a
  /-- It is what is read of the variable. -/
  | environment {v : Value} {a : α} : read v = .ok a →
      TakenFrom read default none (some v) .environment a
  /-- The value in the file was dropped. -/
  | dropped {w : Option Value} : TakenFrom read default (some .null) w .default default
  /-- There is no value. -/
  | absent : TakenFrom read default none none .default default

/-- What a value comes to was taken from somewhere, if null is read as the default at most. -/
theorem exists_takenFrom {α : Type} {read : Value → Checked α} {default a : α}
    {v w : Option Value} (hnull : ∀ b, read .null = .ok b → b = default)
    (h : Gives read default (v.or w) a) : ∃ origin, TakenFrom read default v w origin a := by
  match v, w, h with
  | some v, _, h =>
    by_cases hv : v = .null
    · subst hv
      obtain rfl := hnull a h
      exact ⟨.default, .dropped⟩
    · exact ⟨.file, .file hv h⟩
  | none, some w, h => exact ⟨.environment, .environment h⟩
  | none, none, h =>
    obtain rfl : a = default := h
    exact ⟨.default, .absent⟩

theorem TakenFrom.unique {α : Type} {read : Value → Checked α} {default a : α}
    {v w : Option Value} {o o' : Origin} (h : TakenFrom read default v w o a)
    (h' : TakenFrom read default v w o' a) : o = o' := by
  cases h with
  | file hne _ =>
    cases h' with
    | file _ _ => rfl
    | dropped => exact absurd rfl hne
  | environment _ =>
    cases h'
    rfl
  | dropped =>
    cases h' with
    | file hne _ => exact absurd rfl hne
    | dropped => rfl
  | absent =>
    cases h'
    rfl

/-- The origin of each setting. -/
@[ext]
structure Origins where
  /-- The origin of the address of the issue tracker. -/
  apiUrl : Origin
  /-- That of the seconds to wait for it. -/
  timeout : Origin
  /-- That of the switch for the log. -/
  alwaysLog : Origin
  /-- That of the path of the log. -/
  logFile : Origin
  /-- That of the level of the header format. -/
  headerFormat : Origin
  /-- That of the level of the issue reference. -/
  issueReference : Origin

/-- The origins by the names of the settings, in order. -/
def Origins.toList (o : Origins) : List (Text × Origin) := [
  ("api_url", o.apiUrl), ("timeout", o.timeout), ("always_log", o.alwaysLog),
  ("log_file", o.logFile), ("rules.".toList ++ HeaderFormat.name, o.headerFormat),
  ("rules.".toList ++ IssueReference.name, o.issueReference)]

/-- The value that given values have for the level of a rule. -/
def levelValue? (given : Fields) (rule : Text) : Option Value :=
  match given.get? "rules" with
  | some (.table rs) => Fields.get? rs rule
  | _ => none

/-- Each setting was taken from its origin. -/
structure IsTakenFrom (env : Environment) (given : Fields) (s : Settings) (o : Origins) : Prop where
  /-- The address of the issue tracker. -/
  apiUrl : TakenFrom Value.readText defaultApiUrl (given.get? "api_url")
    ((cleanedText? env "GIT_COMMIT_LINT_API_URL").map .text) o.apiUrl s.apiUrl
  /-- The seconds to wait for it. -/
  timeout : TakenFrom Value.readPositive defaultTimeout (given.get? "timeout")
    ((cleanedText? env "GIT_COMMIT_LINT_TIMEOUT").map .text) o.timeout s.timeout
  /-- The switch for the log. -/
  alwaysLog : TakenFrom Value.readBool false (given.get? "always_log")
    ((cleanedText? env "GIT_COMMIT_LINT_ALWAYS_LOG").map fun t =>
      .bool (onWords.contains (lowercase t))) o.alwaysLog s.alwaysLog
  /-- The path of the log. -/
  logFile : TakenFrom Value.readOptionalText none (given.get? "log_file")
    ((cleanedText? env "GIT_COMMIT_LINT_LOG_FILE").map .text) o.logFile s.logFile
  /-- The level of the header format. -/
  headerFormat : TakenFrom Value.readLevel .error (levelValue? given HeaderFormat.name) none
    o.headerFormat s.rules.headerFormat
  /-- The level of the issue reference. -/
  issueReference : TakenFrom Value.readLevel .error (levelValue? given IssueReference.name) none
    o.issueReference s.rules.issueReference

theorem IsTakenFrom.unique {o o' : Origins} (h : IsTakenFrom env given s o)
    (h' : IsTakenFrom env given s o') : o = o' :=
  Origins.ext (h.apiUrl.unique h'.apiUrl) (h.timeout.unique h'.timeout)
    (h.alwaysLog.unique h'.alwaysLog) (h.logFile.unique h'.logFile)
    (h.headerFormat.unique h'.headerFormat) (h.issueReference.unique h'.issueReference)

/-- A level is what is read of the value for it. -/
theorem gives_level (hrules : LevelsFrom (given.get? "rules") s.rules) :
    Gives Value.readLevel .error (levelValue? given HeaderFormat.name) s.rules.headerFormat ∧
      Gives Value.readLevel .error (levelValue? given IssueReference.name)
        s.rules.issueReference := by
  unfold levelValue?
  cases hvalue : given.get? "rules" with
  | none =>
    rw [hvalue] at hrules
    generalize s.rules = levels at hrules
    cases hrules
    exact ⟨rfl, rfl⟩
  | some v =>
    rw [hvalue] at hrules
    generalize s.rules = levels at hrules
    cases hrules with
    | null => exact ⟨rfl, rfl⟩
    | table _ hheader hissue => exact ⟨hheader, hissue⟩

theorem ComesFrom.exists_origins (h : ComesFrom env given s) : ∃ o, IsTakenFrom env given s o := by
  have hnull : ∀ log, Value.readOptionalText .null = .ok log → log = none :=
    fun log hlog => (Except.ok.inj hlog).symm
  obtain ⟨hheader, hissue⟩ := gives_level h.rules
  rw [← Option.or_none (o := levelValue? given HeaderFormat.name)] at hheader
  rw [← Option.or_none (o := levelValue? given IssueReference.name)] at hissue
  obtain ⟨url, hurl⟩ := exists_takenFrom nofun h.apiUrl
  obtain ⟨timeout, htimeout⟩ := exists_takenFrom nofun h.timeout
  obtain ⟨always, halways⟩ := exists_takenFrom nofun h.alwaysLog
  obtain ⟨log, hlog⟩ := exists_takenFrom hnull h.logFile
  obtain ⟨header, hheader⟩ := exists_takenFrom nofun hheader
  obtain ⟨issue, hissue⟩ := exists_takenFrom nofun hissue
  exact ⟨⟨url, timeout, always, log, header, issue⟩, hurl, htimeout, halways, hlog, hheader, hissue⟩

/-- Each of the settings that were loaded was taken from its origin, by the environment and what
stands at the path of the file. -/
def HasOrigins (env : Environment) (entry : Option Entry) (s : Settings) (o : Origins) : Prop :=
  ∃ given, FileGives entry given ∧ IsTakenFrom env given s o

theorem existsUnique_origins_of_load {path : Text} {entry : Option Entry}
    (h : (load env path entry).outcome = .ok s) : ∃! o, HasOrigins env entry s o := by
  obtain ⟨given, hgives, hs⟩ := fileGives_of_load h
  obtain ⟨-, hread⟩ := ofFields_eq_ok_iff.1 hs
  obtain ⟨o, ho⟩ := ((comesFrom_iff hgives.nodup_names).2 hread).exists_origins
  refine ⟨o, ⟨given, hgives, ho⟩, ?_⟩
  rintro o' ⟨given', hgives', ho'⟩
  obtain rfl := hgives.unique hgives'
  exact ho'.unique ho

end CommitCheck.Settings
