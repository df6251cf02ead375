import CommitCheck.Proofs.Settings.Environment
import CommitCheck.Proofs.Settings.Load
import CommitCheck.Proofs.Toml.Reader

/-!
# The file before the environment

A setting can be given in the file and by a variable of the environment.  The fields of the file
are set over those of the environment (`get?_fieldsOf`), so a variable counts only for a setting
that is not in the file.

`load_prefers_file` says this of all settings at once: a file and an environment each of which
makes settings by itself make them together too, and each setting is that of the file if the file
has it, and else that of the environment.  This follows the environment wherever a variable is set
only where the file says the same, and it may say something else (`not_forall_variables_count`).
-/

namespace CommitCheck.Settings

open Checked (Gives)

variable {env : Environment} {document gs : Fields} {path t : Text} {s s₀ s₁ : Settings}

/-! ## Settings of a file -/

/-- Whether a document has a value for a setting. -/
def hasEntry (document : Fields) (name : Text) : Bool :=
  match sectionOf ((document.get? sectionName).getD (.table [])) with
  | .ok a => a.fields.has name
  | .error _ => false

theorem has_cleanField (name : Text) (fs : Fields) (other : Text) :
    (cleanField name fs).has other = fs.has other := by
  unfold cleanField
  split
  · rename_i h
    exact Fields.has_set_of_has (by rw [Fields.has_eq_isSome, h, Option.isSome_some]) _ other
  · rfl

theorem has_checkLog {fs : Fields} (h : (checkLog fs).outcome = .ok gs) (other : Text) :
    gs.has other = fs.has other := by
  cases hv : fs.get? "log_file" with
  | none =>
    rw [checkLog_of_none hv] at h
    obtain rfl := Except.ok.inj h
    rfl
  | some v =>
    obtain ⟨rfl, -⟩ | ⟨rfl, -⟩ | ⟨rfl, -, -⟩ := checkLog_eq_ok hv h
    · rfl
    · rfl
    · exact Fields.has_set_of_has (by rw [Fields.has_eq_isSome, hv, Option.isSome_some]) _ other

/-- Cleaning and looking at the path of the log adds no setting and drops none. -/
theorem Yields.has_eq (h : Yields document gs) (name : Text) :
    gs.has name = hasEntry document name := by
  obtain ⟨a, ha, hgs, -⟩ := h
  rw [has_checkLog hgs, cleanFields, has_cleanField, has_cleanField, hasEntry, ha]

/-! ## Two sources -/

/-- Without variables there are only the given values. -/
theorem get?_fieldsOf_nil (hgs : gs.names.Nodup) (name : Text) :
    (fieldsOf [] gs).get? name = gs.get? name :=
  (Fields.get?_merge_eq_or _ hgs name).trans (Option.or_none ..)

/-- A value that is given counts before that of the environment. -/
theorem get?_fieldsOf (env : Environment) (hgs : gs.names.Nodup) (name : Text) :
    (fieldsOf env gs).get? name =
      if gs.has name then (fieldsOf [] gs).get? name else (fieldsOf env []).get? name := by
  have henv : (fieldsOf env []).get? name = (environmentFields env).get? name := rfl
  rw [get?_fieldsOf_nil hgs, henv, fieldsOf, Fields.get?_merge_eq_or _ hgs, Fields.has_eq_isSome]
  cases gs.get? name <;> rfl

/-- Settings of which each is taken from the first ones where a test on its name says so, and else
from the second ones.  The levels of the rules are those of the first. -/
def choose (isFirst : Text → Bool) (s₀ s₁ : Settings) : Settings where
  apiUrl := if isFirst "api_url" then s₀.apiUrl else s₁.apiUrl
  timeout := if isFirst "timeout" then s₀.timeout else s₁.timeout
  rules := s₀.rules
  alwaysLog := if isFirst "always_log" then s₀.alwaysLog else s₁.alwaysLog
  logFile := if isFirst "log_file" then s₀.logFile else s₁.logFile

/-- Settings that are chosen from two are read from values that are chosen in the same way. -/
theorem IsReadFrom.choose {fs fs₀ fs₁ : Fields} {isFirst : Text → Bool}
    (hget : ∀ name, fs.get? name = if isFirst name then fs₀.get? name else fs₁.get? name)
    (h₀ : IsReadFrom fs₀ s₀) (h₁ : IsReadFrom fs₁ s₁) : IsReadFrom fs (choose isFirst s₀ s₁) where
  apiUrl := by
    unfold Settings.choose
    rw [hget]
    cases isFirst "api_url" with
    | true => exact h₀.apiUrl
    | false => exact h₁.apiUrl
  timeout := by
    unfold Settings.choose
    rw [hget]
    cases isFirst "timeout" with
    | true => exact h₀.timeout
    | false => exact h₁.timeout
  alwaysLog := by
    unfold Settings.choose
    rw [hget]
    cases isFirst "always_log" with
    | true => exact h₀.alwaysLog
    | false => exact h₁.alwaysLog
  logFile := by
    unfold Settings.choose
    rw [hget]
    cases isFirst "log_file" with
    | true => exact h₀.logFile
    | false => exact h₁.logFile

/-- Settings are the same where a test on their names says so, the levels of the rules apart. -/
structure SameWhere (isMeant : Text → Bool) (s₀ s₁ : Settings) : Prop where
  /-- The address of the issue tracker. -/
  apiUrl : isMeant "api_url" = true → s₀.apiUrl = s₁.apiUrl
  /-- The seconds to wait for it. -/
  timeout : isMeant "timeout" = true → s₀.timeout = s₁.timeout
  /-- Whether to keep a log under a name made of the time. -/
  alwaysLog : isMeant "always_log" = true → s₀.alwaysLog = s₁.alwaysLog
  /-- The path of the log. -/
  logFile : isMeant "log_file" = true → s₀.logFile = s₁.logFile

/-- It makes no difference which of two sources counts first, if they agree where both have a
value. -/
theorem choice_eq_iff {α : Type} {read : Value → Checked α} {default a₀ a₁ : α} {fs₀ fs₁ : Fields}
    {name : Text} (h₀ : Gives read default (fs₀.get? name) a₀)
    (h₁ : Gives read default (fs₁.get? name) a₁) :
    ((if fs₀.has name then a₀ else a₁) = if !fs₁.has name then a₀ else a₁) ↔
      ((fs₀.has name && fs₁.has name) = true → a₀ = a₁) := by
  cases hv₀ : fs₀.get? name with
  | none =>
    have hno : fs₀.has name = false := congrArg Option.isSome hv₀
    cases hv₁ : fs₁.get? name with
    | none =>
      -- what neither source has is the default in both
      have hno' : fs₁.has name = false := congrArg Option.isSome hv₁
      rw [hv₀] at h₀
      rw [hv₁] at h₁
      obtain rfl : a₀ = default := h₀
      obtain rfl : a₁ = a₀ := h₁
      simp
    | some v₁ =>
      have hyes : fs₁.has name = true := congrArg Option.isSome hv₁
      simp [hno, hyes]
  | some v₀ =>
    have hyes : fs₀.has name = true := congrArg Option.isSome hv₀
    cases fs₁.has name <;> simp [hyes]

/-- To let one source count first or the other comes to the same exactly if they agree where both
have a value. -/
theorem choose_eq_choose_iff {fs₀ fs₁ : Fields} (h₀ : IsReadFrom fs₀ s₀) (h₁ : IsReadFrom fs₁ s₁) :
    choose fs₀.has s₀ s₁ = choose (fun name => !fs₁.has name) s₀ s₁ ↔
      SameWhere (fun name => fs₀.has name && fs₁.has name) s₀ s₁ := by
  simp only [choose, Settings.mk.injEq, true_and]
  rw [choice_eq_iff h₀.apiUrl h₁.apiUrl, choice_eq_iff h₀.timeout h₁.timeout,
    choice_eq_iff h₀.alwaysLog h₁.alwaysLog, choice_eq_iff h₀.logFile h₁.logFile]
  constructor
  · rintro ⟨hurl, htimeout, halways, hlog⟩
    exact ⟨hurl, htimeout, halways, hlog⟩
  · rintro ⟨hurl, htimeout, halways, hlog⟩
    exact ⟨hurl, htimeout, halways, hlog⟩

/-- Fields and an environment each of which makes settings make them together, and each setting is
the given one if it is given. -/
theorem ofFields_choose (hgs : gs.names.Nodup) (hgiven : ofFields [] gs = .ok s₀)
    (henv : ofFields env [] = .ok s₁) : ofFields env gs = .ok (choose gs.has s₀ s₁) := by
  obtain ⟨hreserved, h₀, hlevels⟩ := ofFields_eq_ok_iff.1 hgiven
  obtain ⟨-, h₁, -⟩ := ofFields_eq_ok_iff.1 henv
  refine ofFields_eq_ok_iff.2 ⟨hreserved, h₀.choose (get?_fieldsOf env hgs) h₁, ?_⟩
  rw [get?_rules_fieldsOf _ hgs] at hlevels ⊢
  exact hlevels

/-- What is in the file counts before the environment.  Let a file make settings where no variable
is set, and let an environment make settings where there is no file.  Then the file makes settings
in that environment.  Each of them is that of the file if the file has a value for it, whether a
variable is set for it or not, and else that of the environment.  So the settings follow the
environment wherever a variable is set exactly if the two agree where both have a value. -/
theorem load_prefers_file (hparse : Toml.parse t = .ok document)
    (hfile : (load [] path (some (.file (.text t)))).outcome = .ok s₀)
    (henv : (load env path none).outcome = .ok s₁) :
    (load env path (some (.file (.text t)))).outcome = .ok (choose (hasEntry document) s₀ s₁) ∧
      ((load env path (some (.file (.text t)))).outcome =
          .ok (choose (fun name => !(environmentFields env).has name) s₀ s₁) ↔
        SameWhere (fun name => hasEntry document name && (environmentFields env).has name)
          s₀ s₁) := by
  rw [load_of_parse hparse] at hfile ⊢
  obtain ⟨gs, hyields, hgs⟩ := ofDocument_eq_ok_iff.1 hfile
  have hnames := hyields.nodup_names hparse
  have hload : (ofDocument env path document).outcome = .ok (choose gs.has s₀ s₁) :=
    ofDocument_eq_ok_iff.2 ⟨gs, hyields, ofFields_choose hnames hgs henv⟩
  have hgiven : (fieldsOf [] gs).has = gs.has :=
    funext fun name => congrArg Option.isSome (get?_fieldsOf_nil hnames name)
  obtain ⟨-, h₀, -⟩ := ofFields_eq_ok_iff.1 hgs
  have hmade : ofFields env [] = .ok s₁ := henv
  obtain ⟨-, h₁, -⟩ := ofFields_eq_ok_iff.1 hmade
  have hiff := choose_eq_choose_iff h₀ h₁
  rw [hgiven] at hiff
  rw [← funext hyields.has_eq, hload]
  refine ⟨rfl, ?_⟩
  rw [Except.ok.injEq]
  exact hiff

/-! ## A variable that does not count -/

/-- A section with a time to wait. -/
def waitingSection : Toml.Section := ⟨[sectionName], [("timeout", .float (.ofInt 4))]⟩

/-- A document with that section. -/
def waitingDocument : Fields := [(sectionName, .table [("timeout", .float (.ofInt 4))])]

/-- The file of that document. -/
def waitingFile : Text := Toml.render [waitingSection]

/-- An environment that gives another time to wait, and more. -/
def impatient : Environment := [("GIT_COMMIT_LINT_TIMEOUT", "2.5"),
  ("GIT_COMMIT_LINT_API_URL", " https://tracker.example "), ("GIT_COMMIT_LINT_ALWAYS_LOG", "Yes")]

theorem parse_waitingFile : Toml.parse waitingFile = .ok waitingDocument := by
  have htimeout : (Binary64.ofInt 4).isPositive = true := by decide +kernel
  refine Toml.parse_render (d := ⟨waitingDocument, [[sectionName]], [], [], [sectionName]⟩)
    (List.forall_mem_singleton.2 ⟨List.cons_ne_nil _ _, ?_⟩) rfl
  exact List.forall_mem_singleton.2 (.float htimeout)

/-- The settings of that file where no variable is set. -/
theorem outcome_waitingFile :
    (load [] fileName (some (.file (.text waitingFile)))).outcome =
      .ok { Settings.default with timeout := .ofInt 4 } := by
  have hdocument : (ofDocument [] fileName waitingDocument).outcome =
      .ok { Settings.default with timeout := .ofInt 4 } := by decide +kernel
  exact (congrArg Run.outcome (load_of_parse parse_waitingFile [] fileName)).trans hdocument

/-- The settings of that environment where there is no file. -/
theorem outcome_impatient :
    (load impatient fileName none).outcome =
      .ok ⟨"https://tracker.example", .ofDecimal false 25 (-1), .default, true, none⟩ := by
  decide +kernel

theorem load_prefers_file_waiting :
    (load impatient fileName (some (.file (.text waitingFile)))).outcome =
      .ok ⟨"https://tracker.example", .ofInt 4, .default, true, none⟩ := by
  rw [(load_prefers_file parse_waitingFile outcome_waitingFile outcome_impatient).1]
  decide +kernel

/-- A file and an environment make settings that do not follow the environment wherever it sets a
variable. -/
theorem not_forall_variables_count :
    ¬∀ (env : Environment) (path t : Text) (document : Fields) (s₀ s₁ : Settings),
      Toml.parse t = .ok document →
      (load [] path (some (.file (.text t)))).outcome = .ok s₀ →
      (load env path none).outcome = .ok s₁ →
      (load env path (some (.file (.text t)))).outcome =
        .ok (choose (fun name => !(environmentFields env).has name) s₀ s₁) := by
  intro h
  have hcounts := h _ _ _ _ _ _ parse_waitingFile outcome_waitingFile outcome_impatient
  rw [load_of_parse parse_waitingFile] at hcounts
  exact absurd hcounts (by decide +kernel)

end CommitCheck.Settings
