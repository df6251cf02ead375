import CommitCheck.Proofs.Run
import CommitCheck.Proofs.Settings.Environment

/-!
# Settings that can be made

Settings are made of fields, the given ones over those of the environment (`fieldsOf`).  Each
setting is what is read of the value of its field, or the default if the field has none
(`IsReadFrom`), and settings are made exactly if each of them can be read, the value for the rules
is one that gives levels, and no name is given that is reserved (`ofFields_eq_ok_iff`).

So whatever they are made of, the time to wait for the issue tracker is greater than zero
(`isPositive_of_ofFields`), and the path of the log is what was given for it
(`readOptionalText_of_ofFields`).
-/

namespace CommitCheck

namespace Checked

variable {α β γ : Type} {fs : Fields} {name : Text} {default a : α} {read : Value → Checked α}

theorem both_eq_ok_iff {f : α → β → γ} {x : Checked α} {y : Checked β} {c : γ} :
    both f x y = .ok c ↔ ∃ a b, x = .ok a ∧ y = .ok b ∧ f a b = c := by
  cases x <;> cases y <;> simp [both]

theorem within_eq_ok_iff {step : Step} {x : Checked α} : within step x = .ok a ↔ x = .ok a := by
  cases x <;> simp [within]

/-- What a value comes to where one is given, and the default where none is. -/
def Gives (read : Value → Checked α) (default : α) : Option Value → α → Prop
  | none, a => a = default
  | some v, a => read v = .ok a

/-- What is read of a name depends on its value. -/
theorem optional_congr {gs : Fields} (h : fs.get? name = gs.get? name) :
    optional fs name default read = optional gs name default read := by
  unfold optional
  rw [h]

theorem optional_eq_ok_iff :
    optional fs name default read = .ok a ↔ Gives read default (fs.get? name) a := by
  unfold optional
  cases fs.get? name with
  | none => exact ⟨fun h => (Except.ok.inj h).symm, fun h => congrArg Except.ok (Eq.symm h)⟩
  | some v => exact within_eq_ok_iff

/-- What holds of the default and of all that is read holds of what a value comes to. -/
theorem Gives.of {P : α → Prop} {v : Option Value} (h : Gives read default v a)
    (hdefault : P default) (hread : ∀ v a, read v = .ok a → P a) : P a := by
  cases v with
  | none =>
    obtain rfl : a = default := h
    exact hdefault
  | some v => exact hread v a h

end Checked

namespace Settings

open Checked (both_eq_ok_iff within_eq_ok_iff optional_eq_ok_iff Gives)

variable {env : Environment} {fs given : Fields} {s : Settings}

/-! ## The fields that settings are made of -/

/-- The fields that settings are made of: those that are given, over those of the environment. -/
def fieldsOf (env : Environment) (given : Fields) : Fields := (environmentFields env).merge given

/-- No variable gives levels to the rules. -/
theorem get?_rules_fieldsOf (env : Environment) (h : given.names.Nodup) :
    (fieldsOf env given).get? "rules" = given.get? "rules" := by
  rw [fieldsOf, Fields.get?_merge_eq_or _ h, get?_environmentFields_of_not_mem (by decide),
    Option.or_none]

/-- Settings are what is read of fields, the levels of the rules apart. -/
structure IsReadFrom (fs : Fields) (s : Settings) : Prop where
  /-- The address of the issue tracker. -/
  apiUrl : Gives Value.readText defaultApiUrl (fs.get? "api_url") s.apiUrl
  /-- The seconds to wait for it. -/
  timeout : Gives Value.readPositive defaultTimeout (fs.get? "timeout") s.timeout
  /-- Whether to keep a log under a name made of the time. -/
  alwaysLog : Gives Value.readBool false (fs.get? "always_log") s.alwaysLog
  /-- The path of the log. -/
  logFile : Gives Value.readOptionalText none (fs.get? "log_file") s.logFile

theorem assemble_eq_ok_iff {rules : Checked RuleLevels} :
    assemble fs rules = .ok s ↔ IsReadFrom fs s ∧ rules = .ok s.rules := by
  unfold assemble
  simp only [both_eq_ok_iff, within_eq_ok_iff, optional_eq_ok_iff]
  constructor
  · rintro ⟨f, g, ⟨k, r, ⟨url, timeout, hurl, htimeout, rfl⟩, hrules, rfl⟩,
      ⟨always, log, halways, hlog, rfl⟩, rfl⟩
    exact ⟨⟨hurl, htimeout, halways, hlog⟩, hrules⟩
  · rintro ⟨⟨hurl, htimeout, halways, hlog⟩, hrules⟩
    exact ⟨_, _, ⟨_, _, ⟨_, _, hurl, htimeout, rfl⟩, hrules, rfl⟩, ⟨_, _, halways, hlog, rfl⟩, rfl⟩

theorem finish_eq_ok_iff {rules : Checked RuleLevels} :
    finish fs rules = .ok s ↔ IsReadFrom fs s ∧ rules = .ok s.rules := by
  rw [← assemble_eq_ok_iff, finish]
  cases assemble fs rules <;> simp

/-- What the value for the rules comes to: the default levels if there is none, and else the
levels that are read of the table that it is, if it can be looked at for names. -/
def levelsGiven : Option Value → Except Failure (Checked RuleLevels)
  | none => .ok (.ok .default)
  | some v => (ruleFields v).map (· >>= readLevels)

/-- Settings are made in two steps: the value for the rules is looked at, and then all fields are
read. -/
theorem ofFields_eq (h : given.has reserved = false) :
    ofFields env given =
      (levelsGiven ((fieldsOf env given).get? "rules") >>= finish (fieldsOf env given)) := by
  unfold ofFields
  rw [h, if_neg Bool.false_ne_true]
  dsimp only
  rw [← fieldsOf]
  cases (fieldsOf env given).get? "rules" with
  | none => rfl
  | some v =>
    dsimp only [levelsGiven]
    cases ruleFields v with
    | error e => rfl
    | ok checked => cases checked <;> rfl

theorem ofFields_of_has_reserved (h : given.has reserved = true) :
    ofFields env given = .error .wrongKind := if_pos h

/-- Settings are made exactly if each of them can be read. -/
theorem ofFields_eq_ok_iff :
    ofFields env given = .ok s ↔
      given.has reserved = false ∧ IsReadFrom (fieldsOf env given) s ∧
        levelsGiven ((fieldsOf env given).get? "rules") = .ok (.ok s.rules) := by
  cases h : given.has reserved with
  | true => simp [ofFields_of_has_reserved h]
  | false =>
    rw [ofFields_eq h, Result.bind_eq_ok_iff]
    simp only [finish_eq_ok_iff]
    constructor
    · rintro ⟨rules, hrules, hread, rfl⟩
      exact ⟨trivial, hread, hrules⟩
    · rintro ⟨-, hread, hrules⟩
      exact ⟨_, hrules, hread, rfl⟩

/-! ## What all settings have in common -/

/-- What is read as a positive number is one. -/
theorem isPositive_of_readPositive {v : Value} {x : Binary64} (h : v.readPositive = .ok x) :
    x.isPositive = true := by
  unfold Value.readPositive at h
  cases hnumber : v.readNumber with
  | error es =>
    rw [hnumber] at h
    exact absurd h nofun
  | ok y =>
    rw [hnumber] at h
    change (if y.isPositive then pure y else Checked.fault .notPositive) = .ok x at h
    split at h
    · rename_i hy
      obtain rfl := Except.ok.inj h
      exact hy
    · exact absurd h nofun

theorem isPositive_defaultTimeout : defaultTimeout.isPositive = true := by decide +kernel

/-- Settings wait a time greater than zero, whatever they are made of. -/
theorem isPositive_of_ofFields (h : ofFields env given = .ok s) : s.timeout.isPositive = true := by
  obtain ⟨-, hread, -⟩ := ofFields_eq_ok_iff.1 h
  exact hread.timeout.of (P := fun x => x.isPositive = true) isPositive_defaultTimeout
    fun _ _ => isPositive_of_readPositive

/-- The path of the log is read from the value that is given for it. -/
theorem readOptionalText_of_ofFields {v : Value} (h : ofFields env given = .ok s)
    (hgiven : given.names.Nodup) (hv : given.get? "log_file" = some v) :
    v.readOptionalText = .ok s.logFile := by
  obtain ⟨-, hread, -⟩ := ofFields_eq_ok_iff.1 h
  have hlog := hread.logFile
  rwa [fieldsOf, Fields.get?_merge hgiven hv] at hlog

/-- An environment that sets none of the variables gives no settings. -/
theorem environmentFields_eq_nil (h : ∀ v ∈ settingVariables, env.lookup v.name = none) :
    environmentFields env = [] :=
  List.filterMap_eq_nil_iff.2 fun v hv => by rw [h v hv]; rfl

end Settings

end CommitCheck
