import CommitCheck.Context
import CommitCheck.Proofs.Value.Fields
import CommitCheck.Settings.File
import Mathlib.Data.List.Basic

/-!
# What settings take from the environment

Settings look up variables of their own and nothing else in the environment, so two environments
that agree there give the same settings (`ofFields_congr`, `load_congr`).  The variables of a
context are not among them (`environmentFields_of_agreeBut`).

Each variable gives the setting that it is for, by its text after that was cleaned
(`get?_environmentFields`), and there are no others that the environment gives
(`get?_environmentFields_of_not_mem`).
-/

namespace CommitCheck

/-- Two environments have the same variables, those of some names apart. -/
def Environment.AgreeBut (names : List Text) (env env' : Environment) : Prop :=
  ∀ name, name ∉ names → env.lookup name = env'.lookup name

namespace Environment.AgreeBut

variable {names more : List Text} {env env' : Environment}

theorem symm (h : AgreeBut names env env') : AgreeBut names env' env :=
  fun name hname => (h name hname).symm

theorem trans {env'' : Environment} (h : AgreeBut names env env')
    (h' : AgreeBut names env' env'') : AgreeBut names env env'' :=
  fun name hname => (h name hname).trans (h' name hname)

theorem mono (hsub : names ⊆ more) (h : AgreeBut names env env') : AgreeBut more env env' :=
  fun name hname => h name fun hmem => hname (hsub hmem)

end Environment.AgreeBut

/-- One more variable makes no difference but for its name. -/
theorem Environment.agreeBut_cons {names : List Text} {name : Text} (h : name ∈ names) (t : Text)
    (env : Environment) : AgreeBut names ((name, t) :: env) env := by
  intro other hother
  have hne : (other == name) = false := beq_false_of_ne fun heq => hother (heq ▸ h)
  rw [List.lookup_cons, hne]

/-- The variables that a context is taken from. -/
def RepositoryContext.trackerVariables : List Text := [repositoryVariable, tokenVariable]

namespace Settings

open RepositoryContext (trackerVariables)

variable {env env' : Environment}

theorem environmentFields_congr
    (h : ∀ v ∈ settingVariables, env.lookup v.name = env'.lookup v.name) :
    environmentFields env = environmentFields env' :=
  List.filterMap_congr fun v hv => by rw [h v hv]

theorem ofFields_congr (h : environmentFields env = environmentFields env') :
    ofFields env = ofFields env' := by
  funext given
  unfold ofFields
  rw [h]

theorem load_congr (h : environmentFields env = environmentFields env') (path : Text)
    (entry : Option Entry) : load env path entry = load env' path entry := by
  unfold load ofDocument withoutFile
  rw [ofFields_congr h]

/-- No setting is taken from a variable of the context. -/
theorem name_not_mem_trackerVariables :
    ∀ v ∈ settingVariables, v.name ∉ trackerVariables := by decide

theorem environmentFields_of_agreeBut (h : Environment.AgreeBut trackerVariables env env') :
    environmentFields env = environmentFields env' :=
  environmentFields_congr fun v hv => h v.name (name_not_mem_trackerVariables v hv)

/-! ## Each variable -/

/-- The value that an environment has for a variable, if it sets it. -/
def Variable.value? (v : Variable) (env : Environment) : Option Value :=
  (env.lookup v.name).map fun t => v.take (cleaned t)

/-- The settings that an environment gives through some variables. -/
def fieldsThrough (env : Environment) (vs : List Variable) : Fields :=
  vs.filterMap fun v => (env.lookup v.name).map fun t => (v.setting, v.take (cleaned t))

theorem fieldsThrough_cons (env : Environment) (v : Variable) (vs : List Variable) :
    fieldsThrough env (v :: vs) =
      match v.value? env with
      | none => fieldsThrough env vs
      | some w => (v.setting, w) :: fieldsThrough env vs := by
  unfold fieldsThrough Variable.value?
  rw [List.filterMap_cons]
  cases env.lookup v.name <;> rfl

theorem get?_fieldsThrough_of_not_mem {vs : List Variable} {name : Text}
    (h : name ∉ vs.map Variable.setting) : (fieldsThrough env vs).get? name = none := by
  induction vs with
  | nil => rfl
  | cons v vs ih =>
    rw [List.map_cons, List.mem_cons, not_or] at h
    rw [fieldsThrough_cons]
    cases v.value? env with
    | none => exact ih h.2
    | some w =>
      have hne : (name == v.setting) = false := beq_false_of_ne h.1
      rw [Fields.get?, List.lookup_cons, hne]
      exact ih h.2

theorem get?_fieldsThrough {vs : List Variable} {v : Variable}
    (hvs : (vs.map Variable.setting).Nodup) (hv : v ∈ vs) :
    (fieldsThrough env vs).get? v.setting = v.value? env := by
  induction vs with
  | nil => cases hv
  | cons w vs ih =>
    obtain ⟨hw, hvs⟩ := List.nodup_cons.1 hvs
    rw [fieldsThrough_cons]
    rcases List.mem_cons.1 hv with rfl | hv
    · cases v.value? env with
      | none => exact get?_fieldsThrough_of_not_mem hw
      | some x => exact List.lookup_cons_self
    · have hne : v.setting ≠ w.setting := fun heq => hw (heq ▸ List.mem_map_of_mem hv)
      cases w.value? env with
      | none => exact ih hvs hv
      | some x =>
        have hbeq : (v.setting == w.setting) = false := beq_false_of_ne hne
        rw [Fields.get?, List.lookup_cons, hbeq]
        exact ih hvs hv

theorem nodup_settings : (settingVariables.map Variable.setting).Nodup := by decide

/-- A variable gives the setting that it is for. -/
theorem get?_environmentFields {v : Variable} (hv : v ∈ settingVariables) (env : Environment) :
    (environmentFields env).get? v.setting = v.value? env :=
  get?_fieldsThrough nodup_settings hv

/-- No other setting is given. -/
theorem get?_environmentFields_of_not_mem {name : Text}
    (h : name ∉ settingVariables.map Variable.setting) (env : Environment) :
    (environmentFields env).get? name = none :=
  get?_fieldsThrough_of_not_mem h

end Settings

end CommitCheck
