import CommitCheck.Proofs.Settings.Basic

/-!
# Variables and given values

A setting can come from a variable of the environment or from a value that is given.  The text of
a variable is cleaned, and then it is read like the same text given as a value, with the same
setting or the same faults, unless it is the switch for the log (`ofFields_override`).  A variable
takes the switch as on for one of a few words (`onWords`) and as off for every other text, where a
given text has to be one of the words for true or false.  So the two agree on the words that both
of them know and on no others, and a text that says nothing is off in the environment and a fault
as a value (`not_forall_override_agrees`).
-/

namespace CommitCheck.Settings

open Checked (optional_congr optional_eq_ok_iff)

variable {env env' : Environment} {fs gs given given' : Fields} {v : Variable} {name t : Text}
  {s : Settings}

/-! ## What settings depend on -/

/-- What settings are made of depends on the values of fields, and on the switch for the log only
by what is read of it. -/
theorem finish_congr (hsame : ∀ name : Text, name ≠ "always_log" → fs.get? name = gs.get? name)
    (halways : Checked.optional fs "always_log" false Value.readBool =
      Checked.optional gs "always_log" false Value.readBool) : finish fs = finish gs := by
  funext rules
  unfold finish assemble
  rw [halways, optional_congr (hsame "api_url" (by decide)),
    optional_congr (hsame "timeout" (by decide)), optional_congr (hsame "log_file" (by decide))]

theorem ofFields_congr_of_read (hreserved : given.has reserved = given'.has reserved)
    (hsame : ∀ name : Text, name ≠ "always_log" →
      (fieldsOf env given).get? name = (fieldsOf env' given').get? name)
    (halways : Checked.optional (fieldsOf env given) "always_log" false Value.readBool =
      Checked.optional (fieldsOf env' given') "always_log" false Value.readBool) :
    ofFields env given = ofFields env' given' := by
  cases h : given.has reserved with
  | true => rw [ofFields_of_has_reserved h, ofFields_of_has_reserved (hreserved.symm.trans h)]
  | false =>
    rw [ofFields_eq h, ofFields_eq (hreserved.symm.trans h), hsame "rules" (by decide),
      finish_congr hsame halways]

/-- Settings that were made, made once more of fields that differ in the switch for the log. -/
theorem ofFields_of_switch (hs : ofFields env given = .ok s)
    (hreserved : given.has reserved = given'.has reserved)
    (hsame : ∀ name : Text, name ≠ "always_log" →
      (fieldsOf env given).get? name = (fieldsOf env' given').get? name) :
    ofFields env' given' =
      match Checked.optional (fieldsOf env' given') "always_log" false Value.readBool with
      | .ok b => .ok { s with alwaysLog := b }
      | .error es => .error (.invalidSettings none es) := by
  obtain ⟨hfree, hread, hlevels⟩ := ofFields_eq_ok_iff.1 hs
  have hurl := optional_eq_ok_iff.2 hread.apiUrl
  have htimeout := optional_eq_ok_iff.2 hread.timeout
  have hlog := optional_eq_ok_iff.2 hread.logFile
  rw [optional_congr (hsame _ (by decide))] at hurl htimeout hlog
  rw [hsame _ (by decide)] at hlevels
  rw [ofFields_eq (hreserved.symm.trans hfree), hlevels]
  change finish (fieldsOf env' given') (.ok s.rules) = _
  unfold finish assemble
  rw [hurl, htimeout, hlog]
  cases Checked.optional (fieldsOf env' given') "always_log" false Value.readBool <;> rfl

/-! ## One variable and the value in its place -/

/-- Variables of one name are for one setting. -/
theorem setting_eq_of_name_eq :
    ∀ v ∈ settingVariables, ∀ w ∈ settingVariables, w.name = v.name → w.setting = v.setting := by
  decide

/-- A variable makes no difference to the settings that it is not for. -/
theorem get?_environmentFields_congr (hv : v ∈ settingVariables)
    (hagree : Environment.AgreeBut [v.name] env env') (hname : name ≠ v.setting) :
    (environmentFields env).get? name = (environmentFields env').get? name := by
  by_cases hmem : name ∈ settingVariables.map Variable.setting
  · obtain ⟨w, hw, rfl⟩ := List.mem_map.1 hmem
    have hne : w.name ∉ [v.name] := fun h =>
      hname (setting_eq_of_name_eq v hv w hw (List.mem_singleton.1 h))
    rw [get?_environmentFields hw, get?_environmentFields hw, Variable.value?, Variable.value?,
      hagree _ hne]
  · rw [get?_environmentFields_of_not_mem hmem, get?_environmentFields_of_not_mem hmem]

theorem get?_fieldsOf_of_ne (hv : v ∈ settingVariables)
    (hagree : Environment.AgreeBut [v.name] env env') (hgiven : v.setting ∉ given.names)
    (hname : name ≠ v.setting) (x : Value) :
    (fieldsOf env given).get? name = (fieldsOf env' (given.set v.setting x)).get? name := by
  rw [fieldsOf, fieldsOf, Fields.merge_set_of_not_mem _ hgiven, Fields.get?_set_of_ne _ _ hname]
  exact Fields.get?_merge_congr (get?_environmentFields_congr hv hagree hname) given

theorem get?_fieldsOf_set_self (env : Environment) (hgiven : name ∉ given.names) (x : Value) :
    (fieldsOf env (given.set name x)).get? name = some x := by
  rw [fieldsOf, Fields.merge_set_of_not_mem _ hgiven, Fields.get?_set_self]

theorem get?_fieldsOf_variable (hv : v ∈ settingVariables) (ht : env.lookup v.name = some t)
    (hgiven : v.setting ∉ given.names) :
    (fieldsOf env given).get? v.setting = some (v.take (cleaned t)) := by
  rw [fieldsOf, Fields.get?_merge_of_not_mem hgiven, get?_environmentFields hv, Variable.value?, ht,
    Option.map_some]

/-! ## The readings of a switch -/

/-- The environment knows some of the words for true. -/
theorem onWords_subset : onWords ⊆ Value.trueWords := by decide

/-- No word for false is one for true. -/
theorem not_mem_of_mem_falseWords :
    ∀ u ∈ Value.falseWords, u ∉ Value.trueWords ∧ u ∉ onWords := by decide

/-- A given text is read as the environment takes it exactly for the words that both know. -/
theorem readBool_text_eq_iff :
    Value.readBool (.text t) = .ok (onWords.contains (lowercase t)) ↔
      lowercase t ∈ onWords ∨ lowercase t ∈ Value.falseWords := by
  unfold Value.readBool
  dsimp only
  constructor
  · intro h
    split at h
    · exact .inl (List.contains_iff_mem.1 (Except.ok.inj h).symm)
    · split at h
      · exact .inr (List.contains_iff_mem.1 ‹_›)
      · cases h
  · rintro (hon | hoff)
    · have htrue := List.contains_iff_mem.2 (onWords_subset hon)
      rw [if_pos htrue, List.contains_iff_mem.2 hon]
    · obtain ⟨htrue, hon⟩ := not_mem_of_mem_falseWords _ hoff
      rw [if_neg (mt List.contains_iff_mem.1 htrue), if_pos (List.contains_iff_mem.2 hoff),
        eq_false_of_ne_true (mt List.contains_iff_mem.1 hon)]

/-- A variable is taken for its text, unless it is the switch for the log. -/
theorem take_eq (hv : v ∈ settingVariables) (t : Text) :
    v.take t = if v.setting = "always_log" then .bool (onWords.contains (lowercase t))
      else .text t := by
  simp only [settingVariables, List.mem_cons, List.not_mem_nil, or_false] at hv
  obtain rfl | rfl | rfl | rfl := hv <;> rfl

/-- A text of a variable that is read like the same text given as a value: any text, but for the
switch for the log a word for true or false that the environment knows too. -/
def Variable.ReadsAlike (v : Variable) (t : Text) : Prop :=
  v.setting = "always_log" → lowercase t ∈ onWords ∨ lowercase t ∈ Value.falseWords

/-- What is read of the switch for the log is the same in both places, if its text is read alike. -/
theorem optional_always_eq (hv : v ∈ settingVariables) (ht : env.lookup v.name = some t)
    (hagree : Environment.AgreeBut [v.name] env env') (hgiven : v.setting ∉ given.names)
    (halike : v.ReadsAlike (cleaned t)) :
    Checked.optional (fieldsOf env given) "always_log" false Value.readBool =
      Checked.optional (fieldsOf env' (given.set v.setting (.text (cleaned t)))) "always_log" false
        Value.readBool := by
  -- the switch is the one setting whose variable is not taken for its text
  by_cases h : v.setting = "always_log"
  · have hvariable := get?_fieldsOf_variable hv ht hgiven
    have hvalue := get?_fieldsOf_set_self env' hgiven (.text (cleaned t))
    rw [take_eq hv, if_pos h] at hvariable
    unfold Checked.optional
    rw [← h, hvariable, hvalue]
    dsimp only
    rw [readBool_text_eq_iff.2 (halike h)]
    rfl
  · exact optional_congr (get?_fieldsOf_of_ne hv hagree hgiven (Ne.symm h) _)

/-- No variable is for the reserved name. -/
theorem setting_ne_reserved : ∀ v ∈ settingVariables, v.setting ≠ reserved := by decide

theorem has_reserved_set (hv : v ∈ settingVariables) (given : Fields) (x : Value) :
    given.has reserved = (given.set v.setting x).has reserved := by
  rw [Fields.has_eq_isSome, Fields.has_eq_isSome,
    Fields.get?_set_of_ne _ _ (setting_ne_reserved v hv).symm]

/-- The variable and the given text leave the fields alike, but for the switch for the log. -/
theorem get?_fieldsOf_override (hv : v ∈ settingVariables) (ht : env.lookup v.name = some t)
    (hagree : Environment.AgreeBut [v.name] env env') (hgiven : v.setting ∉ given.names)
    (hname : name ≠ "always_log") :
    (fieldsOf env given).get? name =
      (fieldsOf env' (given.set v.setting (.text (cleaned t)))).get? name := by
  by_cases h : name = v.setting
  · subst h
    rw [get?_fieldsOf_variable hv ht hgiven, get?_fieldsOf_set_self env' hgiven, take_eq hv,
      if_neg hname]
  · exact get?_fieldsOf_of_ne hv hagree hgiven h _

/-- What a given text is read as if it is no word for false. -/
theorem readBool_text_of_not_mem (h : lowercase t ∉ Value.falseWords) :
    Value.readBool (.text t) =
      if lowercase t ∈ Value.trueWords then .ok true else Checked.fault .unreadableBool := by
  unfold Value.readBool
  dsimp only
  rw [if_neg (mt List.contains_iff_mem.1 h)]
  exact if_congr List.contains_iff_mem rfl rfl

/-- Where the text of the switch is not read alike, the environment takes it as off, and as a given
value it is on or a fault. -/
theorem ofFields_of_not_readsAlike (hv : v ∈ settingVariables) (ht : env.lookup v.name = some t)
    (hagree : Environment.AgreeBut [v.name] env env') (hgiven : v.setting ∉ given.names)
    (halike : ¬v.ReadsAlike (cleaned t)) (hs : ofFields env given = .ok s) :
    s.alwaysLog = false ∧
      ofFields env' (given.set v.setting (.text (cleaned t))) =
        if lowercase (cleaned t) ∈ Value.trueWords then .ok { s with alwaysLog := true }
        else .error (.invalidSettings none [.inField "always_log" .unreadableBool]) := by
  obtain ⟨h, hword⟩ := Classical.not_imp.1 halike
  obtain ⟨hon, hoff⟩ := not_or.1 hword
  constructor
  · obtain ⟨-, hread, -⟩ := ofFields_eq_ok_iff.1 hs
    have halways := hread.alwaysLog
    rw [← h, get?_fieldsOf_variable hv ht hgiven, take_eq hv, if_pos h] at halways
    have hcontains : onWords.contains (lowercase (cleaned t)) = s.alwaysLog := Except.ok.inj halways
    exact hcontains.symm.trans (eq_false_of_ne_true (mt List.contains_iff_mem.1 hon))
  · rw [ofFields_of_switch hs (has_reserved_set hv given _)
      fun _ => get?_fieldsOf_override hv ht hagree hgiven]
    unfold Checked.optional
    rw [← h, get?_fieldsOf_set_self env' hgiven]
    dsimp only
    rw [readBool_text_of_not_mem hoff]
    by_cases htrue : lowercase (cleaned t) ∈ Value.trueWords
    · rw [if_pos htrue, if_pos htrue]
      rfl
    · rw [if_neg htrue, if_neg htrue]
      rfl

/-- A variable that is set, for a setting that is not given, is read like its cleaned text given as
a value: the same settings are made, or the same failure comes of it.  The one exception is the
switch for the log with a text that the environment does not know as a word.  The environment takes
every such text as off.  As a given value it turns the switch on if it is one of the other words
for true, and else it is a fault. -/
theorem ofFields_override (hv : v ∈ settingVariables) (ht : env.lookup v.name = some t)
    (hagree : Environment.AgreeBut [v.name] env env') (hgiven : given.get? v.setting = none) :
    (v.ReadsAlike (cleaned t) →
      ofFields env given = ofFields env' (given.set v.setting (.text (cleaned t)))) ∧
    (¬v.ReadsAlike (cleaned t) → ∀ s, ofFields env given = .ok s →
      s.alwaysLog = false ∧
        ofFields env' (given.set v.setting (.text (cleaned t))) =
          if lowercase (cleaned t) ∈ Value.trueWords then .ok { s with alwaysLog := true }
          else .error (.invalidSettings none [.inField "always_log" .unreadableBool])) := by
  have hnames := Fields.get?_eq_none_iff.1 hgiven
  refine ⟨fun halike => ?_, fun halike s => ofFields_of_not_readsAlike hv ht hagree hnames halike⟩
  exact ofFields_congr_of_read (has_reserved_set hv given _)
    (fun _ => get?_fieldsOf_override hv ht hagree hnames)
    (optional_always_eq hv ht hagree hnames halike)

/-- An environment with a time to wait. -/
def hasty : Environment := [("GIT_COMMIT_LINT_TIMEOUT", "2.5")]

/-- The variable of the switch for the log, set in that environment. -/
def switched (t : Text) : Environment := ("GIT_COMMIT_LINT_ALWAYS_LOG", t) :: hasty

theorem ofFields_override_switched :
    ofFields (switched " Yes") [] = ofFields hasty [("always_log", .text "Yes")] ∧
      ofFields (switched "maybe") [] =
        .ok { Settings.default with timeout := .ofDecimal false 25 (-1) } ∧
      ofFields hasty [("always_log", .text "maybe")] =
        .error (.invalidSettings none [.inField "always_log" .unreadableBool]) := by
  have hmem : settingVariables[2] ∈ settingVariables := List.getElem_mem _
  have hset (t : Text) : (switched t).lookup settingVariables[2].name = some t := rfl
  have hagree (t : Text) : Environment.AgreeBut [settingVariables[2].name] (switched t) hasty :=
    Environment.agreeBut_cons (List.mem_singleton_self _) t hasty
  have hnone : Fields.get? [] settingVariables[2].setting = none := rfl
  have hmaybe : ofFields (switched "maybe") [] =
      .ok { Settings.default with timeout := .ofDecimal false 25 (-1) } := by decide +kernel
  have hunknown : ¬settingVariables[2].ReadsAlike (cleaned "maybe") :=
    fun h => absurd (h rfl) (by decide)
  have hyes := (ofFields_override hmem (hset " Yes") (hagree _) hnone).1 fun _ => by decide
  have hrefused := ((ofFields_override hmem (hset "maybe") (hagree _) hnone).2 hunknown _ hmaybe).2
  exact ⟨hyes, hmaybe, hrefused.trans (if_neg (by decide))⟩

/-- Not every text of a variable is read like the same text given as a value. -/
theorem not_forall_override_agrees :
    ¬∀ v ∈ settingVariables, ∀ t : Text,
      ofFields [(v.name, t)] [] = ofFields [] [(v.setting, .text (cleaned t))] :=
  fun h => absurd (h settingVariables[2] (List.getElem_mem _) "maybe") (by decide +kernel)

end CommitCheck.Settings
