import CommitCheck.Proofs.Cli.Stages
import CommitCheck.Proofs.Console.Bare
import CommitCheck.Proofs.Settings.Load
import CommitCheck.Proofs.Toml.Scalars

/-!
# The table of settings

An invocation that lists shows the settings of its folder in a table.  It succeeds exactly if each
line of the table can be put on the console (`run_of_lists_iff`).

The lines are not escaped.  Those that the program makes of its own have steady text alone, and so
have the values that are numbers, switches or levels.  The line that names the file has the path
of the folder in it, and two rows have a text of the user: the address of the tracker and the path
of the log.  Such a row shows its value as it is exactly if the value is bare
(`output_settingRow_iff`), so the table shows the settings exactly if both are
(`run_lists_settings_iff`).  An address with a host of hexadecimal digits in brackets is not bare
(`not_forall_run_lists_settings`).
-/

namespace CommitCheck

open Console (endless isSteady IsOrdinary IsBare)

/-! ## Texts printed one after another -/

theorem Console.each_print_eq_ok_iff {c : Console} {ts shown : List Text} :
    Run.each c.print ts = ⟨shown.map .printed, .ok ()⟩ ↔
      List.Forall₂ (fun t line => c.output t = .ok line) ts shown := by
  induction ts generalizing shown with
  | nil =>
    rw [List.forall₂_nil_left_iff]
    constructor
    · intro h
      exact List.map_eq_nil_iff.1 (congrArg Run.trace h).symm
    · rintro rfl
      rfl
  | cons t ts ih =>
    rw [Run.each_cons, List.forall₂_cons_left_iff]
    cases hout : c.output t with
    | error e =>
      rw [print_of_output_error hout, Run.bind_error]
      constructor
      · intro h
        cases congrArg Run.outcome h
      · rintro ⟨line, lines, h, -⟩
        cases h
    | ok line =>
      rw [print_of_output hout, Run.bind_ok]
      constructor
      · intro h
        obtain ⟨htrace, houtcome⟩ := Run.mk.inj h
        cases shown with
        | nil => cases htrace
        | cons line' lines =>
          obtain ⟨hline, hlines⟩ := List.cons.inj htrace
          obtain rfl := Event.printed.inj hline
          exact ⟨line, lines, rfl, ih.1 (Run.eq_mk_iff.2 ⟨hlines, houtcome⟩), rfl⟩
      · rintro ⟨line', lines, hline, hlines, rfl⟩
        obtain rfl := Except.ok.inj hline
        rw [ih.2 hlines]
        rfl

namespace Cli

/-! ## Invocations that list -/

/-- The invocation asks for the settings, and for nothing that comes before them. -/
structure Invocation.Lists (i : Invocation) : Prop where
  /-- It does not ask for the version. -/
  version : i.version = false
  /-- It does not ask for a newer version. -/
  update : i.update = false
  /-- It asks for the settings. -/
  list : i.list = true

variable {s : Surroundings} {words : List Text} {i : Invocation} {settings : Settings}

/-- Whether there is something at the path of the file of settings. -/
def Surroundings.hasSettings (s : Surroundings) (folder : Text) : Bool :=
  (s.files.find? (s.settingsPath folder)).isSome

/-- The lines of the table for a folder. -/
def Surroundings.tableLines (s : Surroundings) (folder : Text) (settings : Settings) : List Text :=
  settingLines settings (s.settingsPath folder) (s.hasSettings folder)

theorem Invocation.Lists.perform_eq (h : i.Lists) (s : Surroundings) :
    perform s i = (listSettings s i.path >>= fun _ => pure passed) := by
  simp [perform, h.version, h.update, h.list]

theorem listSettings_of_load {folder : Text} (h : (s.load folder).outcome = .ok settings) :
    listSettings s folder =
      ⟨(s.load folder).trace ++ (Run.each endless.print (s.tableLines folder settings)).trace,
        (Run.each endless.print (s.tableLines folder settings)).outcome⟩ := Run.bind_of_ok h

/-- With settings, an invocation that lists succeeds exactly if each line of the table can be put on
the console. -/
theorem run_of_lists_iff {shown : List Text} (hreads : Request.read s.files words = .ok (.work i))
    (hlists : i.Lists) (hload : (s.load i.path).outcome = .ok settings) :
    run s words = ⟨(s.load i.path).trace ++ shown.map .printed, .ok passed⟩ ↔
      List.Forall₂ (fun t line => endless.output t = .ok line) (s.tableLines i.path settings)
        shown := by
  have hrun : run s words = carryOut s i := by rw [run, hreads]
  have hperform := hlists.perform_eq s
  rw [listSettings_of_load hload] at hperform
  rw [← Console.each_print_eq_ok_iff, hrun]
  cases hout : (Run.each endless.print (s.tableLines i.path settings)).outcome with
  | error e =>
    rw [hout, Run.bind_error] at hperform
    have hstatus := outcome_carryOut_of_error (congrArg Run.outcome hperform)
    refine iff_of_false (fun h => ?_) fun h => ?_
    · rw [h] at hstatus
      exact statusOfFailure_ne_passed e (Except.ok.inj hstatus).symm
    · rw [h] at hout
      cases hout
  | ok _ =>
    rw [hout, Run.bind_ok] at hperform
    rw [carryOut_of_ok (congrArg Run.outcome hperform), hperform]
    constructor
    · intro h
      have htrace := congrArg Run.trace h
      rw [Run.pure_eq, List.append_nil] at htrace
      exact Run.eq_mk_iff.2 ⟨List.append_cancel_left htrace, hout⟩
    · intro h
      rw [h, Run.pure_eq, List.append_nil]

/-! ## Lines that show themselves -/

/-- A line is put on the console as it is. -/
def ShowsItself (t : Text) : Prop := endless.output t = .ok (t ++ ['\n'])

theorem isOrdinary_of_isSteady {t : Text} (h : t.all isSteady = true) : IsOrdinary t :=
  Console.isOrdinary_of_all_isPlainChar (Console.isPlainChar_of_isSteady h).1

theorem showsItself_of_isSteady {t : Text} (h : t.all isSteady = true) : ShowsItself t :=
  (Console.output_eq_self_iff (isOrdinary_of_isSteady h)).2 (Console.isBare_of_isSteady h)

theorem isSteady_blanks (n : Nat) : (List.replicate n ' ').all isSteady = true :=
  List.all_eq_true.2 fun c hc => by
    obtain rfl := List.eq_of_mem_replicate hc
    decide

theorem isSteady_padRight {t : Text} (h : t.all isSteady = true) (width : Nat) :
    (padRight width t).all isSteady = true := isSteady_append h (isSteady_blanks _)

theorem settingRow_eq (name value source : Text) :
    settingRow name value source = (padRight 28 name ++ [' ']) ++
      (value ++ ' ' :: (List.replicate (28 - value.length) ' ' ++ padRight 10 source)) := by
  have hblanks : List.replicate (28 - value.length) ' ' ++ ' ' :: padRight 10 source =
      ' ' :: (List.replicate (28 - value.length) ' ' ++ padRight 10 source) := by
    rw [← List.singleton_append, ← List.append_assoc, ← List.replicate_succ', List.replicate_succ,
      List.cons_append]
  rw [settingRow, show padRight 28 value = value ++ List.replicate (28 - value.length) ' ' from rfl,
    List.append_assoc, List.append_assoc, List.singleton_append, List.cons_append,
    List.append_assoc, hblanks]

/-- A row shows itself exactly if its value is bare. -/
theorem output_settingRow_iff {name value source : Text} (hname : name.all isSteady = true)
    (hsource : source.all isSteady = true) (hclose : ']' ∉ source) (hvalue : IsOrdinary value) :
    ShowsItself (settingRow name value source) ↔ IsBare value := by
  have hbefore : (padRight 28 name ++ [' ']).all isSteady = true :=
    isSteady_append (isSteady_padRight hname 28) (by decide)
  have hafter : (List.replicate (28 - value.length) ' ' ++ padRight 10 source).all isSteady =
      true := isSteady_append (isSteady_blanks _) (isSteady_padRight hsource 10)
  have hclose' : ']' ∉ List.replicate (28 - value.length) ' ' ++ padRight 10 source := by
    simp [padRight, List.mem_replicate, hclose]
  have hordinary : IsOrdinary (settingRow name value source) := by
    rw [settingRow_eq]
    intro c hc
    rcases List.mem_append.1 hc with hc | hc
    · exact isOrdinary_of_isSteady hbefore c hc
    · rcases List.mem_append.1 hc with hc | hc
      · exact hvalue c hc
      · exact isOrdinary_of_isSteady (t := ' ' :: _)
          (by rw [List.all_cons, hafter]; decide) c hc
  rw [ShowsItself, Console.output_eq_self_iff hordinary, settingRow_eq,
    Console.isBare_append_iff hbefore hafter hclose']

/-! ## The rows -/

/-- The text of a positive number is steady. -/
theorem isSteady_text {x : Binary64} (h : x.isPositive = true) : x.text.all isSteady = true := by
  obtain rfl | ⟨ds, k, htext, hds, -⟩ := Binary64.eq_infinite_or_layout h
  · decide
  · rw [htext]
    refine List.all_eq_true.2 fun c hc => ?_
    rcases (Toml.isNumeral_layout hds k).chars c hc with hc | hc
    · exact Console.isSteady_of_isDigit hc
    · have hall : ['.', 'e', '+', '-'].all isSteady = true := by decide
      exact List.all_eq_true.1 hall c hc

/-- The texts of a user among the settings. -/
def userTexts (settings : Settings) : List Text := settings.apiUrl :: settings.logFile.toList

theorem isBare_logText_iff {log : Option Text} :
    IsBare (logText log) ↔ ∀ p ∈ log.toList, IsBare p := by
  have hnone : IsBare "None" := Console.isBare_of_isSteady (by decide)
  have hnil : IsBare [] := Console.isBare_of_isSteady rfl
  match log with
  | none => exact iff_of_true hnone (List.forall_mem_nil _)
  | some [] => exact iff_of_true hnone (List.forall_mem_singleton.2 hnil)
  | some (c :: cs) => exact List.forall_mem_singleton.symm

theorem isOrdinary_logText {log : Option Text} (h : ∀ p ∈ log.toList, IsOrdinary p) :
    IsOrdinary (logText log) := by
  have hnone : IsOrdinary "None" := by decide
  match log, h with
  | none, _ => exact hnone
  | some [], _ => exact hnone
  | some (c :: cs), h => exact h _ List.mem_cons_self

/-- The rows show themselves exactly if the texts of the user are bare. -/
theorem showsItself_settingRows_iff (hpositive : settings.timeout.isPositive = true)
    (hordinary : ∀ t ∈ userTexts settings, IsOrdinary t) (isThere : Bool) :
    (∀ row ∈ settingRows settings isThere, ShowsItself row) ↔
      ∀ t ∈ userTexts settings, IsBare t := by
  rw [userTexts, List.forall_mem_cons] at hordinary ⊢
  have hsource : (if isThere then "config" else "default" : Text).all isSteady = true ∧
      ']' ∉ (if isThere then "config" else "default" : Text) := by
    cases isThere <;> decide
  have hrow : ∀ {name value : Text}, name.all isSteady = true → IsOrdinary value →
      (ShowsItself (settingRow name value (if isThere then "config" else "default")) ↔
        IsBare value) := fun hname hvalue =>
    output_settingRow_iff hname hsource.1 hsource.2 hvalue
  have hsteady : ∀ {name value : Text}, name.all isSteady = true → value.all isSteady = true →
      ShowsItself (settingRow name value (if isThere then "config" else "default")) :=
    fun hname hvalue =>
      (hrow hname (isOrdinary_of_isSteady hvalue)).2 (Console.isBare_of_isSteady hvalue)
  have hswitch : (if settings.alwaysLog then "True" else "False" : Text).all isSteady = true := by
    cases settings.alwaysLog <;> decide
  have hlevels : ∀ r ∈ ruleValues settings,
      ShowsItself (settingRow r.1 r.2 (if isThere then "config" else "default")) := by
    intro r hr
    obtain ⟨⟨name, level⟩, hmem, rfl⟩ := List.mem_map.1 hr
    have hname : name ∈ RuleLevels.names := by
      simp only [RuleLevels.toList, List.mem_cons, Prod.mk.injEq, List.not_mem_nil,
        or_false] at hmem
      rcases hmem with ⟨rfl, -⟩ | ⟨rfl, -⟩ <;> decide
    exact hsteady (isSteady_append (by decide) (isName_of_mem_names hname).chars)
      (Report.isSteady_natText _)
  rw [settingRows, List.forall_mem_map, List.forall_mem_append]
  simp only [plainValues, List.forall_mem_cons, List.not_mem_nil, false_implies, implies_true,
    and_true]
  rw [hrow (by decide) hordinary.1, hrow (by decide) (isOrdinary_logText hordinary.2),
    isBare_logText_iff]
  constructor
  · rintro ⟨⟨hurl, -, -, hlog⟩, -⟩
    exact ⟨hurl, hlog⟩
  · rintro ⟨hurl, hlog⟩
    exact ⟨⟨hurl, hsteady (by decide) (isSteady_text hpositive), hsteady (by decide) hswitch, hlog⟩,
      hlevels⟩

/-! ## The whole table -/

/-- What the console shows of the table, if the rows show themselves and the line that names the
file is shown in some way. -/
def shownTable (settings : Settings) (isThere : Bool) (file : Text) : List Text :=
  "\nCurrent Configuration Settings:\n" :: file ::
    (('\n' :: settingRow "Setting" "Value" "Source" : Text) :: List.replicate 66 '-' ::
      (settingRows settings isThere ++ [bottomLine])).map (· ++ ['\n'])

theorem eq_ok_of_toOption {α : Type} {x : Except Failure α} {a : α} (h : x.toOption = some a) :
    x = .ok a := by
  cases x with
  | error e => cases h
  | ok b => exact congrArg Except.ok (Option.some.inj h)

theorem output_title : endless.output "\n[bold]Current Configuration Settings:[/bold]" =
    .ok "\nCurrent Configuration Settings:\n" := by
  refine eq_ok_of_toOption ?_
  decide +kernel

/-- The lines below the one that names the file show themselves exactly if the rows do. -/
theorem output_lower_iff (isThere : Bool) :
    List.Forall₂ (fun t line => endless.output t = .ok line)
      (('\n' :: settingRow "Setting" "Value" "Source" : Text) :: List.replicate 66 '-' ::
        (settingRows settings isThere ++ [bottomLine]))
      ((('\n' :: settingRow "Setting" "Value" "Source" : Text) :: List.replicate 66 '-' ::
        (settingRows settings isThere ++ [bottomLine])).map (· ++ ['\n'])) ↔
      ∀ row ∈ settingRows settings isThere, ShowsItself row := by
  have hhead : ShowsItself ('\n' :: settingRow "Setting" "Value" "Source") :=
    showsItself_of_isSteady (by decide)
  have hrule : ShowsItself (List.replicate 66 '-') := showsItself_of_isSteady (by decide)
  have hbottom : ShowsItself bottomLine := showsItself_of_isSteady (by decide)
  rw [List.forall₂_map_right_iff, List.forall₂_same]
  show (∀ t ∈ _, ShowsItself t) ↔ _
  rw [List.forall_mem_cons, List.forall_mem_cons, List.forall_mem_append, List.forall_mem_singleton]
  exact ⟨fun h => h.2.2.1, fun h => ⟨hhead, hrule, h, hbottom⟩⟩

/-- The table is shown with every value as it is exactly if the line that names the file can be
shown and the texts of the user are bare. -/
theorem run_shows_table_iff (hreads : Request.read s.files words = .ok (.work i))
    (hlists : i.Lists) (hload : (s.load i.path).outcome = .ok settings)
    (hordinary : ∀ t ∈ userTexts settings, IsOrdinary t) (file : Text) :
    run s words = ⟨(s.load i.path).trace ++
        (shownTable settings (s.hasSettings i.path) file).map .printed, .ok passed⟩ ↔
      endless.output (fileLine (s.settingsPath i.path) (s.hasSettings i.path)) = .ok file ∧
        ∀ t ∈ userTexts settings, IsBare t := by
  obtain ⟨given, hgiven⟩ := Settings.exists_ofFields_of_load hload
  have hpositive := Settings.isPositive_of_ofFields hgiven
  rw [run_of_lists_iff hreads hlists hload, ← showsItself_settingRows_iff hpositive hordinary,
    ← output_lower_iff]
  show List.Forall₂ _ (_ :: _ :: (_ :: _ :: settingRows settings _ ++ [bottomLine]))
    (_ :: file :: _) ↔ _
  rw [List.forall₂_cons, List.forall₂_cons]
  exact and_iff_right output_title

theorem exists_output_without_file (path : Path) :
    ∃ file, endless.output (fileLine path false) = .ok file := by
  have hshown : (endless.output "[dim]Using default values (no config file found)[/dim]").toOption =
      some ("Using default values (no config file found)\n" : Text) := by
    decide +kernel
  exact ⟨_, eq_ok_of_toOption hshown⟩

/-- Let settings be loaded whose texts have no tab and no control character that is never shown.
An invocation that lists them ends with status 0 and shows a row for each, with the text of the
value as it is, exactly if the address of the tracker and the path of the log are bare, and the
line that names the file can be shown if there is one.  A text is bare if there is no tag in it, no
backslash in front of an opening bracket, and no name of a picture between colons. -/
theorem run_lists_settings_iff (hreads : Request.read s.files words = .ok (.work i))
    (hlists : i.Lists) (hload : (s.load i.path).outcome = .ok settings)
    (hordinary : ∀ t ∈ userTexts settings, IsOrdinary t) :
    (∃ file, run s words = ⟨(s.load i.path).trace ++
        (shownTable settings (s.hasSettings i.path) file).map .printed, .ok passed⟩) ↔
      (s.hasSettings i.path = true →
        ∃ file, endless.output (fileLine (s.settingsPath i.path) true) = .ok file) ∧
      ∀ t ∈ userTexts settings, IsBare t := by
  have hfile : (s.hasSettings i.path = true →
        ∃ file, endless.output (fileLine (s.settingsPath i.path) true) = .ok file) ↔
      ∃ file, endless.output (fileLine (s.settingsPath i.path) (s.hasSettings i.path)) =
        .ok file := by
    cases s.hasSettings i.path with
    | true => exact forall_prop_of_true rfl
    | false => exact iff_of_true nofun (exists_output_without_file _)
  rw [hfile, ← exists_and_right]
  exact exists_congr fun file => run_shows_table_iff hreads hlists hload hordinary file

/-- Surroundings without a file of settings, and with an address of the tracker and a path of the
log that have brackets in them. -/
def bracketed (url : Text) : Surroundings where
  files := ⟨[], []⟩
  environment := [("GIT_COMMIT_LINT_API_URL", url), ("GIT_COMMIT_LINT_LOG_FILE", "notes[1].log")]
  network _ := .response 404 none []
  repository := none
  installation := default
  now := default

/-- The settings of such surroundings. -/
def bracketedSettings (url : Text) : Settings :=
  { Settings.default with apiUrl := url, logFile := some "notes[1].log" }

/-- The invocation that the word for listing asks for. -/
def listing : Invocation := .ofGiven ⟨[(.list, [])], []⟩

theorem reads_listing (url : Text) :
    Request.read (bracketed url).files ["--config-list"] = .ok (.work listing) := rfl

theorem lists_listing : listing.Lists := ⟨rfl, rfl, rfl⟩

theorem run_lists_settings_iff_bracketed :
    ∃ file, run (bracketed "https://host/api[3]") ["--config-list"] =
      ⟨((shownTable (bracketedSettings "https://host/api[3]") false file).map .printed),
        .ok passed⟩ := by
  have hload : ((bracketed "https://host/api[3]").load listing.path).outcome =
      .ok (bracketedSettings "https://host/api[3]") := eq_ok_of_toOption (by decide +kernel)
  have hbare : ∀ t ∈ userTexts (bracketedSettings "https://host/api[3]"), IsBare t := by
    decide +kernel
  exact (run_lists_settings_iff (reads_listing _) lists_listing hload (by decide +kernel)).2
    ⟨fun h => absurd h (by decide +kernel), hbare⟩

/-- An address with hexadecimal digits in brackets is not shown, although its characters can all
be printed. -/
theorem not_forall_run_lists_settings :
    ¬∀ (s : Surroundings) (words : List Text) (i : Invocation) (settings : Settings),
      Request.read s.files words = .ok (.work i) → i.Lists →
      (s.load i.path).outcome = .ok settings →
      (∀ t ∈ userTexts settings, ∀ c ∈ t, 0x20 ≤ c.toNat ∧ c.toNat ≤ 0x7E) →
      ∃ file, run s words = ⟨(s.load i.path).trace ++
        (shownTable settings (s.hasSettings i.path) file).map .printed, .ok passed⟩ := by
  intro h
  have hload : ((bracketed "https://[fe80::1]/api").load listing.path).outcome =
      .ok (bracketedSettings "https://[fe80::1]/api") := eq_ok_of_toOption (by decide +kernel)
  have hprintable : (userTexts (bracketedSettings "https://[fe80::1]/api")).all (fun t =>
      t.all fun c => decide (0x20 ≤ c.toNat ∧ c.toNat ≤ 0x7E)) = true := by decide +kernel
  simp only [List.all_eq_true, decide_eq_true_eq] at hprintable
  obtain ⟨file, hshown⟩ := h _ _ _ _ (reads_listing _) lists_listing hload hprintable
  have hbare := ((run_shows_table_iff (reads_listing _) lists_listing hload (by decide +kernel)
    file).1 hshown).2 "https://[fe80::1]/api" List.mem_cons_self
  exact absurd hbare (by decide +kernel)

end Cli

end CommitCheck
