import CommitCheck.Proofs.Cli.Listing
import CommitCheck.Proofs.Console.Columns
import CommitCheck.Proofs.Settings.Origin

/-!
# The sources in the table of settings

Each row of the table has the name of a setting in its first column and a source in its last one.
Both can be read off a row that was put out, whatever the value between them does to it
(`columns_of_row`).

A row should tell where its setting was taken from (`Tells`).  But there is one source for all rows,
the file if there is something at its path and else the default.  So a row tells where its setting
was taken from exactly if that is what is said of all of them (`listSettings_sources_iff`), and a
file that has one setting and not the others makes a table with rows that do not
(`not_forall_row_tells`).
-/

namespace CommitCheck

open Console (endless isSteady)
open Settings (Origin Origins HasOrigins FileGives IsTakenFrom)

/-! ## Texts printed until one cannot be shown -/

/-- What is printed of texts are the first of them, one after another, and all of them if nothing
fails. -/
theorem Console.exists_trace_each_print (c : Console) (ts : List Text) :
    ∃ shown : List Text, (Run.each c.print ts).trace = shown.map .printed ∧
      ((Run.each c.print ts).outcome = .ok () → shown.length = ts.length) ∧
      ∀ (k : Nat) (line : Text), shown[k]? = some line →
        ∃ t, ts[k]? = some t ∧ c.output t = .ok line := by
  induction ts with
  | nil => exact ⟨[], rfl, fun _ => rfl, nofun⟩
  | cons t ts ih =>
    obtain ⟨shown, htrace, hlength, hlines⟩ := ih
    rw [Run.each_cons]
    cases hout : c.output t with
    | error e =>
      rw [print_of_output_error hout, Run.bind_error]
      exact ⟨[], rfl, nofun, nofun⟩
    | ok line =>
      rw [print_of_output hout, Run.bind_ok]
      refine ⟨line :: shown, ?_, fun h => ?_, fun k => ?_⟩
      · exact congrArg (Event.printed line :: ·) htrace
      · exact congrArg (· + 1) (hlength h)
      · cases k with
        | zero =>
          intro line' hline
          obtain rfl := Option.some.inj hline
          exact ⟨t, rfl, hout⟩
        | succ k => exact hlines k

namespace Cli

variable {s : Surroundings} {folder : Text} {settings : Settings}

/-! ## Reading a row -/

/-- The name of the setting that a row is for. -/
def nameIn (row : Text) : Text := trim (row.take 28)

/-- The source that a row states, in front of its line end. -/
def sourceIn (row : Text) : Text := trim ((row.drop (row.length - 11)).take 10)

/-- The source that is stated of all settings. -/
def statedSource (isThere : Bool) : Text := if isThere then "config" else "default"

/-- The names of the settings, in order. -/
def settingNames : List Text := "api_url" :: "timeout" :: "always_log" :: "log_file" ::
  RuleLevels.names.map ("rules.".toList ++ ·)

theorem map_settingValues (settings : Settings) :
    (plainValues settings ++ ruleValues settings).map Prod.fst = settingNames := rfl

theorem map_origins (origins : Origins) : origins.toList.map Prod.fst = settingNames := rfl

/-- A text that can be read off a column of a width. -/
structure FitsColumn (width : Nat) (t : Text) : Prop where
  /-- It is not too long. -/
  length : (padRight width t).length = width
  /-- It has no blank at an end. -/
  trim : trim (padRight width t) = t
  /-- The console leaves it as it is. -/
  steady : (padRight width t).all isSteady = true
  /-- It has no line feed and no closing bracket. -/
  inside : '\n' ∉ padRight width t ∧ ']' ∉ padRight width t

theorem fitsColumn_of_mem_settingNames : ∀ name ∈ settingNames, FitsColumn 28 name := by
  have hall : ∀ name ∈ settingNames, (padRight 28 name).length = 28 ∧
      trim (padRight 28 name) = name ∧ (padRight 28 name).all isSteady = true ∧
      '\n' ∉ padRight 28 name ∧ ']' ∉ padRight 28 name := by decide
  intro name hname
  obtain ⟨hlength, htrim, hsteady, hinside⟩ := hall name hname
  exact ⟨hlength, htrim, hsteady, hinside⟩

theorem fitsColumn_statedSource (isThere : Bool) : FitsColumn 10 (statedSource isThere) := by
  cases isThere with
  | true => exact ⟨rfl, by decide, by decide, by decide⟩
  | false => exact ⟨rfl, by decide, by decide, by decide⟩

theorem columns_of_row {name value source line : Text} (hname : FitsColumn 28 name)
    (hsource : FitsColumn 10 source)
    (h : endless.output (settingRow name value source) = .ok line) :
    nameIn line = name ∧ sourceIn line = source := by
  rw [settingRow_eq, List.append_assoc, List.singleton_append] at h
  obtain ⟨⟨more, hfront⟩, back, hback⟩ := Console.columns_of_output hname.steady
    (isSteady_append (isSteady_blanks _) hsource.steady)
    (by simp [List.mem_replicate, hsource.inside.2])
    (by simp [List.mem_replicate, hname.inside.1, hsource.inside.1]) h
  constructor
  · have htake : line.take 28 = padRight 28 name := by
      rw [← hfront, List.append_assoc, List.take_left' hname.length]
    rw [nameIn, htake, hname.trim]
  · have hline : line = (back ++ ' ' :: List.replicate (28 - value.length) ' ') ++
        (padRight 10 source ++ ['\n']) := by
      rw [← hback]
      simp only [List.append_assoc, List.cons_append]
    have hdrop : line.drop (line.length - 11) = padRight 10 source ++ ['\n'] := by
      have hlength : (padRight 10 source ++ ['\n']).length = 11 := by
        rw [List.length_append, hsource.length]
        rfl
      rw [hline, List.length_append, hlength, Nat.add_sub_cancel, List.drop_left]
    rw [sourceIn, hdrop, List.take_left' hsource.length, hsource.trim]

/-! ## What a row tells -/

/-- What the source that is stated of all settings stands for. -/
def statedOrigin (isThere : Bool) : Origin := if isThere then .file else .default

/-- A row tells where its setting was taken from: the source is the file exactly if it was taken
from the file, and it is the default only if it was taken from nowhere. -/
structure Tells (row : Text) (origin : Origin) : Prop where
  /-- The file is named exactly if it is the origin. -/
  file : sourceIn row = "config" ↔ origin = .file
  /-- The default is named only if it is. -/
  default : sourceIn row = "default" → origin = .default

theorem tells_iff {row : Text} {isThere : Bool} (h : sourceIn row = statedSource isThere)
    (origin : Origin) : Tells row origin ↔ origin = statedOrigin isThere := by
  have hne : ("default" : Text) ≠ "config" := by decide
  cases isThere with
  | true =>
    have hconfig : sourceIn row = "config" := h
    constructor
    · intro htells
      exact htells.file.1 hconfig
    · rintro rfl
      exact ⟨iff_of_true hconfig rfl, fun hdefault => absurd (hdefault.symm.trans hconfig) hne⟩
  | false =>
    have hdefault : sourceIn row = "default" := h
    constructor
    · intro htells
      exact htells.default hdefault
    · rintro rfl
      exact ⟨iff_of_false (fun hconfig => hne (hdefault.symm.trans hconfig)) nofun, fun _ => rfl⟩

theorem tableLines_eq (s : Surroundings) (folder : Text) (settings : Settings) :
    s.tableLines folder settings = topLines (s.settingsPath folder) (s.hasSettings folder) ++
      (settingRows settings (s.hasSettings folder) ++ [bottomLine]) := List.append_assoc ..

theorem length_settingRows (settings : Settings) (isThere : Bool) :
    (settingRows settings isThere).length = settingNames.length := by
  rw [settingRows, List.length_map, ← map_settingValues settings, List.length_map]

/-- The fifth line of the table and those below it are the rows, one for each setting. -/
theorem tableLines_row {k : Nat} {t name : Text}
    (ht : (s.tableLines folder settings)[k + 4]? = some t) (hname : settingNames[k]? = some name) :
    ∃ value, t = settingRow name value (statedSource (s.hasSettings folder)) := by
  have hk : k < (settingRows settings (s.hasSettings folder)).length := by
    rw [length_settingRows]
    exact (List.getElem?_eq_some_iff.1 hname).1
  have htop : (topLines (s.settingsPath folder) (s.hasSettings folder)).length = 4 := rfl
  rw [tableLines_eq, List.getElem?_append_right (htop ▸ Nat.le_add_left 4 k), htop,
    Nat.add_sub_cancel, List.getElem?_append_left hk, settingRows, List.getElem?_map] at ht
  rw [← map_settingValues settings, List.getElem?_map] at hname
  obtain ⟨⟨name', value⟩, hvalue, rfl⟩ := Option.map_eq_some_iff.1 hname
  rw [hvalue] at ht
  exact ⟨value, (Option.some.inj ht).symm⟩

/-- What is put out of such a line names its setting, and it tells the origin that is stated of all
settings and no other one. -/
theorem row_of_output {k : Nat} {t name line : Text}
    (ht : (s.tableLines folder settings)[k + 4]? = some t) (hname : settingNames[k]? = some name)
    (hout : endless.output t = .ok line) :
    nameIn line = name ∧
      ∀ origin, Tells line origin ↔ origin = statedOrigin (s.hasSettings folder) := by
  obtain ⟨value, rfl⟩ := tableLines_row ht hname
  have hfits := fitsColumn_of_mem_settingNames name (List.mem_of_getElem? hname)
  obtain ⟨hnamed, hsource⟩ := columns_of_row hfits (fitsColumn_statedSource _) hout
  exact ⟨hnamed, tells_iff hsource⟩

/-- What is printed of a table. -/
theorem exists_trace_listSettings (hload : (s.load folder).outcome = .ok settings) :
    ∃ shown : List Text,
      (listSettings s folder).trace = (s.load folder).trace ++ shown.map .printed ∧
      ((listSettings s folder).outcome = .ok () →
        shown.length = (s.tableLines folder settings).length) ∧
      ∀ (k : Nat) (line : Text), shown[k]? = some line →
        ∃ t, (s.tableLines folder settings)[k]? = some t ∧ endless.output t = .ok line := by
  obtain ⟨shown, htrace, hlength, hlines⟩ :=
    Console.exists_trace_each_print endless (s.tableLines folder settings)
  obtain ⟨hrun, houtcome⟩ := Run.eq_mk_iff.1 (listSettings_of_load hload)
  refine ⟨shown, hrun.trans (congrArg (_ ++ ·) htrace), fun h => hlength ?_, hlines⟩
  exact houtcome.symm.trans h

/-- Let settings be loaded.  There is one origin for each of them and no other one.  The rows that
are shown are for the settings in order, and there is one for each if all goes well.  A row tells
where its setting was taken from exactly if that is what is stated of all settings: the file if
there is something at its path, and else the default. -/
theorem listSettings_sources_iff (hload : (s.load folder).outcome = .ok settings) :
    ∃ (origins : Origins) (shown : List Text),
      HasOrigins s.environment (s.files.find? (s.settingsPath folder)) settings origins ∧
      (∀ o, HasOrigins s.environment (s.files.find? (s.settingsPath folder)) settings o →
        o = origins) ∧
      (listSettings s folder).trace = (s.load folder).trace ++ shown.map .printed ∧
      ((listSettings s folder).outcome = .ok () → 4 + origins.toList.length < shown.length) ∧
      ∀ (k : Nat) (line name : Text) (origin : Origin), shown[k + 4]? = some line →
        origins.toList[k]? = some (name, origin) →
        nameIn line = name ∧
          (Tells line origin ↔ origin = statedOrigin (s.hasSettings folder)) := by
  obtain ⟨origins, horigins, hunique⟩ := Settings.existsUnique_origins_of_load hload
  obtain ⟨shown, htrace, hlength, hlines⟩ := exists_trace_listSettings hload
  refine ⟨origins, shown, horigins, hunique, htrace, fun h => ?_,
    fun k line name origin hline hname => ?_⟩
  · rw [hlength h, tableLines_eq, List.length_append, List.length_append, length_settingRows,
      ← map_origins origins, List.length_map]
    exact Nat.lt_succ_self _
  · obtain ⟨t, ht, hout⟩ := hlines _ _ hline
    have hsetting : settingNames[k]? = some name := by
      rw [← map_origins origins, List.getElem?_map, hname, Option.map_some]
    obtain ⟨hnamed, htells⟩ := row_of_output ht hsetting hout
    exact ⟨hnamed, htells origin⟩

/-- Surroundings with a time to wait in the file and other settings in the environment. -/
def waiting : Surroundings where
  files := ⟨[], [([Settings.fileName], .file (.text Settings.waitingFile))]⟩
  environment := Settings.impatient
  network _ := .response 404 none []
  repository := none
  installation := default
  now := default

/-- The settings that are loaded there. -/
def waitingSettings : Settings :=
  ⟨"https://tracker.example", .ofInt 4, .default, true, none⟩

theorem find_waiting : waiting.files.find? (waiting.settingsPath ['.']) =
    some (.file (.text Settings.waitingFile)) := by
  decide +kernel

theorem hasSettings_waiting : waiting.hasSettings ['.'] = true :=
  congrArg Option.isSome find_waiting

theorem load_waiting : waiting.load ['.'] = ⟨[], .ok waitingSettings⟩ := by
  have hpath : (waiting.settingsPath ['.']).text = "/.gitcommitlint.toml" := by decide
  have hdocument : Settings.ofDocument Settings.impatient "/.gitcommitlint.toml"
      Settings.waitingDocument = ⟨[], .ok waitingSettings⟩ := by
    refine Run.eq_mk_iff.2 ⟨?_, eq_ok_of_toOption ?_⟩
    · decide +kernel
    · decide +kernel
  rw [← hdocument, ← Settings.load_of_parse Settings.parse_waitingFile, ← hpath, ← find_waiting]
  rfl

theorem outcome_load_waiting : (waiting.load ['.']).outcome = .ok waitingSettings :=
  congrArg Run.outcome load_waiting

theorem listSettings_sources_iff_waiting :
    ∃ (origins : Origins) (shown : List Text),
      HasOrigins Settings.impatient (some (.file (.text Settings.waitingFile))) waitingSettings
        origins ∧
      (listSettings waiting ['.']).trace = shown.map .printed ∧
      ∀ (k : Nat) (line name : Text) (origin : Origin), shown[k + 4]? = some line →
        origins.toList[k]? = some (name, origin) →
        nameIn line = name ∧ (Tells line origin ↔ origin = .file) := by
  obtain ⟨origins, shown, horigins, -, htrace, -, hrows⟩ :=
    listSettings_sources_iff outcome_load_waiting
  have hnothing : (waiting.load ['.']).trace = [] := congrArg Run.trace load_waiting
  rw [hnothing, List.nil_append] at htrace
  rw [hasSettings_waiting] at hrows
  rw [find_waiting] at horigins
  exact ⟨origins, shown, horigins, htrace, hrows⟩

/-- Where the settings of these surroundings were taken from. -/
def waitingOrigins : Origins := ⟨.environment, .file, .environment, .default, .default, .default⟩

theorem hasOrigins_waiting :
    HasOrigins Settings.impatient (some (.file (.text Settings.waitingFile))) waitingSettings
      waitingOrigins := by
  have hyields : Settings.Yields Settings.waitingDocument [("timeout", .float (.ofInt 4))] :=
    ⟨⟨[("timeout", .float (.ofInt 4))], false⟩, rfl, rfl, rfl⟩
  refine ⟨_, .read Settings.parse_waitingFile hyields, ?_, ?_, ?_, ?_, ?_, ?_⟩
  · exact .environment rfl
  · exact .file nofun (by decide +kernel)
  · exact .environment rfl
  · exact .absent
  · exact .absent
  · exact .absent

/-- All lines of their table are shown. -/
theorem outcome_waiting : (listSettings waiting ['.']).outcome = .ok () := by
  have htable : waiting.tableLines ['.'] waitingSettings =
      settingLines waitingSettings ⟨['/'], [Settings.fileName]⟩ true := by
    rw [Surroundings.tableLines, hasSettings_waiting]
    rfl
  have hlines : (Run.each endless.print
      (settingLines waitingSettings ⟨['/'], [Settings.fileName]⟩ true)).outcome.toOption =
        some () := by
    decide +kernel
  obtain ⟨-, houtcome⟩ := Run.eq_mk_iff.1 (listSettings_of_load outcome_load_waiting)
  rw [← htable] at hlines
  exact houtcome.trans (eq_ok_of_toOption hlines)

/-- A file with one setting makes the table name it as the source of all the others. -/
theorem not_forall_row_tells :
    ¬∀ (s : Surroundings) (folder : Text) (settings : Settings) (origins : Origins)
      (shown : List Text), (s.load folder).outcome = .ok settings →
      HasOrigins s.environment (s.files.find? (s.settingsPath folder)) settings origins →
      (listSettings s folder).trace = (s.load folder).trace ++ shown.map .printed →
      ∀ (k : Nat) (line name : Text) (origin : Origin), shown[k + 4]? = some line →
        origins.toList[k]? = some (name, origin) → Tells line origin := by
  intro h
  have horigins : HasOrigins waiting.environment
      (waiting.files.find? (waiting.settingsPath ['.'])) waitingSettings waitingOrigins := by
    rw [find_waiting]
    exact hasOrigins_waiting
  obtain ⟨shown, htrace, hlength, hlines⟩ := exists_trace_listSettings outcome_load_waiting
  -- the row for the address, which is that of the environment
  have hfirst : 4 < shown.length := by
    rw [hlength outcome_waiting, tableLines_eq, List.length_append]
    exact Nat.lt_add_of_pos_right (Nat.succ_pos _)
  have hline := List.getElem?_eq_getElem hfirst
  have htells := h _ _ _ _ _ outcome_load_waiting horigins htrace 0 _ _ _ hline rfl
  obtain ⟨t, ht, hout⟩ := hlines _ _ hline
  have horigin := ((row_of_output (k := 0) ht rfl hout).2 _).1 htells
  rw [hasSettings_waiting] at horigin
  cases horigin

end Cli

end CommitCheck
