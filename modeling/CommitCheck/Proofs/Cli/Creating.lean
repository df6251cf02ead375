import CommitCheck.Proofs.Cli.Offline
import CommitCheck.Proofs.Cli.Words
import CommitCheck.Proofs.Settings.Default

/-!
# Creating a file of settings

An invocation that creates leaves the files as they are if there is something at the path of the
file of settings.  Otherwise there is a file with settings there afterwards, whatever becomes of
the line that says so.

The settings that are written are not the defaults.  They are what the environment makes where
nothing is given, and they are loaded again in every environment that sets no variable.  So they are
the defaults exactly if the environment says nothing else (`run_creates_iff`), and a time to wait
that one user has set goes into the file of all users (`not_forall_creates_default`).
-/

namespace CommitCheck

open Console (endless)

/-! ## Runs that change no file -/

/-- No event of the run changes files. -/
def Run.KeepsFiles {α : Type} (r : Run α) : Prop := ∀ e ∈ r.trace, ∀ fs : Files, fs.after e = fs

namespace Run.KeepsFiles

variable {α β : Type} {r : Run α}

theorem of_onlyPrints (h : r.OnlyPrints) : r.KeepsFiles := by
  intro e he fs
  obtain ⟨t, rfl⟩ := h e he
  rfl

theorem bind {f : α → Run β} (hr : r.KeepsFiles) (hf : ∀ a, (f a).KeepsFiles) :
    (r >>= f).KeepsFiles := Run.forall_mem_trace_bind hr hf

theorem replay_eq (h : r.KeepsFiles) (fs : Files) : fs.replay r.trace = fs :=
  Files.replay_eq_self fun e he => h e he fs

end Run.KeepsFiles

namespace Cli

theorem keepsFiles_print (t : Text) : (endless.print t).KeepsFiles :=
  .of_onlyPrints (endless.onlyPrints_print t)

theorem keepsFiles_report (e : Failure) : (report e).KeepsFiles := by
  have hdone : ∀ status : Nat, (pure status : Run Nat).KeepsFiles := fun _ _ he =>
    absurd he List.not_mem_nil
  unfold report
  split
  · exact (keepsFiles_print _).bind fun _ => hdone _
  · refine (keepsFiles_print _).bind fun _ => ?_
    split
    · exact hdone _
    · refine Run.KeepsFiles.bind (fun e he fs => ?_) fun _ => hdone _
      obtain rfl := List.mem_singleton.1 he
      rfl

/-- What is said of a failure changes no file. -/
theorem replay_carryOut (fs : Files) (s : Surroundings) (i : Invocation) :
    fs.replay (carryOut s i).trace = fs.replay (perform s i).trace := by
  cases h : (perform s i).outcome with
  | ok status => rw [carryOut_of_ok h]
  | error e =>
    rw [carryOut_of_error h]
    dsimp only
    rw [Files.replay_append]
    exact (keepsFiles_report e).replay_eq _

/-! ## Invocations that create -/

/-- The invocation asks for a file of settings, and for nothing that comes before it. -/
structure Invocation.Creates (i : Invocation) : Prop where
  /-- It does not ask for the version. -/
  version : i.version = false
  /-- It does not ask for a newer version. -/
  update : i.update = false
  /-- It does not ask for the settings. -/
  list : i.list = false
  /-- It asks for a file of settings. -/
  create : i.create = true

variable {s : Surroundings} {words : List Text} {i : Invocation} {settings : Settings}

theorem Invocation.Creates.perform_eq (h : i.Creates) (s : Surroundings) :
    perform s i = (createSettings s i.path >>= fun _ => pure passed) := by
  simp [perform, h.version, h.update, h.list, h.create]

/-- All that such an invocation does to files is done where the file of settings is created. -/
theorem replay_run (hreads : Request.read s.files words = .ok (.work i)) (hcreates : i.Creates)
    (fs : Files) : fs.replay (run s words).trace = fs.replay (createSettings s i.path).trace := by
  have hrun : run s words = carryOut s i := by rw [run, hreads]
  have htrace : (perform s i).trace = (createSettings s i.path).trace := by
    rw [hcreates.perform_eq, Run.bind_pure_eq (f := fun _ => passed)]
  rw [hrun, replay_carryOut, htrace]

/-! ## The path of the file -/

/-- An invocation that was read is that of options whose paths are of use. -/
theorem exists_given_of_read {files : Files} (h : Request.read files words = .ok (.work i)) :
    ∃ g, badPath? files g = none ∧ i = .ofGiven g := by
  obtain ⟨g, -, h⟩ := Result.bind_eq_ok_iff.1 h
  exact ⟨g, Request.eq_ofGiven_of_work h⟩

/-- The folder that is given to work in is there. -/
theorem findText?_of_given {files : Files} {g : Given} {folder : Text}
    (hbad : badPath? files g = none) (hfolder : g.value? .path = some folder) :
    files.findText? folder = some .folder := by
  have hmem : Purpose.path ∈ g.purposes := by
    obtain ⟨before, after, hsplit, -⟩ := List.lookup_eq_some_iff.1 hfolder
    have hoption : (Purpose.path, folder) ∈ g.options := by
      rw [← List.mem_reverse, hsplit]
      exact List.mem_append_right before List.mem_cons_self
    exact List.mem_eraseDups.2 (List.mem_map_of_mem hoption)
  have hnone := List.findSome?_eq_none_iff.1 hbad _ hmem
  dsimp only at hnone
  rw [Option.map_eq_none_iff, hfolder, Option.getD_some, pathFault?] at hnone
  split at hnone
  · cases hnone
  · unfold entryFault? at hnone
    cases hfound : files.findText? folder with
    | none =>
      rw [hfound] at hnone
      cases hnone
    | some e =>
      cases e with
      | folder => rfl
      | file c =>
        rw [hfound] at hnone
        cases hnone

/-- The folder that an invocation works in is there. -/
theorem find?_of_read (hrooted : s.files.IsRooted)
    (hreads : Request.read s.files words = .ok (.work i)) :
    s.files.find? (.ofText i.path) = some .folder := by
  obtain ⟨g, hbad, rfl⟩ := exists_given_of_read hreads
  show s.files.find? (.ofText ((g.value? .path).getD ['.'])) = some .folder
  cases hfolder : g.value? .path with
  | none => exact hrooted.folder
  | some folder => exact Files.find?_of_findText? (findText?_of_given hbad hfolder)

/-- The path of the file of settings can be written and read again. -/
theorem ofText_settingsPath (hrooted : s.files.IsRooted) (folder : Text) :
    Path.ofText (s.settingsPath folder).text = s.settingsPath folder := by
  have hname : Path.AreNames [Settings.fileName] := by
    refine List.forall_mem_singleton.2 ?_
    decide
  unfold Surroundings.settingsPath Files.absolute
  split
  · refine Path.ofText_text (Path.root_ofText folder) ?_
    exact List.forall_mem_append.2 ⟨Path.areNames_ofText folder, hname⟩
  · refine Path.ofText_text (.inr (.inl rfl)) ?_
    exact List.forall_mem_append.2 ⟨List.forall_mem_append.2
      ⟨hrooted.names, Path.areNames_ofText folder⟩, hname⟩

theorem canWrite_settingsPath (hrooted : s.files.IsRooted) {folder : Text}
    (hfolder : s.files.find? (.ofText folder) = some .folder)
    (hnone : s.files.find? (s.settingsPath folder) = none) :
    s.files.CanWrite (s.settingsPath folder) := by
  refine Files.canWrite_of_parent ?_ ?_
  · have hparent : (s.settingsPath folder).parent = s.files.absolute (.ofText folder) :=
      Path.parent_child _ _
    rw [hparent, Files.find?_absolute hrooted, hfolder]
  · rw [hnone]
    exact nofun

/-! ## The file -/

/-- Where there is something at the path, no file is changed. -/
theorem keepsFiles_createSettings {folder : Text} {e : Entry}
    (h : s.files.find? (s.settingsPath folder) = some e) :
    (createSettings s folder).KeepsFiles := by
  unfold createSettings
  dsimp only
  rw [h, Option.isSome_some, if_pos rfl]
  exact keepsFiles_print _

/-- Where nothing is, what the environment makes is saved, and all the rest is said. -/
theorem replay_createSettings {folder : Text}
    (h : s.files.find? (s.settingsPath folder) = none)
    (hmade : Settings.ofFields s.environment [] = .ok settings) (fs : Files) :
    fs.replay (createSettings s folder).trace =
      fs.after (.wrote (s.settingsPath folder).text settings.saved.fileText) := by
  obtain ⟨warnings, hsave⟩ := settings.exists_save_eq (s.settingsPath folder).text
  have hwarned : ∀ e ∈ warnings.map Event.printed, fs.after e = fs := by
    intro e he
    obtain ⟨t, -, rfl⟩ := List.mem_map.1 he
    rfl
  unfold createSettings
  dsimp only
  rw [h, Option.isSome_none, if_neg Bool.false_ne_true, hmade, Run.bind_ofExcept_ok, hsave,
    Run.bind_ok]
  dsimp only
  rw [Files.replay_append, Files.replay_append, Files.replay_eq_self hwarned]
  exact (keepsFiles_print _).replay_eq _

/-- The surroundings after events, in an environment of their own. -/
def Surroundings.later (s : Surroundings) (trace : List Event) (env : Environment) : Surroundings :=
  { s with files := s.files.replay trace, environment := env }

/-- Where nothing was, there is a file with what the environment makes, and that is loaded later
where no variable is set. -/
theorem later_of_creates (hrooted : s.files.IsRooted)
    (hreads : Request.read s.files words = .ok (.work i)) (hcreates : i.Creates)
    (hmade : Settings.ofFields s.environment [] = .ok settings)
    (hnone : s.files.find? (s.settingsPath i.path) = none) :
    (s.files.replay (run s words).trace).find? (s.settingsPath i.path) =
        some (.file (.text settings.saved.fileText)) ∧
      ∀ env : Environment, (∀ v ∈ Settings.settingVariables, env.lookup v.name = none) →
        (s.later (run s words).trace env).load i.path = ⟨[], .ok settings.saved⟩ := by
  have hwrite := canWrite_settingsPath hrooted (find?_of_read hrooted hreads) hnone
  rw [← ofText_settingsPath hrooted] at hwrite
  have hreplay : s.files.replay (run s words).trace =
      s.files.after (.wrote (s.settingsPath i.path).text settings.saved.fileText) := by
    rw [replay_run hreads hcreates, replay_createSettings hnone hmade]
  have hfound := Files.find?_after_wrote hwrite settings.saved.fileText
  rw [← hreplay, ofText_settingsPath hrooted] at hfound
  refine ⟨hfound, fun env henv => ?_⟩
  have hpath : (s.later (run s words).trace env).settingsPath i.path = s.settingsPath i.path := by
    unfold Surroundings.settingsPath Files.absolute Surroundings.later
    dsimp only
    rw [hreplay, Files.here_after_wrote]
  unfold Surroundings.load
  dsimp only
  rw [hpath]
  unfold Surroundings.later
  dsimp only
  rw [hfound]
  exact Settings.load_saved hmade henv _

/-- An invocation that creates changes no file if there is something at the path of the file of
settings.  If nothing is there, and settings can be made where nothing is given, there is a file
afterwards, and what is saved of these settings is loaded from it without a warning in every
environment that sets no variable.  That is the default exactly if the environment of the
invocation says nothing else. -/
theorem run_creates_iff (hrooted : s.files.IsRooted)
    (hreads : Request.read s.files words = .ok (.work i)) (hcreates : i.Creates) :
    (∀ e, s.files.find? (s.settingsPath i.path) = some e →
      s.files.replay (run s words).trace = s.files) ∧
    ∀ settings, Settings.ofFields s.environment [] = .ok settings →
      s.files.find? (s.settingsPath i.path) = none →
      (∃ t, (s.files.replay (run s words).trace).find? (s.settingsPath i.path) =
          some (.file (.text t))) ∧
        (∀ env : Environment, (∀ v ∈ Settings.settingVariables, env.lookup v.name = none) →
          (s.later (run s words).trace env).load i.path = ⟨[], .ok settings.saved⟩) ∧
        (settings.saved = Settings.default ↔ Settings.SaysDefaults s.environment) := by
  constructor
  · intro e hthere
    rw [replay_run hreads hcreates]
    exact (keepsFiles_createSettings hthere).replay_eq s.files
  · intro settings hmade hnone
    obtain ⟨hfile, hload⟩ := later_of_creates hrooted hreads hcreates hmade hnone
    exact ⟨⟨_, hfile⟩, hload, Settings.saved_eq_default_iff hmade⟩

/-- Surroundings with some entries and an environment. -/
def around (entries : List (List Text × Entry)) (env : Environment) : Surroundings where
  files := ⟨["repo"], entries⟩
  environment := env
  network _ := .response 404 none []
  repository := none
  installation := default
  now := default

/-- Surroundings without files, and with no variable set. -/
def calm : Surroundings := around [] []

/-- Surroundings without files, and with a time to wait. -/
def hurried : Surroundings := around [] Settings.hasty

/-- The same with a file of settings that is not text. -/
def settled : Surroundings := around [(["repo", Settings.fileName], .file .binary)] Settings.hasty

theorem isRooted_calm : calm.files.IsRooted :=
  ⟨List.forall_mem_singleton.2 (by decide), rfl, rfl⟩

theorem isRooted_settled : settled.files.IsRooted :=
  ⟨List.forall_mem_singleton.2 (by decide), by decide, by decide⟩

/-- The invocation that the word for creating asks for. -/
def creating : Invocation := .ofGiven ⟨[(.create, [])], []⟩

theorem reads_creating (files : Files) :
    Request.read files ["--init-config"] = .ok (.work creating) := rfl

theorem creates_creating : creating.Creates := ⟨rfl, rfl, rfl, rfl⟩

/-- The settings that are made with that time to wait. -/
def hurriedSettings : Settings := { Settings.default with timeout := .ofDecimal false 25 (-1) }

theorem ofFields_calm : Settings.ofFields calm.environment [] = .ok Settings.default := by
  decide +kernel

theorem ofFields_hurried : Settings.ofFields hurried.environment [] = .ok hurriedSettings := by
  decide +kernel

theorem unset_nil : ∀ v ∈ Settings.settingVariables, ([] : Environment).lookup v.name = none :=
  fun _ _ => rfl

theorem run_creates_iff_hurried :
    settled.files.replay (run settled ["--init-config"]).trace = settled.files ∧
      (calm.later (run calm ["--init-config"]).trace []).load ['.'] =
        ⟨[], .ok Settings.default⟩ ∧
      (hurried.later (run hurried ["--init-config"]).trace []).load ['.'] =
        ⟨[], .ok hurriedSettings⟩ := by
  obtain ⟨hsettled, -⟩ := run_creates_iff isRooted_settled (reads_creating _) creates_creating
  obtain ⟨-, hcalm⟩ := run_creates_iff isRooted_calm (reads_creating _) creates_creating
  obtain ⟨-, hhurried⟩ := run_creates_iff (s := hurried) isRooted_calm (reads_creating _)
    creates_creating
  obtain ⟨-, hcalm, -⟩ := hcalm _ ofFields_calm rfl
  obtain ⟨-, hhurried, -⟩ := hhurried _ ofFields_hurried rfl
  have hpath : creating.path = ['.'] := rfl
  rw [Settings.saved_eq_self rfl, hpath] at hcalm
  rw [Settings.saved_eq_self rfl, hpath] at hhurried
  exact ⟨hsettled (.file .binary) (by decide), hcalm [] unset_nil, hhurried [] unset_nil⟩

/-- A time to wait that is set when the file is created goes into the file. -/
theorem not_forall_creates_default :
    ¬∀ (s : Surroundings) (words : List Text) (i : Invocation) (settings : Settings)
      (env : Environment), s.files.IsRooted → Request.read s.files words = .ok (.work i) →
      i.Creates → Settings.ofFields s.environment [] = .ok settings →
      s.files.find? (s.settingsPath i.path) = none →
      (∀ v ∈ Settings.settingVariables, env.lookup v.name = none) →
      ((s.later (run s words).trace env).load i.path).outcome = .ok Settings.default := by
  intro h
  have hdefault := h hurried ["--init-config"] creating hurriedSettings [] isRooted_calm
    (reads_creating _) creates_creating ofFields_hurried rfl unset_nil
  obtain ⟨-, hload⟩ := later_of_creates (s := hurried) isRooted_calm (reads_creating _)
    creates_creating ofFields_hurried rfl
  rw [hload [] unset_nil] at hdefault
  exact absurd (Except.ok.inj hdefault) (by decide +kernel)

end Cli

end CommitCheck
