import CommitCheck.Proofs.Settings.Log
import CommitCheck.Settings.Session

/-!
# Working with settings over time

Whatever is done with settings, those at hand wait a time greater than zero, since each operation
keeps that (`IsSound.perform`).  Hence what they write reads back, and no operation of a session
writes a path of the log that is not safe (`hasSafeLog_of_perform`, `hasSafeLog_of_trace`).

`log_stays_inside` puts the three ways of a path together: what settings answer, what they write
and what they take from a file.
-/

namespace CommitCheck.Settings.Session

variable {s : Session} {settings : Settings}

/-! ## One operation -/

/-- The settings at hand, if there are some, wait a time greater than zero. -/
def IsSound (s : Session) : Prop :=
  ∀ settings, s.current = some settings → settings.timeout.isPositive = true

theorem isSound_start (path : Text) (env : Environment) (entry : Option Entry) :
    (start path env entry).IsSound := nofun

theorem trace_adopt (s : Session) (r : Run Settings) : (s.adopt r).2.trace = r.trace :=
  congrArg Run.trace (Run.bind_pure_eq (r := r) (f := Answer.settings))

theorem adopt_of_ok {r : Run Settings} (h : r.outcome = .ok settings) :
    s.adopt r = ({ s with current := some settings }, ⟨r.trace, .ok (.settings settings)⟩) := by
  have hanswer : (r >>= fun settings => pure (.settings settings) : Run Answer) =
      ⟨r.trace, .ok (.settings settings)⟩ := by
    rw [Run.bind_pure_eq, h]
    rfl
  unfold adopt
  rw [hanswer, h]

theorem outcome_adopt_eq_ok {r : Run Settings}
    (h : (s.adopt r).2.outcome = .ok (.settings settings)) : r.outcome = .ok settings := by
  obtain ⟨made, hmade, h⟩ := Run.bind_eq_ok_iff.1 h
  obtain rfl := Answer.settings.inj (Except.ok.inj h)
  exact hmade

theorem IsSound.adopt (h : s.IsSound) {r : Run Settings}
    (hr : ∀ settings, r.outcome = .ok settings → settings.timeout.isPositive = true) :
    (s.adopt r).1.IsSound := by
  unfold Session.adopt
  cases hmade : r.outcome with
  | error e => exact h
  | ok made =>
    intro settings hsettings
    obtain rfl := Option.some.inj hsettings
    exact hr made hmade

theorem current_ask (s : Session) (question : Settings → Run Answer) :
    (s.ask question).1.current = s.current := by
  unfold ask
  split
  · rfl
  · rfl

theorem ask_of_current (h : s.current = some settings) (question : Settings → Run Answer) :
    (s.ask question).2 = question settings := by
  unfold ask
  rw [h]

/-- What is in the trace of a question was left by the settings at hand. -/
theorem exists_of_mem_ask {e : Event} {question : Settings → Run Answer}
    (h : e ∈ (s.ask question).2.trace) :
    ∃ settings, s.current = some settings ∧ e ∈ (question settings).trace := by
  cases hcurrent : s.current with
  | none =>
    unfold ask at h
    rw [hcurrent] at h
    cases h
  | some settings => exact ⟨settings, rfl, ask_of_current hcurrent question ▸ h⟩

/-- Every operation leaves settings at hand that wait a time greater than zero. -/
theorem IsSound.perform (h : s.IsSound) (op : Operation) : (s.perform op).1.IsSound := by
  have hask (question : Settings → Run Answer) : (s.ask question).1.IsSound :=
    fun settings hsettings => h settings ((current_ask s question).symm.trans hsettings)
  cases op with
  | setEnvironment env => exact h
  | replaceFile entry => exact h
  | make given => exact h.adopt fun _ => isPositive_of_ofFields
  | load =>
    refine h.adopt fun settings hload => ?_
    obtain ⟨given, hgiven⟩ := exists_ofFields_of_load hload
    exact isPositive_of_ofFields hgiven
  | save => exact hask _
  | levelOf name => exact hask _
  | logPath now => exact hask _

/-- What an operation writes has no path of the log but a safe or empty one. -/
theorem hasSafeLog_of_perform (h : s.IsSound) {op : Operation} {p t : Text}
    (hwrote : .wrote p t ∈ (s.perform op).2.trace) : HasSafeLog t := by
  cases op with
  | setEnvironment env => cases hwrote
  | replaceFile entry => cases hwrote
  | make given =>
    rw [perform, trace_adopt] at hwrote
    cases hwrote
  | load =>
    rw [perform, trace_adopt] at hwrote
    exact absurd hwrote ((onlyPrints_load _ _ _).not_wrote p t)
  | save =>
    obtain ⟨settings, hcurrent, hwrote⟩ := exists_of_mem_ask hwrote
    rw [Run.bind_pure_eq (f := fun _ => Answer.done)] at hwrote
    exact hasSafeLog_of_save (h settings hcurrent) hwrote
  | levelOf name =>
    obtain ⟨settings, -, hwrote⟩ := exists_of_mem_ask hwrote
    cases hwrote
  | logPath now =>
    obtain ⟨settings, -, hwrote⟩ := exists_of_mem_ask hwrote
    rw [Run.bind_pure_eq] at hwrote
    exact absurd hwrote ((onlyPrints_logPath _ _).not_wrote p t)

/-! ## All operations of a session -/

theorem hasSafeLog_of_trace (h : s.IsSound) {ops : List Operation} {p t : Text}
    (hwrote : .wrote p t ∈ s.trace ops) : HasSafeLog t := by
  induction ops generalizing s with
  | nil => cases hwrote
  | cons op ops ih =>
    rcases List.mem_append.1 hwrote with hwrote | hwrote
    · exact hasSafeLog_of_perform h hwrote
    · exact ih (h.perform op) hwrote

/-! ## The ways of a path -/

/-- The settings at hand answer with no path of the log or one inside the working folder. -/
theorem logPath_of_current (h : s.current = some settings) (now : Moment) :
    ∃ p, (s.perform (.logPath now)).2.outcome = .ok (.path p) ∧ ∀ t ∈ p, Path.IsInner t := by
  obtain ⟨p, hp, hinner⟩ := logPath_isInner settings now
  refine ⟨p, ?_, hinner⟩
  rw [perform, ask_of_current h, Run.bind_pure_eq, hp]
  rfl

/-- Settings that are loaded take from a file what `takenLog` says. -/
theorem logFile_of_perform_load {t : Text} {document : Fields} {v : Value}
    (hentry : s.entry = some (.file (.text t))) (hparse : Toml.parse t = .ok document)
    (hv : logEntry? document = some v)
    (h : (s.perform .load).2.outcome = .ok (.settings settings)) :
    settings.logFile = takenLog v := by
  have hload := outcome_adopt_eq_ok h
  rw [hentry] at hload
  exact logFile_of_load hparse hv hload

/-- No path of the log that is not safe comes out of settings, whatever was done with them.  When
they are asked for the path, they name none or one that leads to a place inside the working
folder.  What they write to a file has no path, an empty one or a safe one.  From a value in a
file they take nothing, or a text that was cleaned and is empty or safe. -/
theorem log_stays_inside (path : Text) (env : Environment) (entry : Option Entry)
    (ops : List Operation) :
    (∀ settings now, ((start path env entry).after ops).current = some settings →
      ∃ p, (((start path env entry).after ops).perform (.logPath now)).2.outcome = .ok (.path p) ∧
        ∀ t ∈ p, Path.IsInner t) ∧
    (∀ p t, .wrote p t ∈ (start path env entry).trace ops → HasSafeLog t) ∧
    ∀ t document v settings, ((start path env entry).after ops).entry = some (.file (.text t)) →
      Toml.parse t = .ok document → logEntry? document = some v →
      (((start path env entry).after ops).perform .load).2.outcome = .ok (.settings settings) →
      settings.logFile = takenLog v ∧
        ∀ p, settings.logFile = some p → cleaned p = p ∧ (p = [] ∨ isSafePath p = true) := by
  refine ⟨fun settings now hcurrent => logPath_of_current hcurrent now,
    fun p t => hasSafeLog_of_trace (isSound_start path env entry), ?_⟩
  intro t document v settings hentry hparse hv hload
  have htaken := logFile_of_perform_load hentry hparse hv hload
  exact ⟨htaken, fun p hp => safe_of_takenLog (htaken.symm.trans hp)⟩

/-- A path of the log that steps up once its control character is dropped. -/
def disguisedLog : Text := ['.', '\x01', '.', '/', 'u', 'p']

/-- A document of settings with that path. -/
def disguisedDocument : Fields := [(sectionName, .table [("log_file", .text disguisedLog)])]

/-- The file of that document. -/
def disguisedFile : Text := Toml.render [⟨[sectionName], [("log_file", .text disguisedLog)]⟩]

theorem parse_disguisedFile : Toml.parse disguisedFile = .ok disguisedDocument := by
  refine Toml.parse_render (d := ⟨disguisedDocument, [[sectionName]], [], [], [sectionName]⟩)
    (List.forall_mem_singleton.2 ⟨List.cons_ne_nil _ _, ?_⟩) rfl
  exact List.forall_mem_singleton.2 (.text disguisedLog)

theorem logEntry?_disguisedDocument : logEntry? disguisedDocument = some (.text disguisedLog) := rfl

/-- A session that starts with that file. -/
def disguised : Session := start fileName [] (some (.file (.text disguisedFile)))

theorem load_disguisedFile :
    (load disguised.environment disguised.path disguised.entry).outcome = .ok Settings.default := by
  have hdocument : (ofDocument [] fileName disguisedDocument).outcome = .ok Settings.default := by
    decide +kernel
  exact (congrArg Run.outcome (load_of_parse parse_disguisedFile [] fileName)).trans hdocument

/-- That session once the file was loaded. -/
def disguisedLoaded : Session := { disguised with current := some Settings.default }

theorem perform_load_disguised : (disguised.perform .load).1 = disguisedLoaded :=
  congrArg Prod.fst (adopt_of_ok (s := disguised) load_disguisedFile)

theorem perform_load_disguisedLoaded :
    (disguisedLoaded.perform .load).2.outcome = .ok (.settings Settings.default) := by
  have hadopt := adopt_of_ok (s := disguisedLoaded) load_disguisedFile
  exact congrArg (fun p => p.2.outcome) hadopt

theorem log_stays_inside_disguised :
    ∃ settings, (disguised.after [.load]).current = some settings ∧
      ((disguised.after [.load]).perform .load).2.outcome = .ok (.settings settings) ∧
      settings.logFile = takenLog (.text disguisedLog) ∧
      ∃ p, ((disguised.after [.load]).perform (.logPath ⟨2001, 2, 3, 4, 5, 6⟩)).2.outcome =
          .ok (.path p) ∧ ∀ t ∈ p, Path.IsInner t := by
  have hstart : start fileName [] (some (.file (.text disguisedFile))) = disguised := rfl
  have hafter : disguised.after [.load] = disguisedLoaded := perform_load_disguised
  have hcurrent : disguisedLoaded.current = some Settings.default := rfl
  have hentry : disguisedLoaded.entry = some (.file (.text disguisedFile)) := rfl
  obtain ⟨hasked, -, hloaded⟩ :=
    log_stays_inside fileName [] (some (.file (.text disguisedFile))) [.load]
  rw [hstart, hafter] at hasked hloaded
  rw [hafter]
  refine ⟨Settings.default, hcurrent, perform_load_disguisedLoaded, ?_, ?_⟩
  · exact (hloaded disguisedFile disguisedDocument (.text disguisedLog) Settings.default hentry
      parse_disguisedFile logEntry?_disguisedDocument perform_load_disguisedLoaded).1
  · exact hasked Settings.default _ hcurrent

end CommitCheck.Settings.Session
