import CommitCheck.Proofs.Files.Path
import CommitCheck.Proofs.Number.Digits
import CommitCheck.Proofs.Settings.Clean
import CommitCheck.Proofs.Settings.File
import CommitCheck.Proofs.Toml.Names

/-!
# The path of the log

A path for the log comes into settings as a value that a caller gives, from the environment, or
from the file of settings.  It is looked at on its way out: whatever it is, settings that are
asked for the path of their log name none or a place inside the working folder
(`logPath_isInner`), and settings that are saved write none or one that is empty or safe
(`hasSafeLog_of_save`).

A path from the file is also looked at on its way in, after it was cleaned: `takenLog` is what
becomes of it, and `logFile_of_load` says that loading does nothing else.
-/

namespace CommitCheck

namespace Settings

variable {s : Settings}

/-! ## Asking for the path -/

/-- A safe path leads to a place inside the working folder. -/
theorem isInner_of_isSafePath {p : Text} (h : isSafePath p = true) : Path.IsInner p := by
  obtain ⟨-, hdots, hslash, hback⟩ := isSafePath_iff.1 h
  refine Path.isInner_of (Path.isAbsolute_of_head?_ne hslash) (fun hup => hdots ?_) hback
  exact infix_of_mem_splitAt (List.mem_filter.1 hup).1

/-- The name of a log that is made of the time is a safe path. -/
theorem isSafePath_timedLog (now : Moment) : isSafePath (timedLog now) = true := by
  have hdot : '.' ∉ now.inName :=
    now.not_mem_layout (by decide) (by decide) (by decide) (by decide)
  have hback : '\\' ∉ now.inName :=
    now.not_mem_layout (by decide) (by decide) (by decide) (by decide)
  have hhead : (timedLog now).head? = some 'g' := by
    have hfirst : "gcl_log-".toList.head? = some 'g' := by decide
    unfold timedLog
    rw [List.append_assoc, List.head?_append, hfirst, Option.some_or]
  have hcount : (timedLog now).count '.' = 1 := by
    have hfirst : "gcl_log-".toList.count '.' = 0 := by decide
    have hlast : ".log".toList.count '.' = 1 := by decide
    unfold timedLog
    rw [List.count_append, List.count_append, hfirst, hlast, List.count_eq_zero.2 hdot]
  refine isSafePath_iff.2 ⟨?_, ?_, ?_, ?_⟩
  · intro hnil
    rw [hnil] at hhead
    cases hhead
  · -- two full stops are more than there are
    intro hdots
    have hle := hdots.sublist.count_le '.'
    have htwo : ['.', '.'].count '.' = 2 := by decide
    omega
  · rw [hhead]
    decide
  · unfold timedLog
    simp only [List.mem_append, not_or]
    exact ⟨⟨by decide, hback⟩, by decide⟩

/-- Settings name no log or one inside the working folder. -/
theorem logPath_isInner (s : Settings) (now : Moment) :
    ∃ p, (s.logPath now).outcome = .ok p ∧ ∀ t ∈ p, Path.IsInner t := by
  unfold logPath
  split
  · refine ⟨_, rfl, fun t ht => ?_⟩
    obtain rfl := Option.some.inj ht
    exact isInner_of_isSafePath (isSafePath_timedLog now)
  · split
    · exact ⟨none, rfl, nofun⟩
    · exact ⟨none, rfl, nofun⟩
    · split
      · rename_i hsafe
        refine ⟨_, rfl, fun t ht => ?_⟩
        obtain rfl := Option.some.inj ht
        exact (isInner_of_isSafePath hsafe).text
      · exact ⟨none, rfl, nofun⟩

/-! ## Saving the path -/

/-- The path of the log that settings save. -/
def savedLog (s : Settings) : Option Text := if isUnsafeLog s.logFile then none else s.logFile

theorem safe_of_savedLog {p : Text} (h : s.savedLog = some p) : p = [] ∨ isSafePath p = true := by
  unfold savedLog at h
  split at h
  · cases h
  · rename_i hsafe
    exact isUnsafeLog_eq_false.1 (eq_false_of_ne_true hsafe) p h

/-- The settings as they are saved. -/
def saved (s : Settings) : Settings := { s with logFile := s.savedLog }

theorem saved_eq_self (h : s.logFile = none) : s.saved = s := by
  obtain ⟨url, timeout, rules, always, log⟩ := s
  subst h
  rfl

/-- To save settings where no folder is does nothing but print and then write their file. -/
theorem exists_save_eq (s : Settings) (path : Text) :
    ∃ warnings : List Text, s.save path false =
      ⟨warnings.map .printed ++ [.wrote path s.saved.fileText], .ok ()⟩ := by
  unfold save saved savedLog
  cases isUnsafeLog s.logFile with
  | true => exact ⟨[unsafeLog (s.logFile.getD []) ++ ", not saving".toList ++ ['\n']], rfl⟩
  | false => exact ⟨[], rfl⟩

/-- A text of a file of settings in which the path of the log is missing, empty or safe. -/
def HasSafeLog (t : Text) : Prop :=
  ∃ document, Toml.parse t = .ok document ∧
    ∀ v, logEntry? document = some v → ∃ p, v = .text p ∧ (p = [] ∨ isSafePath p = true)

/-- The end of saving writes the file of settings, if it does anything. -/
theorem eq_wrote_of_mem {path : Text} (isFolder : Bool) (log : Option Text) :
    ∀ e ∈ (if isFolder then Run.fail (.folderFound path)
      else Run.record (.wrote path (Toml.render (s.sections log))) : Run Unit).trace,
      e = .wrote path (fileText { s with logFile := log }) := by
  cases isFolder with
  | true => exact List.forall_mem_nil _
  | false => exact List.forall_mem_singleton.2 rfl

/-- To save settings does nothing but print and write their file, with the path that is saved. -/
theorem printed_or_wrote_of_save (s : Settings) (path : Text) (isFolder : Bool) :
    ∀ e ∈ (s.save path isFolder).trace,
      (∃ t, e = .printed t) ∨ e = .wrote path s.saved.fileText := by
  unfold save saved savedLog
  cases isUnsafeLog s.logFile with
  | true =>
    exact Run.forall_mem_trace_bind (fun e he => .inl (onlyPrints_printLine _ e he))
      fun _ e he => .inr (eq_wrote_of_mem isFolder none e he)
  | false => exact fun e he => .inr (eq_wrote_of_mem isFolder s.logFile e he)

theorem logEntry?_document (s : Settings) : logEntry? s.document.root = s.logFile.map .text := by
  obtain ⟨url, timeout, rules, always, log⟩ := s
  cases log <;> rfl

/-- Whatever settings save, the path of the log in it is missing, empty or safe. -/
theorem hasSafeLog_of_save {path p t : Text} {isFolder : Bool}
    (htimeout : s.timeout.isPositive = true) (h : .wrote p t ∈ (s.save path isFolder).trace) :
    HasSafeLog t := by
  obtain ⟨u, hu⟩ | hwrote := printed_or_wrote_of_save s path isFolder _ h
  · cases hu
  obtain ⟨-, rfl⟩ := Event.wrote.inj hwrote
  refine ⟨s.saved.document.root, parse_render_sections (s := s.saved) htimeout, fun v hv => ?_⟩
  rw [logEntry?_document] at hv
  obtain ⟨p, hp, rfl⟩ := Option.map_eq_some_iff.1 hv
  exact ⟨p, rfl, safe_of_savedLog hp⟩

end Settings

end CommitCheck
