import CommitCheck.Cli.Run
import CommitCheck.Proofs.Cli.Words
import CommitCheck.Proofs.Commit.Layout
import CommitCheck.Proofs.Run
import CommitCheck.Proofs.Text.Bytes

/-!
# A message in a file and on the command line

A message can be read from the file that an editor leaves, or it can be a word of the command
line.  A file is read with line feeds for all line ends and without the lines that are comments; a
word is a message as it stands, pairs of carriage return and line feed apart.  Where every carriage
return of the file is in such a pair, the two ways agree: the file is the message that its text
without the comments is (`gather_of_edit`, `Message.parse_uncommented`).

Nothing but the commits depends on the way (`carryOut_congr`).  Nor does what is wrong with the
rest of the command line, since the file is found (`Request.ofGiven_withOption`).  So the whole
program does the same, from its first event to its exit status.
-/

namespace CommitCheck.Cli

variable {s : Surroundings} {i : Invocation} {g : Given} {p q : Purpose} {path value m t : Text}

/-! ## The commit -/

/-- The invocation with a message in the place of a file. -/
def Invocation.withMessage (i : Invocation) (m : Text) : Invocation :=
  { i with edit := none, message := some m }

/-- The file of a path holds a text. -/
def Holds (s : Surroundings) (path t : Text) : Prop :=
  s.files.findText? path = some (.file (.ofBytes (textBytes t)))

theorem gather_of_edit (hedit : i.edit = some path) (hfile : Holds s path t) :
    gather s i = ⟨[], .ok [(none, Message.parse (unifyReturns t) true)]⟩ := by
  have hsource : i.source = .file path := by
    rw [Invocation.source, hedit]
  have hread : readMessage s path = .ok (unifyReturns t) := by
    rw [readMessage, hfile, Content.ofBytes, ofBytes?_textBytes]
  rw [gather, hsource]
  dsimp only
  rw [hread]
  rfl

/-- Where the commits are the same, so is the rest of the work. -/
theorem carryOut_congr (h : gather s (i.withMessage m) = gather s i) :
    carryOut s (i.withMessage m) = carryOut s i := by
  have hlint : lint s (i.withMessage m) = lint s i := by
    unfold lint
    rw [h]
    rfl
  have hperform : perform s (i.withMessage m) = perform s i := by
    unfold perform
    rw [hlint]
    rfl
  rw [carryOut, hperform]
  rfl

/-! ## The command line -/

/-- The invocation of a message is that of a file with the message in its place. -/
theorem Invocation.ofGiven_withOption (hedit : g.value? .edit = none)
    (hmessage : g.value? .message = none) (path m : Text) :
    ofGiven (g.withOption .message m) = (ofGiven (g.withOption .edit path)).withMessage m := by
  simp [ofGiven, withMessage, Given.value?_withOption_of_ne, Given.has_withOption_of_ne,
    Given.value?_withOption_self hmessage, hedit]

theorem Invocation.edit_ofGiven_withOption (hedit : g.value? .edit = none) (path : Text) :
    (ofGiven (g.withOption .edit path)).edit = some path :=
  Given.value?_withOption_self hedit

/-- Each of the two is one source of messages. -/
theorem Invocation.isAmbiguous_withMessage (hedit : i.edit = some path)
    (hmessage : i.message = none) (m : Text) : (i.withMessage m).isAmbiguous = i.isAmbiguous := by
  simp [isAmbiguous, withMessage, hedit, hmessage]

namespace Request

variable {files : Files} {words words' rest : List Text}

/-- The request with a message in the place of a file. -/
def withMessage (m : Text) : Request → Request
  | .help => .help
  | .work i => .work (i.withMessage m)

/-- What a command line asks for with a file, it asks for with a message in its place, and what is
wrong with the one is wrong with the other. -/
theorem ofGiven_withOption (hedit : g.value? .edit = none) (hmessage : g.value? .message = none)
    (hfault : pathFault? files .edit path = none) (m : Text) :
    ofGiven files (g.withOption .message m) =
      (ofGiven files (g.withOption .edit path)).map (withMessage m) := by
  have hnowhere : pathFault? files .message m = none := by
    simp [pathFault?, entryFault?, Purpose.isPath]
  have hambiguous := Invocation.isAmbiguous_withMessage
    (Invocation.edit_ofGiven_withOption hedit path)
    ((Given.value?_withOption_of_ne (by decide)).trans hmessage) m
  rw [ofGiven, ofGiven, Given.has_withOption_of_ne (by decide),
    Given.has_withOption_of_ne (by decide), badPath?_withOption hedit hfault,
    badPath?_withOption hmessage hnowhere, Invocation.ofGiven_withOption hedit hmessage path,
    Given.extra_withOption, Given.extra_withOption]
  dsimp only
  rw [hambiguous]
  split
  · rfl
  · split
    · rfl
    · split
      · rfl
      · split <;> rfl

theorem edit_of_ofGiven_withOption (hedit : g.value? .edit = none)
    (h : ofGiven files (g.withOption .edit path) = .ok (.work i)) : i.edit = some path := by
  obtain ⟨-, rfl⟩ := eq_ofGiven_of_work h
  exact Invocation.edit_ofGiven_withOption hedit path

/-- A file and a message in its place, in front of the same words. -/
theorem read_message (hgiven : ∀ g, Given.read rest = .ok g →
      g.value? .edit = none ∧ g.value? .message = none)
    (hfault : pathFault? files .edit path = none) (m : Text) :
    read files ("--message".toList :: m :: rest) =
      (read files ("--edit".toList :: path :: rest)).map (withMessage m) := by
  have hread : ∀ {p name value}, name ≠ ['-', '-'] →
      Given.ofWord name = some (.ok ⟨[], some (p, name)⟩) →
      read files (name :: value :: rest) =
        Given.read rest >>= fun g => ofGiven files (g.withOption p value) := by
    intro p name value hname hword
    rw [read, Given.read_option hname hword]
    cases Given.read rest <;> rfl
  rw [hread (p := .message) (by decide) rfl, hread (p := .edit) (by decide) rfl]
  cases hrest : Given.read rest with
  | error misuse => rfl
  | ok g =>
    obtain ⟨hedit, hmessage⟩ := hgiven g hrest
    exact ofGiven_withOption hedit hmessage hfault m

theorem edit_of_read (hgiven : ∀ g, Given.read rest = .ok g → g.value? .edit = none)
    (h : read files ("--edit".toList :: path :: rest) = .ok (.work i)) : i.edit = some path := by
  rw [read, Given.read_option (p := .edit) (by decide) rfl] at h
  cases hrest : Given.read rest with
  | error misuse =>
    rw [hrest] at h
    cases h
  | ok g =>
    rw [hrest] at h
    exact edit_of_ofGiven_withOption (hgiven g hrest) h

end Request

/-- So the whole program does the same. -/
theorem run_congr {words words' : List Text}
    (hread : Request.read s.files words' = (Request.read s.files words).map (.withMessage m))
    (hsame : ∀ i, Request.read s.files words = .ok (.work i) →
      carryOut s (i.withMessage m) = carryOut s i) : run s words' = run s words := by
  unfold run
  rw [hread]
  cases hwords : Request.read s.files words with
  | error misuse => rfl
  | ok request =>
    cases request with
    | help => rfl
    | work i => exact hsame i hwords

/-! ## Two ways to the same message -/

/-- A file whose carriage returns are all in pairs is the commit that its text without comments is,
and all that is done about the one is done about the other: by an invocation, by words that are read
as such, and by the words of a file and of a message in front of the same words. -/
theorem run_edit_eq_run_message (hfile : Holds s path t) (hpaired : IsPaired t) :
    (∀ i, i.edit = some path →
      gather s i = ⟨[], .ok [(none, Message.parse (Message.uncommented t) false)]⟩ ∧
      gather s (i.withMessage (Message.uncommented t)) = gather s i ∧
      carryOut s (i.withMessage (Message.uncommented t)) = carryOut s i) ∧
    (∀ words words' i, i.edit = some path → Request.read s.files words = .ok (.work i) →
      Request.read s.files words' = .ok (.work (i.withMessage (Message.uncommented t))) →
      run s words' = run s words) ∧
    (Path.isBroken path = false → ∀ rest,
      (∀ g, Given.read rest = .ok g → g.value? .edit = none ∧ g.value? .message = none) →
      run s ("--message".toList :: Message.uncommented t :: rest) =
        run s ("--edit".toList :: path :: rest)) := by
  have hgather : ∀ i : Invocation, i.edit = some path →
      gather s i = ⟨[], .ok [(none, Message.parse (Message.uncommented t) false)]⟩ := by
    intro i hedit
    rw [gather_of_edit hedit hfile, Message.parse_uncommented hpaired]
  have hcarryOut : ∀ i : Invocation, i.edit = some path →
      carryOut s (i.withMessage (Message.uncommented t)) = carryOut s i :=
    fun i hedit => carryOut_congr (hgather i hedit).symm
  refine ⟨fun i hedit => ⟨hgather i hedit, (hgather i hedit).symm, hcarryOut i hedit⟩, ?_, ?_⟩
  · intro words words' i hedit hwords hwords'
    refine run_congr (m := Message.uncommented t) (by rw [hwords, hwords']; rfl) fun j hj => ?_
    rw [hwords] at hj
    cases hj
    exact hcarryOut i hedit
  · intro hbroken rest hgiven
    have hfault : pathFault? s.files .edit path = none := by
      have hentry : entryFault? s.files .edit path = none := by
        unfold entryFault?
        rw [hfile]
      rw [pathFault?, hbroken, Bool.and_false, if_neg Bool.false_ne_true, hentry]
    exact run_congr (Request.read_message hgiven hfault _) fun i hi =>
      hcarryOut i (Request.edit_of_read (fun g hg => (hgiven g hg).1) hi)

/-- A message as an editor leaves it, with line ends of both kinds and comments all over. -/
def edited : Text := "# new\nfix: a\r\n# c\r\n\r\nwhy\n#end"

/-- A folder with the message in a file, whose settings disable the rule of the issue reference. -/
def editing : Surroundings where
  files := ⟨[], [(["MSG"], .file (.ofBytes (textBytes edited))),
    ([Settings.fileName], .file (.text "[gitcommitlint.rules]\nissue-reference = 0\n"))]⟩
  environment := []
  network _ := .failure .connect "refused"
  repository := none
  installation := default
  now := default

theorem run_edit_eq_run_message_editing :
    Holds editing "MSG" edited ∧ IsPaired edited ∧
      run editing ["--message", "fix: a\r\n\r\nwhy", "-v"] =
        run editing ["--edit", "MSG", "-v"] ∧
      (run editing ["--edit", "MSG", "-v"]).outcome = .ok 0 := by
  have hfile : Holds editing "MSG" edited := rfl
  have hpaired : IsPaired edited := by decide
  have hrun := (run_edit_eq_run_message hfile hpaired).2.2 rfl ["-v"] fun g hg => by
    cases hg
    exact ⟨rfl, rfl⟩
  exact ⟨hfile, hpaired, hrun, by decide +kernel⟩

end CommitCheck.Cli
