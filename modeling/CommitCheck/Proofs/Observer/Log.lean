import CommitCheck.Observer.Log
import CommitCheck.Proofs.Commit.Message
import CommitCheck.Proofs.Commit.Search
import CommitCheck.Proofs.Context
import CommitCheck.Proofs.Files
import CommitCheck.Proofs.Number.Digits
import CommitCheck.Proofs.Rule.IssueReference
import CommitCheck.Proofs.Run
import CommitCheck.Rule.HeaderFormat

/-!
# The log

The records that the observer puts into its file, and why no commit can forge one.

A record is a line that starts with the time, and below it a line for each rule that is broken,
which starts with four spaces and a bracket (`logRecord_eq`).  Nothing in it has a line feed of its
own: not the header, which is one line of a text; not the messages of the two rules, whose only
variable part is a number; and not the repository and the issue of a question
(`IsLogged.not_mem_head`, `IsLogged.not_mem_brokenLine`).  So the added lines that do not start with
four spaces are as many as the records (`countP_linesOf_recordsOf`).

To tell the observer of notices is to put their records at the end of the file, one for each and in
order, and the rest of the file stays (`log_keeps_records`).
-/

namespace CommitCheck

/-! ## Lines with their ends -/

/-- Lines, each with a line feed at its end. -/
def endedLines (lines : List Text) : Text := lines.flatMap (· ++ ['\n'])

theorem linesOf_endedLines {lines : List Text} (h : ∀ l ∈ lines, '\n' ∉ l) :
    linesOf (endedLines lines) = lines ++ [[]] := by
  induction lines with
  | nil => rfl
  | cons l ls ih =>
    rw [List.forall_mem_cons] at h
    have hline : endedLines (l :: ls) = l ++ '\n' :: endedLines ls := by
      rw [endedLines, List.flatMap_cons, List.append_assoc]
      rfl
    rw [hline, linesOf, splitAt_append_cons, splitAt_of_not_mem h.1, ← linesOf, ih h.2]
    rfl

/-- A line feed in front of each line but the first is one behind each line but the last. -/
theorem append_flatMap_feed {α : Type} (first : Text) (f : α → Text) (as : List α) :
    first ++ as.flatMap (fun a => '\n' :: f a) ++ ['\n'] = endedLines (first :: as.map f) := by
  induction as generalizing first with
  | nil => simp [endedLines]
  | cons a as ih =>
    have hrest := ih (f a)
    rw [List.flatMap_cons, List.append_assoc, List.cons_append, List.cons_append, hrest]
    simp [endedLines]

namespace Observer

/-! ## Records -/

/-- The outcomes of the rules that a notice tells to be broken. -/
def brokenIn : Notice → List Outcome
  | .lookedUp _ _ _ => []
  | .linted report => report.outcomes.filter (!·.valid)

/-- The line of a rule that a commit breaks, without the end of the line above it. -/
def brokenLine (o : Outcome) : Text :=
  "    [".toList ++ o.rule ++ "] ".toList ++ o.message.getD "None"

/-- What the first line of a record says, behind the time. -/
def headOf : Notice → Text
  | .lookedUp repository issue status => logEntry (.lookedUp repository issue status)
  | .linted r =>
      (if r.valid then "Passed".toList else "Failed".toList) ++ " lint of '".toList ++
        r.commit.header ++ '\'' :: (match r.shortSha? with
          | none => []
          | some s => " (".toList ++ s ++ [')'])

theorem logEntry_eq (n : Notice) :
    logEntry n = headOf n ++ (brokenIn n).flatMap fun o => '\n' :: brokenLine o := by
  cases n with
  | lookedUp repository issue status => exact (List.append_nil _).symm
  | linted report => rfl

/-- A record is a line with the time and a line for each rule that is broken. -/
theorem logRecord_eq (now : Moment) (n : Notice) :
    logRecord now n =
      endedLines ((now.inLine ++ " - ".toList ++ headOf n) :: (brokenIn n).map brokenLine) := by
  rw [← append_flatMap_feed, logRecord, logEntry_eq, ← List.append_assoc]

/-! ## Notices that are logged -/

/-- An outcome of one of the two rules, for any commit and at any level. -/
inductive IsOfRule : Outcome → Prop
  /-- Of the rule of the header format. -/
  | headerFormat (m : Message) (level : Level) :
      IsOfRule (.ofVerdict HeaderFormat.name level (HeaderFormat.verdict m))
  /-- Of the rule of the issue reference, for any repository and with any checker. -/
  | issueReference {repository : Text} {exists? : Checker} {m : Message} {v : Verdict}
      (level : Level) : (IssueReference.rule repository exists? m).outcome = .ok v →
      IsOfRule (.ofVerdict IssueReference.name level v)

/-- A notice of a question about an issue that a message refers to, or of a commit to which no rules
but the two were applied. -/
inductive IsLogged : Notice → Prop
  /-- The repository is that of an environment. -/
  | lookedUp {env : Environment} {context : RepositoryContext} {m : Message} {places : List Place}
      {r : Reference} (status : Nat) : RepositoryContext.ofEnvironment env = .ok context →
      Reference.first? m places = some r → IsLogged (.lookedUp context.repository r.id status)
  /-- The commit was parsed from any text, and its name is one line. -/
  | linted {sha : Option Text} {outcomes : List Outcome} (raw : Text) (stripComments : Bool) :
      (∀ s, sha = some s → '\n' ∉ s) → (∀ o ∈ outcomes, IsOfRule o) →
      IsLogged (.linted ⟨Message.parse raw stripComments, sha, outcomes⟩)

theorem not_mem_of_isNumber {n : Text} (h : Reference.IsNumber n) : '\n' ∉ n :=
  fun hmem => absurd (h.2 _ hmem) (by decide)

theorem not_mem_mention {n : Text} (h : Reference.IsNumber n) : '\n' ∉ IssueReference.mention n :=
  List.not_mem_append (by decide) (not_mem_of_isNumber h)

/-- What a rule says of an issue is one line. -/
theorem not_mem_of_answered {n : Text} {answer : Except Failure Bool} {v : Verdict}
    (hn : Reference.IsNumber n) (h : IssueReference.Finding.answered n answer = .ok v) :
    '\n' ∉ v.message.getD "None" := by
  cases answer with
  | error e => cases h
  | ok b =>
    cases b with
    | true =>
      obtain rfl := Except.ok.inj h
      decide
    | false =>
      obtain rfl := Except.ok.inj h
      show '\n' ∉ IssueReference.issueMissing n
      exact List.not_mem_append (not_mem_mention hn) (by decide)

/-- The rule of the issue reference says one line. -/
theorem not_mem_of_rule {repository : Text} {exists? : Checker} {m : Message} {v : Verdict}
    (h : (IssueReference.rule repository exists? m).outcome = .ok v) :
    '\n' ∉ v.message.getD "None" := by
  obtain ⟨f, hf⟩ := IssueReference.exists_ruling m
  rw [IssueReference.rule_of_ruling hf] at h
  cases hf with
  | bodyless =>
    obtain rfl := Except.ok.inj h
    decide
  | @unrepeated body n _ _ hn =>
    obtain rfl := Except.ok.inj h
    show '\n' ∉ IssueReference.mismatch n
    have hmention := not_mem_mention hn.1
    exact List.not_mem_append (List.not_mem_append (List.not_mem_append (by decide) hmention)
      (by decide)) hmention
  | repeated _ _ hn => exact not_mem_of_answered hn.1 h
  | uncited =>
    obtain rfl := Except.ok.inj h
    decide
  | exempt =>
    obtain rfl := Except.ok.inj h
    decide
  | cited _ _ _ hn => exact not_mem_of_answered hn h

theorem not_mem_brokenLine {o : Outcome} (hrule : '\n' ∉ o.rule)
    (hmessage : '\n' ∉ o.message.getD "None") : '\n' ∉ brokenLine o :=
  List.not_mem_append (List.not_mem_append (List.not_mem_append (by decide) hrule) (by decide))
    hmessage

theorem IsOfRule.not_mem_brokenLine {o : Outcome} (h : IsOfRule o) : '\n' ∉ brokenLine o := by
  cases h with
  | headerFormat m level =>
    have hmessage : '\n' ∉ (HeaderFormat.verdict m).message.getD "None" := by
      unfold HeaderFormat.verdict HeaderFormat.judge
      split
      · decide
      · decide
    exact Observer.not_mem_brokenLine (show '\n' ∉ HeaderFormat.name by decide) hmessage
  | issueReference level hrule =>
    exact Observer.not_mem_brokenLine (show '\n' ∉ IssueReference.name by decide)
      (not_mem_of_rule hrule)

theorem IsLogged.not_mem_brokenLine {n : Notice} (h : IsLogged n) :
    ∀ o ∈ brokenIn n, '\n' ∉ brokenLine o := by
  cases h with
  | lookedUp => exact List.forall_mem_nil _
  | linted raw stripComments _ houtcomes =>
    intro o ho
    exact (houtcomes o (List.mem_filter.1 ho).1).not_mem_brokenLine

theorem not_mem_of_shortSha? {r : Report} {short : Text} (h : ∀ s, r.sha = some s → '\n' ∉ s)
    (hshort : r.shortSha? = some short) : '\n' ∉ short := by
  unfold Report.shortSha? at hshort
  split at hshort
  · cases hshort
  · cases hshort
  · rename_i s _ hsha
    obtain rfl := Option.some.inj hshort
    exact fun hmem => h s hsha (List.mem_of_mem_take hmem)

theorem IsLogged.not_mem_head {n : Notice} (h : IsLogged n) : '\n' ∉ headOf n := by
  cases h with
  | @lookedUp env context m places r status hcontext hfound =>
    have hrepository : '\n' ∉ context.repository :=
      (RepositoryContext.isRepository_of_ofEnvironment hcontext).not_mem_feed
    have hid : '\n' ∉ r.id := by
      obtain ⟨place, -, hplace⟩ := List.exists_of_findSome?_eq_some hfound
      rcases (Reference.isNumber_or_nil_of_find? hplace).1 with hnil | hnumber
      · rw [hnil]
        decide
      · exact not_mem_of_isNumber hnumber
    have hstatus : '\n' ∉ natText status := fun hmem =>
      absurd (isDigit_of_mem_natText hmem) (by decide)
    refine List.not_mem_append (List.not_mem_append (List.not_mem_append
      (List.not_mem_append (by decide) hrepository) ?_) (by decide)) hstatus
    exact List.not_mem_cons_of_ne_of_not_mem (by decide) hid
  | @linted sha outcomes raw stripComments hsha houtcomes =>
    have hheader : '\n' ∉ (Message.parse raw stripComments).header :=
      (Message.isNormal_parse raw stripComments).line
    refine List.not_mem_append (List.not_mem_append (List.not_mem_append ?_ (by decide)) hheader) ?_
    · split
      · decide
      · decide
    · refine List.not_mem_cons_of_ne_of_not_mem (by decide) ?_
      split
      · exact List.not_mem_nil
      · rename_i short hshort
        refine List.not_mem_append (List.not_mem_append (by decide) ?_) (by decide)
        exact not_mem_of_shortSha? hsha hshort

/-! ## Records of notices -/

/-- What a record in the log looks like: a line that starts with the time, and a line for each rule
that the notice tells to be broken. -/
def IsRecord (now : Moment) (n : Notice) (record : Text) : Prop :=
  ∃ first more, record = endedLines (first :: more) ∧ (∀ l ∈ first :: more, '\n' ∉ l) ∧
    now.inLine ++ " - ".toList <+: first ∧ more.length = (brokenIn n).length ∧
    ∀ l ∈ more, "    [".toList <+: l

/-- Whether a line starts with four spaces. -/
def isIndented (line : Text) : Bool := "    ".toList.isPrefixOf line

/-- The lines of a record. -/
def recordLines (call : Moment × Notice) : List Text :=
  (call.1.inLine ++ " - ".toList ++ headOf call.2) :: (brokenIn call.2).map brokenLine

theorem prefix_brokenLine (o : Outcome) : "    [".toList <+: brokenLine o := by
  unfold brokenLine
  rw [List.append_assoc, List.append_assoc]
  exact List.prefix_append _ _

theorem IsLogged.not_mem_recordLines {call : Moment × Notice} (h : IsLogged call.2) :
    ∀ l ∈ recordLines call, '\n' ∉ l := by
  intro l hl
  rcases List.mem_cons.1 hl with rfl | hl
  · have htime : '\n' ∉ call.1.inLine :=
      call.1.not_mem_layout (by decide) (by decide) (by decide) (by decide)
    exact List.not_mem_append (List.not_mem_append htime (by decide)) h.not_mem_head
  · obtain ⟨o, ho, rfl⟩ := List.mem_map.1 hl
    exact h.not_mem_brokenLine o ho

theorem IsLogged.isRecord {n : Notice} (h : IsLogged n) (now : Moment) :
    IsRecord now n (logRecord now n) := by
  have hlines : ∀ l ∈ recordLines (now, n), '\n' ∉ l := IsLogged.not_mem_recordLines h
  refine ⟨_, _, logRecord_eq now n, hlines, List.prefix_append _ _, List.length_map _, ?_⟩
  exact List.forall_mem_map.2 fun o _ => prefix_brokenLine o

/-- The first line of a record is the only one that does not start with four spaces. -/
theorem countP_recordLines (call : Moment × Notice) :
    (recordLines call).countP (!isIndented ·) = 1 := by
  have hfirst : isIndented (call.1.inLine ++ " - ".toList ++ headOf call.2) = false := by
    obtain ⟨c, rest, htime, hdigit⟩ := call.1.exists_layout ' ' ':'
    have hspace : ' ' ≠ c := by
      rintro rfl
      cases hdigit
    rw [Moment.inLine, htime]
    exact Bool.and_eq_false_imp.2 fun h => absurd (beq_iff_eq.1 h) hspace
  have hmore : ((brokenIn call.2).map brokenLine).countP (!isIndented ·) = 0 := by
    refine List.countP_eq_zero.2 (List.forall_mem_map.2 fun o _ => ?_)
    have hfour : "    ".toList <+: brokenLine o :=
      List.IsPrefix.trans (by decide) (prefix_brokenLine o)
    have hindented : isIndented (brokenLine o) = true := List.isPrefixOf_iff_prefix.2 hfour
    simp [hindented]
  rw [recordLines, List.countP_cons, hmore, hfirst]
  rfl

/-- The records of notices, each at its own moment. -/
def recordsOf (calls : List (Moment × Notice)) : Text :=
  calls.flatMap fun call => logRecord call.1 call.2

theorem recordsOf_eq (calls : List (Moment × Notice)) :
    recordsOf calls = endedLines (calls.flatMap recordLines) := by
  unfold recordsOf endedLines
  rw [List.flatMap_assoc]
  exact List.flatMap_congr fun call _ => logRecord_eq call.1 call.2

/-- There are as many records as lines that do not start with four spaces. -/
theorem countP_linesOf_recordsOf {calls : List (Moment × Notice)}
    (h : ∀ call ∈ calls, IsLogged call.2) :
    (linesOf (recordsOf calls)).dropLast.countP (!isIndented ·) = calls.length := by
  have hlines : ∀ l ∈ calls.flatMap recordLines, '\n' ∉ l := by
    intro l hl
    obtain ⟨call, hcall, hl⟩ := List.mem_flatMap.1 hl
    exact (h call hcall).not_mem_recordLines l hl
  rw [recordsOf_eq, linesOf_endedLines hlines, List.dropLast_concat]
  clear h hlines
  induction calls with
  | nil => rfl
  | cons call calls ih =>
    rw [List.flatMap_cons, List.countP_append, countP_recordLines, ih, List.length_cons,
      Nat.add_comm]

/-! ## The file -/

/-- An observer that keeps a log at a path, as the clock shows one moment or another, and the files
when it has been made. -/
structure KeepsLog (fs : Files) (path : Path) (observer : Moment → Observer) (made : Files) :
    Prop where
  /-- The path leads from a folder. -/
  start : fs.entryAt (fs.startOf path) = some .folder
  /-- The observer is made. -/
  outcome : ∀ now, (inLog fs now path).outcome = .ok (observer now)
  /-- What that does to the files. -/
  files : ∀ now, fs.replay (inLog fs now path).trace = made
  /-- The path is one that there can be. -/
  accepted : pathFailure? path.text = none
  /-- It is not that of a folder. -/
  notFolder : made.find? path ≠ some .folder

theorem inLog_eq {fs : Files} {now : Moment} {path : Path} {o : Observer}
    (h : (inLog fs now path).outcome = .ok o) :
    ∃ made, fs.makeFolder? path.parent = some made ∧ o = ⟨"log", keepRecord made now path⟩ ∧
      (inLog fs now path).trace = [.madeFolder path.parent.text] := by
  unfold inLog at h ⊢
  cases hfailure : pathFailure? path.parent.text with
  | some e =>
    rw [hfailure] at h
    cases h
  | none =>
    cases hmade : fs.makeFolder? path.parent with
    | none =>
      rw [hfailure, hmade] at h
      cases h
    | some made =>
      rw [hfailure, hmade] at h
      exact ⟨made, rfl, (Except.ok.inj h).symm, rfl⟩

theorem ofText_text_parent (t : Text) :
    Path.ofText (Path.ofText t).parent.text = (Path.ofText t).parent :=
  Path.ofText_text (Path.root_ofText t) fun name hname =>
    Path.areNames_ofText t name (List.dropLast_subset _ hname)

namespace KeepsLog

variable {fs made : Files} {t : Text} {observer : Moment → Observer}

theorem makeFolder?_eq (h : KeepsLog fs (.ofText t) observer made) :
    fs.makeFolder? (Path.ofText t).parent = some made ∧
      ∀ now, observer now = ⟨"log", keepRecord made now (.ofText t)⟩ := by
  have hmade : ∀ now, fs.makeFolder? (Path.ofText t).parent = some made ∧
      observer now = ⟨"log", keepRecord made now (.ofText t)⟩ := by
    intro now
    obtain ⟨made', hmake, hobserver, htrace⟩ := inLog_eq (h.outcome now)
    have hfiles := h.files now
    rw [htrace] at hfiles
    change (fs.makeFolder? (.ofText (Path.ofText t).parent.text)).getD fs = made at hfiles
    rw [ofText_text_parent, hmake, Option.getD_some] at hfiles
    subst hfiles
    exact ⟨hmake, hobserver⟩
  exact ⟨(hmade default).1, fun now => (hmade now).2⟩

theorem canWrite (h : KeepsLog fs (.ofText t) observer made) : made.CanWrite (.ofText t) :=
  Files.canWrite_of_parent (Files.find?_of_makeFolder? h.start h.makeFolder?_eq.1) h.notFolder

/-- To make the observer leaves a file as it is. -/
theorem contentAt_eq (h : KeepsLog fs (.ofText t) observer made) {c : Content}
    (hfile : fs.find? (.ofText t) = some (.file c)) : made.contentAt (.ofText t) = c :=
  Files.contentAt_of_find? (Files.find?_makeFolder?_of_file h.makeFolder?_eq.1 hfile)

/-- To tell the observer of a notice is to put its record at the end of the file. -/
theorem tell_eq (h : KeepsLog fs (.ofText t) observer made) (now : Moment) (n : Notice) :
    (observer now).tell n = ⟨[.appended (Path.ofText t).text (logRecord now n)], .ok ()⟩ := by
  rw [h.makeFolder?_eq.2 now]
  show keepRecord made now (.ofText t) n = _
  unfold keepRecord
  rw [h.accepted]
  exact if_neg h.notFolder

end KeepsLog

/-- An observer is told of notices one after another, each at its own moment. -/
def tellInTurn (observer : Moment → Observer) (calls : List (Moment × Notice)) : Run Unit :=
  Run.each (fun call => (observer call.1).tell call.2) calls

/-- The log has one record for each notice, and no text of a commit can make it look otherwise.

Each call succeeds and puts its record at the end of the file, and nothing else happens, so that
the file holds what it held before the observer was made and then the records, in order.  A record
has a line that starts with the time, one line more for each rule that is broken, each of them with
four spaces and a bracket at its start, and no other lines.  So the lines that were added and do not
start with four spaces are as many as the calls. -/
theorem log_keeps_records {fs made : Files} {t : Text} {observer : Moment → Observer}
    {calls : List (Moment × Notice)} (hlog : KeepsLog fs (.ofText t) observer made)
    (hcalls : ∀ call ∈ calls, IsLogged call.2) :
    tellInTurn observer calls =
        ⟨calls.map fun call => .appended (Path.ofText t).text (logRecord call.1 call.2), .ok ()⟩ ∧
      (made.replay (tellInTurn observer calls).trace).contentAt (.ofText t) =
        (made.contentAt (.ofText t)).append (recordsOf calls) ∧
      (∀ c, fs.find? (.ofText t) = some (.file c) → made.contentAt (.ofText t) = c) ∧
      (∀ call ∈ calls, IsRecord call.1 call.2 (logRecord call.1 call.2)) ∧
      (linesOf (recordsOf calls)).dropLast.countP (!isIndented ·) = calls.length := by
  have hpath : Path.ofText (Path.ofText t).text = Path.ofText t :=
    Path.ofText_text (Path.root_ofText t) (Path.areNames_ofText t)
  have hrun : tellInTurn observer calls =
      ⟨calls.map fun call => .appended (Path.ofText t).text (logRecord call.1 call.2), .ok ()⟩ :=
    Run.each_of_eq fun call _ => hlog.tell_eq call.1 call.2
  refine ⟨hrun, ?_, fun c hc => hlog.contentAt_eq hc,
    fun call hcall => (hcalls call hcall).isRecord call.1, countP_linesOf_recordsOf hcalls⟩
  have htrace : (tellInTurn observer calls).trace =
      (calls.map fun call => logRecord call.1 call.2).map (.appended (Path.ofText t).text) := by
    rw [hrun, List.map_map]
    rfl
  have hwrite : made.CanWrite (.ofText (Path.ofText t).text) := by
    rw [hpath]
    exact hlog.canWrite
  have hcontent := Files.contentAt_replay_appended hwrite
    (calls.map fun call => logRecord call.1 call.2)
  rw [hpath, ← List.flatMap_def] at hcontent
  rw [htrace]
  exact hcontent

/-- A text whose header looks like the lines of a log. -/
def forged : Text :=
  "    [x]\r2001-02-03 04:05:06 - Passed lint of 'x'\r\n\nIssue #7"

/-- A question about an issue, and a commit that breaks both rules. -/
def forgedCalls : List (Moment × Notice) :=
  [(⟨2001, 2, 3, 4, 5, 6⟩, .lookedUp "octo/widgets" "7" 404),
    (⟨2001, 2, 3, 4, 5, 7⟩, .linted ⟨Message.parse forged false, some "0123456789abcdef",
      [.ofVerdict HeaderFormat.name .error (HeaderFormat.verdict (Message.parse forged false)),
        .ofVerdict IssueReference.name .warning (.failing (IssueReference.issueMissing "7")
          (IssueReference.issueMissing_ne_nil "7"))]⟩)]

/-- Files with a log in them that does not end in a line feed. -/
def loggedFiles : Files :=
  ⟨[], [(["logs".toList], .folder), (["logs".toList, "lint.log".toList], .file (.text "earlier"))]⟩

/-- The observer that keeps the log in these files. -/
def loggedObserver (now : Moment) : Observer :=
  ⟨"log", keepRecord loggedFiles now (.ofText "logs/lint.log")⟩

theorem keepsLog_loggedFiles :
    KeepsLog loggedFiles (.ofText "logs/lint.log") loggedObserver loggedFiles where
  start := by decide +kernel
  outcome _ := rfl
  files _ := by
    show loggedFiles.after (.madeFolder "logs") = loggedFiles
    decide +kernel
  accepted := by decide +kernel
  notFolder := by decide +kernel

theorem isLogged_forgedCalls : ∀ call ∈ forgedCalls, IsLogged call.2 := by
  have hcontext : RepositoryContext.ofEnvironment
      [(RepositoryContext.repositoryVariable, "octo/widgets"),
        (RepositoryContext.tokenVariable, "t")] = .ok ⟨"octo/widgets", "t"⟩ := by decide +kernel
  have hfound : Reference.first? (Message.parse forged false) Reference.defaultPlaces =
      some ⟨.body, "7"⟩ := by decide +kernel
  refine List.forall_mem_cons.2 ⟨.lookedUp 404 hcontext hfound, List.forall_mem_singleton.2 ?_⟩
  have hrule : (IssueReference.rule "octo/widgets" (.noting fun _ _ => .ok false)
      (Message.parse forged false)).outcome = .ok (.failing (IssueReference.issueMissing "7")
        (IssueReference.issueMissing_ne_nil "7")) := by
    rfl
  exact .linted forged false (by decide) (List.forall_mem_cons.2 ⟨.headerFormat _ _,
    List.forall_mem_singleton.2 (.issueReference .warning hrule)⟩)

theorem log_keeps_records_forged :
    KeepsLog loggedFiles (.ofText "logs/lint.log") loggedObserver loggedFiles ∧
      (∀ call ∈ forgedCalls, IsLogged call.2) ∧
      (loggedFiles.replay (tellInTurn loggedObserver forgedCalls).trace).contentAt
          (.ofText "logs/lint.log") = .text ("earlier".toList ++ endedLines [
        "2001-02-03 04:05:06 - Issue lookup octo/widgets#7 returned 404",
        "2001-02-03 04:05:07 - Failed lint of '".toList ++
          "    [x]\r2001-02-03 04:05:06 - Passed lint of 'x'' (0123456789ab)".toList,
        "    [header-format] ".toList ++ HeaderFormat.complaint,
        "    [issue-reference] Issue #7 does not exist in the repository"]) := by
  have hlog := log_keeps_records keepsLog_loggedFiles isLogged_forgedCalls
  refine ⟨keepsLog_loggedFiles, isLogged_forgedCalls, ?_⟩
  rw [hlog.2.1]
  decide +kernel

end Observer

end CommitCheck
