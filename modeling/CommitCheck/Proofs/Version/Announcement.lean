import CommitCheck.Proofs.Console.Wrapped
import CommitCheck.Proofs.Http.Chain
import CommitCheck.Proofs.Version.Update

/-!
# What is said of a newer version

The check is shown in lines, and each of them can be told by its start, whatever it goes on with
(`Console.Opens.prefix_of_output`).  So the lines that are put out say what the check came to:
a newer version is announced exactly if it came to one (`announces_iff`).

A check that comes to something announces every newer version that the index names, and nothing
else.  But it says that there is none in all other cases, also where nothing is known of the newest
version (`announcements`): the index was not reached, it answered with another status, it named no
version, or what it named cannot be compared (`Unknown`).
-/

namespace CommitCheck

open Console (standard isStyle_green isStyle_yellow)

/-- The run puts out a line that starts so. -/
def Run.Says {α : Type} (r : Run α) (start : Text) : Prop :=
  ∃ shown, .printed shown ∈ r.trace ∧ start <+: shown

namespace Update

variable {network : Http.Network} {current t shown : Text} {refusal : Refusal} {lines : List Text}
  {u : Update}

/-! ## How lines start -/

/-- How a newer version is announced. -/
def newerStart : Text := "New version available:"

/-- How it is said that there is none. -/
def latestStart : Text := "You're running the latest version:"

/-- How the current version is told. -/
def currentStart : Text := "Current version:"

/-- How a warning starts. -/
def warningStart : Text := "Warning: Could not"

/-- How the lines start that go on with a text from elsewhere. -/
def lineStarts : List Text := [newerStart, latestStart, currentStart, warningStart]

/-- They are put out first, whatever that text is. -/
theorem prefix_of_mem_lineStarts {start style text : Text} (h : start ∈ lineStarts)
    (hstyle : Console.IsStyle style)
    (hout : standard.output (Console.inStyle style (start ++ ' ' :: text)) = .ok shown) :
    start <+: shown := by
  have hall : ∀ s ∈ lineStarts, (s ≠ [] ∧ s.all isNarrow = true ∧ trim s = s ∧ s.length ≤ 80) ∧
      s.all Console.isPlainChar = true ∧ s.count ':' ≤ 1 := by decide
  obtain ⟨⟨hne, hnarrow, htrimmed, hfits⟩, hplain, hcolon⟩ := hall start h
  have hopens : Console.Opens start :=
    ⟨⟨hne, hnarrow, htrimmed, hfits⟩, hplain, Console.withPictures_of_count_le_one hcolon⟩
  exact hopens.prefix_of_output hstyle hout

/-- The line that announces a newer version. -/
def newerLine (t : Text) : Text := Console.inStyle "green" (newerStart ++ ' ' :: t)

/-- The line that says that there is none. -/
def latestLine (current : Text) : Text := Console.inStyle "green" (latestStart ++ ' ' :: current)

/-- The line that tells the current version. -/
def currentLine (current : Text) : Text := Console.inStyle "yellow" (currentStart ++ ' ' :: current)

/-- The lines that an announcement goes on with. -/
def adviceLines (current : Text) : List Text := [currentLine current, "\nTo update, run:",
  Console.inStyle "cyan" "pip install --upgrade gitcommitlint"]

theorem inStyle_start {style whole start : Text} (h : whole = start ++ [' ']) (t : Text) :
    Console.inStyle style (start ++ ' ' :: t) = Console.inStyle style (whole ++ t) := by
  rw [h, List.append_assoc, List.singleton_append]

theorem newerLine_eq (t : Text) :
    newerLine t = Console.inStyle "green" ("New version available: ".toList ++ t) :=
  inStyle_start (by decide) t

theorem latestLine_eq (current : Text) : latestLine current =
    Console.inStyle "green" ("You're running the latest version: ".toList ++ current) :=
  inStyle_start (by decide) current

theorem currentLine_eq (current : Text) :
    currentLine current = Console.inStyle "yellow" ("Current version: ".toList ++ current) :=
  inStyle_start (by decide) current

theorem warning_eq (reason : Text) :
    warning reason = Console.inStyle "yellow" (warningStart ++ ' ' :: reason) :=
  (inStyle_start (by decide) reason).symm

theorem verdict_newer (current t : Text) :
    verdict current (.newer t) = newerLine t :: adviceLines current := by
  rw [verdict, adviceLines, newerLine_eq, currentLine_eq]

theorem newerLine_mem_verdict (current t : Text) : newerLine t ∈ verdict current (.newer t) := by
  rw [verdict_newer]
  exact List.mem_cons_self

theorem verdict_of_ne (h : ∀ t, u ≠ .newer t) (current : Text) :
    verdict current u = [latestLine current] := by
  rw [latestLine_eq]
  cases u with
  | newer t => exact absurd rfl (h t)
  | upToDate => rfl
  | unanswered => rfl

/-- How the lines start that are no verdict. -/
def asideStarts : List Text := ["Checking", warningStart, currentStart, "\nTo update", "pip"]

/-- A line is put out that is no verdict. -/
def IsAside (shown : Text) : Prop := ∃ start ∈ asideStarts, start <+: shown

/-- A text that starts in one way does not start in another. -/
theorem not_prefix_of_prefix {start other : Text} (h : start <+: shown)
    (hother : ¬(start <+: other ∨ other <+: start)) : ¬other <+: shown :=
  fun hprefix => hother (List.prefix_or_prefix_of_prefix h hprefix)

theorem IsAside.not_newer (h : IsAside shown) : ¬newerStart <+: shown := by
  have hall : ∀ start ∈ asideStarts, ¬(start <+: newerStart ∨ newerStart <+: start) := by decide
  obtain ⟨start, hmem, hstart⟩ := h
  exact not_prefix_of_prefix hstart (hall start hmem)

theorem IsAside.not_latest (h : IsAside shown) : ¬latestStart <+: shown := by
  have hall : ∀ start ∈ asideStarts, ¬(start <+: latestStart ∨ latestStart <+: start) := by decide
  obtain ⟨start, hmem, hstart⟩ := h
  exact not_prefix_of_prefix hstart (hall start hmem)

/-! ## Lines one after another -/

theorem mem_trace_print_iff {line : Text} :
    .printed shown ∈ (standard.print line).trace ↔ standard.output line = .ok shown := by
  cases h : standard.output line with
  | error e =>
    rw [Console.print_of_output_error h]
    simp
  | ok shown' =>
    rw [Console.print_of_output h]
    simp [eq_comm]

/-- Lines that can all be shown are all put out. -/
theorem printAll_eq_ok_iff : (printAll lines).outcome = .ok () ↔ ∀ l ∈ lines, CanShow l := by
  unfold printAll
  induction lines with
  | nil => simp [Run.each, Run.pure]
  | cons l ls ih =>
    rw [Run.each_cons, Run.bind_eq_ok_iff, List.forall_mem_cons, ← ih, ← print_eq_ok_iff]
    exact ⟨fun ⟨(), hfirst, hrest⟩ => ⟨hfirst, hrest⟩, fun ⟨hfirst, hrest⟩ => ⟨(), hfirst, hrest⟩⟩

theorem mem_trace_printAll_iff (h : ∀ l ∈ lines, CanShow l) :
    .printed shown ∈ (printAll lines).trace ↔ ∃ l ∈ lines, standard.output l = .ok shown := by
  have hall : printAll lines = ⟨lines.flatMap fun l => (standard.print l).trace, .ok ()⟩ :=
    Run.each_of_ok fun l hl => print_eq_ok_iff.2 (h l hl)
  rw [hall, List.mem_flatMap]
  simp only [mem_trace_print_iff]

/-! ## What the check puts out -/

/-- An event is no verdict. -/
def IsQuiet (e : Event) : Prop := ∀ shown, e = .printed shown → IsAside shown

theorem isQuiet_warning {reason : Text} :
    ∀ e ∈ (standard.print (warning reason)).trace, IsQuiet e := by
  rintro e he shown rfl
  have hout := mem_trace_print_iff.1 he
  rw [warning_eq] at hout
  exact ⟨warningStart, by simp [asideStarts],
    prefix_of_mem_lineStarts (by simp [lineStarts]) isStyle_yellow hout⟩

theorem isQuiet_of_onlyAsks {α : Type} {r : Run α} (h : r.OnlyAsks) : ∀ e ∈ r.trace, IsQuiet e := by
  rintro e he shown rfl
  obtain ⟨q, hq⟩ := h _ he
  cases hq

theorem isQuiet_latest : ∀ e ∈ (latest network).trace, IsQuiet e := by
  refine Run.forall_mem_trace_bind
    (isQuiet_of_onlyAsks (Http.onlyAsks_getOnce network headers indexUrl)) fun r => ?_
  split <;> exact List.forall_mem_nil _

theorem isQuiet_incomparable (v : Value) : ∀ e ∈ (incomparable v).trace, IsQuiet e :=
  Run.forall_mem_trace_bind isQuiet_warning fun _ => List.forall_mem_nil _

theorem isQuiet_compareVersion (t : Text) (new : Version) :
    ∀ e ∈ (compareVersion current t new).trace, IsQuiet e := by
  unfold compareVersion
  split
  · exact List.forall_mem_nil _
  · split
    · exact isQuiet_incomparable _
    · split <;> exact List.forall_mem_nil _

theorem isQuiet_compareWith (v : Value) :
    ∀ e ∈ (compareWith refusal current v).trace, IsQuiet e := by
  unfold compareWith
  split
  · split
    · exact isQuiet_incomparable _
    · exact isQuiet_compareVersion _ _
  · exact isQuiet_incomparable _
  · split
    · exact isQuiet_incomparable _
    · exact List.forall_mem_nil _

theorem isQuiet_judge (v : Value) : ∀ e ∈ (judge refusal current v).trace, IsQuiet e := by
  unfold judge
  split
  · exact isQuiet_compareWith v
  · exact List.forall_mem_nil _

theorem isQuiet_unreachable (f : Failure) : ∀ e ∈ (unreachable f).trace, IsQuiet e := by
  unfold unreachable
  split
  · split
    · exact List.forall_mem_nil _
    · exact Run.forall_mem_trace_bind isQuiet_warning fun _ => List.forall_mem_nil _
  · exact List.forall_mem_nil _

/-- The check itself puts out nothing but warnings. -/
theorem isQuiet_check : ∀ e ∈ (check network current refusal).trace, IsQuiet e := by
  refine Run.forall_mem_trace_bind (r := (latest network).attempt) isQuiet_latest fun outcome => ?_
  cases outcome with
  | ok v => exact isQuiet_judge v
  | error f => exact isQuiet_unreachable f

/-! ## What is shown of it -/

theorem output_checking : standard.output "Checking for updates..." =
    .ok "Checking for updates...\n" := by decide +kernel

theorem output_toUpdate : standard.output "\nTo update, run:" = .ok "\nTo update, run:\n" := by
  decide +kernel

theorem output_command :
    standard.output (Console.inStyle "cyan" "pip install --upgrade gitcommitlint") =
      .ok "pip install --upgrade gitcommitlint\n" := by decide +kernel

theorem isAside_of_adviceLines {l : Text} (hl : l ∈ adviceLines current)
    (h : standard.output l = .ok shown) : IsAside shown := by
  simp only [adviceLines, List.mem_cons, List.not_mem_nil, or_false] at hl
  rcases hl with rfl | rfl | rfl
  · exact ⟨currentStart, by simp [asideStarts],
      prefix_of_mem_lineStarts (by simp [lineStarts]) isStyle_yellow h⟩
  · obtain rfl := Except.ok.inj (output_toUpdate.symm.trans h)
    exact ⟨"\nTo update", by simp [asideStarts], by decide⟩
  · obtain rfl := Except.ok.inj (output_command.symm.trans h)
    exact ⟨"pip", by simp [asideStarts], by decide⟩

/-- The check is shown if it comes to something and its verdict can be shown.  Then the lines of the
verdict are put out, and all others are none. -/
theorem exists_verdict_of_checkAndShow
    (h : (checkAndShow network current refusal).outcome = .ok ()) :
    ∃ u, Comes network current refusal u ∧ (∀ l ∈ verdict current u, CanShow l) ∧
      (∀ l ∈ verdict current u, ∀ shown, standard.output l = .ok shown →
        .printed shown ∈ (checkAndShow network current refusal).trace) ∧
      ∀ shown, .printed shown ∈ (checkAndShow network current refusal).trace →
        IsAside shown ∨ ∃ l ∈ verdict current u, standard.output l = .ok shown := by
  obtain ⟨⟨⟩, hchecking, hrest⟩ := Run.bind_eq_ok_iff.1 h
  obtain ⟨u, hcheck, hverdict⟩ := Run.bind_eq_ok_iff.1 hrest
  have hshown := printAll_eq_ok_iff.1 hverdict
  have htrace : (checkAndShow network current refusal).trace =
      (standard.print "Checking for updates...").trace ++
        ((check network current refusal).trace ++ (printAll (verdict current u)).trace) := by
    unfold checkAndShow
    rw [Run.bind_of_ok hchecking, Run.bind_of_ok hcheck]
  refine ⟨u, outcome_check_eq_ok_iff.1 hcheck, hshown, fun l hl shown hout => ?_,
    fun shown hmem => ?_⟩
  · rw [htrace, List.mem_append, List.mem_append]
    exact .inr (.inr ((mem_trace_printAll_iff hshown).2 ⟨l, hl, hout⟩))
  · rw [htrace, List.mem_append, List.mem_append] at hmem
    rcases hmem with hmem | hmem | hmem
    · obtain rfl := Except.ok.inj (output_checking.symm.trans (mem_trace_print_iff.1 hmem))
      exact .inl ⟨"Checking", by simp [asideStarts], by decide⟩
    · exact .inl (isQuiet_check _ hmem shown rfl)
    · exact .inr ((mem_trace_printAll_iff hshown).1 hmem)

/-! ## What is known -/

/-- Both texts write versions. -/
def IsComparable (t current : Text) : Prop :=
  (∃ new, Version.parse? t = some new) ∧ ∃ old, Version.parse? current = some old

/-- The index names a version, and it does not come after the current one. -/
def UpToDate (network : Http.Network) (current : Text) : Prop :=
  ∃ t, Names network t ∧ IsComparable t current ∧ ¬IsNewer t current

/-- Nothing is known of the newest version that can be compared. -/
inductive Unknown (network : Http.Network) (current : Text) : Prop where
  /-- The index was not reached. -/
  | unreached {trouble : Http.Trouble} {message : Text}
      (h : network indexUrl = .failure trouble message)
  /-- It answered with another status. -/
  | refused {status : Nat} {location : Option Text} {body : Text}
      (h : network indexUrl = .received status location body) (hstatus : status ≠ 200)
  /-- It named no version. -/
  | silent {location : Option Text} {body : Text} {v : Value}
      (h : network indexUrl = .received 200 location body) (htells : Tells body v)
      (hv : v.isTruthy = false)
  /-- What it named cannot be compared. -/
  | incomparable {location : Option Text} {body : Text} {v : Value}
      (h : network indexUrl = .received 200 location body) (htells : Tells body v)
      (hv : v.isTruthy = true) (hnot : ∀ t, v = .text t → ¬IsComparable t current)

theorem Tells.unique {body : Text} {v w : Value} (hv : Tells body v) (hw : Tells body w) : v = w :=
  Except.ok.inj ((readAnswer_eq_ok_iff.2 hv).symm.trans (readAnswer_eq_ok_iff.2 hw))

/-- The index names one version. -/
theorem Names.tells {location : Option Text} {body : Text} {v : Value} (hnames : Names network t)
    (h : network indexUrl = .received 200 location body) (htells : Tells body v) : v = .text t := by
  obtain ⟨location', body', h', htells'⟩ := hnames
  rw [h] at h'
  cases h'
  exact htells.unique htells'

theorem Names.unique {t' : Text} (h : Names network t) (h' : Names network t') : t = t' := by
  obtain ⟨location, body, hresponse, htells⟩ := h'
  cases h.tells hresponse htells
  rfl

theorem IsNewer.isComparable (h : IsNewer t current) : IsComparable t current := by
  obtain ⟨new, old, hnew, hold, -⟩ := h
  exact ⟨⟨new, hnew⟩, old, hold⟩

/-- If nothing is known, no version is named that can be compared. -/
theorem Unknown.not_isComparable (h : Unknown network current) (hnames : Names network t) :
    ¬IsComparable t current := by
  rintro hcomparable
  cases h with
  | unreached h =>
    obtain ⟨location, body, hresponse, -⟩ := hnames
    cases h.symm.trans hresponse
  | refused h hstatus =>
    obtain ⟨location, body, hresponse, -⟩ := hnames
    cases h.symm.trans hresponse
    exact hstatus rfl
  | silent h htells hv =>
    obtain rfl := hnames.tells h htells
    obtain ⟨⟨new, hnew⟩, -⟩ := hcomparable
    exact absurd (hv.symm.trans (isTruthy_of_parse? hnew)) nofun
  | incomparable h htells _ hnot => exact hnot t (hnames.tells h htells) hcomparable

theorem UpToDate.not_isNewer (h : UpToDate network current) (hnames : Names network t) :
    ¬IsNewer t current := by
  obtain ⟨t', hnames', -, hnot⟩ := h
  rwa [hnames.unique hnames']

/-- A check that comes to no newer version found that there is none, or found nothing. -/
theorem Comes.upToDate_or_unknown (h : Comes network current refusal u) (hu : ∀ t, u ≠ .newer t) :
    UpToDate network current ∨ Unknown network current := by
  cases h with
  | unanswered hasked =>
    rcases answer_of_asked_error hasked with hfailure | ⟨status, location, body, hresponse, hstatus⟩
    · exact .inr (.unreached hfailure)
    · exact .inr (.refused hresponse hstatus)
  | refused hasked hstatus => exact .inr (.refused (answer_of_asked hasked) hstatus)
  | answered hanswers hjudged =>
    obtain ⟨location, body, hresponse, htells⟩ := hanswers.response
    cases hjudged with
    | silent hv => exact .inr (.silent hresponse htells hv)
    | @compared t new old hnew hold =>
      refine .inl ⟨t, ⟨location, body, hresponse, htells⟩, ⟨⟨new, hnew.1⟩, old, hold.1⟩, ?_⟩
      rintro ⟨new', old', hnew', hold', hafter⟩
      obtain rfl := Option.some.inj (hnew.1.symm.trans hnew')
      obtain rfl := Option.some.inj (hold.1.symm.trans hold')
      exact hu t (if_pos hafter)
    | incomparable hv hblamed =>
      refine .inr (.incomparable hresponse htells hv ?_)
      rintro t rfl ⟨⟨new, hnew⟩, old, hold⟩
      cases hblamed with
      | newest hrefused => cases hrefused.parse?_eq_none.symm.trans hnew
      | current _ hnone => cases hnone.symm.trans hold

/-- If the index names a newer version, the check comes to it. -/
theorem Comes.eq_newer (h : Comes network current refusal u) (hnames : Names network t)
    (hnewer : IsNewer t current) : u = .newer t := by
  by_contra hne
  have hu : ∀ t', u ≠ .newer t' := by
    rintro t' rfl
    exact hne (congrArg _ (h.newer.1.unique hnames))
  rcases h.upToDate_or_unknown hu with hlatest | hunknown
  · exact hlatest.not_isNewer hnames hnewer
  · exact hunknown.not_isComparable hnames hnewer.isComparable

/-- And otherwise to none. -/
theorem Comes.ne_newer (h : Comes network current refusal u)
    (hnone : UpToDate network current ∨ Unknown network current) : ∀ t, u ≠ .newer t := by
  rintro t rfl
  obtain ⟨hnames, hnewer⟩ := h.newer
  rcases hnone with hlatest | hunknown
  · exact hlatest.not_isNewer hnames hnewer
  · exact hunknown.not_isComparable hnames hnewer.isComparable

/-! ## What is announced -/

theorem newerStart_of_output (h : standard.output (newerLine t) = .ok shown) :
    newerStart <+: shown :=
  prefix_of_mem_lineStarts (by simp [lineStarts]) isStyle_green h

theorem latestStart_of_output (h : standard.output (latestLine current) = .ok shown) :
    latestStart <+: shown :=
  prefix_of_mem_lineStarts (by simp [lineStarts]) isStyle_green h

theorem not_latest_of_newer (h : newerStart <+: shown) : ¬latestStart <+: shown :=
  not_prefix_of_prefix h (by decide)

/-- The lines that announce a newer version are those of the versions that the index names. -/
theorem announces_iff (h : (checkAndShow network current refusal).outcome = .ok ()) (shown : Text) :
    .printed shown ∈ (checkAndShow network current refusal).trace ∧ newerStart <+: shown ↔
      ∃ t, Names network t ∧ IsNewer t current ∧ standard.output (newerLine t) = .ok shown := by
  obtain ⟨u, hcomes, -, hput, hall⟩ := exists_verdict_of_checkAndShow h
  constructor
  · rintro ⟨hmem, hstart⟩
    rcases hall shown hmem with haside | ⟨l, hl, hout⟩
    · exact absurd hstart haside.not_newer
    · by_cases hu : ∀ t, u ≠ .newer t
      · rw [verdict_of_ne hu, List.mem_singleton] at hl
        subst hl
        exact absurd (latestStart_of_output hout) (not_latest_of_newer hstart)
      · simp only [not_forall, ne_eq, not_not] at hu
        obtain ⟨t, rfl⟩ := hu
        rw [verdict_newer, List.mem_cons] at hl
        rcases hl with rfl | hl
        · exact ⟨t, hcomes.newer.1, hcomes.newer.2, hout⟩
        · exact absurd hstart (isAside_of_adviceLines hl hout).not_newer
  · rintro ⟨t, hnames, hnewer, hout⟩
    obtain rfl := hcomes.eq_newer hnames hnewer
    exact ⟨hput _ (newerLine_mem_verdict current t) _ hout, newerStart_of_output hout⟩

/-- It is said that there is none if the index says so, and if nothing is known. -/
theorem says_latest_iff (h : (checkAndShow network current refusal).outcome = .ok ()) :
    (checkAndShow network current refusal).Says latestStart ↔
      UpToDate network current ∨ Unknown network current := by
  obtain ⟨u, hcomes, hshown, hput, hall⟩ := exists_verdict_of_checkAndShow h
  constructor
  · rintro ⟨shown, hmem, hstart⟩
    refine hcomes.upToDate_or_unknown ?_
    rintro t rfl
    rcases hall shown hmem with haside | ⟨l, hl, hout⟩
    · exact haside.not_latest hstart
    · rw [verdict_newer, List.mem_cons] at hl
      rcases hl with rfl | hl
      · exact not_latest_of_newer (newerStart_of_output hout) hstart
      · exact (isAside_of_adviceLines hl hout).not_latest hstart
  · intro hnone
    rw [verdict_of_ne (hcomes.ne_newer hnone)] at hshown hput
    obtain ⟨shown, hout⟩ := hshown _ (List.mem_singleton_self _)
    exact ⟨shown, hput _ (List.mem_singleton_self _) _ hout, latestStart_of_output hout⟩

theorem canShow_newerLine (h : (checkAndShow network current refusal).outcome = .ok ())
    (hnames : Names network t) (hnewer : IsNewer t current) : CanShow (newerLine t) := by
  obtain ⟨u, hcomes, hshown, -⟩ := exists_verdict_of_checkAndShow h
  obtain rfl := hcomes.eq_newer hnames hnewer
  exact hshown _ (newerLine_mem_verdict current t)

/-- A newer version is announced exactly if the index names one.  It is said that there is none if
the index names a version that is not newer, and in another case, which excludes that one: nothing
is known of the newest version. -/
theorem announcements (h : (checkAndShow network current refusal).outcome = .ok ()) :
    (∀ t, Names network t → IsNewer t current → CanShow (newerLine t)) ∧
      (∀ shown, .printed shown ∈ (checkAndShow network current refusal).trace ∧
          newerStart <+: shown ↔
        ∃ t, Names network t ∧ IsNewer t current ∧ standard.output (newerLine t) = .ok shown) ∧
      ((checkAndShow network current refusal).Says latestStart ↔
        UpToDate network current ∨ Unknown network current) ∧
      (Unknown network current → ¬UpToDate network current) := by
  refine ⟨fun t => canShow_newerLine h, announces_iff h, says_latest_iff h, ?_⟩
  rintro hunknown ⟨t, hnames, hcomparable, -⟩
  exact hunknown.not_isComparable hnames hcomparable

/-- A network in which the index names a version. -/
def publishing : Http.Network := fun _ =>
  .response 200 none "\x7b\"info\": \x7b\"version\": \"2.0\"\x7d\x7d"

theorem announcements_publishing :
    (checkAndShow publishing "0.1.0").outcome = .ok () ∧
      .printed "New version available: 2.0\n" ∈ (checkAndShow publishing "0.1.0").trace := by
  have hok : (checkAndShow publishing "0.1.0").outcome = .ok () := by decide +kernel
  have hcheck : (check publishing "0.1.0").outcome = .ok (.newer "2.0") := by decide +kernel
  obtain ⟨hnames, hnewer⟩ := (outcome_check_eq_ok_iff.1 hcheck).newer
  have hline : standard.output (newerLine "2.0") = .ok "New version available: 2.0\n" := by
    decide +kernel
  exact ⟨hok, (((announcements hok).2.1 _).2 ⟨_, hnames, hnewer, hline⟩).1⟩

/-- The statement that there is no newer version does not mean that the index said so. -/
theorem not_forall_latest_known :
    ¬∀ (network : Http.Network) (current : Text),
      (checkAndShow network current).outcome = .ok () →
        (checkAndShow network current).Says latestStart → UpToDate network current := by
  intro h
  have hok : (checkAndShow (fun _ => .failure .connect "offline") "0.1.0").outcome = .ok () := by
    decide +kernel
  have hunknown : Unknown (fun _ => .failure .connect "offline") "0.1.0" := .unreached rfl
  obtain ⟨t, hnames, hcomparable, -⟩ := h _ _ hok ((says_latest_iff hok).2 (.inr hunknown))
  exact hunknown.not_isComparable hnames hcomparable

end Update

end CommitCheck
