import CommitCheck.Proofs.Console.Report
import CommitCheck.Proofs.Http.Start
import CommitCheck.Proofs.Run
import CommitCheck.Version.Update

/-!
# What the index says of a newer version

The index is asked once, and its answer is read and compared.  `Comes` tells what is known in the
end, by what came of the question, and `check_eq_ok_iff` that the check comes to just that.  Where
nothing comes of it in this sense the check fails.  That is so if the body of an answer is no
document, or one that is no table or names something else than a table where the facts about the
program should be; if a version is no text and the library that compares versions fails on it; if
it has a number with too many digits; and if a warning cannot be shown, because the reason in it is
taken for markup (`not_forall_check_answers`).

An update is only announced if the index named it and it comes after the current version.
-/

namespace CommitCheck.Update

open Console (standard)

variable {network : Http.Network} {current body t : Text} {refusal : Refusal} {v w : Value}
  {u : Update} {e : Failure}

/-! ## Asking -/

/-- What comes of the question to the index. -/
def asked (network : Http.Network) : Except Failure Http.Response :=
  (Http.getOnce network headers indexUrl).outcome

/-- The address of the index is sent as it is. -/
theorem exists_start_indexUrl : ∃ a, Http.start indexUrl = .ok a ∧ a.text = indexUrl ∧
    Http.isWebScheme a.scheme = true := by
  have hread : (Http.start indexUrl).toOption.map (fun a => (a.text, Http.isWebScheme a.scheme)) =
      some (indexUrl, true) := by decide +kernel
  cases hstart : Http.start indexUrl with
  | error e =>
    rw [hstart] at hread
    cases hread
  | ok a =>
    rw [hstart] at hread
    obtain ⟨htext, hweb⟩ := Prod.mk.inj (Option.some.inj hread)
    exact ⟨a, rfl, htext, hweb⟩

/-- What comes of the question is what comes of the one request, and an answer that leads on has to
name an address. -/
theorem exists_asked_eq : ∃ a, Http.isWebScheme a.scheme = true ∧ a.text = indexUrl ∧
    ∀ network, asked network = Http.reply network a >>= fun r =>
      match r.next? with
      | none => .ok r
      | some location => Http.target a location >>= fun _ => .ok r := by
  obtain ⟨a, hstart, htext, hweb⟩ := exists_start_indexUrl
  refine ⟨a, hweb, htext, fun network => ?_⟩
  unfold asked Http.getOnce
  rw [hstart, Run.bind_ofExcept_ok, if_pos (show headers.authorization.all Http.isHeadText = true
    from rfl), Run.outcome_bind]
  show (Http.reply network a >>= _) = _
  cases Http.reply network a with
  | error e => rfl
  | ok r =>
    show Run.outcome (match r.next? with | none => _ | some location => _) =
      match r.next? with | none => _ | some location => _
    cases r.next? with
    | none => rfl
    | some location =>
      show Run.outcome (Run.ofExcept (Http.target a location) >>= fun _ => pure r) = _
      rw [Run.outcome_bind]
      rfl

/-- A response is what the network answers. -/
theorem answer_of_asked {r : Http.Response} (h : asked network = .ok r) :
    network indexUrl = .received r.status r.location r.body := by
  obtain ⟨a, -, htext, hasked⟩ := exists_asked_eq
  rw [hasked] at h
  obtain ⟨r', hreply, h⟩ := Result.bind_eq_ok_iff.1 h
  obtain rfl : r' = r := by
    split at h
    · exact Except.ok.inj h
    · obtain ⟨-, -, h⟩ := Result.bind_eq_ok_iff.1 h
      exact Except.ok.inj h
  rw [← htext]
  exact (Http.reply_eq_ok_iff.1 hreply).2

/-- A question that fails as a request is not answered, or the answer leads on. -/
theorem answer_of_asked_error {trouble : Http.Trouble} {message : Text}
    (h : asked network = .error (.requestFailed trouble message)) :
    network indexUrl = .failure trouble message ∨
      ∃ status location body, network indexUrl = .received status location body ∧ status ≠ 200 := by
  obtain ⟨a, hweb, htext, hasked⟩ := exists_asked_eq
  rw [hasked, Http.reply, hweb, htext] at h
  cases hnetwork : network indexUrl with
  | failure trouble' message' =>
    rw [hnetwork] at h
    cases h
    exact .inl rfl
  | received status location body =>
    refine .inr ⟨status, location, body, rfl, ?_⟩
    rintro rfl
    rw [hnetwork] at h
    cases h
  | unencodable =>
    rw [hnetwork] at h
    cases h

/-! ## Reading the answer -/

/-- The body of an answer tells what the newest version is, null if it tells nothing. -/
inductive Tells (body : Text) : Value → Prop where
  /-- There are no facts about the program. -/
  | bare {fields : Fields} (hbody : document (textBytes body) = .ok (.table fields))
      (hinfo : Fields.get? fields "info" = none) : Tells body .null
  /-- There are, with a version or without. -/
  | told {fields info : Fields} (hbody : document (textBytes body) = .ok (.table fields))
      (hinfo : Fields.get? fields "info" = some (.table info)) :
      Tells body ((Fields.get? info "version").getD .null)

theorem member_eq_ok_iff {name : Text} {fallback : Value} : member name fallback w = .ok v ↔
    ∃ fs, w = .table fs ∧ (Fields.get? fs name).getD fallback = v := by
  cases w <;> simp [member]

theorem readAnswer_eq_ok_iff : readAnswer body = .ok v ↔ Tells body v := by
  unfold readAnswer
  rw [Result.bind_eq_ok_iff]
  constructor
  · rintro ⟨whole, hbody, h⟩
    obtain ⟨facts, hfacts, h⟩ := Result.bind_eq_ok_iff.1 h
    obtain ⟨info, rfl, rfl⟩ := member_eq_ok_iff.1 h
    obtain ⟨fields, rfl, hfields⟩ := member_eq_ok_iff.1 hfacts
    cases hinfo : Fields.get? fields "info" with
    | none =>
      rw [hinfo] at hfields
      cases hfields
      exact .bare hbody hinfo
    | some facts =>
      rw [hinfo] at hfields
      obtain rfl : facts = .table info := hfields
      exact .told hbody hinfo
  · rintro (⟨hbody, hinfo⟩ | ⟨hbody, hinfo⟩)
    · exact ⟨_, hbody, by rw [member, hinfo]; rfl⟩
    · exact ⟨_, hbody, by rw [member, hinfo]; rfl⟩

/-- An answer that cannot be read is no failure of the request. -/
theorem readAnswer_ne_requestFailed {trouble : Http.Trouble} {message : Text} :
    readAnswer body ≠ .error (.requestFailed trouble message) := by
  have hmember : ∀ name fallback w e, member name fallback w = .error e → e = .lacking := by
    intro name fallback w e h
    unfold member at h
    split at h <;> cases h
    rfl
  have hdocument : ∀ e, document (textBytes body) = .error e →
      e ≠ .requestFailed trouble message := by
    rintro e h rfl
    unfold document at h
    split at h
    · cases h
    · split at h <;> cases h
  refine fun h => Result.of_bind_eq_error (P := fun e => e ≠ .requestFailed trouble message) h
    hdocument (fun whole e h => ?_) rfl
  refine Result.of_bind_eq_error (P := fun e => e ≠ .requestFailed trouble message) h
    (fun e h => ?_) (fun info e h => ?_)
  · rw [hmember _ _ _ _ h]
    nofun
  · rw [hmember _ _ _ _ h]
    nofun

/-- The index answers with status 200 and tells what the newest version is. -/
def Answers (network : Http.Network) (v : Value) : Prop :=
  ∃ r, asked network = .ok r ∧ r.status = 200 ∧ Tells r.body v

theorem latest_eq_ok_iff : (latest network).outcome = .ok v ↔
    (∃ r, asked network = .ok r ∧ r.status ≠ 200 ∧ v = .null) ∨ Answers network v := by
  unfold latest
  rw [Run.bind_eq_ok_iff]
  constructor
  · rintro ⟨r, hasked, h⟩
    split at h
    · rename_i hstatus
      exact .inr ⟨r, hasked, hstatus, readAnswer_eq_ok_iff.1 h⟩
    · rename_i hstatus
      exact .inl ⟨r, hasked, hstatus, (Except.ok.inj h).symm⟩
  · rintro (⟨r, hasked, hstatus, rfl⟩ | ⟨r, hasked, hstatus, htells⟩)
    · exact ⟨r, hasked, by rw [if_neg hstatus]; rfl⟩
    · exact ⟨r, hasked, by rw [if_pos hstatus]; exact readAnswer_eq_ok_iff.2 htells⟩

/-- The newest version is not known because of a failure of the request exactly if that failed. -/
theorem latest_eq_requestFailed_iff {trouble : Http.Trouble} {message : Text} :
    (latest network).outcome = .error (.requestFailed trouble message) ↔
      asked network = .error (.requestFailed trouble message) := by
  unfold latest
  rw [Run.outcome_bind]
  show (asked network >>= _) = _ ↔ _
  cases asked network with
  | error e =>
    constructor <;>
    · intro h
      cases h
      rfl
  | ok r =>
    refine iff_of_false (fun h => ?_) nofun
    change Run.outcome (if r.status = 200 then _ else _) = _ at h
    split at h
    · exact readAnswer_ne_requestFailed h
    · cases h

/-! ## Comparing -/

/-- A text writes a version, with no number that is too long to be read. -/
def Writes (t : Text) (version : Version) : Prop :=
  Version.parse? t = some version ∧ Version.isUnreadable t = false

/-- A line can be shown. -/
def CanShow (line : Text) : Prop := ∃ shown, standard.output line = .ok shown

theorem print_eq_ok_iff {line : Text} : (standard.print line).outcome = .ok () ↔ CanShow line := by
  unfold CanShow
  cases h : standard.output line with
  | error e =>
    rw [Console.print_of_output_error h]
    simp
  | ok shown =>
    rw [Console.print_of_output h]
    simp

/-- Whether a value is a text, be it one with halves of characters. -/
def isText : Value → Bool
  | .text _ | .torn _ => true
  | _ => false

/-- It is said of a value that it is no version. -/
inductive IsRefused (refusal : Refusal) : Value → Prop where
  /-- It is a text that writes none. -/
  | text {t : Text} (h : Version.parse? t = none) : IsRefused refusal (.text t)
  /-- It is a text with halves of characters. -/
  | torn {codes : List Nat} : IsRefused refusal (.torn codes)
  /-- It is no text, and the library does not fail on it. -/
  | other {v : Value} (hv : isText v = false) (h : refusal v = none) : IsRefused refusal v

/-- The value to blame if a newest version and the current one cannot be compared. -/
inductive Blamed (refusal : Refusal) (current : Text) : Value → Value → Prop where
  /-- What the index names is not a version. -/
  | newest {v : Value} (h : IsRefused refusal v) : Blamed refusal current v v
  /-- The current version is not one. -/
  | current {t : Text} {new : Version} (hnew : Writes t new) (h : Version.parse? current = none) :
      Blamed refusal current (.text t) (.text current)

/-- The warning that versions cannot be compared. -/
def comparisonWarning (v : Value) : Text :=
  warning ("compare versions: Invalid version: ".toList ++ v.shown)

/-- What is known of a newer version if the index tells what the newest one is. -/
inductive Judged (refusal : Refusal) (current : Text) : Value → Update → Prop where
  /-- It does not say. -/
  | silent {v : Value} (h : v.isTruthy = false) : Judged refusal current v .upToDate
  /-- Both are versions. -/
  | compared {t : Text} {new old : Version} (hnew : Writes t new) (hold : Writes current old) :
      Judged refusal current (.text t) (if new.isAfter old then .newer t else .upToDate)
  /-- One is not, and this is shown. -/
  | incomparable {v w : Value} (hv : v.isTruthy = true) (hblamed : Blamed refusal current v w)
      (hshown : CanShow (comparisonWarning w)) : Judged refusal current v .upToDate

theorem isTruthy_of_parse? {version : Version} (h : Version.parse? t = some version) :
    (Value.text t).isTruthy = true := by
  cases t with
  | nil => cases h
  | cons c cs => rfl

theorem incomparable_eq_ok_iff :
    (incomparable w).outcome = .ok u ↔ u = .upToDate ∧ CanShow (comparisonWarning w) := by
  unfold incomparable
  rw [Run.bind_eq_ok_iff]
  constructor
  · rintro ⟨⟨⟩, hprint, h⟩
    exact ⟨(Except.ok.inj h).symm, print_eq_ok_iff.1 hprint⟩
  · rintro ⟨rfl, hshown⟩
    exact ⟨(), print_eq_ok_iff.2 hshown, rfl⟩

theorem compareWith_of_other (hv : isText v = false) :
    compareWith refusal current v =
      match refusal v with
      | none => incomparable v
      | some e => Run.fail e := by
  cases v with
  | text t => cases hv
  | torn codes => cases hv
  | _ => rfl

/-- A value is a text, a text with halves of characters, or no text. -/
theorem text_or_torn_or_other (v : Value) :
    (∃ t, v = .text t) ∨ (∃ codes, v = .torn codes) ∨ isText v = false := by
  cases v with
  | text t => exact .inl ⟨t, rfl⟩
  | torn codes => exact .inr (.inl ⟨codes, rfl⟩)
  | _ => exact .inr (.inr rfl)

/-- What the index names is not a version. -/
theorem compareWith_of_isRefused (h : IsRefused refusal v) :
    compareWith refusal current v = incomparable v := by
  cases h with
  | text hnone =>
    unfold compareWith
    dsimp only
    rw [hnone]
  | torn => rfl
  | other hv hnone => rw [compareWith_of_other hv, hnone]

theorem compareWith_of_parse? {new : Version} (h : Version.parse? t = some new) :
    compareWith refusal current (.text t) = compareVersion current t new := by
  unfold compareWith
  dsimp only
  rw [h]

theorem IsRefused.parse?_eq_none (h : IsRefused refusal (.text t)) : Version.parse? t = none := by
  cases h with
  | text hnone => exact hnone
  | other hother => cases hother

/-- What comes of a text that writes a version. -/
theorem compareVersion_eq_ok_iff {new : Version} (hnew : Version.parse? t = some new) :
    (compareVersion current t new).outcome = .ok u ↔ Judged refusal current (.text t) u := by
  unfold compareVersion
  constructor
  · intro h
    split at h
    · cases h
    · rename_i hreadable
      have hwrites : Writes t new := ⟨hnew, Bool.eq_false_iff.2 hreadable⟩
      cases hcurrent : Version.parse? current with
      | none =>
        rw [hcurrent] at h
        obtain ⟨rfl, hshown⟩ := incomparable_eq_ok_iff.1 h
        exact .incomparable (isTruthy_of_parse? hnew) (.current hwrites hcurrent) hshown
      | some old =>
        rw [hcurrent] at h
        dsimp only at h
        split at h
        · cases h
        · rename_i hreadable'
          obtain rfl := Except.ok.inj h
          exact .compared hwrites ⟨hcurrent, Bool.eq_false_iff.2 hreadable'⟩
  · intro h
    cases h with
    | silent hv => exact absurd (hv.symm.trans (isTruthy_of_parse? hnew)) nofun
    | compared hwrites hold =>
      obtain rfl := Option.some.inj (hnew.symm.trans hwrites.1)
      rw [hwrites.2, hold.1]
      dsimp only
      rw [hold.2]
      rfl
    | incomparable hv hblamed hshown =>
      cases hblamed with
      | newest hrefused => cases hrefused.parse?_eq_none.symm.trans hnew
      | current hwrites hcurrent =>
        rw [hwrites.2, hcurrent]
        exact incomparable_eq_ok_iff.2 ⟨rfl, hshown⟩

/-- What comes of a value that is refused. -/
theorem incomparable_eq_ok_iff_of_isRefused (hv : v.isTruthy = true) (h : IsRefused refusal v) :
    (incomparable v).outcome = .ok u ↔ Judged refusal current v u := by
  rw [incomparable_eq_ok_iff]
  constructor
  · rintro ⟨rfl, hshown⟩
    exact .incomparable hv (.newest h) hshown
  · intro hjudged
    cases hjudged with
    | silent hsilent => exact absurd (hsilent.symm.trans hv) nofun
    | compared hnew => cases h.parse?_eq_none.symm.trans hnew.1
    | incomparable _ hblamed hshown =>
      cases hblamed with
      | newest => exact ⟨rfl, hshown⟩
      | current hnew => cases h.parse?_eq_none.symm.trans hnew.1

/-- Nothing comes of a value that is no text if the library fails on it. -/
theorem not_judged_of_refusal (hv : v.isTruthy = true) (hother : isText v = false)
    (h : refusal v = some e) : ¬Judged refusal current v u := by
  intro hjudged
  cases hjudged with
  | silent hsilent => exact absurd (hsilent.symm.trans hv) nofun
  | compared => cases hother
  | incomparable _ hblamed =>
    cases hblamed with
    | current => cases hother
    | newest hrefused =>
      cases hrefused with
      | text => cases hother
      | torn => cases hother
      | other _ hnone => cases hnone.symm.trans h

theorem compareWith_eq_ok_iff (hv : v.isTruthy = true) :
    (compareWith refusal current v).outcome = .ok u ↔ Judged refusal current v u := by
  have hrefused (h : IsRefused refusal v) :
      (compareWith refusal current v).outcome = .ok u ↔ Judged refusal current v u := by
    rw [compareWith_of_isRefused h]
    exact incomparable_eq_ok_iff_of_isRefused hv h
  obtain ⟨t, rfl⟩ | ⟨codes, rfl⟩ | hother := text_or_torn_or_other v
  · cases hparse : Version.parse? t with
    | none => exact hrefused (.text hparse)
    | some new =>
      rw [compareWith_of_parse? hparse]
      exact compareVersion_eq_ok_iff hparse
  · exact hrefused .torn
  · cases hrefusal : refusal v with
    | none => exact hrefused (.other hother hrefusal)
    | some e =>
      rw [compareWith_of_other hother, hrefusal]
      exact iff_of_false nofun (not_judged_of_refusal hv hother hrefusal)

theorem judge_eq_ok_iff :
    (judge refusal current v).outcome = .ok u ↔ Judged refusal current v u := by
  unfold judge
  split
  · rename_i hv
    exact compareWith_eq_ok_iff hv
  · rename_i hv
    rw [Bool.not_eq_true] at hv
    constructor
    · intro h
      obtain rfl := Except.ok.inj h
      exact .silent hv
    · intro h
      cases h with
      | silent => rfl
      | compared hnew => exact absurd (hv.symm.trans (isTruthy_of_parse? hnew.1)) nofun
      | incomparable hfull => exact absurd (hv.symm.trans hfull) nofun

/-! ## The whole check -/

/-- The warning that the newest version is not known. -/
def fetchWarning (message : Text) : Text := warning ("fetch latest version: ".toList ++ message)

/-- What is known of a newer version in the end. -/
inductive Comes (network : Http.Network) (current : Text) (refusal : Refusal) : Update → Prop where
  /-- The request fails, and this is shown. -/
  | unanswered {trouble : Http.Trouble} {message : Text}
      (hasked : asked network = .error (.requestFailed trouble message))
      (htrouble : trouble ≠ .invalidUrl) (hshown : CanShow (fetchWarning message)) :
      Comes network current refusal .unanswered
  /-- The index answers with another status. -/
  | refused {r : Http.Response} (hasked : asked network = .ok r) (hstatus : r.status ≠ 200) :
      Comes network current refusal .upToDate
  /-- The index tells what the newest version is. -/
  | answered {v : Value} {u : Update} (hanswers : Answers network v)
      (hjudged : Judged refusal current v u) : Comes network current refusal u

theorem unreachable_eq_ok_iff : (unreachable e).outcome = .ok u ↔
    ∃ trouble message, e = .requestFailed trouble message ∧ trouble ≠ .invalidUrl ∧
      CanShow (fetchWarning message) ∧ u = .unanswered := by
  unfold unreachable
  split
  · rename_i trouble message
    split
    · rename_i htrouble
      refine iff_of_false nofun ?_
      rintro ⟨trouble', message', he, hne, -⟩
      cases he
      exact hne htrouble
    · rename_i htrouble
      rw [Run.bind_eq_ok_iff]
      constructor
      · rintro ⟨⟨⟩, hprint, h⟩
        exact ⟨trouble, message, rfl, htrouble, print_eq_ok_iff.1 hprint, (Except.ok.inj h).symm⟩
      · rintro ⟨trouble', message', he, -, hshown, rfl⟩
        cases he
        exact ⟨(), print_eq_ok_iff.2 hshown, rfl⟩
  · rename_i hother
    refine iff_of_false nofun ?_
    rintro ⟨trouble, message, he, -⟩
    exact hother trouble message he

theorem outcome_check_eq_ok_iff :
    (check network current refusal).outcome = .ok u ↔ Comes network current refusal u := by
  have hcheck : (check network current refusal).outcome = .ok u ↔
      (∃ v, (latest network).outcome = .ok v ∧ (judge refusal current v).outcome = .ok u) ∨
        ∃ e, (latest network).outcome = .error e ∧ (unreachable e).outcome = .ok u := by
    unfold check
    rw [Run.bind_of_ok (a := (latest network).outcome) rfl]
    cases (latest network).outcome <;> simp
  rw [hcheck]
  constructor
  · rintro (⟨v, hlatest, h⟩ | ⟨e, hlatest, h⟩)
    · rw [judge_eq_ok_iff] at h
      rcases latest_eq_ok_iff.1 hlatest with ⟨r, hasked, hstatus, rfl⟩ | hanswers
      · cases h with
        | silent => exact .refused hasked hstatus
        | incomparable hfull => cases hfull
      · exact .answered hanswers h
    · obtain ⟨trouble, message, rfl, htrouble, hshown, rfl⟩ := unreachable_eq_ok_iff.1 h
      exact .unanswered (latest_eq_requestFailed_iff.1 hlatest) htrouble hshown
  · intro h
    cases h with
    | unanswered hasked htrouble hshown =>
      exact .inr ⟨_, latest_eq_requestFailed_iff.2 hasked,
        unreachable_eq_ok_iff.2 ⟨_, _, rfl, htrouble, hshown, rfl⟩⟩
    | refused hasked hstatus =>
      exact .inl ⟨.null, latest_eq_ok_iff.2 (.inl ⟨_, hasked, hstatus, rfl⟩), rfl⟩
    | answered hanswers hjudged =>
      exact .inl ⟨_, latest_eq_ok_iff.2 (.inr hanswers), judge_eq_ok_iff.2 hjudged⟩

/-! ## Newer versions -/

/-- The index answers with status 200 that this is the newest version. -/
def Names (network : Http.Network) (t : Text) : Prop :=
  ∃ location body, network indexUrl = .received 200 location body ∧ Tells body (.text t)

/-- A text writes a version that comes after that of another one. -/
def IsNewer (t current : Text) : Prop :=
  ∃ new old, Version.parse? t = some new ∧ Version.parse? current = some old ∧
    new.isAfter old = true

theorem Answers.response (h : Answers network v) :
    ∃ location body, network indexUrl = .received 200 location body ∧ Tells body v := by
  obtain ⟨r, hasked, hstatus, htells⟩ := h
  exact ⟨r.location, r.body, hstatus ▸ answer_of_asked hasked, htells⟩

theorem Comes.newer (h : Comes network current refusal (.newer t)) :
    Names network t ∧ IsNewer t current := by
  generalize hu : Update.newer t = u at h
  cases h with
  | unanswered => cases hu
  | refused => cases hu
  | answered hanswers hjudged =>
    cases hjudged with
    | silent => cases hu
    | incomparable => cases hu
    | @compared t' new old hnew hold =>
      split at hu
      · rename_i hafter
        cases hu
        exact ⟨hanswers.response, new, old, hnew.1, hold.1, hafter⟩
      · cases hu

-- a library that fails on a number stops the check, and the head of the answer has no part in it
example : (check (fun _ => .received 200 (some "/é") "\x7b\"info\": \x7b\"version\": 5\x7d\x7d")
    "0.1.0" fun _ => some .wrongKind).outcome = .error .wrongKind := by decide +kernel

end CommitCheck.Update
