import CommitCheck.Proofs.Http.Chain
import CommitCheck.Proofs.Tracker

/-!
# What a chain of requests says of an issue

A question about an issue sends the requests of one chain, and what the chain comes to is the
answer: the final response, or the failure that ended it (`ask_of_concludes`).  The observers hear
of a final response and of nothing else.

`ask_follows_chain` reads this as the four ways a question can end.  Since every chain comes to
one thing, each of them is an equivalence.
-/

namespace CommitCheck.Tracker

open Http (Visit Response Concludes IsPlain)

variable {network : Http.Network} {t : Tracker} {repository n : Text} {u : Url} {e : Failure}

/-! ## The chain of a question -/

/-- A question for a well-formed address with a token in ASCII follows the request at the
address. -/
theorem lookup_eq_follow (hstart : Http.start (t.issueUrl repository n) = .ok u)
    (htoken : Http.isHeadText t.context.token = true) :
    lookup network t repository n = Http.follow network Http.stepLimit (t.headers.first u) u := by
  unfold lookup Http.get
  rw [hstart, Run.bind_ofExcept_ok, all_isHeadText_headers, if_pos htoken]

/-- What the chain of a question whose first request goes to an address comes to.  No more than
21 requests are sent. -/
def Comes (t : Tracker) (network : Http.Network) (u : Url) (visits : List Visit)
    (o : Except Failure Response) : Prop :=
  Concludes network 21 ⟨t.headers.first u, u⟩ visits o

/-- What the observers leave when they are told what a chain came to. -/
def told (t : Tracker) (repository n : Text) : Except Failure Response → List Event
  | .ok r => t.observers.flatMap fun o => (o.tell (.lookedUp repository n r.status)).trace
  | .error _ => []

/-- What a chain says of an issue. -/
def answerOf (repository n : Text) : Except Failure Response → Except Failure Bool
  | .ok r => .ok (Http.isSuccess r.status)
  | .error e => .error (failureOf repository n e)

theorem answerOf_eq_ok_iff {o : Except Failure Response} {b : Bool} :
    answerOf repository n o = .ok b ↔ ∃ r, o = .ok r ∧ Http.isSuccess r.status = b := by
  cases o <;> simp [answerOf]

theorem answerOf_eq_error_iff {o : Except Failure Response} :
    answerOf repository n o = .error e ↔ ∃ e', o = .error e' ∧ failureOf repository n e' = e := by
  cases o <;> simp [answerOf]

/-! ## The answer of a question -/

/-- If no observer fails, a question is its request, then the observers are told of a final
response, and the answer is that of the response. -/
theorem ask_eq_lookup (network : Http.Network) (repository n : Text)
    (hobservers : ∀ o ∈ t.observers, ∀ notice, (o.tell notice).outcome = .ok ()) :
    t.ask network repository n =
      ⟨(lookup network t repository n).trace ++
        t.told repository n (lookup network t repository n).outcome,
        answerOf repository n (lookup network t repository n).outcome⟩ := by
  cases h : (lookup network t repository n).outcome with
  | ok r =>
    have htold : Observer.tellAll t.observers (.lookedUp repository n r.status) =
        ⟨t.told repository n (.ok r), .ok ()⟩ :=
      Run.each_of_ok fun o ho => hobservers o ho _
    rw [ask_of_told h (congrArg Run.outcome htold), htold]
    rfl
  | error e =>
    rw [ask_of_error h]
    show _ = (⟨_ ++ [], _⟩ : Run Bool)
    rw [List.append_nil]
    rfl

/-- Without observers a question is its request. -/
theorem ask_of_no_observers (ht : t.observers = []) (network : Http.Network)
    (repository n : Text) :
    t.ask network repository n = ⟨(lookup network t repository n).trace,
      answerOf repository n (lookup network t repository n).outcome⟩ := by
  have htold (o : Except Failure Response) : t.told repository n o = [] := by
    cases o <;> simp [told, ht]
  rw [ask_eq_lookup network repository n (by simp [ht]), htold, List.append_nil]

section Answer

-- the address is well-formed, the token can be sent, and no observer fails
variable (hstart : Http.start (t.issueUrl repository n) = .ok u)
  (htoken : Http.isHeadText t.context.token = true)
  (hobservers : ∀ o ∈ t.observers, ∀ notice, (o.tell notice).outcome = .ok ())
include hstart htoken hobservers

/-- A question sends the requests of its chain, tells the observers of a final response, and has
the answer of the chain. -/
theorem ask_of_concludes {visits : List Visit} {o : Except Failure Response}
    (h : t.Comes network u visits o) :
    t.ask network repository n =
      ⟨visits.map Visit.sent ++ t.told repository n o, answerOf repository n o⟩ := by
  have hchain : Concludes network (Http.stepLimit + 1) ⟨t.headers.first u, u⟩ visits o := h
  rw [ask_eq_lookup network repository n hobservers, lookup_eq_follow hstart htoken,
    hchain.follow_eq]

/-- The outcome of a question is the answer of its chain. -/
theorem outcome_ask_eq_iff {a : Except Failure Bool} :
    (t.ask network repository n).outcome = a ↔
      ∃ visits o, t.Comes network u visits o ∧ answerOf repository n o = a := by
  constructor
  · rintro rfl
    obtain ⟨visits, o, h⟩ := Http.exists_concludes network Http.stepLimit ⟨t.headers.first u, u⟩
    exact ⟨visits, o, h, by rw [ask_of_concludes hstart htoken hobservers h]⟩
  · rintro ⟨visits, o, h, rfl⟩
    rw [ask_of_concludes hstart htoken hobservers h]

/-- A question is answered exactly if its chain comes to a final response. -/
theorem outcome_ask_eq_ok_iff {b : Bool} :
    (t.ask network repository n).outcome = .ok b ↔
      ∃ visits r, t.Comes network u visits (.ok r) ∧ Http.isSuccess r.status = b := by
  rw [outcome_ask_eq_iff hstart htoken hobservers]
  constructor
  · rintro ⟨visits, o, h, ho⟩
    obtain ⟨r, rfl, hr⟩ := answerOf_eq_ok_iff.1 ho
    exact ⟨visits, r, h, hr⟩
  · rintro ⟨visits, r, h, hr⟩
    exact ⟨visits, .ok r, h, answerOf_eq_ok_iff.2 ⟨r, rfl, hr⟩⟩

/-- A question fails exactly if its chain comes to a failure. -/
theorem outcome_ask_eq_error_iff :
    (t.ask network repository n).outcome = .error e ↔
      ∃ visits e', t.Comes network u visits (.error e') ∧ failureOf repository n e' = e := by
  rw [outcome_ask_eq_iff hstart htoken hobservers]
  constructor
  · rintro ⟨visits, o, h, ho⟩
    obtain ⟨e', rfl, he⟩ := answerOf_eq_error_iff.1 ho
    exact ⟨visits, e', h, he⟩
  · rintro ⟨visits, e', h, he⟩
    exact ⟨visits, .error e', h, answerOf_eq_error_iff.2 ⟨e', rfl, he⟩⟩

end Answer

/-! ## Failures -/

theorem failureOf_of_transport {trouble : Http.Trouble} (message : Text)
    (h : trouble.isTransport = true) :
    failureOf repository n (.requestFailed trouble message) =
      .trackerUnreachable n repository (some (reasonOf trouble message)) := if_pos h

/-- Only a failure of the transport is reported in another form. -/
theorem failureOf_of_other
    (h : ∀ trouble message, e = .requestFailed trouble message → trouble.isTransport = false) :
    failureOf repository n e = e := by
  unfold failureOf
  split
  · rename_i trouble message
    rw [h trouble message rfl, if_neg Bool.false_ne_true]
  · rfl

theorem transport_or_other (e : Failure) :
    (∃ trouble message, e = .requestFailed trouble message ∧ trouble.isTransport = true) ∨
      ∀ trouble message, e = .requestFailed trouble message → trouble.isTransport = false := by
  by_cases h : ∃ trouble message, e = .requestFailed trouble message ∧ trouble.isTransport = true
  · exact .inl h
  · exact .inr fun trouble message he =>
      eq_false_of_ne_true fun htransport => h ⟨trouble, message, he, htransport⟩

/-- A failure is reported as one of the tracker exactly if the transport failed. -/
theorem failureOf_eq_trackerUnreachable_iff (he : IsPlain e) {issue q : Text}
    {reason : Option Text} :
    failureOf repository n e = .trackerUnreachable issue q reason ↔
      issue = n ∧ q = repository ∧ ∃ trouble message, e = .requestFailed trouble message ∧
        trouble.isTransport = true ∧ reason = some (reasonOf trouble message) := by
  constructor
  · intro h
    obtain ⟨trouble, message, rfl, htransport⟩ | hother := transport_or_other e
    · rw [failureOf_of_transport message htransport] at h
      obtain ⟨rfl, rfl, rfl⟩ := Failure.trackerUnreachable.inj h
      exact ⟨rfl, rfl, trouble, message, rfl, htransport, rfl⟩
    · rw [failureOf_of_other hother] at h
      exact absurd h (he issue q reason)
  · rintro ⟨rfl, rfl, trouble, message, rfl, htransport, rfl⟩
    exact failureOf_of_transport message htransport

/-- Every other failure is reported as it is. -/
theorem failureOf_eq_iff {e' : Failure} (he' : IsPlain e') :
    failureOf repository n e = e' ↔ e = e' ∧
      ∀ trouble message, e' = .requestFailed trouble message → trouble.isTransport = false := by
  constructor
  · intro h
    obtain ⟨trouble, message, rfl, htransport⟩ | hother := transport_or_other e
    · rw [failureOf_of_transport message htransport] at h
      exact absurd h.symm (he' _ _ _)
    · rw [failureOf_of_other hother] at h
      subst h
      exact ⟨rfl, hother⟩
  · rintro ⟨rfl, hother⟩
    exact failureOf_of_other hother

/-! ## The ways a question can end -/

/-- A tracker with one observer. -/
def watched : Tracker := create ⟨"o/r", "secret"⟩ "http://h/" "10.0" [.recorder "ears"]

/-- A network in which every issue has moved, to an address that is not in ASCII. -/
def moving : Http.Network := fun address =>
  if address = "http://h/%C3%A9" then .received 204 (some "/è") []
  else .received 301 (some "/é") []

/-- A request of that tracker. -/
def visitOf (path : Text) : Visit := ⟨watched.headers, ⟨"http", [], "h", none, path, none, none⟩⟩

theorem leads_moved : Visit.Leads moving (visitOf "/repos/o/r/issues/7") (visitOf "/%C3%A9") := by
  have htarget : Http.target (visitOf "/repos/o/r/issues/7").url "/é" =
      .ok (visitOf "/%C3%A9").url := by decide +kernel
  have hleads : Visit.Leads moving (visitOf "/repos/o/r/issues/7")
      ⟨(visitOf "/repos/o/r/issues/7").headers.after (visitOf "/repos/o/r/issues/7").url
        (visitOf "/%C3%A9").url, (visitOf "/%C3%A9").url⟩ :=
    .on (r := ⟨301, some "/é", []⟩) rfl (by decide) rfl htarget
  have hsame : (visitOf "/repos/o/r/issues/7").headers.after (visitOf "/repos/o/r/issues/7").url
      (visitOf "/%C3%A9").url = watched.headers := rfl
  rw [hsame] at hleads
  exact hleads

theorem comes_moved :
    watched.Comes moving (visitOf "/repos/o/r/issues/7").url
      [visitOf "/repos/o/r/issues/7", visitOf "/%C3%A9"] (.ok ⟨204, some "/è", []⟩) :=
  .final (.cons leads_moved (.single _)) (by decide) ⟨rfl, nofun⟩

end CommitCheck.Tracker
