import CommitCheck.Proofs.Run
import CommitCheck.Tracker

/-!
# Questions to the tracker

A tracker asks one request for an issue.  If that comes to a final response and all observers hear
of it, the question is answered (`ask_of_told`); without observers it has the trace of the request
(`ask_of_ok`).
-/

namespace CommitCheck.Tracker

variable {network : Http.Network} {t : Tracker} {repository n : Text}

/-- The request for an issue, followed to its final response. -/
def lookup (network : Http.Network) (t : Tracker) (repository n : Text) : Run Http.Response :=
  Http.get network t.headers (t.issueUrl repository n)

/-- Whether the final response for an issue says that all went well. -/
def Answers (network : Http.Network) (t : Tracker) (repository n : Text) : Prop :=
  ∃ r, (lookup network t repository n).outcome = .ok r ∧ 200 ≤ r.status ∧ r.status ≤ 299

/-- A question can be sent exactly if the token can. -/
theorem all_isHeadText_headers (t : Tracker) :
    t.headers.authorization.all Http.isHeadText = Http.isHeadText t.context.token := by
  have hword : ("token ".toList).all (·.toNat < 0x80) = true := by decide
  rw [headers, Option.all_some, Http.isHeadText, List.all_append, hword, Bool.true_and,
    Http.isHeadText]

theorem isSuccess_iff {status : Nat} :
    Http.isSuccess status = true ↔ 200 ≤ status ∧ status ≤ 299 := by
  rw [Http.isSuccess, Bool.and_eq_true, decide_eq_true_iff, decide_eq_true_iff]

theorem isSuccess_eq_false_iff {status : Nat} :
    Http.isSuccess status = false ↔ ¬(200 ≤ status ∧ status ≤ 299) := by
  rw [← isSuccess_iff, Bool.not_eq_true]

/-- The observers are told of a final response, whatever they make of it. -/
theorem trace_ask_of_ok {r : Http.Response} (h : (lookup network t repository n).outcome = .ok r) :
    (t.ask network repository n).trace = (lookup network t repository n).trace ++
      (Observer.tellAll t.observers (.lookedUp repository n r.status)).trace := by
  unfold ask
  change ((lookup network t repository n).orElse _ >>= _).trace = _
  rw [Run.orElse_of_ok h, Run.bind_of_ok h, Run.bind_pure_eq (f := fun _ => _)]

/-- A final response answers the question once the observers were told of it. -/
theorem ask_of_told {r : Http.Response} (h : (lookup network t repository n).outcome = .ok r)
    (htold : (Observer.tellAll t.observers (.lookedUp repository n r.status)).outcome = .ok ()) :
    t.ask network repository n =
      ⟨(lookup network t repository n).trace ++
        (Observer.tellAll t.observers (.lookedUp repository n r.status)).trace,
        .ok (Http.isSuccess r.status)⟩ := by
  unfold ask
  change ((lookup network t repository n).orElse _ >>= _) = _
  rw [Run.orElse_of_ok h, Run.bind_of_ok h, Run.bind_of_ok htold]
  show (⟨_ ++ (_ ++ []), _⟩ : Run Bool) = _
  rw [List.append_nil]
  rfl

/-- A final response answers the question. -/
theorem ask_of_ok (ht : t.observers = []) {r : Http.Response}
    (h : (lookup network t repository n).outcome = .ok r) :
    t.ask network repository n =
      ⟨(lookup network t repository n).trace, .ok (Http.isSuccess r.status)⟩ := by
  have htold : Observer.tellAll t.observers (.lookedUp repository n r.status) = Run.pure () := by
    rw [ht]
    rfl
  rw [ask_of_told h (by rw [htold]; rfl), htold]
  show (⟨_ ++ [], _⟩ : Run Bool) = _
  rw [List.append_nil]

/-- Without one the question fails. -/
theorem ask_of_error {e : Failure} (h : (lookup network t repository n).outcome = .error e) :
    t.ask network repository n =
      ⟨(lookup network t repository n).trace, .error (failureOf repository n e)⟩ := by
  unfold ask
  change ((lookup network t repository n).orElse _ >>= _) = _
  rw [Run.orElse_of_error h]
  show (⟨_ ++ [], _⟩ : Run Bool) = _
  rw [List.append_nil]

/-- An issue is found exactly if the final response says so. -/
theorem ask_eq_true_iff (ht : t.observers = []) :
    (t.ask network repository n).outcome = .ok true ↔ Answers network t repository n := by
  unfold Answers
  cases hl : (lookup network t repository n).outcome with
  | ok r =>
    rw [ask_of_ok ht hl]
    simp [isSuccess_iff]
  | error e =>
    rw [ask_of_error hl]
    simp

end CommitCheck.Tracker
