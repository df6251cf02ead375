import CommitCheck.Linter
import CommitCheck.Proofs.Run.Loop
import Mathlib.Data.List.OfFn
import Mathlib.Logic.Equiv.Defs

/-!
# Several commits at once

Several commits are linted as runs that are gathered in an event loop.  What comes of them is
told by the single runs: the trace is theirs, one after another, whether they fail or not.
The reports are theirs too, in the same places, and if some runs fail, the first one of these
is the failure of the whole (`lintMany_lifts_lint`).
-/

namespace CommitCheck.Linter

variable {l : Linter} {commits : List (Option Text × Message)}

/-- The run of one commit of several. -/
def lintOne (l : Linter) (c : Option Text × Message) : Run Report := l.lint c.2 c.1

theorem lintMany_eq (l : Linter) (commits : List (Option Text × Message)) :
    l.lintMany commits = Run.settleAll (commits.map l.lintOne) := rfl

theorem trace_lintMany (l : Linter) (commits : List (Option Text × Message)) :
    (l.lintMany commits).trace = commits.flatMap fun c => (l.lintOne c).trace := by
  rw [lintMany_eq, Run.trace_settleAll, List.flatMap_map]

/-- There are reports if each run has one. -/
theorem outcome_lintMany_eq_ok_iff {reports : List Report} :
    (l.lintMany commits).outcome = .ok reports ↔
      List.Forall₂ (fun c report => (l.lintOne c).outcome = .ok report) commits reports :=
  Run.settle_eq_ok_iff.trans List.forall₂_map_left_iff

/-- There is a failure if some run fails, and it is that of the first one. -/
theorem outcome_lintMany_eq_error_iff {e : Failure} :
    (l.lintMany commits).outcome = .error e ↔
      ∃ before c after, commits = before ++ c :: after ∧
        (∀ b ∈ before, ∃ report, (l.lintOne b).outcome = .ok report) ∧
        (l.lintOne c).outcome = .error e := by
  have hsettled {before : List (Option Text × Message)} :
      (∃ reports, Run.settle (before.map l.lintOne) = .ok reports) ↔
        ∀ b ∈ before, ∃ report, (l.lintOne b).outcome = .ok report := by
    rw [← exists_forall₂_iff]
    exact exists_congr fun _ => outcome_lintMany_eq_ok_iff
  refine Run.settle_eq_error_iff.trans ⟨?_, ?_⟩
  · rintro ⟨before, r, after, hsplit, hbefore, hr⟩
    obtain ⟨before, rest, rfl, rfl, hrest⟩ := List.map_eq_append_iff.1 hsplit
    obtain ⟨c, after, rfl, rfl, rfl⟩ := List.map_eq_cons_iff.1 hrest
    exact ⟨before, c, after, rfl, hsettled.1 hbefore, hr⟩
  · rintro ⟨before, c, after, rfl, hbefore, hc⟩
    exact ⟨before.map l.lintOne, l.lintOne c, after.map l.lintOne, List.map_append,
      hsettled.2 hbefore, hc⟩

/-- Commits and reports given by their places. -/
theorem outcome_lintMany_ofFn {n : Nat} {commit : Fin n → Option Text × Message}
    {report : Fin n → Report} (h : ∀ i, (l.lintOne (commit i)).outcome = .ok (report i)) :
    (l.lintMany (List.ofFn commit)).outcome = .ok (List.ofFn report) := by
  refine outcome_lintMany_eq_ok_iff.2 (List.forall₂_iff_get.2 ⟨by simp, fun i hi hi' => ?_⟩)
  simpa using h ⟨i, by simpa using hi⟩

/-- To lint several commits in an event loop is to lint each of them, one after another.
Everything that happens in the single runs happens, also in one that fails and in those
behind it.  If all of them have reports, these are the reports, and they change their order as
the commits do.  Otherwise the failure is that of the first run that fails. -/
theorem lintMany_lifts_lint (l : Linter) (commits : List (Option Text × Message)) :
    (Loop.gather (commits.map l.lintOne)).run = l.lintMany commits ∧
    (l.lintMany commits).trace = commits.flatMap (fun c => (l.lintOne c).trace) ∧
    (∀ reports, (l.lintMany commits).outcome = .ok reports ↔
      List.Forall₂ (fun c report => (l.lintOne c).outcome = .ok report) commits reports) ∧
    (∀ report : Fin commits.length → Report,
      (∀ i, (l.lintOne (commits.get i)).outcome = .ok (report i)) →
      ∀ σ : Equiv.Perm (Fin commits.length),
        (l.lintMany (List.ofFn fun i => commits.get (σ i))).outcome =
          .ok (List.ofFn fun i => report (σ i))) ∧
    ∀ e, (l.lintMany commits).outcome = .error e ↔
      ∃ before c after, commits = before ++ c :: after ∧
        (∀ b ∈ before, ∃ report, (l.lintOne b).outcome = .ok report) ∧
        (l.lintOne c).outcome = .error e :=
  ⟨Loop.run_gather _, trace_lintMany l commits, fun _ => outcome_lintMany_eq_ok_iff,
    fun _ h σ => outcome_lintMany_ofFn fun i => h (σ i), fun _ => outcome_lintMany_eq_error_iff⟩

end CommitCheck.Linter
