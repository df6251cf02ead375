import CommitCheck.Proofs.Linter
import CommitCheck.Proofs.Linter.Batch
import CommitCheck.Proofs.Linter.Lint
import CommitCheck.Proofs.Tracker.Chain

/-!
# What observers hear

The observers of a linter of settings are those of its tracker too.  While a commit is linted they
hear of the response of the tracker, if an issue is looked up and there is one (`Hears`), and at
the end of the report, if there is one (`finished`).

`lint_forContext` compares the run with that of the same linter without observers.  What they
leave is put behind the requests, and nothing else is different.  So observers that do not fail
only listen (`observers_only_listen`).
-/

namespace CommitCheck

/-- The request that an event is the sending of, if it is one. -/
def Event.request? : Event → Option Http.Request
  | .requested q => some q
  | _ => none

/-- The requests that are sent in a run, in order. -/
def Run.requests {α : Type} (r : Run α) : List Http.Request := r.trace.filterMap Event.request?

/-- What observers leave when each of them is told the same, in order. -/
def Observer.heard (observers : List Observer) (notice : Notice) : List Event :=
  observers.flatMap fun o => (o.tell notice).trace

/-- Observers that send no requests leave none. -/
theorem Observer.request?_eq_none_of_heard {observers : List Observer} {notice : Notice}
    (h : ∀ o ∈ observers, (o.tell notice).IsOffline) :
    ∀ e ∈ heard observers notice, e.request? = none := by
  intro e he
  obtain ⟨o, ho, he⟩ := List.mem_flatMap.1 he
  cases e with
  | requested q => exact absurd he (h o ho q)
  | _ => rfl

namespace Linter

open IssueReference (Finding Ruling)
open Tracker (lookup)

/-- What observers hear of the tracker while a commit is linted. -/
inductive Hears (network : Http.Network) (s : Settings) (context : RepositoryContext)
    (m : Message) : List Notice → Prop
  /-- The rule of the issue reference is enabled and finds an issue, for which there is a final
  response. -/
  | response {n : Text} {r : Http.Response} (henabled : s.levelOf IssueReference.name ≠ .disabled)
      (hruling : Ruling m (.issue n))
      (hlookup : (lookup network (trackerOf s context []) context.repository n).outcome = .ok r) :
      Hears network s context m [.lookedUp context.repository n r.status]
  /-- There is none. -/
  | nothing (hnone : s.levelOf IssueReference.name ≠ .disabled → ∀ n r, Ruling m (.issue n) →
      (lookup network (trackerOf s context []) context.repository n).outcome ≠ .ok r) :
      Hears network s context m []

/-- What observers hear at the end: the report, if there is one. -/
def finished : Except Failure Report → List Notice
  | .ok report => [.linted report]
  | .error _ => []

variable {network : Http.Network} {s : Settings} {observers : List Observer}
  {context : RepositoryContext} {m : Message} {sha : Option Text}

/-! ## One commit -/

/-- The rules ask the tracker for an issue, and do nothing else. -/
theorem onlyAsks_outcomes (network : Http.Network) (s : Settings) (context : RepositoryContext)
    (m : Message) : (outcomes m (forContext s network context []).rules).OnlyAsks := by
  unfold forContext
  by_cases hlevel : s.levelOf IssueReference.name = .disabled
  · rw [outcomes_of_disabled hlevel]
    exact Run.onlyAsks_nil _
  · obtain ⟨f, hf⟩ := IssueReference.exists_ruling m
    rw [outcomes_of_ruling hlevel hf]
    cases f with
    | verdict v => exact Run.onlyAsks_nil _
    | issue n =>
      show ∀ e ∈ ((trackerOf s context []).ask network context.repository n).trace, _
      rw [Tracker.ask_of_no_observers rfl]
      exact Http.onlyAsks_get _ _ _

/-- Without observers, to lint a commit is to send requests. -/
theorem onlyAsks_lint (network : Http.Network) (s : Settings) (context : RepositoryContext)
    (m : Message) (sha : Option Text) :
    ((forContext s network context []).lint m sha).OnlyAsks := by
  intro e he
  unfold forContext at he
  rw [lint_of_no_observers] at he
  exact onlyAsks_outcomes network s context m e he

section Told

-- no observer fails
variable (htold : ∀ o ∈ observers, ∀ notice, (o.tell notice).outcome = .ok ())
include htold

/-- What the rules leave with observers is what they leave without, and then what the observers
hear of the tracker. -/
theorem outcomes_forContext (network : Http.Network) (s : Settings) (context : RepositoryContext)
    (m : Message) :
    ∃ lookups, Hears network s context m lookups ∧
      outcomes m (forContext s network context observers).rules =
        ⟨(outcomes m (forContext s network context []).rules).trace ++
          lookups.flatMap (Observer.heard observers),
          (outcomes m (forContext s network context []).rules).outcome⟩ := by
  unfold forContext
  by_cases hlevel : s.levelOf IssueReference.name = .disabled
  · refine ⟨[], .nothing fun henabled => absurd hlevel henabled, ?_⟩
    simp only [outcomes_of_disabled hlevel]
    rfl
  · obtain ⟨f, hf⟩ := IssueReference.exists_ruling m
    cases f with
    | verdict v =>
      refine ⟨[], .nothing fun _ n r hn => (nomatch hf.unique hn), ?_⟩
      simp only [outcomes_of_ruling hlevel hf]
      rfl
    | issue n =>
      have hfull := Tracker.ask_eq_lookup (t := trackerOf s context observers) network
        context.repository n htold
      have hbare := Tracker.ask_of_no_observers (t := trackerOf s context []) rfl network
        context.repository n
      -- the observers of a tracker have no part in the request
      have hsame : lookup network (trackerOf s context observers) context.repository n =
          lookup network (trackerOf s context []) context.repository n := rfl
      simp only [outcomes_of_ruling hlevel hf, Finding.run, hfull, hbare, hsame]
      cases hlookup : (lookup network (trackerOf s context []) context.repository n).outcome with
      | ok r =>
        refine ⟨_, .response hlevel hf hlookup, ?_⟩
        rw [List.flatMap_singleton]
        rfl
      | error e =>
        refine ⟨[], .nothing fun _ k r hk hr => ?_, rfl⟩
        obtain rfl : n = k := Finding.issue.inj (hf.unique hk)
        cases hlookup.symm.trans hr

/-- With observers a run has what it has without, and behind that what the observers hear. -/
theorem lint_forContext (network : Http.Network) (s : Settings) (context : RepositoryContext)
    (m : Message) (sha : Option Text) :
    ∃ lookups, Hears network s context m lookups ∧
      (forContext s network context observers).lint m sha =
        ⟨((forContext s network context []).lint m sha).trace ++
          (lookups ++ finished ((forContext s network context []).lint m sha).outcome).flatMap
            (Observer.heard observers),
          ((forContext s network context []).lint m sha).outcome⟩ := by
  obtain ⟨lookups, hhears, houtcomes⟩ := outcomes_forContext htold network s context m
  refine ⟨lookups, hhears, ?_⟩
  have hbare : (forContext s network context []).lint m sha =
      ⟨(outcomes m (forContext s network context []).rules).trace,
        (outcomes m (forContext s network context []).rules).outcome.map (⟨m, sha, ·⟩)⟩ :=
    lint_of_no_observers _ sha
  rw [hbare, lint_eq, houtcomes]
  cases (outcomes m (forContext s network context []).rules).outcome with
  | error e =>
    show (⟨_, _⟩ : Run Report) = ⟨_ ++ (lookups ++ []).flatMap _, _⟩
    rw [List.append_nil]
    rfl
  | ok os =>
    have hfinished : Observer.tellAll (forContext s network context observers).observers
        (.linted ⟨m, sha, os⟩) = ⟨Observer.heard observers (.linted ⟨m, sha, os⟩), .ok ()⟩ :=
      Run.each_of_ok fun o ho => htold o ho _
    rw [Run.bind_ok, Run.bind_pure_eq, hfinished]
    simp [finished, Except.map]

/-! ## Several commits -/

theorem outcome_lintMany_forContext (commits : List (Option Text × Message)) :
    ((forContext s network context observers).lintMany commits).outcome =
      ((forContext s network context []).lintMany commits).outcome := by
  rw [lintMany_eq, lintMany_eq]
  refine Run.settle_map_congr fun c _ => ?_
  obtain ⟨lookups, -, hlint⟩ := lint_forContext htold network s context c.2 c.1
  exact (congrArg Run.outcome hlint :)

/-- Observers that send no requests leave the requests as they are. -/
theorem requests_lintMany_forContext
    (hoffline : ∀ o ∈ observers, ∀ notice, (o.tell notice).IsOffline)
    (commits : List (Option Text × Message)) :
    ((forContext s network context observers).lintMany commits).requests =
      ((forContext s network context []).lintMany commits).requests := by
  have hheard (notices : List Notice) :
      (notices.flatMap (Observer.heard observers)).filterMap Event.request? = [] := by
    refine List.filterMap_eq_nil_iff.2 fun e he => ?_
    obtain ⟨notice, -, he⟩ := List.mem_flatMap.1 he
    exact Observer.request?_eq_none_of_heard (fun o ho => hoffline o ho notice) e he
  have hlint (c : Option Text × Message) :
      ((forContext s network context observers).lintOne c).requests =
        ((forContext s network context []).lintOne c).requests := by
    obtain ⟨lookups, -, hlint⟩ := lint_forContext htold network s context c.2 c.1
    unfold lintOne Run.requests
    rw [hlint, List.filterMap_append, hheard, List.append_nil]
  unfold Run.requests at hlint ⊢
  simp only [trace_lintMany, List.filterMap_flatMap, hlint]

end Told

/-- A commit that cites an issue. -/
def citing : Message := ⟨"fix: a", some "Issue #7"⟩

theorem ruling_citing : Ruling citing (.issue "7") := by
  refine .cited rfl (by decide) ?_ (by decide +kernel) ?_
  · exact Reference.inHeader?_eq_none_iff.1 (by decide +kernel)
  · exact Reference.inBody?_eq_some_iff.1 (by decide +kernel)

/-- A network in which there is everything. -/
def plentiful : Http.Network := fun _ => .response 200 none []

end Linter

end CommitCheck
