import CommitCheck.Proofs.Cli.Stages
import CommitCheck.Proofs.Context
import CommitCheck.Proofs.Linter.Lint
import CommitCheck.Proofs.Settings.Environment
import CommitCheck.Proofs.Tracker.Masked

/-!
# The token is kept

The token goes into the credential of requests and nowhere else.  Two environments that differ in
the token alone (`Environment.DifferInToken`) give the same settings, and linters whose runs are
seen alike without credentials.  From there every stage of the command line is seen alike, and so
is the whole run: `run_hides_token`.
-/

namespace CommitCheck

open RepositoryContext (tokenVariable repositoryIn IsToken)

/-- Two environments that differ in the token alone. -/
structure Environment.DifferInToken (env env' : Environment) : Prop where
  /-- All other variables are the same. -/
  agree : AgreeBut [tokenVariable] env env'
  /-- The first environment has a token. -/
  left : ∃ t, env.lookup tokenVariable = some t ∧ IsToken t
  /-- The second one has a token. -/
  right : ∃ t, env'.lookup tokenVariable = some t ∧ IsToken t

variable {env env' : Environment}

namespace RepositoryContext

/-- Two contexts of one repository with tokens that can be sent. -/
structure DifferInToken (c c' : RepositoryContext) : Prop where
  /-- The repository is the same. -/
  repository : c.repository = c'.repository
  /-- The first token can be sent. -/
  left : Http.isHeadText c.token = true
  /-- The second token can be sent. -/
  right : Http.isHeadText c'.token = true

/-- Environments that differ in the token have no context for the same reason, or contexts that
differ in the token. -/
theorem ofEnvironment_of_differInToken (h : Environment.DifferInToken env env') :
    (∃ e, ofEnvironment env = .error e ∧ ofEnvironment env' = .error e) ∨
      ∃ c c', ofEnvironment env = .ok c ∧ ofEnvironment env' = .ok c' ∧ DifferInToken c c' := by
  obtain ⟨t, ht, htoken⟩ := h.left
  obtain ⟨t', ht', htoken'⟩ := h.right
  have hrepository : repositoryIn env' = repositoryIn env := by
    unfold repositoryIn
    rw [h.agree repositoryVariable (by decide)]
  rw [ofEnvironment_of_token ht htoken.trim_ne_nil, ofEnvironment_of_token ht' htoken'.trim_ne_nil,
    hrepository]
  cases repositoryIn env with
  | error e => exact .inl ⟨e, rfl, rfl⟩
  | ok repository =>
    exact .inr ⟨_, _, rfl, rfl, rfl, htoken.isHeadText_trim, htoken'.isHeadText_trim⟩

end RepositoryContext

namespace Linter

/-- The runs of two linters are seen alike for every commit. -/
def Alike (l l' : Linter) : Prop :=
  ∀ m sha, (l.lint m sha).masked = (l'.lint m sha).masked

variable {l l' : Linter}

/-- The rules of settings are seen alike if the questions of their checkers are. -/
theorem masked_outcomes {s : Settings} {repository : Text} {checker checker' : Checker}
    (h : ∀ n, (checker repository n).masked = (checker' repository n).masked) (m : Message) :
    (outcomes m (rulesOf s repository checker)).masked =
      (outcomes m (rulesOf s repository checker')).masked := by
  by_cases hlevel : s.levelOf IssueReference.name = .disabled
  · rw [outcomes_of_disabled hlevel, outcomes_of_disabled hlevel]
  · obtain ⟨f, hf⟩ := IssueReference.exists_ruling m
    rw [outcomes_of_ruling hlevel hf, outcomes_of_ruling hlevel hf]
    cases f with
    | verdict v => rfl
    | issue n =>
      have houtcome := Run.outcome_eq_of_masked (h n)
      have htrace : (checker repository n).trace.map Event.masked =
          (checker' repository n).trace.map Event.masked := (congrArg Run.trace (h n) :)
      simp only [IssueReference.Finding.run, Run.masked, htrace, houtcome]

/-- Linters of contexts that differ in the token are alike. -/
theorem alike_of_differInToken {c c' : RepositoryContext} (h : c.DifferInToken c')
    (network : Http.Network) (s : Settings) (observers : List Observer) :
    Alike (forContext s network c observers) (forContext s network c' observers) := by
  intro m sha
  unfold forContext
  rw [lint_eq, lint_eq, h.repository]
  refine Run.masked_bind_congr (masked_outcomes (fun n => ?_) m) fun _ => rfl
  exact Tracker.masked_ask network s observers h.left h.right _ n

/-- Environments that differ in the token give no linter for the same reason, or linters that are
alike. -/
theorem ofSettings_of_differInToken (h : Environment.DifferInToken env env')
    (network : Http.Network) (s : Settings) (observers : List Observer) :
    (∃ e, ofSettings env network s none none observers = .error e ∧
      ofSettings env' network s none none observers = .error e) ∨
    ∃ l l', ofSettings env network s none none observers = .ok l ∧
      ofSettings env' network s none none observers = .ok l' ∧ l.Alike l' := by
  by_cases hlevel : s.levelOf IssueReference.name = .disabled
  · exact .inr ⟨_, _, ofSettings_of_disabled hlevel, ofSettings_of_disabled hlevel,
      fun _ _ => rfl⟩
  · rcases RepositoryContext.ofEnvironment_of_differInToken h with
      ⟨e, he, he'⟩ | ⟨c, c', hc, hc', hdiffer⟩
    · exact .inl ⟨e, ofSettings_eq_error_iff.2 ⟨hlevel, he⟩,
        ofSettings_eq_error_iff.2 ⟨hlevel, he'⟩⟩
    · exact .inr ⟨_, _, ofSettings_eq_ok_iff.2 ⟨c, fun _ => hc, rfl⟩,
        ofSettings_eq_ok_iff.2 ⟨c', fun _ => hc', rfl⟩,
        alike_of_differInToken hdiffer network s observers⟩

theorem Alike.lintMany (h : l.Alike l') (commits : List (Option Text × Message)) :
    (l.lintMany commits).masked = (l'.lintMany commits).masked :=
  Run.masked_settleAll_congr fun c _ => h c.2 c.1

end Linter

namespace Cli

variable {s : Surroundings} {i : Invocation}

/-! ## The stages of the command line -/

theorem masked_lintAll {l l' : Linter} (h : l.Alike l') (i : Invocation)
    (commits : List (Option Text × Message)) :
    (lintAll i l commits).masked = (lintAll i l' commits).masked := by
  unfold lintAll
  split
  · rfl
  · exact Run.masked_bind_congr (h.lintMany commits) fun _ => rfl

section Tokens

variable (h : Environment.DifferInToken env env')
include h

theorem environmentFields_of_differInToken :
    Settings.environmentFields env = Settings.environmentFields env' :=
  Settings.environmentFields_of_agreeBut (h.agree.mono (by decide))

theorem load_of_differInToken (s : Surroundings) (folder : Text) :
    { s with environment := env }.load folder = { s with environment := env' }.load folder :=
  Settings.load_congr (environmentFields_of_differInToken h) _ _

theorem masked_lint (s : Surroundings) (i : Invocation) :
    (lint { s with environment := env } i).masked =
      (lint { s with environment := env' } i).masked := by
  rw [lint_eq, lint_eq, load_of_differInToken h]
  refine Run.masked_bind_congr rfl fun settings => ?_
  refine Run.masked_bind_congr rfl fun verbose => ?_
  refine Run.masked_bind_congr rfl fun log => ?_
  rcases Linter.ofSettings_of_differInToken h s.network settings (verbose ++ log) with
    ⟨e, he, he'⟩ | ⟨l, l', hl, hl', halike⟩
  · rw [he, he']
    rfl
  · rw [hl, hl', Run.bind_ofExcept_ok, Run.bind_ofExcept_ok]
    exact Run.masked_bind_congr rfl fun commits => masked_lintAll halike i commits

theorem masked_perform (s : Surroundings) (i : Invocation) :
    (perform { s with environment := env } i).masked =
      (perform { s with environment := env' } i).masked := by
  have hlist : listSettings { s with environment := env } i.path =
      listSettings { s with environment := env' } i.path := by
    unfold listSettings
    rw [load_of_differInToken h]
    rfl
  have hcreate : createSettings { s with environment := env } i.path =
      createSettings { s with environment := env' } i.path := by
    unfold createSettings
    dsimp only
    rw [Settings.ofFields_congr (environmentFields_of_differInToken h)]
    rfl
  unfold perform
  rw [hlist, hcreate]
  split
  · rfl
  · split
    · rfl
    · split
      · rfl
      · split
        · rfl
        · exact masked_lint h s i

theorem masked_carryOut (s : Surroundings) (i : Invocation) :
    (carryOut { s with environment := env } i).masked =
      (carryOut { s with environment := env' } i).masked :=
  Run.masked_bind_congr (Run.masked_attempt_congr (masked_perform h s i)) fun _ => rfl

theorem masked_run (s : Surroundings) (words : List Text) :
    (run { s with environment := env } words).masked =
      (run { s with environment := env' } words).masked := by
  unfold run
  dsimp only
  split
  · rfl
  · rfl
  · rfl
  · exact masked_carryOut h s _

end Tokens

/-- A folder without files, and a tracker that sends every question on to another host. -/
def secretive : Surroundings where
  files := ⟨["repo"], []⟩
  environment := []
  network address :=
    if address = "https://api.github.com/repos/o/r/issues/7" then
      .response 301 (some "https://elsewhere/7") []
    else .response 404 none []
  repository := none
  installation := default
  now := default

/-- The environment with a token. -/
def environmentWith (token : Text) : Environment :=
  [("GITHUB_TOKEN", token), ("GITHUB_REPOSITORY", "o/r")]

/-- The words of a command line that asks to be told more and to keep a log. -/
def secretiveWords : List Text := ["-v", "-l", "lint.log", "-m", "fix: a\n\nIssue #7"]

theorem differInToken_environmentWith {t t' : Text} (h : IsToken t) (h' : IsToken t') :
    Environment.DifferInToken (environmentWith t) (environmentWith t') where
  agree := (Environment.agreeBut_cons (List.mem_singleton_self _) t _).trans
    (Environment.agreeBut_cons (List.mem_singleton_self _) t' _).symm
  left := ⟨t, rfl, h⟩
  right := ⟨t', rfl, h'⟩

end Cli

end CommitCheck
