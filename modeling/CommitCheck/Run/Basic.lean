import CommitCheck.Http.Basic
import CommitCheck.Rule.Verdict
import CommitCheck.Run.Failure

/-!
# Runs

A run is a computation seen from outside: the trace of what happened, and a
result or the failure that ended it.  Runs follow one another with `bind`: if
the first one fails, the second does not take place, and what has happened
stays in the trace.

An event is what can be seen from outside: a rule that is run, a question to an
issue tracker, a notice to an observer, a request, console output, a change to a
file, or a question to a repository.

`settleAll` is another way to put runs together.  Each one takes place, whether
the ones before it failed or not, and the first failure is the result.
-/

namespace CommitCheck

/-! ## Events -/

/-- What an observer is told. -/
inductive Notice where
  /-- The issue tracker answered a question about an issue with a status. -/
  | lookedUp (repository issue : Text) (status : Nat)
  /-- Every rule has run for a commit. -/
  | linted (report : Report)
deriving DecidableEq

/-- One thing that happens. -/
inductive Event where
  /-- A rule that leaves a mark ran on the commit of a header. -/
  | ruleRan (mark header : Text)
  /-- A checker was asked whether an issue exists. -/
  | asked (repository issue : Text)
  /-- An observer was told something. -/
  | heard (observer : Text) (notice : Notice)
  /-- A request was sent. -/
  | requested (request : Http.Request)
  /-- Text was printed. -/
  | printed (text : Text)
  /-- Text was printed where complaints go. -/
  | complained (text : Text)
  /-- A folder and those above it were made where they were missing. -/
  | madeFolder (path : Text)
  /-- A file was written anew. -/
  | wrote (path text : Text)
  /-- Text was put at the end of a file. -/
  | appended (path text : Text)
  /-- A repository was asked for the commits of some revisions, newest first,
  all of them or as many as the limit says. -/
  | readCommits (folder revisions : Text) (limit : Option Nat)
deriving DecidableEq

/-! ## Runs -/

/-- What happened, and what came of it. -/
structure Run (α : Type) where
  /-- The events, oldest first. -/
  trace : List Event
  /-- The result, or why there is none. -/
  outcome : Except Failure α

namespace Run

/-- The run in which nothing happens. -/
def pure {α : Type} (a : α) : Run α := ⟨[], .ok a⟩

/-- One run after another. -/
def bind {α β : Type} (r : Run α) (f : α → Run β) : Run β :=
  match r.outcome with
  | .error e => ⟨r.trace, .error e⟩
  | .ok a => ⟨r.trace ++ (f a).trace, (f a).outcome⟩

instance : Monad Run where
  pure := Run.pure
  bind := Run.bind

/-- The run in which one thing happens. -/
def record (e : Event) : Run Unit := ⟨[e], .ok ()⟩

/-- The run that fails at once. -/
def fail {α : Type} (e : Failure) : Run α := ⟨[], .error e⟩

/-- The run of a computation that leaves no trace. -/
def ofExcept {α : Type} (x : Except Failure α) : Run α := ⟨[], x⟩

/-- A run, and if it fails what is done about the failure. -/
def orElse {α : Type} (r : Run α) (f : Failure → Run α) : Run α :=
  match r.outcome with
  | .ok a => ⟨r.trace, .ok a⟩
  | .error e => ⟨r.trace ++ (f e).trace, (f e).outcome⟩

/-- A run that takes place whether it fails or not, and gives its outcome. -/
def attempt {α : Type} (r : Run α) : Run (Except Failure α) := ⟨r.trace, .ok r.outcome⟩

/-- An action for each item of a list, in order, up to the first failure. -/
def each {α : Type} (f : α → Run Unit) : List α → Run Unit
  | [] => Run.pure ()
  | a :: as => Run.bind (f a) fun _ => each f as
termination_by structural as => as

/-- The results of several runs, or the first failure among them. -/
def settle {α : Type} : List (Run α) → Except Failure (List α)
  | [] => .ok []
  | r :: rs => match r.outcome with
      | .error e => .error e
      | .ok a => (settle rs).map (a :: ·)
termination_by structural rs => rs

/-- Several runs, each of which takes place whatever comes of the others. -/
def settleAll {α : Type} (rs : List (Run α)) : Run (List α) := ⟨rs.flatMap Run.trace, settle rs⟩

@[simp] theorem pure_eq {α : Type} (a : α) : (Pure.pure a : Run α) = ⟨[], .ok a⟩ := rfl

theorem bind_ok {α β : Type} {t : List Event} {a : α} {f : α → Run β} :
    ((⟨t, .ok a⟩ : Run α) >>= f) = ⟨t ++ (f a).trace, (f a).outcome⟩ := rfl

theorem bind_error {α β : Type} {t : List Event} {e : Failure} {f : α → Run β} :
    ((⟨t, .error e⟩ : Run α) >>= f) = ⟨t, .error e⟩ := rfl

/-- The trace of several runs is their traces one after another. -/
theorem trace_settleAll {α : Type} (rs : List (Run α)) :
    (settleAll rs).trace = rs.flatMap Run.trace := rfl

end Run

end CommitCheck
