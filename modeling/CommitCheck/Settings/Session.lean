import CommitCheck.Settings.File

/-!
# Working with settings

Settings are worked with operation by operation: they are made of named values or loaded from
their file, saved to it, and asked for the level of a rule or the path of the log.  Between the
operations the environment can change, and anyone can put anything in the place of the file.
An operation that fails leaves the settings at hand as they were.

`Session.after` is the session that a list of operations leads to, and `Session.trace` is what
happens on the way.
-/

namespace CommitCheck.Settings

/-- What can be done with settings and around them. -/
inductive Operation where
  /-- The environment changes. -/
  | setEnvironment (env : Environment)
  /-- Something, or nothing, is put in the place of the file. -/
  | replaceFile (entry : Option Entry)
  /-- Settings are made of named values. -/
  | make (given : Fields)
  /-- Settings are loaded from the file. -/
  | load
  /-- The settings at hand are saved to the file. -/
  | save
  /-- The settings at hand are asked for the level of a rule. -/
  | levelOf (name : Text)
  /-- The settings at hand are asked for the path of the log. -/
  | logPath (now : Moment)

/-- What an operation gives. -/
inductive Answer where
  /-- Nothing but that it is done. -/
  | done
  /-- There are no settings at hand. -/
  | noSettings
  /-- The settings that are at hand now. -/
  | settings (s : Settings)
  /-- The level of a rule. -/
  | level (l : Level)
  /-- The path of the log, if one is to be kept. -/
  | path (p : Option Text)
deriving DecidableEq

/-- Settings at hand, and what is around them. -/
structure Session where
  /-- The path of the file of settings. -/
  path : Text
  /-- The environment. -/
  environment : Environment
  /-- What stands at the path. -/
  entry : Option Entry
  /-- The settings at hand, if some were made. -/
  current : Option Settings

namespace Session

/-- The session in which no settings were made yet. -/
def start (path : Text) (env : Environment) (entry : Option Entry) : Session :=
  ⟨path, env, entry, none⟩

/-- What stands at a path after an event. -/
def entryAfter (path : Text) (entry : Option Entry) : Event → Option Entry
  | .wrote p t => if p = path then some (.file (.text t)) else entry
  | _ => entry

/-- New settings come to be at hand, unless they could not be made. -/
def adopt (s : Session) (r : Run Settings) : Session × Run Answer :=
  (match r.outcome with
    | .ok settings => { s with current := some settings }
    | .error _ => s,
   do
    let settings ← r
    pure (.settings settings))

/-- The settings at hand are asked for something.  What they write to the file stands there
afterwards. -/
def ask (s : Session) (question : Settings → Run Answer) : Session × Run Answer :=
  match s.current with
  | none => (s, Run.pure .noSettings)
  | some settings =>
      let r := question settings
      ({ s with entry := r.trace.foldl (entryAfter s.path) s.entry }, r)

/-- An operation: the session afterwards, and the run that took place. -/
def perform (s : Session) : Operation → Session × Run Answer
  | .setEnvironment env => ({ s with environment := env }, Run.pure .done)
  | .replaceFile entry => ({ s with entry }, Run.pure .done)
  | .make given => s.adopt (Run.ofExcept (ofFields s.environment given))
  | .load => s.adopt (Settings.load s.environment s.path s.entry)
  | .save => s.ask fun settings => do
      settings.save s.path (s.entry == some .folder)
      pure .done
  | .levelOf name => s.ask fun settings => pure (.level (settings.levelOf name))
  | .logPath now => s.ask fun settings => do
      let p ← settings.logPath now
      pure (.path p)

/-- The session after several operations. -/
def after (s : Session) : List Operation → Session
  | [] => s
  | op :: ops => after (s.perform op).1 ops
termination_by structural ops => ops

/-- What happens during several operations. -/
def trace (s : Session) : List Operation → List Event
  | [] => []
  | op :: ops => (s.perform op).2.trace ++ trace (s.perform op).1 ops
termination_by structural ops => ops

end Session

end CommitCheck.Settings
