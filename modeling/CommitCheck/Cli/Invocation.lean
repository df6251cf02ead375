import CommitCheck.Cli.Options
import CommitCheck.Files.Basic

/-!
# Invocations

An invocation is a command line that makes sense: every option with its value or
what it means if it is not given.  `Request.read` reads the words of a command
line.  What is wrong with the words themselves comes first; then a plea for help
counts before anything else; then come paths that lead nowhere, extra arguments,
and more than one source of messages.
-/

namespace CommitCheck.Cli

/-- Where the messages to lint are. -/
inductive Source where
  /-- In a file. -/
  | file (path : Text)
  /-- On the command line. -/
  | words (message : Text)
  /-- In the commits of the repository that revisions name. -/
  | commits (revisions : Text) (limit : Option Nat)
deriving DecidableEq

/-- A command line with its options. -/
structure Invocation where
  /-- The folder to work in. -/
  path : Text
  /-- The file of the message to lint. -/
  edit : Option Text
  /-- The message to lint. -/
  message : Option Text
  /-- The revision after which to lint, empty if there is none. -/
  start : Text
  /-- The last revision to lint. -/
  stop : Text
  /-- Whether to tell more. -/
  verbose : Bool
  /-- The file of the log. -/
  log : Option Text
  /-- Whether to show the settings. -/
  list : Bool
  /-- Whether to write the file of settings. -/
  create : Bool
  /-- Whether to show the version. -/
  version : Bool
  /-- Whether to ask for a newer version. -/
  update : Bool
deriving DecidableEq

namespace Invocation

/-- The last revision to lint unless another one is given. -/
def head : Text := "HEAD"

/-- The invocation of given options. -/
def ofGiven (g : Given) : Invocation where
  path := (g.value? .path).getD ['.']
  edit := g.value? .edit
  message := g.value? .message
  start := (g.value? .start).getD []
  stop := (g.value? .stop).getD head
  verbose := g.has .verbose
  log := g.value? .log
  list := g.has .list
  create := g.has .create
  version := g.has .version
  update := g.has .update

/-- Whether more than one source of messages is given. -/
def isAmbiguous (i : Invocation) : Bool :=
  1 < ([i.edit.isSome, i.message.isSome, !i.start.isEmpty].filter id).length

/-- Where the messages to lint are. -/
def source (i : Invocation) : Source :=
  match i.edit, i.message with
  | some path, _ => .file path
  | none, some m => .words m
  | none, none =>
      if i.start.isEmpty then .commits i.stop (some 1)
      else .commits (i.start ++ "..".toList ++ i.stop) none

end Invocation

/-- What is wrong with the path given to an option, where a path as such can be
right. -/
def entryFault? (files : Files) (p : Purpose) (given : Text) : Option PathFault :=
  match p, files.findText? given with
  | .path, none => some .missing
  | .path, some (.file _) => some .isFile
  | .edit, none => some .missing
  | .edit, some .folder => some .isFolder
  | .log, some .folder => some .isFolder
  | _, _ => none

/-- Whether the value of an option is a path. -/
def Purpose.isPath (p : Purpose) : Bool := p = .path || p = .edit || p = .log

/-- What is wrong with the path given to an option. -/
def pathFault? (files : Files) (p : Purpose) (given : Text) : Option PathFault :=
  if p.isPath && Path.isBroken given then some .isBroken else entryFault? files p given

/-- The first path that is of no use. -/
def badPath? (files : Files) (g : Given) : Option Misuse :=
  g.purposes.findSome? fun p =>
    let given := (g.value? p).getD []
    (pathFault? files p given).map (.path p given)

/-- What a command line asks for. -/
inductive Request where
  /-- To show what the options are. -/
  | help
  /-- To do the work. -/
  | work (invocation : Invocation)
deriving DecidableEq

namespace Request

/-- What given options ask for. -/
def ofGiven (files : Files) (g : Given) : Except Misuse Request :=
  if g.has .help then .ok .help
  else match badPath? files g with
    | some m => .error m
    | none =>
        if !g.extra.isEmpty then .error (.extra g.extra)
        else
          let i := Invocation.ofGiven g
          if i.isAmbiguous then .error .sources else .ok (.work i)

/-- What the words of a command line ask for. -/
def read (files : Files) (words : List Text) : Except Misuse Request := do
  let g ← Given.read words
  ofGiven files g

end Request

end CommitCheck.Cli
