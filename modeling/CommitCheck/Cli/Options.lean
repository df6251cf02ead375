import CommitCheck.Text.Quoted
import CommitCheck.Text.Similar

/-!
# Options

The words of a command line are options and extra arguments.  An option has a
long name after two hyphens, and it can have a short one of a single letter after
one hyphen.  Short options can be written together.  The value of an option
follows in the same word, for a long name after an equals sign, or is the next
word.  After a word of two hyphens there are no options.

`Given.read` tells which options are given, and `Misuse` is what can be wrong with
a command line.

The help says how the program is called, what it does, and what its options are.
-/

namespace CommitCheck.Cli

/-- What an option is for. -/
inductive Purpose where
  /-- The folder to work in. -/
  | path
  /-- The file of the message to lint. -/
  | edit
  /-- The message to lint. -/
  | message
  /-- The revision after which to lint. -/
  | start
  /-- The last revision to lint. -/
  | stop
  /-- To tell more. -/
  | verbose
  /-- The file of the log. -/
  | log
  /-- To show the settings. -/
  | list
  /-- To write the file of settings. -/
  | create
  /-- To show the version. -/
  | version
  /-- To ask for a newer version. -/
  | update
  /-- To show what the options are. -/
  | help
deriving DecidableEq, Inhabited

/-- An option. -/
structure Spec where
  /-- What it is for. -/
  purpose : Purpose
  /-- The letter of its short name, if it has one. -/
  letter : Option Char
  /-- Its long name. -/
  name : Text
  /-- Whether it has a value. -/
  hasValue : Bool
deriving DecidableEq

/-- The options. -/
def specs : List Spec := [
  ⟨.path, some 'p', "--path", true⟩, ⟨.edit, some 'e', "--edit", true⟩,
  ⟨.message, some 'm', "--message", true⟩, ⟨.start, none, "--from", true⟩,
  ⟨.stop, none, "--to", true⟩, ⟨.verbose, some 'v', "--verbose", false⟩,
  ⟨.log, some 'l', "--log-file", true⟩, ⟨.list, none, "--config-list", false⟩,
  ⟨.create, none, "--init-config", false⟩, ⟨.version, none, "--version", false⟩,
  ⟨.update, none, "--check-updates", false⟩, ⟨.help, none, "--help", false⟩]

/-- The option of a long name. -/
def longSpec? (name : Text) : Option Spec := specs.find? (·.name == name)

/-- The option of a letter. -/
def shortSpec? (letter : Char) : Option Spec := specs.find? (·.letter == some letter)

/-- The names of the option for a purpose, as they appear in a complaint. -/
def namesOf (p : Purpose) : Text :=
  match specs.find? (·.purpose == p) with
  | none => []
  | some s =>
      let long := '\'' :: s.name ++ ['\'']
      match s.letter with
      | none => long
      | some c => '\'' :: '-' :: c :: '\'' :: " / ".toList ++ long

/-! ## Misuse -/

/-- What is wrong with a path. -/
inductive PathFault where
  /-- There is nothing. -/
  | missing
  /-- There is a file. -/
  | isFile
  /-- There is a folder. -/
  | isFolder
  /-- The path has a character that no path has. -/
  | isBroken
deriving DecidableEq

/-- What is wrong with a command line. -/
inductive Misuse where
  /-- No option has this name, but some have names like it. -/
  | unknown (name : Text) (similar : List Text)
  /-- An option lacks its value. -/
  | valueMissing (name : Text)
  /-- An option has no value, but one is given. -/
  | valueUnwanted (name : Text)
  /-- The path given to an option is of no use. -/
  | path (purpose : Purpose) (given : Text) (fault : PathFault)
  /-- There are extra arguments. -/
  | extra (arguments : List Text)
  /-- More than one source of messages is given. -/
  | sources
deriving DecidableEq

namespace Misuse

/-- What the paths of an option lead to, in words. -/
def kindOf (p : Purpose) : Text := if p = .path then "Directory" else "File"

/-- What is wrong with a path, in words. -/
def faultText : PathFault → Text
  | .missing => "does not exist."
  | .isFile => "is a file."
  | .isFolder => "is a directory."
  | .isBroken => "cannot be looked for."

/-- The names that may have been meant, in words. -/
def suggestion : List Text → Text
  | [] => []
  | [name] => " Did you mean ".toList ++ quoted name ++ ['?']
  | names => " (Did you mean one of: ".toList ++ joinWith ", " (names.map quoted) ++ "?)".toList

/-- The wording. -/
def message : Misuse → Text
  | unknown name similar =>
      "No such option ".toList ++ quoted name ++ '.' :: suggestion (similar.mergeSort isUpTo)
  | valueMissing name => "Option ".toList ++ quoted name ++ " requires an argument.".toList
  | valueUnwanted name => "Option ".toList ++ quoted name ++ " does not take a value.".toList
  | path purpose given fault =>
      "Invalid value for ".toList ++ namesOf purpose ++ ": ".toList ++ kindOf purpose ++
        ' ' :: quoted given ++ ' ' :: faultText fault
  | extra arguments =>
      "Got unexpected extra argument".toList ++ (if arguments.length = 1 then [] else ['s']) ++
        " (".toList ++ joinWith [' '] arguments ++ [')']
  | sources => "Use only one of --edit, --message or --from"

/-- Whether the complaint starts with the usage. -/
def showsUsage : Misuse → Bool
  | valueMissing _ | valueUnwanted _ => false
  | _ => true

end Misuse

/-! ## Reading the words -/

/-- The options and the extra arguments of a command line. -/
structure Given where
  /-- What the options are for and their values, in order.  An option without
  value has an empty one. -/
  options : List (Purpose × Text)
  /-- The extra arguments, in order. -/
  extra : List Text
deriving DecidableEq

namespace Given

/-- One extra argument more, in front. -/
def withExtra (word : Text) (g : Given) : Given := { g with extra := word :: g.extra }

/-- Options read from one word: those that are complete, and the last one with the
name it was given by if its value is in the next word. -/
structure OfWord where
  /-- The complete options. -/
  complete : List (Purpose × Text)
  /-- The option that waits for its value. -/
  waiting : Option (Purpose × Text)

/-- The option of a long name, and its value if that is in the same word. -/
def ofLong (name : Text) (value : Option Text) : Except Misuse OfWord :=
  match longSpec? name, value with
  | none, _ => .error (.unknown name (closest name (specs.map Spec.name)))
  | some s, none =>
      if s.hasValue then .ok ⟨[], some (s.purpose, name)⟩ else .ok ⟨[(s.purpose, [])], none⟩
  | some s, some v =>
      if s.hasValue then .ok ⟨[(s.purpose, v)], none⟩ else .error (.valueUnwanted name)

/-- The options of letters. -/
def ofLetters : Text → Except Misuse OfWord
  | [] => .ok ⟨[], none⟩
  | c :: cs =>
      match shortSpec? c with
      | none => .error (.unknown ['-', c] [])
      | some s =>
          if s.hasValue then
            if cs.isEmpty then .ok ⟨[], some (s.purpose, ['-', c])⟩
            else .ok ⟨[(s.purpose, cs)], none⟩
          else (ofLetters cs).map fun r => { r with complete := (s.purpose, []) :: r.complete }

/-- The options of a word, none if it is an extra argument. -/
def ofWord : Text → Option (Except Misuse OfWord)
  | '-' :: '-' :: cs =>
      some (match cutAt? '=' ('-' :: '-' :: cs) with
        | none => ofLong ('-' :: '-' :: cs) none
        | some (name, value) => ofLong name (some value))
  | '-' :: c :: cs => some (ofLetters (c :: cs))
  | _ => none

/-- The options and extra arguments of words. -/
def read : List Text → Except Misuse Given
  | [] => .ok ⟨[], []⟩
  | word :: words =>
      if word = ['-', '-'] then .ok ⟨[], words⟩
      else match ofWord word with
        | none => (read words).map (withExtra word)
        | some (.error e) => .error e
        | some (.ok ⟨complete, none⟩) =>
            (read words).map fun g => { g with options := complete ++ g.options }
        | some (.ok ⟨complete, some (p, name)⟩) =>
            match words with
            | [] => .error (.valueMissing name)
            | value :: words => (read words).map fun g =>
                { g with options := complete ++ (p, value) :: g.options }
termination_by structural words => words

/-- The last value of the option for a purpose, if it is given. -/
def value? (g : Given) (p : Purpose) : Option Text := g.options.reverse.lookup p

/-- Whether the option for a purpose is given. -/
def has (g : Given) (p : Purpose) : Bool := (g.value? p).isSome

/-- The purposes of the given options, each once, by their first place. -/
def purposes (g : Given) : List Purpose := (g.options.map Prod.fst).eraseDups

end Given

/-! ## Help -/

/-- How the program is called. -/
def usage : Text := "Usage: main [OPTIONS]\n"

/-- Where to find help. -/
def helpHint : Text := "Try 'main --help' for help.\n"

/-- What the program does. -/
def purposeLines : List Text := [
  "  Lint commit messages for a conventional or issue-prefixed header and a body",
  "  that cites a tracked issue.",
  "",
  "  Numbered issues (\"Issue #123\") are looked up on GitHub using the",
  "  GITHUB_REPOSITORY and GITHUB_TOKEN environment variables. \"Issue #nil\" states",
  "  that no issue applies and skips the lookup.",
  "",
  "  Exit status is 0 when every commit passes, 1 when any commit has an error-",
  "  level problem and 2 when linting could not be completed."]

/-- What the options are. -/
def optionLines : List Text := [
  "  -p, --path DIRECTORY  Path to git repository (defaults to current directory)",
  "  -e, --edit FILE       Lint the commit message stored in this file (use from a",
  "                        commit-msg hook)",
  "  -m, --message TEXT    Lint this commit message text",
  "  --from TEXT           Lint every commit after this revision, up to --to",
  "  --to TEXT             Last revision to lint; alone, only this commit is linted",
  "                        [default: HEAD]",
  "  -v, --verbose         Show issue tracker lookups",
  "  -l, --log-file FILE   Optional file to log lint activity (overrides config",
  "                        setting)",
  "  --config-list         Display current configuration settings",
  "  --init-config         Write a .gitcommitlint.toml with default values",
  "  --version             Display version information and exit",
  "  --check-updates       Check for available updates",
  "  --help                Show this message and exit."]

/-- The whole help. -/
def helpText : Text :=
  usage ++ ('\n' :: purposeLines.flatMap (· ++ ['\n'])) ++
    "\nOptions:\n".toList ++ optionLines.flatMap (· ++ ['\n'])

/-- The complaint about a misuse. -/
def complaint (m : Misuse) : Text :=
  (if m.showsUsage then usage ++ helpHint ++ ['\n'] else []) ++
    "Error: ".toList ++ m.message ++ ['\n']

end CommitCheck.Cli
