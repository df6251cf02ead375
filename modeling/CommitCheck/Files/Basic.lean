import CommitCheck.Files.Path
import CommitCheck.Run.Basic
import CommitCheck.Text.Bytes

/-!
# Files and folders

The part of a file system that the program can meet, and the working folder.
`Files.find?` follows a path as the system does: each name but the last has to be
that of a folder, and two full stops lead to the folder around.

`Files.replay` is what the files are after a run: the events of the run that
change files are done one after another.
-/

namespace CommitCheck

/-- What a file holds. -/
inductive Content where
  /-- Bytes that are a text in UTF-8. -/
  | text (t : Text)
  /-- Other bytes. -/
  | binary
deriving DecidableEq, Inhabited

namespace Content

/-- The content that bytes make. -/
def ofBytes (bytes : List Nat) : Content :=
  match ofBytes? bytes with
  | some t => .text t
  | none => .binary

/-- The content with a text put at the end. -/
def append : Content → Text → Content
  | .text t, more => .text (t ++ more)
  | .binary, _ => .binary

end Content

/-- What a name in a folder stands for. -/
inductive Entry where
  /-- A file. -/
  | file (content : Content)
  /-- A folder. -/
  | folder
deriving DecidableEq, Inhabited

/-- The files that the program can meet. -/
structure Files where
  /-- The names that lead from the root to the working folder. -/
  here : List Text
  /-- What there is, by the names that lead there from the root. -/
  entries : List (List Text × Entry)
deriving DecidableEq, Inhabited

namespace Files

/-- What names lead to.  Around an entry and around the working folder there are
folders. -/
def entryAt (fs : Files) (names : List Text) : Option Entry :=
  match fs.entries.lookup names with
  | some e => some e
  | none =>
      if names.isPrefixOf fs.here || fs.entries.any (fun e => names.isPrefixOf e.1) then
        some .folder
      else none

/-- Where names lead from a folder, if all but the last of them are those of
folders. -/
def walk (fs : Files) : List Text → List Text → Option (List Text)
  | place, [] => some place
  | place, name :: names =>
      if fs.entryAt place = some .folder then
        if Path.isIdle name then walk fs place names
        else if name = ['.', '.'] then walk fs place.dropLast names
        else walk fs (place ++ [name]) names
      else none
termination_by structural _ names => names

/-- The folder that a path leads from. -/
def startOf (fs : Files) (p : Path) : List Text := if p.isAbsolute then [] else fs.here

/-- Where a path leads. -/
def place? (fs : Files) (p : Path) : Option (List Text) := fs.walk (fs.startOf p) p.names

/-- What is at a path. -/
def find? (fs : Files) (p : Path) : Option Entry := (fs.place? p).bind fs.entryAt

/-- What the text of a path leads to.  A text that is empty or too long leads nowhere,
and a slash at the end asks for a folder. -/
def findText? (fs : Files) (t : Text) : Option Entry :=
  if t.isEmpty || Path.isTooLong t then none
  else (fs.walk (fs.startOf (.ofText t)) (splitAt '/' t)).bind fs.entryAt

/-- The path from the root. -/
def absolute (fs : Files) (p : Path) : Path :=
  if p.isAbsolute then p else ⟨['/'], fs.here ++ p.names⟩

/-! ## Changes -/

/-- Entries with one put in the place of the one of the same names, or at the end. -/
def insertEntry (names : List Text) (e : Entry) :
    List (List Text × Entry) → List (List Text × Entry)
  | [] => [(names, e)]
  | old :: rest => if old.1 = names then (names, e) :: rest else old :: insertEntry names e rest
termination_by structural es => es

/-- The files with an entry put in its place. -/
def put (fs : Files) (names : List Text) (e : Entry) : Files :=
  { fs with entries := insertEntry names e fs.entries }

/-- The files with a folder at a path, unless there is a file in the way. -/
def withFolder? (fs : Files) (p : Path) : Option Files :=
  match fs.place? p with
  | none => none
  | some names => match fs.entryAt names with
      | none => some (fs.put names .folder)
      | some .folder => some fs
      | some (.file _) => none

/-- The files with a folder at a path and at every path around it, unless there is
a file in the way. -/
def makeFolder? (fs : Files) (p : Path) : Option Files :=
  (List.range p.names.length).foldlM
    (fun fs n => fs.withFolder? { p with names := p.names.take (n + 1) }) fs

/-- The files with a file at a path changed. -/
def change (fs : Files) (p : Path) (f : Content → Content) : Files :=
  match fs.place? p with
  | none => fs
  | some names => match fs.entryAt names with
      | none => fs.put names (.file (f (.text [])))
      | some (.file c) => fs.put names (.file (f c))
      | some .folder => fs

/-- The files after an event. -/
def after (fs : Files) : Event → Files
  | .madeFolder path => (fs.makeFolder? (.ofText path)).getD fs
  | .wrote path t => fs.change (.ofText path) fun _ => .text t
  | .appended path t => fs.change (.ofText path) fun c => c.append t
  | _ => fs

/-- The files after a run. -/
def replay (fs : Files) (trace : List Event) : Files := trace.foldl after fs

end Files

end CommitCheck
