import CommitCheck.Value.Basic

/-!
# Documents of TOML

A document is a table that grows statement by statement.  Beside the table it
remembers which paths are sections, which tables were made by a key with full
stops in this section (they are sections to the sections that follow), and which
values are closed, that is written out in full in one statement.

* A section may be opened once and not inside a closed value.
* A repeated section adds a table to the list of its path.  What was below the
  path belongs to the table before, so the path and all below it are free again.
* A value may be set once.  Its key may not lead through a section.
-/

namespace CommitCheck.Toml

/-- The names that lead to a table. -/
abbrev Path := List Text

/-- A document that is being read. -/
structure Document where
  /-- The tables so far. -/
  root : Fields
  /-- The paths of sections. -/
  sections : List Path
  /-- The tables that keys of this section made. -/
  pending : List Path
  /-- The paths of closed values. -/
  closed : List Path
  /-- The section that statements belong to. -/
  current : Path

/-- The document before the first statement. -/
def Document.start : Document := ⟨[], [], [], [], []⟩

/-- Whether a path is one of the closed ones or below one. -/
def isClosed (closed : List Path) (p : Path) : Bool := closed.any (·.isPrefixOf p)

/-- The table at a path changed.  Tables that are missing are made.  If the path
leads to a list, and lists may be entered, its last item is meant. -/
def changeAt (enterLists : Bool) : Path → (Fields → Option Fields) → Fields → Option Fields
  | [], f, fs => f fs
  | k :: ks, f, fs =>
      match fs.get? k with
      | none => (changeAt enterLists ks f []).map fun gs => fs.set k (.table gs)
      | some (.table gs) => (changeAt enterLists ks f gs).map fun gs => fs.set k (.table gs)
      | some (.list items) =>
          match items.getLast? with
          | some (.table gs) =>
              if enterLists then
                (changeAt enterLists ks f gs).map fun gs =>
                  fs.set k (.list (items.dropLast ++ [.table gs]))
              else none
          | _ => none
      | _ => none
termination_by structural p => p

/-- A value set under a name that is free. -/
def setNew (name : Text) (v : Value) (fs : Fields) : Option Fields :=
  if fs.has name then none else some (fs.set name v)

/-- A value that can hold others. -/
def isContainer : Value → Bool
  | .list _ => true
  | .table _ => true
  | _ => false

/-- The paths from just below one path down to the one before another below it. -/
def between (base : Path) : Path → List Path
  | [] => []
  | [_] => []
  | k :: ks => (base ++ [k]) :: between (base ++ [k]) ks

namespace Document

/-- The tables that keys made become sections. -/
def settle (d : Document) : Document :=
  { d with sections := d.pending ++ d.sections, pending := [] }

/-- A section is opened. -/
def openSection (d : Document) (p : Path) : Option Document := do
  let d := d.settle
  if d.sections.contains p || isClosed d.closed p then none
  else
    let root ← changeAt true p some d.root
    some { d with root, sections := p :: d.sections, current := p }

/-- An empty table put at the end of the list of a name. -/
def addTable (name : Text) (fs : Fields) : Option Fields :=
  match fs.get? name with
  | none => some (fs.set name (.list [.table []]))
  | some (.list items) => some (fs.set name (.list (items ++ [.table []])))
  | _ => none

/-- A repeated section is opened once more. -/
def openRepeated (d : Document) (p : Path) : Option Document := do
  let d := d.settle
  if isClosed d.closed p then none
  else
    let name ← p.getLast?
    let root ← changeAt true p.dropLast (addTable name) d.root
    some { d with
      root
      sections := p :: d.sections.filter (!p.isPrefixOf ·)
      closed := d.closed.filter (!p.isPrefixOf ·)
      current := p }

/-- A value is set in the current section. -/
def assign (d : Document) (key : Path) (v : Value) : Option Document := do
  let name ← key.getLast?
  let way := between d.current key
  let parent := d.current ++ key.dropLast
  if way.any d.sections.contains || isClosed d.closed parent then none
  else
    let root ← changeAt true parent (setNew name v) d.root
    some { d with
      root
      pending := way ++ d.pending
      closed := if isContainer v then (d.current ++ key) :: d.closed else d.closed }

end Document

/-- A table written in line, as it is read: its fields and the closed ones among them. -/
structure InlineTable where
  /-- The fields so far. -/
  fields : Fields
  /-- The paths of closed values. -/
  closed : List Path

/-- A value is set in a table written in line. -/
def InlineTable.assign (t : InlineTable) (key : Path) (v : Value) : Option InlineTable := do
  let name ← key.getLast?
  if isClosed t.closed key then none
  else
    let fields ← changeAt false key.dropLast (setNew name v) t.fields
    some ⟨fields, if isContainer v then key :: t.closed else t.closed⟩

end CommitCheck.Toml
