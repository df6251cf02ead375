import CommitCheck.Number.Decimal
import CommitCheck.Number.Whole
import CommitCheck.Text.Quoted
import CommitCheck.Value.Stamp

/-!
# Values of documents

The values that a settings file, an answer of a server or the arguments of a
caller can hold.  Whole numbers and floating point numbers are told apart, since
the readers of fields treat them differently, and a table keeps its fields in
the order in which they were first set.

`Value.shown` is how a value appears inside a message.  `Unread` says why a text is
not read as a document, whatever its format.
-/

namespace CommitCheck

/-- A value of a document. -/
inductive Value where
  /-- The absent value. -/
  | null
  /-- A truth value. -/
  | bool (b : Bool)
  /-- A whole number. -/
  | int (n : Int)
  /-- A floating point number. -/
  | float (x : Binary64)
  /-- A text. -/
  | text (t : Text)
  /-- A text with halves of characters in it, by the numbers of both. -/
  | torn (codes : List Nat)
  /-- A list of values. -/
  | list (items : List Value)
  /-- A table of named values, oldest name first. -/
  | table (fields : List (Text × Value))
  /-- A date, a time of day or both. -/
  | stamp (s : Stamp)
deriving Inhabited

/-- Named values, oldest name first. -/
abbrev Fields := List (Text × Value)

namespace Fields

/-- The value of a name, if it has one. -/
def get? (fs : Fields) (name : Text) : Option Value := fs.lookup name

/-- Whether a name has a value. -/
def has (fs : Fields) (name : Text) : Bool := (fs.lookup name).isSome

/-- The fields with one set.  A name that was there keeps its place. -/
def set : Fields → Text → Value → Fields
  | [], name, v => [(name, v)]
  | (n, w) :: fs, name, v => if n = name then (n, v) :: fs else (n, w) :: set fs name v
termination_by structural fs => fs

/-- The fields of a list of settings, a later setting of a name over an earlier one. -/
def ofList (settings : List (Text × Value)) : Fields :=
  settings.foldl (fun fs (n, v) => fs.set n v) []

/-- The first fields with the second ones set over them. -/
def merge (fs gs : Fields) : Fields := gs.foldl (fun fs (n, v) => fs.set n v) fs

/-- A name that was just set has the value it was set to. -/
theorem lookup_set_self (fs : Fields) (name : Text) (v : Value) :
    (fs.set name v).lookup name = some v := by
  induction fs with
  | nil => simp [set]
  | cons f fs ih =>
    obtain ⟨n, w⟩ := f
    unfold set
    split
    · rename_i h
      subst h
      exact List.lookup_cons_self
    · rename_i h
      have hn : (name == n) = false := by simpa using Ne.symm h
      rw [List.lookup_cons, hn]
      exact ih

/-- The other names keep their values. -/
theorem lookup_set_of_ne (fs : Fields) {name other : Text} (v : Value) (h : other ≠ name) :
    (fs.set name v).lookup other = fs.lookup other := by
  induction fs with
  | nil =>
    have ho : (other == name) = false := by simpa using h
    unfold set
    rw [List.lookup_cons, ho]
  | cons f fs ih =>
    obtain ⟨n, w⟩ := f
    unfold set
    split
    · rename_i hf
      subst hf
      have ho : (other == n) = false := by simpa using h
      rw [List.lookup_cons, List.lookup_cons, ho]
    · rw [List.lookup_cons, List.lookup_cons, ih]

end Fields

namespace Value

/-- Whether a value counts as present: it is not absent, false, zero or empty. -/
def isTruthy : Value → Bool
  | null => false
  | bool b => b
  | int n => n != 0
  | float x => !x.isZero
  | text t => !t.isEmpty
  | list items => !items.isEmpty
  | table fields => !fields.isEmpty
  | torn _ => true
  | stamp _ => true

/-- Whether a value can name a field of a table: a list or a table cannot. -/
def isKey : Value → Bool
  | list _ => false
  | table _ => false
  | _ => true

mutual

/-- A value as it appears inside a message. -/
def shown : Value → Text
  | null => "None"
  | bool b => if b then "True" else "False"
  | int n => intText n
  | float x => x.text
  | text t => quoted t
  | torn codes => quotedCodes codes
  | list items => '[' :: shownItems items ++ [']']
  | table fields => '{' :: shownFields fields ++ ['}']
  | stamp s => s.shown

/-- Values with commas between them. -/
def shownItems : List Value → Text
  | [] => []
  | [v] => shown v
  | v :: w :: vs => shown v ++ ',' :: ' ' :: shownItems (w :: vs)

/-- Named values with commas between them. -/
def shownFields : List (Text × Value) → Text
  | [] => []
  | [(n, v)] => quoted n ++ ':' :: ' ' :: shown v
  | (n, v) :: f :: fs => quoted n ++ ':' :: ' ' :: (shown v ++ ',' :: ' ' :: shownFields (f :: fs))

end

mutual

/-- Whether a value holds a number that has too many digits to appear inside a
message. -/
def isUnshowable : Value → Bool
  | int n => isUnwritable n
  | list items => anyUnshowable items
  | table fields => anyFieldUnshowable fields
  | _ => false

/-- Whether one of some values holds such a number. -/
def anyUnshowable : List Value → Bool
  | [] => false
  | v :: vs => isUnshowable v || anyUnshowable vs

/-- Whether one of some named values holds such a number. -/
def anyFieldUnshowable : List (Text × Value) → Bool
  | [] => false
  | (_, v) :: fs => isUnshowable v || anyFieldUnshowable fs

end

/-- A value as it appears inside a message where a text stands for itself. -/
def plain : Value → Text
  | text t => t
  | v => v.shown

end Value

/-! ## Unread documents -/

/-- Why a text is not read as a document. -/
inductive Unread where
  /-- It does not follow the format. -/
  | malformed
  /-- A number has too many digits. -/
  | tooLong
  /-- Values lie in one another too deep. -/
  | tooDeep
deriving DecidableEq

/-- A result that is missing only where a text does not follow the format. -/
def orMalformed {α : Type} : Option α → Except Unread α
  | some a => .ok a
  | none => .error .malformed

theorem orMalformed_eq_ok_iff {α : Type} {o : Option α} {a : α} :
    orMalformed o = .ok a ↔ o = some a := by
  cases o <;> simp [orMalformed]

end CommitCheck
