import CommitCheck.Text.Basic

/-!
# Hosts in numbers

The host of an address can be a number instead of a name: one of four octets with
full stops between them, or one of eight groups with colons between them, of which
one run of zeros may be left out.
-/

namespace CommitCheck.Url

/-! ## Numbers of four octets -/

/-- Whether a text is four numbers with full stops between them. -/
def looksNumeric (t : Text) : Bool :=
  let parts := splitAt '.' t
  parts.length == 4 && parts.all fun p => !p.isEmpty && p.all Char.isDigit

/-- Whether a text is an octet without zeros in front. -/
def isOctet (t : Text) : Bool :=
  !t.isEmpty && t.length ≤ 3 && t.all Char.isDigit && (t.length == 1 || t.head? != some '0') &&
    ofDigits t ≤ 255

/-- Whether a text is four octets with full stops between them. -/
def isFourOctets (t : Text) : Bool :=
  let parts := splitAt '.' t
  parts.length == 4 && parts.all isOctet

/-! ## Numbers of eight groups -/

/-- Whether a text is a group: one to four hexadecimal digits. -/
def isGroup (t : Text) : Bool :=
  !t.isEmpty && t.length ≤ 4 && t.all fun c => (hexValue? c).isSome

/-- The parts between colons, the last one replaced by two groups if it is a
number of four octets. -/
def groupParts? (t : Text) : Option (List Text) :=
  let parts := splitAt ':' t
  match parts.getLast? with
  | none => none
  | some last =>
      if parts.length < 3 then none
      else if last.contains '.' then
        if isFourOctets last then some (parts.dropLast ++ [['0'], ['0']]) else none
      else some parts

/-- Whether parts make eight groups, of which one run of zeros may be left out.
Where it is left out a part in the middle is empty. -/
def areGroups (parts : List Text) : Bool :=
  if 9 < parts.length then false
  else
    let middle := (parts.drop 1).dropLast
    match middle.filter List.isEmpty with
    | [] => parts.length == 8 && parts.all isGroup
    | [_] =>
        let skip := middle.findIdx List.isEmpty + 1
        let before := parts.take skip
        let behind := parts.drop (skip + 1)
        let before := if before == [[]] then [] else before
        let behind := if behind == [[]] then [] else behind
        before.all isGroup && behind.all isGroup && before.length + behind.length < 8
    | _ => false

/-- Whether a text is a number of eight groups, with the name of a zone or
without. -/
def isEightGroups (t : Text) : Bool :=
  let address := match cutAt? '%' t with
    | none => some t
    | some (a, zone) => if zone.isEmpty || zone.contains '%' then none else some a
  match address with
  | none => false
  | some a => !a.contains '/' && (match groupParts? a with
      | some parts => areGroups parts
      | none => false)

example : isEightGroups "::1" = true := by decide
example : looksNumeric "1.2.3.999" = true := by decide
example : isFourOctets "1.2.3.999" = false := by decide

end CommitCheck.Url
