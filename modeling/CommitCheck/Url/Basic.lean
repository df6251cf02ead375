import CommitCheck.Number.Whole
import CommitCheck.Text.Case
import CommitCheck.Text.Quoted
import CommitCheck.Url.Host
import CommitCheck.Url.Name
import CommitCheck.Url.Percent

/-!
# Addresses

An address has a scheme, a user, a host, a port, a path, a query and a fragment,
most of which may be missing.  `Url.parse` cuts a text at the first marks of each
part and brings the parts into one form: scheme and host in small letters, no
port where it is the usual one, no full stops that stand for folders, and what
may not stand in a part percent encoded.

Some texts are no addresses.  `UrlFault` says why.
-/

namespace CommitCheck

/-- Why a text is no address. -/
inductive UrlFault where
  /-- The text is too long. -/
  | tooLong
  /-- The text has a control character, the first one at a position. -/
  | control (c : Char) (position : Nat)
  /-- The port is no number. -/
  | badPort (port : Text)
  /-- The host looks like a number of four octets and is none. -/
  | badOctets (host : Text)
  /-- The host stands in brackets and is no number of eight groups. -/
  | badGroups (host : Text)
  /-- The host is no name. -/
  | badName (host : Text)
  /-- There is a host, and the path after it does not start with a slash. -/
  | looseWithHost
  /-- There is no host, and the path starts with two slashes. -/
  | doubleSlash
  /-- There is no host, and the path starts with a colon. -/
  | leadingColon
  /-- There are brackets that do not hold a number of eight groups. -/
  | badBrackets
deriving DecidableEq

/-- The wording of a fault. -/
def UrlFault.message : UrlFault → Text
  | tooLong => "URL too long"
  | control c position => "Invalid non-printable ASCII character in URL, ".toList ++ quoted [c] ++
      " at position ".toList ++ natText position ++ ['.']
  | badPort port => "Invalid port: ".toList ++ quoted port
  | badOctets host => "Invalid IPv4 address: ".toList ++ quoted host
  | badGroups host => "Invalid IPv6 address: ".toList ++ quoted host
  | badName host => "Invalid IDNA hostname: ".toList ++ quoted host
  | looseWithHost => "For absolute URLs, path must be empty or begin with '/'"
  | doubleSlash => "Relative URLs cannot have a path starting with '//'"
  | leadingColon => "Relative URLs cannot have a path starting with ':'"
  | badBrackets => "Invalid IPv6 URL"

/-- An address in its one form. -/
structure Url where
  /-- The scheme, empty if there is none. -/
  scheme : Text
  /-- The name and the password of a user, empty if there is none. -/
  user : Text
  /-- The host, empty if there is none. -/
  host : Text
  /-- The port, if it is not the usual one. -/
  port : Option Int
  /-- The path. -/
  path : Text
  /-- The query, if there is a question mark. -/
  query : Option Text
  /-- The fragment, if there is a number sign. -/
  fragment : Option Text
deriving DecidableEq

namespace Url

/-! ## Writing -/

/-- User, host and port. -/
def authority (u : Url) : Text :=
  (if u.user.isEmpty then [] else u.user ++ ['@']) ++
    (if u.host.contains ':' then '[' :: u.host ++ [']'] else u.host) ++
    (match u.port with
      | none => []
      | some p => ':' :: intText p)

/-- A part after its mark, if it is there. -/
def marked (mark : Char) : Option Text → Text
  | none => []
  | some t => mark :: t

/-- The text of an address. -/
def text (u : Url) : Text :=
  (if u.scheme.isEmpty then [] else u.scheme ++ [':']) ++
    (if u.authority.isEmpty then [] else '/' :: '/' :: u.authority) ++
    u.path ++ marked '?' u.query ++ marked '#' u.fragment

/-- The host that is meant.  A host that starts with the code of a label is read. -/
def hostName (u : Url) : Except LabelFault Text :=
  if (after? Name.codeMark u.host).isSome then Name.ofAscii u.host else .ok u.host

/-- Path and query as a request has them. -/
def target (u : Url) : Text := (if u.path.isEmpty then ['/'] else u.path) ++ marked '?' u.query

/-! ## The parts of a text -/

/-- The parts of a text before they are brought into form. -/
structure Parts where
  /-- The scheme. -/
  scheme : Text
  /-- User, host and port. -/
  authority : Text
  /-- The path. -/
  path : Text
  /-- The query. -/
  query : Option Text
  /-- The fragment. -/
  fragment : Option Text

/-- Whether a character may stand in a scheme after its first letter. -/
def isSchemeChar (c : Char) : Bool := c.isAlphanum || c == '+' || c == '.' || c == '-'

/-- The scheme at the start of a text with a colon after it, and the rest.  The
scheme before a colon may be empty. -/
def splitScheme (t : Text) : Text × Text :=
  let name := t.takeWhile isSchemeChar
  match t.drop name.length, name with
  | ':' :: rest, [] => ([], rest)
  | ':' :: rest, c :: _ => if c.isAlpha then (name, rest) else ([], t)
  | _, _ => ([], t)

/-- A text before and after the first of a mark. -/
def splitMark (mark : Char) (t : Text) : Text × Option Text :=
  match cutAt? mark t with
  | none => (t, none)
  | some (a, b) => (a, some b)

/-- The authority after two slashes, and the rest. -/
def splitAuthority (t : Text) : Text × Text :=
  match t with
  | '/' :: '/' :: cs =>
      let ends (c : Char) : Bool := c == '/' || c == '?' || c == '#'
      (cs.takeWhile (!ends ·), cs.dropWhile (!ends ·))
  | _ => ([], t)

/-- The parts of a text. -/
def Parts.ofText (t : Text) : Parts :=
  let (scheme, rest) := splitScheme t
  let (authority, rest) := splitAuthority rest
  let (rest, fragment) := splitMark '#' rest
  let (path, query) := splitMark '?' rest
  ⟨scheme, authority, path, query, fragment⟩

/-- User, host and port of an authority.  The user ends at the last at sign, and a
host in brackets at the last bracket. -/
def splitHost (authority : Text) : Text × Text × Text :=
  let afterUser := (authority.reverse.takeWhile (· != '@')).reverse
  let user := if authority.contains '@' then
    authority.take (authority.length - afterUser.length - 1) else []
  let host := if afterUser.head? == some '[' && afterUser.contains ']' then
    afterUser.take (afterUser.length - (afterUser.reverse.takeWhile (· != ']')).length)
    else afterUser.takeWhile (· != ':')
  let port := match afterUser.drop host.length with
    | ':' :: p => p
    | p => p
  (user, host, port)

/-! ## Bringing the parts into form -/

/-- A host in its one form. -/
def normalHost (host : Text) : Except UrlFault Text :=
  if host.isEmpty then .ok []
  else if looksNumeric host then
    if isFourOctets host then .ok host else .error (.badOctets host)
  else if host.head? == some '[' && host.getLast? == some ']' then
    let inner := (host.drop 1).dropLast
    if isEightGroups inner then .ok inner else .error (.badGroups host)
  else if host.all (·.toNat < 0x80) then .ok (quote inHost (lowercase host))
  else match Name.toAscii (smallLetters host) with
    | .ok name => .ok name
    | .error _ => .error (.badName host)

/-- The usual port of a scheme. -/
def usualPort? (scheme : Text) : Option Int :=
  ([("ftp", 21), ("http", 80), ("https", 443), ("ws", 80), ("wss", 443)] :
    List (Text × Int)).lookup scheme

/-- A port in its one form.  The usual port of the scheme is left out. -/
def normalPort (scheme port : Text) : Except UrlFault (Option Int) :=
  if port.isEmpty then .ok none
  else match readWhole? port with
    | none => .error (.badPort port)
    | some n => if usualPort? scheme == some n then .ok none else .ok (some n)

/-- The segments of a path without those that stand for a folder. -/
def keepSegments (segments : List Text) : List Text :=
  segments.foldl (fun kept s =>
    if s = ['.'] then kept
    else if s = ['.', '.'] then (if kept.isEmpty || kept == [[]] then kept else kept.dropLast)
    else kept ++ [s]) []

/-- A path in which no full stops stand for folders. -/
def normalPath (path : Text) : Text :=
  let segments := splitAt '/' path
  if segments.contains ['.'] || segments.contains ['.', '.'] then
    joinWith ['/'] (keepSegments segments)
  else path

/-- What is wrong with a path, if anything. -/
def pathFault? (hasScheme hasAuthority : Bool) (path : Text) : Option UrlFault :=
  if hasAuthority then
    if path.isEmpty || path.head? == some '/' then none else some .looseWithHost
  else if hasScheme then none
  else if ['/', '/'].isPrefixOf path then some .doubleSlash
  else if path.head? == some ':' then some .leadingColon
  else none

/-- The address of parts, with another host if one is given. -/
def ofParts (p : Parts) (otherHost : Option Text) : Except UrlFault Url := do
  let (user, host, port) := splitHost p.authority
  let scheme := lowercase p.scheme
  let user := quote inUser user
  let host ← normalHost (otherHost.getD host)
  let port ← normalPort p.scheme port
  let hasScheme := !scheme.isEmpty
  let hasAuthority := !user.isEmpty || !host.isEmpty || port.isSome
  match pathFault? hasScheme hasAuthority p.path with
  | some e => .error e
  | none =>
      let path := if hasScheme || hasAuthority then normalPath p.path else p.path
      .ok ⟨scheme, user, host, port, quote inPath path, p.query.map (quote inQuery),
        p.fragment.map (quote inFragment)⟩

/-- Whether a character is a control character of ASCII. -/
def isControl (c : Char) : Bool := c.toNat < 0x20 || c.toNat == 0x7F

/-- The greatest length of the text of an address. -/
def lengthLimit : Nat := 65536

/-- What is wrong with the characters of a text, if anything. -/
def textFault? (t : Text) : Option UrlFault :=
  if lengthLimit < t.length then some .tooLong
  else (t.find? isControl).map fun c => .control c (t.findIdx isControl)

/-- The address that a text writes. -/
def parse (t : Text) : Except UrlFault Url :=
  match textFault? t with
  | some e => .error e
  | none => ofParts (.ofText t) none

/-- The parts of an address. -/
def parts (u : Url) : Parts := ⟨u.scheme, u.authority, u.path, u.query, u.fragment⟩

/-- The host as it stands in an authority. -/
def bracketed (host : Text) : Text := if host.contains ':' then '[' :: host ++ [']'] else host

/-- An address with another host. -/
def withHost (u : Url) (host : Text) : Except UrlFault Url :=
  ofParts u.parts (some (bracketed host))

/-- An address with another fragment.  Its parts are brought into form once more. -/
def withFragment (u : Url) (fragment : Text) : Except UrlFault Url :=
  match textFault? fragment with
  | some e => .error e
  | none => ofParts { u.parts with fragment := some fragment } none

/-- The address of the same path and query on no host: what is asked of a client
that has no host of its own. -/
def withoutHost (u : Url) : Url :=
  let (path, query) := splitMark '?' (u.target.dropWhile (· == '/'))
  ⟨[], [], [], none, '/' :: path, query, none⟩

example : (parse "HTTP://User@Host:8/a/../b c?q#f").toOption.map text =
    some ("http://User@host:8/b%20c?q#f" : Text) := by decide +kernel
example : (parse "https://h:443/x").toOption.map text = some ("https://h/x" : Text) := by
  decide +kernel

end Url

end CommitCheck
