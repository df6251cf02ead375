import CommitCheck.Url.Basic

/-!
# Resolving addresses

An address that leaves parts out is completed from the address it was found at.
A path that does not start with a slash replaces the last segment of the other
path, and segments of full stops step up from there.  An empty address is the
address it was found at.
-/

namespace CommitCheck.Url

/-- The parts of a text for resolving: what follows a semicolon in the last
segment of the path, the parameters, stands apart. -/
structure Pieces where
  /-- The scheme. -/
  scheme : Text
  /-- User, host and port. -/
  authority : Text
  /-- The path. -/
  path : Text
  /-- The parameters. -/
  parameters : Text
  /-- The query, empty if there is none. -/
  query : Text
  /-- The fragment, empty if there is none. -/
  fragment : Text

/-- The path and its parameters. -/
def splitParameters (path : Text) : Text × Text :=
  let last := (path.reverse.takeWhile (· != '/')).reverse
  match cutAt? ';' last with
  | none => (path, [])
  | some (a, b) => (path.take (path.length - last.length) ++ a, b)

/-- The pieces of a text, with a scheme for where there is none. -/
def Pieces.ofText (scheme t : Text) : Pieces :=
  let (found, rest) := splitScheme t
  let (authority, rest) := splitAuthority (if found.isEmpty then t else rest)
  let (rest, fragment) := splitMark '#' rest
  let (path, query) := splitMark '?' rest
  let (path, parameters) := splitParameters path
  ⟨if found.isEmpty then scheme else lowercase found, authority, path, parameters, query.getD [],
    fragment.getD []⟩

/-- A piece after its mark, unless it is empty. -/
def piece (mark : Char) (t : Text) : Text := if t.isEmpty then [] else mark :: t

/-- The text of pieces. -/
def Pieces.text (p : Pieces) : Text :=
  let path := p.path ++ piece ';' p.parameters
  let rooted := if path.isEmpty || path.head? == some '/' then path else '/' :: path
  let place := if p.authority.isEmpty then path else '/' :: '/' :: p.authority ++ rooted
  (if p.scheme.isEmpty then [] else p.scheme ++ [':']) ++ place ++ piece '?' p.query ++
    piece '#' p.fragment

/-- Segments in which those of full stops have been followed. -/
def followDots (segments : List Text) : List Text :=
  segments.foldl (fun kept s =>
    if s = ['.', '.'] then kept.dropLast else if s = ['.'] then kept else kept ++ [s]) []

/-- Whether a segment stands for a folder. -/
def isDots (s : Text) : Bool := s == ['.'] || s == ['.', '.']

/-- The list without empty texts, its first and last items apart. -/
def tidyMiddle (segments : List Text) : List Text :=
  match segments with
  | [] => []
  | s :: rest => match rest.getLast? with
      | none => [s]
      | some l => s :: rest.dropLast.filter (!List.isEmpty ·) ++ [l]

/-- The segments of a path completed from those of another one. -/
def joinSegments (base path : Text) : List Text :=
  if path.head? == some '/' then splitAt '/' path
  else
    let parts := splitAt '/' base
    let parts := if parts.getLast? == some [] then parts else parts.dropLast
    tidyMiddle (parts ++ splitAt '/' path)

/-- A path completed from another one. -/
def joinPath (base path : Text) : Text :=
  let segments := joinSegments base path
  let kept := followDots segments
  let kept := if (segments.getLast?.map isDots).getD false then kept ++ [[]] else kept
  match joinWith ['/'] kept with
  | [] => ['/']
  | p => p

/-- Whether what stands in brackets may stand there: a number of eight groups, or a
number of a kind to come. -/
def isBracketed (host : Text) : Bool :=
  match host with
  | 'v' :: rest =>
      let kind := rest.takeWhile fun c => (hexValue? c).isSome
      match rest.drop kind.length with
      | '.' :: _ :: _ => !kind.isEmpty
      | _ => false
  | _ => isEightGroups host

/-- Whether the brackets of an authority hold its host and nothing else. -/
def bracketsFit (authority : Text) : Bool :=
  if authority.contains '[' != authority.contains ']' then false
  else if !authority.contains '[' then true
  else
    let place := (authority.reverse.takeWhile (· != '@')).reverse
    match cutAt? '[' place with
    | none => isBracketed (place.takeWhile (· != ':'))
    | some (before, rest) =>
        let (host, behind) := (cutAt? ']' rest).getD (rest, [])
        before.isEmpty && (behind.isEmpty || behind.head? == some ':') && isBracketed host

/-- A text completed from another one. -/
def joinText (base ref : Text) : Text :=
  if base.isEmpty then ref
  else if ref.isEmpty then base
  else
    let b := Pieces.ofText [] base
    let r := Pieces.ofText b.scheme ref
    if r.scheme != b.scheme then ref
    else if !r.authority.isEmpty then r.text
    else if r.path.isEmpty && r.parameters.isEmpty then
      Pieces.text { r with
        authority := b.authority
        path := b.path
        parameters := b.parameters
        query := if r.query.isEmpty then b.query else r.query }
    else Pieces.text { r with authority := b.authority, path := joinPath b.path r.path }

/-- An address completed from another one. -/
def join (base ref : Url) : Except UrlFault Url :=
  if bracketsFit (Pieces.ofText [] ref.text).authority then parse (joinText base.text ref.text)
  else .error .badBrackets

example : joinText "http://h/a/b?q" "../c" = "http://h/c" := by decide +kernel
example : joinText "http://h/a/b?q" "#f" = "http://h/a/b?q#f" := by decide +kernel
example : joinText "http://h/a/b" "//o/x" = "http://o/x" := by decide +kernel

end CommitCheck.Url
