import CommitCheck.Run.Basic
import CommitCheck.Text.Basic
import CommitCheck.Url.Join

/-!
# Asking a server

A request goes to an address and brings a response or fails.  If the response
leads on to another address, the client can follow it, at most twenty times.  A
credential goes along only to the same scheme, host and port, or from `http` to
`https` on one host and the usual ports.  An address that names a user brings a
credential of its own, in base 64: three bytes as four letters, digits and signs,
filled up with equals signs.

`follow` recurses on the number of steps that are left.
-/

namespace CommitCheck

/-! ## Base 64 -/

namespace Base64

/-- The characters of base 64 by their value. -/
def alphabet : Text := "ABCDEFGHIJKLMNOPQRSTUVWXYZabcdefghijklmnopqrstuvwxyz0123456789+/"

/-- The character of a value. -/
def letter (n : Nat) : Char := alphabet.getD n '='

/-- Bytes in base 64. -/
def encode : List Nat → Text
  | a :: b :: c :: bs =>
      letter (a / 4) :: letter (a % 4 * 16 + b / 16) :: letter (b % 16 * 4 + c / 64) ::
        letter (c % 64) :: encode bs
  | [a, b] => [letter (a / 4), letter (a % 4 * 16 + b / 16), letter (b % 16 * 4), '=']
  | [a] => [letter (a / 4), letter (a % 4 * 16), '=', '=']
  | [] => []

example : encode [117, 115, 101, 114, 58] = "dXNlcjo=" := by decide

end Base64

/-! ## Requests and responses -/

namespace Http

/-- What a request says beside its address. -/
structure Headers where
  /-- The credential, if one is sent. -/
  authorization : Option Text
  /-- The kinds of answer that are accepted. -/
  accept : Text
  /-- The seconds to wait, as they are written. -/
  timeout : Text

/-- An answer with a status. -/
structure Response where
  /-- The status. -/
  status : Nat
  /-- The address that it leads on to, if it says so. -/
  location : Option Text
  /-- The body. -/
  body : Text

/-- Whether a status says that all went well. -/
def isSuccess (status : Nat) : Bool := 200 ≤ status && status ≤ 299

/-- Whether a status leads on to another address. -/
def isRedirect (status : Nat) : Bool :=
  status == 301 || status == 302 || status == 303 || status == 307 || status == 308

/-- The address that a response leads on to, if it does. -/
def Response.next? (r : Response) : Option Text := if isRedirect r.status then r.location else none

/-! ## One request -/

/-- Whether a client can ask an address of this scheme. -/
def isWebScheme (scheme : Text) : Bool := scheme == "http".toList || scheme == "https".toList

/-- The request of an address. -/
def Headers.request (h : Headers) (u : Url) : Request :=
  ⟨u.text, h.authorization, h.accept, h.timeout⟩

/-- What comes of a request to an address. -/
def reply (network : Network) (u : Url) : Except Failure Response :=
  if !isWebScheme u.scheme then .error (.requestFailed .unsupportedProtocol "unsupported URL")
  else match network u.text with
    | .received status location body => .ok ⟨status, location, body⟩
    | .failure trouble message => .error (.requestFailed trouble message)
    | .unencodable => .error .unencodable

/-- A request is sent. -/
def send (network : Network) (h : Headers) (u : Url) : Run Response := do
  Run.record (.requested (h.request u))
  Run.ofExcept (reply network u)

/-! ## Where a response leads -/

/-- A fault of an address as a failure. -/
def invalid (e : UrlFault) : Failure :=
  match e with
  | .badBrackets => .badValue
  | e => .requestFailed .invalidUrl e.message

/-- A reading of an address as a result. -/
def orInvalid {α : Type} : Except UrlFault α → Except Failure α
  | .ok a => .ok a
  | .error e => .error (invalid e)

/-- The host that an address means, as a result. -/
def hostOf (u : Url) : Except Failure Text :=
  match u.hostName with
  | .ok name => .ok name
  | .error e => .error (.unreadableName e)

/-- Whether an address says by itself what it is the address of. -/
def isWhole (u : Url) : Except Failure Bool :=
  if u.scheme.isEmpty then .ok false else (hostOf u).map (!List.isEmpty ·)

/-- The address that a location names, seen from another address. -/
def resolve (base : Url) (location : Url) : Except Failure Url := do
  let whole ← isWhole location
  let u ← if location.scheme.isEmpty || whole then .ok location
    else do
      let name ← hostOf base
      orInvalid (location.withHost name)
  let whole ← isWhole u
  let u ← if whole then .ok u else orInvalid (base.join u)
  let fragment := base.fragment.getD []
  if !fragment.isEmpty && (u.fragment.getD []).isEmpty then
    orInvalid (u.withFragment (Url.unquote fragment))
  else .ok u

/-- An address, unless it cannot be asked: its host has to be readable and in
ASCII. -/
def askable (u : Url) : Except Failure Url := do
  let _ ← hostOf u
  if isHeadText u.host then .ok u else .error .unencodable

/-- The address that the text of a location names. -/
def target (base : Url) (location : Text) : Except Failure Url :=
  match Url.parse location with
  | .ok u => (resolve base u).bind askable
  | .error e => .error (.requestFailed .remoteProtocol
      ("Invalid URL in location header: ".toList ++ e.message ++ ['.']))

/-- The port that is meant where none is written. -/
def portOf (u : Url) : Option Int :=
  match u.port with
  | some p => some p
  | none => if isWebScheme u.scheme then Url.usualPort? u.scheme else none

/-- Whether two addresses have scheme, host and port in common. -/
def sameOrigin (a b : Url) : Bool :=
  a.scheme == b.scheme && a.host == b.host && portOf a == portOf b

/-- Whether a step goes from `http` to `https` on one host and the usual ports. -/
def isUpgrade (a b : Url) : Bool :=
  a.host == b.host && a.scheme == "http".toList && portOf a == some 80 &&
    b.scheme == "https".toList && portOf b == some 443

/-- What the request after a step says. -/
def Headers.after (h : Headers) (a b : Url) : Headers :=
  if sameOrigin a b || isUpgrade a b then h else { h with authorization := none }

/-- The failure of a client that has followed too many steps. -/
def endless : Failure := .requestFailed .tooManyRedirects "Exceeded maximum allowed redirects."

/-- A request is sent, and its response followed for so many steps. -/
def follow (network : Network) : Nat → Headers → Url → Run Response
  | 0, h, u => do
      let r ← send network h u
      match r.next? with
      | none => pure r
      | some location => do
          let _ ← Run.ofExcept (target u location)
          Run.fail endless
  | steps + 1, h, u => do
      let r ← send network h u
      match r.next? with
      | none => pure r
      | some location => do
          let next ← Run.ofExcept (target u location)
          follow network steps (h.after u next) next

/-- The most steps that are followed. -/
def stepLimit : Nat := 20

/-! ## The first request -/

/-- The credential of the user that an address names, if it names one. -/
def userCredential? (u : Url) : Option Text :=
  let (name, password) := Url.splitMark ':' u.user
  let name := Url.unquote name
  let password := Url.unquote (password.getD [])
  if name.isEmpty && password.isEmpty then none
  else some ("Basic ".toList ++
    Base64.encode (textBytes name ++ ':'.toNat :: textBytes password))

/-- The address of the first request. -/
def start (address : Text) : Except Failure Url := do
  let u ← orInvalid (Url.parse address)
  let whole ← isWhole u
  if whole then askable u else .ok u.withoutHost

/-- What the first request says. -/
def Headers.first (h : Headers) (u : Url) : Headers :=
  match userCredential? u with
  | none => h
  | some c => { h with authorization := some c }

/-- An address is asked, and the response followed if it leads on. -/
def get (network : Network) (h : Headers) (address : Text) : Run Response := do
  let u ← Run.ofExcept (start address)
  if h.authorization.all isHeadText then follow network stepLimit (h.first u) u
  else Run.fail .unencodable

/-- An address is asked, and the response not followed.  Where it leads on, it
still has to name an address. -/
def getOnce (network : Network) (h : Headers) (address : Text) : Run Response := do
  let u ← Run.ofExcept (start address)
  if h.authorization.all isHeadText then do
    let r ← send network (h.first u) u
    match r.next? with
    | none => pure r
    | some location => do
        let _ ← Run.ofExcept (target u location)
        pure r
  else Run.fail .unencodable

end Http

end CommitCheck
