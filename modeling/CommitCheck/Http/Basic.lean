import CommitCheck.Text.Basic

/-!
# Requests and answers

What is asked of a server, what it answers, and what can go wrong on the way.
A network is a function from the address asked to the answer, so that nothing
but the address decides it.
-/

namespace CommitCheck.Http

/-- What can go wrong with a request. -/
inductive Trouble where
  /-- No connection in time. -/
  | connectTimeout
  /-- Nothing read in time. -/
  | readTimeout
  /-- Nothing written in time. -/
  | writeTimeout
  /-- No free connection in time. -/
  | poolTimeout
  /-- Some other limit of time. -/
  | timeout
  /-- No connection. -/
  | connect
  /-- The connection could not be read. -/
  | read
  /-- The connection could not be written. -/
  | write
  /-- The connection could not be closed. -/
  | close
  /-- Some other fault of the network. -/
  | network
  /-- No connection through a proxy. -/
  | proxy
  /-- The scheme of the address is not known. -/
  | unsupportedProtocol
  /-- The request breaks the protocol. -/
  | localProtocol
  /-- The answer breaks the protocol. -/
  | remoteProtocol
  /-- Some other breach of the protocol. -/
  | protocol
  /-- Some other failure of the transport. -/
  | transport
  /-- The body of the answer cannot be decoded. -/
  | decoding
  /-- The answers lead on and on. -/
  | tooManyRedirects
  /-- Some other failure of a request. -/
  | request
  /-- The address cannot be read. -/
  | invalidUrl
deriving DecidableEq, Inhabited

namespace Trouble

/-- The name of a trouble. -/
def name : Trouble → Text
  | connectTimeout => "ConnectTimeout"
  | readTimeout => "ReadTimeout"
  | writeTimeout => "WriteTimeout"
  | poolTimeout => "PoolTimeout"
  | timeout => "TimeoutException"
  | connect => "ConnectError"
  | read => "ReadError"
  | write => "WriteError"
  | close => "CloseError"
  | network => "NetworkError"
  | proxy => "ProxyError"
  | unsupportedProtocol => "UnsupportedProtocol"
  | localProtocol => "LocalProtocolError"
  | remoteProtocol => "RemoteProtocolError"
  | protocol => "ProtocolError"
  | transport => "TransportError"
  | decoding => "DecodingError"
  | tooManyRedirects => "TooManyRedirects"
  | request => "RequestError"
  | invalidUrl => "InvalidURL"

/-- Every trouble. -/
def all : List Trouble := [connectTimeout, readTimeout, writeTimeout, poolTimeout, timeout, connect,
  read, write, close, network, proxy, unsupportedProtocol, localProtocol, remoteProtocol, protocol,
  transport, decoding, tooManyRedirects, request, invalidUrl]

/-- The trouble of a name. -/
def ofName? (t : Text) : Option Trouble := all.find? (·.name == t)

/-- Whether the server could not be reached, as against an answer that is of no use. -/
def isTransport : Trouble → Bool
  | decoding | tooManyRedirects | request | invalidUrl => false
  | _ => true

end Trouble

/-- A request. -/
structure Request where
  /-- The address. -/
  url : Text
  /-- The credential, if one is sent. -/
  authorization : Option Text
  /-- The kinds of answer that are accepted. -/
  accept : Text
  /-- The seconds to wait, as they are written. -/
  timeout : Text
deriving DecidableEq

/-- Whether a text can stand in the head of a request, which is in ASCII. -/
def isHeadText (t : Text) : Bool := t.all (·.toNat < 0x80)

/-- What comes of a request. -/
inductive Answer where
  /-- An answer with a status, the address it leads on to if any, and a body.  The address is the
  text that a client reads in the head, which can have characters outside ASCII. -/
  | received (status : Nat) (location : Option Text) (body : Text)
  /-- No answer, for a reason that has a name. -/
  | failure (trouble : Trouble) (message : Text)
  /-- No answer, because its head could not be put into bytes. -/
  | unencodable
deriving DecidableEq

/-- The answer of a stand-in for a server, which makes the head of texts and so has to put them
into bytes. -/
def Answer.response (status : Nat) (location : Option Text) (body : Text) : Answer :=
  if location.all isHeadText then .received status location body else .unencodable

/-- The answer for every address. -/
abbrev Network := Text → Answer

end CommitCheck.Http
